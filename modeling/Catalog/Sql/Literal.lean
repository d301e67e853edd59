/-!
Text values inside SQL: quoted literals, and patterns that look for a text as it stands.
-/

namespace Catalog.Sql

/-- The characters of a literal between its quotes: a quote is written twice. -/
def doubleQuotes (cs : List Char) : List Char :=
  cs.flatMap fun c => if c = '\'' then ['\'', '\''] else [c]

/-- A text as a literal. -/
def quoteLiteral (s : String) : String :=
  String.ofList ('\'' :: doubleQuotes s.toList ++ ['\''])

/-- The characters that stand for themselves in a pattern: its two wildcards and its escape are
escaped. -/
def escapePattern (cs : List Char) : List Char :=
  cs.flatMap fun c => if c = '\\' || c = '%' || c = '_' then ['\\', c] else [c]

/-- The pattern that matches the texts in which `s` occurs. -/
def containsPattern (s : String) : String :=
  String.ofList ('%' :: escapePattern s.toList ++ ['%'])

end Catalog.Sql
