/-!
The operators of conditions and their spelling.
-/

namespace Catalog.Sql

inductive Comparison
  | eq | ne | gt | ge | lt | le
  deriving DecidableEq, Repr

def Comparison.sql : Comparison → String
  | eq => "="
  | ne => "!="
  | gt => ">"
  | ge => ">="
  | lt => "<"
  | le => "<="

inductive Connective
  | and | or
  deriving DecidableEq, Repr

def Connective.sql : Connective → String
  | and => "AND"
  | or => "OR"

end Catalog.Sql
