import Catalog.Filter.Token

/-!
Why a filter is refused: a fault in its text, at a byte offset, or in its meaning.
-/

namespace Catalog.Filter

open Catalog.Number Catalog.Text

/-- The largest number of operators in one filter. -/
def maxOperators : Nat := 256

/-- The largest number of brackets open at one place. -/
def maxNesting : Nat := 32

inductive SyntaxFault
  | loneExclamation
  | unexpectedChar (c : Char)
  | unterminatedString
  | invalidEscape (c : Char)
  | missingNumber
  | invalidUint (text : String)
  | invalidDouble (text : String)
  | invalidInt (text : String)
  | tooManyOperators
  | tooDeep
  | missingField
  | missingClose (bracket : Bracket)
  | unexpectedEnd
  | unexpectedToken (lexeme : Lexeme)
  deriving DecidableEq

def SyntaxFault.message : SyntaxFault → String
  | loneExclamation => "expected '=' after '!'"
  | unexpectedChar c => "unexpected character " ++ quoteChar c
  | unterminatedString => "unterminated string literal"
  | invalidEscape c => "invalid escape \\" ++ String.singleton c
  | missingNumber => "expected number"
  | invalidUint t => "invalid uint literal " ++ t ++ "u"
  | invalidDouble t => "invalid double literal " ++ t
  | invalidInt t => "invalid int literal " ++ t
  | tooManyOperators => "filter exceeds " ++ toString maxOperators ++ " operators"
  | tooDeep => "filter nests deeper than " ++ toString maxNesting ++ " levels"
  | missingField => "expected field name after '.'"
  | missingClose .paren => "expected ')'"
  | missingClose .square => "expected ']'"
  | unexpectedEnd => "unexpected end of filter"
  | unexpectedToken t => "unexpected token " ++ t.describe

inductive Error
  | parse (offset : Nat) (fault : SyntaxFault)
  | unsupportedFunction (name : String)
  | wrongArity (function : String) (count : Nat)
  | literalRequired (operand : Expr)
  | notAPath (e : Expr)
  | indexOutOfRange (index : UInt64)
  | unsupportedIndex (index : Expr)
  | notFinite (value : Double)
  | containsNul
  | notAPredicate (e : Expr)

def Error.message : Error → String
  | parse offset fault => "Parse error at offset " ++ toString offset ++ ": " ++ fault.message
  | unsupportedFunction name => "Unsupported function: " ++ name
  | wrongArity f n =>
    "Invalid operator data: " ++ f ++ " requires 2 arguments, got " ++ toString n
  | literalRequired e =>
    "Invalid operator data: has operator requires a literal argument, got " ++ e.display
  | notAPath e => "Invalid field selection: " ++ e.display
  | indexOutOfRange u => "Invalid field selection: index " ++ toString u.toNat ++ " out of range"
  | unsupportedIndex e => "Invalid field selection: unsupported index " ++ e.display
  | notFinite d => "Invalid constant: " ++ d.render .plain
  | containsNul => "Invalid constant: string contains NUL"
  | notAPredicate e => "Expression is not a predicate: " ++ e.display

end Catalog.Filter
