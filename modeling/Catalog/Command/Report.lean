import Catalog.Json.Printer
import Catalog.Store.Error

/-!
What a command prints. As JSON the report is printed whole; as text it is the command's own
rendering, or the message of its error.
-/

namespace Catalog.Command

inductive Format
  | text
  | json
  deriving DecidableEq, Repr

/-- What goes to the two output streams. -/
structure Output where
  stdout : String
  stderr : String
  deriving DecidableEq, Repr

inductive Outcome
  | result (value : Json)
  | failed (code : Store.Code) (message : String)

structure Report where
  command : String
  outcome : Outcome

namespace Report

def toJson (r : Report) : Json :=
  .object [("command", .string r.command),
    match r.outcome with
    | .result value => ("result", value)
    | .failed code message =>
      ("error", .object [("code", .string code.word), ("message", .string message)])]

/-- The output of a report; `text` is the rendering of its result. -/
def emit (r : Report) (format : Format) (text : String) : Output :=
  match format, r.outcome with
  | .json, _ => ⟨r.toJson.pretty 0 ++ "\n", ""⟩
  | .text, .failed _ message => ⟨"", r.command ++ ": " ++ message ++ "\n"⟩
  | .text, .result _ => ⟨text ++ "\n", ""⟩

end Report

end Catalog.Command
