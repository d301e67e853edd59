import Catalog.Command.Invocation
import Catalog.Command.Report
import Catalog.Config.Source
import Catalog.Store.Connect

/-!
What the commands do.
-/

namespace Catalog.Command

open Store

/-- What a command finds around it. -/
structure Surroundings where
  /-- The text of a file, if it can be read. -/
  file : String → Option String
  env : Config.Environment
  /-- The configuration for when no file is named. -/
  config : Config
  server : Server
  /-- A random key. -/
  freshKey : Paging.Key

/-- Why a command failed. -/
inductive Failure
  | init (e : InitError)
  /-- The command's report says what went wrong. -/
  | reported (message : String)

structure Result where
  output : Output
  failure : Option Failure

def succeed (format : Format) (command : String) (value : Json) (text : String) : Result :=
  ⟨(Report.mk command (.result value)).emit format text, none⟩

def fail (format : Format) (command message : String) : Result :=
  ⟨(Report.mk command (.failed .invalidArgument message)).emit format "",
    some (.reported message)⟩

/-- The configuration in a file, overridden by the environment; without a file, the one at hand. -/
def loadConfig (s : Surroundings) : Option String → Except InitError Config
  | none => .ok s.config
  | some path =>
    match s.file path with
    | none => .error (.invalidConfig .malformed)
    | some text => ((Config.ofYaml text).mapError .invalidConfig).map (·.overriddenBy s.env)

/-- Makes the tables. -/
def initSchema (s : Surroundings) (path : Option String) (format : Format) : Result :=
  match loadConfig s path >>= connect s.freshKey s.env s.server with
  | .error e => ⟨⟨"", ""⟩, some (.init e)⟩
  | .ok _ =>
    succeed format "schema init" (.object [("statements", .int schema.length)])
      "Schema is up to date"

def printSchema (format : Format) : Result :=
  succeed format "schema print" (.object [("statements", .array (schema.map .string))])
    ("\n".intercalate (schema.map (· ++ ";\n")))

def showKey (format : Format) (command : String) (k : Paging.Key) : Result :=
  succeed format command (.object [("key", .string k.encode)]) k.encode

def checkKey (format : Format) (text : String) : Result :=
  match Paging.Key.parse text with
  | .ok k => showKey format "key check" k
  | .error e => fail format "key check" e.message

def compileFilter (format : Format) (filter : String) (projects : Bool) : Result :=
  let anchor := if projects then Filter.projectAnchor else Filter.payloadAnchor
  match Filter.compile anchor filter with
  | .ok sql =>
    succeed format "filter compile" (.object [("anchor", .string anchor), ("sql", .string sql)]) sql
  | .error e => fail format "filter compile" e.message

def run (s : Surroundings) (i : Invocation) : Result :=
  let format := if i.json then .json else .text
  match i.action with
  | .schemaInit => initSchema s i.config format
  | .schemaPrint => printSchema format
  | .keyGenerate => showKey format "key generate" s.freshKey
  | .keyCheck text => checkKey format text
  | .filterCompile filter projects => compileFilter format filter projects

end Catalog.Command
