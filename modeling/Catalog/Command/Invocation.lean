/-!
Command lines. Commands stand in groups; each group and each command has options, and two options
are taken everywhere. What follows a double hyphen is no option.

The value of an option may follow as an argument of its own. It is looked at when the next option
or operand comes, or at the end.
-/

namespace Catalog.Command

inductive Action
  | schemaInit
  | schemaPrint
  | keyGenerate
  | keyCheck (key : String)
  | filterCompile (filter : String) (projects : Bool)
  deriving DecidableEq, Repr

structure Invocation where
  action : Action
  json : Bool
  config : Option String
  deriving DecidableEq, Repr

/-- Why a command line runs no command. -/
inductive UsageError
  | argumentConflict
  | displayHelp
  | displayVersion
  | helpOnMissingSubcommand
  | invalidSubcommand
  | invalidValue
  | missingRequiredArgument
  | missingSubcommand
  | tooManyValues
  | unknownArgument
  deriving DecidableEq, Repr

/-- The commands without their arguments. -/
inductive Leaf
  | schemaInit
  | schemaPrint
  | keyGenerate
  | keyCheck
  | filterCompile
  deriving DecidableEq, Repr

inductive Level
  | top
  | schema
  | key
  | filter
  | leaf (l : Leaf)
  deriving DecidableEq, Repr

namespace Level

/-- What a level branches into. -/
def branches : Level → List (String × Level)
  | top => [("schema", schema), ("key", key), ("filter", filter)]
  | schema => [("init", leaf .schemaInit), ("print", leaf .schemaPrint)]
  | key => [("generate", leaf .keyGenerate), ("check", leaf .keyCheck)]
  | filter => [("compile", leaf .filterCompile)]
  | leaf _ => []

def isGroup : Level → Bool
  | leaf _ => false
  | _ => true

/-- The level takes one operand. -/
def takesOperand : Level → Bool
  | leaf .keyCheck | leaf .filterCompile => true
  | _ => false

/-- The name is a branch of the level, or asks for help on one. -/
def hasBranch (l : Level) (name : String) : Bool :=
  l.isGroup && (name = "help" || (l.branches.lookup name).isSome)

end Level

/-! ### What a level has been given -/

structure Given where
  json : Bool
  projects : Bool
  config : Option String
  /-- The option for a configuration, with its value if that has come. -/
  pending : Option (Option String)
  operand : Option String
  /-- Behind a double hyphen. -/
  trailing : Bool

namespace Given

def nothing : Given := ⟨false, false, none, none, none, false⟩

/-- An option still waits for its value. -/
def isWaiting (g : Given) : Bool := g.pending = some none

/-- Takes the value of the option for a configuration. -/
def setConfig (g : Given) (path : String) : Except UsageError Given :=
  if g.config.isSome then .error .argumentConflict
  else if path = "" then .error .invalidValue
  else .ok { g with config := some path, pending := none }

/-- Settles the option that is pending. -/
def settle (g : Given) : Except UsageError Given :=
  match g.pending with
  | none => .ok g
  | some none => .error .invalidValue
  | some (some path) => g.setConfig path

/-- Takes the option of a long name, with the value that is attached to it. -/
def long (g : Given) (level : Level) (name : String) (value : Option String) :
    Except UsageError Given := do
  let known :=
    name ∈ ["json", "help", "config"] || (name = "projects" && level = .leaf .filterCompile)
    || (name = "version" && level = .top)
  if !known then throw .unknownArgument
  if value.isSome && name ≠ "config" then throw .tooManyValues
  let g ← g.settle
  match name, value with
  | "config", some path => g.setConfig path
  | "config", none => return { g with pending := some none }
  | "json", _ => if g.json then throw .argumentConflict else return { g with json := true }
  | "projects", _ =>
    if g.projects then throw .argumentConflict else return { g with projects := true }
  | "help", _ => throw .displayHelp
  | _, _ => throw .displayVersion

/-- Takes options of one letter. -/
def short (g : Given) (level : Level) (letter : Char) : Except UsageError Given := do
  if letter = 'h' then
    discard g.settle
    throw .displayHelp
  else if letter = 'V' && level = .top then
    discard g.settle
    throw .displayVersion
  else throw .unknownArgument

/-- Takes an operand. -/
def addOperand (g : Given) (level : Level) (value : String) : Except UsageError Given := do
  if level.takesOperand && g.operand.isNone then
    let g ← g.settle
    return { g with operand := some value }
  else if level.isGroup && !(g.trailing && level.hasBranch value) then throw .invalidSubcommand
  else throw .unknownArgument

/-- The action of a command with its arguments. -/
def action? (g : Given) : Leaf → Option Action
  | .schemaInit => some .schemaInit
  | .schemaPrint => some .schemaPrint
  | .keyGenerate => some .keyGenerate
  | .keyCheck => g.operand.map .keyCheck
  | .filterCompile => g.operand.map (.filterCompile · g.projects)

/-- What a level makes of itself at the end of the arguments. -/
def finish (g : Given) (level : Level) : Except UsageError Invocation := do
  let g ← g.settle
  match level with
  | .leaf l =>
    match g.action? l with
    | some action => return ⟨action, g.json, g.config⟩
    | none => throw .missingRequiredArgument
  | _ => throw (if !g.json && g.config.isNone then .helpOnMissingSubcommand else .missingSubcommand)

/-- The invocation of a branch with the options that stand before the branch. -/
def around (g : Given) (inner : Except UsageError Invocation) : Except UsageError Invocation := do
  let i ← inner
  let g ← g.settle
  return { i with json := i.json || g.json, config := i.config.or g.config }

end Given

/-! ### Reading -/

/-- Help on the branch that the names lead to. -/
def helpOn (level : Level) : List String → UsageError
  | [] => .displayHelp
  | name :: names =>
    match level.branches.lookup name with
    | some inner => helpOn inner names
    | none => if level.hasBranch name && names.isEmpty then .displayHelp else .invalidSubcommand

/-- A long option with the value attached to it. -/
def splitLong (cs : List Char) : String × Option String :=
  let name := String.ofList (cs.takeWhile (· ≠ '='))
  match cs.dropWhile (· ≠ '=') with
  | [] => (name, none)
  | _ :: value => (name, some (String.ofList value))

/-- Reads the arguments that are left to a level. -/
def readLevel (level : Level) (g : Given) : List String → Except UsageError Invocation
  | [] => g.finish level
  | a :: rest =>
    if g.trailing then
      match g.addOperand level a with
      | .ok g => readLevel level g rest
      | .error e => .error e
    else if !g.isWaiting && level.isGroup && a = "help" then .error (helpOn level rest)
    else
      match (if g.isWaiting then none else level.branches.lookup a), a.toList with
      | some inner, _ => g.around (readLevel inner .nothing rest)
      | none, ['-', '-'] => readLevel level { g with trailing := true } rest
      | none, '-' :: '-' :: cs =>
        let (name, value) := splitLong cs
        match g.long level name value with
        | .ok g => readLevel level g rest
        | .error e => .error e
      | none, '-' :: letter :: _ =>
        match g.short level letter with
        | .ok g => readLevel level g rest
        | .error e => .error e
      | none, _ =>
        if g.isWaiting then readLevel level { g with pending := some (some a) } rest
        else
          match g.addOperand level a with
          | .ok g => readLevel level g rest
          | .error e => .error e

/-- The invocation that the arguments of a command line spell. -/
def Invocation.read (args : List String) : Except UsageError Invocation :=
  readLevel .top .nothing args

end Catalog.Command
