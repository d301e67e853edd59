import Catalog.Config
import Catalog.Json.Decode
import Catalog.Text.Integer
import Catalog.Yaml.Node

/-!
Configurations read from JSON or YAML. The fields and their defaults are the same; the two
formats differ in what spells a text, a number or nothing at all.
-/

namespace Catalog.Config

open Catalog.Text

/-- How the values of a format are read. -/
structure Source (α : Type) where
  text? : α → Option String
  bool? : α → Option Bool
  int? : Int → Int → α → Option Int
  /-- The value stands for nothing. -/
  isNull : α → Bool
  items? : α → Option (List α)
  /-- The fields of a record, by their declared names. -/
  fields? : List String → α → Option (List (Option α))

namespace Source

variable {α : Type} (s : Source α)

def nat? (max : Nat) (v : α) : Option Nat := (s.int? 0 max v).map Int.toNat

def texts? (v : α) : Option (List String) := (s.items? v).bind fun vs => vs.mapM s.text?

def nullable? {β : Type} (inner : α → Option β) (v : α) : Option (Option β) :=
  if s.isNull v then some none else (inner v).map some

/-- A field that may be left out. -/
def field {β : Type} (default : β) (read : α → Option β) (v : Option α) : Option β :=
  v.elim (some default) read

def pool? (v : α) : Option Pool := do
  let d : Pool := {}
  match ← s.fields? ["max_connections", "connect_timeout_secs"] v with
  | [connections, timeout] =>
    return ⟨← field d.maxConnections (s.nat? (maxUnsigned 32)) connections,
      ← field d.connectTimeout (s.nat? (maxUnsigned 64)) timeout⟩
  | _ => none

def filtering? (v : α) : Option Filtering := do
  let d : Filtering := {}
  match ← s.fields? ["strict", "debug_logging"] v with
  | [strict, logging] =>
    return ⟨← field d.strict s.bool? strict, ← field d.debugLogging s.bool? logging⟩
  | _ => none

/-- A page size, a number of 32 bits. -/
def size? : α → Option Int := s.int? (-Int.pow 2 31) (Int.pow 2 31 - 1)

def pagination? (v : α) : Option Pagination := do
  let d : Pagination := {}
  match ← s.fields? ["default_page_size", "max_page_size", "snapshot_listing"] v with
  | [default, max, snapshot] =>
    return ⟨← field d.defaultPageSize s.size? default, ← field d.maxPageSize s.size? max,
      ← field d.snapshotListing s.bool? snapshot⟩
  | _ => none

def config? (v : α) : Option Config := do
  let d : Config := {}
  match ← s.fields? ["host", "port", "db_name", "user", "password", "ssl_mode", "ssl_root_cert",
    "pagination_key", "previous_pagination_keys", "pool", "filter", "pagination"] v with
  | [host, port, database, user, password, sslMode, cert, key, previous, pool, filter,
      pagination] =>
    return {
      host := ← field d.host s.text? host
      port := ← field d.port (s.nullable? (s.nat? maxPort)) port
      database := ← field d.database s.text? database
      user := ← field d.user s.text? user
      password := ← field d.password s.text? password
      sslMode := ← field d.sslMode s.text? sslMode
      sslRootCert := ← field d.sslRootCert (s.nullable? s.text?) cert
      paginationKey := ← field d.paginationKey (s.nullable? s.text?) key
      previousKeys := ← field d.previousKeys s.texts? previous
      pool := ← field d.pool s.pool? pool
      filtering := ← field d.filtering s.filtering? filter
      pagination := ← field d.pagination s.pagination? pagination }
  | _ => none

end Source

/-! ### JSON -/

open Json in
def json : Source Shape where
  text? := Shape.text?
  bool? := Shape.bool?
  int? := Shape.int?
  isNull
    | .null => true
    | _ => false
  items? := Shape.list? some
  fields? := Shape.fields?

/-! ### YAML -/

namespace Scalar

def bool? (s : String) : Option Bool :=
  if s ∈ ["true", "True", "TRUE"] then some true
  else if s ∈ ["false", "False", "FALSE"] then some false
  else none

def isNull (s : String) : Bool := s ∈ ["", "~", "null", "Null", "NULL"]

/-- The digits of a base, after the mark that names it. -/
def digits? (base : Nat) (cs : List Char) : Option Nat :=
  let value (c : Char) : Nat :=
    if c.isDigit then c.toNat - '0'.toNat
    else if 'a' ≤ c ∧ c ≤ 'f' then c.toNat - 'a'.toNat + 10
    else if 'A' ≤ c ∧ c ≤ 'F' then c.toNat - 'A'.toNat + 10
    else base
  if cs ≠ [] ∧ cs.all (value · < base) then some (cs.foldl (fun n c => n * base + value c) 0)
  else none

/-- A number without its sign: decimal without leading zeros, or after `0x`, `0o` or `0b`. -/
def magnitude? : List Char → Option Nat
  | '0' :: 'x' :: cs => digits? 16 cs
  | '0' :: 'o' :: cs => digits? 8 cs
  | '0' :: 'b' :: cs => digits? 2 cs
  | '0' :: _ :: _ => none
  | cs => digits? 10 cs

def int? (s : String) : Option Int :=
  match s.toList with
  | '-' :: cs => (magnitude? cs).map fun n => -(n : Int)
  | '+' :: cs => (magnitude? cs).map Int.ofNat
  | cs => (magnitude? cs).map Int.ofNat

end Scalar

open Yaml in
/-- The members of a mapping by name. -/
def named? (members : List (Node × Node)) : Option (List (String × Node)) :=
  members.mapM fun (k, v) =>
    match k with
    | .scalar _ name => some (name, v)
    | _ => none

open Yaml in
/-- The member of a name; two are one too many. -/
def single? (members : List (String × Node)) (name : String) : Option (Option Node) :=
  match members.filter (·.1 == name) with
  | [] => some none
  | [m] => some (some m.2)
  | _ => none

open Yaml in
/-- Any scalar is a text; only a plain one is a truth value, a number or nothing. A place left
empty stands for an empty list or an empty record too. -/
def yaml : Source Node where
  text?
    | .scalar _ s => some s
    | _ => none
  bool?
    | .scalar true s => Scalar.bool? s
    | _ => none
  int? min max
    | .scalar true s =>
      -- Where no number is negative there is no minus sign either.
      if 0 ≤ min && s.toList.head? = some '-' then none
      else (Scalar.int? s).filter fun i => min ≤ i && i ≤ max
    | _ => none
  isNull
    | .scalar true s => Scalar.isNull s
    | _ => false
  items?
    | .list vs => some vs
    | .scalar true "" => some []
    | _ => none
  fields? names
    | .map members => do
      let ms ← named? members
      names.mapM (single? ms)
    | .scalar true "" => some (names.map fun _ => none)
    | _ => none

/-- The configuration in a JSON text. -/
def ofJson? (text : String) : Option Config := (Json.read? text).bind json.config?

/-- The configuration in a YAML text. -/
def ofYaml (text : String) : Except Fault Config :=
  match (Yaml.Node.read? text).bind yaml.config? with
  | some c => .ok c
  | none => .error .malformed

end Catalog.Config
