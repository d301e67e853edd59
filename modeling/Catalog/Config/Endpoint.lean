import Catalog.Config.Environment

/-!
Where and how to connect. What the configuration leaves open comes from the environment of the
database driver.
-/

namespace Catalog.Config

open Catalog.Text

/-! ### Host and port -/

/-- A host with the port behind it, if `port` spells one. -/
def withPort (host : String) (address port : List Char) :
    Except Fault (String × Option Nat) :=
  match readUnsigned? maxPort (String.ofList port) with
  | some p => .ok (String.ofList address, some p)
  | none => .error (.invalidPort host)

/-- Splits a port off a host. An address in brackets may have one behind it; a text with more than
one colon is an address without a port. -/
def splitHost (host : String) : Except Fault (String × Option Nat) :=
  match host.toList with
  | '[' :: cs =>
    match cut? ']' cs with
    | none => .error (.unterminatedAddress host)
    | some (address, []) => .ok (String.ofList address, none)
    | some (address, ':' :: port) => withPort host address port
    | some _ => .error (.invalidPort host)
  | cs =>
    if cs.count ':' > 1 then .ok (host, none)
    else
      match cut? ':' cs with
      | some (c :: name, port) => withPort host (c :: name) port
      | _ => .ok (host, none)

/-! ### Encryption -/

inductive SslMode
  | disable
  | allow
  | prefer
  | require
  | verifyCa
  | verifyFull
  deriving DecidableEq

/-- The mode of a name; case does not matter. -/
def SslMode.ofName? (name : String) : Option SslMode :=
  match name.toLower with
  | "disable" => some disable
  | "allow" => some allow
  | "prefer" => some prefer
  | "require" => some require
  | "verify-ca" => some verifyCa
  | "verify-full" => some verifyFull
  | _ => none

/-- The server is asked for encryption before anything else is said. -/
def SslMode.asksFirst : SslMode → Bool
  | disable | allow => false
  | _ => true

/-- A server that does not encrypt will not do. -/
def SslMode.isStrict : SslMode → Bool
  | require | verifyCa | verifyFull => true
  | _ => false

/-! ### Endpoints -/

structure Endpoint where
  host : String
  port : Nat
  user : String
  password : Option String
  database : Option String
  sslMode : SslMode
  sslRootCert : Option String
  deriving DecidableEq

/-- The endpoint that the driver's environment describes. -/
def Endpoint.ofEnvironment (env : Environment) : Endpoint where
  host := ((env "PGHOSTADDR").or (env "PGHOST")).getD "localhost"
  port := ((env "PGPORT").bind (readUnsigned? maxPort)).getD 5432
  user := (env "PGUSER").getD ""
  password := env "PGPASSWORD"
  database := env "PGDATABASE"
  sslMode := ((env "PGSSLMODE").bind SslMode.ofName?).getD .prefer
  sslRootCert := env "PGSSLROOTCERT"

/-- The text, unless it is empty. -/
def nonempty? (s : String) : Option String := if s = "" then none else some s

/-- The endpoint of a configuration, over what the driver's environment describes. -/
def endpoint (c : Config) (env : Environment) : Except Fault Endpoint := do
  let base := Endpoint.ofEnvironment env
  let (host, inlinePort) ← splitHost c.host
  let sslMode ←
    if c.sslMode = "" then pure base.sslMode
    else
      match SslMode.ofName? c.sslMode with
      | some mode => pure mode
      | none => .error (.unknownSslMode c.sslMode)
  return {
    host := (nonempty? host).getD base.host
    port := (c.port.or inlinePort).getD base.port
    user := (nonempty? c.user).getD base.user
    password := (nonempty? c.password).or base.password
    database := (nonempty? c.database).or base.database
    sslMode := sslMode
    sslRootCert := c.sslRootCert.or base.sslRootCert }

end Catalog.Config
