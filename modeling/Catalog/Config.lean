import Catalog.Json.Value
import Catalog.Text.Quoted

/-!
The configuration of a store. An empty connection field leaves the choice to the environment of
the database driver.
-/

namespace Catalog

namespace Config

structure Pool where
  maxConnections : Nat := 10
  /-- In seconds. -/
  connectTimeout : Nat := 30
  deriving DecidableEq

structure Filtering where
  /-- A bad filter is refused; otherwise it is passed over. -/
  strict : Bool := false
  debugLogging : Bool := false
  deriving DecidableEq

structure Pagination where
  defaultPageSize : Int := 100
  maxPageSize : Int := 1000
  /-- Both reads of a page see one state of the tables. -/
  snapshotListing : Bool := false
  deriving DecidableEq

end Config

structure Config where
  /-- May end in a port. -/
  host : String := ""
  port : Option Nat := none
  database : String := ""
  user : String := ""
  password : String := ""
  sslMode : String := ""
  sslRootCert : Option String := none
  paginationKey : Option String := none
  /-- Keys that still open tokens. -/
  previousKeys : List String := []
  pool : Config.Pool := {}
  filtering : Config.Filtering := {}
  pagination : Config.Pagination := {}
  deriving DecidableEq

namespace Config

/-- What is wrong with a configuration. -/
inductive Fault
  /-- The file cannot be read, or its text is malformed. -/
  | malformed
  | unterminatedAddress (host : String)
  | invalidPort (host : String)
  | unknownSslMode (mode : String)
  deriving DecidableEq

def Fault.message : Fault → String
  | malformed => "malformed file"
  | unterminatedAddress host => "unterminated IPv6 host " ++ Text.quote host
  | invalidPort host => "invalid port in host " ++ Text.quote host
  | unknownSslMode mode => "invalid ssl mode " ++ Text.quote mode

def maxPort : Nat := 65535

/-! ### As JSON -/

def optional {α : Type} (write : α → Json) (v : Option α) : Json := v.elim .null write

def Pool.toJson (p : Pool) : Json :=
  .object [("max_connections", .int p.maxConnections),
    ("connect_timeout_secs", .int p.connectTimeout)]

def Filtering.toJson (f : Filtering) : Json :=
  .object [("strict", .bool f.strict), ("debug_logging", .bool f.debugLogging)]

def Pagination.toJson (p : Pagination) : Json :=
  .object [("default_page_size", .int p.defaultPageSize), ("max_page_size", .int p.maxPageSize),
    ("snapshot_listing", .bool p.snapshotListing)]

def toJson (c : Config) : Json :=
  .object [("host", .string c.host), ("port", optional (fun p => .int (Int.ofNat p)) c.port),
    ("db_name", .string c.database), ("user", .string c.user), ("password", .string c.password),
    ("ssl_mode", .string c.sslMode), ("ssl_root_cert", optional .string c.sslRootCert),
    ("pagination_key", optional .string c.paginationKey),
    ("previous_pagination_keys", .array (c.previousKeys.map .string)), ("pool", c.pool.toJson),
    ("filter", c.filtering.toJson), ("pagination", c.pagination.toJson)]

end Config

end Catalog
