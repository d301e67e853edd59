import Catalog.Config
import Catalog.Text.Class
import Catalog.Text.Integer
import Catalog.Text.Split

/-!
Environment variables that override a configuration. A variable whose text is no value of its
field leaves the field as it is.
-/

namespace Catalog.Config

open Catalog.Text

/-- What the environment says about a variable. -/
abbrev Environment : Type := String → Option String

/-- The variables that are looked at. -/
def variableNames : List String :=
  ["GRAFEAS_PG_HOST", "GRAFEAS_PG_PORT", "GRAFEAS_PG_DB_NAME", "GRAFEAS_PG_USER",
    "GRAFEAS_PG_PASSWORD", "GRAFEAS_PG_SSL_MODE", "GRAFEAS_PG_SSL_ROOT_CERT", "PAGINATION_KEY",
    "PAGINATION_PREVIOUS_KEYS", "PAGINATION_DEFAULT_PAGE_SIZE", "PAGINATION_MAX_PAGE_SIZE",
    "PAGINATION_SNAPSHOT_LISTING", "FILTER_STRICT", "FILTER_DEBUG_LOGGING",
    "DATABASE_MAX_CONNECTIONS", "DATABASE_CONNECTION_TIMEOUT", "PGHOSTADDR", "PGHOST", "PGPORT",
    "PGUSER", "PGPASSWORD", "PGDATABASE", "PGSSLMODE", "PGSSLROOTCERT"]

def readBool? : String → Option Bool
  | "true" => some true
  | "false" => some false
  | _ => none

/-- The texts between commas, without blanks around them; empty ones are left out. -/
def readList (s : String) : List String := ((splitAt ',' s).map trim).filter (· ≠ "")

namespace Environment

variable (env : Environment)

/-- The text of a variable, or else the present value. -/
def text (name : String) (present : String) : String := (env name).getD present

/-- An empty text stands for nothing. -/
def optional (name : String) (present : Option String) : Option String :=
  match env name with
  | none => present
  | some s => if s = "" then none else some s

def value {α : Type} (read : String → Option α) (name : String) (present : α) : α :=
  ((env name).bind read).getD present

end Environment

def Pool.overriddenBy (p : Pool) (env : Environment) : Pool where
  maxConnections := env.value (readUnsigned? (maxUnsigned 32)) "DATABASE_MAX_CONNECTIONS"
    p.maxConnections
  connectTimeout := env.value (readUnsigned? (maxUnsigned 64)) "DATABASE_CONNECTION_TIMEOUT"
    p.connectTimeout

def Filtering.overriddenBy (f : Filtering) (env : Environment) : Filtering where
  strict := env.value readBool? "FILTER_STRICT" f.strict
  debugLogging := env.value readBool? "FILTER_DEBUG_LOGGING" f.debugLogging

def Pagination.overriddenBy (p : Pagination) (env : Environment) : Pagination where
  defaultPageSize := env.value (readWord? 32) "PAGINATION_DEFAULT_PAGE_SIZE" p.defaultPageSize
  maxPageSize := env.value (readWord? 32) "PAGINATION_MAX_PAGE_SIZE" p.maxPageSize
  snapshotListing := env.value readBool? "PAGINATION_SNAPSHOT_LISTING" p.snapshotListing

/-- The configuration as the environment overrides it. -/
def overriddenBy (c : Config) (env : Environment) : Config where
  host := env.text "GRAFEAS_PG_HOST" c.host
  port := ((env "GRAFEAS_PG_PORT").bind (readUnsigned? maxPort)).or c.port
  database := env.text "GRAFEAS_PG_DB_NAME" c.database
  user := env.text "GRAFEAS_PG_USER" c.user
  password := env.text "GRAFEAS_PG_PASSWORD" c.password
  sslMode := env.text "GRAFEAS_PG_SSL_MODE" c.sslMode
  sslRootCert := env.optional "GRAFEAS_PG_SSL_ROOT_CERT" c.sslRootCert
  paginationKey := env.optional "PAGINATION_KEY" c.paginationKey
  previousKeys := ((env "PAGINATION_PREVIOUS_KEYS").map readList).getD c.previousKeys
  pool := c.pool.overriddenBy env
  filtering := c.filtering.overriddenBy env
  pagination := c.pagination.overriddenBy env

/-- The configuration that the environment alone makes. -/
def ofEnvironment (env : Environment) : Config := overriddenBy {} env

end Catalog.Config
