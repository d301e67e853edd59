import Catalog.Config.Endpoint
import Catalog.Store
import Catalog.Store.Statement

/-!
Setting a store up: its keys are checked, then its endpoint; then the server is connected to and
the tables are made where they are missing.
-/

namespace Catalog.Store

/-- What a database server makes of a connection, and of the statements that make the tables. -/
structure Server where
  accepts : Config.Endpoint → Bool
  executes : String → Bool

/-- No server at all. -/
def Server.unreachable : Server := ⟨fun _ => false, fun _ => false⟩

/-- The cursor for the keys of a configuration. -/
def cursorOf (fresh : Paging.Key) (c : Config) : Except InitError Paging.Cursor :=
  (Paging.Cursor.ofConfig fresh c.paginationKey c.previousKeys).mapError .ofPaging

/-- Makes the tables. -/
def bootstrap (server : Server) : Except InitError Unit :=
  if schema.all server.executes then .ok () else .error .bootstrap

/-- How many of the statements that make the tables are run. -/
def bootstrapLength (server : Server) : Nat :=
  min schema.length ((schema.takeWhile server.executes).length + 1)

/-- A store for a configuration, over a connection of its own. -/
def connect (fresh : Paging.Key) (env : Config.Environment) (server : Server) (c : Config) :
    Except InitError Store := do
  let cursor ← cursorOf fresh c
  let endpoint ← (c.endpoint env).mapError .invalidConfig
  if !server.accepts endpoint then throw .connect
  bootstrap server
  return ⟨cursor, c.storeOptions⟩

/-- A store for a configuration, over connections that are made as they are needed. -/
def withPool (fresh : Paging.Key) (server : Server) (endpoint : Config.Endpoint) (c : Config) :
    Except InitError Store := do
  let cursor ← cursorOf fresh c
  if !server.accepts endpoint then throw .bootstrap
  bootstrap server
  return ⟨cursor, c.storeOptions⟩

end Catalog.Store
