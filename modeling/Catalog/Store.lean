import Catalog.Filter.Compile
import Catalog.Paging.Cursor
import Catalog.Store.Error
import Catalog.Text.Class

/-!
A store: how it seals page tokens, and how it lists and filters.
-/

namespace Catalog

namespace Store

structure Options where
  strictFilters : Bool
  debugFilters : Bool
  defaultPageSize : Int
  maxPageSize : Int
  snapshotListing : Bool
  deriving DecidableEq, Repr

/-- How many rows a page holds at most, for a requested size. -/
def Options.pageSize (o : Options) (requested : Int) : Int :=
  if requested ≤ 0 then max 1 o.defaultPageSize
  else if requested > o.maxPageSize then max 1 o.maxPageSize
  else requested

end Store

structure Store where
  cursor : Paging.Cursor
  options : Store.Options

def Config.storeOptions (c : Config) : Store.Options where
  strictFilters := c.filtering.strict
  debugFilters := c.filtering.debugLogging
  defaultPageSize := c.pagination.defaultPageSize
  maxPageSize := c.pagination.maxPageSize
  snapshotListing := c.pagination.snapshotListing

namespace Store

/-- The predicate of a filter, none for a blank one. A filter that does not compile is refused if
filters are strict; otherwise it is passed over. -/
def predicate? (s : Store) (anchor filter : String) : Except Error (Option String) :=
  if Text.isBlankText filter then .ok none
  else
    match Filter.compile anchor filter with
    | .ok sql => .ok (some sql)
    | .error e => if s.options.strictFilters then .error (.invalidFilter e) else .ok none

end Store

end Catalog
