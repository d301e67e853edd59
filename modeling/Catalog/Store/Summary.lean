import Catalog.Record.Summary
import Catalog.Store.Listing

/-!
The vulnerabilities of a project, counted by resource and severity.
-/

namespace Catalog.Store

open Operation Record

def readCount? : List Value → Option VulnerabilityCount
  | .text uri :: .text severity :: .int fixable :: .int total :: _ =>
    some ⟨uri, severity, fixable, total⟩
  | _ => none

def summarize (store : Store) (project filter : String) : Operation Summary := do
  let predicate ← fromExcept (store.predicate? Filter.payloadAnchor filter)
  let counts ← guarded (fetch (.summary project predicate) .summarize readCount?)
  return ⟨counts⟩

end Catalog.Store
