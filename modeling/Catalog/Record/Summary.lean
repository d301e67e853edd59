import Catalog.Json.Decode

/-!
Counts of vulnerabilities: for a resource and a severity, how many there are, and for how many of
them a fix is available.
-/

namespace Catalog.Record

open Catalog.Json

structure VulnerabilityCount where
  resourceUri : String
  severity : String
  fixable : Int
  total : Int
  deriving DecidableEq

structure Summary where
  counts : List VulnerabilityCount
  deriving DecidableEq

namespace VulnerabilityCount

/-- A count, a number of 64 bits. -/
def count? : Shape → Option Int := Shape.int? (-Int.pow 2 63) (Int.pow 2 63 - 1)

def read? (v : Shape) : Option VulnerabilityCount := do
  match ← v.fields? ["resource_uri", "severity", "fixable_count", "total_count"] with
  | [uri, severity, fixable, total] =>
    return ⟨← Shape.required Shape.text? uri, ← Shape.required Shape.text? severity,
      ← Shape.required count? fixable, ← Shape.required count? total⟩
  | _ => none

def toJson (c : VulnerabilityCount) : Json :=
  .object [("resource_uri", .string c.resourceUri), ("severity", .string c.severity),
    ("fixable_count", .int c.fixable), ("total_count", .int c.total)]

end VulnerabilityCount

namespace Summary

def read? (v : Shape) : Option Summary := do
  match ← v.fields? ["counts"] with
  | [counts] =>
    return ⟨← Shape.required (Shape.list? VulnerabilityCount.read?) counts⟩
  | _ => none

def toJson (s : Summary) : Json :=
  .object [("counts", .array (s.counts.map VulnerabilityCount.toJson))]

end Summary

end Catalog.Record
