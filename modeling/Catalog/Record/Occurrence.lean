import Catalog.Record.Kind
import Catalog.Record.Payload

/-!
Occurrences: a note applied to a resource.
-/

namespace Catalog.Record

open Catalog.Json

structure ContentHash where
  type : String
  value : String
  deriving DecidableEq

structure Resource where
  name : String
  uri : String
  contentHash : Option ContentHash
  deriving DecidableEq

structure Occurrence where
  name : String
  resource : Resource
  /-- The full name of the note. -/
  noteName : String
  kind : Kind
  remediation : String
  createTime : Option Time
  updateTime : Option Time
  /-- All other members, in the order of their names. -/
  details : List (String × Json)

namespace ContentHash

def read? (v : Shape) : Option ContentHash := do
  match ← v.fields? ["type", "value"] with
  | [type, value] => return ⟨← Shape.required Shape.text? type, ← Shape.required Shape.text? value⟩
  | _ => none

def toJson (h : ContentHash) : Json :=
  .object [("type", .string h.type), ("value", .string h.value)]

end ContentHash

namespace Resource

def empty : Resource := ⟨"", "", none⟩

def read? (v : Shape) : Option Resource := do
  match ← v.fields? ["name", "uri", "content_hash"] with
  | [name, uri, hash] =>
    return ⟨← text? name, ← text? uri,
      ← Shape.withDefault none (Shape.nullable? ContentHash.read?) hash⟩
  | _ => none

def toJson (r : Resource) : Json :=
  .object (textMember "name" r.name ++ ("uri", .string r.uri)
    :: r.contentHash.toList.map fun h => ("content_hash", h.toJson))

end Resource

namespace Occurrence

instance : Payload Occurrence where
  fieldNames :=
    ["name", "resource", "note_name", "kind", "remediation", "create_time", "update_time"]
  make?
    | [name, resource, noteName, kind, remediation, create, update], details => do
      return {
        name := ← text? name
        resource := ← Shape.withDefault .empty Resource.read? resource
        noteName := ← text? noteName
        kind := ← Shape.withDefault .unspecified Kind.read? kind
        remediation := ← text? remediation
        createTime := ← optionalTime? create
        updateTime := ← optionalTime? update
        details := details }
    | _, _ => none
  declared o :=
    [("name", .string o.name), ("resource", o.resource.toJson), ("note_name", .string o.noteName),
      ("kind", o.kind.toJson)] ++ textMember "remediation" o.remediation
      ++ timeMember "create_time" o.createTime ++ timeMember "update_time" o.updateTime
  details := details

abbrev fieldNames : List String := Payload.fieldNames Occurrence

abbrev read? (v : Shape) : Option Occurrence := Payload.read? v

abbrev toJson (o : Occurrence) : Json := Payload.toJson o

/-- The text that is stored. -/
abbrev payload (o : Occurrence) : String := Payload.text o

abbrev ofPayload? (text : String) : Option Occurrence := Payload.ofText? text

end Occurrence

end Catalog.Record
