import Catalog.Record.Kind
import Catalog.Record.Payload

/-!
Notes: what is known of a kind of finding.
-/

namespace Catalog.Record

open Catalog.Json

structure RelatedUrl where
  url : String
  label : String
  deriving DecidableEq

structure Note where
  name : String
  shortDescription : String
  longDescription : String
  kind : Kind
  relatedUrls : List RelatedUrl
  expirationTime : Option Time
  createTime : Option Time
  updateTime : Option Time
  relatedNoteNames : List String
  /-- All other members, in the order of their names. -/
  details : List (String × Json)

def RelatedUrl.read? (v : Shape) : Option RelatedUrl := do
  match ← v.fields? ["url", "label"] with
  | [url, label] => return ⟨← text? url, ← text? label⟩
  | _ => none

def RelatedUrl.toJson (u : RelatedUrl) : Json :=
  .object [("url", .string u.url), ("label", .string u.label)]

namespace Note

instance : Payload Note where
  fieldNames :=
    ["name", "short_description", "long_description", "kind", "related_url", "expiration_time",
      "create_time", "update_time", "related_note_names"]
  make?
    | [name, short, long, kind, urls, expiration, create, update, names], details => do
      return {
        name := ← text? name
        shortDescription := ← text? short
        longDescription := ← text? long
        kind := ← Shape.withDefault .unspecified Kind.read? kind
        relatedUrls := ← Shape.withDefault [] (Shape.list? RelatedUrl.read?) urls
        expirationTime := ← optionalTime? expiration
        createTime := ← optionalTime? create
        updateTime := ← optionalTime? update
        relatedNoteNames := ← Shape.withDefault [] (Shape.list? Shape.text?) names
        details := details }
    | _, _ => none
  declared n :=
    [("name", .string n.name)] ++ textMember "short_description" n.shortDescription
      ++ textMember "long_description" n.longDescription ++ [("kind", n.kind.toJson)]
      ++ listMember "related_url" RelatedUrl.toJson n.relatedUrls
      ++ timeMember "expiration_time" n.expirationTime ++ timeMember "create_time" n.createTime
      ++ timeMember "update_time" n.updateTime
      ++ listMember "related_note_names" .string n.relatedNoteNames
  details := details

abbrev fieldNames : List String := Payload.fieldNames Note

abbrev read? (v : Shape) : Option Note := Payload.read? v

abbrev toJson (n : Note) : Json := Payload.toJson n

/-- The text that is stored. -/
abbrev payload (n : Note) : String := Payload.text n

abbrev ofPayload? (text : String) : Option Note := Payload.ofText? text

end Note

end Catalog.Record
