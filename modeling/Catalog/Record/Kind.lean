import Catalog.Json.Decode

/-!
Kinds of notes. A kind is written by its name, and read also as an object that holds nothing but
null under that name.
-/

namespace Catalog.Record

open Catalog.Json

inductive Kind
  | unspecified
  | vulnerability
  | build
  | image
  | package
  | deployment
  | discovery
  | attestation
  | intoto
  deriving DecidableEq, Repr

namespace Kind

def all : List Kind :=
  [unspecified, vulnerability, build, image, package, deployment, discovery, attestation, intoto]

def word : Kind → String
  | unspecified => "NOTE_KIND_UNSPECIFIED"
  | vulnerability => "VULNERABILITY"
  | build => "BUILD"
  | image => "IMAGE"
  | package => "PACKAGE"
  | deployment => "DEPLOYMENT"
  | discovery => "DISCOVERY"
  | attestation => "ATTESTATION"
  | intoto => "INTOTO"

def ofWord? (s : String) : Option Kind := all.find? (·.word == s)

theorem ofWord?_word (k : Kind) : ofWord? k.word = some k := by cases k <;> decide

def read? : Shape → Option Kind
  | .string s => s.bind ofWord?
  | .object [(some name, .null)] => ofWord? name
  | _ => none

def toJson (k : Kind) : Json := .string k.word

end Kind

end Catalog.Record
