import Catalog.Cipher.Aes
import Catalog.Text.Base64
import Catalog.Text.Class

/-!
The keys that page tokens are sealed with: 32 bytes, written in either alphabet of base64.
-/

namespace Catalog.Paging

open Catalog.Cipher Catalog.Text

/-- What can go wrong with a key or with a row id to be sealed. -/
inductive Error
  | invalidKey
  | keyUnavailable
  | negativeWatermark (id : Int)
  deriving DecidableEq

def Error.message : Error → String
  | invalidKey => "invalid pagination key; must be 256-bit URL-safe base64"
  | keyUnavailable => "pagination key unavailable"
  | negativeWatermark id => "cannot encode negative watermark " ++ toString id

/-- One half of a key authenticates, the other encrypts. -/
structure Key where
  signing : Block
  encryption : Block
  deriving DecidableEq

namespace Key

def toBytes (k : Key) : List UInt8 := k.signing.toList ++ k.encryption.toList

def ofBytes? (bytes : List UInt8) : Option Key :=
  if h : bytes.length = 32 then
    some ⟨⟨(bytes.take 16).toArray, by simp [h]⟩, ⟨(bytes.drop 16).toArray, by simp [h]⟩⟩
  else none

/-- The key that a text spells, blanks at its ends aside. -/
def parse (text : String) : Except Error Key :=
  let cs := (trim text).toList
  let bytes := (Base64.decodePadded? .urlSafe cs).or (Base64.decodePadded? .standard cs)
  match bytes.bind ofBytes? with
  | some k => .ok k
  | none => .error .invalidKey

/-- The text that belongs into a configuration. -/
def encode (k : Key) : String := String.ofList (Base64.encodePadded .urlSafe k.toBytes)

/-- What may be shown of a key. -/
def display (_ : Key) : String := "PaginationKey(<redacted>)"

end Key

end Catalog.Paging
