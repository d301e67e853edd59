import Catalog.Cipher.Chain
import Catalog.Cipher.Sha256
import Catalog.Paging.Key

/-!
Sealed messages: a version, the time of sealing, a random block, the encrypted message, and a
code that authenticates all of it.
-/

namespace Catalog.Paging

open Catalog.Cipher Catalog.Text

/-- How long after its sealing a token is good, in seconds. -/
def timeToLive : Nat := 3600

/-- How far ahead of the reader's clock the time of sealing may lie, in seconds. -/
def clockSkew : Nat := 60

/-- A token before it is authenticated. -/
structure Token where
  time : Nat
  start : Block
  cipher : List UInt8
  code : List UInt8
  deriving DecidableEq

namespace Token

def version : UInt8 := 0x80

/-- The bytes that the code authenticates. -/
def signedBytes (t : Token) : List UInt8 :=
  version :: Sha256.bigEndian 8 t.time ++ t.start.toList ++ t.cipher

def toBytes (t : Token) : List UInt8 := t.signedBytes ++ t.code

def number (bytes : List UInt8) : Nat := bytes.foldl (fun n b => 256 * n + b.toNat) 0

theorem size_start {rest : List UInt8} (h : rest.length ≥ 56) :
    ((rest.drop 8).take 16).toArray.size = 16 := by
  simp only [List.size_toArray, List.length_take, List.length_drop]
  omega

/-- Splits bytes into the parts of a token. -/
def ofBytes? (bytes : List UInt8) : Option Token :=
  match bytes with
  | [] => none
  | first :: rest =>
    let start := (rest.drop 8).take 16
    let body := rest.drop 24
    if h : first = version ∧ rest.length ≥ 56 then
      some ⟨number (rest.take 8), ⟨start.toArray, size_start h.2⟩,
        body.take (body.length - 32), body.drop (body.length - 32)⟩
    else none

def text (t : Token) : String := String.ofList (Base64.encodePadded .urlSafe t.toBytes)

/-- The token that a text spells; its padding does not matter. -/
def parse? (text : String) : Option Token :=
  (Base64.decode? .urlSafe (Base64.stripPadding text.toList)).bind ofBytes?

/-- The token is neither too old nor from too far in the future. -/
def isFresh (t : Token) (now : Nat) : Bool := now ≤ t.time + timeToLive && t.time ≤ now + clockSkew

/-- Seals a message at a time; `start` is to be random. -/
def issue (key : Key) (start : Block) (time : Nat) (message : List UInt8) : Token :=
  let t : Token := ⟨time, start, encryptMessage key.encryption start message, []⟩
  { t with code := Sha256.authenticate key.signing.toList t.signedBytes }

/-- The message of a token that was sealed with this key. -/
def message? (key : Key) (t : Token) : Option (List UInt8) :=
  if t.code = Sha256.authenticate key.signing.toList t.signedBytes then
    decryptMessage? key.encryption t.start t.cipher
  else none

end Token

end Catalog.Paging
