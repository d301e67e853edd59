import Catalog.Paging.Token
import Catalog.Text.Integer

/-!
Page tokens hold the id of the last row that was given out. Tokens are sealed with one key and
opened with any of several, so that a key can be replaced while tokens are in use; a token that
does not open is as good as none.
-/

namespace Catalog.Paging

open Catalog.Cipher Catalog.Text

structure Cursor where
  primary : Key
  previous : List Key
  deriving DecidableEq

namespace Cursor

/-- The cursor for configured keys. Without a key of its own it takes the fresh one. -/
def ofConfig (fresh : Key) (primary : Option String) (previous : List String) :
    Except Error Cursor := do
  let key ← match primary.map trim with
    | none | some "" => .ok fresh
    | some text => Key.parse text
  let keys ← previous.mapM Key.parse
  return ⟨key, keys⟩

def keys (c : Cursor) : List Key := c.primary :: c.previous

def asciiBytes (s : String) : List UInt8 := s.toList.map fun c => UInt8.ofNat c.toNat

/-- The text of bytes that are all ASCII. -/
def asciiText? (bytes : List UInt8) : Option String :=
  if bytes.all (· < 0x80) then some (String.ofList (bytes.map fun b => Char.ofNat b.toNat))
  else none

/-- The token for a row id; `start` is to be random. -/
def encode (c : Cursor) (start : Block) (time : Nat) (id : Int) : Except Error String :=
  if id < 0 then .error (.negativeWatermark id)
  else .ok (Token.issue c.primary start time (asciiBytes (toString id))).text

/-- The message of a fresh token, by the first key that opens it. -/
def open? (c : Cursor) (now : Nat) (text : String) : Option (List UInt8) := do
  let t ← Token.parse? text
  if t.isFresh now then c.keys.findSome? fun k => t.message? k else none

/-- The row id that a message spells. -/
def watermark? (message : List UInt8) : Option Int :=
  ((asciiText? message).bind (readWord? 64)).filter (0 ≤ ·)

/-- The row id in a token, or else the given one. -/
def decode (c : Cursor) (now : Nat) (default : Int) (text : String) : Int :=
  ((c.open? now text).bind watermark?).getD default

def display (c : Cursor) : String :=
  "PageCursor \x7b fallbacks: " ++ toString c.previous.length ++ ", .. \x7d"

end Cursor

end Catalog.Paging
