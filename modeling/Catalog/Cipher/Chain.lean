import Catalog.Cipher.Aes

/-!
Messages under a block cipher: filled up to whole blocks, and each block chained to the one
before it.
-/

namespace Catalog.Cipher

/-! ### Padding -/

/-- The message with as many bytes behind it as are missing to a whole block, at least one, each
of which tells how many they are. -/
def pad (message : List UInt8) : List UInt8 :=
  let missing := 16 - message.length % 16
  message ++ List.replicate missing (UInt8.ofNat missing)

/-- The message without its padding. -/
def unpad? (bytes : List UInt8) : Option (List UInt8) := do
  let last ← bytes.getLast?
  let count := last.toNat
  let kept := bytes.length - count
  if 0 < count ∧ count ≤ 16 ∧ bytes.drop kept = List.replicate count last then
    some (bytes.take kept)
  else none

/-! ### Blocks -/

/-- The bytes cut into blocks, if they make up whole ones. -/
def blocks? (bytes : List UInt8) : Option (List Block) :=
  match bytes with
  | [] => some []
  | b :: rest =>
    if h : (b :: rest.take 15).length = 16 then
      (blocks? (rest.drop 15)).map (⟨(b :: rest.take 15).toArray, by simpa using h⟩ :: ·)
    else none
termination_by bytes.length
decreasing_by simp only [List.length_drop, List.length_cons]; omega

def join (bs : List Block) : List UInt8 := bs.flatMap Vector.toList

/-! ### Chaining -/

/-- Every block is mixed with the cipher text before it. -/
def chain (encrypt : Block → Block) (before : Block) : List Block → List Block
  | [] => []
  | b :: bs =>
    let c := encrypt (b.xor before)
    c :: chain encrypt c bs

def unchain (decrypt : Block → Block) (before : Block) : List Block → List Block
  | [] => []
  | c :: cs => (decrypt c).xor before :: unchain decrypt c cs

/-- The cipher text of a message; a message of any length has one. -/
def encryptMessage (key start : Block) (message : List UInt8) : List UInt8 :=
  join (chain (Aes.encrypt key) start ((blocks? (pad message)).getD []))

/-- The message of a cipher text, if its blocks are whole and its padding is sound. -/
def decryptMessage? (key start : Block) (bytes : List UInt8) : Option (List UInt8) := do
  let bs ← blocks? bytes
  unpad? (join (unchain (Aes.decrypt key) start bs))

end Catalog.Cipher
