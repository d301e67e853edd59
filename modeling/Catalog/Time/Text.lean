import Catalog.Text.Class
import Catalog.Time

/-!
Instants as text, in the form of RFC 3339. The reader takes more than the writer gives: blanks
between the parts, single digits, a space for the `T`, any offset below a day, signed years.
-/

namespace Catalog.Time

open Catalog.Text

/-! ### Reading -/

/-- A number of at least one digit and at most so many, and the text behind it. -/
def readNumber? (max : Nat) (cs : List Char) : Option (Nat × List Char) :=
  let digits := (cs.take max).takeWhile Char.isDigit
  if digits.isEmpty then none
  else some (Nat.ofDigitChars 10 digits 0, cs.drop digits.length)

/-- A number of at most two digits between two bounds, after blanks. -/
def readPart? (low high : Nat) (cs : List Char) : Option (Nat × List Char) :=
  (readNumber? 2 (trimStart cs)).filter fun (n, _) => low ≤ n && n ≤ high

/-- A year, after blanks: up to four digits, or any digits with a sign before them. -/
def readYear? (cs : List Char) : Option (Int × List Char) :=
  match trimStart cs with
  | '-' :: cs => (readNumber? cs.length cs).map fun (n, cs) => (-(n : Int), cs)
  | '+' :: cs => (readNumber? cs.length cs).map fun (n, cs) => ((n : Int), cs)
  | cs => (readNumber? 4 cs).map fun (n, cs) => ((n : Int), cs)

/-- The text behind a mark, which may have blanks before it. -/
def readMark? (mark : Char) (cs : List Char) : Option (List Char) :=
  match trimStart cs with
  | c :: cs => if c = mark then some cs else none
  | [] => none

def readDate? (cs : List Char) : Option (Date × List Char) := do
  let (year, cs) ← readYear? cs
  let (month, cs) ← readPart? 1 12 (← readMark? '-' cs)
  let (day, cs) ← readPart? 1 31 (← readMark? '-' cs)
  if Date.isValid ⟨year, month, day⟩ then return (⟨year, month, day⟩, cs) else none

/-- A fraction of a second in nanoseconds; digits after the ninth are dropped. -/
def readFraction? : List Char → Option (Nat × List Char)
  | '.' :: cs => do
    let digits := (cs.take 9).takeWhile Char.isDigit
    let (n, _) ← readNumber? 9 cs
    return (n * Nat.pow 10 (9 - digits.length), cs.dropWhile Char.isDigit)
  | cs => some (0, cs)

/-- The second of the day and the nanoseconds; a sixtieth second is a leap second. -/
def readClock? (cs : List Char) : Option (Nat × Nat × List Char) := do
  let (hour, cs) ← readPart? 0 23 cs
  let (minute, cs) ← readPart? 0 59 (← readMark? ':' cs)
  let (second, cs) ← readPart? 0 60 (← readMark? ':' cs)
  let (nanos, cs) ← readFraction? cs
  let start := hour * 3600 + minute * 60
  if second = 60 then return (start + 59, nanosPerSecond + nanos, cs)
  else return (start + second, nanos, cs)

/-- Hours and minutes of an offset, its sign read already. -/
def readOffsetSize? : List Char → Option (Nat × List Char)
  | h :: h' :: cs =>
    match cs.dropWhile fun c => c = ':' || isBlank c with
    | m :: m' :: rest =>
      if [h, h', m, m'].all Char.isDigit && m ≤ '5' then
        some (Nat.ofDigitChars 10 [h, h'] 0 * 3600 + Nat.ofDigitChars 10 [m, m'] 0 * 60, rest)
      else none
    | _ => none
  | _ => none

/-- An offset from universal time in seconds. -/
def readOffset? (cs : List Char) : Option (Int × List Char) :=
  if (cs.take 3).map Char.toUpper = ['U', 'T', 'C'] then some (0, cs.drop 3)
  else
    match cs with
    | 'Z' :: cs | 'z' :: cs => some (0, cs)
    | '+' :: cs => (readOffsetSize? cs).map fun (n, cs) => ((n : Int), cs)
    | '-' :: cs | '−' :: cs => (readOffsetSize? cs).map fun (n, cs) => (-(n : Int), cs)
    | _ => none

/-- The instant that a text stands for. -/
def read? (s : String) : Option Time := do
  let (date, cs) ← readDate? s.toList
  let (second, nanos, cs) ← match cs with
    | 'T' :: cs | 't' :: cs | ' ' :: cs => readClock? cs
    | _ => none
  let (offset, cs) ← readOffset? (trimStart cs)
  let t : Time := ⟨date.toDays * secondsPerDay + second - offset, nanos⟩
  if offset.natAbs < secondsPerDay ∧ cs.all isBlank ∧ t.date.isValid then return t else none

/-! ### Writing -/

/-- A number in at least so many digits. -/
def padded (width n : Nat) : List Char :=
  let ds := (Nat.repr n).toList
  List.replicate (width - ds.length) '0' ++ ds

/-- A year of four digits; others show their sign. -/
def renderYear (year : Int) : List Char :=
  if 0 ≤ year && year ≤ 9999 then padded 4 year.toNat
  else (if year < 0 then '-' else '+') :: padded 4 year.natAbs

/-- A fraction in as few of three, six or nine digits as show it whole, or in none. -/
def renderFraction (nanos : Nat) : List Char :=
  if nanos = 0 then []
  else if nanos % 1000000 = 0 then '.' :: padded 3 (nanos / 1000000)
  else if nanos % 1000 = 0 then '.' :: padded 6 (nanos / 1000)
  else '.' :: padded 9 nanos

def render (t : Time) : String :=
  let d := t.date
  let s := t.secondOfDay
  let second := s % 60 + t.nanos / nanosPerSecond
  String.ofList (renderYear d.year ++ '-' :: padded 2 d.month ++ '-' :: padded 2 d.day
    ++ 'T' :: padded 2 (s / 3600) ++ ':' :: padded 2 (s / 60 % 60) ++ ':' :: padded 2 second
    ++ renderFraction (t.nanos % nanosPerSecond) ++ ['Z'])

end Catalog.Time
