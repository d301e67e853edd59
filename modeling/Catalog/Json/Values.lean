import Catalog.Json.Syntax
import Catalog.Json.Value

/-!
The values of shapes.

An object may stand for another value than itself: where its first name is the raw name, it has to
hold one text and nothing else, and its value is the one that the text spells. What such a text
spells is smaller than the object, so that texts within texts come to an end.
-/

namespace Catalog.Json

/-- The name in front of a text that stands for its value. -/
def rawName : String := "$serde_json::private::RawValue"

/-- The deepest nesting of arrays and objects that is read as a value. -/
def maxDepth : Nat := 127

/-! ### Weights -/

namespace Shape

mutual

/-- No text for the shape is shorter than this: what the strings hold, and a character for every
array, object, item and member. -/
def weight : Shape → Nat
  | string (some s) => s.length
  | array items => itemsWeight items + 1
  | object members => membersWeight members + 1
  | _ => 0

def itemsWeight : List Shape → Nat
  | [] => 0
  | v :: vs => weight v + itemsWeight vs + 1

def membersWeight : List (Option String × Shape) → Nat
  | [] => 0
  | (_, v) :: ms => weight v + membersWeight ms + 1

end

theorem itemsWeight_append (vs ws : List Shape) :
    itemsWeight (vs ++ ws) = itemsWeight vs + itemsWeight ws := by
  induction vs with
  | nil => simp [itemsWeight]
  | cons v vs ih =>
    rw [List.cons_append, itemsWeight, itemsWeight, ih]
    omega

theorem itemsWeight_reverse (vs : List Shape) : itemsWeight vs.reverse = itemsWeight vs := by
  induction vs with
  | nil => rfl
  | cons v vs ih =>
    rw [List.reverse_cons, itemsWeight_append, ih, itemsWeight, itemsWeight, itemsWeight]
    omega

theorem membersWeight_eq (ms : List (Option String × Shape)) :
    membersWeight ms = itemsWeight (ms.map Prod.snd) := by
  induction ms with
  | nil => rfl
  | cons m ms ih => rw [membersWeight, ih, List.map_cons, itemsWeight]

theorem membersWeight_reverse (ms : List (Option String × Shape)) :
    membersWeight ms.reverse = membersWeight ms := by
  rw [membersWeight_eq, membersWeight_eq, List.map_reverse, itemsWeight_reverse]

end Shape

/-- A character for each token, and what it holds. -/
def tokensWeight : List Token → Nat
  | [] => 0
  | t :: ts => t.weight + 1 + tokensWeight ts

theorem tokens?_length {cs : List Char} {ts : List Token} (h : tokens? cs = some ts) :
    tokensWeight ts ≤ cs.length := by
  fun_induction tokens? cs generalizing ts with
  | case1 =>
    obtain rfl := Option.some.inj h
    exact Nat.le_refl _
  | case2 c cs _ ih => exact Nat.le_succ_of_le (ih h)
  | case3 => cases h
  | case4 c cs _ t rest htoken ih =>
    obtain ⟨us, hus, rfl⟩ := Option.map_eq_some_iff.1 h
    have := ih hus
    have := token?_length htoken
    rw [tokensWeight]
    omega

/-! ### Weights of what is being read -/

def Frame.weight : Frame → Nat
  | array items => Shape.itemsWeight items + 1
  | object members _ => Shape.membersWeight members + 1

def stackWeight : List Frame → Nat
  | [] => 0
  | f :: fs => f.weight + stackWeight fs

def Place.weight : Place → Nat
  | firstName members | name members => Shape.membersWeight members + 1
  | after v => v.weight
  | _ => 0

namespace Reader

def weight (r : Reader) : Nat := r.place.weight + stackWeight r.stack

theorem scalar?_weight {t : Token} {v : Shape} (h : scalar? t = some v) :
    v.weight = t.weight := by
  cases t with
  | string s =>
    obtain rfl := Option.some.inj h
    cases s <;> rfl
  | null | bool | number =>
    obtain rfl := Option.some.inj h
    rfl
  | _ => cases h

theorem stepValue_weight {r r' : Reader} {t : Token} (h : r.stepValue t = some r') :
    r'.weight ≤ stackWeight r.stack + t.weight + 1 := by
  unfold stepValue at h
  split at h
  · obtain rfl := Option.some.inj h
    simp only [weight, Place.weight, stackWeight, Frame.weight, Shape.itemsWeight]
    omega
  · obtain rfl := Option.some.inj h
    simp only [weight, Place.weight, Shape.membersWeight]
    omega
  · obtain ⟨v, hv, rfl⟩ := Option.map_eq_some_iff.1 h
    simp only [weight, Place.weight, scalar?_weight hv]
    omega

theorem stepName_weight {r r' : Reader} {members : List (Option String × Shape)} {t : Token}
    (h : r.stepName members t = some r') :
    r'.weight ≤ Shape.membersWeight members + 1 + stackWeight r.stack := by
  unfold stepName at h
  split at h
  · obtain rfl := Option.some.inj h
    simp only [weight, Place.weight, stackWeight, Frame.weight]
    omega
  · cases h

theorem stepAfter_weight {r r' : Reader} {v : Shape} {t : Token}
    (h : r.stepAfter v t = some r') :
    r'.weight ≤ v.weight + stackWeight r.stack + 1 := by
  unfold stepAfter at h
  split at h
  case h_5 => cases h
  all_goals
    rename_i hstack
    obtain rfl := Option.some.inj h
    rw [hstack]
    simp only [weight, Place.weight, Shape.weight, stackWeight, Frame.weight,
      Shape.itemsWeight_reverse, Shape.membersWeight_reverse, Shape.itemsWeight,
      Shape.membersWeight]
    omega

/-- A step adds no more than the token takes. -/
theorem step_weight {r r' : Reader} {t : Token} (h : r.step t = some r') :
    r'.weight ≤ r.weight + t.weight + 1 := by
  change r'.weight ≤ r.place.weight + stackWeight r.stack + t.weight + 1
  unfold step at h
  split at h
  case h_1 hplace hstack =>
    obtain rfl := Option.some.inj h
    simp only [hplace, hstack, weight, Place.weight, Shape.weight, Shape.itemsWeight, stackWeight]
    omega
  case h_2 hplace _ | h_3 hplace =>
    have := stepValue_weight h
    simp only [hplace, Place.weight]
    omega
  case h_4 hplace =>
    obtain rfl := Option.some.inj h
    simp only [hplace, weight, Place.weight, Shape.weight, Shape.membersWeight]
    omega
  case h_5 hplace _ | h_6 hplace =>
    have := stepName_weight h
    simp only [hplace, Place.weight]
    omega
  case h_7 hplace =>
    obtain rfl := Option.some.inj h
    simp only [hplace, weight, Place.weight]
    omega
  case h_8 => cases h
  case h_9 hplace =>
    have := stepAfter_weight h
    simp only [hplace, Place.weight]
    omega

theorem run_weight {r : Reader} {ts : List Token} {s : Shape} (h : r.run ts = some s) :
    s.weight ≤ r.weight + tokensWeight ts := by
  induction ts generalizing r with
  | nil =>
    unfold run at h
    split at h
    · obtain rfl := Option.some.inj h
      exact Nat.le_refl _
    · cases h
  | cons t ts ih =>
    obtain ⟨r', hstep, hrun⟩ := Option.bind_eq_some_iff.1 h
    have := step_weight hstep
    have := ih hrun
    rw [tokensWeight]
    omega

end Reader

/-- No text is shorter than its shape weighs. -/
theorem read?_weight {text : String} {s : Shape} (h : read? text = some s) :
    s.weight ≤ text.length := by
  obtain ⟨ts, htokens, hrun⟩ := Option.bind_eq_some_iff.1 h
  have hweight := Reader.run_weight hrun
  have hlength := tokens?_length htokens
  rw [String.length_toList] at hlength
  simp only [Reader.weight, Reader.start, Place.weight, stackWeight] at hweight
  omega

/-! ### Values -/

namespace Shape

/-- The object begins with the raw name. -/
def isRaw : List (Option String × Shape) → Bool
  | (name, _) :: _ => name == some rawName
  | [] => false

/-- The shape of the text that an object holds, if it holds that and nothing else. -/
def raw? : List (Option String × Shape) → Option Shape
  | [(_, string (some text))] => read? text
  | _ => none

theorem raw?_weight {members : List (Option String × Shape)} {s : Shape}
    (h : raw? members = some s) : s.weight < membersWeight members + 1 := by
  unfold raw? at h
  split at h
  · have := read?_weight h
    simp only [membersWeight, weight]
    omega
  · cases h

mutual

/-- The value, if no array or object in it lies deeper than `depth` and each of its numbers and
strings has a value. -/
def value? (depth : Nat) : Shape → Option Json
  | null => some .null
  | bool b => some (.bool b)
  | number n => n.value?.map .ofQuantity
  | string s => s.map .string
  | array items => if depth = 0 then none else (values? (depth - 1) items).map .array
  | object members =>
    if depth = 0 then none
    else if isRaw members then
      match _h : raw? members with
      | some s => value? maxDepth s
      | none => none
    else (members? (depth - 1) members).map fun ms => .object (sortMembers ms)
termination_by s => s.weight
decreasing_by
  · simp only [weight]
    omega
  · simpa only [weight] using raw?_weight _h
  · simp only [weight]
    omega

def values? (depth : Nat) : List Shape → Option (List Json)
  | [] => some []
  | v :: vs => do
    let x ← value? depth v
    let xs ← values? depth vs
    return x :: xs
termination_by vs => itemsWeight vs
decreasing_by
  all_goals
    simp only [itemsWeight]
    omega

def members? (depth : Nat) : List (Option String × Shape) → Option (List (String × Json))
  | [] => some []
  | (name, v) :: rest => do
    let k ← name
    let x ← value? depth v
    let xs ← members? depth rest
    return (k, x) :: xs
termination_by ms => membersWeight ms
decreasing_by
  all_goals
    simp only [membersWeight]
    omega

end

end Shape

end Catalog.Json
