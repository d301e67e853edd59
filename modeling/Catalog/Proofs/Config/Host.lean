import Mathlib.Tactic.Common
import Catalog.Proofs.Text.Integer
import Catalog.Store.Connect

/-!
Hosts with ports. A host is told by where its brackets and colons stand, and there is no host that
two rules apply to. So what it is split into says how it is written, and the other way round.
-/

namespace Catalog.Text

variable {sep : Char} {cs before after : List Char}

lemma cut?_of_notMem (h : sep ∉ cs) : cut? sep cs = none := by
  induction cs with
  | nil => rfl
  | cons c cs ih =>
    rw [List.mem_cons, not_or] at h
    simp [cut?, Ne.symm h.1, ih h.2]

/-- A text is cut at its first separator. -/
lemma cut?_append (h : sep ∉ before) :
    cut? sep (before ++ sep :: after) = some (before, after) := by
  induction before with
  | nil => simp [cut?]
  | cons c before ih =>
    rw [List.mem_cons, not_or] at h
    simp [cut?, Ne.symm h.1, ih h.2]

lemma isDigit_of_readUnsigned? {max p : ℕ} {s : String} (h : readUnsigned? max s = some p) :
    ∀ c ∈ s.toList, c = '+' ∨ c.isDigit := by
  obtain ⟨hvalue, -⟩ := Option.filter_eq_some_iff.mp h
  have hdigits := isDigit_of_readDigits? hvalue
  split at hdigits
  · rename_i cs hplus
    rw [hplus, List.forall_mem_cons]
    exact ⟨.inl rfl, fun c hc => .inr (hdigits c hc)⟩
  · exact fun c hc => .inr (hdigits c hc)

lemma not_colon_of_readUnsigned? {max p : ℕ} {s : String} (h : readUnsigned? max s = some p) :
    ':' ∉ s.toList := by
  intro hcolon
  have hdigit := isDigit_of_readUnsigned? h ':' hcolon
  exact absurd hdigit (by decide)

end Catalog.Text

namespace Catalog.Config

open Catalog.Text

variable {host name port : String} {p : ℕ}

/-- A name that may have a port behind it. -/
structure IsName (name : String) : Prop where
  ne_empty : name ≠ ""
  not_bracket : name.toList.head? ≠ some '['
  not_colon : ':' ∉ name.toList

/-- Texts that are no host, and what is said about them. -/
inductive Malformed (host : String) : Fault → Prop
  | unterminated (rest : String) (h : host = "[" ++ rest) (hrest : ']' ∉ rest.toList) :
      Malformed host (.unterminatedAddress host)
  | behindAddress (a rest : String) (h : host = "[" ++ a ++ "]" ++ rest) (ha : ']' ∉ a.toList)
      (hrest : rest ≠ "")
      (hport : ∀ port, rest = ":" ++ port → readUnsigned? maxPort port = none) :
      Malformed host (.invalidPort host)
  | behindName (name port : String) (h : host = name ++ ":" ++ port) (hname : IsName name)
      (hcolon : ':' ∉ port.toList) (hp : readUnsigned? maxPort port = none) :
      Malformed host (.invalidPort host)

/-- What a host is split into. -/
inductive Splits (host : String) : Except Fault (String × Option ℕ) → Prop
  | malformed (fault : Fault) (h : Malformed host fault) : Splits host (.error fault)
  | address (a : String) (h : host = "[" ++ a ++ "]") (ha : ']' ∉ a.toList) :
      Splits host (.ok (a, none))
  | addressPort (a port : String) (p : ℕ) (h : host = "[" ++ a ++ "]:" ++ port)
      (ha : ']' ∉ a.toList) (hp : readUnsigned? maxPort port = some p) :
      Splits host (.ok (a, some p))
  | namePort (name port : String) (p : ℕ) (h : host = name ++ ":" ++ port) (hname : IsName name)
      (hp : readUnsigned? maxPort port = some p) : Splits host (.ok (name, some p))
  | whole (hbracket : host.toList.head? ≠ some '[')
      (hcolon : host.toList.count ':' ≠ 1 ∨ host.toList.head? = some ':') :
      Splits host (.ok (host, none))

/-! ### Hosts in brackets -/

lemma withPort_of_some (address : String) (hp : readUnsigned? maxPort port = some p) :
    withPort host address.toList port.toList = .ok (address, some p) := by
  simp only [withPort, String.ofList_toList, hp]

lemma withPort_of_none (address : String) (hp : readUnsigned? maxPort port = none) :
    withPort host address.toList port.toList = .error (.invalidPort host) := by
  simp only [withPort, String.ofList_toList, hp]

lemma splitHost_unterminated {rest : String} (hrest : ']' ∉ rest.toList) :
    splitHost ("[" ++ rest) = .error (.unterminatedAddress ("[" ++ rest)) := by
  have htext : ("[" ++ rest).toList = '[' :: rest.toList := by simp
  simp only [splitHost, htext, cut?_of_notMem hrest]

/-- What stands behind the first closing bracket decides. -/
lemma splitHost_bracket {a : String} (rest : String) (h : host = "[" ++ a ++ "]" ++ rest)
    (ha : ']' ∉ a.toList) :
    splitHost host
      = match rest.toList with
        | [] => .ok (a, none)
        | ':' :: port => withPort host a.toList port
        | _ => .error (.invalidPort host) := by
  have htext : host.toList = '[' :: (a.toList ++ ']' :: rest.toList) := by simp [h]
  simp only [splitHost, htext, cut?_append ha]
  rcases rest.toList with _ | ⟨c, port⟩
  · simp
  · by_cases hc : c = ':'
    · simp [hc]
    · simp [hc]

lemma splitHost_address {a : String} (ha : ']' ∉ a.toList) :
    splitHost ("[" ++ a ++ "]") = .ok (a, none) := by
  rw [splitHost_bracket "" (by simp) ha]
  rfl

lemma splitHost_addressPort {a : String} (ha : ']' ∉ a.toList)
    (hp : readUnsigned? maxPort port = some p) :
    splitHost ("[" ++ a ++ "]:" ++ port) = .ok (a, some p) := by
  have hrest : (":" ++ port).toList = ':' :: port.toList := by simp
  rw [splitHost_bracket (":" ++ port) (String.toList_injective (by simp)) ha, hrest]
  exact withPort_of_some a hp

lemma splitHost_behindAddress {a rest : String} (ha : ']' ∉ a.toList) (hrest : rest ≠ "")
    (hport : ∀ port, rest = ":" ++ port → readUnsigned? maxPort port = none) :
    splitHost ("[" ++ a ++ "]" ++ rest)
      = .error (.invalidPort ("[" ++ a ++ "]" ++ rest)) := by
  rw [splitHost_bracket rest rfl ha]
  split
  · rename_i hnil
    exact absurd (String.toList_eq_nil_iff.mp hnil) hrest
  · rename_i port hcolon
    have hread := hport (String.ofList port) (String.toList_injective (by simp [hcolon]))
    simp only [withPort, hread]
  · rfl

/-! ### Hosts without brackets -/

lemma splitHost_noBracket (h : host.toList.head? ≠ some '[') :
    splitHost host
      = if host.toList.count ':' > 1 then .ok (host, none)
        else match cut? ':' host.toList with
          | some (c :: name, port) => withPort host (c :: name) port
          | _ => .ok (host, none) := by
  unfold splitHost
  split
  · rename_i cs hcs
    exact absurd (by rw [hcs]; rfl) h
  · rfl

lemma splitHost_name (hname : IsName name) (hcolon : ':' ∉ port.toList) :
    splitHost (name ++ ":" ++ port)
      = withPort (name ++ ":" ++ port) name.toList port.toList := by
  have htext : (name ++ ":" ++ port).toList = name.toList ++ ':' :: port.toList := by simp
  obtain ⟨c, cs, hcs⟩ := List.exists_cons_of_ne_nil
    (fun hnil => hname.ne_empty (String.toList_eq_nil_iff.mp hnil))
  have hbracket : (name ++ ":" ++ port).toList.head? ≠ some '[' := by
    have hhead := hname.not_bracket
    rw [hcs] at hhead
    rwa [htext, hcs]
  have hcount : ¬(name ++ ":" ++ port).toList.count ':' > 1 := by
    rw [htext, List.count_append, List.count_cons_self, List.count_eq_zero.mpr hname.not_colon,
      List.count_eq_zero.mpr hcolon]
    decide
  rw [splitHost_noBracket hbracket, if_neg hcount, htext, cut?_append hname.not_colon, hcs]

lemma splitHost_whole (hbracket : host.toList.head? ≠ some '[')
    (hcolon : host.toList.count ':' ≠ 1 ∨ host.toList.head? = some ':') :
    splitHost host = .ok (host, none) := by
  rw [splitHost_noBracket hbracket]
  by_cases hmany : host.toList.count ':' > 1
  · rw [if_pos hmany]
  rw [if_neg hmany]
  rcases hcolon with hcount | hhead
  · have hnone : ':' ∉ host.toList := List.count_eq_zero.mp (by omega)
    rw [cut?_of_notMem hnone]
  · obtain ⟨cs, hcs⟩ := List.head?_eq_some_iff.mp hhead
    rw [hcs]
    simp [cut?]

/-! ### Every host -/

lemma Malformed.splitHost_eq {fault : Fault} (h : Malformed host fault) :
    splitHost host = .error fault := by
  cases h with
  | unterminated rest h hrest => exact h ▸ splitHost_unterminated hrest
  | behindAddress a rest h ha hrest hport => exact h ▸ splitHost_behindAddress ha hrest hport
  | behindName name port h hname hcolon hp =>
    rw [h, splitHost_name hname hcolon, withPort_of_none name hp]

/-- At most one rule applies to a host, -/
lemma Splits.eq {r : Except Fault (String × Option ℕ)} (h : Splits host r) :
    splitHost host = r := by
  cases h with
  | malformed fault h => exact h.splitHost_eq
  | address a h ha => exact h ▸ splitHost_address ha
  | addressPort a port p h ha hp => exact h ▸ splitHost_addressPort ha hp
  | namePort name port p h hname hp =>
    rw [h, splitHost_name hname (not_colon_of_readUnsigned? hp), withPort_of_some name hp]
  | whole hbracket hcolon => exact splitHost_whole hbracket hcolon

lemma exists_splits_bracket (rest : String) : ∃ r, Splits ("[" ++ rest) r := by
  by_cases hclosed : ']' ∈ rest.toList
  · obtain ⟨a, behind, htext, ha⟩ := List.eq_append_cons_of_mem hclosed
    have hhost : "[" ++ rest = "[" ++ String.ofList a ++ "]" ++ String.ofList behind :=
      String.toList_injective (by simp [htext])
    have ha : ']' ∉ (String.ofList a).toList := by rwa [String.toList_ofList]
    rw [hhost]
    generalize String.ofList a = a at ha
    generalize String.ofList behind = behind
    by_cases hnone : behind = ""
    · exact ⟨_, .address a (by simp [hnone]) ha⟩
    by_cases hport : ∃ port p, behind = ":" ++ port ∧ readUnsigned? maxPort port = some p
    · obtain ⟨port, p, rfl, hp⟩ := hport
      exact ⟨_, .addressPort a port p (String.toList_injective (by simp)) ha hp⟩
    · refine ⟨_, .malformed _ (.behindAddress a behind rfl ha hnone fun port hbehind => ?_)⟩
      exact Option.eq_none_iff_forall_ne_some.mpr fun p hp => hport ⟨port, p, hbehind, hp⟩
  · exact ⟨_, .malformed _ (.unterminated rest rfl hclosed)⟩

lemma exists_splits_noBracket (h : host.toList.head? ≠ some '[') : ∃ r, Splits host r := by
  by_cases hwhole : host.toList.count ':' ≠ 1 ∨ host.toList.head? = some ':'
  · exact ⟨_, .whole h hwhole⟩
  rw [not_or, not_not] at hwhole
  obtain ⟨hcount, hhead⟩ := hwhole
  obtain ⟨name, port, htext, hname⟩ := List.eq_append_cons_of_mem
    (List.count_pos_iff.mp (hcount ▸ Nat.one_pos))
  have hport : ':' ∉ port := by
    rw [htext, List.count_append, List.count_cons_self, List.count_eq_zero.mpr hname] at hcount
    exact List.count_eq_zero.mp (by omega)
  have hhost : host = String.ofList name ++ ":" ++ String.ofList port :=
    String.toList_injective (by simp [htext])
  have hisName : IsName (String.ofList name) := by
    rcases name with _ | ⟨c, cs⟩
    · exact absurd (by rw [htext]; rfl) hhead
    · rw [htext] at h
      exact ⟨by simp, by simpa using h, by rwa [String.toList_ofList]⟩
  cases hp : readUnsigned? maxPort (String.ofList port) with
  | none =>
    have hcolon : ':' ∉ (String.ofList port).toList := by rwa [String.toList_ofList]
    exact ⟨_, .malformed _ (.behindName _ _ hhost hisName hcolon hp)⟩
  | some p => exact ⟨_, .namePort _ _ p hhost hisName hp⟩

/-- and one does. -/
lemma splits_splitHost (host : String) : Splits host (splitHost host) := by
  have hsome : ∃ r, Splits host r := by
    by_cases hbracket : host.toList.head? = some '['
    · obtain ⟨cs, hcs⟩ := List.head?_eq_some_iff.mp hbracket
      have hhost : host = "[" ++ String.ofList cs := String.toList_injective (by simp [hcs])
      exact hhost ▸ exists_splits_bracket (String.ofList cs)
    · exact exists_splits_noBracket hbracket
  obtain ⟨r, hr⟩ := hsome
  rwa [hr.eq]

lemma splitHost_eq_iff {r : Except Fault (String × Option ℕ)} :
    splitHost host = r ↔ Splits host r :=
  ⟨fun h => h ▸ splits_splitHost host, Splits.eq⟩

lemma splitHost_eq_some_iff {a : String} :
    splitHost host = .ok (a, some p)
      ↔ ∃ port, readUnsigned? maxPort port = some p
        ∧ (IsName a ∧ host = a ++ ":" ++ port
          ∨ ']' ∉ a.toList ∧ host = "[" ++ a ++ "]:" ++ port) := by
  rw [splitHost_eq_iff]
  constructor
  · intro h
    cases h with
    | addressPort _ port _ h ha hp => exact ⟨port, hp, .inr ⟨ha, h⟩⟩
    | namePort _ port _ h hname hp => exact ⟨port, hp, .inl ⟨hname, h⟩⟩
  · rintro ⟨port, hp, ⟨hname, h⟩ | ⟨ha, h⟩⟩
    · exact .namePort a port p h hname hp
    · exact .addressPort a port p h ha hp

lemma splitHost_eq_none_iff {a : String} :
    splitHost host = .ok (a, none)
      ↔ ']' ∉ a.toList ∧ host = "[" ++ a ++ "]"
        ∨ host = a ∧ a.toList.head? ≠ some '['
          ∧ (a.toList.count ':' ≠ 1 ∨ a.toList.head? = some ':') := by
  rw [splitHost_eq_iff]
  constructor
  · intro h
    cases h with
    | address _ h ha => exact .inl ⟨ha, h⟩
    | whole hbracket hcolon => exact .inr ⟨rfl, hbracket, hcolon⟩
  · rintro (⟨ha, h⟩ | ⟨rfl, hbracket, hcolon⟩)
    · exact .address a h ha
    · exact .whole hbracket hcolon

lemma splitHost_eq_error_iff {fault : Fault} :
    splitHost host = .error fault ↔ Malformed host fault := by
  refine ⟨fun h => ?_, Malformed.splitHost_eq⟩
  cases splitHost_eq_iff.mp h with
  | malformed _ h => exact h

/-! ### Configurations -/

/-- No store is set up for a malformed host. -/
lemma connect_of_malformed {fresh : Paging.Key} {env : Environment} {server : Store.Server}
    {c : Config} {cursor : Paging.Cursor} {fault : Fault}
    (hcursor : Store.cursorOf fresh c = .ok cursor) (h : Malformed c.host fault) :
    Store.connect fresh env server c = .error (.invalidConfig fault) := by
  have hendpoint : c.endpoint env = .error fault := by
    rw [endpoint, h.splitHost_eq]
    rfl
  rw [Store.connect, hcursor, hendpoint]
  rfl

/-- **Hosts are split at their port and nowhere else.** A host is a name or an address in brackets
with a port behind it, or it is an address in brackets, or it is left as it is; each text that is
split is put together again from what it is split into. The malformed ones are refused, and with
them the configuration that names them. -/
theorem hosts_split_exactly :
    (∀ name p, IsName name → p ≤ maxPort
      → splitHost (name ++ ":" ++ toString p) = .ok (name, some p))
    ∧ (∀ a p, ']' ∉ a.toList → p ≤ maxPort
      → splitHost ("[" ++ a ++ "]:" ++ toString p) = .ok (a, some p))
    ∧ (∀ host a p, splitHost host = .ok (a, some p)
      ↔ ∃ port, readUnsigned? maxPort port = some p
        ∧ (IsName a ∧ host = a ++ ":" ++ port
          ∨ ']' ∉ a.toList ∧ host = "[" ++ a ++ "]:" ++ port))
    ∧ (∀ host a, splitHost host = .ok (a, none)
      ↔ ']' ∉ a.toList ∧ host = "[" ++ a ++ "]"
        ∨ host = a ∧ a.toList.head? ≠ some '['
          ∧ (a.toList.count ':' ≠ 1 ∨ a.toList.head? = some ':'))
    ∧ (∀ host fault, splitHost host = .error fault ↔ Malformed host fault)
    ∧ ∀ fresh env server c cursor fault, Store.cursorOf fresh c = .ok cursor
      → Malformed c.host fault
      → Store.connect fresh env server c = .error (.invalidConfig fault) := by
  refine ⟨fun name p hname hp => ?_, fun a p ha hp => ?_, fun host a p => splitHost_eq_some_iff,
    fun host a => splitHost_eq_none_iff, fun host fault => splitHost_eq_error_iff,
    fun fresh env server c cursor fault => connect_of_malformed⟩
  · exact splitHost_eq_some_iff.mpr
      ⟨toString p, readUnsigned?_toString hp, .inl ⟨hname, rfl⟩⟩
  · exact splitHost_addressPort ha (readUnsigned?_toString hp)

/-- Colons in an address, in front of everything, and where only a port could be. -/
theorem hosts_split_exactly_colons :
    splitHost "db:6543" = .ok ("db", some 6543)
      ∧ splitHost "db:+08" = .ok ("db", some 8)
      ∧ splitHost "[fe80::1]:6543" = .ok ("fe80::1", some 6543)
      ∧ splitHost "fe80::1:6543" = .ok ("fe80::1:6543", none)
      ∧ splitHost ":6543" = .ok (":6543", none)
      ∧ splitHost "[fe80::1]6543" = .error (.invalidPort "[fe80::1]6543")
      ∧ splitHost "[fe80::1:6543" = .error (.unterminatedAddress "[fe80::1:6543") := by
  obtain ⟨hname, haddress, hsome, hnone, herror, -⟩ := hosts_split_exactly
  have hdb : IsName "db" := ⟨by decide, by decide, by decide⟩
  refine ⟨hname "db" 6543 hdb (by decide),
    (hsome _ _ _).mpr ⟨"+08", by decide +kernel, .inl ⟨hdb, rfl⟩⟩,
    haddress "fe80::1" 6543 (by decide) (by decide), (hnone _ _).mpr (.inr ⟨rfl, by decide⟩),
    (hnone _ _).mpr (.inr ⟨rfl, by decide⟩), ?_, (herror _ _).mpr ?_⟩
  · refine (herror _ _).mpr (.behindAddress "fe80::1" "6543" rfl (by decide) (by decide) ?_)
    intro port hport
    have hhead := congrArg (·.toList.head?) hport
    simp at hhead
  · exact .unterminated "fe80::1:6543" rfl (by decide)

end Catalog.Config
