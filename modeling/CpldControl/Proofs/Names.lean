import Mathlib.Data.List.Basic
import Mathlib.Data.List.Infix
import CpldControl.Device.Attribute

/-!
# Names and the look-up by name

Names are looked up in the table by comparing them with every entry, so a look-up
finds what it should only if no two names agree.  They differ in more than that: no
name is a part of another.  The name of a cage line starts with a letter that no
other name has.  The number of the cage comes next, and the underscore behind it,
which is no digit, separates it from the suffix.

The main statement is `find?_eq_some_iff`: a name finds the attribute that
carries it and no other.
-/

namespace CpldControl
namespace Chip

/-!
# Names of cage lines
-/

namespace CageLine

theorem eq_of_suffix_isPrefix {line line' : CageLine}
    (h : line.suffix.toList <+: line'.suffix.toList) : line = line' := by
  revert h
  cases line <;> cases line' <;> decide

theorem underscore_notMem_suffix (line : CageLine) : '_' ∉ line.suffix.toList := by
  cases line <;> decide

/-- The name of a line at a cage of the given number, whether there is one or not. -/
def nameAt (line : CageLine) (number : Nat) : String :=
  "qsfp" ++ Text.decimal number ++ "_" ++ line.suffix

theorem toList_nameAt (line : CageLine) (number : Nat) :
    (line.nameAt number).toList =
      ['q', 's', 'f', 'p'] ++ (Nat.toDigits 10 number ++ '_' :: line.suffix.toList) := by
  simp [nameAt, Text.decimal]

theorem notMem_toDigits {c : Char} (hc : c.isDigit = false) (number : Nat) :
    c ∉ Nat.toDigits 10 number := by
  intro hmem
  rw [Nat.isDigit_of_mem_toDigits (by decide) (by decide) hmem] at hc
  cases hc

theorem q_mem_nameAt (line : CageLine) (number : Nat) : 'q' ∈ (line.nameAt number).toList := by
  rw [toList_nameAt]
  exact List.mem_cons_self

theorem eq_of_nameAt_isInfix {line line' : CageLine} {number number' : Nat}
    (h : (line.nameAt number).toList <:+: (line'.nameAt number').toList) :
    line = line' ∧ number = number' := by
  rcases h with ⟨front, back, hchars⟩
  rw [toList_nameAt, toList_nameAt, List.append_assoc front, List.append_assoc] at hchars
  -- the letter at the head is nowhere else, so that nothing stands before it
  have htail : 'q' ∉ ['s', 'f', 'p'] ++ (Nat.toDigits 10 number' ++ '_' :: line'.suffix.toList) := by
    have hsuffix : 'q' ∉ line'.suffix.toList := by
      cases line' <;> decide
    simp [notMem_toDigits, hsuffix]
  have hhead := (List.append_cons_inj_of_notMem List.not_mem_nil htail).mp hchars.symm
  have hnumbers := (List.append_right_inj ['s', 'f', 'p']).mp hhead.2.2
  rw [List.append_assoc] at hnumbers
  -- the underscore is the only one, too
  have hsplit := (List.append_cons_inj_of_notMem (notMem_toDigits rfl number')
    line'.underscore_notMem_suffix).mp hnumbers
  constructor
  · exact eq_of_suffix_isPrefix ⟨back, hsplit.2.2.symm⟩
  · calc
      number = Nat.ofDigitChars 10 (Nat.toDigits 10 number) 0 :=
        Nat.ofDigitChars_ten_toDigits.symm
      _ = Nat.ofDigitChars 10 (Nat.toDigits 10 number') 0 := by rw [hsplit.1]
      _ = number' := Nat.ofDigitChars_ten_toDigits

theorem nameAt_injective {line line' : CageLine} {number number' : Nat}
    (h : line.nameAt number = line'.nameAt number') : line = line' ∧ number = number' := by
  apply eq_of_nameAt_isInfix
  rw [h]

theorem not_pair_infix_nameAt {c : Char} (hc : c.isDigit = false) (line : CageLine)
    (number : Nat) : ¬ [c, '_'] <:+: (line.nameAt number).toList := by
  rintro ⟨front, back, hchars⟩
  have hpair : front ++ [c, '_'] ++ back = (front ++ [c]) ++ '_' :: back := by
    simp
  rw [toList_nameAt, ← List.append_assoc, hpair] at hchars
  have hunderscore : '_' ∉ ['q', 's', 'f', 'p'] ++ Nat.toDigits 10 number := by
    simp [notMem_toDigits]
  have hfront := ((List.append_cons_inj_of_notMem hunderscore
    line.underscore_notMem_suffix).mp hchars.symm).1
  have hlast : (Nat.toDigits 10 number).getLast? = some c := by
    have hall := congrArg List.getLast? hfront
    rwa [List.getLast?_append_of_ne_nil _ Nat.toDigits_ne_nil, List.getLast?_concat] at hall
  exact notMem_toDigits hc number (List.mem_of_getLast? hlast)

end CageLine

namespace Signal

theorem name_cageLine (line : CageLine) (cage : Cage) :
    (cageLine line cage).name = line.nameAt cage.number := rfl

end Signal
end Chip

/-!
# Names of attributes
-/

namespace Device

open Chip (Cage CageLine Signal)

namespace Attribute

def fixed : List Attribute :=
  [identity .codeVersion, identity .codeKind, identity .codeDay, identity .codeMonth,
    identity .codeYear, scratch] ++ Signal.fixed.map signal

theorem fixed_or_cageLine (a : Attribute) :
    a ∈ fixed ∨ exists line cage, a = signal (.cageLine line cage) := by
  cases a with
  | identity field =>
      left
      cases field <;> decide
  | scratch =>
      left
      decide
  | signal s =>
      rcases Signal.mem_fixed_or_cageLine s with hs | ⟨line, cage, rfl⟩
      · exact .inl (List.mem_append_right _ (List.mem_map_of_mem hs))
      · exact .inr ⟨line, cage, rfl⟩

theorem eq_of_fixed_name_isInfix {a b : Attribute} (ha : a ∈ fixed) (hb : b ∈ fixed)
    (h : a.name.toList <:+: b.name.toList) : a = b := by
  have hall : forall a, a ∈ fixed -> forall b, b ∈ fixed ->
      a.name.toList <:+: b.name.toList -> a = b := by
    decide +kernel
  exact hall a ha b hb h

theorem q_notMem_fixed_name {a : Attribute} (ha : a ∈ fixed) : 'q' ∉ a.name.toList := by
  revert a
  decide +kernel

/-- A fixed name has a `c` or a letter before an underscore, the name of a line neither. -/
theorem not_fixed_name_infix_nameAt {a : Attribute} (ha : a ∈ fixed) (line : CageLine)
    (number : Nat) : ¬ a.name.toList <:+: (line.nameAt number).toList := by
  have hmarks : forall a, a ∈ fixed -> 'c' ∈ a.name.toList ∨
      ['d', 't', 's', 'p'].any (fun c => [c, '_'] <:+: a.name.toList) = true := by
    decide +kernel
  intro h
  rcases hmarks a ha with hmem | hmark
  · have hother : 'c' ∉ (line.nameAt number).toList := by
      have hsuffix : 'c' ∉ line.suffix.toList := by
        cases line <;> decide
      simp [CageLine.toList_nameAt, CageLine.notMem_toDigits, hsuffix]
    exact hother (h.subset hmem)
  · rcases List.any_eq_true.mp hmark with ⟨c, hc, hpair⟩
    have hletters : ['d', 't', 's', 'p'].all (fun c => c.isDigit = false) = true := by
      decide
    have hletter := of_decide_eq_true (List.all_eq_true.mp hletters c hc)
    exact CageLine.not_pair_infix_nameAt hletter line number
      ((of_decide_eq_true hpair).trans h)

theorem eq_of_name_isInfix {a b : Attribute} (h : a.name.toList <:+: b.name.toList) : a = b := by
  rcases fixed_or_cageLine a with ha | ⟨line, cage, rfl⟩
  · rcases fixed_or_cageLine b with hb | ⟨line', cage', rfl⟩
    · exact eq_of_fixed_name_isInfix ha hb h
    · exact absurd h (not_fixed_name_infix_nameAt ha line' cage'.number)
  · rcases fixed_or_cageLine b with hb | ⟨line', cage', rfl⟩
    · exact absurd (h.subset (line.q_mem_nameAt cage.number)) (q_notMem_fixed_name hb)
    · rcases CageLine.eq_of_nameAt_isInfix h with ⟨rfl, hnumber⟩
      rw [Cage.number_injective hnumber]

theorem name_injective {a b : Attribute} (h : a.name = b.name) : a = b := by
  apply eq_of_name_isInfix
  rw [h]

theorem find?_eq_some_iff {name : String} {a : Attribute} :
    find? name = some a ↔ a.name = name := by
  constructor
  · exact name_of_find?_eq_some
  · rintro rfl
    cases hfind : find? a.name with
    | some b => rw [name_injective (name_of_find?_eq_some hfind)]
    | none =>
        have hnone := List.find?_eq_none.mp hfind a (mem_catalog a)
        simp at hnone

@[simp] theorem find?_name (a : Attribute) : find? a.name = some a :=
  find?_eq_some_iff.mpr rfl

theorem exists_cage_of_name_eq {a : Attribute} {line : CageLine} {number : Nat}
    (h : a.name = line.nameAt number) :
    exists cage : Cage, cage.number = number ∧ a = signal (.cageLine line cage) := by
  rcases fixed_or_cageLine a with ha | ⟨line', cage, rfl⟩
  · refine absurd ?_ (not_fixed_name_infix_nameAt ha line number)
    rw [h]
  · rcases CageLine.nameAt_injective h with ⟨rfl, hnumber⟩
    exact ⟨cage, hnumber, rfl⟩

end Attribute
end Device

/-!
# Names of signals
-/

namespace Chip.Signal

theorem name_injective {s t : Signal} (h : s.name = t.name) : s = t :=
  Device.Attribute.signal.inj (Device.Attribute.name_injective h)

theorem find?_eq_some_iff {name : String} {s : Signal} :
    find? name = some s ↔ s.name = name := by
  constructor
  · exact name_of_find?_eq_some
  · rintro rfl
    cases hfind : find? s.name with
    | some t => rw [name_injective (name_of_find?_eq_some hfind)]
    | none =>
        have hnone := List.find?_eq_none.mp hfind s (mem_all s)
        simp at hnone

@[simp] theorem find?_name (s : Signal) : find? s.name = some s :=
  find?_eq_some_iff.mpr rfl

theorem attribute_find?_of_find? {name : String} {s : Signal} (h : find? name = some s) :
    Device.Attribute.find? name = some (.signal s) :=
  Device.Attribute.find?_eq_some_iff.mpr (name_of_find?_eq_some h)

end Chip.Signal
end CpldControl
