import CpldControl.AddressMap
import CpldControl.Chip.Signal

/-!
# Registers as a store of independent bits

The chip keeps ninety levels and a scratch byte.  Though the levels share bytes,
each of them behaves as a cell of its own: it holds what was last put there, and
putting something there moves no other cell.

The main statements are `ofRegisters_foldl`, that commands carried out on the
registers one after another act on the store of cells, and
`bit_foldl_of_not_touches`, that they leave all other bits alone.
-/

namespace CpldControl

open Chip (Register Signal)

inductive Command where
  | drive (s : Signal) (level : Bool)
  | fill (value : Byte)

namespace Command

def level? (s : Signal) : Command -> Option Bool
  | drive t level => if t = s then some level else none
  | fill _ => none

def scratch? : Command -> Option Byte
  | drive _ _ => none
  | fill value => some value

def apply (registers : AddressMap Byte) : Command -> AddressMap Byte
  | drive s level =>
      registers.set s.register.address (s.driveIn (registers.get s.register.address) level)
  | fill value => registers.set Register.scratch.address value

def Touches (address : Byte) (i : Fin 8) : Command -> Prop
  | drive s _ => s.register.address = address ∧ s.bit = i
  | fill _ => Register.scratch.address = address

theorem scratch_not_signal (s : Signal) : s.register ≠ .scratch := by
  cases s <;> simp [Signal.register, Register.ofCage]

theorem bit_apply_of_not_touches {c : Command} {address : Byte} {i : Fin 8}
    (h : ¬ c.Touches address i) (registers : AddressMap Byte) :
    ((c.apply registers).get address).bit i = (registers.get address).bit i := by
  cases c with
  | drive s level =>
      unfold apply
      rw [AddressMap.get_set]
      by_cases haddress : address = s.register.address
      · have hbit : i ≠ s.bit := fun hi => h ⟨haddress.symm, hi.symm⟩
        rw [if_pos haddress, haddress, Signal.driveIn, Byte.bit_withBit_of_ne hbit]
      · rw [if_neg haddress]
  | fill value =>
      unfold apply
      rw [AddressMap.get_set_of_ne (fun haddress => h haddress.symm)]

theorem touches_signal_iff {c : Command} {s : Signal} :
    c.Touches s.register.address s.bit ↔ exists level, c = drive s level := by
  cases c with
  | drive t level =>
      constructor
      · rintro ⟨haddress, hbit⟩
        have hts : t = s := Signal.eq_of_place_eq (Register.address_injective haddress) hbit
        exact ⟨level, by rw [hts]⟩
      · rintro ⟨level', h⟩
        cases h
        exact ⟨rfl, rfl⟩
  | fill value =>
      constructor
      · intro haddress
        exact absurd (Register.address_injective haddress).symm (scratch_not_signal s)
      · rintro ⟨level, h⟩
        cases h

theorem levelIn_apply (c : Command) (registers : AddressMap Byte) (s : Signal) :
    s.levelIn ((c.apply registers).get s.register.address) =
      (c.level? s).getD (s.levelIn (registers.get s.register.address)) := by
  by_cases h : c.Touches s.register.address s.bit
  · rcases touches_signal_iff.mp h with ⟨level, rfl⟩
    simp [apply, level?]
  · have hlevel : c.level? s = none := by
      cases c with
      | drive t level =>
          have hts : t ≠ s := by
            rintro rfl
            exact h ⟨rfl, rfl⟩
          exact if_neg hts
      | fill value => rfl
    rw [hlevel]
    exact bit_apply_of_not_touches h registers

theorem scratch_apply (c : Command) (registers : AddressMap Byte) :
    (c.apply registers).get Register.scratch.address =
      c.scratch?.getD (registers.get Register.scratch.address) := by
  cases c with
  | drive s level =>
      have haddress : Register.scratch.address ≠ s.register.address := fun h =>
        scratch_not_signal s (Register.address_injective h).symm
      exact AddressMap.get_set_of_ne haddress
  | fill value => exact AddressMap.get_set_self _ _ _

end Command

/-!
# The store
-/

structure BitStore where
  level : Signal -> Bool
  scratch : Byte

namespace BitStore

def ofRegisters (registers : AddressMap Byte) : BitStore where
  level := fun s => s.levelIn (registers.get s.register.address)
  scratch := registers.get Register.scratch.address

def after (store : BitStore) (commands : List Command) : BitStore where
  level := fun s => (commands.filterMap (Command.level? s)).getLast?.getD (store.level s)
  scratch := (commands.filterMap Command.scratch?).getLast?.getD store.scratch

theorem getLast?_filterMap_cons {α β : Type} (f : α -> Option β) (x : α) (rest : List α)
    (start : β) :
    ((x :: rest).filterMap f).getLast?.getD start =
      (rest.filterMap f).getLast?.getD ((f x).getD start) := by
  cases hx : f x with
  | none => simp [hx]
  | some y =>
      rw [List.filterMap_cons_some hx, List.getLast?_cons]
      rfl

theorem getLast?_filterMap_of_forall {α β : Type} {f : α -> Option β} {xs : List α} {x : α}
    {y : β} (hx : x ∈ xs) (hy : f x = some y)
    (hall : forall x, x ∈ xs -> forall z, f x = some z -> z = y) (start : β) :
    (xs.filterMap f).getLast?.getD start = y := by
  have hmem : y ∈ xs.filterMap f := List.mem_filterMap.mpr ⟨x, hx, hy⟩
  cases hlast : (xs.filterMap f).getLast? with
  | none =>
      rw [List.getLast?_eq_none_iff.mp hlast] at hmem
      cases hmem
  | some z =>
      rcases List.mem_filterMap.mp (List.mem_of_getLast? hlast) with ⟨x', hx', hz⟩
      exact hall x' hx' z hz

theorem after_singleton (store : BitStore) (c : Command) :
    store.after [c] =
      { level := fun s => (c.level? s).getD (store.level s)
        scratch := c.scratch?.getD store.scratch } := by
  simp only [after, getLast?_filterMap_cons]
  rfl

theorem after_cons (store : BitStore) (c : Command) (rest : List Command) :
    store.after (c :: rest) = (store.after [c]).after rest := by
  rw [after_singleton]
  simp only [after, getLast?_filterMap_cons]

theorem ofRegisters_apply (c : Command) (registers : AddressMap Byte) :
    ofRegisters (c.apply registers) = (ofRegisters registers).after [c] := by
  rw [after_singleton]
  simp only [ofRegisters, Command.levelIn_apply, Command.scratch_apply]

theorem ofRegisters_foldl (commands : List Command) (registers : AddressMap Byte) :
    ofRegisters (commands.foldl Command.apply registers) =
      (ofRegisters registers).after commands := by
  induction commands generalizing registers with
  | nil => rfl
  | cons c rest ih =>
      rw [List.foldl_cons, ih, ofRegisters_apply, ← after_cons]

theorem bit_foldl_of_not_touches {commands : List Command} {address : Byte} {i : Fin 8}
    (h : forall c, c ∈ commands -> ¬ c.Touches address i) (registers : AddressMap Byte) :
    ((commands.foldl Command.apply registers).get address).bit i =
      (registers.get address).bit i := by
  induction commands generalizing registers with
  | nil => rfl
  | cons c rest ih =>
      rw [List.foldl_cons, ih (fun d hd => h d (List.mem_cons_of_mem c hd))]
      exact Command.bit_apply_of_not_touches (h c List.mem_cons_self) registers

end BitStore
end CpldControl
