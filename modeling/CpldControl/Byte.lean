/-!
# Bytes and their bits

Register contents, register addresses and everything that travels over the bus
are bytes.  Control lines are single bits of a byte, so this module gives the
view of a byte as eight levels, numbered from the least significant, and the
update of one of them.

The main statement is `bit_withBit`: an update sets its own bit and keeps
the seven others.
-/

namespace CpldControl

abbrev Byte := BitVec 8

namespace Byte

def bit (b : Byte) (i : Fin 8) : Bool :=
  b.getLsbD i.val

def withBit (b : Byte) (i : Fin 8) (level : Bool) : Byte :=
  if level then b ||| (1#8 <<< i.val) else b &&& ~~~(1#8 <<< i.val)

theorem eq_of_bit_eq {b c : Byte} (h : ∀ i : Fin 8, b.bit i = c.bit i) :
    b = c := by
  apply BitVec.eq_of_getLsbD_eq
  intro i hi
  exact h ⟨i, hi⟩

theorem bit_withBit (b : Byte) (i j : Fin 8) (level : Bool) :
    (b.withBit i level).bit j = if j = i then level else b.bit j := by
  have hj := j.isLt
  by_cases hij : j = i
  · subst hij
    cases level <;> simp [withBit, bit, hj]
  · have hne : j.val ≠ i.val := fun h => hij (Fin.ext h)
    have hsub : ¬ j.val < i.val -> j.val - i.val ≠ 0 := by omega
    cases level <;>
      by_cases hlt : j.val < i.val <;>
        simp_all [withBit, bit]

@[simp] theorem bit_withBit_self (b : Byte) (i : Fin 8) (level : Bool) :
    (b.withBit i level).bit i = level := by
  simp [bit_withBit]

theorem bit_withBit_of_ne {b : Byte} {i j : Fin 8} {level : Bool} (h : j ≠ i) :
    (b.withBit i level).bit j = b.bit j := by
  simp [bit_withBit, h]

theorem withBit_bit_self (b : Byte) (i : Fin 8) :
    b.withBit i (b.bit i) = b := by
  apply eq_of_bit_eq
  intro j
  rw [bit_withBit]
  split
  next h => rw [h]
  next => rfl

def ofLevel (level : Bool) : Byte :=
  if level then 1 else 0

/-!
# Changes given by masks
-/

/-- A change of a byte: clear the bits outside `keep`, set those of `raise`, and
then flip those of `toggle`. -/
structure Masks where
  keep : Byte
  raise : Byte
  toggle : Byte
deriving DecidableEq

def Masks.apply (m : Masks) (b : Byte) : Byte :=
  ((b &&& m.keep) ||| m.raise) ^^^ m.toggle

end Byte
end CpldControl
