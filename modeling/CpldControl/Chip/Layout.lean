import CpldControl.Byte

/-!
# Bit fields of the registers

The data sheet's view of a register is a group of named fields, each a run of
consecutive bits.  Fields are read and replaced by masks, so a value is cut to
the width of its field and bits outside the field are kept.

The offsets are written out field by field here, and independently of the
places that the signal table gives to single lines.

The main statements are `bit_replace`, that a field is replaced in its own bits and
nowhere else, and `read_replace_self`, that it then reads as the value, cut to its width.
-/

namespace CpldControl
namespace Chip

/-- A run of `width` bits whose least significant bit is bit `shift`. -/
structure Field where
  label : String
  shift : Nat
  width : Nat
  fits : shift + width ≤ 8 := by decide
deriving DecidableEq

namespace Field

def mask (f : Field) : Byte :=
  (BitVec.allOnes f.width).setWidth 8

def window (f : Field) : Byte :=
  f.mask <<< f.shift

def read (f : Field) (b : Byte) : Byte :=
  (b >>> f.shift) &&& f.mask

def isSet (f : Field) (b : Byte) : Bool :=
  b &&& f.window != 0

/-- The byte with the field replaced by the low bits of a value. -/
def replace (f : Field) (b value : Byte) : Byte :=
  (b &&& ~~~f.window) ||| ((value &&& f.mask) <<< f.shift)

def cut (f : Field) (value : Byte) : Byte :=
  (value.setWidth f.width).setWidth 8

/-!
# The bits of a field
-/

def Covers (f : Field) (i : Fin 8) : Prop :=
  f.shift ≤ i.val ∧ i.val < f.shift + f.width

instance (f : Field) (i : Fin 8) : Decidable (f.Covers i) :=
  inferInstanceAs (Decidable (_ ∧ _))

theorem covers_iff {f : Field} {i : Fin 8} :
    f.Covers i ↔ f.shift ≤ i.val ∧ i.val - f.shift < f.width := by
  unfold Covers
  omega

theorem covers_shift_add {f : Field} {k : Nat} (hk : k < f.width) :
    f.Covers ⟨f.shift + k, by have hfits := f.fits; omega⟩ :=
  ⟨Nat.le_add_right _ _, Nat.add_lt_add_left hk _⟩

theorem getLsbD_mask (f : Field) (i : Nat) : f.mask.getLsbD i = decide (i < f.width) := by
  have hfits := f.fits
  have hwidth : i < f.width -> i < 8 := by omega
  simpa [mask] using hwidth

theorem and_mask (f : Field) (value : Byte) : value &&& f.mask = f.cut value := by
  apply BitVec.eq_of_getLsbD_eq
  intro i hi
  rw [BitVec.getLsbD_and, getLsbD_mask, cut, BitVec.getLsbD_setWidth, BitVec.getLsbD_setWidth,
    decide_eq_true hi, Bool.true_and, Bool.and_comm]

theorem bit_window (f : Field) (i : Fin 8) : f.window.bit i = decide (f.Covers i) := by
  rw [window, Byte.bit, BitVec.getLsbD_shiftLeft, getLsbD_mask]
  by_cases hshift : f.shift ≤ i.val
  · simp [covers_iff, hshift, Nat.not_lt_of_le hshift]
  · simp [covers_iff, hshift]

theorem bit_read (f : Field) (b : Byte) (i : Fin 8) :
    (f.read b).bit i = (b.getLsbD (f.shift + i.val) && decide (i.val < f.width)) := by
  rw [read, Byte.bit, BitVec.getLsbD_and, BitVec.getLsbD_ushiftRight, getLsbD_mask]

theorem read_eq_extractLsb' (f : Field) (b : Byte) :
    f.read b = (b.extractLsb' f.shift f.width).setWidth 8 := by
  apply BitVec.eq_of_getLsbD_eq
  intro i hi
  simp [read, mask, hi, Bool.and_comm]

theorem bit_replace (f : Field) (b value : Byte) (i : Fin 8) :
    (f.replace b value).bit i =
      if f.Covers i then value.getLsbD (i.val - f.shift) else b.bit i := by
  have hwindow := f.bit_window i
  rw [Byte.bit] at hwindow ⊢
  rw [replace, BitVec.getLsbD_or, BitVec.getLsbD_and, BitVec.getLsbD_not, hwindow,
    BitVec.getLsbD_shiftLeft, BitVec.getLsbD_and, getLsbD_mask]
  by_cases hcovers : f.Covers i
  · rcases covers_iff.mp hcovers with ⟨hshift, hwidth⟩
    simp [hcovers, hshift, hwidth]
  · have houtside : f.shift ≤ i.val -> ¬ i.val - f.shift < f.width := fun hshift hwidth =>
      hcovers (covers_iff.mpr ⟨hshift, hwidth⟩)
    by_cases hshift : f.shift ≤ i.val
    · simp [hcovers, houtside hshift, Byte.bit]
    · simp [hcovers, hshift, Byte.bit]

theorem bit_replace_of_not_covers {f : Field} {i : Fin 8} (h : ¬ f.Covers i) (b value : Byte) :
    (f.replace b value).bit i = b.bit i := by
  rw [bit_replace, if_neg h]

theorem read_congr {f : Field} {b c : Byte} (h : forall i, f.Covers i -> b.bit i = c.bit i) :
    f.read b = f.read c := by
  apply Byte.eq_of_bit_eq
  intro i
  rw [bit_read, bit_read]
  by_cases hi : i.val < f.width
  · have hbit : b.getLsbD (f.shift + i.val) = c.getLsbD (f.shift + i.val) :=
      h _ (covers_shift_add hi)
    rw [hbit]
  · simp [hi]

theorem read_replace_self (f : Field) (b value : Byte) :
    f.read (f.replace b value) = f.cut value := by
  rw [← and_mask]
  apply Byte.eq_of_bit_eq
  intro i
  rw [bit_read, Byte.bit, BitVec.getLsbD_and, getLsbD_mask]
  by_cases hi : i.val < f.width
  · have hfits := f.fits
    have hbit := f.bit_replace b value ⟨f.shift + i.val, by omega⟩
    rw [if_pos (covers_shift_add hi), Byte.bit, Nat.add_sub_cancel_left] at hbit
    rw [hbit]
  · simp [hi]

theorem read_eq_ushiftRight (f : Field) (b : Byte) : f.read b = (b &&& f.window) >>> f.shift := by
  apply BitVec.eq_of_getLsbD_eq
  intro i hi
  have hfits := f.fits
  have hinside : i < f.width -> f.shift + i < 8 := by omega
  rw [read, window, BitVec.getLsbD_ushiftRight, BitVec.getLsbD_and, BitVec.getLsbD_and,
    BitVec.getLsbD_ushiftRight, BitVec.getLsbD_shiftLeft, Nat.add_sub_cancel_left, getLsbD_mask]
  by_cases hwidth : i < f.width
  · simp [hwidth, hinside hwidth]
  · simp [hwidth]

theorem and_window (f : Field) (b : Byte) : b &&& f.window = f.read b <<< f.shift := by
  apply BitVec.eq_of_getLsbD_eq
  intro i hi
  rw [read, window, BitVec.getLsbD_shiftLeft, BitVec.getLsbD_and, BitVec.getLsbD_and,
    BitVec.getLsbD_ushiftRight, BitVec.getLsbD_shiftLeft, getLsbD_mask]
  by_cases hshift : i < f.shift
  · simp [hshift]
  · simp [hi, hshift, Nat.add_sub_cancel' (Nat.le_of_not_lt hshift)]

theorem isSet_eq (f : Field) (b : Byte) : f.isSet b = (f.read b != 0) := by
  have hzero : b &&& f.window = 0 ↔ f.read b = 0 := by
    constructor
    · intro h
      rw [read_eq_ushiftRight, h]
      exact BitVec.zero_ushiftRight
    · intro h
      rw [and_window, h]
      exact BitVec.zero_shiftLeft _
  rw [isSet, Bool.eq_iff_iff, bne_iff_ne, bne_iff_ne]
  exact not_congr hzero

/-!
# Fields of one bit
-/

theorem covers_iff_eq {f : Field} {i j : Fin 8} (hshift : f.shift = i.val)
    (hwidth : f.width = 1) : f.Covers j ↔ j = i := by
  rw [covers_iff, hshift, hwidth, Fin.ext_iff]
  omega

theorem replace_ofLevel {f : Field} {i : Fin 8} (hshift : f.shift = i.val)
    (hwidth : f.width = 1) (b : Byte) (level : Bool) :
    f.replace b (Byte.ofLevel level) = b.withBit i level := by
  apply Byte.eq_of_bit_eq
  intro j
  rw [bit_replace, Byte.bit_withBit, hshift]
  simp only [covers_iff_eq hshift hwidth]
  by_cases hj : j = i
  · rw [if_pos hj, if_pos hj, hj, Nat.sub_self]
    cases level <;> rfl
  · rw [if_neg hj, if_neg hj]

theorem isSet_eq_bit {f : Field} {i : Fin 8} (hshift : f.shift = i.val)
    (hwidth : f.width = 1) (b : Byte) : f.isSet b = b.bit i := by
  have hread : f.read b = f.cut (Byte.ofLevel (b.bit i)) := by
    rw [← read_replace_self, replace_ofLevel hshift hwidth, Byte.withBit_bit_self]
  rw [isSet_eq, hread, cut, hwidth]
  cases b.bit i <;> rfl

end Field

/-!
# The fields of each kind of register
-/

namespace Layout

def codeVersion : Field := { label := "VERSION", shift := 0, width := 6 }

/-- The kind of code.  Bit 6, between the two fields, is unused. -/
def codeKind : Field := { label := "TYPE", shift := 7, width := 1 }

def single (label : String) (shift : Nat) (h : shift + 1 ≤ 8 := by decide) : Field :=
  { label, shift, width := 1, fits := h }

inductive Group where
  | codeRevision
  | ledTest
  | reset
  | hitless
  | sfpStatus
  | sfpControl
  | lowCages
  | highCages
deriving DecidableEq

def Group.fields : Group -> List Field
  | codeRevision =>
      [codeVersion, codeKind]
  | ledTest =>
      [single "AMBER" 0, single "GREEN" 1, single "BLINK" 3, single "SRC_SEL" 7]
  | reset =>
      [single "PLD_SOFT" 0]
  | hitless =>
      [single "EN" 0]
  | sfpStatus =>
      [single "TX_FAULT" 4, single "RX_LOS" 5, single "PRS" 6]
  | sfpControl =>
      [single "TX_EN" 7]
  | lowCages =>
      [ single "QSFP17" 7, single "QSFP18" 6, single "QSFP19" 5, single "QSFP20" 4,
        single "QSFP21" 3, single "QSFP22" 2, single "QSFP23" 1, single "QSFP24" 0 ]
  | highCages =>
      [ single "QSFP25" 7, single "QSFP26" 6, single "QSFP27" 5, single "QSFP28" 4,
        single "QSFP29" 3, single "QSFP30" 2, single "QSFP31" 1, single "QSFP32" 0 ]

end Layout
end Chip
end CpldControl
