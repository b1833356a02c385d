import CpldControl.Byte

/-!
# Tables indexed by a register address

A register address is one byte, so a table holds exactly 256 values and every
look-up succeeds.  The same type serves the register file of a chip and the
faults planted on it.

After `get_const` and `get_set` nothing needs to look inside a table:
two tables that agree at every address are equal (`ext_get`).
-/

namespace CpldControl

structure AddressMap (α : Type) where
  cells : Vector α 256
deriving DecidableEq

namespace AddressMap

variable {α : Type}

def const (value : α) : AddressMap α :=
  ⟨Vector.replicate 256 value⟩

def get (m : AddressMap α) (address : Byte) : α :=
  have _h : address.toNat < 256 := address.isLt
  m.cells[address.toNat]

def set (m : AddressMap α) (address : Byte) (value : α) : AddressMap α :=
  ⟨m.cells.set address.toNat value address.isLt⟩

@[simp] theorem get_const (value : α) (address : Byte) :
    (const value).get address = value := by
  simp [const, get]

theorem get_set (m : AddressMap α) (address other : Byte) (value : α) :
    (m.set address value).get other =
      if other = address then value else m.get other := by
  by_cases h : other = address
  · subst h
    simp [get, set]
  · have hne : address.toNat ≠ other.toNat := by
      intro heq
      exact h (BitVec.eq_of_toNat_eq heq.symm)
    simp [get, set, h, hne]

@[simp] theorem get_set_self (m : AddressMap α) (address : Byte) (value : α) :
    (m.set address value).get address = value := by
  simp [get_set]

theorem get_set_of_ne {m : AddressMap α} {address other : Byte} {value : α}
    (h : other ≠ address) :
    (m.set address value).get other = m.get other := by
  simp [get_set, h]

theorem ext_get {m n : AddressMap α}
    (h : ∀ address, m.get address = n.get address) : m = n := by
  cases m with
  | mk xs =>
      cases n with
      | mk ys =>
          congr 1
          apply Vector.ext
          intro i hi
          have hcell := h (BitVec.ofNatLT i hi)
          simpa [get] using hcell

theorem set_get_self (m : AddressMap α) (address : Byte) :
    m.set address (m.get address) = m := by
  apply ext_get
  intro other
  rw [get_set]
  split
  next h => rw [h]
  next => rfl

theorem set_set (m : AddressMap α) (address : Byte) (first second : α) :
    (m.set address first).set address second = m.set address second := by
  apply ext_get
  intro other
  rw [get_set, get_set, get_set]
  split
  next => rfl
  next => rfl

end AddressMap
end CpldControl
