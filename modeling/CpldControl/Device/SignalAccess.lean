import CpldControl.Chip.Signal
import CpldControl.Device.RegisterAccess

/-!
# Reading and driving signals

A signal is read by reading its register, and driven by changing its one bit in
the byte of its register.  What may not be driven, and what is out of range, is
refused before any transaction; when both apply, the signal's access decides.
-/

namespace CpldControl
namespace Device

open Chip (Cage CageLine Register Signal)

def levelOfNumber : Nat -> Except Error Bool
  | 0 => .ok false
  | 1 => .ok true
  | _ => .error .invalidInput

def readSignal (s : Signal) : DeviceM Bool := do
  if s.isReadable then
    return s.levelIn (← readRegister s.register)
  else
    throw (.notReadable s.name)

def driveSignal (s : Signal) (level : Bool) : DeviceM Unit := do
  if s.isWritable then
    discard <| modifyRegister s.register fun b => s.driveIn b level
  else
    throw (.notWritable s.name)

def driveSignalNumber (s : Signal) (n : Nat) : DeviceM Unit := do
  if s.isWritable then
    driveSignal s (← MonadExcept.ofExcept (levelOfNumber n))
  else
    throw (.notWritable s.name)

/-!
# Cage lines by cage number

The signal of a cage line is the entry of the table at its position.
-/

def cageOfNumber (n : Nat) : Except Error Cage :=
  match Cage.ofNumber? n with
  | some cage => .ok cage
  | none => .error .invalidInput

def readCageLine (n : Nat) (line : CageLine) : DeviceM Bool := do
  let cage ← MonadExcept.ofExcept (cageOfNumber n)
  readSignal (.ofCage line cage)

def driveCageLine (n : Nat) (line : CageLine) (level : Bool) : DeviceM Unit := do
  let cage ← MonadExcept.ofExcept (cageOfNumber n)
  driveSignal (.ofCage line cage) level

theorem readCageLine_eq (n : Nat) (line : CageLine) :
    readCageLine n line =
      (MonadExcept.ofExcept (cageOfNumber n) >>= fun cage => readSignal (.cageLine line cage)) := by
  simp only [readCageLine, Signal.ofCage_eq_cageLine]

theorem driveCageLine_eq (n : Nat) (line : CageLine) (level : Bool) :
    driveCageLine n line level =
      (MonadExcept.ofExcept (cageOfNumber n) >>= fun cage =>
        driveSignal (.cageLine line cage) level) := by
  simp only [driveCageLine, Signal.ofCage_eq_cageLine]

/-!
# The scratch byte
-/

def readScratch : DeviceM Byte :=
  readRegister .scratch

/-- Replaces the whole scratch byte, without reading it first. -/
def writeScratch (value : Byte) : DeviceM Unit :=
  writeRegister .scratch value

/-!
# Refusals and their absence
-/

theorem readSignal_eq (s : Signal) :
    readSignal s = s.levelIn <$> readRegister s.register := by
  unfold readSignal
  rw [if_pos (Signal.isReadable_eq_true s), map_eq_pure_bind]

theorem driveSignal_of_isWritable {s : Signal} (h : s.isWritable = true) (level : Bool) :
    driveSignal s level =
      discard (modifyRegister s.register fun b => s.driveIn b level) := by
  simp [driveSignal, h]

theorem driveSignal_of_not_isWritable {s : Signal} (h : s.isWritable = false) (level : Bool) :
    driveSignal s level = throw (.notWritable s.name) := by
  simp [driveSignal, h]

theorem driveSignalNumber_of_not_isWritable {s : Signal} (h : s.isWritable = false) (n : Nat) :
    driveSignalNumber s n = throw (.notWritable s.name) := by
  simp [driveSignalNumber, h]

theorem levelOfNumber_toNat (level : Bool) : levelOfNumber level.toNat = .ok level := by
  cases level <;> rfl

theorem levelOfNumber_eq_error_iff {n : Nat} {e : Error} :
    levelOfNumber n = .error e ↔ 1 < n ∧ e = .invalidInput := by
  match n with
  | 0 => simp [levelOfNumber]
  | 1 => simp [levelOfNumber]
  | n + 2 =>
      constructor
      · intro h
        cases h
        exact ⟨by omega, rfl⟩
      · rintro ⟨-, rfl⟩
        rfl

end Device
end CpldControl
