import CpldControl.Device.RegisterAccess

/-!
# Bring-up

Bring-up turns a bus into a device.  It asks whether the adapter does byte data
transfers and gives up without a transaction if not.  Otherwise it reads the
identity registers, forces the baseline and always ends with a device: a failed
step neither stops nor repeats anything, and the device remembers the first.
-/

namespace CpldControl

structure Device where
  identity : Device.Identity
  bringUpFault : Option Device.Error
deriving DecidableEq

namespace Device

open Chip (Register)

def readIdentity (r : Register) : DeviceM Byte := do
  let value ← readRegister r
  BusProgram.record (.identityRead r value)
  return value

def writeBaseline (r : Register) (value : Byte) : DeviceM Unit := do
  writeRegister r value
  BusProgram.record (.baselineWritten r value)

def errorOf? {α : Type} : Except Error α -> Option Error
  | .ok _ => none
  | .error e => some e

def bringUp : BusProgram Device := do
  BusProgram.record .chipFound
  let revision ← (readIdentity .codeRevision).run
  let day ← (readIdentity .codeDay).run
  let month ← (readIdentity .codeMonth).run
  let year ← (readIdentity .codeYear).run
  let identity :=
    Identity.ofRegisters revision.toOption day.toOption month.toOption year.toOption
  BusProgram.record (.identityCaptured identity)
  let written ← Register.baseline.mapM fun entry => (writeBaseline entry.1 entry.2).run
  let errors := [revision, day, month, year].map errorOf? ++ written.map errorOf?
  return { identity, bringUpFault := errors.findSome? id }

def probe : DeviceM Device := do
  if ← BusProgram.supports .byteData then
    bringUp
  else
    BusProgram.record .adapterUnsuitable
    throw .capabilityUnavailable

theorem perform_probe_of_not_supports {bus : Smbus.Bus}
    (h : bus.supports .byteData = false) :
    probe.perform bus =
      { value := .error .capabilityUnavailable
        bus
        transactions := []
        events := [.adapterUnsuitable] } := by
  change (BusProgram.supports .byteData >>= _).run bus = _
  rw [BusProgram.run_bind, BusProgram.run_supports, h]
  rfl

theorem perform_probe_of_supports {bus : Smbus.Bus}
    (h : bus.supports .byteData = true) :
    probe.perform bus =
      { bringUp.run bus with value := .ok (bringUp.run bus).value } := by
  change (BusProgram.supports .byteData >>= _).run bus = _
  rw [BusProgram.run_bind, BusProgram.run_supports, h]
  change Outcome.andThen _ (fun _ bus => BusProgram.run (Except.ok <$> bringUp) bus) = _
  simp [Outcome.andThen, BusProgram.run_map]

end Device
end CpldControl
