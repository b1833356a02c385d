import CpldControl.BusProgram
import CpldControl.Device.Error

/-!
# Whole-byte access to the registers

A read, a write, and a change of the byte that a register holds.  Each
transaction is logged once, whether it succeeds or fails, and is never retried:
the first fault ends the operation, so a change whose read fails writes nothing.

The equations for `perform` say what each access does on every bus.
-/

namespace CpldControl

abbrev DeviceM := ExceptT Device.Error BusProgram

namespace DeviceM

variable {α β : Type}

def perform (operation : DeviceM α) (bus : Smbus.Bus) : Outcome (Except Device.Error α) :=
  BusProgram.run operation.run bus

theorem perform_bind (operation : DeviceM α) (next : α -> DeviceM β) (bus : Smbus.Bus) :
    (operation >>= next).perform bus =
      (operation.perform bus).andThen fun result bus =>
        match result with
        | .ok value => (next value).perform bus
        | .error error =>
            { value := .error error, bus, transactions := [], events := [] } := by
  unfold perform
  rw [ExceptT.run_bind, BusProgram.run_bind]
  congr 1
  funext result bus
  cases result <;> rfl

end DeviceM

namespace Device

open Chip (Register)

def readRegister (r : Register) : DeviceM Byte := do
  match ← BusProgram.readByte r.address with
  | .ok value =>
      BusProgram.record (.registerRead r value)
      return value
  | .error fault =>
      BusProgram.record (.readFailed r fault)
      throw (.busFault r .read fault)

def writeRegister (r : Register) (value : Byte) : DeviceM Unit := do
  match ← BusProgram.writeByte r.address value with
  | .ok () =>
      BusProgram.record (.registerWritten r value)
  | .error fault =>
      BusProgram.record (.writeFailed r value fault)
      throw (.busFault r .write fault)

structure Update where
  seen : Option Byte
  result : Except Error Byte

def updateRegister (r : Register) (f : Byte -> Byte) : BusProgram Update := do
  match ← (readRegister r).run with
  | .error e => return { seen := none, result := .error e }
  | .ok current =>
      match ← (writeRegister r (f current)).run with
      | .error e => return { seen := some current, result := .error e }
      | .ok () => return { seen := some current, result := .ok (f current) }

def modifyRegister (r : Register) (f : Byte -> Byte) : DeviceM Byte :=
  ExceptT.mk (Update.result <$> updateRegister r f)

/-!
# What an access does
-/

open Smbus (Bus)

theorem perform_readRegister (r : Register) (bus : Bus) :
    (readRegister r).perform bus =
      match bus.readFaults.get r.address with
      | none =>
          { value := .ok (bus.registers.get r.address)
            bus := bus.afterRead
            transactions := [.read r.address (bus.registers.get r.address)]
            events := [.registerRead r (bus.registers.get r.address)] }
      | some fault =>
          { value := .error (.busFault r .read fault)
            bus := bus.afterRead
            transactions := [.readFailed r.address fault]
            events := [.readFailed r fault] } := by
  change (BusProgram.readByte r.address >>= _).run bus = _
  rw [BusProgram.run_bind]
  cases h : bus.readFaults.get r.address with
  | none =>
      simp only [BusProgram.run_readByte, Bus.readResult_of_no_fault h]
      rfl
  | some fault =>
      simp only [BusProgram.run_readByte, Bus.readResult_of_fault h]
      rfl

theorem perform_writeRegister (r : Register) (value : Byte) (bus : Bus) :
    (writeRegister r value).perform bus =
      match bus.writeFaults.get r.address with
      | none =>
          { value := .ok ()
            bus := bus.afterWrite r.address value
            transactions := [.write r.address value]
            events := [.registerWritten r value] }
      | some fault =>
          { value := .error (.busFault r .write fault)
            bus := bus.afterWrite r.address value
            transactions := [.writeFailed r.address value fault]
            events := [.writeFailed r value fault] } := by
  change (BusProgram.writeByte r.address value >>= _).run bus = _
  rw [BusProgram.run_bind]
  cases h : bus.writeFaults.get r.address with
  | none =>
      simp only [BusProgram.run_writeByte, Bus.writeResult_of_no_fault h]
      rfl
  | some fault =>
      simp only [BusProgram.run_writeByte, Bus.writeResult_of_fault h]
      rfl

theorem run_updateRegister (r : Register) (f : Byte -> Byte) (bus : Bus) :
    (updateRegister r f).run bus =
      match bus.readFaults.get r.address, bus.writeFaults.get r.address with
      | some fault, _ =>
          { value := { seen := none, result := .error (.busFault r .read fault) }
            bus := bus.afterRead
            transactions := [.readFailed r.address fault]
            events := [.readFailed r fault] }
      | none, some fault =>
          let current := bus.registers.get r.address
          { value := { seen := some current, result := .error (.busFault r .write fault) }
            bus := bus.afterRead.afterWrite r.address (f current)
            transactions := [.read r.address current, .writeFailed r.address (f current) fault]
            events := [.registerRead r current, .writeFailed r (f current) fault] }
      | none, none =>
          let current := bus.registers.get r.address
          { value := { seen := some current, result := .ok (f current) }
            bus := bus.afterRead.afterWrite r.address (f current)
            transactions := [.read r.address current, .write r.address (f current)]
            events := [.registerRead r current, .registerWritten r (f current)] } := by
  have hread := perform_readRegister r bus
  have hwrite := fun value => perform_writeRegister r value bus.afterRead
  unfold DeviceM.perform at hread hwrite
  unfold updateRegister
  rw [BusProgram.run_bind, hread]
  cases hr : bus.readFaults.get r.address with
  | some fault => rfl
  | none =>
      simp only [Outcome.andThen]
      rw [BusProgram.run_bind, hwrite]
      simp only [Outcome.andThen, Bus.afterRead]
      cases hw : bus.writeFaults.get r.address with
      | some fault => rfl
      | none => rfl

end Device
end CpldControl
