import CpldControl.Device.AttributeAccess
import CpldControl.Rack.Basic

/-!
# The steps of a session, and their answers

A session with a rack is a sequence of steps.  A step acts directly on a bus,
or it makes, uses or ends a handle.  Each kind of action is given here together
with the program that carries it out on one bus.
-/

namespace CpldControl

inductive Answer (n : Nat) where
  | done
  | noHandle
  /-- The handle has bare register access only. -/
  | notDevice
  | noSignal
  | byte (b : Byte)
  | level (b : Bool)
  | counts (reads writes : Nat)
  | identity (i : Device.Identity)
  | bringUpFault (e : Option Device.Error)
  | value (v : Device.Value)
  | lines (ls : List String)
  | update (u : Device.Update)
  /-- The bus that a removed handle was bound to. -/
  | released (bus : Fin n)
  | busFault (f : Smbus.Fault)
  | refused (e : Device.Error)
  /-- The bus on which no device could be brought up. -/
  | probeRefused (bus : Fin n) (e : Device.Error)

namespace Answer

variable {n : Nat} {α : Type}

def ofResult (f : α -> Answer n) : Except Device.Error α -> Answer n
  | .ok a => f a
  | .error e => refused e

def ofTransfer (f : α -> Answer n) : Except Smbus.Fault α -> Answer n
  | .ok a => f a
  | .error fault => busFault fault

def error? : Answer n -> Option Device.Error
  | refused e => some e
  | probeRefused _ e => some e
  | update u => Device.errorOf? u.result
  | _ => none

end Answer

/-!
# Actions on a bus
-/

inductive BusAction where
  | poke (address value : Byte)
  | peek (address : Byte)
  | plantReadFault (address : Byte) (fault : Smbus.Fault)
  | plantWriteFault (address : Byte) (fault : Smbus.Fault)
  | clearFaults
  | counts
  | supports (transfer : Smbus.Transfer)
  /-- A read transaction past every handle. -/
  | rawRead (address : Byte)
  | rawWrite (address value : Byte)
deriving DecidableEq

namespace BusAction

variable {n : Nat}

def quiet (answer : Answer n) (bus : Smbus.Bus) : Outcome (Answer n) :=
  { value := answer, bus, transactions := [], events := [] }

def perform (bus : Smbus.Bus) : BusAction -> Outcome (Answer n)
  | poke address value => quiet .done (bus.poke address value)
  | peek address => quiet (.byte (bus.peek address)) bus
  | plantReadFault address fault => quiet .done (bus.plantReadFault address fault)
  | plantWriteFault address fault => quiet .done (bus.plantWriteFault address fault)
  | clearFaults => quiet .done bus.clearFaults
  | counts => quiet (.counts bus.reads bus.writes) bus
  | supports transfer => quiet (.level (bus.supports transfer)) bus
  | rawRead address =>
      (Answer.ofTransfer .byte <$> BusProgram.readByte address).run bus
  | rawWrite address value =>
      (Answer.ofTransfer (fun _ => .done) <$> BusProgram.writeByte address value).run bus

end BusAction

/-!
# Actions on a handle
-/

inductive RegisterAction where
  | read (r : Chip.Register)
  | write (r : Chip.Register) (value : Byte)
  | modify (r : Chip.Register) (f : Byte -> Byte)

def RegisterAction.program {n : Nat} : RegisterAction -> BusProgram (Answer n)
  | read r => Answer.ofResult .byte <$> (Device.readRegister r).run
  | write r value => Answer.ofResult (fun _ => .done) <$> (Device.writeRegister r value).run
  | modify r f => .update <$> Device.updateRegister r f

/-- What only the handle of a device can do.  Signals and attributes are given
by name, cages by number. -/
inductive DeviceAction where
  | identity
  | bringUpFault
  | readSignal (name : String)
  | driveSignal (name : String) (level : Bool)
  | driveSignalNumber (name : String) (number : Nat)
  | readCageLine (cage : Nat) (line : Chip.CageLine)
  | driveCageLine (cage : Nat) (line : Chip.CageLine) (level : Bool)
  | readScratch
  | writeScratch (value : Byte)
  | readAttribute (name : String)
  | readCatalog
  | storeAttribute (name text : String)
deriving DecidableEq

namespace DeviceAction

variable {n : Nat}

def onSignal (name : String) (f : Chip.Signal -> BusProgram (Answer n)) :
    BusProgram (Answer n) :=
  match Chip.Signal.find? name with
  | some s => f s
  | none => return .noSignal

def program (device : Device) : DeviceAction -> BusProgram (Answer n)
  | identity => return .identity device.identity
  | bringUpFault => return .bringUpFault device.bringUpFault
  | readSignal name =>
      onSignal name fun s => Answer.ofResult .level <$> (Device.readSignal s).run
  | driveSignal name level =>
      onSignal name fun s =>
        Answer.ofResult (fun _ => .done) <$> (Device.driveSignal s level).run
  | driveSignalNumber name number =>
      onSignal name fun s =>
        Answer.ofResult (fun _ => .done) <$> (Device.driveSignalNumber s number).run
  | readCageLine cage line =>
      Answer.ofResult .level <$> (Device.readCageLine cage line).run
  | driveCageLine cage line level =>
      Answer.ofResult (fun _ => .done) <$> (Device.driveCageLine cage line level).run
  | readScratch => Answer.ofResult .byte <$> Device.readScratch.run
  | writeScratch value =>
      Answer.ofResult (fun _ => .done) <$> (Device.writeScratch value).run
  | readAttribute name => Answer.ofResult .value <$> (device.readNamed name).run
  | readCatalog => .lines <$> device.readCatalog
  | storeAttribute name text =>
      Answer.ofResult (fun _ => .done) <$> (Device.storeNamed name text).run

end DeviceAction

/-!
# Steps
-/

inductive Step (n : Nat) where
  | onBus (bus : Fin n) (action : BusAction)
  /-- Brings a device up, and puts it under the handle number. -/
  | probe (handle : Nat) (bus : Fin n)
  /-- Puts bare register access under the handle number. -/
  | attach (handle : Nat) (bus : Fin n)
  | remove (handle : Nat)
  | onRegister (handle : Nat) (action : RegisterAction)
  | onDevice (handle : Nat) (action : DeviceAction)

end CpldControl
