import CpldControl.AddressMap
import CpldControl.Smbus.Transaction

/-!
# A bus endpoint with one chip behind it

The chip is a file of 256 byte registers.  A fault may be planted on an address
for each direction; it makes every transaction there fail until all faults are
cleared.  The bus counts the transactions of each direction, failed ones too,
and a failed write changes no register.

What an adapter announces is separate from what it does: an adapter without
byte data transfers says so when asked, and performs them all the same.
-/

namespace CpldControl
namespace Smbus

inductive Transfer where
  | byteData
  | wordData
  | rawI2c
deriving DecidableEq

inductive Adapter where
  /-- Announces byte data transfers alone. -/
  | byteData
  /-- Announces word data and raw transfers, but no byte data. -/
  | wordAndRaw
deriving DecidableEq

def Adapter.supports : Adapter -> Transfer -> Bool
  | byteData, .byteData => true
  | byteData, _ => false
  | wordAndRaw, .byteData => false
  | wordAndRaw, _ => true

structure Bus where
  adapter : Adapter
  registers : AddressMap Byte
  readFaults : AddressMap (Option Fault)
  writeFaults : AddressMap (Option Fault)
  reads : Nat
  writes : Nat
deriving DecidableEq

namespace Bus

def idle (adapter : Adapter) : Bus where
  adapter := adapter
  registers := .const 0
  readFaults := .const none
  writeFaults := .const none
  reads := 0
  writes := 0

def supports (bus : Bus) (transfer : Transfer) : Bool :=
  bus.adapter.supports transfer

/-!
# Access without a transaction
-/

def peek (bus : Bus) (address : Byte) : Byte :=
  bus.registers.get address

def poke (bus : Bus) (address value : Byte) : Bus :=
  { bus with registers := bus.registers.set address value }

def plantReadFault (bus : Bus) (address : Byte) (fault : Fault) : Bus :=
  { bus with readFaults := bus.readFaults.set address (some fault) }

def plantWriteFault (bus : Bus) (address : Byte) (fault : Fault) : Bus :=
  { bus with writeFaults := bus.writeFaults.set address (some fault) }

def clearFaults (bus : Bus) : Bus :=
  { bus with readFaults := .const none, writeFaults := .const none }

/-!
# Transactions
-/

def readResult (bus : Bus) (address : Byte) : Except Fault Byte :=
  match bus.readFaults.get address with
  | some fault => .error fault
  | none => .ok (bus.registers.get address)

def writeResult (bus : Bus) (address : Byte) : Except Fault Unit :=
  match bus.writeFaults.get address with
  | some fault => .error fault
  | none => .ok ()

def afterRead (bus : Bus) : Bus :=
  { bus with reads := bus.reads + 1 }

def afterWrite (bus : Bus) (address value : Byte) : Bus :=
  match bus.writeFaults.get address with
  | some _ => { bus with writes := bus.writes + 1 }
  | none =>
      { bus with
        writes := bus.writes + 1
        registers := bus.registers.set address value }

theorem readResult_of_fault {bus : Bus} {address : Byte} {fault : Fault}
    (h : bus.readFaults.get address = some fault) :
    bus.readResult address = .error fault := by
  simp [readResult, h]

theorem readResult_of_no_fault {bus : Bus} {address : Byte}
    (h : bus.readFaults.get address = none) :
    bus.readResult address = .ok (bus.registers.get address) := by
  simp [readResult, h]

theorem readResult_eq_ok_iff {bus : Bus} {address value : Byte} :
    bus.readResult address = .ok value ↔
      bus.readFaults.get address = none ∧ bus.registers.get address = value := by
  unfold readResult
  cases bus.readFaults.get address <;> simp

theorem readResult_eq_error_iff {bus : Bus} {address : Byte} {fault : Fault} :
    bus.readResult address = .error fault ↔ bus.readFaults.get address = some fault := by
  unfold readResult
  cases bus.readFaults.get address <;> simp

theorem writeResult_of_fault {bus : Bus} {address : Byte} {fault : Fault}
    (h : bus.writeFaults.get address = some fault) :
    bus.writeResult address = .error fault := by
  simp [writeResult, h]

theorem writeResult_of_no_fault {bus : Bus} {address : Byte}
    (h : bus.writeFaults.get address = none) :
    bus.writeResult address = .ok () := by
  simp [writeResult, h]

theorem afterWrite_of_fault {bus : Bus} {address value : Byte} {fault : Fault}
    (h : bus.writeFaults.get address = some fault) :
    bus.afterWrite address value = { bus with writes := bus.writes + 1 } := by
  simp [afterWrite, h]

theorem afterWrite_of_no_fault {bus : Bus} {address value : Byte}
    (h : bus.writeFaults.get address = none) :
    bus.afterWrite address value =
      { bus with
        writes := bus.writes + 1
        registers := bus.registers.set address value } := by
  simp [afterWrite, h]

@[simp] theorem registers_afterRead (bus : Bus) :
    bus.afterRead.registers = bus.registers := rfl

@[simp] theorem adapter_afterWrite (bus : Bus) (address value : Byte) :
    (bus.afterWrite address value).adapter = bus.adapter := by
  unfold afterWrite
  split <;> rfl

@[simp] theorem readFaults_afterWrite (bus : Bus) (address value : Byte) :
    (bus.afterWrite address value).readFaults = bus.readFaults := by
  unfold afterWrite
  split <;> rfl

@[simp] theorem writeFaults_afterWrite (bus : Bus) (address value : Byte) :
    (bus.afterWrite address value).writeFaults = bus.writeFaults := by
  unfold afterWrite
  split <;> rfl

@[simp] theorem reads_afterWrite (bus : Bus) (address value : Byte) :
    (bus.afterWrite address value).reads = bus.reads := by
  unfold afterWrite
  split <;> rfl

@[simp] theorem writes_afterWrite (bus : Bus) (address value : Byte) :
    (bus.afterWrite address value).writes = bus.writes + 1 := by
  unfold afterWrite
  split <;> rfl

@[simp] theorem readResult_afterRead (bus : Bus) (address : Byte) :
    bus.afterRead.readResult address = bus.readResult address := rfl

@[simp] theorem writeResult_afterRead (bus : Bus) (address : Byte) :
    bus.afterRead.writeResult address = bus.writeResult address := rfl

@[simp] theorem writeResult_afterWrite (bus : Bus) (address value other : Byte) :
    (bus.afterWrite address value).writeResult other = bus.writeResult other := by
  simp only [writeResult, writeFaults_afterWrite]

theorem get_afterWrite (bus : Bus) (address value other : Byte) :
    (bus.afterWrite address value).registers.get other =
      if other = address ∧ bus.writeFaults.get address = none then value
      else bus.registers.get other := by
  cases h : bus.writeFaults.get address with
  | none => simp [afterWrite_of_no_fault h, AddressMap.get_set]
  | some fault => simp [afterWrite_of_fault h]

end Bus
end Smbus
end CpldControl
