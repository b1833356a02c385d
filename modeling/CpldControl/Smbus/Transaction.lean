import CpldControl.Byte
import CpldControl.Smbus.Fault

/-!
# Byte data transactions

An SMBus byte data transaction names a register by its address and moves one
byte.  A record of a transaction says which way the byte went, what it was and
whether the transaction failed; a failed read has no byte.
-/

namespace CpldControl
namespace Smbus

inductive Direction where
  | read
  | write
deriving DecidableEq

def Direction.text : Direction -> String
  | read => "READ"
  | write => "WRITE"

inductive Transaction where
  | read (address value : Byte)
  | readFailed (address : Byte) (fault : Fault)
  | write (address value : Byte)
  | writeFailed (address value : Byte) (fault : Fault)
deriving DecidableEq

namespace Transaction

def address : Transaction -> Byte
  | read a _ => a
  | readFailed a _ => a
  | write a _ => a
  | writeFailed a _ _ => a

def direction : Transaction -> Direction
  | read .. => .read
  | readFailed .. => .read
  | write .. => .write
  | writeFailed .. => .write

def fault? : Transaction -> Option Fault
  | read .. => none
  | readFailed _ f => some f
  | write .. => none
  | writeFailed _ _ f => some f

def ofRead (address : Byte) : Except Fault Byte -> Transaction
  | .ok value => read address value
  | .error f => readFailed address f

def ofWrite (address value : Byte) : Except Fault Unit -> Transaction
  | .ok () => write address value
  | .error f => writeFailed address value f

@[simp] theorem address_ofRead (a : Byte) (r : Except Fault Byte) :
    (ofRead a r).address = a := by
  cases r <;> rfl

@[simp] theorem direction_ofRead (a : Byte) (r : Except Fault Byte) :
    (ofRead a r).direction = .read := by
  cases r <;> rfl

@[simp] theorem address_ofWrite (a v : Byte) (r : Except Fault Unit) :
    (ofWrite a v r).address = a := by
  cases r <;> rfl

@[simp] theorem direction_ofWrite (a v : Byte) (r : Except Fault Unit) :
    (ofWrite a v r).direction = .write := by
  cases r <;> rfl

theorem ofRead_eq_read_iff {a other value : Byte} {r : Except Fault Byte} :
    ofRead a r = .read other value ↔ a = other ∧ r = .ok value := by
  cases r <;> simp [ofRead]

theorem ofRead_eq_readFailed_iff {a other : Byte} {fault : Fault} {r : Except Fault Byte} :
    ofRead a r = .readFailed other fault ↔ a = other ∧ r = .error fault := by
  cases r <;> simp [ofRead]

end Transaction
end Smbus
end CpldControl
