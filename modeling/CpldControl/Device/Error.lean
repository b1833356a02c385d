import CpldControl.Chip.Register
import CpldControl.Smbus.Transaction

/-!
# Why an operation on the device is refused

Either a bus transaction failed, and the error names the register, the
direction and the fault, or the request was turned down before any transaction.
-/

namespace CpldControl
namespace Device

inductive Error where
  | busFault (register : Chip.Register) (direction : Smbus.Direction) (fault : Smbus.Fault)
  /-- A value or a cage number outside its range, or a text that is no literal. -/
  | invalidInput
  | notWritable (name : String)
  | notReadable (name : String)
  | capabilityUnavailable
  | noSuchAttribute
  | identityUnavailable
deriving DecidableEq

namespace Error

def message : Error -> String
  | busFault register direction fault =>
      "CPLD " ++ direction.text ++ " ERROR: reg(" ++ register.text ++ ") " ++ fault.message
  | invalidInput => "value out of range for the target field"
  | notWritable name => name ++ " is read-only"
  | notReadable name => name ++ " is write-only"
  | capabilityUnavailable => "adapter does not support SMBus byte data transfers"
  | noSuchAttribute => "no such attribute"
  | identityUnavailable => "identity not captured at bring-up"

def status : Error -> StatusCode
  | busFault _ _ fault => fault.status
  | invalidInput => .invalid
  | notWritable _ => .unsupported
  | notReadable _ => .unsupported
  | capabilityUnavailable => .noDevice
  | noSuchAttribute => .invalid
  | identityUnavailable => .failure

def cause? : Error -> Option Smbus.Fault
  | busFault _ _ fault => some fault
  | _ => none

end Error
end Device
end CpldControl
