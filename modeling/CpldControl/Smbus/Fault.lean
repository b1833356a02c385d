import CpldControl.StatusCode

/-!
# Faults of a bus transaction

A transaction that fails does so for one of seven reasons.  Each has a text for
the operator and a status code for the management layer.
-/

namespace CpldControl
namespace Smbus

inductive Fault where
  | addressNak
  | dataNak
  | arbitrationLost
  /-- A start condition came before the received byte was taken. -/
  | overrun
  | notSupported
  | busy
  | timeout
deriving DecidableEq

namespace Fault

def message : Fault -> String
  | addressNak => "I2C Address Not Acknowledged"
  | dataNak => "I2C Data Not Acknowledged"
  | arbitrationLost => "I2C Bus Arbitration Lost"
  | overrun => "I2C receive overrun"
  | notSupported => "I2C/SMBus Transaction Not Supported"
  | busy => "I2C Bus Busy"
  | timeout => "I2C Transaction Timed Out"

def status : Fault -> StatusCode
  | addressNak => .noAcknowledge
  | dataNak => .noAcknowledge
  | arbitrationLost => .busy
  | overrun => .size
  | notSupported => .unsupported
  | busy => .busy
  | timeout => .failure

end Fault
end Smbus
end CpldControl
