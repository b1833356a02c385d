/-!
# Which way a line may be used

Inputs of the chip are read only, and its outputs can be driven and read back.
A strobe can be driven alone; no line of this chip is one.
-/

namespace CpldControl
namespace Chip

inductive Access where
  | readOnly
  | readWrite
  | writeOnly
deriving DecidableEq

def Access.isReadable : Access -> Bool
  | readOnly => true
  | readWrite => true
  | writeOnly => false

def Access.isWritable : Access -> Bool
  | readOnly => false
  | readWrite => true
  | writeOnly => true

end Chip
end CpldControl
