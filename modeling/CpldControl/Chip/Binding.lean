/-!
# How the chip is found on a board

The address it answers at, the name its driver binds under, and the string by
which a device tree names it.
-/

namespace CpldControl
namespace Chip
namespace Binding

def busAddress : BitVec 7 := 0x35

def driverName : String := "h4_32d_swpld3"

def compatible : String := "nokia,h4-32d_swpld3"

end Binding
end Chip
end CpldControl
