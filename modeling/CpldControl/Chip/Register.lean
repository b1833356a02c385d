import CpldControl.Chip.Cage
import CpldControl.Text.Numeral

/-!
# The registers of the chip

Twenty-one of the 256 addresses hold a register.  Each of the five lines
of the cages has a pair of registers, one for each bank.

The main statement is `address_injective`: the map from registers to addresses
is one to one.
-/

namespace CpldControl
namespace Chip

inductive Register where
  | codeRevision
  | ledTest
  | scratch
  | reset
  | cageLines (line : CageLine) (bank : Bank)
  | hitless
  | sfpStatus
  | sfpControl
  | codeDay
  | codeMonth
  | codeYear
  | testCodeRevision
deriving DecidableEq

namespace Register

def address : Register -> Byte
  | codeRevision => 0x01
  | ledTest => 0x08
  | scratch => 0x0F
  | reset => 0x10
  | cageLines .reset .low => 0x11
  | cageLines .reset .high => 0x12
  | cageLines .lowPower .low => 0x21
  | cageLines .lowPower .high => 0x22
  | cageLines .select .low => 0x31
  | cageLines .select .high => 0x32
  | hitless => 0x39
  | cageLines .present .low => 0x51
  | cageLines .present .high => 0x52
  | cageLines .interrupt .low => 0x61
  | cageLines .interrupt .high => 0x62
  | sfpStatus => 0x71
  | sfpControl => 0x72
  | codeDay => 0xF0
  | codeMonth => 0xF1
  | codeYear => 0xF2
  | testCodeRevision => 0xF3

def text (r : Register) : String :=
  "0x" ++ Text.hex2 r.address

def ofCage (line : CageLine) (cage : Cage) : Register :=
  cageLines line cage.bank

/-- What bring-up forces: every cage held in reset, out of low power mode and
deselected. -/
def baseline : List (Register × Byte) :=
  [ (cageLines .reset .low, 0xFF),
    (cageLines .reset .high, 0xFF),
    (cageLines .lowPower .low, 0x00),
    (cageLines .lowPower .high, 0x00),
    (cageLines .select .low, 0x00),
    (cageLines .select .high, 0x00) ]

def all : List Register :=
  [ codeRevision, ledTest, scratch, reset,
    cageLines .reset .low, cageLines .reset .high,
    cageLines .lowPower .low, cageLines .lowPower .high,
    cageLines .select .low, cageLines .select .high,
    hitless,
    cageLines .present .low, cageLines .present .high,
    cageLines .interrupt .low, cageLines .interrupt .high,
    sfpStatus, sfpControl,
    codeDay, codeMonth, codeYear, testCodeRevision ]

def ofAddress? (a : Byte) : Option Register :=
  all.find? (·.address = a)

@[simp] theorem ofAddress?_address (r : Register) :
    ofAddress? r.address = some r := by
  cases r with
  | cageLines line bank =>
      cases line <;> cases bank <;> decide
  | _ => decide

theorem address_injective {r s : Register} (h : r.address = s.address) :
    r = s := by
  have hsome : some r = some s := by
    rw [← ofAddress?_address r, ← ofAddress?_address s, h]
  exact Option.some.inj hsome

theorem text_injective {r s : Register} (h : r.text = s.text) : r = s := by
  apply address_injective
  apply Text.hex2_injective
  exact (String.append_right_inj "0x").mp h

end Register
end Chip
end CpldControl
