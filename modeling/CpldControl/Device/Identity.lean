import CpldControl.Chip.Layout
import CpldControl.Text.Numeral

/-!
# The build identity of the chip

Five values say which code the chip runs and when it was built.  They are read
once, at bring-up, from four registers; a value whose register could not be
read then stays absent.
-/

namespace CpldControl
namespace Device

structure Identity where
  codeVersion : Option Byte
  codeKind : Option Byte
  codeDay : Option Byte
  codeMonth : Option Byte
  codeYear : Option Byte
deriving DecidableEq

namespace Identity

/-- The identity that the four registers hold; version and kind are fields of
one byte. -/
def ofRegisters (revision day month year : Option Byte) : Identity where
  codeVersion := revision.map Chip.Layout.codeVersion.read
  codeKind := revision.map Chip.Layout.codeKind.read
  codeDay := day
  codeMonth := month
  codeYear := year

def valueText : Option Byte -> String
  | none => "None"
  | some b => "Some(" ++ Text.decimal b.toNat ++ ")"

def text (i : Identity) : String :=
  "Identity \x7b code_ver: " ++ valueText i.codeVersion ++
    ", code_type: " ++ valueText i.codeKind ++
    ", code_day: " ++ valueText i.codeDay ++
    ", code_month: " ++ valueText i.codeMonth ++
    ", code_year: " ++ valueText i.codeYear ++ " \x7d"

end Identity
end Device
end CpldControl
