import CpldControl.Text.Numeral

/-!
# Values of attributes and their text

Each kind of value has a format of its own: the code version is `0x` and two
hexadecimal digits, the code kind hexadecimal without a leading zero, a level
`0` or `1`, the scratch byte two hexadecimal digits, and a build date decimal.
-/

namespace CpldControl
namespace Device

inductive Value where
  | codeVersion (b : Byte)
  | codeKind (b : Byte)
  | level (b : Bool)
  | hexByte (b : Byte)
  | decimalByte (b : Byte)
deriving DecidableEq

namespace Value

def text : Value -> String
  | codeVersion b => "0x" ++ Text.hex2 b
  | codeKind b => Text.hex b
  | level b => if b then "1" else "0"
  | hexByte b => Text.hex2 b
  | decimalByte b => Text.decimal b.toNat

theorem text_level_injective {l k : Bool} (h : (level l).text = (level k).text) : l = k := by
  revert l k
  decide

end Value
end Device
end CpldControl
