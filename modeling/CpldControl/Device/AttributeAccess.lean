import CpldControl.Device.Attribute
import CpldControl.Device.BringUp
import CpldControl.Device.SignalAccess
import CpldControl.Device.Value
import CpldControl.Text.ByteLiteral

/-!
# Showing and storing attributes

Identity attributes are shown from what bring-up captured, without a
transaction; the others are read from the chip.  A store takes text: a
hexadecimal literal for the scratch byte, and for a signal a decimal literal of
zero or one.  Nothing reaches the bus unless the attribute exists, is writable
and the text is in range, and the first of these that fails names the refusal.
-/

namespace CpldControl
namespace Device

open Chip (Signal)

def IdentityField.value : IdentityField -> Byte -> Value
  | codeVersion => .codeVersion
  | codeKind => .codeKind
  | codeDay => .decimalByte
  | codeMonth => .decimalByte
  | codeYear => .decimalByte

def readAttribute (device : Device) : Attribute -> DeviceM Value
  | .identity field =>
      match device.identity.get? field with
      | some b => return field.value b
      | none => throw .identityUnavailable
  | .scratch => .hexByte <$> readScratch
  | .signal s => .level <$> readSignal s

def byteOfText (radix : Text.Radix) (text : String) : Except Error Byte :=
  match Text.ByteLiteral.parse? radix text with
  | some b => .ok b
  | none => .error .invalidInput

def storeAttribute (a : Attribute) (text : String) : DeviceM Unit := do
  match a with
  | .identity field => throw (.notWritable field.name)
  | .scratch => writeScratch (← MonadExcept.ofExcept (byteOfText .hexadecimal text))
  | .signal s =>
      if s.isWritable then
        let number ← MonadExcept.ofExcept (byteOfText .decimal text)
        let level ← MonadExcept.ofExcept (levelOfNumber number.toNat)
        driveSignal s level
      else
        throw (.notWritable s.name)

/-!
# By name
-/

def attributeOfName (name : String) : Except Error Attribute :=
  match Attribute.find? name with
  | some a => .ok a
  | none => .error .noSuchAttribute

def readNamed (device : Device) (name : String) : DeviceM Value := do
  device.readAttribute (← MonadExcept.ofExcept (attributeOfName name))

def storeNamed (name text : String) : DeviceM Unit := do
  storeAttribute (← MonadExcept.ofExcept (attributeOfName name)) text

/-!
# The whole catalog
-/

def attributeLine (a : Attribute) : Except Error Value -> String
  | .ok value => a.name ++ "=" ++ value.text
  | .error e => a.name ++ ": " ++ e.message

/-- A line for every attribute in order; an error ends no more than its line. -/
def readCatalog (device : Device) : BusProgram (List String) :=
  Attribute.catalog.mapM fun a => attributeLine a <$> (device.readAttribute a).run

end Device
end CpldControl
