import CpldControl.Chip.Signal
import CpldControl.Device.Identity

/-!
# The attribute catalog

A management layer addresses the device by attribute name and exchanges values
as text.  The attributes are the five identity values, the scratch byte and
every signal; the catalog fixes the order in which they are shown.
-/

namespace CpldControl
namespace Device

open Chip (Signal)

inductive IdentityField where
  | codeVersion
  | codeKind
  | codeDay
  | codeMonth
  | codeYear
deriving DecidableEq

def IdentityField.name : IdentityField -> String
  | codeVersion => "code_ver"
  | codeKind => "code_type"
  | codeDay => "code_day"
  | codeMonth => "code_month"
  | codeYear => "code_year"

def Identity.get? (i : Identity) : IdentityField -> Option Byte
  | .codeVersion => i.codeVersion
  | .codeKind => i.codeKind
  | .codeDay => i.codeDay
  | .codeMonth => i.codeMonth
  | .codeYear => i.codeYear

inductive Attribute where
  | identity (field : IdentityField)
  | scratch
  | signal (s : Signal)
deriving DecidableEq

namespace Attribute

def name : Attribute -> String
  | identity field => field.name
  | scratch => "scratch"
  | signal s => s.name

def isWritable : Attribute -> Bool
  | identity _ => false
  | scratch => true
  | signal s => s.isWritable

def bit? : Attribute -> Option (Fin 8)
  | signal s => some s.bit
  | _ => none

def catalog : List Attribute :=
  [identity .codeVersion, identity .codeKind] ++
    Signal.ledTests.map signal ++
    [scratch] ++
    Signal.controls.map signal ++
    [identity .codeDay, identity .codeMonth, identity .codeYear]

def find? (name : String) : Option Attribute :=
  catalog.find? (·.name == name)

theorem mem_catalog (a : Attribute) : a ∈ catalog := by
  cases a with
  | identity field => cases field <;> simp [catalog]
  | scratch => simp [catalog]
  | signal s =>
      have hs := Signal.mem_all s
      simp only [Signal.all, List.mem_append] at hs
      cases hs with
      | inl hled => simp [catalog, hled]
      | inr hcontrol => simp [catalog, hcontrol]

theorem name_of_find?_eq_some {name : String} {a : Attribute}
    (h : find? name = some a) : a.name = name := by
  have hname := List.find?_some h
  simpa using hname

end Attribute
end Device
end CpldControl
