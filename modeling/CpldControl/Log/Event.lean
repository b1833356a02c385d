import CpldControl.Device.Identity
import CpldControl.Chip.Register
import CpldControl.Log.Level
import CpldControl.Smbus.Fault

/-!
# What the driver logs

Every register transaction is logged once, and bring-up and detach log their
own steps.  An event is a level, a message and named values; its line is the
level, the message and `name=value` for each value in turn.

Two switches silence the events that are only wanted while a board is being
brought up.  They change nothing but the log.
-/

namespace CpldControl
namespace Log

inductive Event where
  | registerRead (register : Chip.Register) (value : Byte)
  | registerWritten (register : Chip.Register) (value : Byte)
  | readFailed (register : Chip.Register) (fault : Smbus.Fault)
  | writeFailed (register : Chip.Register) (value : Byte) (fault : Smbus.Fault)
  | adapterUnsuitable
  | chipFound
  | identityRead (register : Chip.Register) (value : Byte)
  | identityCaptured (identity : Device.Identity)
  | baselineWritten (register : Chip.Register) (value : Byte)
  | detached
deriving DecidableEq

namespace Event

def level : Event -> Level
  | registerRead .. => .trace
  | registerWritten .. => .trace
  | readFailed .. => .error
  | writeFailed .. => .error
  | adapterUnsuitable => .error
  | chipFound => .info
  | identityRead .. => .debug
  | identityCaptured _ => .debug
  | baselineWritten .. => .debug
  | detached => .info

def message : Event -> String
  | registerRead .. => "CPLD read"
  | registerWritten .. => "CPLD write"
  | readFailed .. => "CPLD READ ERROR"
  | writeFailed .. => "CPLD WRITE ERROR"
  | adapterUnsuitable => "CPLD PROBE ERROR: adapter lacks SMBus byte data support"
  | chipFound => "Nokia-7220-IXR-H4-32D SWPLD3 chip found"
  | identityRead .. => "SWPLD3 identity read"
  | identityCaptured _ => "SWPLD3 identity"
  | baselineWritten .. => "SWPLD3 baseline"
  | detached => "SWPLD3 detached"

def registerField (r : Chip.Register) : String × String :=
  ("register", r.text)

def valueField (v : Byte) : String × String :=
  ("value", Text.decimal v.toNat)

def faultField (f : Smbus.Fault) : String × String :=
  ("error", f.message)

def fields : Event -> List (String × String)
  | registerRead r v => [registerField r, valueField v]
  | registerWritten r v => [registerField r, valueField v]
  | readFailed r f => [registerField r, faultField f]
  | writeFailed r v f => [registerField r, valueField v, faultField f]
  | adapterUnsuitable => []
  | chipFound => []
  | identityRead r v => [registerField r, valueField v]
  | identityCaptured i => [("identity", i.text)]
  | baselineWritten r v => [registerField r, valueField v]
  | detached => []

def line (e : Event) : String :=
  e.level.text ++ " " ++ e.message ++
    String.join (e.fields.map fun field => " " ++ field.1 ++ "=" ++ field.2)

end Event

/-!
# Choosing what is shown
-/

structure Switches where
  /-- Log every successful register transaction. -/
  registerAccess : Bool
  /-- Log every successful step of bring-up. -/
  bringUp : Bool
deriving DecidableEq

namespace Switches

def on : Switches := { registerAccess := true, bringUp := true }

def admits (switches : Switches) : Event -> Bool
  | .registerRead .. => switches.registerAccess
  | .registerWritten .. => switches.registerAccess
  | .identityRead .. => switches.bringUp
  | .baselineWritten .. => switches.bringUp
  | _ => true

@[simp] theorem admits_on (e : Event) : on.admits e = true := by
  cases e <;> rfl

end Switches

def visible (switches : Switches) (threshold : Level) (events : List Event) : List Event :=
  events.filter fun e => switches.admits e && e.level.isVisibleAt threshold

@[simp] theorem visible_on_trace (events : List Event) :
    visible .on .trace events = events := by
  simp [visible]

end Log
end CpldControl
