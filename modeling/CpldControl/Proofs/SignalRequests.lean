import CpldControl.Proofs.Names
import CpldControl.Proofs.Request
import CpldControl.Proofs.Transcript

/-!
# The requests behind a signal

A signal can be read and driven by its name, by its name as an attribute, or by the cage
and line that it belongs to.  Each way has checks of its own for its input; once these
are passed, what is left is a request about the signal alone.

Steps of one device with the same request are the same step (`step_of_request?`), and a
request that is a refusal leaves everything as it was (`step_of_refusal`).
`step_driveSignal_of_writable`, `step_driveSignal_of_not_writable` and
`step_readSignal_report` say what the steps about one signal come to.
-/

namespace CpldControl

open Chip (Cage CageLine Signal)
open Device (Attribute Error)
open Smbus (Bus)

def Device.levelOfText (text : String) : Except Error Bool :=
  match byteOfText .decimal text with
  | .ok number => levelOfNumber number.toNat
  | .error e => .error e

namespace Answer

variable {n : Nat}

def shown : Answer n -> Answer n
  | level l => value (.level l)
  | answer => answer

end Answer

namespace Request

variable {n : Nat} {s : Signal}

/-- Drives a signal, if it may be driven, to a level that is still to be checked. -/
def driveChecked (s : Signal) (level : Except Error Bool) : Request n :=
  writable s (checked level (driveSignal s))

theorem driveChecked_of_writable (hwritable : s.isWritable = true) (level : Except Error Bool) :
    (driveChecked s level : Request n) = checked level (driveSignal s) :=
  if_pos hwritable

theorem driveChecked_of_not_writable (hwritable : s.isWritable = false)
    (level : Except Error Bool) :
    (driveChecked s level : Request n) = .refuse (.notWritable s.name) := by
  rw [driveChecked, writable, hwritable]
  rfl

theorem storeAttribute_signal (s : Signal) (text : String) :
    (storeAttribute text (.signal s) : Request n) = driveChecked s (Device.levelOfText text) := by
  simp only [storeAttribute, driveChecked, Device.levelOfText]
  cases Device.byteOfText .decimal text with
  | ok number => rfl
  | error e => rfl

theorem value_run_readSignal (s : Signal) (bus : Bus) :
    ((readSignal s .level : Request n).program.run bus).value =
      match bus.readResult s.register.address with
      | .ok value => .level (s.levelIn value)
      | .error fault => .refused (.busFault s.register .read fault) := by
  rw [readSignal, run_read, Bus.readResult]
  cases bus.readFaults.get s.register.address with
  | none => rfl
  | some fault => rfl

theorem run_readSignal_shown (s : Signal) (bus : Bus) :
    (readSignal s (fun level => .value (.level level)) : Request n).program.run bus =
      { (readSignal s .level : Request n).program.run bus with
        value := ((readSignal s .level : Request n).program.run bus).value.shown } := by
  simp only [readSignal, run_read]
  cases bus.readFaults.get s.register.address with
  | none => rfl
  | some fault => rfl

theorem transactions_driveSignal (s : Signal) (level : Bool) (bus : Bus) :
    ((driveSignal s level : Request n).program.run bus).transactions =
      match bus.readResult s.register.address with
      | .error fault => [.readFailed s.register.address fault]
      | .ok value =>
          [ .read s.register.address value,
            .ofWrite s.register.address (s.driveIn value level)
              (bus.writeResult s.register.address) ] := by
  rw [driveSignal, transactions_update, Bus.readResult]
  cases bus.readFaults.get s.register.address with
  | none => rfl
  | some fault => rfl

end Request

namespace DeviceAction

variable {n : Nat} {device : Device}

section Names

variable {name : String} {s : Signal}

theorem request?_readSignal (hname : Signal.find? name = some s) :
    (readSignal name).request? (n := n) device = some (.readSignal s .level) := by
  simp only [request?, Request.named, hname]

theorem request?_driveSignal (hname : Signal.find? name = some s) (level : Bool) :
    (driveSignal name level).request? (n := n) device = some (.driveChecked s (.ok level)) := by
  simp only [request?, Request.named, hname]
  rfl

theorem request?_driveSignalNumber (hname : Signal.find? name = some s) (number : Nat) :
    (driveSignalNumber name number).request? (n := n) device =
      some (.driveChecked s (Device.levelOfNumber number)) := by
  simp only [request?, Request.named, hname]
  rfl

theorem request?_readAttribute (hname : Signal.find? name = some s) :
    (readAttribute name).request? (n := n) device =
      some (.readSignal s fun level => .value (.level level)) := by
  have hattribute := Device.attributeOfName_eq_ok_iff.mpr (Signal.attribute_find?_of_find? hname)
  simp only [request?, hattribute]
  rfl

theorem request?_storeAttribute (hname : Signal.find? name = some s) (text : String) :
    (storeAttribute name text).request? (n := n) device =
      some (.driveChecked s (Device.levelOfText text)) := by
  have hattribute := Device.attributeOfName_eq_ok_iff.mpr (Signal.attribute_find?_of_find? hname)
  simp only [request?, hattribute, Request.checked, Request.storeAttribute_signal]

end Names

section Cages

variable {number : Nat}

theorem request?_readCageLine {cage : Cage} (hcage : Cage.ofNumber? number = some cage)
    (line : CageLine) :
    (readCageLine number line).request? (n := n) device =
      some (.readSignal (.cageLine line cage) .level) := by
  simp only [request?, Device.cageOfNumber_eq_ok_iff.mpr hcage]
  rfl

theorem request?_driveCageLine {cage : Cage} (hcage : Cage.ofNumber? number = some cage)
    (line : CageLine) (level : Bool) :
    (driveCageLine number line level).request? (n := n) device =
      some (.driveChecked (.cageLine line cage) (.ok level)) := by
  simp only [request?, Device.cageOfNumber_eq_ok_iff.mpr hcage]
  rfl

theorem request?_readCageLine_of_none (hcage : Cage.ofNumber? number = none)
    (line : CageLine) :
    (readCageLine number line).request? (n := n) device = some (.refuse .invalidInput) := by
  simp only [request?, Device.cageOfNumber, hcage]
  rfl

theorem request?_driveCageLine_of_none (hcage : Cage.ofNumber? number = none)
    (line : CageLine) (level : Bool) :
    (driveCageLine number line level).request? (n := n) device =
      some (.refuse .invalidInput) := by
  simp only [request?, Device.cageOfNumber, hcage]
  rfl

end Cages
end DeviceAction

namespace Rack

variable {n : Nat} {rack : Rack n} {h : Nat} {b : Fin n} {device : Device}

theorem step_of_request? (hhandle : rack.handles h = some { bus := b, client := .device device })
    {action : DeviceAction} {q : Request n} (hrequest : action.request? device = some q) :
    rack.step (.onDevice h action) = rack.onBus b q.program.run := by
  rw [step_onDevice hhandle, DeviceAction.program_eq_of_request? hrequest]

theorem step_of_refusal (hhandle : rack.handles h = some { bus := b, client := .device device })
    {action : DeviceAction} {e : Error}
    (hrequest : action.request? (n := n) device = some (.refuse e)) :
    rack.step (.onDevice h action) = (rack, .quiet (.refused e)) := by
  rw [step_of_request? hhandle hrequest]
  exact rack.onBus_pure b _

section Names

variable {name : String} {s : Signal}

theorem step_readSignal_report
    (hhandle : rack.handles h = some { bus := b, client := .device device })
    (hname : Signal.find? name = some s) :
    let address := s.register.address
    let report := (rack.step (.onDevice h (.readSignal name))).2
    report.transactions = [(b, .ofRead address ((rack.bus b).readResult address))] ∧
      report.answer =
        match (rack.bus b).readResult address with
        | .ok value => .level (s.levelIn value)
        | .error fault => .refused (.busFault s.register .read fault) := by
  intro address report
  have hreport : report = _ :=
    congrArg Prod.snd (step_of_request? hhandle (DeviceAction.request?_readSignal hname))
  simp only [hreport, onBus, Report.ofOutcome, Request.value_run_readSignal]
  rw [Request.readSignal, Request.transactions_read]
  exact ⟨rfl, rfl⟩

theorem step_readAttribute_shown
    (hhandle : rack.handles h = some { bus := b, client := .device device })
    (hname : Signal.find? name = some s) :
    let byName := rack.step (.onDevice h (.readSignal name))
    rack.step (.onDevice h (.readAttribute name)) =
      (byName.1, { byName.2 with answer := byName.2.answer.shown }) := by
  intro byName
  have hbyName : byName = _ := step_of_request? hhandle (DeviceAction.request?_readSignal hname)
  rw [hbyName, step_of_request? hhandle (DeviceAction.request?_readAttribute hname)]
  simp only [onBus, Request.run_readSignal_shown]
  rfl

theorem step_driveSignal_of_writable
    (hhandle : rack.handles h = some { bus := b, client := .device device })
    (hname : Signal.find? name = some s) (hwritable : s.isWritable = true) (level : Bool) :
    let address := s.register.address
    (rack.step (.onDevice h (.driveSignal name level))).2.transactions =
      match (rack.bus b).readResult address with
      | .error fault => [(b, .readFailed address fault)]
      | .ok value =>
          [ (b, .read address value),
            (b, .ofWrite address (s.driveIn value level)
              ((rack.bus b).writeResult address)) ] := by
  intro address
  rw [step_of_request? hhandle (DeviceAction.request?_driveSignal hname level),
    Request.driveChecked_of_writable hwritable]
  simp only [onBus, Report.ofOutcome, Request.checked, Request.transactions_driveSignal]
  cases (rack.bus b).readResult address with
  | ok value => rfl
  | error fault => rfl

theorem step_driveSignal_of_not_writable
    (hhandle : rack.handles h = some { bus := b, client := .device device })
    (hname : Signal.find? name = some s) (hwritable : s.isWritable = false) (level : Bool) :
    rack.step (.onDevice h (.driveSignal name level)) =
      (rack, .quiet (.refused (.notWritable name))) := by
  have hrequest : (DeviceAction.driveSignal name level).request? (n := n) device = some _ :=
    DeviceAction.request?_driveSignal hname level
  rw [Request.driveChecked_of_not_writable hwritable, Signal.name_of_find?_eq_some hname]
    at hrequest
  exact step_of_refusal hhandle hrequest

theorem step_drive_number_or_text
    (hhandle : rack.handles h = some { bus := b, client := .device device })
    (hname : Signal.find? name = some s) (level : Bool) :
    let byLevel := rack.step (.onDevice h (.driveSignal name level))
    rack.step (.onDevice h (.driveSignalNumber name level.toNat)) = byLevel ∧
      rack.step (.onDevice h (.storeAttribute name (if level then "1" else "0"))) = byLevel := by
  intro byLevel
  have hbyLevel : byLevel = _ :=
    step_of_request? hhandle (DeviceAction.request?_driveSignal hname level)
  have htext : Device.levelOfText (if level then "1" else "0") = .ok level := by
    cases level <;> rfl
  constructor
  · rw [hbyLevel, step_of_request? hhandle (DeviceAction.request?_driveSignalNumber hname _),
      Device.levelOfNumber_toNat]
  · rw [hbyLevel, step_of_request? hhandle (DeviceAction.request?_storeAttribute hname _), htext]

end Names

section Cages

variable {number : Nat} {cage : Cage}

theorem step_readCageLine
    (hhandle : rack.handles h = some { bus := b, client := .device device })
    (hcage : Cage.ofNumber? number = some cage) (line : CageLine) :
    rack.step (.onDevice h (.readCageLine number line)) =
      rack.step (.onDevice h (.readSignal (Signal.cageLine line cage).name)) := by
  rw [step_of_request? hhandle (DeviceAction.request?_readCageLine hcage line),
    step_of_request? hhandle (DeviceAction.request?_readSignal (Signal.find?_name _))]

theorem step_driveCageLine
    (hhandle : rack.handles h = some { bus := b, client := .device device })
    (hcage : Cage.ofNumber? number = some cage) (line : CageLine) (level : Bool) :
    rack.step (.onDevice h (.driveCageLine number line level)) =
      rack.step (.onDevice h (.driveSignal (Signal.cageLine line cage).name level)) := by
  rw [step_of_request? hhandle (DeviceAction.request?_driveCageLine hcage line level),
    step_of_request? hhandle (DeviceAction.request?_driveSignal (Signal.find?_name _) level)]

end Cages
end Rack
end CpldControl
