import CpldControl.Proofs.BitStore
import CpldControl.Proofs.ReadOnly
import CpldControl.Proofs.RequestErrors
import CpldControl.Proofs.Transcript

/-!
# Sessions on the store of bits

Each action of a device asks for at most one command, and carries it out exactly
when it answers without an error; what it shows is what the store holds.  The
main statement is `session_refines_bitStore`, for sessions that use the devices
of one bus while faults come and go.
-/

namespace CpldControl

open Chip (Cage Register Signal)
open Device (Attribute Error Value)
open Smbus (Bus Fault)

def DeviceAction.command? : DeviceAction -> Option Command
  | driveSignal name level => (Signal.find? name).map fun s => .drive s level
  | driveSignalNumber name number => (Signal.find? name).map fun s => .drive s (number = 1)
  | driveCageLine cage line level =>
      (Cage.ofNumber? cage).map fun c => .drive (.cageLine line c) level
  | writeScratch value => some (.fill value)
  | storeAttribute name text =>
      match Attribute.find? name with
      | some .scratch => (Text.ByteLiteral.parse? .hexadecimal text).map .fill
      | some (.signal s) =>
          (Text.ByteLiteral.value? .decimal text).map fun number => .drive s (number = 1)
      | _ => none
  | _ => none

def DeviceAction.isObservation : DeviceAction -> Bool
  | readSignal _ => true
  | readCageLine _ _ => true
  | readScratch => true
  | readAttribute _ => true
  | _ => false

namespace BitStore

def value? (store : BitStore) (device : Device) : Attribute -> Option Value
  | .identity field => (device.identity.get? field).map field.shownAs
  | .scratch => some (.hexByte store.scratch)
  | .signal s => some (.level (store.level s))

def answer? {n : Nat} (store : BitStore) (device : Device) : DeviceAction -> Option (Answer n)
  | .readSignal name => (Signal.find? name).map fun s => .level (store.level s)
  | .readCageLine cage line =>
      (Cage.ofNumber? cage).map fun c => .level (store.level (.cageLine line c))
  | .readScratch => some (.byte store.scratch)
  | .readAttribute name =>
      (Attribute.find? name).bind fun a => (store.value? device a).map .value
  | _ => none

end BitStore

/-!
# Requests and commands

An observation asks for no command, and neither does an input that is refused.
-/

namespace Request

variable {n : Nat} {α : Type}

/-- The registers after the request: the command is carried out if the request
succeeds, and nothing else ever is. -/
def Settles (q : Request n) (command? : Option Command) : Prop :=
  forall bus,
    (q.program.run bus).bus.registers =
      (if (q.program.run bus).value.isOk then command? else none).toList.foldl
        Command.apply bus.registers

theorem settles_reply (answer : Answer n) : (reply answer).Settles none := by
  intro bus
  rw [ite_self]
  rfl

theorem settles_refuse (e : Error) (command? : Option Command) :
    (refuse e : Request n).Settles command? := by
  intro bus
  simp [program, BusProgram.run_pure, Answer.isOk]

theorem settles_read (r : Register) (view : Byte -> Answer n) : (read r view).Settles none := by
  intro bus
  rw [run_read]
  cases bus.readFaults.get r.address with
  | none => simp
  | some fault => simp

theorem settles_writeScratch (value : Byte) :
    (write .scratch value : Request n).Settles (some (.fill value)) := by
  intro bus
  rw [run_write]
  cases hfault : bus.writeFaults.get (Register.address .scratch) with
  | none => simp [Bus.afterWrite_of_no_fault hfault, Answer.isOk, Command.apply]
  | some fault => simp [Bus.afterWrite_of_fault hfault, Answer.isOk]

theorem settles_driveSignal (s : Signal) (level : Bool) :
    (driveSignal s level : Request n).Settles (some (.drive s level)) := by
  intro bus
  unfold driveSignal
  rw [run_update, Device.run_updateRegister]
  cases hread : bus.readFaults.get s.register.address with
  | some fault => simp [Answer.ofResult, Answer.isOk]
  | none =>
      cases hwrite : bus.writeFaults.get s.register.address with
      | some fault =>
          have hfault : bus.afterRead.writeFaults.get s.register.address = some fault := hwrite
          simp [Bus.afterWrite_of_fault hfault, Answer.ofResult, Answer.isOk]
      | none =>
          have hfault : bus.afterRead.writeFaults.get s.register.address = none := hwrite
          simp [Bus.afterWrite_of_no_fault hfault, Answer.ofResult, Answer.isOk,
            Command.apply]

theorem settles_checked {input : Except Error α} {next : α -> Request n}
    {command? : Option Command}
    (hnext : forall a, input = .ok a -> (next a).Settles command?) :
    (checked input next).Settles command? := by
  cases input with
  | ok a => exact hnext a rfl
  | error e => exact settles_refuse e command?

theorem settles_named {name : String} {next : Signal -> Request n} {command? : Option Command}
    (hnext : forall s, Signal.find? name = some s -> (next s).Settles command?) :
    (named name next).Settles command? := by
  unfold named
  cases hname : Signal.find? name with
  | some s => exact hnext s hname
  | none =>
      intro bus
      simp [program, BusProgram.run_pure, Answer.isOk]

theorem settles_writable {s : Signal} {next : Request n} {command? : Option Command}
    (hnext : next.Settles command?) : (writable s next).Settles command? := by
  unfold writable
  cases s.isWritable with
  | true => exact hnext
  | false => exact settles_refuse _ command?

theorem settles_driveNumber (s : Signal) (number : Nat) :
    (checked (Device.levelOfNumber number) (driveSignal s) : Request n).Settles
      (some (.drive s (number = 1))) := by
  apply settles_checked
  intro level hlevel
  rw [← (Device.levelOfNumber_eq_ok_iff.mp hlevel).2]
  exact settles_driveSignal s level

theorem settles_readAttribute (device : Device) (a : Attribute) :
    (readAttribute device a : Request n).Settles none := by
  cases a with
  | identity field =>
      simp only [readAttribute]
      cases device.identity.get? field with
      | some b => exact settles_reply _
      | none => exact settles_refuse _ none
  | scratch => exact settles_read _ _
  | signal s => exact settles_read _ _

theorem settles_storeScratch (text : String) :
    (storeAttribute text .scratch : Request n).Settles
      ((Text.ByteLiteral.parse? .hexadecimal text).map .fill) := by
  apply settles_checked
  intro value hvalue
  rw [Device.byteOfText_eq_ok_iff.mp hvalue]
  exact settles_writeScratch value

theorem settles_storeSignal (text : String) (s : Signal) :
    (storeAttribute text (.signal s) : Request n).Settles
      ((Text.ByteLiteral.value? .decimal text).map fun number => .drive s (number = 1)) := by
  apply settles_writable
  apply settles_checked
  intro value hvalue
  have hparse := Device.byteOfText_eq_ok_iff.mp hvalue
  rw [Text.ByteLiteral.parse?_eq_some_iff.mp hparse]
  exact settles_driveNumber s value.toNat

end Request

theorem DeviceAction.settles_of_request? {n : Nat} {device : Device} {action : DeviceAction}
    {q : Request n} (h : action.request? device = some q) : q.Settles action.command? := by
  cases action with
  | readCatalog => cases h
  | identity => cases h; exact Request.settles_reply _
  | bringUpFault => cases h; exact Request.settles_reply _
  | readSignal name =>
      cases h
      exact Request.settles_named fun s hname => Request.settles_read _ _
  | driveSignal name level =>
      cases h
      apply Request.settles_named
      intro s hname
      rw [command?, hname]
      exact Request.settles_writable (Request.settles_driveSignal s level)
  | driveSignalNumber name number =>
      cases h
      apply Request.settles_named
      intro s hname
      rw [command?, hname]
      exact Request.settles_writable (Request.settles_driveNumber s number)
  | readCageLine cage line =>
      cases h
      exact Request.settles_checked fun c hcage => Request.settles_read _ _
  | driveCageLine cage line level =>
      cases h
      apply Request.settles_checked
      intro c hcage
      rw [command?, Device.cageOfNumber_eq_ok_iff.mp hcage]
      exact Request.settles_writable (Request.settles_driveSignal _ level)
  | readScratch => cases h; exact Request.settles_read _ _
  | writeScratch value => cases h; exact Request.settles_writeScratch value
  | readAttribute name =>
      cases h
      exact Request.settles_checked fun a hname => Request.settles_readAttribute device a
  | storeAttribute name text =>
      cases h
      apply Request.settles_checked
      intro a hname
      rw [command?, Device.attributeOfName_eq_ok_iff.mp hname]
      cases a with
      | identity field => exact Request.settles_refuse _ none
      | scratch => exact Request.settles_storeScratch text
      | signal s => exact Request.settles_storeSignal text s

theorem DeviceAction.registers_run {n : Nat} (device : Device) (action : DeviceAction)
    (bus : Bus) :
    let o : Outcome (Answer n) := (action.program device).run bus
    o.bus.registers =
      (if o.value.isOk then action.command? else none).toList.foldl
        Command.apply bus.registers := by
  intro o
  cases hrequest : action.request? (n := n) device with
  | some q =>
      have hprogram := action.program_eq_of_request? hrequest
      simp only [o, hprogram]
      exact action.settles_of_request? hrequest bus
  | none =>
      have haction := DeviceAction.eq_readCatalog_of_request? hrequest
      subst haction
      have hreadOnly : (DeviceAction.readCatalog.program (n := n) device).ReadOnly :=
        (Device.readOnly_readCatalog device).map _
      have hbus : o.bus.registers = bus.registers := by
        rw [hreadOnly.bus_run bus]
      have hcommand : DeviceAction.readCatalog.command? = none := rfl
      rw [hbus, hcommand, ite_self]
      rfl

/-!
# Requests and what they show
-/

namespace Request

variable {n : Nat} {α : Type}

def Shows (q : Request n) (expected : BitStore -> Option (Answer n)) : Prop :=
  forall bus, (q.program.run bus).value.isOk = true ->
    expected (.ofRegisters bus.registers) = some (q.program.run bus).value

theorem shows_refuse (e : Error) (expected : BitStore -> Option (Answer n)) :
    (refuse e).Shows expected := by
  intro bus hok
  cases hok

theorem shows_read {r : Register} {view : Byte -> Answer n}
    {expected : BitStore -> Option (Answer n)}
    (h : forall registers,
      expected (.ofRegisters registers) = some (view (registers.get r.address))) :
    (read r view).Shows expected := by
  intro bus hok
  rw [run_read] at hok ⊢
  cases hfault : bus.readFaults.get r.address with
  | none => exact h bus.registers
  | some fault =>
      rw [hfault] at hok
      cases hok

theorem shows_checked {input : Except Error α} {next : α -> Request n}
    {expected : BitStore -> Option (Answer n)}
    (hnext : forall a, input = .ok a -> (next a).Shows expected) :
    (checked input next).Shows expected := by
  cases input with
  | ok a => exact hnext a rfl
  | error e => exact shows_refuse e expected

theorem shows_named {name : String} {next : Signal -> Request n}
    {expected : BitStore -> Option (Answer n)}
    (hnext : forall s, Signal.find? name = some s -> (next s).Shows expected) :
    (named name next).Shows expected := by
  unfold named
  cases hname : Signal.find? name with
  | some s => exact hnext s hname
  | none =>
      intro bus hok
      cases hok

theorem shows_readAttribute (device : Device) (a : Attribute) :
    (readAttribute device a : Request n).Shows fun store =>
      (store.value? device a).map .value := by
  cases a with
  | identity field =>
      simp only [readAttribute, BitStore.value?]
      cases device.identity.get? field with
      | some b =>
          intro bus _
          rfl
      | none => exact shows_refuse _ _
  | scratch => exact shows_read fun registers => rfl
  | signal s => exact shows_read fun registers => rfl

end Request

theorem DeviceAction.shows_of_request? {n : Nat} {device : Device} {action : DeviceAction}
    {q : Request n} (h : action.request? device = some q)
    (hobservation : action.isObservation = true) :
    q.Shows fun store => store.answer? device action := by
  cases action with
  | readSignal name =>
      cases h
      apply Request.shows_named
      intro s hname
      apply Request.shows_read
      intro registers
      rw [BitStore.answer?, hname]
      rfl
  | readCageLine cage line =>
      cases h
      apply Request.shows_checked
      intro c hcage
      apply Request.shows_read
      intro registers
      rw [BitStore.answer?, Device.cageOfNumber_eq_ok_iff.mp hcage]
      rfl
  | readScratch =>
      cases h
      exact Request.shows_read fun registers => rfl
  | readAttribute name =>
      cases h
      apply Request.shows_checked
      intro a hname bus hok
      simp only [BitStore.answer?, Device.attributeOfName_eq_ok_iff.mp hname]
      exact Request.shows_readAttribute device a bus hok
  | _ => cases hobservation

/-!
# Sessions

The handles never change in these sessions, so whether a step belongs to one is
judged by the rack it starts from.
-/

def Entry.settled? {n : Nat} (entry : Entry n) : Option Command :=
  match entry.1 with
  | .onDevice _ action => if entry.2.answer.isOk then action.command? else none
  | _ => none

namespace Rack

variable {n : Nat}

/-- A step on a device of the bus, or one that plants or clears faults there. -/
inductive Controls (rack : Rack n) (b : Fin n) : Step n -> Prop where
  | onDevice {h : Nat} {device : Device}
      (hhandle : rack.handles h = some { bus := b, client := .device device })
      (action : DeviceAction) : Controls rack b (.onDevice h action)
  | plantReadFault (address : Byte) (fault : Fault) :
      Controls rack b (.onBus b (.plantReadFault address fault))
  | plantWriteFault (address : Byte) (fault : Fault) :
      Controls rack b (.onBus b (.plantWriteFault address fault))
  | clearFaults : Controls rack b (.onBus b .clearFaults)

theorem Controls.congr {rack other : Rack n} {b : Fin n} {s : Step n}
    (h : rack.Controls b s) (hhandles : other.handles = rack.handles) :
    other.Controls b s := by
  cases h with
  | onDevice hhandle action => exact .onDevice (by rw [hhandles]; exact hhandle) action
  | plantReadFault address fault => exact .plantReadFault address fault
  | plantWriteFault address fault => exact .plantWriteFault address fault
  | clearFaults => exact .clearFaults

theorem Controls.handles_step {rack : Rack n} {b : Fin n} {s : Step n}
    (h : rack.Controls b s) : (rack.step s).1.handles = rack.handles := by
  cases h with
  | onDevice hhandle action =>
      rw [step_onDevice hhandle]
      rfl
  | plantReadFault address fault => rfl
  | plantWriteFault address fault => rfl
  | clearFaults => rfl

theorem Controls.registers_step {rack : Rack n} {b : Fin n} {s : Step n}
    (h : rack.Controls b s) :
    ((rack.step s).1.bus b).registers =
      (Entry.settled? (s, (rack.step s).2)).toList.foldl Command.apply
        (rack.bus b).registers := by
  cases h with
  | onDevice hhandle action =>
      rw [step_onDevice hhandle, bus_onBus_self, action.registers_run]
      rfl
  | plantReadFault address fault =>
      show ((rack.onBus b _).1.bus b).registers = _
      rw [bus_onBus_self]
      rfl
  | plantWriteFault address fault =>
      show ((rack.onBus b _).1.bus b).registers = _
      rw [bus_onBus_self]
      rfl
  | clearFaults =>
      show ((rack.onBus b _).1.bus b).registers = _
      rw [bus_onBus_self]
      rfl

theorem Controls.bus_step_of_ne {rack : Rack n} {b : Fin n} {s : Step n}
    (h : rack.Controls b s) {c : Fin n} (hne : c ≠ b) :
    (rack.step s).1.bus c = rack.bus c := by
  cases h with
  | onDevice hhandle action =>
      rw [step_onDevice hhandle]
      exact bus_onBus_of_ne hne
  | plantReadFault address fault => exact bus_onBus_of_ne hne
  | plantWriteFault address fault => exact bus_onBus_of_ne hne
  | clearFaults => exact bus_onBus_of_ne hne

theorem controls_cons {rack : Rack n} {b : Fin n} {s : Step n} {rest : List (Step n)}
    (hsteps : forall t, t ∈ s :: rest -> rack.Controls b t) :
    rack.Controls b s ∧ forall t, t ∈ rest -> (rack.step s).1.Controls b t := by
  have hs := hsteps s List.mem_cons_self
  constructor
  · exact hs
  · intro t ht
    exact (hsteps t (List.mem_cons_of_mem s ht)).congr hs.handles_step

theorem handles_run_of_controls {rack : Rack n} {b : Fin n} {steps : List (Step n)}
    (hsteps : forall s, s ∈ steps -> rack.Controls b s) :
    (rack.run steps).1.handles = rack.handles := by
  induction steps generalizing rack with
  | nil => rfl
  | cons s rest ih =>
      rcases controls_cons hsteps with ⟨hs, hrest⟩
      exact (ih hrest).trans hs.handles_step

theorem bus_run_of_controls {rack : Rack n} {b : Fin n} {steps : List (Step n)}
    (hsteps : forall s, s ∈ steps -> rack.Controls b s) {c : Fin n} (hne : c ≠ b) :
    (rack.run steps).1.bus c = rack.bus c := by
  induction steps generalizing rack with
  | nil => rfl
  | cons s rest ih =>
      rcases controls_cons hsteps with ⟨hs, hrest⟩
      exact (ih hrest).trans (hs.bus_step_of_ne hne)

theorem registers_run {rack : Rack n} {b : Fin n} {steps : List (Step n)}
    (hsteps : forall s, s ∈ steps -> rack.Controls b s) :
    ((rack.run steps).1.bus b).registers =
      ((rack.transcript steps).filterMap Entry.settled?).foldl Command.apply
        (rack.bus b).registers := by
  induction steps generalizing rack with
  | nil => rfl
  | cons s rest ih =>
      rcases controls_cons hsteps with ⟨hs, hrest⟩
      show (((rack.step s).1.run rest).1.bus b).registers = _
      rw [ih hrest, hs.registers_step, transcript_cons, ← List.foldl_append]
      cases hsettled : Entry.settled? (s, (rack.step s).2) with
      | none => rw [List.filterMap_cons_none hsettled]; rfl
      | some c => rw [List.filterMap_cons_some hsettled]; rfl

theorem answer_step_of_observation {rack : Rack n} {b : Fin n} {h : Nat} {device : Device}
    (hhandle : rack.handles h = some { bus := b, client := .device device })
    {action : DeviceAction} (hobservation : action.isObservation = true)
    (hok : (rack.step (.onDevice h action)).2.answer.isOk = true) :
    (BitStore.ofRegisters (rack.bus b).registers).answer? device action =
      some (rack.step (.onDevice h action)).2.answer := by
  rw [step_onDevice hhandle] at hok ⊢
  cases hrequest : action.request? (n := n) device with
  | some q =>
      rw [action.program_eq_of_request? hrequest] at hok ⊢
      exact action.shows_of_request? hrequest hobservation (rack.bus b) hok
  | none =>
      rw [DeviceAction.eq_readCatalog_of_request? hrequest] at hobservation
      cases hobservation

theorem registers_refine_bitStore {rack : Rack n} {b : Fin n} {steps : List (Step n)}
    (hsteps : forall s, s ∈ steps -> rack.Controls b s) :
    let before := (rack.bus b).registers
    let after := ((rack.run steps).1.bus b).registers
    let commands := (rack.transcript steps).filterMap Entry.settled?
    BitStore.ofRegisters after = (BitStore.ofRegisters before).after commands ∧
    (forall address i,
      (forall s : Signal, ¬ (s.register.address = address ∧ s.bit = i)) ->
      address ≠ Register.scratch.address ->
      (after.get address).bit i = (before.get address).bit i) := by
  intro before after commands
  have hregisters : after = commands.foldl Command.apply before := registers_run hsteps
  constructor
  · rw [hregisters, BitStore.ofRegisters_foldl]
  · intro address i hsignal hscratch
    rw [hregisters]
    apply BitStore.bit_foldl_of_not_touches
    intro c _
    cases c with
    | drive s level => exact hsignal s
    | fill value => exact fun h => hscratch h.symm

/-- In a session on the devices of one bus, every level and the scratch byte are at
every moment what was last put there with success, every other bit is as it was, and
every observation that succeeds shows what was there at its moment. -/
theorem session_refines_bitStore (rack : Rack n) (b : Fin n) (steps : List (Step n))
    (hsteps : forall s, s ∈ steps -> rack.Controls b s) :
    let before := (rack.bus b).registers
    (forall first rest, steps = first ++ rest ->
      let now := ((rack.run first).1.bus b).registers
      let commands := (rack.transcript first).filterMap Entry.settled?
      (forall s : Signal,
        s.levelIn (now.get s.register.address) =
          (commands.filterMap (Command.level? s)).getLast?.getD
            (s.levelIn (before.get s.register.address))) ∧
      now.get Register.scratch.address =
        (commands.filterMap Command.scratch?).getLast?.getD
          (before.get Register.scratch.address) ∧
      (forall address i,
        (forall s : Signal, ¬ (s.register.address = address ∧ s.bit = i)) ->
        address ≠ Register.scratch.address ->
        (now.get address).bit i = (before.get address).bit i)) ∧
    (forall earlier h device action report later,
      rack.transcript steps = earlier ++ (.onDevice h action, report) :: later ->
      rack.handles h = some { bus := b, client := .device device } ->
      action.isObservation = true ->
      report.answer.isOk = true ->
      ((BitStore.ofRegisters before).after (earlier.filterMap Entry.settled?)).answer?
        device action = some report.answer) := by
  intro before
  have hinitial {first rest : List (Step n)} (hsplit : steps = first ++ rest) :
      forall s, s ∈ first -> rack.Controls b s := by
    intro s hs
    apply hsteps
    rw [hsplit]
    exact List.mem_append_left rest hs
  constructor
  · intro first rest hsplit now commands
    rcases registers_refine_bitStore (hinitial hsplit) with ⟨hstore, hbits⟩
    refine ⟨?_, ?_, hbits⟩
    · intro s
      exact congrArg (fun store => store.level s) hstore
    · exact congrArg BitStore.scratch hstore
  · intro earlier h device action report later htranscript hhandle hobservation hok
    rcases transcript_eq_append_cons htranscript with ⟨first, second, hsplit, hearlier, hreport⟩
    have hfirst := hinitial hsplit
    have hmoment : (rack.run first).1.handles h =
        some { bus := b, client := .device device } := by
      rw [handles_run_of_controls hfirst]
      exact hhandle
    change report = _ at hreport
    rw [hreport] at hok ⊢
    rw [← hearlier, ← (registers_refine_bitStore hfirst).1]
    exact answer_step_of_observation hmoment hobservation hok

/-- Two handles share a bus.  The second store fails at its write and so does not
count; the level shown at the end is the one that the first handle drove. -/
theorem session_refines_bitStore_shared_bus :
    let device : Device := { identity := .ofRegisters none none none none, bringUpFault := none }
    let handle : Handle 1 := { bus := 0, client := .device device }
    let rack := ((Rack.ofBuses #v[(Bus.idle .byteData).poke 0x11 0x5A]).setHandle 0
      (some handle)).setHandle 1 (some handle)
    let first : List (Step 1) :=
      [ .onDevice 0 (.driveCageLine 17 .reset true),
        .onBus 0 (.plantWriteFault 0x11 .busy),
        .onDevice 1 (.storeAttribute "qsfp17_rst" "0\n") ]
    let last : DeviceAction := .readAttribute "qsfp17_rst"
    let steps := first ++ [.onDevice 1 last]
    let s := Signal.cageLine .reset ⟨0⟩
    let before := (rack.bus 0).registers
    let after := ((rack.run steps).1.bus 0).registers
    let report := ((rack.run first).1.step (.onDevice 1 last)).2
    (forall t, t ∈ steps -> rack.Controls 0 t) ∧
      s.levelIn (after.get s.register.address) = true ∧
      after.get Register.scratch.address = before.get Register.scratch.address ∧
      (after.get 0x08).bit 2 = (before.get 0x08).bit 2 ∧
      ((BitStore.ofRegisters before).after
        ((rack.transcript first).filterMap Entry.settled?)).answer? device last =
          some report.answer := by
  intro device handle rack first last steps s before after report
  have hzero : rack.handles 0 = some handle := rfl
  have hone : rack.handles 1 = some handle := rfl
  have hsteps : forall t, t ∈ steps -> rack.Controls 0 t := by
    intro t ht
    simp only [steps, first, List.cons_append, List.nil_append, List.mem_cons,
      List.not_mem_nil, or_false] at ht
    rcases ht with rfl | rfl | rfl | rfl
    · exact .onDevice hzero _
    · exact .plantWriteFault _ _
    · exact .onDevice hone _
    · exact .onDevice hone _
  have hlast : (((rack.transcript steps).filterMap Entry.settled?).filterMap
      (Command.level? s)).getLast? = some true := by
    decide +kernel
  have hscratch : (((rack.transcript steps).filterMap Entry.settled?).filterMap
      Command.scratch?).getLast? = none := by
    decide +kernel
  have hunnamed : forall t, t ∈ Signal.all ->
      ¬ (t.register.address = 0x08 ∧ t.bit = 2) := by
    decide +kernel
  have hok : report.answer.isOk = true := by
    decide +kernel
  rcases session_refines_bitStore rack 0 steps hsteps with ⟨hmoments, hshown⟩
  rcases hmoments steps [] rfl with ⟨hlevels, hbyte, hbits⟩
  refine ⟨hsteps, ?_, ?_, ?_, ?_⟩
  · have hs := hlevels s
    rw [hlast] at hs
    exact hs
  · rw [hscratch] at hbyte
    exact hbyte
  · exact hbits 0x08 2 (fun t => hunnamed t (Signal.mem_all t)) (by decide)
  · exact hshown _ 1 device last report [] (rack.transcript_append first _) hone rfl hok

end Rack
end CpldControl
