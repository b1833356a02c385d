import CpldControl.Proofs.BringUp
import CpldControl.Proofs.Request

/-!
# The log beside the transactions

Every transaction that goes through a handle is logged by one event, which shows
its address, its byte and its fault.  So the log of a session, read with nothing
silenced, is a second record of its transactions, and agrees with them entry for
entry.

The other events belong to bring-up and to the end of a handle.  The main
statement is `step_log_exact`.
-/

namespace CpldControl

open Chip (Register)
open Device (Attribute Identity)
open Smbus (Bus Fault Transaction)

/-!
# Events as they are shown

What is expected of the log is written out, with every level, message, name and text of a
value, and so does not rest on how events are put into words.
-/

namespace Log

structure Record where
  level : Level
  message : String
  fields : List (String × String)
deriving DecidableEq

def Event.record (e : Event) : Record where
  level := e.level
  message := e.message
  fields := e.fields

namespace Record

def accessMessages : List String :=
  ["CPLD read", "CPLD write", "CPLD READ ERROR", "CPLD WRITE ERROR"]

def isAccess (r : Record) : Bool :=
  accessMessages.contains r.message

def chipFound : Record where
  level := .info
  message := "Nokia-7220-IXR-H4-32D SWPLD3 chip found"
  fields := []

def adapterUnsuitable : Record where
  level := .error
  message := "CPLD PROBE ERROR: adapter lacks SMBus byte data support"
  fields := []

def capturedText : Option Byte -> String
  | none => "None"
  | some value => "Some(" ++ Text.decimal value.toNat ++ ")"

def identityText (identity : Identity) : String :=
  String.join
    [ "Identity \x7b code_ver: ", capturedText identity.codeVersion,
      ", code_type: ", capturedText identity.codeKind,
      ", code_day: ", capturedText identity.codeDay,
      ", code_month: ", capturedText identity.codeMonth,
      ", code_year: ", capturedText identity.codeYear,
      " \x7d" ]

def identityCaptured (identity : Identity) : Record where
  level := .debug
  message := "SWPLD3 identity"
  fields := [("identity", identityText identity)]

def detached : Record where
  level := .info
  message := "SWPLD3 detached"
  fields := []

end Record
end Log

open Log (Event Record)

namespace Smbus.Transaction

def addressField (address : Byte) : String × String :=
  ("register", "0x" ++ Text.hex2 address)

def record : Transaction -> Record
  | read address value =>
      { level := .trace, message := "CPLD read"
        fields := [addressField address, ("value", Text.decimal value.toNat)] }
  | readFailed address fault =>
      { level := .error, message := "CPLD READ ERROR"
        fields := [addressField address, ("error", fault.message)] }
  | write address value =>
      { level := .trace, message := "CPLD write"
        fields := [addressField address, ("value", Text.decimal value.toNat)] }
  | writeFailed address value fault =>
      { level := .error, message := "CPLD WRITE ERROR"
        fields :=
          [ addressField address, ("value", Text.decimal value.toNat),
            ("error", fault.message) ] }

/-- The record of a transaction and, if it succeeded, the same once more for those who
follow bring-up. -/
def recordTwice (message : String) (t : Transaction) : List Record :=
  match t.fault? with
  | none => [t.record, { t.record with level := .debug, message }]
  | some _ => [t.record]

theorem isAccess_record (t : Transaction) : t.record.isAccess = true := by
  cases t <;> rfl

theorem filter_map_record (ts : List Transaction) :
    (ts.map record).filter Record.isAccess = ts.map record := by
  apply List.filter_eq_self.mpr
  intro r hr
  rcases List.mem_map.mp hr with ⟨t, _, rfl⟩
  exact isAccess_record t

theorem filter_recordTwice {message : String}
    (hmessage : message ∉ Record.accessMessages) (t : Transaction) :
    (t.recordTwice message).filter Record.isAccess = [t.record] := by
  have haccess := isAccess_record t
  unfold recordTwice
  cases t.fault? with
  | none =>
      have hecho : Record.isAccess { t.record with level := .debug, message } = false := by
        simpa [Record.isAccess] using hmessage
      simp [haccess, hecho]
  | some fault => simp [haccess]

theorem filter_flatMap_recordTwice {message : String}
    (hmessage : message ∉ Record.accessMessages) (ts : List Transaction) :
    (ts.flatMap (recordTwice message)).filter Record.isAccess = ts.map record := by
  simp only [List.filter_flatMap, filter_recordTwice hmessage, List.map_eq_flatMap]

end Smbus.Transaction

/-!
# Programs that log their transactions
-/

namespace BusProgram

variable {α β : Type}

def LogsAccesses (p : BusProgram α) : Prop :=
  forall bus, (p.run bus).events.map Event.record = (p.run bus).transactions.map Transaction.record

theorem logsAccesses_pure (value : α) : (pure value : BusProgram α).LogsAccesses :=
  fun _ => rfl

theorem LogsAccesses.bind {p : BusProgram α} (hp : p.LogsAccesses) {f : α -> BusProgram β}
    (hf : forall value, (f value).LogsAccesses) : (p >>= f).LogsAccesses := by
  intro bus
  simp only [run_bind, Outcome.andThen, List.map_append, hp bus, hf _ _]

theorem LogsAccesses.map {p : BusProgram α} (hp : p.LogsAccesses) (f : α -> β) :
    (f <$> p).LogsAccesses := by
  intro bus
  rw [run_map]
  exact hp bus

theorem logsAccesses_mapM {f : α -> BusProgram β} (hf : forall a, (f a).LogsAccesses)
    (xs : List α) : (xs.mapM f).LogsAccesses := by
  induction xs with
  | nil => exact logsAccesses_pure []
  | cons x rest ih =>
      rw [List.mapM_cons]
      apply (hf x).bind
      intro y
      apply ih.bind
      intro ys
      exact logsAccesses_pure (y :: ys)

end BusProgram

namespace Device

open BusProgram (LogsAccesses logsAccesses_pure)

theorem logsAccesses_readRegister (r : Register) : (readRegister r).run.LogsAccesses := by
  intro bus
  have hread := perform_readRegister r bus
  unfold DeviceM.perform at hread
  rw [hread]
  cases bus.readFaults.get r.address with
  | none => rfl
  | some fault => rfl

theorem logsAccesses_writeRegister (r : Register) (value : Byte) :
    (writeRegister r value).run.LogsAccesses := by
  intro bus
  have hwrite := perform_writeRegister r value bus
  unfold DeviceM.perform at hwrite
  rw [hwrite]
  cases bus.writeFaults.get r.address with
  | none => rfl
  | some fault => rfl

theorem logsAccesses_updateRegister (r : Register) (f : Byte -> Byte) :
    (updateRegister r f).LogsAccesses := by
  unfold updateRegister
  apply (logsAccesses_readRegister r).bind
  intro seen
  cases seen with
  | error e => exact logsAccesses_pure _
  | ok current =>
      apply (logsAccesses_writeRegister r (f current)).bind
      intro written
      cases written with
      | error e => exact logsAccesses_pure _
      | ok u => exact logsAccesses_pure _

theorem logsAccesses_readAttribute (device : Device) (a : Attribute) :
    (device.readAttribute a).run.LogsAccesses := by
  cases a with
  | identity field =>
      simp only [readAttribute]
      cases device.identity.get? field with
      | some b => exact logsAccesses_pure _
      | none => exact logsAccesses_pure _
  | scratch =>
      simp only [readAttribute, ExceptT.run_map]
      exact (logsAccesses_readRegister .scratch).map _
  | signal s =>
      simp only [readAttribute, readSignal_eq, ExceptT.run_map]
      exact ((logsAccesses_readRegister s.register).map _).map _

theorem logsAccesses_readCatalog (device : Device) : device.readCatalog.LogsAccesses :=
  BusProgram.logsAccesses_mapM (fun a => (logsAccesses_readAttribute device a).map _) _

end Device

theorem Request.logsAccesses_program {n : Nat} (q : Request n) : q.program.LogsAccesses := by
  cases q with
  | reply answer => exact BusProgram.logsAccesses_pure _
  | refuse e => exact BusProgram.logsAccesses_pure _
  | read r view => exact (Device.logsAccesses_readRegister r).map _
  | write r value => exact (Device.logsAccesses_writeRegister r value).map _
  | update r f view => exact (Device.logsAccesses_updateRegister r f).map _

theorem RegisterAction.logsAccesses_program {n : Nat} (action : RegisterAction) :
    (action.program (n := n)).LogsAccesses := by
  rw [action.program_eq]
  exact action.request.logsAccesses_program

theorem DeviceAction.logsAccesses_program {n : Nat} (device : Device)
    (action : DeviceAction) : (action.program (n := n) device).LogsAccesses := by
  cases hrequest : action.request? (n := n) device with
  | some q =>
      rw [action.program_eq_of_request? hrequest]
      exact q.logsAccesses_program
  | none =>
      rw [DeviceAction.eq_readCatalog_of_request? hrequest]
      exact (Device.logsAccesses_readCatalog device).map _

/-!
# The log of bring-up
-/

namespace Device

theorem valueText_eq_capturedText (value : Option Byte) :
    Identity.valueText value = Record.capturedText value := by
  cases value <;> rfl

theorem text_eq_identityText (identity : Identity) :
    identity.text = Record.identityText identity := by
  unfold Identity.text Record.identityText
  simp only [valueText_eq_capturedText, String.join, List.foldl_cons, List.foldl_nil]
  rw [String.empty_append]

theorem record_identityCaptured (identity : Identity) :
    (Event.identityCaptured identity).record = Record.identityCaptured identity := by
  rw [Record.identityCaptured, ← text_eq_identityText]
  rfl

theorem map_record_identityEvents (r : Register) (result : Except Fault Byte) :
    (identityEvents r result).map Event.record =
      (Transaction.ofRead r.address result).recordTwice "SWPLD3 identity read" := by
  cases result <;> rfl

theorem map_record_baselineEvents (r : Register) (value : Byte) (result : Except Fault Unit) :
    (baselineEvents r value result).map Event.record =
      (Transaction.ofWrite r.address value result).recordTwice "SWPLD3 baseline" := by
  cases result <;> rfl

/-- After the chip was found, each of the four reads is followed by its echo, then comes
the identity that they add up to, and then the six writes, each with its echo. -/
theorem map_record_bringUp (bus : Bus) :
    let o := bringUp.run bus
    o.events.map Event.record =
      Record.chipFound ::
        (o.transactions.take 4).flatMap (Transaction.recordTwice "SWPLD3 identity read") ++
        Record.identityCaptured o.value.identity ::
        (o.transactions.drop 4).flatMap (Transaction.recordTwice "SWPLD3 baseline") := by
  have hreads : ((bringUpAccesses bus).map Prod.snd).take 4 =
      identityRegisters.map fun r => .ofRead r.address (bus.readResult r.address) := rfl
  have hwrites : ((bringUpAccesses bus).map Prod.snd).drop 4 =
      forcedRegisters.map fun entry =>
        .ofWrite entry.1.address entry.2 (bus.writeResult entry.1.address) := rfl
  simp only [run_bringUp, hreads, hwrites, List.flatMap_map, List.map_append, List.map_cons,
    List.map_flatMap, map_record_identityEvents, map_record_baselineEvents,
    record_identityCaptured]
  rfl

theorem filter_map_record_bringUp (bus : Bus) :
    ((bringUp.run bus).events.map Event.record).filter Record.isAccess =
      (bringUp.run bus).transactions.map Transaction.record := by
  have hread : "SWPLD3 identity read" ∉ Record.accessMessages := by decide
  have hbaseline : "SWPLD3 baseline" ∉ Record.accessMessages := by decide
  rw [map_record_bringUp]
  generalize (bringUp.run bus).transactions = ts
  generalize (bringUp.run bus).value.identity = identity
  have hfound : Record.chipFound.isAccess = false := by decide
  have hidentity : (Record.identityCaptured identity).isAccess = false := rfl
  simp only [List.cons_append, List.filter_cons, List.filter_append, hfound, hidentity,
    Transaction.filter_flatMap_recordTwice hread, Transaction.filter_flatMap_recordTwice hbaseline]
  calc
    (ts.take 4).map Transaction.record ++ (ts.drop 4).map Transaction.record =
        (ts.take 4 ++ ts.drop 4).map Transaction.record := List.map_append.symm
    _ = ts.map Transaction.record := by rw [List.take_append_drop]

end Device

/-!
# The log of a step
-/

def Report.log {n : Nat} (r : Report n) : List Record :=
  (Log.visible .on .trace r.events).map Event.record

theorem Report.log_eq_map {n : Nat} (r : Report n) : r.log = r.events.map Event.record := by
  rw [log, Log.visible_on_trace]

def Step.isOnBus {n : Nat} : Step n -> Bool
  | onBus _ _ => true
  | _ => false

def Step.isLifecycle {n : Nat} : Step n -> Bool
  | probe _ _ => true
  | remove _ => true
  | _ => false

theorem BusAction.events_perform {n : Nat} (action : BusAction) (bus : Bus) :
    (action.perform bus : Outcome (Answer n)).events = [] := by
  cases action <;> rfl

def Report.accessRecords {n : Nat} (r : Report n) : List Record :=
  r.transactions.map fun entry => entry.2.record

theorem Report.accessRecords_eq_map {n : Nat} (r : Report n) :
    r.accessRecords = (r.transactions.map Prod.snd).map Transaction.record := by
  rw [accessRecords, List.map_map]
  rfl

namespace Rack

variable {n : Nat}

theorem log_step_onBus (rack : Rack n) (b : Fin n) (action : BusAction) :
    (rack.step (.onBus b action)).2.log = [] := by
  rw [Report.log_eq_map]
  show ((action.perform (rack.bus b) : Outcome (Answer n)).events).map Event.record = []
  rw [action.events_perform]
  rfl

theorem log_onBus_of_logsAccesses {rack : Rack n} {b : Fin n} {p : BusProgram (Answer n)}
    (hp : p.LogsAccesses) :
    (rack.onBus b p.run).2.log = (rack.onBus b p.run).2.accessRecords := by
  rw [Report.log_eq_map, Report.accessRecords]
  simp only [onBus, Report.ofOutcome, List.map_map]
  exact hp (rack.bus b)

theorem log_step_of_not_lifecycle (rack : Rack n) {s : Step n} (hbus : s.isOnBus = false)
    (hlifecycle : s.isLifecycle = false) :
    (rack.step s).2.log = (rack.step s).2.accessRecords := by
  have hcourse := rack.course_step s
  generalize rack.step s = next at hcourse ⊢
  cases hcourse with
  | onBus b action => cases hbus
  | probe hsupports h => cases hlifecycle
  | probeRefused hsupports h => cases hlifecycle
  | attach h b => rfl
  | remove hhandle => cases hlifecycle
  | onRegister hhandle action => exact log_onBus_of_logsAccesses action.logsAccesses_program
  | onDevice hhandle action =>
      exact log_onBus_of_logsAccesses (action.logsAccesses_program _)
  | noHandle hthrough habsent => rfl
  | notDevice hhandle action => rfl

theorem log_step_probe_of_supports {rack : Rack n} {b : Fin n}
    (hsupports : (rack.bus b).supports .byteData = true) (h : Nat) :
    let next := rack.step (.probe h b)
    let ts := next.2.transactions.map Prod.snd
    exists device,
      next.1.handles h = some { bus := b, client := .device device } ∧
      next.2.log =
        Record.chipFound ::
          (ts.take 4).flatMap (Transaction.recordTwice "SWPLD3 identity read") ++
          Record.identityCaptured device.identity ::
          (ts.drop 4).flatMap (Transaction.recordTwice "SWPLD3 baseline") := by
  simp only [step_probe_of_supports hsupports]
  refine ⟨_, handles_setHandle_self _ _ _, ?_⟩
  rw [Report.log_eq_map]
  simp only [Report.ofOutcome, List.map_map, Function.comp_def, List.map_id']
  exact Device.map_record_bringUp _

theorem log_step_probe_of_not_supports {rack : Rack n} {b : Fin n}
    (hsupports : (rack.bus b).supports .byteData = false) (h : Nat) :
    (rack.step (.probe h b)).2.log = [Record.adapterUnsuitable] := by
  rw [step_probe_of_not_supports hsupports]
  rfl

theorem log_step_remove (rack : Rack n) (h : Nat) :
    (rack.step (.remove h)).2.log =
      match rack.handles h with
      | some { bus := _, client := .device _ } => [Record.detached]
      | _ => [] := by
  simp only [step, withHandle]
  cases rack.handles h with
  | none => rfl
  | some handle =>
      rcases handle with ⟨b, client⟩
      cases client with
      | bare => rfl
      | device device => rfl

theorem accessRecords_step_remove (rack : Rack n) (h : Nat) :
    (rack.step (.remove h)).2.accessRecords = [] := by
  simp only [step, withHandle]
  cases rack.handles h with
  | none => rfl
  | some handle => rfl

theorem filter_log_step_probe (rack : Rack n) (h : Nat) (b : Fin n) :
    (rack.step (.probe h b)).2.log.filter Record.isAccess =
      (rack.step (.probe h b)).2.accessRecords := by
  rw [Report.log_eq_map, Report.accessRecords]
  cases hsupports : (rack.bus b).supports .byteData with
  | true =>
      rw [step_probe_of_supports hsupports]
      simp only [Report.ofOutcome, List.map_map]
      exact Device.filter_map_record_bringUp (rack.bus b)
  | false =>
      rw [step_probe_of_not_supports hsupports]
      rfl

theorem filter_log_step (rack : Rack n) {s : Step n} (hbus : s.isOnBus = false) :
    (rack.step s).2.log.filter Record.isAccess = (rack.step s).2.accessRecords := by
  cases hlifecycle : s.isLifecycle with
  | false =>
      rw [rack.log_step_of_not_lifecycle hbus hlifecycle, Report.accessRecords_eq_map]
      exact Transaction.filter_map_record _
  | true =>
      cases s with
      | probe h b => exact rack.filter_log_step_probe h b
      | remove h =>
          rw [log_step_remove, accessRecords_step_remove]
          split <;> rfl
      | _ => cases hlifecycle

/-- A step through a handle logs a record of each of its transactions, in their order.
A step straight on a bus logs nothing, and only making or ending a device logs more:
what bring-up finds, each of its successes once more, the identity, its refusal, and the
end of a device. -/
theorem step_log_exact (rack : Rack n) :
    (forall s : Step n, s.isOnBus = false ->
      (rack.step s).2.log.filter Record.isAccess =
        (rack.step s).2.transactions.map fun entry => entry.2.record) ∧
    (forall b action, (rack.step (.onBus b action)).2.log = []) ∧
    (forall s : Step n, s.isLifecycle = false ->
      forall r, r ∈ (rack.step s).2.log -> r.isAccess = true) ∧
    (forall h b, (rack.bus b).supports .byteData = true ->
      let next := rack.step (.probe h b)
      let ts := next.2.transactions.map Prod.snd
      exists device,
        next.1.handles h = some { bus := b, client := .device device } ∧
        next.2.log =
          Record.chipFound ::
            (ts.take 4).flatMap (Transaction.recordTwice "SWPLD3 identity read") ++
            Record.identityCaptured device.identity ::
            (ts.drop 4).flatMap (Transaction.recordTwice "SWPLD3 baseline")) ∧
    (forall h b, (rack.bus b).supports .byteData = false ->
      (rack.step (.probe h b)).2.log = [Record.adapterUnsuitable]) ∧
    (forall h,
      (rack.step (.remove h)).2.log =
        match rack.handles h with
        | some { bus := _, client := .device _ } => [Record.detached]
        | _ => []) := by
  refine ⟨?_, rack.log_step_onBus, ?_, ?_, ?_, rack.log_step_remove⟩
  · intro s hbus
    exact rack.filter_log_step hbus
  · intro s hlifecycle r hr
    cases hbus : s.isOnBus with
    | true =>
        cases s with
        | onBus b action =>
            rw [log_step_onBus] at hr
            cases hr
        | _ => cases hbus
    | false =>
        rw [rack.log_step_of_not_lifecycle hbus hlifecycle] at hr
        rcases List.mem_map.mp hr with ⟨entry, _, rfl⟩
        exact entry.2.isAccess_record
  · intro h b hsupports
    exact log_step_probe_of_supports hsupports h
  · intro h b hsupports
    exact log_step_probe_of_not_supports hsupports h

/-- A signal whose write fails is logged as a read and a failed write.  Of the two buses
one is fit for bring-up, which captures an identity without the day. -/
theorem step_log_exact_write_fault :
    let bus := ((Bus.idle .byteData).plantWriteFault 0x10 .dataNak).plantReadFault 0xF0 .timeout
    let device : Device := { identity := .ofRegisters none none none none, bringUpFault := none }
    let rack := (Rack.ofBuses #v[bus, Bus.idle .wordAndRaw]).setHandle 0
      (some { bus := 0, client := .device device })
    let s := Step.onDevice 0 (.driveSignal "rst_pld_soft" true)
    s.isOnBus = false ∧
      (rack.step s).2.log.filter Record.isAccess =
        [ { level := .trace, message := "CPLD read"
            fields := [("register", "0x10"), ("value", "0")] },
          { level := .error, message := "CPLD WRITE ERROR"
            fields := [("register", "0x10"), ("value", "1"),
              ("error", "I2C Data Not Acknowledged")] } ] ∧
      s.isLifecycle = false ∧
      (forall r, r ∈ (rack.step s).2.log -> r.isAccess = true) ∧
      (rack.bus 0).supports .byteData = true ∧
      (rack.step (.probe 1 0)).2.log.head? = some .chipFound ∧
      (rack.step (.probe 1 0)).2.log[8]? = some
        { level := .debug, message := "SWPLD3 identity"
          fields :=
            [ ("identity",
                "Identity \x7b code_ver: Some(0), code_type: Some(0), code_day: None, " ++
                  "code_month: Some(0), code_year: Some(0) \x7d") ] } ∧
      (rack.bus 1).supports .byteData = false ∧
      (rack.step (.probe 1 1)).2.log = [.adapterUnsuitable] := by
  intro bus device rack s
  have hsupports : (rack.bus 0).supports .byteData = true := rfl
  have hunsuited : (rack.bus 1).supports .byteData = false := rfl
  rcases step_log_exact rack with ⟨haccesses, _, hothers, hprobe, hrefused, _⟩
  rcases hprobe 1 0 hsupports with ⟨device', _, hlog⟩
  refine ⟨rfl, ?_, rfl, hothers s rfl, hsupports, ?_, ?_, hunsuited, hrefused 1 1 hunsuited⟩
  · rw [haccesses s rfl]
    decide +kernel
  · rw [hlog]
    rfl
  · decide +kernel

end Rack
end CpldControl
