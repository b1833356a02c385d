import CpldControl.Proofs.BitStore
import CpldControl.Proofs.BringUp
import CpldControl.Proofs.BusHistory
import CpldControl.Proofs.ReadOnly

/-!
# The bus discipline of a device

A device writes to few registers: those with a signal that may be driven, and the
scratch register.  Outside bring-up it writes at most once in a step, and it puts
back what it has just read, but for the bit of the signal that the step names.

`permitted_of_request?` lists the requests that an action can come down to, and
`exchange_step` the transactions of a step.  The main statement is
`bus_discipline`.
-/

namespace CpldControl

open Chip (Cage CageLine Register Signal)
open Device (Attribute Error)
open Smbus (Bus Fault History Occurrence Transaction)

/-!
# Registers
-/

namespace Chip

namespace Register

def driven : List Register :=
  [ ledTest, scratch, reset,
    cageLines .reset .low, cageLines .reset .high,
    cageLines .lowPower .low, cageLines .lowPower .high,
    cageLines .select .low, cageLines .select .high,
    sfpControl ]

def undriven : List Register :=
  [ hitless,
    cageLines .present .low, cageLines .present .high,
    cageLines .interrupt .low, cageLines .interrupt .high,
    sfpStatus,
    codeRevision, codeDay, codeMonth, codeYear, testCodeRevision ]

theorem address_ne_of_mem_undriven {r s : Register} (hr : r ∈ undriven) (hs : s ∈ driven) :
    s.address ≠ r.address := by
  have hall : forall r, r ∈ undriven -> r ∉ driven := by
    decide
  intro haddress
  rw [address_injective haddress] at hs
  exact hall r hr hs

theorem mem_driven_of_mem_forced {entry : Register × Byte}
    (h : entry ∈ Device.forcedRegisters) : entry.1 ∈ driven := by
  have hall : forall e, e ∈ Device.forcedRegisters -> e.1 ∈ driven := by
    decide
  exact hall entry h

end Register

theorem Signal.register_mem_driven {s : Signal} (hwritable : s.isWritable = true) :
    s.register ∈ Register.driven := by
  cases s with
  | cageLine line cage =>
      rw [isWritable_cageLine] at hwritable
      have hall : forall bank, Register.cageLines line bank ∈ Register.driven := by
        intro bank
        cases line with
        | present => cases hwritable
        | interrupt => cases hwritable
        | _ => cases bank <;> decide
      exact hall cage.bank
  | hitlessEnable => cases hwritable
  | sfpTransmitFault => cases hwritable
  | sfpReceiveLoss => cases hwritable
  | sfpPresent => cases hwritable
  | _ => decide

theorem Signal.bit_driveIn_of_ne (s : Signal) (b : Byte) (level : Bool) {i : Fin 8}
    (hi : i ≠ s.bit) : (s.driveIn b level).bit i = b.bit i :=
  Byte.bit_withBit_of_ne hi

end Chip

/-!
# The requests of an action
-/

def Device.Attribute.signal? : Attribute -> Option Signal
  | signal s => some s
  | _ => none

def DeviceAction.signal? : DeviceAction -> Option Signal
  | readSignal name => Signal.find? name
  | driveSignal name _ => Signal.find? name
  | driveSignalNumber name _ => Signal.find? name
  | readCageLine cage line => (Cage.ofNumber? cage).map (.cageLine line)
  | driveCageLine cage line _ => (Cage.ofNumber? cage).map (.cageLine line)
  | readAttribute name => (Attribute.find? name).bind Attribute.signal?
  | storeAttribute name _ => (Attribute.find? name).bind Attribute.signal?
  | _ => none

namespace Request

variable {n : Nat} {α : Type} {named? : Option Signal}

/-- What an action that names a signal, or none, may ask of the bus. -/
inductive Permitted (named? : Option Signal) : Request n -> Prop where
  | reply (answer : Answer n) : Permitted named? (.reply answer)
  | refuse (e : Error) : Permitted named? (.refuse e)
  | read (r : Register) (view : Byte -> Answer n) : Permitted named? (.read r view)
  | writeScratch (value : Byte) : Permitted named? (.write .scratch value)
  | driveSignal {s : Signal} (hnamed : named? = some s) (hwritable : s.isWritable = true)
      (level : Bool) : Permitted named? (.driveSignal s level)

theorem permitted_checked {input : Except Error α} {next : α -> Request n}
    (hnext : forall a, input = .ok a -> (next a).Permitted named?) :
    (checked input next).Permitted named? := by
  cases input with
  | ok a => exact hnext a rfl
  | error e => exact .refuse e

theorem permitted_named {name : String} {next : Signal -> Request n}
    (hnext : forall s, Signal.find? name = some s -> (next s).Permitted named?) :
    (named name next).Permitted named? := by
  unfold named
  cases hname : Signal.find? name with
  | some s => exact hnext s hname
  | none => exact .reply _

theorem permitted_writable {s : Signal} {next : Request n}
    (hnext : s.isWritable = true -> next.Permitted named?) :
    (writable s next).Permitted named? := by
  unfold writable
  cases hwritable : s.isWritable with
  | true => exact hnext hwritable
  | false => exact .refuse _

theorem permitted_readAttribute (device : Device) (a : Attribute) :
    (readAttribute device a : Request n).Permitted named? := by
  cases a with
  | identity field =>
      simp only [readAttribute]
      cases device.identity.get? field with
      | some b => exact .reply _
      | none => exact .refuse _
  | scratch => exact .read _ _
  | signal s => exact .read _ _

theorem permitted_storeAttribute (text : String) (a : Attribute) :
    (storeAttribute text a : Request n).Permitted a.signal? := by
  cases a with
  | identity field => exact .refuse _
  | scratch => exact permitted_checked fun value _ => .writeScratch value
  | signal s =>
      apply permitted_writable
      intro hwritable
      apply permitted_checked
      intro number _
      apply permitted_checked
      intro level _
      exact .driveSignal rfl hwritable level

end Request

theorem DeviceAction.permitted_of_request? {n : Nat} {device : Device}
    {action : DeviceAction} {q : Request n} (h : action.request? device = some q) :
    q.Permitted action.signal? := by
  cases action with
  | readCatalog => cases h
  | identity => cases h; exact .reply _
  | bringUpFault => cases h; exact .reply _
  | readSignal name =>
      cases h
      exact Request.permitted_named fun s _ => .read _ _
  | driveSignal name level =>
      cases h
      apply Request.permitted_named
      intro s hname
      exact Request.permitted_writable fun hwritable => .driveSignal hname hwritable level
  | driveSignalNumber name number =>
      cases h
      apply Request.permitted_named
      intro s hname
      apply Request.permitted_writable
      intro hwritable
      exact Request.permitted_checked fun level _ => .driveSignal hname hwritable level
  | readCageLine cage line =>
      cases h
      exact Request.permitted_checked fun c _ => .read _ _
  | driveCageLine cage line level =>
      cases h
      apply Request.permitted_checked
      intro c hcage
      apply Request.permitted_writable
      intro hwritable
      refine .driveSignal ?_ hwritable level
      rw [signal?, Device.cageOfNumber_eq_ok_iff.mp hcage]
      rfl
  | readScratch => cases h; exact .read _ _
  | writeScratch value => cases h; exact .writeScratch value
  | readAttribute name =>
      cases h
      exact Request.permitted_checked fun a _ => Request.permitted_readAttribute device a
  | storeAttribute name text =>
      cases h
      apply Request.permitted_checked
      intro a hname
      rw [signal?, Device.attributeOfName_eq_ok_iff.mp hname]
      exact Request.permitted_storeAttribute text a

/-!
# Exchanges with a bus

An exchange is made up of the transactions by which a request is carried out on a
bus, or by which it fails.
-/

inductive Exchange {n : Nat} (named? : Option Signal) : List (Fin n × Transaction) -> Prop where
  | silent : Exchange named? []
  | read (b : Fin n) {t : Transaction} (hread : t.direction = .read) :
      Exchange named? [(b, t)]
  | writeScratch (b : Fin n) (value : Byte) (result : Except Fault Unit) :
      Exchange named? [(b, .ofWrite Register.scratch.address value result)]
  | driveSignal (b : Fin n) {s : Signal} (hnamed : named? = some s)
      (hwritable : s.isWritable = true) (seen : Byte) (level : Bool)
      (result : Except Fault Unit) :
      Exchange named?
        [ (b, .read s.register.address seen),
          (b, .ofWrite s.register.address (s.driveIn seen level) result) ]

theorem Request.Permitted.exchange {n : Nat} {named? : Option Signal} {q : Request n}
    (hq : q.Permitted named?) (b : Fin n) (bus : Bus) :
    Exchange named? ((q.program.run bus).transactions.map fun t => (b, t)) := by
  cases hq with
  | reply answer => exact .silent
  | refuse e => exact .silent
  | read r view =>
      rw [transactions_read]
      exact .read b (Transaction.direction_ofRead _ _)
  | writeScratch value =>
      rw [transactions_write]
      exact .writeScratch b value _
  | driveSignal hnamed hwritable level =>
      rename_i s
      unfold Request.driveSignal
      rw [transactions_update]
      cases bus.readFaults.get s.register.address with
      | some fault => exact .read b rfl
      | none => exact .driveSignal b hnamed hwritable _ level _

theorem Request.eq_nil_or_read_of_no_write {n : Nat} {q : Request n} {bus : Bus}
    (hnone : forall t, t ∈ (q.program.run bus).transactions -> t.direction ≠ .write) :
    (q.program.run bus).transactions = [] ∨
      exists t, (q.program.run bus).transactions = [t] ∧ t.direction = .read := by
  cases q with
  | reply answer => exact Or.inl rfl
  | refuse e => exact Or.inl rfl
  | read r view =>
      rw [transactions_read]
      exact Or.inr ⟨_, rfl, Transaction.direction_ofRead _ _⟩
  | write r value =>
      rw [transactions_write] at hnone
      exact absurd (Transaction.direction_ofWrite _ _ _) (hnone _ List.mem_cons_self)
  | update r f view =>
      rw [transactions_update] at hnone ⊢
      cases hread : bus.readFaults.get r.address with
      | some fault => exact Or.inr ⟨_, rfl, rfl⟩
      | none =>
          rw [hread] at hnone
          have hwrite := hnone _ (List.mem_cons_of_mem _ List.mem_cons_self)
          exact absurd (Transaction.direction_ofWrite _ _ _) hwrite

def Smbus.Transaction.written? : Transaction -> Option Byte
  | write _ value => some value
  | writeFailed _ value _ => some value
  | _ => none

theorem Smbus.Transaction.written?_ofWrite (address value : Byte) (result : Except Fault Unit) :
    (ofWrite address value result).written? = some value := by
  cases result <;> rfl

namespace Exchange

variable {n : Nat} {named? : Option Signal} {ts : List (Fin n × Transaction)}
  {entry : Fin n × Transaction}

theorem eq_singleton_of_scratch (h : Exchange named? ts) (hentry : entry ∈ ts)
    (hwrite : entry.2.direction = .write)
    (hscratch : entry.2.address = Register.scratch.address) : ts = [entry] := by
  cases h with
  | silent => cases hentry
  | read b hread =>
      rw [List.mem_singleton.mp hentry]
  | writeScratch b value result =>
      rw [List.mem_singleton.mp hentry]
  | driveSignal b hnamed hwritable seen level result =>
      rcases List.mem_cons.mp hentry with rfl | hentry
      · cases hwrite
      · rw [List.mem_singleton.mp hentry, Transaction.address_ofWrite] at hscratch
        exact absurd (Register.address_injective hscratch) (Command.scratch_not_signal _)

theorem eq_read_write_of_not_scratch (h : Exchange named? ts) (hentry : entry ∈ ts)
    (hwrite : entry.2.direction = .write)
    (hscratch : entry.2.address ≠ Register.scratch.address) :
    exists s seen written,
      named? = some s ∧ s.isWritable = true ∧ s.register.address = entry.2.address ∧
      ts = [(entry.1, .read entry.2.address seen), entry] ∧
      entry.2.written? = some written ∧
      forall i, i ≠ s.bit -> written.bit i = seen.bit i := by
  cases h with
  | silent => cases hentry
  | read b hread =>
      rw [List.mem_singleton.mp hentry, hread] at hwrite
      cases hwrite
  | writeScratch b value result =>
      rw [List.mem_singleton.mp hentry, Transaction.address_ofWrite] at hscratch
      exact absurd rfl hscratch
  | driveSignal b hnamed hwritable seen level result =>
      rename_i s
      rcases List.mem_cons.mp hentry with rfl | hentry
      · cases hwrite
      · cases List.mem_singleton.mp hentry
        refine ⟨s, seen, s.driveIn seen level, hnamed, hwritable, ?_, ?_, ?_, ?_⟩
        · exact (Transaction.address_ofWrite _ _ _).symm
        · rw [Transaction.address_ofWrite]
        · exact Transaction.written?_ofWrite _ _ _
        · intro i hi
          exact s.bit_driveIn_of_ne seen level hi

theorem address_mem_driven (h : Exchange named? ts) (hentry : entry ∈ ts)
    (hwrite : entry.2.direction = .write) :
    exists r, r ∈ Register.driven ∧ entry.2.address = r.address := by
  by_cases hscratch : entry.2.address = Register.scratch.address
  · exact ⟨.scratch, by decide, hscratch⟩
  · rcases h.eq_read_write_of_not_scratch hentry hwrite hscratch with
      ⟨s, _, _, _, hwritable, haddress, _⟩
    exact ⟨s.register, Signal.register_mem_driven hwritable, haddress.symm⟩

end Exchange

/-!
# Steps

A step writes freely if it puts a byte of the caller's choice into any register.  Every
other step has one exchange with a bus, bring-up and the catalog apart: the catalog only
reads, and bring-up writes what it forces.
-/

namespace Step

variable {n : Nat}

/-- Whether a step puts a byte of the caller's choice into any register. -/
def writesFreely : Step n -> Bool
  | onBus _ (.poke _ _) => true
  | onBus _ (.rawWrite _ _) => true
  | onRegister _ (.write _ _) => true
  | onRegister _ (.modify _ _) => true
  | _ => false

def isProbe : Step n -> Bool
  | probe _ _ => true
  | _ => false

def isReadCatalog : Step n -> Bool
  | onDevice _ .readCatalog => true
  | _ => false

def signal? : Step n -> Option Signal
  | onDevice _ action => action.signal?
  | _ => none

end Step

namespace Rack

variable {n : Nat}

theorem exchange_step (rack : Rack n) {s : Step n} (hfree : s.writesFreely = false)
    (hprobe : s.isProbe = false) (hcatalog : s.isReadCatalog = false) :
    Exchange s.signal? (rack.step s).2.transactions := by
  have hcourse := rack.course_step s
  generalize rack.step s = next at hcourse ⊢
  cases hcourse with
  | onBus b action =>
      cases action with
      | poke address value => cases hfree
      | rawWrite address value => cases hfree
      | rawRead address => exact .read b (Transaction.direction_ofRead _ _)
      | _ => exact .silent
  | probe hsupports h => cases hprobe
  | probeRefused hsupports h => cases hprobe
  | attach h b => exact .silent
  | remove hhandle => exact .silent
  | onRegister hhandle action =>
      rename_i h handle
      cases action with
      | read r =>
          have hread : (Request.read (n := n) r .byte).Permitted none := .read r _
          exact hread.exchange handle.bus (rack.bus handle.bus)
      | write r value => cases hfree
      | modify r f => cases hfree
  | onDevice hhandle action =>
      rename_i h b device
      cases hrequest : action.request? (n := n) device with
      | some q =>
          rw [action.program_eq_of_request? hrequest]
          exact (action.permitted_of_request? hrequest).exchange b (rack.bus b)
      | none =>
          rw [DeviceAction.eq_readCatalog_of_request? hrequest] at hcatalog
          cases hcatalog
  | noHandle hthrough habsent => exact .silent
  | notDevice hhandle action => exact .silent

theorem direction_of_readCatalog {rack : Rack n} {s : Step n}
    (hcatalog : s.isReadCatalog = true) {entry : Fin n × Transaction}
    (hentry : entry ∈ (rack.step s).2.transactions) : entry.2.direction = .read := by
  have hcourse := rack.course_step s
  generalize rack.step s = next at hcourse hentry
  cases hcourse with
  | onDevice hhandle action =>
      rename_i h b device
      cases action with
      | readCatalog =>
          have hreadOnly : (DeviceAction.readCatalog.program (n := n) device).ReadOnly :=
            (Device.readOnly_readCatalog device).map _
          rcases List.mem_map.mp hentry with ⟨t, ht, rfl⟩
          exact hreadOnly.direction_of_mem ht
      | _ => cases hcatalog
  | noHandle hthrough habsent => cases hentry
  | notDevice hhandle action => cases hentry
  | _ => cases hcatalog

theorem address_mem_driven_of_probe {rack : Rack n} {h : Nat} {b : Fin n}
    {entry : Fin n × Transaction}
    (hentry : entry ∈ (rack.step (.probe h b)).2.transactions)
    (hwrite : entry.2.direction = .write) :
    exists r, r ∈ Register.driven ∧ entry.2.address = r.address := by
  cases hsupports : (rack.bus b).supports .byteData with
  | false =>
      rw [step_probe_of_not_supports hsupports] at hentry
      cases hentry
  | true =>
      rw [step_probe_of_supports hsupports] at hentry
      rcases List.mem_map.mp hentry with ⟨t, ht, rfl⟩
      rw [(Device.broughtUp_run (rack.bus b)).transactions] at ht
      rcases List.mem_append.mp ht with ht | ht
      · rcases List.mem_map.mp ht with ⟨r, _, rfl⟩
        rw [Transaction.direction_ofRead] at hwrite
        cases hwrite
      · rcases List.mem_map.mp ht with ⟨e, he, rfl⟩
        exact ⟨e.1, Register.mem_driven_of_mem_forced he, Transaction.address_ofWrite _ _ _⟩

theorem exists_write_of_probe {rack : Rack n} {b : Fin n}
    (hsupports : (rack.bus b).supports .byteData = true) (h : Nat) :
    exists entry, entry ∈ (rack.step (.probe h b)).2.transactions ∧
      entry.2.direction = .write := by
  have hfirst : (Register.cageLines .reset .low, (0xFF : Byte)) ∈ Device.forcedRegisters := by
    decide
  have hts := (Device.broughtUp_run (rack.bus b)).transactions
  rw [step_probe_of_supports hsupports]
  simp only [Report.ofOutcome, hts]
  refine ⟨_, List.mem_map_of_mem (List.mem_append_right _ (List.mem_map_of_mem hfirst)), ?_⟩
  exact Transaction.direction_ofWrite _ _ _

theorem address_mem_driven_step {rack : Rack n} {s : Step n} (hfree : s.writesFreely = false)
    {entry : Fin n × Transaction} (hentry : entry ∈ (rack.step s).2.transactions)
    (hwrite : entry.2.direction = .write) :
    exists r, r ∈ Register.driven ∧ entry.2.address = r.address := by
  cases hcatalog : s.isReadCatalog with
  | true =>
      rw [direction_of_readCatalog hcatalog hentry] at hwrite
      cases hwrite
  | false =>
      cases hprobe : s.isProbe with
      | false => exact (rack.exchange_step hfree hprobe hcatalog).address_mem_driven hentry hwrite
      | true =>
          cases s with
          | probe h b => exact address_mem_driven_of_probe hentry hwrite
          | _ => cases hprobe

theorem eq_nil_or_read_onBus {rack : Rack n} {b : Fin n} {q : Request n}
    (hnone : forall entry, entry ∈ (rack.onBus b q.program.run).2.transactions ->
      entry.2.direction ≠ .write) :
    (rack.onBus b q.program.run).2.transactions = [] ∨
      exists entry, (rack.onBus b q.program.run).2.transactions = [entry] ∧
        entry.2.direction = .read := by
  simp only [onBus, Report.ofOutcome] at hnone ⊢
  have hquiet : forall t, t ∈ (q.program.run (rack.bus b)).transactions ->
      t.direction ≠ .write :=
    fun t ht => hnone (b, t) (List.mem_map_of_mem ht)
  rcases Request.eq_nil_or_read_of_no_write hquiet with hnil | ⟨t, hread, hdirection⟩
  · rw [hnil]
    exact Or.inl rfl
  · rw [hread]
    exact Or.inr ⟨(b, t), rfl, hdirection⟩

theorem eq_nil_or_read_of_step {rack : Rack n} {s : Step n}
    (hcatalog : s.isReadCatalog = false)
    (hnone : forall entry, entry ∈ (rack.step s).2.transactions -> entry.2.direction ≠ .write) :
    (rack.step s).2.transactions = [] ∨
      exists entry, (rack.step s).2.transactions = [entry] ∧ entry.2.direction = .read := by
  have hcourse := rack.course_step s
  generalize rack.step s = next at hcourse hnone ⊢
  cases hcourse with
  | onBus b action =>
      cases action with
      | rawRead address => exact Or.inr ⟨_, rfl, Transaction.direction_ofRead _ _⟩
      | rawWrite address value =>
          exact absurd (Transaction.direction_ofWrite _ _ _) (hnone _ List.mem_cons_self)
      | _ => exact Or.inl rfl
  | probe hsupports h =>
      have hwritten := exists_write_of_probe hsupports h
      rw [step_probe_of_supports hsupports] at hwritten
      rcases hwritten with ⟨entry, hentry, hwrite⟩
      exact absurd hwrite (hnone entry hentry)
  | probeRefused hsupports h => exact Or.inl rfl
  | attach h b => exact Or.inl rfl
  | remove hhandle => exact Or.inl rfl
  | onRegister hhandle action =>
      rw [action.program_eq] at hnone ⊢
      exact eq_nil_or_read_onBus hnone
  | onDevice hhandle action =>
      rename_i h b device
      cases hrequest : action.request? (n := n) device with
      | some q =>
          rw [action.program_eq_of_request? hrequest] at hnone ⊢
          exact eq_nil_or_read_onBus hnone
      | none =>
          rw [DeviceAction.eq_readCatalog_of_request? hrequest] at hcatalog
          cases hcatalog
  | noHandle hthrough habsent => exact Or.inl rfl
  | notDevice hhandle action => exact Or.inl rfl

end Rack

/-!
# Sessions
-/

def Smbus.Occurrence.target? : Occurrence -> Option Byte
  | poked address _ => some address
  | transaction (.write address _) => some address
  | _ => none

theorem Smbus.History.get_registers_of_not_target {history : History} {address : Byte}
    (h : forall o, o ∈ history -> o.target? ≠ some address) (start : AddressMap Byte) :
    (history.registers start).get address = start.get address := by
  induction history generalizing start with
  | nil => rfl
  | cons o rest ih =>
      have hfirst : (registersAfter start o).get address = start.get address := by
        have ho := h o List.mem_cons_self
        cases o with
        | poked a value =>
            exact AddressMap.get_set_of_ne fun heq => ho (congrArg some heq.symm)
        | transaction t =>
            cases t with
            | write a value =>
                exact AddressMap.get_set_of_ne fun heq => ho (congrArg some heq.symm)
            | _ => rfl
        | _ => rfl
      have hrest := ih (fun o ho => h o (List.mem_cons_of_mem _ ho)) (registersAfter start o)
      exact hrest.trans hfirst

theorem Step.target?_of_mem_historyOn {n : Nat} {s : Step n} (hfree : s.writesFreely = false)
    {b : Fin n} {o : Occurrence} (ho : o ∈ s.historyOn b) : o.target? = none := by
  cases s with
  | onBus c action =>
      simp only [historyOn, List.mem_ite_nil_right] at ho
      cases action with
      | poke address value => cases hfree
      | plantReadFault address fault => cases List.mem_singleton.mp ho.2; rfl
      | plantWriteFault address fault => cases List.mem_singleton.mp ho.2; rfl
      | clearFaults => cases List.mem_singleton.mp ho.2; rfl
      | _ => cases ho.2
  | _ => cases ho

namespace Rack

variable {n : Nat}

theorem get_registers_step {rack : Rack n} {s : Step n} (hfree : s.writesFreely = false)
    {address : Byte} (haddress : forall r, r ∈ Register.driven -> r.address ≠ address)
    (b : Fin n) :
    ((rack.step s).1.bus b).registers.get address = (rack.bus b).registers.get address := by
  rw [(rack.replays_step s b).registers]
  apply History.get_registers_of_not_target
  intro o ho htarget
  rcases List.mem_append.mp ho with ho | ho
  · rw [Step.target?_of_mem_historyOn hfree ho] at htarget
    cases htarget
  · rcases List.mem_map.mp ho with ⟨t, ht, rfl⟩
    rcases List.mem_map.mp ht with ⟨entry, hentry, rfl⟩
    have hwrite : entry.2.direction = .write ∧ entry.2.address = address := by
      generalize entry.2 = t at htarget
      cases t with
      | write a value => exact ⟨rfl, Option.some.inj htarget⟩
      | _ => cases htarget
    rcases address_mem_driven_step hfree (List.mem_filter.mp hentry).1 hwrite.1 with
      ⟨r, hr, hdriven⟩
    exact haddress r hr (hdriven.symm.trans hwrite.2)

theorem get_registers_run {rack : Rack n} {steps : List (Step n)}
    (hfree : forall s, s ∈ steps -> s.writesFreely = false) {address : Byte}
    (haddress : forall r, r ∈ Register.driven -> r.address ≠ address) (b : Fin n) :
    ((rack.run steps).1.bus b).registers.get address = (rack.bus b).registers.get address := by
  induction steps generalizing rack with
  | nil => rfl
  | cons s rest ih =>
      have hfirst := @get_registers_step n rack s (hfree s List.mem_cons_self) _ haddress b
      exact (ih fun t ht => hfree t (List.mem_cons_of_mem s ht)).trans hfirst

theorem address_mem_driven_run {rack : Rack n} {steps : List (Step n)}
    (hfree : forall s, s ∈ steps -> s.writesFreely = false) {entry : Entry n}
    (hentry : entry ∈ rack.transcript steps) {access : Fin n × Transaction}
    (haccess : access ∈ entry.2.transactions) (hwrite : access.2.direction = .write) :
    exists r, r ∈ Register.driven ∧ access.2.address = r.address := by
  rcases List.append_of_mem hentry with ⟨earlier, later, hsplit⟩
  rcases transcript_eq_append_cons hsplit with ⟨first, second, hsteps, _, hreport⟩
  rw [hreport] at haccess
  apply address_mem_driven_step _ haccess hwrite
  apply hfree
  simp [hsteps]

/-- A step that does not write freely writes to driven registers only.  Outside bring-up,
a write to the scratch register is the only transaction of its step, and any other write
follows the read of the same byte, of which it changes no bit but that of the writable
signal that the step names.  Any step without a write makes at most one transaction, a
read, unless it shows the catalog.  In a session of steps that do not write freely no
write goes to an undriven register, and its byte never changes. -/
theorem bus_discipline (rack : Rack n) :
    (forall s : Step n, s.writesFreely = false ->
      let ts := (rack.step s).2.transactions
      (forall entry, entry ∈ ts -> entry.2.direction = .write ->
        exists r, r ∈ Register.driven ∧ entry.2.address = r.address) ∧
      (s.isProbe = false ->
        forall entry, entry ∈ ts -> entry.2.direction = .write ->
          (entry.2.address = Register.scratch.address -> ts = [entry]) ∧
          (entry.2.address ≠ Register.scratch.address ->
            exists signal seen written,
              s.signal? = some signal ∧ signal.isWritable = true ∧
              signal.register.address = entry.2.address ∧
              ts = [(entry.1, .read entry.2.address seen), entry] ∧
              entry.2.written? = some written ∧
              forall i, i ≠ signal.bit -> written.bit i = seen.bit i))) ∧
    (forall s : Step n, s.isReadCatalog = false ->
      let ts := (rack.step s).2.transactions
      (forall entry, entry ∈ ts -> entry.2.direction ≠ .write) ->
      ts = [] ∨ exists entry, ts = [entry] ∧ entry.2.direction = .read) ∧
    (forall steps : List (Step n), (forall s, s ∈ steps -> s.writesFreely = false) ->
      forall r, r ∈ Register.undriven ->
        (forall b, ((rack.run steps).1.bus b).registers.get r.address =
          (rack.bus b).registers.get r.address) ∧
        (forall entry, entry ∈ rack.transcript steps ->
          forall access, access ∈ entry.2.transactions ->
            access.2.direction = .write -> access.2.address ≠ r.address)) := by
  refine ⟨?_, ?_, ?_⟩
  · intro s hfree ts
    constructor
    · intro entry hentry hwrite
      exact address_mem_driven_step hfree hentry hwrite
    · intro hprobe entry hentry hwrite
      have hcatalog : s.isReadCatalog = false := by
        cases hcatalog : s.isReadCatalog with
        | false => rfl
        | true =>
            rw [direction_of_readCatalog hcatalog hentry] at hwrite
            cases hwrite
      have hexchange := rack.exchange_step hfree hprobe hcatalog
      constructor
      · exact hexchange.eq_singleton_of_scratch hentry hwrite
      · exact hexchange.eq_read_write_of_not_scratch hentry hwrite
  · intro s hcatalog ts hnone
    exact eq_nil_or_read_of_step hcatalog hnone
  · intro steps hfree r hr
    constructor
    · intro b
      exact get_registers_run hfree (fun s hs => Register.address_ne_of_mem_undriven hr hs) b
    · intro entry hentry access haccess hwrite haddress
      rcases address_mem_driven_run hfree hentry haccess hwrite with ⟨s, hs, hdriven⟩
      exact Register.address_ne_of_mem_undriven hr hs (hdriven.symm.trans haddress)

/-- A store whose write fails has read the byte `0x5A` and tried to raise its bit 7; the
presence byte outlasts it and a bring-up. -/
theorem bus_discipline_failed_store :
    let device : Device := { identity := .ofRegisters none none none none, bringUpFault := none }
    let bus := (((Bus.idle .byteData).poke 0x11 0x5A).poke 0x51 0xC3).plantWriteFault 0x11 .busy
    let rack := (Rack.ofBuses #v[bus]).setHandle 0 (some { bus := 0, client := .device device })
    let s : Step 1 := .onDevice 0 (.storeAttribute "qsfp17_rst" "1\n")
    let entry : Fin 1 × Transaction := (0, .writeFailed 0x11 0xDA .busy)
    let steps := [s, .probe 1 0, .onBus 0 (.rawRead 0x51)]
    s.writesFreely = false ∧ s.isProbe = false ∧
      entry ∈ (rack.step s).2.transactions ∧
      entry.2.address ≠ Register.scratch.address ∧
      (exists signal seen,
        s.signal? = some signal ∧ signal.isWritable = true ∧
        (rack.step s).2.transactions = [(0, .read 0x11 seen), entry] ∧
        forall i, i ≠ signal.bit -> Byte.bit 0xDA i = seen.bit i) ∧
      (forall t, t ∈ steps -> t.writesFreely = false) ∧
      Register.cageLines .present .low ∈ Register.undriven ∧
      ((rack.run steps).1.bus 0).registers.get 0x51 = 0xC3 := by
  intro device bus rack s entry steps
  have hentry : entry ∈ (rack.step s).2.transactions := by
    decide +kernel
  have hscratch : entry.2.address ≠ Register.scratch.address := by
    decide
  have hfree : forall t, t ∈ steps -> t.writesFreely = false := by
    simp [steps, s, Step.writesFreely]
  have hundriven : Register.cageLines .present .low ∈ Register.undriven := by
    decide
  rcases bus_discipline rack with ⟨hsteps, _, hruns⟩
  rcases ((hsteps s rfl).2 rfl entry hentry rfl).2 hscratch with
    ⟨signal, seen, written, hnamed, hwritable, _, hts, hwritten, hbits⟩
  cases hwritten
  refine ⟨rfl, rfl, hentry, hscratch, ⟨signal, seen, hnamed, hwritable, hts, hbits⟩, hfree,
    hundriven, ?_⟩
  have hkept := (hruns steps hfree _ hundriven).1 0
  exact hkept.trans (by decide +kernel)

end Rack
end CpldControl
