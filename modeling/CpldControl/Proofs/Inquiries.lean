import CpldControl.Proofs.BusHistory
import CpldControl.Proofs.ReadOnly

/-!
# Inquiries

An inquiry asks and changes nothing: it shows a level, a byte, an attribute, what
bring-up captured, or what a bus tells of itself.  All that is left of it is the
number of reads that its bus has counted.

The main statement is `inquiries_invisible`: a session from which inquiries are
erased goes on as before.  Its proof compares two runs whose racks differ in the
reads counted so far, `moreReads`, through `step_moreReads` for a step of both runs
and `step_inquiry` for a step of one of them.
-/

namespace CpldControl

open Chip (Signal)
open Device (Attribute Error)
open Smbus (Bus Direction Transaction)

/-!
# Buses that have counted more reads

No program can tell how many reads were counted before it.
-/

namespace Smbus.Bus

def moreReads (bus : Bus) (k : Nat) : Bus :=
  { bus with reads := bus.reads + k }

@[simp] theorem moreReads_zero (bus : Bus) : bus.moreReads 0 = bus := rfl

theorem moreReads_moreReads (bus : Bus) (j k : Nat) :
    (bus.moreReads j).moreReads k = bus.moreReads (j + k) := by
  simp only [moreReads, Nat.add_assoc]

theorem afterRead_moreReads (bus : Bus) (k : Nat) :
    (bus.moreReads k).afterRead = bus.afterRead.moreReads k := by
  simp only [moreReads, afterRead, Nat.add_right_comm]

theorem afterWrite_moreReads (bus : Bus) (k : Nat) (address value : Byte) :
    (bus.moreReads k).afterWrite address value =
      (bus.afterWrite address value).moreReads k := by
  have hfaults : (bus.moreReads k).writeFaults = bus.writeFaults := rfl
  cases hfault : bus.writeFaults.get address with
  | none =>
      rw [afterWrite_of_no_fault hfault, afterWrite_of_no_fault (hfaults ▸ hfault)]
      rfl
  | some fault =>
      rw [afterWrite_of_fault hfault, afterWrite_of_fault (hfaults ▸ hfault)]
      rfl

end Smbus.Bus

namespace BusProgram

variable {α : Type}

theorem run_moreReads (p : BusProgram α) (bus : Bus) (k : Nat) :
    p.run (bus.moreReads k) = { p.run bus with bus := (p.run bus).bus.moreReads k } := by
  induction p generalizing bus with
  | done value => rfl
  | ask transfer next ih => exact ih _ bus
  | read address next ih =>
      have hnext := ih (bus.readResult address) bus.afterRead
      rw [← Bus.afterRead_moreReads] at hnext
      exact congrArg (Outcome.afterTransaction _) hnext
  | write address value next ih =>
      have hnext := ih (bus.writeResult address) (bus.afterWrite address value)
      rw [← Bus.afterWrite_moreReads] at hnext
      exact congrArg (Outcome.afterTransaction _) hnext
  | log event rest ih => exact congrArg (Outcome.afterEvent event) (ih bus)

theorem ReadOnly.countP_read {p : BusProgram α} (hp : p.ReadOnly) (bus : Bus) :
    (p.run bus).transactions.countP (fun t => t.direction = .read) =
      (p.run bus).transactions.length := by
  rw [List.countP_eq_length]
  intro t ht
  exact decide_eq_true (hp.direction_of_mem ht)

end BusProgram

namespace Rack

variable {n : Nat}

def moreReads (rack : Rack n) (k : Fin n -> Nat) : Rack n :=
  { rack with buses := Vector.ofFn fun b => (rack.bus b).moreReads (k b) }

@[simp] theorem handles_moreReads (rack : Rack n) (k : Fin n -> Nat) :
    (rack.moreReads k).handles = rack.handles := rfl

@[simp] theorem bus_moreReads (rack : Rack n) (k : Fin n -> Nat) (b : Fin n) :
    (rack.moreReads k).bus b = (rack.bus b).moreReads (k b) := by
  change (Vector.ofFn fun c => (rack.bus c).moreReads (k c))[b.val] = _
  rw [Vector.getElem_ofFn]

theorem moreReads_zero (rack : Rack n) : rack.moreReads (fun _ => 0) = rack := by
  apply ext_bus
  · intro b
    rw [bus_moreReads, Bus.moreReads_zero]
  · intro h
    rfl

theorem moreReads_moreReads (rack : Rack n) (j k : Fin n -> Nat) :
    (rack.moreReads j).moreReads k = rack.moreReads fun b => j b + k b := by
  apply ext_bus
  · intro b
    rw [bus_moreReads, bus_moreReads, bus_moreReads, Bus.moreReads_moreReads]
  · intro h
    rfl

theorem setBus_moreReads (rack : Rack n) (k : Fin n -> Nat) (b : Fin n) (bus : Bus) :
    (rack.moreReads k).setBus b (bus.moreReads (k b)) = (rack.setBus b bus).moreReads k := by
  apply ext_bus
  · intro c
    rw [bus_moreReads, bus_setBus, bus_setBus, bus_moreReads]
    by_cases hcb : c = b
    · rw [if_pos hcb, if_pos hcb, hcb]
    · rw [if_neg hcb, if_neg hcb]
  · intro h
    rfl

theorem setHandle_moreReads (rack : Rack n) (k : Fin n -> Nat) (h : Nat)
    (handle : Option (Handle n)) :
    (rack.moreReads k).setHandle h handle = (rack.setHandle h handle).moreReads k := rfl

end Rack

/-!
# Steps that are left

A step goes the same way on a rack that has counted more reads.  Only the answer that
tells the counters is another one.
-/

def Step.isCounts {n : Nat} : Step n -> Bool
  | onBus _ .counts => true
  | _ => false

/-- The entry without the answer of a step that tells the counters. -/
def Entry.hideCounts {n : Nat} (entry : Entry n) : Entry n :=
  if entry.1.isCounts then (entry.1, { entry.2 with answer := .done }) else entry

theorem BusAction.perform_moreReads {n : Nat} {action : BusAction} (hcounts : action ≠ .counts)
    (bus : Bus) (k : Nat) :
    let o : Outcome (Answer n) := action.perform bus
    action.perform (bus.moreReads k) = { o with bus := o.bus.moreReads k } := by
  cases action with
  | counts => exact absurd rfl hcounts
  | rawRead address => exact BusProgram.run_moreReads _ bus k
  | rawWrite address value => exact BusProgram.run_moreReads _ bus k
  | _ => rfl

namespace Rack

variable {n : Nat}

theorem onBus_moreReads (rack : Rack n) (k : Fin n -> Nat) (b : Fin n)
    (action : Bus -> Outcome (Answer n))
    (haction : forall bus j,
      action (bus.moreReads j) = { action bus with bus := (action bus).bus.moreReads j }) :
    (rack.moreReads k).onBus b action =
      ((rack.onBus b action).1.moreReads k, (rack.onBus b action).2) := by
  simp only [onBus, bus_moreReads, haction, setBus_moreReads]
  rfl

theorem step_probe_moreReads (rack : Rack n) (k : Fin n -> Nat) (h : Nat) (b : Fin n) :
    (rack.moreReads k).step (.probe h b) =
      ((rack.step (.probe h b)).1.moreReads k, (rack.step (.probe h b)).2) := by
  have hsame : ((rack.moreReads k).bus b).supports .byteData =
      (rack.bus b).supports .byteData := by
    rw [bus_moreReads]
    rfl
  cases hsupports : (rack.bus b).supports .byteData with
  | true =>
      rw [step_probe_of_supports hsupports, step_probe_of_supports (hsame.trans hsupports)]
      simp only [bus_moreReads, BusProgram.run_moreReads, setBus_moreReads,
        setHandle_moreReads]
      rfl
  | false =>
      rw [step_probe_of_not_supports hsupports,
        step_probe_of_not_supports (hsame.trans hsupports)]

theorem step_moreReads_of_not_counts (rack : Rack n) (k : Fin n -> Nat) {s : Step n}
    (hcounts : s.isCounts = false) :
    (rack.moreReads k).step s = ((rack.step s).1.moreReads k, (rack.step s).2) := by
  have hprogram (b : Fin n) (p : BusProgram (Answer n)) :=
    rack.onBus_moreReads k b p.run p.run_moreReads
  cases s with
  | onBus b action =>
      have hne : action ≠ .counts := by
        rintro rfl
        cases hcounts
      exact rack.onBus_moreReads k b (fun bus => action.perform bus)
        (BusAction.perform_moreReads hne)
  | probe h b => exact rack.step_probe_moreReads k h b
  | attach h b => rfl
  | remove h =>
      simp only [step, withHandle, handles_moreReads]
      cases rack.handles h with
      | none => rfl
      | some handle => rfl
  | onRegister h action =>
      simp only [step, withHandle, handles_moreReads]
      cases rack.handles h with
      | none => rfl
      | some handle => exact hprogram handle.bus action.program
  | onDevice h action =>
      simp only [step, withHandle, handles_moreReads]
      cases rack.handles h with
      | none => rfl
      | some handle =>
          rcases handle with ⟨b, client⟩
          cases client with
          | bare => rfl
          | device device => exact hprogram b (action.program device)

theorem step_moreReads (rack : Rack n) (k : Fin n -> Nat) (s : Step n) :
    ((rack.moreReads k).step s).1 = (rack.step s).1.moreReads k ∧
      Entry.hideCounts (s, ((rack.moreReads k).step s).2) =
        Entry.hideCounts (s, (rack.step s).2) := by
  cases hcounts : s.isCounts with
  | false =>
      rw [rack.step_moreReads_of_not_counts k hcounts]
      exact ⟨rfl, rfl⟩
  | true =>
      cases s with
      | onBus b action =>
          cases action with
          | counts =>
              constructor
              · show (rack.moreReads k).setBus b ((rack.moreReads k).bus b) = _
                rw [setBus_bus]
                exact congrArg (fun r => moreReads r k) (rack.setBus_bus b).symm
              · rfl
          | _ => cases hcounts
      | _ => cases hcounts

end Rack

/-!
# Steps that are erased
-/

def BusAction.isInquiry : BusAction -> Bool
  | peek _ => true
  | counts => true
  | supports _ => true
  | rawRead _ => true
  | _ => false

def RegisterAction.isInquiry : RegisterAction -> Bool
  | read _ => true
  | _ => false

def DeviceAction.isInquiry : DeviceAction -> Bool
  | identity => true
  | bringUpFault => true
  | readSignal _ => true
  | readCageLine _ _ => true
  | readScratch => true
  | readAttribute _ => true
  | readCatalog => true
  | _ => false

def Step.isInquiry {n : Nat} : Step n -> Bool
  | onBus _ action => action.isInquiry
  | onRegister _ action => action.isInquiry
  | onDevice _ action => action.isInquiry
  | _ => false

namespace Device

open BusProgram (ReadOnly)

theorem readOnly_readSignal (s : Signal) : (readSignal s).run.ReadOnly := by
  rw [readSignal_eq, ExceptT.run_map]
  exact (readOnly_readRegister s.register).map _

theorem readOnly_ofExcept_bind {α β : Type} (input : Except Error α) {next : α -> DeviceM β}
    (hnext : forall a, (next a).run.ReadOnly) :
    (MonadExcept.ofExcept input >>= next : DeviceM β).run.ReadOnly := by
  cases input with
  | ok a => exact hnext a
  | error e => trivial

theorem readOnly_readCageLine (cage : Nat) (line : Chip.CageLine) :
    (readCageLine cage line).run.ReadOnly :=
  readOnly_ofExcept_bind (cageOfNumber cage) fun c => readOnly_readSignal (.ofCage line c)

theorem readOnly_readNamed (device : Device) (name : String) :
    (device.readNamed name).run.ReadOnly :=
  readOnly_ofExcept_bind (attributeOfName name) (readOnly_readAttribute device)

end Device

theorem RegisterAction.readOnly_program {n : Nat} {action : RegisterAction}
    (hinquiry : action.isInquiry = true) :
    (action.program : BusProgram (Answer n)).ReadOnly := by
  cases action with
  | read r => exact (Device.readOnly_readRegister r).map _
  | _ => cases hinquiry

theorem DeviceAction.readOnly_program {n : Nat} {device : Device} {action : DeviceAction}
    (hinquiry : action.isInquiry = true) :
    (action.program device : BusProgram (Answer n)).ReadOnly := by
  cases action with
  | identity => trivial
  | bringUpFault => trivial
  | readSignal name =>
      simp only [program, onSignal]
      cases Signal.find? name with
      | some s => exact (Device.readOnly_readSignal s).map _
      | none => trivial
  | readCageLine cage line => exact (Device.readOnly_readCageLine cage line).map _
  | readScratch => exact (Device.readOnly_readRegister .scratch).map _
  | readAttribute name => exact (Device.readOnly_readNamed device name).map _
  | readCatalog => exact (Device.readOnly_readCatalog device).map _
  | _ => cases hinquiry

namespace Report

variable {n : Nat}

def readsOn (b : Fin n) (report : Report n) : Nat :=
  (report.transactionsOn b).countP fun t => t.direction = .read

theorem readsOn_ofOutcome {α : Type} (b c : Fin n) (answer : Answer n) (o : Outcome α) :
    (ofOutcome c answer o).readsOn b =
      if c = b then o.transactions.countP (fun t => t.direction = .read) else 0 := by
  unfold readsOn
  rw [transactionsOn_ofOutcome]
  by_cases hcb : c = b
  · rw [if_pos hcb, if_pos hcb]
  · rw [if_neg hcb, if_neg hcb]
    rfl

end Report

namespace Rack

variable {n : Nat}

theorem onBus_eq_moreReads (rack : Rack n) (b : Fin n) (action : Bus -> Outcome (Answer n))
    (haction : (action (rack.bus b)).bus =
      (rack.bus b).moreReads
        ((action (rack.bus b)).transactions.countP fun t => t.direction = .read)) :
    (rack.onBus b action).1 =
      rack.moreReads fun c => (rack.onBus b action).2.readsOn c := by
  apply ext_bus
  · intro c
    rw [bus_moreReads]
    simp only [onBus, Report.readsOn_ofOutcome, bus_setBus, haction]
    by_cases hcb : c = b
    · subst hcb
      rw [if_pos rfl, if_pos rfl]
    · rw [if_neg hcb, if_neg (Ne.symm hcb)]
      rfl
  · intro h
    rfl

theorem onBus_readOnly (rack : Rack n) (b : Fin n) {p : BusProgram (Answer n)}
    (hp : p.ReadOnly) :
    (rack.onBus b p.run).1 = rack.moreReads fun c => (rack.onBus b p.run).2.readsOn c := by
  apply onBus_eq_moreReads
  rw [hp.countP_read]
  exact hp.bus_run (rack.bus b)

theorem step_inquiry (rack : Rack n) {s : Step n} (hinquiry : s.isInquiry = true) :
    (rack.step s).1 = rack.moreReads fun b => (rack.step s).2.readsOn b := by
  have hquiet (answer : Answer n) :
      rack = rack.moreReads fun b => (Report.quiet answer).readsOn b :=
    rack.moreReads_zero.symm
  cases s with
  | onBus b action =>
      cases action with
      | peek address => exact rack.onBus_eq_moreReads b _ rfl
      | counts => exact rack.onBus_eq_moreReads b _ rfl
      | supports transfer => exact rack.onBus_eq_moreReads b _ rfl
      | rawRead address =>
          have hread : (BusProgram.readByte address).ReadOnly := fun _ => trivial
          exact rack.onBus_readOnly b (hread.map (Answer.ofTransfer .byte))
      | _ => cases hinquiry
  | onRegister h action =>
      simp only [step, withHandle]
      cases rack.handles h with
      | none => exact hquiet .noHandle
      | some handle =>
          exact rack.onBus_readOnly handle.bus (RegisterAction.readOnly_program hinquiry)
  | onDevice h action =>
      simp only [step, withHandle]
      cases rack.handles h with
      | none => exact hquiet .noHandle
      | some handle =>
          rcases handle with ⟨b, client⟩
          cases client with
          | bare => exact hquiet .notDevice
          | device device =>
              exact rack.onBus_readOnly b (DeviceAction.readOnly_program hinquiry)
  | _ => cases hinquiry

end Rack

/-!
# Sessions from which inquiries are erased

A session carries a mark at each of its steps, and the marked ones are erased.
-/

section Marks

variable {α : Type}

def kept (xs : List (α × Bool)) : List α :=
  (xs.filter fun x => !x.2).map Prod.fst

def erased (xs : List (α × Bool)) : List α :=
  (xs.filter fun x => x.2).map Prod.fst

end Marks

def Entry.totalReads {n : Nat} (b : Fin n) (entries : List (Entry n)) : Nat :=
  (entries.flatMap fun entry => entry.2.transactionsOn b).countP fun t => t.direction = .read

theorem Entry.totalReads_cons {n : Nat} (b : Fin n) (entry : Entry n)
    (entries : List (Entry n)) :
    totalReads b (entry :: entries) = entry.2.readsOn b + totalReads b entries := by
  unfold totalReads
  rw [List.flatMap_cons, List.countP_append]
  rfl

namespace Rack

variable {n : Nat}

def markedTranscript (rack : Rack n) (session : List (Step n × Bool)) :
    List (Entry n × Bool) :=
  (rack.transcript (session.map Prod.fst)).zip (session.map Prod.snd)

theorem run_kept (rack : Rack n) (k : Fin n -> Nat) {session : List (Step n × Bool)}
    (herased : forall s, (s, true) ∈ session -> s.isInquiry = true) :
    let entries := (rack.moreReads k).markedTranscript session
    (kept entries).map Entry.hideCounts =
        (rack.transcript (kept session)).map Entry.hideCounts ∧
      ((rack.moreReads k).run (session.map Prod.fst)).1 =
        (rack.run (kept session)).1.moreReads
          (fun b => k b + Entry.totalReads b (erased entries)) := by
  induction session generalizing rack k with
  | nil => exact ⟨rfl, rfl⟩
  | cons e rest ih =>
      have hrest : forall s, (s, true) ∈ rest -> s.isInquiry = true :=
        fun s hs => herased s (List.mem_cons_of_mem e hs)
      rcases e with ⟨s, mark⟩
      cases mark with
      | true =>
          -- the erased step is taken by the whole session only, which counts its reads
          have hinquiry := herased s List.mem_cons_self
          have hnext := (rack.moreReads k).step_inquiry hinquiry
          rw [moreReads_moreReads] at hnext
          rcases ih rack _ hrest with ⟨hreports, hfinal⟩
          rw [← hnext] at hreports hfinal
          refine ⟨hreports, hfinal.trans ?_⟩
          congr 1
          funext b
          have hreads := Entry.totalReads_cons b (s, ((rack.moreReads k).step s).2)
            (erased (((rack.moreReads k).step s).1.markedTranscript rest))
          exact (Nat.add_assoc _ _ _).trans (congrArg (k b + ·) hreads.symm)
      | false =>
          rcases rack.step_moreReads k s with ⟨hnext, hreport⟩
          rcases ih (rack.step s).1 k hrest with ⟨hreports, hfinal⟩
          rw [← hnext] at hreports hfinal
          exact ⟨List.cons_eq_cons.mpr ⟨hreport, hreports⟩, hfinal⟩

/-- Erasing inquiries from a session leaves the reports of all other steps as they were,
the counters apart that a step may tell, and at the end only the counters of reads tell
the sessions apart: each by the reads that the erased steps made on its bus. -/
theorem inquiries_invisible (rack : Rack n) (session : List (Step n × Bool))
    (herased : forall s, (s, true) ∈ session -> s.isInquiry = true) :
    let entries := rack.markedTranscript session
    let whole := (rack.run (session.map Prod.fst)).1
    let left := (rack.run (kept session)).1
    (kept entries).map Entry.hideCounts =
        (rack.transcript (kept session)).map Entry.hideCounts ∧
      whole.handles = left.handles ∧
      forall b, whole.bus b =
        { left.bus b with
          reads := (left.bus b).reads + Entry.totalReads b (erased entries) } := by
  intro entries whole left
  have hrun := rack.run_kept (fun _ => 0) herased
  rw [moreReads_zero] at hrun
  rcases hrun with ⟨hreports, hfinal⟩
  have hhandles := congrArg Rack.handles hfinal
  refine ⟨hreports, hhandles, ?_⟩
  intro b
  rw [show whole = _ from hfinal, bus_moreReads, Nat.zero_add]
  rfl

/-- The catalog, a refused look at a signal, a scratch byte that cannot be read and a
read past the handle are erased.  The step between them that tells the counters and the
store after them go on as before, with 93 reads fewer. -/
theorem inquiries_invisible_catalog :
    let rack := Rack.ofBuses #v[(Bus.idle .byteData).plantReadFault 0x0F .timeout]
    let session : List (Step 1 × Bool) :=
      [ (.probe 0 0, false),
        (.onDevice 0 .readCatalog, true),
        (.onDevice 0 (.readSignal "sfp"), true),
        (.onBus 0 .counts, false),
        (.onDevice 0 .readScratch, true),
        (.onDevice 0 (.storeAttribute "sfp_tx_en" "1"), false),
        (.onBus 0 (.rawRead 0x72), true) ]
    (forall s, (s, true) ∈ session -> s.isInquiry = true) ∧
      (kept (rack.markedTranscript session)).map Entry.hideCounts =
        (rack.transcript (kept session)).map Entry.hideCounts ∧
      ((rack.run (session.map Prod.fst)).1.bus 0).reads =
        ((rack.run (kept session)).1.bus 0).reads + 93 := by
  intro rack session
  have herased : forall s, (s, true) ∈ session -> s.isInquiry = true := by
    intro s hs
    simp only [session, List.mem_cons, Prod.mk.injEq, List.not_mem_nil, and_true, and_false,
      or_false, false_or, reduceCtorEq] at hs
    rcases hs with rfl | rfl | rfl | rfl <;> rfl
  have hcount : Entry.totalReads 0 (erased (rack.markedTranscript session)) = 93 := by
    decide +kernel
  rcases inquiries_invisible rack session herased with ⟨hreports, _, hbuses⟩
  refine ⟨herased, hreports, ?_⟩
  rw [hbuses 0, hcount]

end Rack
end CpldControl
