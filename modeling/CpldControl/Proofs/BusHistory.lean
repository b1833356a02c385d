import CpldControl.Proofs.Transcript

/-!
# The history of a bus

What happens to a bus is a list of occurrences: pokes, planted and cleared
faults, and transactions.  Such a history says by itself what the registers
hold, which fault is installed at an address, and how many transactions there
were.

The main statement is `transcript_replays_bus`: the history that a transcript
shows for a bus explains the bus completely, and every transaction in it went
the way the history before it demands.
-/

namespace CpldControl
namespace Smbus

inductive Occurrence where
  | poked (address value : Byte)
  | faultPlanted (direction : Direction) (address : Byte) (fault : Fault)
  | faultsCleared
  | transaction (t : Transaction)

abbrev History := List Occurrence

namespace History

/-!
# Reading a history

A failed write leaves the registers as they are, and clearing removes the faults
of both directions.
-/

def registersAfter (registers : AddressMap Byte) : Occurrence -> AddressMap Byte
  | .poked address value => registers.set address value
  | .transaction (.write address value) => registers.set address value
  | _ => registers

def faultAfter (direction : Direction) (address : Byte) (fault? : Option Fault) :
    Occurrence -> Option Fault
  | .faultPlanted d a fault => if d = direction ∧ a = address then some fault else fault?
  | .faultsCleared => none
  | _ => fault?

def isTransaction (direction : Direction) : Occurrence -> Bool
  | .transaction t => t.direction = direction
  | _ => false

def registers (history : History) (start : AddressMap Byte) : AddressMap Byte :=
  history.foldl registersAfter start

def fault? (history : History) (direction : Direction) (address : Byte)
    (start : Option Fault) : Option Fault :=
  history.foldl (faultAfter direction address) start

/-- The number of transactions of a direction, failed ones included. -/
def count (history : History) (direction : Direction) : Nat :=
  history.countP (isTransaction direction)

theorem registers_append (xs ys : History) (start : AddressMap Byte) :
    registers (xs ++ ys) start = registers ys (registers xs start) :=
  List.foldl_append

theorem fault?_append (xs ys : History) (direction : Direction) (address : Byte)
    (start : Option Fault) :
    fault? (xs ++ ys) direction address start =
      fault? ys direction address (fault? xs direction address start) :=
  List.foldl_append

theorem count_append (xs ys : History) (direction : Direction) :
    count (xs ++ ys) direction = count xs direction + count ys direction :=
  List.countP_append

theorem fault?_transactions (ts : List Transaction) (direction : Direction) (address : Byte)
    (start : Option Fault) :
    fault? (ts.map Occurrence.transaction) direction address start = start := by
  induction ts with
  | nil => rfl
  | cons t rest ih => exact ih

theorem append_eq_append_cons {xs ys earlier later : History} {o : Occurrence}
    (h : xs ++ ys = earlier ++ o :: later) :
    (exists rest, xs = earlier ++ o :: rest) ∨
      (exists front, earlier = xs ++ front ∧ ys = front ++ o :: later) := by
  rcases List.append_eq_append_iff.mp h with ⟨front, hearlier, hys⟩ | ⟨rest, hxs, hlater⟩
  · exact Or.inr ⟨front, hearlier, hys⟩
  · cases rest with
    | nil =>
        apply Or.inr
        refine ⟨[], ?_, ?_⟩
        · simpa using hxs.symm
        · simpa using hlater.symm
    | cons first rest =>
        apply Or.inl
        injection hlater with hfirst _
        exact ⟨rest, by rw [hxs, hfirst]⟩

end History

/-!
# Buses and their histories
-/

def Bus.fault? (bus : Bus) : Direction -> Byte -> Option Fault
  | .read, address => bus.readFaults.get address
  | .write, address => bus.writeFaults.get address

/-- A history explains how a bus came from another: the registers, the faults
and both counters follow from it, each successful read shows the byte that was
there, and a transaction failed with a fault exactly when that fault was
installed where it went. -/
structure Bus.Replays (start : Bus) (history : History) (final : Bus) : Prop where
  registers : final.registers = history.registers start.registers
  fault : forall direction address,
    final.fault? direction address =
      history.fault? direction address (start.fault? direction address)
  reads : final.reads = start.reads + history.count .read
  writes : final.writes = start.writes + history.count .write
  shows : forall earlier address value later,
    history = earlier ++ .transaction (.read address value) :: later ->
      value = (History.registers earlier start.registers).get address
  fails : forall earlier t later,
    history = earlier ++ .transaction t :: later ->
      t.fault? =
        History.fault? earlier t.direction t.address (start.fault? t.direction t.address)

namespace Bus.Replays

theorem refl (bus : Bus) : bus.Replays [] bus where
  registers := rfl
  fault := fun _ _ => rfl
  reads := rfl
  writes := rfl
  shows := by
    intro earlier address value later h
    simp at h
  fails := by
    intro earlier t later h
    simp at h

theorem append {start middle final : Bus} {xs ys : History}
    (hxs : start.Replays xs middle) (hys : middle.Replays ys final) :
    start.Replays (xs ++ ys) final where
  registers := by
    rw [History.registers_append, ← hxs.registers, hys.registers]
  fault := by
    intro direction address
    rw [History.fault?_append, ← hxs.fault, hys.fault]
  reads := by
    rw [History.count_append, hys.reads, hxs.reads, Nat.add_assoc]
  writes := by
    rw [History.count_append, hys.writes, hxs.writes, Nat.add_assoc]
  shows := by
    intro earlier address value later h
    rcases History.append_eq_append_cons h with ⟨rest, hsplit⟩ | ⟨front, hearlier, hsplit⟩
    · exact hxs.shows earlier address value rest hsplit
    · rw [hearlier, History.registers_append, ← hxs.registers]
      exact hys.shows front address value later hsplit
  fails := by
    intro earlier t later h
    rcases History.append_eq_append_cons h with ⟨rest, hsplit⟩ | ⟨front, hearlier, hsplit⟩
    · exact hxs.fails earlier t rest hsplit
    · rw [hearlier, History.fault?_append, ← hxs.fault]
      exact hys.fails front t later hsplit

/-!
# Single occurrences

Either something was done to the bus without a transaction, or there was a transaction,
which leaves the faults as they are.
-/

theorem single {start final : Bus} {o : Occurrence}
    (hregisters : final.registers = History.registersAfter start.registers o)
    (hfault : forall direction address,
      final.fault? direction address =
        History.faultAfter direction address (start.fault? direction address) o)
    (hreads : final.reads = start.reads + (if History.isTransaction .read o then 1 else 0))
    (hwrites : final.writes = start.writes + (if History.isTransaction .write o then 1 else 0))
    (hshows : forall address value, o = .transaction (.read address value) ->
      value = start.registers.get address)
    (hfails : forall t, o = .transaction t ->
      t.fault? = start.fault? t.direction t.address) :
    start.Replays [o] final where
  registers := hregisters
  fault := hfault
  reads := by
    rw [hreads, History.count, List.countP_singleton]
  writes := by
    rw [hwrites, History.count, List.countP_singleton]
  shows := by
    intro earlier address value later h
    rcases List.cons_eq_append_iff.mp h with ⟨hearlier, hentry⟩ | ⟨_, _, hnil⟩
    · injection hentry with hentry _
      rw [hearlier]
      exact hshows address value hentry.symm
    · simp at hnil
  fails := by
    intro earlier t later h
    rcases List.cons_eq_append_iff.mp h with ⟨hearlier, hentry⟩ | ⟨_, _, hnil⟩
    · injection hentry with hentry _
      rw [hearlier]
      exact hfails t hentry.symm
    · simp at hnil

theorem direct {start final : Bus} {o : Occurrence} (hdirect : forall t, o ≠ .transaction t)
    (hregisters : final.registers = History.registersAfter start.registers o)
    (hfault : forall direction address,
      final.fault? direction address =
        History.faultAfter direction address (start.fault? direction address) o)
    (hreads : final.reads = start.reads) (hwrites : final.writes = start.writes) :
    start.Replays [o] final := by
  have hcount (direction : Direction) : History.isTransaction direction o = false := by
    cases o with
    | transaction t => exact absurd rfl (hdirect t)
    | _ => rfl
  apply single hregisters hfault
  · rw [hreads, hcount]
    rfl
  · rw [hwrites, hcount]
    rfl
  · intro address value h
    exact absurd h (hdirect _)
  · intro t h
    exact absurd h (hdirect t)

theorem transaction {start final : Bus} {t : Transaction}
    (hregisters : final.registers = History.registersAfter start.registers (.transaction t))
    (hfault : forall direction address,
      final.fault? direction address = start.fault? direction address)
    (hreads : final.reads = start.reads + (if t.direction = .read then 1 else 0))
    (hwrites : final.writes = start.writes + (if t.direction = .write then 1 else 0))
    (hshows : forall address value, t = .read address value ->
      value = start.registers.get address)
    (hfails : t.fault? = start.fault? t.direction t.address) :
    start.Replays [.transaction t] final := by
  apply single hregisters hfault
  · simpa [History.isTransaction] using hreads
  · simpa [History.isTransaction] using hwrites
  · intro address value h
    exact hshows address value (Occurrence.transaction.inj h)
  · intro t' h
    rw [← Occurrence.transaction.inj h]
    exact hfails

theorem poke (bus : Bus) (address value : Byte) :
    bus.Replays [.poked address value] (bus.poke address value) := by
  refine direct (by simp) rfl ?_ rfl rfl
  intro direction a
  cases direction <;> rfl

theorem plantReadFault (bus : Bus) (address : Byte) (fault : Fault) :
    bus.Replays [.faultPlanted .read address fault] (bus.plantReadFault address fault) := by
  refine direct (by simp) rfl ?_ rfl rfl
  intro direction a
  cases direction with
  | read =>
      simp only [fault?, Bus.plantReadFault, AddressMap.get_set, History.faultAfter,
        true_and, eq_comm]
  | write => rfl

theorem plantWriteFault (bus : Bus) (address : Byte) (fault : Fault) :
    bus.Replays [.faultPlanted .write address fault] (bus.plantWriteFault address fault) := by
  refine direct (by simp) rfl ?_ rfl rfl
  intro direction a
  cases direction with
  | read => rfl
  | write =>
      simp only [fault?, Bus.plantWriteFault, AddressMap.get_set, History.faultAfter,
        true_and, eq_comm]

theorem clearFaults (bus : Bus) : bus.Replays [.faultsCleared] bus.clearFaults := by
  refine direct (by simp) rfl ?_ rfl rfl
  intro direction a
  cases direction <;> simp [fault?, Bus.clearFaults, History.faultAfter]

theorem read (bus : Bus) (address : Byte) :
    bus.Replays [.transaction (.ofRead address (bus.readResult address))] bus.afterRead := by
  have hfaults (direction : Direction) (a : Byte) :
      bus.afterRead.fault? direction a = bus.fault? direction a := by
    cases direction <;> rfl
  cases hfault : bus.readFaults.get address with
  | none =>
      rw [Bus.readResult_of_no_fault hfault]
      refine transaction rfl hfaults rfl rfl ?_ hfault.symm
      intro a v h
      cases h
      rfl
  | some fault =>
      rw [Bus.readResult_of_fault hfault]
      refine transaction rfl hfaults rfl rfl ?_ hfault.symm
      intro a v h
      cases h

theorem write (bus : Bus) (address value : Byte) :
    bus.Replays [.transaction (.ofWrite address value (bus.writeResult address))]
      (bus.afterWrite address value) := by
  have hfaults (direction : Direction) (a : Byte) :
      (bus.afterWrite address value).fault? direction a = bus.fault? direction a := by
    cases direction <;> simp [fault?]
  cases hfault : bus.writeFaults.get address with
  | none =>
      rw [Bus.writeResult_of_no_fault hfault]
      refine transaction ?_ hfaults ?_ ?_ ?_ hfault.symm
      · rw [Bus.afterWrite_of_no_fault hfault]
        rfl
      · exact bus.reads_afterWrite address value
      · exact bus.writes_afterWrite address value
      · intro a v h
        cases h
  | some fault =>
      rw [Bus.writeResult_of_fault hfault]
      refine transaction ?_ hfaults ?_ ?_ ?_ hfault.symm
      · rw [Bus.afterWrite_of_fault hfault]
        rfl
      · exact bus.reads_afterWrite address value
      · exact bus.writes_afterWrite address value
      · intro a v h
        cases h

end Bus.Replays
end Smbus

open Smbus (Bus History Occurrence Transaction)

/-!
# Programs
-/

theorem BusProgram.replays_run {α : Type} (p : BusProgram α) (bus : Bus) :
    bus.Replays ((p.run bus).transactions.map Occurrence.transaction) (p.run bus).bus := by
  induction p generalizing bus with
  | done value => exact Bus.Replays.refl bus
  | ask transfer next ih => exact ih _ bus
  | read address next ih =>
      exact (Bus.Replays.read bus address).append (ih (bus.readResult address) bus.afterRead)
  | write address value next ih =>
      exact (Bus.Replays.write bus address value).append
        (ih (bus.writeResult address) (bus.afterWrite address value))
  | log event rest ih => exact ih bus

theorem BusProgram.fault?_run {α : Type} (p : BusProgram α) (bus : Bus)
    (direction : Smbus.Direction) (address : Byte) :
    (p.run bus).bus.fault? direction address = bus.fault? direction address := by
  rw [(p.replays_run bus).fault, History.fault?_transactions]

/-!
# Sessions

What a transcript shows of one bus: the direct actions on it, and the
transactions that went over it.
-/

def BusAction.occurrence? : BusAction -> Option Occurrence
  | poke address value => some (.poked address value)
  | plantReadFault address fault => some (.faultPlanted .read address fault)
  | plantWriteFault address fault => some (.faultPlanted .write address fault)
  | clearFaults => some .faultsCleared
  | _ => none

theorem BusAction.replays_perform {n : Nat} (action : BusAction) (bus : Bus) :
    let o : Outcome (Answer n) := action.perform bus
    bus.Replays
      (action.occurrence?.toList ++ o.transactions.map Occurrence.transaction) o.bus := by
  cases action with
  | poke address value => exact Bus.Replays.poke bus address value
  | peek address => exact Bus.Replays.refl bus
  | plantReadFault address fault => exact Bus.Replays.plantReadFault bus address fault
  | plantWriteFault address fault => exact Bus.Replays.plantWriteFault bus address fault
  | clearFaults => exact Bus.Replays.clearFaults bus
  | counts => exact Bus.Replays.refl bus
  | supports transfer => exact Bus.Replays.refl bus
  | rawRead address => exact BusProgram.replays_run _ bus
  | rawWrite address value => exact BusProgram.replays_run _ bus

def Step.historyOn {n : Nat} (b : Fin n) : Step n -> History
  | onBus c action => if c = b then action.occurrence?.toList else []
  | _ => []

def Report.transactionsOn {n : Nat} (b : Fin n) (r : Report n) : List Transaction :=
  (r.transactions.filter fun entry => entry.1 = b).map Prod.snd

def Entry.historyOn {n : Nat} (b : Fin n) (entry : Entry n) : History :=
  entry.1.historyOn b ++ (entry.2.transactionsOn b).map Occurrence.transaction

theorem Report.transactionsOn_ofOutcome {n : Nat} {α : Type} (b c : Fin n)
    (answer : Answer n) (o : Outcome α) :
    (Report.ofOutcome c answer o).transactionsOn b = if c = b then o.transactions else [] := by
  unfold transactionsOn ofOutcome
  rw [List.filter_map, List.map_map]
  by_cases h : c = b
  · simp [h, Function.comp_def]
  · simp [h, Function.comp_def]

namespace Rack

variable {n : Nat}

def historyOn (rack : Rack n) (steps : List (Step n)) (b : Fin n) : History :=
  (rack.transcript steps).flatMap (Entry.historyOn b)

theorem historyOn_cons (rack : Rack n) (s : Step n) (rest : List (Step n)) (b : Fin n) :
    rack.historyOn (s :: rest) b =
      Entry.historyOn b (s, (rack.step s).2) ++ (rack.step s).1.historyOn rest b := by
  unfold historyOn
  rw [transcript_cons, List.flatMap_cons]

theorem replays_setBus {α : Type} (rack : Rack n) (b c : Fin n) {front : History}
    {o : Outcome α} (answer : Answer n)
    (h : (rack.bus c).Replays (front ++ o.transactions.map Occurrence.transaction) o.bus) :
    (rack.bus b).Replays
      ((if c = b then front else []) ++
        ((Report.ofOutcome c answer o).transactionsOn b).map Occurrence.transaction)
      ((rack.setBus c o.bus).bus b) := by
  rw [Report.transactionsOn_ofOutcome, bus_setBus]
  by_cases hcb : c = b
  · subst hcb
    rw [if_pos rfl, if_pos rfl, if_pos rfl]
    exact h
  · rw [if_neg hcb, if_neg hcb, if_neg (fun heq => hcb heq.symm)]
    exact Bus.Replays.refl (rack.bus b)

theorem replays_program {α : Type} (rack : Rack n) (b c : Fin n) (p : BusProgram α)
    (answer : Answer n) :
    (rack.bus b).Replays
      (((Report.ofOutcome c answer (p.run (rack.bus c))).transactionsOn b).map
        Occurrence.transaction)
      ((rack.setBus c (p.run (rack.bus c)).bus).bus b) := by
  have hreplay := @replays_setBus n α rack b c [] _ answer (p.replays_run (rack.bus c))
  simpa using hreplay

theorem replays_step (rack : Rack n) (s : Step n) (b : Fin n) :
    (rack.bus b).Replays (Entry.historyOn b (s, (rack.step s).2)) ((rack.step s).1.bus b) := by
  have hcourse := rack.course_step s
  generalize rack.step s = next at hcourse ⊢
  cases hcourse with
  | onBus c action => exact replays_setBus rack b c _ (action.replays_perform (rack.bus c))
  | probe hsupports h => exact replays_program rack b _ Device.bringUp .done
  | probeRefused hsupports h => exact Bus.Replays.refl (rack.bus b)
  | attach h c => exact Bus.Replays.refl (rack.bus b)
  | remove hhandle => exact Bus.Replays.refl (rack.bus b)
  | onRegister hhandle action => exact replays_program rack b _ action.program _
  | onDevice hhandle action => exact replays_program rack b _ (action.program _) _
  | noHandle hthrough habsent =>
      cases s with
      | onBus c action => cases hthrough
      | _ => exact Bus.Replays.refl (rack.bus b)
  | notDevice hhandle action => exact Bus.Replays.refl (rack.bus b)

/-- The transcript of a session replays every bus.  An initial part of a session is a
session too, so this holds at every moment. -/
theorem transcript_replays_bus (rack : Rack n) (steps : List (Step n)) (b : Fin n) :
    (rack.bus b).Replays (rack.historyOn steps b) ((rack.run steps).1.bus b) := by
  induction steps generalizing rack with
  | nil => exact Bus.Replays.refl (rack.bus b)
  | cons s rest ih =>
      rw [historyOn_cons]
      exact (replays_step rack s b).append (ih (rack.step s).1)

end Rack
end CpldControl
