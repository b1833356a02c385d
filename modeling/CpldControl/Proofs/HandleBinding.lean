import CpldControl.Proofs.BitStore
import CpldControl.Proofs.RequestErrors

/-!
# What a handle number is bound to

A handle is bound to one bus from the step that makes it until it is replaced or
removed, and the bus that it gives back is the one it was given.

The main statement is `handle_stays_bound`: the last step of a session that bound or
freed a number says what is under it (`bus?_run`), and `Holds` is what follows from
that for every step that may come next.
-/

namespace CpldControl

open Smbus (Bus Transaction)

/-- What an entry makes of a handle number: it binds the number to a bus, or frees it.
A refused probe does neither, and nor does a removal where there is no handle. -/
def Entry.rebinds? {n : Nat} (h : Nat) (entry : Entry n) : Option (Option (Fin n)) :=
  match entry.1 with
  | .probe k b => if k = h ∧ entry.2.answer.isOk then some (some b) else none
  | .attach k b => if k = h then some (some b) else none
  | .remove k => if k = h ∧ entry.2.answer.isOk then some none else none
  | _ => none

/-- The bus that a handle number was last bound to, unless it has been freed since. -/
def boundBus? {n : Nat} (h : Nat) (entries : List (Entry n)) : Option (Fin n) :=
  (entries.filterMap (Entry.rebinds? h)).getLast?.join

namespace Rack

variable {n : Nat}

def bus? (rack : Rack n) (h : Nat) : Option (Fin n) :=
  (rack.handles h).map Handle.bus

theorem bus?_setHandle (rack : Rack n) (h k : Nat) (handle : Option (Handle n)) :
    (rack.setHandle k handle).bus? h =
      if k = h then handle.map Handle.bus else rack.bus? h := by
  unfold bus?
  by_cases hk : k = h
  · rw [hk, if_pos rfl, handles_setHandle_self]
  · rw [if_neg hk, handles_setHandle_of_ne (Ne.symm hk)]

theorem bus?_eq_none_iff {rack : Rack n} {h : Nat} :
    rack.bus? h = none ↔ rack.handles h = none :=
  Option.map_eq_none_iff

theorem bus?_eq_some_iff {rack : Rack n} {h : Nat} {b : Fin n} :
    rack.bus? h = some b ↔ exists client, rack.handles h = some { bus := b, client } := by
  unfold bus?
  rw [Option.map_eq_some_iff]
  constructor
  · rintro ⟨⟨c, client⟩, hhandle, rfl⟩
    exact ⟨client, hhandle⟩
  · rintro ⟨client, hhandle⟩
    exact ⟨_, hhandle, rfl⟩

/-!
# Which step bound a number

What is under a number after a step is what the step made of it, or what was there.
-/

theorem bus?_step (rack : Rack n) (s : Step n) (h : Nat) :
    (rack.step s).1.bus? h =
      (Entry.rebinds? h (s, (rack.step s).2)).getD (rack.bus? h) := by
  have hcourse := rack.course_step s
  generalize rack.step s = next at hcourse ⊢
  cases hcourse with
  | onBus b action => rfl
  | probe hsupports k =>
      rw [bus?_setHandle]
      by_cases hk : k = h
      · simp [Entry.rebinds?, Report.ofOutcome, Answer.isOk, hk]
      · simp only [Entry.rebinds?, hk, false_and, if_false]
        rfl
  | probeRefused hsupports k => simp [Entry.rebinds?, Answer.isOk]
  | attach k b =>
      unfold attach
      rw [bus?_setHandle]
      by_cases hk : k = h
      · simp [Entry.rebinds?, hk]
      · simp [Entry.rebinds?, hk]
  | remove hhandle =>
      rename_i k handle
      unfold remove
      rw [bus?_setHandle]
      by_cases hk : k = h
      · simp [Entry.rebinds?, Report.quiet, Answer.isOk, hk]
      · simp [Entry.rebinds?, hk]
  | onRegister hhandle action => rfl
  | onDevice hhandle action => rfl
  | noHandle hthrough habsent =>
      cases s with
      | remove k => simp [Entry.rebinds?, Report.quiet, Answer.isOk]
      | onRegister k action => rfl
      | onDevice k action => rfl
      | _ => cases hthrough
  | notDevice hhandle action => rfl

theorem bus?_run (rack : Rack n) (steps : List (Step n)) (h : Nat) :
    (rack.run steps).1.bus? h =
      ((rack.transcript steps).filterMap (Entry.rebinds? h)).getLast?.getD (rack.bus? h) := by
  induction steps generalizing rack with
  | nil => rfl
  | cons s rest ih =>
      rw [transcript_cons, BitStore.getLast?_filterMap_cons, ← bus?_step]
      exact ih (rack.step s).1

theorem bus?_run_ofBuses (buses : Vector Bus n) (steps : List (Step n)) (h : Nat) :
    ((ofBuses buses).run steps).1.bus? h = boundBus? h ((ofBuses buses).transcript steps) := by
  rw [bus?_run, boundBus?]
  cases (((ofBuses buses).transcript steps).filterMap (Entry.rebinds? h)).getLast? with
  | none => rfl
  | some made => rfl

/-!
# What follows for the next step
-/

theorem bus_eq_of_mem_ofOutcome {α : Type} {b c : Fin n} {answer : Answer n} {o : Outcome α}
    {t : Transaction} (ht : (c, t) ∈ (Report.ofOutcome b answer o).transactions) : c = b := by
  rcases List.mem_map.mp ht with ⟨_, _, hpair⟩
  exact (congrArg Prod.fst hpair).symm

theorem bus?_of_mem_transactions {rack : Rack n} {s : Step n} {h : Nat}
    (hthrough : s.through? = some h) {b : Fin n} {t : Transaction}
    (ht : (b, t) ∈ (rack.step s).2.transactions) : rack.bus? h = some b := by
  have hcourse := rack.course_step s
  generalize rack.step s = next at hcourse ht
  cases hcourse with
  | onBus c action => cases hthrough
  | probe hsupports k => cases hthrough
  | probeRefused hsupports k => cases hthrough
  | attach k c => cases hthrough
  | remove hhandle => cases ht
  | onRegister hhandle action =>
      cases hthrough
      rw [bus_eq_of_mem_ofOutcome ht]
      exact congrArg (Option.map Handle.bus) hhandle
  | onDevice hhandle action =>
      cases hthrough
      rw [bus_eq_of_mem_ofOutcome ht]
      exact congrArg (Option.map Handle.bus) hhandle
  | noHandle _ habsent => cases ht
  | notDevice hhandle action => cases ht

theorem bus_eq_of_mem_probe {rack : Rack n} {h : Nat} {b c : Fin n} {t : Transaction}
    (ht : (c, t) ∈ (rack.step (.probe h b)).2.transactions) : c = b := by
  cases hsupports : (rack.bus b).supports .byteData with
  | true =>
      rw [step_probe_of_supports hsupports] at ht
      exact bus_eq_of_mem_ofOutcome ht
  | false =>
      rw [step_probe_of_not_supports hsupports] at ht
      cases ht

theorem eq_remove_of_freed {rack : Rack n} {s : Step n} {h : Nat}
    (hbefore : rack.handles h ≠ none) (hafter : (rack.step s).1.handles h = none) :
    s = .remove h := by
  have hrebound : Entry.rebinds? h (s, (rack.step s).2) = some none := by
    have hbus := rack.bus?_step s h
    rw [bus?_eq_none_iff.mpr hafter] at hbus
    cases hrebinds : Entry.rebinds? h (s, (rack.step s).2) with
    | none =>
        rw [hrebinds] at hbus
        exact absurd (bus?_eq_none_iff.mp hbus.symm) hbefore
    | some made =>
        rw [hrebinds] at hbus
        exact congrArg some hbus.symm
  cases s with
  | remove k =>
      simp only [Entry.rebinds?, Option.ite_none_right_eq_some] at hrebound
      rw [hrebound.1.1]
  | probe k b => simp [Entry.rebinds?] at hrebound
  | attach k b => simp [Entry.rebinds?] at hrebound
  | _ => cases hrebound

theorem step_of_absent {rack : Rack n} {h : Nat} (habsent : rack.handles h = none)
    {s : Step n} (hthrough : s.through? = some h) : rack.step s = (rack, .quiet .noHandle) := by
  cases s with
  | remove k => cases hthrough; exact withHandle_of_none habsent _
  | onRegister k action => cases hthrough; exact withHandle_of_none habsent _
  | onDevice k action => cases hthrough; exact withHandle_of_none habsent _
  | _ => cases hthrough

/-- What a rack does with a handle number that was last bound as `bound` says. -/
structure Holds (rack : Rack n) (h : Nat) (bound : Option (Fin n)) : Prop where
  bus : rack.bus? h = bound
  used : forall s, s.through? = some h ->
    forall b t, (b, t) ∈ (rack.step s).2.transactions -> bound = some b
  probed : forall b c t, (c, t) ∈ (rack.step (.probe h b)).2.transactions -> c = b
  removed : forall b, bound = some b ->
    let next := rack.step (.remove h)
    next.2.answer = .released b ∧ next.2.transactions = [] ∧
      next.1.handles h = none ∧ forall c, next.1.bus c = rack.bus c
  freed : forall s, bound ≠ none -> (rack.step s).1.handles h = none -> s = .remove h
  refused : forall b,
    let next := rack.step (.probe h b)
    next.2.answer.error? = some .capabilityUnavailable ->
      next.2.answer = .probeRefused b .capabilityUnavailable ∧ next.1 = rack
  absent : bound = none ->
    forall s, s.through? = some h -> rack.step s = (rack, .quiet .noHandle)

theorem holds_bus? (rack : Rack n) (h : Nat) : rack.Holds h (rack.bus? h) where
  bus := rfl
  used := fun _ hthrough _ _ ht => bus?_of_mem_transactions hthrough ht
  probed := fun _ _ _ ht => bus_eq_of_mem_probe ht
  removed := by
    intro b hbound
    rcases bus?_eq_some_iff.mp hbound with ⟨client, hhandle⟩
    have hstep : rack.step (.remove h) = rack.remove h { bus := b, client } :=
      withHandle_of_some hhandle _
    rw [hstep]
    exact ⟨rfl, rfl, handles_setHandle_self _ _ _, fun _ => rfl⟩
  freed := by
    intro s hbound hafter
    exact eq_remove_of_freed (fun hnone => hbound (bus?_eq_none_iff.mpr hnone)) hafter
  refused := by
    intro b next hrefused
    cases hsupports : (rack.bus b).supports .byteData with
    | true =>
        have hnext : next = _ := step_probe_of_supports hsupports h
        rw [hnext] at hrefused
        cases hrefused
    | false =>
        have hnext : next = _ := step_probe_of_not_supports hsupports h
        rw [hnext]
        exact ⟨rfl, rfl⟩
  absent := by
    intro hbound s hthrough
    exact step_of_absent (bus?_eq_none_iff.mp hbound) hthrough

/-- At every moment of a session there is a handle under a number exactly when the last
step to bind or free the number bound it, and the handle is used on, and gives back, the
bus of that step.  An initial part of a session is a session too, so this is every
moment. -/
theorem handle_stays_bound (buses : Vector Bus n) (steps : List (Step n)) (h : Nat) :
    let start := Rack.ofBuses buses
    (start.run steps).1.Holds h (boundBus? h (start.transcript steps)) := by
  intro start
  rw [← bus?_run_ofBuses]
  exact holds_bus? _ h

/-- The probe of handle 3 on the second bus is refused, so the handle gives back the
first.  Handle 5 has been removed and is not found any more. -/
theorem handle_stays_bound_refused_probe :
    let start := Rack.ofBuses #v[Bus.idle .byteData, Bus.idle .wordAndRaw]
    let steps : List (Step 2) := [.probe 3 0, .attach 5 1, .probe 3 1, .remove 5]
    let now := (start.run steps).1
    boundBus? 3 (start.transcript steps) = some 0 ∧
      boundBus? 5 (start.transcript steps) = none ∧
      (now.step (.remove 3)).2.answer = .released 0 ∧
      now.step (.onRegister 5 (.read .scratch)) = (now, .quiet .noHandle) := by
  intro start steps now
  have hbound : boundBus? 3 (start.transcript steps) = some 0 := by
    decide +kernel
  have hfree : boundBus? 5 (start.transcript steps) = none := by
    decide +kernel
  have hthree : now.Holds 3 (boundBus? 3 (start.transcript steps)) :=
    handle_stays_bound _ steps 3
  have hfive : now.Holds 5 (boundBus? 5 (start.transcript steps)) :=
    handle_stays_bound _ steps 5
  refine ⟨hbound, hfree, ?_, ?_⟩
  · exact (hthree.removed 0 hbound).1
  · exact hfive.absent hfree _ rfl

end Rack
end CpldControl
