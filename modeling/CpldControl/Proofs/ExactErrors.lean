import CpldControl.Proofs.Needs

/-!
# Errors are atomic and exact

A step that answers a device error has changed nothing but the transaction
counters.  The error names the one transaction that failed, which is the last of
the step, or the step was turned down before its first transaction.

The main statement is `step_error_exact`.  It also says when a step whose input
is in order succeeds: exactly when no fault is installed where it has to go.
-/

namespace CpldControl

open Chip (Register Signal)
open Device (Error)
open Smbus (Bus Direction)

namespace Rack

variable {n : Nat}

theorem onlyCounted_setBus {rack : Rack n} {b : Fin n} {bus : Bus}
    (h : (rack.bus b).OnlyCounted bus) (c : Fin n) :
    (rack.bus c).OnlyCounted ((rack.setBus b bus).bus c) := by
  rw [bus_setBus]
  by_cases hcb : c = b
  · rw [if_pos hcb, hcb]
    exact h
  · rw [if_neg hcb]
    exact Bus.OnlyCounted.refl (rack.bus c)

theorem error_exact_onBus {rack : Rack n} {b : Fin n} {q : Request n} (hq : q.WellFormed)
    {e : Error} (he : (rack.onBus b q.program.run).2.answer.error? = some e) :
    (forall c, (rack.bus c).OnlyCounted ((rack.onBus b q.program.run).1.bus c)) ∧
      e.Explains ((rack.onBus b q.program.run).2.transactions.map Prod.snd) := by
  rcases Request.error_exact hq he with ⟨hcounted, hexplains⟩
  refine ⟨onlyCounted_setBus hcounted, ?_⟩
  have hmap : (rack.onBus b q.program.run).2.transactions.map Prod.snd =
      (q.program.run (rack.bus b)).transactions := by
    simp [onBus, Report.ofOutcome, Function.comp_def]
  rw [hmap]
  exact hexplains

theorem error?_onBus_perform (rack : Rack n) (b : Fin n) (action : BusAction) :
    (rack.onBus b fun bus => action.perform bus).2.answer.error? = none := by
  cases action with
  | rawRead address =>
      show (Answer.ofTransfer .byte ((rack.bus b).readResult address) : Answer n).error? = none
      cases (rack.bus b).readResult address <;> rfl
  | rawWrite address value =>
      show (Answer.ofTransfer (fun _ => .done)
        ((rack.bus b).writeResult address) : Answer n).error? = none
      cases (rack.bus b).writeResult address <;> rfl
  | _ => rfl

theorem error?_readCatalog (rack : Rack n) (b : Fin n) (device : Device) :
    (rack.onBus b (DeviceAction.readCatalog.program device).run).2.answer.error? = none := by
  simp only [onBus, Report.ofOutcome, DeviceAction.program, BusProgram.run_map]
  rfl

theorem error_explains {rack : Rack n} {s : Step n} {e : Error}
    (he : (rack.step s).2.answer.error? = some e) :
    (forall b, (rack.bus b).OnlyCounted ((rack.step s).1.bus b)) ∧
      (rack.step s).1.handles = rack.handles ∧
      e.Explains ((rack.step s).2.transactions.map Prod.snd) := by
  have hcourse := rack.course_step s
  generalize rack.step s = next at hcourse he ⊢
  cases hcourse with
  | onBus b action =>
      rw [error?_onBus_perform] at he
      cases he
  | probe hsupports h => cases he
  | probeRefused hsupports h =>
      cases he
      exact ⟨fun c => Bus.OnlyCounted.refl (rack.bus c), rfl, .refusal rfl⟩
  | attach h b => cases he
  | remove hhandle => cases he
  | onRegister hhandle action =>
      rw [action.program_eq] at he ⊢
      rcases error_exact_onBus action.wellFormed_request he with ⟨hcounted, hexplains⟩
      exact ⟨hcounted, rfl, hexplains⟩
  | onDevice hhandle action =>
      rename_i h b device
      cases hrequest : action.request? (n := n) device with
      | some q =>
          rw [action.program_eq_of_request? hrequest] at he ⊢
          rcases error_exact_onBus (action.wellFormed_of_request? hrequest) he with
            ⟨hcounted, hexplains⟩
          exact ⟨hcounted, rfl, hexplains⟩
      | none =>
          rw [DeviceAction.eq_readCatalog_of_request? hrequest, error?_readCatalog] at he
          cases he
  | noHandle hthrough habsent => cases he
  | notDevice hhandle action => cases he

structure ExactError (rack : Rack n) (next : Rack n × Report n) (e : Error) : Prop where
  buses : forall b, (rack.bus b).OnlyCounted (next.1.bus b)
  handles : next.1.handles = rack.handles
  refusal : e.cause? = none ↔ next.2.transactions = []
  failing : (exists r d f, e = .busFault r d f) ↔
    exists entry, entry ∈ next.2.transactions ∧ entry.2.fault? ≠ none
  last : forall r d f, e = .busFault r d f ->
    exists earlier b t,
      next.2.transactions = earlier ++ [(b, t)] ∧
      (forall entry, entry ∈ earlier -> entry.2.fault? = none) ∧
      t.address = r.address ∧ t.direction = d ∧ t.fault? = some f

theorem exactError_of_explains {rack : Rack n} {next : Rack n × Report n} {e : Error}
    (hbuses : forall b, (rack.bus b).OnlyCounted (next.1.bus b))
    (hhandles : next.1.handles = rack.handles)
    (hexplains : e.Explains (next.2.transactions.map Prod.snd)) :
    rack.ExactError next e := by
  generalize htransactions : next.2.transactions.map Prod.snd = ts at hexplains
  cases hexplains with
  | refusal hcause =>
      have hnone : next.2.transactions = [] := List.map_eq_nil_iff.mp htransactions
      have hnotFault : forall r d f, e ≠ .busFault r d f := by
        intro r d f he
        rw [he] at hcause
        cases hcause
      refine ⟨hbuses, hhandles, ?_, ?_, ?_⟩
      · simp [hcause, hnone]
      · simp [hnotFault, hnone]
      · intro r d f he
        exact absurd he (hnotFault r d f)
  | fault earlier hearlier haddress hdirection hfault =>
      rename_i r d f t
      rcases List.map_eq_append_iff.mp htransactions with ⟨front, back, hsplit, hfront, hback⟩
      rcases List.map_eq_singleton_iff.mp hback with ⟨⟨b, t'⟩, hlast, ht⟩
      change t' = t at ht
      subst ht
      rw [hlast] at hsplit
      refine ⟨hbuses, hhandles, ?_, ?_, ?_⟩
      · simp [hsplit, Device.Error.cause?]
      · constructor
        · intro _
          refine ⟨(b, t'), ?_, ?_⟩
          · simp [hsplit]
          · simp [hfault]
        · intro _
          exact ⟨r, d, f, rfl⟩
      · intro r' d' f' he
        cases he
        refine ⟨front, b, t', hsplit, ?_, haddress, hdirection, hfault⟩
        intro entry hentry
        apply hearlier
        rw [← hfront]
        exact List.mem_map_of_mem hentry

/-- A step that answers a device error has changed no more than counters, and its
error is exact; a step whose input is in order succeeds exactly when nothing it
needs is at fault. -/
theorem step_error_exact (rack : Rack n) (s : Step n) :
    (forall e, (rack.step s).2.answer.error? = some e ->
      rack.ExactError (rack.step s) e) ∧
    (forall b r ds, rack.Needs s b r ds ->
      ((rack.step s).2.answer.isOk = true ↔
        forall d, d ∈ ds -> (rack.bus b).fault? d r.address = none)) := by
  constructor
  · intro e he
    rcases error_explains he with ⟨hbuses, hhandles, hexplains⟩
    exact exactError_of_explains hbuses hhandles hexplains
  · intro b r ds hneeds
    exact isOk_iff hneeds

/-- A register whose writes fail: the change of its signal ends with the second
transaction. -/
theorem step_error_exact_dataNak :
    let bus := (Bus.idle .byteData).plantWriteFault 0x10 .dataNak
    let device : Device := { identity := .ofRegisters none none none none, bringUpFault := none }
    let rack := (Rack.ofBuses #v[bus]).setHandle 0 (some { bus := 0, client := .device device })
    let s := Step.onDevice 0 (.driveSignal "rst_pld_soft" true)
    (rack.step s).2.answer.error? = some (.busFault .reset .write .dataNak) ∧
      rack.ExactError (rack.step s) (.busFault .reset .write .dataNak) ∧
      rack.Needs s 0 .reset [.read, .write] ∧
      ((rack.step s).2.answer.isOk = true ↔
        forall d, d ∈ [Direction.read, .write] ->
          (rack.bus 0).fault? d (Register.address .reset) = none) := by
  intro bus device rack s
  have herror : (rack.step s).2.answer.error? = some (.busFault .reset .write .dataNak) := by
    decide +kernel
  have hname : Signal.find? "rst_pld_soft" = some .softReset := by
    decide +kernel
  have hhandle : rack.handles 0 = some { bus := 0, client := .device device } :=
    handles_setHandle_self _ _ _
  have hneeds : rack.Needs s 0 .reset [.read, .write] :=
    .onDevice hhandle (.driveSignal hname rfl)
  refine ⟨herror, ?_, hneeds, ?_⟩
  · exact (step_error_exact rack s).1 _ herror
  · exact (step_error_exact rack s).2 _ _ _ hneeds

end Rack
end CpldControl