import CpldControl.Rack.Run

/-!
# Transcripts of a session

The transcript of a run puts every step beside its report.  `transcript_eq_append_cons`
finds the state in which an entry of the transcript was made, `course_step` says
everything that a step can do, and `handles_run_of_not_ended` keeps a handle through
a session.
-/

namespace CpldControl

open Smbus (Bus)

abbrev Entry (n : Nat) := Step n × Report n

namespace Rack

variable {n : Nat}

def transcript (rack : Rack n) (steps : List (Step n)) : List (Entry n) :=
  steps.zip (rack.run steps).2

theorem transcript_cons (rack : Rack n) (s : Step n) (rest : List (Step n)) :
    rack.transcript (s :: rest) =
      (s, (rack.step s).2) :: (rack.step s).1.transcript rest := rfl

theorem transcript_append (rack : Rack n) (first second : List (Step n)) :
    rack.transcript (first ++ second) =
      rack.transcript first ++ (rack.run first).1.transcript second := by
  induction first generalizing rack with
  | nil => rfl
  | cons s rest ih =>
      rw [List.cons_append, transcript_cons, transcript_cons, ih]
      rfl

theorem transcript_eq_append_cons {rack : Rack n} {steps : List (Step n)}
    {earlier later : List (Entry n)} {entry : Entry n}
    (h : rack.transcript steps = earlier ++ entry :: later) :
    exists first second,
      steps = first ++ entry.1 :: second ∧
      rack.transcript first = earlier ∧
      entry.2 = ((rack.run first).1.step entry.1).2 := by
  induction earlier generalizing rack steps with
  | nil =>
      cases steps with
      | nil => cases h
      | cons s rest =>
          rw [transcript_cons] at h
          cases h
          exact ⟨[], rest, rfl, rfl, rfl⟩
  | cons e earlier ih =>
      cases steps with
      | nil => cases h
      | cons s rest =>
          rw [transcript_cons, List.cons_append] at h
          injection h with hhead htail
          rcases ih htail with ⟨first, second, hsteps, hfirst, hreport⟩
          refine ⟨s :: first, second, ?_, ?_, ?_⟩
          · rw [hsteps, List.cons_append]
          · rw [transcript_cons, hhead, hfirst]
          · exact hreport

/-!
# Steps through a handle
-/

theorem setBus_bus (rack : Rack n) (b : Fin n) : rack.setBus b (rack.bus b) = rack := by
  apply ext_bus
  · intro c
    rw [bus_setBus]
    by_cases h : c = b
    · rw [if_pos h, h]
    · rw [if_neg h]
  · intro h
    rfl

theorem step_probe_of_supports {rack : Rack n} {b : Fin n}
    (hsupports : (rack.bus b).supports .byteData = true) (h : Nat) :
    rack.step (.probe h b) =
      let o := Device.bringUp.run (rack.bus b)
      ((rack.setBus b o.bus).setHandle h (some { bus := b, client := .device o.value }),
        .ofOutcome b .done o) := by
  simp only [step, probe, Device.perform_probe_of_supports hsupports]
  rfl

theorem step_probe_of_not_supports {rack : Rack n} {b : Fin n}
    (hsupports : (rack.bus b).supports .byteData = false) (h : Nat) :
    rack.step (.probe h b) =
      (rack,
        { answer := .probeRefused b .capabilityUnavailable
          transactions := []
          events := [.adapterUnsuitable] }) := by
  simp only [step, probe, Device.perform_probe_of_not_supports hsupports, setBus_bus]
  rfl

theorem step_onRegister {rack : Rack n} {h : Nat} {handle : Handle n}
    (hhandle : rack.handles h = some handle) (action : RegisterAction) :
    rack.step (.onRegister h action) = rack.onBus handle.bus action.program.run := by
  simp only [step, withHandle, hhandle]

theorem step_onDevice {rack : Rack n} {h : Nat} {b : Fin n} {device : Device}
    (hhandle : rack.handles h = some { bus := b, client := .device device })
    (action : DeviceAction) :
    rack.step (.onDevice h action) = rack.onBus b (action.program device).run := by
  simp only [step, withHandle, hhandle]

@[simp] theorem bus_onBus_self (rack : Rack n) (b : Fin n)
    (action : Bus -> Outcome (Answer n)) :
    (rack.onBus b action).1.bus b = (action (rack.bus b)).bus :=
  rack.bus_setBus_self b _

theorem bus_onBus_of_ne {rack : Rack n} {b c : Fin n} {action : Bus -> Outcome (Answer n)}
    (hne : c ≠ b) : (rack.onBus b action).1.bus c = rack.bus c :=
  bus_setBus_of_ne hne

theorem onBus_pure (rack : Rack n) (b : Fin n) (answer : Answer n) :
    rack.onBus b (BusProgram.run (pure answer)) = (rack, .quiet answer) := by
  show (rack.setBus b (rack.bus b), Report.quiet answer) = _
  rw [setBus_bus]

end Rack

/-!
# The courses of a step
-/

def Step.through? {n : Nat} : Step n -> Option Nat
  | remove h => some h
  | onRegister h _ => some h
  | onDevice h _ => some h
  | _ => none

namespace Rack

variable {n : Nat}

/-- Every course that a step can take, with the next rack and the report. -/
inductive Course (rack : Rack n) : Step n -> Rack n × Report n -> Prop where
  | onBus (b : Fin n) (action : BusAction) :
      Course rack (.onBus b action) (rack.onBus b fun bus => action.perform bus)
  | probe {b : Fin n} (hsupports : (rack.bus b).supports .byteData = true) (h : Nat) :
      Course rack (.probe h b)
        (let o := Device.bringUp.run (rack.bus b)
        ((rack.setBus b o.bus).setHandle h (some { bus := b, client := .device o.value }),
          .ofOutcome b .done o))
  | probeRefused {b : Fin n} (hsupports : (rack.bus b).supports .byteData = false) (h : Nat) :
      Course rack (.probe h b)
        (rack,
          { answer := .probeRefused b .capabilityUnavailable
            transactions := []
            events := [.adapterUnsuitable] })
  | attach (h : Nat) (b : Fin n) : Course rack (.attach h b) (rack.attach h b)
  | remove {h : Nat} {handle : Handle n} (hhandle : rack.handles h = some handle) :
      Course rack (.remove h) (rack.remove h handle)
  | onRegister {h : Nat} {handle : Handle n} (hhandle : rack.handles h = some handle)
      (action : RegisterAction) :
      Course rack (.onRegister h action) (rack.onBus handle.bus action.program.run)
  | onDevice {h : Nat} {b : Fin n} {device : Device}
      (hhandle : rack.handles h = some { bus := b, client := .device device })
      (action : DeviceAction) :
      Course rack (.onDevice h action) (rack.onBus b (action.program device).run)
  | noHandle {s : Step n} {h : Nat} (hthrough : s.through? = some h)
      (habsent : rack.handles h = none) : Course rack s (rack, .quiet .noHandle)
  | notDevice {h : Nat} {b : Fin n}
      (hhandle : rack.handles h = some { bus := b, client := .bare })
      (action : DeviceAction) : Course rack (.onDevice h action) (rack, .quiet .notDevice)

theorem course_step (rack : Rack n) (s : Step n) : rack.Course s (rack.step s) := by
  cases s with
  | onBus b action => exact .onBus b action
  | probe h b =>
      cases hsupports : (rack.bus b).supports .byteData with
      | true =>
          rw [step_probe_of_supports hsupports]
          exact .probe hsupports h
      | false =>
          rw [step_probe_of_not_supports hsupports]
          exact .probeRefused hsupports h
  | attach h b => exact .attach h b
  | remove h =>
      simp only [step]
      cases hhandle : rack.handles h with
      | none =>
          rw [withHandle_of_none hhandle]
          exact .noHandle rfl hhandle
      | some handle =>
          rw [withHandle_of_some hhandle]
          exact .remove hhandle
  | onRegister h action =>
      simp only [step]
      cases hhandle : rack.handles h with
      | none =>
          rw [withHandle_of_none hhandle]
          exact .noHandle rfl hhandle
      | some handle =>
          rw [withHandle_of_some hhandle]
          exact .onRegister hhandle action
  | onDevice h action =>
      simp only [step]
      cases hhandle : rack.handles h with
      | none =>
          rw [withHandle_of_none hhandle]
          exact .noHandle rfl hhandle
      | some handle =>
          rw [withHandle_of_some hhandle]
          rcases handle with ⟨b, client⟩
          cases client with
          | bare => exact .notDevice hhandle action
          | device device => exact .onDevice hhandle action

end Rack

/-!
# Handles through a session
-/

/-- Whether a step removed or replaced what was under a handle number. -/
def Entry.endsHandle {n : Nat} (h : Nat) (entry : Entry n) : Bool :=
  match entry.1 with
  | .probe k _ => k = h && entry.2.answer.error?.isNone
  | .attach k _ => k = h
  | .remove k => k = h
  | _ => false

namespace Rack

variable {n : Nat}

theorem handles_step_of_not_ended {rack : Rack n} {s : Step n} {h : Nat}
    (hkept : Entry.endsHandle h (s, (rack.step s).2) = false) :
    (rack.step s).1.handles h = rack.handles h := by
  have hcourse := rack.course_step s
  generalize rack.step s = next at hcourse hkept ⊢
  cases hcourse with
  | onBus b action => rfl
  | probe hsupports k =>
      have hne : k ≠ h := by
        simpa [Entry.endsHandle, Report.ofOutcome, Answer.error?] using hkept
      exact handles_setHandle_of_ne hne.symm
  | probeRefused hsupports k => rfl
  | attach k b =>
      have hne : k ≠ h := of_decide_eq_false hkept
      exact handles_setHandle_of_ne hne.symm
  | remove hhandle =>
      rename_i k handle
      have hne : k ≠ h := of_decide_eq_false hkept
      exact handles_setHandle_of_ne hne.symm
  | onRegister hhandle action => rfl
  | onDevice hhandle action => rfl
  | noHandle hthrough habsent => rfl
  | notDevice hhandle action => rfl

theorem handles_run_of_not_ended {rack : Rack n} {steps : List (Step n)} {h : Nat}
    (hkept : forall entry, entry ∈ rack.transcript steps -> entry.endsHandle h = false) :
    (rack.run steps).1.handles h = rack.handles h := by
  induction steps generalizing rack with
  | nil => rfl
  | cons s rest ih =>
      rw [transcript_cons] at hkept
      have hhead := hkept _ List.mem_cons_self
      have htail := ih fun entry hentry => hkept entry (List.mem_cons_of_mem _ hentry)
      exact htail.trans (handles_step_of_not_ended hhead)

end Rack
end CpldControl
