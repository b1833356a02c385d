import CpldControl.Proofs.Transcript

/-!
# Buses that do not interfere

In a session that binds every handle number to one bus only, the bus and the handles
on it form a part of the rack.  A step reads and changes one part, and a bus goes
through the session as if it were alone.

The main statement is `buses_do_not_interfere`.  A step that concerns a part does the
same on all racks that agree there (`step_of_concerns`), and any other step leaves the
part as it is (`sameAt_step_of_not_concerns`).
-/

namespace CpldControl

open Smbus (Bus)

/-!
# The steps that concern a bus
-/

def Step.binding? {n : Nat} : Step n -> Option (Nat × Fin n)
  | probe h b => some (h, b)
  | attach h b => some (h, b)
  | _ => none

/-- Whether a step names the bus, or goes through a handle number of it. -/
def Step.concerns {n : Nat} (b : Fin n) (own : Nat -> Bool) : Step n -> Bool
  | onBus c _ => c = b
  | probe _ c => c = b
  | attach _ c => c = b
  | remove h => own h
  | onRegister h _ => own h
  | onDevice h _ => own h

namespace Rack

variable {n : Nat}

/-!
# The part of a rack that belongs to a bus
-/

def Parted (rack : Rack n) (b : Fin n) (own : Nat -> Bool) : Prop :=
  forall h handle, rack.handles h = some handle -> (handle.bus = b ↔ own h = true)

structure SameAt (b : Fin n) (own : Nat -> Bool) (rack other : Rack n) : Prop where
  bus : other.bus b = rack.bus b
  handles : forall h, own h = true -> other.handles h = rack.handles h

namespace SameAt

variable {b : Fin n} {own : Nat -> Bool} {rack other : Rack n}

theorem refl (rack : Rack n) : SameAt b own rack rack :=
  ⟨rfl, fun _ _ => rfl⟩

theorem symm (hsame : SameAt b own rack other) : SameAt b own other rack :=
  ⟨hsame.bus.symm, fun h hown => (hsame.handles h hown).symm⟩

theorem trans {third : Rack n} (hsame : SameAt b own rack other)
    (hnext : SameAt b own other third) : SameAt b own rack third :=
  ⟨hnext.bus.trans hsame.bus,
    fun h hown => (hnext.handles h hown).trans (hsame.handles h hown)⟩

theorem setBus (hsame : SameAt b own rack other) (bus : Bus) :
    SameAt b own (rack.setBus b bus) (other.setBus b bus) where
  bus := by rw [bus_setBus_self, bus_setBus_self]
  handles := hsame.handles

theorem setHandle (hsame : SameAt b own rack other) (h : Nat) (handle : Option (Handle n)) :
    SameAt b own (rack.setHandle h handle) (other.setHandle h handle) where
  bus := hsame.bus
  handles := by
    intro k hown
    by_cases hk : k = h
    · rw [hk, handles_setHandle_self, handles_setHandle_self]
    · rw [handles_setHandle_of_ne hk, handles_setHandle_of_ne hk]
      exact hsame.handles k hown

theorem setHandle_of_not_own (rack : Rack n) {h : Nat} (hown : own h = false)
    (handle : Option (Handle n)) : SameAt b own rack (rack.setHandle h handle) where
  bus := rfl
  handles := by
    intro k hk
    apply handles_setHandle_of_ne
    rintro rfl
    rw [hk] at hown
    cases hown

theorem setBus_of_ne (rack : Rack n) {c : Fin n} (hne : c ≠ b) (bus : Bus) :
    SameAt b own rack (rack.setBus c bus) where
  bus := bus_setBus_of_ne (Ne.symm hne)
  handles := fun _ _ => rfl

theorem onBus (hsame : SameAt b own rack other) (action : Bus -> Outcome (Answer n)) :
    (other.onBus b action).2 = (rack.onBus b action).2 ∧
      SameAt b own (rack.onBus b action).1 (other.onBus b action).1 := by
  unfold Rack.onBus
  rw [hsame.bus]
  exact ⟨rfl, hsame.setBus _⟩

end SameAt
end Rack

/-- A step binds the bus to its own numbers only, and these to no other bus. -/
def Step.Respects {n : Nat} (b : Fin n) (own : Nat -> Bool) (s : Step n) : Prop :=
  forall h c, s.binding? = some (h, c) -> (c = b ↔ own h = true)

theorem Step.Respects.own_eq_false {n : Nat} {b c : Fin n} {own : Nat -> Bool} {s : Step n}
    (hs : s.Respects b own) {h : Nat} (hbinding : s.binding? = some (h, c)) (hne : c ≠ b) :
    own h = false := by
  rw [← Bool.not_eq_true]
  exact fun hown => hne ((hs h c hbinding).mpr hown)

namespace Rack

variable {n : Nat} {b : Fin n} {own : Nat -> Bool} {rack other : Rack n}

/-!
# Steps
-/

theorem Parted.bus_eq (hparted : rack.Parted b own) {h : Nat} {handle : Handle n}
    (hhandle : rack.handles h = some handle) (hown : own h = true) : handle.bus = b :=
  (hparted h handle hhandle).mpr hown

theorem Parted.bus_ne (hparted : rack.Parted b own) {h : Nat} {handle : Handle n}
    (hhandle : rack.handles h = some handle) (hown : own h = false) : handle.bus ≠ b := by
  intro hbus
  rw [(hparted h handle hhandle).mp hbus] at hown
  cases hown

theorem parted_setHandle (hparted : rack.Parted b own) {h : Nat} {handle : Option (Handle n)}
    (hhandle : forall new, handle = some new -> (new.bus = b ↔ own h = true)) :
    (rack.setHandle h handle).Parted b own := by
  intro k old hk
  by_cases hkh : k = h
  · subst hkh
    rw [handles_setHandle_self] at hk
    exact hhandle old hk
  · rw [handles_setHandle_of_ne hkh] at hk
    exact hparted k old hk

theorem parted_step (hparted : rack.Parted b own) {s : Step n} (hs : s.Respects b own) :
    (rack.step s).1.Parted b own := by
  have hcourse := rack.course_step s
  generalize rack.step s = next at hcourse ⊢
  cases hcourse with
  | onBus c action => exact hparted
  | probe hsupports h =>
      rename_i c
      have hbus : (rack.setBus c (Device.bringUp.run (rack.bus c)).bus).Parted b own := hparted
      apply parted_setHandle hbus
      rintro new ⟨⟩
      exact hs h _ rfl
  | probeRefused hsupports h => exact hparted
  | attach h c =>
      apply parted_setHandle hparted
      rintro new ⟨⟩
      exact hs h c rfl
  | remove hhandle =>
      apply parted_setHandle hparted
      rintro new ⟨⟩
  | onRegister hhandle action => exact hparted
  | onDevice hhandle action => exact hparted
  | noHandle hthrough habsent => exact hparted
  | notDevice hhandle action => exact hparted

theorem step_probe_of_sameAt (hsame : SameAt b own rack other) (h : Nat) :
    (other.step (.probe h b)).2 = (rack.step (.probe h b)).2 ∧
      SameAt b own (rack.step (.probe h b)).1 (other.step (.probe h b)).1 := by
  cases hsupports : (rack.bus b).supports .byteData with
  | true =>
      have hother : (other.bus b).supports .byteData = true := by
        rw [hsame.bus]
        exact hsupports
      rw [step_probe_of_supports hsupports, step_probe_of_supports hother, hsame.bus]
      exact ⟨rfl, (hsame.setBus _).setHandle h _⟩
  | false =>
      have hother : (other.bus b).supports .byteData = false := by
        rw [hsame.bus]
        exact hsupports
      rw [step_probe_of_not_supports hsupports, step_probe_of_not_supports hother]
      exact ⟨rfl, hsame⟩

theorem step_of_concerns (hsame : SameAt b own rack other) (hparted : rack.Parted b own)
    {s : Step n} (hconcerns : s.concerns b own = true) :
    (other.step s).2 = (rack.step s).2 ∧ SameAt b own (rack.step s).1 (other.step s).1 := by
  cases s with
  | onBus c action =>
      have hc : c = b := of_decide_eq_true hconcerns
      subst hc
      exact hsame.onBus _
  | probe h c =>
      have hc : c = b := of_decide_eq_true hconcerns
      subst hc
      exact step_probe_of_sameAt hsame h
  | attach h c =>
      have hc : c = b := of_decide_eq_true hconcerns
      subst hc
      exact ⟨rfl, hsame.setHandle h _⟩
  | remove h =>
      simp only [step, withHandle, hsame.handles h hconcerns]
      cases rack.handles h with
      | none => exact ⟨rfl, hsame⟩
      | some handle => exact ⟨rfl, hsame.setHandle h none⟩
  | onRegister h action =>
      simp only [step, withHandle, hsame.handles h hconcerns]
      cases hhandle : rack.handles h with
      | none => exact ⟨rfl, hsame⟩
      | some handle =>
          have hbus := hparted.bus_eq hhandle hconcerns
          simp only [hbus]
          exact hsame.onBus _
  | onDevice h action =>
      simp only [step, withHandle, hsame.handles h hconcerns]
      cases hhandle : rack.handles h with
      | none => exact ⟨rfl, hsame⟩
      | some handle =>
          have hbus := hparted.bus_eq hhandle hconcerns
          rcases handle with ⟨c, client⟩
          change c = b at hbus
          subst hbus
          cases client with
          | bare => exact ⟨rfl, hsame⟩
          | device device => exact hsame.onBus _

theorem sameAt_step_of_not_concerns (hparted : rack.Parted b own) {s : Step n}
    (hs : s.Respects b own) (hconcerns : s.concerns b own = false) :
    SameAt b own rack (rack.step s).1 := by
  have hcourse := rack.course_step s
  generalize rack.step s = next at hcourse ⊢
  cases hcourse with
  | onBus c action => exact .setBus_of_ne rack (of_decide_eq_false hconcerns) _
  | probe hsupports h =>
      rename_i c
      have hne : c ≠ b := of_decide_eq_false hconcerns
      have hown := hs.own_eq_false rfl hne
      exact (SameAt.setBus_of_ne rack hne _).trans (.setHandle_of_not_own _ hown _)
  | probeRefused hsupports h => exact .refl rack
  | attach h c =>
      have hne : c ≠ b := of_decide_eq_false hconcerns
      exact .setHandle_of_not_own rack (hs.own_eq_false rfl hne) _
  | remove hhandle => exact .setHandle_of_not_own rack hconcerns none
  | onRegister hhandle action =>
      exact .setBus_of_ne rack (hparted.bus_ne hhandle hconcerns) _
  | onDevice hhandle action =>
      exact .setBus_of_ne rack (hparted.bus_ne hhandle hconcerns) _
  | noHandle hthrough habsent => exact .refl rack
  | notDevice hhandle action => exact .refl rack

/-!
# Sessions
-/

theorem transcript_filter_concerns (hsame : SameAt b own rack other)
    (hparted : rack.Parted b own) {steps : List (Step n)}
    (hsteps : forall s, s ∈ steps -> s.Respects b own) :
    let alone := steps.filter (Step.concerns b own)
    (rack.transcript steps).filter (fun entry => entry.1.concerns b own) =
        other.transcript alone ∧
      SameAt b own (rack.run steps).1 (other.run alone).1 := by
  induction steps generalizing rack other with
  | nil => exact ⟨rfl, hsame⟩
  | cons s rest ih =>
      have hs := hsteps s List.mem_cons_self
      have hrest : forall t, t ∈ rest -> t.Respects b own :=
        fun t ht => hsteps t (List.mem_cons_of_mem s ht)
      have hnext := parted_step hparted hs
      cases hconcerns : s.concerns b own with
      | true =>
          rcases step_of_concerns hsame hparted hconcerns with ⟨hreport, hstep⟩
          rcases ih hstep hnext hrest with ⟨hreports, hfinal⟩
          simp only [transcript_cons, List.filter_cons, hconcerns, if_true]
          rw [hreport, hreports]
          exact ⟨rfl, hfinal⟩
      | false =>
          have hstep := (sameAt_step_of_not_concerns hparted hs hconcerns).symm.trans hsame
          rcases ih hstep hnext hrest with ⟨hreports, hfinal⟩
          simp only [transcript_cons, List.filter_cons, hconcerns, Bool.false_eq_true, if_false]
          exact ⟨hreports, hfinal⟩

end Rack

def bindings {n : Nat} (steps : List (Step n)) : List (Nat × Fin n) :=
  steps.filterMap Step.binding?

def OneBusEach {n : Nat} (steps : List (Step n)) : Prop :=
  forall p, p ∈ bindings steps -> forall q, q ∈ bindings steps -> p.1 = q.1 -> p.2 = q.2

def bindsTo {n : Nat} (steps : List (Step n)) (b : Fin n) (h : Nat) : Bool :=
  (h, b) ∈ bindings steps

theorem OneBusEach.respects {n : Nat} {steps : List (Step n)} (hone : OneBusEach steps)
    (b : Fin n) {s : Step n} (hs : s ∈ steps) : s.Respects b (bindsTo steps b) := by
  intro h c hbinding
  have hmem : (h, c) ∈ bindings steps := List.mem_filterMap.mpr ⟨s, hs, hbinding⟩
  constructor
  · rintro rfl
    exact decide_eq_true hmem
  · intro hown
    exact hone _ hmem _ (of_decide_eq_true hown) rfl

namespace Rack

variable {n : Nat}

/-- If every handle number is bound to one bus only, then dropping all steps that neither
name a bus nor go through its handle numbers leaves the reports of the others and the
final state of that bus as they were. -/
theorem buses_do_not_interfere (buses : Vector Bus n) (steps : List (Step n))
    (hone : OneBusEach steps) (b : Fin n) :
    let start := Rack.ofBuses buses
    let concerns := Step.concerns b (bindsTo steps b)
    let alone := steps.filter concerns
    (start.transcript steps).filter (fun entry => concerns entry.1) = start.transcript alone ∧
      (start.run alone).1.bus b = (start.run steps).1.bus b := by
  intro start concerns alone
  have hparted : start.Parted b (bindsTo steps b) := by
    rintro h handle ⟨⟩
  rcases transcript_filter_concerns (.refl start) hparted fun s => hone.respects b with
    ⟨hreports, hfinal⟩
  exact ⟨hreports, hfinal.bus⟩

/-- Two buses, the second without byte data transfers.  Beside the store through handle 0
the session has a refused probe onto handle 1, register access attached there, a write
through it to the same register, and a removal. -/
theorem buses_do_not_interfere_refused_probe :
    let buses := #v[Bus.idle .byteData, Bus.idle .wordAndRaw]
    let mine : List (Step 2) :=
      [.probe 0 0, .onDevice 0 (.storeAttribute "scratch" "0x3c"), .onDevice 0 .readScratch]
    let steps : List (Step 2) :=
      [ .probe 1 1,
        .probe 0 0,
        .attach 1 1,
        .onBus 1 (.plantReadFault 0x0F .busy),
        .onDevice 0 (.storeAttribute "scratch" "0x3c"),
        .onRegister 1 (.write .scratch 0xFF),
        .remove 1,
        .onDevice 0 .readScratch ]
    let start := Rack.ofBuses buses
    OneBusEach steps ∧
      steps.filter (Step.concerns 0 (bindsTo steps 0)) = mine ∧
      (start.transcript steps).filter
          (fun entry => entry.1.concerns 0 (bindsTo steps 0)) = start.transcript mine ∧
      (start.run mine).1.bus 0 = (start.run steps).1.bus 0 := by
  intro buses mine steps start
  have hone : OneBusEach steps := by
    unfold OneBusEach
    decide
  have hmine : steps.filter (Step.concerns 0 (bindsTo steps 0)) = mine := rfl
  rcases buses_do_not_interfere buses steps hone 0 with ⟨hreports, hfinal⟩
  rw [hmine] at hreports hfinal
  exact ⟨hone, hmine, hreports, hfinal⟩

end Rack
end CpldControl
