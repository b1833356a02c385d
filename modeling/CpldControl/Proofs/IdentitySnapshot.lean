import CpldControl.Proofs.BringUp
import CpldControl.Proofs.Names
import CpldControl.Proofs.Request

/-!
# The identity as it was at bring-up

A device keeps what its bring-up read and the first error it met, and tells of them
without going to the bus.  No step changes what is under a handle but one that ends
the handle, so the answers stay the same for as long as the handle lasts, whatever
becomes of the registers meanwhile.

The main statement is `identity_snapshot_stable`.
-/

namespace CpldControl

open Chip (Register)
open Device (Attribute BroughtUp IdentityField)
open Smbus (Bus Transaction)

/-!
# What the reads of bring-up answered
-/

namespace Device.BroughtUp

variable {before after : Bus} {device : Device} {ts : List Transaction}

theorem mem_of_read (h : device.BroughtUp before ts after) (field : IdentityField) :
    .ofRead field.register.address (before.readResult field.register.address) ∈ ts := by
  rw [h.transactions]
  exact List.mem_append_left _ (List.mem_map_of_mem field.register_mem)

theorem eq_ofRead_of_mem (h : device.BroughtUp before ts after) {t : Transaction}
    (ht : t ∈ ts) (hread : t.direction = .read) :
    t = .ofRead t.address (before.readResult t.address) := by
  rw [h.transactions] at ht
  rcases List.mem_append.mp ht with ht | ht
  · rcases List.mem_map.mp ht with ⟨r, _, rfl⟩
    rw [Transaction.address_ofRead]
  · rcases List.mem_map.mp ht with ⟨entry, _, rfl⟩
    rw [Transaction.direction_ofWrite] at hread
    cases hread

theorem get?_eq_none_iff (h : device.BroughtUp before ts after) (field : IdentityField) :
    device.identity.get? field = none ↔
      exists fault, .readFailed field.register.address fault ∈ ts := by
  rw [h.captured]
  constructor
  · intro hnone
    cases hfault : before.readFaults.get field.register.address with
    | none =>
        rw [hfault] at hnone
        cases hnone
    | some fault =>
        have hmem := h.mem_of_read field
        rw [Bus.readResult_of_fault hfault] at hmem
        exact ⟨fault, hmem⟩
  · rintro ⟨fault, hmem⟩
    have hread := h.eq_ofRead_of_mem hmem rfl
    have hresult := (Transaction.ofRead_eq_readFailed_iff.mp hread.symm).2
    have hfault : before.readFaults.get field.register.address = some fault :=
      Bus.readResult_eq_error_iff.mp hresult
    rw [hfault]

theorem get?_of_read_mem (h : device.BroughtUp before ts after) {field : IdentityField}
    {value : Byte} (hmem : .read field.register.address value ∈ ts) :
    device.identity.get? field = some (field.part value) := by
  have hread := h.eq_ofRead_of_mem hmem rfl
  have hresult := (Transaction.ofRead_eq_read_iff.mp hread.symm).2
  rcases Bus.readResult_eq_ok_iff.mp hresult with ⟨hfault, hvalue⟩
  rw [h.captured, show before.readFaults.get field.register.address = none from hfault]
  exact congrArg (fun b => some (field.part b)) hvalue

end Device.BroughtUp

/-!
# Answers without a transaction
-/

namespace Rack

variable {n : Nat}

/-- What a handle tells of bring-up, without a transaction, an event or a change. -/
structure Recalls (rack : Rack n) (h : Nat) (device : Device) : Prop where
  identity : rack.step (.onDevice h .identity) =
    (rack, .quiet (.identity device.identity))
  bringUpFault : rack.step (.onDevice h .bringUpFault) =
    (rack, .quiet (.bringUpFault device.bringUpFault))
  shows : forall field : IdentityField,
    rack.step (.onDevice h (.readAttribute field.name)) =
      (rack, .quiet
        (match device.identity.get? field with
        | some b => .value (field.shownAs b)
        | none => .refused .identityUnavailable))

theorem recalls_of_handle {rack : Rack n} {h : Nat} {b : Fin n} {device : Device}
    (hhandle : rack.handles h = some { bus := b, client := .device device }) :
    rack.Recalls h device := by
  constructor
  case identity =>
    rw [step_onDevice hhandle]
    exact rack.onBus_pure b _
  case bringUpFault =>
    rw [step_onDevice hhandle]
    exact rack.onBus_pure b _
  case shows =>
    intro field
    have hname : Device.attributeOfName field.name = .ok (.identity field) :=
      Device.attributeOfName_eq_ok_iff.mpr (Attribute.find?_name (.identity field))
    have hrequest : (DeviceAction.readAttribute field.name).request? (n := n) device =
        some (Request.readAttribute device (.identity field)) := by
      simp only [DeviceAction.request?, hname]
      rfl
    rw [step_onDevice hhandle, DeviceAction.program_eq_of_request? hrequest]
    simp only [Request.readAttribute]
    cases device.identity.get? field with
    | some value => exact rack.onBus_pure b _
    | none => exact rack.onBus_pure b _

namespace Recalls

variable {rack : Rack n} {h : Nat} {device : Device}

theorem shown_eq_unavailable_iff (hrecalls : rack.Recalls h device) (field : IdentityField) :
    (rack.step (.onDevice h (.readAttribute field.name))).2.answer =
        .refused .identityUnavailable ↔
      device.identity.get? field = none := by
  rw [hrecalls.shows]
  cases device.identity.get? field with
  | none => exact ⟨fun _ => rfl, fun _ => rfl⟩
  | some b => simp [Report.quiet]

theorem shown_eq_value (hrecalls : rack.Recalls h device) {field : IdentityField} {b : Byte}
    (hfield : device.identity.get? field = some b) :
    (rack.step (.onDevice h (.readAttribute field.name))).2.answer =
      .value (field.shownAs b) := by
  rw [hrecalls.shows, hfield]
  rfl

end Recalls

/-!
# Where a device comes from
-/

theorem eq_of_through?_of_endsHandle {s : Step n} {report : Report n} {h k : Nat}
    (hthrough : s.through? = some k) (hended : Entry.endsHandle h (s, report) = true) :
    k = h := by
  cases s with
  | remove j =>
      have hj : j = h := of_decide_eq_true hended
      exact (Option.some.inj hthrough).symm.trans hj
  | onBus b action => cases hthrough
  | probe j b => cases hthrough
  | attach j b => cases hthrough
  | onRegister j action => cases hended
  | onDevice j action => cases hended

theorem eq_probe_of_ended {rack : Rack n} {s : Step n} {h : Nat} {b : Fin n}
    {device : Device} (hended : Entry.endsHandle h (s, (rack.step s).2) = true)
    (hhandle : (rack.step s).1.handles h = some { bus := b, client := .device device }) :
    s = .probe h b ∧ (rack.step s).2.answer = .done := by
  have hcourse := rack.course_step s
  generalize rack.step s = next at hcourse hended hhandle ⊢
  cases hcourse with
  | onBus c action => cases hended
  | probe hsupports k =>
      rename_i c
      have hk : k = h := by
        simpa [Entry.endsHandle, Report.ofOutcome, Answer.error?] using hended
      subst hk
      simp only [handles_setHandle_self, Option.some.injEq, Handle.mk.injEq] at hhandle
      exact ⟨by rw [hhandle.1], rfl⟩
  | probeRefused hsupports k => simp [Entry.endsHandle, Answer.error?] at hended
  | attach k c =>
      have hk : k = h := of_decide_eq_true hended
      subst hk
      simp [attach] at hhandle
  | remove hpresent =>
      rename_i k handle
      have hk : k = h := of_decide_eq_true hended
      subst hk
      simp [remove] at hhandle
  | onRegister hpresent action => cases hended
  | onDevice hpresent action => cases hended
  | noHandle hthrough habsent =>
      rw [eq_of_through?_of_endsHandle hthrough hended] at habsent
      rw [habsent] at hhandle
      cases hhandle
  | notDevice hpresent action => cases hended

/-- The last probe onto a handle that brought a device up there: it stands between the
steps before it and those since, none of which ended the handle. -/
structure LastProbe (rack : Rack n) (steps : List (Step n)) (h : Nat) (b : Fin n)
    (first since : List (Step n)) : Prop where
  split : steps = first ++ .probe h b :: since
  done : ((rack.run first).1.step (.probe h b)).2.answer = .done
  kept : forall entry,
    entry ∈ ((rack.run first).1.step (.probe h b)).1.transcript since ->
    entry.endsHandle h = false

namespace LastProbe

variable {rack : Rack n} {steps first since : List (Step n)} {h : Nat} {b : Fin n}

theorem of_supports (hsupports : ((rack.run first).1.bus b).supports .byteData = true)
    (hkept : forall entry,
      entry ∈ ((rack.run first).1.step (.probe h b)).1.transcript since ->
      entry.endsHandle h = false) :
    rack.LastProbe (first ++ .probe h b :: since) h b first since where
  split := rfl
  done := by
    rw [step_probe_of_supports hsupports]
    rfl
  kept := hkept

theorem cons {s : Step n} (hlast : (rack.step s).1.LastProbe steps h b first since) :
    rack.LastProbe (s :: steps) h b (s :: first) since where
  split := by rw [hlast.split, List.cons_append]
  done := hlast.done
  kept := hlast.kept

theorem run_eq (hlast : rack.LastProbe steps h b first since) :
    (rack.run steps).1 = (((rack.run first).1.step (.probe h b)).1.run since).1 := by
  rw [hlast.split, run_append, run_cons]

theorem handles_run (hlast : rack.LastProbe steps h b first since) :
    (rack.run steps).1.handles h =
      ((rack.run first).1.step (.probe h b)).1.handles h := by
  rw [hlast.run_eq]
  exact handles_run_of_not_ended hlast.kept

theorem supports (hlast : rack.LastProbe steps h b first since) :
    ((rack.run first).1.bus b).supports .byteData = true := by
  cases hsupports : ((rack.run first).1.bus b).supports .byteData with
  | true => rfl
  | false =>
      have hdone := hlast.done
      rw [step_probe_of_not_supports hsupports] at hdone
      cases hdone

theorem broughtUp (hlast : rack.LastProbe steps h b first since) :
    exists device ts,
      ((rack.run first).1.step (.probe h b)).1.handles h =
        some { bus := b, client := .device device } ∧
      ((rack.run first).1.step (.probe h b)).2.transactions = ts.map (fun t => (b, t)) ∧
      device.BroughtUp ((rack.run first).1.bus b) ts
        (((rack.run first).1.step (.probe h b)).1.bus b) := by
  rw [step_probe_of_supports hlast.supports]
  refine ⟨_, _, handles_setHandle_self _ _ _, rfl, ?_⟩
  rw [bus_setHandle, bus_setBus_self]
  exact Device.broughtUp_run _

end LastProbe

theorem kept_or_lastProbe {rack : Rack n} {steps : List (Step n)} {h : Nat} {b : Fin n}
    {device : Device}
    (hhandle : (rack.run steps).1.handles h = some { bus := b, client := .device device }) :
    ((forall entry, entry ∈ rack.transcript steps -> entry.endsHandle h = false) ∧
      rack.handles h = some { bus := b, client := .device device }) ∨
    exists first since, rack.LastProbe steps h b first since := by
  -- Along the run, with the start of the rest of it in the place of the start: either the
  -- first step left the handle alone, or it was the probe that is looked for.
  induction steps generalizing rack with
  | nil =>
      refine .inl ⟨?_, hhandle⟩
      intro entry hentry
      cases hentry
  | cons s rest ih =>
      rcases ih hhandle with ⟨hkept, hnext⟩ | ⟨first, since, hlast⟩
      · cases hended : Entry.endsHandle h (s, (rack.step s).2) with
        | false =>
            refine .inl ⟨?_, (handles_step_of_not_ended hended).symm.trans hnext⟩
            intro entry hentry
            rw [transcript_cons] at hentry
            rcases List.mem_cons.mp hentry with rfl | hentry
            · exact hended
            · exact hkept entry hentry
        | true =>
            rcases eq_probe_of_ended hended hnext with ⟨rfl, hdone⟩
            exact .inr ⟨[], rest, rfl, hdone, hkept⟩
      · exact .inr ⟨s :: first, since, hlast.cons⟩

/-- Every device handle goes back to one probe, and for as long as the handle lasts it
tells what that probe read and the first error that it met, without a transaction. -/
theorem identity_snapshot_stable (buses : Vector Bus n) (steps : List (Step n)) (h : Nat) :
    let start := Rack.ofBuses buses
    let now := (start.run steps).1
    (forall b first since, start.LastProbe steps h b first since ->
      let before := (start.run first).1
      let next := before.step (.probe h b)
      exists device ts,
        next.2.transactions = ts.map (fun t => (b, t)) ∧
        device.BroughtUp (before.bus b) ts (next.1.bus b) ∧
        next.1.Recalls h device ∧
        now.Recalls h device ∧
        now.handles h = some { bus := b, client := .device device } ∧
        forall field : IdentityField,
          let shown := (now.step (.onDevice h (.readAttribute field.name))).2.answer
          (shown = .refused .identityUnavailable ↔
            exists fault, .readFailed field.register.address fault ∈ ts) ∧
          (forall value, .read field.register.address value ∈ ts ->
            shown = .value (field.shownAs (field.part value)))) ∧
    (forall b device, now.handles h = some { bus := b, client := .device device } ->
      exists first since, start.LastProbe steps h b first since) := by
  intro start now
  constructor
  · intro b first since hlast before next
    rcases hlast.broughtUp with ⟨device, ts, hhandle, hts, hup⟩
    have hnow := hlast.handles_run.trans hhandle
    have hrecalls := recalls_of_handle hnow
    refine ⟨device, ts, hts, hup, recalls_of_handle hhandle, hrecalls, hnow, ?_⟩
    intro field shown
    constructor
    · exact (hrecalls.shown_eq_unavailable_iff field).trans (hup.get?_eq_none_iff field)
    · intro value hread
      exact hrecalls.shown_eq_value (hup.get?_of_read_mem hread)
  · intro b device hhandle
    rcases kept_or_lastProbe hhandle with ⟨_, hstart⟩ | hlast
    · cases hstart
    · exact hlast

/-- The day could not be read at the probe of handle 7.  Since then the revision has
been overwritten and made unreadable, the day has become readable, another handle has
been brought up on the bus, and a probe onto the handle has been refused. -/
theorem identity_snapshot_stable_overwritten :
    let bus := ((Bus.idle .byteData).poke 0x01 0xA5).plantReadFault 0xF0 .timeout
    let buses := #v[bus, Bus.idle .wordAndRaw]
    let first : List (Step 2) := [.probe 1 0]
    let since : List (Step 2) :=
      [ .onBus 0 (.poke 0x01 0x00),
        .onBus 0 .clearFaults,
        .probe 1 0,
        .onBus 0 (.plantReadFault 0x01 .busy),
        .probe 7 1 ]
    let steps := first ++ .probe 7 0 :: since
    (Rack.ofBuses buses).LastProbe steps 7 0 first since ∧
      exists device,
        (((Rack.ofBuses buses).run steps).1.handles 7 =
          some { bus := 0, client := .device device }) ∧
        device.bringUpFault = some (.busFault .codeDay .read .timeout) ∧
        (((Rack.ofBuses buses).run steps).1.step (.onDevice 7 .bringUpFault)).2.answer =
          .bringUpFault device.bringUpFault ∧
        (((Rack.ofBuses buses).run steps).1.step
          (.onDevice 7 (.readAttribute "code_ver"))).2.answer =
            .value (.codeVersion 0x25) ∧
        (((Rack.ofBuses buses).run steps).1.step
          (.onDevice 7 (.readAttribute "code_day"))).2.answer =
            .refused .identityUnavailable := by
  intro bus buses first since steps
  have hlast : (Rack.ofBuses buses).LastProbe steps 7 0 first since :=
    .of_supports (by decide +kernel) (by decide +kernel)
  rcases (identity_snapshot_stable buses steps 7).1 0 first since hlast with
    ⟨device, ts, _, hup, _, hrecalls, hnow, hshown⟩
  have hts : .read 0x01 0xA5 ∈ ts ∧ .readFailed 0xF0 .timeout ∈ ts ∧
      ts = [.read 0x01 0xA5] ++ .readFailed 0xF0 .timeout :: ts.drop 2 := by
    rw [hup.transactions]
    decide +kernel
  rcases hts with ⟨hrevision, hday, hsplit⟩
  rcases hup.firstFault _ _ _ _ hsplit (by simp [Transaction.fault?]) rfl with
    ⟨r, haddress, hfault⟩
  have hr : r = .codeDay := Register.address_injective haddress
  refine ⟨hlast, device, hnow, ?_, ?_, ?_, ?_⟩
  · rw [hfault, hr]
    rfl
  · rw [hrecalls.bringUpFault]
    rfl
  · have hversion := (hshown .codeVersion).2 _ hrevision
    rw [show IdentityField.codeVersion.name = "code_ver" from rfl] at hversion
    exact hversion.trans (congrArg Answer.value (by decide))
  · have hunread := (hshown .codeDay).1.mpr ⟨_, hday⟩
    rw [show IdentityField.codeDay.name = "code_day" from rfl] at hunread
    exact hunread

end Rack
end CpldControl
