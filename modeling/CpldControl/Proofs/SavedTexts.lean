import CpldControl.Proofs.BitStoreSession
import CpldControl.Proofs.Names
import CpldControl.Proofs.Needs

/-!
# Saving and restoring through texts

The texts shown for the writable attributes save what they hold.  Stored again,
in any order and each with or without a final newline, they bring it back, and
nothing else moves.

The main statement is `restore_saved_texts`.  What may happen between the saving
and the restoring is any session that leaves the handle in place.
-/

namespace CpldControl

open Chip (Register Signal)
open Device (Attribute Value)
open Smbus (Bus)

/-!
# Texts that are read back
-/

namespace Text
namespace ByteLiteral

def ending (newline : Bool) : String :=
  if newline then "\n" else ""

theorem dropFinalNewline_append {cs : List Char} (hlast : cs.getLast? ≠ some '\n')
    (newline : Bool) : dropFinalNewline (cs ++ (ending newline).toList) = cs := by
  cases newline with
  | true => simp [dropFinalNewline, ending]
  | false => simp [dropFinalNewline, ending, hlast]

theorem value?_append_ending {text : String} (hlast : text.toList.getLast? ≠ some '\n')
    (radix : Radix) (newline : Bool) :
    value? radix (text ++ ending newline) = value? radix text := by
  have hchars : dropFinalNewline (text ++ ending newline).toList =
      dropFinalNewline text.toList := by
    rw [String.toList_append, dropFinalNewline_append hlast, dropFinalNewline, if_neg hlast]
  simp only [value?, body, hchars]

theorem value?_hex2 (b : Byte) (newline : Bool) :
    value? .hexadecimal (hex2 b ++ ending newline) = some b.toNat := by
  have hlast : forall b : Byte, (hexPair b).getLast? ≠ some '\n' := by
    decide +kernel
  -- neither digit is a sign or the letter of a marker
  have hbody : forall b : Byte,
      dropMarker .hexadecimal (dropSign (dropFinalNewline (hexPair b))) = hexPair b := by
    decide +kernel
  rw [value?_append_ending]
  · simp only [value?, body, toList_hex2, hbody, numeral?_hexPair]
  · rw [toList_hex2]
    exact hlast b

theorem value?_level (level newline : Bool) :
    value? .decimal ((Value.level level).text ++ ending newline) = some level.toNat := by
  revert level newline
  decide

end ByteLiteral
end Text

/-!
# What a store shows, and what puts it back
-/

namespace BitStore

def text (store : BitStore) : Attribute -> String
  | .identity _ => ""
  | .scratch => (Value.hexByte store.scratch).text
  | .signal s => (Value.level (store.level s)).text

def putBack? (store : BitStore) : Attribute -> Option Command
  | .identity _ => none
  | .scratch => some (.fill store.scratch)
  | .signal s => some (.drive s (store.level s))

theorem value?_of_isWritable {a : Attribute} (hwritable : a.isWritable = true)
    (store : BitStore) (device : Device) :
    exists v, store.value? device a = some v ∧ v.text = store.text a := by
  cases a with
  | identity field => cases hwritable
  | scratch => exact ⟨_, rfl, rfl⟩
  | signal s => exact ⟨_, rfl, rfl⟩

theorem command?_storeAttribute (store : BitStore) (a : Attribute) (newline : Bool) :
    (DeviceAction.storeAttribute a.name
      (store.text a ++ Text.ByteLiteral.ending newline)).command? = store.putBack? a := by
  simp only [DeviceAction.command?, Attribute.find?_name]
  cases a with
  | identity field => rfl
  | scratch =>
      have hparse := Text.ByteLiteral.parse?_eq_some_iff.mpr
        (Text.ByteLiteral.value?_hex2 store.scratch newline)
      exact congrArg (Option.map Command.fill) hparse
  | signal s =>
      have hvalue := Text.ByteLiteral.value?_level (store.level s) newline
      simp only [text, hvalue, putBack?, Option.map_some]
      cases store.level s <;> rfl

theorem needs_storeAttribute (store : BitStore) {a : Attribute}
    (hwritable : a.isWritable = true) (newline : Bool) :
    exists r ds, (DeviceAction.storeAttribute a.name
      (store.text a ++ Text.ByteLiteral.ending newline)).Needs r ds := by
  cases a with
  | identity field => cases hwritable
  | scratch =>
      have hrange : store.scratch.toNat ≤ 255 := Nat.le_of_lt_succ store.scratch.isLt
      exact ⟨_, _, .storeScratch (Attribute.find?_name _)
        (Text.ByteLiteral.value?_hex2 _ newline) hrange⟩
  | signal s =>
      exact ⟨_, _, .storeSignal (Attribute.find?_name _) hwritable
        (Text.ByteLiteral.value?_level _ newline) (Bool.toNat_le _)⟩

theorem scratch?_of_putBack? {kept : BitStore} {a : Attribute} {c : Command}
    (hc : kept.putBack? a = some c) {value : Byte} (hvalue : c.scratch? = some value) :
    value = kept.scratch := by
  cases a with
  | identity field => cases hc
  | scratch =>
      cases hc
      cases hvalue
      rfl
  | signal s =>
      cases hc
      cases hvalue

theorem level?_of_putBack? {kept : BitStore} {a : Attribute} {c : Command}
    (hc : kept.putBack? a = some c) {s : Signal} {level : Bool}
    (hlevel : c.level? s = some level) : level = kept.level s := by
  cases a with
  | identity field => cases hc
  | scratch =>
      cases hc
      cases hlevel
  | signal t =>
      cases hc
      simp only [Command.level?, Option.ite_none_right_eq_some, Option.some.injEq] at hlevel
      rw [← hlevel.1, hlevel.2]

theorem text_after_putBack (kept store : BitStore) {attributes : List Attribute}
    {a : Attribute} (ha : a ∈ attributes) :
    (store.after (attributes.filterMap kept.putBack?)).text a = kept.text a := by
  have hputBack {c : Command} (hc : c ∈ attributes.filterMap kept.putBack?) :
      exists a, kept.putBack? a = some c := by
    rcases List.mem_filterMap.mp hc with ⟨a, _, hc⟩
    exact ⟨a, hc⟩
  cases a with
  | identity field => rfl
  | scratch =>
      have hmem : Command.fill kept.scratch ∈ attributes.filterMap kept.putBack? :=
        List.mem_filterMap.mpr ⟨_, ha, rfl⟩
      have hscratch : (store.after (attributes.filterMap kept.putBack?)).scratch =
          kept.scratch := by
        refine getLast?_filterMap_of_forall (f := Command.scratch?) hmem rfl ?_ _
        intro c hc value hvalue
        rcases hputBack hc with ⟨a, hc⟩
        exact scratch?_of_putBack? hc hvalue
      exact congrArg (fun b => (Value.hexByte b).text) hscratch
  | signal s =>
      have hmem : Command.drive s (kept.level s) ∈ attributes.filterMap kept.putBack? :=
        List.mem_filterMap.mpr ⟨_, ha, rfl⟩
      have hlevel : (store.after (attributes.filterMap kept.putBack?)).level s =
          kept.level s := by
        refine getLast?_filterMap_of_forall (f := Command.level? s) hmem (if_pos rfl) ?_ _
        intro c hc level hlevel
        rcases hputBack hc with ⟨a, hc⟩
        exact level?_of_putBack? hc hlevel
      exact congrArg (fun b => (Value.level b).text) hlevel

theorem not_touches_of_putBack? {kept : BitStore} {a : Attribute}
    (hwritable : a.isWritable = true) {c : Command} (hc : kept.putBack? a = some c)
    {address : Byte} {i : Fin 8}
    (hsignal : forall s : Signal, s.isWritable = true ->
      ¬ (s.register.address = address ∧ s.bit = i))
    (hscratch : address ≠ Register.scratch.address) : ¬ c.Touches address i := by
  cases a with
  | identity field => cases hc
  | scratch =>
      cases hc
      exact fun h => hscratch h.symm
  | signal s =>
      cases hc
      exact hsignal s hwritable

end BitStore

/-!
# Sessions
-/

def Smbus.Bus.NoFaults (bus : Bus) : Prop :=
  forall d address, bus.fault? d address = none

theorem Smbus.Bus.noFaults_clearFaults (bus : Bus) : bus.clearFaults.NoFaults := by
  intro d address
  cases d with
  | read => exact AddressMap.get_const none address
  | write => exact AddressMap.get_const none address

theorem DeviceAction.answer_store_of_isOk {n : Nat} (device : Device) (name text : String)
    (bus : Bus) :
    let answer : Answer n := (((storeAttribute name text).program device).run bus).value
    answer.isOk = true -> answer = .done := by
  intro answer hok
  have hanswer : answer = Answer.ofResult (fun _ => .done)
      ((Device.storeNamed name text).run.run bus).value := by
    simp only [answer, program, BusProgram.run_map]
  rw [hanswer] at hok ⊢
  cases hresult : ((Device.storeNamed name text).run.run bus).value with
  | ok value => rfl
  | error e =>
      rw [hresult] at hok
      cases hok

namespace Rack

variable {n : Nat}

def shownText? (rack : Rack n) (h : Nat) (a : Attribute) : Option String :=
  match (rack.step (.onDevice h (.readAttribute a.name))).2.answer with
  | .value v => some v.text
  | _ => none

def restoreStep (h : Nat) (texts : Attribute -> String) (entry : Attribute × Bool) : Step n :=
  .onDevice h (.storeAttribute entry.1.name
    (texts entry.1 ++ Text.ByteLiteral.ending entry.2))

section Handle

variable {rack : Rack n} {h : Nat} {b : Fin n} {device : Device}

theorem shownText?_of_noFaults
    (hhandle : rack.handles h = some { bus := b, client := .device device })
    (hfaults : (rack.bus b).NoFaults) {a : Attribute} (hwritable : a.isWritable = true) :
    rack.shownText? h a = some ((BitStore.ofRegisters (rack.bus b).registers).text a) := by
  have hneeds : exists r ds, (DeviceAction.readAttribute a.name).Needs r ds := by
    cases a with
    | identity field => cases hwritable
    | scratch => exact ⟨_, _, .showScratch (Attribute.find?_name _)⟩
    | signal s => exact ⟨_, _, .showSignal (Attribute.find?_name _)⟩
  rcases hneeds with ⟨r, ds, hneeds⟩
  have hok := (isOk_iff (.onDevice hhandle hneeds)).mpr fun d _ => hfaults d _
  have hanswer := answer_step_of_observation hhandle rfl hok
  rcases BitStore.value?_of_isWritable hwritable
    (BitStore.ofRegisters (rack.bus b).registers) device with ⟨v, hv, htext⟩
  rw [BitStore.answer?, Attribute.find?_name, Option.bind_some, hv] at hanswer
  unfold shownText?
  rw [← Option.some.inj hanswer, ← htext]

theorem step_restore_of_noFaults
    (hhandle : rack.handles h = some { bus := b, client := .device device })
    (hfaults : (rack.bus b).NoFaults) (kept : BitStore) {entry : Attribute × Bool}
    (hwritable : entry.1.isWritable = true) :
    let s : Step n := restoreStep h kept.text entry
    (rack.step s).2.answer = .done ∧
      Entry.settled? (s, (rack.step s).2) = kept.putBack? entry.1 ∧
      ((rack.step s).1.bus b).NoFaults := by
  intro s
  rcases kept.needs_storeAttribute hwritable entry.2 with ⟨r, ds, hneeds⟩
  have hok : (rack.step s).2.answer.isOk = true :=
    (isOk_iff (.onDevice hhandle hneeds)).mpr fun d _ => hfaults d _
  refine ⟨?_, ?_, ?_⟩
  · simp only [s, restoreStep, step_onDevice hhandle] at hok ⊢
    exact DeviceAction.answer_store_of_isOk _ _ _ _ hok
  · unfold Entry.settled?
    simp only [hok, if_true]
    exact kept.command?_storeAttribute entry.1 entry.2
  · intro d address
    simp only [s, restoreStep, step_onDevice hhandle, bus_onBus_self]
    rw [BusProgram.fault?_run]
    exact hfaults d address

theorem controls_restore
    (hhandle : rack.handles h = some { bus := b, client := .device device })
    (texts : Attribute -> String) (restore : List (Attribute × Bool)) :
    forall s, s ∈ restore.map (restoreStep h texts) -> rack.Controls b s := by
  intro s hs
  rcases List.mem_map.mp hs with ⟨entry, _, rfl⟩
  exact .onDevice hhandle _

theorem run_restore_of_noFaults
    (hhandle : rack.handles h = some { bus := b, client := .device device })
    (hfaults : (rack.bus b).NoFaults) (kept : BitStore) {restore : List (Attribute × Bool)}
    (hwritable : forall entry, entry ∈ restore -> entry.1.isWritable = true) :
    let steps := restore.map (restoreStep h kept.text)
    (forall report, report ∈ (rack.run steps).2 -> report.answer = .done) ∧
      (rack.transcript steps).filterMap Entry.settled? =
        (restore.map Prod.fst).filterMap kept.putBack? ∧
      ((rack.run steps).1.bus b).NoFaults := by
  induction restore generalizing rack with
  | nil =>
      refine ⟨?_, rfl, hfaults⟩
      intro report hreport
      cases hreport
  | cons entry rest ih =>
      rcases step_restore_of_noFaults hhandle hfaults kept (hwritable _ List.mem_cons_self)
        with ⟨hdone, hsettled, hnext⟩
      have hkept : (rack.step (restoreStep h kept.text entry)).1.handles = rack.handles :=
        (Controls.onDevice hhandle _).handles_step
      have hrest := ih ((congrFun hkept h).trans hhandle) hnext
        fun e he => hwritable e (List.mem_cons_of_mem entry he)
      rcases hrest with ⟨hreports, hcommands, hend⟩
      refine ⟨?_, ?_, hend⟩
      · intro report hreport
        rcases List.mem_cons.mp hreport with rfl | hreport
        · exact hdone
        · exact hreports report hreport
      · simp only [List.map_cons, transcript_cons, List.filterMap_cons, hsettled, hcommands]

theorem restore_of_noFaults
    (hhandle : rack.handles h = some { bus := b, client := .device device })
    (hfaults : (rack.bus b).NoFaults) (kept : BitStore) {restore : List (Attribute × Bool)}
    (hwritable : forall entry, entry ∈ restore -> entry.1.isWritable = true) :
    let session := rack.run (restore.map (restoreStep h kept.text))
    (forall a, a ∈ restore.map Prod.fst -> session.1.shownText? h a = some (kept.text a)) ∧
      (forall address i,
        (forall s : Signal, s.isWritable = true ->
          ¬ (s.register.address = address ∧ s.bit = i)) ->
        address ≠ Register.scratch.address ->
        ((session.1.bus b).registers.get address).bit i =
          ((rack.bus b).registers.get address).bit i) := by
  intro session
  have hcontrols := controls_restore hhandle kept.text restore
  rcases run_restore_of_noFaults hhandle hfaults kept hwritable with ⟨_, hcommands, hend⟩
  have hregisters := registers_run hcontrols
  rw [hcommands] at hregisters
  have hmem {a : Attribute} (ha : a ∈ restore.map Prod.fst) : a.isWritable = true := by
    rcases List.mem_map.mp ha with ⟨entry, hentry, rfl⟩
    exact hwritable entry hentry
  constructor
  · intro a ha
    have hafter : session.1.handles h = some { bus := b, client := .device device } := by
      rw [handles_run_of_controls hcontrols]
      exact hhandle
    rw [shownText?_of_noFaults hafter hend (hmem ha), hregisters,
      BitStore.ofRegisters_foldl, BitStore.text_after_putBack kept _ ha]
  · intro address i hsignal hscratch
    rw [hregisters]
    apply BitStore.bit_foldl_of_not_touches
    intro c hc
    rcases List.mem_filterMap.mp hc with ⟨a, ha, hputBack⟩
    exact BitStore.not_touches_of_putBack? (hmem ha) hputBack hsignal hscratch

/-- The texts that a device on a bus without faults shows for its writable
attributes can be stored again after any session that leaves the handle in place:
every store is done, the same texts are shown, and all other bits stay. -/
theorem restore_saved_texts
    (hhandle : rack.handles h = some { bus := b, client := .device device })
    (hfaults : (rack.bus b).NoFaults) :
    exists saved : Attribute -> String,
      (forall a, a.isWritable = true -> rack.shownText? h a = some (saved a)) ∧
      forall steps : List (Step n),
        (forall entry, entry ∈ rack.transcript steps -> entry.endsHandle h = false) ->
        forall restore : List (Attribute × Bool),
          (restore.map Prod.fst).Perm (Attribute.catalog.filter Attribute.isWritable) ->
          let before := ((rack.run steps).1.step (.onBus b .clearFaults)).1
          let session := before.run (restore.map (restoreStep h saved))
          (forall report, report ∈ session.2 -> report.answer = .done) ∧
          (forall a, a.isWritable = true -> session.1.shownText? h a = some (saved a)) ∧
          (forall address i,
            (forall s : Signal, s.isWritable = true ->
              ¬ (s.register.address = address ∧ s.bit = i)) ->
            address ≠ Register.scratch.address ->
            ((session.1.bus b).registers.get address).bit i =
              ((before.bus b).registers.get address).bit i) ∧
          (forall c, c ≠ b -> session.1.bus c = before.bus c) := by
  let kept := BitStore.ofRegisters (rack.bus b).registers
  refine ⟨kept.text, fun a => shownText?_of_noFaults hhandle hfaults, ?_⟩
  intro steps hsteps restore hrestore before session
  have hbefore : before.handles h = some { bus := b, client := .device device } :=
    (handles_run_of_not_ended hsteps).trans hhandle
  have hclear : (before.bus b).NoFaults := by
    show (((rack.run steps).1.onBus b _).1.bus b).NoFaults
    rw [bus_onBus_self]
    exact Bus.noFaults_clearFaults _
  have hmem {a : Attribute} : a ∈ restore.map Prod.fst ↔ a.isWritable = true := by
    rw [hrestore.mem_iff, List.mem_filter]
    exact and_iff_right (Attribute.mem_catalog a)
  have hwritable : forall entry, entry ∈ restore -> entry.1.isWritable = true := by
    intro entry hentry
    exact hmem.mp (List.mem_map_of_mem hentry)
  rcases restore_of_noFaults hbefore hclear kept hwritable with ⟨hshown, hbits⟩
  refine ⟨?_, ?_, hbits, ?_⟩
  · exact (run_restore_of_noFaults hbefore hclear kept hwritable).1
  · intro a ha
    exact hshown a (hmem.mpr ha)
  · intro c hc
    exact bus_run_of_controls (controls_restore hbefore kept.text restore) hc

end Handle

/-- Between saving and restoring, the scratch byte is poked, its writes are made to
fail, and a second device comes up on the bus. -/
theorem restore_saved_texts_scratch :
    let device : Device := { identity := .ofRegisters none none none none, bringUpFault := none }
    let handle : Handle 1 := { bus := 0, client := .device device }
    let rack := (Rack.ofBuses #v[(Bus.idle .byteData).poke 0x0F 0x3C]).setHandle 0 (some handle)
    let steps : List (Step 1) :=
      [ .onBus 0 (.poke 0x0F 0xFF),
        .onBus 0 (.plantWriteFault 0x0F .busy),
        .probe 1 0,
        .onDevice 0 (.storeAttribute "sfp_tx_en" "1") ]
    let restore := (Attribute.catalog.filter Attribute.isWritable).reverse.map fun a => (a, true)
    let before := ((rack.run steps).1.step (.onBus 0 .clearFaults)).1
    rack.handles 0 = some handle ∧
      (rack.bus 0).NoFaults ∧
      (forall entry, entry ∈ rack.transcript steps -> entry.endsHandle 0 = false) ∧
      exists saved : Attribute -> String,
        saved .scratch = "3c" ∧
        (before.run (restore.map (restoreStep 0 saved))).1.shownText? 0 .scratch = some "3c" := by
  intro device handle rack steps restore before
  have hhandle : rack.handles 0 = some handle := handles_setHandle_self _ _ _
  have hfaults : (rack.bus 0).NoFaults := by
    intro d address
    cases d with
    | read => exact AddressMap.get_const none address
    | write => exact AddressMap.get_const none address
  have hsteps : forall entry, entry ∈ rack.transcript steps -> entry.endsHandle 0 = false := by
    decide +kernel
  have hrestore : (restore.map Prod.fst).Perm
      (Attribute.catalog.filter Attribute.isWritable) := by
    simp only [restore, List.map_map, Function.comp_def, List.map_id']
    exact List.reverse_perm _
  have htext : rack.shownText? 0 .scratch = some "3c" := by
    decide +kernel
  refine ⟨hhandle, hfaults, hsteps, ?_⟩
  rcases restore_saved_texts hhandle hfaults with ⟨saved, hsaved, hrestored⟩
  have hscratch : saved .scratch = "3c" := by
    have hshown := hsaved .scratch rfl
    rw [htext] at hshown
    exact (Option.some.inj hshown).symm
  refine ⟨saved, hscratch, ?_⟩
  rw [← hscratch]
  exact (hrestored steps hsteps restore hrestore).2.1 .scratch rfl

end Rack
end CpldControl
