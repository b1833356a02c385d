import CpldControl.Proofs.LiteralGrammar
import CpldControl.Proofs.SignalRequests

/-!
# Storing a text and setting a number

A signal takes a level as a number, and as an attribute it takes the same level as a
text.  A text has to pass for a byte before it is looked at as a level, while a number
does not, but what is no byte is no level either.

The main statement is `store_agrees_with_number`: storing a decimal literal is the step
that drives the signal to the number it spells, and any other text is refused.
-/

namespace CpldControl

open Chip (Signal)
open Device (Error)
open Smbus (Bus)
open Text (Spells)

/-!
# Levels in texts
-/

namespace Device

theorem levelOfNumber_of_one_lt {number : Nat} (h : 1 < number) :
    levelOfNumber number = .error .invalidInput :=
  levelOfNumber_eq_error_iff.mpr ⟨h, rfl⟩

theorem levelOfText_of_spells {text : String} {number : Nat}
    (hspells : Spells .decimal text number) : levelOfText text = levelOfNumber number := by
  have hvalue := Text.ByteLiteral.value?_eq_some_iff.mpr hspells
  unfold levelOfText
  by_cases hrange : number < 256
  · have hbyte := byteOfText_eq_ok_iff.mpr (Text.ByteLiteral.parse?_of_value? hvalue hrange)
    simp only [hbyte, BitVec.toNat_ofNat]
    rw [Nat.mod_eq_of_lt hrange]
  · have hparse : Text.ByteLiteral.parse? .decimal text = none := by
      rw [Text.ByteLiteral.parse?_eq_none_iff]
      intro other hother
      rw [hvalue] at hother
      cases hother
      exact Nat.le_of_not_lt hrange
    rw [levelOfNumber_of_one_lt (by omega)]
    simp only [byteOfText, hparse]

theorem levelOfText_of_no_level {text : String}
    (hnone : forall number, Spells .decimal text number -> 1 < number) :
    levelOfText text = .error .invalidInput := by
  unfold levelOfText
  cases hbyte : byteOfText .decimal text with
  | ok number =>
      have hspells := Text.ByteLiteral.value?_eq_some_iff.mp
        (Text.ByteLiteral.parse?_eq_some_iff.mp (byteOfText_eq_ok_iff.mp hbyte))
      exact levelOfNumber_of_one_lt (hnone _ hspells)
  | error e => exact congrArg Except.error (eq_invalidInput_of_byteOfText hbyte)

theorem exists_levelOfText_eq_ok_iff {text : String} :
    (exists level, levelOfText text = .ok level) ↔
      Spells .decimal text 0 ∨ Spells .decimal text 1 := by
  constructor
  · rintro ⟨level, hlevel⟩
    by_contra hneither
    rw [levelOfText_of_no_level] at hlevel
    · cases hlevel
    · intro number hspells
      match number, hspells with
      | 0, hzero => exact absurd (.inl hzero) hneither
      | 1, hone => exact absurd (.inr hone) hneither
      | k + 2, _ => omega
  · rintro (hzero | hone)
    · exact ⟨false, levelOfText_of_spells hzero⟩
    · exact ⟨true, levelOfText_of_spells hone⟩

end Device

/-!
# Requests with a level to be checked
-/

namespace Request

variable {n : Nat} {s : Signal}

theorem driveChecked_error (s : Signal) :
    (driveChecked s (.error .invalidInput) : Request n) =
      .refuse (if s.isWritable then .invalidInput else .notWritable s.name) := by
  cases hwritable : s.isWritable with
  | true => exact driveChecked_of_writable hwritable _
  | false => exact driveChecked_of_not_writable hwritable _

theorem transactions_driveSignal_ne_nil (s : Signal) (level : Bool) (bus : Bus) :
    ((driveSignal s level : Request n).program.run bus).transactions ≠ [] := by
  rw [transactions_driveSignal]
  cases bus.readResult s.register.address with
  | ok value => exact List.cons_ne_nil _ _
  | error fault => exact List.cons_ne_nil _ _

theorem transactions_driveChecked_ne_nil_iff (hwritable : s.isWritable = true)
    (level : Except Error Bool) (bus : Bus) :
    ((driveChecked s level : Request n).program.run bus).transactions ≠ [] ↔
      exists l, level = .ok l := by
  rw [driveChecked_of_writable hwritable]
  cases level with
  | ok l =>
      have hne := transactions_driveSignal_ne_nil (n := n) s l bus
      exact iff_of_true hne ⟨l, rfl⟩
  | error e =>
      apply iff_of_false
      · exact fun hne => hne rfl
      · rintro ⟨l, hl⟩
        cases hl

end Request

namespace Rack

variable {n : Nat} {rack : Rack n} {h : Nat} {b : Fin n} {device : Device}

/-- Storing a decimal literal of less than 32 bits in a signal is the same step as
driving the signal to its number, whatever the state and the faults.  A text that spells
no such number is refused: for the signal if that is read only, and for the text
otherwise.  So a store gets as far as the bus exactly for zero and one. -/
theorem store_agrees_with_number
    (hhandle : rack.handles h = some { bus := b, client := .device device })
    {name : String} {s : Signal} (hname : Signal.find? name = some s) (text : String) :
    let stored := rack.step (.onDevice h (.storeAttribute name text))
    (forall number, Spells .decimal text number -> number < 2 ^ 32 ->
      stored = rack.step (.onDevice h (.driveSignalNumber name number))) ∧
    ((forall number, Spells .decimal text number -> 2 ^ 32 ≤ number) ->
      stored = (rack, .quiet
        (.refused (if s.isWritable then .invalidInput else .notWritable name)))) ∧
    (s.isWritable = true ->
      (stored.2.transactions ≠ [] ↔ Spells .decimal text 0 ∨ Spells .decimal text 1)) := by
  intro stored
  have hrequest : (DeviceAction.storeAttribute name text).request? (n := n) device =
      some (.driveChecked s (Device.levelOfText text)) :=
    DeviceAction.request?_storeAttribute hname text
  have hstored : stored = rack.onBus b _ := step_of_request? hhandle hrequest
  refine ⟨?_, ?_, ?_⟩
  · intro number hspells _
    rw [hstored, Device.levelOfText_of_spells hspells,
      step_of_request? hhandle (DeviceAction.request?_driveSignalNumber hname number)]
  · intro hnone
    have hlevel : Device.levelOfText text = .error .invalidInput := by
      apply Device.levelOfText_of_no_level
      intro number hspells
      have hlarge := hnone number hspells
      omega
    rw [hlevel, Request.driveChecked_error] at hrequest
    rw [Signal.name_of_find?_eq_some hname] at hrequest
    exact step_of_refusal hhandle hrequest
  · intro hwritable
    rw [← Device.exists_levelOfText_eq_ok_iff, hstored]
    rw [← Request.transactions_driveChecked_ne_nil_iff (n := n) hwritable _ (rack.bus b)]
    simp only [onBus, Report.ofOutcome, ne_eq, List.map_eq_nil_iff]

/-- A one with leading zeros reaches a bus that refuses the write; 2 to the power of 32 is
turned down before. -/
theorem store_agrees_with_number_leading_zeros :
    let device : Device := { identity := .ofRegisters none none none none, bringUpFault := none }
    let handle : Handle 1 := { bus := 0, client := .device device }
    let rack :=
      (Rack.ofBuses #v[(Bus.idle .byteData).plantWriteFault 0x72 .busy]).setHandle 0 (some handle)
    rack.handles 0 = some handle ∧
      Signal.find? "sfp_tx_en" = some .sfpTransmitEnable ∧
      Spells .decimal "+000001\n" 1 ∧
      rack.step (.onDevice 0 (.storeAttribute "sfp_tx_en" "+000001\n")) =
        rack.step (.onDevice 0 (.driveSignalNumber "sfp_tx_en" 1)) ∧
      (rack.step (.onDevice 0 (.storeAttribute "sfp_tx_en" "+000001\n"))).2.transactions ≠ [] ∧
      rack.step (.onDevice 0 (.storeAttribute "sfp_tx_en" "4294967296")) =
        (rack, .quiet (.refused .invalidInput)) := by
  intro device handle rack
  have hhandle : rack.handles 0 = some handle := handles_setHandle_self _ _ _
  have hname : Signal.find? "sfp_tx_en" = some .sfpTransmitEnable := by
    decide +kernel
  have hspells : Spells .decimal "+000001\n" 1 :=
    Text.ByteLiteral.value?_eq_some_iff.mp (by decide +kernel)
  have hlarge : forall number, Spells .decimal "4294967296" number -> 2 ^ 32 ≤ number := by
    intro number hnumber
    have hvalue : Spells .decimal "4294967296" (2 ^ 32) :=
      Text.ByteLiteral.value?_eq_some_iff.mp (by decide +kernel)
    exact (Text.ByteLiteral.spells_unique hvalue hnumber).le
  have hone := store_agrees_with_number hhandle hname "+000001\n"
  have hout := store_agrees_with_number hhandle hname "4294967296"
  exact ⟨hhandle, hname, hspells, hone.1 1 hspells (by decide), (hone.2.2 rfl).mpr (.inr hspells),
    hout.2.1 hlarge⟩

end Rack
end CpldControl
