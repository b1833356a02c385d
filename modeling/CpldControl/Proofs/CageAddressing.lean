import Mathlib.Data.List.FinRange
import CpldControl.Proofs.Changes
import CpldControl.Proofs.StoredNumbers

/-!
# Ways to address the line of a cage

The line of a cage is reached by the number of the cage, by the name of the signal, by
the name of the attribute, and by its position in the table of signals.  Each way has
an arithmetic of its own: the name spells the number, the position counts from where the
signals of the line begin, and the register and the bit divide the cages into banks.

The main statement is `cage_addressing_agrees`: for the numbers of cages all ways lead to
one bit of one register, and for other numbers none of them leads anywhere.
-/

namespace CpldControl

open Chip (Cage CageLine Register Signal)
open Device (Attribute)
open Smbus (Bus)

namespace Chip

/-!
# Places by number
-/

/-- The register of a line for the cage of a number: of the pair of registers, the low one
serves the cages up to number 24. -/
def CageLine.registerAt (line : CageLine) (number : Nat) : Register :=
  .cageLines line (if number ≤ 24 then .low else .high)

/-- The bit for the cage of a number, the lowest number of a bank having the highest. -/
def Cage.bitAt (number : Nat) : Fin 8 :=
  ⟨7 - (number - 17) % 8, by omega⟩

theorem Signal.register_cageLine (line : CageLine) (cage : Cage) :
    (cageLine line cage).register = line.registerAt cage.number := by
  have hbank : cage.bank = if cage.number ≤ 24 then .low else .high := by
    unfold Cage.bank Cage.number Cage.firstNumber Cage.perBank
    split
    next hlow => rw [if_pos (by omega)]
    next hhigh => rw [if_neg (by omega)]
  rw [CageLine.registerAt, ← hbank]
  rfl

theorem Signal.bit_cageLine (line : CageLine) (cage : Cage) :
    (cageLine line cage).bit = Cage.bitAt cage.number := by
  apply Fin.ext
  show 7 - cage.index.val % 8 = 7 - (17 + cage.index.val - 17) % 8
  rw [Nat.add_sub_cancel_left]

theorem Cage.exists_number_eq {number : Nat} (hrange : 17 ≤ number ∧ number ≤ 32) :
    exists cage : Cage, cage.number = number := by
  cases hcage : ofNumber? number with
  | some cage => exact ⟨cage, ofNumber?_eq_some_iff.mp hcage⟩
  | none =>
      have hout := ofNumber?_eq_none_iff.mp hcage
      simp only [firstNumber, lastNumber] at hout
      omega

theorem Cage.number_range (cage : Cage) : 17 ≤ cage.number ∧ cage.number ≤ 32 := by
  have hindex := cage.index.isLt
  simp only [number, firstNumber]
  omega

end Chip

/-!
# What driving one signal moves
-/

namespace Request

variable {n : Nat}

theorem eq_of_bit_run_driveChecked_ne {s : Signal} {level : Bool} {bus : Bus} {address : Byte}
    {i : Fin 8}
    (hne : (((driveChecked s (.ok level) : Request n).program.run bus).bus.registers.get
      address).bit i ≠ (bus.registers.get address).bit i) :
    address = s.register.address ∧ i = s.bit := by
  have hchanges : (driveChecked s (.ok level) : Request n).Changes s.places :=
    changes_driveWritable s level
  rw [hchanges.bit_run] at hne
  by_contra houtside
  apply hne
  apply hchanges.bitAfter_of_outside
  intro r haddress hmem
  unfold Signal.places at hmem
  split at hmem
  next =>
    cases List.mem_singleton.mp hmem
    exact houtside ⟨haddress.symm, rfl⟩
  next => cases hmem

end Request

/-!
# One line at a number
-/

namespace Rack

variable {n : Nat}

/-- All ways to address a line at a number lead to the same signal, to the same steps, and
to one bit of one register.  Whole steps agree, so with the answers also the transactions,
the events and the racks that are left. -/
structure OneLine (rack : Rack n) (h : Nat) (b : Fin n) (line : CageLine) (number : Nat) :
    Prop where
  entry : exists s,
    Signal.all[line.tableBase + (number - 17)]? = some s ∧
      Signal.find? (line.nameAt number) = some s ∧
      Attribute.find? (line.nameAt number) = some (.signal s)
  read :
    let byNumber := rack.step (.onDevice h (.readCageLine number line))
    rack.step (.onDevice h (.readSignal (line.nameAt number))) = byNumber ∧
      rack.step (.onDevice h (.readAttribute (line.nameAt number))) =
        (byNumber.1, { byNumber.2 with answer := byNumber.2.answer.shown })
  driven : forall level,
    let byNumber := rack.step (.onDevice h (.driveCageLine number line level))
    rack.step (.onDevice h (.driveSignal (line.nameAt number) level)) = byNumber ∧
      rack.step (.onDevice h (.driveSignalNumber (line.nameAt number) level.toNat)) = byNumber ∧
      rack.step (.onDevice h (.storeAttribute (line.nameAt number) (if level then "1" else "0"))) =
        byNumber
  reads :
    let address := (line.registerAt number).address
    let report := (rack.step (.onDevice h (.readCageLine number line))).2
    report.transactions = [(b, .ofRead address ((rack.bus b).readResult address))] ∧
      report.answer =
        match (rack.bus b).readResult address with
        | .ok value => .level (value.bit (Cage.bitAt number))
        | .error fault => .refused (.busFault (line.registerAt number) .read fault)
  drives : line.access.isWritable = true -> forall level,
    let address := (line.registerAt number).address
    (rack.step (.onDevice h (.driveCageLine number line level))).2.transactions =
      match (rack.bus b).readResult address with
      | .error fault => [(b, .readFailed address fault)]
      | .ok value =>
          [ (b, .read address value),
            (b, .ofWrite address (value.withBit (Cage.bitAt number) level)
              ((rack.bus b).writeResult address)) ]
  refuses : line.access.isWritable = false -> forall level,
    rack.step (.onDevice h (.driveCageLine number line level)) =
      (rack, .quiet (.refused (.notWritable (line.nameAt number))))
  moves : forall level address i,
    (((rack.step (.onDevice h (.driveCageLine number line level))).1.bus b).registers.get
      address).bit i ≠ ((rack.bus b).registers.get address).bit i ->
    address = (line.registerAt number).address ∧ i = Cage.bitAt number

/-- What is addressed at a number that no cage has. -/
structure NoLine (rack : Rack n) (h : Nat) (line : CageLine) (number : Nat) : Prop where
  read : rack.step (.onDevice h (.readCageLine number line)) =
    (rack, .quiet (.refused .invalidInput))
  driven : forall level, rack.step (.onDevice h (.driveCageLine number line level)) =
    (rack, .quiet (.refused .invalidInput))
  noSignal : Signal.find? (line.nameAt number) = none
  noAttribute : Attribute.find? (line.nameAt number) = none

section Handle

variable {rack : Rack n} {h : Nat} {b : Fin n} {device : Device}

theorem oneLine_of_cage (hhandle : rack.handles h = some { bus := b, client := .device device })
    (line : CageLine) (cage : Cage) : rack.OneLine h b line cage.number := by
  have hcage : Cage.ofNumber? cage.number = some cage := Cage.ofNumber?_number cage
  have hname : Signal.find? (line.nameAt cage.number) = some (.cageLine line cage) :=
    Signal.find?_name (.cageLine line cage)
  have hread : rack.step (.onDevice h (.readCageLine cage.number line)) =
      rack.step (.onDevice h (.readSignal (line.nameAt cage.number))) :=
    step_readCageLine hhandle hcage line
  have hdrive (level : Bool) :
      rack.step (.onDevice h (.driveCageLine cage.number line level)) =
        rack.step (.onDevice h (.driveSignal (line.nameAt cage.number) level)) :=
    step_driveCageLine hhandle hcage line level
  have hregister := Signal.register_cageLine line cage
  have hbit := Signal.bit_cageLine line cage
  have hflag := Signal.isWritable_cageLine line cage
  constructor
  case entry =>
    have hindex : cage.number - 17 = cage.index.val := Nat.add_sub_cancel_left 17 _
    rw [hindex]
    exact ⟨_, Signal.getElem?_all line cage, hname, Signal.attribute_find?_of_find? hname⟩
  case read =>
    rw [hread]
    exact ⟨rfl, step_readAttribute_shown hhandle hname⟩
  case driven =>
    intro level
    rw [hdrive]
    exact ⟨rfl, step_drive_number_or_text hhandle hname level⟩
  case reads =>
    rw [hread, ← hregister, ← hbit]
    exact step_readSignal_report hhandle hname
  case drives =>
    intro hwritable level
    rw [← hflag] at hwritable
    rw [hdrive, ← hregister, ← hbit]
    exact step_driveSignal_of_writable hhandle hname hwritable level
  case refuses =>
    intro hwritable level
    rw [← hflag] at hwritable
    rw [hdrive]
    exact step_driveSignal_of_not_writable hhandle hname hwritable level
  case moves =>
    intro level address i hne
    rw [step_of_request? hhandle (DeviceAction.request?_driveCageLine hcage line level),
      bus_onBus_self] at hne
    rw [← hregister, ← hbit]
    exact Request.eq_of_bit_run_driveChecked_ne hne

theorem noLine_of_not_cage
    (hhandle : rack.handles h = some { bus := b, client := .device device })
    (line : CageLine) {number : Nat} (hnone : forall cage : Cage, cage.number ≠ number) :
    rack.NoLine h line number := by
  have hcage : Cage.ofNumber? number = none := by
    rw [Option.eq_none_iff_forall_ne_some]
    intro cage hsome
    exact hnone cage (Cage.ofNumber?_eq_some_iff.mp hsome)
  have hattribute : Attribute.find? (line.nameAt number) = none := by
    rw [Option.eq_none_iff_forall_ne_some]
    intro a hsome
    rcases Attribute.exists_cage_of_name_eq (Attribute.find?_eq_some_iff.mp hsome)
      with ⟨cage, hnumber, -⟩
    exact hnone cage hnumber
  constructor
  case read => exact step_of_refusal hhandle (DeviceAction.request?_readCageLine_of_none hcage line)
  case driven =>
    intro level
    exact step_of_refusal hhandle (DeviceAction.request?_driveCageLine_of_none hcage line level)
  case noSignal =>
    rw [Option.eq_none_iff_forall_ne_some]
    intro s hsome
    rw [Signal.attribute_find?_of_find? hsome] at hattribute
    cases hattribute
  case noAttribute => exact hattribute

/-- In every state and whatever the faults, a line at the number of a cage is the same
line by number, by name, as an attribute and by position; a line at any other number is
none. -/
theorem cage_addressing_agrees
    (hhandle : rack.handles h = some { bus := b, client := .device device })
    (line : CageLine) (number : Nat) :
    (17 ≤ number ∧ number ≤ 32 -> rack.OneLine h b line number) ∧
    (number < 17 ∨ 32 < number -> rack.NoLine h line number) := by
  constructor
  · intro hrange
    rcases Cage.exists_number_eq hrange with ⟨cage, rfl⟩
    exact oneLine_of_cage hhandle line cage
  · intro hrange
    apply noLine_of_not_cage hhandle
    intro cage hnumber
    have hcage := cage.number_range
    omega

/-- The reset of cage 25, the first of the high bank, next to the number after the last. -/
theorem cage_addressing_agrees_high_bank :
    let device : Device := { identity := .ofRegisters none none none none, bringUpFault := none }
    let handle : Handle 1 := { bus := 0, client := .device device }
    let rack := (Rack.ofBuses #v[(Bus.idle .byteData).poke 0x12 0x0F]).setHandle 0 (some handle)
    rack.handles 0 = some handle ∧
      CageLine.reset.nameAt 25 = "qsfp25_rst" ∧
      (rack.step (.onDevice 0 (.storeAttribute "qsfp25_rst" "1"))).2.transactions =
        [(0, .read 0x12 0x0F), (0, .write 0x12 0x8F)] ∧
      rack.OneLine 0 0 .reset 25 ∧ rack.NoLine 0 .reset 33 := by
  intro device handle rack
  have hhandle : rack.handles 0 = some handle := handles_setHandle_self _ _ _
  have hstore : (rack.step (.onDevice 0 (.storeAttribute "qsfp25_rst" "1"))).2.transactions =
      [(0, .read 0x12 0x0F), (0, .write 0x12 0x8F)] := by
    decide +kernel
  have hcage := (cage_addressing_agrees hhandle .reset 25).1 (by decide)
  have hpast := (cage_addressing_agrees hhandle .reset 33).2 (by decide)
  exact ⟨hhandle, by decide +kernel, hstore, hcage, hpast⟩

end Handle
end Rack
end CpldControl
