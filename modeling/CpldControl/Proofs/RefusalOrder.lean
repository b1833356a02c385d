import CpldControl.Proofs.CageAddressing
import CpldControl.Proofs.RequestErrors

/-!
# The order of refusals

An input goes through checks in a fixed order, and the first that it fails decides what
is answered.  A refused step does nothing else; one that passes all checks goes to the
bus.

The main statement is `refusals_in_order`.  It lists the checks of every step that
changes a signal or an attribute.  `Request.GuardedBy` says the same of requests, where
`guardedBy_cons` puts one check in front of others.
-/

namespace CpldControl

open Chip (Cage CageLine Signal)
open Device (Attribute Error)
open Smbus (Bus)
open Text (Spells)

inductive FirstUnmet : List (Prop × Error) -> Error -> Prop where
  | here {p : Prop} {e : Error} {rest : List (Prop × Error)} (hp : ¬ p) :
      FirstUnmet ((p, e) :: rest) e
  | later {p : Prop} {e e' : Error} {rest : List (Prop × Error)} (hp : p)
      (hrest : FirstUnmet rest e') : FirstUnmet ((p, e) :: rest) e'

def Device.Attribute.Takes (text : String) : Attribute -> Prop
  | identity _ => False
  | scratch => exists value, Spells .hexadecimal text value ∧ value ≤ 255
  | signal _ => Spells .decimal text 0 ∨ Spells .decimal text 1

theorem Device.exists_byteOfText_eq_ok_iff {radix : Text.Radix} {text : String} :
    (exists b, byteOfText radix text = .ok b) ↔
      exists value, Spells radix text value ∧ value ≤ 255 := by
  simp only [byteOfText_eq_ok_iff, ← Text.ByteLiteral.value?_eq_some_iff]
  constructor
  · rintro ⟨b, hb⟩
    exact ⟨_, Text.ByteLiteral.parse?_eq_some_iff.mp hb, Nat.le_of_lt_succ b.isLt⟩
  · rintro ⟨value, hvalue, hrange⟩
    exact ⟨_, Text.ByteLiteral.parse?_of_value? hvalue (Nat.lt_succ_of_le hrange)⟩

theorem Device.eq_invalidInput_of_levelOfText {text : String} {e : Error}
    (h : levelOfText text = .error e) : e = .invalidInput := by
  unfold levelOfText at h
  cases hbyte : byteOfText .decimal text with
  | ok number =>
      rw [hbyte] at h
      exact (levelOfNumber_eq_error_iff.mp h).2
  | error e' =>
      rw [hbyte] at h
      cases h
      exact eq_invalidInput_of_byteOfText hbyte

/-!
# Requests behind checks

A request behind a list of checks is refused by the first that is not met, and goes to a
register if all are.
-/

namespace Request

variable {n : Nat}

/-- The request is refused with the error of the first condition that is not met, and goes
to a register if all are. -/
structure GuardedBy (q : Request n) (checks : List (Prop × Error)) : Prop where
  refuse_iff : forall e, q = .refuse e ↔ FirstUnmet checks e
  uses?_iff : q.uses? ≠ none ↔ forall check, check ∈ checks -> check.1

theorem guardedBy_nil {q : Request n} (huses : q.uses? ≠ none) : q.GuardedBy [] := by
  constructor
  case refuse_iff =>
    intro e
    constructor
    · rintro rfl
      exact absurd rfl huses
    · intro h
      cases h
  case uses?_iff => simp [huses]

theorem guardedBy_cons {q : Request n} {p : Prop} {e : Error} {checks : List (Prop × Error)}
    (hmet : p -> q.GuardedBy checks) (hunmet : ¬ p -> q = .refuse e) :
    q.GuardedBy ((p, e) :: checks) := by
  by_cases hp : p
  · have hrest := hmet hp
    constructor
    case refuse_iff =>
      intro e'
      rw [hrest.refuse_iff]
      constructor
      · exact .later hp
      · intro h
        cases h with
        | here hnot => exact absurd hp hnot
        | later _ hlater => exact hlater
    case uses?_iff => simp [hrest.uses?_iff, hp]
  · have hrefused := hunmet hp
    constructor
    case refuse_iff =>
      intro e'
      rw [hrefused, refuse.injEq]
      constructor
      · rintro rfl
        exact .here hp
      · intro h
        cases h with
        | here _ => rfl
        | later hnot _ => exact absurd hnot hp
    case uses?_iff => simp [hrefused, uses?, hp]

theorem guardedBy_checked {α : Type} {input : Except Error α} {next : α -> Request n} {e : Error}
    {checks : List (Prop × Error)} (herror : forall e', input = .error e' -> e' = e)
    (hnext : forall a, input = .ok a -> (next a).GuardedBy checks) :
    (checked input next).GuardedBy ((exists a, input = .ok a, e) :: checks) := by
  apply guardedBy_cons
  · rintro ⟨a, ha⟩
    rw [ha]
    exact hnext a ha
  · intro hnone
    cases hinput : input with
    | ok a => exact absurd ⟨a, hinput⟩ hnone
    | error e' =>
        rw [herror e' hinput]
        rfl

theorem guardedBy_driveSignal (s : Signal) (level : Bool) :
    (driveSignal s level : Request n).GuardedBy [] :=
  guardedBy_nil (Option.some_ne_none _)

theorem guardedBy_driveChecked {s : Signal} {level : Except Error Bool}
    {checks : List (Prop × Error)}
    (hchecked : (checked level (driveSignal s) : Request n).GuardedBy checks) :
    (driveChecked s level : Request n).GuardedBy
      ((s.isWritable = true, .notWritable s.name) :: checks) := by
  apply guardedBy_cons
  · intro hwritable
    rw [driveChecked_of_writable hwritable]
    exact hchecked
  · intro hwritable
    exact driveChecked_of_not_writable (Bool.eq_false_iff.mpr hwritable) level

theorem transactions_eq_nil_iff (q : Request n) (bus : Bus) :
    (q.program.run bus).transactions = [] ↔ q.uses? = none := by
  cases q with
  | reply answer => exact iff_of_true rfl rfl
  | refuse e => exact iff_of_true rfl rfl
  | read r view =>
      rw [transactions_read]
      exact iff_of_false (List.cons_ne_nil _ _) (Option.some_ne_none _)
  | write r value =>
      rw [transactions_write]
      exact iff_of_false (List.cons_ne_nil _ _) (Option.some_ne_none _)
  | update r f view =>
      rw [transactions_update]
      refine iff_of_false ?_ (Option.some_ne_none _)
      cases bus.readFaults.get r.address with
      | none => exact List.cons_ne_nil _ _
      | some fault => exact List.cons_ne_nil _ _

theorem value_run_eq_refused_iff {q : Request n} (hq : q.WellFormed) {e : Error}
    (hcause : e.cause? = none) (bus : Bus) :
    (q.program.run bus).value = .refused e ↔ q = .refuse e := by
  constructor
  · intro hvalue
    have herror : (q.program.run bus).value.error? = some e := by
      rw [hvalue]
      rfl
    have hexplains := (error_exact hq herror).2
    have hnone : (q.program.run bus).transactions = [] := by
      generalize (q.program.run bus).transactions = ts at hexplains ⊢
      cases hexplains with
      | refusal _ => rfl
      | fault _ _ _ _ _ => cases hcause
    have huses := (q.transactions_eq_nil_iff bus).mp hnone
    cases q with
    | reply answer =>
        change answer = .refused e at hvalue
        rw [hvalue] at hq
        cases hq
    | refuse e' =>
        cases hvalue
        rfl
    | _ => cases huses
  · rintro rfl
    rfl

/-!
# The requests of the steps
-/

theorem guardedBy_storeScratch (text : String) :
    (storeAttribute text .scratch : Request n).GuardedBy
      [(Attribute.scratch.Takes text, .invalidInput)] := by
  rw [Attribute.Takes, ← Device.exists_byteOfText_eq_ok_iff]
  apply guardedBy_checked
  · exact fun e => Device.eq_invalidInput_of_byteOfText
  · exact fun b _ => guardedBy_nil (Option.some_ne_none _)

theorem guardedBy_levelOfText (s : Signal) (text : String) :
    (checked (Device.levelOfText text) (driveSignal s) : Request n).GuardedBy
      [((Attribute.signal s).Takes text, .invalidInput)] := by
  rw [Attribute.Takes, ← Device.exists_levelOfText_eq_ok_iff]
  apply guardedBy_checked
  · exact fun e => Device.eq_invalidInput_of_levelOfText
  · exact fun level _ => guardedBy_driveSignal s level

theorem guardedBy_levelOfNumber (s : Signal) (number : Nat) :
    (checked (Device.levelOfNumber number) (driveSignal s) : Request n).GuardedBy
      [(number ≤ 1, .invalidInput)] := by
  have hrange : number ≤ 1 ↔ exists level, Device.levelOfNumber number = .ok level := by
    simp [Device.levelOfNumber_eq_ok_iff]
  rw [hrange]
  apply guardedBy_checked
  · exact fun e he => (Device.levelOfNumber_eq_error_iff.mp he).2
  · exact fun level _ => guardedBy_driveSignal s level

theorem guardedBy_storeAttribute (a : Attribute) (text : String) :
    (storeAttribute text a : Request n).GuardedBy
      [(a.isWritable = true, .notWritable a.name), (a.Takes text, .invalidInput)] := by
  cases a with
  | identity field =>
      apply guardedBy_cons
      · intro hwritable
        cases hwritable
      · exact fun _ => rfl
  | scratch =>
      apply guardedBy_cons
      · exact fun _ => guardedBy_storeScratch text
      · exact fun hwritable => absurd rfl hwritable
  | signal s =>
      rw [storeAttribute_signal]
      exact guardedBy_driveChecked (guardedBy_levelOfText s text)

end Request

namespace DeviceAction

variable {n : Nat} {device : Device}

def storeChecks (name text : String) : List (Prop × Error) :=
  [ (exists a, Attribute.find? name = some a, .noSuchAttribute),
    (exists a, Attribute.find? name = some a ∧ a.isWritable = true, .notWritable name),
    (exists a, Attribute.find? name = some a ∧ a.Takes text, .invalidInput) ]

def numberChecks (s : Signal) (number : Nat) : List (Prop × Error) :=
  [(s.isWritable = true, .notWritable s.name), (number ≤ 1, .invalidInput)]

def levelChecks (s : Signal) : List (Prop × Error) :=
  [(s.isWritable = true, .notWritable s.name)]

def cageChecks (number : Nat) (line : CageLine) : List (Prop × Error) :=
  [ (17 ≤ number ∧ number ≤ 32, .invalidInput),
    (line.access.isWritable = true, .notWritable (line.nameAt number)) ]

theorem guardedBy_store (name text : String) :
    (Request.checked (Device.attributeOfName name) (.storeAttribute text) : Request n).GuardedBy
      (storeChecks name text) := by
  simp only [storeChecks, ← Device.attributeOfName_eq_ok_iff]
  apply Request.guardedBy_checked
  · exact fun e => Device.eq_noSuchAttribute_of_attributeOfName
  · intro a ha
    have hname := Attribute.name_of_find?_eq_some (Device.attributeOfName_eq_ok_iff.mp ha)
    simp only [ha, Except.ok.injEq, exists_eq_left']
    rw [← hname]
    exact Request.guardedBy_storeAttribute a text

theorem guardedBy_driveCageLine (number : Nat) (line : CageLine) (level : Bool) :
    (Request.checked (Device.cageOfNumber number) fun cage =>
      .driveChecked (.cageLine line cage) (.ok level) : Request n).GuardedBy
        (cageChecks number line) := by
  have hrange : (17 ≤ number ∧ number ≤ 32) ↔
      exists cage, Device.cageOfNumber number = .ok cage := by
    simp only [Device.cageOfNumber_eq_ok_iff, Cage.ofNumber?_eq_some_iff]
    constructor
    · exact Cage.exists_number_eq
    · rintro ⟨cage, rfl⟩
      exact cage.number_range
  rw [cageChecks, hrange]
  apply Request.guardedBy_checked
  · exact fun e => Device.eq_invalidInput_of_cageOfNumber
  · intro cage hcage
    cases Cage.ofNumber?_eq_some_iff.mp (Device.cageOfNumber_eq_ok_iff.mp hcage)
    rw [← Signal.isWritable_cageLine line cage]
    exact Request.guardedBy_driveChecked (Request.guardedBy_driveSignal _ level)

end DeviceAction

namespace Rack

variable {n : Nat}

/-- A step whose input goes through checks, one after another: it answers the error of the
first that is not met and does nothing else, or it goes to the bus. -/
structure Guarded (rack : Rack n) (s : Step n) (checks : List (Prop × Error)) : Prop where
  refuses : forall e, e.cause? = none ->
    ((rack.step s).2.answer = .refused e ↔ FirstUnmet checks e)
  quietly : forall e, e.cause? = none -> (rack.step s).2.answer = .refused e ->
    rack.step s = (rack, .quiet (.refused e))
  reaches : (rack.step s).2.transactions ≠ [] ↔ forall check, check ∈ checks -> check.1

section Handle

variable {rack : Rack n} {h : Nat} {b : Fin n} {device : Device}

theorem guarded_of_request?
    (hhandle : rack.handles h = some { bus := b, client := .device device })
    {action : DeviceAction} {q : Request n} (hrequest : action.request? device = some q)
    {checks : List (Prop × Error)} (hq : q.GuardedBy checks) :
    rack.Guarded (.onDevice h action) checks := by
  have hrefused {e : Error} (hcause : e.cause? = none) :
      (rack.step (.onDevice h action)).2.answer = .refused e ↔ q = .refuse e := by
    rw [step_of_request? hhandle hrequest]
    exact Request.value_run_eq_refused_iff (DeviceAction.wellFormed_of_request? hrequest) hcause _
  constructor
  case refuses =>
    intro e hcause
    rw [hrefused hcause, hq.refuse_iff]
  case quietly =>
    intro e hcause hanswer
    rw [(hrefused hcause).mp hanswer] at hrequest
    exact step_of_refusal hhandle hrequest
  case reaches =>
    rw [← hq.uses?_iff, step_of_request? hhandle hrequest]
    simp only [onBus, Report.ofOutcome, ne_eq, List.map_eq_nil_iff, Request.transactions_eq_nil_iff]

/-- Every step that changes a signal or an attribute refuses its input by the first of its
checks that is not met, whatever the faults; a refusal makes no transaction, logs nothing
and changes nothing, and what is not refused goes to the bus.  A number in range is driven
as the level that it stands for. -/
theorem refusals_in_order
    (hhandle : rack.handles h = some { bus := b, client := .device device }) :
    (forall name text,
      rack.Guarded (.onDevice h (.storeAttribute name text))
        (DeviceAction.storeChecks name text)) ∧
    (forall name s, Signal.find? name = some s ->
      (forall number,
        rack.Guarded (.onDevice h (.driveSignalNumber name number))
          (DeviceAction.numberChecks s number) ∧
        (number ≤ 1 ->
          rack.step (.onDevice h (.driveSignalNumber name number)) =
            rack.step (.onDevice h (.driveSignal name (number = 1))))) ∧
      (forall level,
        rack.Guarded (.onDevice h (.driveSignal name level)) (DeviceAction.levelChecks s))) ∧
    (forall number line level,
      rack.Guarded (.onDevice h (.driveCageLine number line level))
        (DeviceAction.cageChecks number line)) := by
  refine ⟨?_, ?_, ?_⟩
  · intro name text
    exact guarded_of_request? hhandle rfl (DeviceAction.guardedBy_store name text)
  · intro name s hname
    refine ⟨?_, ?_⟩
    · intro number
      have hrequest : (DeviceAction.driveSignalNumber name number).request? (n := n) device =
          some (.driveChecked s (Device.levelOfNumber number)) :=
        DeviceAction.request?_driveSignalNumber hname number
      constructor
      · exact guarded_of_request? hhandle hrequest
          (Request.guardedBy_driveChecked (Request.guardedBy_levelOfNumber s number))
      · intro hrange
        rw [step_of_request? hhandle hrequest, Device.levelOfNumber_eq_ok_iff.mpr ⟨hrange, rfl⟩,
          step_of_request? hhandle (DeviceAction.request?_driveSignal hname _)]
    · intro level
      exact guarded_of_request? hhandle (DeviceAction.request?_driveSignal hname level)
        (Request.guardedBy_driveChecked (Request.guardedBy_driveSignal s level))
  · intro number line level
    exact guarded_of_request? hhandle rfl (DeviceAction.guardedBy_driveCageLine number line level)

/-- On a bus where writes of the scratch byte fail: a bad text for a value that cannot be
stored, a number out of range for an input, a line that is an input of a cage that does not
exist, and a text in order, which gets as far as the bus. -/
theorem refusals_in_order_faulty_bus :
    let device : Device := { identity := .ofRegisters none none none none, bringUpFault := none }
    let handle : Handle 1 := { bus := 0, client := .device device }
    let rack :=
      (Rack.ofBuses #v[(Bus.idle .byteData).plantWriteFault 0x0F .busy]).setHandle 0 (some handle)
    rack.handles 0 = some handle ∧
      rack.step (.onDevice 0 (.storeAttribute "code_year" "two")) =
        (rack, .quiet (.refused (.notWritable "code_year"))) ∧
      rack.step (.onDevice 0 (.driveSignalNumber "sfp_prs" 7)) =
        (rack, .quiet (.refused (.notWritable "sfp_prs"))) ∧
      rack.step (.onDevice 0 (.driveCageLine 33 .present true)) =
        (rack, .quiet (.refused .invalidInput)) ∧
      (rack.step (.onDevice 0 (.storeAttribute "scratch" "0xFF"))).2.transactions ≠ [] := by
  intro device handle rack
  have hhandle : rack.handles 0 = some handle := handles_setHandle_self _ _ _
  rcases refusals_in_order hhandle with ⟨hstore, hsignal, hcage⟩
  have hrefused {s : Step 1} {checks : List (Prop × Error)} (hguarded : rack.Guarded s checks)
      {e : Error} (hcause : e.cause? = none) (hunmet : FirstUnmet checks e) :
      rack.step s = (rack, .quiet (.refused e)) :=
    hguarded.quietly e hcause ((hguarded.refuses e hcause).mpr hunmet)
  have hyear : Attribute.find? "code_year" = some (.identity .codeYear) :=
    Attribute.find?_name (.identity .codeYear)
  have hpresent : Signal.find? "sfp_prs" = some .sfpPresent := Signal.find?_name .sfpPresent
  have hscratch : Attribute.find? "scratch" = some .scratch := Attribute.find?_name .scratch
  have hspells : Spells .hexadecimal "0xFF" 255 :=
    Text.ByteLiteral.value?_eq_some_iff.mp (by decide +kernel)
  refine ⟨hhandle, ?_, ?_, ?_, ?_⟩
  · apply hrefused (hstore _ "two") rfl
    refine .later ⟨_, hyear⟩ (.here ?_)
    simp [hyear, Attribute.isWritable]
  · apply hrefused ((hsignal _ _ hpresent).1 7).1 rfl
    exact .here (by decide)
  · apply hrefused (hcage 33 .present true) rfl
    exact .here (by decide)
  · rw [(hstore "scratch" "0xFF").reaches]
    simp only [DeviceAction.storeChecks, hscratch, List.forall_mem_cons, Option.some.injEq,
      exists_eq', exists_eq_left']
    exact ⟨trivial, rfl, ⟨255, hspells, Nat.le_refl 255⟩, List.forall_mem_nil _⟩

end Handle
end Rack
end CpldControl
