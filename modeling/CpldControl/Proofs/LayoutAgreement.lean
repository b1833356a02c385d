import Mathlib.Data.List.Nodup
import Mathlib.Data.List.Pairwise
import CpldControl.Chip.Layout
import CpldControl.Chip.Signal

/-!
# The table of signals and the fields of the data sheet

The places of the control lines are given twice: by the table, which computes them from
the numbers of the cages, and by the fields of the data sheet, which write out every
offset.  Both speak of the same bits.  A byte that is changed signal by signal is the byte
that is changed field by field, however long the list of changes, and what was written
last to a place is what both read there.

The main statement is `table_agrees_with_layout`.  `observe_foldl` says what a list of
changes comes to: an observation that one key alone can move shows what that key was given
last.  Signals and fields are two instances of it, since the signals of one register are
pairwise in other bits, and the fields of one group in other runs of bits.
-/

namespace CpldControl
namespace Chip

/-!
# Lists of changes
-/

theorem observe_foldl {α β γ δ : Type} [DecidableEq β] {change : α -> β × γ -> α}
    {observe : α -> δ} {result : γ -> δ} {key : β} {entries : List (β × γ)}
    (hkey : forall a value, observe (change a (key, value)) = result value)
    (hother : forall a entry, entry ∈ entries -> entry.1 ≠ key ->
      observe (change a entry) = observe a) (start : α) :
    observe (entries.foldl change start) =
      ((entries.reverse.lookup key).map result).getD (observe start) := by
  induction entries generalizing start with
  | nil => rfl
  | cons entry rest ih =>
      have hrest := ih (fun a other hmem => hother a other (List.mem_cons_of_mem entry hmem))
        (change start entry)
      rw [List.foldl_cons, hrest, List.reverse_cons, List.lookup_append]
      cases rest.reverse.lookup key with
      | some value => rfl
      | none =>
          by_cases hentry : entry.1 = key
          · subst hentry
            rw [List.lookup_cons_self]
            exact hkey start entry.2
          · have hmiss : List.lookup key [entry] = none := by
              rw [List.lookup_cons, beq_eq_false_iff_ne.mpr (Ne.symm hentry), List.lookup_nil]
            rw [hmiss]
            exact hother start entry List.mem_cons_self hentry

def replaceAll (writes : List (Field × Byte)) (b : Byte) : Byte :=
  writes.foldl (fun c write => write.1.replace c write.2) b

def driveAll (updates : List (Signal × Bool)) (b : Byte) : Byte :=
  updates.foldl (fun c update => update.1.driveIn c update.2) b

theorem bit_replaceAll {writes : List (Field × Byte)} {i : Fin 8}
    (h : forall write, write ∈ writes -> ¬ write.1.Covers i) (b : Byte) :
    (replaceAll writes b).bit i = b.bit i := by
  unfold replaceAll
  induction writes generalizing b with
  | nil => rfl
  | cons write rest ih =>
      rw [List.foldl_cons, ih fun other hmem => h other (List.mem_cons_of_mem write hmem)]
      exact Field.bit_replace_of_not_covers (h write List.mem_cons_self) b write.2

/-!
# Groups of fields
-/

namespace Field

def Disjoint (f k : Field) : Prop :=
  forall i, ¬ (f.Covers i ∧ k.Covers i)

instance (f k : Field) : Decidable (f.Disjoint k) :=
  inferInstanceAs (Decidable (forall i, ¬ (f.Covers i ∧ k.Covers i)))

instance : Std.Symm Disjoint where
  symm _ _ hdisjoint i hboth := hdisjoint i hboth.symm

end Field

namespace Layout.Group

theorem pairwise_disjoint (group : Group) : group.fields.Pairwise Field.Disjoint := by
  cases group <;> decide

theorem eq_of_label_eq {group : Group} {f k : Field} (hf : f ∈ group.fields)
    (hk : k ∈ group.fields) (hlabel : f.label = k.label) : f = k := by
  have hnodup : (group.fields.map Field.label).Nodup := by
    cases group <;> decide
  exact List.inj_on_of_nodup_map hnodup hf hk hlabel

theorem read_replaceAll {group : Group} {f : Field} (hf : f ∈ group.fields)
    {writes : List (Field × Byte)} (hwrites : forall write, write ∈ writes -> write.1 ∈ group.fields)
    (b : Byte) :
    f.read (replaceAll writes b) =
      ((writes.reverse.lookup f).map f.cut).getD (f.read b) := by
  apply observe_foldl
  · exact fun c value => f.read_replace_self c value
  · intro c write hmem hne
    apply Field.read_congr
    intro i hi
    apply Field.bit_replace_of_not_covers
    have hdisjoint := group.pairwise_disjoint.forall (hwrites write hmem) hf hne
    exact fun hcovers => hdisjoint i ⟨hcovers, hi⟩

end Layout.Group

/-!
# The field of a signal

Of the fields that describe its register, a signal has the one with its label.  Every
field belongs to a signal in this way, but for the version and the kind of the code.
-/

def Bank.group : Bank -> Layout.Group
  | low => .lowCages
  | high => .highCages

def Register.group? : Register -> Option Layout.Group
  | codeRevision => some .codeRevision
  | ledTest => some .ledTest
  | reset => some .reset
  | cageLines _ bank => some bank.group
  | hitless => some .hitless
  | sfpStatus => some .sfpStatus
  | sfpControl => some .sfpControl
  | _ => none

namespace Signal

def fieldLabel : Signal -> String
  | ledAmber => "AMBER"
  | ledGreen => "GREEN"
  | ledBlink => "BLINK"
  | ledSource => "SRC_SEL"
  | softReset => "PLD_SOFT"
  | cageLine _ cage => "QSFP" ++ Text.decimal cage.number
  | hitlessEnable => "EN"
  | sfpTransmitFault => "TX_FAULT"
  | sfpReceiveLoss => "RX_LOS"
  | sfpPresent => "PRS"
  | sfpTransmitEnable => "TX_EN"

def field? (s : Signal) : Option Field := do
  let group ← s.register.group?
  group.fields.find? (·.label == s.fieldLabel)

theorem find?_fields_of_cage (cage : Cage) :
    (cage.bank.group.fields.find? (·.label == "QSFP" ++ Text.decimal cage.number)).map
        (fun f => (f.shift, f.width)) =
      some (cage.bit.val, 1) := by
  cases cage with
  | mk index =>
      -- the data sheet has no rule for its offsets, so the cages are compared one by one
      revert index
      decide +kernel

theorem exists_field (s : Signal) :
    exists f, s.field? = some f ∧ f.shift = s.bit.val ∧ f.width = 1 := by
  cases s with
  | cageLine line cage =>
      rcases Option.map_eq_some_iff.mp (find?_fields_of_cage cage) with ⟨f, hfield, hplace⟩
      exact ⟨f, hfield, congrArg Prod.fst hplace, congrArg Prod.snd hplace⟩
  | _ => exact ⟨_, rfl, rfl, rfl⟩

theorem isSome_field? (s : Signal) : s.field?.isSome = true := by
  rcases s.exists_field with ⟨f, hfield, -⟩
  rw [hfield]
  rfl

def field (s : Signal) : Field :=
  s.field?.get s.isSome_field?

theorem field?_eq (s : Signal) : s.field? = some s.field :=
  (Option.some_get s.isSome_field?).symm

theorem field_place (s : Signal) : s.field.shift = s.bit.val ∧ s.field.width = 1 := by
  rcases s.exists_field with ⟨f, hfield, hplace⟩
  rw [s.field?_eq] at hfield
  cases hfield
  exact hplace

theorem driveIn_eq_replace (s : Signal) (b : Byte) (level : Bool) :
    s.driveIn b level = s.field.replace b (Byte.ofLevel level) :=
  (Field.replace_ofLevel s.field_place.1 s.field_place.2 b level).symm

theorem isSet_field (s : Signal) (b : Byte) : s.field.isSet b = s.levelIn b :=
  Field.isSet_eq_bit s.field_place.1 s.field_place.2 b

theorem field_mem {s : Signal} {group : Layout.Group} (hgroup : s.register.group? = some group) :
    s.field ∈ group.fields ∧ s.field.label = s.fieldLabel := by
  have hfind := s.field?_eq
  rw [field?, hgroup] at hfind
  change group.fields.find? _ = _ at hfind
  exact ⟨List.mem_of_find?_eq_some hfind, by simpa using List.find?_some hfind⟩

def asWrites (updates : List (Signal × Bool)) : List (Field × Byte) :=
  updates.map fun update => (update.1.field, Byte.ofLevel update.2)

theorem replaceAll_asWrites (updates : List (Signal × Bool)) (b : Byte) :
    replaceAll (asWrites updates) b = driveAll updates b := by
  rw [replaceAll, asWrites, List.foldl_map]
  simp only [← driveIn_eq_replace]
  rfl

theorem bit_driveAll {updates : List (Signal × Bool)} {i : Fin 8}
    (h : forall update, update ∈ updates -> update.1.bit ≠ i) (b : Byte) :
    (driveAll updates b).bit i = b.bit i := by
  rw [← replaceAll_asWrites]
  apply bit_replaceAll
  intro write hwrite
  rcases List.mem_map.mp hwrite with ⟨⟨s, level⟩, hupdate, rfl⟩
  rw [Field.covers_iff_eq s.field_place.1 s.field_place.2]
  exact fun hi => h (s, level) hupdate hi.symm

theorem levelIn_driveAll {r : Register} {s : Signal} (hs : s.register = r)
    {updates : List (Signal × Bool)}
    (hupdates : forall update, update ∈ updates -> update.1.register = r) (b : Byte) :
    s.levelIn (driveAll updates b) = (updates.reverse.lookup s).getD (s.levelIn b) := by
  have hlevel : s.levelIn (driveAll updates b) =
      ((updates.reverse.lookup s).map id).getD (s.levelIn b) := by
    apply observe_foldl
    · exact fun c level => s.levelIn_driveIn_self c level
    · intro c update hmem hne
      apply levelIn_driveIn_of_bit_ne
      intro hbit
      exact hne (eq_of_place_eq ((hupdates update hmem).trans hs.symm) hbit.symm)
  rw [hlevel, Option.map_id_fun, id]

theorem exists_cage_of_label {bank : Bank} {f : Field} (hf : f ∈ bank.group.fields) :
    exists cage : Cage, cage.bank = bank ∧ "QSFP" ++ Text.decimal cage.number = f.label := by
  have hcages : forall f, f ∈ bank.group.fields -> exists i : Fin 16,
      (Cage.mk i).bank = bank ∧ "QSFP" ++ Text.decimal (Cage.mk i).number = f.label := by
    cases bank <;> decide +kernel
  rcases hcages f hf with ⟨i, hcage⟩
  exact ⟨⟨i⟩, hcage⟩

theorem exists_signal {r : Register} {group : Layout.Group} {f : Field}
    (hgroup : r.group? = some group) (hr : r ≠ .codeRevision) (hf : f ∈ group.fields) :
    exists s : Signal, s.register = r ∧ s.field = f := by
  have hlabel : exists s : Signal, s.register = r ∧ s.fieldLabel = f.label := by
    cases r with
    | codeRevision => exact absurd rfl hr
    | cageLines line bank =>
        cases hgroup
        rcases exists_cage_of_label hf with ⟨cage, rfl, hlabel⟩
        exact ⟨.cageLine line cage, rfl, hlabel⟩
    | ledTest =>
        cases hgroup
        simp only [Layout.Group.fields, List.mem_cons, List.not_mem_nil, or_false] at hf
        rcases hf with rfl | rfl | rfl | rfl
        · exact ⟨.ledAmber, rfl, rfl⟩
        · exact ⟨.ledGreen, rfl, rfl⟩
        · exact ⟨.ledBlink, rfl, rfl⟩
        · exact ⟨.ledSource, rfl, rfl⟩
    | sfpStatus =>
        cases hgroup
        simp only [Layout.Group.fields, List.mem_cons, List.not_mem_nil, or_false] at hf
        rcases hf with rfl | rfl | rfl
        · exact ⟨.sfpTransmitFault, rfl, rfl⟩
        · exact ⟨.sfpReceiveLoss, rfl, rfl⟩
        · exact ⟨.sfpPresent, rfl, rfl⟩
    | reset =>
        cases hgroup
        cases List.mem_singleton.mp hf
        exact ⟨.softReset, rfl, rfl⟩
    | hitless =>
        cases hgroup
        cases List.mem_singleton.mp hf
        exact ⟨.hitlessEnable, rfl, rfl⟩
    | sfpControl =>
        cases hgroup
        cases List.mem_singleton.mp hf
        exact ⟨.sfpTransmitEnable, rfl, rfl⟩
    | _ => cases hgroup
  rcases hlabel with ⟨s, rfl, hlabel⟩
  have hfield := field_mem hgroup
  exact ⟨s, rfl, Layout.Group.eq_of_label_eq hfield.1 hf (hfield.2.trans hlabel)⟩

end Signal

/-!
# Agreement
-/

structure Driven (r : Register) (b : Byte) (updates : List (Signal × Bool)) : Prop where
  fieldwise : replaceAll (Signal.asWrites updates) b = driveAll updates b
  signals : forall s : Signal, s.register = r ->
    s.levelIn (driveAll updates b) = (updates.reverse.lookup s).getD (s.levelIn b)
  fields : forall s : Signal, s.register = r ->
    s.field.isSet (driveAll updates b) = (updates.reverse.lookup s).getD (s.field.isSet b)
  otherBits : forall i, (forall update, update ∈ updates -> update.1.bit ≠ i) ->
    (driveAll updates b).bit i = b.bit i

/-- What writes to the fields of a group make of a byte.  A value is cut to the width of
its field. -/
structure Written (group : Layout.Group) (b : Byte) (writes : List (Field × Byte)) : Prop where
  values : forall f, f ∈ group.fields ->
    f.read (replaceAll writes b) = ((writes.reverse.lookup f).map f.cut).getD (f.read b)
  set : forall f, f ∈ group.fields ->
    f.isSet (replaceAll writes b) = (f.read (replaceAll writes b) != 0)
  otherBits : forall i, (forall write, write ∈ writes -> ¬ write.1.Covers i) ->
    (replaceAll writes b).bit i = b.bit i

structure Agreement (r : Register) (group : Layout.Group) : Prop where
  labelled : forall s : Signal, s.register = r -> forall f, f ∈ group.fields ->
    (f.label = s.fieldLabel ↔ f = s.field)
  declared : forall s : Signal, s.register = r -> s.field ∈ group.fields
  complete : r ≠ .codeRevision -> forall f, f ∈ group.fields ->
    exists s : Signal, s.register = r ∧ s.field = f
  disjoint : group.fields.Pairwise Field.Disjoint
  driven : forall updates, (forall update, update ∈ updates -> update.1.register = r) ->
    forall b, Driven r b updates
  written : forall writes, (forall write, write ∈ writes -> write.1 ∈ group.fields) ->
    forall b, Written group b writes

/-- The table of signals and the data sheet agree on every register.  To each signal
belongs the one field with its label, and driving signals is writing their fields.  Any
list of changes leaves in each place what it put there last, and all else as it was. -/
theorem table_agrees_with_layout {r : Register} {group : Layout.Group}
    (hgroup : r.group? = some group) : Agreement r group := by
  constructor
  case labelled =>
    intro s hs f hf
    subst hs
    have hfield := Signal.field_mem hgroup
    constructor
    · intro hlabel
      exact Layout.Group.eq_of_label_eq hf hfield.1 (hlabel.trans hfield.2.symm)
    · intro h
      rw [h, hfield.2]
  case declared =>
    intro s hs
    subst hs
    exact (Signal.field_mem hgroup).1
  case complete => exact fun hr f hf => Signal.exists_signal hgroup hr hf
  case disjoint => exact group.pairwise_disjoint
  case driven =>
    intro updates hupdates b
    constructor
    case fieldwise => exact Signal.replaceAll_asWrites updates b
    case signals => exact fun s hs => Signal.levelIn_driveAll hs hupdates b
    case fields =>
      intro s hs
      rw [Signal.isSet_field, Signal.isSet_field]
      exact Signal.levelIn_driveAll hs hupdates b
    case otherBits => exact fun i hi => Signal.bit_driveAll hi b
  case written =>
    intro writes hwrites b
    constructor
    case values => exact fun f hf => Layout.Group.read_replaceAll hf hwrites b
    case set => exact fun f _ => f.isSet_eq _
    case otherBits => exact fun i hi => bit_replaceAll hi b

/-- The LED source is switched on and the amber LED on and off again, in a byte whose unused
bits are set; and a version too large is written beside the kind of the code. -/
theorem table_agrees_with_layout_leds_and_version :
    let updates := [(Signal.ledAmber, true), (.ledSource, true), (.ledAmber, false)]
    let writes := [(Layout.codeVersion, (0xFF : Byte)), (Layout.codeKind, 0x02)]
    Register.ledTest.group? = some .ledTest ∧
      Register.codeRevision.group? = some .codeRevision ∧
      replaceAll
          [ (Layout.single "AMBER" 0, 1), (Layout.single "SRC_SEL" 7, 1),
            (Layout.single "AMBER" 0, 0) ] 0x75 = driveAll updates 0x75 ∧
      driveAll updates 0x75 = 0xF4 ∧
      Signal.ledAmber.field.isSet (driveAll updates 0x75) = false ∧
      Layout.codeVersion.read (replaceAll writes 0xC0) = 63 ∧
      Layout.codeKind.read (replaceAll writes 0xC0) = 0 ∧
      (replaceAll writes 0xC0).bit 6 = true := by
  intro updates writes
  have hleds := (table_agrees_with_layout (r := .ledTest) rfl).driven updates (by decide) 0x75
  have hversion := (table_agrees_with_layout (r := .codeRevision) rfl).written writes
    (by decide) 0xC0
  refine ⟨rfl, rfl, hleds.fieldwise, by decide, ?_, ?_, ?_, ?_⟩
  · rw [hleds.fields .ledAmber rfl]
    rfl
  · rw [hversion.values _ (by decide)]
    rfl
  · rw [hversion.values _ (by decide)]
    rfl
  · rw [hversion.otherBits 6 (by decide)]
    rfl

end Chip
end CpldControl
