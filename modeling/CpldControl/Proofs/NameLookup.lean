import CpldControl.Proofs.CageAddressing

/-!
# Which texts are names

A text is a name only if it is spelled as one, to the last character: one of ten fixed
names of signals, the name of a cage line with the two digits of a cage's number, or one
of six names of bytes.  Nothing that merely resembles a name is found.

The main statement is `names_looked_up`.  `find?_eq_some_iff_spelling` reads the table of
signals as a list of spellings, and `eq_of_name_isInfix`, `eq_of_foldedName_eq` and
`eq_of_zerolessName_eq` tell the names apart from all that resembles them.
-/

namespace CpldControl

open Chip (Cage CageLine Signal)
open Device (Attribute)

/-!
# How names are spelled
-/

namespace Text

def twoDigits (number : Nat) : String :=
  String.ofList [Nat.digitChar (number / 10), Nat.digitChar (number % 10)]

theorem decimal_eq_twoDigits {number : Nat} (h : 10 ≤ number ∧ number < 100) :
    decimal number = twoDigits number := by
  have htens : Nat.toDigits 10 (number / 10) = [Nat.digitChar (number / 10)] :=
    Nat.toDigits_of_lt_base (by omega)
  rw [decimal, Nat.toDigits_of_base_le (by decide) h.1, htens]
  rfl

end Text

namespace Chip

def CageLine.suffixes : List (String × CageLine) :=
  [("rst", reset), ("lpmod", lowPower), ("modsel", select), ("prs", present),
    ("int", interrupt)]

namespace Signal

def fixedNames : List (String × Signal) :=
  [ ("led_test_amb", ledAmber), ("led_test_grn", ledGreen), ("led_test_blink", ledBlink),
    ("led_test_src_sel", ledSource), ("rst_pld_soft", softReset), ("hitless_en", hitlessEnable),
    ("sfp_tx_fault", sfpTransmitFault), ("sfp_rx_los", sfpReceiveLoss), ("sfp_prs", sfpPresent),
    ("sfp_tx_en", sfpTransmitEnable) ]

/-- How the names of signals are spelled.  A name with the number of a cage belongs to the
entry of the table at the position of that cage's line. -/
inductive Spelling : String -> Signal -> Prop where
  | fixed {name : String} {s : Signal} (hname : (name, s) ∈ fixedNames) : Spelling name s
  | cageLine {number : Nat} {suffix : String} {line : CageLine} {s : Signal}
      (hrange : 17 ≤ number ∧ number ≤ 32) (hsuffix : (suffix, line) ∈ CageLine.suffixes)
      (hposition : all[line.tableBase + (number - 17)]? = some s) :
      Spelling ("qsfp" ++ Text.twoDigits number ++ "_" ++ suffix) s

theorem nameAt_eq_of_mem_suffixes {suffix : String} {line : CageLine}
    (hsuffix : (suffix, line) ∈ CageLine.suffixes) {number : Nat}
    (hrange : 17 ≤ number ∧ number ≤ 32) :
    line.nameAt number = "qsfp" ++ Text.twoDigits number ++ "_" ++ suffix := by
  have hsuffixes : forall entry, entry ∈ CageLine.suffixes -> entry.2.suffix = entry.1 := by
    decide
  rw [CageLine.nameAt, Text.decimal_eq_twoDigits (by omega), hsuffixes _ hsuffix]

theorem getElem?_all_of_number {number : Nat} (hrange : 17 ≤ number ∧ number ≤ 32)
    (line : CageLine) :
    exists cage : Cage, cage.number = number ∧
      all[line.tableBase + (number - 17)]? = some (cageLine line cage) := by
  rcases Cage.exists_number_eq hrange with ⟨cage, rfl⟩
  have hindex : cage.number - 17 = cage.index.val := Nat.add_sub_cancel_left 17 _
  rw [hindex]
  exact ⟨cage, rfl, getElem?_all line cage⟩

theorem Spelling.name_eq {name : String} {s : Signal} (h : Spelling name s) : s.name = name := by
  cases h with
  | fixed hname =>
      have hnames : forall entry, entry ∈ fixedNames -> entry.2.name = entry.1 := by
        decide
      exact hnames _ hname
  | cageLine hrange hsuffix hposition =>
      rename_i number suffix line
      rcases getElem?_all_of_number hrange line with ⟨cage, hnumber, hcage⟩
      rw [hcage] at hposition
      cases hposition
      rw [name_cageLine, hnumber, nameAt_eq_of_mem_suffixes hsuffix hrange]

theorem spelling_name (s : Signal) : Spelling s.name s := by
  cases s with
  | cageLine line cage =>
      have hsuffix : (line.suffix, line) ∈ CageLine.suffixes := by
        cases line <;> decide
      rcases getElem?_all_of_number cage.number_range line with ⟨cage', hnumber, hposition⟩
      cases Cage.number_injective hnumber
      rw [name_cageLine, nameAt_eq_of_mem_suffixes hsuffix cage.number_range]
      exact .cageLine cage.number_range hsuffix hposition
  | _ => exact .fixed (by decide)

theorem find?_eq_some_iff_spelling {name : String} {s : Signal} :
    find? name = some s ↔ Spelling name s := by
  rw [find?_eq_some_iff]
  constructor
  · rintro rfl
    exact spelling_name s
  · exact Spelling.name_eq

end Signal
end Chip

namespace Device.Attribute

def byteNames : List (String × Attribute) :=
  [ ("code_ver", identity .codeVersion), ("code_type", identity .codeKind), ("scratch", scratch),
    ("code_day", identity .codeDay), ("code_month", identity .codeMonth),
    ("code_year", identity .codeYear) ]

theorem signal_or_mem_byteNames (a : Attribute) :
    (exists s, a = signal s) ∨ (a.name, a) ∈ byteNames := by
  cases a with
  | identity field =>
      right
      cases field <;> decide
  | scratch =>
      right
      decide
  | signal s => exact .inl ⟨s, rfl⟩

theorem name_of_mem_byteNames {entry : String × Attribute} (h : entry ∈ byteNames) :
    entry.2.name = entry.1 ∧ forall s, entry.2 ≠ signal s := by
  revert entry
  simp [byteNames, name, IdentityField.name]

theorem find?_eq_signal_iff {name : String} {s : Signal} :
    find? name = some (signal s) ↔ Signal.find? name = some s := by
  rw [find?_eq_some_iff, Signal.find?_eq_some_iff]
  rfl

theorem signal_find?_of_mem_byteNames {entry : String × Attribute} (h : entry ∈ byteNames) :
    Signal.find? entry.1 = none := by
  rcases name_of_mem_byteNames h with ⟨hname, hsignal⟩
  rw [Option.eq_none_iff_forall_ne_some]
  intro s hs
  rw [← find?_eq_signal_iff, ← hname, find?_name] at hs
  exact hsignal s (Option.some.inj hs)

theorem find?_eq_none_iff {name : String} :
    find? name = none ↔
      Signal.find? name = none ∧ forall entry, entry ∈ byteNames -> name ≠ entry.1 := by
  constructor
  · intro hnone
    constructor
    · rw [Option.eq_none_iff_forall_ne_some]
      intro s hs
      rw [Signal.attribute_find?_of_find? hs] at hnone
      cases hnone
    · rintro entry hentry rfl
      rw [← (name_of_mem_byteNames hentry).1, find?_name] at hnone
      cases hnone
  · rintro ⟨hsignal, hbyte⟩
    rw [Option.eq_none_iff_forall_ne_some]
    intro a ha
    rcases signal_or_mem_byteNames a with ⟨s, rfl⟩ | hmem
    · rw [find?_eq_signal_iff, hsignal] at ha
      cases ha
    · exact hbyte _ hmem (name_of_find?_eq_some ha).symm

/-!
# Texts that resemble names

A text may be a part of a name or a name with something around it, have other letters in
the place of some, or have more zeros or less.  A change of letters or of zeros does not
make one name into another.
-/

def nameCharacter (c : Char) : Bool :=
  c.isLower || c.isDigit || c == '_'

theorem nameCharacter_of_mem_name {a : Attribute} {c : Char} (hc : c ∈ a.name.toList) :
    nameCharacter c = true := by
  rcases fixed_or_cageLine a with ha | ⟨line, cage, rfl⟩
  · have hall : forall a, a ∈ fixed -> a.name.toList.all nameCharacter = true := by
      decide +kernel
    exact List.all_eq_true.mp (hall a ha) c hc
  · rw [name, Signal.name_cageLine, CageLine.toList_nameAt, List.mem_append, List.mem_append] at hc
    rcases hc with hfront | hnumber | hend
    · have hall : ['q', 's', 'f', 'p'].all nameCharacter = true := by
        decide
      exact List.all_eq_true.mp hall c hfront
    · have hdigit := Nat.isDigit_of_mem_toDigits (by decide) (by decide) hnumber
      simp [nameCharacter, hdigit]
    · have hall : forall line, line ∈ CageLine.all ->
          ('_' :: line.suffix.toList).all nameCharacter = true := by
        decide
      exact List.all_eq_true.mp (hall line line.mem_all) c hend

/-- A change of letters that can be undone on the characters of names, as a change of case
can be.  What it makes of other characters is left open. -/
structure Folding where
  fold : Char -> List Char
  undo : Char -> Char
  fold_eq : forall c, nameCharacter c = true -> exists d, fold c = [d] ∧ undo d = c

def Folding.lower : Folding where
  fold := fun c => [c.toLower]
  undo := id
  fold_eq := by
    intro c hc
    refine ⟨c, ?_, rfl⟩
    unfold Char.toLower
    rw [dif_neg]
    rintro ⟨hlow, hhigh⟩
    simp only [nameCharacter, Char.isDigit, UInt32.le_iff_toNat_le, ge_iff_le,
      Bool.or_eq_true, Bool.and_eq_true, decide_eq_true_eq, beq_iff_eq] at hc hlow hhigh
    rcases hc with (hlower | hdigit) | rfl
    · have hletter : decide ('a'.val ≤ c.val) = true := (Bool.and_eq_true_iff.mp hlower).1
      have hfirst : 'a'.val ≤ c.val := of_decide_eq_true hletter
      exact absurd ((UInt32.le_iff_toNat_le.mp hfirst).trans hhigh) (by decide)
    · exact absurd (hlow.trans hdigit.2) (by decide)
    · exact absurd hhigh (by decide)

theorem eq_of_foldedName_eq {a b : Attribute} (f : Folding)
    (h : a.name.toList.flatMap f.fold = b.name.toList.flatMap f.fold) : a = b := by
  have hundo (a : Attribute) : (a.name.toList.flatMap f.fold).map f.undo = a.name.toList := by
    have hchar : forall c, c ∈ a.name.toList -> (f.fold c).map f.undo = [c] := by
      intro c hc
      rcases f.fold_eq c (nameCharacter_of_mem_name hc) with ⟨d, hfold, hundo⟩
      rw [hfold, List.map_singleton, hundo]
    rw [List.map_flatMap, List.flatMap_congr hchar, List.flatMap_singleton']
  apply name_injective
  apply String.toList_injective
  rw [← hundo a, h, hundo b]

def zeroless (cs : List Char) : List Char :=
  cs.filter (· ≠ '0')

theorem eq_of_zeroless_number {cage cage' : Cage}
    (h : zeroless (Nat.toDigits 10 cage.number) = zeroless (Nat.toDigits 10 cage'.number)) :
    cage = cage' := by
  cases cage with
  | mk i =>
      cases cage' with
      | mk j =>
          revert i j
          decide +kernel

theorem zeroless_name_of_mem_fixed {a : Attribute} (ha : a ∈ fixed) :
    zeroless a.name.toList = a.name.toList := by
  revert a
  decide +kernel

theorem zeroless_nameAt (line : CageLine) (number : Nat) :
    zeroless (line.nameAt number).toList =
      ['q', 's', 'f', 'p'] ++ (zeroless (Nat.toDigits 10 number) ++ '_' :: line.suffix.toList) := by
  have hsuffix : zeroless ('_' :: line.suffix.toList) = '_' :: line.suffix.toList := by
    cases line <;> decide
  unfold zeroless at hsuffix ⊢
  rw [CageLine.toList_nameAt, List.filter_append, List.filter_append, hsuffix]
  rfl

theorem eq_of_zerolessName_eq {a b : Attribute}
    (h : zeroless a.name.toList = zeroless b.name.toList) : a = b := by
  have hq (line : CageLine) (cage : Cage) :
      'q' ∈ zeroless (signal (.cageLine line cage)).name.toList :=
    List.mem_filter.mpr ⟨line.q_mem_nameAt cage.number, rfl⟩
  rcases fixed_or_cageLine a with ha | ⟨line, cage, rfl⟩
  · rcases fixed_or_cageLine b with hb | ⟨line', cage', rfl⟩
    · rw [zeroless_name_of_mem_fixed ha, zeroless_name_of_mem_fixed hb] at h
      exact name_injective (String.toList_injective h)
    · have hmem := hq line' cage'
      rw [← h, zeroless_name_of_mem_fixed ha] at hmem
      exact absurd hmem (q_notMem_fixed_name ha)
  · rcases fixed_or_cageLine b with hb | ⟨line', cage', rfl⟩
    · have hmem := hq line cage
      rw [h, zeroless_name_of_mem_fixed hb] at hmem
      exact absurd hmem (q_notMem_fixed_name hb)
    · have hlines : zeroless (line.nameAt cage.number).toList =
          zeroless (line'.nameAt cage'.number).toList := h
      rw [zeroless_nameAt, zeroless_nameAt] at hlines
      have hnumber : '_' ∉ zeroless (Nat.toDigits 10 cage.number) := fun hmem =>
        CageLine.notMem_toDigits rfl cage.number (List.mem_filter.mp hmem).1
      have hsplit := (List.append_cons_inj_of_notMem hnumber line.underscore_notMem_suffix).mp
        (List.append_cancel_left hlines)
      have hline : line = line' := by
        apply CageLine.eq_of_suffix_isPrefix
        rw [hsplit.2.2]
      rw [eq_of_zeroless_number hsplit.1, hline]

inductive Resembles (name : String) : String -> Prop where
  | part {other : String} (h : other.toList <:+: name.toList) : Resembles name other
  | padded {other : String} (h : name.toList <:+: other.toList) : Resembles name other
  | folded {other : String} (f : Folding)
      (h : name.toList.flatMap f.fold = other.toList.flatMap f.fold) : Resembles name other
  | zeros {other : String} (h : zeroless name.toList = zeroless other.toList) :
      Resembles name other

theorem eq_of_resembles {a b : Attribute} (h : Resembles a.name b.name) : a = b := by
  cases h with
  | part h => exact (eq_of_name_isInfix h).symm
  | padded h => exact eq_of_name_isInfix h
  | folded f h => exact eq_of_foldedName_eq f h
  | zeros h => exact eq_of_zerolessName_eq h

end Device.Attribute

/-!
# Entries of the catalog
-/

namespace Chip.Signal

theorem mem_ofLine_iff {line : CageLine} {s : Signal} :
    s ∈ ofLine line ↔ exists cage, cageLine line cage = s := by
  simp [ofLine, Cage.mem_all]

theorem nodup_ofLine (line : CageLine) : (ofLine line).Nodup := by
  have hcages : Cage.all.Nodup := (List.nodup_finRange 16).map fun i j h => Cage.mk.inj h
  exact hcages.map fun c d h => (cageLine.inj h).2

theorem nodup_all : all.Nodup := by
  simp [all, ledTests, controls, List.nodup_append, nodup_ofLine, mem_ofLine_iff, or_imp,
    forall_and]

end Chip.Signal

namespace Device.Attribute

theorem nodup_catalog : catalog.Nodup := by
  have hsignals : (Signal.ledTests ++ Signal.controls).Nodup := Signal.nodup_all
  rw [List.nodup_append] at hsignals
  have hmap {ss : List Signal} (h : ss.Nodup) : (ss.map signal).Nodup :=
    h.map fun s t h => signal.inj h
  simpa [catalog, List.nodup_append, hmap hsignals.1, hmap hsignals.2.1, or_imp, forall_and]
    using hsignals.2.2

theorem filter_catalog_of_find? {name : String} {a : Attribute} (h : find? name = some a) :
    catalog.filter (fun b => b.name == name) = [a] := by
  have hname := name_of_find?_eq_some h
  have hsame : forall b, b ∈ catalog -> (b.name == name) = (b == a) := by
    intro b _
    rw [Bool.eq_iff_iff, beq_iff_eq, beq_iff_eq, ← hname]
    exact ⟨name_injective, congrArg Attribute.name⟩
  rw [List.filter_congr hsame, List.filter_beq,
    List.count_eq_one_of_mem nodup_catalog (mem_catalog a), List.replicate_one]

end Device.Attribute

/-!
# The look-ups
-/

structure LookedUp (name : String) : Prop where
  named : forall s, Signal.find? name = some s ↔ s.name = name
  spelled : forall s, Signal.find? name = some s ↔ Signal.Spelling name s
  ofSignal : forall s,
    Attribute.find? name = some (.signal s) ↔ Signal.find? name = some s
  ofByte : forall entry, entry ∈ Attribute.byteNames ->
    (Attribute.find? name = some entry.2 ↔ name = entry.1) ∧
    (name = entry.1 -> Signal.find? name = none)
  otherwise : Attribute.find? name = none ↔
    Signal.find? name = none ∧ forall entry, entry ∈ Attribute.byteNames -> name ≠ entry.1
  unique : forall a, Attribute.find? name = some a ->
    Attribute.catalog.filter (fun b => b.name == name) = [a]
  lookalike : forall other, Attribute.find? name ≠ none -> Attribute.Resembles name other ->
    other ≠ name -> Attribute.find? other = none ∧ Signal.find? other = none

/-- Whatever the text, the signals and the attributes that are found are those with exactly
this name, and the names are those spelled out.  A text that resembles a name and is
another finds nothing. -/
theorem names_looked_up (name : String) : LookedUp name := by
  constructor
  case named => exact fun s => Signal.find?_eq_some_iff
  case spelled => exact fun s => Signal.find?_eq_some_iff_spelling
  case ofSignal => exact fun s => Attribute.find?_eq_signal_iff
  case ofByte =>
    intro entry hentry
    constructor
    · rw [Attribute.find?_eq_some_iff, (Attribute.name_of_mem_byteNames hentry).1]
      exact eq_comm
    · rintro rfl
      exact Attribute.signal_find?_of_mem_byteNames hentry
  case otherwise => exact Attribute.find?_eq_none_iff
  case unique => exact fun a => Attribute.filter_catalog_of_find?
  case lookalike =>
    intro other hname hresembles hne
    rcases Option.ne_none_iff_exists'.mp hname with ⟨a, ha⟩
    have hother : Attribute.find? other = none := by
      rw [Option.eq_none_iff_forall_ne_some]
      intro b hb
      rw [Attribute.find?_eq_some_iff] at ha hb
      subst ha hb
      exact hne (congrArg Attribute.name (Attribute.eq_of_resembles hresembles)).symm
    exact ⟨hother, (Attribute.find?_eq_none_iff.mp hother).1⟩

/-- The reset of cage 20 in capital letters, with a zero more, with a newline, and cut short. -/
theorem names_looked_up_lookalikes :
    LookedUp "qsfp20_rst" ∧
      Signal.find? "qsfp20_rst" = some (.cageLine .reset ⟨3⟩) ∧
      forall other, other ∈ ["QSFP20_RST", "qsfp020_rst", "qsfp20_rst\n", "qsfp20"] ->
        Attribute.find? other = none ∧ Signal.find? other = none := by
  have hname := names_looked_up "qsfp20_rst"
  have hsignal : Signal.find? "qsfp20_rst" = some (.cageLine .reset ⟨3⟩) :=
    (hname.named _).mpr (by decide +kernel)
  have hfound : Attribute.find? "qsfp20_rst" ≠ none := by
    rw [(hname.ofSignal _).mpr hsignal]
    exact Option.some_ne_none _
  refine ⟨hname, hsignal, ?_⟩
  intro other hother
  simp only [List.mem_cons, List.not_mem_nil, or_false] at hother
  rcases hother with rfl | rfl | rfl | rfl
  · exact hname.lookalike _ hfound (.folded .lower (by decide +kernel)) (by decide)
  · exact hname.lookalike _ hfound (.zeros (by decide +kernel)) (by decide)
  · exact hname.lookalike _ hfound (.padded (by decide +kernel)) (by decide)
  · exact hname.lookalike _ hfound (.part (by decide +kernel)) (by decide)

end CpldControl
