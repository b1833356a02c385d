import CpldControl.Chip.Register

/-!
# Named signals

A signal is one bit of one register, known by name.  Ninety signals make up the
table: four that test the front panel LEDs, the soft reset, the lines of the
sixteen cages, the hitless enable and four lines of the SFP cage.

The main statements are `eq_of_place_eq`, that no two signals have the same bit
of the same register, `mem_all`, that the table misses none, and
`ofCage_eq_cageLine`, that a cage line is found by its position.
-/

namespace CpldControl
namespace Chip

inductive Signal where
  | ledAmber
  | ledGreen
  | ledBlink
  /-- Whether the LEDs show the test register instead of the switch chip. -/
  | ledSource
  | softReset
  | cageLine (line : CageLine) (cage : Cage)
  | hitlessEnable
  | sfpTransmitFault
  | sfpReceiveLoss
  | sfpPresent
  | sfpTransmitEnable
deriving DecidableEq

namespace Signal

def name : Signal -> String
  | ledAmber => "led_test_amb"
  | ledGreen => "led_test_grn"
  | ledBlink => "led_test_blink"
  | ledSource => "led_test_src_sel"
  | softReset => "rst_pld_soft"
  | cageLine line cage => "qsfp" ++ Text.decimal cage.number ++ "_" ++ line.suffix
  | hitlessEnable => "hitless_en"
  | sfpTransmitFault => "sfp_tx_fault"
  | sfpReceiveLoss => "sfp_rx_los"
  | sfpPresent => "sfp_prs"
  | sfpTransmitEnable => "sfp_tx_en"

def register : Signal -> Register
  | ledAmber => .ledTest
  | ledGreen => .ledTest
  | ledBlink => .ledTest
  | ledSource => .ledTest
  | softReset => .reset
  | cageLine line cage => .ofCage line cage
  | hitlessEnable => .hitless
  | sfpTransmitFault => .sfpStatus
  | sfpReceiveLoss => .sfpStatus
  | sfpPresent => .sfpStatus
  | sfpTransmitEnable => .sfpControl

def bit : Signal -> Fin 8
  | ledAmber => 0
  | ledGreen => 1
  | ledBlink => 3
  | ledSource => 7
  | softReset => 0
  | cageLine _ cage => cage.bit
  | hitlessEnable => 0
  | sfpTransmitFault => 4
  | sfpReceiveLoss => 5
  | sfpPresent => 6
  | sfpTransmitEnable => 7

def access : Signal -> Access
  | ledAmber => .readWrite
  | ledGreen => .readWrite
  | ledBlink => .readWrite
  | ledSource => .readWrite
  | softReset => .readWrite
  | cageLine .reset _ => .readWrite
  | cageLine .lowPower _ => .readWrite
  | cageLine .select _ => .readWrite
  | cageLine .present _ => .readOnly
  | cageLine .interrupt _ => .readOnly
  | hitlessEnable => .readOnly
  | sfpTransmitFault => .readOnly
  | sfpReceiveLoss => .readOnly
  | sfpPresent => .readOnly
  | sfpTransmitEnable => .readWrite

/-- What the table says of a cage line is what holds of all lines of its kind. -/
@[simp] theorem access_cageLine (line : CageLine) (cage : Cage) :
    (cageLine line cage).access = line.access := by
  cases line <;> rfl

def isReadable (s : Signal) : Bool :=
  s.access.isReadable

def isWritable (s : Signal) : Bool :=
  s.access.isWritable

@[simp] theorem isWritable_cageLine (line : CageLine) (cage : Cage) :
    (cageLine line cage).isWritable = line.access.isWritable := by
  rw [isWritable, access_cageLine]

/-!
# A signal in the byte of its register
-/

def levelIn (s : Signal) (b : Byte) : Bool :=
  b.bit s.bit

def driveIn (s : Signal) (b : Byte) (level : Bool) : Byte :=
  b.withBit s.bit level

@[simp] theorem levelIn_driveIn_self (s : Signal) (b : Byte) (level : Bool) :
    s.levelIn (s.driveIn b level) = level := by
  simp [levelIn, driveIn]

theorem levelIn_driveIn_of_bit_ne {s t : Signal} {b : Byte} {level : Bool}
    (h : t.bit ≠ s.bit) :
    t.levelIn (s.driveIn b level) = t.levelIn b := by
  simp [levelIn, driveIn, Byte.bit_withBit_of_ne h]

/-!
# The table
-/

def ledTests : List Signal :=
  [ledAmber, ledGreen, ledBlink, ledSource]

def ofLine (line : CageLine) : List Signal :=
  Cage.all.map (cageLine line)

def controls : List Signal :=
  [softReset] ++ ofLine .reset ++ ofLine .lowPower ++ ofLine .select ++
    [hitlessEnable] ++ ofLine .present ++ ofLine .interrupt ++
    [sfpTransmitFault, sfpReceiveLoss, sfpPresent, sfpTransmitEnable]

def all : List Signal :=
  ledTests ++ controls

def find? (name : String) : Option Signal :=
  all.find? (·.name == name)

theorem mem_all (s : Signal) : s ∈ all := by
  cases s with
  | cageLine line cage =>
      have hcage := Cage.mem_all cage
      cases line <;> simp [all, controls, ofLine, hcage]
  | _ => decide

theorem name_of_find?_eq_some {name : String} {s : Signal}
    (h : find? name = some s) : s.name = name := by
  have hname := List.find?_some h
  simpa using hname

theorem isReadable_eq_true (s : Signal) : s.isReadable = true := by
  cases s with
  | cageLine line cage => cases line <;> rfl
  | _ => rfl

/-!
# Places

A signal is found in the chip by its place, its register and its bit.  The fixed
signals have places apart from each other, and none in a register of cage lines.
-/

def fixed : List Signal :=
  ledTests ++
    [softReset, hitlessEnable, sfpTransmitFault, sfpReceiveLoss, sfpPresent, sfpTransmitEnable]

theorem mem_fixed_or_cageLine (s : Signal) :
    s ∈ fixed ∨ exists line cage, s = cageLine line cage := by
  cases s with
  | cageLine line cage => exact .inr ⟨line, cage, rfl⟩
  | _ => exact .inl (by decide)

theorem eq_of_fixed_of_place_eq {s t : Signal} (hs : s ∈ fixed) (ht : t ∈ fixed)
    (hregister : s.register = t.register) (hbit : s.bit = t.bit) : s = t := by
  have hall : forall s, s ∈ fixed -> forall t, t ∈ fixed ->
      s.register = t.register -> s.bit = t.bit -> s = t := by
    decide
  exact hall s hs t ht hregister hbit

theorem register_ne_of_mem_fixed {s : Signal} (hs : s ∈ fixed) (line : CageLine)
    (cage : Cage) : s.register ≠ (cageLine line cage).register := by
  have hall : forall s, s ∈ fixed -> forall line bank,
      s.register ≠ .cageLines line bank := by
    simp [fixed, ledTests, register]
  exact hall s hs line cage.bank

theorem cageLine_eq_of_place_eq {line line' : CageLine} {cage cage' : Cage}
    (hregister : (cageLine line cage).register = (cageLine line' cage').register)
    (hbit : (cageLine line cage).bit = (cageLine line' cage').bit) :
    cageLine line cage = cageLine line' cage' := by
  rcases Register.cageLines.inj hregister with ⟨rfl, hbank⟩
  rw [Cage.eq_of_bank_eq_of_bit_eq hbank hbit]

/-- No two signals have the same bit of the same register. -/
theorem eq_of_place_eq {s t : Signal} (hregister : s.register = t.register)
    (hbit : s.bit = t.bit) : s = t := by
  rcases mem_fixed_or_cageLine s with hs | ⟨line, cage, rfl⟩
  · rcases mem_fixed_or_cageLine t with ht | ⟨line', cage', rfl⟩
    · exact eq_of_fixed_of_place_eq hs ht hregister hbit
    · exact absurd hregister (register_ne_of_mem_fixed hs line' cage')
  · rcases mem_fixed_or_cageLine t with ht | ⟨line', cage', rfl⟩
    · exact absurd hregister.symm (register_ne_of_mem_fixed ht line cage)
    · exact cageLine_eq_of_place_eq hregister hbit

end Signal

/-!
# Cage lines by position

The table holds the lines of one kind in a row, one for each cage.  So the position
of a cage line is where its kind begins, and the cage from there.
-/

/-- How many signals come before those of a line.  The LED tests and the soft reset are in
front of all, and the hitless enable stands between the lines that can be driven and
the others. -/
def CageLine.tableBase : CageLine -> Nat
  | reset => 4 + 1
  | lowPower => 4 + 1 + 16
  | select => 4 + 1 + 2 * 16
  | present => 4 + 1 + 3 * 16 + 1
  | interrupt => 4 + 1 + 4 * 16 + 1

namespace Signal

theorem exists_all_eq_append (line : CageLine) :
    exists front back, all = front ++ (ofLine line ++ back) ∧ front.length = line.tableBase := by
  cases line with
  | reset =>
      exact ⟨ledTests ++ [softReset],
        ofLine .lowPower ++ ofLine .select ++ [hitlessEnable] ++ ofLine .present ++
          ofLine .interrupt ++ [sfpTransmitFault, sfpReceiveLoss, sfpPresent, sfpTransmitEnable],
        by simp only [all, controls, List.append_assoc], rfl⟩
  | lowPower =>
      exact ⟨ledTests ++ [softReset] ++ ofLine .reset,
        ofLine .select ++ [hitlessEnable] ++ ofLine .present ++ ofLine .interrupt ++
          [sfpTransmitFault, sfpReceiveLoss, sfpPresent, sfpTransmitEnable],
        by simp only [all, controls, List.append_assoc], rfl⟩
  | select =>
      exact ⟨ledTests ++ [softReset] ++ ofLine .reset ++ ofLine .lowPower,
        [hitlessEnable] ++ ofLine .present ++ ofLine .interrupt ++
          [sfpTransmitFault, sfpReceiveLoss, sfpPresent, sfpTransmitEnable],
        by simp only [all, controls, List.append_assoc], rfl⟩
  | present =>
      exact ⟨ledTests ++ [softReset] ++ ofLine .reset ++ ofLine .lowPower ++ ofLine .select ++
          [hitlessEnable],
        ofLine .interrupt ++ [sfpTransmitFault, sfpReceiveLoss, sfpPresent, sfpTransmitEnable],
        by simp only [all, controls, List.append_assoc], rfl⟩
  | interrupt =>
      exact ⟨ledTests ++ [softReset] ++ ofLine .reset ++ ofLine .lowPower ++ ofLine .select ++
          [hitlessEnable] ++ ofLine .present,
        [sfpTransmitFault, sfpReceiveLoss, sfpPresent, sfpTransmitEnable],
        by simp only [all, controls, List.append_assoc], rfl⟩

theorem getElem?_ofLine (line : CageLine) (cage : Cage) :
    (ofLine line)[cage.index.val]? = some (cageLine line cage) := by
  rw [ofLine, Cage.all, List.getElem?_map, List.getElem?_map,
    List.getElem?_eq_getElem (by simp), List.getElem_finRange]
  rfl

theorem getElem?_all (line : CageLine) (cage : Cage) :
    all[line.tableBase + cage.index.val]? = some (cageLine line cage) := by
  rcases exists_all_eq_append line with ⟨front, back, hall, hlength⟩
  have hindex : cage.index.val < (ofLine line).length := by
    simp [ofLine, Cage.all]
  rw [hall, ← hlength, List.getElem?_append_right (Nat.le_add_right _ _),
    Nat.add_sub_cancel_left, List.getElem?_append_left hindex, getElem?_ofLine]

theorem position_lt_length (line : CageLine) (cage : Cage) :
    line.tableBase + cage.index.val < all.length :=
  (List.getElem?_eq_some_iff.mp (getElem?_all line cage)).1

def ofCage (line : CageLine) (cage : Cage) : Signal :=
  all.get ⟨line.tableBase + cage.index.val, position_lt_length line cage⟩

@[simp] theorem ofCage_eq_cageLine (line : CageLine) (cage : Cage) :
    ofCage line cage = cageLine line cage :=
  (List.getElem?_eq_some_iff.mp (getElem?_all line cage)).2

end Signal
end Chip
end CpldControl
