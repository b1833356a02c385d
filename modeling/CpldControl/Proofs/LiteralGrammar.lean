import Mathlib.Data.List.Basic
import Mathlib.Data.List.Induction
import Mathlib.Data.Nat.Digits.Defs
import CpldControl.Device.AttributeAccess

/-!
# The grammar of byte literals

A literal is put together from its parts: a sign or none, a marker or none, digits of
its radix in either case, and a final newline or none.  Taking a text apart from both
ends finds exactly these parts, because no digit is a sign, a newline or the letter of a
marker.

The main statements are `value?_eq_some_iff`, that the texts with a value are the
literals, and `byteOfText_exact`, what this makes of them as bytes.  `parse?_eq_guarded`
compares the reading with one that leaves the digits to a general reader of bytes, which
takes a sign of its own and stops at the first digit that leads out of range.
-/

namespace CpldControl
namespace Text

variable {radix : Radix}

/-!
# Digits
-/

/-- A digit as it is written.  The case makes a difference to letters only. -/
structure Digit (radix : Radix) where
  value : Fin radix.base
  upper : Bool

namespace Digit

def char (d : Digit radix) : Char :=
  if d.upper then (Nat.digitChar d.value).toUpper else Nat.digitChar d.value

theorem digit?_char (d : Digit radix) : radix.digit? d.char = some d.value.val := by
  rcases d with ⟨value, upper⟩
  revert value upper
  cases radix with
  | decimal => decide
  | hexadecimal => decide

theorem char_ne_of_digit?_eq_none {c : Char} (hc : radix.digit? c = none) (d : Digit radix) :
    d.char ≠ c := by
  intro h
  rw [← h, digit?_char] at hc
  cases hc

theorem char_ne_plus (d : Digit radix) : d.char ≠ '+' := by
  apply char_ne_of_digit?_eq_none
  cases radix <;> rfl

theorem char_ne_newline (d : Digit radix) : d.char ≠ '\n' := by
  apply char_ne_of_digit?_eq_none
  cases radix <;> rfl

theorem char_ne_markerLetter (d : Digit radix) : d.char ≠ 'x' ∧ d.char ≠ 'X' := by
  constructor
  · apply char_ne_of_digit?_eq_none
    cases radix <;> rfl
  · apply char_ne_of_digit?_eq_none
    cases radix <;> rfl

end Digit

theorem digitChar_of_digitValue? {c : Char} {v : Nat} (h : digitValue? c = some v) :
    Nat.digitChar v = c ∨ (Nat.digitChar v).toUpper = c := by
  have hlower : forall k : Fin 6, Nat.digitChar (10 + k) = Char.ofNat (97 + k) := by
    decide
  have hupper : forall k : Fin 6, (Nat.digitChar (10 + k)).toUpper = Char.ofNat (65 + k) := by
    decide
  unfold digitValue? at h
  split at h
  next hdecimal =>
    have hrange : 48 ≤ c.toNat ∧ c.toNat ≤ 57 := hdecimal
    cases h
    left
    apply Char.toNat_inj.mp
    rw [Nat.toNat_digitChar_of_lt_ten (by omega)]
    omega
  next =>
    split at h
    next hletter =>
      have hrange : 97 ≤ c.toNat ∧ c.toNat ≤ 102 := hletter
      cases h
      left
      have hchar := hlower ⟨c.toNat - 97, by omega⟩
      rw [show 10 + (c.toNat - 97) = c.toNat - 87 by omega,
        show 97 + (c.toNat - 97) = c.toNat by omega, Char.ofNat_toNat] at hchar
      exact hchar
    next =>
      split at h
      next hletter =>
        have hrange : 65 ≤ c.toNat ∧ c.toNat ≤ 70 := hletter
        cases h
        right
        have hchar := hupper ⟨c.toNat - 65, by omega⟩
        rw [show 10 + (c.toNat - 65) = c.toNat - 55 by omega,
          show 65 + (c.toNat - 65) = c.toNat by omega, Char.ofNat_toNat] at hchar
        exact hchar
      next => cases h

theorem exists_digit_of_digit? {c : Char} {v : Nat} (h : radix.digit? c = some v) :
    exists d : Digit radix, d.char = c ∧ d.value.val = v := by
  obtain ⟨hvalue, hrange⟩ := Option.filter_eq_some_iff.mp h
  have hrange : v < radix.base := by simpa using hrange
  rcases digitChar_of_digitValue? hvalue with hchar | hchar
  · exact ⟨⟨⟨v, hrange⟩, false⟩, hchar, rfl⟩
  · exact ⟨⟨⟨v, hrange⟩, true⟩, hchar, rfl⟩

theorem mapM_digit?_map_char (digits : List (Digit radix)) :
    (digits.map Digit.char).mapM radix.digit? = some (digits.map fun d => d.value.val) := by
  induction digits with
  | nil => rfl
  | cons d rest ih => simp [Digit.digit?_char, ih]

theorem exists_digits_of_mapM_digit? {cs : List Char} {values : List Nat}
    (h : cs.mapM radix.digit? = some values) :
    exists digits : List (Digit radix),
      digits.map Digit.char = cs ∧ digits.map (fun d => d.value.val) = values := by
  induction cs generalizing values with
  | nil =>
      cases h
      exact ⟨[], rfl, rfl⟩
  | cons c rest ih =>
      simp only [List.mapM_cons, Option.pure_def, Option.bind_eq_bind,
        Option.bind_eq_some_iff, Option.some.injEq] at h
      rcases h with ⟨v, hv, vs, hvs, rfl⟩
      rcases exists_digit_of_digit? hv with ⟨d, hchar, hvalue⟩
      rcases ih hvs with ⟨digits, hchars, hvalues⟩
      exact ⟨d :: digits, by rw [List.map_cons, hchar, hchars],
        by rw [List.map_cons, hvalue, hvalues]⟩

theorem ofDigits_eq (base : Nat) (values : List Nat) :
    ofDigits base values = Nat.ofDigits base values.reverse := by
  induction values using List.reverseRecOn with
  | nil => rfl
  | append_singleton values v ih =>
      rw [List.reverse_append, List.reverse_singleton, List.singleton_append, Nat.ofDigits_cons,
        ← ih]
      simp only [ofDigits, List.foldl_append, List.foldl_cons, List.foldl_nil, Nat.mul_comm base,
        Nat.add_comm v]

/-!
# Literals
-/

inductive Marker : Radix -> Type where
  | absent {radix : Radix} : Marker radix
  | lower : Marker .hexadecimal
  | upper : Marker .hexadecimal

def Marker.chars : Marker radix -> List Char
  | absent => []
  | lower => ['0', 'x']
  | upper => ['0', 'X']

structure Literal (radix : Radix) where
  plus : Bool
  marker : Marker radix
  digits : List (Digit radix)
  nonempty : digits ≠ []
  newline : Bool

namespace Literal

def front (l : Literal radix) : List Char :=
  (if l.plus then ['+'] else []) ++ (l.marker.chars ++ l.digits.map Digit.char)

def text (l : Literal radix) : String :=
  String.ofList (l.front ++ if l.newline then ['\n'] else [])

def value (l : Literal radix) : Nat :=
  Nat.ofDigits radix.base (l.digits.map fun d => d.value.val).reverse

end Literal

def Spells (radix : Radix) (text : String) (value : Nat) : Prop :=
  exists l : Literal radix, l.text = text ∧ l.value = value

/-!
# Taking a text apart
-/

namespace ByteLiteral

theorem eq_dropFinalNewline_append (cs : List Char) :
    exists newline : Bool, cs = dropFinalNewline cs ++ if newline then ['\n'] else [] := by
  unfold dropFinalNewline
  split
  next hlast =>
    refine ⟨true, ?_⟩
    exact (List.dropLast_append_getLast? '\n' hlast).symm
  next => exact ⟨false, (List.append_nil cs).symm⟩

theorem eq_append_dropSign (cs : List Char) :
    exists plus : Bool, cs = (if plus then ['+'] else []) ++ dropSign cs := by
  unfold dropSign
  split
  next => exact ⟨true, rfl⟩
  next => exact ⟨false, rfl⟩

theorem eq_append_dropMarker (radix : Radix) (cs : List Char) :
    exists marker : Marker radix, cs = marker.chars ++ dropMarker radix cs := by
  unfold dropMarker
  split
  next => exact ⟨.lower, rfl⟩
  next => exact ⟨.upper, rfl⟩
  next => exact ⟨.absent, rfl⟩

theorem exists_literal_of_body {text : String} {digits : List (Digit radix)}
    (hbody : body radix text = digits.map Digit.char) (hnonempty : digits ≠ []) :
    exists l : Literal radix, l.text = text ∧ l.digits = digits := by
  rcases eq_dropFinalNewline_append text.toList with ⟨newline, hnewline⟩
  rcases eq_append_dropSign (dropFinalNewline text.toList) with ⟨plus, hplus⟩
  rcases eq_append_dropMarker radix (dropSign (dropFinalNewline text.toList)) with
    ⟨marker, hmarker⟩
  refine ⟨⟨plus, marker, digits, hnonempty, newline⟩, ?_, rfl⟩
  apply String.toList_injective
  rw [Literal.text, String.toList_ofList, Literal.front, ← hbody, body, ← hmarker, ← hplus]
  exact hnewline.symm

/-!
# Putting a literal together
-/

theorem dropFinalNewline_append_newline {cs : List Char} (hlast : cs.getLast? ≠ some '\n')
    (newline : Bool) : dropFinalNewline (cs ++ if newline then ['\n'] else []) = cs := by
  cases newline with
  | true => simp [dropFinalNewline]
  | false => simp [dropFinalNewline, hlast]

theorem dropSign_append_plus {cs : List Char} (hfirst : cs.head? ≠ some '+') (plus : Bool) :
    dropSign ((if plus then ['+'] else []) ++ cs) = cs := by
  cases plus with
  | true => rfl
  | false =>
      unfold dropSign
      split
      next hplus =>
        rw [show cs = _ from hplus] at hfirst
        exact absurd rfl hfirst
      next => rfl

theorem dropMarker_append_chars (marker : Marker radix) (digits : List (Digit radix)) :
    dropMarker radix (marker.chars ++ digits.map Digit.char) = digits.map Digit.char := by
  cases marker with
  | lower => rfl
  | upper => rfl
  | absent =>
      -- the letter of a marker would have to be the second digit
      unfold dropMarker
      split
      next hchars =>
        rcases List.map_eq_cons_iff.mp hchars with ⟨_, _, _, _, hrest⟩
        rcases List.map_eq_cons_iff.mp hrest with ⟨d, _, _, hx, _⟩
        exact absurd hx d.char_ne_markerLetter.1
      next hchars =>
        rcases List.map_eq_cons_iff.mp hchars with ⟨_, _, _, _, hrest⟩
        rcases List.map_eq_cons_iff.mp hrest with ⟨d, _, _, hx, _⟩
        exact absurd hx d.char_ne_markerLetter.2
      next => rfl

theorem body_text (l : Literal radix) : body radix l.text = l.digits.map Digit.char := by
  rcases l with ⟨plus, marker, digits, hnonempty, newline⟩
  have hlast (front : List Char) :
      (front ++ digits.map Digit.char).getLast? ≠ some '\n' := by
    rcases List.eq_nil_or_concat digits with hnil | ⟨first, last, rfl⟩
    · exact absurd hnil hnonempty
    · simp [last.char_ne_newline]
  have hfirst : (marker.chars ++ digits.map Digit.char).head? ≠ some '+' := by
    cases marker with
    | lower => simp [Marker.chars]
    | upper => simp [Marker.chars]
    | absent =>
        cases digits with
        | nil => simp [Marker.chars]
        | cons d rest => simp [Marker.chars, d.char_ne_plus]
  have hfront := hlast ((if plus then ['+'] else []) ++ marker.chars)
  rw [List.append_assoc] at hfront
  rw [body, Literal.text, String.toList_ofList, Literal.front,
    dropFinalNewline_append_newline hfront, dropSign_append_plus hfirst,
    dropMarker_append_chars]

theorem value?_eq_some_iff {text : String} {value : Nat} :
    value? radix text = some value ↔ Spells radix text value := by
  unfold value? numeral?
  constructor
  · intro h
    split at h
    next => cases h
    next hnonempty =>
      rcases Option.map_eq_some_iff.mp h with ⟨values, hvalues, rfl⟩
      rcases exists_digits_of_mapM_digit? hvalues with ⟨digits, hchars, rfl⟩
      have hdigits : digits ≠ [] := by
        rintro rfl
        exact hnonempty (by rw [← hchars]; rfl)
      rcases exists_literal_of_body hchars.symm hdigits with ⟨l, htext, rfl⟩
      exact ⟨l, htext, (ofDigits_eq _ _).symm⟩
  · rintro ⟨l, rfl, rfl⟩
    have hnonempty : (l.digits.map Digit.char).isEmpty = false := by
      simpa using l.nonempty
    rw [body_text, hnonempty, mapM_digit?_map_char, Option.map_some, ofDigits_eq]
    rfl

theorem spells_unique {text : String} {value other : Nat} (hvalue : Spells radix text value)
    (hother : Spells radix text other) : value = other := by
  rw [← value?_eq_some_iff] at hvalue hother
  exact Option.some.inj (hvalue.symm.trans hother)

/-!
# Leaving the digits to a general reader
-/

def pushDigit? (base : Nat) (b : Byte) (digit : Nat) : Option Byte :=
  let next := b.toNat * base + digit
  if next < 256 then some (BitVec.ofNat 8 next) else none

def readDigits? (radix : Radix) : Byte -> List Char -> Option Byte
  | b, [] => some b
  | b, c :: cs => do
      let digit ← radix.digit? c
      let next ← pushDigit? radix.base b digit
      readDigits? radix next cs

/-- The general reader: a sign of its own, and at least one digit. -/
def readByte? (radix : Radix) (cs : List Char) : Option Byte :=
  if (dropSign cs).isEmpty then none else readDigits? radix 0 (dropSign cs)

theorem le_foldl_digits (radix : Radix) (values : List Nat) (start : Nat) :
    start ≤ values.foldl (fun value digit => value * radix.base + digit) start := by
  induction values generalizing start with
  | nil => exact Nat.le_refl start
  | cons v rest ih =>
      have hbase : 1 ≤ radix.base := by
        cases radix <;> decide
      calc
        start ≤ start * radix.base := Nat.le_mul_of_pos_right start hbase
        _ ≤ start * radix.base + v := Nat.le_add_right _ _
        _ ≤ _ := ih _

/-- Stopping at the first digit that leads out of range makes no difference to the
result, since more digits never lead back. -/
theorem readDigits?_eq (cs : List Char) (b : Byte) :
    readDigits? radix b cs =
      (((cs.mapM radix.digit?).map fun values =>
        values.foldl (fun value digit => value * radix.base + digit) b.toNat).filter
          (· < 256)).map (BitVec.ofNat 8) := by
  induction cs generalizing b with
  | nil =>
      have hb := b.isLt
      simp [readDigits?, Option.filter, hb]
  | cons c rest ih =>
      rw [readDigits?, List.mapM_cons]
      cases hdigit : radix.digit? c with
      | none => rfl
      | some digit =>
          by_cases hrange : b.toNat * radix.base + digit < 256
          · have hnext : (BitVec.ofNat 8 (b.toNat * radix.base + digit)).toNat =
                b.toNat * radix.base + digit := by
              rw [BitVec.toNat_ofNat]
              exact Nat.mod_eq_of_lt hrange
            have hpush : pushDigit? radix.base b digit =
                some (BitVec.ofNat 8 (b.toNat * radix.base + digit)) := if_pos hrange
            simp only [hpush, Option.bind_eq_bind, Option.bind_some, ih, hnext]
            cases rest.mapM radix.digit? with
            | none => rfl
            | some values => rfl
          · have hpush : pushDigit? radix.base b digit = none := if_neg hrange
            simp only [hpush, Option.bind_eq_bind, Option.bind_some, Option.bind_none]
            cases rest.mapM radix.digit? with
            | none => rfl
            | some values =>
                have hle := le_foldl_digits radix values (b.toNat * radix.base + digit)
                have hout : ¬ values.foldl (fun value digit => value * radix.base + digit)
                    (b.toNat * radix.base + digit) < 256 := by omega
                simp [Option.filter, hout]

theorem readByte?_eq (cs : List Char) :
    readByte? radix cs =
      ((numeral? radix (dropSign cs)).filter (· < 256)).map (BitVec.ofNat 8) := by
  unfold readByte? numeral?
  split
  next => rfl
  next => exact readDigits?_eq _ 0

/-- Reading the digits of a body amounts to the general reader, with a second sign turned
down before the reader takes it. -/
theorem parse?_eq_guarded (radix : Radix) (text : String) :
    parse? radix text =
      if (body radix text).head? = some '+' then none
      else readByte? radix (body radix text) := by
  unfold parse? value?
  split
  next hplus =>
    have hnone : numeral? radix (body radix text) = none := by
      rcases List.head?_eq_some_iff.mp hplus with ⟨rest, hbody⟩
      have hsign : radix.digit? '+' = none := by
        cases radix <;> rfl
      rw [hbody, numeral?, List.mapM_cons, hsign]
      rfl
    rw [hnone]
    rfl
  next hplus =>
    have hsign := dropSign_append_plus hplus false
    rw [readByte?_eq]
    exact congrArg (fun cs => ((numeral? radix cs).filter (· < 256)).map (BitVec.ofNat 8))
      hsign.symm

end ByteLiteral
end Text

/-!
# Literals as bytes
-/

namespace Device

open Text (Radix Spells)

/-- A text is taken for a byte exactly if it is a literal of the radix that spells the
byte; every other text, whether it is no literal or spells a number above 255, is
refused as an invalid input. -/
theorem byteOfText_exact (radix : Radix) (text : String) :
    (forall b, byteOfText radix text = .ok b ↔ Spells radix text b.toNat) ∧
    (byteOfText radix text = .error .invalidInput ↔
      forall value, Spells radix text value -> 255 < value) := by
  simp only [← Text.ByteLiteral.value?_eq_some_iff]
  unfold byteOfText
  constructor
  · intro b
    rw [← Text.ByteLiteral.parse?_eq_some_iff]
    cases Text.ByteLiteral.parse? radix text <;> simp
  · change _ ↔ forall value, _ -> 256 ≤ value
    rw [← Text.ByteLiteral.parse?_eq_none_iff]
    cases Text.ByteLiteral.parse? radix text <;> simp

-- a second sign, marker or newline, a blank, a minus, a null and a foreign digit are out of
-- place, and the last is out of range
example : forall text, text ∈ ["++1", "+0x+1", "0x", "0x0x1", "1\n\n", " 1", "-1",
    "1\u0000", "\u0663", "0100"] -> Text.ByteLiteral.parse? .hexadecimal text = none := by
  decide +kernel

end Device
end CpldControl
