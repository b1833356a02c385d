import CpldControl.Text.Numeral

/-!
# Byte literals typed by an operator

A literal is an optional plus sign, in hexadecimal an optional `0x` or `0X`
marker, one or more digits of the radix, and an optional final newline, in this
order and with nothing else.  It denotes a byte, so its value is at most 255
however many digits spell it.
-/

namespace CpldControl
namespace Text
namespace ByteLiteral

def dropFinalNewline (cs : List Char) : List Char :=
  if cs.getLast? = some '\n' then cs.dropLast else cs

def dropSign : List Char -> List Char
  | '+' :: cs => cs
  | cs => cs

def dropMarker : Radix -> List Char -> List Char
  | .hexadecimal, '0' :: 'x' :: cs => cs
  | .hexadecimal, '0' :: 'X' :: cs => cs
  | _, cs => cs

def body (radix : Radix) (text : String) : List Char :=
  dropMarker radix (dropSign (dropFinalNewline text.toList))

def value? (radix : Radix) (text : String) : Option Nat :=
  numeral? radix (body radix text)

/-- The byte a literal denotes; a sign or a marker inside the body is no digit
and so refuses the text. -/
def parse? (radix : Radix) (text : String) : Option Byte :=
  ((value? radix text).filter (· < 256)).map (BitVec.ofNat 8)

theorem parse?_eq_some_iff {radix : Radix} {text : String} {b : Byte} :
    parse? radix text = some b ↔ value? radix text = some b.toNat := by
  constructor
  · intro h
    obtain ⟨n, hn, hb⟩ := Option.map_eq_some_iff.mp h
    obtain ⟨hvalue, hlt⟩ := Option.filter_eq_some_iff.mp hn
    have hlt : n < 256 := by simpa using hlt
    rw [hvalue, ← hb]
    simp [Nat.mod_eq_of_lt hlt]
  · intro h
    have hlt := b.isLt
    simp [parse?, h, Option.filter, hlt]

theorem parse?_of_value? {radix : Radix} {text : String} {n : Nat}
    (hvalue : value? radix text = some n) (hrange : n < 256) :
    parse? radix text = some (BitVec.ofNat 8 n) := by
  have htoNat : (BitVec.ofNat 8 n).toNat = n := by
    rw [BitVec.toNat_ofNat]
    omega
  rw [parse?_eq_some_iff, htoNat, hvalue]

theorem parse?_eq_none_iff {radix : Radix} {text : String} :
    parse? radix text = none ↔
      ∀ n, value? radix text = some n -> 256 ≤ n := by
  cases h : value? radix text with
  | none => simp [parse?, h]
  | some n => simp [parse?, h, Option.filter]

end ByteLiteral
end Text
end CpldControl
