import CpldControl.Byte

/-!
# Positional numerals

Numbers leave the library as decimal text and bytes as decimal or hexadecimal
text; numbers enter it as the digits of an operator's input.  Digits are ASCII.
Both letter cases are read, lower case is written, and a reader accepts any
number of leading zeros.

The main statement is `numeral?_hexPair`: the two digits written for a byte
read back as that byte.
-/

namespace CpldControl
namespace Text

inductive Radix where
  | decimal
  | hexadecimal
deriving DecidableEq

/-!
# Reading
-/

def Radix.base : Radix -> Nat
  | decimal => 10
  | hexadecimal => 16

def digitValue? (c : Char) : Option Nat :=
  if '0' ≤ c ∧ c ≤ '9' then
    some (c.toNat - 48)
  else if 'a' ≤ c ∧ c ≤ 'f' then
    some (c.toNat - 87)
  else if 'A' ≤ c ∧ c ≤ 'F' then
    some (c.toNat - 55)
  else
    none

def Radix.digit? (radix : Radix) (c : Char) : Option Nat :=
  (digitValue? c).filter (· < radix.base)

def ofDigits (base : Nat) (digits : List Nat) : Nat :=
  digits.foldl (fun value digit => value * base + digit) 0

def numeral? (radix : Radix) (cs : List Char) : Option Nat :=
  if cs.isEmpty then
    none
  else
    (cs.mapM radix.digit?).map (ofDigits radix.base)

/-!
# Writing
-/

def decimal (n : Nat) : String :=
  String.ofList (Nat.toDigits 10 n)

def hexPair (b : Byte) : List Char :=
  [Nat.digitChar (b.toNat / 16), Nat.digitChar (b.toNat % 16)]

def hex2 (b : Byte) : String :=
  String.ofList (hexPair b)

def hex (b : Byte) : String :=
  if b.toNat < 16 then
    String.ofList [Nat.digitChar b.toNat]
  else
    hex2 b

@[simp] theorem toList_hex2 (b : Byte) : (hex2 b).toList = hexPair b := by
  simp [hex2]

theorem numeral?_hexPair (b : Byte) :
    numeral? .hexadecimal (hexPair b) = some b.toNat := by
  revert b
  decide +kernel

theorem hexPair_injective {b c : Byte} (h : hexPair b = hexPair c) : b = c := by
  have hvalue : some b.toNat = some c.toNat := by
    rw [← numeral?_hexPair b, ← numeral?_hexPair c, h]
  exact BitVec.eq_of_toNat_eq (Option.some.inj hvalue)

theorem hex2_injective {b c : Byte} (h : hex2 b = hex2 c) : b = c := by
  apply hexPair_injective
  rw [← toList_hex2, h, toList_hex2]

end Text
end CpldControl
