import CpldControl.Chip.Access

/-!
# Front panel cages and their control lines

A cage takes one pluggable module.  The chip drives sixteen QSFP cages, numbered
17 to 32 on the front panel.  Each cage has five lines, and each line of eight
consecutive cages shares a register: cages 17 to 24 form the low bank, 25 to 32
the high one.  Within a bank the lowest number has the most significant bit.

The main statements are `ofNumber?_eq_some_iff`, that a number names the cage
that carries it, and `eq_of_bank_eq_of_bit_eq`, that two cages of one bank never
share a bit.
-/

namespace CpldControl
namespace Chip

inductive Bank where
  | low
  | high
deriving DecidableEq

/-!
# Cages
-/

structure Cage where
  /-- The distance from the lowest cage. -/
  index : Fin 16
deriving DecidableEq

namespace Cage

def firstNumber : Nat := 17

def lastNumber : Nat := 32

def perBank : Nat := 8

def number (p : Cage) : Nat :=
  firstNumber + p.index.val

def ofNumber? (n : Nat) : Option Cage :=
  if h : firstNumber ≤ n ∧ n ≤ lastNumber then
    some ⟨⟨n - firstNumber, by simp only [firstNumber, lastNumber] at h ⊢; omega⟩⟩
  else
    none

def all : List Cage :=
  (List.finRange 16).map Cage.mk

def bank (p : Cage) : Bank :=
  if p.index.val < perBank then .low else .high

def bit (p : Cage) : Fin 8 :=
  ⟨7 - p.index.val % 8, by omega⟩

theorem ofNumber?_eq_some_iff {n : Nat} {p : Cage} :
    ofNumber? n = some p ↔ p.number = n := by
  cases p with
  | mk index =>
      have hindex := index.isLt
      by_cases h : firstNumber ≤ n ∧ n ≤ lastNumber
      · rw [ofNumber?, dif_pos h]
        simp only [firstNumber, lastNumber] at h
        simp only [number, firstNumber, Option.some.injEq, Cage.mk.injEq, Fin.ext_iff]
        omega
      · rw [ofNumber?, dif_neg h]
        simp only [firstNumber, lastNumber] at h
        simp only [number, firstNumber, reduceCtorEq, false_iff]
        omega

theorem ofNumber?_eq_none_iff {n : Nat} :
    ofNumber? n = none ↔ n < firstNumber ∨ lastNumber < n := by
  by_cases h : firstNumber ≤ n ∧ n ≤ lastNumber
  · rw [ofNumber?, dif_pos h]
    simp only [reduceCtorEq, false_iff]
    omega
  · rw [ofNumber?, dif_neg h]
    simp only [true_iff]
    omega

@[simp] theorem ofNumber?_number (p : Cage) : ofNumber? p.number = some p :=
  ofNumber?_eq_some_iff.mpr rfl

theorem number_injective {p q : Cage} (h : p.number = q.number) : p = q := by
  have hsome : some p = some q := by
    rw [← ofNumber?_number p, ← ofNumber?_number q, h]
  exact Option.some.inj hsome

theorem mem_all (p : Cage) : p ∈ all := by
  cases p with
  | mk index =>
      exact List.mem_map.mpr ⟨index, List.mem_finRange index, rfl⟩

theorem eq_of_bank_eq_of_bit_eq {p q : Cage} (hbank : p.bank = q.bank)
    (hbit : p.bit = q.bit) : p = q := by
  cases p with
  | mk i =>
      cases q with
      | mk j =>
          revert i j
          decide

end Cage

/-!
# The lines of a cage
-/

inductive CageLine where
  | reset
  | lowPower
  | select
  | present
  | interrupt
deriving DecidableEq

namespace CageLine

def all : List CageLine :=
  [reset, lowPower, select, present, interrupt]

def suffix : CageLine -> String
  | reset => "rst"
  | lowPower => "lpmod"
  | select => "modsel"
  | present => "prs"
  | interrupt => "int"

def access : CageLine -> Access
  | reset => .readWrite
  | lowPower => .readWrite
  | select => .readWrite
  | present => .readOnly
  | interrupt => .readOnly

theorem mem_all (line : CageLine) : line ∈ all := by
  cases line <;> decide

end CageLine
end Chip
end CpldControl
