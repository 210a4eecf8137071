import Mathlib

/-
# Lib.Positional — numbers written with a fixed count of digits

`digits b w n` are the `w` lowest digits of `n` in base `b`, the highest of them first; `value b` reads
any row of digits. A number below `b ^ w` survives.
-/

namespace SecureCloud.Lib.Positional

open List

/-- The value of a hexadecimal digit, of either case. -/
def hexVal (c : Char) : Option Nat :=
  if '0' ≤ c ∧ c ≤ '9' then some (c.toNat - '0'.toNat)
  else if 'a' ≤ c ∧ c ≤ 'f' then some (c.toNat - 'a'.toNat + 10)
  else if 'A' ≤ c ∧ c ≤ 'F' then some (c.toNat - 'A'.toNat + 10)
  else none

variable (b : Nat)

def digits : Nat → Nat → List Nat
  | 0, _ => []
  | width + 1, n => digits width (n / b) ++ [n % b]

def value (row : List Nat) : Nat := row.foldl (fun acc d => acc * b + d) 0

variable {b}

@[simp] theorem length_digits (width n : Nat) : (digits b width n).length = width := by
  induction width generalizing n with
  | zero => rfl
  | succ width ih => rw [digits, length_append, ih, length_singleton]

theorem lt_of_mem_digits (hb : 0 < b) {width n d : Nat} (h : d ∈ digits b width n) : d < b := by
  induction width generalizing n with
  | zero => cases h
  | succ width ih =>
    rw [digits, mem_append, mem_singleton] at h
    rcases h with h | rfl
    · exact ih h
    · exact Nat.mod_lt _ hb

theorem value_concat (row : List Nat) (d : Nat) : value b (row ++ [d]) = value b row * b + d := by
  rw [value, foldl_append]
  rfl

theorem value_digits (width n : Nat) : value b (digits b width n) = n % b ^ width := by
  induction width generalizing n with
  | zero => simp [digits, value, Nat.mod_one]
  | succ width ih =>
    rw [digits, value_concat, ih, Nat.pow_succ, Nat.mul_comm (b ^ width) b, Nat.mod_mul, Nat.mul_comm b,
      Nat.add_comm]

end SecureCloud.Lib.Positional
