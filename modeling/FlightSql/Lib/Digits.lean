/-
  DECIMAL DIGITS — natural numbers as digit strings and back.

  `fixed w n` are the last `w` digits of `n`, `natText n` all of them.  `value` reads any digit string;
  it gives back `n % 10 ^ w` and `n` (`value_fixed`, `value_natText`), and reads two strings in a row as
  one (`valueFrom_append`).
-/
import Mathlib.Algebra.Group.Nat.Defs

set_option linter.unusedVariables false

namespace FlightSql.Lib.Digits

/-- The last digit. -/
def digit (n : Nat) : Char := Char.ofNat (48 + n % 10)

/-- The value of a digit. -/
def digitValue (c : Char) : Option Nat :=
  if 48 ≤ c.toNat ∧ c.toNat ≤ 57 then some (c.toNat - 48) else none

def isDigit (c : Char) : Bool := (digitValue c).isSome

theorem digitValue_digit (n : Nat) : digitValue (digit n) = some (n % 10) := by
  have hall : ∀ d : Fin 10, digitValue (Char.ofNat (48 + d)) = some d.val := by decide
  exact hall ⟨n % 10, Nat.mod_lt n (by omega)⟩

/-! ## Reading -/

/-- Digits read after others of value `acc`. -/
def valueFrom (acc : Nat) : List Char → Option Nat
  | [] => some acc
  | c :: cs => (digitValue c).bind fun d => valueFrom (acc * 10 + d) cs

/-- **The value of a digit string**. -/
def value (cs : List Char) : Option Nat := valueFrom 0 cs

theorem valueFrom_append (acc : Nat) (xs ys : List Char) :
    valueFrom acc (xs ++ ys) = (valueFrom acc xs).bind fun v => valueFrom v ys := by
  induction xs generalizing acc with
  | nil => rfl
  | cons c xs ih =>
    rw [List.cons_append, valueFrom, valueFrom]
    cases digitValue c with
    | none => rfl
    | some d => exact ih (acc * 10 + d)

/-- Only digits have a value. -/
theorem valueFrom_isDigit {acc v : Nat} {cs : List Char} (h : valueFrom acc cs = some v) :
    ∀ c ∈ cs, isDigit c = true := by
  induction cs generalizing acc with
  | nil =>
    intro c hc
    cases hc
  | cons d cs ih =>
    rw [valueFrom] at h
    cases hd : digitValue d with
    | none =>
      rw [hd] at h
      cases h
    | some n =>
      rw [hd] at h
      rw [List.forall_mem_cons]
      exact ⟨by rw [isDigit, hd]; rfl, ih h⟩

/-! ## Writing -/

/-- **The last `w` digits**. -/
def fixed : Nat → Nat → List Char
  | 0, _ => []
  | w + 1, n => fixed w (n / 10) ++ [digit n]

theorem length_fixed (w n : Nat) : (fixed w n).length = w := by
  induction w generalizing n with
  | zero => rfl
  | succ w ih => rw [fixed, List.length_append, ih, List.length_singleton]

theorem valueFrom_fixed (acc w n : Nat) :
    valueFrom acc (fixed w n) = some (acc * 10 ^ w + n % 10 ^ w) := by
  induction w generalizing n with
  | zero => rw [fixed, valueFrom, Nat.pow_zero, Nat.mod_one, Nat.mul_one, Nat.add_zero]
  | succ w ih =>
    have hmod : n % 10 ^ (w + 1) = n % 10 + 10 * (n / 10 % 10 ^ w) := by
      rw [Nat.pow_succ, Nat.mul_comm, Nat.mod_mul]
    have hlast : valueFrom (acc * 10 ^ w + n / 10 % 10 ^ w) [digit n] =
        some ((acc * 10 ^ w + n / 10 % 10 ^ w) * 10 + n % 10) := by
      rw [valueFrom, digitValue_digit]
      rfl
    rw [fixed, valueFrom_append, ih, Option.bind_some, hlast, hmod, Nat.pow_succ]
    congr 1
    rw [← Nat.mul_assoc]
    omega

theorem value_fixed {w n : Nat} (h : n < 10 ^ w) : value (fixed w n) = some n := by
  rw [value, valueFrom_fixed, Nat.mod_eq_of_lt h, Nat.zero_mul, Nat.zero_add]

/-- How many digits a number has, found in so many steps. -/
def digitCount : Nat → Nat → Nat
  | 0, _ => 1
  | steps + 1, n => if n < 10 then 1 else digitCount steps (n / 10) + 1

theorem lt_pow_digitCount {steps n : Nat} (h : n ≤ steps) : n < 10 ^ digitCount steps n := by
  induction steps generalizing n with
  | zero =>
    have hn : n = 0 := by omega
    rw [hn, digitCount]
    decide
  | succ steps ih =>
    rw [digitCount]
    by_cases hn : n < 10
    · rw [if_pos hn, Nat.pow_one]
      exact hn
    · have hdiv := ih (n := n / 10) (by omega)
      rw [if_neg hn, Nat.pow_succ]
      omega

/-- **All digits of a number**. -/
def natText (n : Nat) : List Char := fixed (digitCount n n) n

theorem value_natText (n : Nat) : value (natText n) = some n := value_fixed (lt_pow_digitCount (Nat.le_refl n))

theorem natText_ne_nil (n : Nat) : natText n ≠ [] := by
  have hpos : 0 < digitCount n n := by
    cases n with
    | zero => exact Nat.one_pos
    | succ n =>
      rw [digitCount]
      split <;> omega
  rw [← List.length_pos_iff, natText, length_fixed]
  exact hpos

end FlightSql.Lib.Digits
