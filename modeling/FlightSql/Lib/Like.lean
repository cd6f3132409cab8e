/-
  LIKE PATTERNS — strings matched against literals, single and multiple wildcards.

  A pattern is a list of tokens over any alphabet.  `accepts` is its denotation, one token at a time:
  `many` takes any number of letters off the front, `one` exactly one, a literal its own letter.

  A pattern is often a string written letter by letter, some letters being wildcards.  Whatever they
  are, it accepts the string itself (`accepts_covered`); if none is, it accepts nothing else
  (`accepts_literals`).
-/
import Mathlib.Data.List.Basic

set_option linter.unusedVariables false

namespace FlightSql.Lib.Like

/-- **A token** of a pattern. -/
inductive Token (α : Type) where
  | many
  | one
  | literal (a : α)
  deriving DecidableEq

variable {α : Type} [DecidableEq α]

/-- **The strings of a pattern**. -/
def accepts : List (Token α) → List α → Bool
  | [], s => s = []
  | .many :: p, s => (List.range (s.length + 1)).any fun n => accepts p (s.drop n)
  | .one :: _, [] => false
  | .one :: p, _ :: s => accepts p s
  | .literal _ :: _, [] => false
  | .literal a :: p, b :: s => a = b && accepts p s

/-- The letters a token accepts on their own. -/
def Token.Covers : Token α → α → Prop
  | .many, _ => True
  | .one, _ => True
  | .literal a, b => a = b

/-- **A string is accepted by its own pattern**, whatever its letters stand for. -/
theorem accepts_covered {token : α → Token α} (h : ∀ a, (token a).Covers a) (s : List α) :
    accepts (s.map token) s = true := by
  induction s with
  | nil => rfl
  | cons a s ih =>
    have ha := h a
    rw [List.map_cons]
    cases htoken : token a with
    | many =>
      -- the wildcard takes the letter itself
      have hlen : 1 < (a :: s).length + 1 := by
        rw [List.length_cons]
        omega
      rw [accepts, List.any_eq_true]
      exact ⟨1, List.mem_range.mpr hlen, ih⟩
    | one =>
      rw [accepts]
      exact ih
    | literal b =>
      rw [htoken] at ha
      rw [accepts, ih, Bool.and_true]
      exact decide_eq_true ha

/-- **A pattern without wildcards** accepts one string. -/
theorem accepts_literals (s s' : List α) : accepts (s.map Token.literal) s' = true ↔ s' = s := by
  induction s generalizing s' with
  | nil => exact decide_eq_true_iff
  | cons a s ih =>
    cases s' with
    | nil => exact iff_of_false Bool.false_ne_true (List.cons_ne_nil a s).symm
    | cons b s' =>
      rw [List.map_cons, accepts, Bool.and_eq_true, decide_eq_true_eq, ih, List.cons.injEq, eq_comm]

end FlightSql.Lib.Like
