/-
  FIXED-POINT FORMATS — numbers stored as scaled integers.

  A format stores the number `u / 10 ^ scale` as the integer `u`, its UNSCALED value, if that lies
  between the format's bounds.  A scale of zero gives the machine integers, a positive scale has that
  many digits after the point, a negative one leaves out as many before it.

  Only integers are looked at here: `Represents f u v` says that `u` is stored and means exactly the
  integer `v`.  Neither side leaves a choice (`Represents.value_unique`, `Represents.unscaled_unique`),
  and both are computed: `unscaled` finds the `u` of a `v`, `value` the `v` of a `u`.
-/
import Mathlib.Algebra.Order.Ring.Int
import Mathlib.Algebra.Order.Ring.Pow

set_option linter.unusedVariables false

namespace FlightSql.Lib.FixedPoint

/-- **A format**: the least and the greatest unscaled value, and the digits after the point. -/
structure Format where
  least : Int
  greatest : Int
  scale : Int
  deriving DecidableEq

/-- The two's-complement integers of some width. -/
def signed (width : Nat) : Format := ⟨-2 ^ (width - 1), 2 ^ (width - 1) - 1, 0⟩

/-- The unsigned integers of some width. -/
def unsigned (width : Nat) : Format := ⟨0, 2 ^ width - 1, 0⟩

/-- The decimals of so many digits, `scale` of them after the point. -/
def decimal (precision : Nat) (scale : Int) : Format :=
  ⟨-(10 ^ precision - 1), 10 ^ precision - 1, scale⟩

/-- The quotient, if the division leaves nothing. -/
def exactQuotient (a b : Int) : Option Int := if b ∣ a then some (a / b) else none

theorem exactQuotient_eq_some_iff {a b q : Int} (hb : b ≠ 0) :
    exactQuotient a b = some q ↔ q * b = a := by
  rw [exactQuotient]
  constructor
  · intro h
    by_cases hdvd : b ∣ a
    · rw [if_pos hdvd] at h
      cases h
      exact Int.ediv_mul_cancel hdvd
    · rw [if_neg hdvd] at h
      cases h
  · intro h
    have hdvd : b ∣ a := ⟨q, by rw [← h, Int.mul_comm]⟩
    rw [if_pos hdvd, ← h, Int.mul_ediv_cancel _ hb]

namespace Format

/-- What an unscaled value is multiplied by to be an integer: `10 ^ -scale`, for a negative scale. -/
def upscale (f : Format) : Int := 10 ^ (-f.scale).toNat

/-- What an integer is multiplied by to be unscaled: `10 ^ scale`, for a positive scale. -/
def downscale (f : Format) : Int := 10 ^ f.scale.toNat

theorem upscale_ne_zero (f : Format) : f.upscale ≠ 0 := by
  have hpos : (0 : Int) < 10 ^ (-f.scale).toNat := Int.pow_pos (by decide)
  rw [upscale]
  omega

theorem downscale_ne_zero (f : Format) : f.downscale ≠ 0 := by
  have hpos : (0 : Int) < 10 ^ f.scale.toNat := Int.pow_pos (by decide)
  rw [downscale]
  omega

/-- The unscaled value is one the format has. -/
def InRange (f : Format) (u : Int) : Prop := f.least ≤ u ∧ u ≤ f.greatest

instance (f : Format) (u : Int) : Decidable (f.InRange u) := inferInstanceAs (Decidable (_ ∧ _))

/-- **The unscaled value means the integer**: `u / 10 ^ scale = v`. -/
def Denotes (f : Format) (u v : Int) : Prop := u * f.upscale = v * f.downscale

instance (f : Format) (u v : Int) : Decidable (f.Denotes u v) := inferInstanceAs (Decidable (_ = _))

/-- **The unscaled value stores the integer.** -/
structure Represents (f : Format) (u v : Int) : Prop where
  inRange : f.InRange u
  denotes : f.Denotes u v

/-- The integer can be stored. -/
def Representable (f : Format) (v : Int) : Prop := ∃ u, f.Represents u v

/-- The unscaled value that stores an integer. -/
def unscaled (f : Format) (v : Int) : Option Int :=
  (exactQuotient (v * f.downscale) f.upscale).filter fun u => f.InRange u

/-- The integer an unscaled value means, if it means one. -/
def value (f : Format) (u : Int) : Option Int := exactQuotient (u * f.upscale) f.downscale

theorem unscaled_eq_some_iff {f : Format} {u v : Int} :
    f.unscaled v = some u ↔ f.Represents u v := by
  rw [unscaled, Option.filter_eq_some_iff, exactQuotient_eq_some_iff f.upscale_ne_zero,
    decide_eq_true_eq]
  exact ⟨fun h => ⟨h.2, h.1⟩, fun h => ⟨h.denotes, h.inRange⟩⟩

theorem value_eq_some_iff {f : Format} {u v : Int} : f.value u = some v ↔ f.Denotes u v := by
  rw [value, exactQuotient_eq_some_iff f.downscale_ne_zero]
  exact eq_comm

/-- **A stored value means one integer.** -/
theorem Represents.value_unique {f : Format} {u v v' : Int} (h : f.Represents u v)
    (h' : f.Represents u v') : v = v' := by
  have hvalue := value_eq_some_iff.mpr h.denotes
  rw [value_eq_some_iff.mpr h'.denotes] at hvalue
  exact (Option.some.inj hvalue).symm

theorem unscaled_eq_none_iff {f : Format} {v : Int} : f.unscaled v = none ↔ ¬f.Representable v := by
  rw [Option.eq_none_iff_forall_ne_some]
  constructor
  · rintro h ⟨u, hu⟩
    exact h u (unscaled_eq_some_iff.mpr hu)
  · intro h u hu
    exact h ⟨u, unscaled_eq_some_iff.mp hu⟩

instance (f : Format) (v : Int) : Decidable (f.Representable v) :=
  decidable_of_iff (f.unscaled v ≠ none) (by rw [Ne, unscaled_eq_none_iff, Classical.not_not])

/-- Without a scale an integer is its own unscaled value. -/
theorem denotes_self {f : Format} (hscale : f.scale = 0) (v : Int) : f.Denotes v v := by
  rw [Denotes, upscale, downscale, hscale]
  rfl

theorem representable_iff_inRange {f : Format} (hscale : f.scale = 0) {v : Int} :
    f.Representable v ↔ f.InRange v := by
  constructor
  · rintro ⟨u, hu⟩
    have hself : f.Denotes u u := denotes_self hscale u
    have huv : v = u := hu.value_unique ⟨hu.inRange, hself⟩
    rw [huv]
    exact hu.inRange
  · exact fun h => ⟨v, h, denotes_self hscale v⟩

end Format

/-- **Digits after the point do not make room before it.** -/
theorem inRange_of_representable {precision : Nat} {scale : Int} (hscale : 0 ≤ scale) {v : Int}
    (h : (decimal precision scale).Representable v) : (decimal precision 0).InRange v := by
  obtain ⟨u, ⟨hleast, hgreatest⟩, hdenotes⟩ := h
  have hup : (decimal precision scale).upscale = 1 := by
    have hzero : (-scale).toNat = 0 := by omega
    show (10 : Int) ^ (-scale).toNat = 1
    rw [hzero, Int.pow_zero]
  have hdown : 1 ≤ (decimal precision scale).downscale := by
    have hpos : (0 : Int) < 10 ^ scale.toNat := Int.pow_pos (by decide)
    show (1 : Int) ≤ 10 ^ scale.toNat
    omega
  rw [Format.Denotes, hup, Int.mul_one] at hdenotes
  generalize (decimal precision scale).downscale = d at hdenotes hdown
  -- `u = v * d` with `d ≥ 1` is at least as far from zero as `v`
  show -(10 ^ precision - 1) ≤ v ∧ v ≤ 10 ^ precision - 1
  have hleast : -(10 ^ precision - 1) ≤ u := hleast
  have hgreatest : u ≤ 10 ^ precision - 1 := hgreatest
  rcases Int.le_total 0 v with hv | hv
  · have hle : v ≤ v * d := le_mul_of_one_le_right hv hdown
    omega
  · have hle : v * d ≤ v := mul_le_of_one_le_right hv hdown
    omega

/-- More digits hold no less. -/
theorem inRange_mono {precision more : Nat} (hle : precision ≤ more) {v : Int}
    (h : (decimal precision 0).InRange v) : (decimal more 0).InRange v := by
  have hpow : (10 : Int) ^ precision ≤ 10 ^ more := pow_le_pow_right₀ (by decide) hle
  have hleast : -(10 ^ precision - 1) ≤ v := h.1
  have hgreatest : v ≤ 10 ^ precision - 1 := h.2
  show -(10 ^ more - 1) ≤ v ∧ v ≤ 10 ^ more - 1
  omega

end FlightSql.Lib.FixedPoint
