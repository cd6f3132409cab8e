/-
  Precision and scale of the columns — `arrow_column_descriptions` beside `resolve_sql_type`.

  THE CODE gives a column's type code by a recursion through every wrapper and its precision and scale
  by looking under one dictionary.

  WHAT IT IS FOR: the two say the same (`Agrees`).

  1. **A type is a stack of wrappers** (`wrappersOf`) around a type that is none (`seenThrough`); its code
     is a `DECIMAL` exactly if that one is a decimal (`resolveSqlType_eq_decimal_iff`).

  2. **They agree** unless a decimal stands under wrappers other than one dictionary
     (`arrowColumnDescriptions_agree_iff`).

  Mathlib-free.
-/
import FlightSql.NestedLists

set_option linter.unusedVariables false

namespace FlightSql

open Arrow

/-! ## Wrappers -/

/-- **A wrapper**, with what it has beside the type inside. -/
inductive Wrapper where
  | extension (name : String)
  | dictionary (index : ScalarType) (ordered : Bool)
  deriving DecidableEq, Repr

/-- The wrappers around a type, the outermost first. -/
def wrappersOf : DataType → List Wrapper
  | .extension name t => .extension name :: wrappersOf t
  | .dictionary index t ordered => .dictionary index ordered :: wrappersOf t
  | _ => []

/-- **A type code is a `DECIMAL`** exactly if the type is a decimal, seen through its wrappers, and has its
    precision and scale. -/
theorem resolveSqlType_eq_decimal_iff (t : DataType) (p : Nat) (s : Int) :
    resolveSqlType t = .decimal p s ↔ decimalParameters (seenThrough t) = some (p, s) := by
  induction t using DataType.byParts with
  | step t ih =>
    cases t with
    | extension _ t | dictionary _ t _ =>
      simpa only [resolveSqlType, seenThrough] using ih t (by simp [DataType.parts])
    | scalar type => cases type <;> simp [resolveSqlType, scalarSqlType, seenThrough, decimalParameters]
    | list _ t | largeList _ t | fixedSizeList _ t _ =>
      have hlist : listSqlType (resolveSqlType t) ≠ .decimal p s := by
        rcases listSqlType_cases (resolveSqlType t) with ⟨h, -⟩ | ⟨h, -⟩ <;> simp [h]
      simpa only [resolveSqlType, seenThrough, decimalParameters, reduceCtorEq, iff_false] using hlist
    | other kind fields =>
      have hlist : listSqlType (resolveItem fields) ≠ .decimal p s := by
        rcases listSqlType_cases (resolveItem fields) with ⟨h, -⟩ | ⟨h, -⟩ <;> simp [h]
      by_cases hview : isListView kind = true
      · simpa only [resolveSqlType, hview, if_true, seenThrough, decimalParameters, reduceCtorEq,
          iff_false] using hlist
      · simp [resolveSqlType, hview, seenThrough, decimalParameters]
    | _ => simp [resolveSqlType, seenThrough, decimalParameters]

/-- A type without wrappers is seen as it is. -/
theorem seenThrough_of_bare {t : DataType} (h : wrappersOf t = []) : seenThrough t = t := by
  cases t with
  | extension _ _ => cases h
  | dictionary _ _ _ => cases h
  | _ => rfl

/-- A decimal has no wrapper. -/
theorem decimalParameters_of_wrapped {t : DataType} (h : wrappersOf t ≠ []) : decimalParameters t = none := by
  cases t with
  | extension _ _ => rfl
  | dictionary _ _ _ => rfl
  | _ => exact absurd rfl h

/-- The parameters read off a type are those inside unless a decimal is wrapped. -/
theorem decimalParameters_seenThrough_iff (t : DataType) :
    decimalParameters t = decimalParameters (seenThrough t) ↔
      (decimalParameters (seenThrough t) ≠ none → wrappersOf t = []) := by
  constructor
  · intro h hdecimal
    refine Classical.byContradiction fun hwrapped => hdecimal ?_
    rw [← h, decimalParameters_of_wrapped hwrapped]
  · intro h
    by_cases hbare : wrappersOf t = []
    · rw [seenThrough_of_bare hbare]
    · rw [decimalParameters_of_wrapped hbare]
      exact (Classical.byContradiction fun hdecimal => hbare (h (Ne.symm hdecimal)))

/-! ## Agreement -/

/-- **Precision and scale are those of the type code**, none unless it is a `DECIMAL`. -/
structure ColumnDescription.Agrees (d : ColumnDescription) : Prop where
  decimal : ∀ p s, d.typeCode = .decimal p s → d.precision = some p ∧ d.scale = some s
  other : (∀ p s, d.typeCode ≠ .decimal p s) → d.precision = none ∧ d.scale = none

/-- No wrapper, or one, a dictionary. -/
def AtMostDictionary (t : DataType) : Prop :=
  wrappersOf t = [] ∨ ∃ index ordered, wrappersOf t = [.dictionary index ordered]

/-- The description of one field. -/
def describeField (f : Field) : ColumnDescription :=
  let decimal := decimalParameters (descriptionStorage f.type)
  ⟨f.info.name, resolveSqlType f.type, decimal.map Prod.fst, decimal.map Prod.snd, f.info.nullable⟩

/-- A description agrees if its parameters are those inside all wrappers. -/
theorem describeField_agrees_iff (f : Field) :
    (describeField f).Agrees ↔
      decimalParameters (descriptionStorage f.type) = decimalParameters (seenThrough f.type) := by
  have hcode := resolveSqlType_eq_decimal_iff f.type
  constructor
  · intro h
    cases hseen : decimalParameters (seenThrough f.type) with
    | none =>
      have hother : ∀ p s, resolveSqlType f.type ≠ .decimal p s := by
        intro p s hps
        have := (hcode p s).mp hps
        rw [hseen] at this
        cases this
      exact Option.map_eq_none_iff.mp (h.other hother).1
    | some parameters =>
      obtain ⟨p, s⟩ := parameters
      obtain ⟨hp, hs⟩ := h.decimal p s ((hcode p s).mpr hseen)
      obtain ⟨⟨p', s'⟩, hstorage, rfl⟩ := Option.map_eq_some_iff.mp hp
      obtain ⟨⟨p'', s''⟩, hstorage', rfl⟩ := Option.map_eq_some_iff.mp hs
      rw [hstorage] at hstorage'
      cases hstorage'
      exact hstorage
  · intro h
    refine ⟨fun p s hps => ?_, fun hother => ?_⟩
    · have hstorage := h.trans ((hcode p s).mp hps)
      simp [describeField, hstorage]
    · have hnone : decimalParameters (seenThrough f.type) = none := by
        refine Option.eq_none_iff_forall_ne_some.mpr ?_
        rintro ⟨p, s⟩ hps
        exact hother p s ((hcode p s).mpr hps)
      simp [describeField, h, hnone]

/-- What one look under a dictionary finds is what stands inside all wrappers, unless a decimal stands
    under others. -/
theorem descriptionStorage_iff (t : DataType) :
    decimalParameters (descriptionStorage t) = decimalParameters (seenThrough t) ↔
      (decimalParameters (seenThrough t) ≠ none → AtMostDictionary t) := by
  cases t with
  | dictionary index t ordered =>
    refine (decimalParameters_seenThrough_iff t).trans (imp_congr_right fun _ => ?_)
    simp [AtMostDictionary, wrappersOf]
  | extension name t =>
    refine (decimalParameters_seenThrough_iff (.extension name t)).trans (imp_congr_right fun _ => ?_)
    simp [AtMostDictionary, wrappersOf]
  | _ => exact iff_of_true rfl fun _ => Or.inl rfl

/-- **Column descriptions agree with their type codes exactly where** every decimal stands bare or under
    one dictionary. -/
theorem arrowColumnDescriptions_agree_iff (fields : List Field) :
    (∀ d ∈ arrowColumnDescriptions fields, d.Agrees) ↔
      ∀ f ∈ fields, decimalParameters (seenThrough f.type) ≠ none → AtMostDictionary f.type := by
  have hmap : arrowColumnDescriptions fields = fields.map describeField := rfl
  rw [hmap, List.forall_mem_map]
  exact forall_congr' fun f => imp_congr_right fun _ =>
    (describeField_agrees_iff f).trans (descriptionStorage_iff f.type)

/-- An amount stored as an extension of a decimal. -/
def moneyField : Field := ⟨⟨"amount", true, []⟩, .extension "bank.money" (.scalar (.decimal128 12 2))⟩

/-- Its type code is `DECIMAL(12, 2)`, its precision `None`. -/
theorem moneyField_disagrees : ¬∀ d ∈ arrowColumnDescriptions [moneyField], d.Agrees := by
  intro h
  have hprecision := (h _ (List.mem_singleton.mpr rfl)).decimal 12 2 (by decide)
  revert hprecision
  decide

example : arrowColumnDescriptions [⟨⟨"amount", false, []⟩, .dictionary .int8 (.scalar (.decimal128 12 2)) false⟩] =
    [⟨"amount", .decimal 12 2, some 12, some 2, false⟩] := by
  decide

end FlightSql
