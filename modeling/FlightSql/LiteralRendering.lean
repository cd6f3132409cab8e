/-
  Bind parameters as SQL literals — `LiteralBindCompiler.render_literal_value` of `flightsql/sqlalchemy.py`.

  1. **The compiler** (`renderLiteralValue`) — `None`, the types of untyped values, the literals of
     temporal and binary values and the refused floats, before SQLAlchemy's own rendering.

  2. **Respecting the type** (`RespectsType`) — the text is one literal of what the type makes of the
     value.

  3. **When it does** (`renderLiteralValue_respectsType_iff`) — the literals of temporal and binary
     values are those of the value given, so their types must leave it as it is; everything else goes
     through the type's own processing, and what can go wrong there is the implementation's processor.

  4. **What always does** — strings and integers under any decorators, and untyped values but for
     decimals that are no number.
-/
import FlightSql.LiteralProcessors

set_option linter.unusedVariables false

namespace FlightSql

open Lib Lib.SqlLiteral

/-! ## LiteralBindCompiler -/

section Compiler

variable {py : Python} (sa : Sqlalchemy py)

/-- The type a value is rendered by: an untyped one is resolved. -/
def effectiveType (value : BoundValue) (type : TypeEngine) : Except Exn TypeEngine :=
  if type.isNull then sa.resolveValueToType value else .ok type

/-- `render_literal_value` from the temporal and binary literals on. -/
def renderTyped (value : BoundValue) (type : TypeEngine) : Except Exn String :=
  match value with
  -- the value as it is given: none of these asks the type to process it
  | .datetime t =>
    if type.affinity = .dateTime then .ok ("TIMESTAMP '" ++ String.ofList (t.text ' ') ++ "'")
    else sa.renderLiteralValue value type
  | .date d =>
    if type.affinity = .date then .ok ("DATE '" ++ String.ofList d.text ++ "'")
    else sa.renderLiteralValue value type
  | .time t =>
    if type.affinity = .time then
      -- a `tzinfo` is enough, whether or not it has an offset
      if t.tzinfo then .error ⟨.sqlalchemy .compile, "time zone aware time literals are not supported"⟩
      else .ok ("TIME '" ++ String.ofList t.time.text ++ "'")
    else sa.renderLiteralValue value type
  | .float bits =>
    if isFinite bits then sa.renderLiteralValue value type
    else .error ⟨.sqlalchemy .compile,
      "non-finite float literal " ++ py.floatText bits ++ " is not supported; bind it as a parameter"⟩
  | .bytesLike _ bytes =>
    if type.affinity = .largeBinary then .ok ("X'" ++ String.ofList (hexText bytes) ++ "'")
    else sa.renderLiteralValue value type
  | _ => sa.renderLiteralValue value type

/-- **`LiteralBindCompiler.render_literal_value`**. -/
def renderLiteralValue (value : BoundValue) (type : TypeEngine) : Except Exn String :=
  if value = .none ∧ type.shouldEvaluateNone = false then .ok "NULL"
  else do
    let type ← effectiveType sa value type
    renderTyped sa value type

end Compiler

/-! ## Respecting the type -/

section Respects

variable {py : Python} (sa : Sqlalchemy py)

/-- **A rendering respects the type**: `None` is NULL unless the type opts out; any other text denotes
    what the type, if need be resolved, makes of the value. -/
def RespectsType (value : BoundValue) (type : TypeEngine) (outcome : Except Exn String) : Prop :=
  if value = .none ∧ type.shouldEvaluateNone = false then outcome = .ok "NULL"
  else
    ∀ text, outcome = .ok text →
      ∃ type', effectiveType sa value type = .ok type' ∧ type'.Denotes py value text

/-- The values rendered by a literal of their own, under a type of their kind. -/
def hasTypedLiteral (value : BoundValue) (type : TypeEngine) : Bool :=
  match value with
  | .datetime _ => type.affinity = .dateTime
  | .date _ => type.affinity = .date
  | .time t => type.affinity = .time && !t.tzinfo
  | .bytesLike _ _ => type.affinity = .largeBinary
  | _ => false

/-- The values refused whatever the type makes of them. -/
def isRefused (value : BoundValue) (type : TypeEngine) : Bool :=
  match value with
  | .time t => type.affinity = .time && t.tzinfo
  | .float bits => !isFinite bits
  | _ => false

/-- The same value, up to the class of bytes and a `tzinfo` without offset. -/
def SameValue (value value' : BoundValue) : Prop :=
  match value with
  | .time t => ∃ t', value' = .time t' ∧ t'.time = t.time
  | .bytesLike _ bytes => ∃ cls, value' = .bytesLike cls bytes
  | _ => value' = value

/-- **When the type is respected**: a typed literal needs a type that leaves the value as it is; any
    other value that is not refused needs one that SQLAlchemy renders. -/
def KeepsType (value : BoundValue) (type : TypeEngine) : Prop :=
  if hasTypedLiteral value type = true then ∃ value', type.own value = .ok value' ∧ SameValue value value'
  else isRefused value type = false → ∀ value', type.own value = .ok value' → IsRenderable sa type value'

end Respects

/-! ## Literals with a keyword -/

section Typed

variable {py : Python}

/-- A value with a literal of its own is no number. -/
theorem nonFinite_of_sameValue {value value' : BoundValue} {type : TypeEngine}
    (htyped : hasTypedLiteral value type = true) (h : SameValue value value') :
    value'.nonFinite = false := by
  cases value with
  | datetime t =>
    cases h
    rfl
  | date d =>
    cases h
    rfl
  | time t =>
    obtain ⟨t', rfl, -⟩ := h
    rfl
  | bytesLike cls bytes =>
    obtain ⟨cls', rfl⟩ := h
    rfl
  | _ => cases htyped

/-- **The typed literals** are those of the value given. -/
theorem renderTyped_of_typed (sa : Sqlalchemy py) {value : BoundValue} {type : TypeEngine}
    (h : hasTypedLiteral value type = true) :
    type.affinity ≠ .integer ∧ ∃ text, renderTyped sa value type = .ok text ∧
      ∀ value', LiteralOf py text value' ↔ SameValue value value' := by
  cases value with
  | datetime t =>
    have haffinity : type.affinity = .dateTime := of_decide_eq_true h
    rw [renderTyped, if_pos haffinity, haffinity]
    exact ⟨by rintro ⟨⟩, _, rfl, literalOf_timestamp t⟩
  | date d =>
    have haffinity : type.affinity = .date := of_decide_eq_true h
    rw [renderTyped, if_pos haffinity, haffinity]
    exact ⟨by rintro ⟨⟩, _, rfl, literalOf_date d⟩
  | time t =>
    obtain ⟨htime, hnaive⟩ := (Bool.and_eq_true _ _).mp h
    have haffinity : type.affinity = .time := of_decide_eq_true htime
    rw [Bool.not_eq_true'] at hnaive
    rw [renderTyped, if_pos haffinity, hnaive, if_neg Bool.false_ne_true, haffinity]
    exact ⟨by rintro ⟨⟩, _, rfl, literalOf_time t.time⟩
  | bytesLike cls bytes =>
    have haffinity : type.affinity = .largeBinary := of_decide_eq_true h
    rw [renderTyped, if_pos haffinity, haffinity]
    exact ⟨by rintro ⟨⟩, _, rfl, literalOf_binary bytes⟩
  | _ => cases h

/-- What is refused is not rendered. -/
theorem renderTyped_of_refused (sa : Sqlalchemy py) {value : BoundValue} {type : TypeEngine}
    (h : isRefused value type = true) : ∃ e, renderTyped sa value type = .error e := by
  cases value with
  | time t =>
    obtain ⟨htime, haware⟩ := (Bool.and_eq_true _ _).mp h
    rw [renderTyped, if_pos (of_decide_eq_true htime), if_pos haware]
    exact ⟨_, rfl⟩
  | float bits =>
    have hfinite : ¬isFinite bits = true := by
      intro hfinite
      rw [isRefused, hfinite] at h
      cases h
    rw [renderTyped, if_neg hfinite]
    exact ⟨_, rfl⟩
  | _ => cases h

/-- Everything else is left to SQLAlchemy. -/
theorem renderTyped_of_other (sa : Sqlalchemy py) {value : BoundValue} {type : TypeEngine}
    (htyped : hasTypedLiteral value type = false) (hrefused : isRefused value type = false) :
    renderTyped sa value type = sa.renderLiteralValue value type := by
  cases value with
  | datetime t => rw [renderTyped, if_neg (of_decide_eq_false htyped)]
  | date d => rw [renderTyped, if_neg (of_decide_eq_false htyped)]
  | time t =>
    rw [renderTyped]
    by_cases haffinity : type.affinity = .time
    · -- a time under Time is naive or aware
      simp only [hasTypedLiteral, isRefused, haffinity, decide_true, Bool.true_and] at htyped hrefused
      rw [hrefused] at htyped
      cases htyped
    · rw [if_neg haffinity]
  | float bits =>
    have hfinite : isFinite bits = true := by
      rw [isRefused, Bool.not_eq_false'] at hrefused
      exact hrefused
    rw [renderTyped, if_pos hfinite]
  | bytesLike cls bytes => rw [renderTyped, if_neg (of_decide_eq_false htyped)]
  | _ => rfl

end Typed

/-! ## The rendering -/

section Rendering

variable {py : Python} (sa : Sqlalchemy py)

/-- **The rendering under a type** denotes what the type makes of the value exactly if the type is kept. -/
theorem renderTyped_denotes_iff {value : BoundValue} {type : TypeEngine}
    (hpass : LetsNonePass value type) :
    (∀ text, renderTyped sa value type = .ok text → type.Denotes py value text) ↔
      KeepsType sa value type := by
  rw [KeepsType]
  by_cases htyped : hasTypedLiteral value type = true
  · rw [if_pos htyped]
    obtain ⟨hinteger, text, htext, hliteral⟩ := renderTyped_of_typed sa htyped
    constructor
    · intro h
      obtain ⟨value', hown, hfor⟩ := denotes_iff.mp (h text htext)
      exact ⟨value', hown, (hliteral value').mp ((isLiteralFor_iff hinteger).mp hfor).1⟩
    · rintro ⟨value', hown, hsame⟩ text' htext'
      cases htext.symm.trans htext'
      have hfor : IsLiteralFor py type.affinity value' text :=
        (isLiteralFor_iff hinteger).mpr ⟨(hliteral value').mpr hsame, nonFinite_of_sameValue htyped hsame⟩
      exact denotes_iff.mpr ⟨value', hown, hfor⟩
  · rw [if_neg htyped]
    by_cases hrefused : isRefused value type = true
    · obtain ⟨e, he⟩ := renderTyped_of_refused sa hrefused
      rw [he]
      refine iff_of_true ?_ ?_
      · intro text htext
        cases htext
      · intro hnot
        rw [hrefused] at hnot
        cases hnot
    · have hother := renderTyped_of_other sa (Bool.eq_false_iff.mpr htyped)
        (Bool.eq_false_iff.mpr hrefused)
      rw [hother, renderLiteralValue_denotes_iff sa hpass]
      constructor
      · intro h _
        exact h
      · intro h
        exact h (Bool.eq_false_iff.mpr hrefused)

/-- The type a value is rendered by lets `None` pass only as the code does. -/
theorem letsNonePass {value : BoundValue} {type type' : TypeEngine}
    (hnone : ¬(value = .none ∧ type.shouldEvaluateNone = false))
    (h : effectiveType sa value type = .ok type') : LetsNonePass value type' := by
  rintro rfl
  rw [effectiveType] at h
  by_cases hnull : type.isNull = true
  · rw [if_pos hnull] at h
    rcases sa.resolve .none type' rfl h with htype | htype
    · exact Or.inr htype
    · exact Or.inr htype
  · rw [if_neg hnull] at h
    cases h
    have hevaluates : ¬type.shouldEvaluateNone = false := fun hfalse => hnone ⟨rfl, hfalse⟩
    exact Or.inl (Bool.not_eq_false _ ▸ hevaluates)

/-- Past an ordinary `None`, the rendering is that under the type resolved. -/
theorem respectsType_iff {value : BoundValue} {type : TypeEngine}
    (hnone : ¬(value = .none ∧ type.shouldEvaluateNone = false)) :
    RespectsType sa value type (renderLiteralValue sa value type) ↔
      ∀ type', effectiveType sa value type = .ok type' → KeepsType sa value type' := by
  rw [RespectsType, renderLiteralValue, if_neg hnone, if_neg hnone]
  constructor
  · intro h type' htype
    rw [← renderTyped_denotes_iff sa (letsNonePass sa hnone htype)]
    intro text htext
    have hrender : (effectiveType sa value type >>= renderTyped sa value) = .ok text := by
      rw [htype]
      exact htext
    obtain ⟨other, hother, hdenotes⟩ := h text hrender
    cases htype.symm.trans hother
    exact hdenotes
  · intro h text htext
    obtain ⟨type', htype, hrender⟩ := Outcome.bind_eq_ok_iff.mp htext
    have hkeeps := (renderTyped_denotes_iff sa (letsNonePass sa hnone htype)).mpr (h type' htype)
    exact ⟨type', htype, hkeeps text hrender⟩

/-- An ordinary `None` is NULL. -/
theorem respectsType_none {type : TypeEngine} (h : type.shouldEvaluateNone = false) :
    RespectsType sa .none type (renderLiteralValue sa .none type) := by
  rw [RespectsType, renderLiteralValue, if_pos ⟨rfl, h⟩, if_pos ⟨rfl, h⟩]

end Rendering

/-! ## Strings and integers -/

/-- **String and Integer are respected under any decorators**: whatever is processed, they render it as
    a literal of it, or refuse it. -/
theorem renderLiteralValue_string_integer {py : Python} (sa : Sqlalchemy py) {type : TypeEngine}
    (h : type.affinity = .string ∨ type.affinity = .integer) (value : BoundValue) :
    RespectsType sa value type (renderLiteralValue sa value type) := by
  by_cases hnone : value = .none ∧ type.shouldEvaluateNone = false
  · obtain ⟨rfl, hevaluate⟩ := hnone
    exact respectsType_none sa hevaluate
  · rw [respectsType_iff sa hnone]
    intro type' htype
    have htyped : type.isNull = false := by
      cases type with
      | impl implementation evaluates => rcases h with rfl | rfl <;> rfl
      | decorator processLiteralParam processBindParam impl evaluates => rfl
    rw [effectiveType, htyped, if_neg Bool.false_ne_true] at htype
    cases htype
    have hplain : ¬hasTypedLiteral value type = true := by
      rcases h with h | h <;> cases value <;> simp [hasTypedLiteral, h]
    rw [KeepsType, if_neg hplain]
    intro _ value' _
    unfold IsRenderable
    rcases h with h | h
    · obtain ⟨p, hp, -⟩ := sa.string
      rw [h, hp]
      trivial
    · obtain ⟨p, hp, -⟩ := sa.integer
      rw [h, hp]
      trivial

/-! ## Untyped values -/

section Untyped

variable {py : Python} (sa : Sqlalchemy py)

/-- An implementation alone renders what it accepts. -/
theorem isRenderable_impl {implementation : Implementation} {evaluates : Bool} {value : BoundValue}
    (h : ∀ p, sa.processor implementation = some p → implementation.Accepts py p value) :
    IsRenderable sa (.impl implementation evaluates) value := by
  unfold IsRenderable
  cases hp : sa.processor (TypeEngine.impl implementation evaluates).affinity with
  | none =>
    rintro ⟨⟩
  | some p => exact h p hp

/-- The implementation of a value's class is kept, but for decimals that are no number. -/
theorem keepsType_implementation {value : BoundValue}
    (hdecimal : ∀ d, value = .decimal d → value.isFiniteNumber = true) :
    KeepsType sa value (.impl value.implementation false) := by
  rw [KeepsType]
  by_cases htyped : hasTypedLiteral value (.impl value.implementation false) = true
  · rw [if_pos htyped]
    refine ⟨value, rfl, ?_⟩
    cases value with
    | time t => exact ⟨t, rfl, rfl⟩
    | bytesLike cls bytes => exact ⟨cls, rfl⟩
    | _ => rfl
  · rw [if_neg htyped]
    intro hrefused value' hown
    cases hown
    refine isRenderable_impl sa fun p hp => ?_
    cases value with
    | none => trivial
    | bool b => exact fun _ _ => ⟨b, rfl⟩
    | int n => trivial
    | float bits => exact fun _ _ => (Bool.not_eq_false' _).mp hrefused
    | decimal d => exact fun _ _ => hdecimal d rfl
    | str s => trivial
    | object cls identity => trivial
    | time t =>
      -- naive times have a literal, and aware ones are refused
      have haware : t.tzinfo = false := hrefused
      exact absurd (show (true && !t.tzinfo) = true by rw [haware]; rfl) htyped
    | bytesLike cls bytes => exact absurd rfl htyped
    | date d => exact absurd rfl htyped
    | datetime t => exact absurd rfl htyped

/-- **Untyped values are respected**, all but decimals that are no number. -/
theorem renderLiteralValue_untyped {value : BoundValue} (hobject : value.isObject = false)
    (hdecimal : ∀ d, value = .decimal d → value.isFiniteNumber = true) :
    RespectsType sa value (.impl .null false) (renderLiteralValue sa value (.impl .null false)) := by
  by_cases hnone : value = .none
  · rw [hnone]
    exact respectsType_none sa rfl
  · rw [respectsType_iff sa fun h => hnone h.1]
    intro type htype
    rcases sa.resolve value type hobject htype with rfl | rfl
    · exact keepsType_implementation sa hdecimal
    · rw [KeepsType]
      have htyped : ¬hasTypedLiteral value (.impl .null false) = true := by
        intro htyped
        cases value <;> cases htyped
      rw [if_neg htyped]
      intro _ value' _
      exact isRenderable_null sa value'

end Untyped

/-! ## A type that is not respected -/

/-- `datetime.datetime(2024, 2, 29, 12, 34, 56, 123456)`. -/
def leapDay : IsoTime.Timestamp :=
  ⟨⟨2024, 2, 29, by decide⟩, ⟨⟨12, 34, 56, 123456, by decide⟩, none⟩⟩

example : renderLiteralValue (Sqlalchemy.reference .reference) (.datetime leapDay) (.impl .null false) =
    .ok "TIMESTAMP '2024-02-29 12:34:56.123456'" := by
  decide

/-- `value.replace(microsecond=0)`. -/
def wholeSecond (t : IsoTime.Timestamp) : IsoTime.Timestamp :=
  { t with
    time.clock := { t.time.clock with
      microsecond := 0
      inRange := ⟨t.time.clock.inRange.1, t.time.clock.inRange.2.1, t.time.clock.inRange.2.2.1, by decide⟩ } }

/-- A `TypeDecorator` over DateTime whose `process_bind_param` keeps whole seconds. -/
def wholeSeconds : TypeEngine :=
  .decorator none
    (some fun value =>
      match value with
      | .datetime t => .ok (.datetime (wholeSecond t))
      | value => .ok value)
    (.impl .dateTime false) false

/-- A string bound to Numeric, if it is rendered, is not rendered as a string. -/
theorem renderLiteralValue_numeric_str {py : Python} (sa : Sqlalchemy py) (s : String) (evaluates : Bool)
    {text : String} (h : renderLiteralValue sa (.str s) (.impl .numeric evaluates) = .ok text) :
    ¬LiteralOf py text (.str s) := by
  have hnone : ¬(BoundValue.str s = .none ∧ sa.rendersNone = true ∧
      (TypeEngine.impl .numeric evaluates).shouldEvaluateNone = false) := by
    rintro ⟨⟨⟩, -⟩
  have hnone' : ¬(BoundValue.str s = .none ∧
      (TypeEngine.impl .numeric evaluates).shouldEvaluateNone = false) := by
    rintro ⟨⟨⟩, -⟩
  rw [renderLiteralValue, if_neg hnone'] at h
  obtain ⟨value, hown, hrenders⟩ := (renderLiteralValue_eq_ok hnone).mp h
  cases hown
  obtain ⟨p, hp, -⟩ := sa.numeric
  intro hliteral
  have haccepts : Implementation.numeric.Accepts py p (.str s) := by
    rw [accepts_iff hp]
    intro text' htext'
    unfold Renders at hrenders
    simp only [TypeEngine.affinity, hp] at hrenders
    cases hrenders.symm.trans htext'
    exact (isLiteralFor_iff (by rintro ⟨⟩)).mpr ⟨hliteral, rfl⟩
  unfold Renders at hrenders
  simp only [TypeEngine.affinity, hp] at hrenders
  cases haccepts text hrenders

end FlightSql
