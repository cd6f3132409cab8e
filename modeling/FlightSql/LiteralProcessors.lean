/-
  SQLAlchemy's literal processors under a type's own processing.

  1. **Types** (`TypeEngine`) — an implementation under any number of decorators, each with processing
     of its own; `own` is what they make of a value together.

  2. **SQLAlchemy** (`Sqlalchemy`) — the literal processor of each implementation and the resolver of
     untyped values, with what is documented of them.

  3. **What is rendered** — a type processes, then its implementation renders (`renderLiteralValue_eq_ok`);
     the text denotes what the type makes of the value exactly if the implementation accepts what
     reaches it (`renderLiteralValue_denotes_iff`): any string or integer, of numbers the finite ones,
     and no temporal or binary value, which would be a quoted string.
-/
import FlightSql.BoundValue
import FlightSql.Lib.Run

set_option linter.unusedVariables false

namespace FlightSql

open Lib Lib.Digits Lib.SqlLiteral

/-! ## Types -/

/-- **The implementations**, by their affinity; `other` is every further one. -/
inductive Implementation where
  | dateTime | date | time | largeBinary | string | integer | numeric | boolean | null
  | other (name : String)
  deriving DecidableEq

/-- **A type**: an implementation, or a `TypeDecorator` over a type, with the processing methods it
    defines; any of them may opt into `should_evaluate_none`. -/
inductive TypeEngine where
  | impl (implementation : Implementation) (shouldEvaluateNone : Bool)
  | decorator (processLiteralParam processBindParam : Option (BoundValue → Except Exn BoundValue))
    (impl : TypeEngine) (shouldEvaluateNone : Bool)

namespace TypeEngine

def shouldEvaluateNone : TypeEngine → Bool
  | impl _ evaluate => evaluate
  | decorator _ _ _ evaluate => evaluate

/-- `_isnull`: only `NullType` itself. -/
def isNull : TypeEngine → Bool
  | impl .null _ => true
  | _ => false

/-- `_type_affinity`: that of the implementation. -/
def affinity : TypeEngine → Implementation
  | impl implementation _ => implementation
  | decorator _ _ type _ => type.affinity

/-- **The type's own processing** of a value: `process_literal_param`, else `process_bind_param`, of each
    decorator from the outside in. -/
def own : TypeEngine → BoundValue → Except Exn BoundValue
  | impl _ _, value => .ok value
  | decorator processLiteralParam processBindParam type _, value =>
    match processLiteralParam.or processBindParam with
    | some process => process value >>= type.own
    | none => type.own value

/-- Whether any decorator processes values. -/
def hasOwn : TypeEngine → Bool
  | impl _ _ => false
  | decorator processLiteralParam processBindParam type _ =>
    (processLiteralParam.or processBindParam).isSome || type.hasOwn

end TypeEngine

/-- Whether a value is of none of the classes of SQL values. -/
def BoundValue.isObject : BoundValue → Bool
  | .object _ _ => true
  | _ => false

/-- The implementation of a value's class. -/
def BoundValue.implementation : BoundValue → Implementation
  | .none | .object _ _ => .null
  | .bool _ => .boolean
  | .int _ => .integer
  | .float _ | .decimal _ => .numeric
  | .str _ => .string
  | .bytesLike _ _ => .largeBinary
  | .date _ => .date
  | .datetime _ => .dateTime
  | .time _ => .time

/-! ## SQLAlchemy -/

/-- **What the compiler uses of SQLAlchemy**: the literal processor of an implementation, if it has one,
    and the type its resolver gives an untyped value. -/
structure Sqlalchemy (py : Python) where
  processor : Implementation → Option (BoundValue → Except Exn String)
  /-- `_resolve_value_to_type`. -/
  resolveValueToType : BoundValue → Except Exn TypeEngine
  /-- Whether the compiler itself renders `None` as NULL. -/
  rendersNone : Bool
  /-- What it makes of an exception of a processor. -/
  renderError : Exn → Exn
  /-- What it raises without a processor. -/
  noRenderer : BoundValue → Exn
  /-- Strings are quoted, their quotes doubled; nothing else is a string. -/
  string : ∃ p, processor .string = some p ∧ (∀ s, p (.str s) = .ok (quotedText s.toList)) ∧
    ∀ value, (∀ s, value ≠ .str s) → ∃ e, p value = .error e
  /-- `str(int(value))`. -/
  integer : ∃ p, processor .integer = some p ∧
    ∀ value, p value = (py.int value).map fun n => String.ofList (intText n)
  /-- `str(value)` of a number, if it is rendered; what is no number may also be refused, or be converted
      to a `Decimal` or to a finite number first. -/
  numeric : ∃ p, processor .numeric = some p ∧ ∀ value text, p value = .ok text →
    ∃ value', text = py.str value' ∧
      (value' = value ∨ value.isNumber = false ∧ ((∃ d, value' = .decimal d) ∨ value'.isFiniteNumber = true))
  /-- Truth values are words; anything else rendered is one of them. -/
  boolean : ∃ p, processor .boolean = some p ∧ (∀ b, p (.bool b) = .ok (boolText b)) ∧
    ∀ value text, p value = .ok text → ∃ b, text = boolText b
  /-- Temporal and binary values, but never strings, are quoted like strings, if they are rendered. -/
  quoting : ∀ implementation ∈ [.dateTime, .date, .time, .largeBinary], ∀ p,
    processor implementation = some p → ∀ value text, p value = .ok text →
      (∃ s, text = quotedText s) ∧ ∀ s, value ≠ .str s
  /-- An untyped value is not rendered. -/
  null : ∀ p, processor .null = some p → ∀ value, ∃ e, p value = .error e
  /-- A value is resolved by its class; one of a class that is not mapped stays untyped. -/
  resolve : ∀ value type, value.isObject = false → resolveValueToType value = .ok type →
    type = .impl value.implementation false ∨ type = .impl .null false

/-- A value that is the text itself. -/
def asText : BoundValue → Except Exn String
  | .str s => .ok s
  | _ => .error ⟨.python .typeError, "sequence item: expected str instance"⟩

section Compiler

variable {py : Python} (sa : Sqlalchemy py)

/-- The literal processor of a type: of a decorator, its processing before that of its implementation,
    or alone if that has none. -/
def TypeEngine.literalProcessor : TypeEngine → Option (BoundValue → Except Exn String)
  | .impl implementation _ => sa.processor implementation
  | .decorator processLiteralParam processBindParam type _ =>
    match processLiteralParam.or processBindParam, type.literalProcessor with
    | some process, some p => some fun value => process value >>= p
    | some process, none => some fun value => process value >>= asText
    | none, p => p

/-- `SQLCompiler.render_literal_value`. -/
def Sqlalchemy.renderLiteralValue (value : BoundValue) (type : TypeEngine) : Except Exn String :=
  if value = .none ∧ sa.rendersNone = true ∧ type.shouldEvaluateNone = false then .ok "NULL"
  else
    match type.literalProcessor sa with
    | some p => (p value).mapError sa.renderError
    | none => .error (sa.noRenderer value)

end Compiler

/-! ## What a type makes of a value -/

/-- Integer converts a value by `int(value)`; no other implementation does. -/
def Implementation.converted (py : Python) (implementation : Implementation) (value : BoundValue) :
    Except Exn BoundValue :=
  if implementation = .integer then (py.int value).map .int else .ok value

/-- **The value a type makes of one**: by its own processing, then by its implementation's. -/
def TypeEngine.processed (py : Python) (type : TypeEngine) (value : BoundValue) :
    Except Exn BoundValue :=
  type.own value >>= type.affinity.converted py

/-- **The text denotes what the type makes of the value**: it is exactly one literal of that, and of no
    number that is not finite. -/
def TypeEngine.Denotes (py : Python) (type : TypeEngine) (value : BoundValue) (text : String) : Prop :=
  ∃ value', type.processed py value = .ok value' ∧ LiteralOf py text value' ∧ value'.nonFinite = false

section Renderable

variable {py : Python} (sa : Sqlalchemy py)

/-- The values an implementation's processor `p` renders as literals, or refuses. -/
def Implementation.Accepts (py : Python) (p : BoundValue → Except Exn String) (value : BoundValue) :
    Implementation → Prop
  | .string | .integer | .null => True
  | .numeric => ∀ text, p value = .ok text → value.isFiniteNumber = true
  | .boolean => ∀ text, p value = .ok text → ∃ b, value = .bool b
  | .dateTime | .date | .time | .largeBinary => ∀ text, p value ≠ .ok text
  | .other _ => ∀ text, p value = .ok text → LiteralOf py text value ∧ value.nonFinite = false

/-- **What SQLAlchemy renders as a literal** of a processed value, or refuses; without a processor a
    string would be the text itself. -/
def IsRenderable (type : TypeEngine) (value : BoundValue) : Prop :=
  match sa.processor type.affinity with
  | none => type.hasOwn = true → ∀ s, value ≠ .str s
  | some p => type.affinity.Accepts py p value

end Renderable

/-! ## The type's own processor -/

section Processor

variable {py : Python} {sa : Sqlalchemy py}

/-- **A type processes, then its implementation renders.** -/
theorem literalProcessor_some {type : TypeEngine} {p : BoundValue → Except Exn String}
    (h : sa.processor type.affinity = some p) :
    ∃ q, type.literalProcessor sa = some q ∧ ∀ value, q value = type.own value >>= p := by
  induction type with
  | impl implementation evaluate => exact ⟨p, h, fun value => rfl⟩
  | decorator processLiteralParam processBindParam type evaluate ih =>
    obtain ⟨q, hq, hvalue⟩ := ih h
    rw [TypeEngine.literalProcessor, hq]
    cases hprocess : processLiteralParam.or processBindParam with
    | none =>
      refine ⟨q, rfl, fun value => ?_⟩
      rw [hvalue, TypeEngine.own, hprocess]
    | some process =>
      refine ⟨fun value => process value >>= q, rfl, fun value => ?_⟩
      rw [TypeEngine.own, hprocess]
      show process value >>= q = (process value >>= type.own) >>= p
      cases process value with
      | error e => rfl
      | ok value' => exact hvalue value'

theorem own_of_not_hasOwn {type : TypeEngine} (h : type.hasOwn = false) (value : BoundValue) :
    type.own value = .ok value := by
  induction type with
  | impl implementation evaluate => rfl
  | decorator processLiteralParam processBindParam type evaluate ih =>
    rw [TypeEngine.hasOwn, Bool.or_eq_false_iff, Option.isSome_eq_false_iff,
      Option.isNone_iff_eq_none] at h
    rw [TypeEngine.own, h.1]
    exact ih h.2

/-- Over an implementation that renders nothing, what the processing returns is the text. -/
theorem literalProcessor_none {type : TypeEngine} (h : sa.processor type.affinity = none) :
    (type.hasOwn = false ∧ type.literalProcessor sa = none) ∨
      (type.hasOwn = true ∧ ∃ q, type.literalProcessor sa = some q ∧
        ∀ value, q value = type.own value >>= asText) := by
  induction type with
  | impl implementation evaluate => exact Or.inl ⟨rfl, h⟩
  | decorator processLiteralParam processBindParam type evaluate ih =>
    rw [TypeEngine.hasOwn, TypeEngine.literalProcessor]
    cases hprocess : processLiteralParam.or processBindParam with
    | none =>
      have hown : ∀ value, (TypeEngine.decorator processLiteralParam processBindParam type evaluate).own
          value = type.own value := by
        intro value
        rw [TypeEngine.own, hprocess]
      rcases ih h with ⟨hnone, hq⟩ | ⟨hsome, q, hq, hvalue⟩
      · exact Or.inl ⟨hnone, hq⟩
      · exact Or.inr ⟨hsome, q, hq, fun value => by rw [hown]; exact hvalue value⟩
    | some process =>
      have hown : ∀ value, (TypeEngine.decorator processLiteralParam processBindParam type evaluate).own
          value = process value >>= type.own := by
        intro value
        rw [TypeEngine.own, hprocess]
      right
      refine ⟨rfl, ?_⟩
      rcases ih h with ⟨hnone, hq⟩ | ⟨hsome, q, hq, hvalue⟩
      · -- the innermost processing: nothing below it changes the value
        rw [hq]
        refine ⟨fun value => process value >>= asText, rfl, fun value => ?_⟩
        rw [hown]
        show process value >>= asText = (process value >>= type.own) >>= asText
        cases process value with
        | error e => rfl
        | ok value' =>
          show asText value' = type.own value' >>= asText
          rw [own_of_not_hasOwn hnone]
          rfl
      · rw [hq]
        refine ⟨fun value => process value >>= q, rfl, fun value => ?_⟩
        rw [hown]
        show process value >>= q = (process value >>= type.own) >>= asText
        cases process value with
        | error e => rfl
        | ok value' => exact hvalue value'

/-- What the implementation makes of a processed value, if it renders it. -/
def Renders (sa : Sqlalchemy py) (type : TypeEngine) (value : BoundValue) (text : String) : Prop :=
  match sa.processor type.affinity with
  | some p => p value = .ok text
  | none => type.hasOwn = true ∧ value = .str text

theorem asText_eq_ok {value : BoundValue} {text : String} : asText value = .ok text ↔ value = .str text := by
  constructor
  · intro h
    cases value with
    | str s =>
      cases h
      rfl
    | _ => cases h
  · rintro rfl
    rfl

theorem mapError_eq_ok {α : Type} {f : Exn → Exn} {x : Except Exn α} {a : α} :
    x.mapError f = .ok a ↔ x = .ok a := by
  cases x with
  | ok b => exact Iff.rfl
  | error e => exact iff_of_false (fun h => by cases h) (fun h => by cases h)

/-- **SQLAlchemy renders** what the type's own processing returns. -/
theorem renderLiteralValue_eq_ok {value : BoundValue} {type : TypeEngine}
    (hnone : ¬(value = .none ∧ sa.rendersNone = true ∧ type.shouldEvaluateNone = false)) {text : String} :
    sa.renderLiteralValue value type = .ok text ↔
      ∃ value', type.own value = .ok value' ∧ Renders sa type value' text := by
  rw [Sqlalchemy.renderLiteralValue, if_neg hnone]
  unfold Renders
  cases hprocessor : sa.processor type.affinity with
  | some p =>
    obtain ⟨q, hq, hvalue⟩ := literalProcessor_some hprocessor
    rw [hq]
    show (q value).mapError sa.renderError = _ ↔ _
    rw [mapError_eq_ok, hvalue, Outcome.bind_eq_ok_iff]
  | none =>
    rcases literalProcessor_none hprocessor with ⟨hown, hq⟩ | ⟨hown, q, hq, hvalue⟩
    · rw [hq, hown]
      refine iff_of_false (fun h => by cases h) ?_
      rintro ⟨value', -, hfalse, -⟩
      cases hfalse
    · rw [hq, hown]
      show (q value).mapError sa.renderError = _ ↔ _
      rw [mapError_eq_ok, hvalue, Outcome.bind_eq_ok_iff]
      simp only [asText_eq_ok, true_and]

end Processor

/-! ## What the implementations render -/

section Implementations

variable {py : Python} {sa : Sqlalchemy py}

/-- **The text is what the type was to render**: a literal of the value its implementation converts to. -/
def IsLiteralFor (py : Python) (implementation : Implementation) (value : BoundValue) (text : String) :
    Prop :=
  ∃ value', implementation.converted py value = .ok value' ∧ LiteralOf py text value' ∧
    value'.nonFinite = false

/-- Only Integer converts. -/
theorem isLiteralFor_iff {implementation : Implementation} (h : implementation ≠ .integer)
    {value : BoundValue} {text : String} :
    IsLiteralFor py implementation value text ↔ LiteralOf py text value ∧ value.nonFinite = false := by
  rw [IsLiteralFor, Implementation.converted, if_neg h]
  constructor
  · rintro ⟨value', hvalue, hliteral⟩
    cases hvalue
    exact hliteral
  · intro hliteral
    exact ⟨value, rfl, hliteral⟩

/-- An integer is rendered as the number it converts to. -/
theorem isLiteralFor_integer {value : BoundValue} {text : String}
    (h : ((py.int value).map fun n => String.ofList (intText n)) = .ok text) :
    IsLiteralFor py .integer value text := by
  cases hint : py.int value with
  | error e =>
    rw [hint] at h
    cases h
  | ok n =>
    rw [hint] at h
    cases h
    refine ⟨.int n, ?_, literalOf_intText n, rfl⟩
    rw [Implementation.converted, if_pos rfl, hint]
    rfl

/-- A quoted string is a literal of the string alone. -/
theorem not_isLiteralFor_quoted {implementation : Implementation} (himpl : implementation ≠ .integer)
    {s : List Char} {value : BoundValue} (hstr : ∀ s, value ≠ .str s) :
    ¬IsLiteralFor py implementation value (quotedText s) := by
  rw [isLiteralFor_iff himpl]
  rintro ⟨hliteral, -⟩
  exact hstr _ (literalOf_quotedText.mp hliteral)

/-- An implementation that quotes renders nothing as a literal of its own. -/
theorem accepts_iff_of_quoting {implementation : Implementation} {p : BoundValue → Except Exn String}
    (hquoting : implementation ∈ [.dateTime, .date, .time, .largeBinary])
    (hinteger : implementation ≠ .integer) (hp : sa.processor implementation = some p)
    {value : BoundValue} :
    (∀ text, p value ≠ .ok text) ↔
      ∀ text, p value = .ok text → IsLiteralFor py implementation value text := by
  constructor
  · intro h text htext
    exact absurd htext (h text)
  · intro h text htext
    obtain ⟨⟨s, rfl⟩, hstr⟩ := sa.quoting implementation hquoting p hp value text htext
    exact not_isLiteralFor_quoted hinteger hstr (h _ htext)

theorem isNumber_of_isFiniteNumber {value : BoundValue} (h : value.isFiniteNumber = true) :
    value.isNumber = true := by
  cases value <;> first | rfl | cases h

/-- **What an implementation accepts**: whatever it renders of it is a literal of it. -/
theorem accepts_iff {implementation : Implementation} {p : BoundValue → Except Exn String}
    (hp : sa.processor implementation = some p) (value : BoundValue) :
    implementation.Accepts py p value ↔
      ∀ text, p value = .ok text → IsLiteralFor py implementation value text := by
  cases implementation with
  | string =>
    -- strings are quoted, and everything else is refused
    obtain ⟨q, hq, hstr, herror⟩ := sa.string
    cases hp.symm.trans hq
    refine iff_of_true trivial ?_
    intro text htext
    by_cases hvalue : ∃ s, value = .str s
    · obtain ⟨s, rfl⟩ := hvalue
      cases (hstr s).symm.trans htext
      refine (isLiteralFor_iff (by rintro ⟨⟩)).mpr ⟨literalOf_quotedText.mpr ?_, rfl⟩
      rw [String.ofList_toList]
    · obtain ⟨e, he⟩ := herror value fun s hs => hvalue ⟨s, hs⟩
      cases he.symm.trans htext
  | integer =>
    obtain ⟨q, hq, hvalue⟩ := sa.integer
    cases hp.symm.trans hq
    refine iff_of_true trivial ?_
    intro text htext
    exact isLiteralFor_integer ((hvalue value).symm.trans htext)
  | numeric =>
    obtain ⟨q, hq, hvalue⟩ := sa.numeric
    cases hp.symm.trans hq
    constructor
    · -- a number is rendered as `str(value)`
      intro h text htext
      have hfinite := h text htext
      obtain ⟨value', rfl, rfl | ⟨hnumber, -⟩⟩ := hvalue value text htext
      · exact (isLiteralFor_iff (by rintro ⟨⟩)).mpr (literalOf_str_iff.mpr hfinite)
      · rw [isNumber_of_isFiniteNumber hfinite] at hnumber
        cases hnumber
    · intro h text htext
      have hliteral := (isLiteralFor_iff (by rintro ⟨⟩)).mp (h text htext)
      obtain ⟨value', rfl, rfl | ⟨-, ⟨d, rfl⟩ | hfinite⟩⟩ := hvalue value text htext
      · exact literalOf_str_iff.mp hliteral
      · exact isFiniteNumber_of_literalOf_decimal hliteral.1
      · exact isFiniteNumber_of_literalOf hfinite (literalOf_str hfinite) hliteral.1
  | boolean =>
    -- `true` and `false`, also of what is neither
    obtain ⟨q, hq, hbool, hword⟩ := sa.boolean
    cases hp.symm.trans hq
    constructor
    · intro h text htext
      obtain ⟨b, rfl⟩ := h text htext
      cases (hbool b).symm.trans htext
      exact (isLiteralFor_iff (by rintro ⟨⟩)).mpr ⟨literalOf_boolText.mpr rfl, rfl⟩
    · intro h text htext
      obtain ⟨b, rfl⟩ := hword value text htext
      have hliteral := (isLiteralFor_iff (by rintro ⟨⟩)).mp (h _ htext)
      exact ⟨b, literalOf_boolText.mp hliteral.1⟩
  | null =>
    refine iff_of_true trivial ?_
    intro text htext
    obtain ⟨e, he⟩ := sa.null p hp value
    cases he.symm.trans htext
  | dateTime => exact accepts_iff_of_quoting (by decide) (by rintro ⟨⟩) hp
  | date => exact accepts_iff_of_quoting (by decide) (by rintro ⟨⟩) hp
  | time => exact accepts_iff_of_quoting (by decide) (by rintro ⟨⟩) hp
  | largeBinary => exact accepts_iff_of_quoting (by decide) (by rintro ⟨⟩) hp
  | other name =>
    have hliteral : ∀ text, IsLiteralFor py (.other name) value text ↔
        LiteralOf py text value ∧ value.nonFinite = false := fun text =>
      isLiteralFor_iff (by rintro ⟨⟩)
    simp only [Implementation.Accepts, hliteral]

/-- **What is renderable**, through any decorators. -/
theorem isRenderable_iff (type : TypeEngine) (value : BoundValue) :
    IsRenderable sa type value ↔
      ∀ text, Renders sa type value text → IsLiteralFor py type.affinity value text := by
  unfold IsRenderable Renders
  cases hp : sa.processor type.affinity with
  | some p => exact accepts_iff hp value
  | none =>
    have hinteger : type.affinity ≠ .integer := by
      intro haffinity
      obtain ⟨p, hsome, -⟩ := sa.integer
      rw [haffinity, hsome] at hp
      cases hp
    constructor
    · rintro h text ⟨hown, hvalue⟩
      exact absurd hvalue (h hown text)
    · intro h hown s hvalue
      have hliteral := (isLiteralFor_iff hinteger).mp (h s ⟨hown, hvalue⟩)
      rw [hvalue] at hliteral
      exact not_literalOf_str_self s hliteral.1

end Implementations

/-! ## SQLAlchemy's rendering -/

section Rendering

variable {py : Python} (sa : Sqlalchemy py)

theorem denotes_iff {type : TypeEngine} {value : BoundValue} {text : String} :
    type.Denotes py value text ↔
      ∃ value', type.own value = .ok value' ∧ IsLiteralFor py type.affinity value' text := by
  rw [TypeEngine.Denotes, TypeEngine.processed]
  constructor
  · rintro ⟨value', hvalue, hliteral⟩
    obtain ⟨made, hown, hconverted⟩ := Outcome.bind_eq_ok_iff.mp hvalue
    exact ⟨made, hown, value', hconverted, hliteral⟩
  · rintro ⟨made, hown, value', hconverted, hliteral⟩
    exact ⟨value', Outcome.bind_eq_ok_iff.mpr ⟨made, hown, hconverted⟩, hliteral⟩

/-- The types whose `None` gets this far: those that opt in, and the untyped. -/
def LetsNonePass (value : BoundValue) (type : TypeEngine) : Prop :=
  value = .none → type.shouldEvaluateNone = true ∨ type = .impl .null false

/-- An untyped NULL is a literal of `None`. -/
theorem denotes_null : (TypeEngine.impl .null false).Denotes py .none "NULL" := by
  have hread : Literal.read "NULL".toList = some .null := rfl
  exact ⟨.none, rfl, ⟨.null, hread, rfl⟩, rfl⟩

/-- Whatever an untyped value is processed to is renderable: it is refused. -/
theorem isRenderable_null (value : BoundValue) : IsRenderable sa (.impl .null false) value := by
  rw [isRenderable_iff]
  intro text htext
  unfold Renders at htext
  cases hp : sa.processor .null with
  | none =>
    simp only [TypeEngine.affinity, hp] at htext
    cases htext.1
  | some p =>
    simp only [TypeEngine.affinity, hp] at htext
    obtain ⟨e, he⟩ := sa.null p hp value
    cases he.symm.trans htext

/-- **SQLAlchemy's rendering denotes** what the type makes of the value, if that is renderable. -/
theorem renderLiteralValue_denotes_iff {value : BoundValue} {type : TypeEngine}
    (hpass : LetsNonePass value type) :
    (∀ text, sa.renderLiteralValue value type = .ok text → type.Denotes py value text) ↔
      ∀ value', type.own value = .ok value' → IsRenderable sa type value' := by
  by_cases hnone : value = .none ∧ sa.rendersNone = true ∧ type.shouldEvaluateNone = false
  · -- only an untyped NULL is rendered by the compiler itself
    have htype : type = .impl .null false := by
      rcases hpass hnone.1 with h | h
      · rw [hnone.2.2] at h
        cases h
      · exact h
    rw [Sqlalchemy.renderLiteralValue, if_pos hnone, hnone.1, htype]
    refine iff_of_true ?_ ?_
    · intro text htext
      cases htext
      exact denotes_null
    · intro value' _
      exact isRenderable_null sa value'
  · constructor
    · intro h value' hown
      rw [isRenderable_iff]
      intro text htext
      have hdenotes := h text ((renderLiteralValue_eq_ok hnone).mpr ⟨value', hown, htext⟩)
      obtain ⟨made, hmade, hliteral⟩ := denotes_iff.mp hdenotes
      cases hown.symm.trans hmade
      exact hliteral
    · intro h text htext
      obtain ⟨value', hown, hrenders⟩ := (renderLiteralValue_eq_ok hnone).mp htext
      exact denotes_iff.mpr ⟨value', hown, (isRenderable_iff type value').mp (h value' hown) text hrenders⟩

end Rendering

/-! ## A SQLAlchemy -/

/-- An interpreter, for values without floats. -/
def Python.reference : Python where
  floatText bits := String.ofList (intText bits.toNat)
  nearest n := UInt64.ofNat n.mantissa
  floatText_reads := by
    intro bits _
    refine ⟨⟨decide ((bits.toNat : Int) < 0), bits.toNat, 0⟩, ?_, UInt64.ofNat_toNat⟩
    rw [String.toList_ofList]
    exact read_intText bits.toNat
  int value :=
    match value with
    | .bool b => .ok (if b then 1 else 0)
    | .int n => .ok n
    | _ => .error ⟨.python .typeError, "int() argument"⟩
  bytesText cls bytes :=
    match cls with
    | .bytes => "b'" ++ String.ofList (hexText bytes) ++ "'"
    | .bytearray => "bytearray(b'" ++ String.ofList (hexText bytes) ++ "')"
    | .memoryview => "<memory>"
  bytesText_head := by
    intro cls bytes
    cases cls with
    | bytes => exact ⟨'b', by simp, Or.inl rfl⟩
    | bytearray => exact ⟨'b', by simp, Or.inl rfl⟩
    | memoryview => exact ⟨'<', by simp, Or.inr rfl⟩
  objectText cls _ := "<" ++ cls ++ " object>"

namespace Sqlalchemy

/-- `value.isoformat()` with a blank for the `T`, of what has one. -/
def isoText : BoundValue → Option (List Char)
  | .datetime t => some (t.text ' ')
  | .date d => some d.text
  | .time t => some t.time.text
  | _ => none

/-- `value.decode("utf-8")`. -/
def decoded : BoundValue → Option (List Char)
  | .bytesLike .memoryview _ => none
  | .bytesLike _ bytes => (String.fromUTF8? ⟨bytes.toArray⟩).map String.toList
  | _ => none

/-- A quoted text, if there is one. -/
def quotedOr (text : Option (List Char)) : Except Exn String :=
  match text with
  | some s => .ok (quotedText s)
  | none => .error ⟨.python .attributeError, "object has no attribute"⟩

/-- The literal processors. -/
def referenceProcessor (py : Python) : Implementation → Option (BoundValue → Except Exn String)
  | .dateTime => some fun value => quotedOr (isoText value)
  | .date => some fun value =>
    match value with
    | .datetime t => .ok (quotedText t.date.text)
    | value => quotedOr (isoText value)
  | .time => some fun value =>
    match value with
    | .datetime t => .ok (quotedText t.time.text)
    | value => quotedOr (isoText value)
  | .largeBinary => some fun value => quotedOr (decoded value)
  | .string => some fun value =>
    match value with
    | .str s => .ok (quotedText s.toList)
    | _ => .error ⟨.python .attributeError, "object has no attribute 'replace'"⟩
  | .integer => some fun value => (py.int value).map fun n => String.ofList (intText n)
  | .numeric => some fun value => .ok (py.str value)
  | .boolean => some fun value =>
    match value with
    | .none => .ok (boolText false)
    | .bool b => .ok (boolText b)
    | _ => .error ⟨.python .typeError, "Not a boolean value"⟩
  | .null => none
  | .other _ => none

/-- The type of an untyped value; of the bytes only `bytes` is mapped. -/
def resolved : BoundValue → TypeEngine
  | .bytesLike .bytearray _ | .bytesLike .memoryview _ => .impl .null false
  | value => .impl value.implementation false

theorem quotedOr_eq_ok {text : Option (List Char)} {rendered : String} (h : quotedOr text = .ok rendered) :
    ∃ s, text = some s ∧ rendered = quotedText s := by
  cases text with
  | none => cases h
  | some s =>
    cases h
    exact ⟨s, rfl, rfl⟩

/-- **A SQLAlchemy 2** whose Numeric renders whatever it is given, as far as the compiler uses it. -/
def reference (py : Python) : Sqlalchemy py where
  processor := referenceProcessor py
  resolveValueToType value := .ok (resolved value)
  rendersNone := true
  renderError e := ⟨.sqlalchemy .compile, "Could not render literal value: " ++ e.message⟩
  noRenderer value := ⟨.sqlalchemy .compile, "No literal value renderer is available for literal value"⟩
  string := by
    refine ⟨_, rfl, fun s => rfl, ?_⟩
    intro value hvalue
    cases value with
    | str s => exact absurd rfl (hvalue s)
    | _ => exact ⟨_, rfl⟩
  integer := ⟨_, rfl, fun value => rfl⟩
  numeric := by
    refine ⟨_, rfl, fun value text htext => ⟨value, ?_, Or.inl rfl⟩⟩
    cases htext
    rfl
  boolean := by
    refine ⟨_, rfl, fun b => rfl, ?_⟩
    intro value text htext
    cases value with
    | none =>
      cases htext
      exact ⟨false, rfl⟩
    | bool b =>
      cases htext
      exact ⟨b, rfl⟩
    | _ => cases htext
  quoting := by
    intro implementation hquoting p hp value text htext
    have hiso : quotedOr (isoText value) = .ok text → (∃ s, text = quotedText s) ∧ ∀ s, value ≠ .str s := by
      intro h
      obtain ⟨s, hs, rfl⟩ := quotedOr_eq_ok h
      refine ⟨⟨s, rfl⟩, ?_⟩
      rintro s' rfl
      cases hs
    cases implementation with
    | dateTime =>
      cases hp
      exact hiso htext
    | date =>
      cases hp
      cases value with
      | datetime t =>
        cases htext
        exact ⟨⟨_, rfl⟩, by rintro s ⟨⟩⟩
      | _ => exact hiso htext
    | time =>
      cases hp
      cases value with
      | datetime t =>
        cases htext
        exact ⟨⟨_, rfl⟩, by rintro s ⟨⟩⟩
      | _ => exact hiso htext
    | largeBinary =>
      cases hp
      obtain ⟨s, hs, rfl⟩ := quotedOr_eq_ok htext
      refine ⟨⟨s, rfl⟩, ?_⟩
      rintro s' rfl
      cases hs
    | _ => exact absurd hquoting (by simp)
  null := by
    intro p hp
    cases hp
  resolve := by
    intro value type _ htype
    cases htype
    cases value with
    | bytesLike cls bytes =>
      cases cls with
      | bytes => exact Or.inl rfl
      | bytearray => exact Or.inr rfl
      | memoryview => exact Or.inr rfl
    | _ => exact Or.inl rfl

end Sqlalchemy

end FlightSql
