/-
  Integers bound to typed parameters — the exactness of `build_parameter_record`.

  An `int` reaches its field over one of three intermediate arrays: an untyped one (`int64`), a
  `uint64` one from `2**63` on, and, for a decimal field, the array of the exact `Decimal`.

  1. **Storing** (`Stores`) — a one-value array of a numeric type whose cell is the integer's one
     unscaled value, so an array stores one integer (`Stores.unique`).

  2. **What PyArrow is relied on for** (`ExactIntegers`) — the ranges of the three intermediate arrays,
     and that a safe cast between integers or between decimals succeeds exactly on what the target
     can represent.  Nothing is asked of a cast from an integer to a decimal: that one checks the whole
     range of the integer type, which is why the driver goes through a `Decimal`.

  3. **One value** (`bindValue_exact`) — an integer that can be bound is stored, any other is a
     `DataError`.  An integer with more than 76 digits can be bound to no decimal: Arrow has no type to
     infer for it, even where the field's negative scale would take it (`Bindable`).

  4. **The batch** (`buildParameterRecord_exactIntegers`) — of any row, any fields beside the integer
     ones.
-/
import FlightSql.Lib.FixedPoint
import FlightSql.PlaceholderOrder

set_option linter.unusedVariables false

namespace FlightSql

open Arrow Lib Lib.FixedPoint

/-! ## Storing -/

/-- How a type stores numbers, if it stores integers exactly. -/
def numericFormat : ScalarType → Option Format
  | .int8 => some (signed 8)
  | .int16 => some (signed 16)
  | .int32 => some (signed 32)
  | .int64 => some (signed 64)
  | .uint8 => some (unsigned 8)
  | .uint16 => some (unsigned 16)
  | .uint32 => some (unsigned 32)
  | .uint64 => some (unsigned 64)
  | .decimal32 precision scale | .decimal64 precision scale => some (decimal precision scale)
  | .decimal128 precision scale | .decimal256 precision scale => some (decimal precision scale)
  | _ => none

/-- The cell of an unscaled value. -/
def numericCell (t : ScalarType) (unscaled : Int) : Atom :=
  if isDecimal (.scalar t) then .decimal unscaled else .int unscaled

/-- The unscaled value of a cell. -/
def Arrow.Atom.unscaled : Atom → Int
  | .int n => n
  | .decimal n => n
  | _ => 0

@[simp] theorem unscaled_numericCell (t : ScalarType) (u : Int) : (numericCell t u).unscaled = u := by
  rw [numericCell]
  split <;> rfl

/-- **The array holds the integer, exactly, and nothing else.** -/
structure Stores (a : ArrowArray) (t : ScalarType) (v : Int) : Prop where
  type : a.type = .scalar t
  values : ∃ format u, numericFormat t = some format ∧ format.Represents u v ∧
    a.values = [.atom (numericCell t u)]

/-- An array stores one integer. -/
theorem Stores.unique {a : ArrowArray} {t : ScalarType} {v v' : Int} (h : Stores a t v)
    (h' : Stores a t v') : v = v' := by
  obtain ⟨format, u, hformat, hu, hvalues⟩ := h.values
  obtain ⟨format', u', hformat', hu', hvalues'⟩ := h'.values
  rw [hformat] at hformat'
  cases hformat'
  rw [hvalues] at hvalues'
  have hcell : numericCell t u = numericCell t u' := by
    injection hvalues' with hhead
    injection hhead
  have huu : u = u' := by
    rw [← unscaled_numericCell t u, hcell, unscaled_numericCell]
  rw [← huu] at hu'
  exact hu.value_unique hu'

/-- The field's type has a stored form of the integer. -/
def Representable (t : ScalarType) (v : Int) : Prop :=
  ∃ format, numericFormat t = some format ∧ format.Representable v

/-! ## What PyArrow is relied on for -/

/-- Both types store integers, or both decimals. -/
def SameKind (s t : ScalarType) : Prop :=
  (numericFormat s).isSome = true ∧ (numericFormat t).isSome = true ∧
    isDecimal (.scalar s) = isDecimal (.scalar t)

/-- The digits of an integer. -/
def digitCount (v : Int) : Nat := Nat.log 10 v.natAbs + 1

/-- The type an untyped array of an integral `Decimal` has: that of its own precision. -/
def exactDecimal (v : Int) : ScalarType :=
  if digitCount v ≤ 38 then .decimal128 (digitCount v) 0 else .decimal256 (digitCount v) 0

/-- The most digits a decimal type has. -/
def maxPrecision : Nat := 76

/-- **What of PyArrow makes integer binds exact**. -/
structure ExactIntegers (b : ArrayBuilder) : Prop where
  /-- An untyped array of an `int` is `int64`. -/
  int64 : ∀ v, (signed 64).InRange v →
    ∃ a, b.array [.int v] none = .ok a ∧ Stores a .int64 v
  int64_error : ∀ v, ¬(signed 64).InRange v →
    ∃ e, b.array [.int v] none = .error e ∧ (e.cls = .python .overflowError ∨ e.cls = .arrow .invalid)
  uint64 : ∀ v, (unsigned 64).InRange v →
    ∃ a, b.array [.int v] (some (.scalar .uint64)) = .ok a ∧ Stores a .uint64 v
  uint64_error : ∀ v, ¬(unsigned 64).InRange v →
    ∃ e, b.array [.int v] (some (.scalar .uint64)) = .error e ∧
      (e.cls = .python .overflowError ∨ e.cls = .arrow .invalid)
  /-- An untyped array of a `Decimal` has the exact precision of its value. -/
  decimal_inferred : ∀ v, (decimal maxPrecision 0).InRange v →
    ∃ a, b.array [.decimal v 0] none = .ok a ∧ Stores a (exactDecimal v) v
  /-- No type has the precision of a larger one. -/
  decimal_error : ∀ v, ¬(decimal maxPrecision 0).InRange v →
    ∃ e, b.array [.decimal v 0] none = .error e ∧ e.cls = .arrow .invalid
  /-- A safe cast within the integers or the decimals keeps what the target represents … -/
  cast : ∀ {a : ArrowArray} {s t : ScalarType} {v : Int}, Stores a s v → SameKind s t →
    Representable t v → ∃ c, b.castSafe a (.scalar t) = .ok c ∧ Stores c t v
  /-- … and refuses everything else.  Of `decimal32` and `decimal64` this is more than PyArrow 26 does, whose
      safe cast to these two wraps. -/
  cast_error : ∀ {a : ArrowArray} {s t : ScalarType} {v : Int}, Stores a s v → SameKind s t →
    ¬Representable t v → ∃ e, b.castSafe a (.scalar t) = .error e ∧ e.cls = .arrow .invalid

/-! ## One value -/

/-- **The integers that can be bound to a type**: those it represents, for a decimal of at most 76
    digits. -/
def Bindable (t : ScalarType) (v : Int) : Prop :=
  Representable t v ∧ (isDecimal (.scalar t) = true → (decimal maxPrecision 0).InRange v)

/-- The bound on the digits says nothing new of a decimal whose scale is not negative. -/
theorem bindable_iff_representable {t : ScalarType} {precision : Nat} {scale : Int} {v : Int}
    (hformat : numericFormat t = some (decimal precision scale))
    (hprecision : precision ≤ maxPrecision) (hscale : 0 ≤ scale) :
    Bindable t v ↔ Representable t v := by
  constructor
  · exact fun h => h.1
  · intro h
    refine ⟨h, fun _ => ?_⟩
    obtain ⟨format, hformat', hv⟩ := h
    rw [hformat] at hformat'
    cases hformat'
    exact inRange_mono hprecision (inRange_of_representable hscale hv)

/-- A numeric type is no view. -/
theorem isView_numeric {t : ScalarType} (ht : (numericFormat t).isSome = true) :
    isView (.scalar t) = false := by
  cases t <;> first | rfl | exact nomatch ht

/-- Failing with one of the expected classes is a `DataError`. -/
theorem bindValue_dataError {b : ArrayBuilder} {field : Field} {value : PyValue} {e : Exn}
    (h : buildValue b field.type (sourceValue field.type value) = .error e)
    (he : isBindError e = true) : ∃ message, bindValue b field value = .error (.dataError message) := by
  rw [bindValue, h]
  exact ⟨_, if_pos he⟩

theorem isBindError_invalid {e : Exn} (h : e.cls = .arrow .invalid) : isBindError e = true := by
  rw [isBindError, h]

theorem isBindError_range {e : Exn} (h : e.cls = .python .overflowError ∨ e.cls = .arrow .invalid) :
    isBindError e = true := by
  rcases h with h | h <;> rw [isBindError, h]

/-- From an intermediate array that stores the integer, the cast decides. -/
theorem buildValue_cast {b : ArrayBuilder} (hexact : ExactIntegers b) {source : PyValue} {a : ArrowArray}
    {s t : ScalarType} {v : Int} (ha : b.array [source] (sourceType source) = .ok a)
    (hstores : Stores a s v) (hkind : SameKind s t) :
    (Representable t v → ∃ c, buildValue b (.scalar t) source = .ok c ∧ Stores c t v) ∧
      (¬Representable t v → ∃ e, buildValue b (.scalar t) source = .error e ∧ isBindError e = true) := by
  have hbuild : buildValue b (.scalar t) source = b.castSafe a (.scalar t) := by
    rw [buildValue, isView_numeric hkind.2.1, if_neg (by decide), ha]
    rfl
  rw [hbuild]
  constructor
  · exact hexact.cast hstores hkind
  · intro h
    obtain ⟨e, hcast, he⟩ := hexact.cast_error hstores hkind h
    exact ⟨e, hcast, isBindError_invalid he⟩

/-- An intermediate array that cannot be built is the error of the value. -/
theorem buildValue_error {b : ArrayBuilder} {source : PyValue} {t : ScalarType} {e : Exn}
    (ht : (numericFormat t).isSome = true) (ha : b.array [source] (sourceType source) = .error e) :
    buildValue b (.scalar t) source = .error e := by
  rw [buildValue, isView_numeric ht, if_neg (by decide), ha]
  rfl

/-- A type without decimal places represents the integers in its range. -/
theorem representable_iff_inRange {t : ScalarType} {format : Format} {v : Int}
    (hformat : numericFormat t = some format) (hscale : format.scale = 0) :
    Representable t v ↔ format.InRange v := by
  constructor
  · rintro ⟨format', hformat', hv⟩
    rw [hformat] at hformat'
    cases hformat'
    exact (Format.representable_iff_inRange hscale).mp hv
  · intro h
    exact ⟨format, hformat, (Format.representable_iff_inRange hscale).mpr h⟩

/-- No integer type reaches further than `int64` below and `uint64` above. -/
theorem Representable.range {t : ScalarType} {v : Int} (ht : isDecimal (.scalar t) = false)
    (h : Representable t v) : -9223372036854775808 ≤ v ∧ v ≤ 18446744073709551615 := by
  obtain ⟨format, hformat, hv⟩ := h
  have hbounds : format.scale = 0 ∧ -9223372036854775808 ≤ format.least ∧
      format.greatest ≤ 18446744073709551615 := by
    cases t <;> first | cases ht; done | cases hformat; done | (cases hformat; decide)
  obtain ⟨hscale, hleast, hgreatest⟩ := hbounds
  obtain ⟨hlo, hhi⟩ := (Format.representable_iff_inRange hscale).mp hv
  omega

/-- From an intermediate type `s`: an integer in its range is cast, and any other is refused at once. -/
theorem buildValue_over {b : ArrayBuilder} (hexact : ExactIntegers b) {s t : ScalarType} {v : Int}
    {range : Format} (hkind : SameKind s t) (hcovers : Representable t v → range.InRange v)
    (hok : range.InRange v → ∃ a, b.array [.int v] (sourceType (.int v)) = .ok a ∧ Stores a s v)
    (herror : ¬range.InRange v → ∃ e, b.array [.int v] (sourceType (.int v)) = .error e ∧
      (e.cls = .python .overflowError ∨ e.cls = .arrow .invalid)) :
    (Representable t v → ∃ a, buildValue b (.scalar t) (.int v) = .ok a ∧ Stores a t v) ∧
      (¬Representable t v → ∃ e, buildValue b (.scalar t) (.int v) = .error e ∧ isBindError e = true) := by
  by_cases hrange : range.InRange v
  · obtain ⟨a, ha, hstores⟩ := hok hrange
    exact buildValue_cast hexact ha hstores hkind
  · obtain ⟨e, ha, he⟩ := herror hrange
    refine ⟨fun h => absurd (hcovers h) hrange, fun _ => ?_⟩
    exact ⟨e, buildValue_error hkind.2.1 ha, isBindError_range he⟩

/-- **An integer for an integer type** goes over `int64` or `uint64`. -/
theorem buildValue_int {b : ArrayBuilder} (hexact : ExactIntegers b) {t : ScalarType} {v : Int}
    (ht : (numericFormat t).isSome = true) (hint : isDecimal (.scalar t) = false) :
    (Representable t v → ∃ a, buildValue b (.scalar t) (.int v) = .ok a ∧ Stores a t v) ∧
      (¬Representable t v → ∃ e, buildValue b (.scalar t) (.int v) = .error e ∧ isBindError e = true) := by
  by_cases hbig : v ≥ 9223372036854775808
  · have htype : sourceType (.int v) = some (.scalar .uint64) := if_pos hbig
    have hcovers : Representable t v → (unsigned 64).InRange v := by
      intro h
      have hbounds := h.range hint
      constructor
      · show (0 : Int) ≤ v
        omega
      · show v ≤ 2 ^ 64 - 1
        omega
    have hkind : SameKind .uint64 t := ⟨rfl, ht, hint.symm⟩
    have hok := hexact.uint64 v
    have herror := hexact.uint64_error v
    rw [← htype] at hok herror
    exact buildValue_over hexact hkind hcovers hok herror
  · have htype : sourceType (.int v) = none := if_neg hbig
    have hcovers : Representable t v → (signed 64).InRange v := by
      intro h
      have hbounds := h.range hint
      constructor
      · show -2 ^ (64 - 1) ≤ v
        omega
      · show v ≤ 2 ^ (64 - 1) - 1
        omega
    have hkind : SameKind .int64 t := ⟨rfl, ht, hint.symm⟩
    have hok := hexact.int64 v
    have herror := hexact.int64_error v
    rw [← htype] at hok herror
    exact buildValue_over hexact hkind hcovers hok herror

/-- **An integer for a decimal type** goes over the array of its `Decimal`. -/
theorem buildValue_decimal {b : ArrayBuilder} (hexact : ExactIntegers b) {t : ScalarType} {v : Int}
    (ht : (numericFormat t).isSome = true) (hdecimal : isDecimal (.scalar t) = true) :
    (Bindable t v → ∃ a, buildValue b (.scalar t) (.decimal v 0) = .ok a ∧ Stores a t v) ∧
      (¬Bindable t v → ∃ e, buildValue b (.scalar t) (.decimal v 0) = .error e ∧ isBindError e = true) := by
  by_cases hrange : (decimal maxPrecision 0).InRange v
  · obtain ⟨a, ha, hstores⟩ := hexact.decimal_inferred v hrange
    have hkind : SameKind (exactDecimal v) t := by
      rw [SameKind, hdecimal, exactDecimal]
      split <;> exact ⟨rfl, ht, rfl⟩
    obtain ⟨hok, herror⟩ := buildValue_cast hexact ha hstores hkind
    exact ⟨fun h => hok h.1, fun h => herror fun hrep => h ⟨hrep, fun _ => hrange⟩⟩
  · obtain ⟨e, ha, he⟩ := hexact.decimal_error v hrange
    exact ⟨fun h => absurd (h.2 hdecimal) hrange,
      fun _ => ⟨e, buildValue_error ht ha, isBindError_invalid he⟩⟩

/-- **One integer, bound to one numeric field**: stored if it can be bound, and a `DataError` if not. -/
theorem bindValue_exact {b : ArrayBuilder} (hexact : ExactIntegers b) {field : Field} {t : ScalarType}
    {v : Int} (hfield : field.type = .scalar t) (ht : (numericFormat t).isSome = true) :
    (Bindable t v → ∃ a, bindValue b field (.int v) = .ok a ∧ Stores a t v) ∧
      (¬Bindable t v → ∃ message, bindValue b field (.int v) = .error (.dataError message)) := by
  have hvalue : (Bindable t v →
        ∃ a, buildValue b field.type (sourceValue field.type (.int v)) = .ok a ∧ Stores a t v) ∧
      (¬Bindable t v → ∃ e, buildValue b field.type (sourceValue field.type (.int v)) = .error e ∧
        isBindError e = true) := by
    rw [hfield]
    cases hdecimal : isDecimal (.scalar t) with
    | true =>
      have hsource : sourceValue (.scalar t) (.int v) = .decimal v 0 := if_pos hdecimal
      rw [hsource]
      exact buildValue_decimal hexact ht hdecimal
    | false =>
      have hsource : sourceValue (.scalar t) (.int v) = .int v := if_neg (by rw [hdecimal]; decide)
      have hbindable : Bindable t v ↔ Representable t v :=
        ⟨fun h => h.1, fun h => ⟨h, fun hyes => by rw [hdecimal] at hyes; cases hyes⟩⟩
      rw [hsource, hbindable]
      exact buildValue_int hexact ht hdecimal
  constructor
  · intro h
    obtain ⟨a, ha, hstores⟩ := hvalue.1 h
    refine ⟨a, ?_, hstores⟩
    rw [bindValue, ha]
  · intro h
    obtain ⟨e, ha, he⟩ := hvalue.2 h
    exact bindValue_dataError ha he

/-! ## The batch -/

/-- Column `k` of the typed batch is the integer `v`, bound to a field of the numeric type `t`. -/
def IntegerBind (values : List PyValue) (schema : Schema) (k : Nat) (t : ScalarType) (v : Int) : Prop :=
  ∃ (field : Field) (index : Nat), schema.fields[k]? = some field ∧ field.type = .scalar t ∧
    (numericFormat t).isSome = true ∧ (sources schema)[k]? = some index ∧ values[index]? = some (.int v)

/-- The value a typed batch binds at a column. -/
theorem IntegerBind.value {values : List PyValue} {schema : Schema} {k index : Nat} {field : Field}
    {value : PyValue} {t : ScalarType} {v : Int} (h : IntegerBind values schema k t v)
    (hfield : schema.fields[k]? = some field) (hindex : (sources schema)[k]? = some index)
    (hvalue : values[index]? = some value) :
    field.type = .scalar t ∧ (numericFormat t).isSome = true ∧ value = .int v := by
  obtain ⟨field', index', hfield', htype, ht, hindex', hvalue'⟩ := h
  rw [hfield] at hfield'
  cases hfield'
  rw [hindex] at hindex'
  cases hindex'
  rw [hvalue] at hvalue'
  cases hvalue'
  exact ⟨htype, ht, rfl⟩

/-- **An integer bind at its column**: stored if it can be bound, and a `DataError` if not. -/
theorem IntegerBind.bindValue {b : ArrayBuilder} (hexact : ExactIntegers b) {values : List PyValue}
    {schema : Schema} {k index : Nat} {field : Field} {value : PyValue} {t : ScalarType} {v : Int}
    (h : IntegerBind values schema k t v) (hfield : schema.fields[k]? = some field)
    (hindex : (sources schema)[k]? = some index) (hvalue : values[index]? = some value) :
    (Bindable t v ∧ ∃ a, bindValue b field value = .ok a ∧ Stores a t v) ∨
      (¬Bindable t v ∧ ∃ message, bindValue b field value = .error (.dataError message)) := by
  obtain ⟨htype, ht, rfl⟩ := h.value hfield hindex hvalue
  obtain ⟨hstores, hrefused⟩ := bindValue_exact hexact htype ht (v := v)
  by_cases hbindable : Bindable t v
  · exact Or.inl ⟨hbindable, hstores hbindable⟩
  · exact Or.inr ⟨hbindable, hrefused hbindable⟩

section Batch

variable {b : ArrayBuilder} {values : List PyValue} {schema : Schema}

/-- A batch stores every integer bound to a numeric field. -/
theorem bindTyped_stores (hexact : ExactIntegers b) (hlength : schema.fields.length = values.length)
    {batch : RecordBatch} (hbatch : bindTyped b values schema = .ok batch) {k : Nat} {t : ScalarType}
    {v : Int} (hbind : IntegerBind values schema k t v) :
    ∃ column, batch.columns[k]? = some column ∧ Stores column t v := by
  rw [bindTyped_eq b hlength] at hbatch
  obtain ⟨columns, hcolumns, hbatch⟩ := Outcome.bind_eq_ok hbatch
  cases hbatch
  obtain ⟨field, _, hfield, _⟩ := id hbind
  obtain ⟨index, value, column, hindex, hvalue, hcolumn, hok⟩ := bound_at_sources hlength hcolumns hfield
  refine ⟨column, hcolumn, ?_⟩
  rcases hbind.bindValue hexact hfield hindex hvalue with ⟨-, a, ha, hstores⟩ | ⟨-, message, herror⟩
  · rw [hok] at ha
    cases ha
    exact hstores
  · rw [hok] at herror
    cases herror

/-- What keeps a batch from being built: an integer that cannot be bound, or another value. -/
theorem bindTyped_refuses (hexact : ExactIntegers b) (hlength : schema.fields.length = values.length)
    {e : Exn} (he : bindTyped b values schema = .error e) :
    (∃ k t v, IntegerBind values schema k t v ∧ ¬Bindable t v ∧ e.cls = .dbapi .data) ∨
      ∃ (k index : Nat) (field : Field) (value : PyValue), schema.fields[k]? = some field ∧
        (sources schema)[k]? = some index ∧ values[index]? = some value ∧
        (∀ t v, ¬IntegerBind values schema k t v) ∧ bindValue b field value = .error e := by
  rw [bindTyped_eq b hlength] at he
  rcases Outcome.bind_eq_error he with he | ⟨columns, -, he⟩
  · obtain ⟨k, index, field, value, hfield, hindex, hvalue, herror⟩ := failed_at_sources hlength he
    by_cases hbind : ∃ t v, IntegerBind values schema k t v
    · obtain ⟨t, v, hbind⟩ := hbind
      left
      rcases hbind.bindValue hexact hfield hindex hvalue with ⟨-, a, ha, -⟩ | ⟨hnot, message, hmessage⟩
      · rw [herror] at ha
        cases ha
      · rw [herror] at hmessage
        cases hmessage
        exact ⟨k, t, v, hbind, hnot, rfl⟩
    · exact Or.inr ⟨k, index, field, value, hfield, hindex, hvalue, fun t v h => hbind ⟨t, v, h⟩, herror⟩
  · cases he

/-- A row of integers that can all be bound is a batch. -/
theorem bindTyped_total (hexact : ExactIntegers b) (hlength : schema.fields.length = values.length)
    (hall : ∀ k, k < schema.fields.length → ∃ t v, IntegerBind values schema k t v ∧ Bindable t v) :
    ∃ batch, bindTyped b values schema = .ok batch := by
  rw [bindTyped_eq b hlength]
  cases hcolumns : (schema.fields.zip (sources schema)).mapM fun p =>
      bindValue b p.1 (values.getD p.2 .none) with
  | ok columns => exact ⟨_, rfl⟩
  | error e =>
    obtain ⟨k, index, field, value, hfield, hindex, hvalue, herror⟩ := failed_at_sources hlength hcolumns
    obtain ⟨t, v, hbind, hbindable⟩ := hall k (List.getElem?_eq_some_iff.mp hfield).1
    rcases hbind.bindValue hexact hfield hindex hvalue with ⟨-, a, ha, -⟩ | ⟨hnot, -⟩
    · rw [herror] at ha
      cases ha
    · exact absurd hbindable hnot

end Batch

/-- **Integer binds are exact.**  A batch stores every integer bound to a numeric field; what keeps a
    batch from being built is an integer that cannot be bound, a `DataError`, or a column that is no
    integer bind.  So a row of integers that can all be bound is stored. -/
theorem buildParameterRecord_exactIntegers {b : ArrayBuilder} (hexact : ExactIntegers b)
    {values : List PyValue} {schema : Schema} (hsome : 1 ≤ values.length)
    (hlength : schema.fields.length = values.length)
    (hunion : ∀ field ∈ schema.fields, isUnion field.type = false) :
    (∀ batch, buildParameterRecord b values (some schema) = .ok batch →
      ∀ k t v, IntegerBind values schema k t v →
        ∃ column, batch.columns[k]? = some column ∧ Stores column t v) ∧
    (∀ e, buildParameterRecord b values (some schema) = .error e →
      (∃ k t v, IntegerBind values schema k t v ∧ ¬Bindable t v ∧ e.cls = .dbapi .data) ∨
      ∃ (k index : Nat) (field : Field) (value : PyValue), schema.fields[k]? = some field ∧
        (sources schema)[k]? = some index ∧ values[index]? = some value ∧
        (∀ t v, ¬IntegerBind values schema k t v) ∧ bindValue b field value = .error e) ∧
    ((∀ k, k < schema.fields.length → ∃ t v, IntegerBind values schema k t v ∧ Bindable t v) →
      ∃ batch, buildParameterRecord b values (some schema) = .ok batch) := by
  have htyped : buildParameterRecord b values (some schema) = bindTyped b values schema :=
    buildParameterRecord_typed b hsome hlength hunion
  rw [htyped]
  refine ⟨?_, ?_, ?_⟩
  · intro batch hbatch k t v hbind
    exact bindTyped_stores hexact hlength hbatch hbind
  · intro e he
    exact bindTyped_refuses hexact hlength he
  · intro hall
    exact bindTyped_total hexact hlength hall

/-! ## A builder that computes -/

/-- The one-value array of an integer, or the failure if its type does not represent it. -/
def storedAs (t : ScalarType) (v : Int) (failure : Exn) : Except Exn ArrowArray :=
  match (numericFormat t).bind fun format => format.unscaled v with
  | some u => .ok ⟨.scalar t, .fixed ⟨0, 1, none⟩ [numericCell t u]⟩
  | none => .error failure

/-- The integer in a one-value array of a numeric type. -/
def storedInteger (a : ArrowArray) : Option Int :=
  match a.type, a.values with
  | .scalar s, [.atom c] => (numericFormat s).bind fun format => format.value c.unscaled
  | _, _ => none

/-- Arrow has no such value. -/
def outOfRange : Exn := ⟨.arrow .invalid, "value out of range"⟩

theorem storedAs_ok {t : ScalarType} {v : Int} (failure : Exn) (h : Representable t v) :
    ∃ a, storedAs t v failure = .ok a ∧ Stores a t v := by
  obtain ⟨format, hformat, u, hu⟩ := h
  have hunscaled : (numericFormat t).bind (fun format => format.unscaled v) = some u := by
    rw [hformat, Option.bind_some]
    exact Format.unscaled_eq_some_iff.mpr hu
  refine ⟨⟨.scalar t, .fixed ⟨0, 1, none⟩ [numericCell t u]⟩, ?_, rfl, format, u, hformat, hu, rfl⟩
  rw [storedAs, hunscaled]

theorem storedAs_error {t : ScalarType} {v : Int} (failure : Exn) (h : ¬Representable t v) :
    storedAs t v failure = .error failure := by
  have hunscaled : (numericFormat t).bind (fun format => format.unscaled v) = none := by
    cases hformat : numericFormat t with
    | none => rfl
    | some format => exact Format.unscaled_eq_none_iff.mpr fun hv => h ⟨format, hformat, hv⟩
  rw [storedAs, hunscaled]

theorem storedInteger_stores {a : ArrowArray} {t : ScalarType} {v : Int} (h : Stores a t v) :
    storedInteger a = some v := by
  obtain ⟨format, u, hformat, hu, hvalues⟩ := h.values
  rw [storedInteger, h.type, hvalues]
  show (numericFormat t).bind (fun format => format.value (numericCell t u).unscaled) = some v
  rw [hformat, unscaled_numericCell, Option.bind_some]
  exact Format.value_eq_some_iff.mpr hu.denotes

theorem storedAs_length {t : ScalarType} {v : Int} {failure : Exn} {a : ArrowArray}
    (h : storedAs t v failure = .ok a) : a.data.length = 1 := by
  rw [storedAs] at h
  split at h
  · cases h
    rfl
  · cases h

theorem storedInteger_length {a : ArrowArray} {v : Int} (h : storedInteger a = some v) :
    a.data.length = 1 := by
  rw [storedInteger] at h
  split at h
  · rename_i hvalues
    have hlength : a.values.length = 1 := by rw [hvalues]; rfl
    rw [ArrowArray.values, List.length_map, List.length_range] at hlength
    exact hlength
  · cases h

/-- The arrays of one number, each of the type PyArrow gives it; all others as the reference builds them. -/
def exactArray : List PyValue → Option DataType → Except Exn ArrowArray
  | [.int v], none => storedAs .int64 v ⟨.python .overflowError, "Python int too large to convert to C long"⟩
  | [.int v], some (.scalar .uint64) =>
    storedAs .uint64 v ⟨.python .overflowError, "int too big to convert"⟩
  | [.decimal v exponent], none =>
    if exponent = 0 ∧ (decimal maxPrecision 0).InRange v then storedAs (exactDecimal v) v outOfRange
    else .error outOfRange
  | values, type => ArrayBuilder.reference.array values type

/-- A safe cast between numeric types; all others as the reference does them. -/
def exactCast (a : ArrowArray) (type : DataType) : Except Exn ArrowArray :=
  match storedInteger a, type with
  | some v, .scalar t =>
    if (numericFormat t).isSome then storedAs t v outOfRange else ArrayBuilder.reference.castSafe a type
  | _, type => ArrayBuilder.reference.castSafe a type

/-- **The reference builder with exact numbers.** -/
def ArrayBuilder.exact : ArrayBuilder :=
  { ArrayBuilder.reference with
    array := exactArray
    castSafe := exactCast
    array_length := by
      intro values type a h
      unfold exactArray at h
      split at h
      · exact storedAs_length h
      · exact storedAs_length h
      · split at h
        · exact storedAs_length h
        · cases h
      · exact ArrayBuilder.reference.array_length h
    castSafe_length := by
      intro a type c h
      unfold exactCast at h
      split at h
      · rename_i v t hstored
        split at h
        · rw [storedAs_length h, storedInteger_length hstored]
        · exact ArrayBuilder.reference.castSafe_length h
      · exact ArrayBuilder.reference.castSafe_length h }

theorem representable_int64 {v : Int} : Representable .int64 v ↔ (signed 64).InRange v :=
  representable_iff_inRange rfl rfl

theorem representable_uint64 {v : Int} : Representable .uint64 v ↔ (unsigned 64).InRange v :=
  representable_iff_inRange rfl rfl

/-- A decimal type of its own precision represents an integer. -/
theorem representable_exactDecimal (v : Int) : Representable (exactDecimal v) v := by
  have hformat : numericFormat (exactDecimal v) = some (decimal (digitCount v) 0) := by
    rw [exactDecimal]
    split <;> rfl
  have hlog : v.natAbs < 10 ^ digitCount v := Nat.lt_pow_succ_log_self (by decide) v.natAbs
  have hpow : ((10 ^ digitCount v : Nat) : Int) = (10 : Int) ^ digitCount v := by push_cast; rfl
  refine ⟨_, hformat, (Format.representable_iff_inRange rfl).mpr ?_⟩
  show -((10 : Int) ^ digitCount v - 1) ≤ v ∧ v ≤ (10 : Int) ^ digitCount v - 1
  omega

theorem exactCast_stores {a : ArrowArray} {s t : ScalarType} {v : Int} (hstores : Stores a s v)
    (hkind : SameKind s t) : exactCast a (.scalar t) = storedAs t v outOfRange := by
  unfold exactCast
  rw [storedInteger_stores hstores]
  exact if_pos hkind.2.1

/-- **The laws can be met together.** -/
theorem exactIntegers_exact : ExactIntegers .exact where
  int64 v h := storedAs_ok _ (representable_int64.mpr h)
  int64_error v h :=
    ⟨_, storedAs_error _ fun hrep => h (representable_int64.mp hrep), Or.inl rfl⟩
  uint64 v h := storedAs_ok _ (representable_uint64.mpr h)
  uint64_error v h :=
    ⟨_, storedAs_error _ fun hrep => h (representable_uint64.mp hrep), Or.inl rfl⟩
  decimal_inferred v h := by
    obtain ⟨a, ha, hstores⟩ := storedAs_ok outOfRange (representable_exactDecimal v)
    refine ⟨a, ?_, hstores⟩
    rw [← ha]
    exact if_pos ⟨rfl, h⟩
  decimal_error v h := ⟨outOfRange, if_neg fun hand => h hand.2, rfl⟩
  cast := by
    intro a s t v hstores hkind hrep
    obtain ⟨c, hc, hstored⟩ := storedAs_ok outOfRange hrep
    rw [← exactCast_stores hstores hkind] at hc
    exact ⟨c, hc, hstored⟩
  cast_error := by
    intro a s t v hstores hkind hrep
    have hcast := exactCast_stores hstores hkind
    rw [storedAs_error outOfRange hrep] at hcast
    exact ⟨outOfRange, hcast, rfl⟩

/-- `$1` is unsigned, `$2` a price. -/
def numericParameters : Schema :=
  ⟨[⟨⟨"$2", false, []⟩, .scalar (.decimal128 5 2)⟩, ⟨⟨"$1", false, []⟩, .scalar .uint64⟩], []⟩

/-- `2**63` needs the unsigned intermediate array and `-999` all of the decimal's digits. -/
theorem buildParameterRecord_numeric :
    ∃ batch price unsigned, buildParameterRecord .exact [.int 9223372036854775808, .int (-999)]
        (some numericParameters) = .ok batch ∧
      batch.columns[0]? = some price ∧ Stores price (.decimal128 5 2) (-999) ∧
      batch.columns[1]? = some unsigned ∧ Stores unsigned .uint64 9223372036854775808 := by
  have hnumbered : isNumbered numericParameters.names 2 = true := by decide
  have hprice : IntegerBind [.int 9223372036854775808, .int (-999)] numericParameters 0
      (.decimal128 5 2) (-999) :=
    ⟨_, 1, rfl, rfl, rfl, sources_numbered hnumbered rfl rfl, rfl⟩
  have hunsigned : IntegerBind [.int 9223372036854775808, .int (-999)] numericParameters 1
      .uint64 9223372036854775808 :=
    ⟨_, 0, rfl, rfl, rfl, sources_numbered hnumbered rfl rfl, rfl⟩
  have hsome : 1 ≤ [PyValue.int 9223372036854775808, .int (-999)].length := by decide
  have hunion : ∀ field ∈ numericParameters.fields, isUnion field.type = false := by decide
  obtain ⟨hstores, -, hbuilt⟩ :=
    buildParameterRecord_exactIntegers exactIntegers_exact hsome rfl hunion
  obtain ⟨batch, hbatch⟩ := hbuilt (by
    intro k hk
    rcases k with _ | _ | k
    · exact ⟨_, _, hprice, ⟨_, rfl, by decide⟩, fun _ => by decide⟩
    · exact ⟨_, _, hunsigned, ⟨_, rfl, by decide⟩, fun h => nomatch h⟩
    · exact absurd hk (by show ¬k + 1 + 1 < 2; omega))
  obtain ⟨price, hprice', hprices⟩ := hstores batch hbatch _ _ _ hprice
  obtain ⟨column, hcolumn, hcolumns⟩ := hstores batch hbatch _ _ _ hunsigned
  exact ⟨batch, price, column, hbatch, hprice', hprices, hcolumn, hcolumns⟩

/-- One decimal in units of `10 ** 10`. -/
def wideParameter : Schema := ⟨[⟨⟨"amount", true, []⟩, .scalar (.decimal256 76 (-10))⟩], []⟩

/-- **A number the field can hold and no type can be inferred for.** -/
theorem buildParameterRecord_wideDecimal :
    ExactIntegers .exact ∧ Representable (.decimal256 76 (-10)) (10 ^ 80) ∧
      IntegerBind [.int (10 ^ 80)] wideParameter 0 (.decimal256 76 (-10)) (10 ^ 80) ∧
      ∃ message, buildParameterRecord .exact [.int (10 ^ 80)] (some wideParameter) =
        .error (.dataError message) := by
  refine ⟨exactIntegers_exact, ⟨_, rfl, 10 ^ 70, by decide, by decide⟩,
    ⟨_, 0, rfl, rfl, rfl, rfl, rfl⟩, ?_⟩
  exact ⟨_, rfl⟩

end FlightSql
