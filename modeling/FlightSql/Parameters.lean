/-
  Parameter binding — `build_parameter_record` and `ParameterRecordBuilder`.

  One row of Python values becomes a record batch of one row: against the parameter schema the server
  declared, when it fits the row; otherwise the legacy batch of one dense union a value.  The empty
  row always takes the legacy path and becomes a batch of NO rows (`buildParameterRecord_nil`),
  every other row that can be bound a batch of one (`numRows_buildParameterRecord`).

  `ArrayBuilder` is what of PyArrow builds arrays out of Python values; its laws are about lengths.

  Mathlib-free.
-/
import FlightSql.Lib.Run
import FlightSql.Arrow.Table

set_option linter.unusedVariables false

namespace FlightSql

open Arrow Lib

/-- **Building arrays from Python values**, as PyArrow does. -/
structure ArrayBuilder where
  /-- `str(type)`. -/
  typeStr : DataType → String
  /-- `repr` of a string. -/
  strRepr : String → String
  /-- `pa.array(values, type=type)`. -/
  array : List PyValue → Option DataType → Except Exn ArrowArray
  /-- `array.cast(type, safe=True)`. -/
  castSafe : ArrowArray → DataType → Except Exn ArrowArray
  /-- `pa.UnionArray.from_dense(types, offsets, children)`. -/
  unionFromDense : ArrowArray → ArrowArray → List ArrowArray → Except Exn ArrowArray
  array_length : ∀ {values type a}, array values type = .ok a → a.data.length = values.length
  castSafe_length : ∀ {a type b}, castSafe a type = .ok b → b.data.length = a.data.length
  unionFromDense_length : ∀ {types offsets children u}, unionFromDense types offsets children = .ok u →
    u.data.length = types.data.length

/-! ## The legacy path -/

/-- `ParameterRecordBuilder.union_positions`, with `arrow_types`. -/
def unionPositions : List (String × ScalarType) :=
  [("int", .int64), ("float", .float64), ("str", .string), ("bytes", .binary), ("bool", .bool)]

/-- The children of the union around a value: its own type's holds it, the others are empty. -/
def unionChildren (b : ArrayBuilder) (value : PyValue) : Except Exn (List ArrowArray) :=
  unionPositions.mapM fun (t, arrowType) =>
    b.array (if value.builtinType = some t then [value] else []) (some (.scalar arrowType))

/-- `union_array_for_value`. -/
def unionArrayForValue (b : ArrayBuilder) (value : PyValue) : Except Exn ArrowArray :=
  match unionPositions.findIdx? fun p => value.builtinType = some p.1 with
  | none =>
    .error (.error ("unable to map \"" ++ value.typeName ++ "\" type to PyArrow datatype"))
  | some typeId => do
    let children ← unionChildren b value
    let types ← b.array [.int typeId] (some (.scalar .int8))
    let offsets ← b.array [.int 0] (some (.scalar .int32))
    b.unionFromDense types offsets children

/-- The schema `RecordBatch.from_arrays(columns, names=names)` gives: `param_0`, `param_1`, … -/
def parameterNames (columns : List ArrowArray) : Schema :=
  ⟨columns.mapIdx fun i c => ⟨⟨"param_" ++ toString i, true, []⟩, c.type⟩, []⟩

/-- `ParameterRecordBuilder(values).build_record()`. -/
def buildRecord (b : ArrayBuilder) (values : List PyValue) : Except Exn RecordBatch :=
  if values.length = 0 then .ok ⟨⟨[], []⟩, []⟩
  else do
    let columns ← values.mapM (unionArrayForValue b)
    .ok ⟨parameterNames columns, columns⟩

/-! ## The typed path -/

/-- `pa.types.is_union`. -/
def isUnion : DataType → Bool
  | .union _ _ _ => true
  | _ => false

/-- `pa.types.is_string_view` or `is_binary_view`. -/
def isView : DataType → Bool
  | .scalar .stringView => true
  | .scalar .binaryView => true
  | _ => false

/-- `pa.types.is_decimal`. -/
def isDecimal : DataType → Bool
  | .scalar (.decimal32 _ _) | .scalar (.decimal64 _ _) => true
  | .scalar (.decimal128 _ _) | .scalar (.decimal256 _ _) => true
  | _ => false

/-- An `int` bound to a decimal goes through the exact `Decimal` of it. -/
def sourceValue (type : DataType) (value : PyValue) : PyValue :=
  match value with
  | .int n => if isDecimal type then .decimal n 0 else .int n
  | value => value

/-- An `int` from `2**63` on is built as `uint64`. -/
def sourceType (value : PyValue) : Option DataType :=
  match value with
  | .int n => if n ≥ 9223372036854775808 then some (.scalar .uint64) else none
  | _ => none

/-- The errors of building and casting that mean the value cannot be bound. -/
def isBindError (e : Exn) : Bool :=
  match e.cls with
  | .arrow .invalid | .arrow .typeError | .arrow .notImplemented => true
  | .python .overflowError => true
  | _ => false

/-- The array of one value: views are built directly, everything else is built untyped and cast. -/
def buildValue (b : ArrayBuilder) (type : DataType) (source : PyValue) : Except Exn ArrowArray :=
  if isView type then b.array [source] (some type)
  else do
    let a ← b.array [source] (sourceType source)
    b.castSafe a type

/-- One column of the typed batch. -/
def bindValue (b : ArrayBuilder) (field : Field) (value : PyValue) : Except Exn ArrowArray :=
  match buildValue b field.type (sourceValue field.type value) with
  | .ok a => .ok a
  | .error error =>
    if isBindError error then
      .error (.dataError
        ("cannot bind " ++ value.typeName ++ " value to parameter " ++ b.strRepr field.info.name ++
          " of type " ++ b.typeStr field.type))
    else .error error

/-- `{f"${i}" for i in range(1, n + 1)}`. -/
def placeholders (n : Nat) : List String := (List.range n).map fun i => "$" ++ toString (i + 1)

/-- `set(parameter_schema.names) == {…}`. -/
def isNumbered (names : List String) (n : Nat) : Bool :=
  names.all (fun name => name ∈ placeholders n) && (placeholders n).all (fun name => name ∈ names)

/-- `int(field.name[1:]) - 1`. -/
def placeholderIndex (name : String) : Nat := (String.ofList (name.toList.drop 1)).toNat?.getD 0 - 1

/-- `schema.with_nullable(True)` on every field; the schema's metadata stays. -/
def nullableSchema (schema : Schema) : Schema :=
  ⟨schema.fields.map fun f => ⟨{ f.info with nullable := true }, f.type⟩, schema.metadata⟩

/-- The typed batch: every field built from its value, by placeholder number or by position. -/
def bindTyped (b : ArrayBuilder) (values : List PyValue) (schema : Schema) :
    Except Exn RecordBatch := do
  let numbered := isNumbered (schema.fields.map fun f => f.info.name) values.length
  let columns ← schema.fields.zipIdx.mapM fun (field, position) =>
    bindValue b field
      (values.getD (if numbered then placeholderIndex field.info.name else position) .none)
  .ok ⟨nullableSchema schema, columns⟩

/-- **`build_parameter_record`**. -/
def buildParameterRecord (b : ArrayBuilder) (values : List PyValue)
    (parameterSchema : Option Schema) : Except Exn RecordBatch :=
  match parameterSchema with
  | none => buildRecord b values
  | some schema =>
    if schema.fields.length ≠ values.length ∨ values.length = 0 ∨
        schema.fields.any (fun f => isUnion f.type) then
      buildRecord b values
    else bindTyped b values schema

/-! ## How many rows a batch has -/

/-- The empty row binds to a batch without rows, whatever the server declared. -/
theorem buildParameterRecord_nil (b : ArrayBuilder) (schema : Option Schema) :
    buildParameterRecord b [] schema = .ok ⟨⟨[], []⟩, []⟩ := by
  cases schema with
  | none => rfl
  | some schema =>
    rw [buildParameterRecord, if_pos (Or.inr (Or.inl List.length_nil))]
    rfl

theorem unionArrayForValue_length {b : ArrayBuilder} {value : PyValue} {a : ArrowArray}
    (h : unionArrayForValue b value = .ok a) : a.data.length = 1 := by
  unfold unionArrayForValue at h
  cases hp : unionPositions.findIdx? fun p => value.builtinType = some p.1 with
  | none =>
    rw [hp] at h
    cases h
  | some typeId =>
    rw [hp] at h
    obtain ⟨children, _, h⟩ := Outcome.bind_eq_ok h
    obtain ⟨types, htypes, h⟩ := Outcome.bind_eq_ok h
    obtain ⟨offsets, _, h⟩ := Outcome.bind_eq_ok h
    rw [b.unionFromDense_length h, b.array_length htypes]
    rfl

/-- A nonempty row that takes the legacy path binds to a batch of one row. -/
theorem numRows_buildRecord {b : ArrayBuilder} {values : List PyValue} {batch : RecordBatch}
    (hne : values ≠ []) (h : buildRecord b values = .ok batch) : batch.numRows = 1 := by
  cases values with
  | nil => exact absurd rfl hne
  | cons v vs =>
    rw [buildRecord, if_neg (by simp)] at h
    obtain ⟨columns, hcols, h⟩ := Outcome.bind_eq_ok h
    obtain ⟨c, cs, rfl, hc, _⟩ := Outcome.mapM_cons_eq_ok hcols
    cases h
    exact unionArrayForValue_length hc

theorem buildValue_length {b : ArrayBuilder} {type : DataType} {source : PyValue} {a : ArrowArray}
    (h : buildValue b type source = .ok a) : a.data.length = 1 := by
  unfold buildValue at h
  by_cases hv : isView type = true
  · rw [if_pos hv] at h
    exact b.array_length h
  · rw [if_neg hv] at h
    obtain ⟨x, hx, h⟩ := Outcome.bind_eq_ok h
    rw [b.castSafe_length h, b.array_length hx]
    rfl

theorem bindValue_length {b : ArrayBuilder} {field : Field} {value : PyValue} {a : ArrowArray}
    (h : bindValue b field value = .ok a) : a.data.length = 1 := by
  unfold bindValue at h
  cases hb : buildValue b field.type (sourceValue field.type value) with
  | ok x =>
    rw [hb] at h
    cases h
    exact buildValue_length hb
  | error e =>
    simp only [hb] at h
    split at h <;> cases h

/-- **Every nonempty row that can be bound is bound as a batch of one row.** -/
theorem numRows_buildParameterRecord {b : ArrayBuilder} {values : List PyValue}
    {schema : Option Schema} {batch : RecordBatch} (hne : values ≠ [])
    (h : buildParameterRecord b values schema = .ok batch) : batch.numRows = 1 := by
  cases schema with
  | none => exact numRows_buildRecord hne h
  | some schema =>
    rw [buildParameterRecord] at h
    by_cases hcond : schema.fields.length ≠ values.length ∨ values.length = 0 ∨
        schema.fields.any (fun f => isUnion f.type)
    · rw [if_pos hcond] at h
      exact numRows_buildRecord hne h
    · rw [if_neg hcond] at h
      have hlen : schema.fields.length = values.length :=
        Classical.not_not.mp fun hl => hcond (Or.inl hl)
      obtain ⟨columns, hcols, h⟩ := Outcome.bind_eq_ok h
      cases h
      cases hf : schema.fields with
      | nil =>
        rw [hf] at hlen
        exact absurd (List.eq_nil_of_length_eq_zero hlen.symm) hne
      | cons f fs =>
        rw [hf, List.zipIdx_cons] at hcols
        obtain ⟨c, cs, rfl, hc, _⟩ := Outcome.mapM_cons_eq_ok hcols
        exact bindValue_length hc

end FlightSql
