/-
  PyArrow, as a parameter.

  The driver rebuilds nested arrays with functions of `pyarrow` and `pyarrow.compute`.  They are not
  part of this repository, so a `PyArrow` is a record of FUNCTIONS together with the LAWS the
  driver relies on — what PyArrow documents about each, on arguments it accepts, and nothing about
  the others:

  1. `cast` — the unsafe cast from nanoseconds to microseconds divides each count by 1000 toward
     zero and keeps nulls;
  2. `listFromArrays`, `fixedSizeListFromArrays`, `structFromArrays`, `mapFromBuffers`,
     `dictionaryFromArrays`, `denseUnionFromBuffers`, `sparseUnionFromBuffers` — the constructors
     assemble the node they are given, at offset zero, a mask's bits inverted;
  3. `concatArrays` of one array — the same values, in fresh buffers that start at offset zero.

  `Shows f t a t' b` ("`b` shows `f` of every value of `a`") is the relation the laws and the
  driver's own results are stated with.

  `PyArrow.reference` computes what the laws say, so the laws can be met together.

  Mathlib-free.
-/
import FlightSql.Exceptions
import FlightSql.Arrow.Format

set_option linter.unusedVariables false

namespace FlightSql.Arrow

/-! ## One array showing another's values -/

/-- **`b` shows `f` of every value of `a`**: a valid array as long as `a`, null where `a` is, whose
    value in each slot is `f` of `a`'s. -/
structure Shows (f : Value → Value) (t : DataType) (a : ArrayData) (t' : DataType)
    (b : ArrayData) : Prop where
  valid : Valid t' b
  length : b.length = a.length
  isNull : ∀ i < a.length, b.isNull i = a.isNull i
  value : ∀ i < a.length, valueAt t' b i = f (valueAt t a i)

namespace Shows

variable {f g : Value → Value} {t t' t'' : DataType} {a b c : ArrayData}

theorem refl (ha : Valid t a) (hf : ∀ i < a.length, f (valueAt t a i) = valueAt t a i) :
    Shows f t a t a :=
  ⟨ha, rfl, fun _ _ => rfl, fun i hi => (hf i hi).symm⟩

theorem trans (hab : Shows f t a t' b) (hbc : Shows g t' b t'' c) :
    Shows (g ∘ f) t a t'' c where
  valid := hbc.valid
  length := hbc.length.trans hab.length
  isNull := by
    intro i hi
    rw [hbc.isNull i (hab.length ▸ hi), hab.isNull i hi]
  value := by
    intro i hi
    rw [hbc.value i (hab.length ▸ hi), hab.value i hi]
    rfl

/-- The values, in order, are `f` of the others. -/
theorem values_eq (h : Shows f t a t' b) :
    (ArrowArray.mk t' b).values = (ArrowArray.mk t a).values.map f := by
  rw [ArrowArray.values, ArrowArray.values, List.map_map]
  show (List.range b.length).map _ = _
  rw [h.length]
  apply List.map_congr_left
  intro i hi
  exact h.value i (List.mem_range.mp hi)

end Shows

/-! ## What PyArrow is relied on for -/

/-- The nanosecond types, each with its microsecond counterpart. -/
inductive Truncates : DataType → DataType → Prop
  | timestamp (tz : Option String) : Truncates (.timestamp .ns tz) (.timestamp .us tz)
  | time64 : Truncates (.time64 .ns) (.time64 .us)
  | duration : Truncates (.duration .ns) (.duration .us)

/-- A nanosecond count as microseconds, divided by 1000 toward zero; any other value as it is. -/
def truncated : Value → Value
  | .timestamp .ns tz n => .timestamp .us tz (n.tdiv 1000)
  | .time64 .ns n => .time64 .us (n.tdiv 1000)
  | .duration .ns n => .duration .us (n.tdiv 1000)
  | v => v

/-- The children are laid out for the fields, each valid and `n` slots long. -/
structure ChildrenFor (fields : Fields) (children : List ArrowArray) (n : Nat) : Prop where
  types : children.map ArrowArray.type = fields.types
  valid : ∀ c ∈ children, Valid c.type c.data
  length : ∀ c ∈ children, c.data.length = n

/-- **PyArrow.**  A `mask` has a set bit for every null; a `validity` for every value. -/
structure PyArrow where
  /-- `str(type)`. -/
  typeStr : DataType → String
  /-- `pc.cast(array, type, safe=False)`. -/
  cast : ArrowArray → DataType → Except Exn ArrowArray
  /-- `pa.ListArray.from_arrays` and `pa.LargeListArray.from_arrays`, with `type` and `mask`. -/
  listFromArrays : List Nat → ArrowArray → DataType → List Bool → Except Exn ArrowArray
  /-- `pa.FixedSizeListArray.from_arrays`, with `type` and `mask`. -/
  fixedSizeListFromArrays : ArrowArray → DataType → List Bool → Except Exn ArrowArray
  /-- `pa.StructArray.from_arrays`, with `fields` and perhaps `mask`. -/
  structFromArrays : List ArrowArray → Fields → Option (List Bool) → Except Exn ArrowArray
  /-- `pa.MapArray.from_buffers(type, length, [validity, offsets], children=[entries])`. -/
  mapFromBuffers : DataType → Nat → List Bool → List Nat → ArrowArray → Except Exn ArrowArray
  /-- `pa.DictionaryArray.from_arrays(indices, dictionary, ordered=ordered)`, the indices an array of
      type `index`. -/
  dictionaryFromArrays : ScalarType → Span → List Nat → ArrowArray → Bool → Except Exn ArrowArray
  /-- `pa.Array.from_buffers(type, length, [None, type_ids, offsets], children=children)`. -/
  denseUnionFromBuffers : DataType → Nat → List Int → List Int → List ArrowArray → Except Exn ArrowArray
  /-- `pa.Array.from_buffers(type, length, [None, type_ids], children=children)`. -/
  sparseUnionFromBuffers : DataType → Nat → List Int → List ArrowArray → Except Exn ArrowArray
  /-- `pa.concat_arrays`. -/
  concatArrays : List ArrowArray → Except Exn ArrowArray
  /-- `pa.chunked_array(chunks, type=type)`. -/
  chunkedArray : List ArrowArray → DataType → Except Exn ChunkedArray

  /-- The unsafe temporal cast truncates toward zero. -/
  cast_truncates : ∀ {t t' : DataType} {a : ArrayData}, Truncates t t' → Valid t a →
    ∃ b, cast ⟨t, a⟩ t' = .ok ⟨t', b⟩ ∧ Shows truncated t a t' b
  list_ok : ∀ {offsets : List Nat} {values : ArrowArray} {type : DataType} {mask : List Bool},
    (∃ field, type = .list field values.type ∨ type = .largeList field values.type) →
    offsets.length = mask.length + 1 →
    ValidOffsets ⟨0, mask.length, none⟩ offsets values.data.length →
    listFromArrays offsets values type mask =
      .ok ⟨type, .list ⟨0, mask.length, some (mask.map not)⟩ offsets values.data⟩
  fixedSizeList_ok : ∀ (values : ArrowArray) (field : FieldInfo) {n : Nat} (mask : List Bool),
    0 < n → values.data.length = mask.length * n →
    fixedSizeListFromArrays values (.fixedSizeList field values.type n) mask =
      .ok ⟨.fixedSizeList field values.type n,
        .fixedSizeList ⟨0, mask.length, some (mask.map not)⟩ values.data⟩
  /-- The length of a struct is that of its children, so there has to be one. -/
  struct_ok : ∀ {children : List ArrowArray} {fields : Fields} (mask : Option (List Bool)) {n : Nat},
    children ≠ [] → ChildrenFor fields children n → (∀ bits, mask = some bits → bits.length = n) →
    structFromArrays children fields mask =
      .ok ⟨.struct fields, .struct ⟨0, n, mask.map (List.map not)⟩ (children.map ArrowArray.data)⟩
  /-- The keys of a map must not be null. -/
  map_ok : ∀ (keyField : FieldInfo) (key : DataType) (itemField : FieldInfo) (item : DataType)
      (sorted : Bool) {n m : Nat} {validity : List Bool} {offsets : List Nat} (keys items : ArrayData),
    validity.length = n → offsets.length = n + 1 → ValidOffsets ⟨0, n, none⟩ offsets m →
    (∀ i < m, keys.isNull i = false) →
    mapFromBuffers (.map keyField key itemField item sorted) n validity offsets
        ⟨.struct (.cons keyField key (.cons itemField item .nil)),
          .struct ⟨0, m, none⟩ [keys, items]⟩ =
      .ok ⟨.map keyField key itemField item sorted,
        .map ⟨0, n, some validity⟩ offsets keys items⟩
  /-- The indices of the values that are not null must be inside the dictionary. -/
  dictionary_ok : ∀ (index : ScalarType) {s : Span} {indices : List Nat} (dictionary : ArrowArray)
      (ordered : Bool),
    s.Within indices.length →
    (∀ i < s.length, s.isNull i = false →
      indices.getD (s.offset + i) 0 < dictionary.data.length) →
    dictionaryFromArrays index s indices dictionary ordered =
      .ok ⟨.dictionary index dictionary.type ordered, .dictionary s indices dictionary.data⟩
  denseUnion_ok : ∀ {fields : Fields} (codes : List Int) {n : Nat} {typeIds offsets : List Int}
      {children : List ArrowArray},
    children.map ArrowArray.type = fields.types → typeIds.length = n → offsets.length = n →
    denseUnionFromBuffers (.union .dense fields codes) n typeIds offsets children =
      .ok ⟨.union .dense fields codes,
        .denseUnion ⟨0, n, none⟩ (some typeIds) (some (offsets.map Int.toNat))
          (children.map ArrowArray.data)⟩
  sparseUnion_ok : ∀ {fields : Fields} (codes : List Int) {n : Nat} {typeIds : List Int}
      {children : List ArrowArray},
    ChildrenFor fields children n → typeIds.length = n →
    sparseUnionFromBuffers (.union .sparse fields codes) n typeIds children =
      .ok ⟨.union .sparse fields codes,
        .sparseUnion ⟨0, n, none⟩ (some typeIds) (children.map ArrowArray.data)⟩
  /-- Concatenating one array copies it. -/
  concat_one : ∀ {t : DataType} {a : ArrayData}, Valid t a →
    ∃ b, concatArrays [⟨t, a⟩] = .ok ⟨t, b⟩ ∧ Shows id t a t b
  /-- The copy of a primitive array has its cells at the front of its buffer. -/
  concat_fixed : ∀ (t : ScalarType) (offset length : Nat) (cells : List Atom),
    t ≠ .null → offset + length ≤ cells.length →
    concatArrays [⟨.scalar t, .fixed ⟨offset, length, none⟩ cells⟩] =
      .ok ⟨.scalar t, .fixed ⟨0, length, none⟩ ((cells.drop offset).take length)⟩
  chunked_ok : ∀ {chunks : List ArrowArray} {t : DataType}, (∀ c ∈ chunks, c.type = t) →
    chunkedArray chunks t = .ok ⟨t, chunks.map ArrowArray.data⟩

end FlightSql.Arrow
