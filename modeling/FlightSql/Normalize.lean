/-
  Microsecond normalization of Arrow columns — `_normalize_temporal_chunked_array` and below it.

  Nanosecond timestamps, times and durations are truncated to microseconds wherever they sit in a
  column.  Leaves are cast; every container is taken apart and rebuilt around its normalized
  children, and because Arrow arrays are WINDOWS of shared buffers each kind rebases its window in
  its own way:

  * lists, large lists and maps subtract the first offset and slice the child between the first and
    the last;
  * fixed-size lists slice the child at `offset * size`;
  * structs and sparse unions slice every child by the parent's window;
  * dense unions keep their children whole and copy the type ids and offsets of the window;
  * dictionaries keep the indices and normalize the dictionary.

  `microsecond` is what the result is to mean: the same logical value with every nanosecond count
  replaced.  The main lemma `normalizeTemporalArray_shows` goes by induction on the type, one case a
  container; `normalizeTemporalChunkedArray_values` is the column theorem.

  Mathlib-free.
-/
import FlightSql.Arrow.Reference
import FlightSql.TemporalType

set_option linter.unusedVariables false

namespace FlightSql

open Arrow

/-! ## The meaning of normalization -/

mutual
/-- **The microsecond value** of a logical value: nanosecond counts are divided by 1000 toward zero
    at every depth; nulls, list lengths, field order, map entries and union branches stay. -/
def microsecond : Value → Value
  | .list items => .list (microsecondAll items)
  | .struct names values => .struct names (microsecondAll values)
  | .map keys items => .map (microsecondAll keys) (microsecondAll items)
  | .union code value => .union code (microsecond value)
  | .timestamp unit tz n => truncated (.timestamp unit tz n)
  | .time64 unit n => truncated (.time64 unit n)
  | .duration unit n => truncated (.duration unit n)
  | .time32 unit n => .time32 unit n
  | .atom a => .atom a
  | .null => .null
/-- `microsecond` on each of a list of values. -/
def microsecondAll : List Value → List Value
  | [] => []
  | v :: vs => microsecond v :: microsecondAll vs
end

theorem microsecondAll_eq_map (vs : List Value) : microsecondAll vs = vs.map microsecond := by
  induction vs with
  | nil => rfl
  | cons v vs ih => rw [microsecondAll, List.map_cons, ih]

/-! ## Rebasing a window -/

/-- `array.offsets` of a list or map array: the window's offsets, one more than it has slots. -/
def listOffsets (s : Span) (offsets : List Nat) : List Nat :=
  (offsets.drop s.offset).take (s.length + 1)

/-- `array.offsets[0].as_py()`. -/
def start (s : Span) (offsets : List Nat) : Nat := (listOffsets s offsets).headD 0

/-- `array.offsets[-1].as_py()`. -/
def stop (s : Span) (offsets : List Nat) : Nat := (listOffsets s offsets).getLastD 0

/-- `pc.subtract(offsets, pa.scalar(start))`. -/
def subtract (offsets : List Nat) (start : Nat) : List Nat := offsets.map (· - start)

/-- `_normalized_list_storage`: the offsets from zero and the part of the child they point into. -/
def normalizedListStorage (s : Span) (offsets : List Nat) (values : ArrayData) :
    List Nat × ArrayData :=
  (subtract (listOffsets s offsets) (start s offsets),
    values.slice (start s offsets) (stop s offsets - start s offsets))

/-- The cells of a primitive array, `array.buffers()[1]`. -/
def Arrow.ArrayData.buffer : ArrayData → List Int
  | .fixed _ cells => cells.map Atom.count
  | _ => []

/-- `_union_buffer_array`, then its buffer: the window's part of a type-id or offset buffer. -/
def unionBufferArray (pa : PyArrow) (arrayType : DataType) (s : Span) (arrowType : ScalarType)
    (index : Nat) (buffer : Option (List Int)) : Except Exn (List Int) :=
  match buffer with
  | none =>
    -- an empty buffer may be absent
    if s.length = 0 then .ok []
    else
      .error (.notSupported
        ("union array of type " ++ pa.typeStr arrayType ++ " is missing buffer " ++ toString index))
  | some cells => do
    let logical := ArrowArray.mk (.scalar arrowType) (.fixed ⟨s.offset, s.length, none⟩ (cells.map .int))
    let copy ← pa.concatArrays [logical]
    .ok copy.data.buffer

/-! ## The source functions -/

/-- How `_normalize_temporal_array` starts: an array whose type is already normal is returned as it
    is, any other is rebuilt for the target type. -/
def unlessUnchanged (pa : PyArrow) (t : DataType) (a : ArrayData) (path : String)
    (rebuild : DataType → Except Exn ArrowArray) : Except Exn ArrowArray := do
  let target ← normalizedTemporalType pa t path
  if target = t then .ok ⟨t, a⟩ else rebuild target

/-- How it ends: no branch took the array. -/
def cannotNormalize (pa : PyArrow) (t : DataType) (path : String) : Except Exn ArrowArray :=
  .error (.notSupported ("cannot safely normalize Arrow type " ++ pa.typeStr t ++ " at " ++ path))

/-- An array without children: cast, when it has a microsecond type. -/
def normalizeTemporalLeaf (pa : PyArrow) (t : DataType) (a : ArrayData) (path : String) :
    Except Exn ArrowArray :=
  unlessUnchanged pa t a path fun target =>
    match microsecondTemporalType t with
    | some temporalType => pa.cast ⟨t, a⟩ temporalType
    | none => cannotNormalize pa t path

/-- `list(target_type)` of a struct type. -/
def fieldList : DataType → Fields
  | .struct fields => fields
  | _ => .nil

/-- `fields=[target_type.key_field, target_type.item_field]`. -/
def entryFields : DataType → Fields
  | .map keyField k itemField v _ => .cons keyField k (.cons itemField v .nil)
  | _ => .nil

/-- The last check of `_normalize_temporal_union_array`. -/
def unionArray (pa : PyArrow) (t : DataType) (path : String) (normalized : ArrowArray) :
    Except Exn ArrowArray :=
  match normalized.type with
  | .union _ _ _ => .ok normalized
  | _ =>
    .error (.notSupported
      ("normalizing union type " ++ pa.typeStr t ++ " at " ++ path ++
        " did not produce a union array"))

mutual
/-- **`_normalize_temporal_array`**, structurally on the array's type. -/
def normalizeTemporalArray (pa : PyArrow) : DataType → ArrayData → String → Except Exn ArrowArray
  | .list field t, .list s offsets values, path =>
    unlessUnchanged pa (.list field t) (.list s offsets values) path fun target => do
      let storage := normalizedListStorage s offsets values
      let values ← normalizeTemporalArray pa t storage.2 (path ++ "[]")
      pa.listFromArrays storage.1 values target s.nulls
  | .largeList field t, .list s offsets values, path =>
    unlessUnchanged pa (.largeList field t) (.list s offsets values) path fun target => do
      let storage := normalizedListStorage s offsets values
      let values ← normalizeTemporalArray pa t storage.2 (path ++ "[]")
      pa.listFromArrays storage.1 values target s.nulls
  | .fixedSizeList field t n, .fixedSizeList s values, path =>
    unlessUnchanged pa (.fixedSizeList field t n) (.fixedSizeList s values) path fun target => do
      let values := values.slice (s.offset * n) (s.length * n)
      let values ← normalizeTemporalArray pa t values (path ++ "[]")
      pa.fixedSizeListFromArrays values target s.nulls
  | .struct fields, .struct s children, path =>
    unlessUnchanged pa (.struct fields) (.struct s children) path fun target => do
      -- `array.field(index)` is the child sliced by the struct's window
      let children ← normalizeTemporalChildren pa fields
        (children.map fun c => c.slice s.offset s.length) path
      pa.structFromArrays children (fieldList target) (some s.nulls)
  | .map keyField k itemField v sorted, .map s offsets keys items, path =>
    unlessUnchanged pa (.map keyField k itemField v sorted) (.map s offsets keys items) path
      fun target => do
        let start := start s offsets
        let stop := stop s offsets
        let normalizedOffsets := subtract (listOffsets s offsets) start
        let keys ← normalizeTemporalArray pa k (keys.slice start (stop - start)) (path ++ ".key")
        let items ← normalizeTemporalArray pa v (items.slice start (stop - start))
          (path ++ ".value")
        let entries ← pa.structFromArrays [keys, items] (entryFields target) none
        pa.mapFromBuffers target s.length s.valids normalizedOffsets entries
  | .dictionary index t ordered, .dictionary s indices values, path =>
    unlessUnchanged pa (.dictionary index t ordered) (.dictionary s indices values) path
      fun target => do
        let dictionary ← normalizeTemporalArray pa t values (path ++ ".dictionary")
        let normalized ← pa.dictionaryFromArrays index s indices dictionary ordered
        if normalized.type ≠ target then
          .error (.notSupported
            ("normalizing " ++ pa.typeStr (.dictionary index t ordered) ++ " at " ++ path ++
              " did not preserve its Arrow type"))
        else .ok normalized
  -- `_normalize_temporal_union_array`
  | .union .dense fields codes, .denseUnion s typeIds offsets children, path =>
    unlessUnchanged pa (.union .dense fields codes) (.denseUnion s typeIds offsets children) path
      fun target => do
        let typeIds ← unionBufferArray pa (.union .dense fields codes) s .int8 1 typeIds
        -- `array.field(index)` of a dense union is the whole child
        let children ← normalizeTemporalChildren pa fields children path
        let offsets ← unionBufferArray pa (.union .dense fields codes) s .int32 2
          (offsets.map fun xs => xs.map Int.ofNat)
        let normalized ← pa.denseUnionFromBuffers target s.length typeIds offsets children
        unionArray pa (.union .dense fields codes) path normalized
  | .union .sparse fields codes, .sparseUnion s typeIds children, path =>
    unlessUnchanged pa (.union .sparse fields codes) (.sparseUnion s typeIds children) path
      fun target => do
        let typeIds ← unionBufferArray pa (.union .sparse fields codes) s .int8 1 typeIds
        -- `array.field(index)` of a sparse union is the child sliced by the union's window
        let children ← normalizeTemporalChildren pa fields
          (children.map fun c => c.slice s.offset s.length) path
        let children ← children.mapM fun c => pa.concatArrays [c]
        let normalized ← pa.sparseUnionFromBuffers target s.length typeIds children
        unionArray pa (.union .sparse fields codes) path normalized
  | t, a, path => normalizeTemporalLeaf pa t a path
/-- `_normalize_temporal_array` on the children of a struct or union, under their fields' names. -/
def normalizeTemporalChildren (pa : PyArrow) :
    Fields → List ArrayData → String → Except Exn (List ArrowArray)
  | .cons field t rest, child :: children, path => do
    let child ← normalizeTemporalArray pa t child (path ++ "." ++ field.name)
    let children ← normalizeTemporalChildren pa rest children path
    .ok (child :: children)
  | _, _, _ => .ok []
end

/-- **`_normalize_temporal_chunked_array`**. -/
def normalizeTemporalChunkedArray (pa : PyArrow) (column : ChunkedArray) :
    Except Exn ChunkedArray := do
  let targetType ← normalizedTemporalType pa column.type "column"
  if targetType = column.type then .ok column
  else do
    let chunks ← column.chunks.mapM fun chunk =>
      normalizeTemporalArray pa column.type chunk "column"
    pa.chunkedArray chunks targetType

/-! ## Arrays that stay as they are -/

/-- A slot of a leaf is null or a leaf value: two functions that agree on these agree on it. -/
theorem cellAt_congr (F G : Value → Value) {f : Atom → Value} (hnull : F .null = G .null)
    (hf : ∀ c, F (f c) = G (f c)) (a : ArrayData) (i : Nat) : F (cellAt f a i) = G (cellAt f a i) := by
  cases a with
  | fixed s cells =>
    rw [cellAt]
    by_cases h : s.isNull i = true
    · rw [if_pos h]
      exact hnull
    · rw [if_neg h]
      exact hf _
  | _ => exact hnull

theorem microsecond_cellAt {f : Atom → Value} (hf : ∀ c, microsecond (f c) = f c) (a : ArrayData)
    (i : Nat) : microsecond (cellAt f a i) = cellAt f a i :=
  cellAt_congr microsecond id rfl hf a i

theorem microsecondAll_itemsOf {f : Nat → Value} (hf : ∀ j, microsecond (f j) = f j) (lo hi : Nat) :
    microsecondAll (itemsOf f lo hi) = itemsOf f lo hi := by
  rw [microsecondAll_eq_map, itemsOf, List.map_map]
  exact List.map_congr_left fun k _ => hf _

/-- A null stays null, whatever would have been there. -/
theorem microsecond_ite_null (b : Bool) (v : Value) :
    microsecond (if b then .null else v) = if b then .null else microsecond v := by
  cases b <;> rfl

mutual
/-- Without a nanosecond count in its type, no value of an array changes. -/
theorem microsecond_valueAt : ∀ (t : DataType), containsNanosecondTemporal t = false →
    ∀ (a : ArrayData) (i : Nat), microsecond (valueAt t a i) = valueAt t a i
  | .scalar t, h, a, i => microsecond_cellAt (fun _ => rfl) a i
  | .timestamp unit tz, h, a, i => by
    refine microsecond_cellAt (fun c => ?_) a i
    cases unit with
    | ns => exact Bool.noConfusion h
    | _ => rfl
  | .time32 unit, h, a, i => microsecond_cellAt (fun _ => rfl) a i
  | .time64 unit, h, a, i => by
    refine microsecond_cellAt (fun c => ?_) a i
    cases unit with
    | ns => exact absurd h (by decide)
    | _ => rfl
  | .duration unit, h, a, i => by
    refine microsecond_cellAt (fun c => ?_) a i
    cases unit with
    | ns => exact absurd h (by decide)
    | _ => rfl
  | .list _ t, h, a, i => by
    cases a with
    | list s offsets values =>
      rw [valueAt, microsecond_ite_null, microsecond,
        microsecondAll_itemsOf (microsecond_valueAt t h values)]
    | _ => rfl
  | .largeList _ t, h, a, i => by
    cases a with
    | list s offsets values =>
      rw [valueAt, microsecond_ite_null, microsecond,
        microsecondAll_itemsOf (microsecond_valueAt t h values)]
    | _ => rfl
  | .fixedSizeList _ t n, h, a, i => by
    cases a with
    | fixedSizeList s values =>
      rw [valueAt, microsecond_ite_null, microsecond,
        microsecondAll_itemsOf (microsecond_valueAt t h values)]
    | _ => rfl
  | .struct fields, h, a, i => by
    cases a with
    | struct s children =>
      rw [valueAt, microsecond_ite_null, microsecond, microsecondAll_fieldsAt fields h]
    | _ => rfl
  | .map _ k _ v _, h, a, i => by
    have hkv : containsNanosecondTemporal k = false ∧ containsNanosecondTemporal v = false :=
      Bool.or_eq_false_iff.mp h
    cases a with
    | map s offsets keys items =>
      rw [valueAt, microsecond_ite_null, microsecond,
        microsecondAll_itemsOf (microsecond_valueAt k hkv.1 keys),
        microsecondAll_itemsOf (microsecond_valueAt v hkv.2 items)]
    | _ => rfl
  | .dictionary _ t _, h, a, i => by
    cases a with
    | dictionary s indices values =>
      rw [valueAt, microsecond_ite_null, microsecond_valueAt t h values]
    | _ => rfl
  | .union .dense fields codes, h, a, i => by
    cases a with
    | denseUnion s typeIds offsets children =>
      rw [valueAt, microsecond, microsecond_branchAt fields h]
    | _ => rfl
  | .union .sparse fields codes, h, a, i => by
    cases a with
    | sparseUnion s typeIds children =>
      rw [valueAt, microsecond, microsecond_branchAt fields h]
    | _ => rfl
  | .extension _ t, h, a, i => by
    rw [valueAt]
    exact microsecond_valueAt t h a i
  | .other _ _, h, a, i => microsecond_cellAt (fun _ => rfl) a i
theorem microsecondAll_fieldsAt : ∀ (fields : Fields), anyNanosecondTemporal fields = false →
    ∀ (children : List ArrayData) (j : Nat),
      microsecondAll (fieldsAt fields children j) = fieldsAt fields children j
  | .nil, h, children, j => by
    cases children <;> rfl
  | .cons _ t rest, h, children, j => by
    have htr : containsNanosecondTemporal t = false ∧ anyNanosecondTemporal rest = false :=
      Bool.or_eq_false_iff.mp h
    cases children with
    | nil => rfl
    | cons child children =>
      rw [fieldsAt, microsecondAll, microsecond_valueAt t htr.1,
        microsecondAll_fieldsAt rest htr.2]
theorem microsecond_branchAt : ∀ (fields : Fields), anyNanosecondTemporal fields = false →
    ∀ (codes : List Int) (children : List ArrayData) (code : Int) (j : Nat),
      microsecond (branchAt fields codes children code j) = branchAt fields codes children code j
  | .nil, h, codes, children, code, j => by
    cases codes <;> cases children <;> rfl
  | .cons _ t rest, h, codes, children, code, j => by
    have htr : containsNanosecondTemporal t = false ∧ anyNanosecondTemporal rest = false :=
      Bool.or_eq_false_iff.mp h
    cases codes with
    | nil => rfl
    | cons c codes =>
      cases children with
      | nil => rfl
      | cons child children =>
        rw [branchAt]
        by_cases hc : c = code
        · rw [if_pos hc]
          exact microsecond_valueAt t htr.1 child j
        · rw [if_neg hc]
          exact microsecond_branchAt rest htr.2 codes children code j
end

mutual
/-- A supported type that is its own microsecond type has no nanosecond count in it. -/
theorem containsNanosecondTemporal_of_unchanged : ∀ (t : DataType), Supported t →
    microsecondType t = t → containsNanosecondTemporal t = false
  | .list _ t, hs, h => containsNanosecondTemporal_of_unchanged t hs (by injection h)
  | .largeList _ t, hs, h => containsNanosecondTemporal_of_unchanged t hs (by injection h)
  | .fixedSizeList _ t _, hs, h => containsNanosecondTemporal_of_unchanged t hs (by injection h)
  | .struct fields, hs, h => anyNanosecondTemporal_of_unchanged fields hs (by injection h)
  | .map _ k _ v _, hs, h => by
    injection h with _ hk _ hv _
    rw [containsNanosecondTemporal, containsNanosecondTemporal_of_unchanged k hs.1 hk,
      containsNanosecondTemporal_of_unchanged v hs.2 hv]
    rfl
  | .dictionary _ t _, hs, h => containsNanosecondTemporal_of_unchanged t hs (by injection h)
  | .union _ fields _, hs, h => anyNanosecondTemporal_of_unchanged fields hs (by injection h)
  | .extension _ t, hs, h => hs
  | .other _ fields, hs, h => hs
  | .timestamp unit tz, hs, h => by
    cases unit with
    | ns => exact absurd h (by rw [microsecondType]; simp)
    | _ => rfl
  | .time64 unit, hs, h => by
    cases unit with
    | ns => exact absurd h (by decide)
    | _ => rfl
  | .duration unit, hs, h => by
    cases unit with
    | ns => exact absurd h (by decide)
    | _ => rfl
  | .scalar _, hs, h => rfl
  | .time32 _, hs, h => rfl
theorem anyNanosecondTemporal_of_unchanged : ∀ (fields : Fields), SupportedFields fields →
    microsecondFields fields = fields → anyNanosecondTemporal fields = false
  | .nil, hs, h => rfl
  | .cons _ t rest, hs, h => by
    injection h with _ ht hr
    rw [anyNanosecondTemporal, containsNanosecondTemporal_of_unchanged t hs.1 ht,
      anyNanosecondTemporal_of_unchanged rest hs.2 hr]
    rfl
end

/-- **The outcome the induction is about**: the array is rebuilt with its microsecond type and shows
    the microsecond values. -/
def Normalized (t : DataType) (a : ArrayData) (r : Except Exn ArrowArray) : Prop :=
  ∃ b, r = .ok ⟨microsecondType t, b⟩ ∧ Shows microsecond t a (microsecondType t) b

/-- The common start of every branch: only an array whose type changes has to be rebuilt. -/
theorem unlessUnchanged_normalized {pa : PyArrow} {t : DataType} {a : ArrayData} {path : String}
    {rebuild : DataType → Except Exn ArrowArray} (hs : Supported t) (ha : Valid t a)
    (h : microsecondType t ≠ t → Normalized t a (rebuild (microsecondType t))) :
    Normalized t a (unlessUnchanged pa t a path rebuild) := by
  have heq : unlessUnchanged pa t a path rebuild =
      if microsecondType t = t then .ok ⟨t, a⟩ else rebuild (microsecondType t) := by
    rw [unlessUnchanged, normalizedTemporalType_ok pa t path hs]
    rfl
  rw [heq]
  by_cases hu : microsecondType t = t
  · rw [if_pos hu]
    refine ⟨a, by rw [hu], ?_⟩
    rw [hu]
    have hn := containsNanosecondTemporal_of_unchanged t hs hu
    exact Shows.refl ha fun i _ => microsecond_valueAt t hn a i
  · rw [if_neg hu]
    exact h hu

/-! ## Rebased lists -/

section Rebased

variable {s : Span} {offsets : List Nat} {bound : Nat}

theorem getD_listOffsets {i : Nat} (hi : i ≤ s.length) :
    (listOffsets s offsets).getD i 0 = offsets.getD (s.offset + i) 0 := by
  rw [listOffsets, List.getD_eq_getElem?_getD, List.getElem?_take, if_pos (by omega),
    List.getElem?_drop, List.getD_eq_getElem?_getD]

theorem length_listOffsets (h : ValidOffsets s offsets bound) :
    (listOffsets s offsets).length = s.length + 1 := by
  have := h.1
  rw [listOffsets, List.length_take, List.length_drop]
  omega

theorem headD_listOffsets : (listOffsets s offsets).headD 0 = offsets.getD s.offset 0 := by
  have h : (listOffsets s offsets).getD 0 0 = offsets.getD (s.offset + 0) 0 :=
    getD_listOffsets (Nat.zero_le s.length)
  rw [Nat.add_zero] at h
  rw [← h]
  cases listOffsets s offsets <;> rfl

theorem getLastD_listOffsets (h : ValidOffsets s offsets bound) :
    (listOffsets s offsets).getLastD 0 = offsets.getD (s.offset + s.length) 0 := by
  rw [← getD_listOffsets (Nat.le_refl _), List.getLastD_eq_getLast?, List.getLast?_eq_getElem?,
    length_listOffsets h, List.getD_eq_getElem?_getD]
  rfl

theorem getD_subtract (xs : List Nat) (start i : Nat) :
    (subtract xs start).getD i 0 = xs.getD i 0 - start := by
  rw [subtract, List.getD_eq_getElem?_getD, List.getElem?_map, List.getD_eq_getElem?_getD]
  cases xs[i]? with
  | none => exact (Nat.zero_sub _).symm
  | some x => rfl

/-- The window's extents lie between its first and its last offset. -/
theorem extent_bounds (h : ValidOffsets s offsets bound) {i : Nat} (hi : i < s.length) :
    start s offsets ≤ (extent s offsets i).1 ∧
      (extent s offsets i).1 ≤ (extent s offsets i).2 ∧
      (extent s offsets i).2 ≤ stop s offsets := by
  refine ⟨?_, h.2.1 i hi, ?_⟩
  · rw [start, headD_listOffsets]
    exact h.mono (Nat.zero_le i) (Nat.le_of_lt hi)
  · rw [stop, getLastD_listOffsets h]
    exact h.mono (i := i + 1) hi (Nat.le_refl _)

/-- The part of the child between them is inside the child. -/
theorem start_add_le (h : ValidOffsets s offsets bound) :
    start s offsets + (stop s offsets - start s offsets) ≤ bound := by
  have hle : start s offsets ≤ stop s offsets := by
    rw [start, stop, headD_listOffsets, getLastD_listOffsets h]
    exact h.mono (Nat.zero_le s.length) (Nat.le_refl _)
  have hstop : stop s offsets ≤ bound := by
    rw [stop, getLastD_listOffsets h]
    exact h.2.2
  omega

/-- The rebased offsets of the window, read from zero. -/
theorem extent_subtract {v : Option (List Bool)} {i : Nat} (hi : i < s.length) :
    extent ⟨0, s.length, v⟩ (subtract (listOffsets s offsets) (start s offsets)) i =
      ((extent s offsets i).1 - start s offsets, (extent s offsets i).2 - start s offsets) := by
  rw [extent, extent, getD_subtract, getD_subtract]
  show (_ - _, _ - _) = _
  rw [Nat.zero_add, getD_listOffsets (Nat.le_of_lt hi), getD_listOffsets hi]
  rfl

/-- They are offsets into the sliced child. -/
theorem validOffsets_subtract (h : ValidOffsets s offsets bound) (v : Option (List Bool)) :
    ValidOffsets ⟨0, s.length, v⟩ (subtract (listOffsets s offsets) (start s offsets))
      (stop s offsets - start s offsets) := by
  refine ⟨?_, ?_, ?_⟩
  · rw [subtract, List.length_map, length_listOffsets h]
    exact Nat.lt_succ_of_le (Nat.le_of_eq (Nat.zero_add _))
  · intro i hi
    have hi : i < s.length := hi
    rw [extent_subtract hi]
    exact Nat.sub_le_sub_right (h.2.1 i hi) _
  · show (subtract _ _).getD (0 + s.length) 0 ≤ _
    rw [getD_subtract, Nat.zero_add, getD_listOffsets (Nat.le_refl _), ← getLastD_listOffsets h]
    exact Nat.le_refl _

/-- **Rebasing an extent**: the items between the rebased offsets, in a child that shows the values
    of the slice, are those between the original offsets in the original child. -/
theorem itemsOf_rebased {f : Value → Value} {t t' : DataType} {values b : ArrayData}
    (h : ValidOffsets s offsets values.length)
    (hb : Shows f t (values.slice (start s offsets) (stop s offsets - start s offsets)) t' b)
    {i : Nat} (hi : i < s.length) (v : Option (List Bool)) :
    itemsOf (valueAt t' b)
        (extent ⟨0, s.length, v⟩ (subtract (listOffsets s offsets) (start s offsets)) i).1
        (extent ⟨0, s.length, v⟩ (subtract (listOffsets s offsets) (start s offsets)) i).2 =
      (itemsOf (valueAt t values) (extent s offsets i).1 (extent s offsets i).2).map f := by
  obtain ⟨hlo, hmid, hhi⟩ := extent_bounds h hi
  have hslice := start_add_le h
  rw [extent_subtract hi, itemsOf, itemsOf, List.map_map]
  show (List.range (_ - start s offsets - (_ - start s offsets))).map _ = _
  rw [show (extent s offsets i).2 - start s offsets - ((extent s offsets i).1 - start s offsets) =
    (extent s offsets i).2 - (extent s offsets i).1 by omega]
  apply List.map_congr_left
  intro k hk
  have hk := List.mem_range.mp hk
  have hlen := ArrayData.length_slice hslice
  show valueAt t' b ((extent s offsets i).1 - start s offsets + k) = f (valueAt t values _)
  rw [hb.value _ (by rw [hlen]; omega), valueAt_slice t hslice,
    show start s offsets + ((extent s offsets i).1 - start s offsets + k) =
      (extent s offsets i).1 + k by omega]

end Rebased

/-! ## Rebased unions -/

theorem getD_map_toNat (xs : List Int) (i : Nat) :
    (xs.map Int.toNat).getD i 0 = (xs.getD i 0).toNat := by
  rw [List.getD_eq_getElem?_getD, List.getElem?_map, List.getD_eq_getElem?_getD]
  cases xs[i]? <;> rfl

/-- The copied part of a type-id or offset buffer is the window's. -/
theorem unionBufferArray_ok (pa : PyArrow) (t : DataType) {s : Span} (arrowType : ScalarType)
    (index : Nat) {buffer : Option (List Int)} (ht : arrowType ≠ .null) (h : CoveredBy s buffer) :
    ∃ xs, unionBufferArray pa t s arrowType index buffer = .ok xs ∧ xs.length = s.length ∧
      ∀ i < s.length, xs.getD i 0 = (buffer.getD []).getD (s.offset + i) 0 := by
  cases buffer with
  | none =>
    have h0 : s.length = 0 := h
    refine ⟨[], ?_, h0.symm, fun i hi => by omega⟩
    rw [unionBufferArray, if_pos h0]
  | some cells =>
    have hlen : s.offset + s.length ≤ cells.length := h
    have hcount : ∀ ys : List Int, (ys.map Atom.int).map Atom.count = ys := by
      intro ys
      rw [List.map_map]
      exact List.map_id _
    refine ⟨(cells.drop s.offset).take s.length, ?_, ?_, ?_⟩
    · have hcat := pa.concat_fixed arrowType s.offset s.length (cells.map .int) ht
        (by rw [List.length_map]; exact hlen)
      rw [unionBufferArray]
      show (pa.concatArrays _).bind _ = _
      rw [hcat]
      show Except.ok (ArrayData.buffer (.fixed _ _)) = _
      rw [ArrayData.buffer, ← List.map_drop, ← List.map_take, hcount]
    · rw [List.length_take, List.length_drop]
      omega
    · intro i hi
      show _ = cells.getD (s.offset + i) 0
      rw [List.getD_eq_getElem?_getD, List.getElem?_take, if_pos hi, List.getElem?_drop,
        List.getD_eq_getElem?_getD]

/-! ## Children of structs and unions -/

/-- One normalized array for each field and child. -/
def NormalizedChildren : Fields → List ArrayData → List ArrowArray → Prop
  | .nil, [], [] => True
  | .cons _ t rest, c :: cs, b :: bs =>
    b.type = microsecondType t ∧ Shows microsecond t c b.type b.data ∧
      NormalizedChildren rest cs bs
  | _, _, _ => False

namespace NormalizedChildren

/-- The induction every fact below is: over the fields, with their children beside them. -/
theorem rec {motive : Fields → List ArrayData → List ArrowArray → Prop} (nil : motive .nil [] [])
    (cons : ∀ field t rest c cs b bs, b = ⟨microsecondType t, b.data⟩ →
      Shows microsecond t c (microsecondType t) b.data → motive rest cs bs →
        motive (.cons field t rest) (c :: cs) (b :: bs)) :
    ∀ {fields : Fields} {cs : List ArrayData} {bs : List ArrowArray},
      NormalizedChildren fields cs bs → motive fields cs bs
  | .nil, [], [], _ => nil
  | .cons field t rest, c :: cs, b :: bs, h => by
    obtain ⟨hb, hc, hrest⟩ := h
    refine cons field t rest c cs b bs ?_ (hb ▸ hc) (rec nil cons hrest)
    rw [← hb]
  | .nil, _ :: _, _, h => h.elim
  | .nil, [], _ :: _, h => h.elim
  | .cons _ _ _, [], _, h => h.elim
  | .cons _ _ _, _ :: _, [], h => h.elim

variable {fields : Fields} {cs : List ArrayData} {bs : List ArrowArray}

theorem types (h : NormalizedChildren fields cs bs) :
    bs.map ArrowArray.type = (microsecondFields fields).types := by
  refine rec (motive := fun fields cs bs => bs.map ArrowArray.type = (microsecondFields fields).types)
    rfl ?_ h
  intro field t rest c cs b bs hb hc ih
  rw [List.map_cons, ih, hb]
  rfl

theorem validChildren (h : NormalizedChildren fields cs bs) :
    ValidChildren (microsecondFields fields) (bs.map ArrowArray.data) := by
  refine rec (motive := fun fields cs bs =>
    ValidChildren (microsecondFields fields) (bs.map ArrowArray.data)) trivial ?_ h
  intro field t rest c cs b bs hb hc ih
  exact ⟨hc.valid, ih⟩

theorem lengths (h : NormalizedChildren fields cs bs) :
    bs.map (fun b => b.data.length) = cs.map ArrayData.length := by
  refine rec (motive := fun fields cs bs =>
    bs.map (fun b => b.data.length) = cs.map ArrayData.length) rfl ?_ h
  intro field t rest c cs b bs hb hc ih
  rw [List.map_cons, List.map_cons, ih, hc.length]

theorem all_length (h : NormalizedChildren fields cs bs) {n : Nat}
    (hn : ∀ c ∈ cs, c.length = n) : ∀ b ∈ bs, b.data.length = n := by
  intro b hb
  have hm : b.data.length ∈ bs.map (fun b => b.data.length) := List.mem_map.mpr ⟨b, hb, rfl⟩
  rw [h.lengths] at hm
  obtain ⟨c, hc, he⟩ := List.mem_map.mp hm
  rw [← he, hn c hc]

theorem valid (h : NormalizedChildren fields cs bs) : ∀ b ∈ bs, Valid b.type b.data := by
  refine rec (motive := fun fields cs bs => ∀ b ∈ bs, Valid b.type b.data) (by simp) ?_ h
  intro field t rest c cs b bs hb hc ih x hx
  rcases List.mem_cons.mp hx with hx | hx
  · rw [hx, hb]
    exact hc.valid
  · exact ih x hx

theorem fieldsAt_eq (h : NormalizedChildren fields cs bs) {j : Nat} (hj : ∀ c ∈ cs, j < c.length) :
    fieldsAt (microsecondFields fields) (bs.map ArrowArray.data) j =
      microsecondAll (fieldsAt fields cs j) := by
  refine rec (motive := fun fields cs bs => (∀ c ∈ cs, j < c.length) →
    fieldsAt (microsecondFields fields) (bs.map ArrowArray.data) j =
      microsecondAll (fieldsAt fields cs j)) (fun _ => rfl) ?_ h hj
  intro field t rest c cs b bs hb hc ih hj
  rw [microsecondFields, List.map_cons, fieldsAt, fieldsAt, microsecondAll,
    hc.value j (hj c List.mem_cons_self), ih fun x hx => hj x (List.mem_cons_of_mem _ hx)]

/-- The branch a code selects stays selected, and shows the microsecond value. -/
theorem branch (h : NormalizedChildren fields cs bs) {codes : List Int} {code : Int} {j : Nat}
    (hj : BranchHas codes cs code j) :
    BranchHas codes (bs.map ArrowArray.data) code j ∧
      branchAt (microsecondFields fields) codes (bs.map ArrowArray.data) code j =
        microsecond (branchAt fields codes cs code j) := by
  refine rec (motive := fun fields cs bs => ∀ codes, BranchHas codes cs code j →
    BranchHas codes (bs.map ArrowArray.data) code j ∧
      branchAt (microsecondFields fields) codes (bs.map ArrowArray.data) code j =
        microsecond (branchAt fields codes cs code j)) ?_ ?_ h codes hj
  · intro codes hj
    cases codes <;> exact hj.elim
  · intro field t rest c cs b bs hb hc ih codes hj
    cases codes with
    | nil => exact hj.elim
    | cons k codes =>
      rw [BranchHas] at hj
      rw [List.map_cons, BranchHas, microsecondFields, branchAt, branchAt]
      by_cases hk : k = code
      · rw [if_pos hk] at hj
        rw [if_pos hk, if_pos hk, if_pos hk, hc.length]
        exact ⟨hj, hc.value j hj⟩
      · rw [if_neg hk] at hj
        rw [if_neg hk, if_neg hk, if_neg hk]
        exact ih codes hj

end NormalizedChildren

/-- Slicing children by the parent's window keeps them valid. -/
theorem validChildren_slice {o n : Nat} : ∀ {fields : Fields} {cs : List ArrayData},
    ValidChildren fields cs → (∀ c ∈ cs, o + n ≤ c.length) →
      ValidChildren fields (cs.map fun c => c.slice o n)
  | .nil, [], h, hn => trivial
  | .cons _ t rest, c :: cs, h, hn =>
    ⟨valid_slice (hn c List.mem_cons_self) h.1,
      validChildren_slice h.2 fun x hx => hn x (List.mem_cons_of_mem _ hx)⟩
  | .nil, _ :: _, h, hn => h.elim
  | .cons _ _ _, [], h, hn => h.elim

theorem length_slices {cs : List ArrayData} {o n : Nat} (hn : ∀ c ∈ cs, o + n ≤ c.length) :
    ∀ c ∈ cs.map fun c => c.slice o n, c.length = n := by
  intro c hc
  obtain ⟨c₀, hc₀, rfl⟩ := List.mem_map.mp hc
  exact ArrayData.length_slice (hn c₀ hc₀)

theorem fieldsAt_slice {o n i : Nat} : ∀ {fields : Fields} {cs : List ArrayData},
    (∀ c ∈ cs, o + n ≤ c.length) →
      fieldsAt fields (cs.map fun c => c.slice o n) i = fieldsAt fields cs (o + i)
  | .nil, cs, hn => by
    cases cs <;> rfl
  | .cons _ t rest, [], hn => rfl
  | .cons _ t rest, c :: cs, hn => by
    rw [List.map_cons, fieldsAt, fieldsAt, valueAt_slice t (hn c List.mem_cons_self),
      fieldsAt_slice fun x hx => hn x (List.mem_cons_of_mem _ hx)]

theorem branchAt_slice {o n i : Nat} {code : Int} (hi : i < n) :
    ∀ (fields : Fields) {codes : List Int} {cs : List ArrayData},
      (∀ c ∈ cs, o + n ≤ c.length) → BranchHas codes cs code (o + i) →
      BranchHas codes (cs.map fun c => c.slice o n) code i ∧
        branchAt fields codes (cs.map fun c => c.slice o n) code i =
          branchAt fields codes cs code (o + i)
  | fields, [], [], hn, hb => hb.elim
  | fields, [], _ :: _, hn, hb => hb.elim
  | fields, _ :: _, [], hn, hb => hb.elim
  | fields, k :: codes, c :: cs, hn, hb => by
    have hc := hn c List.mem_cons_self
    have hcs : ∀ x ∈ cs, o + n ≤ x.length := fun x hx => hn x (List.mem_cons_of_mem _ hx)
    rw [BranchHas] at hb
    rw [List.map_cons, BranchHas]
    by_cases hk : k = code
    · rw [if_pos hk, ArrayData.length_slice hc]
      refine ⟨hi, ?_⟩
      cases fields with
      | nil => rfl
      | cons field t rest => rw [branchAt, branchAt, if_pos hk, if_pos hk, valueAt_slice t hc]
    · rw [if_neg hk] at hb
      rw [if_neg hk]
      cases fields with
      | nil => exact ⟨(branchAt_slice hi .nil hcs hb).1, rfl⟩
      | cons field t rest =>
        rw [branchAt, branchAt, if_neg hk, if_neg hk]
        exact branchAt_slice hi rest hcs hb

/-- `pa.concat_arrays([child])` on each child changes nothing that is seen. -/
theorem concatEach_ok (pa : PyArrow) {fields : Fields} {cs : List ArrayData}
    {bs : List ArrowArray} (h : NormalizedChildren fields cs bs) :
    ∃ bs', bs.mapM (fun c => pa.concatArrays [c]) = .ok bs' ∧
      NormalizedChildren fields cs bs' := by
  refine NormalizedChildren.rec (motive := fun fields cs bs =>
    ∃ bs', bs.mapM (fun c => pa.concatArrays [c]) = .ok bs' ∧ NormalizedChildren fields cs bs')
    ⟨[], rfl, trivial⟩ ?_ h
  rintro field t rest c cs b bs hb hc ⟨bs', hm, hbs⟩
  obtain ⟨x, hx, hs⟩ := pa.concat_one hc.valid
  refine ⟨⟨microsecondType t, x⟩ :: bs', ?_, rfl, hc.trans hs, hbs⟩
  rw [List.mapM_cons, hb]
  show (pa.concatArrays _).bind _ = _
  rw [hx]
  show Except.bind (bs.mapM fun c => pa.concatArrays [c]) _ = _
  rw [hm]
  rfl

/-! ## The main lemma -/

/-- A cast leaf. -/
theorem normalizeTemporalLeaf_normalized (pa : PyArrow) {t : DataType} {a : ArrayData}
    (path : String) (hs : Supported t) (ha : Valid t a)
    (hleaf : microsecondType t ≠ t → Truncates t (microsecondType t) ∧
      microsecondTemporalType t = some (microsecondType t) ∧
      ∀ i, microsecond (valueAt t a i) = truncated (valueAt t a i)) :
    Normalized t a (normalizeTemporalLeaf pa t a path) := by
  refine unlessUnchanged_normalized hs ha fun hu => ?_
  obtain ⟨htr, hm, hval⟩ := hleaf hu
  rw [hm]
  obtain ⟨b, hb, hshows⟩ := pa.cast_truncates htr ha
  refine ⟨b, hb, hshows.valid, hshows.length, hshows.isNull, ?_⟩
  intro i hi
  rw [hshows.value i hi, hval i]

/-- Truncating a slot of a leaf is all there is to do. -/
theorem microsecond_cellAt_eq_truncated {f : Atom → Value}
    (hf : ∀ c, microsecond (f c) = truncated (f c)) (a : ArrayData) (i : Nat) :
    microsecond (cellAt f a i) = truncated (cellAt f a i) :=
  cellAt_congr microsecond truncated rfl hf a i

/-- A list or large list around a normalized child. -/
theorem listFromArrays_shows (pa : PyArrow) {t t' type : DataType} {s : Span} {offsets : List Nat}
    {values b : ArrayData} (hoff : ValidOffsets s offsets values.length)
    (hb : Shows microsecond t (normalizedListStorage s offsets values).2 t' b)
    (htype : ∃ field, type = .list field t' ∨ type = .largeList field t') :
    ∃ out, pa.listFromArrays (normalizedListStorage s offsets values).1 ⟨t', b⟩ type s.nulls =
        .ok ⟨type, out⟩ ∧
      ∃ span offsets', out = .list span offsets' b ∧ span.length = s.length ∧ span.Covered ∧
        ValidOffsets span offsets' b.length ∧
        (∀ i < s.length, span.isNull i = s.isNull i) ∧
        ∀ i < s.length,
          itemsOf (valueAt t' b) (extent span offsets' i).1 (extent span offsets' i).2 =
            microsecondAll
              (itemsOf (valueAt t values) (extent s offsets i).1 (extent s offsets i).2) := by
  have hlen : b.length = stop s offsets - start s offsets := by
    rw [hb.length]
    exact ArrayData.length_slice (start_add_le hoff)
  have hoff' : ∀ v, ValidOffsets ⟨0, s.length, v⟩ (normalizedListStorage s offsets values).1
      b.length := fun v => hlen ▸ validOffsets_subtract hoff v
  refine ⟨_, pa.list_ok htype ?_ ?_, _, _, rfl, ?_⟩
  · rw [Span.length_nulls]
    show (subtract _ _).length = _
    rw [subtract, List.length_map, length_listOffsets hoff]
  · rw [Span.length_nulls]
    exact hoff' none
  · rw [Span.length_nulls]
    refine ⟨rfl, s.covered_valids, hoff' _, ?_, ?_⟩
    · intro i hi
      exact s.isNull_valids hi
    · intro i hi
      rw [microsecondAll_eq_map]
      exact itemsOf_rebased hoff hb hi _

/-- What the induction gives for a child type: every valid array of it is normalized. -/
def Normalizes (pa : PyArrow) (t : DataType) : Prop :=
  ∀ (a : ArrayData) (path : String), Valid t a →
    Normalized t a (normalizeTemporalArray pa t a path)

/-- And for the fields of a struct or union. -/
def NormalizesChildren (pa : PyArrow) (fields : Fields) : Prop :=
  ∀ (cs : List ArrayData) (path : String), ValidChildren fields cs →
    ∃ bs, normalizeTemporalChildren pa fields cs path = .ok bs ∧ NormalizedChildren fields cs bs

section Containers

variable {pa : PyArrow} {t : DataType} {s : Span} {path : String}

/-- The branch of a list and a large list: the values are normalized, and the list of type `type` put
    together around them. -/
theorem listBranch_shows {type : DataType} {offsets : List Nat} {values : ArrayData}
    (hoff : ValidOffsets s offsets values.length) (hvalues : Valid t values) (ih : Normalizes pa t)
    (htype : ∃ field, type = .list field (microsecondType t) ∨ type = .largeList field (microsecondType t)) :
    ∃ span offsets' b,
      (normalizeTemporalArray pa t (normalizedListStorage s offsets values).2 (path ++ "[]") >>= fun child =>
        pa.listFromArrays (normalizedListStorage s offsets values).1 child type s.nulls) =
          .ok ⟨type, .list span offsets' b⟩ ∧
      span.length = s.length ∧ span.Covered ∧ ValidOffsets span offsets' b.length ∧
      Valid (microsecondType t) b ∧ (∀ i < s.length, span.isNull i = s.isNull i) ∧
      ∀ i < s.length,
        itemsOf (valueAt (microsecondType t) b) (extent span offsets' i).1 (extent span offsets' i).2 =
          microsecondAll (itemsOf (valueAt t values) (extent s offsets i).1 (extent s offsets i).2) := by
  obtain ⟨b, hb, hshows⟩ := ih (normalizedListStorage s offsets values).2 (path ++ "[]")
    (valid_slice (start_add_le hoff) hvalues)
  obtain ⟨out, hout, span, offsets', rfl, hlen, hcov, hoff', hnull, hitems⟩ :=
    listFromArrays_shows pa hoff hshows htype
  rw [hb]
  exact ⟨span, offsets', b, hout, hlen, hcov, hoff', hshows.valid, hnull, hitems⟩

theorem list_normalized {field : FieldInfo} {offsets : List Nat} {values : ArrayData}
    (hs : Supported (.list field t)) (ha : Valid (.list field t) (.list s offsets values))
    (ih : Normalizes pa t) :
    Normalized (.list field t) (.list s offsets values)
      (normalizeTemporalArray pa (.list field t) (.list s offsets values) path) := by
  show Normalized _ _ (unlessUnchanged _ _ _ _ _)
  refine unlessUnchanged_normalized hs ha fun _ => ?_
  rw [Valid] at ha
  obtain ⟨span, offsets', b, hout, hlen, hcov, hoff, hvalid, hnull, hitems⟩ :=
    listBranch_shows ha.2.1 ha.2.2 ih ⟨field, Or.inl rfl⟩
  refine ⟨.list span offsets' b, hout, ⟨hcov, hoff, hvalid⟩, hlen, hnull, ?_⟩
  intro i hi
  rw [microsecondType, valueAt, valueAt, microsecond_ite_null, microsecond, hnull i hi, hitems i hi]

theorem largeList_normalized {field : FieldInfo} {offsets : List Nat} {values : ArrayData}
    (hs : Supported (.largeList field t))
    (ha : Valid (.largeList field t) (.list s offsets values)) (ih : Normalizes pa t) :
    Normalized (.largeList field t) (.list s offsets values)
      (normalizeTemporalArray pa (.largeList field t) (.list s offsets values) path) := by
  show Normalized _ _ (unlessUnchanged _ _ _ _ _)
  refine unlessUnchanged_normalized hs ha fun _ => ?_
  rw [Valid] at ha
  obtain ⟨span, offsets', b, hout, hlen, hcov, hoff, hvalid, hnull, hitems⟩ :=
    listBranch_shows ha.2.1 ha.2.2 ih ⟨field, Or.inr rfl⟩
  refine ⟨.list span offsets' b, hout, ⟨hcov, hoff, hvalid⟩, hlen, hnull, ?_⟩
  intro i hi
  rw [microsecondType, valueAt, valueAt, microsecond_ite_null, microsecond, hnull i hi, hitems i hi]

theorem fixedSizeList_normalized {field : FieldInfo} {n : Nat} {values : ArrayData}
    (hs : Supported (.fixedSizeList field t n))
    (ha : Valid (.fixedSizeList field t n) (.fixedSizeList s values)) (ih : Normalizes pa t) :
    Normalized (.fixedSizeList field t n) (.fixedSizeList s values)
      (normalizeTemporalArray pa (.fixedSizeList field t n) (.fixedSizeList s values) path) := by
  show Normalized _ _ (unlessUnchanged _ _ _ _ _)
  refine unlessUnchanged_normalized hs ha fun _ => ?_
  rw [Valid] at ha
  obtain ⟨_, hn, hbound, hvalues⟩ := ha
  have hslice : s.offset * n + s.length * n ≤ values.length := by
    rw [← Nat.add_mul]
    exact hbound
  obtain ⟨b, hb, hshows⟩ := ih _ (path ++ "[]") (valid_slice hslice hvalues)
  have hlen : b.length = s.length * n := by
    rw [hshows.length, ArrayData.length_slice hslice]
  have hout := pa.fixedSizeList_ok ⟨microsecondType t, b⟩ field s.nulls hn
    (by rw [Span.length_nulls]; exact hlen)
  rw [Span.length_nulls] at hout
  refine ⟨.fixedSizeList ⟨0, s.length, some s.valids⟩ b, ?_, ?_, rfl,
    fun i hi => s.isNull_valids hi, ?_⟩
  · show Except.bind (normalizeTemporalArray pa t _ _) _ = _
    rw [hb]
    exact hout
  · refine ⟨s.covered_valids, hn, ?_, hshows.valid⟩
    have hzero : (0 + s.length) * n = s.length * n := by rw [Nat.zero_add]
    show (0 + s.length) * n ≤ b.length
    omega
  · intro i hi
    have hi : i < s.length := hi
    rw [microsecondType, valueAt, valueAt, microsecond_ite_null, microsecond, s.isNull_valids hi,
      microsecondAll_eq_map, itemsOf, itemsOf, List.map_map]
    show (if _ then _ else Value.list ((List.range ((0 + i + 1) * n - (0 + i) * n)).map _)) = _
    have hwidth : ∀ m, (m + 1) * n - m * n = n := by
      intro m
      rw [Nat.succ_mul, Nat.add_sub_cancel_left]
    rw [hwidth, hwidth]
    congr 2
    apply List.map_congr_left
    intro k hk
    have hk : k < n := List.mem_range.mp hk
    have hin : (0 + i) * n + k < b.length := by
      have := Nat.mul_le_mul_right n (Nat.succ_le_of_lt hi)
      rw [Nat.succ_mul] at this
      rw [hlen, Nat.zero_add]
      omega
    show valueAt (microsecondType t) b ((0 + i) * n + k) = microsecond (valueAt t values _)
    rw [hshows.value _ (hshows.length ▸ hin), valueAt_slice t hslice,
      show s.offset * n + ((0 + i) * n + k) = (s.offset + i) * n + k by
        rw [Nat.zero_add, Nat.add_mul, Nat.add_assoc]]

theorem dictionary_normalized {index : ScalarType} {ordered : Bool} {indices : List Nat}
    {values : ArrayData} (hs : Supported (.dictionary index t ordered))
    (ha : Valid (.dictionary index t ordered) (.dictionary s indices values))
    (ih : Normalizes pa t) :
    Normalized (.dictionary index t ordered) (.dictionary s indices values)
      (normalizeTemporalArray pa (.dictionary index t ordered) (.dictionary s indices values)
        path) := by
  show Normalized _ _ (unlessUnchanged _ _ _ _ _)
  refine unlessUnchanged_normalized hs ha fun _ => ?_
  rw [Valid] at ha
  obtain ⟨hin, hidx, hvalues⟩ := ha
  obtain ⟨b, hb, hshows⟩ := ih _ (path ++ ".dictionary") hvalues
  have hidx' : ∀ i < s.length, s.isNull i = false → indices.getD (s.offset + i) 0 < b.length :=
    fun i hi hn => hshows.length ▸ hidx i hi hn
  refine ⟨.dictionary s indices b, ?_, ⟨hin, hidx', hshows.valid⟩, rfl, fun _ _ => rfl, ?_⟩
  · show Except.bind (normalizeTemporalArray pa t _ _) _ = _
    rw [hb]
    show Except.bind (pa.dictionaryFromArrays _ _ _ _ _) _ = _
    rw [pa.dictionary_ok index ⟨microsecondType t, b⟩ ordered hin hidx']
    show (if _ ≠ _ then _ else _) = _
    rw [if_neg (fun h => h rfl)]
    rfl
  · intro i hi
    rw [microsecondType, valueAt, valueAt, microsecond_ite_null]
    cases hn : s.isNull i with
    | true => rfl
    | false => exact hshows.value _ (hidx i hi hn)

theorem struct_normalized {fields : Fields} {children : List ArrayData}
    (hs : Supported (.struct fields)) (ha : Valid (.struct fields) (.struct s children))
    (ih : NormalizesChildren pa fields) :
    Normalized (.struct fields) (.struct s children)
      (normalizeTemporalArray pa (.struct fields) (.struct s children) path) := by
  show Normalized _ _ (unlessUnchanged _ _ _ _ _)
  refine unlessUnchanged_normalized hs ha fun hu => ?_
  rw [Valid] at ha
  obtain ⟨_, hvalid, hlen⟩ := ha
  obtain ⟨bs, hbs, hall⟩ := ih _ path (validChildren_slice hvalid hlen)
  have hlens := hall.all_length (length_slices hlen)
  have hne : bs ≠ [] := by
    rintro rfl
    -- a struct without children has no field either, so its type cannot change
    cases fields with
    | nil => exact hu rfl
    | cons field t rest =>
      cases children with
      | nil => exact hvalid.elim
      | cons c cs => exact hall.elim
  have hout := pa.struct_ok (some s.nulls) hne ⟨hall.types, hall.valid, hlens⟩
    (by intro bits hb; rw [← Option.some.inj hb, Span.length_nulls])
  refine ⟨.struct ⟨0, s.length, some s.valids⟩ (bs.map ArrowArray.data), ?_, ?_, rfl,
    fun i hi => s.isNull_valids hi, ?_⟩
  · show Except.bind (normalizeTemporalChildren pa fields _ _) _ = _
    rw [hbs]
    exact hout
  · refine ⟨s.covered_valids, hall.validChildren, ?_⟩
    intro c hc
    obtain ⟨b, hb, rfl⟩ := List.mem_map.mp hc
    have hl := hlens b hb
    show 0 + s.length ≤ b.data.length
    omega
  · intro i hi
    have hi : i < s.length := hi
    rw [microsecondType, valueAt, valueAt, microsecond_ite_null, microsecond, s.isNull_valids hi,
      microsecondFields_names]
    show (if _ then _ else Value.struct _ (fieldsAt _ _ (0 + i))) = _
    rw [Nat.zero_add, hall.fieldsAt_eq fun c hc => (length_slices hlen c hc).symm ▸ hi,
      fieldsAt_slice hlen]

theorem map_normalized {keyField itemField : FieldInfo} {k v : DataType} {sorted : Bool}
    {offsets : List Nat} {keys items : ArrayData}
    (hs : Supported (.map keyField k itemField v sorted))
    (ha : Valid (.map keyField k itemField v sorted) (.map s offsets keys items))
    (ihk : Normalizes pa k) (ihv : Normalizes pa v) :
    Normalized (.map keyField k itemField v sorted) (.map s offsets keys items)
      (normalizeTemporalArray pa (.map keyField k itemField v sorted) (.map s offsets keys items)
        path) := by
  show Normalized _ _ (unlessUnchanged _ _ _ _ _)
  refine unlessUnchanged_normalized hs ha fun _ => ?_
  rw [Valid] at ha
  obtain ⟨_, hkoff, hvoff, hkeys, hitems, hnonnull⟩ := ha
  have hkin := start_add_le hkoff
  have hvin := start_add_le hvoff
  obtain ⟨bk, hbk, hkshows⟩ := ihk _ (path ++ ".key") (valid_slice hkin hkeys)
  obtain ⟨bv, hbv, hvshows⟩ := ihv _ (path ++ ".value") (valid_slice hvin hitems)
  have hklen : bk.length = stop s offsets - start s offsets := by
    rw [hkshows.length, ArrayData.length_slice hkin]
  have hvlen : bv.length = stop s offsets - start s offsets := by
    rw [hvshows.length, ArrayData.length_slice hvin]
  have hknull : ∀ i < stop s offsets - start s offsets, bk.isNull i = false := by
    intro i hi
    have hi' := ArrayData.length_slice hkin
    rw [hkshows.isNull i (by omega), ArrayData.isNull_slice hkin]
    exact hnonnull _ (by omega)
  have hfor : ChildrenFor
      (.cons keyField (microsecondType k) (.cons itemField (microsecondType v) .nil))
      [⟨microsecondType k, bk⟩, ⟨microsecondType v, bv⟩] (stop s offsets - start s offsets) :=
    ⟨rfl, by simp [hkshows.valid, hvshows.valid], by simp [hklen, hvlen]⟩
  have hentries := pa.struct_ok none (by simp) hfor (by simp)
  have hoffLen : (subtract (listOffsets s offsets) (start s offsets)).length = s.length + 1 := by
    rw [subtract, List.length_map, length_listOffsets hkoff]
  have hout := pa.map_ok keyField (microsecondType k) itemField (microsecondType v) sorted bk bv
    s.length_valids hoffLen (validOffsets_subtract hkoff none) hknull
  refine ⟨.map ⟨0, s.length, some s.valids⟩ (subtract (listOffsets s offsets) (start s offsets))
    bk bv, ?_, ?_, rfl, fun i hi => s.isNull_valids hi, ?_⟩
  · show Except.bind (normalizeTemporalArray pa k _ _) _ = _
    rw [hbk]
    show Except.bind (normalizeTemporalArray pa v _ _) _ = _
    rw [hbv]
    show Except.bind (pa.structFromArrays _ _ _) _ = _
    rw [entryFields.eq_def, microsecondType]
    show Except.bind (pa.structFromArrays _ (.cons keyField (microsecondType k)
      (.cons itemField (microsecondType v) .nil)) _) _ = _
    rw [hentries]
    exact hout
  · exact ⟨s.covered_valids, hklen ▸ validOffsets_subtract hkoff _,
      hvlen ▸ validOffsets_subtract hvoff _, hkshows.valid, hvshows.valid, hklen ▸ hknull⟩
  · intro i hi
    have hi : i < s.length := hi
    rw [microsecondType, valueAt, valueAt, microsecond_ite_null, microsecond, s.isNull_valids hi,
      microsecondAll_eq_map, microsecondAll_eq_map, itemsOf_rebased hkoff hkshows hi,
      itemsOf_rebased hvoff hvshows hi]

theorem denseUnion_normalized {fields : Fields} {codes : List Int} {typeIds : Option (List Int)}
    {offsets : Option (List Nat)} {children : List ArrayData}
    (hs : Supported (.union .dense fields codes))
    (ha : Valid (.union .dense fields codes) (.denseUnion s typeIds offsets children))
    (ih : NormalizesChildren pa fields) :
    Normalized (.union .dense fields codes) (.denseUnion s typeIds offsets children)
      (normalizeTemporalArray pa (.union .dense fields codes)
        (.denseUnion s typeIds offsets children) path) := by
  show Normalized _ _ (unlessUnchanged _ _ _ _ _)
  refine unlessUnchanged_normalized hs ha fun _ => ?_
  rw [Valid] at ha
  obtain ⟨hnone, hids, hoffs, hvalid, hbranch⟩ := ha
  obtain ⟨ids, hidsOk, hidsLen, hidsAt⟩ :=
    unionBufferArray_ok pa (.union .dense fields codes) .int8 1 (by decide) hids
  obtain ⟨bs, hbs, hall⟩ := ih children path hvalid
  have hoffs' : CoveredBy s (offsets.map fun xs => xs.map Int.ofNat) := by
    cases offsets with
    | none => exact hoffs
    | some xs => exact Nat.le_trans hoffs (Nat.le_of_eq (List.length_map _).symm)
  obtain ⟨offs, hoffsOk, hoffsLen, hoffsAt⟩ :=
    unionBufferArray_ok pa (.union .dense fields codes) .int32 2 (by decide) hoffs'
  have hout := pa.denseUnion_ok codes hall.types hidsLen hoffsLen
  -- slot `i` of the copied buffers is slot `offset + i` of the originals
  have hcode : ∀ i < s.length, ids.getD (0 + i) 0 = (typeIds.getD []).getD (s.offset + i) 0 := by
    intro i hi
    rw [Nat.zero_add, hidsAt i hi]
  have hslot : ∀ i < s.length,
      (offs.map Int.toNat).getD (0 + i) 0 = (offsets.getD []).getD (s.offset + i) 0 := by
    intro i hi
    rw [Nat.zero_add, getD_map_toNat, hoffsAt i hi]
    cases offsets with
    | none => rfl
    | some xs =>
      show ((xs.map Int.ofNat).getD (s.offset + i) 0).toNat = xs.getD (s.offset + i) 0
      rw [List.getD_eq_getElem?_getD, List.getElem?_map, List.getD_eq_getElem?_getD]
      cases xs[s.offset + i]? <;> rfl
  refine ⟨.denseUnion ⟨0, s.length, none⟩ (some ids) (some (offs.map Int.toNat))
    (bs.map ArrowArray.data), ?_, ?_, rfl, ?_, ?_⟩
  · show Except.bind (unionBufferArray _ _ _ _ _ _) _ = _
    rw [hidsOk]
    show Except.bind (normalizeTemporalChildren _ _ _ _) _ = _
    rw [hbs]
    show Except.bind (unionBufferArray _ _ _ _ _ _) _ = _
    rw [hoffsOk]
    show Except.bind (pa.denseUnionFromBuffers (.union .dense (microsecondFields fields) codes)
      _ _ _ _) _ = _
    rw [hout]
    rfl
  · refine ⟨rfl, ?_, ?_, hall.validChildren, ?_⟩
    · show 0 + s.length ≤ ids.length
      omega
    · show 0 + s.length ≤ (offs.map Int.toNat).length
      rw [List.length_map]
      omega
    · intro i hi
      show BranchHas codes _ (ids.getD (0 + i) 0) ((offs.map Int.toNat).getD (0 + i) 0)
      rw [hcode i hi, hslot i hi]
      exact (hall.branch (hbranch i hi)).1
  · intro i hi
    show false = s.isNull i
    rw [Span.isNull, hnone]
  · intro i hi
    show Value.union (ids.getD (0 + i) 0) (branchAt _ _ _ (ids.getD (0 + i) 0)
      ((offs.map Int.toNat).getD (0 + i) 0)) = _
    rw [valueAt, microsecond, hcode i hi, hslot i hi, (hall.branch (hbranch i hi)).2]

theorem sparseUnion_normalized {fields : Fields} {codes : List Int} {typeIds : Option (List Int)}
    {children : List ArrayData} (hs : Supported (.union .sparse fields codes))
    (ha : Valid (.union .sparse fields codes) (.sparseUnion s typeIds children))
    (ih : NormalizesChildren pa fields) :
    Normalized (.union .sparse fields codes) (.sparseUnion s typeIds children)
      (normalizeTemporalArray pa (.union .sparse fields codes) (.sparseUnion s typeIds children)
        path) := by
  show Normalized _ _ (unlessUnchanged _ _ _ _ _)
  refine unlessUnchanged_normalized hs ha fun _ => ?_
  rw [Valid] at ha
  obtain ⟨hnone, hids, hvalid, hlen, hbranch⟩ := ha
  obtain ⟨ids, hidsOk, hidsLen, hidsAt⟩ :=
    unionBufferArray_ok pa (.union .sparse fields codes) .int8 1 (by decide) hids
  obtain ⟨bs₀, hbs₀, hall₀⟩ := ih _ path (validChildren_slice hvalid hlen)
  obtain ⟨bs, hbs, hall⟩ := concatEach_ok pa hall₀
  have hlens := hall.all_length (length_slices hlen)
  have hout := pa.sparseUnion_ok codes ⟨hall.types, hall.valid, hlens⟩ hidsLen
  have hcode : ∀ i < s.length, ids.getD (0 + i) 0 = (typeIds.getD []).getD (s.offset + i) 0 := by
    intro i hi
    rw [Nat.zero_add, hidsAt i hi]
  refine ⟨.sparseUnion ⟨0, s.length, none⟩ (some ids) (bs.map ArrowArray.data), ?_, ?_, rfl, ?_,
    ?_⟩
  · show Except.bind (unionBufferArray _ _ _ _ _ _) _ = _
    rw [hidsOk]
    show Except.bind (normalizeTemporalChildren _ _ _ _) _ = _
    rw [hbs₀]
    show Except.bind (bs₀.mapM fun c => pa.concatArrays [c]) _ = _
    rw [hbs]
    show Except.bind (pa.sparseUnionFromBuffers (.union .sparse (microsecondFields fields) codes)
      _ _ _) _ = _
    rw [hout]
    rfl
  · refine ⟨rfl, ?_, hall.validChildren, ?_, ?_⟩
    · show 0 + s.length ≤ ids.length
      omega
    · intro c hc
      obtain ⟨b, hb, rfl⟩ := List.mem_map.mp hc
      have hl := hlens b hb
      show 0 + s.length ≤ b.data.length
      omega
    · intro i hi
      show BranchHas codes _ (ids.getD (0 + i) 0) (0 + i)
      rw [hcode i hi, Nat.zero_add]
      exact (hall.branch (branchAt_slice hi fields hlen (hbranch i hi)).1).1
  · intro i hi
    show false = s.isNull i
    rw [Span.isNull, hnone]
  · intro i hi
    have hi : i < s.length := hi
    obtain ⟨hhas, hat⟩ := branchAt_slice hi fields hlen (hbranch i hi)
    show Value.union (ids.getD (0 + i) 0) (branchAt _ _ _ (ids.getD (0 + i) 0) (0 + i)) = _
    rw [valueAt, microsecond, hcode i hi, Nat.zero_add, (hall.branch hhas).2, hat]

end Containers

mutual
/-- **Every valid array of a supported type is normalized**: by induction on the type, one case a
    container. -/
theorem normalizeTemporalArray_shows (pa : PyArrow) : ∀ (t : DataType), Supported t →
    Normalizes pa t
  | .scalar t, hs, a, path, ha =>
    normalizeTemporalLeaf_normalized pa path hs ha fun hu => absurd rfl hu
  | .timestamp unit tz, hs, a, path, ha => by
    refine normalizeTemporalLeaf_normalized pa path hs ha fun hu => ?_
    cases unit with
    | ns => exact ⟨.timestamp tz, rfl, microsecond_cellAt_eq_truncated (fun _ => rfl) a⟩
    | _ => exact absurd rfl hu
  | .time32 unit, hs, a, path, ha =>
    normalizeTemporalLeaf_normalized pa path hs ha fun hu => absurd rfl hu
  | .time64 unit, hs, a, path, ha => by
    refine normalizeTemporalLeaf_normalized pa path hs ha fun hu => ?_
    cases unit with
    | ns => exact ⟨.time64, rfl, microsecond_cellAt_eq_truncated (fun _ => rfl) a⟩
    | _ => exact absurd rfl hu
  | .duration unit, hs, a, path, ha => by
    refine normalizeTemporalLeaf_normalized pa path hs ha fun hu => ?_
    cases unit with
    | ns => exact ⟨.duration, rfl, microsecond_cellAt_eq_truncated (fun _ => rfl) a⟩
    | _ => exact absurd rfl hu
  | .list _ t, hs, a, path, ha => by
    cases a with
    | list s offsets values => exact list_normalized hs ha (normalizeTemporalArray_shows pa t hs)
    | _ => exact ha.elim
  | .largeList _ t, hs, a, path, ha => by
    cases a with
    | list s offsets values =>
      exact largeList_normalized hs ha (normalizeTemporalArray_shows pa t hs)
    | _ => exact ha.elim
  | .fixedSizeList _ t _, hs, a, path, ha => by
    cases a with
    | fixedSizeList s values =>
      exact fixedSizeList_normalized hs ha (normalizeTemporalArray_shows pa t hs)
    | _ => exact ha.elim
  | .struct fields, hs, a, path, ha => by
    cases a with
    | struct s children =>
      exact struct_normalized hs ha (normalizeTemporalChildren_shows pa fields hs)
    | _ => exact ha.elim
  | .map _ k _ v _, hs, a, path, ha => by
    cases a with
    | map s offsets keys items =>
      exact map_normalized hs ha (normalizeTemporalArray_shows pa k hs.1)
        (normalizeTemporalArray_shows pa v hs.2)
    | _ => exact ha.elim
  | .dictionary _ t _, hs, a, path, ha => by
    cases a with
    | dictionary s indices values =>
      exact dictionary_normalized hs ha (normalizeTemporalArray_shows pa t hs)
    | _ => exact ha.elim
  | .union .dense fields codes, hs, a, path, ha => by
    cases a with
    | denseUnion s typeIds offsets children =>
      exact denseUnion_normalized hs ha (normalizeTemporalChildren_shows pa fields hs)
    | _ => exact ha.elim
  | .union .sparse fields codes, hs, a, path, ha => by
    cases a with
    | sparseUnion s typeIds children =>
      exact sparseUnion_normalized hs ha (normalizeTemporalChildren_shows pa fields hs)
    | _ => exact ha.elim
  | .extension _ t, hs, a, path, ha =>
    normalizeTemporalLeaf_normalized pa path hs ha fun hu => absurd rfl hu
  | .other _ _, hs, a, path, ha =>
    normalizeTemporalLeaf_normalized pa path hs ha fun hu => absurd rfl hu
theorem normalizeTemporalChildren_shows (pa : PyArrow) : ∀ (fields : Fields),
    SupportedFields fields → NormalizesChildren pa fields
  | .nil, hs, [], path, hc => ⟨[], rfl, trivial⟩
  | .nil, hs, _ :: _, path, hc => hc.elim
  | .cons field t rest, hs, [], path, hc => hc.elim
  | .cons field t rest, hs, c :: cs, path, hc => by
    obtain ⟨b, hb, hshows⟩ := normalizeTemporalArray_shows pa t hs.1 c (path ++ "." ++ field.name)
      hc.1
    obtain ⟨bs, hbs, hall⟩ := normalizeTemporalChildren_shows pa rest hs.2 cs path hc.2
    refine ⟨⟨microsecondType t, b⟩ :: bs, ?_, rfl, hshows, hall⟩
    rw [normalizeTemporalChildren]
    show Except.bind (normalizeTemporalArray pa t _ _) _ = _
    rw [hb]
    show Except.bind (normalizeTemporalChildren pa rest _ _) _ = _
    rw [hbs]
    rfl
end

/-! ## Columns -/

/-- The chunks, normalized one by one: equal lengths and values chunk by chunk make columns of equal
    length and values. -/
theorem normalizeTemporalChunks_show (pa : PyArrow) {t : DataType} (hs : Supported t) :
    ∀ (chunks : List ArrayData), (∀ a ∈ chunks, Valid t a) →
      ∃ bs, (chunks.mapM fun chunk => normalizeTemporalArray pa t chunk "column") = .ok bs ∧
        (∀ b ∈ bs, b.type = microsecondType t) ∧
        ChunkedArray.length ⟨microsecondType t, bs.map ArrowArray.data⟩ =
          ChunkedArray.length ⟨t, chunks⟩ ∧
        ChunkedArray.values ⟨microsecondType t, bs.map ArrowArray.data⟩ =
          (ChunkedArray.values ⟨t, chunks⟩).map microsecond
  | [], _ => ⟨[], rfl, by simp, rfl, rfl⟩
  | a :: chunks, h => by
    obtain ⟨b, hb, hshows⟩ :=
      normalizeTemporalArray_shows pa t hs a "column" (h a List.mem_cons_self)
    obtain ⟨bs, hbs, htypes, hlen, hvals⟩ := normalizeTemporalChunks_show pa hs chunks
      fun x hx => h x (List.mem_cons_of_mem _ hx)
    refine ⟨⟨microsecondType t, b⟩ :: bs, ?_, ?_, ?_, ?_⟩
    · rw [List.mapM_cons]
      show Except.bind (normalizeTemporalArray pa t a _) _ = _
      rw [hb]
      show Except.bind (chunks.mapM fun chunk => normalizeTemporalArray pa t chunk "column") _ = _
      rw [hbs]
      rfl
    · intro x hx
      rcases List.mem_cons.mp hx with rfl | hx
      · rfl
      · exact htypes x hx
    · rw [ChunkedArray.length, ChunkedArray.length] at hlen ⊢
      rw [List.map_cons, List.foldr_cons, List.foldr_cons, hlen, ← hshows.length]
    · rw [ChunkedArray.values, ChunkedArray.values] at hvals ⊢
      rw [List.map_cons, List.flatMap_cons, List.flatMap_cons, hvals, hshows.values_eq,
        List.map_append]

/-- **A normalized column means what the column meant, to the microsecond.**  For every column of a
    supported type, any number of chunks with any windows and nulls, the result is a column of the
    microsecond type, as long, whose logical values are in order the microsecond values. -/
theorem normalizeTemporalChunkedArray_values (pa : PyArrow) (column : ChunkedArray)
    (hs : Supported column.type) (hv : column.Valid) :
    ∃ out, normalizeTemporalChunkedArray pa column = .ok out ∧
      out.type = microsecondType column.type ∧
      out.length = column.length ∧
      out.values = column.values.map microsecond := by
  have heq : normalizeTemporalChunkedArray pa column =
      if microsecondType column.type = column.type then .ok column
      else Except.bind
        (column.chunks.mapM fun chunk => normalizeTemporalArray pa column.type chunk "column")
        fun chunks => pa.chunkedArray chunks (microsecondType column.type) := by
    rw [normalizeTemporalChunkedArray, normalizedTemporalType_ok pa column.type _ hs]
    rfl
  rw [heq]
  by_cases hu : microsecondType column.type = column.type
  · rw [if_pos hu]
    have hn := containsNanosecondTemporal_of_unchanged column.type hs hu
    refine ⟨column, rfl, hu.symm, rfl, ?_⟩
    have hvals : ∀ v ∈ column.values, microsecond v = v := by
      intro v hv
      obtain ⟨a, _, hva⟩ := List.mem_flatMap.mp hv
      obtain ⟨i, _, rfl⟩ := List.mem_map.mp hva
      exact microsecond_valueAt column.type hn a i
    rw [List.map_congr_left hvals, List.map_id']
  · rw [if_neg hu]
    obtain ⟨bs, hbs, htypes, hlen, hvals⟩ := normalizeTemporalChunks_show pa hs column.chunks hv
    refine ⟨⟨microsecondType column.type, bs.map ArrowArray.data⟩, ?_, rfl, hlen, hvals⟩
    rw [hbs]
    exact pa.chunked_ok htypes

/-- A `list<timestamp[ns, UTC]>` column of two chunks: an empty one, and a slice from offset 1 that
    holds `[-1500 ns, null]` and a null list over a nonempty extent. -/
def slicedListColumn : ChunkedArray :=
  ⟨.list ⟨"item", true, []⟩ (.timestamp .ns (some "UTC")),
    [.list ⟨0, 0, none⟩ [0] (.fixed ⟨0, 0, none⟩ []),
     .list ⟨1, 2, some [true, true, false]⟩ [0, 1, 3, 4]
      (.fixed ⟨0, 4, some [true, true, false, true]⟩
        [.int 7000, .int (-1500), .int 0, .int 9999])]⟩

theorem normalizeTemporalChunkedArray_values_slicedList :
    ∃ out, normalizeTemporalChunkedArray .reference slicedListColumn = .ok out ∧
      out.type = .list ⟨"item", true, []⟩ (.timestamp .us (some "UTC")) ∧ out.length = 2 ∧
      out.values = [.list [.timestamp .us (some "UTC") (-1), .null], .null] := by
  refine normalizeTemporalChunkedArray_values .reference slicedListColumn trivial ?_
  intro a ha
  rcases List.mem_cons.mp ha with rfl | ha
  · exact ⟨trivial, ⟨by decide, by decide, by decide⟩, trivial, by decide⟩
  · rcases List.mem_singleton.mp ha with rfl
    refine ⟨?_, ⟨by decide, by decide, by decide⟩, ?_, by decide⟩
    · show 1 + 2 ≤ 3
      decide
    · show 0 + 4 ≤ 4
      decide

end FlightSql
