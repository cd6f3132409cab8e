/-
  The Arrow columnar format, as far as the driver's normalization of nested columns sees it.

  1. **Types** — `DataType`, mutually with the field lists of structs and unions (`Fields`), so that
     every function on types is structural and evaluates.

  2. **Physical arrays** — `ArrayData`: a `Span` (offset, length, validity bitmap) and, per layout,
     the buffers and child arrays it is a window of.  Slicing an array only moves its `Span`; the
     buffers and children stay whole, which is why every consumer has to rebase offsets.  An array
     of some type is the pair `ArrowArray`; a child's type is the one its parent's type gives it.

  3. **Logical values** — `valueAt t a i`: what slot `i` of the array means, read through every
     offset and bitmap on the way down.  This is the meaning that `to_pylist()` shows.

  4. **Validity** — `Valid t a`: the buffers are long enough for the window, the list extents are
     monotone and inside the child, dictionary indices and union slots point at something.  Nothing
     is asked of what lies under a null: a null list may have a nonempty extent.

  Slices are the one operation proved about here: `valueAt_slice`, `valid_slice`.
-/

set_option linter.unusedVariables false

namespace FlightSql.Arrow

/-! ## Types -/

inductive TimeUnit where
  | s | ms | us | ns
  deriving DecidableEq, Repr

inductive UnionMode where
  | dense | sparse
  deriving DecidableEq, Repr

/-- What a field carries besides its type. -/
structure FieldInfo where
  name : String
  nullable : Bool
  metadata : List (String × String)
  deriving DecidableEq, Repr

/-- The non-nested types without a time unit. -/
inductive ScalarType where
  | null | bool
  | int8 | int16 | int32 | int64 | uint8 | uint16 | uint32 | uint64
  | float16 | float32 | float64
  | decimal32 (precision : Nat) (scale : Int) | decimal64 (precision : Nat) (scale : Int)
  | decimal128 (precision : Nat) (scale : Int) | decimal256 (precision : Nat) (scale : Int)
  | string | largeString | stringView
  | binary | largeBinary | binaryView | fixedSizeBinary (width : Nat)
  | date32 | date64 | monthDayNanoInterval
  deriving DecidableEq, Repr

mutual
/-- **Arrow types.**  A `map` is given by its key and item fields, as `pa.map_` takes them: the struct of
    entries around the two is the same for every map.  `extension` wraps a storage type; `other` is
    every container the driver does not know (list views, run-end encoding), by kind and child fields. -/
inductive DataType where
  | scalar (type : ScalarType)
  | timestamp (unit : TimeUnit) (tz : Option String)
  | time32 (unit : TimeUnit)
  | time64 (unit : TimeUnit)
  | duration (unit : TimeUnit)
  | list (field : FieldInfo) (value : DataType)
  | largeList (field : FieldInfo) (value : DataType)
  | fixedSizeList (field : FieldInfo) (value : DataType) (size : Nat)
  | struct (fields : Fields)
  | map (keyField : FieldInfo) (key : DataType) (itemField : FieldInfo) (item : DataType)
      (keysSorted : Bool)
  | dictionary (index : ScalarType) (value : DataType) (ordered : Bool)
  | union (mode : UnionMode) (fields : Fields) (typeCodes : List Int)
  | extension (name : String) (storage : DataType)
  | other (kind : String) (fields : Fields)
  deriving DecidableEq, Repr
/-- The fields of a struct or union, in order. -/
inductive Fields where
  | nil
  | cons (field : FieldInfo) (type : DataType) (rest : Fields)
  deriving DecidableEq, Repr
end

/-- The field types, in order. -/
def Fields.types : Fields → List DataType
  | .nil => []
  | .cons _ type rest => type :: rest.types

/-- The field names, in order. -/
def Fields.names : Fields → List String
  | .nil => []
  | .cons field _ rest => field.name :: rest.names

/-! ## Physical arrays -/

/-- The physical content of one slot of a fixed-width (or string, binary) array; a temporal count is
    an `int` of the type's unit.  A slot of a container of kind `other`, which nothing here looks
    into, is one opaque `foreign` atom. -/
inductive Atom where
  | int (n : Int)
  | bool (b : Bool)
  | float (bits : UInt64)
  | decimal (unscaled : Int)
  | str (s : String)
  | bytes (b : List UInt8)
  | foreign (identity : Nat)
  deriving DecidableEq, Repr

instance : Inhabited Atom := ⟨.int 0⟩

/-- The count in a temporal slot. -/
def Atom.count : Atom → Int
  | .int n => n
  | _ => 0

/-- **Logical values**: what an array's slot means.  A temporal count carries its unit and a struct
    its field names, so a value can be read without its type. -/
inductive Value where
  | null
  | atom (a : Atom)
  | timestamp (unit : TimeUnit) (tz : Option String) (count : Int)
  | time32 (unit : TimeUnit) (count : Int)
  | time64 (unit : TimeUnit) (count : Int)
  | duration (unit : TimeUnit) (count : Int)
  | list (items : List Value)
  | struct (names : List String) (values : List Value)
  | map (keys items : List Value)
  | union (code : Int) (value : Value)

/-- The window an array node is of its buffers.  Bit `offset + i` of the bitmap is set when slot `i`
    is valid; without a bitmap every slot is. -/
structure Span where
  offset : Nat
  length : Nat
  validity : Option (List Bool)

namespace Span

def isNull (s : Span) (i : Nat) : Bool :=
  match s.validity with
  | none => false
  | some bits => !bits.getD (s.offset + i) false

/-- The bitmap, when there is one, reaches the end of the window. -/
def Covered (s : Span) : Prop :=
  match s.validity with
  | none => True
  | some bits => s.offset + s.length ≤ bits.length

/-- `array.is_null()`: one Boolean a slot. -/
def nulls (s : Span) : List Bool := (List.range s.length).map s.isNull

/-- `array.is_valid()`. -/
def valids (s : Span) : List Bool := s.nulls.map not

@[simp] theorem length_nulls (s : Span) : s.nulls.length = s.length := by
  rw [nulls, List.length_map, List.length_range]

@[simp] theorem length_valids (s : Span) : s.valids.length = s.length := by
  rw [valids, List.length_map, length_nulls]

/-- A bitmap made of `is_valid()`, read from its start, has the same nulls. -/
theorem isNull_valids (s : Span) {i : Nat} (hi : i < s.length) :
    isNull ⟨0, s.length, some s.valids⟩ i = s.isNull i := by
  show (!s.valids.getD (0 + i) false) = s.isNull i
  rw [Nat.zero_add, valids, nulls, List.getD_eq_getElem?_getD]
  simp [hi]

/-- And it reaches the end of its window. -/
theorem covered_valids (s : Span) : Covered ⟨0, s.length, some s.valids⟩ := by
  have h := s.length_valids
  show 0 + s.length ≤ s.valids.length
  omega

/-- `Array.slice(offset, length)`: both are clamped to the array. -/
def slice (s : Span) (offset length : Nat) : Span :=
  ⟨s.offset + min offset s.length, min length (s.length - offset), s.validity⟩

end Span

/-- **Physical arrays**, by layout: the node's window, its buffers and its children.  The dense and
    sparse union layouts have no bitmap; their type-id buffer may be absent when they are empty. -/
inductive ArrayData where
  | fixed (span : Span) (cells : List Atom)
  | list (span : Span) (offsets : List Nat) (values : ArrayData)
  | fixedSizeList (span : Span) (values : ArrayData)
  | struct (span : Span) (children : List ArrayData)
  | map (span : Span) (offsets : List Nat) (keys items : ArrayData)
  | dictionary (span : Span) (indices : List Nat) (dictionary : ArrayData)
  | denseUnion (span : Span) (typeIds : Option (List Int)) (offsets : Option (List Nat))
      (children : List ArrayData)
  | sparseUnion (span : Span) (typeIds : Option (List Int)) (children : List ArrayData)

namespace ArrayData

def span : ArrayData → Span
  | .fixed s _ | .list s _ _ | .fixedSizeList s _ | .struct s _ | .map s _ _ _ | .dictionary s _ _
  | .denseUnion s _ _ _ | .sparseUnion s _ _ => s

/-- The same buffers and children through another window. -/
def withSpan (s : Span) : ArrayData → ArrayData
  | .fixed _ cells => .fixed s cells
  | .list _ offsets values => .list s offsets values
  | .fixedSizeList _ values => .fixedSizeList s values
  | .struct _ children => .struct s children
  | .map _ offsets keys items => .map s offsets keys items
  | .dictionary _ indices values => .dictionary s indices values
  | .denseUnion _ typeIds offsets children => .denseUnion s typeIds offsets children
  | .sparseUnion _ typeIds children => .sparseUnion s typeIds children

/-- `len(array)`. -/
def length (a : ArrayData) : Nat := a.span.length

/-- Slot `i` is null by the node's own bitmap. -/
def isNull (a : ArrayData) (i : Nat) : Bool := a.span.isNull i

/-- `array.slice(offset, length)`. -/
def slice (a : ArrayData) (offset length : Nat) : ArrayData :=
  a.withSpan (a.span.slice offset length)

@[simp] theorem span_withSpan (s : Span) (a : ArrayData) : (a.withSpan s).span = s := by
  cases a <;> rfl

end ArrayData

/-- An array: a type and data laid out for it. -/
structure ArrowArray where
  type : DataType
  data : ArrayData

/-! ## Logical values -/

/-- The extent of list slot `i`: where its items start and end in the child. -/
def extent (s : Span) (offsets : List Nat) (i : Nat) : Nat × Nat :=
  (offsets.getD (s.offset + i) 0, offsets.getD (s.offset + i + 1) 0)

/-- The value of a fixed-width slot, `f` of its cell. -/
def cellAt (f : Atom → Value) : ArrayData → Nat → Value
  | .fixed s cells, i => if s.isNull i then .null else f (cells.getD (s.offset + i) default)
  | _, _ => .null

/-- The values `f` gives on `lo .. hi-1`. -/
def itemsOf (f : Nat → Value) (lo hi : Nat) : List Value :=
  (List.range (hi - lo)).map fun k => f (lo + k)

mutual
/-- **The logical value of slot `i`** of an array of type `t`, structurally on the type. -/
def valueAt : DataType → ArrayData → Nat → Value
  | .scalar _, a, i => cellAt .atom a i
  | .timestamp unit tz, a, i => cellAt (fun c => .timestamp unit tz c.count) a i
  | .time32 unit, a, i => cellAt (fun c => .time32 unit c.count) a i
  | .time64 unit, a, i => cellAt (fun c => .time64 unit c.count) a i
  | .duration unit, a, i => cellAt (fun c => .duration unit c.count) a i
  | .list _ t, .list s offsets values, i =>
    if s.isNull i then .null
    else .list (itemsOf (valueAt t values) (extent s offsets i).1 (extent s offsets i).2)
  | .largeList _ t, .list s offsets values, i =>
    if s.isNull i then .null
    else .list (itemsOf (valueAt t values) (extent s offsets i).1 (extent s offsets i).2)
  | .fixedSizeList _ t n, .fixedSizeList s values, i =>
    if s.isNull i then .null
    else .list (itemsOf (valueAt t values) ((s.offset + i) * n) ((s.offset + i + 1) * n))
  | .struct fields, .struct s children, i =>
    if s.isNull i then .null else .struct fields.names (fieldsAt fields children (s.offset + i))
  | .map _ k _ v _, .map s offsets keys items, i =>
    if s.isNull i then .null
    else
      .map (itemsOf (valueAt k keys) (extent s offsets i).1 (extent s offsets i).2)
        (itemsOf (valueAt v items) (extent s offsets i).1 (extent s offsets i).2)
  | .dictionary _ t _, .dictionary s indices values, i =>
    if s.isNull i then .null else valueAt t values (indices.getD (s.offset + i) 0)
  | .union .dense fields codes, .denseUnion s typeIds offsets children, i =>
    .union ((typeIds.getD []).getD (s.offset + i) 0)
      (branchAt fields codes children ((typeIds.getD []).getD (s.offset + i) 0)
        ((offsets.getD []).getD (s.offset + i) 0))
  | .union .sparse fields codes, .sparseUnion s typeIds children, i =>
    .union ((typeIds.getD []).getD (s.offset + i) 0)
      (branchAt fields codes children ((typeIds.getD []).getD (s.offset + i) 0) (s.offset + i))
  | .extension _ t, a, i => valueAt t a i
  | .other _ _, a, i => cellAt .atom a i
  | _, _, _ => .null
/-- The fields of a struct at slot `j` of its children. -/
def fieldsAt : Fields → List ArrayData → Nat → List Value
  | .cons _ t rest, child :: children, j => valueAt t child j :: fieldsAt rest children j
  | _, _, _ => []
/-- The value at slot `j` of the child that `code` selects. -/
def branchAt : Fields → List Int → List ArrayData → Int → Nat → Value
  | .cons _ t rest, c :: codes, child :: children, code, j =>
    if c = code then valueAt t child j else branchAt rest codes children code j
  | _, _, _, _, _ => .null
end

/-- The logical values of an array, in order. -/
def ArrowArray.values (a : ArrowArray) : List Value := (List.range a.data.length).map (valueAt a.type a.data)

/-! ## Validity -/

/-- The list offsets cover the window, do not decrease in it and end inside a child of `bound`
    slots. -/
def ValidOffsets (s : Span) (offsets : List Nat) (bound : Nat) : Prop :=
  s.offset + s.length < offsets.length ∧
    (∀ i < s.length, (extent s offsets i).1 ≤ (extent s offsets i).2) ∧
    offsets.getD (s.offset + s.length) 0 ≤ bound

/-- The child that `code` selects has a slot `j`. -/
def BranchHas : List Int → List ArrayData → Int → Nat → Prop
  | c :: codes, child :: children, code, j =>
    if c = code then j < child.length else BranchHas codes children code j
  | _, _, _, _ => False

/-- The type ids of a union cover its window. -/
def CoveredBy {α : Type} (s : Span) (buffer : Option (List α)) : Prop :=
  match buffer with
  | none => s.length = 0
  | some xs => s.offset + s.length ≤ xs.length

/-- The window and its bitmap lie inside a buffer of `bound` cells. -/
def Span.Within (s : Span) (bound : Nat) : Prop := s.Covered ∧ s.offset + s.length ≤ bound

mutual
/-- **A valid array** of type `t`.  An array of the null type has a bitmap without a bit set. -/
def Valid : DataType → ArrayData → Prop
  | .scalar .null, .fixed s cells => s.Within cells.length ∧ ∀ i < s.length, s.isNull i = true
  | .scalar _, .fixed s cells => s.Within cells.length
  | .timestamp _ _, .fixed s cells => s.Within cells.length
  | .time32 _, .fixed s cells => s.Within cells.length
  | .time64 _, .fixed s cells => s.Within cells.length
  | .duration _, .fixed s cells => s.Within cells.length
  | .list _ t, .list s offsets values =>
    s.Covered ∧ ValidOffsets s offsets values.length ∧ Valid t values
  | .largeList _ t, .list s offsets values =>
    s.Covered ∧ ValidOffsets s offsets values.length ∧ Valid t values
  | .fixedSizeList _ t n, .fixedSizeList s values =>
    s.Covered ∧ 0 < n ∧ (s.offset + s.length) * n ≤ values.length ∧ Valid t values
  | .struct fields, .struct s children =>
    s.Covered ∧ ValidChildren fields children ∧ ∀ c ∈ children, s.offset + s.length ≤ c.length
  | .map _ k _ v _, .map s offsets keys items =>
    s.Covered ∧ ValidOffsets s offsets keys.length ∧ ValidOffsets s offsets items.length ∧
      Valid k keys ∧ Valid v items ∧ ∀ i < keys.length, keys.isNull i = false
  | .dictionary _ t _, .dictionary s indices values =>
    s.Within indices.length ∧
      (∀ i < s.length, s.isNull i = false → indices.getD (s.offset + i) 0 < values.length) ∧
      Valid t values
  | .union .dense fields codes, .denseUnion s typeIds offsets children =>
    s.validity = none ∧ CoveredBy s typeIds ∧ CoveredBy s offsets ∧ ValidChildren fields children ∧
      ∀ i < s.length, BranchHas codes children ((typeIds.getD []).getD (s.offset + i) 0)
        ((offsets.getD []).getD (s.offset + i) 0)
  | .union .sparse fields codes, .sparseUnion s typeIds children =>
    s.validity = none ∧ CoveredBy s typeIds ∧ ValidChildren fields children ∧
      (∀ c ∈ children, s.offset + s.length ≤ c.length) ∧
      ∀ i < s.length, BranchHas codes children ((typeIds.getD []).getD (s.offset + i) 0)
        (s.offset + i)
  | .extension _ t, a => Valid t a
  | .other _ _, .fixed s cells => s.Within cells.length
  | _, _ => False
/-- One valid child for each field. -/
def ValidChildren : Fields → List ArrayData → Prop
  | .nil, [] => True
  | .cons _ t rest, child :: children => Valid t child ∧ ValidChildren rest children
  | _, _ => False
end

/-- A column: chunks of one type. -/
structure ChunkedArray where
  type : DataType
  chunks : List ArrayData

namespace ChunkedArray

/-- `len(column)`. -/
def length (c : ChunkedArray) : Nat := c.chunks.foldr (fun a n => a.length + n) 0

/-- The logical values of a column, chunk after chunk. -/
def values (c : ChunkedArray) : List Value := c.chunks.flatMap fun a => (ArrowArray.mk c.type a).values

/-- Every chunk is valid. -/
def Valid (c : ChunkedArray) : Prop := ∀ a ∈ c.chunks, Arrow.Valid c.type a

end ChunkedArray

/-! ## Slices -/

theorem Span.isNull_shift {s s' : Span} {i j : Nat} (hv : s'.validity = s.validity)
    (ho : s'.offset + i = s.offset + j) : s'.isNull i = s.isNull j := by
  rw [isNull, isNull, hv, ho]

theorem extent_shift {s s' : Span} {offsets : List Nat} {i j : Nat}
    (ho : s'.offset + i = s.offset + j) : extent s' offsets i = extent s offsets j := by
  rw [extent, extent, ho]

theorem cellAt_withSpan {f : Atom → Value} {a : ArrayData} {s : Span} {i j : Nat}
    (hv : s.validity = a.span.validity) (ho : s.offset + i = a.span.offset + j) :
    cellAt f (a.withSpan s) i = cellAt f a j := by
  cases a with
  | fixed s₀ cells =>
    show (if s.isNull i then _ else f (cells.getD (s.offset + i) default)) = _
    rw [Span.isNull_shift hv ho, show s.offset + i = s₀.offset + j from ho]
    rfl
  | _ => rfl

/-- Moving the window moves which slot is read, and nothing else. -/
theorem valueAt_withSpan : ∀ (t : DataType) {a : ArrayData} {s : Span} {i j : Nat},
    s.validity = a.span.validity → s.offset + i = a.span.offset + j →
      valueAt t (a.withSpan s) i = valueAt t a j
  | .scalar _, a, s, i, j, hv, ho => cellAt_withSpan hv ho
  | .timestamp _ _, a, s, i, j, hv, ho => cellAt_withSpan hv ho
  | .time32 _, a, s, i, j, hv, ho => cellAt_withSpan hv ho
  | .time64 _, a, s, i, j, hv, ho => cellAt_withSpan hv ho
  | .duration _, a, s, i, j, hv, ho => cellAt_withSpan hv ho
  | .other _ _, a, s, i, j, hv, ho => cellAt_withSpan hv ho
  | .extension _ t, a, s, i, j, hv, ho => by
    rw [valueAt, valueAt]
    exact valueAt_withSpan t hv ho
  | .list _ t, a, s, i, j, hv, ho => by
    cases a with
    | list s₀ offsets values =>
      rw [ArrayData.withSpan, valueAt, valueAt, Span.isNull_shift hv ho, extent_shift ho]
      rfl
    | _ => rfl
  | .largeList _ t, a, s, i, j, hv, ho => by
    cases a with
    | list s₀ offsets values =>
      rw [ArrayData.withSpan, valueAt, valueAt, Span.isNull_shift hv ho, extent_shift ho]
      rfl
    | _ => rfl
  | .fixedSizeList _ t n, a, s, i, j, hv, ho => by
    cases a with
    | fixedSizeList s₀ values =>
      rw [ArrayData.withSpan, valueAt, valueAt, Span.isNull_shift hv ho, ho]
      rfl
    | _ => rfl
  | .struct fields, a, s, i, j, hv, ho => by
    cases a with
    | struct s₀ children =>
      rw [ArrayData.withSpan, valueAt, valueAt, Span.isNull_shift hv ho, ho]
      rfl
    | _ => rfl
  | .map _ k _ v _, a, s, i, j, hv, ho => by
    cases a with
    | map s₀ offsets keys items =>
      rw [ArrayData.withSpan, valueAt, valueAt, Span.isNull_shift hv ho, extent_shift ho]
      rfl
    | _ => rfl
  | .dictionary _ t _, a, s, i, j, hv, ho => by
    cases a with
    | dictionary s₀ indices values =>
      rw [ArrayData.withSpan, valueAt, valueAt, Span.isNull_shift hv ho, ho]
      rfl
    | _ => rfl
  | .union .dense fields codes, a, s, i, j, hv, ho => by
    cases a with
    | denseUnion s₀ typeIds offsets children =>
      rw [ArrayData.withSpan, valueAt, valueAt, ho]
      rfl
    | _ => rfl
  | .union .sparse fields codes, a, s, i, j, hv, ho => by
    cases a with
    | sparseUnion s₀ typeIds children =>
      rw [ArrayData.withSpan, valueAt, valueAt, ho]
      rfl
    | _ => rfl

/-- List offsets do not decrease over the window. -/
theorem ValidOffsets.mono {s : Span} {offsets : List Nat} {bound : Nat}
    (h : ValidOffsets s offsets bound) {i j : Nat} (hij : i ≤ j) (hj : j ≤ s.length) :
    offsets.getD (s.offset + i) 0 ≤ offsets.getD (s.offset + j) 0 := by
  induction hij with
  | refl => exact Nat.le_refl _
  | step hik ih => exact Nat.le_trans (ih (by omega)) (h.2.1 _ (by omega))

/-- `s'` is a part of the window `s`, over the same bitmap. -/
structure Span.Inside (s' s : Span) : Prop where
  validity : s'.validity = s.validity
  first : s.offset ≤ s'.offset
  last : s'.offset + s'.length ≤ s.offset + s.length

namespace Span.Inside

variable {s' s : Span}

/-- A slot of the part is a slot of the whole. -/
theorem slot (h : s'.Inside s) {i : Nat} (hi : i < s'.length) :
    ∃ j < s.length, s'.offset + i = s.offset + j :=
  ⟨s'.offset - s.offset + i, by have := h.first; have := h.last; omega,
    by have := h.first; omega⟩

theorem within (h : s'.Inside s) {n : Nat} (hs : s.Within n) : s'.Within n := by
  refine ⟨?_, Nat.le_trans h.last hs.2⟩
  have hc : s.Covered := hs.1
  rw [Covered] at hc ⊢
  rw [h.validity]
  cases hb : s.validity with
  | none => trivial
  | some bits =>
    rw [hb] at hc
    exact Nat.le_trans h.last hc

theorem covered (h : s'.Inside s) (hs : s.Covered) : s'.Covered :=
  (h.within (n := s.offset + s.length) ⟨hs, Nat.le_refl _⟩).1

theorem validOffsets (h : s'.Inside s) {offsets : List Nat} {bound : Nat}
    (hs : ValidOffsets s offsets bound) : ValidOffsets s' offsets bound := by
  refine ⟨Nat.lt_of_le_of_lt h.last hs.1, ?_, ?_⟩
  · intro i hi
    obtain ⟨j, hj, ho⟩ := h.slot hi
    rw [extent_shift ho]
    exact hs.2.1 j hj
  · have hle := hs.mono (i := s'.offset + s'.length - s.offset)
      (by have := h.last; omega) (Nat.le_refl _)
    rw [show s.offset + (s'.offset + s'.length - s.offset) = s'.offset + s'.length by
      have := h.first; omega] at hle
    exact Nat.le_trans hle hs.2.2

theorem coveredBy (h : s'.Inside s) {α : Type} {buffer : Option (List α)}
    (hs : CoveredBy s buffer) : CoveredBy s' buffer := by
  cases buffer with
  | none =>
    have h0 : s.length = 0 := hs
    show s'.length = 0
    have := h.first
    have := h.last
    omega
  | some xs => exact Nat.le_trans h.last hs

end Span.Inside

/-! Any part of a valid array is valid, layout by layout. -/

section Parts

variable {a : ArrayData} {s : Span}

/-- Cells with nothing more to ask of them. -/
def DataType.isFlat : DataType → Bool
  | .timestamp _ _ | .time32 _ | .time64 _ | .duration _ | .other _ _ => true
  | _ => false

theorem valid_iff_of_isFlat {t : DataType} (ht : t.isFlat = true) :
    Valid t a ↔ ∃ s₀ cells, a = .fixed s₀ cells ∧ s₀.Within cells.length := by
  constructor
  · intro ha
    cases a with
    | fixed s₀ cells =>
      refine ⟨s₀, cells, rfl, ?_⟩
      cases t <;> first | exact ha | cases ht
    | _ => cases t <;> first | exact ha.elim | cases ht
  · rintro ⟨s₀, cells, rfl, hwithin⟩
    cases t <;> first | exact hwithin | cases ht

theorem valid_flat_withSpan {t : DataType} (ht : t.isFlat = true) (h : s.Inside a.span) (ha : Valid t a) :
    Valid t (a.withSpan s) := by
  obtain ⟨s₀, cells, rfl, hwithin⟩ := (valid_iff_of_isFlat ht).mp ha
  exact (valid_iff_of_isFlat ht).mpr ⟨s, cells, rfl, h.within hwithin⟩

theorem valid_scalar_withSpan {t : ScalarType} (h : s.Inside a.span) (ha : Valid (.scalar t) a) :
    Valid (.scalar t) (a.withSpan s) := by
  cases a with
  | fixed s₀ cells =>
    cases t with
    | null =>
      obtain ⟨hwithin, hnull⟩ := ha
      refine ⟨h.within hwithin, fun i hi => ?_⟩
      obtain ⟨j, hj, ho⟩ := h.slot hi
      rw [Span.isNull_shift h.validity ho]
      exact hnull j hj
    | _ => exact h.within ha
  | _ => cases t <;> exact ha.elim

theorem valid_list_withSpan {f : FieldInfo} {t : DataType} (h : s.Inside a.span) (ha : Valid (.list f t) a) :
    Valid (.list f t) (a.withSpan s) := by
  cases a with
  | list s₀ offsets values =>
    obtain ⟨hcovered, hoffsets, hvalues⟩ := ha
    exact ⟨h.covered hcovered, h.validOffsets hoffsets, hvalues⟩
  | _ => exact ha.elim

theorem valid_largeList_withSpan {f : FieldInfo} {t : DataType} (h : s.Inside a.span)
    (ha : Valid (.largeList f t) a) : Valid (.largeList f t) (a.withSpan s) := by
  cases a with
  | list s₀ offsets values =>
    obtain ⟨hcovered, hoffsets, hvalues⟩ := ha
    exact ⟨h.covered hcovered, h.validOffsets hoffsets, hvalues⟩
  | _ => exact ha.elim

theorem valid_fixedSizeList_withSpan {f : FieldInfo} {t : DataType} {n : Nat} (h : s.Inside a.span)
    (ha : Valid (.fixedSizeList f t n) a) : Valid (.fixedSizeList f t n) (a.withSpan s) := by
  cases a with
  | fixedSizeList s₀ values =>
    obtain ⟨hcovered, hpos, hlong, hvalues⟩ := ha
    exact ⟨h.covered hcovered, hpos, Nat.le_trans (Nat.mul_le_mul_right n h.last) hlong, hvalues⟩
  | _ => exact ha.elim

theorem valid_struct_withSpan {fields : Fields} (h : s.Inside a.span) (ha : Valid (.struct fields) a) :
    Valid (.struct fields) (a.withSpan s) := by
  cases a with
  | struct s₀ children =>
    obtain ⟨hcovered, hchildren, hlong⟩ := ha
    exact ⟨h.covered hcovered, hchildren, fun c hc => Nat.le_trans h.last (hlong c hc)⟩
  | _ => exact ha.elim

theorem valid_map_withSpan {f g : FieldInfo} {k v : DataType} {sorted : Bool} (h : s.Inside a.span)
    (ha : Valid (.map f k g v sorted) a) : Valid (.map f k g v sorted) (a.withSpan s) := by
  cases a with
  | map s₀ offsets keys items =>
    obtain ⟨hcovered, hkeys, hitems, hrest⟩ := ha
    exact ⟨h.covered hcovered, h.validOffsets hkeys, h.validOffsets hitems, hrest⟩
  | _ => exact ha.elim

theorem valid_dictionary_withSpan {index : ScalarType} {t : DataType} {ordered : Bool} (h : s.Inside a.span)
    (ha : Valid (.dictionary index t ordered) a) : Valid (.dictionary index t ordered) (a.withSpan s) := by
  cases a with
  | dictionary s₀ indices values =>
    obtain ⟨hwithin, hindices, hvalues⟩ := ha
    refine ⟨h.within hwithin, fun i hi hn => ?_, hvalues⟩
    obtain ⟨j, hj, ho⟩ := h.slot hi
    rw [ho]
    rw [Span.isNull_shift h.validity ho] at hn
    exact hindices j hj hn
  | _ => exact ha.elim

theorem valid_denseUnion_withSpan {fields : Fields} {codes : List Int} (h : s.Inside a.span)
    (ha : Valid (.union .dense fields codes) a) : Valid (.union .dense fields codes) (a.withSpan s) := by
  cases a with
  | denseUnion s₀ typeIds offsets children =>
    obtain ⟨hnone, htypes, hoffsets, hchildren, hbranch⟩ := ha
    refine ⟨h.validity.trans hnone, h.coveredBy htypes, h.coveredBy hoffsets, hchildren, fun i hi => ?_⟩
    obtain ⟨j, hj, ho⟩ := h.slot hi
    rw [ho]
    exact hbranch j hj
  | _ => exact ha.elim

theorem valid_sparseUnion_withSpan {fields : Fields} {codes : List Int} (h : s.Inside a.span)
    (ha : Valid (.union .sparse fields codes) a) : Valid (.union .sparse fields codes) (a.withSpan s) := by
  cases a with
  | sparseUnion s₀ typeIds children =>
    obtain ⟨hnone, htypes, hchildren, hlong, hbranch⟩ := ha
    refine ⟨h.validity.trans hnone, h.coveredBy htypes, hchildren,
      fun c hc => Nat.le_trans h.last (hlong c hc), fun i hi => ?_⟩
    obtain ⟨j, hj, ho⟩ := h.slot hi
    rw [ho]
    exact hbranch j hj
  | _ => exact ha.elim

end Parts

/-- **Any part of a valid array is valid**, by induction on the type: an extension is its storage. -/
theorem valid_withSpan : ∀ (t : DataType) {a : ArrayData} {s : Span},
    s.Inside a.span → Valid t a → Valid t (a.withSpan s)
  | .extension _ t, a, s, h, ha => by
    rw [Valid] at ha ⊢
    exact valid_withSpan t h ha
  | .scalar _, _, _, h, ha => valid_scalar_withSpan h ha
  | .timestamp _ _, _, _, h, ha => valid_flat_withSpan rfl h ha
  | .time32 _, _, _, h, ha => valid_flat_withSpan rfl h ha
  | .time64 _, _, _, h, ha => valid_flat_withSpan rfl h ha
  | .duration _, _, _, h, ha => valid_flat_withSpan rfl h ha
  | .list _ _, _, _, h, ha => valid_list_withSpan h ha
  | .largeList _ _, _, _, h, ha => valid_largeList_withSpan h ha
  | .fixedSizeList _ _ _, _, _, h, ha => valid_fixedSizeList_withSpan h ha
  | .struct _, _, _, h, ha => valid_struct_withSpan h ha
  | .map _ _ _ _ _, _, _, h, ha => valid_map_withSpan h ha
  | .dictionary _ _ _, _, _, h, ha => valid_dictionary_withSpan h ha
  | .union .dense _ _, _, _, h, ha => valid_denseUnion_withSpan h ha
  | .union .sparse _ _, _, _, h, ha => valid_sparseUnion_withSpan h ha
  | .other _ _, _, _, h, ha => valid_flat_withSpan rfl h ha

namespace ArrayData

variable {a : ArrayData} {o n : Nat}

/-- A slice inside the array keeps the bitmap and moves the window. -/
theorem slice_eq (h : o + n ≤ a.length) :
    a.slice o n = a.withSpan ⟨a.span.offset + o, n, a.span.validity⟩ := by
  have hs : o + n ≤ a.span.length := h
  rw [slice, Span.slice, Nat.min_eq_left (by omega), Nat.min_eq_left (by omega)]

theorem length_slice (h : o + n ≤ a.length) : (a.slice o n).length = n := by
  rw [slice_eq h, length, span_withSpan]

theorem isNull_slice (h : o + n ≤ a.length) (i : Nat) :
    (a.slice o n).isNull i = a.isNull (o + i) := by
  rw [slice_eq h, isNull, isNull, span_withSpan]
  exact Span.isNull_shift rfl (Nat.add_assoc _ _ _)

end ArrayData

theorem valueAt_slice {a : ArrayData} {o n : Nat} (t : DataType) (h : o + n ≤ a.length) (i : Nat) :
    valueAt t (a.slice o n) i = valueAt t a (o + i) := by
  rw [ArrayData.slice_eq h]
  exact valueAt_withSpan t rfl (Nat.add_assoc _ _ _)

theorem valid_slice {a : ArrayData} {o n : Nat} {t : DataType} (h : o + n ≤ a.length)
    (ha : Valid t a) : Valid t (a.slice o n) := by
  have hs : o + n ≤ a.span.length := h
  rw [ArrayData.slice_eq h]
  exact valid_withSpan t ⟨rfl, Nat.le_add_right _ _, by show _ + o + n ≤ _; omega⟩ ha

end FlightSql.Arrow
