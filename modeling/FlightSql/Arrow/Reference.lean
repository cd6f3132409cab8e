/-
  A PyArrow that computes what the laws say.

  `PyArrow.reference` builds every node at offset zero from the parts it is given, divides the
  counts it casts, and concatenates one array by cutting a primitive buffer to its window.  It shows
  that the laws of `PyArrow` can be met together, and lets the driver's functions run on concrete
  arrays.

  Mathlib-free.
-/
import FlightSql.Arrow.PyArrow

set_option linter.unusedVariables false

namespace FlightSql.Arrow

namespace Reference

def typeError : Except Exn ArrowArray := .error ⟨.python .typeError, "not an array of this type"⟩

/-- The unsafe cast on cells. -/
def cast : ArrowArray → DataType → Except Exn ArrowArray
  | ⟨_, .fixed s cells⟩, t' =>
    .ok ⟨t', .fixed s (cells.map fun c => .int (c.count.tdiv 1000))⟩
  | _, _ => typeError

def listFromArrays (offsets : List Nat) (values : ArrowArray) (type : DataType)
    (mask : List Bool) : Except Exn ArrowArray :=
  .ok ⟨type, .list ⟨0, mask.length, some (mask.map not)⟩ offsets values.data⟩

def fixedSizeListFromArrays (values : ArrowArray) (type : DataType) (mask : List Bool) :
    Except Exn ArrowArray :=
  .ok ⟨type, .fixedSizeList ⟨0, mask.length, some (mask.map not)⟩ values.data⟩

def structFromArrays (children : List ArrowArray) (fields : Fields) (mask : Option (List Bool)) :
    Except Exn ArrowArray :=
  match children with
  | [] => typeError
  | c :: cs =>
    .ok ⟨.struct fields,
      .struct ⟨0, c.data.length, mask.map (List.map not)⟩ ((c :: cs).map ArrowArray.data)⟩

def mapFromBuffers (type : DataType) (length : Nat) (validity : List Bool) (offsets : List Nat)
    (entries : ArrowArray) : Except Exn ArrowArray :=
  match entries.data with
  | .struct _ [keys, items] => .ok ⟨type, .map ⟨0, length, some validity⟩ offsets keys items⟩
  | _ => typeError

def concatArrays : List ArrowArray → Except Exn ArrowArray
  | [⟨.scalar t, .fixed ⟨offset, length, none⟩ cells⟩] =>
    .ok ⟨.scalar t, .fixed ⟨0, length, none⟩ ((cells.drop offset).take length)⟩
  | [a] => .ok a
  | _ => typeError

theorem cellAt_cast {f g : Atom → Value} {s : Span} {cells : List Atom}
    (h : ∀ c : Atom, g (.int (c.count.tdiv 1000)) = truncated (f c)) (i : Nat) :
    cellAt g (.fixed s (cells.map fun c => .int (c.count.tdiv 1000))) i =
      truncated (cellAt f (.fixed s cells) i) := by
  rw [cellAt, cellAt]
  by_cases hn : s.isNull i = true
  · rw [if_pos hn, if_pos hn]
    rfl
  · rw [if_neg hn, if_neg hn, ← h, List.getD_eq_getElem?_getD, List.getElem?_map,
      List.getD_eq_getElem?_getD]
    cases cells[s.offset + i]? <;> rfl

theorem cast_truncates {t t' : DataType} {a : ArrayData} (ht : Truncates t t') (ha : Valid t a) :
    ∃ b, cast ⟨t, a⟩ t' = .ok ⟨t', b⟩ ∧ Shows truncated t a t' b := by
  cases a with
  | fixed s cells =>
    refine ⟨_, rfl, ?_, rfl, fun _ _ => rfl, ?_⟩
    · have hw : s.Within (cells.map fun c => Atom.int (c.count.tdiv 1000)).length := by
        rw [List.length_map]
        cases ht <;> exact ha
      cases ht <;> exact hw
    · intro i _
      cases ht <;> exact cellAt_cast (fun _ => rfl) i
  | _ => cases ht <;> exact ha.elim

/-- Cutting a buffer without a bitmap to its window shows the same cells. -/
theorem shows_cut {t : ScalarType} {offset length : Nat} {cells : List Atom}
    (ha : Valid (.scalar t) (.fixed ⟨offset, length, none⟩ cells)) :
    Shows id (.scalar t) (.fixed ⟨offset, length, none⟩ cells) (.scalar t)
      (.fixed ⟨0, length, none⟩ ((cells.drop offset).take length)) := by
  have hbound : offset + length ≤ cells.length := by
    cases t with
    | null => exact ha.1.2
    | _ => exact ha.2
  have hw : Span.Within ⟨0, length, none⟩ ((cells.drop offset).take length).length := by
    refine ⟨trivial, ?_⟩
    rw [List.length_take, List.length_drop]
    show 0 + length ≤ _
    omega
  refine ⟨?_, rfl, fun _ _ => rfl, ?_⟩
  · cases t with
    | null => exact ⟨hw, ha.2⟩
    | _ => exact hw
  · intro i hi
    have hi : i < length := hi
    show Value.atom (((cells.drop offset).take length).getD (0 + i) default) =
      Value.atom (cells.getD (offset + i) default)
    rw [Nat.zero_add, List.getD_eq_getElem?_getD, List.getElem?_take, if_pos hi,
      List.getElem?_drop, List.getD_eq_getElem?_getD]

theorem concat_one {t : DataType} {a : ArrayData} (ha : Valid t a) :
    ∃ b, concatArrays [⟨t, a⟩] = .ok ⟨t, b⟩ ∧ Shows id t a t b := by
  unfold concatArrays
  split
  · rename_i h
    obtain ⟨rfl, rfl⟩ := ArrowArray.mk.inj (List.cons.inj h).1
    exact ⟨_, rfl, shows_cut ha⟩
  · rename_i h
    obtain rfl := (List.cons.inj h).1
    exact ⟨a, rfl, Shows.refl ha fun _ _ => rfl⟩
  · rename_i h
    exact absurd rfl (h _)

end Reference

/-- **The reference PyArrow.** -/
def PyArrow.reference : PyArrow where
  typeStr _ := "type"
  cast := Reference.cast
  listFromArrays := Reference.listFromArrays
  fixedSizeListFromArrays := Reference.fixedSizeListFromArrays
  structFromArrays := Reference.structFromArrays
  mapFromBuffers := Reference.mapFromBuffers
  dictionaryFromArrays index s indices dictionary ordered :=
    .ok ⟨.dictionary index dictionary.type ordered, .dictionary s indices dictionary.data⟩
  denseUnionFromBuffers type n typeIds offsets children :=
    .ok ⟨type, .denseUnion ⟨0, n, none⟩ (some typeIds) (some (offsets.map Int.toNat))
      (children.map ArrowArray.data)⟩
  sparseUnionFromBuffers type n typeIds children :=
    .ok ⟨type, .sparseUnion ⟨0, n, none⟩ (some typeIds) (children.map ArrowArray.data)⟩
  concatArrays := Reference.concatArrays
  chunkedArray chunks t := .ok ⟨t, chunks.map ArrowArray.data⟩
  cast_truncates := Reference.cast_truncates
  list_ok := by intros; rfl
  fixedSizeList_ok := by intros; rfl
  struct_ok := by
    intro children fields mask n hne hfor _
    cases children with
    | nil => exact absurd rfl hne
    | cons c cs =>
      rw [Reference.structFromArrays, hfor.length c List.mem_cons_self]
  map_ok := by intros; rfl
  dictionary_ok := by intros; rfl
  denseUnion_ok := by intros; rfl
  sparseUnion_ok := by intros; rfl
  concat_one := Reference.concat_one
  concat_fixed := by intros; rfl
  chunked_ok := by intros; rfl

end FlightSql.Arrow
