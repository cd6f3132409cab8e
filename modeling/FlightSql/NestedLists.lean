/-
  What lists of lists resolve to — `resolve_sql_type` at every depth.

  THE CODE decides each list from what its element has already been resolved to: an `ARRAY` or an untyped
  element makes it `ArrowNestedJSON`, anything else an `ARRAY`.  An `ArrowNestedJSON` is anything else, so
  the next list around it is an `ARRAY` again.

  WHAT IT IS FOR: a list of lists is JSON, and an `ARRAY` is of no list (`NestsAsJson`).

  1. **A type has LAYERS** — the lists it consists of, seen through wrappers (`listLayers`), around a type
     that is no list (`innermost`) — and resolves to as many list branches over what the innermost type
     resolves to (`resolveSqlType_layers`).

  2. **The branches alternate** (`listBranches_json_iff`), so the answer is a matter of parity
     (`resolveSqlType_nestsAsJson_iff`).

  Mathlib-free.
-/
import FlightSql.TemporalParts
import FlightSql.SqlType

set_option linter.unusedVariables false

namespace FlightSql

open Arrow

/-! ## Lists -/

/-- **The list-like constructors**, each with what it needs beside its element type. -/
inductive ListKind where
  | list (field : FieldInfo)
  | largeList (field : FieldInfo)
  | fixedSizeList (field : FieldInfo) (size : Nat)
  | listView (field : FieldInfo)
  | largeListView (field : FieldInfo)

/-- A list of this kind. -/
def ListKind.of : ListKind → DataType → DataType
  | .list field, t => .list field t
  | .largeList field, t => .largeList field t
  | .fixedSizeList field size, t => .fixedSizeList field t size
  | .listView field, t => .other "list_view" (.cons field t .nil)
  | .largeListView field, t => .other "large_list_view" (.cons field t .nil)

/-- A type **seen through** any number of dictionary and extension wrappers. -/
def seenThrough : DataType → DataType
  | .extension _ t => seenThrough t
  | .dictionary _ t _ => seenThrough t
  | t => t

/-- `_LIST_PREDICATES`. -/
def isListLike : DataType → Bool
  | .list _ _ | .largeList _ _ | .fixedSizeList _ _ _ => true
  | .other kind _ => isListView kind
  | _ => false

/-- **Nested lists are JSON**, at this list of `t`: it is if `t` is itself a list, and an `ARRAY` is one of
    the type of a `t` that is no list and has a type. -/
def NestsAsJson (kind : ListKind) (t : DataType) : Prop :=
  (isListLike (seenThrough t) = true → resolveSqlType (kind.of t) = .nestedJson) ∧
    ∀ item, resolveSqlType (kind.of t) = .array item →
      isListLike (seenThrough t) = false ∧ item = resolveSqlType t ∧ item ≠ .null

/-! ## Layers -/

mutual
/-- **How many lists a type consists of**, one in the other, seen through wrappers. -/
def listLayers : DataType → Nat
  | .extension _ t => listLayers t
  | .dictionary _ t _ => listLayers t
  | .list _ t => listLayers t + 1
  | .largeList _ t => listLayers t + 1
  | .fixedSizeList _ t _ => listLayers t + 1
  | .other kind fields => if isListView kind then itemLayers fields + 1 else 0
  | _ => 0
/-- Those of a list view's element. -/
def itemLayers : Fields → Nat
  | .cons _ t _ => listLayers t
  | .nil => 0
end

mutual
/-- **What the lists are of**: the first type that is neither a list nor a wrapper. -/
def innermost : DataType → DataType
  | .extension _ t => innermost t
  | .dictionary _ t _ => innermost t
  | .list _ t => innermost t
  | .largeList _ t => innermost t
  | .fixedSizeList _ t _ => innermost t
  | .other kind fields => if isListView kind then innermostItem fields else .other kind fields
  | t => t
/-- What a list view is of; one without an element is of nulls. -/
def innermostItem : Fields → DataType
  | .cons _ t _ => innermost t
  | .nil => .scalar .null
end

/-- **No SQL type**: the null type, and the containers the driver does not know. -/
def isUntyped : DataType → Bool
  | .scalar .null => true
  | .other _ _ => true
  | _ => false

/-- As many list branches over a type. -/
def listBranches : Nat → SqlType → SqlType
  | 0, item => item
  | n + 1, item => listSqlType (listBranches n item)

/-- **A type resolves to its layers' list branches** over its innermost type. -/
theorem resolveSqlType_layers (t : DataType) :
    resolveSqlType t = listBranches (listLayers t) (resolveSqlType (innermost t)) := by
  induction t using DataType.byParts with
  | step t ih =>
    cases t with
    | extension _ t | dictionary _ t _ =>
      have h := ih t (by simp [DataType.parts])
      simpa only [resolveSqlType, listLayers, innermost] using h
    | list _ t | largeList _ t | fixedSizeList _ t _ =>
      have h := ih t (by simp [DataType.parts])
      -- one layer more is one list branch more
      simp only [resolveSqlType, listLayers, innermost, listBranches]
      rw [h]
    | other kind fields =>
      by_cases hview : isListView kind = true
      · cases fields with
        -- a list view is kept as a container of fields: the first is its element
        | nil => simp [resolveSqlType, listLayers, innermost, hview, resolveItem, itemLayers, innermostItem,
            listBranches, scalarSqlType]
        | cons field t rest =>
          have h := ih t (by simp [DataType.parts, Fields.types])
          simp only [resolveSqlType, listLayers, innermost, hview, if_true, resolveItem, itemLayers,
            innermostItem, listBranches]
          rw [h]
      · simp only [resolveSqlType, listLayers, innermost, if_neg hview, listBranches]
    | _ => rfl

/-- The innermost type has a SQL type unless it is untyped, and is resolved by no list branch. -/
theorem resolveSqlType_innermost (t : DataType) :
    (resolveSqlType (innermost t) = .null ↔ isUntyped (innermost t) = true) ∧
      ∀ item, resolveSqlType (innermost t) ≠ .array item := by
  induction t using DataType.byParts with
  | step t ih =>
    cases t with
    | extension _ t | dictionary _ t _ | list _ t | largeList _ t | fixedSizeList _ t _ =>
      simpa only [innermost] using ih t (by simp [DataType.parts])
    | other kind fields =>
      by_cases hview : isListView kind = true
      · cases fields with
        | nil => simp [innermost, hview, innermostItem, resolveSqlType, scalarSqlType, isUntyped]
        | cons field t rest =>
          simpa only [innermost, hview, if_true, innermostItem] using
            ih t (by simp [DataType.parts, Fields.types])
      · simp [innermost, hview, resolveSqlType, isUntyped]
    | scalar type => cases type <;> simp [innermost, resolveSqlType, scalarSqlType, isUntyped]
    | _ => simp [innermost, resolveSqlType, isUntyped]

/-- A type has layers exactly if it is a list, seen through wrappers. -/
theorem listLayers_pos_iff (t : DataType) : 0 < listLayers t ↔ isListLike (seenThrough t) = true := by
  induction t using DataType.byParts with
  | step t ih =>
    cases t with
    | extension _ t | dictionary _ t _ =>
      simpa only [listLayers, seenThrough] using ih t (by simp [DataType.parts])
    | other kind fields =>
      by_cases hview : isListView kind = true <;> simp [listLayers, seenThrough, isListLike, hview]
    | _ => simp [listLayers, seenThrough, isListLike]

/-! ## Parity -/

/-- What a list branch leaves is JSON or an `ARRAY`; JSON if its element is untyped or an `ARRAY`. -/
theorem listSqlType_cases (item : SqlType) :
    (listSqlType item = .nestedJson ∧ (item = .null ∨ ∃ inner, item = .array inner)) ∨
      (listSqlType item = .array item ∧ item ≠ .null ∧ ∀ inner, item ≠ .array inner) := by
  cases item with
  | null => exact Or.inl ⟨rfl, Or.inl rfl⟩
  | array inner => exact Or.inl ⟨rfl, Or.inr ⟨inner, rfl⟩⟩
  | _ => exact Or.inr ⟨rfl, by simp, by simp⟩

/-- A list branch over a list branch is JSON exactly if that one is not. -/
theorem listSqlType_listSqlType (item : SqlType) :
    listSqlType (listSqlType item) = .nestedJson ↔ listSqlType item ≠ .nestedJson := by
  rcases listSqlType_cases item with ⟨hjson, -⟩ | ⟨harray, -, -⟩
  · rw [hjson]
    simp [listSqlType]
  · rw [harray]
    simp [listSqlType]

/-- **The branches alternate**, from JSON over an untyped type and from an `ARRAY` over a typed one. -/
theorem listBranches_json_iff (item : SqlType) (hitem : ∀ inner, item ≠ .array inner) (n : Nat) :
    listBranches (n + 1) item = .nestedJson ↔ (n % 2 = 1 ↔ item ≠ .null) := by
  induction n with
  | zero =>
    rcases listSqlType_cases item with ⟨hjson, hnull | ⟨inner, harray⟩⟩ | ⟨harray, hnull, -⟩
    · simp [listBranches, listSqlType, hnull]
    · exact absurd harray (hitem inner)
    · simp [listBranches, harray, hnull]
  | succ n ih =>
    -- the branch tests what the one below it left, so it undoes its decision
    have hstep : listBranches (n + 1 + 1) item = .nestedJson ↔ ¬listBranches (n + 1) item = .nestedJson :=
      listSqlType_listSqlType (listBranches n item)
    have hparity : (n + 1) % 2 = 1 ↔ ¬n % 2 = 1 := by omega
    rw [hstep, ih, hparity]
    by_cases hnull : item = .null
    · simp [hnull]
    · simp [hnull]

/-! ## Every list -/

theorem resolveSqlType_of (kind : ListKind) (t : DataType) :
    resolveSqlType (kind.of t) = listSqlType (resolveSqlType t) := by
  cases kind <;> rfl

/-- A list resolves to one more list branch than its element has layers. -/
theorem resolveSqlType_of_json_iff (kind : ListKind) (t : DataType) :
    resolveSqlType (kind.of t) = .nestedJson ↔
      (listLayers t % 2 = 1 ↔ isUntyped (innermost t) = false) := by
  obtain ⟨hnull, harray⟩ := resolveSqlType_innermost t
  have hbranches : resolveSqlType (kind.of t) =
      listBranches (listLayers t + 1) (resolveSqlType (innermost t)) := by
    rw [resolveSqlType_of, resolveSqlType_layers t]
    rfl
  have htyped : resolveSqlType (innermost t) ≠ .null ↔ isUntyped (innermost t) = false := by
    rw [ne_eq, hnull, Bool.not_eq_true]
  rw [hbranches, listBranches_json_iff _ harray, htyped]

/-- **At which depths nested lists are JSON.**  For every kind of list of every type: if its element has no
    layers, or an odd number of them around a type with a SQL type, or an even number around one without. -/
theorem resolveSqlType_nestsAsJson_iff (kind : ListKind) (t : DataType) :
    NestsAsJson kind t ↔
      listLayers t = 0 ∨ (listLayers t % 2 = 1 ↔ isUntyped (innermost t) = false) := by
  have hlist := listLayers_pos_iff t
  rw [← resolveSqlType_of_json_iff kind t]
  constructor
  · rintro ⟨hjson, -⟩
    by_cases hlayers : listLayers t = 0
    · exact Or.inl hlayers
    · exact Or.inr (hjson (hlist.mp (by omega)))
  · intro h
    have hjson : isListLike (seenThrough t) = true → resolveSqlType (kind.of t) = .nestedJson := by
      intro hlike
      have hpos := hlist.mpr hlike
      rcases h with hzero | hjson
      · omega
      · exact hjson
    refine ⟨hjson, fun item hitem => ?_⟩
    -- an `ARRAY` is no JSON, so the element is no list
    have hflat : isListLike (seenThrough t) = false := by
      rw [Bool.eq_false_iff]
      intro hlike
      rw [hjson hlike] at hitem
      cases hitem
    rw [resolveSqlType_of] at hitem
    rcases listSqlType_cases (resolveSqlType t) with ⟨hnested, -⟩ | ⟨harray, hnull, -⟩
    · rw [hnested] at hitem
      cases hitem
    · rw [harray] at hitem
      cases hitem
      exact ⟨hflat, rfl, hnull⟩

/-- **A list of lists of lists** is an `ARRAY` of JSON. -/
theorem resolveSqlType_threeDeep :
    resolveSqlType ((ListKind.list ⟨"item", true, []⟩).of
        (.list ⟨"item", true, []⟩ (.list ⟨"item", true, []⟩ (.scalar .int64)))) = .array .nestedJson ∧
      ¬NestsAsJson (.list ⟨"item", true, []⟩)
        (.list ⟨"item", true, []⟩ (.list ⟨"item", true, []⟩ (.scalar .int64))) := by
  refine ⟨rfl, fun h => ?_⟩
  have hjson := h.1 rfl
  revert hjson
  decide

end FlightSql
