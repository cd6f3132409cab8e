/-
  Temporal types — the type half of `dbapi.py`'s microsecond normalization.

  THE CODE: `microsecondTemporalType`, `containsNanosecondTemporal` and `normalizedTemporalType`,
  which rewrites a type at any depth and refuses, with the path of the offending part, a container
  it does not know around a nanosecond count.

  WHAT IT IS FOR: `microsecondType` replaces every nanosecond type by its microsecond counterpart
  inside the containers the driver knows; `Supported` says that no nanosecond count sits inside
  another container.  `normalizedTemporalType_ok` and `normalizedTemporalType_unsupported` say that
  the code computes the first on exactly the types that satisfy the second.

  Mathlib-free.
-/
import FlightSql.Arrow.PyArrow

set_option linter.unusedVariables false

namespace FlightSql

open Arrow

/-! ## The source functions -/

/-- `_microsecond_temporal_type`. -/
def microsecondTemporalType : DataType → Option DataType
  | .timestamp .ns tz => some (.timestamp .us tz)
  | .time64 .ns => some (.time64 .us)
  | .duration .ns => some (.duration .us)
  | _ => none

mutual
/-- `_contains_nanosecond_temporal`.  The one field of a map type is the struct of its key and item,
    so looking through it looks at both. -/
def containsNanosecondTemporal : DataType → Bool
  | .list _ t => containsNanosecondTemporal t
  | .largeList _ t => containsNanosecondTemporal t
  | .fixedSizeList _ t _ => containsNanosecondTemporal t
  | .struct fields => anyNanosecondTemporal fields
  | .map _ k _ v _ => containsNanosecondTemporal k || containsNanosecondTemporal v
  | .dictionary _ t _ => containsNanosecondTemporal t
  | .union _ fields _ => anyNanosecondTemporal fields
  | .extension _ t => containsNanosecondTemporal t
  | .other _ fields => anyNanosecondTemporal fields
  | .timestamp unit tz => (microsecondTemporalType (.timestamp unit tz)).isSome
  | .time64 unit => (microsecondTemporalType (.time64 unit)).isSome
  | .duration unit => (microsecondTemporalType (.duration unit)).isSome
  | .scalar _ => false
  | .time32 _ => false
/-- Some field contains a nanosecond count. -/
def anyNanosecondTemporal : Fields → Bool
  | .nil => false
  | .cons _ t rest => containsNanosecondTemporal t || anyNanosecondTemporal rest
end

/-- The last two statements of `_normalized_temporal_type`: a type that is no container the driver
    rebuilds stays, unless it hides a nanosecond count. -/
def remainingTemporalType (pa : PyArrow) (t : DataType) (path : String) : Except Exn DataType :=
  if containsNanosecondTemporal t then
    .error (.notSupported
      ("cannot safely normalize nanosecond temporal values inside unsupported Arrow type " ++
        pa.typeStr t ++ " at " ++ path))
  else .ok t

/-- The leaves: a nanosecond type becomes its microsecond counterpart. -/
def leafTemporalType (pa : PyArrow) (t : DataType) (path : String) : Except Exn DataType :=
  match microsecondTemporalType t with
  | some t' => .ok t'
  | none => remainingTemporalType pa t path

mutual
/-- `_normalized_temporal_type`. -/
def normalizedTemporalType (pa : PyArrow) : DataType → String → Except Exn DataType
  | .list field t, path => do
    let t ← normalizedTemporalType pa t (path ++ "[]")
    .ok (.list field t)
  | .largeList field t, path => do
    let t ← normalizedTemporalType pa t (path ++ "[]")
    .ok (.largeList field t)
  | .fixedSizeList field t n, path => do
    let t ← normalizedTemporalType pa t (path ++ "[]")
    .ok (.fixedSizeList field t n)
  | .struct fields, path => do
    let fields ← normalizeTemporalFieldTypes pa fields path
    .ok (.struct fields)
  | .map keyField k itemField v sorted, path => do
    let k ← normalizedTemporalType pa k (path ++ ".key")
    let v ← normalizedTemporalType pa v (path ++ ".value")
    .ok (.map keyField k itemField v sorted)
  | .dictionary index t ordered, path => do
    let t ← normalizedTemporalType pa t (path ++ ".dictionary")
    .ok (.dictionary index t ordered)
  | .union mode fields codes, path => do
    let fields ← normalizeTemporalFieldTypes pa fields path
    .ok (.union mode fields codes)
  | .extension name t, path => leafTemporalType pa (.extension name t) path
  | .other kind fields, path => leafTemporalType pa (.other kind fields) path
  | .timestamp unit tz, path => leafTemporalType pa (.timestamp unit tz) path
  | .time64 unit, path => leafTemporalType pa (.time64 unit) path
  | .duration unit, path => leafTemporalType pa (.duration unit) path
  | .time32 unit, path => leafTemporalType pa (.time32 unit) path
  | .scalar t, path => leafTemporalType pa (.scalar t) path
/-- `_normalize_temporal_field` on every field of a struct or union: name, nullability and metadata
    stay. -/
def normalizeTemporalFieldTypes (pa : PyArrow) : Fields → String → Except Exn Fields
  | .nil, _ => .ok .nil
  | .cons field t rest, path => do
    let t ← normalizedTemporalType pa t (path ++ "." ++ field.name)
    let rest ← normalizeTemporalFieldTypes pa rest path
    .ok (.cons field t rest)
end

/-! ## What it is for -/

mutual
/-- **The microsecond type** of a type: every nanosecond type inside the containers the driver
    rebuilds is replaced, everything else (names, nullability, time zones, sizes, codes) stays. -/
def microsecondType : DataType → DataType
  | .timestamp .ns tz => .timestamp .us tz
  | .time64 .ns => .time64 .us
  | .duration .ns => .duration .us
  | .list field t => .list field (microsecondType t)
  | .largeList field t => .largeList field (microsecondType t)
  | .fixedSizeList field t n => .fixedSizeList field (microsecondType t) n
  | .struct fields => .struct (microsecondFields fields)
  | .map keyField k itemField v sorted =>
    .map keyField (microsecondType k) itemField (microsecondType v) sorted
  | .dictionary index t ordered => .dictionary index (microsecondType t) ordered
  | .union mode fields codes => .union mode (microsecondFields fields) codes
  | t => t
/-- The microsecond types of fields. -/
def microsecondFields : Fields → Fields
  | .nil => .nil
  | .cons field t rest => .cons field (microsecondType t) (microsecondFields rest)
end

mutual
/-- No nanosecond count sits inside a container the driver does not rebuild. -/
def Supported : DataType → Prop
  | .list _ t => Supported t
  | .largeList _ t => Supported t
  | .fixedSizeList _ t _ => Supported t
  | .struct fields => SupportedFields fields
  | .map _ k _ v _ => Supported k ∧ Supported v
  | .dictionary _ t _ => Supported t
  | .union _ fields _ => SupportedFields fields
  | .extension _ t => containsNanosecondTemporal t = false
  | .other _ fields => anyNanosecondTemporal fields = false
  | _ => True
/-- Every field is supported. -/
def SupportedFields : Fields → Prop
  | .nil => True
  | .cons _ t rest => Supported t ∧ SupportedFields rest
end

@[simp] theorem microsecondFields_names :
    ∀ fields : Fields, (microsecondFields fields).names = fields.names
  | .nil => rfl
  | .cons field t rest => by
    rw [microsecondFields, Fields.names, Fields.names, microsecondFields_names rest]

/-- A leaf the driver keeps or truncates: the code's answer is the microsecond type. -/
theorem leafTemporalType_ok {pa : PyArrow} {t : DataType} {path : String}
    (h : (microsecondTemporalType t).isSome = containsNanosecondTemporal t)
    (ht : microsecondType t = (microsecondTemporalType t).getD t) :
    leafTemporalType pa t path = .ok (microsecondType t) := by
  rw [leafTemporalType, ht]
  cases hm : microsecondTemporalType t with
  | some t' => rfl
  | none =>
    rw [hm] at h
    rw [remainingTemporalType, ← h]
    rfl

mutual
/-- **On a supported type the code computes the microsecond type.** -/
theorem normalizedTemporalType_ok (pa : PyArrow) : ∀ (t : DataType) (path : String),
    Supported t → normalizedTemporalType pa t path = .ok (microsecondType t)
  | .list field t, path, h => by
    rw [normalizedTemporalType, normalizedTemporalType_ok pa t _ h]
    rfl
  | .largeList field t, path, h => by
    rw [normalizedTemporalType, normalizedTemporalType_ok pa t _ h]
    rfl
  | .fixedSizeList field t n, path, h => by
    rw [normalizedTemporalType, normalizedTemporalType_ok pa t _ h]
    rfl
  | .struct fields, path, h => by
    rw [normalizedTemporalType, normalizeTemporalFieldTypes_ok pa fields _ h]
    rfl
  | .map keyField k itemField v sorted, path, h => by
    rw [normalizedTemporalType, normalizedTemporalType_ok pa k _ h.1]
    show (normalizedTemporalType pa v _).bind _ = _
    rw [normalizedTemporalType_ok pa v _ h.2]
    rfl
  | .dictionary index t ordered, path, h => by
    rw [normalizedTemporalType, normalizedTemporalType_ok pa t _ h]
    rfl
  | .union mode fields codes, path, h => by
    rw [normalizedTemporalType, normalizeTemporalFieldTypes_ok pa fields _ h]
    rfl
  | .extension name t, path, h => leafTemporalType_ok h.symm rfl
  | .other kind fields, path, h => leafTemporalType_ok h.symm rfl
  | .timestamp unit tz, path, h => by
    refine leafTemporalType_ok rfl ?_
    cases unit <;> rfl
  | .time64 unit, path, h => by
    refine leafTemporalType_ok rfl ?_
    cases unit <;> rfl
  | .duration unit, path, h => by
    refine leafTemporalType_ok rfl ?_
    cases unit <;> rfl
  | .time32 unit, path, h => leafTemporalType_ok rfl rfl
  | .scalar t, path, h => leafTemporalType_ok rfl rfl
theorem normalizeTemporalFieldTypes_ok (pa : PyArrow) : ∀ (fields : Fields) (path : String),
    SupportedFields fields →
      normalizeTemporalFieldTypes pa fields path = .ok (microsecondFields fields)
  | .nil, path, h => rfl
  | .cons field t rest, path, h => by
    rw [normalizeTemporalFieldTypes, normalizedTemporalType_ok pa t _ h.1]
    show (normalizeTemporalFieldTypes pa rest _).bind _ = _
    rw [normalizeTemporalFieldTypes_ok pa rest _ h.2]
    rfl
end

/-- A container the driver does not know, around a nanosecond count. -/
theorem leafTemporalType_unsupported {pa : PyArrow} {t : DataType} {path : String}
    (hm : microsecondTemporalType t = none) (h : ¬containsNanosecondTemporal t = false) :
    ∃ m, leafTemporalType pa t path = .error (.notSupported m) := by
  rw [leafTemporalType, hm]
  show ∃ m, remainingTemporalType pa t path = _
  rw [remainingTemporalType, if_pos ((Bool.eq_false_or_eq_true _).resolve_right h)]
  exact ⟨_, rfl⟩

mutual
/-- **On any other type it raises `NotSupportedError`.** -/
theorem normalizedTemporalType_unsupported (pa : PyArrow) : ∀ (t : DataType) (path : String),
    ¬Supported t → ∃ m, normalizedTemporalType pa t path = .error (.notSupported m)
  | .list field t, path, h => by
    obtain ⟨m, hm⟩ := normalizedTemporalType_unsupported pa t (path ++ "[]") h
    exact ⟨m, by rw [normalizedTemporalType, hm]; rfl⟩
  | .largeList field t, path, h => by
    obtain ⟨m, hm⟩ := normalizedTemporalType_unsupported pa t (path ++ "[]") h
    exact ⟨m, by rw [normalizedTemporalType, hm]; rfl⟩
  | .fixedSizeList field t n, path, h => by
    obtain ⟨m, hm⟩ := normalizedTemporalType_unsupported pa t (path ++ "[]") h
    exact ⟨m, by rw [normalizedTemporalType, hm]; rfl⟩
  | .struct fields, path, h => by
    obtain ⟨m, hm⟩ := normalizeTemporalFieldTypes_unsupported pa fields path h
    exact ⟨m, by rw [normalizedTemporalType, hm]; rfl⟩
  | .map keyField k itemField v sorted, path, h => by
    by_cases hk : Supported k
    · obtain ⟨m, hm⟩ := normalizedTemporalType_unsupported pa v (path ++ ".value")
        (fun hv => h ⟨hk, hv⟩)
      refine ⟨m, ?_⟩
      rw [normalizedTemporalType, normalizedTemporalType_ok pa k _ hk]
      show (normalizedTemporalType pa v _).bind _ = _
      rw [hm]
      rfl
    · obtain ⟨m, hm⟩ := normalizedTemporalType_unsupported pa k (path ++ ".key") hk
      exact ⟨m, by rw [normalizedTemporalType, hm]; rfl⟩
  | .dictionary index t ordered, path, h => by
    obtain ⟨m, hm⟩ := normalizedTemporalType_unsupported pa t (path ++ ".dictionary") h
    exact ⟨m, by rw [normalizedTemporalType, hm]; rfl⟩
  | .union mode fields codes, path, h => by
    obtain ⟨m, hm⟩ := normalizeTemporalFieldTypes_unsupported pa fields path h
    exact ⟨m, by rw [normalizedTemporalType, hm]; rfl⟩
  | .extension name t, path, h => leafTemporalType_unsupported rfl h
  | .other kind fields, path, h => leafTemporalType_unsupported rfl h
  | .timestamp _ _, path, h => absurd trivial h
  | .time64 _, path, h => absurd trivial h
  | .duration _, path, h => absurd trivial h
  | .time32 _, path, h => absurd trivial h
  | .scalar _, path, h => absurd trivial h
theorem normalizeTemporalFieldTypes_unsupported (pa : PyArrow) :
    ∀ (fields : Fields) (path : String), ¬SupportedFields fields →
      ∃ m, normalizeTemporalFieldTypes pa fields path = .error (.notSupported m)
  | .nil, path, h => absurd trivial h
  | .cons field t rest, path, h => by
    by_cases ht : Supported t
    · obtain ⟨m, hm⟩ := normalizeTemporalFieldTypes_unsupported pa rest path
        (fun hr => h ⟨ht, hr⟩)
      refine ⟨m, ?_⟩
      rw [normalizeTemporalFieldTypes, normalizedTemporalType_ok pa t _ ht]
      show (normalizeTemporalFieldTypes pa rest _).bind _ = _
      rw [hm]
      rfl
    · obtain ⟨m, hm⟩ := normalizedTemporalType_unsupported pa t (path ++ "." ++ field.name) ht
      exact ⟨m, by rw [normalizeTemporalFieldTypes, hm]; rfl⟩
end

end FlightSql
