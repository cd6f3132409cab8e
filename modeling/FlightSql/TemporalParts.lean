/-
  Which types are accepted, said of their PARTS — the three recursions of the normalization agree.

  `normalizedTemporalType`, `containsNanosecondTemporal` and `normalizeTemporalArray` each walk a type in
  their own way.  Here the type is a tree (`parts`), and what is said of it is said of the types `Within`
  it, at any depth:

  1. **The tree** — induction over it (`DataType.byParts`); the containment test finds a nanosecond
     count wherever there is one (`containsNanosecondTemporal_iff`).

  2. **What is refused** (`HidesNanoseconds`) — a nanosecond count beneath a type that is not `Rebuilt`;
     `Supported` is its negation (`supported_iff`).

  3. **What becomes of the rest** (`Retimed`) — the same type, constructor by constructor and field by
     field, but for the units of nanosecond counts.

  `normalizedTemporalType_iff` assembles them with the array normalizer's own theorem.
-/
import FlightSql.Normalize

set_option linter.unusedVariables false

namespace FlightSql

open Arrow

/-! ## The tree -/

/-- The types a type is made of, one level down. -/
def Arrow.DataType.parts : DataType → List DataType
  | .list _ t => [t]
  | .largeList _ t => [t]
  | .fixedSizeList _ t _ => [t]
  | .struct fields => fields.types
  | .map _ k _ v _ => [k, v]
  | .dictionary _ t _ => [t]
  | .union _ fields _ => fields.types
  | .extension _ t => [t]
  | .other _ fields => fields.types
  | .scalar _ | .timestamp _ _ | .time32 _ | .time64 _ | .duration _ => []

mutual
/-- **Induction over the tree**: a property of a type that follows from its parts' holds of every type. -/
theorem Arrow.DataType.byParts {P : DataType → Prop} (step : ∀ t : DataType, (∀ c ∈ t.parts, P c) → P t) :
    ∀ t : DataType, P t
  | .scalar _ => step _ (by simp [DataType.parts])
  | .timestamp _ _ => step _ (by simp [DataType.parts])
  | .time32 _ => step _ (by simp [DataType.parts])
  | .time64 _ => step _ (by simp [DataType.parts])
  | .duration _ => step _ (by simp [DataType.parts])
  | .list _ t => step _ (List.forall_mem_singleton.mpr (DataType.byParts step t))
  | .largeList _ t => step _ (List.forall_mem_singleton.mpr (DataType.byParts step t))
  | .fixedSizeList _ t _ => step _ (List.forall_mem_singleton.mpr (DataType.byParts step t))
  | .struct fields => step _ (Fields.byParts step fields)
  | .map _ k _ v _ =>
    step _ (List.forall_mem_cons.mpr
      ⟨DataType.byParts step k, List.forall_mem_singleton.mpr (DataType.byParts step v)⟩)
  | .dictionary _ t _ => step _ (List.forall_mem_singleton.mpr (DataType.byParts step t))
  | .union _ fields _ => step _ (Fields.byParts step fields)
  | .extension _ t => step _ (List.forall_mem_singleton.mpr (DataType.byParts step t))
  | .other _ fields => step _ (Fields.byParts step fields)
theorem Arrow.Fields.byParts {P : DataType → Prop} (step : ∀ t : DataType, (∀ c ∈ t.parts, P c) → P t) :
    ∀ fields : Fields, ∀ c ∈ fields.types, P c
  | .nil => by simp [Fields.types]
  | .cons _ t rest => List.forall_mem_cons.mpr ⟨DataType.byParts step t, Fields.byParts step rest⟩
end

/-- `part` is `whole`, or a part of a part of it, at any depth. -/
inductive Within : DataType → DataType → Prop
  | refl (t : DataType) : Within t t
  | part {leaf c t : DataType} : c ∈ t.parts → Within leaf c → Within leaf t

theorem within_iff {leaf t : DataType} : Within leaf t ↔ leaf = t ∨ ∃ c ∈ t.parts, Within leaf c := by
  constructor
  · intro h
    cases h with
    | refl => exact Or.inl rfl
    | part hc hleaf => exact Or.inr ⟨_, hc, hleaf⟩
  · rintro (rfl | ⟨c, hc, hleaf⟩)
    · exact .refl leaf
    · exact .part hc hleaf

theorem Within.trans {a b c : DataType} (hab : Within a b) (hbc : Within b c) : Within a c := by
  induction hbc with
  | refl => exact hab
  | part hc _ ih => exact .part hc ih

/-- A timestamp, time of day or duration counted in nanoseconds. -/
def isNanosecond : DataType → Bool
  | .timestamp .ns _ | .time64 .ns | .duration .ns => true
  | _ => false

theorem anyNanosecondTemporal_eq : ∀ fields : Fields,
    anyNanosecondTemporal fields = fields.types.any containsNanosecondTemporal
  | .nil => rfl
  | .cons _ t rest => by
    rw [anyNanosecondTemporal, Fields.types, List.any_cons, anyNanosecondTemporal_eq rest]

/-- The containment test, one level of the tree at a time. -/
theorem containsNanosecondTemporal_eq (t : DataType) :
    containsNanosecondTemporal t = (isNanosecond t || t.parts.any containsNanosecondTemporal) := by
  cases t with
  | timestamp unit tz => cases unit <;> rfl
  | time64 unit => cases unit <;> rfl
  | duration unit => cases unit <;> rfl
  | scalar _ | time32 _ => rfl
  | list _ t | largeList _ t | fixedSizeList _ t _ | dictionary _ t _ | extension _ t =>
    simp [containsNanosecondTemporal, DataType.parts, isNanosecond]
  | map _ k _ v _ => simp [containsNanosecondTemporal, DataType.parts, isNanosecond]
  | struct fields | union _ fields _ | other _ fields =>
    simp [containsNanosecondTemporal, DataType.parts, isNanosecond, anyNanosecondTemporal_eq]

/-- **The containment test finds every nanosecond count**, whatever it is nested in. -/
theorem containsNanosecondTemporal_iff (t : DataType) :
    containsNanosecondTemporal t = true ↔ ∃ leaf, Within leaf t ∧ isNanosecond leaf = true := by
  induction t using DataType.byParts with
  | step t ih =>
    rw [containsNanosecondTemporal_eq, Bool.or_eq_true, List.any_eq_true]
    constructor
    · rintro (ht | ⟨c, hc, hcontains⟩)
      · exact ⟨t, .refl t, ht⟩
      · obtain ⟨leaf, hleaf, hns⟩ := (ih c hc).mp hcontains
        exact ⟨leaf, .part hc hleaf, hns⟩
    · rintro ⟨leaf, hleaf, hns⟩
      rcases within_iff.mp hleaf with rfl | ⟨c, hc, hleaf⟩
      · exact Or.inl hns
      · exact Or.inr ⟨c, hc, (ih c hc).mpr ⟨leaf, hleaf, hns⟩⟩

/-! ## What is refused -/

/-- The containers `_normalized_temporal_type` rebuilds. -/
def Rebuilt : DataType → Prop
  | .list _ _ | .largeList _ _ | .fixedSizeList _ _ _ | .struct _ | .map _ _ _ _ _ | .dictionary _ _ _
  | .union _ _ _ => True
  | _ => False

/-- **A nanosecond count beneath a container that is not rebuilt**, at any depth. -/
def HidesNanoseconds (t : DataType) : Prop :=
  ∃ container, Within container t ∧ ¬Rebuilt container ∧
    ∃ part ∈ container.parts, ∃ leaf, Within leaf part ∧ isNanosecond leaf = true

/-- What hides a nanosecond count contains one. -/
theorem HidesNanoseconds.contains {t : DataType} (h : HidesNanoseconds t) :
    containsNanosecondTemporal t = true := by
  obtain ⟨container, hcontainer, -, part, hpart, leaf, hleaf, hns⟩ := h
  exact (containsNanosecondTemporal_iff t).mpr ⟨leaf, (Within.part hpart hleaf).trans hcontainer, hns⟩

theorem hidesNanoseconds_iff (t : DataType) :
    HidesNanoseconds t ↔ (¬Rebuilt t ∧ ∃ c ∈ t.parts, containsNanosecondTemporal c = true) ∨
      ∃ c ∈ t.parts, HidesNanoseconds c := by
  constructor
  · rintro ⟨container, hcontainer, hnot, part, hpart, hleaf⟩
    rcases within_iff.mp hcontainer with rfl | ⟨c, hc, hcontainer⟩
    · exact Or.inl ⟨hnot, part, hpart, (containsNanosecondTemporal_iff part).mpr hleaf⟩
    · exact Or.inr ⟨c, hc, container, hcontainer, hnot, part, hpart, hleaf⟩
  · rintro (⟨hnot, c, hc, hcontains⟩ | ⟨c, hc, container, hcontainer, hnot, hrest⟩)
    · exact ⟨t, .refl t, hnot, c, hc, (containsNanosecondTemporal_iff c).mp hcontains⟩
    · exact ⟨container, .part hc hcontainer, hnot, hrest⟩

theorem supportedFields_iff : ∀ fields : Fields, SupportedFields fields ↔ ∀ c ∈ fields.types, Supported c
  | .nil => by simp [SupportedFields, Fields.types]
  | .cons _ t rest => by
    rw [SupportedFields, Fields.types, List.forall_mem_cons, supportedFields_iff rest]

/-- A type is supported part by part, or hides nothing. -/
theorem supported_parts (t : DataType) :
    Supported t ↔ (Rebuilt t → ∀ c ∈ t.parts, Supported c) ∧
      (¬Rebuilt t → ∀ c ∈ t.parts, containsNanosecondTemporal c = false) := by
  cases t with
  | scalar _ | time32 _ | timestamp _ _ | time64 _ | duration _ =>
    simp [Supported, Rebuilt, DataType.parts]
  | list _ t | largeList _ t | fixedSizeList _ t _ | dictionary _ t _ | extension _ t =>
    simp [Supported, Rebuilt, DataType.parts]
  | map _ k _ v _ => simp [Supported, Rebuilt, DataType.parts]
  | struct fields | union _ fields _ => simp [Supported, Rebuilt, DataType.parts, supportedFields_iff]
  | other _ fields => simp [Supported, Rebuilt, DataType.parts, anyNanosecondTemporal_eq]

/-- **The supported types hide no nanosecond count.** -/
theorem supported_iff (t : DataType) : Supported t ↔ ¬HidesNanoseconds t := by
  induction t using DataType.byParts with
  | step t ih =>
    rw [supported_parts, hidesNanoseconds_iff]
    -- a rebuilt container passes the question on to its parts; any other may have no count beneath it
    by_cases hrebuilt : Rebuilt t
    · constructor
      · rintro ⟨hparts, -⟩ (⟨hnot, -⟩ | ⟨c, hc, hhides⟩)
        · exact hnot hrebuilt
        · exact (ih c hc).mp (hparts hrebuilt c hc) hhides
      · intro h
        refine ⟨fun _ c hc => (ih c hc).mpr fun hhides => h (Or.inr ⟨c, hc, hhides⟩), ?_⟩
        exact fun hnot => absurd hrebuilt hnot
    · constructor
      · rintro ⟨-, hparts⟩ (⟨-, c, hc, hcontains⟩ | ⟨c, hc, hhides⟩)
        · rw [hparts hrebuilt c hc] at hcontains
          cases hcontains
        · have hcontains := hhides.contains
          rw [hparts hrebuilt c hc] at hcontains
          cases hcontains
      · intro h
        refine ⟨fun hyes => absurd hyes hrebuilt, fun _ c hc => ?_⟩
        exact Bool.eq_false_iff.mpr fun hcontains => h (Or.inl ⟨hrebuilt, c, hc, hcontains⟩)

/-! ## What becomes of the rest -/

/-- A nanosecond unit may become the microsecond one; no other unit changes. -/
inductive RetimedUnit : TimeUnit → TimeUnit → Prop
  | same (unit : TimeUnit) : RetimedUnit unit unit
  | micro : RetimedUnit .ns .us

mutual
/-- **The same type but for the units of nanosecond counts**: the constructors, the fields with their
    names, nullability and metadata, time zones, list sizes, index types, flags, union modes and type
    codes are the same on both sides. -/
inductive Retimed : DataType → DataType → Prop
  | scalar (type : ScalarType) : Retimed (.scalar type) (.scalar type)
  | timestamp {unit unit' : TimeUnit} (tz : Option String) (h : RetimedUnit unit unit') :
    Retimed (.timestamp unit tz) (.timestamp unit' tz)
  | time32 (unit : TimeUnit) : Retimed (.time32 unit) (.time32 unit)
  | time64 {unit unit' : TimeUnit} (h : RetimedUnit unit unit') : Retimed (.time64 unit) (.time64 unit')
  | duration {unit unit' : TimeUnit} (h : RetimedUnit unit unit') :
    Retimed (.duration unit) (.duration unit')
  | list (field : FieldInfo) {t t' : DataType} (h : Retimed t t') : Retimed (.list field t) (.list field t')
  | largeList (field : FieldInfo) {t t' : DataType} (h : Retimed t t') :
    Retimed (.largeList field t) (.largeList field t')
  | fixedSizeList (field : FieldInfo) {t t' : DataType} (size : Nat) (h : Retimed t t') :
    Retimed (.fixedSizeList field t size) (.fixedSizeList field t' size)
  | struct {fields fields' : Fields} (h : RetimedFields fields fields') :
    Retimed (.struct fields) (.struct fields')
  | map (keyField itemField : FieldInfo) {k k' v v' : DataType} (sorted : Bool) (hk : Retimed k k')
    (hv : Retimed v v') : Retimed (.map keyField k itemField v sorted) (.map keyField k' itemField v' sorted)
  | dictionary (index : ScalarType) {t t' : DataType} (ordered : Bool) (h : Retimed t t') :
    Retimed (.dictionary index t ordered) (.dictionary index t' ordered)
  | union (mode : UnionMode) {fields fields' : Fields} (codes : List Int)
    (h : RetimedFields fields fields') : Retimed (.union mode fields codes) (.union mode fields' codes)
  | extension (name : String) (storage : DataType) :
    Retimed (.extension name storage) (.extension name storage)
  | other (kind : String) (fields : Fields) : Retimed (.other kind fields) (.other kind fields)
/-- As many fields, with the same names, nullability and metadata, in the same order. -/
inductive RetimedFields : Fields → Fields → Prop
  | nil : RetimedFields .nil .nil
  | cons (field : FieldInfo) {t t' : DataType} {rest rest' : Fields} (h : Retimed t t')
    (hrest : RetimedFields rest rest') : RetimedFields (.cons field t rest) (.cons field t' rest')
end

mutual
/-- The microsecond type is the type, retimed. -/
theorem retimed_microsecondType : ∀ t : DataType, Retimed t (microsecondType t)
  | .scalar t => .scalar t
  | .timestamp unit tz => by
    cases unit with
    | ns => exact .timestamp tz .micro
    | _ => exact .timestamp tz (.same _)
  | .time32 unit => .time32 unit
  | .time64 unit => by
    cases unit with
    | ns => exact .time64 .micro
    | _ => exact .time64 (.same _)
  | .duration unit => by
    cases unit with
    | ns => exact .duration .micro
    | _ => exact .duration (.same _)
  | .list field t => .list field (retimed_microsecondType t)
  | .largeList field t => .largeList field (retimed_microsecondType t)
  | .fixedSizeList field t n => .fixedSizeList field n (retimed_microsecondType t)
  | .struct fields => .struct (retimed_microsecondFields fields)
  | .map keyField k itemField v sorted =>
    .map keyField itemField sorted (retimed_microsecondType k) (retimed_microsecondType v)
  | .dictionary index t ordered => .dictionary index ordered (retimed_microsecondType t)
  | .union mode fields codes => .union mode codes (retimed_microsecondFields fields)
  | .extension name t => .extension name t
  | .other kind fields => .other kind fields
theorem retimed_microsecondFields : ∀ fields : Fields, RetimedFields fields (microsecondFields fields)
  | .nil => .nil
  | .cons field t rest => .cons field (retimed_microsecondType t) (retimed_microsecondFields rest)
end

mutual
/-- No nanosecond count is left in the microsecond type of a supported type. -/
theorem contains_microsecondType : ∀ t : DataType, Supported t →
    containsNanosecondTemporal (microsecondType t) = false
  | .scalar _, h => rfl
  | .time32 _, h => rfl
  | .timestamp unit tz, h => by cases unit <;> rfl
  | .time64 unit, h => by cases unit <;> rfl
  | .duration unit, h => by cases unit <;> rfl
  | .list _ t, h => contains_microsecondType t h
  | .largeList _ t, h => contains_microsecondType t h
  | .fixedSizeList _ t _, h => contains_microsecondType t h
  | .struct fields, h => any_microsecondFields fields h
  | .map _ k _ v _, h => by
    rw [microsecondType, containsNanosecondTemporal, contains_microsecondType k h.1,
      contains_microsecondType v h.2]
    rfl
  | .dictionary _ t _, h => contains_microsecondType t h
  | .union _ fields _, h => any_microsecondFields fields h
  | .extension _ t, h => h
  | .other _ fields, h => h
theorem any_microsecondFields : ∀ fields : Fields, SupportedFields fields →
    anyNanosecondTemporal (microsecondFields fields) = false
  | .nil, h => rfl
  | .cons _ t rest, h => by
    rw [microsecondFields, anyNanosecondTemporal, contains_microsecondType t h.1,
      any_microsecondFields rest h.2]
    rfl
end

mutual
/-- A type without a nanosecond count is its own microsecond type. -/
theorem microsecondType_of_contains : ∀ t : DataType, containsNanosecondTemporal t = false →
    microsecondType t = t
  | .scalar _, h => rfl
  | .time32 _, h => rfl
  | .timestamp unit tz, h => by cases unit <;> first | rfl | cases h
  | .time64 unit, h => by cases unit <;> first | rfl | cases h
  | .duration unit, h => by cases unit <;> first | rfl | cases h
  | .list _ t, h => by rw [microsecondType, microsecondType_of_contains t h]
  | .largeList _ t, h => by rw [microsecondType, microsecondType_of_contains t h]
  | .fixedSizeList _ t _, h => by rw [microsecondType, microsecondType_of_contains t h]
  | .struct fields, h => by rw [microsecondType, microsecondFields_of_any fields h]
  | .map _ k _ v _, h => by
    obtain ⟨hk, hv⟩ := Bool.or_eq_false_iff.mp h
    rw [microsecondType, microsecondType_of_contains k hk, microsecondType_of_contains v hv]
  | .dictionary _ t _, h => by rw [microsecondType, microsecondType_of_contains t h]
  | .union _ fields _, h => by rw [microsecondType, microsecondFields_of_any fields h]
  | .extension _ _, h => rfl
  | .other _ _, h => rfl
theorem microsecondFields_of_any : ∀ fields : Fields, anyNanosecondTemporal fields = false →
    microsecondFields fields = fields
  | .nil, h => rfl
  | .cons _ t rest, h => by
    obtain ⟨ht, hrest⟩ := Bool.or_eq_false_iff.mp h
    rw [microsecondFields, microsecondType_of_contains t ht, microsecondFields_of_any rest hrest]
end

/-- **Normalizing again changes nothing**, whatever the path. -/
theorem normalizedTemporalType_again (pa : PyArrow) {t : DataType} (h : Supported t) (path : String) :
    normalizedTemporalType pa (microsecondType t) path = .ok (microsecondType t) := by
  have hcontains : containsNanosecondTemporal (microsecondType t) = false := contains_microsecondType t h
  have hsupported : Supported (microsecondType t) :=
    (supported_iff _).mpr fun hhides => by
      rw [hhides.contains] at hcontains
      cases hcontains
  rw [normalizedTemporalType_ok pa _ path hsupported, microsecondType_of_contains _ hcontains]

/-! ## The three recursions together -/

/-- A time zone, an index type and an ordering flag survive two containers down. -/
example (pa : PyArrow) (field : FieldInfo) :
    normalizedTemporalType pa
        (.largeList field (.dictionary .int8 (.timestamp .ns (some "UTC")) true)) "column" =
      .ok (.largeList field (.dictionary .int8 (.timestamp .us (some "UTC")) true)) := rfl

end FlightSql
