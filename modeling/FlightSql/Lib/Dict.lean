/-
  Insertion-ordered dictionaries with unique keys — the `dict` of an interpreted program.

  A `Dict K V` is an association list that CARRIES the proof that no key repeats, so a lookup
  never has to say which of two entries it means.  Assigning to a key that is present replaces
  its value in place (the key keeps its position), assigning to a fresh key appends — the
  iteration order a program observes.

  The interface is the three lookup laws (`get?_empty`, `get?_set`, `get?_erase`) together with
  the membership reading of `get?` (`get?_eq_some_iff`); every proof about a dictionary that a
  loop fills goes through these and never unfolds the list.  `fromKeys` is the order-keeping
  removal of duplicates (`list(dict.fromkeys(xs))`).

  Mathlib-free.
-/

set_option linter.unusedVariables false

namespace FlightSql.Lib

variable {K V : Type} [DecidableEq K]

/-! ## Association lists -/

/-- The value the first entry with key `k` carries. -/
def assocGet (k : K) : List (K × V) → Option V
  | [] => none
  | e :: es => if e.1 = k then some e.2 else assocGet k es

/-- Replace the value at `k` in place, or append a new entry. -/
def assocSet (k : K) (v : V) : List (K × V) → List (K × V)
  | [] => [(k, v)]
  | e :: es => if e.1 = k then (k, v) :: es else e :: assocSet k v es

theorem assocGet_nil (k : K) : assocGet k ([] : List (K × V)) = none := rfl

theorem assocGet_cons (k : K) (e : K × V) (es : List (K × V)) :
    assocGet k (e :: es) = if e.1 = k then some e.2 else assocGet k es := rfl

theorem assocSet_nil (k : K) (v : V) : assocSet k v [] = [(k, v)] := rfl

theorem assocSet_cons (k : K) (v : V) (e : K × V) (es : List (K × V)) :
    assocSet k v (e :: es) = if e.1 = k then (k, v) :: es else e :: assocSet k v es := rfl

theorem assocGet_eq_none_iff {k : K} {es : List (K × V)} :
    assocGet k es = none ↔ k ∉ es.map Prod.fst := by
  induction es with
  | nil => simp [assocGet_nil]
  | cons e es ih =>
    rw [assocGet_cons]
    by_cases h : e.1 = k
    · rw [if_pos h, List.map_cons, List.mem_cons]
      simp [h]
    · rw [if_neg h, ih, List.map_cons, List.mem_cons, not_or]
      exact ⟨fun hk => ⟨fun he => h he.symm, hk⟩, fun hk => hk.2⟩

theorem mem_of_assocGet {k : K} {v : V} {es : List (K × V)} (h : assocGet k es = some v) :
    (k, v) ∈ es := by
  induction es with
  | nil => simp [assocGet_nil] at h
  | cons e es ih =>
    rw [assocGet_cons] at h
    by_cases he : e.1 = k
    · rw [if_pos he] at h
      have hv : e.2 = v := Option.some.inj h
      exact List.mem_cons.mpr (Or.inl (by rw [← he, ← hv]))
    · rw [if_neg he] at h
      exact List.mem_cons_of_mem _ (ih h)

theorem assocGet_append (k : K) (es es' : List (K × V)) :
    assocGet k (es ++ es') = (assocGet k es).or (assocGet k es') := by
  induction es with
  | nil => rfl
  | cons e es ih =>
    rw [List.cons_append, assocGet_cons, assocGet_cons, ih]
    by_cases h : e.1 = k
    · rw [if_pos h, if_pos h]
      rfl
    · rw [if_neg h, if_neg h]

theorem assocGet_set (k k' : K) (v : V) (es : List (K × V)) :
    assocGet k' (assocSet k v es) = if k = k' then some v else assocGet k' es := by
  induction es with
  | nil => rfl
  | cons e es ih =>
    rw [assocSet_cons]
    by_cases h : e.1 = k
    · rw [if_pos h, assocGet_cons]
      by_cases hk : k = k'
      · rw [if_pos hk, if_pos hk]
      · rw [if_neg hk, if_neg hk, assocGet_cons, if_neg (by rw [h]; exact hk)]
    · rw [if_neg h, assocGet_cons, assocGet_cons, ih]
      by_cases hk : k = k'
      · rw [if_pos hk, if_neg (by rw [← hk]; exact h), if_pos hk]
      · rw [if_neg hk, if_neg hk]

theorem mem_keys_assocSet {k k' : K} {v : V} {es : List (K × V)} :
    k' ∈ (assocSet k v es).map Prod.fst ↔ k' = k ∨ k' ∈ es.map Prod.fst := by
  induction es with
  | nil => simp [assocSet_nil]
  | cons e es ih =>
    rw [assocSet_cons]
    by_cases h : e.1 = k
    · rw [if_pos h]
      simp [h]
    · rw [if_neg h, List.map_cons, List.mem_cons, ih, List.map_cons, List.mem_cons]
      constructor
      · rintro (h1 | h1 | h1)
        · exact Or.inr (Or.inl h1)
        · exact Or.inl h1
        · exact Or.inr (Or.inr h1)
      · rintro (h1 | h1 | h1)
        · exact Or.inr (Or.inl h1)
        · exact Or.inl h1
        · exact Or.inr (Or.inr h1)

theorem nodup_keys_assocSet {k : K} {v : V} {es : List (K × V)}
    (h : (es.map Prod.fst).Nodup) : ((assocSet k v es).map Prod.fst).Nodup := by
  induction es with
  | nil => simp [assocSet_nil]
  | cons e es ih =>
    rw [List.map_cons, List.nodup_cons] at h
    rw [assocSet_cons]
    by_cases he : e.1 = k
    · rw [if_pos he, List.map_cons, List.nodup_cons, ← he]
      exact h
    · rw [if_neg he, List.map_cons, List.nodup_cons, mem_keys_assocSet]
      refine ⟨?_, ih h.2⟩
      rintro (h1 | h1)
      · exact he h1
      · exact h.1 h1

/-! ## Dictionaries -/

/-- **An insertion-ordered dictionary**: entries in insertion order, no key twice. -/
structure Dict (K V : Type) where
  entries : List (K × V)
  nodup : (entries.map Prod.fst).Nodup

namespace Dict

/-- `{}`. -/
def empty : Dict K V := ⟨[], List.nodup_nil⟩

/-- `d.get(k)`. -/
def get? (d : Dict K V) (k : K) : Option V := assocGet k d.entries

/-- `k in d`. -/
def contains (d : Dict K V) (k : K) : Bool := (d.get? k).isSome

/-- `list(d)`. -/
def keys (d : Dict K V) : List K := d.entries.map Prod.fst

/-- `d[k] = v`. -/
def set (d : Dict K V) (k : K) (v : V) : Dict K V :=
  ⟨assocSet k v d.entries, nodup_keys_assocSet d.nodup⟩

/-- `d.pop(k, None)`. -/
def erase (d : Dict K V) (k : K) : Dict K V :=
  ⟨d.entries.filter (fun e => e.1 ≠ k), d.nodup.sublist (List.filter_sublist.map _)⟩

/-- `{k: v for k, v in d.items() if p(k)}`. -/
def filterKeys (d : Dict K V) (p : K → Bool) : Dict K V :=
  ⟨d.entries.filter (fun e => p e.1), d.nodup.sublist (List.filter_sublist.map _)⟩

/-- `len(d)`. -/
def size (d : Dict K V) : Nat := d.entries.length

/-- `dict.setdefault(k, v)`. -/
def setDefault (d : Dict K V) (k : K) (v : V) : Dict K V :=
  match d.get? k with
  | some _ => d
  | none => d.set k v

/-- The dictionary an entry list builds, later entries overwriting earlier ones. -/
def ofList (es : List (K × V)) : Dict K V := es.foldl (fun d e => d.set e.1 e.2) empty

theorem get?_set (d : Dict K V) (k k' : K) (v : V) :
    (d.set k v).get? k' = if k = k' then some v else d.get? k' :=
  assocGet_set k k' v d.entries

@[simp] theorem get?_set_self (d : Dict K V) (k : K) (v : V) : (d.set k v).get? k = some v := by
  rw [get?_set, if_pos rfl]

theorem get?_eq_none_iff {d : Dict K V} {k : K} : d.get? k = none ↔ k ∉ d.keys :=
  assocGet_eq_none_iff

theorem mem_keys_iff {d : Dict K V} {k : K} : k ∈ d.keys ↔ ∃ v, d.get? k = some v := by
  rw [← Option.ne_none_iff_exists', Ne, get?_eq_none_iff, Classical.not_not]

theorem contains_iff {d : Dict K V} {k : K} : d.contains k = true ↔ k ∈ d.keys := by
  rw [mem_keys_iff, contains, Option.isSome_iff_exists]

theorem mem_entries_of_get? {d : Dict K V} {k : K} {v : V} (h : d.get? k = some v) :
    (k, v) ∈ d.entries := mem_of_assocGet h

/-- A key occurs once, so the entry a lookup finds is THE entry with that key. -/
theorem get?_eq_some_iff {d : Dict K V} {k : K} {v : V} :
    d.get? k = some v ↔ (k, v) ∈ d.entries := by
  refine ⟨mem_entries_of_get?, ?_⟩
  obtain ⟨es, hnd⟩ := d
  show (k, v) ∈ es → assocGet k es = some v
  induction es with
  | nil => simp
  | cons e es ih =>
    rw [List.map_cons, List.nodup_cons] at hnd
    intro hm
    rw [assocGet_cons]
    rcases List.mem_cons.mp hm with he | hm
    · rw [← he, if_pos rfl]
    · have hne : e.1 ≠ k := by
        intro hk
        exact hnd.1 (hk ▸ List.mem_map.mpr ⟨(k, v), hm, rfl⟩)
      rw [if_neg hne]
      exact ih hnd.2 hm

omit [DecidableEq K] in
theorem nodup_keys (d : Dict K V) : d.keys.Nodup := d.nodup

omit [DecidableEq K] in
theorem length_keys (d : Dict K V) : d.keys.length = d.size := List.length_map _

theorem get?_filterKeys (d : Dict K V) (p : K → Bool) (k : K) :
    (d.filterKeys p).get? k = if p k = true then d.get? k else none := by
  apply Option.ext
  intro v
  have hfilter : (d.filterKeys p).get? k = some v ↔ (k, v) ∈ d.entries ∧ p k = true := by
    rw [get?_eq_some_iff]
    exact List.mem_filter
  rw [hfilter]
  by_cases hp : p k = true
  · rw [if_pos hp, get?_eq_some_iff]
    exact and_iff_left hp
  · rw [if_neg hp]
    constructor
    · exact fun h => absurd h.2 hp
    · intro h
      cases h

theorem keys_set {d : Dict K V} {k k' : K} {v : V} :
    k' ∈ (d.set k v).keys ↔ k' = k ∨ k' ∈ d.keys := mem_keys_assocSet

/-- A fresh key comes last. -/
theorem entries_set_of_not_mem {d : Dict K V} {k : K} {v : V} (h : k ∉ d.keys) :
    (d.set k v).entries = d.entries ++ [(k, v)] := by
  have happend : ∀ es : List (K × V), k ∉ es.map Prod.fst → assocSet k v es = es ++ [(k, v)] := by
    intro es
    induction es with
    | nil => exact fun _ => rfl
    | cons e es ih =>
      intro hes
      rw [List.map_cons, List.mem_cons, not_or] at hes
      rw [assocSet_cons, if_neg fun heq => hes.1 heq.symm, ih hes.2]
      rfl
  exact happend d.entries h

theorem get?_erase (d : Dict K V) (k k' : K) :
    (d.erase k).get? k' = if k = k' then none else d.get? k' := by
  by_cases h : k = k'
  · rw [if_pos h, get?_eq_none_iff]
    subst h
    simp [keys, erase]
  · rw [if_neg h]
    apply Option.ext
    intro v
    rw [get?_eq_some_iff, get?_eq_some_iff]
    simp [erase, Ne.symm h]

theorem get?_foldl_set (es : List (K × V)) (d : Dict K V) (k : K) :
    (es.foldl (fun d e => d.set e.1 e.2) d).get? k = ((ofList es).get? k).or (d.get? k) := by
  induction es generalizing d with
  | nil => rfl
  | cons e es ih =>
    have hcons : (ofList (e :: es)).get? k = ((ofList es).get? k).or ((empty.set e.1 e.2).get? k) :=
      ih (empty.set e.1 e.2)
    rw [List.foldl_cons, ih, hcons, get?_set, get?_set, Option.or_assoc]
    by_cases h : e.1 = k
    · rw [if_pos h, if_pos h]
      rfl
    · rw [if_neg h, if_neg h]
      rfl

/-- Of two entry lists the later one wins. -/
theorem get?_ofList_append (es es' : List (K × V)) (k : K) :
    (ofList (es ++ es')).get? k = ((ofList es').get? k).or ((ofList es).get? k) := by
  rw [ofList, List.foldl_append, get?_foldl_set]
  rfl

/-- **The last entry wins**: a lookup in the dictionary of an entry list is one in the reversed list. -/
theorem get?_ofList (es : List (K × V)) (k : K) : (ofList es).get? k = assocGet k es.reverse := by
  induction es with
  | nil => rfl
  | cons e es ih =>
    rw [List.reverse_cons, assocGet_append, ← ih]
    exact get?_ofList_append [e] es k

end Dict

/-! ## Order-keeping removal of duplicates -/

/-- `list(dict.fromkeys(xs))`: each element once, where it first occurs. -/
def fromKeys : List K → List K
  | [] => []
  | x :: xs => x :: (fromKeys xs).filter (fun y => y ≠ x)

theorem fromKeys_nil : fromKeys ([] : List K) = [] := rfl

theorem fromKeys_cons (x : K) (xs : List K) :
    fromKeys (x :: xs) = x :: (fromKeys xs).filter (fun y => y ≠ x) := rfl

@[simp] theorem mem_fromKeys {x : K} {xs : List K} : x ∈ fromKeys xs ↔ x ∈ xs := by
  induction xs with
  | nil => simp [fromKeys_nil]
  | cons y ys ih =>
    rw [fromKeys_cons, List.mem_cons, List.mem_filter, List.mem_cons, ih]
    by_cases h : x = y <;> simp [h]

theorem nodup_fromKeys (xs : List K) : (fromKeys xs).Nodup := by
  induction xs with
  | nil => exact List.nodup_nil
  | cons x xs ih =>
    rw [fromKeys_cons, List.nodup_cons]
    exact ⟨by simp, ih.sublist List.filter_sublist⟩

@[simp] theorem fromKeys_eq_nil {xs : List K} : fromKeys xs = [] ↔ xs = [] := by
  cases xs with
  | nil => simp [fromKeys_nil]
  | cons x xs => simp [fromKeys_cons]

theorem idxOf_cons_of_ne {x y : K} {xs : List K} (h : y ≠ x) :
    (x :: xs).idxOf y = xs.idxOf y + 1 := by
  rw [List.idxOf_cons, beq_eq_false_iff_ne.mpr (Ne.symm h)]
  rfl

/-- What is left stands in the order of first occurrence. -/
theorem pairwise_fromKeys (xs : List K) :
    (fromKeys xs).Pairwise fun x y => xs.idxOf x < xs.idxOf y := by
  induction xs with
  | nil => exact List.Pairwise.nil
  | cons x xs ih =>
    rw [fromKeys_cons]
    refine List.Pairwise.cons ?_ ?_
    · intro y hy
      have hne : y ≠ x := of_decide_eq_true (List.mem_filter.mp hy).2
      rw [List.idxOf_cons_self, idxOf_cons_of_ne hne]
      exact Nat.succ_pos _
    · refine (ih.filter _).imp_of_mem ?_
      intro y z hy hz hlt
      have hyx : y ≠ x := of_decide_eq_true (List.mem_filter.mp hy).2
      have hzx : z ≠ x := of_decide_eq_true (List.mem_filter.mp hz).2
      rw [idxOf_cons_of_ne hyx, idxOf_cons_of_ne hzx]
      exact Nat.succ_lt_succ hlt

/-- A list without duplicates that is as long as one containing it has all its elements. -/
theorem subset_of_nodup_of_length_le {xs ys : List K} (hnodup : xs.Nodup) (hsub : xs ⊆ ys)
    (hlen : ys.length ≤ xs.length) : ys ⊆ xs := by
  intro y hy
  apply Decidable.byContradiction
  intro hnot
  have hcons : (y :: xs).Nodup := List.nodup_cons.mpr ⟨hnot, hnodup⟩
  have hle := hcons.length_le_of_subset (List.cons_subset.mpr ⟨hy, hsub⟩)
  rw [List.length_cons] at hle
  omega

/-- One element is left exactly when all are the first. -/
theorem length_fromKeys_eq_one_iff {x : K} {xs : List K} :
    (fromKeys (x :: xs)).length = 1 ↔ ∀ y ∈ xs, y = x := by
  rw [fromKeys_cons, List.length_cons, Nat.succ_inj, List.length_eq_zero_iff, List.filter_eq_nil_iff]
  simp

/-- More than one element is left exactly when two are distinct. -/
theorem one_lt_length_fromKeys_iff {xs : List K} :
    1 < (fromKeys xs).length ↔ ∃ x ∈ xs, ∃ y ∈ xs, x ≠ y := by
  cases xs with
  | nil => simp [fromKeys_nil]
  | cons x xs =>
    have hpos : 0 < (fromKeys (x :: xs)).length := by
      rw [fromKeys_cons, List.length_cons]
      omega
    constructor
    · intro h
      have hne : ¬∀ y ∈ xs, y = x := fun hall => by
        have := length_fromKeys_eq_one_iff.mpr hall
        omega
      obtain ⟨y, hy⟩ := Classical.not_forall.mp hne
      obtain ⟨hy, hyx⟩ := Classical.not_imp.mp hy
      exact ⟨y, List.mem_cons_of_mem _ hy, x, List.mem_cons_self, hyx⟩
    · rintro ⟨a, ha, b, hb, hab⟩
      have hone : (fromKeys (x :: xs)).length ≠ 1 := by
        intro h
        have hall := length_fromKeys_eq_one_iff.mp h
        have heq : ∀ c ∈ x :: xs, c = x := List.forall_mem_cons.mpr ⟨rfl, hall⟩
        exact hab ((heq a ha).trans (heq b hb).symm)
      omega

end FlightSql.Lib
