/-
  C3 LINEARIZATION — the order in which a class with several bases is looked up.

  `merge` takes, one after the other, the first head of a sequence that stands in the tail of none, and
  fails where there is no such head.  It loses nothing, so its turns suffice, and adds nothing:
  `mem_merge_iff`.

  Mathlib-free.
-/

set_option linter.unusedVariables false

namespace FlightSql.Lib.Linearization

variable {α : Type}

/-- How much there is to take. -/
def size (seqs : List (List α)) : Nat := seqs.flatten.length

theorem size_cons (seq : List α) (seqs : List (List α)) : size (seq :: seqs) = seq.length + size seqs :=
  List.length_append

theorem length_le_size {seqs : List (List α)} {seq : List α} (h : seq ∈ seqs) : seq.length ≤ size seqs := by
  induction seqs with
  | nil => cases h
  | cons first rest ih =>
    rw [size_cons]
    rcases List.mem_cons.mp h with rfl | h
    · exact Nat.le_add_right _ _
    · exact Nat.le_trans (ih h) (Nat.le_add_left _ _)

variable [DecidableEq α]

/-- The first head that stands in no tail. -/
def candidate (seqs : List (List α)) : Option α :=
  (seqs.filterMap List.head?).find? fun c => seqs.all fun seq => c ∉ seq.tail

/-- The sequence without `c` at its head. -/
def dropHead (c : α) : List α → List α
  | [] => []
  | x :: xs => if x = c then xs else x :: xs

/-- One candidate after the other, as long as there is something to take. -/
def mergeWith : Nat → List (List α) → Option (List α)
  | 0, _ => some []
  | fuel + 1, seqs =>
    if seqs.all List.isEmpty then some []
    else do
      let c ← candidate seqs
      let rest ← mergeWith fuel (seqs.map (dropHead c))
      some (c :: rest)

/-- **The merge of sequences**; every turn takes at least one element. -/
def merge (seqs : List (List α)) : Option (List α) := mergeWith (size seqs) seqs

/-! ## What is merged -/

theorem mem_of_mem_dropHead {c x : α} {seq : List α} (h : x ∈ dropHead c seq) : x ∈ seq := by
  cases seq with
  | nil => exact h
  | cons y ys =>
    rw [dropHead] at h
    split at h
    · exact List.mem_cons_of_mem y h
    · exact h

theorem mem_dropHead {c x : α} {seq : List α} (h : x ∈ seq) : x = c ∨ x ∈ dropHead c seq := by
  cases seq with
  | nil => exact Or.inr h
  | cons y ys =>
    rw [dropHead]
    by_cases hy : y = c
    · rw [if_pos hy]
      rcases List.mem_cons.mp h with rfl | h
      · exact Or.inl hy
      · exact Or.inr h
    · rw [if_neg hy]
      exact Or.inr h

theorem length_dropHead_le (c : α) (seq : List α) : (dropHead c seq).length ≤ seq.length := by
  cases seq with
  | nil => exact Nat.le_refl 0
  | cons y ys =>
    rw [dropHead]
    split
    · exact Nat.le_succ ys.length
    · exact Nat.le_refl _

/-- A candidate is the head of a sequence. -/
theorem candidate_head {seqs : List (List α)} {c : α} (h : candidate seqs = some c) :
    ∃ seq ∈ seqs, ∃ rest, seq = c :: rest := by
  obtain ⟨seq, hseq, hhead⟩ := List.mem_filterMap.mp (List.mem_of_find?_eq_some h)
  obtain ⟨rest, hrest⟩ := List.head?_eq_some_iff.mp hhead
  exact ⟨seq, hseq, rest, hrest⟩

/-- Taking a head leaves less. -/
theorem size_dropHead_lt {seqs : List (List α)} {c : α} (h : ∃ seq ∈ seqs, ∃ rest, seq = c :: rest) :
    size (seqs.map (dropHead c)) < size seqs := by
  have hle : ∀ seqs : List (List α), size (seqs.map (dropHead c)) ≤ size seqs := by
    intro seqs
    induction seqs with
    | nil => exact Nat.le_refl 0
    | cons seq seqs ih =>
      rw [List.map_cons, size_cons, size_cons]
      exact Nat.add_le_add (length_dropHead_le c seq) ih
  induction seqs with
  | nil =>
    obtain ⟨seq, hseq, -⟩ := h
    cases hseq
  | cons seq seqs ih =>
    obtain ⟨head, hhead, rest, hrest⟩ := h
    rw [List.map_cons, size_cons, size_cons]
    rcases List.mem_cons.mp hhead with rfl | hhead
    · have hshort : (dropHead c head).length < head.length := by
        rw [hrest, dropHead, if_pos rfl]
        exact Nat.lt_succ_self rest.length
      exact Nat.add_lt_add_of_lt_of_le hshort (hle seqs)
    · exact Nat.add_lt_add_of_le_of_lt (length_dropHead_le c seq) (ih ⟨head, hhead, rest, hrest⟩)

/-- One turn. -/
theorem mergeWith_succ {fuel : Nat} {seqs : List (List α)} {out : List α}
    (h : mergeWith (fuel + 1) seqs = some out) :
    (seqs.all List.isEmpty = true ∧ out = []) ∨ ∃ c rest, candidate seqs = some c ∧
      mergeWith fuel (seqs.map (dropHead c)) = some rest ∧ out = c :: rest := by
  rw [mergeWith] at h
  by_cases hempty : seqs.all List.isEmpty = true
  · rw [if_pos hempty] at h
    exact Or.inl ⟨hempty, (Option.some.inj h).symm⟩
  · rw [if_neg hempty] at h
    obtain ⟨c, hc, h⟩ := Option.bind_eq_some_iff.mp h
    obtain ⟨rest, hrest, h⟩ := Option.bind_eq_some_iff.mp h
    exact Or.inr ⟨c, rest, hc, hrest, (Option.some.inj h).symm⟩

/-- Nothing is added. -/
theorem mem_of_mem_mergeWith {fuel : Nat} {seqs : List (List α)} {out : List α}
    (h : mergeWith fuel seqs = some out) {x : α} (hx : x ∈ out) : ∃ seq ∈ seqs, x ∈ seq := by
  induction fuel generalizing seqs out with
  | zero =>
    cases h
    cases hx
  | succ fuel ih =>
    rcases mergeWith_succ h with ⟨-, rfl⟩ | ⟨c, rest, hc, hrest, rfl⟩
    · cases hx
    · rcases List.mem_cons.mp hx with rfl | hx
      · obtain ⟨seq, hseq, tail, rfl⟩ := candidate_head hc
        exact ⟨_, hseq, List.mem_cons_self⟩
      · obtain ⟨seq, hseq, hmem⟩ := ih hrest hx
        obtain ⟨seq', hseq', rfl⟩ := List.mem_map.mp hseq
        exact ⟨seq', hseq', mem_of_mem_dropHead hmem⟩

/-- Nothing is lost, with enough turns. -/
theorem mem_mergeWith_of_mem {fuel : Nat} {seqs : List (List α)} {out : List α} (hfuel : size seqs ≤ fuel)
    (h : mergeWith fuel seqs = some out) {seq : List α} (hseq : seq ∈ seqs) {x : α} (hx : x ∈ seq) :
    x ∈ out := by
  induction fuel generalizing seqs out seq with
  | zero =>
    have hlength := length_le_size hseq
    have hpos : 0 < seq.length := List.length_pos_of_mem hx
    omega
  | succ fuel ih =>
    rcases mergeWith_succ h with ⟨hempty, rfl⟩ | ⟨c, rest, hc, hrest, rfl⟩
    · have hnil := List.isEmpty_iff.mp (List.all_eq_true.mp hempty seq hseq)
      rw [hnil] at hx
      cases hx
    · rcases mem_dropHead (c := c) hx with rfl | hx
      · exact List.mem_cons_self
      · have hless := size_dropHead_lt (candidate_head hc)
        have hmem := ih (by omega) hrest (List.mem_map.mpr ⟨seq, hseq, rfl⟩) hx
        exact List.mem_cons_of_mem c hmem

/-- **The merge has exactly the elements of the sequences.** -/
theorem mem_merge_iff {seqs : List (List α)} {out : List α} (h : merge seqs = some out) (x : α) :
    x ∈ out ↔ ∃ seq ∈ seqs, x ∈ seq := by
  constructor
  · exact mem_of_mem_mergeWith h
  · rintro ⟨seq, hseq, hx⟩
    exact mem_mergeWith_of_mem (Nat.le_refl _) h hseq hx

end FlightSql.Lib.Linearization
