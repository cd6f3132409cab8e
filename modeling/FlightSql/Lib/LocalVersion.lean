/-
  LOCAL VERSION SEGMENTS of PEP 440 — the grammar `[a-z0-9]+(?:[-_.][a-z0-9]+)*`, letters in either case,
  and the normal form: lower case, `.` between the components, no leading zeros in a component of digits.

  A segment is what its COMPONENTS are, the texts between separators: it matches if every component is a
  nonempty alphanumeric text (`matches_iff`), and is a normal form if besides nothing but `.` separates
  them and every component is normal (`canonical_iff`).

  Mathlib-free.
-/

set_option linter.unusedVariables false

namespace FlightSql.Lib.LocalVersion

/-- `[-_.]`. -/
def isSeparator (c : Char) : Bool := c = '.' || c = '-' || c = '_'

/-- **The grammar.** -/
inductive Matches : List Char → Prop where
  | component {cs : List Char} (hne : cs ≠ []) (halnum : ∀ c ∈ cs, c.isAlphanum = true) : Matches cs
  | more {cs rest : List Char} {sep : Char} (hne : cs ≠ []) (halnum : ∀ c ∈ cs, c.isAlphanum = true)
      (hsep : isSeparator sep = true) (hrest : Matches rest) : Matches (cs ++ sep :: rest)

/-- The texts between separators. -/
def components (cs : List Char) : List (List Char) := cs.splitOnP isSeparator

/-- The digits of the number without its leading zeros. -/
def stripZeros : List Char → List Char
  | '0' :: c :: cs => stripZeros (c :: cs)
  | cs => cs

/-- The normal form of a component: `str(int(part))` of digits, else `part.lower()`. -/
def normalComponent (cs : List Char) : List Char :=
  if cs.all Char.isDigit then stripZeros cs else cs.map Char.toLower

/-- **The normal form.** -/
def normalForm (cs : List Char) : List Char := ['.'].intercalate ((components cs).map normalComponent)

/-! ## Components -/

/-- A lower-case ASCII letter or a digit, `[a-z0-9]`. -/
def isLowerAlnum (c : Char) : Bool := c.isLower || c.isDigit

theorem isSeparator_of_isAlphanum {c : Char} (h : c.isAlphanum = true) : isSeparator c = false := by
  have hne : c ≠ '.' ∧ c ≠ '-' ∧ c ≠ '_' := by
    refine ⟨?_, ?_, ?_⟩ <;> rintro rfl <;> revert h <;> decide
  simp [isSeparator, hne]

theorem isAlphanum_of_isLowerAlnum {c : Char} (h : isLowerAlnum c = true) : c.isAlphanum = true := by
  rcases Bool.or_eq_true_iff.mp h with hlower | hdigit
  · exact Bool.or_eq_true_iff.mpr (Or.inl (Bool.or_eq_true_iff.mpr (Or.inr hlower)))
  · exact Bool.or_eq_true_iff.mpr (Or.inr hdigit)

/-- A text without separators is its one component. -/
theorem components_singleton {cs : List Char} (h : ∀ c ∈ cs, isSeparator c = false) :
    components cs = [cs] := List.splitOnP_eq_singleton h

/-- The first component ends at the first separator. -/
theorem components_append {cs : List Char} (h : ∀ c ∈ cs, isSeparator c = false) {sep : Char}
    (hsep : isSeparator sep = true) (rest : List Char) :
    components (cs ++ sep :: rest) = cs :: components rest :=
  List.splitOnP_append_cons_of_forall_mem h sep hsep rest

/-- A text has no separator, or a first one. -/
theorem separator_cases (cs : List Char) :
    (∀ c ∈ cs, isSeparator c = false) ∨ ∃ before sep rest, cs = before ++ sep :: rest ∧
      (∀ c ∈ before, isSeparator c = false) ∧ isSeparator sep = true := by
  induction cs with
  | nil => exact Or.inl fun c hc => by cases hc
  | cons d cs ih =>
    cases hd : isSeparator d with
    | true => exact Or.inr ⟨[], d, cs, rfl, fun c hc => (by cases hc), hd⟩
    | false =>
      rcases ih with hnone | ⟨before, sep, rest, rfl, hbefore, hsep⟩
      · exact Or.inl (List.forall_mem_cons.mpr ⟨hd, hnone⟩)
      · exact Or.inr ⟨d :: before, sep, rest, rfl, List.forall_mem_cons.mpr ⟨hd, hbefore⟩, hsep⟩

/-- **A segment matches** if every component is a nonempty alphanumeric text. -/
theorem matches_iff (cs : List Char) :
    Matches cs ↔ ∀ component ∈ components cs, component ≠ [] ∧ ∀ c ∈ component, c.isAlphanum = true := by
  constructor
  · intro h
    induction h with
    | component hne halnum =>
      rw [components_singleton fun c hc => isSeparator_of_isAlphanum (halnum c hc)]
      exact List.forall_mem_singleton.mpr ⟨hne, halnum⟩
    | more hne halnum hsep hrest ih =>
      rw [components_append (fun c hc => isSeparator_of_isAlphanum (halnum c hc)) hsep]
      exact List.forall_mem_cons.mpr ⟨⟨hne, halnum⟩, ih⟩
  · intro h
    induction hlength : cs.length using Nat.strongRecOn generalizing cs with
    | ind n ih =>
      rcases separator_cases cs with hnone | ⟨before, sep, rest, rfl, hbefore, hsep⟩
      · rw [components_singleton hnone] at h
        obtain ⟨hne, halnum⟩ := List.forall_mem_singleton.mp h
        exact .component hne halnum
      · rw [components_append hbefore hsep] at h
        obtain ⟨⟨hne, halnum⟩, hrest⟩ := List.forall_mem_cons.mp h
        have hshorter : rest.length < n := by
          rw [← hlength, List.length_append, List.length_cons]
          omega
        exact .more hne halnum hsep (ih rest.length hshorter rest hrest rfl)

/-- The components of components put together. -/
theorem components_intercalate {parts : List (List Char)} (hne : parts ≠ [])
    (h : ∀ part ∈ parts, ∀ c ∈ part, isSeparator c = false) :
    components (['.'].intercalate parts) = parts := by
  induction parts with
  | nil => exact absurd rfl hne
  | cons part parts ih =>
    obtain ⟨hpart, hparts⟩ := List.forall_mem_cons.mp h
    cases parts with
    | nil =>
      rw [List.intercalate_singleton]
      exact components_singleton hpart
    | cons next rest =>
      rw [List.intercalate_cons_cons, List.append_assoc, List.singleton_append,
        components_append hpart (by decide), ih (List.cons_ne_nil next rest) hparts]

/-- Where nothing but `.` separates, putting the components together is undone. -/
theorem intercalate_components {cs : List Char} (h : ∀ c ∈ cs, c ≠ '-' ∧ c ≠ '_') :
    ['.'].intercalate (components cs) = cs := by
  have hsplit : components cs = cs.splitOn '.' := by
    rw [components, List.splitOn_eq_splitOnP]
    induction cs with
    | nil => rfl
    | cons c cs ih =>
      obtain ⟨⟨hdash, hunderscore⟩, hrest⟩ := List.forall_mem_cons.mp h
      have hsame : isSeparator c = (c == '.') := by
        rw [isSeparator, decide_eq_false hdash, decide_eq_false hunderscore, Bool.or_false, Bool.or_false]
        rfl
      rw [List.splitOnP_cons_eq_if_modifyHead, List.splitOnP_cons_eq_if_modifyHead, ih hrest, hsame]
  rw [hsplit, List.intercalate_splitOn]

/-! ## Normal components -/

/-- **A normal component**: a nonempty text of lower-case letters and digits, without a leading zero if it
    is of digits. -/
structure Plain (component : List Char) : Prop where
  nonempty : component ≠ []
  chars : ∀ c ∈ component, isLowerAlnum c = true
  number : component.all Char.isDigit = true → stripZeros component = component

/-- Only zeros go, in front. -/
theorem stripZeros_suffix (cs : List Char) : stripZeros cs <:+ cs := by
  fun_induction stripZeros cs with
  | case1 d cs ih => exact ih.trans (List.suffix_cons _ _)
  | case2 cs hother => exact List.suffix_rfl

theorem mem_of_mem_stripZeros {cs : List Char} {c : Char} (h : c ∈ stripZeros cs) : c ∈ cs :=
  (stripZeros_suffix cs).subset h

theorem stripZeros_ne_nil {cs : List Char} (h : cs ≠ []) : stripZeros cs ≠ [] := by
  fun_induction stripZeros cs with
  | case1 d cs ih => exact ih (List.cons_ne_nil d cs)
  | case2 cs hother => exact h

theorem stripZeros_stripZeros (cs : List Char) : stripZeros (stripZeros cs) = stripZeros cs := by
  fun_induction stripZeros cs with
  | case1 d cs ih => exact ih
  | case2 cs hother => exact stripZeros.eq_2 cs hother

theorem length_stripZeros_le (cs : List Char) : (stripZeros cs).length ≤ cs.length :=
  (stripZeros_suffix cs).length_le

/-- A zero with a character after it. -/
def leadingZero : List Char → Bool
  | '0' :: _ :: _ => true
  | _ => false

theorem stripZeros_eq_self_iff (cs : List Char) : stripZeros cs = cs ↔ leadingZero cs = false := by
  fun_cases leadingZero cs with
  | case1 d rest =>
    refine iff_of_false (fun h => ?_) (fun h => by cases h)
    have hlength := length_stripZeros_le (d :: rest)
    rw [stripZeros] at h
    rw [h, List.length_cons] at hlength
    omega
  | case2 cs hother => exact iff_of_true (stripZeros.eq_2 cs hother) rfl

/-! ### Letters by their code points -/

theorem isUpper_iff {c : Char} : c.isUpper = true ↔ 65 ≤ c.toNat ∧ c.toNat ≤ 90 :=
  decide_eq_true_iff.trans (and_congr UInt32.le_iff_toNat_le UInt32.le_iff_toNat_le)

theorem isLower_iff {c : Char} : c.isLower = true ↔ 97 ≤ c.toNat ∧ c.toNat ≤ 122 :=
  Bool.and_eq_true_iff.trans (and_congr (decide_eq_true_iff.trans UInt32.le_iff_toNat_le)
    (decide_eq_true_iff.trans UInt32.le_iff_toNat_le))

theorem isLowerAlnum_iff {c : Char} :
    isLowerAlnum c = true ↔ (97 ≤ c.toNat ∧ c.toNat ≤ 122) ∨ (48 ≤ c.toNat ∧ c.toNat ≤ 57) :=
  Bool.or_eq_true_iff.trans (or_congr isLower_iff Char.isDigit_iff_toNat)

theorem isAlphanum_iff {c : Char} :
    c.isAlphanum = true ↔ c.isUpper = true ∨ isLowerAlnum c = true := by
  have hsplit : c.isAlphanum = true ↔ (c.isUpper || c.isLower || c.isDigit) = true := Iff.rfl
  rw [hsplit, isLowerAlnum, Bool.or_assoc, Bool.or_eq_true_iff]

/-- 32 above a capital is the small letter. -/
theorem toNat_toLower {c : Char} (h : c.isUpper = true) : c.toLower.toNat = c.toNat + 32 := by
  have hlower : c.toLower.val = c.val + 32 := congrArg Char.val (dif_pos (of_decide_eq_true h))
  have hsmall := isUpper_iff.mp h
  show c.toLower.val.toNat = c.val.toNat + 32
  rw [hlower, UInt32.toNat_add]
  show (c.toNat + 32) % 2 ^ 32 = c.toNat + 32
  omega

theorem toLower_of_not_isUpper {c : Char} (h : ¬c.isUpper = true) : c.toLower = c :=
  dif_neg fun hupper => h (decide_eq_true hupper)

/-- Nothing to lower in an alphanumeric character that is lower-case or a digit. -/
theorem toLower_eq_self_iff_isLowerAlnum {c : Char} (halnum : c.isAlphanum = true) :
    c.toLower = c ↔ isLowerAlnum c = true := by
  by_cases hupper : c.isUpper = true
  · have hlower := toNat_toLower hupper
    have hrange := isUpper_iff.mp hupper
    rw [isLowerAlnum_iff]
    refine iff_of_false (fun h => ?_) ?_
    · rw [h] at hlower
      omega
    · omega
  · exact iff_of_true (toLower_of_not_isUpper hupper) ((isAlphanum_iff.mp halnum).resolve_left hupper)

theorem isAlphanum_toLower {c : Char} (halnum : c.isAlphanum = true) : c.toLower.isAlphanum = true := by
  by_cases hupper : c.isUpper = true
  · have hlower := toNat_toLower hupper
    have hrange := isUpper_iff.mp hupper
    refine isAlphanum_iff.mpr (Or.inr (isLowerAlnum_iff.mpr (Or.inl ?_)))
    omega
  · rw [toLower_of_not_isUpper hupper]
    exact halnum

/-! ### Normal components -/

/-- A component is its own normal form if it is normal. -/
theorem plain_iff {component : List Char} (hne : component ≠ [])
    (halnum : ∀ c ∈ component, c.isAlphanum = true) :
    Plain component ↔ normalComponent component = component := by
  rw [normalComponent]
  by_cases hdigits : component.all Char.isDigit = true
  · rw [if_pos hdigits]
    constructor
    · exact fun h => h.number hdigits
    · intro h
      refine ⟨hne, fun c hc => ?_, fun _ => h⟩
      exact Bool.or_eq_true_iff.mpr (Or.inr (List.all_eq_true.mp hdigits c hc))
  · rw [if_neg hdigits]
    constructor
    · intro h
      refine (List.map_congr_left fun c hc => ?_).trans (List.map_id component)
      exact (toLower_eq_self_iff_isLowerAlnum (halnum c hc)).mpr (h.chars c hc)
    · intro h
      have hfixed : ∀ c ∈ component, c.toLower = c :=
        List.map_eq_map_iff.mp (h.trans (List.map_id component).symm)
      exact ⟨hne, fun c hc => (toLower_eq_self_iff_isLowerAlnum (halnum c hc)).mp (hfixed c hc),
        fun hall => absurd hall hdigits⟩

/-! ## Canonical segments -/

/-- **A canonical segment** matches the grammar and is its own normal form. -/
structure Canonical (cs : List Char) : Prop where
  wellFormed : Matches cs
  normal : normalForm cs = cs

/-- What a normal component is of. -/
theorem isAlphanum_normalComponent {component : List Char} (halnum : ∀ c ∈ component, c.isAlphanum = true) :
    ∀ c ∈ normalComponent component, c.isAlphanum = true := by
  intro c hc
  rw [normalComponent] at hc
  by_cases hdigits : component.all Char.isDigit = true
  · rw [if_pos hdigits] at hc
    exact halnum c (mem_of_mem_stripZeros hc)
  · rw [if_neg hdigits] at hc
    obtain ⟨d, hd, rfl⟩ := List.mem_map.mp hc
    exact isAlphanum_toLower (halnum d hd)

/-- What stands in components put together stands in one of them, or is the `.` between two. -/
theorem mem_intercalate {parts : List (List Char)} {c : Char} (h : c ∈ ['.'].intercalate parts) :
    c = '.' ∨ ∃ part ∈ parts, c ∈ part := by
  induction parts with
  | nil => cases h
  | cons part parts ih =>
    cases parts with
    | nil =>
      rw [List.intercalate_singleton] at h
      exact Or.inr ⟨part, List.mem_cons_self, h⟩
    | cons next rest =>
      rw [List.intercalate_cons_cons, List.append_assoc, List.singleton_append] at h
      rcases List.mem_append.mp h with h | h
      · exact Or.inr ⟨part, List.mem_cons_self, h⟩
      · rcases List.mem_cons.mp h with h | h
        · exact Or.inl h
        · rcases ih h with h | ⟨p, hp, h⟩
          · exact Or.inl h
          · exact Or.inr ⟨p, List.mem_cons_of_mem part hp, h⟩

/-- The components of a normal form. -/
theorem components_normalForm {cs : List Char} (h : Matches cs) :
    components (normalForm cs) = (components cs).map normalComponent := by
  have halnum := (matches_iff cs).mp h
  refine components_intercalate (fun hnil => List.splitOnP_ne_nil _ cs (List.map_eq_nil_iff.mp hnil)) ?_
  intro part hpart c hc
  obtain ⟨component, hcomponent, rfl⟩ := List.mem_map.mp hpart
  exact isSeparator_of_isAlphanum (isAlphanum_normalComponent (halnum component hcomponent).2 c hc)

/-- **Canonical** is: nothing but `.` between normal components. -/
theorem canonical_iff (cs : List Char) :
    Canonical cs ↔ (∀ c ∈ cs, c ≠ '-' ∧ c ≠ '_') ∧ ∀ component ∈ components cs, Plain component := by
  constructor
  · rintro ⟨hmatches, hnormal⟩
    have halnum := (matches_iff cs).mp hmatches
    have hparts := components_normalForm hmatches
    rw [hnormal] at hparts
    have hfixed : ∀ component ∈ components cs, normalComponent component = component :=
      List.map_eq_map_iff.mp (hparts.symm.trans (List.map_id _).symm)
    refine ⟨fun c hc => ?_, fun component hcomponent => ?_⟩
    · rw [← hnormal] at hc
      rcases mem_intercalate hc with rfl | ⟨part, hpart, hc⟩
      · decide
      · rw [← hparts] at hpart
        have hsep := isSeparator_of_isAlphanum ((halnum part hpart).2 c hc)
        constructor <;> rintro rfl <;> cases hsep
    · obtain ⟨hne, hchars⟩ := halnum component hcomponent
      exact (plain_iff hne hchars).mpr (hfixed component hcomponent)
  · rintro ⟨hdots, hplain⟩
    have halnum : ∀ component ∈ components cs, component ≠ [] ∧ ∀ c ∈ component, c.isAlphanum = true :=
      fun component hcomponent => ⟨(hplain component hcomponent).nonempty, fun c hc =>
        isAlphanum_of_isLowerAlnum ((hplain component hcomponent).chars c hc)⟩
    refine ⟨(matches_iff cs).mpr halnum, ?_⟩
    have hfixed : (components cs).map normalComponent = components cs := by
      refine (List.map_congr_left fun component hcomponent => ?_).trans (List.map_id _)
      obtain ⟨hne, hchars⟩ := halnum component hcomponent
      exact (plain_iff hne hchars).mp (hplain component hcomponent)
    rw [normalForm, hfixed, intercalate_components hdots]

end FlightSql.Lib.LocalVersion
