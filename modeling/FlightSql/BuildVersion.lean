/-
  The build version — "Resolve version" of the Jenkinsfile, for every build but one of main.

  THE CODE rewrites the branch name and the commit id into a local version segment, by one chain of
  replacements for a pull request and another for any other branch.

  WHAT IT IS FOR: the segment is a canonical one, so that the file names predicted are those the build
  backend writes (`PredictsArtifacts`).

  1. **The chains** — `separatorsToDots` for a pull request; `othersToDot`, `trimDots` and
     `stripNumericZeros` for a branch.

  2. **A branch** (`branchSegment_canonical`) — runs of other characters become single dots (`Dotted`), of
     which the last goes; then the zeros go.

  3. **A pull request** (`resolveVersion_predictsArtifacts_iff`) — nothing is done about zeros or about
     characters other than `-` and `_`, so the prediction is right exactly if there is nothing to do.

  Mathlib-free.
-/
import FlightSql.Lib.LocalVersion

set_option linter.unusedVariables false

namespace FlightSql

open Lib.LocalVersion

/-! ## The source functions -/

/-- `env`: the branch, and the change a pull-request build is of. -/
structure BuildEnv where
  changeId : Option String
  branchName : String

/-- `isPullRequest`; an empty string is false in Groovy. -/
def BuildEnv.isPullRequest (env : BuildEnv) : Bool :=
  env.changeId.getD "" ≠ "" || "PR-".toList.isPrefixOf env.branchName.toList

/-- `isMain`. -/
def BuildEnv.isMain (env : BuildEnv) : Bool := env.branchName = "main" && !env.isPullRequest

/-- `.replaceAll(/[-_]/, '.')`. -/
def separatorsToDots (cs : List Char) : List Char := cs.map fun c => if c = '-' ∨ c = '_' then '.' else c

/-- `.replaceAll(/[^a-z0-9]+/, '.')`, in a run of such characters or not. -/
def othersToDot (inRun : Bool) : List Char → List Char
  | [] => []
  | c :: cs =>
    if isLowerAlnum c then c :: othersToDot false cs
    else if inRun then othersToDot true cs
    else '.' :: othersToDot true cs

/-- The match of `^\.` gone. -/
def trimFirstDot : List Char → List Char
  | '.' :: cs => cs
  | cs => cs

/-- The match of `\.$` gone. -/
def trimLastDot : List Char → List Char
  | [] => []
  | c :: cs => if c = '.' ∧ cs = [] then [] else c :: trimLastDot cs

/-- `.replaceAll(/^\.|\.$/, '')`. -/
def trimDots (cs : List Char) : List Char := trimLastDot (trimFirstDot cs)

/-- What the next replacement makes of the text between two dots: of digits, it loses the zeros that have
    a digit after them. -/
def stripNumber (cs : List Char) : List Char := if cs.all Char.isDigit then stripZeros cs else cs

/-- `.replaceAll(/(^|\.)0+(?=[0-9]+(\.|$))/, '$1')`. -/
def stripNumericZeros (cs : List Char) : List Char := ['.'].intercalate ((cs.splitOn '.').map stripNumber)

variable (toLowerCase : String → String)

/-- The local segment of a pull request. -/
def pullRequestSegment (env : BuildEnv) (shortGitRev : String) : String :=
  String.ofList (separatorsToDots (toLowerCase (env.branchName ++ "." ++ shortGitRev)).toList)

/-- The local segment of another branch. -/
def branchSegment (env : BuildEnv) (shortGitRev : String) : String :=
  String.ofList (stripNumericZeros (trimDots (othersToDot false
    (toLowerCase ("branch." ++ env.branchName ++ "." ++ shortGitRev)).toList)))

/-- `publishVersion`. -/
def publishVersion (env : BuildEnv) (shortGitRev baseVersion : String) : String :=
  if env.isPullRequest then baseVersion ++ "+" ++ pullRequestSegment toLowerCase env shortGitRev
  else if !env.isMain then baseVersion ++ "+" ++ branchSegment toLowerCase env shortGitRev
  else baseVersion

/-- **"Resolve version"**: the version, or the message of `error`. -/
def resolveVersion (env : BuildEnv) (shortGitRev baseVersion : String) : Except String String := do
  if baseVersion = "" then
    .error "Could not read version from pyproject.toml"
  let version := publishVersion toLowerCase env shortGitRev baseVersion
  if !env.isMain ∧ version = baseVersion then
    .error ("Refusing to build stable version " ++ baseVersion ++ " from branch '" ++ env.branchName
      ++ "'. Stable releases are published only from main.")
  if env.isPullRequest ∧ '+' ∉ version.toList then
    .error ("PR build produced a non-local version " ++ version ++ "; refusing.")
  .ok version

/-- `wheelName`. -/
def wheelName (publishVersion : String) : String :=
  "flightsql_dbapi-" ++ publishVersion ++ "-py3-none-any.whl"

/-- `sdistName`. -/
def sdistName (publishVersion : String) : String := "flightsql_dbapi-" ++ publishVersion ++ ".tar.gz"

/-! ## What is asked of the prediction -/

/-- An ASCII character whose lower case does not depend on the locale. -/
def isPlainAscii (c : Char) : Bool := c.toNat < 128 && c ≠ 'I'

/-- **What is documented of Java's `String.toLowerCase`** in every locale: ASCII texts without a capital I
    are lowered letter by letter, and lower-case letters, digits and dots stay as they are. -/
structure LowersAscii : Prop where
  ascii : ∀ text : String, text.toList.all isPlainAscii = true →
    (toLowerCase text).toList = text.toList.map Char.toLower
  keeps : ∀ start rest : String, (start.toList.all fun c => isLowerAlnum c || c = '.') = true →
    ∃ lowered, (toLowerCase (start ++ rest)).toList = start.toList ++ lowered

/-- **The backend writes the normal form**: with this base version, of a local segment that matches the
    grammar. -/
def WritesNormalForm (backend : String → String) (baseVersion : String) : Prop :=
  ∀ segment : String, Matches segment.toList →
    backend (baseVersion ++ "+" ++ segment) = baseVersion ++ "+" ++ String.ofList (normalForm segment.toList)

/-- **The prediction is right**: the version is the base version with a canonical local segment, and the
    file names are those of the version the backend writes. -/
def PredictsArtifacts (backend : String → String) (baseVersion : String) (outcome : Except String String) :
    Prop :=
  ∃ segment : String, outcome = .ok (baseVersion ++ "+" ++ segment) ∧ Canonical segment.toList ∧
    wheelName (baseVersion ++ "+" ++ segment) = wheelName (backend (baseVersion ++ "+" ++ segment)) ∧
    sdistName (baseVersion ++ "+" ++ segment) = sdistName (backend (baseVersion ++ "+" ++ segment))

/-! ## A branch -/

/-- **A dotted text**: lower-case letters and digits, with single dots between and perhaps one before; at
    the start of a component or not. -/
inductive Dotted : Bool → List Char → Prop where
  | done : Dotted false []
  | char {start : Bool} {c : Char} {cs : List Char} (hc : isLowerAlnum c = true) (h : Dotted false cs) :
      Dotted start (c :: cs)
  | dot {cs : List Char} (h : Dotted true cs) : Dotted false ('.' :: cs)

variable {toLowerCase}

theorem ne_dot_of_isLowerAlnum {c : Char} (h : isLowerAlnum c = true) : c ≠ '.' := by
  rintro rfl
  cases h

/-- **One dot for a run**, and none at the end. -/
theorem dotted_othersToDot (cs : List Char) :
    Dotted false (trimLastDot (othersToDot false cs)) ∧
      (othersToDot true cs = [] ∨ Dotted true (trimLastDot (othersToDot true cs))) := by
  induction cs with
  | nil => exact ⟨.done, Or.inl rfl⟩
  | cons c cs ih =>
    obtain ⟨hfree, hrun⟩ := ih
    cases hc : isLowerAlnum c with
    | true =>
      have hstep : ∀ inRun start, Dotted start (trimLastDot (othersToDot inRun (c :: cs))) := by
        intro inRun start
        rw [othersToDot, if_pos hc, trimLastDot, if_neg fun h => ne_dot_of_isLowerAlnum hc h.1]
        exact .char hc hfree
      exact ⟨hstep false false, Or.inr (hstep true true)⟩
    | false =>
      have hother : ¬isLowerAlnum c = true := by rw [hc]; exact Bool.false_ne_true
      refine ⟨?_, ?_⟩
      · rw [othersToDot, if_neg hother, if_neg Bool.false_ne_true, trimLastDot]
        -- the dot of a run that ends the text goes
        rcases hrun with hnil | hdotted
        · rw [if_pos ⟨rfl, hnil⟩]
          exact .done
        · by_cases hnil : othersToDot true cs = []
          · rw [if_pos ⟨rfl, hnil⟩]
            exact .done
          · rw [if_neg fun h => hnil h.2]
            exact .dot hdotted
      · rw [othersToDot, if_neg hother, if_pos rfl]
        exact hrun

/-- The components of a dotted text are nonempty, but for the one it is in the middle of. -/
theorem Dotted.splitOn {start : Bool} {cs : List Char} (h : Dotted start cs) :
    ∃ first rest, cs.splitOn '.' = first :: rest ∧ (start = true → first ≠ []) ∧
      (∀ c ∈ first, isLowerAlnum c = true) ∧
      ∀ component ∈ rest, component ≠ [] ∧ ∀ c ∈ component, isLowerAlnum c = true := by
  induction h with
  | done => exact ⟨[], [], rfl, by simp, by simp, by simp⟩
  | @char start c cs hc h ih =>
    obtain ⟨first, rest, hsplit, -, hfirst, hrest⟩ := ih
    refine ⟨c :: first, rest, ?_, fun _ => List.cons_ne_nil c first, List.forall_mem_cons.mpr ⟨hc, hfirst⟩,
      hrest⟩
    rw [List.splitOn_cons_eq_if_modifyHead, hsplit,
      if_neg fun hdot => ne_dot_of_isLowerAlnum hc (beq_iff_eq.mp hdot)]
    rfl
  | @dot cs h ih =>
    obtain ⟨first, rest, hsplit, hne, hfirst, hrest⟩ := ih
    refine ⟨[], first :: rest, ?_, by simp, by simp, List.forall_mem_cons.mpr ⟨⟨hne rfl, hfirst⟩, hrest⟩⟩
    rw [List.splitOn_cons_eq_if_modifyHead, hsplit, if_pos (beq_self_eq_true '.')]

theorem mem_stripNumber {cs : List Char} {c : Char} (h : c ∈ stripNumber cs) : c ∈ cs := by
  rw [stripNumber] at h
  split at h
  · exact mem_of_mem_stripZeros h
  · exact h

/-- Without its zeros, a component is plain. -/
theorem plain_stripNumber {component : List Char} (hne : component ≠ [])
    (hchars : ∀ c ∈ component, isLowerAlnum c = true) : Plain (stripNumber component) := by
  refine ⟨?_, fun c hc => hchars c (mem_stripNumber hc), ?_⟩
  · rw [stripNumber]
    split
    · exact stripZeros_ne_nil hne
    · exact hne
  · rw [stripNumber]
    by_cases hdigits : component.all Char.isDigit = true
    · rw [if_pos hdigits]
      exact fun _ => stripZeros_stripZeros component
    · rw [if_neg hdigits]
      exact fun h => absurd h hdigits

/-- **The last replacement makes a dotted text canonical.** -/
theorem stripNumericZeros_canonical {cs : List Char} (h : Dotted true cs) : Canonical (stripNumericZeros cs) := by
  obtain ⟨first, rest, hsplit, hne, hfirst, hrest⟩ := h.splitOn
  have hparts : ∀ component ∈ cs.splitOn '.', component ≠ [] ∧ ∀ c ∈ component, isLowerAlnum c = true := by
    rw [hsplit]
    exact List.forall_mem_cons.mpr ⟨⟨hne rfl, hfirst⟩, hrest⟩
  have hplain : ∀ component ∈ (cs.splitOn '.').map stripNumber, Plain component := by
    intro component hcomponent
    obtain ⟨part, hpart, rfl⟩ := List.mem_map.mp hcomponent
    exact plain_stripNumber (hparts part hpart).1 (hparts part hpart).2
  have hseparator : ∀ component ∈ (cs.splitOn '.').map stripNumber, ∀ c ∈ component,
      isSeparator c = false := fun component hcomponent c hc =>
    isSeparator_of_isAlphanum (isAlphanum_of_isLowerAlnum ((hplain component hcomponent).chars c hc))
  have hnil : (cs.splitOn '.').map stripNumber ≠ [] := by
    rw [hsplit]
    exact List.cons_ne_nil _ _
  refine (canonical_iff _).mpr ⟨fun c hc => ?_, ?_⟩
  · rcases mem_intercalate hc with rfl | ⟨component, hcomponent, hc⟩
    · decide
    · have hsep := hseparator component hcomponent c hc
      constructor <;> rintro rfl <;> cases hsep
  · rw [stripNumericZeros, components_intercalate hnil hseparator]
    exact hplain

/-- **A branch gets a canonical segment**, whatever its name and the commit id. -/
theorem branchSegment_canonical (hlower : LowersAscii toLowerCase) (env : BuildEnv) (shortGitRev : String) :
    Canonical (branchSegment toLowerCase env shortGitRev).toList := by
  obtain ⟨lowered, htext⟩ := hlower.keeps "branch." (env.branchName ++ "." ++ shortGitRev) (by decide)
  have hassoc : "branch." ++ env.branchName ++ "." ++ shortGitRev =
      "branch." ++ (env.branchName ++ "." ++ shortGitRev) := by
    simp only [String.append_assoc]
  rw [branchSegment, String.toList_ofList, hassoc, htext]
  apply stripNumericZeros_canonical
  -- the text starts with the letter of `branch`, so no dot goes there
  show Dotted true ('b' :: trimLastDot (othersToDot false ("ranch.".toList ++ lowered)))
  exact .char (by decide) (dotted_othersToDot _).1

/-! ## A pull request -/

/-- The replacement leaves the components as they are. -/
theorem components_separatorsToDots (cs : List Char) : components (separatorsToDots cs) = components cs := by
  induction cs with
  | nil => rfl
  | cons c cs ih =>
    rw [separatorsToDots, List.map_cons, components, components, List.splitOnP_cons_eq_if_modifyHead,
      List.splitOnP_cons_eq_if_modifyHead]
    rw [separatorsToDots, components, components] at ih
    by_cases hc : c = '-' ∨ c = '_'
    · have hsep : isSeparator c = true := by rcases hc with rfl | rfl <;> rfl
      rw [if_pos hc, if_pos hsep, if_pos (show isSeparator '.' = true from rfl), ih]
    · rw [if_neg hc, ih]

theorem pullRequestSegment_canonical_iff (env : BuildEnv) (shortGitRev : String) :
    Canonical (pullRequestSegment toLowerCase env shortGitRev).toList ↔
      ∀ component ∈ components (toLowerCase (env.branchName ++ "." ++ shortGitRev)).toList,
        Plain component := by
  rw [pullRequestSegment, String.toList_ofList, canonical_iff, components_separatorsToDots]
  refine and_iff_right fun c hc => ?_
  obtain ⟨d, -, rfl⟩ := List.mem_map.mp hc
  by_cases hd : d = '-' ∨ d = '_'
  · rw [if_pos hd]
    decide
  · rw [if_neg hd]
    exact not_or.mp hd

/-- The segment of the build. -/
def localSegment (toLowerCase : String → String) (env : BuildEnv) (shortGitRev : String) : String :=
  if env.isPullRequest then pullRequestSegment toLowerCase env shortGitRev
  else branchSegment toLowerCase env shortGitRev

/-- Every build but one of main resolves to a local version. -/
theorem resolveVersion_local {env : BuildEnv} (hmain : env.isMain = false) {baseVersion : String}
    (hbase : baseVersion ≠ "") (shortGitRev : String) :
    resolveVersion toLowerCase env shortGitRev baseVersion =
      .ok (baseVersion ++ "+" ++ localSegment toLowerCase env shortGitRev) := by
  have hversion : publishVersion toLowerCase env shortGitRev baseVersion =
      baseVersion ++ "+" ++ localSegment toLowerCase env shortGitRev := by
    rw [publishVersion, localSegment]
    by_cases hpr : env.isPullRequest = true
    · rw [if_pos hpr, if_pos hpr]
    · rw [if_neg hpr, if_neg hpr, hmain]
      rfl
  have hne : baseVersion ++ "+" ++ localSegment toLowerCase env shortGitRev ≠ baseVersion := by
    intro h
    have hlength := congrArg String.length h
    rw [String.length_append, String.length_append] at hlength
    have hplus : "+".length = 1 := rfl
    omega
  have hplus : '+' ∈ (baseVersion ++ "+" ++ localSegment toLowerCase env shortGitRev).toList := by
    simp
  have hstable : ¬((!env.isMain) = true ∧
      baseVersion ++ "+" ++ localSegment toLowerCase env shortGitRev = baseVersion) := fun h => hne h.2
  have hnonlocal : ¬(env.isPullRequest = true ∧
      '+' ∉ (baseVersion ++ "+" ++ localSegment toLowerCase env shortGitRev).toList) := fun h => h.2 hplus
  rw [resolveVersion, hversion]
  simp only [if_neg hbase, if_neg hstable, if_neg hnonlocal]

/-- **The prediction is right exactly for a canonical segment.** -/
theorem predictsArtifacts_iff {backend : String → String} {baseVersion : String}
    (hbackend : WritesNormalForm backend baseVersion) (segment : String) :
    PredictsArtifacts backend baseVersion (.ok (baseVersion ++ "+" ++ segment)) ↔
      Canonical segment.toList := by
  constructor
  · rintro ⟨segment', hsame, hcanonical, -, -⟩
    have hversion : baseVersion ++ "+" ++ segment = baseVersion ++ "+" ++ segment' := Except.ok.inj hsame
    have hsegment : segment = segment' := by
      apply String.toList_injective
      have hchars := congrArg String.toList hversion
      simp only [String.toList_append] at hchars
      exact List.append_cancel_left hchars
    rw [hsegment]
    exact hcanonical
  · intro h
    have hwritten : backend (baseVersion ++ "+" ++ segment) = baseVersion ++ "+" ++ segment := by
      rw [hbackend segment h.wellFormed, h.normal, String.ofList_toList]
    exact ⟨segment, rfl, h, by rw [hwritten], by rw [hwritten]⟩

/-! ## The branch names of pull requests -/

/-- An abbreviated commit id. -/
def IsCommitId (text : String) : Prop :=
  text ≠ "" ∧ (text.toList.all fun c => c.isDigit || ('a' ≤ c && c ≤ 'f')) = true

/-- A decimal number. -/
def IsNumber (text : String) : Prop := text ≠ "" ∧ text.toList.all Char.isDigit = true

/-- No zero in front, unless a letter makes it no number. -/
def NoLeadingZero (text : String) : Prop :=
  text.toList.all Char.isDigit = true → leadingZero text.toList = false

instance (text : String) : Decidable (IsCommitId text) := inferInstanceAs (Decidable (_ ∧ _))

instance (text : String) : Decidable (IsNumber text) := inferInstanceAs (Decidable (_ ∧ _))

instance (text : String) : Decidable (NoLeadingZero text) := inferInstanceAs (Decidable (_ → _))

theorem plain_toList_iff {text : String} (hne : text ≠ "")
    (hchars : ∀ c ∈ text.toList, isLowerAlnum c = true) : Plain text.toList ↔ NoLeadingZero text := by
  constructor
  · exact fun h hdigits => (stripZeros_eq_self_iff _).mp (h.number hdigits)
  · intro h
    refine ⟨fun hnil => hne (String.toList_eq_nil_iff.mp hnil), hchars, fun hdigits => ?_⟩
    exact (stripZeros_eq_self_iff _).mpr (h hdigits)

theorem IsNumber.isLowerAlnum {text : String} (h : IsNumber text) :
    ∀ c ∈ text.toList, Lib.LocalVersion.isLowerAlnum c = true := fun c hc =>
  Bool.or_eq_true_iff.mpr (Or.inr (List.all_eq_true.mp h.2 c hc))

theorem IsCommitId.isLowerAlnum {text : String} (h : IsCommitId text) :
    ∀ c ∈ text.toList, Lib.LocalVersion.isLowerAlnum c = true := by
  intro c hc
  rcases Bool.or_eq_true_iff.mp (List.all_eq_true.mp h.2 c hc) with hdigit | hletter
  · exact Bool.or_eq_true_iff.mpr (Or.inr hdigit)
  · obtain ⟨hlow, hhigh⟩ := Bool.and_eq_true_iff.mp hletter
    have hfirst : 97 ≤ c.toNat := UInt32.le_iff_toNat_le.mp (of_decide_eq_true hlow)
    have hlast : c.toNat ≤ 102 := UInt32.le_iff_toNat_le.mp (of_decide_eq_true hhigh)
    exact isLowerAlnum_iff.mpr (Or.inl ⟨hfirst, by omega⟩)

/-- The branch of a pull request: `PR-<number>`, perhaps with `-head` or `-merge`. -/
structure PullRequestBranch (number branchName : String) : Prop where
  isNumber : IsNumber number
  name : ∃ suffix ∈ ["", "-head", "-merge"], branchName = "PR-" ++ number ++ suffix

/-- What lowering leaves: an ASCII character that is no capital I, and its own lower-case letter. -/
theorem lowered_of_isLowerAlnum {c : Char} (h : isLowerAlnum c = true) :
    isPlainAscii c = true ∧ c.toLower = c := by
  refine ⟨?_, (toLower_eq_self_iff_isLowerAlnum (isAlphanum_of_isLowerAlnum h)).mpr h⟩
  have hascii : c.toNat < 128 := by
    have hrange := isLowerAlnum_iff.mp h
    omega
  have hne : c ≠ 'I' := by
    rintro rfl
    cases h
  rw [isPlainAscii, decide_eq_true hascii, decide_eq_true hne]
  rfl

theorem map_toLower_of_isLowerAlnum {cs : List Char} (h : ∀ c ∈ cs, isLowerAlnum c = true) :
    cs.map Char.toLower = cs :=
  (List.map_congr_left fun c hc => (lowered_of_isLowerAlnum (h c hc)).2).trans (List.map_id cs)

/-- **What a pull request's text is lowered to.** -/
theorem toLowerCase_pullRequest (hlower : LowersAscii toLowerCase) {number suffix shortGitRev : String}
    (hnumber : IsNumber number) (hsuffix : suffix ∈ ["", "-head", "-merge"])
    (hrev : IsCommitId shortGitRev) :
    (toLowerCase ("PR-" ++ number ++ suffix ++ "." ++ shortGitRev)).toList =
      "pr".toList ++ '-' :: (number.toList ++ (suffix.toList ++ '.' :: shortGitRev.toList)) := by
  have hsuffixChars : suffix.toList.all isPlainAscii = true ∧ suffix.toList.map Char.toLower = suffix.toList := by
    have hall : ∀ s ∈ ["", "-head", "-merge"],
        s.toList.all isPlainAscii = true ∧ s.toList.map Char.toLower = s.toList := by decide
    exact hall suffix hsuffix
  have hplain : ∀ cs : List Char, (∀ c ∈ cs, isLowerAlnum c = true) → cs.all isPlainAscii = true :=
    fun cs h => List.all_eq_true.mpr fun c hc => (lowered_of_isLowerAlnum (h c hc)).1
  have hascii : ("PR-" ++ number ++ suffix ++ "." ++ shortGitRev).toList.all isPlainAscii = true := by
    simp only [String.toList_append, List.all_append, Bool.and_eq_true]
    exact ⟨⟨⟨⟨by decide, hplain _ hnumber.isLowerAlnum⟩, hsuffixChars.1⟩, by decide⟩,
      hplain _ hrev.isLowerAlnum⟩
  rw [hlower.ascii _ hascii]
  simp only [String.toList_append, List.map_append, map_toLower_of_isLowerAlnum hnumber.isLowerAlnum,
    map_toLower_of_isLowerAlnum hrev.isLowerAlnum, hsuffixChars.2]
  show "pr-".toList ++ number.toList ++ suffix.toList ++ ".".toList ++ shortGitRev.toList = _
  simp

/-- **For a pull request's branch** the components are plain if neither the number nor the commit id has a
    leading zero. -/
theorem plain_pullRequest_iff (hlower : LowersAscii toLowerCase) {number branchName shortGitRev : String}
    (hbranch : PullRequestBranch number branchName) (hrev : IsCommitId shortGitRev) :
    (∀ component ∈ components (toLowerCase (branchName ++ "." ++ shortGitRev)).toList, Plain component) ↔
      NoLeadingZero number ∧ NoLeadingZero shortGitRev := by
  obtain ⟨suffix, hsuffix, rfl⟩ := hbranch.name
  have hnumber := hbranch.isNumber
  have hnumberPlain := plain_toList_iff hnumber.1 hnumber.isLowerAlnum
  have hrevPlain := plain_toList_iff hrev.1 hrev.isLowerAlnum
  have hseparator : ∀ cs : List Char, (∀ c ∈ cs, isLowerAlnum c = true) → ∀ c ∈ cs, isSeparator c = false :=
    fun cs h c hc => isSeparator_of_isAlphanum (isAlphanum_of_isLowerAlnum (h c hc))
  have hwords : ∀ word ∈ ["pr", "head", "merge"],
      (word ≠ "" ∧ word.toList.all isLowerAlnum = true) ∧ NoLeadingZero word := by decide
  have hword : ∀ word ∈ ["pr", "head", "merge"], Plain word.toList ∧ ∀ c ∈ word.toList, isSeparator c = false := by
    intro word hmem
    obtain ⟨⟨hne, hchars⟩, hzero⟩ := hwords word hmem
    have hchars := List.all_eq_true.mp hchars
    exact ⟨(plain_toList_iff hne hchars).mpr hzero, hseparator _ hchars⟩
  obtain ⟨hpr, hprSeparator⟩ := hword "pr" (by decide)
  have hlast : components shortGitRev.toList = [shortGitRev.toList] :=
    components_singleton (hseparator _ hrev.isLowerAlnum)
  rw [toLowerCase_pullRequest hlower hnumber hsuffix hrev, components_append hprSeparator (by decide),
    List.forall_mem_cons, and_iff_right hpr]
  -- the suffix is a component of its own, or there is none
  have hcases : suffix = "" ∨ ∃ word ∈ ["pr", "head", "merge"], suffix.toList = '-' :: word.toList := by
    simp only [List.mem_cons, List.not_mem_nil, or_false] at hsuffix
    rcases hsuffix with rfl | rfl | rfl
    · exact Or.inl rfl
    · exact Or.inr ⟨"head", by decide, rfl⟩
    · exact Or.inr ⟨"merge", by decide, rfl⟩
  rcases hcases with rfl | ⟨word, hmem, hchars⟩
  · show (∀ component ∈ components (number.toList ++ '.' :: shortGitRev.toList), Plain component) ↔ _
    rw [components_append (hseparator _ hnumber.isLowerAlnum) (by decide), hlast, List.forall_mem_cons,
      List.forall_mem_singleton, hnumberPlain, hrevPlain]
  · obtain ⟨hplain, hwordSeparator⟩ := hword word hmem
    rw [hchars, List.cons_append, components_append (hseparator _ hnumber.isLowerAlnum) (by decide),
      components_append hwordSeparator (by decide), hlast, List.forall_mem_cons, List.forall_mem_cons,
      List.forall_mem_singleton, and_iff_right hplain, hnumberPlain, hrevPlain]

/-! ## Every build -/

/-- **The prediction is right for every branch, and for a pull request exactly where** every component of
    the lowered text is plain as it is: for `PR-<number>`, where no number in it has a leading zero. -/
theorem resolveVersion_predictsArtifacts_iff {toLowerCase backend : String → String} {baseVersion : String}
    (hlower : LowersAscii toLowerCase) (hbackend : WritesNormalForm backend baseVersion)
    (hbase : baseVersion ≠ "") {env : BuildEnv} (hmain : env.isMain = false) (shortGitRev : String) :
    (PredictsArtifacts backend baseVersion (resolveVersion toLowerCase env shortGitRev baseVersion) ↔
        (env.isPullRequest = true → ∀ component ∈
          components (toLowerCase (env.branchName ++ "." ++ shortGitRev)).toList, Plain component)) ∧
      ∀ number, PullRequestBranch number env.branchName → IsCommitId shortGitRev →
        (PredictsArtifacts backend baseVersion (resolveVersion toLowerCase env shortGitRev baseVersion) ↔
          NoLeadingZero number ∧ NoLeadingZero shortGitRev) := by
  have hgeneral : PredictsArtifacts backend baseVersion
      (resolveVersion toLowerCase env shortGitRev baseVersion) ↔
      (env.isPullRequest = true → ∀ component ∈
        components (toLowerCase (env.branchName ++ "." ++ shortGitRev)).toList, Plain component) := by
    rw [resolveVersion_local hmain hbase, predictsArtifacts_iff hbackend, localSegment]
    by_cases hpr : env.isPullRequest = true
    · rw [if_pos hpr, pullRequestSegment_canonical_iff]
      exact ⟨fun h _ => h, fun h => h hpr⟩
    · rw [if_neg hpr]
      exact iff_of_true (branchSegment_canonical hlower env shortGitRev) fun h => absurd h hpr
  refine ⟨hgeneral, fun number hbranch hrev => ?_⟩
  have hpr : env.isPullRequest = true := by
    obtain ⟨suffix, -, hname⟩ := hbranch.name
    rw [BuildEnv.isPullRequest, hname, Bool.or_eq_true_iff]
    right
    simp only [String.toList_append, List.append_assoc]
    exact List.isPrefixOf_iff_prefix.mpr (List.prefix_append _ _)
  rw [hgeneral, ← plain_pullRequest_iff hlower hbranch hrev]
  exact ⟨fun h => h hpr, fun h _ => h⟩

/-- `toLowerCase` of ASCII texts. -/
def lowerAscii (text : String) : String := String.ofList (text.toList.map Char.toLower)

theorem lowersAscii_lowerAscii : LowersAscii lowerAscii where
  ascii text h := String.toList_ofList
  keeps start rest h := by
    refine ⟨rest.toList.map Char.toLower, ?_⟩
    have hstart : start.toList.map Char.toLower = start.toList := by
      refine (List.map_congr_left fun c hc => ?_).trans (List.map_id _)
      rcases Bool.or_eq_true_iff.mp (List.all_eq_true.mp h c hc) with hc | hc
      · exact (lowered_of_isLowerAlnum hc).2
      · rw [of_decide_eq_true hc]
        rfl
    rw [lowerAscii, String.toList_ofList, String.toList_append, List.map_append, hstart]

/-- A backend that leaves the base version and normalizes what follows the `+`. -/
def localBackend (version : String) : String :=
  match version.toList.dropWhile (· ≠ '+') with
  | _ :: segment => String.ofList (version.toList.takeWhile (· ≠ '+') ++ '+' :: normalForm segment)
  | [] => version

theorem writesNormalForm_localBackend : WritesNormalForm localBackend "0.2.2.5" := by
  intro segment h
  have hbase : ∀ c ∈ "0.2.2.5".toList, decide (c ≠ '+') = true := List.all_eq_true.mp (by decide)
  have hchars : ("0.2.2.5" ++ "+" ++ segment).toList = "0.2.2.5".toList ++ '+' :: segment.toList := by
    simp
  rw [localBackend, hchars, List.dropWhile_append_of_pos hbase, List.takeWhile_append_of_pos hbase]
  apply String.toList_injective
  simp

theorem resolveVersion_pullRequest :
    PredictsArtifacts localBackend "0.2.2.5"
      (resolveVersion lowerAscii ⟨some "7", "PR-7-merge"⟩ "abc1234" "0.2.2.5") :=
  ((resolveVersion_predictsArtifacts_iff lowersAscii_lowerAscii writesNormalForm_localBackend (by decide)
    (by decide) "abc1234").2 "7" ⟨by decide, "-merge", by decide, rfl⟩
      (by decide)).mpr ⟨by decide, by decide⟩

/-- **A commit id of digits with a zero in front**: the backend writes `pr.7.123456`. -/
theorem resolveVersion_leadingZero :
    ¬PredictsArtifacts localBackend "0.2.2.5"
      (resolveVersion lowerAscii ⟨some "7", "PR-7"⟩ "0123456" "0.2.2.5") := by
  rintro ⟨segment, hversion, hcanonical, -, -⟩
  have hresolved : (resolveVersion lowerAscii ⟨some "7", "PR-7"⟩ "0123456" "0.2.2.5").toOption =
      some "0.2.2.5+pr.7.0123456" := by decide +kernel
  rw [hversion] at hresolved
  have hchars := congrArg String.toList (Option.some.inj hresolved)
  simp only [String.toList_append] at hchars
  have hsegment : segment.toList = "pr.7.0123456".toList := List.append_cancel_left hchars
  have hnormal := hcanonical.normal
  rw [hsegment] at hnormal
  revert hnormal
  decide +kernel

example : (resolveVersion lowerAscii ⟨none, "Fix/007__Hot-0"⟩ "abc1234" "0.2.2.5").toOption =
    some "0.2.2.5+branch.fix.7.hot.0.abc1234" := by
  decide +kernel

end FlightSql
