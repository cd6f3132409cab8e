/-
  Where the paths of RECORD lead — what `_record_path` accepts, joined to the site root.

  THE CODE compares path texts, of rows already read and of files found, but opens files through the
  parsed paths.

  1. **Splitting is undone by joining** (`asPosix_split`) — a text is the POSIX text of its components, so
     it is determined by them.

  2. **Accepted paths are canonical** (`recordPath_canonical`) and, joined to the site root, strictly
     inside it (`joinpath_strictlyInside`): no component is one that leads elsewhere.

  3. **One row for one file** (`readRecord_oneRow`) — the rows of an accepted RECORD have different texts,
     so they name different files.

  Mathlib-free.
-/
import FlightSql.Provenance.Record

set_option linter.unusedVariables false

namespace FlightSql.Provenance

open Lib

/-! ## Splitting is undone by joining -/

theorem splitChars_eq_splitOn (sep : Char) (cs : List Char) : splitChars sep cs = cs.splitOn sep := by
  induction cs with
  | nil => rfl
  | cons c cs ih =>
    rw [splitChars, ih, List.splitOn_cons_eq_if_modifyHead]
    by_cases hsep : c = sep
    · rw [if_pos hsep, if_pos (beq_iff_eq.mpr hsep)]
    · rw [if_neg hsep, if_neg fun h => hsep (beq_iff_eq.mp h)]
      cases hparts : cs.splitOn sep with
      | nil => exact absurd hparts (List.splitOn_ne_nil sep cs)
      | cons part parts => rfl

/-- **A text is the POSIX text of its components.** -/
theorem asPosix_split (text : String) : asPosix (split '/' text) = text := by
  apply String.toList_injective
  have hparts : (split '/' text).map String.toList = text.toList.splitOn '/' := by
    rw [split, List.map_map, ← splitChars_eq_splitOn]
    exact (List.map_congr_left fun part _ => String.toList_ofList).trans (List.map_id _)
  rw [asPosix, String.toList_intercalate, hparts]
  exact List.intercalate_splitOn '/'

/-- What stands in a component stands in the text, and is no separator. -/
theorem mem_splitChars {sep : Char} {cs part : List Char} (hpart : part ∈ splitChars sep cs) {c : Char}
    (hc : c ∈ part) : c ∈ cs ∧ c ≠ sep := by
  induction cs generalizing part with
  | nil =>
    rw [List.mem_singleton.mp hpart] at hc
    cases hc
  | cons d cs ih =>
    rw [splitChars] at hpart
    by_cases hsep : d = sep
    · rw [if_pos hsep] at hpart
      rcases List.mem_cons.mp hpart with rfl | hpart
      · cases hc
      · obtain ⟨hmem, hne⟩ := ih hpart hc
        exact ⟨List.mem_cons_of_mem d hmem, hne⟩
    · rw [if_neg hsep] at hpart
      cases hsplit : splitChars sep cs with
      | nil =>
        rw [hsplit] at hpart
        rw [List.mem_singleton.mp hpart] at hc
        rw [List.mem_singleton.mp hc]
        exact ⟨List.mem_cons_self, hsep⟩
      | cons first rest =>
        rw [hsplit] at hpart ih
        -- the first component is longer by `d`, the others are as they were
        rcases List.mem_cons.mp hpart with rfl | hpart
        · rcases List.mem_cons.mp hc with rfl | hc
          · exact ⟨List.mem_cons_self, hsep⟩
          · obtain ⟨hmem, hne⟩ := ih List.mem_cons_self hc
            exact ⟨List.mem_cons_of_mem d hmem, hne⟩
        · obtain ⟨hmem, hne⟩ := ih (List.mem_cons_of_mem first hpart) hc
          exact ⟨List.mem_cons_of_mem d hmem, hne⟩

theorem mem_split {sep : Char} {text part : String} (hpart : part ∈ split sep text) {c : Char}
    (hc : c ∈ part.toList) : c ∈ text.toList ∧ c ≠ sep := by
  obtain ⟨chars, hchars, rfl⟩ := List.mem_map.mp hpart
  rw [String.toList_ofList] at hc
  exact mem_splitChars hchars hc

/-- A text without a separator is its one component. -/
theorem split_of_not_mem {sep : Char} {text : String} (h : sep ∉ text.toList) : split sep text = [text] := by
  rw [split, splitChars_eq_splitOn, List.splitOn_eq_singleton h, List.map_singleton, String.ofList_toList]

/-! ## Accepted paths are canonical -/

/-- A component that names an entry of the directory before it, with no character that a path may not
    have. -/
structure PlainComponent (part : String) : Prop where
  name : part ≠ "" ∧ part ≠ "." ∧ part ≠ ".."
  chars : ∀ c ∈ part.toList, c ≠ '/' ∧ c ≠ '\\' ∧ 32 ≤ c.toNat

/-- **The one path that a text writes**: relative, of plain components, without a drive, and with the text
    as its POSIX text. -/
structure CanonicalPath (pathText : String) (path : PurePosixPath) : Prop where
  relative : path.absolute = false
  parts : path.parts ≠ []
  plain : ∀ part ∈ path.parts, PlainComponent part
  noDrive : hasDrive (asPosix path.parts) = false
  text : asPosix path.parts = pathText

/-- **Accepted paths are canonical.** -/
theorem recordPath_canonical {py : Interpreter} {pathText : String} {path : PurePosixPath}
    (h : recordPath py pathText = .ok path) : CanonicalPath pathText path := by
  have hparts : path.parts = split '/' pathText := recordPath_eq_ok py h
  obtain ⟨hchars, h⟩ := raiseIf_bind_eq_ok h
  obtain ⟨htraversal, h⟩ := raiseIf_bind_eq_ok h
  obtain ⟨habsolute, h⟩ := raiseIf_bind_eq_ok h
  rw [decide_eq_false_iff_not, not_or] at hchars htraversal habsolute
  have hrelative : path.absolute = false := by
    rw [← Except.ok.inj h]
    exact Bool.eq_false_iff.mpr habsolute.1
  have htext : asPosix path.parts = pathText := by rw [hparts, asPosix_split]
  refine ⟨hrelative, ?_, fun part hpart => ⟨?_, fun c hc => ?_⟩, ?_, htext⟩
  · rw [hparts, split, splitChars_eq_splitOn]
    exact fun hnil => List.splitOn_ne_nil '/' _ (List.map_eq_nil_iff.mp hnil)
  · have hsafe : part ∉ ["", ".", ".."] := by
      intro hbad
      rw [hparts] at hpart
      exact htraversal.1 (List.any_eq_true.mpr ⟨part, hpart, decide_eq_true hbad⟩)
    simpa [not_or] using hsafe
  · rw [hparts] at hpart
    obtain ⟨hmem, hslash⟩ := mem_split hpart hc
    obtain ⟨hbackslash, hcontrol⟩ := not_or.mp hchars.2
    refine ⟨hslash, fun hc => hbackslash (hc ▸ hmem), Nat.le_of_not_lt fun hlt => hcontrol ?_⟩
    exact List.any_eq_true.mpr ⟨c, hmem, decide_eq_true hlt⟩
  · rw [htext]
    exact Bool.eq_false_iff.mpr htraversal.2

/-! ## Joined to the site root -/

/-- `site_root / part`: an absolute part replaces what stands before it.  The root is given by the names
    on the way to it. -/
def joinPart (root : Path) (part : String) : Path :=
  let path := PurePosixPath.ofString part
  if path.absolute then path.parts else root ++ path.parts

/-- `site_root.joinpath(*parts)`. -/
def joinpath (root : Path) (parts : List String) : Path := parts.foldl joinPart root

/-- **Strictly inside**: below the root by plain components, so wherever they lead, it is downwards. -/
def StrictlyInside (root path : Path) : Prop :=
  ∃ rest, rest ≠ [] ∧ (∀ part ∈ rest, PlainComponent part) ∧ path = root ++ rest

/-- A plain component goes one down. -/
theorem joinPart_plain {part : String} (h : PlainComponent part) (root : Path) :
    joinPart root part = root ++ [part] := by
  obtain ⟨hempty, hdot, -⟩ := h.name
  have hslash : '/' ∉ part.toList := fun hmem => (h.chars '/' hmem).1 rfl
  have hrelative : ¬(PurePosixPath.ofString part).absolute = true := by
    intro habsolute
    obtain ⟨rest, hrest⟩ := List.head?_eq_some_iff.mp (of_decide_eq_true habsolute)
    exact hslash (hrest ▸ List.mem_cons_self)
  have hparts : (PurePosixPath.ofString part).parts = [part] := by
    rw [PurePosixPath.ofString, split_of_not_mem hslash]
    exact List.filter_eq_self.mpr fun p hp => decide_eq_true (List.mem_singleton.mp hp ▸ ⟨hempty, hdot⟩)
  rw [joinPart, hparts]
  exact if_neg hrelative

theorem joinpath_plain {parts : List String} (h : ∀ part ∈ parts, PlainComponent part) (root : Path) :
    joinpath root parts = root ++ parts := by
  induction parts generalizing root with
  | nil => exact (List.append_nil root).symm
  | cons part parts ih =>
    obtain ⟨hpart, hrest⟩ := List.forall_mem_cons.mp h
    show joinpath (joinPart root part) parts = _
    rw [joinPart_plain hpart, ih hrest, List.append_assoc, List.singleton_append]

/-- The installed path of an accepted text. -/
theorem joinpath_recordPath {py : Interpreter} {pathText : String} {path : PurePosixPath}
    (h : recordPath py pathText = .ok path) (root : Path) :
    joinpath root path.parts = root ++ path.parts :=
  joinpath_plain (recordPath_canonical h).plain root

/-- **Accepted paths stay inside.** -/
theorem joinpath_strictlyInside {py : Interpreter} {pathText : String} {path : PurePosixPath}
    (h : recordPath py pathText = .ok path) (root : Path) : StrictlyInside root (joinpath root path.parts) :=
  ⟨path.parts, (recordPath_canonical h).parts, (recordPath_canonical h).plain, joinpath_recordPath h root⟩

/-- **Different texts, different files.** -/
theorem joinpath_injective {py : Interpreter} {pathText pathText' : String} {path path' : PurePosixPath}
    (h : recordPath py pathText = .ok path) (h' : recordPath py pathText' = .ok path') {root : Path}
    (hsame : joinpath root path.parts = joinpath root path'.parts) : pathText = pathText' := by
  rw [joinpath_recordPath h, joinpath_recordPath h'] at hsame
  have hparts : path.parts = path'.parts := List.append_cancel_left hsame
  rw [← (recordPath_canonical h).text, hparts, (recordPath_canonical h').text]

/-! ## One row for one file -/

/-- The row's file, below the root. -/
def InstalledAt (py : Interpreter) (root : Path) (row : List String) (installed : Path) : Prop :=
  ∃ pathText path, row.head? = some pathText ∧ recordPath py pathText = .ok path ∧
    installed = joinpath root path.parts

/-- **What the loop has seen** of the texts of the records read: they are accepted, different, and listed. -/
structure TextsRead (py : Interpreter) (table : List (List String)) (recordRows : Dict String RecordRow) :
    Prop where
  accepted : ∀ row ∈ table, ∃ pathText path, row.head? = some pathText ∧ recordPath py pathText = .ok path ∧
    pathText ∈ recordRows.keys
  different : table.Pairwise fun row row' => row.head? ≠ row'.head?

theorem textsRead_snoc {py : Interpreter} {distInfo : String} {table : List (List String)}
    {recordRows recordRows' : Dict String RecordRow} {row : List String}
    (hI : TextsRead py table recordRows) (h : recordRow py distInfo recordRows row = .ok recordRows') :
    TextsRead py (table ++ [row]) recordRows' := by
  obtain ⟨pathText, hashText, sizeText, parsed, rfl, hfresh, -, -, rfl⟩ := recordRow_eq_ok py h
  obtain ⟨path, hpath, -⟩ := Outcome.bind_eq_ok h
  constructor
  · intro row hrow
    rcases List.mem_append.mp hrow with hrow | hrow
    · obtain ⟨t, p, hhead, hp, hlisted⟩ := hI.accepted row hrow
      exact ⟨t, p, hhead, hp, Dict.keys_set.mpr (Or.inr hlisted)⟩
    · rw [List.mem_singleton.mp hrow]
      exact ⟨pathText, path, rfl, hpath, Dict.keys_set.mpr (Or.inl rfl)⟩
  · refine List.pairwise_append.mpr ⟨hI.different, List.pairwise_singleton _ _, fun row hrow row' hrow' => ?_⟩
    -- every text before is listed, the new one was not
    obtain ⟨t, p, hhead, -, hlisted⟩ := hI.accepted row hrow
    rw [List.mem_singleton.mp hrow', hhead]
    intro hsame
    exact hfresh (Option.some.inj hsame ▸ hlisted)

theorem readRecord_textsRead {py : Interpreter} {fs : FileSystem Bytes} {distInfo : String}
    {recordRows : Dict String RecordRow} (h : readRecord py fs distInfo = .ok recordRows) :
    ∃ table, recordTable fs distInfo = .ok table ∧ TextsRead py table recordRows := by
  have hstart : TextsRead py [] .empty := ⟨fun row hrow => (by cases hrow), List.Pairwise.nil⟩
  exact readRecord_invariant py hstart textsRead_snoc h

/-- **One row for one file**: the rows of an accepted RECORD lie inside the root, each in another place. -/
theorem readRecord_oneRow {py : Interpreter} {fs : FileSystem Bytes} {distInfo : String}
    {recordRows : Dict String RecordRow} (h : readRecord py fs distInfo = .ok recordRows) (root : Path) :
    ∃ table, recordTable fs distInfo = .ok table ∧
      (∀ row ∈ table, ∃ installed, InstalledAt py root row installed ∧ StrictlyInside root installed) ∧
      table.Pairwise fun row row' =>
        ∀ installed, InstalledAt py root row installed → ¬InstalledAt py root row' installed := by
  obtain ⟨table, htable, hread⟩ := readRecord_textsRead h
  refine ⟨table, htable, fun row hrow => ?_, ?_⟩
  · obtain ⟨pathText, path, hhead, hpath, -⟩ := hread.accepted row hrow
    exact ⟨_, ⟨pathText, path, hhead, hpath, rfl⟩, joinpath_strictlyInside hpath root⟩
  · refine hread.different.imp fun hdifferent installed hrow hrow' => hdifferent ?_
    obtain ⟨pathText, path, hhead, hpath, rfl⟩ := hrow
    obtain ⟨pathText', path', hhead', hpath', hsame⟩ := hrow'
    rw [hhead, hhead', joinpath_injective hpath hpath' hsame]

/-- **RECORD paths are contained and canonical.** -/
structure RecordPathsContained (py : Interpreter) (root : Path) : Prop where
  canonical : ∀ pathText path, recordPath py pathText = .ok path → CanonicalPath pathText path
  inside : ∀ pathText path, recordPath py pathText = .ok path →
    StrictlyInside root (joinpath root path.parts)
  injective : ∀ pathText pathText' path path', recordPath py pathText = .ok path →
    recordPath py pathText' = .ok path' → pathText ≠ pathText' →
    joinpath root path.parts ≠ joinpath root path'.parts
  oneRow : ∀ fs distInfo recordRows, readRecord py fs distInfo = .ok recordRows →
    ∃ table, recordTable fs distInfo = .ok table ∧
      (∀ row ∈ table, ∃ installed, InstalledAt py root row installed ∧ StrictlyInside root installed) ∧
      table.Pairwise fun row row' =>
        ∀ installed, InstalledAt py root row installed → ¬InstalledAt py root row' installed

theorem recordPaths_contained (py : Interpreter) (root : Path) : RecordPathsContained py root where
  canonical pathText path h := recordPath_canonical h
  inside pathText path h := joinpath_strictlyInside h root
  injective pathText pathText' path path' h h' hne hsame := hne (joinpath_injective h h' hsame)
  oneRow fs distInfo recordRows h := readRecord_oneRow h root

example : (recordPath .ascii "flightsql/dbapi.py").toOption = some ⟨false, ["flightsql", "dbapi.py"]⟩ := by
  decide +kernel

example : (["", "/etc/passwd", "a//b", "a/../b", "./a", "a/", "C:a", "a\\b", "a\nb"].filterMap fun pathText =>
    (recordPath .ascii pathText).toOption) = [] := by
  decide +kernel

end FlightSql.Provenance
