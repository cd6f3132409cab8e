/-
  Which distribution is verified — `_distribution_path`, `_metadata_declares_distribution`,
  `_filename_declares_distribution` and `_selected_distribution` of `flightsql/provenance.py`.

  THE CODE takes what `importlib.metadata` discovers, resolves each metadata directory, wants them to be
  one, directly inside the root it belongs to, and goes through the other `.dist-info` entries of that
  root.

  WHAT IT IS FOR: there is one candidate (`Selects`): every discovered distribution is the selected
  directory, a regular one, and no other entry of the root passes for the distribution, by its name or by
  its METADATA.

  1. **Names** — `canonicalDistributionName`, `filenameDeclares`, and the search for the `Name` header
     (`nameValue`), which may go on over line ends.

  2. **The selection** (`selectedDistribution_iff`) — returned exactly if it selects.

  Mathlib-free.
-/
import FlightSql.Provenance.Version
import FlightSql.Provenance.Source

set_option linter.unusedVariables false

namespace FlightSql.Provenance

open Lib

/-! ## Names -/

/-- Runs of `-`, `_` and `.` become one `sep`: `re.sub(r"[-_.]+", sep, …)`, in a run or not. -/
def collapseSeparators (sep : Char) (inRun : Bool) : List Char → List Char
  | [] => []
  | c :: cs =>
    if c = '-' ∨ c = '_' ∨ c = '.' then
      if inRun then collapseSeparators sep true cs else sep :: collapseSeparators sep true cs
    else c :: collapseSeparators sep false cs

variable (py : Interpreter)

/-- `_canonical_distribution_name`. -/
def canonicalDistributionName (value : String) : String :=
  py.lower (String.ofList (collapseSeparators '-' false value.toList))

/-- `_DISTRIBUTION`. -/
def distributionName : String := "flightsql-dbapi"

/-- `_filename_declares_distribution`, of the name of a directory entry. -/
def filenameDeclares (name : String) : Bool :=
  let normalized := collapseSeparators '_' false (py.lower name).toList
  "flightsql_dbapi_".toList.isPrefixOf normalized && "_dist_info".toList.isSuffixOf normalized

variable (isSpace : Char → Bool)

/-- `text.rstrip()`. -/
def rstrip (cs : List Char) : List Char := (cs.reverse.dropWhile isSpace).reverse

/-- The value after `^Name:\s*`, whose white space may go on over line ends, up to `\s*$`. -/
def firstValue : List (List Char) → Option (List Char)
  | [] => none
  | line :: rest =>
    match line.dropWhile isSpace with
    | [] => firstValue rest
    | value => some (rstrip isSpace value)

/-- The group of `re.search(r"^Name:\s*(\S.*?)\s*$", …)` over the lines, in any letter case. -/
def nameValue : List (List Char) → Option (List Char)
  | [] => none
  | line :: rest =>
    if (line.take 5).map Char.toLower = "name:".toList then firstValue isSpace (line.drop 5 :: rest)
    else nameValue rest

/-- `_metadata_declares_distribution`, of a directory entry of the site root. -/
def metadataDeclares (fs : FileSystem Bytes) (name : String) : Bool :=
  match readText fs [name, "METADATA"] with
  | .error _ => false
  | .ok text =>
    match nameValue isSpace (splitChars '\n' text.toList) with
    | none => false
    | some value => canonicalDistributionName py (String.ofList value) = distributionName

/-! ## The source functions -/

/-- How `metadata["Name"]` answers. -/
inductive MetadataName where
  | keyError
  | none
  | str (name : String)

/-- **A discovered distribution**: its `_path`, where it locates files, and its metadata. -/
structure Distribution where
  path : Option PurePosixPath
  located : PurePosixPath
  name : MetadataName
  version : Except Exn String

/-- **The machine** the verifier runs on: its disk, `Path.resolve`, and the tree below a resolved path. -/
structure Machine extends Disk where
  resolve : PurePosixPath → PurePosixPath
  site : PurePosixPath → FileSystem Bytes

namespace PurePosixPath

/-- `str(path)`. -/
def text (path : PurePosixPath) : String :=
  if path.absolute then "/" ++ asPosix path.parts else if path.parts = [] then "." else asPosix path.parts

/-- `path.parent`. -/
def parent (path : PurePosixPath) : PurePosixPath := { path with parts := path.parts.dropLast }

/-- `path.name`. -/
def name (path : PurePosixPath) : String := path.parts.getLast?.getD ""

/-- `path / name`. -/
def child (path : PurePosixPath) (name : String) : PurePosixPath := { path with parts := path.parts ++ [name] }

end PurePosixPath

/-- `sorted(…)` of texts, with commas between. -/
def sortedTexts (paths : List PurePosixPath) : String :=
  ", ".intercalate ((paths.map PurePosixPath.text).mergeSort fun a b => decide (a ≤ b))

variable (machine : Machine)

/-- The metadata directory is a directory, no link, and named like one. -/
def isDistInfo (path : PurePosixPath) : Bool :=
  !(machine.lstat path).any Node.isSymlink && (machine.stat path).any Node.isDir &&
    ".dist-info".toList.isSuffixOf path.name.toList

/-- `_distribution_path`. -/
def distributionPath (distribution : Distribution) : Except Exn PurePosixPath :=
  match distribution.path with
  | none =>
    .error (provenanceError "importlib.metadata did not expose the selected distribution metadata path")
  | some path => do
    raiseIf (!isDistInfo machine path)
      "selected distribution metadata path is not one regular .dist-info directory"
    .ok (machine.resolve path)

/-- `by_path`: the paths, each with the last distribution that has it. -/
def byPath (discovered : List Distribution) : Except Exn (Dict PurePosixPath Distribution) :=
  discovered.foldlM (fun paths distribution => do
    let path ← distributionPath machine distribution
    .ok (paths.set path distribution)) .empty

/-- `site_root.glob("*.dist-info")`: names of entries. -/
def distInfoNames (fs : FileSystem Bytes) : List String :=
  (fs.root.direct.map Prod.fst).filter fun name => ".dist-info".toList.isSuffixOf name.toList

/-- `decoys`, by their names. -/
def decoys (siteRoot distInfo : PurePosixPath) : List String :=
  (distInfoNames (machine.site siteRoot)).filter fun name =>
    siteRoot.child name ≠ distInfo ∧
      (filenameDeclares py name ∨ metadataDeclares py isSpace (machine.site siteRoot) name)

/-- What follows when one directory was found. -/
def checkedSelection (distInfo : PurePosixPath) (distribution : Distribution) :
    Except Exn (Distribution × PurePosixPath × PurePosixPath) := do
  let siteRoot := machine.resolve distribution.located
  raiseIf (distInfo.parent ≠ siteRoot)
    "selected .dist-info directory is not directly inside its importlib.metadata root"
  let found := decoys py isSpace machine siteRoot distInfo
  raiseIf (found ≠ [])
    ("duplicate or decoy " ++ distributionName ++ " .dist-info directories exist: "
      ++ sortedTexts (found.map siteRoot.child))
  .ok (distribution, siteRoot, distInfo)

/-- **`_selected_distribution`**, of what `importlib.metadata.distributions` discovers. -/
def selectedDistribution (discovered : List Distribution) :
    Except Exn (Distribution × PurePosixPath × PurePosixPath) := do
  raiseIf (discovered = []) (distributionName ++ " is not installed")
  let paths ← byPath machine discovered
  match paths.entries with
  | [(distInfo, distribution)] => checkedSelection py isSpace machine distInfo distribution
  | entries =>
    .error (provenanceError ("multiple " ++ distributionName
      ++ " distribution metadata directories were discovered: " ++ sortedTexts (entries.map Prod.fst)))

/-! ## What is selected -/

/-- **One candidate**: every discovered distribution is at the selected directory, which lies directly in
    the root the last of them locates files in; and no other entry of that root passes for it. -/
structure Selects (discovered : List Distribution) (distribution : Distribution)
    (siteRoot distInfo : PurePosixPath) : Prop where
  last : ∃ before, discovered = before ++ [distribution]
  found : ∀ d ∈ discovered, ∃ path, d.path = some path ∧ isDistInfo machine path = true ∧
    machine.resolve path = distInfo
  root : machine.resolve distribution.located = siteRoot
  inside : distInfo.parent = siteRoot
  alone : ∀ name ∈ distInfoNames (machine.site siteRoot), siteRoot.child name = distInfo ∨
    filenameDeclares py name = false ∧ metadataDeclares py isSpace (machine.site siteRoot) name = false

variable {py isSpace machine}

theorem distributionPath_eq_ok {distribution : Distribution} {distInfo : PurePosixPath} :
    distributionPath machine distribution = .ok distInfo ↔ ∃ path, distribution.path = some path ∧
      isDistInfo machine path = true ∧ machine.resolve path = distInfo := by
  unfold distributionPath
  rcases distribution.path with _ | path
  · simp
  · by_cases hinfo : isDistInfo machine path = true
    · simp [hinfo, raiseIf, bind, Except.bind]
    · simp [hinfo, raiseIf, bind, Except.bind]

/-- What the loop over the discovered distributions has gathered. -/
structure Gathered (machine : Machine) (done : List Distribution)
    (paths : Dict PurePosixPath Distribution) : Prop where
  resolved : ∀ d ∈ done, ∃ path, distributionPath machine d = .ok path ∧ path ∈ paths.keys
  last : ∀ before d, done = before ++ [d] → ∃ path, distributionPath machine d = .ok path ∧
    paths.get? path = some d

theorem gathered_byPath {discovered : List Distribution} {paths : Dict PurePosixPath Distribution}
    (h : byPath machine discovered = .ok paths) : Gathered machine discovered paths := by
  have hinit : Gathered machine [] .empty := by
    refine ⟨fun d hd => ?_, fun before d hd => ?_⟩
    · cases hd
    · simp at hd
  have hrun := Outcome.foldlM_invariant (I := Gathered machine) ?_ hinit h
  · rwa [List.nil_append] at hrun
  -- one more distribution
  intro done paths d paths' hI hstep
  obtain ⟨path, hpath, hstep⟩ := Outcome.bind_eq_ok hstep
  have hset : paths.set path d = paths' := Except.ok.inj hstep
  subst hset
  refine ⟨fun d' hd' => ?_, fun before d' hlast => ?_⟩
  · rcases List.mem_append.mp hd' with hd' | hd'
    · obtain ⟨path', hpath', hkey⟩ := hI.resolved d' hd'
      exact ⟨path', hpath', Dict.keys_set.mpr (Or.inr hkey)⟩
    · rw [List.mem_singleton.mp hd']
      exact ⟨path, hpath, Dict.keys_set.mpr (Or.inl rfl)⟩
  · have hd' : d' = d := by simpa using (List.append_inj' hlast rfl).2.symm
    rw [hd']
    exact ⟨path, hpath, Dict.get?_set_self paths path d⟩

/-- Distributions that are all at one directory leave its last one in the dictionary. -/
theorem byPath_of_all {before : List Distribution} {distribution : Distribution} {distInfo : PurePosixPath}
    (h : ∀ d ∈ before ++ [distribution], distributionPath machine d = .ok distInfo) :
    ∃ paths, byPath machine (before ++ [distribution]) = .ok paths ∧
      paths.entries = [(distInfo, distribution)] := by
  have hset : ∀ (paths : Dict PurePosixPath Distribution) d,
      (∀ key ∈ paths.keys, key = distInfo) → paths.keys.length ≤ 1 →
      (paths.set distInfo d).entries = [(distInfo, d)] := by
    intro paths d hkeys hlength
    obtain ⟨entries, hnodup⟩ := paths
    rcases entries with _ | ⟨e, rest⟩
    · rfl
    · have hrest : rest = [] := by
        simpa [Dict.keys] using hlength
      have hkey : e.1 = distInfo := hkeys e.1 (by simp [Dict.keys])
      subst hrest
      show assocSet distInfo d [e] = _
      rw [assocSet, if_pos hkey]
  have hloop : ∀ (ds : List Distribution) (paths : Dict PurePosixPath Distribution),
      (∀ d ∈ ds ++ [distribution], distributionPath machine d = .ok distInfo) →
      (∀ key ∈ paths.keys, key = distInfo) → paths.keys.length ≤ 1 →
      ∃ paths', (ds ++ [distribution]).foldlM (fun paths distribution => do
          let path ← distributionPath machine distribution
          .ok (paths.set path distribution)) paths = .ok paths' ∧
        paths'.entries = [(distInfo, distribution)] := by
    intro ds
    induction ds with
    | nil =>
      intro paths hall hkeys hlength
      have hone := hall distribution (by simp)
      refine ⟨paths.set distInfo distribution, ?_, hset paths distribution hkeys hlength⟩
      simp [hone, bind, Except.bind, pure, Except.pure]
    | cons d ds ih =>
      intro paths hall hkeys hlength
      obtain ⟨hone, hrest⟩ := List.forall_mem_cons.mp hall
      have hentries := hset paths d hkeys hlength
      obtain ⟨paths', hrun, hresult⟩ := ih (paths.set distInfo d) hrest
        (by simp [Dict.keys, hentries]) (by simp [Dict.keys, hentries])
      refine ⟨paths', ?_, hresult⟩
      rw [List.cons_append, List.foldlM_cons, hone]
      exact hrun
  exact hloop before .empty h (fun key hkey => by cases hkey) (Nat.zero_le 1)

theorem checkedSelection_eq_ok {distInfo : PurePosixPath} {distribution : Distribution}
    {selected : Distribution × PurePosixPath × PurePosixPath} :
    checkedSelection py isSpace machine distInfo distribution = .ok selected ↔
      selected = (distribution, machine.resolve distribution.located, distInfo) ∧
      distInfo.parent = machine.resolve distribution.located ∧
      decoys py isSpace machine (machine.resolve distribution.located) distInfo = [] := by
  constructor
  · intro h
    obtain ⟨hinside, h⟩ := raiseIf_bind_eq_ok h
    obtain ⟨hdecoys, h⟩ := raiseIf_bind_eq_ok h
    exact ⟨(Except.ok.inj h).symm, by simpa using hinside, by simpa using hdecoys⟩
  · rintro ⟨rfl, hinside, hdecoys⟩
    simp [checkedSelection, hinside, hdecoys, raiseIf, bind, Except.bind]

theorem decoys_eq_nil {siteRoot distInfo : PurePosixPath} :
    decoys py isSpace machine siteRoot distInfo = [] ↔
      ∀ name ∈ distInfoNames (machine.site siteRoot), siteRoot.child name = distInfo ∨
        filenameDeclares py name = false ∧
          metadataDeclares py isSpace (machine.site siteRoot) name = false := by
  rw [decoys, List.filter_eq_nil_iff]
  refine forall₂_congr fun name _ => ?_
  by_cases hsame : siteRoot.child name = distInfo
  · simp [hsame]
  · simp [hsame]

/-- **`_selected_distribution` returns exactly what it selects.** -/
theorem selectedDistribution_iff {discovered : List Distribution} {distribution : Distribution}
    {siteRoot distInfo : PurePosixPath} :
    selectedDistribution py isSpace machine discovered = .ok (distribution, siteRoot, distInfo) ↔
      Selects py isSpace machine discovered distribution siteRoot distInfo := by
  constructor
  · intro h
    obtain ⟨hne, h⟩ := raiseIf_bind_eq_ok h
    obtain ⟨paths, hpaths, h⟩ := Outcome.bind_eq_ok h
    have hgathered := gathered_byPath hpaths
    split at h
    · rename_i distInfo' distribution' hentries
      obtain ⟨heq, hinside, hdecoys⟩ := checkedSelection_eq_ok.mp h
      obtain ⟨rfl, rfl, rfl⟩ : distribution = distribution' ∧
          siteRoot = machine.resolve distribution'.located ∧ distInfo = distInfo' := by
        simpa using heq
      have hkeys : ∀ path ∈ paths.keys, path = distInfo := by simp [Dict.keys, hentries]
      have hthere : discovered ≠ [] := by simpa using hne
      have hsplit := List.dropLast_concat_getLast hthere
      obtain ⟨path, hpath, hlast⟩ := hgathered.last _ _ hsplit.symm
      have hsame : paths.get? distInfo = some distribution :=
        Dict.get?_eq_some_iff.mpr (by simp [hentries])
      have hpathkey : path = distInfo := hkeys path (Dict.mem_keys_iff.mpr ⟨_, hlast⟩)
      rw [hpathkey, hsame] at hlast
      refine ⟨⟨discovered.dropLast, ?_⟩, fun d hd => ?_, rfl, hinside, decoys_eq_nil.mp hdecoys⟩
      · rw [Option.some.inj hlast]
        exact hsplit.symm
      · obtain ⟨path', hpath', hkey⟩ := hgathered.resolved d hd
        rw [hkeys path' hkey] at hpath'
        exact distributionPath_eq_ok.mp hpath'
    · cases h
  · rintro ⟨⟨before, rfl⟩, hfound, rfl, hinside, halone⟩
    obtain ⟨paths, hpaths, hentries⟩ := byPath_of_all fun d hd => distributionPath_eq_ok.mpr (hfound d hd)
    have hchecked := checkedSelection_eq_ok.mpr ⟨rfl, hinside, decoys_eq_nil.mpr halone⟩
    simp [selectedDistribution, raiseIf, hpaths, hentries, hchecked, bind, Except.bind]

end FlightSql.Provenance
