/-
  The scoped inventory — `_path_has_symlink`, `_verify_scoped_file` and `_verify_scoped_inventory` of
  `flightsql/provenance.py`, and what acceptance means.

  1. **The checks** — `verifyScopedFile` compares one file with its RECORD row; `inventory` walks
     everything below a directory, refuses links and checks every file that is not exempt.  The package
     and the metadata directory are the same walk with different exemptions.

  2. **What a walk that returns has established** (`Inventoried`) — by the invariant of its loop.

  3. **Coverage** (`Covered`, `scopedInventory_covered`) — stated of the TREE, not of the walk: whatever
     `lstat` finds at a path under either directory is no link, and a regular file there, compiled
     modules and RECORD itself apart, has exactly one row, with its digest and its size.  That the walk
     has seen every such path is `FileSystem.mem_rglob_of_lstat`, which needs that no link was met.

  Mathlib-free.
-/
import FlightSql.Provenance.Record

set_option linter.unusedVariables false

namespace FlightSql.Provenance

open Lib

variable (py : Interpreter) (fs : FileSystem Bytes)

/-! ## The checks -/

/-- `_REQUIRED_PACKAGE_FILES`, sorted. -/
def requiredPackageFiles : List String :=
  ["flightsql/__init__.py", "flightsql/client.py", "flightsql/dbapi.py", "flightsql/exceptions.py",
    "flightsql/flightsql_pb2.py", "flightsql/flightsql_pb2.pyi", "flightsql/provenance.py",
    "flightsql/sqlalchemy.py", "flightsql/util.py"]

/-- `_REQUIRED_METADATA_FILES`, sorted. -/
def requiredMetadataFiles : List String := ["INSTALLER", "METADATA", "direct_url.json"]

/-- `str(path)` of a path below the site root. -/
def pathText (path : Path) : String := fs.location ++ "/" ++ asPosix path

/-- `_path_has_symlink`, having come to `current`. -/
def pathHasSymlink (current : Path) : List String → Bool
  | [] => false
  | part :: parts =>
    if fs.isSymlink (current ++ [part]) then true else pathHasSymlink (current ++ [part]) parts

/-- `_record_sha256`. -/
def recordSha256 (path : Path) : Except Exn String := do
  let content ← readBytes fs path
  .ok (urlsafeB64 (py.sha256 content))

/-- `path.stat().st_size`. -/
def statSize (path : Path) : Except Exn Nat :=
  match fs.stat path with
  | some (.file _ content) => .ok content.length
  | _ => .error ⟨.python .osError, asPosix path⟩

/-- `_verify_scoped_file`. -/
def verifyScopedFile (recordRows : Dict String RecordRow) (path : Path) : Except Exn Unit := do
  raiseIf (pathHasSymlink fs [] path ∨ ¬fs.isFile path)
    ("scoped installed file " ++ pathText fs path
      ++ " is missing, non-regular, or reached through a symlink")
  let relative := asPosix path
  match recordRows.get? relative with
  | none =>
    .error (provenanceError ("installed RECORD omits scoped package file " ++ py.repr relative))
  | some row =>
    match row.digest with
    | none =>
      .error (provenanceError
        ("installed RECORD has no SHA-256 for scoped package file " ++ py.repr relative))
    | some digest => do
      let actualDigest ← recordSha256 py fs path
      raiseIf (actualDigest ≠ digest)
        ("installed RECORD SHA-256 mismatch for scoped package file " ++ py.repr relative)
      match row.size with
      | none => .ok ()
      | some size => do
        let actualSize ← statSize fs path
        raiseIf (actualSize ≠ size)
          ("installed RECORD size mismatch for scoped package file " ++ py.repr relative)

/-- One turn of either loop over `rglob("*")`; `files` are the files verified so far. -/
def inventoryEntry (recordRows : Dict String RecordRow) (label : String) (exempt : Path → Bool)
    (files : List Path) (path : Path) : Except Exn (List Path) := do
  raiseIf (fs.isSymlink path) (label ++ " path " ++ pathText fs path ++ " is a symbolic link")
  if ¬fs.isFile path ∨ exempt path then .ok files
  else do
    verifyScopedFile py fs recordRows path
    .ok (files ++ [path])

/-- Either loop: the files it verified below `top`. -/
def inventory (recordRows : Dict String RecordRow) (label : String) (exempt : Path → Bool)
    (top : Path) : Except Exn (List Path) :=
  (fs.rglob top).foldlM (inventoryEntry py fs recordRows label exempt) []

/-- The exemption of the package loop. -/
def packageExempt (path : Path) : Bool := suffix path = ".pyc"

/-- The exemptions of the metadata loop. -/
def metadataExempt (distInfo : String) (path : Path) : Bool :=
  path = [distInfo, "RECORD"] ∨ suffix path = ".pyc"

/-- `_verify_scoped_inventory`. -/
def verifyScopedInventory (distInfo : String) (recordRows : Dict String RecordRow) :
    Except Exn (Path × Path) := do
  raiseIf (fs.isSymlink ["flightsql"] ∨ ¬fs.isDir ["flightsql"])
    "installed flightsql package directory is missing or is a symbolic link"
  let packageFiles ← inventory py fs recordRows "installed package" packageExempt ["flightsql"]
  let missingPackageFiles :=
    requiredPackageFiles.filter fun name => name ∉ packageFiles.map asPosix
  raiseIf (missingPackageFiles ≠ [])
    ("installed package omits required source files: " ++ String.intercalate ", " missingPackageFiles)
  let metadataFiles ← inventory py fs recordRows "installed distribution metadata"
    (metadataExempt distInfo) [distInfo]
  let missingMetadata :=
    requiredMetadataFiles.filter fun name => name ∉ metadataFiles.map fun path => asPosix (path.drop 1)
  raiseIf (missingMetadata ≠ [])
    ("selected distribution metadata omits required files: "
      ++ String.intercalate ", " missingMetadata)
  .ok (["flightsql", "__init__.py"], [distInfo, "direct_url.json"])

/-! ## What the checks establish -/

variable {py fs}

/-- A verified file has a row with its digest and, when there is one, its size. -/
theorem verifyScopedFile_eq_ok {recordRows : Dict String RecordRow} {path : Path} {readable : Bool}
    {content : Bytes} {u : Unit} (hf : fs.lstat path = some (.file readable content))
    (h : verifyScopedFile py fs recordRows path = .ok u) :
    ∃ row, recordRows.get? (asPosix path) = some row ∧
      row.digest = some (urlsafeB64 (py.sha256 content)) ∧
      (row.size = none ∨ row.size = some content.length) := by
  obtain ⟨-, h⟩ := raiseIf_bind_eq_ok h
  cases hrow : recordRows.get? (asPosix path) with
  | none => simp only [hrow] at h; cases h
  | some row =>
    simp only [hrow] at h
    cases hdigest : row.digest with
    | none => simp only [hdigest] at h; cases h
    | some digest =>
      simp only [hdigest] at h
      obtain ⟨actual, hactual, h⟩ := Outcome.bind_eq_ok h
      obtain ⟨hsame, h⟩ := raiseIf_bind_eq_ok h
      obtain ⟨content', hread, hactual⟩ := Outcome.bind_eq_ok hactual
      have hcontent : content' = content := readBytes_of_lstat hf hread
      have hdig : actual = digest := Classical.byContradiction fun hne =>
        (of_decide_eq_false hsame) hne
      refine ⟨row, rfl, ?_, ?_⟩
      · rw [hdigest, ← hdig, ← Except.ok.inj hactual, hcontent]
      · cases hsize : row.size with
        | none => exact Or.inl rfl
        | some size =>
          simp only [hsize] at h
          obtain ⟨n, hn, h⟩ := Outcome.bind_eq_ok h
          have hstat : fs.stat path = some (.file readable content) :=
            FileSystem.stat_of_not_symlink hf rfl
          rw [statSize, hstat] at hn
          have hne : n = size := Classical.byContradiction fun hne =>
            (of_decide_eq_false (raiseIf_eq_ok.mp h)) hne
          exact Or.inr (by rw [← hne, ← Except.ok.inj hn])

/-- **What a walk has established** of the entries `seen`: none is a link, every file among them that
    is not exempt was verified, and `files` are such files. -/
structure Inventoried (py : Interpreter) (fs : FileSystem Bytes) (recordRows : Dict String RecordRow)
    (exempt : Path → Bool) (seen files : List Path) : Prop where
  noLinks : ∀ path ∈ seen, fs.isSymlink path = false
  verified : ∀ path ∈ seen, fs.isFile path = true → exempt path = false →
    verifyScopedFile py fs recordRows path = .ok ()
  files : ∀ path ∈ files, path ∈ seen ∧ fs.isFile path = true ∧ exempt path = false

theorem inventoried_snoc {recordRows : Dict String RecordRow} {label : String}
    {exempt : Path → Bool} {seen files files' : List Path} {path : Path}
    (hI : Inventoried py fs recordRows exempt seen files)
    (h : inventoryEntry py fs recordRows label exempt files path = .ok files') :
    Inventoried py fs recordRows exempt (seen ++ [path]) files' := by
  obtain ⟨hlink, h⟩ := raiseIf_bind_eq_ok h
  have hnoLinks : ∀ p ∈ seen ++ [path], fs.isSymlink p = false := by
    intro p hp
    rcases List.mem_append.mp hp with hp | hp
    · exact hI.noLinks p hp
    · rw [List.mem_singleton.mp hp]
      exact hlink
  have hseen : ∀ p ∈ files, p ∈ seen ++ [path] ∧ fs.isFile p = true ∧ exempt p = false := by
    intro p hp
    obtain ⟨hmem, hrest⟩ := hI.files p hp
    exact ⟨List.mem_append_left _ hmem, hrest⟩
  by_cases hskip : ¬fs.isFile path = true ∨ exempt path = true
  · rw [if_pos hskip] at h
    rw [← Except.ok.inj h]
    refine ⟨hnoLinks, ?_, hseen⟩
    intro p hp hfile hex
    rcases List.mem_append.mp hp with hp | hp
    · exact hI.verified p hp hfile hex
    · rw [List.mem_singleton.mp hp] at hfile hex
      rcases hskip with hno | hyes
      · exact absurd hfile hno
      · rw [hyes] at hex
        cases hex
  · rw [if_neg hskip] at h
    obtain ⟨u, hu, h⟩ := Outcome.bind_eq_ok h
    rw [← Except.ok.inj h]
    obtain ⟨hfile, hex⟩ := not_or.mp hskip
    refine ⟨hnoLinks, ?_, ?_⟩
    · intro p hp hpfile hpex
      rcases List.mem_append.mp hp with hp | hp
      · exact hI.verified p hp hpfile hpex
      · rw [List.mem_singleton.mp hp]
        exact hu
    · intro p hp
      rcases List.mem_append.mp hp with hp | hp
      · exact hseen p hp
      · rw [List.mem_singleton.mp hp]
        exact ⟨List.mem_append_right _ List.mem_cons_self, Classical.not_not.mp hfile,
          Bool.eq_false_iff.mpr hex⟩

theorem inventory_eq_ok {recordRows : Dict String RecordRow} {label : String}
    {exempt : Path → Bool} {top : Path} {files : List Path}
    (h : inventory py fs recordRows label exempt top = .ok files) :
    Inventoried py fs recordRows exempt (fs.rglob top) files := by
  have hinit : Inventoried py fs recordRows exempt [] [] := by
    constructor <;> (intro path hpath; cases hpath)
  have hrun := Outcome.foldlM_invariant (fun _ _ _ _ hI hstep => inventoried_snoc hI hstep) hinit h
  rw [List.nil_append] at hrun
  exact hrun

/-! ## Coverage -/

/-- `path` lies below the directory `top` of the site root. -/
def Under (top : String) (path : Path) : Prop := ∃ name rest, path = top :: name :: rest

/-- `path` is a regular file, reached without following a link at its end. -/
def IsRegular (fs : FileSystem Bytes) (path : Path) (content : Bytes) : Prop :=
  ∃ readable, fs.lstat path = some (.file readable content)

/-- `path` is outside hash coverage: a compiled module, or RECORD itself. -/
def Exempt (distInfo : String) (path : Path) : Prop := IsBytecode path ∨ path = [distInfo, "RECORD"]

/-- The one record with the path text of `path` carries the digest of `content`, and its size if it
    carries one. -/
def HasOneRow (py : Interpreter) (table : List (List String)) (path : Path) (content : Bytes) : Prop :=
  ∃ before hashText sizeText after, table = before ++ [asPosix path, hashText, sizeText] :: after ∧
    (∀ row ∈ before ++ after, row.head? ≠ some (asPosix path)) ∧
    RecordsDigest py hashText (urlsafeB64 (py.sha256 content)) ∧
    (sizeText = "" ∨ RecordsSize py sizeText content.length)

/-- **Hash coverage** of a site by the records of RECORD. -/
structure Covered (py : Interpreter) (fs : FileSystem Bytes) (distInfo : String)
    (table : List (List String)) : Prop where
  noLinks : ∀ top ∈ ["flightsql", distInfo], ∀ path node, Under top path →
    fs.lstat path = some node → node.isSymlink = false
  hashed : ∀ top ∈ ["flightsql", distInfo], ∀ path content, Under top path →
    IsRegular fs path content → ¬Exempt distInfo path → HasOneRow py table path content
  package : ∀ name ∈ requiredPackageFiles, ∃ path content, asPosix path = name ∧
    Under "flightsql" path ∧ IsRegular fs path content ∧ ¬IsBytecode path
  metadata : ∀ name ∈ requiredMetadataFiles, ∃ path content, asPosix path = name ∧
    IsRegular fs (distInfo :: path) content ∧ ¬Exempt distInfo (distInfo :: path)
  rows : ∀ row ∈ table, ∃ pathText hashText sizeText,
    row = [pathText, hashText, sizeText] ∧ RowAccepted py distInfo pathText hashText

/-- A walk that met no link has met every path below its directory. -/
theorem Inventoried.mem_seen {recordRows : Dict String RecordRow} {exempt : Path → Bool}
    {top : String} {files : List Path} {path : Path} {node : Node Bytes}
    (hI : Inventoried py fs recordRows exempt (fs.rglob [top]) files)
    (hunder : Under top path) (h : fs.lstat path = some node) : path ∈ fs.rglob [top] := by
  obtain ⟨name, rest, rfl⟩ := hunder
  have hbelow : fs.lstat ([top] ++ name :: rest) = some node := h
  exact FileSystem.mem_rglob_of_lstat (List.cons_ne_nil name rest) hI.noLinks hbelow

theorem Inventoried.not_symlink {recordRows : Dict String RecordRow} {exempt : Path → Bool}
    {top : String} {files : List Path} {path : Path} {node : Node Bytes}
    (hI : Inventoried py fs recordRows exempt (fs.rglob [top]) files)
    (hunder : Under top path) (h : fs.lstat path = some node) : node.isSymlink = false := by
  have hfalse : fs.isSymlink path = false := hI.noLinks path (hI.mem_seen hunder h)
  rw [FileSystem.isSymlink, h] at hfalse
  exact hfalse

/-- A file below the directory that is not exempt has its one row. -/
theorem Inventoried.hasOneRow {recordRows : Dict String RecordRow} {exempt : Path → Bool}
    {distInfo top : String} {table : List (List String)} {files : List Path} {path : Path}
    {content : Bytes} (hI : Inventoried py fs recordRows exempt (fs.rglob [top]) files)
    (hread : RowsRead py distInfo table recordRows) (hunder : Under top path)
    (hfile : IsRegular fs path content) (hex : exempt path = false) :
    HasOneRow py table path content := by
  obtain ⟨readable, hlstat⟩ := hfile
  have hisFile : fs.isFile path = true := by
    rw [FileSystem.isFile, FileSystem.stat_of_not_symlink hlstat rfl]
    rfl
  have hverified := hI.verified path (hI.mem_seen hunder hlstat) hisFile hex
  obtain ⟨row, hrow, hdigest, hsize⟩ := verifyScopedFile_eq_ok hlstat hverified
  obtain ⟨before, hashText, sizeText, after, htable, huniq, hparsed⟩ := hread.entry _ row hrow
  refine ⟨before, hashText, sizeText, after, htable, huniq, hparsed.digest _ hdigest, ?_⟩
  rcases hsize with hno | hsome
  · exact Or.inl (hparsed.noSize hno)
  · exact Or.inr (hparsed.size _ hsome)

/-- The files a walk verified are regular files below its directory. -/
theorem Inventoried.regular {recordRows : Dict String RecordRow} {exempt : Path → Bool}
    {top : String} {files : List Path} {path : Path}
    (hI : Inventoried py fs recordRows exempt (fs.rglob [top]) files) (hpath : path ∈ files) :
    ∃ content, Under top path ∧ IsRegular fs path content ∧ exempt path = false := by
  obtain ⟨hseen, hisFile, hex⟩ := hI.files path hpath
  obtain ⟨node, hlstat⟩ := FileSystem.lstat_of_mem_rglob hseen
  have hlink : node.isSymlink = false := by
    have hfalse := hI.noLinks path hseen
    rw [FileSystem.isSymlink, hlstat] at hfalse
    exact hfalse
  rw [FileSystem.isFile, FileSystem.stat_of_not_symlink hlstat hlink] at hisFile
  obtain ⟨t, rest, n, -, hp, hne, -⟩ := FileSystem.mem_rglob_iff.mp hseen
  obtain ⟨name, rest', rfl⟩ := List.exists_cons_of_ne_nil hne
  cases node with
  | file readable content => exact ⟨content, ⟨name, rest', hp⟩, ⟨readable, hlstat⟩, hex⟩
  | dir _ => cases hisFile
  | symlink => cases hisFile
  | other => cases hisFile

theorem packageExempt_eq_false {path : Path} : packageExempt path = false ↔ ¬IsBytecode path := by
  rw [packageExempt, decide_eq_false_iff_not, suffix_eq_pyc_iff]

theorem metadataExempt_eq_false {distInfo : String} {path : Path} :
    metadataExempt distInfo path = false ↔ ¬Exempt distInfo path := by
  rw [metadataExempt, decide_eq_false_iff_not, suffix_eq_pyc_iff, Exempt, or_comm]

/-- No name is missing from a list whose missing names are none. -/
theorem mem_of_filter_not_mem_eq_nil {names present : List String}
    (h : decide ((names.filter fun name => name ∉ present) ≠ []) = false) :
    ∀ name ∈ names, name ∈ present := by
  intro name hname
  have hnil : (names.filter fun name => name ∉ present) = [] :=
    Classical.byContradiction fun hne => (of_decide_eq_false h) hne
  have hmem := List.filter_eq_nil_iff.mp hnil name hname
  simpa using hmem

/-- **Acceptance is coverage**: if RECORD is read and the scoped inventory passes, the records of RECORD
    cover everything under `flightsql` and the metadata directory. -/
theorem scopedInventory_covered {distInfo : String} {recordRows : Dict String RecordRow}
    {paths : Path × Path} (hread : readRecord py fs distInfo = .ok recordRows)
    (h : verifyScopedInventory py fs distInfo recordRows = .ok paths) :
    ∃ table, recordTable fs distInfo = .ok table ∧ Covered py fs distInfo table := by
  obtain ⟨table, htable, hrows⟩ := readRecord_rows py hread
  obtain ⟨-, h⟩ := raiseIf_bind_eq_ok h
  obtain ⟨packageFiles, hpackage, h⟩ := Outcome.bind_eq_ok h
  obtain ⟨hmissing, h⟩ := raiseIf_bind_eq_ok h
  obtain ⟨metadataFiles, hmetadata, h⟩ := Outcome.bind_eq_ok h
  obtain ⟨hmissingMetadata, -⟩ := raiseIf_bind_eq_ok h
  have hpkg := inventory_eq_ok hpackage
  have hmeta := inventory_eq_ok hmetadata
  refine ⟨table, htable, ?_, ?_, ?_, ?_, hrows.accepted⟩
  · intro top htop path node hunder hlstat
    rcases List.mem_cons.mp htop with rfl | htop
    · exact hpkg.not_symlink hunder hlstat
    · rw [List.mem_singleton.mp htop] at hunder
      exact hmeta.not_symlink hunder hlstat
  · intro top htop path content hunder hfile hex
    rcases List.mem_cons.mp htop with rfl | htop
    · have hnot : packageExempt path = false :=
        packageExempt_eq_false.mpr fun hpyc => hex (Or.inl hpyc)
      exact hpkg.hasOneRow hrows hunder hfile hnot
    · rw [List.mem_singleton.mp htop] at hunder
      exact hmeta.hasOneRow hrows hunder hfile (metadataExempt_eq_false.mpr hex)
  · intro name hname
    obtain ⟨path, hpath, htext⟩ :=
      List.mem_map.mp (mem_of_filter_not_mem_eq_nil hmissing name hname)
    obtain ⟨content, hunder, hfile, hex⟩ := hpkg.regular hpath
    exact ⟨path, content, htext, hunder, hfile, packageExempt_eq_false.mp hex⟩
  · intro name hname
    obtain ⟨path, hpath, htext⟩ :=
      List.mem_map.mp (mem_of_filter_not_mem_eq_nil hmissingMetadata name hname)
    obtain ⟨content, ⟨first, rest, rfl⟩, hfile, hex⟩ := hmeta.regular hpath
    exact ⟨first :: rest, content, htext, hfile, metadataExempt_eq_false.mp hex⟩

/-! ## An accepted site -/

/-- The metadata directory of the release. -/
def releaseInfo : String := "flightsql_dbapi-0.2.2.5.dist-info"

/-- The fields of its RECORD: a row for every file without content, and two without a hash. -/
def releaseTable : List (List String) :=
  ((requiredPackageFiles ++ requiredMetadataFiles.map fun name => releaseInfo ++ "/" ++ name).map
    fun path => [path, "sha256=47DEQpj8HBSa-_TImW-5JCeuQeRkm5NMpJWZG3hSuFU", "0"]) ++
  [["flightsql/__pycache__/util.pyc", "", ""], [releaseInfo ++ "/RECORD", "", ""]]

def releaseRecord : List Char :=
  releaseTable.flatMap fun row => ((row.map String.toList).intersperse [',']).flatten ++ ['\n']

/-- An installation whose files are all empty but RECORD, with one compiled module. -/
def siteWithRecord (record : Bytes) : FileSystem Bytes where
  location := "/site-packages"
  root := .ofList
    [("flightsql", .dir (.ofList
        (("__pycache__", .dir (.ofList [("util.pyc", .file true [7])])) ::
          requiredPackageFiles.map fun name => (String.ofList (name.toList.drop 10), .file true [])))),
      (releaseInfo, .dir (.ofList
        (("RECORD", .file true record) ::
          requiredMetadataFiles.map fun name => (name, .file true []))))]
  follow := fun _ => none
  distinct := by rfl
  follow_distinct := fun _ _ h => by cases h

theorem siteWithRecord_lstat (record : Bytes) :
    (siteWithRecord record).lstat [releaseInfo, "RECORD"] = some (.file true record) := rfl

def releaseSite : FileSystem Bytes := siteWithRecord (utf8 (String.ofList releaseRecord))

theorem releaseSite_record : releaseSite.lstat [releaseInfo, "RECORD"] =
    some (.file true (utf8 (String.ofList releaseRecord))) := siteWithRecord_lstat _

theorem releaseRecord_rows :
    (Csv.records .init (Csv.lines (universalNewlines releaseRecord))).toOption =
      some releaseTable := by
  decide +kernel

theorem releaseSite_accepted : ∃ recordRows paths,
    readRecord .ascii releaseSite releaseInfo = .ok recordRows ∧
      verifyScopedInventory .ascii releaseSite releaseInfo recordRows = .ok paths := by
  have hloop : ((releaseTable.foldlM (recordRow .ascii releaseInfo) .empty).toOption.any
      fun recordRows => recordRows.contains (releaseInfo ++ "/RECORD") &&
        (verifyScopedInventory .ascii releaseSite releaseInfo recordRows).toOption.isSome) = true := by
    decide +kernel
  have hlink : releaseSite.isSymlink [releaseInfo, "RECORD"] = false := by
    rw [FileSystem.isSymlink, releaseSite_record]
    rfl
  have hfile : releaseSite.isFile [releaseInfo, "RECORD"] = true := by
    rw [FileSystem.isFile, FileSystem.stat_of_not_symlink releaseSite_record rfl]
    rfl
  have htable : recordTable releaseSite releaseInfo = .ok releaseTable :=
    recordTable_utf8 releaseSite_record releaseRecord_rows
  have hrows : releaseTable ≠ [] := by decide +kernel
  cases hfold : releaseTable.foldlM (recordRow .ascii releaseInfo) .empty with
  | error e => rw [hfold] at hloop; cases hloop
  | ok recordRows =>
    rw [hfold] at hloop
    simp only [Except.toOption, Option.any_some, Bool.and_eq_true] at hloop
    obtain ⟨hlisted, hinventory⟩ := hloop
    have hread : readRecord .ascii releaseSite releaseInfo = .ok recordRows :=
      readRecord_of_rows .ascii hlink hfile htable hrows hfold hlisted
    cases h : verifyScopedInventory .ascii releaseSite releaseInfo recordRows with
    | error e => rw [h] at hinventory; cases hinventory
    | ok paths => exact ⟨recordRows, paths, hread, h⟩

theorem scopedInventory_covered_releaseSite :
    ∃ table, recordTable releaseSite releaseInfo = .ok table ∧
      Covered .ascii releaseSite releaseInfo table := by
  obtain ⟨recordRows, paths, hread, h⟩ := releaseSite_accepted
  exact scopedInventory_covered hread h

end FlightSql.Provenance
