/-
  One installation, end to end — `_inspect_installed_distribution`, `_installed_distribution` and the whole
  of `verify` of `flightsql/provenance.py`.

  THE CODE selects a distribution, reads its RECORD, hashes the package and the metadata, compares three
  versions, reads INSTALLER and `direct_url.json`, and decides on the source.

  WHAT IT IS FOR: a result speaks of one installation (`Verified`): the version, the installer and the
  source it reports are read from files whose digests stand in the RECORD of the only candidate.

  1. **The source functions** — `inspectInstalledDistribution`, `installedDistribution`,
     `verifyInstallation`.

  2. **Recorded files** (`scopedInventory_recorded`) — each file that is read afterwards was hashed.

  3. **The report** (`verifySource_reports`) — what stands in a result beside its source.

  4. **Soundness** (`verifyInstallation_verified`).

  Mathlib-free.
-/
import FlightSql.Provenance.DirectUrl

set_option linter.unusedVariables false

namespace FlightSql.Provenance

open Lib

/-! ## The source functions -/

/-- The command line: the arguments of `verify`, and `--json`. -/
structure Arguments where
  expectedCommit : String
  expectedVersion : String := "0.2.2.5"
  expectedRepository : String := "https://github.com/preset-io/flightsql-dbapi.git"
  expectedArtifactSha256 : Option String := none
  allowLocalArtifact : Bool := false
  json : Bool := false

/-- `_InstalledDistribution`. -/
structure InstalledDistribution where
  distribution : Distribution
  siteRoot : PurePosixPath
  distInfo : PurePosixPath
  distInfoRelative : Path
  recordRows : Dict String RecordRow
  packageInit : Path
  directUrlPath : Path

variable {V : Type} (py : Platform) (lib : InstallLibrary V) (machine : Machine)

/-- `_inspect_installed_distribution`. -/
def inspectInstalledDistribution (discovered : List Distribution) : Except Exn InstalledDistribution := do
  let selected ← selectedDistribution py.toInterpreter lib.isSpace machine discovered
  let siteRoot := selected.2.1
  let distInfo := selected.2.2
  let recordRows ← readRecord py.toInterpreter (machine.site siteRoot) distInfo.name
  let paths ← verifyScopedInventory py.toInterpreter (machine.site siteRoot) distInfo.name recordRows
  .ok ⟨selected.1, siteRoot, distInfo, [distInfo.name], recordRows, paths.1, paths.2⟩

/-- The name in the distribution's METADATA. -/
def checkName (distribution : Distribution) : Except Exn Unit :=
  match distribution.name with
  | .keyError => .error (provenanceError "selected distribution METADATA has no project name")
  | .none => .error (provenanceError "selected distribution METADATA has the wrong project name")
  | .str name =>
    raiseIf (canonicalDistributionName py.toInterpreter name ≠ distributionName)
      "selected distribution METADATA has the wrong project name"

/-- `text.strip()`. -/
def strip (isSpace : Char → Bool) (text : String) : String :=
  String.ofList (rstrip isSpace (text.toList.dropWhile isSpace))

/-- The installer named in INSTALLER. -/
def readInstaller (fs : FileSystem Bytes) (distInfo : String) : Except Exn String :=
  match readText fs [distInfo, "INSTALLER"] with
  | .error _ => .error (provenanceError "installed INSTALLER cannot be read as UTF-8")
  | .ok text => do
    let installer := py.lower (strip lib.isSpace text)
    raiseIf (installer = "") "installed INSTALLER is empty"
    .ok installer

/-- **`_installed_distribution`**. -/
def installedDistribution (discovered : List Distribution) (expectedVersion : String) :
    Except Exn (InstalledDistribution × V × String) := do
  let expected ← version py.toInterpreter lib.toVersionLibrary expectedVersion "expected version"
  let installedLayout ← inspectInstalledDistribution py lib machine discovered
  let fs := machine.site installedLayout.siteRoot
  checkName py installedLayout.distribution
  let versionText ← installedLayout.distribution.version
  let installed ← version py.toInterpreter lib.toVersionLibrary versionText
    ("installed " ++ distributionName ++ " version")
  raiseIf (!lib.same installed expected)
    ("installed " ++ distributionName ++ " version " ++ py.repr (lib.versionText installed)
      ++ " does not equal " ++ py.repr (lib.versionText expected)
      ++ "; the explicit direct-reference installation assertion failed")
  let packageVersion ← packageVersion py.toInterpreter lib.toVersionLibrary fs installedLayout.packageInit
  raiseIf (!lib.same packageVersion expected)
    ("installed flightsql.__version__ " ++ py.repr (lib.versionText packageVersion)
      ++ " does not equal " ++ py.repr (lib.versionText expected))
  let installer ← readInstaller py lib fs installedLayout.distInfo.name
  .ok (installedLayout, expected, installer)

/-- What `verify` has before it decides on the source. -/
def installed (discovered : List Distribution) (expectedVersion : String) : Except Exn Installed := do
  let found ← installedDistribution py lib machine discovered expectedVersion
  let directUrl ← installedDirectUrl py.toInterpreter lib (machine.site found.1.siteRoot)
    found.1.directUrlPath
  .ok ⟨lib.versionText found.2.1, found.2.2, directUrl⟩

/-- **`verify`**, whole. -/
def verifyInstallation (discovered : List Distribution) (arguments : Arguments) :
    Except Exn VerificationResult :=
  verify py machine.toDisk (installed py lib machine discovered arguments.expectedVersion)
    arguments.expectedCommit arguments.expectedRepository arguments.expectedArtifactSha256
    arguments.allowLocalArtifact

variable {py lib machine}

/-! ## Recorded files -/

/-- A path with a text without separators is that one name. -/
theorem eq_of_asPosix {first name : String} {rest : Path} (hsep : '/' ∉ name.toList)
    (h : asPosix (first :: rest) = name) : first :: rest = [name] := by
  rcases rest with _ | ⟨second, rest⟩
  · rw [← h]
    simp [asPosix]
  · refine absurd ?_ hsep
    rw [← h, asPosix, String.intercalate_cons_cons, String.toList_append, String.toList_append]
    exact List.mem_append_left _ (List.mem_append_right _ (by decide))

/-- **A recorded text**: what a regular file is read as, whose bytes have the digest in RECORD's one row
    for it. -/
def RecordedText (py : Interpreter) (fs : FileSystem Bytes) (table : List (List String)) (path : Path)
    (text : String) : Prop :=
  ∃ content, IsRegular fs path content ∧ HasOneRow py table path content ∧ readText fs path = .ok text

/-- **What the inventory leaves**: all that is hashed, and the files that are read afterwards. -/
structure Recorded (py : Interpreter) (fs : FileSystem Bytes) (distInfo : String)
    (table : List (List String)) : Prop where
  read : recordTable fs distInfo = .ok table
  hashed : ∀ top ∈ ["flightsql", distInfo], ∀ path content, Under top path →
    IsRegular fs path content → ¬Exempt distInfo path → HasOneRow py table path content
  packageInit : ∃ content, IsRegular fs ["flightsql", "__init__.py"] content ∧
    HasOneRow py table ["flightsql", "__init__.py"] content
  metadata : ∀ name ∈ requiredMetadataFiles, ∃ content, IsRegular fs [distInfo, name] content ∧
    HasOneRow py table [distInfo, name] content

theorem scopedInventory_recorded {py : Interpreter} {fs : FileSystem Bytes} {distInfo : String}
    {recordRows : Dict String RecordRow} {paths : Path × Path}
    (hread : readRecord py fs distInfo = .ok recordRows)
    (h : verifyScopedInventory py fs distInfo recordRows = .ok paths) :
    paths = (["flightsql", "__init__.py"], [distInfo, "direct_url.json"]) ∧
      ∃ table, Recorded py fs distInfo table := by
  obtain ⟨table, htable, hrows⟩ := readRecord_rows py hread
  obtain ⟨-, h⟩ := raiseIf_bind_eq_ok h
  obtain ⟨packageFiles, hpackage, h⟩ := Outcome.bind_eq_ok h
  obtain ⟨hmissing, h⟩ := raiseIf_bind_eq_ok h
  obtain ⟨metadataFiles, hmetadata, h⟩ := Outcome.bind_eq_ok h
  obtain ⟨hmissingMetadata, h⟩ := raiseIf_bind_eq_ok h
  have hpkg := inventory_eq_ok hpackage
  have hmeta := inventory_eq_ok hmetadata
  refine ⟨(Except.ok.inj h).symm, table, htable, ?_, ?_, ?_⟩
  · intro top htop path content hunder hfile hex
    rcases List.mem_cons.mp htop with rfl | htop
    · have hnot : packageExempt path = false :=
        packageExempt_eq_false.mpr fun hpyc => hex (Or.inl hpyc)
      exact hpkg.hasOneRow hrows hunder hfile hnot
    · rw [List.mem_singleton.mp htop] at hunder
      exact hmeta.hasOneRow hrows hunder hfile (metadataExempt_eq_false.mpr hex)
  · -- the package's own module is a required file
    have hrequired : "flightsql/__init__.py" ∈ requiredPackageFiles := List.mem_cons_self
    obtain ⟨path, hpath, htext⟩ :=
      List.mem_map.mp (mem_of_filter_not_mem_eq_nil hmissing _ hrequired)
    obtain ⟨content, hunder, hfile, hex⟩ := hpkg.regular hpath
    have hrow := hpkg.hasOneRow hrows hunder hfile hex
    obtain ⟨first, rest, rfl⟩ := hunder
    have hname : asPosix (first :: rest) = "__init__.py" := by
      rw [asPosix, String.intercalate_cons_cons] at htext
      exact String.append_right_inj _ |>.mp htext
    rw [eq_of_asPosix (by decide) hname] at hfile hrow
    exact ⟨content, hfile, hrow⟩
  · intro name hname
    obtain ⟨path, hpath, htext⟩ :=
      List.mem_map.mp (mem_of_filter_not_mem_eq_nil hmissingMetadata name hname)
    obtain ⟨content, hunder, hfile, hex⟩ := hmeta.regular hpath
    have hrow := hmeta.hasOneRow hrows hunder hfile hex
    obtain ⟨first, rest, rfl⟩ := hunder
    have hsep : '/' ∉ name.toList := by
      have hall : ∀ name ∈ requiredMetadataFiles, '/' ∉ name.toList := by decide
      exact hall name hname
    rw [eq_of_asPosix hsep htext] at hfile hrow
    exact ⟨content, hfile, hrow⟩

/-! ## The report -/

/-- **What a result reports beside its source**: constants, the version and the installer, and only
    digests it has matched. -/
structure Reports (py : Platform) (installed : Installed) (digest : Option String)
    (r : VerificationResult) : Prop where
  scope : r.ok = true ∧ r.distribution = distributionName ∧ r.versionVerified = true ∧
    r.packageSourceRecordSha256Verified = true ∧ r.distributionMetadataRecordSha256Verified = true ∧
    r.directUrlRecordSha256Verified = true
  version : r.installedVersion = installed.version
  installer : r.installer = installed.installer
  archive : ∀ sha256, r.recordedArchiveSha256Matched = some sha256 →
    digest = some sha256 ∧ RecordsArchiveDigest py installed.directUrl sha256
  artifact : ∀ sha256, r.localArtifactFileSha256Verified = some sha256 → digest = some sha256

theorem verifyLocal_digest {disk : Disk} {installed : Installed} {url commit : String}
    {expected : Option String} {allow : Bool} {r : VerificationResult}
    (h : verifyLocal py disk installed url commit expected allow = .ok r) :
    ∃ sha256, expected = some sha256 ∧
      r = result installed "local-artifact" commit false none none (some sha256) := by
  obtain ⟨-, h⟩ := raiseIf_bind_eq_ok h
  obtain ⟨-, h⟩ := raiseIf_bind_eq_ok h
  obtain ⟨recorded, -, h⟩ := Outcome.bind_eq_ok h
  obtain ⟨verified, hverified, hreturn⟩ := Outcome.bind_eq_ok h
  rcases expected with _ | expected
  · cases hverified
  obtain ⟨parsed, -, hverified⟩ := Outcome.bind_eq_ok hverified
  obtain ⟨-, hverified⟩ := raiseIf_bind_eq_ok hverified
  obtain ⟨-, hverified⟩ := raiseIf_bind_eq_ok hverified
  obtain ⟨-, hverified⟩ := raiseIf_bind_eq_ok hverified
  obtain ⟨-, hverified⟩ := raiseIf_bind_eq_ok hverified
  obtain ⟨actual, -, hverified⟩ := Outcome.bind_eq_ok hverified
  obtain ⟨hhash, hactual⟩ := raiseIf_bind_eq_ok hverified
  have hsame : actual = expected := by simpa using hhash
  refine ⟨expected, rfl, ?_⟩
  rw [← hsame, Except.ok.inj hactual]
  exact (Except.ok.inj hreturn).symm

theorem verifySource_reports {disk : Disk} {installed : Installed} {commit repository : String}
    {expected : Option String} {allow : Bool} {r : VerificationResult}
    (h : verifySource py disk installed commit repository expected allow = .ok r) :
    Reports py installed expected r := by
  unfold verifySource at h
  split at h
  · rename_i url hurl
    split at h
    · rename_i vcsInfo hvcs
      unfold verifyGit at h
      split at h
      · obtain ⟨-, h⟩ := raiseIf_bind_eq_ok h
        obtain ⟨-, -, h⟩ := Outcome.bind_eq_ok h
        rw [← Except.ok.inj h]
        exact ⟨⟨rfl, rfl, rfl, rfl, rfl, rfl⟩, rfl, rfl, (fun _ h => nomatch h), fun _ h => nomatch h⟩
      · cases h
    · obtain ⟨accepted, -, h⟩ := Outcome.bind_eq_ok h
      by_cases hmem : py.lower url ∈ accepted.map py.lower
      · rw [if_pos hmem] at h
        obtain ⟨-, sha256, hexpected, hrecorded, rfl⟩ := verifyArchive_eq_ok h
        refine ⟨⟨rfl, rfl, rfl, rfl, rfl, rfl⟩, rfl, rfl, (fun d hd => ?_), fun _ h => nomatch h⟩
        obtain rfl : sha256 = d := Option.some.inj hd
        exact ⟨hexpected, hrecorded⟩
      · rw [if_neg hmem] at h
        obtain ⟨parsed, -, h⟩ := Outcome.bind_eq_ok h
        by_cases hscheme : parsed.scheme = "file"
        · rw [if_pos hscheme] at h
          obtain ⟨sha256, hexpected, rfl⟩ := verifyLocal_digest h
          refine ⟨⟨rfl, rfl, rfl, rfl, rfl, rfl⟩, rfl, rfl, (fun _ h => nomatch h), fun d hd => ?_⟩
          rw [hexpected]
          exact hd
        · rw [if_neg hscheme] at h
          cases h
  · cases h

/-! ## Soundness -/

theorem checkName_eq_ok {distribution : Distribution} {u : Unit} :
    checkName py distribution = .ok u ↔ ∃ name, distribution.name = .str name ∧
      canonicalDistributionName py.toInterpreter name = distributionName := by
  unfold checkName
  rcases distribution.name with _ | _ | name
  · simp
  · simp
  · simp

theorem readInstaller_eq_ok {fs : FileSystem Bytes} {distInfo installer : String}
    (h : readInstaller py lib fs distInfo = .ok installer) :
    ∃ text, readText fs [distInfo, "INSTALLER"] = .ok text ∧
      installer = py.lower (strip lib.isSpace text) ∧ installer ≠ "" := by
  unfold readInstaller at h
  split at h
  · cases h
  rename_i text htext
  obtain ⟨hempty, h⟩ := raiseIf_bind_eq_ok h
  have hinstaller := (Except.ok.inj h).symm
  refine ⟨text, htext, hinstaller, ?_⟩
  rw [hinstaller]
  simpa using hempty

theorem packageVersion_eq_ok {lib : VersionLibrary V} {py : Interpreter} {fs : FileSystem Bytes}
    {packageInit : Path} {v : V} (h : packageVersion py lib fs packageInit = .ok v) :
    ∃ text body, readText fs packageInit = .ok text ∧ lib.parse text = .ok body ∧
      ∃ value, Accepted lib body value v := by
  have hrun := h
  obtain ⟨body, hbody, -⟩ := Outcome.bind_eq_ok h
  have hmodule := hbody
  unfold moduleBody at hbody
  split at hbody
  · cases hbody
  rename_i text htext
  split at hbody
  · rename_i body' hparse
    obtain rfl : body' = body := Except.ok.inj hbody
    exact ⟨text, body', htext, hparse, (packageVersion_eq_ok_iff hmodule).mp hrun⟩
  · cases hbody
  · cases hbody

/-- **One verified installation**: what is selected, hashed, compared, read and reported. -/
structure Verified (py : Platform) (lib : InstallLibrary V) (machine : Machine)
    (discovered : List Distribution) (arguments : Arguments) (r : VerificationResult)
    (distribution : Distribution) (siteRoot distInfo : PurePosixPath) (table : List (List String))
    (expected : V) (directUrl : Dict String Json) : Prop where
  selected : Selects py.toInterpreter lib.isSpace machine discovered distribution siteRoot distInfo
  recorded : Recorded py.toInterpreter (machine.site siteRoot) distInfo.name table
  name : ∃ name, distribution.name = .str name ∧
    canonicalDistributionName py.toInterpreter name = distributionName
  asserted : lib.parsed arguments.expectedVersion = some expected
  version : ∃ text v, distribution.version = .ok text ∧ lib.parsed text = some v ∧
    lib.same v expected = true
  package : ∃ text body value v, RecordedText py.toInterpreter (machine.site siteRoot) table
      ["flightsql", "__init__.py"] text ∧
    lib.parse text = .ok body ∧ Accepted lib.toVersionLibrary body value v ∧ lib.same v expected = true
  installer : ∃ text, RecordedText py.toInterpreter (machine.site siteRoot) table
      [distInfo.name, "INSTALLER"] text ∧
    r.installer = py.lower (strip lib.isSpace text) ∧ r.installer ≠ ""
  origin : ∃ text, RecordedText py.toInterpreter (machine.site siteRoot) table
      [distInfo.name, "direct_url.json"] text ∧
    lib.loads text = .value (.obj directUrl.entries) ∧ (Json.obj directUrl.entries).UniqueKeys
  commit : isFullSha arguments.expectedCommit = true ∧
    r.expectedCommit = py.lower arguments.expectedCommit
  source : Sound py machine.toDisk directUrl arguments.expectedCommit arguments.expectedRepository
    arguments.expectedArtifactSha256 arguments.allowLocalArtifact r
  reports : ∃ digest, expectedHash py arguments.expectedArtifactSha256 = .ok digest ∧
    Reports py ⟨lib.versionText expected, r.installer, directUrl⟩ digest r

theorem inspectInstalledDistribution_eq_ok {discovered : List Distribution}
    {layout : InstalledDistribution} :
    inspectInstalledDistribution py lib machine discovered = .ok layout ↔
      ∃ distribution siteRoot distInfo recordRows paths,
        selectedDistribution py.toInterpreter lib.isSpace machine discovered =
          .ok (distribution, siteRoot, distInfo) ∧
        readRecord py.toInterpreter (machine.site siteRoot) distInfo.name = .ok recordRows ∧
        verifyScopedInventory py.toInterpreter (machine.site siteRoot) distInfo.name recordRows = .ok paths ∧
        layout = ⟨distribution, siteRoot, distInfo, [distInfo.name], recordRows, paths.1, paths.2⟩ := by
  constructor
  · intro h
    obtain ⟨⟨distribution, siteRoot, distInfo⟩, hselected, h⟩ := Outcome.bind_eq_ok h
    obtain ⟨recordRows, hrows, h⟩ := Outcome.bind_eq_ok h
    obtain ⟨paths, hpaths, h⟩ := Outcome.bind_eq_ok h
    exact ⟨distribution, siteRoot, distInfo, recordRows, paths, hselected, hrows, hpaths,
      (Except.ok.inj h).symm⟩
  · rintro ⟨distribution, siteRoot, distInfo, recordRows, paths, hselected, hrows, hpaths, rfl⟩
    simp only [inspectInstalledDistribution, hselected, hrows, hpaths, bind, Except.bind]

theorem installedDistribution_eq_ok {discovered : List Distribution} {expectedVersion installer : String}
    {layout : InstalledDistribution} {expected : V} :
    installedDistribution py lib machine discovered expectedVersion = .ok (layout, expected, installer) ↔
      ∃ versionText v packaged,
        version py.toInterpreter lib.toVersionLibrary expectedVersion "expected version" = .ok expected ∧
        inspectInstalledDistribution py lib machine discovered = .ok layout ∧
        checkName py layout.distribution = .ok () ∧ layout.distribution.version = .ok versionText ∧
        version py.toInterpreter lib.toVersionLibrary versionText
          ("installed " ++ distributionName ++ " version") = .ok v ∧ lib.same v expected = true ∧
        packageVersion py.toInterpreter lib.toVersionLibrary (machine.site layout.siteRoot)
          layout.packageInit = .ok packaged ∧ lib.same packaged expected = true ∧
        readInstaller py lib (machine.site layout.siteRoot) layout.distInfo.name = .ok installer := by
  constructor
  · intro h
    obtain ⟨expected', hexpected, h⟩ := Outcome.bind_eq_ok h
    obtain ⟨layout', hlayout, h⟩ := Outcome.bind_eq_ok h
    obtain ⟨_, hname, h⟩ := Outcome.bind_eq_ok h
    obtain ⟨versionText, hversionText, h⟩ := Outcome.bind_eq_ok h
    obtain ⟨v, hv, h⟩ := Outcome.bind_eq_ok h
    obtain ⟨hsame, h⟩ := raiseIf_bind_eq_ok h
    obtain ⟨packaged, hpackaged, h⟩ := Outcome.bind_eq_ok h
    obtain ⟨hsamePackage, h⟩ := raiseIf_bind_eq_ok h
    obtain ⟨installer', hinstaller, h⟩ := Outcome.bind_eq_ok h
    obtain ⟨rfl, rfl, rfl⟩ : layout' = layout ∧ expected' = expected ∧ installer' = installer := by
      simpa using h
    exact ⟨versionText, v, packaged, hexpected, hlayout, hname, hversionText, hv, by simpa using hsame,
      hpackaged, by simpa using hsamePackage, hinstaller⟩
  · rintro ⟨versionText, v, packaged, hexpected, hlayout, hname, hversionText, hv, hsame, hpackaged,
      hsamePackage, hinstaller⟩
    simp only [installedDistribution, hexpected, hlayout, hname, hversionText, hv, hsame, hpackaged,
      hsamePackage, hinstaller, raiseIf, Bool.not_true, Bool.false_eq_true, if_false, bind, Except.bind]

theorem installed_eq_ok {discovered : List Distribution} {expectedVersion : String} {i : Installed} :
    installed py lib machine discovered expectedVersion = .ok i ↔ ∃ layout expected installer directUrl,
      installedDistribution py lib machine discovered expectedVersion = .ok (layout, expected, installer) ∧
      installedDirectUrl py.toInterpreter lib (machine.site layout.siteRoot) layout.directUrlPath =
        .ok directUrl ∧
      i = ⟨lib.versionText expected, installer, directUrl⟩ := by
  constructor
  · intro h
    obtain ⟨⟨layout, expected, installer⟩, hfound, h⟩ := Outcome.bind_eq_ok h
    obtain ⟨directUrl, hdirectUrl, h⟩ := Outcome.bind_eq_ok h
    exact ⟨layout, expected, installer, directUrl, hfound, hdirectUrl, (Except.ok.inj h).symm⟩
  · rintro ⟨layout, expected, installer, directUrl, hfound, hdirectUrl, rfl⟩
    simp only [installed, hfound, hdirectUrl, bind, Except.bind]

theorem verifyInstallation_eq_ok {discovered : List Distribution} {arguments : Arguments}
    {r : VerificationResult} :
    verifyInstallation py lib machine discovered arguments = .ok r ↔
      isFullSha arguments.expectedCommit = true ∧ ∃ digest i,
        expectedHash py arguments.expectedArtifactSha256 = .ok digest ∧
        installed py lib machine discovered arguments.expectedVersion = .ok i ∧
        verifySource py machine.toDisk i (py.lower arguments.expectedCommit) arguments.expectedRepository
          digest arguments.allowLocalArtifact = .ok r := by
  constructor
  · intro h
    obtain ⟨hsha, h⟩ := raiseIf_bind_eq_ok h
    obtain ⟨digest, hdigest, h⟩ := Outcome.bind_eq_ok h
    obtain ⟨i, hinstalled, hsource⟩ := Outcome.bind_eq_ok h
    exact ⟨by simpa using hsha, digest, i, hdigest, hinstalled, hsource⟩
  · rintro ⟨hsha, digest, i, hdigest, hinstalled, hsource⟩
    simp only [verifyInstallation, verify, hsha, hdigest, hinstalled, hsource, raiseIf, Bool.not_true,
      Bool.false_eq_true, if_false, bind, Except.bind]

/-- **`verify` is sound**: a result speaks of one verified installation. -/
theorem verifyInstallation_verified {discovered : List Distribution} {arguments : Arguments}
    {r : VerificationResult} (h : verifyInstallation py lib machine discovered arguments = .ok r) :
    ∃ distribution siteRoot distInfo table expected directUrl,
      Verified py lib machine discovered arguments r distribution siteRoot distInfo table expected
        directUrl := by
  obtain ⟨hsha, digest, i, hdigest, hinstalled, hsource⟩ := verifyInstallation_eq_ok.mp h
  obtain ⟨inspected, expected, installer, directUrl, hfound, hdirectUrl, rfl⟩ := installed_eq_ok.mp hinstalled
  obtain ⟨versionText, v, packaged, hexpected, hinspected, hname, hversionText, hv, hsame, hpackaged,
    hsamePackage, hinstaller⟩ := installedDistribution_eq_ok.mp hfound
  obtain ⟨distribution, siteRoot, distInfo, recordRows, paths, hselected, hrows, hpaths, rfl⟩ :=
    inspectInstalledDistribution_eq_ok.mp hinspected
  obtain ⟨rfl, table, hrecorded⟩ := scopedInventory_recorded hrows hpaths
  obtain ⟨initText, body, hinit, hparse, value, haccepted⟩ := packageVersion_eq_ok hpackaged
  obtain ⟨installerText, hinstallerText, hinstallerValue, hnonempty⟩ := readInstaller_eq_ok hinstaller
  obtain ⟨urlText, hurlText, hloads, hunique⟩ := installedDirectUrl_iff.mp hdirectUrl
  obtain ⟨hcommit, hsound⟩ := verifySource_sound hdigest hsource
  have hreports := verifySource_reports hsource
  have hreported : r.installer = installer := hreports.installer
  refine ⟨distribution, siteRoot, distInfo, table, expected, directUrl, ?_⟩
  constructor
  case selected => exact selectedDistribution_iff.mp hselected
  case recorded => exact hrecorded
  case name => exact checkName_eq_ok.mp hname
  case asserted => exact version_eq_ok_iff.mp hexpected
  case version => exact ⟨versionText, v, hversionText, version_eq_ok_iff.mp hv, hsame⟩
  case package =>
    obtain ⟨content, hregular, hrow⟩ := hrecorded.packageInit
    exact ⟨initText, body, value, packaged, ⟨content, hregular, hrow, hinit⟩, hparse, haccepted,
      hsamePackage⟩
  case installer =>
    obtain ⟨content, hregular, hrow⟩ := hrecorded.metadata "INSTALLER" (by decide)
    rw [hreported]
    exact ⟨installerText, ⟨content, hregular, hrow, hinstallerText⟩, hinstallerValue, hnonempty⟩
  case origin =>
    obtain ⟨content, hregular, hrow⟩ := hrecorded.metadata "direct_url.json" (by decide)
    exact ⟨urlText, ⟨content, hregular, hrow, hurlText⟩, hloads, hunique⟩
  case commit => exact ⟨hsha, hcommit⟩
  case source => exact hsound
  case reports =>
    rw [hreported]
    exact ⟨digest, hdigest, hreports⟩

/-! ## A verified installation -/

/-- The release, installed from a Git checkout: the texts of its files that are read. -/
def releaseCommit : String := "0123456789abcdef0123456789abcdef01234567"

def releaseMetadataText : String := "Name: flightsql-dbapi\nVersion: 0.2.2.5\n"

def releaseDirectUrl : String :=
  "\x7b\"url\": \"https://github.com/preset-io/flightsql-dbapi.git\", \"vcs_info\": \x7b\"vcs\": \"git\", "
    ++ "\"commit_id\": \"0123456789abcdef0123456789abcdef01234567\", "
    ++ "\"requested_revision\": \"0123456789abcdef0123456789abcdef01234567\"\x7d\x7d\n"

def releaseOrigin : List (String × Json) :=
  [("url", .str "https://github.com/preset-io/flightsql-dbapi.git"),
    ("vcs_info", .obj
      [("vcs", .str "git"), ("commit_id", .str releaseCommit), ("requested_revision", .str releaseCommit)])]

/-- A platform that has the digests of these texts. -/
def releasePlatform : Platform :=
  { Platform.ascii with
    sha256 := fun content =>
      match content.length with
      | 24 =>
        [209, 193, 119, 99, 232, 129, 150, 174, 216, 53, 190, 110, 27, 182, 19, 43, 148, 43, 15, 215, 182,
          31, 124, 200, 79, 84, 184, 204, 111, 39, 165, 59]
      | 4 =>
        [206, 235, 174, 123, 137, 39, 163, 34, 126, 83, 3, 207, 94, 15, 31, 123, 52, 187, 84, 42, 215, 37,
          10, 192, 63, 188, 222, 54, 236, 47, 21, 8]
      | 39 =>
        [130, 60, 6, 242, 189, 200, 41, 24, 253, 11, 30, 185, 111, 4, 159, 171, 113, 159, 131, 13, 113, 60,
          211, 228, 208, 69, 76, 76, 185, 143, 51, 27]
      | 211 =>
        [139, 210, 215, 8, 185, 20, 170, 117, 176, 96, 164, 49, 39, 255, 156, 86, 100, 242, 203, 194, 217,
          254, 115, 158, 91, 200, 50, 224, 246, 126, 68, 102]
      | _ => emptySha256 }

/-- The libraries, on these texts. -/
def releaseLibrary : InstallLibrary String :=
  { VersionLibrary.releases with
    isSpace := fun c => c = ' ' ∨ c = '\n'
    loads := fun text => if text = releaseDirectUrl then .value (.obj releaseOrigin) else .failed [] .decodeError
    same := fun v v' => v = v'
    versionText := id }

/-- The records of its RECORD. -/
def verifiedTable : List (List String) :=
  ["flightsql/__init__.py", "sha256=0cF3Y-iBlq7YNb5uG7YTK5QrD9e2H3zIT1S4zG8npTs", "24"] ::
  ((requiredPackageFiles.drop 1).map fun path =>
    [path, "sha256=47DEQpj8HBSa-_TImW-5JCeuQeRkm5NMpJWZG3hSuFU", "0"]) ++
  [[releaseInfo ++ "/INSTALLER", "sha256=zuuue4knoyJ-UwPPXg8fezS7VCrXJQrAP7zeNuwvFQg", "4"],
    [releaseInfo ++ "/METADATA", "sha256=gjwG8r3IKRj9Cx65bwSfq3Gfgw1xPNPk0EVMTLmPMxs", "39"],
    [releaseInfo ++ "/RECORD", "", ""],
    [releaseInfo ++ "/direct_url.json", "sha256=i9LXCLkUqnWwYKQxJ_-cVmTyy8LZ_nOeW8gy4PZ-RGY", "211"]]

def verifiedRecord : List Char :=
  verifiedTable.flatMap fun row => ((row.map String.toList).intersperse [',']).flatten ++ ['\n']

theorem unlinked_distinct (path : Path) (node : Node Bytes) (h : (none : Option (Node Bytes)) = some node) :
    node.distinct = true := nomatch h

/-- An installation with these contents, and otherwise empty files. -/
def siteOf (init installer metadata record directUrl : Bytes) : FileSystem Bytes where
  location := "/site-packages"
  root := .ofList
    [("flightsql", .dir (.ofList
        (("__init__.py", .file true init) ::
          (requiredPackageFiles.drop 1).map fun name => (String.ofList (name.toList.drop 10), .file true [])))),
      (releaseInfo, .dir (.ofList
        [("INSTALLER", .file true installer), ("METADATA", .file true metadata),
          ("RECORD", .file true record), ("direct_url.json", .file true directUrl)]))]
  follow := fun _ => none
  distinct := by rfl
  follow_distinct := unlinked_distinct

theorem siteOf_lstat (init installer metadata record directUrl : Bytes) :
    (siteOf init installer metadata record directUrl).lstat ["flightsql", "__init__.py"] =
        some (.file true init) ∧
      (siteOf init installer metadata record directUrl).lstat [releaseInfo, "INSTALLER"] =
        some (.file true installer) ∧
      (siteOf init installer metadata record directUrl).lstat [releaseInfo, "RECORD"] =
        some (.file true record) ∧
      (siteOf init installer metadata record directUrl).lstat [releaseInfo, "direct_url.json"] =
        some (.file true directUrl) :=
  ⟨rfl, rfl, rfl, rfl⟩

def verifiedSite : FileSystem Bytes :=
  siteOf (utf8 literalModule) (utf8 "pip\n") (utf8 releaseMetadataText)
    (utf8 (String.ofList verifiedRecord)) (utf8 releaseDirectUrl)

def verifiedInfo : PurePosixPath := ⟨true, ["site-packages", releaseInfo]⟩

/-- The machine it is on. -/
def verifiedMachine : Machine where
  lstat path := if path = verifiedInfo then some (.dir .nil) else none
  stat path := if path = verifiedInfo then some (.dir .nil) else none
  stat_of_lstat := fun _ _ h _ => h
  lstat_of_stat := fun _ node h => ⟨node, h⟩
  resolve := id
  site _ := verifiedSite

def verifiedDistribution : Distribution where
  path := some verifiedInfo
  located := ⟨true, ["site-packages"]⟩
  name := .str "flightsql-dbapi"
  version := .ok "0.2.2.5"

theorem verifiedRecord_rows :
    (Csv.records .init (Csv.lines (universalNewlines verifiedRecord))).toOption = some verifiedTable := by
  decide +kernel

theorem selects_verified : Selects releasePlatform.toInterpreter releaseLibrary.isSpace verifiedMachine
    [verifiedDistribution] verifiedDistribution ⟨true, ["site-packages"]⟩ verifiedInfo where
  last := ⟨[], rfl⟩
  found := fun d hd => by
    rw [List.mem_singleton.mp hd]
    exact ⟨verifiedInfo, rfl, by decide +kernel, rfl⟩
  root := rfl
  inside := rfl
  alone := fun name hname => by
    have hnames : distInfoNames verifiedSite = [releaseInfo] := by decide +kernel
    have hrelease : name = releaseInfo := List.mem_singleton.mp (hnames ▸ hname)
    rw [hrelease]
    exact Or.inl rfl

theorem readText_verified {path : Path} {text : String}
    (h : verifiedSite.lstat path = some (.file true (utf8 text)))
    (hlines : universalNewlines text.toList = text.toList) :
    readText verifiedSite path = .ok text := by
  rw [readText_utf8 h, hlines, String.ofList_toList]

theorem inspected_verified : ∃ recordRows,
    inspectInstalledDistribution releasePlatform releaseLibrary verifiedMachine [verifiedDistribution] =
      .ok ⟨verifiedDistribution, ⟨true, ["site-packages"]⟩, verifiedInfo, [releaseInfo], recordRows,
        ["flightsql", "__init__.py"], [releaseInfo, "direct_url.json"]⟩ := by
  have hloop : ((verifiedTable.foldlM (recordRow releasePlatform.toInterpreter releaseInfo) .empty).toOption.any
      fun recordRows => recordRows.contains (releaseInfo ++ "/RECORD") &&
        (verifyScopedInventory releasePlatform.toInterpreter verifiedSite releaseInfo
          recordRows).toOption.isSome) = true := by
    decide +kernel
  have hlstat : verifiedSite.lstat [releaseInfo, "RECORD"] =
      some (.file true (utf8 (String.ofList verifiedRecord))) := (siteOf_lstat _ _ _ _ _).2.2.1
  have hlink : verifiedSite.isSymlink [releaseInfo, "RECORD"] = false := by
    rw [FileSystem.isSymlink, hlstat]
    rfl
  have hfile : verifiedSite.isFile [releaseInfo, "RECORD"] = true := by
    rw [FileSystem.isFile, FileSystem.stat_of_not_symlink hlstat rfl]
    rfl
  have htable : recordTable verifiedSite releaseInfo = .ok verifiedTable :=
    recordTable_utf8 hlstat verifiedRecord_rows
  rcases hfold : verifiedTable.foldlM (recordRow releasePlatform.toInterpreter releaseInfo) .empty with
    e | recordRows
  · rw [hfold] at hloop
    cases hloop
  rw [hfold] at hloop
  simp only [Except.toOption, Option.any_some, Bool.and_eq_true] at hloop
  obtain ⟨hlisted, hinventory⟩ := hloop
  have hread : readRecord releasePlatform.toInterpreter verifiedSite releaseInfo = .ok recordRows :=
    readRecord_of_rows _ hlink hfile htable (by decide +kernel) hfold hlisted
  rcases hpaths : verifyScopedInventory releasePlatform.toInterpreter verifiedSite releaseInfo recordRows with
    e | paths
  · rw [hpaths] at hinventory
    cases hinventory
  obtain ⟨rfl, -⟩ := scopedInventory_recorded hread hpaths
  exact ⟨recordRows, inspectInstalledDistribution_eq_ok.mpr
    ⟨_, _, _, recordRows, _, selectedDistribution_iff.mpr selects_verified, hread, hpaths, rfl⟩⟩

theorem uniqueKeys_releaseOrigin : (Json.obj releaseOrigin).UniqueKeys := by
  intro pairs hoccurs
  have hcompleted := (mem_completed_iff _ _).mpr hoccurs
  have hall : ∀ pairs ∈ (Json.obj releaseOrigin).completed, (pairs.map Prod.fst).Nodup := by
    decide +kernel
  exact hall pairs hcompleted

def releaseDirectUrlObject : Dict String Json := ⟨releaseOrigin, by decide +kernel⟩

/-- The statements of the package's own module. -/
def literalBody : List Stmt := [.assign [.name "__version__"] (.str "0.2.2.5")]

theorem installedDistribution_verified : ∃ layout,
    installedDistribution releasePlatform releaseLibrary verifiedMachine [verifiedDistribution] "0.2.2.5" =
      .ok (layout, "0.2.2.5", "pip") ∧
    layout.siteRoot = ⟨true, ["site-packages"]⟩ ∧ layout.directUrlPath = [releaseInfo, "direct_url.json"] := by
  obtain ⟨recordRows, hinspected⟩ := inspected_verified
  obtain ⟨hinit, hinstaller, -, -⟩ := siteOf_lstat (utf8 literalModule) (utf8 "pip\n")
    (utf8 releaseMetadataText) (utf8 (String.ofList verifiedRecord)) (utf8 releaseDirectUrl)
  have hinit := readText_verified hinit (by decide +kernel)
  have hinstaller := readText_verified hinstaller (by decide +kernel)
  have hbody : moduleBody releaseLibrary.toVersionLibrary verifiedSite ["flightsql", "__init__.py"] =
      .ok literalBody := by
    rw [moduleBody, hinit]
    rfl
  have hpackaged : packageVersion releasePlatform.toInterpreter releaseLibrary.toVersionLibrary verifiedSite
      ["flightsql", "__init__.py"] = .ok "0.2.2.5" :=
    (packageVersion_eq_ok_iff hbody).mpr ⟨"0.2.2.5", rfl, rfl⟩
  have hread : readInstaller releasePlatform releaseLibrary verifiedSite releaseInfo = .ok "pip" := by
    rw [readInstaller, hinstaller]
    rfl
  have hversion : version releasePlatform.toInterpreter releaseLibrary.toVersionLibrary "0.2.2.5"
      "expected version" = .ok "0.2.2.5" := version_eq_ok_iff.mpr rfl
  have hdeclared : version releasePlatform.toInterpreter releaseLibrary.toVersionLibrary "0.2.2.5"
      ("installed " ++ distributionName ++ " version") = .ok "0.2.2.5" := version_eq_ok_iff.mpr rfl
  have hname : checkName releasePlatform verifiedDistribution = .ok () :=
    checkName_eq_ok.mpr ⟨"flightsql-dbapi", rfl, by decide +kernel⟩
  have hsame : releaseLibrary.same "0.2.2.5" "0.2.2.5" = true := by decide
  refine ⟨_, installedDistribution_eq_ok.mpr ⟨"0.2.2.5", "0.2.2.5", "0.2.2.5", hversion, hinspected,
    hname, rfl, hdeclared, hsame, ?_, hsame, ?_⟩, rfl, rfl⟩
  · exact hpackaged
  · exact hread

theorem installed_verified : installed releasePlatform releaseLibrary verifiedMachine [verifiedDistribution]
    "0.2.2.5" = .ok ⟨"0.2.2.5", "pip", releaseDirectUrlObject⟩ := by
  obtain ⟨layout, hfound, hroot, hpath⟩ := installedDistribution_verified
  obtain ⟨-, -, -, hurl⟩ := siteOf_lstat (utf8 literalModule) (utf8 "pip\n")
    (utf8 releaseMetadataText) (utf8 (String.ofList verifiedRecord)) (utf8 releaseDirectUrl)
  have hurl := readText_verified hurl (by decide +kernel)
  have hloads : releaseLibrary.loads releaseDirectUrl = .value (.obj releaseDirectUrlObject.entries) := by
    unfold releaseLibrary
    simp only [if_true]
    rfl
  refine installed_eq_ok.mpr ⟨layout, _, _, releaseDirectUrlObject, hfound, ?_, rfl⟩
  rw [hroot, hpath]
  exact installedDirectUrl_iff.mpr ⟨releaseDirectUrl, hurl, hloads, uniqueKeys_releaseOrigin⟩

theorem verifyInstallation_release : ∃ r, verifyInstallation releasePlatform releaseLibrary verifiedMachine
    [verifiedDistribution] { expectedCommit := releaseCommit } = .ok r := by
  have hsource : (verifySource releasePlatform verifiedMachine.toDisk
      ⟨"0.2.2.5", "pip", releaseDirectUrlObject⟩ (releasePlatform.lower releaseCommit)
      "https://github.com/preset-io/flightsql-dbapi.git" none false).toOption.isSome = true := by
    decide +kernel
  have hsha : isFullSha releaseCommit = true := by decide +kernel
  rcases h : verifySource releasePlatform verifiedMachine.toDisk ⟨"0.2.2.5", "pip", releaseDirectUrlObject⟩
      (releasePlatform.lower releaseCommit) "https://github.com/preset-io/flightsql-dbapi.git" none false with
    e | r
  · rw [h] at hsource
    cases hsource
  · exact ⟨r, verifyInstallation_eq_ok.mpr ⟨hsha, none, _, rfl, installed_verified, h⟩⟩

/-- The theorem on this installation. -/
theorem verifyInstallation_verified_release : ∃ r distribution siteRoot distInfo table expected directUrl,
    Verified releasePlatform releaseLibrary verifiedMachine [verifiedDistribution]
      { expectedCommit := releaseCommit } r distribution siteRoot distInfo table expected directUrl := by
  obtain ⟨r, h⟩ := verifyInstallation_release
  exact ⟨r, verifyInstallation_verified h⟩

end FlightSql.Provenance
