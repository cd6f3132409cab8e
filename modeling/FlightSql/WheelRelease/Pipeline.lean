/-
  The pipeline — the `Jenkinsfile`, as the script of one build.

  THE CODE resolves a version, tests, looks the release up in the bucket, builds twice, compares, installs
  what it built, and for a release uploads the wheel, reads it back and archives its digest.

  WHAT IT IS FOR: one script (`pipeline`) whose requests are those that leave the build's own workspace.
  What the workspace's commands answer is data of the build (`Job`).

  1. **The stages** — in the source's order; those without requests are outcomes
     (`runTests`, `buildArtifacts`, `verifyInstallable`).

  2. **What a stage that returns has established** — `buildArtifacts_eq_ok` (`BuiltTwice`),
     `digestStored_eq_ok`; of a build of main, `resolveVersion_main`.

  Mathlib-free.
-/
import FlightSql.Lib.Dict
import FlightSql.Lib.Interleaving
import FlightSql.WheelRelease.StoredWheel

set_option linter.unusedVariables false

namespace FlightSql.Release

open Lib Provenance

/-! ## A build's own workspace -/

/-- The `sh` steps of which only the exit status matters, by their labels. -/
inductive Command where
  | trustWorkspace | upgradePip | installProject | tests | versionAgreement | ownershipMetadata
  | applyLocalVersion | installBuildTooling | cleanBuildOutputs | buildTwice | installTwine
  | verifyArtifactMetadata | stageWheel | installArtifact | installBoto3
  deriving DecidableEq

/-- What `importlib.metadata` and `make_url(…).get_dialect()` say of an installed wheel. -/
structure Installation where
  version : String
  entryPoints : List (String × String)
  dialect : String → Option String

/-- **A build**: its environment and parameters, the trimmed outputs of its commands, their exit
    statuses, and the files the two builds leave. -/
structure Job where
  env : BuildEnv
  publishRelease : Option Bool
  shortGitRev : String
  baseVersion : String
  sourceDateEpoch : String
  status : Command → Nat
  buildA : Dict String Bytes
  buildB : Dict String Bytes
  installation : Bytes → Installation

namespace Job

/-- `publishes`; the parameter is not there on the first run. -/
def publishes (job : Job) : Bool := job.env.isMain && job.publishRelease = some true

/-- `sh(…)`, which fails unless the status is 0. -/
def sh (job : Job) (command : Command) : Except String Unit :=
  if job.status command = 0 then .ok ()
  else .error ("script returned exit code " ++ toString (job.status command))

end Job

/-- A script that exits with 1, in these cases. -/
def exitOneIf (bad : Bool) : Except String Unit :=
  if bad then .error "script returned exit code 1" else .ok ()

/-- `LIB_NAME + '/' + wheelName`. -/
def objectKey (publishVersion : String) : String := "flightsql-dbapi/" ++ wheelName publishVersion

/-! ## The stages without requests -/

/-- "Tests". -/
def runTests (job : Job) : Except String Unit := do
  job.sh .upgradePip
  job.sh .installProject
  job.sh .tests
  job.sh .versionAgreement
  job.sh .ownershipMetadata

/-- "Assert expected artifact filenames": both files are there in both directories. -/
def hasArtifacts (job : Job) (version : String) : Bool :=
  [job.buildA, job.buildB].all fun files =>
    files.contains (wheelName version) && files.contains (sdistName version)

variable (py : Interpreter)

/-- `sha256sum file | cut -d' ' -f1`. -/
def sha256sum (content : Bytes) : String := hexdigest (py.sha256 content)

/-- "Compare digests". -/
def sameDigests (job : Job) (version : String) : Bool :=
  [wheelName version, sdistName version].all fun artifact =>
    (job.buildA.get? artifact).map (sha256sum py) = (job.buildB.get? artifact).map (sha256sum py)

/-- "Apply local test version". -/
def applyLocalVersion (job : Job) : Except String Unit :=
  if !job.env.isMain then job.sh .applyLocalVersion else .ok ()

/-- The patterns `''|*[!0-9]*`. -/
def invalidEpoch (sourceDateEpoch : String) : Bool :=
  sourceDateEpoch = "" || !sourceDateEpoch.toList.all Char.isDigit

/-- The copy of `/tmp/build-a/${wheelName}`. -/
def stagedWheel (job : Job) (version : String) : Except String Bytes :=
  match job.buildA.get? (wheelName version) with
  | some wheel => .ok wheel
  | none => .error "script returned exit code 1"

/-- "Build and verify reproducibility": the staged wheel. -/
def buildArtifacts (job : Job) (version : String) : Except String Bytes := do
  applyLocalVersion job
  job.sh .installBuildTooling
  job.sh .cleanBuildOutputs
  exitOneIf (invalidEpoch job.sourceDateEpoch)
  job.sh .buildTwice
  exitOneIf (!hasArtifacts job version)
  exitOneIf (!sameDigests py job version)
  job.sh .installTwine
  job.sh .verifyArtifactMetadata
  job.sh .stageWheel
  stagedWheel job version

/-- The assertions about the installed wheel. -/
def inspectArtifact (installation : Installation) (version : String) : Bool :=
  installation.version = version &&
    (["datafusion", "datafusion.flightsql"].all fun name =>
      ("sqlalchemy.dialects", name) ∈ installation.entryPoints) &&
    ["datafusion://h:443", "datafusion+flightsql://h:443"].all fun url =>
      installation.dialect url = some "DataFusionDialect"

/-- "Verify installable artifact". -/
def verifyInstallable (job : Job) (version : String) (wheel : Bytes) : Except String Unit := do
  job.sh .installArtifact
  exitOneIf (!inspectArtifact (job.installation wheel) version)

/-! ## Requests -/

/-- **What a build asks of Jenkins and of the bucket.** -/
inductive Request where
  | withCredentials
  | headObject (key : String)
  | putObject (key : String) (body : Bytes)
  | getObject (key : String)
  | archiveArtifacts (text : String)

/-- The exit status of `head-object`, whether the conditional `put_object` raised nothing, and the file
    `get-object` left, if its status is 0. -/
@[reducible] def Reply : Request → Type
  | .withCredentials => Unit
  | .headObject _ => Nat
  | .putObject _ _ => Bool
  | .getObject _ => Option Bytes
  | .archiveArtifacts _ => Unit

/-- **The script of a build**, or of a part of it; `error(…)` and a failing command end it. -/
abbrev Pipeline (α : Type) := ExceptT String (Script Request Reply) α

/-- One request. -/
def ask (q : Request) : Pipeline (Reply q) := ExceptT.lift (Script.request q)

/-- A stage without requests. -/
def within {α : Type} (x : Except String α) : Pipeline α := ExceptT.mk (pure x)

/-! ## The stages with requests -/

/-- The message of "Reject an already-published version". -/
def alreadyPublished (version : String) : String :=
  objectKey version ++ " is already published. Published artifacts are immutable; bump the version in "
    ++ "pyproject.toml and flightsql/__init__.py."

/-- "Check for an existing wheel", with the credentials. -/
def checkExisting (version : String) : Pipeline Unit := do
  ask .withCredentials
  let found ← ask (.headObject (objectKey version))
  if found = 0 then throw (alreadyPublished version) else pure ()

/-- "Reject an already-published version". -/
def rejectPublished (job : Job) (version : String) : Pipeline Unit :=
  if !job.publishes then pure () else checkExisting version

variable (zip : WheelReader)

/-- "Digest the stored artifact": the line of `published.sha256`. -/
def digestStored (version : String) (wheel : Bytes) (stored : Option Bytes) : Except String String :=
  match stored with
  | none => .error "script returned exit code 255"
  | some content =>
    if verifyStoredWheel py zip (fun file => if file = "stored.whl" then some content else none)
        ["stored.whl", wheelName version, version, sha256sum py wheel] = 0 then
      .ok (sha256sum py content ++ "  " ++ wheelName version ++ "\n")
    else .error "script returned exit code 1"

/-- What follows the upload: reading the object back, and archiving its digest. -/
def readBack (version : String) (wheel : Bytes) : Pipeline (Option String) := do
  let stored ← ask (.getObject (objectKey version))
  let text ← within (digestStored py zip version wheel stored)
  ask (.archiveArtifacts text)
  pure (some text)

/-- "Upload wheel (no-overwrite)", with the credentials, and what follows. -/
def uploadWheel (job : Job) (version : String) (wheel : Bytes) : Pipeline (Option String) := do
  ask .withCredentials
  within (job.sh .installBoto3)
  let accepted ← ask (.putObject (objectKey version) wheel)
  within (exitOneIf (!accepted))
  readBack py zip version wheel

/-- "Publish wheel": the text of `published.sha256`, if there is one. -/
def publishWheel (job : Job) (version : String) (wheel : Bytes) : Pipeline (Option String) :=
  if !job.publishes then pure none
  else if !job.env.isMain ∨ version ≠ job.baseVersion ∨ '+' ∈ version.toList then
    throw ("Refusing to publish " ++ version ++ " from '" ++ job.env.branchName
      ++ "'. Stable releases are published only from main.")
  else uploadWheel py zip job version wheel

variable (toLowerCase : String → String)

/-- **The pipeline.** -/
def pipeline (job : Job) : Pipeline (Option String) := do
  within (job.sh .trustWorkspace)
  let version ← within (resolveVersion toLowerCase job.env job.shortGitRev job.baseVersion)
  within (runTests job)
  rejectPublished job version
  let wheel ← within (buildArtifacts py job version)
  within (verifyInstallable job version wheel)
  publishWheel py zip job version wheel

/-! ## What a stage has established -/

/-- **`wheel` was built twice under this version**: both builds have it and the sdist, with the same
    digests. -/
structure BuiltTwice (job : Job) (version : String) (wheel : Bytes) : Prop where
  built : job.buildA.get? (wheelName version) = some wheel
  rebuilt : ∃ wheel', job.buildB.get? (wheelName version) = some wheel' ∧
    sha256sum py wheel' = sha256sum py wheel
  sdist : ∃ sdist sdist', job.buildA.get? (sdistName version) = some sdist ∧
    job.buildB.get? (sdistName version) = some sdist' ∧ sha256sum py sdist = sha256sum py sdist'

variable {py zip toLowerCase}

/-- Two artifacts that are there have the same digest. -/
theorem digest_of_sameDigests {job : Job} {artifact : String}
    (hsame : (job.buildA.get? artifact).map (sha256sum py) = (job.buildB.get? artifact).map (sha256sum py))
    {content : Bytes} (hA : job.buildA.get? artifact = some content) :
    ∃ content', job.buildB.get? artifact = some content' ∧ sha256sum py content' = sha256sum py content := by
  rw [hA, Option.map_some] at hsame
  obtain ⟨content', hB, hdigest⟩ := Option.map_eq_some_iff.mp hsame.symm
  exact ⟨content', hB, hdigest⟩

@[simp] theorem exitOneIf_eq_ok {bad : Bool} {u : Unit} : exitOneIf bad = .ok u ↔ bad = false := by
  cases bad with
  | false => simp [exitOneIf]
  | true => simp [exitOneIf]

theorem stagedWheel_eq_ok {job : Job} {version : String} {wheel : Bytes} :
    stagedWheel job version = .ok wheel ↔ job.buildA.get? (wheelName version) = some wheel := by
  unfold stagedWheel
  rcases job.buildA.get? (wheelName version) with _ | content
  · simp
  · simp

/-- **What the build stage has established** when it returns. -/
theorem buildArtifacts_eq_ok {job : Job} {version : String} {wheel : Bytes}
    (h : buildArtifacts py job version = .ok wheel) : BuiltTwice py job version wheel := by
  unfold buildArtifacts at h
  obtain ⟨-, -, h⟩ := Outcome.bind_eq_ok h
  obtain ⟨-, -, h⟩ := Outcome.bind_eq_ok h
  obtain ⟨-, -, h⟩ := Outcome.bind_eq_ok h
  obtain ⟨-, -, h⟩ := Outcome.bind_eq_ok h
  obtain ⟨-, -, h⟩ := Outcome.bind_eq_ok h
  obtain ⟨_, hfiles, h⟩ := Outcome.bind_eq_ok h
  obtain ⟨_, hdigests, h⟩ := Outcome.bind_eq_ok h
  obtain ⟨-, -, h⟩ := Outcome.bind_eq_ok h
  obtain ⟨-, -, h⟩ := Outcome.bind_eq_ok h
  obtain ⟨-, -, h⟩ := Outcome.bind_eq_ok h
  have hwheel : job.buildA.get? (wheelName version) = some wheel := stagedWheel_eq_ok.mp h
  have hthere : hasArtifacts job version = true := by simpa using hfiles
  have hsame : sameDigests py job version = true := by simpa using hdigests
  simp only [hasArtifacts, List.all_cons, List.all_nil, Bool.and_true, Bool.and_eq_true] at hthere
  simp only [sameDigests, List.all_cons, List.all_nil, Bool.and_true, Bool.and_eq_true,
    decide_eq_true_eq] at hsame
  obtain ⟨sdist, hsdist⟩ := Option.isSome_iff_exists.mp hthere.1.2
  obtain ⟨sdist', hsdist', hdigest⟩ := digest_of_sameDigests hsame.2 hsdist
  exact ⟨hwheel, digest_of_sameDigests hsame.1 hwheel, ⟨sdist, sdist', hsdist, hsdist', hdigest.symm⟩⟩

/-- A build of main has the declared version. -/
theorem resolveVersion_main {env : BuildEnv} (hmain : env.isMain = true) (shortGitRev : String)
    {baseVersion : String} (hne : baseVersion ≠ "") :
    resolveVersion toLowerCase env shortGitRev baseVersion = .ok baseVersion := by
  have hboth : decide (env.branchName = "main") = true ∧ (!env.isPullRequest) = true := by
    simpa [BuildEnv.isMain] using hmain
  have hpr : env.isPullRequest = false := by simpa using hboth.2
  have hversion : publishVersion toLowerCase env shortGitRev baseVersion = baseVersion := by
    simp [publishVersion, hpr, hmain]
  simp [resolveVersion, hne, hversion, hmain, hpr]

theorem ne_empty_of_resolveVersion {env : BuildEnv} {shortGitRev baseVersion version : String}
    (h : resolveVersion toLowerCase env shortGitRev baseVersion = .ok version) : baseVersion ≠ "" := by
  rintro rfl
  rw [resolveVersion, if_pos rfl] at h
  cases h

/-- The line that is archived is that of a stored object with the digest of the wheel, whose metadata
    declare the version. -/
theorem digestStored_eq_ok {version text : String} {wheel : Bytes} {stored : Option Bytes}
    (h : digestStored py zip version wheel stored = .ok text) : ∃ content, stored = some content ∧
      sha256sum py content = sha256sum py wheel ∧ '-' ∉ version.toList ∧
      Declares py zip content "flightsql_dbapi" version ∧
      text = sha256sum py content ++ "  " ++ wheelName version ++ "\n" := by
  rcases stored with _ | content
  · cases h
  · unfold digestStored at h
    dsimp only at h
    split at h
    · rename_i hverified
      obtain ⟨hdash, content', hread, hdigest, hdeclares⟩ := verifyStoredWheel_wheelName_iff.mp hverified
      obtain rfl : content = content' := by simpa using hread
      exact ⟨content, rfl, hdigest, hdash, hdeclares, (Except.ok.inj h).symm⟩
    · cases h

/-- What is read back of the wheel itself is archived. -/
theorem digestStored_self {version : String} {wheel : Bytes} (hdash : '-' ∉ version.toList)
    (hdeclares : Declares py zip wheel "flightsql_dbapi" version) :
    digestStored py zip version wheel (some wheel) =
      .ok (sha256sum py wheel ++ "  " ++ wheelName version ++ "\n") := by
  have hverified : verifyStoredWheel py zip (fun file => if file = "stored.whl" then some wheel else none)
      ["stored.whl", wheelName version, version, sha256sum py wheel] = 0 :=
    verifyStoredWheel_wheelName_iff.mpr ⟨hdash, wheel, if_pos rfl, rfl, hdeclares⟩
  unfold digestStored
  dsimp only
  rw [if_pos hverified]

end FlightSql.Release
