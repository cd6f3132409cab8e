/-
  The source decision — `_normalized_hash`, `_archive_sha256`, `_verify_vcs_source`,
  `_verify_archive_source`, `_verify_local_artifact_file` and `verify` of `flightsql/provenance.py`.

  1. **Digests** — `normalizedHash` and the digest `direct_url.json` records (`archiveSha256`).

  2. **The three sources** — a Git checkout, an archive of the repository, a local artifact; `verify`
     tells them apart by the keys present and the URL.

  3. **Soundness** (`verify_sound`) — a result that claims the commit comes from `GitSource` or
     `ArchiveSource`, the only other result from `LocalSource`, and nothing else gives a result.  The
     three are stated of the JSON object, the URL and the disk, with the digest as recorded.

  Mathlib-free.
-/
import FlightSql.Provenance.Url

set_option linter.unusedVariables false

namespace FlightSql.Provenance

open Lib

variable (py : Platform)

/-! ## Digests -/

def isHexDigit (c : Char) : Bool := c.isDigit ∨ ('a' ≤ c ∧ c ≤ 'f') ∨ ('A' ≤ c ∧ c ≤ 'F')

/-- `_FULL_SHA.fullmatch(text)`. -/
def isFullSha (text : String) : Bool := text.toList.length = 40 ∧ text.toList.all isHexDigit

/-- `_SHA256.fullmatch(text)`. -/
def isSha256 (text : String) : Bool := text.toList.length = 64 ∧ text.toList.all isHexDigit

/-- A hash without the `sha256=` or `sha256:` in front of it. -/
def stripHashPrefix (value : String) : String :=
  if "sha256=".toList.isPrefixOf value.toList ∨ "sha256:".toList.isPrefixOf value.toList then
    String.ofList (value.toList.drop 7)
  else value

/-- `_normalized_hash`. -/
def normalizedHash (value label : String) : Except Exn String := do
  let value := stripHashPrefix value
  raiseIf (!isSha256 value) (label ++ " must contain exactly 64 hexadecimal characters")
  .ok (py.lower value)

/-- A value that is `None`, for an empty object, or an object. -/
def objectOr (message : String) : Option Json → Except Exn (List (String × Json))
  | none => .ok []
  | some (.obj members) => .ok members
  | some _ => .error (provenanceError message)

/-- The digest of the legacy `hash` key. -/
def legacyHash : Option Json → Except Exn (Option String)
  | none => .ok none
  | some (.str legacy) =>
    match splitOnce '=' legacy with
    | none =>
      .error (provenanceError "installed direct_url.json legacy archive hash is malformed")
    | some (algorithm, value) => do
      raiseIf (py.lower algorithm ≠ "sha256")
        ("installed direct_url.json uses unsafe or unsupported artifact hash algorithm "
          ++ py.repr algorithm)
      .ok (some value)
  | some _ => .error (provenanceError "installed direct_url.json legacy archive hash is malformed")

/-- The digest of the `hashes` object and the legacy one, which must not conflict. -/
def chosenHash : Option Json → Option String → Except Exn (Option String)
  | none, none => .ok none
  | none, some value => some <$> normalizedHash py value "installed artifact SHA-256"
  | some (.str value), legacyValue => do
    raiseIf (legacyValue ≠ none ∧ legacyValue ≠ some value)
      "installed direct_url.json contains conflicting SHA-256 artifact hashes"
    some <$> normalizedHash py value "installed artifact SHA-256"
  | some _, legacyValue => do
    raiseIf (legacyValue ≠ none)
      "installed direct_url.json contains conflicting SHA-256 artifact hashes"
    .error (provenanceError "installed artifact SHA-256 must be a string")

/-- `_archive_sha256`. -/
def archiveSha256 (directUrl : Dict String Json) : Except Exn (Option String) := do
  let archiveInfo ← objectOr "installed direct_url.json archive_info must contain a JSON object"
    (notNull (directUrl.get? "archive_info"))
  let hashes ← objectOr "installed direct_url.json archive hashes must contain a JSON object"
    (member archiveInfo "hashes")
  match (hashes.map Prod.fst).find? fun algorithm => py.lower algorithm ∈ ["md5", "sha1"] with
  | some algorithm =>
    .error (provenanceError
      ("installed direct_url.json uses unsafe artifact hash algorithm " ++ py.repr algorithm))
  | none => do
    let legacyValue ← legacyHash py (member archiveInfo "hash")
    chosenHash py (member hashes "sha256") legacyValue

/-! ## The three sources -/

/-- A JSON string that is the commit up to case. -/
def isCommit (expectedCommit : String) : Option Json → Bool
  | some (.str s) => py.lower s = expectedCommit
  | _ => false

def isGit : Option Json → Bool
  | some (.str s) => s = "git"
  | _ => false

/-- `_verify_vcs_source`. -/
def verifyVcsSource (sourceUrl : String) (vcsInfo : List (String × Json))
    (expectedRepository expectedCommit : String) : Except Exn Unit := do
  raiseIf (!isGit (member vcsInfo "vcs"))
    ("expected Git provenance, found " ++ py.reprJson (member vcsInfo "vcs"))
  let source ← normalizedRepository py sourceUrl
  let expected ← normalizedRepository py expectedRepository
  raiseIf (source ≠ expected)
    ("installed source repository " ++ py.repr sourceUrl ++ " is not " ++ py.repr expectedRepository)
  raiseIf (!isCommit py expectedCommit (member vcsInfo "commit_id"))
    ("installed VCS commit " ++ py.reprJson (member vcsInfo "commit_id") ++ " is not "
      ++ expectedCommit)
  raiseIf (!isCommit py expectedCommit (member vcsInfo "requested_revision"))
    ("requested VCS revision " ++ py.reprJson (member vcsInfo "requested_revision")
      ++ " is not the immutable full SHA " ++ expectedCommit)

/-- `_verify_archive_source`. -/
def verifyArchiveSource (directUrl : Dict String Json) (sourceKind : String)
    (expectedHash : Option String) : Except Exn String :=
  match expectedHash with
  | none =>
    .error (provenanceError (sourceKind ++ " installs require --expected-artifact-sha256"))
  | some expected => do
    let installedHash ← archiveSha256 py directUrl
    raiseIf (installedHash ≠ some expected)
      ("recorded " ++ sourceKind ++ " SHA-256 " ++ py.reprJson (installedHash.map .str) ++ " is not "
        ++ expected)
    .ok expected

/-- **The disk a `file` URL points into**, as `lstat` and `stat` answer for an absolute path: what is not
    a link is what `stat` reaches, and what `stat` reaches is there. -/
structure Disk where
  lstat : PurePosixPath → Option (Node Bytes)
  stat : PurePosixPath → Option (Node Bytes)
  stat_of_lstat : ∀ path node, lstat path = some node → node.isSymlink = false → stat path = some node
  lstat_of_stat : ∀ path node, stat path = some node → ∃ node', lstat path = some node'

variable (disk : Disk)

/-- `digest.hexdigest()`. -/
def hexdigest (digest : Bytes) : String :=
  String.ofList (digest.flatMap fun b => [Nat.digitChar (b.toNat / 16), Nat.digitChar (b.toNat % 16)])

/-- `_file_sha256`. -/
def fileSha256 (path : PurePosixPath) : Except Exn String :=
  match disk.stat path with
  | some (.file true content) => .ok (hexdigest (py.sha256 content))
  | _ => .error ⟨.python .osError, asPosix path.parts⟩

/-- The names a wheel or source distribution may have. -/
def isArtifactName (name : String) : Bool :=
  [".whl", ".tar.gz", ".zip"].any fun suffix => suffix.toList.isSuffixOf name.toList

/-- `_verify_local_artifact_file`. -/
def verifyLocalArtifactFile (sourceUrl : String) (expectedHash : Option String) :
    Except Exn String :=
  match expectedHash with
  | none => .error (provenanceError "local-artifact installs require --expected-artifact-sha256")
  | some expected => do
    let parsedSource ← urlparse py sourceUrl
    raiseIf (parsedSource.netloc ∉ ["", "localhost"] ∨ parsedSource.query ≠ "" ∨
        parsedSource.fragment ≠ "")
      "local-artifact mode requires a local, uncredentialed file URL"
    let artifactPath := PurePosixPath.ofString (py.url2pathname parsedSource.path)
    raiseIf (!artifactPath.absolute) "local-artifact mode requires an absolute file URL"
    raiseIf ((disk.lstat artifactPath).any Node.isSymlink ∨ ¬(disk.stat artifactPath).any Node.isFile)
      "local-artifact file URL does not reference an available regular non-symlink file"
    raiseIf (!isArtifactName (artifactPath.parts.getLast?.getD ""))
      "local-artifact mode requires a wheel or source-distribution file URL"
    let actualHash ← fileSha256 py disk artifactPath
    raiseIf (actualHash ≠ expected)
      ("local-artifact file SHA-256 " ++ py.repr actualHash ++ " is not " ++ expected)
    .ok actualHash

/-- `VerificationResult`. -/
structure VerificationResult where
  ok : Bool
  distribution : String
  installedVersion : String
  versionVerified : Bool
  sourceMode : String
  packageSourceRecordSha256Verified : Bool
  distributionMetadataRecordSha256Verified : Bool
  directUrlRecordSha256Verified : Bool
  expectedCommit : String
  commitVerified : Bool
  verifiedCommit : Option String
  recordedArchiveSha256Matched : Option String
  localArtifactFileSha256Verified : Option String
  installer : String

/-- **What is installed**, its files and versions verified: the version, the installer and the object in
    `direct_url.json`. -/
structure Installed where
  version : String
  installer : String
  directUrl : Dict String Json

/-- `_result`. -/
def result (installed : Installed) (sourceMode expectedCommit : String) (commitVerified : Bool)
    (verifiedCommit recordedArchiveHash localArtifactHash : Option String) : VerificationResult where
  ok := true
  distribution := "flightsql-dbapi"
  installedVersion := installed.version
  versionVerified := true
  sourceMode := sourceMode
  packageSourceRecordSha256Verified := true
  distributionMetadataRecordSha256Verified := true
  directUrlRecordSha256Verified := true
  expectedCommit := expectedCommit
  commitVerified := commitVerified
  verifiedCommit := verifiedCommit
  recordedArchiveSha256Matched := recordedArchiveHash
  localArtifactFileSha256Verified := localArtifactHash
  installer := installed.installer

/-- A Git checkout: the branch of `verify` for an object with `vcs_info`. -/
def verifyGit (installed : Installed) (sourceUrl : String) (vcsInfo : Json)
    (expectedRepository expectedCommit : String) : Except Exn VerificationResult :=
  match vcsInfo with
  | .obj members => do
    raiseIf (installed.directUrl.contains "archive_info" ∨ installed.directUrl.contains "dir_info")
      "installed direct_url.json mixes VCS provenance with archive/directory metadata"
    verifyVcsSource py sourceUrl members expectedRepository expectedCommit
    .ok (result installed "git" expectedCommit true (some expectedCommit) none none)
  | _ => .error (provenanceError "installed direct_url.json vcs_info must contain a JSON object")

/-- An archive of the expected commit: the branch for its URL. -/
def verifyArchive (installed : Installed) (expectedCommit : String) (expectedHash : Option String) :
    Except Exn VerificationResult := do
  raiseIf (installed.directUrl.contains "dir_info")
    "installed direct_url.json mixes archive provenance with directory metadata"
  let verifiedHash ← verifyArchiveSource py installed.directUrl "source-archive" expectedHash
  .ok (result installed "source-archive" expectedCommit true (some expectedCommit)
    (some verifiedHash) none)

/-- A local artifact: the branch for a `file` URL. -/
def verifyLocal (installed : Installed) (sourceUrl expectedCommit : String)
    (expectedHash : Option String) (allowLocalArtifact : Bool) : Except Exn VerificationResult := do
  raiseIf (!allowLocalArtifact)
    ("a local artifact does not encode its source commit; use the immutable Git/archive install in "
      ++ "production or pass --allow-local-artifact only for an identity-only artifact test")
  raiseIf (installed.directUrl.contains "dir_info")
    "local-artifact mode does not accept an editable/local directory installation"
  let _ ← archiveSha256 py installed.directUrl
  let verifiedHash ← verifyLocalArtifactFile py disk sourceUrl expectedHash
  .ok (result installed "local-artifact" expectedCommit false none none (some verifiedHash))

/-- The source decision of `verify`. -/
def verifySource (installed : Installed) (expectedCommit expectedRepository : String)
    (expectedHash : Option String) (allowLocalArtifact : Bool) : Except Exn VerificationResult :=
  match installed.directUrl.get? "url" with
  | some (.str sourceUrl) =>
    match installed.directUrl.get? "vcs_info" with
    | some vcsInfo => verifyGit py installed sourceUrl vcsInfo expectedRepository expectedCommit
    | none => do
      let accepted ← acceptedArchiveUrls py expectedRepository expectedCommit
      if py.lower sourceUrl ∈ accepted.map py.lower then
        verifyArchive py installed expectedCommit expectedHash
      else do
        let parsedSource ← urlparse py sourceUrl
        if parsedSource.scheme = "file" then
          verifyLocal py disk installed sourceUrl expectedCommit expectedHash allowLocalArtifact
        else
          .error (provenanceError ("installed source " ++ py.repr sourceUrl
            ++ " is neither the expected Git repository nor its commit archive"))
  | _ => .error (provenanceError "installed direct_url.json has no string source URL")

/-- `_normalized_hash(expected_artifact_sha256) if expected_artifact_sha256 else None`. -/
def expectedHash (expectedArtifactSha256 : Option String) : Except Exn (Option String) :=
  match expectedArtifactSha256 with
  | none => .ok none
  | some value =>
    if value = "" then .ok none
    else some <$> normalizedHash py value "expected artifact SHA-256"

/-- **`verify`**, `installed` being what `_installed_distribution` and `_installed_direct_url` give. -/
def verify (installed : Except Exn Installed) (expectedCommit expectedRepository : String)
    (expectedArtifactSha256 : Option String) (allowLocalArtifact : Bool) :
    Except Exn VerificationResult := do
  raiseIf (!isFullSha expectedCommit)
    "expected commit must be a full 40-character hexadecimal Git SHA"
  let commit := py.lower expectedCommit
  let hash ← expectedHash py expectedArtifactSha256
  let layout ← installed
  verifySource py disk layout commit expectedRepository hash allowLocalArtifact

/-! ## What a result means -/

/-- `text` is a SHA-256 in hexadecimal, `digest` the same without its prefix and in lower case. -/
def WritesSha256 (text digest : String) : Prop :=
  isSha256 (stripHashPrefix text) = true ∧ py.lower (stripHashPrefix text) = digest

/-- `archive_info` records the digest, among its `hashes` or as its legacy `hash`. -/
def RecordsArchiveDigest (directUrl : Dict String Json) (digest : String) : Prop :=
  ∃ archiveInfo text, directUrl.get? "archive_info" = some (.obj archiveInfo) ∧
    WritesSha256 py text digest ∧
    ((∃ hashes, member archiveInfo "hashes" = some (.obj hashes) ∧
        member hashes "sha256" = some (.str text)) ∨
      ∃ algorithm, member archiveInfo "hash" = some (.str (algorithm ++ "=" ++ text)) ∧
        py.lower algorithm = "sha256")

/-- `url` is an `https` URL with a host, without user, password, query and fragment. -/
def UncredentialedHttps (url : String) : Prop :=
  ∃ parsed host, urlparse py url = .ok parsed ∧ parsed.scheme = "https" ∧
    truthy parsed.username = false ∧ truthy parsed.password = false ∧ parsed.query = "" ∧
    parsed.fragment = "" ∧ parsed.hostname py = some host ∧ host ≠ ""

/-- A member of `vcs_info` names the commit, up to case. -/
def NamesCommit (vcsInfo : List (String × Json)) (key commit : String) : Prop :=
  ∃ text, member vcsInfo key = some (.str text) ∧ py.lower text = py.lower commit

/-- **A Git checkout of the commit** from the repository. -/
structure GitSource (directUrl : Dict String Json) (commit repository : String) : Prop where
  vcs : ∃ vcsInfo, directUrl.get? "vcs_info" = some (.obj vcsInfo) ∧
    member vcsInfo "vcs" = some (.str "git") ∧ NamesCommit py vcsInfo "commit_id" commit ∧
    NamesCommit py vcsInfo "requested_revision" commit
  url : ∃ url, directUrl.get? "url" = some (.str url) ∧ UncredentialedHttps py url ∧
    UncredentialedHttps py repository ∧ repositoryBase url = repositoryBase repository
  noArchive : directUrl.get? "archive_info" = none
  noDir : directUrl.get? "dir_info" = none

/-- **An archive of the commit** from the repository, with the caller's digest recorded. -/
structure ArchiveSource (directUrl : Dict String Json) (commit repository : String)
    (digest : Option String) : Prop where
  noVcs : directUrl.get? "vcs_info" = none
  noDir : directUrl.get? "dir_info" = none
  url : ∃ url accepted archiveUrl, directUrl.get? "url" = some (.str url) ∧
    acceptedArchiveUrls py repository (py.lower commit) = .ok accepted ∧ archiveUrl ∈ accepted ∧
    py.lower url = py.lower archiveUrl
  digest : ∃ text sha256, digest = some text ∧ WritesSha256 py text sha256 ∧
    RecordsArchiveDigest py directUrl sha256

/-- **A local artifact**: a regular file, with the caller's digest. -/
structure LocalSource (directUrl : Dict String Json) (digest : Option String)
    (allowLocalArtifact : Bool) : Prop where
  flag : allowLocalArtifact = true
  noVcs : directUrl.get? "vcs_info" = none
  noDir : directUrl.get? "dir_info" = none
  artifact : ∃ url parsed path content readable text, directUrl.get? "url" = some (.str url) ∧
    urlparse py url = .ok parsed ∧ parsed.scheme = "file" ∧
    parsed.netloc ∈ ["", "localhost"] ∧ parsed.query = "" ∧ parsed.fragment = "" ∧
    path = PurePosixPath.ofString (py.url2pathname parsed.path) ∧ path.absolute = true ∧
    disk.lstat path = some (.file readable content) ∧
    isArtifactName (path.parts.getLast?.getD "") = true ∧
    digest = some text ∧ WritesSha256 py text (hexdigest (py.sha256 content))

/-! ## Soundness -/

variable {py disk}

theorem normalizedHash_eq_ok {text label digest : String}
    (h : normalizedHash py text label = .ok digest) : WritesSha256 py text digest := by
  obtain ⟨hsha, h⟩ := raiseIf_bind_eq_ok h
  exact ⟨by simpa using hsha, Except.ok.inj h⟩

theorem map_normalizedHash_eq_ok {text label : String} {digest : Option String}
    (h : some <$> normalizedHash py text label = .ok digest) :
    ∃ d, digest = some d ∧ WritesSha256 py text d := by
  cases hn : normalizedHash py text label with
  | error e => rw [hn] at h; cases h
  | ok d =>
    rw [hn] at h
    exact ⟨d, (Except.ok.inj h).symm, normalizedHash_eq_ok hn⟩

theorem expectedHash_eq_some {text : Option String} {digest : String}
    (h : expectedHash py text = .ok (some digest)) :
    ∃ t, text = some t ∧ WritesSha256 py t digest := by
  cases text with
  | none => cases h
  | some t =>
    rw [expectedHash] at h
    by_cases he : t = ""
    · rw [if_pos he] at h
      cases h
    · rw [if_neg he] at h
      obtain ⟨d, hd, hw⟩ := map_normalizedHash_eq_ok h
      rw [← Option.some.inj hd] at hw
      exact ⟨t, rfl, hw⟩

/-- A member that was found stands in an object. -/
theorem objectOr_eq_ok {message : String} {value : Option Json} {members : List (String × Json)}
    (h : objectOr message value = .ok members) :
    (value = some (.obj members)) ∨ members = [] := by
  unfold objectOr at h
  split at h
  · exact Or.inr (Except.ok.inj h).symm
  · exact Or.inl (by rw [Except.ok.inj h])
  · cases h

theorem legacyHash_eq_some {value : Option Json} {text : String}
    (h : legacyHash py value = .ok (some text)) :
    ∃ algorithm, value = some (.str (algorithm ++ "=" ++ text)) ∧ py.lower algorithm = "sha256" := by
  unfold legacyHash at h
  split at h
  · cases h
  · next legacy =>
    cases hs : splitOnce '=' legacy with
    | none => rw [hs] at h; cases h
    | some parts =>
      obtain ⟨algorithm, v⟩ := parts
      rw [hs] at h
      obtain ⟨halg, h⟩ := raiseIf_bind_eq_ok h
      have hv : v = text := Option.some.inj (Except.ok.inj h)
      obtain ⟨htext, -⟩ := splitOnce_eq_some hs
      refine ⟨algorithm, ?_, by simpa using halg⟩
      rw [htext, hv]
      rfl
  · cases h

/-- The digest chosen is that of the `hashes` object or the legacy one. -/
theorem chosenHash_eq_some {value : Option Json} {legacyValue : Option String} {digest : String}
    (h : chosenHash py value legacyValue = .ok (some digest)) :
    ∃ text, WritesSha256 py text digest ∧ (value = some (.str text) ∨ legacyValue = some text) := by
  unfold chosenHash at h
  split at h
  · cases h
  · next text =>
    obtain ⟨d, hd, hw⟩ := map_normalizedHash_eq_ok h
    rw [← Option.some.inj hd] at hw
    exact ⟨text, hw, Or.inr rfl⟩
  · next text =>
    obtain ⟨-, h⟩ := raiseIf_bind_eq_ok h
    obtain ⟨d, hd, hw⟩ := map_normalizedHash_eq_ok h
    rw [← Option.some.inj hd] at hw
    exact ⟨text, hw, Or.inl rfl⟩
  · obtain ⟨-, h⟩ := raiseIf_bind_eq_ok h
    cases h

/-- What `_archive_sha256` returns is recorded. -/
theorem archiveSha256_eq_some {directUrl : Dict String Json} {digest : String}
    (h : archiveSha256 py directUrl = .ok (some digest)) :
    RecordsArchiveDigest py directUrl digest := by
  obtain ⟨archiveInfo, harchive, h⟩ := Outcome.bind_eq_ok h
  obtain ⟨hashes, hhashes, h⟩ := Outcome.bind_eq_ok h
  split at h
  · cases h
  · obtain ⟨legacyValue, hlegacy, h⟩ := Outcome.bind_eq_ok h
    obtain ⟨text, hw, hchosen⟩ := chosenHash_eq_some h
    -- an empty object has neither member, so the one found stands in a real one
    have hinfo : directUrl.get? "archive_info" = some (.obj archiveInfo) := by
      rcases objectOr_eq_ok harchive with hobj | hnil
      · exact notNull_eq_some hobj
      · subst hnil
        rcases objectOr_eq_ok hhashes with hobj | hnil
        · cases hobj
        · subst hnil
          rcases hchosen with hvalue | hvalue
          · cases hvalue
          · subst hvalue
            obtain ⟨algorithm, hmember, -⟩ := legacyHash_eq_some hlegacy
            cases hmember
    refine ⟨archiveInfo, text, hinfo, hw, ?_⟩
    rcases hchosen with hvalue | hvalue
    · left
      rcases objectOr_eq_ok hhashes with hobj | hnil
      · exact ⟨hashes, hobj, hvalue⟩
      · subst hnil
        cases hvalue
    · right
      subst hvalue
      exact legacyHash_eq_some hlegacy

theorem uncredentialedHttps_of {url : String} {parsed : ParseResult}
    (hparsed : urlparse py url = .ok parsed) (h : parsed.isUncredentialedHttps py = true) :
    UncredentialedHttps py url := by
  simp only [ParseResult.isUncredentialedHttps, Bool.not_eq_true', Bool.or_eq_false_iff,
    decide_eq_false_iff_not, ne_eq, Classical.not_not, Bool.not_eq_false'] at h
  obtain ⟨⟨⟨⟨⟨hscheme, husername⟩, hpassword⟩, hquery⟩, hfragment⟩, hhost⟩ := h
  cases hname : parsed.hostname py with
  | none =>
    rw [hname] at hhost
    cases hhost
  | some host =>
    have hne : host ≠ "" := by
      rw [hname] at hhost
      exact of_decide_eq_true hhost
    exact ⟨parsed, host, hparsed, hscheme, husername, hpassword, hquery, hfragment, hname, hne⟩

theorem isCommit_eq_true {vcsInfo : List (String × Json)} {key commit : String}
    (h : isCommit py (py.lower commit) (member vcsInfo key) = true) :
    NamesCommit py vcsInfo key commit := by
  unfold isCommit at h
  split at h
  · next text htext => exact ⟨text, htext, of_decide_eq_true h⟩
  · cases h

theorem isGit_eq_true {value : Option Json} (h : isGit value = true) : value = some (.str "git") := by
  unfold isGit at h
  split at h
  · rw [of_decide_eq_true h]
  · cases h

theorem not_contains {directUrl : Dict String Json} {key : String}
    (h : directUrl.contains key = false) : directUrl.get? key = none := by
  rw [Dict.contains] at h
  exact Option.isNone_iff_eq_none.mp (by simpa using h)

/-- The Git branch returns only for a Git checkout of the commit. -/
theorem verifyGit_eq_ok {installed : Installed} {url commit repository : String} {vcsInfo : Json}
    {r : VerificationResult} (hurl : installed.directUrl.get? "url" = some (.str url))
    (hvcs : installed.directUrl.get? "vcs_info" = some vcsInfo)
    (h : verifyGit py installed url vcsInfo repository (py.lower commit) = .ok r) :
    GitSource py installed.directUrl commit repository ∧
      r = result installed "git" (py.lower commit) true (some (py.lower commit)) none none := by
  unfold verifyGit at h
  split at h
  · next members =>
    obtain ⟨hmixed, h⟩ := raiseIf_bind_eq_ok h
    obtain ⟨u, hsource, h⟩ := Outcome.bind_eq_ok h
    obtain ⟨hgit, hsource⟩ := raiseIf_bind_eq_ok hsource
    obtain ⟨source, hnorm, hsource⟩ := Outcome.bind_eq_ok hsource
    obtain ⟨expected, hexpected, hsource⟩ := Outcome.bind_eq_ok hsource
    obtain ⟨hsame, hsource⟩ := raiseIf_bind_eq_ok hsource
    obtain ⟨hcommit, hsource⟩ := raiseIf_bind_eq_ok hsource
    have hrevision := raiseIf_eq_ok.mp hsource
    obtain ⟨rfl, parsed, hparsed, hsafe⟩ := normalizedRepository_eq_ok py hnorm
    obtain ⟨rfl, parsed', hparsed', hsafe'⟩ := normalizedRepository_eq_ok py hexpected
    have hbase : repositoryBase url = repositoryBase repository :=
      Classical.byContradiction fun hne => (of_decide_eq_false hsame) hne
    rw [decide_eq_false_iff_not, not_or, Bool.not_eq_true, Bool.not_eq_true] at hmixed
    refine ⟨⟨⟨members, hvcs, isGit_eq_true (by simpa using hgit),
      isCommit_eq_true (by simpa using hcommit), isCommit_eq_true (by simpa using hrevision)⟩,
      ⟨url, hurl, uncredentialedHttps_of hparsed hsafe, uncredentialedHttps_of hparsed' hsafe', hbase⟩,
      not_contains hmixed.1, not_contains hmixed.2⟩, (Except.ok.inj h).symm⟩
  · cases h

/-- The archive branch returns only with the caller's digest recorded. -/
theorem verifyArchive_eq_ok {installed : Installed} {commit : String} {expected : Option String}
    {r : VerificationResult} (h : verifyArchive py installed commit expected = .ok r) :
    installed.directUrl.get? "dir_info" = none ∧ ∃ sha256, expected = some sha256 ∧
      RecordsArchiveDigest py installed.directUrl sha256 ∧
      r = result installed "source-archive" commit true (some commit) (some sha256) none := by
  obtain ⟨hdir, h⟩ := raiseIf_bind_eq_ok h
  obtain ⟨verified, hverified, hreturn⟩ := Outcome.bind_eq_ok h
  cases expected with
  | none => cases hverified
  | some sha256 =>
    obtain ⟨recorded, hrecorded, hverified⟩ := Outcome.bind_eq_ok hverified
    obtain ⟨hsame, hsha⟩ := raiseIf_bind_eq_ok hverified
    have hsome : recorded = some sha256 :=
      Classical.byContradiction fun hne => (of_decide_eq_false hsame) hne
    rw [hsome] at hrecorded
    refine ⟨not_contains hdir, sha256, rfl, archiveSha256_eq_some hrecorded, ?_⟩
    rw [Except.ok.inj hsha]
    exact (Except.ok.inj hreturn).symm

/-- The file that was hashed is the regular file `lstat` sees. -/
theorem fileSha256_eq_ok {path : PurePosixPath} {sha256 : String}
    (hlink : (disk.lstat path).any Node.isSymlink = false)
    (h : fileSha256 py disk path = .ok sha256) :
    ∃ readable content, disk.lstat path = some (.file readable content) ∧
      sha256 = hexdigest (py.sha256 content) := by
  unfold fileSha256 at h
  split at h
  · next content hstat =>
    obtain ⟨node, hlstat⟩ := disk.lstat_of_stat path _ hstat
    rw [hlstat] at hlink
    have hnode := disk.stat_of_lstat path node hlstat hlink
    rw [hstat] at hnode
    refine ⟨true, content, ?_, (Except.ok.inj h).symm⟩
    rw [hlstat, ← Option.some.inj hnode]
  · cases h

/-- The local branch returns only for a regular file with the caller's digest. -/
theorem verifyLocal_eq_ok {installed : Installed} {url commit : String} {digest : Option String}
    {expected : Option String} {allow : Bool} {r : VerificationResult}
    (hurl : installed.directUrl.get? "url" = some (.str url))
    (hvcs : installed.directUrl.get? "vcs_info" = none) {parsed : ParseResult}
    (hparsed : urlparse py url = .ok parsed) (hscheme : parsed.scheme = "file")
    (hdigest : expectedHash py digest = .ok expected)
    (h : verifyLocal py disk installed url commit expected allow = .ok r) :
    LocalSource py disk installed.directUrl digest allow ∧ ∃ sha256,
      r = result installed "local-artifact" commit false none none (some sha256) := by
  obtain ⟨hflag, h⟩ := raiseIf_bind_eq_ok h
  obtain ⟨hdir, h⟩ := raiseIf_bind_eq_ok h
  obtain ⟨recorded, -, h⟩ := Outcome.bind_eq_ok h
  obtain ⟨verified, hverified, h⟩ := Outcome.bind_eq_ok h
  refine ⟨⟨by simpa using hflag, hvcs, not_contains hdir, ?_⟩, verified, (Except.ok.inj h).symm⟩
  cases expected with
  | none => cases hverified
  | some sha256 =>
    obtain ⟨parsed', hparsed', hverified⟩ := Outcome.bind_eq_ok hverified
    have hsame : parsed' = parsed := by
      rw [hparsed] at hparsed'
      exact (Except.ok.inj hparsed').symm
    subst hsame
    obtain ⟨hlocal, hverified⟩ := raiseIf_bind_eq_ok hverified
    obtain ⟨habs, hverified⟩ := raiseIf_bind_eq_ok hverified
    obtain ⟨hregular, hverified⟩ := raiseIf_bind_eq_ok hverified
    obtain ⟨hname, hverified⟩ := raiseIf_bind_eq_ok hverified
    obtain ⟨actual, hactual, hverified⟩ := Outcome.bind_eq_ok hverified
    obtain ⟨hhash, -⟩ := raiseIf_bind_eq_ok hverified
    simp only [decide_eq_false_iff_not, not_or, Classical.not_not] at hlocal hregular hhash
    obtain ⟨hnetloc, hquery, hfragment⟩ := hlocal
    have hlink := Bool.not_eq_true _ ▸ hregular.1
    obtain ⟨readable, content, hlstat, hcontent⟩ := fileSha256_eq_ok hlink hactual
    obtain ⟨text, htext, hw⟩ := expectedHash_eq_some hdigest
    rw [← hhash, hcontent] at hw
    exact ⟨url, parsed', _, content, readable, text, hurl, hparsed, hscheme, hnetloc, hquery,
      hfragment, rfl, by simpa using habs, hlstat, by simpa using hname, htext, hw⟩

/-- What a result of the source decision claims, and of which source. -/
def Sound (py : Platform) (disk : Disk) (directUrl : Dict String Json) (commit repository : String)
    (digest : Option String) (allow : Bool) (r : VerificationResult) : Prop :=
  (r.commitVerified = true ∧ r.verifiedCommit = some (py.lower commit) ∧
      (r.sourceMode = "git" ∧ GitSource py directUrl commit repository ∨
        r.sourceMode = "source-archive" ∧ ArchiveSource py directUrl commit repository digest)) ∨
    r.commitVerified = false ∧ r.verifiedCommit = none ∧ r.sourceMode = "local-artifact" ∧
      LocalSource py disk directUrl digest allow

theorem verifySource_sound {installed : Installed} {commit repository : String}
    {digest expected : Option String} {allow : Bool} {r : VerificationResult}
    (hexpected : expectedHash py digest = .ok expected)
    (h : verifySource py disk installed (py.lower commit) repository expected allow = .ok r) :
    r.expectedCommit = py.lower commit ∧
      Sound py disk installed.directUrl commit repository digest allow r := by
  unfold verifySource at h
  split at h
  · next url hurl =>
    cases hvcs : installed.directUrl.get? "vcs_info" with
    | some vcsInfo =>
      simp only [hvcs] at h
      obtain ⟨hgit, rfl⟩ := verifyGit_eq_ok hurl hvcs h
      exact ⟨rfl, Or.inl ⟨rfl, rfl, Or.inl ⟨rfl, hgit⟩⟩⟩
    | none =>
      simp only [hvcs] at h
      obtain ⟨accepted, haccepted, h⟩ := Outcome.bind_eq_ok h
      by_cases hmem : py.lower url ∈ accepted.map py.lower
      · rw [if_pos hmem] at h
        obtain ⟨hdir, sha256, rfl, hrecorded, rfl⟩ := verifyArchive_eq_ok h
        obtain ⟨archiveUrl, harchive, hsame⟩ := List.mem_map.mp hmem
        obtain ⟨text, htext, hw⟩ := expectedHash_eq_some hexpected
        have hsource : ArchiveSource py installed.directUrl commit repository digest :=
          ⟨hvcs, hdir, ⟨url, accepted, archiveUrl, hurl, haccepted, harchive, hsame.symm⟩,
            ⟨text, sha256, htext, hw, hrecorded⟩⟩
        exact ⟨rfl, Or.inl ⟨rfl, rfl, Or.inr ⟨rfl, hsource⟩⟩⟩
      · rw [if_neg hmem] at h
        obtain ⟨parsed, hparsed, h⟩ := Outcome.bind_eq_ok h
        by_cases hscheme : parsed.scheme = "file"
        · rw [if_pos hscheme] at h
          obtain ⟨hlocal, sha256, rfl⟩ := verifyLocal_eq_ok hurl hvcs hparsed hscheme hexpected h
          exact ⟨rfl, Or.inr ⟨rfl, rfl, rfl, hlocal⟩⟩
        · rw [if_neg hscheme] at h
          cases h
  · cases h

/-- **The source decision is sound**: a result claims the commit only for a Git checkout of it or an
    archive of it with the caller's digest, and the one other result, which claims none, is for a
    local artifact with the caller's digest. -/
theorem verify_sound {installed : Installed} {commit repository : String} {digest : Option String}
    {allow : Bool} {r : VerificationResult}
    (h : verify py disk (.ok installed) commit repository digest allow = .ok r) :
    isFullSha commit = true ∧ r.expectedCommit = py.lower commit ∧
      Sound py disk installed.directUrl commit repository digest allow r := by
  obtain ⟨hsha, h⟩ := raiseIf_bind_eq_ok h
  obtain ⟨expected, hexpected, h⟩ := Outcome.bind_eq_ok h
  exact ⟨by simpa using hsha, verifySource_sound hexpected h⟩

/-- A platform that is right on ASCII URLs without brackets and escapes. -/
def Platform.ascii : Platform :=
  { Interpreter.ascii with
    reprJson := fun value => match value with
      | some (.str s) => "'" ++ s ++ "'"
      | _ => "None"
    nfkc := id
    isBracketedHost := fun _ => false
    url2pathname := id }

/-- A disk without files. -/
def Disk.empty : Disk where
  lstat _ := none
  stat _ := none
  stat_of_lstat := fun _ _ h => by cases h
  lstat_of_stat := fun _ _ h => by cases h

/-- The release, installed from a Git checkout. -/
def gitInstall : Installed where
  version := "0.2.2.5"
  installer := "pip"
  directUrl := .ofList
    [("url", .str "https://github.com/preset-io/flightsql-dbapi.git"),
      ("vcs_info", .obj
        [("vcs", .str "git"), ("commit_id", .str "0123456789abcdef0123456789abcdef01234567"),
          ("requested_revision", .str "0123456789ABCDEF0123456789ABCDEF01234567")])]

theorem gitInstall_verified :
    ((verify .ascii .empty (.ok gitInstall) "0123456789abcdef0123456789abcdef01234567"
      "https://github.com/preset-io/flightsql-dbapi/" none false).toOption.any fun r =>
        r.commitVerified) = true := by
  decide +kernel

theorem verify_sound_gitInstall : ∃ r,
    verify .ascii .empty (.ok gitInstall) "0123456789abcdef0123456789abcdef01234567"
        "https://github.com/preset-io/flightsql-dbapi/" none false = .ok r ∧
      Sound .ascii .empty gitInstall.directUrl "0123456789abcdef0123456789abcdef01234567"
        "https://github.com/preset-io/flightsql-dbapi/" none false r := by
  have hverified := gitInstall_verified
  cases h : verify .ascii .empty (.ok gitInstall) "0123456789abcdef0123456789abcdef01234567"
      "https://github.com/preset-io/flightsql-dbapi/" none false with
  | error e => rw [h] at hverified; cases hverified
  | ok r => exact ⟨r, rfl, (verify_sound h).2.2⟩

end FlightSql.Provenance
