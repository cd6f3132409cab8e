/-
  The command — `_success_text`, `_failure` and `main` of `flightsql/provenance.py`.

  THE CODE parses the command line, verifies, and prints what came of it; `--json` is looked for in the
  raw arguments too, for a failure to parse them.

  WHAT IT IS FOR: a caller reads one line and the exit code, and they say the same (`Reported`): 0 and
  `"ok": true` for a verified installation only, 1 for a refusal, 2 for any other failure, and JSON whenever
  `--json` was given.

  The crux is that the two ways to see `--json` agree where the arguments parse; what `argparse` is
  relied on for is `ParsesFlag`.  Mathlib-free.
-/
import FlightSql.Verification.Installation

set_option linter.unusedVariables false

namespace FlightSql.Provenance

open Lib

/-! ## The source functions -/

/-- What `parse_args` comes to: arguments, a call of `error`, or an exit of its own (`--help`). -/
inductive ParsedArguments where
  | ok (arguments : Arguments)
  | error (message : String)
  | exit (code : Nat)

/-- A line printed: a JSON object with its keys sorted, or a text on standard output or standard error. -/
inductive Printed where
  | json (members : Dict String Json)
  | out (text : String)
  | err (text : String)

/-- **How a run ends**: its lines and its exit code. -/
structure Ended where
  printed : List Printed
  returncode : Nat

/-- `sort_keys=True`. -/
def sortKeys (d : Dict String Json) : Dict String Json where
  entries := d.entries.mergeSort fun a b => decide (a.1 ≤ b.1)
  nodup := ((List.mergeSort_perm d.entries _).map Prod.fst).nodup_iff.mpr d.nodup

/-- A text, or `null`. -/
def jsonText : Option String → Json
  | none => .null
  | some text => .str text

/-- `to_dict`. -/
def VerificationResult.toDict (r : VerificationResult) : Dict String Json where
  entries :=
    [("ok", .bool r.ok), ("distribution", .str r.distribution),
      ("installed_version", .str r.installedVersion), ("version_verified", .bool r.versionVerified),
      ("source_mode", .str r.sourceMode),
      ("package_source_record_sha256_verified", .bool r.packageSourceRecordSha256Verified),
      ("distribution_metadata_record_sha256_verified", .bool r.distributionMetadataRecordSha256Verified),
      ("direct_url_record_sha256_verified", .bool r.directUrlRecordSha256Verified),
      ("expected_commit", .str r.expectedCommit), ("commit_verified", .bool r.commitVerified),
      ("verified_commit", jsonText r.verifiedCommit),
      ("recorded_archive_sha256_matched", jsonText r.recordedArchiveSha256Matched),
      ("local_artifact_file_sha256_verified", jsonText r.localArtifactFileSha256Verified),
      ("installer", .str r.installer)]
  nodup := by simp

/-- The object of a failure. -/
def failureDict (message errorType : String) : Dict String Json where
  entries := [("error", .str message), ("error_type", .str errorType), ("ok", .bool false)]
  nodup := by simp

/-- The text of an optional digest, as an f-string shows it. -/
def shown : Option String → String
  | none => "None"
  | some text => text

/-- `_success_text`. -/
def successText (r : VerificationResult) : String :=
  let start := "verified recorded SHA-256 for FlightSQL package source and selected distribution metadata ("
    ++ r.distribution ++ " " ++ r.installedVersion ++ "); source mode " ++ r.sourceMode
  if r.commitVerified then start ++ "; recorded source commit matched: " ++ shown r.verifiedCommit
  else start ++ "; referenced local artifact file SHA-256 verified: "
    ++ shown r.localArtifactFileSha256Verified ++ "; commit NOT verified (expected commit "
    ++ r.expectedCommit ++ " is contextual only)"

/-- `_failure`. -/
def failure (jsonRequested : Bool) (message errorType : String) (returncode : Nat) : Ended :=
  if jsonRequested then ⟨[.json (sortKeys (failureDict message errorType))], returncode⟩
  else ⟨[.err ("FlightSQL provenance verification failed: " ++ message)], returncode⟩

/-- `json_requested`. -/
def jsonRequested (rawArguments : List String) : Bool :=
  rawArguments.any fun argument => argument = "--json" ∨ "--json=".toList.isPrefixOf argument.toList

/-- What is printed for a result. -/
def success (json : Bool) (r : VerificationResult) : Printed :=
  if json then .json (sortKeys r.toDict) else .out (successText r)

variable {V : Type} (py : Platform) (lib : InstallLibrary V) (machine : Machine)
  (parseArgs : List String → ParsedArguments) (typeName : ExnClass → String)

/-- **`main`**, on a machine where `importlib.metadata` discovers these distributions. -/
def main (discovered : List Distribution) (rawArguments : List String) : Ended :=
  match parseArgs rawArguments with
  | .exit code => ⟨[], code⟩
  | .error message =>
    failure (jsonRequested rawArguments) ("invalid command line: " ++ message) "verification_failed" 1
  | .ok arguments =>
    match verifyInstallation py lib machine discovered arguments with
    | .ok r => ⟨[success arguments.json r], 0⟩
    | .error e =>
      if e.cls = .provenance then
        failure (jsonRequested rawArguments) e.message "verification_failed" 1
      else
        failure (jsonRequested rawArguments) (typeName e.cls ++ ": " ++ e.message) "operational_error" 2

/-! ## The line and the code -/

/-- **What `argparse` is relied on for**: it sets the flag exactly where it was given, and refuses a value
    for it. -/
structure ParsesFlag (rawArguments : List String) : Prop where
  flag : ∀ arguments, parseArgs rawArguments = .ok arguments →
    (arguments.json = true ↔ "--json" ∈ rawArguments)
  bare : ∀ arguments, parseArgs rawArguments = .ok arguments → ∀ argument ∈ rawArguments,
    "--json=".toList.isPrefixOf argument.toList = false

/-- Some arguments parse, and verifying them comes to `outcome`. -/
def VerifiesTo (discovered : List Distribution) (rawArguments : List String)
    (outcome : Except Exn VerificationResult) : Prop :=
  ∃ arguments, parseArgs rawArguments = .ok arguments ∧
    verifyInstallation py lib machine discovered arguments = outcome

/-- **The line and the exit code say the same**, and what they say is so. -/
structure Reported (discovered : List Distribution) (rawArguments : List String) (ended : Ended)
    (line : Printed) : Prop where
  one : ended.printed = [line]
  json : (∃ members, line = .json members) ↔ jsonRequested rawArguments = true
  ok : ∀ members, line = .json members → members.get? "ok" = some (.bool (decide (ended.returncode = 0)))
  stream : (∃ text, line = .err text) ↔ jsonRequested rawArguments = false ∧ ended.returncode ≠ 0
  verified : ended.returncode = 0 ↔ ∃ r, VerifiesTo py lib machine parseArgs discovered rawArguments (.ok r) ∧
    line = success (jsonRequested rawArguments) r
  refused : ended.returncode = 1 ↔ (∃ message, parseArgs rawArguments = .error message) ∨
    ∃ message, VerifiesTo py lib machine parseArgs discovered rawArguments (.error (provenanceError message))
  failed : ended.returncode = 2 ↔ ∃ e : Exn, e.cls ≠ .provenance ∧
    VerifiesTo py lib machine parseArgs discovered rawArguments (.error e)

variable {py lib machine parseArgs typeName}

theorem get?_sortKeys (d : Dict String Json) (key : String) : (sortKeys d).get? key = d.get? key := by
  refine Option.ext fun v => ?_
  rw [Dict.get?_eq_some_iff, Dict.get?_eq_some_iff]
  exact (List.mergeSort_perm d.entries _).mem_iff

theorem jsonRequested_of_parsed {rawArguments : List String} {arguments : Arguments}
    (hflag : ParsesFlag parseArgs rawArguments) (h : parseArgs rawArguments = .ok arguments) :
    jsonRequested rawArguments = arguments.json := by
  refine Bool.eq_iff_iff.mpr ?_
  rw [hflag.flag arguments h, jsonRequested, List.any_eq_true]
  constructor
  · rintro ⟨argument, hmem, hjson⟩
    rcases of_decide_eq_true hjson with rfl | hvalue
    · exact hmem
    · rw [hflag.bare arguments h argument hmem] at hvalue
      cases hvalue
  · intro hmem
    exact ⟨"--json", hmem, decide_eq_true (Or.inl rfl)⟩

theorem failure_printed {json : Bool} {message errorType : String} {code : Nat} :
    (failure json message errorType code).printed =
        [if json then .json (sortKeys (failureDict message errorType))
          else .err ("FlightSQL provenance verification failed: " ++ message)] ∧
      (failure json message errorType code).returncode = code := by
  unfold failure
  cases json with
  | false => exact ⟨rfl, rfl⟩
  | true => exact ⟨rfl, rfl⟩

/-- A failure's line: in the format asked for, not `ok`, and on standard error if it is a text. -/
theorem failure_line {json : Bool} {message errorType : String} {code : Nat} (hcode : code ≠ 0) {line : Printed}
    (h : (failure json message errorType code).printed = [line]) :
    ((∃ members, line = .json members) ↔ json = true) ∧
      (∀ members, line = .json members → members.get? "ok" = some (.bool (decide (code = 0)))) ∧
      ((∃ text, line = .err text) ↔ json = false ∧ code ≠ 0) := by
  rw [failure_printed.1] at h
  obtain rfl := List.singleton_inj.mp h
  cases json with
  | false => simp [hcode]
  | true =>
    refine ⟨by simp, fun members hmembers => ?_, by simp⟩
    obtain rfl : sortKeys (failureDict message errorType) = members := by simpa using hmembers
    rw [get?_sortKeys, decide_eq_false hcode]
    rfl

theorem verifiesTo_of_ok {discovered : List Distribution} {rawArguments : List String}
    {arguments : Arguments} (hparse : parseArgs rawArguments = .ok arguments)
    {outcome : Except Exn VerificationResult} :
    VerifiesTo py lib machine parseArgs discovered rawArguments outcome ↔
      verifyInstallation py lib machine discovered arguments = outcome := by
  constructor
  · rintro ⟨arguments', hparse', h⟩
    obtain rfl : arguments = arguments' := by
      rw [hparse] at hparse'
      exact ParsedArguments.ok.inj hparse'
    exact h
  · intro h
    exact ⟨arguments, hparse, h⟩

/-- A failure is reported, if its code is that of its kind. -/
theorem reported_failure {discovered : List Distribution} {rawArguments : List String}
    {message errorType : String} {code : Nat} (hcode : code ≠ 0)
    (hnone : ∀ r, ¬VerifiesTo py lib machine parseArgs discovered rawArguments (.ok r))
    (hrefused : code = 1 ↔ (∃ message, parseArgs rawArguments = .error message) ∨
      ∃ message, VerifiesTo py lib machine parseArgs discovered rawArguments (.error (provenanceError message)))
    (hfailed : code = 2 ↔ ∃ e : Exn, e.cls ≠ .provenance ∧
      VerifiesTo py lib machine parseArgs discovered rawArguments (.error e)) :
    ∃ line, Reported py lib machine parseArgs discovered rawArguments
      (failure (jsonRequested rawArguments) message errorType code) line := by
  obtain ⟨hshown, hreturn⟩ := @failure_printed (jsonRequested rawArguments) message errorType code
  obtain ⟨line, hprinted⟩ : ∃ line, (failure (jsonRequested rawArguments) message errorType code).printed =
      [line] := ⟨_, hshown⟩
  obtain ⟨hjson, hok, hstream⟩ := failure_line hcode hprinted
  refine ⟨line, ?_⟩
  constructor
  case one => exact hprinted
  case json => exact hjson
  case ok => rwa [hreturn]
  case stream => rwa [hreturn]
  case verified =>
    rw [hreturn]
    exact iff_of_false hcode fun ⟨r, hr, _⟩ => hnone r hr
  case refused => rwa [hreturn]
  case failed => rwa [hreturn]

theorem reported_success {discovered : List Distribution} {rawArguments : List String}
    {arguments : Arguments} {r : VerificationResult} (hflag : ParsesFlag parseArgs rawArguments)
    (hparse : parseArgs rawArguments = .ok arguments) (hok : r.ok = true)
    (hverify : verifyInstallation py lib machine discovered arguments = .ok r) :
    Reported py lib machine parseArgs discovered rawArguments ⟨[success arguments.json r], 0⟩
      (success arguments.json r) := by
  have hjson := jsonRequested_of_parsed hflag hparse
  constructor
  case one => rfl
  case json =>
    rw [hjson]
    cases arguments.json <;> simp [success]
  case ok =>
    intro members hmembers
    unfold success at hmembers
    split at hmembers
    · obtain rfl : sortKeys r.toDict = members := by simpa using hmembers
      rw [get?_sortKeys]
      show some (Json.bool r.ok) = _
      rw [hok]
      rfl
    · cases hmembers
  case stream =>
    refine iff_of_false (fun ⟨text, htext⟩ => ?_) fun h => h.2 rfl
    unfold success at htext
    split at htext <;> cases htext
  case verified =>
    rw [hjson]
    exact iff_of_true rfl ⟨r, (verifiesTo_of_ok hparse).mpr hverify, rfl⟩
  case refused =>
    refine iff_of_false (by simp) ?_
    rintro (⟨message, h⟩ | ⟨message, h⟩)
    · rw [hparse] at h
      cases h
    · rw [verifiesTo_of_ok hparse, hverify] at h
      cases h
  case failed =>
    refine iff_of_false (by simp) ?_
    rintro ⟨e, -, h⟩
    rw [verifiesTo_of_ok hparse, hverify] at h
    cases h

/-- **`main` reports**: unless `argparse` answers itself, one line is printed, and it says what the exit code
    says. -/
theorem main_reports {discovered : List Distribution} {rawArguments : List String}
    (hflag : ParsesFlag parseArgs rawArguments)
    (hanswered : ∀ code, parseArgs rawArguments ≠ .exit code) :
    ∃ line, Reported py lib machine parseArgs discovered rawArguments
      (main py lib machine parseArgs typeName discovered rawArguments) line := by
  unfold main
  rcases hparse : parseArgs rawArguments with arguments | message | code
  · rcases hverify : verifyInstallation py lib machine discovered arguments with e | r
    · have hverifies := @verifiesTo_of_ok _ py lib machine parseArgs discovered _ _ hparse
      by_cases hclass : e.cls = .provenance
      · simp only [hverify, hclass, if_true]
        refine reported_failure (by decide) (fun r h => ?_) ?_ ?_
        · rw [hverifies, hverify] at h
          cases h
        · refine iff_of_true rfl (Or.inr ⟨e.message, hverifies.mpr ?_⟩)
          rw [hverify, provenanceError, ← hclass]
        · refine iff_of_false (by decide) ?_
          rintro ⟨e', hclass', h⟩
          rw [hverifies, hverify] at h
          exact hclass' (Except.error.inj h ▸ hclass)
      · simp only [hverify, hclass, if_false]
        refine reported_failure (by decide) (fun r h => ?_) ?_ ?_
        · rw [hverifies, hverify] at h
          cases h
        · refine iff_of_false (by decide) ?_
          rintro (⟨message, h⟩ | ⟨message, h⟩)
          · rw [hparse] at h
            cases h
          · rw [hverifies, hverify] at h
            exact hclass (Except.error.inj h ▸ rfl)
        · exact iff_of_true rfl ⟨e, hclass, hverifies.mpr hverify⟩
    · obtain ⟨_, _, _, _, _, _, hverified⟩ := verifyInstallation_verified hverify
      obtain ⟨_, _, hreports⟩ := hverified.reports
      simp only [hverify]
      exact ⟨_, reported_success hflag hparse hreports.scope.1 hverify⟩
  · refine reported_failure (by decide) ?_ ?_ ?_
    · rintro r ⟨arguments, h, -⟩
      rw [hparse] at h
      cases h
    · exact iff_of_true rfl (Or.inl ⟨message, hparse⟩)
    · refine iff_of_false (by decide) ?_
      rintro ⟨e, -, arguments, h, -⟩
      rw [hparse] at h
      cases h
  · exact absurd hparse (hanswered code)

/-- `argparse` on a commit with `--json`. -/
def parseCommit : List String → ParsedArguments
  | ["--expected-commit", commit, "--json"] => .ok { expectedCommit := commit, json := true }
  | _ => .error "the following arguments are required: --expected-commit"

/-- The theorem on the verified installation. -/
theorem main_reports_release : ∃ line, Reported releasePlatform releaseLibrary verifiedMachine parseCommit
    [verifiedDistribution] ["--expected-commit", releaseCommit, "--json"]
    (main releasePlatform releaseLibrary verifiedMachine parseCommit (fun _ => "Exception")
      [verifiedDistribution] ["--expected-commit", releaseCommit, "--json"]) line := by
  have hparse : parseCommit ["--expected-commit", releaseCommit, "--json"] =
      .ok { expectedCommit := releaseCommit, json := true } := rfl
  refine main_reports ⟨fun arguments h => ?_, fun arguments h => ?_⟩ fun code h => ?_
  · rw [hparse] at h
    rw [← ParsedArguments.ok.inj h]
    simp
  · decide +kernel
  · rw [hparse] at h
    cases h

end FlightSql.Provenance
