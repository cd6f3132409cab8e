/-
  The guarantees of the release channel, over every interleaving of builds.

  1. **Authority** (`run_authority`) — only a build of main that is asked to publish binds the credentials,
     touches the bucket or archives anything, and what it does then it does in the protocol's order.

  2. **Immutability** (`run_bucket`) — an object stays as it is; one that was not there from the start
     was stored by exactly one build, which had built it twice.

  3. **What is archived** (`run_archived`) — the digest of the object that is and stays under the key.

  4. **Competition** (`exactly_one_release`, `release_retry`) — of the releases of one version exactly one
     succeeds, and of a version that is there already none.

  Mathlib-free.
-/
import FlightSql.WheelRelease.Publication

set_option linter.unusedVariables false

namespace FlightSql.Release

open Lib Provenance

variable {py : Interpreter} {zip : WheelReader} {toLowerCase : String → String} {ι : Type} [DecidableEq ι]
  {jobs : ι → Job} {S : Type} {bucket : Bucket S} {initial : S}

/-! ## What the protocol says of an effect -/

theorem objectKey_injective {version version' : String} (h : objectKey version = objectKey version') :
    version = version' := by
  have htext : "flightsql-dbapi/" ++ ("flightsql_dbapi-" ++ version ++ "-py3-none-any.whl") =
      "flightsql-dbapi/" ++ ("flightsql_dbapi-" ++ version' ++ "-py3-none-any.whl") := h
  have hchars := congrArg String.toList htext
  simp only [String.toList_append] at hchars
  have hversion := List.append_cancel_right (List.append_cancel_left hchars)
  exact String.toList_injective (List.append_cancel_left hversion)

theorem Protocol.publishes {job : Job} {own : List Effect} (h : Protocol py zip job own) (hne : own ≠ []) :
    job.publishes = true := by
  cases h with
  | start => exact absurd rfl hne
  | bound h => exact h
  | looked h => exact h
  | boundAgain h => exact h
  | notStored h => exact h.publishes
  | stored h => exact h.publishes
  | read h => exact h.publishes
  | archived h => exact h.publishes

theorem Protocol.of_stored {job : Job} {own : List Effect} (h : Protocol py zip job own) {key : String}
    {body : Bytes} (hmem : .stored key body ∈ own) :
    Releases py job body ∧ key = objectKey job.baseVersion := by
  cases h with
  | start => simp at hmem
  | bound _ => simp at hmem
  | looked _ => simp at hmem
  | boundAgain _ => simp at hmem
  | notStored _ => simp at hmem
  | stored h =>
    obtain ⟨rfl, rfl⟩ : key = _ ∧ body = _ := by simpa using hmem
    exact ⟨h, rfl⟩
  | read h =>
    obtain ⟨rfl, rfl⟩ : key = _ ∧ body = _ := by simpa using hmem
    exact ⟨h, rfl⟩
  | archived h =>
    obtain ⟨rfl, rfl⟩ : key = _ ∧ body = _ := by simpa using hmem
    exact ⟨h, rfl⟩

/-- What has been archived is the line of the wheel the build has stored. -/
theorem Protocol.of_archived {job : Job} {own : List Effect} (h : Protocol py zip job own) {text : String}
    (hmem : .archived text ∈ own) : ∃ wheel, Releases py job wheel ∧
      Declares py zip wheel "flightsql_dbapi" job.baseVersion ∧
      text = publishedLine py job.baseVersion wheel ∧ .stored (objectKey job.baseVersion) wheel ∈ own := by
  cases h with
  | start => simp at hmem
  | bound _ => simp at hmem
  | looked _ => simp at hmem
  | boundAgain _ => simp at hmem
  | notStored _ => simp at hmem
  | stored _ => simp at hmem
  | read _ => simp at hmem
  | archived h hdash hdeclares =>
    exact ⟨_, h, hdeclares, by simpa using hmem, by simp⟩

/-- **A release that was asked for**: a build of the branch main, of no pull request, with the parameter
    set. -/
theorem publishes_iff {job : Job} : job.publishes = true ↔
    job.env.branchName = "main" ∧ job.env.changeId.getD "" = "" ∧ job.publishRelease = some true := by
  constructor
  · intro h
    have hall : (job.env.branchName = "main" ∧ job.env.isPullRequest = false) ∧
        job.publishRelease = some true := by
      simpa [Job.publishes, BuildEnv.isMain] using h
    obtain ⟨⟨hbranch, hpr⟩, hparameter⟩ := hall
    have hneither := Bool.or_eq_false_iff.mp hpr
    exact ⟨hbranch, by simpa using hneither.1, hparameter⟩
  · rintro ⟨hbranch, hchange, hparameter⟩
    have hpr : job.env.isPullRequest = false := by
      rw [BuildEnv.isPullRequest, hbranch, hchange]
      decide
    simp [Job.publishes, BuildEnv.isMain, hbranch, hpr, hparameter]

/-! ## A release -/

/-- A wheel that holds nothing but its METADATA. -/
def releaseWheel : Bytes :=
  [80, 75, 3, 4, 20, 0, 0, 0, 0, 0, 0, 0, 33, 0, 179, 223, 241, 28, 40, 0, 0, 0, 40, 0, 0, 0, 42, 0, 0,
    0, 102, 108, 105, 103, 104, 116, 115, 113, 108, 95, 100, 98, 97, 112, 105, 45, 48, 46, 50, 46, 50, 46,
    53, 46, 100, 105, 115, 116, 45, 105, 110, 102, 111, 47, 77, 69, 84, 65, 68, 65, 84, 65, 78, 97, 109,
    101, 58, 32, 102, 108, 105, 103, 104, 116, 115, 113, 108, 45, 100, 98, 97, 112, 105, 10, 86, 101, 114,
    115, 105, 111, 110, 58, 32, 48, 46, 50, 46, 50, 46, 53, 10, 10, 80, 75, 1, 2, 20, 3, 20, 0, 0, 0, 0,
    0, 0, 0, 33, 0, 179, 223, 241, 28, 40, 0, 0, 0, 40, 0, 0, 0, 42, 0, 0, 0, 0, 0, 0, 0, 0, 0, 0, 0, 128,
    1, 0, 0, 0, 0, 102, 108, 105, 103, 104, 116, 115, 113, 108, 95, 100, 98, 97, 112, 105, 45, 48, 46, 50,
    46, 50, 46, 53, 46, 100, 105, 115, 116, 45, 105, 110, 102, 111, 47, 77, 69, 84, 65, 68, 65, 84, 65, 80,
    75, 5, 6, 0, 0, 0, 0, 1, 0, 1, 0, 88, 0, 0, 0, 112, 0, 0, 0, 0, 0]

/-- An interpreter that has the digests of this wheel and of an empty file. -/
def releaseInterpreter : Interpreter :=
  { Interpreter.ascii with
    sha256 := fun content =>
      if content = [] then emptySha256
      else [170, 32, 212, 50, 24, 1, 31, 177, 202, 79, 141, 182, 216, 192, 103, 120, 1, 85, 195, 130, 92,
        190, 195, 211, 126, 163, 184, 214, 137, 125, 86, 178] }

/-- The METADATA in the wheel. -/
def releaseMetadata : String := "Name: flightsql-dbapi\nVersion: 0.2.2.5\n\n"

/-- What `zipfile` and `email.parser` make of the wheel. -/
def releaseReader : WheelReader where
  namelist content :=
    if content = [] then .error (.unreadable "File is not a zip file")
    else .ok ["flightsql_dbapi-0.2.2.5.dist-info/METADATA"]
  read _ _ := .ok (Provenance.utf8 releaseMetadata)
  header _ name :=
    if name = "Name" then some "flightsql-dbapi" else if name = "Version" then some "0.2.2.5" else none
  decodeError _ := "'utf-8' codec can't decode bytes"

/-- A release of 0.2.2.5, all of whose own steps succeed. -/
def releaseJob : Job where
  env := { changeId := none, branchName := "main" }
  publishRelease := some true
  shortGitRev := "abc1234"
  baseVersion := "0.2.2.5"
  sourceDateEpoch := "1787788800"
  status _ := 0
  buildA := .ofList [(wheelName "0.2.2.5", releaseWheel), (sdistName "0.2.2.5", [])]
  buildB := .ofList [(wheelName "0.2.2.5", releaseWheel), (sdistName "0.2.2.5", [])]
  installation _ :=
    { version := "0.2.2.5"
      entryPoints := [("sqlalchemy.dialects", "datafusion"), ("sqlalchemy.dialects", "datafusion.flightsql")]
      dialect := fun _ => some "DataFusionDialect" }

theorem decodeUtf8_utf8 (text : String) : decodeUtf8 (Provenance.utf8 text) = some text := by
  have hbytes : (⟨(Provenance.utf8 text).toArray⟩ : ByteArray) = text.toByteArray := by
    rw [Provenance.utf8, Array.toArray_toList]
  rw [decodeUtf8, hbytes, String.fromUTF8?, dif_pos text.isValidUTF8]
  rfl

theorem declares_releaseWheel :
    Declares releaseInterpreter releaseReader releaseWheel "flightsql_dbapi" "0.2.2.5" :=
  ⟨_, "flightsql_dbapi-0.2.2.5.dist-info/METADATA", Provenance.utf8 releaseMetadata, releaseMetadata, "flightsql-dbapi",
    rfl, by decide +kernel, rfl, decodeUtf8_utf8 _, rfl, by decide, by decide +kernel, rfl⟩

theorem releasable_releaseJob : Releasable releaseInterpreter releaseReader releaseJob releaseWheel where
  trusted := rfl
  versioned := by decide
  tested := rfl
  built := by
    have hbuilt : (buildArtifacts releaseInterpreter releaseJob "0.2.2.5").toOption = some releaseWheel := by
      decide +kernel
    show buildArtifacts releaseInterpreter releaseJob "0.2.2.5" = .ok releaseWheel
    rcases hresult : buildArtifacts releaseInterpreter releaseJob "0.2.2.5" with e | wheel
    · rw [hresult] at hbuilt
      cases hbuilt
    · rw [hresult] at hbuilt
      rw [Option.some.inj hbuilt]
  installable := by
    have hinspected : inspectArtifact (releaseJob.installation releaseWheel) "0.2.2.5" = true := by decide
    show (exitOneIf (!inspectArtifact (releaseJob.installation releaseWheel) "0.2.2.5")) = .ok ()
    rw [hinspected]
    rfl
  client := rfl
  stable := by decide
  dashless := by decide
  declares := declares_releaseWheel

/-- Builds of that release beside each other, and an empty bucket. -/
def releaseBuilds (ι : Type) [DecidableEq ι] :
    Pool ι Request Reply (Except String (Option String)) (Store ι (Dict String Bytes)) :=
  builds releaseInterpreter releaseReader lowerAscii (fun _ => releaseJob) .empty

/-! ## Every run -/

section Runs

variable (py zip toLowerCase jobs bucket initial)

/-- **Authority.** What a build has done outside its workspace it has done in the protocol's order, under its
    own key; and if it has done anything there, it is a release that was asked for. -/
theorem run_authority (moves : List (ι × Delivery)) (i : ι) :
    Protocol py zip (jobs i) (((builds py zip toLowerCase jobs initial).run bucket.serve moves).state.of i) ∧
      (((builds py zip toLowerCase jobs initial).run bucket.serve moves).state.of i = [] ∨
        (jobs i).env.branchName = "main" ∧ (jobs i).env.changeId.getD "" = "" ∧
          (jobs i).publishRelease = some true) := by
  have hprotocol := (reachable_consistent bucket py zip jobs toLowerCase initial moves).protocol i
  refine ⟨hprotocol, ?_⟩
  by_cases hnone : ((builds py zip toLowerCase jobs initial).run bucket.serve moves).state.of i = []
  · exact Or.inl hnone
  · exact Or.inr (publishes_iff.mp (hprotocol.publishes hnone))

/-- **Immutability.** An object is there from the start, or exactly one build ever stores it, a release
    that had built it twice under the key of its declared version; and whatever follows, it stays. -/
theorem run_bucket (moves moves' : List (ι × Delivery)) {key : String} {body : Bytes}
    (h : ((builds py zip toLowerCase jobs initial).run bucket.serve moves).state.objects bucket key = some body) :
    ((builds py zip toLowerCase jobs initial).run bucket.serve (moves ++ moves')).state.objects bucket key = some body ∧
      (bucket.object initial key = some body ∨
        bucket.object initial key = none ∧ ∃ i, Releases py (jobs i) body ∧ key = objectKey (jobs i).baseVersion ∧
          (i, Effect.stored key body) ∈
            ((builds py zip toLowerCase jobs initial).run bucket.serve (moves ++ moves')).state.effects ∧
          ∀ j body', (j, Effect.stored key body') ∈
            ((builds py zip toLowerCase jobs initial).run bucket.serve (moves ++ moves')).state.effects → j = i) := by
  have hnow := reachable_consistent bucket py zip jobs toLowerCase initial moves
  have hlater := reachable_consistent bucket py zip jobs toLowerCase initial (moves ++ moves')
  have hkept := (run_kept bucket py zip jobs toLowerCase initial moves moves').1 key body h
  refine ⟨hkept, ?_⟩
  rcases hlater.origin key body hkept with hinitial | ⟨i, hi⟩
  · exact Or.inl hinitial
  · obtain ⟨hreleases, hkey⟩ := (hlater.protocol i).of_stored (mem_of.mpr hi)
    exact Or.inr ⟨(hlater.stored i key body hi).1, i, hreleases, hkey, hi, fun j body' hj =>
      hlater.once j i key body' body hj hi⟩

/-- After four of its requests a release has stored its wheel. -/
theorem run_bucket_release :
    ((releaseBuilds Unit).run mapBucket.serve (List.replicate 4 ((), .answered) ++ [])).state.objects mapBucket
        (objectKey "0.2.2.5") = some releaseWheel ∧
      (mapBucket.object .empty (objectKey "0.2.2.5") = some releaseWheel ∨
        mapBucket.object .empty (objectKey "0.2.2.5") = none ∧
          ∃ i : Unit, Releases releaseInterpreter releaseJob releaseWheel ∧
            objectKey "0.2.2.5" = objectKey releaseJob.baseVersion ∧
            (i, Effect.stored (objectKey "0.2.2.5") releaseWheel) ∈
              ((releaseBuilds Unit).run mapBucket.serve (List.replicate 4 ((), .answered) ++ [])).state.effects ∧
            ∀ j body', (j, Effect.stored (objectKey "0.2.2.5") body') ∈
              ((releaseBuilds Unit).run mapBucket.serve (List.replicate 4 ((), .answered) ++ [])).state.effects →
                j = i) :=
  run_bucket releaseInterpreter releaseReader lowerAscii (fun _ => releaseJob) mapBucket .empty
    (List.replicate 4 ((), .answered)) [] (by decide +kernel)

/-- **What is archived is true**: the line names a wheel whose metadata are those of the version, built
    twice by the build that archived it, the object under its key from then on; and no other build
    archives a line for this version. -/
theorem run_archived (moves moves' : List (ι × Delivery)) {i : ι} {text : String}
    (h : (i, Effect.archived text) ∈ ((builds py zip toLowerCase jobs initial).run bucket.serve moves).state.effects) :
    (∃ wheel, text = publishedLine py (jobs i).baseVersion wheel ∧ Releases py (jobs i) wheel ∧
        Declares py zip wheel "flightsql_dbapi" (jobs i).baseVersion ∧
        bucket.object initial (objectKey (jobs i).baseVersion) = none ∧
        ((builds py zip toLowerCase jobs initial).run bucket.serve (moves ++ moves')).state.objects bucket
          (objectKey (jobs i).baseVersion) = some wheel) ∧
      ∀ j text', (j, Effect.archived text') ∈
          ((builds py zip toLowerCase jobs initial).run bucket.serve moves).state.effects →
        (jobs j).baseVersion = (jobs i).baseVersion → j = i ∧ text' = text := by
  have hnow := reachable_consistent bucket py zip jobs toLowerCase initial moves
  obtain ⟨wheel, hreleases, hdeclares, htext, hstored⟩ := (hnow.protocol i).of_archived (mem_of.mpr h)
  obtain ⟨hinitial, hobject⟩ := hnow.stored i _ wheel (mem_of.mp hstored)
  refine ⟨⟨wheel, htext, hreleases, hdeclares, hinitial,
    (run_kept bucket py zip jobs toLowerCase initial moves moves').1 _ wheel hobject⟩, ?_⟩
  intro j text' hj hversion
  obtain ⟨wheel', -, -, htext', hstored'⟩ := (hnow.protocol j).of_archived (mem_of.mpr hj)
  rw [hversion] at hstored' htext'
  have hij : j = i := hnow.once j i _ wheel' wheel (mem_of.mp hstored') (mem_of.mp hstored)
  have hsame := (hnow.stored j _ wheel' (mem_of.mp hstored')).2
  rw [hobject] at hsame
  exact ⟨hij, by rw [htext, htext', Option.some.inj hsame]⟩

/-- After six it has archived its line. -/
theorem run_archived_release :
    (∃ wheel, publishedLine releaseInterpreter "0.2.2.5" releaseWheel =
          publishedLine releaseInterpreter releaseJob.baseVersion wheel ∧
        Releases releaseInterpreter releaseJob wheel ∧
        Declares releaseInterpreter releaseReader wheel "flightsql_dbapi" releaseJob.baseVersion ∧
        mapBucket.object .empty (objectKey releaseJob.baseVersion) = none ∧
        ((releaseBuilds Unit).run mapBucket.serve (List.replicate 6 ((), .answered) ++ [])).state.objects mapBucket
          (objectKey releaseJob.baseVersion) = some wheel) ∧
      ∀ (j : Unit) text', (j, Effect.archived text') ∈
          ((releaseBuilds Unit).run mapBucket.serve (List.replicate 6 ((), .answered))).state.effects →
        releaseJob.baseVersion = releaseJob.baseVersion →
          j = () ∧ text' = publishedLine releaseInterpreter "0.2.2.5" releaseWheel := by
  have hdone : ((), Effect.archived (publishedLine releaseInterpreter "0.2.2.5" releaseWheel)) ∈
      ((releaseBuilds Unit).run mapBucket.serve (List.replicate 6 ((), .answered))).state.effects := by
    decide +kernel
  exact run_archived releaseInterpreter releaseReader lowerAscii (fun _ => releaseJob) mapBucket .empty
    (List.replicate 6 ((), .answered)) [] hdone

/-! ## Competing releases -/

/-- A build makes at most six requests. -/
theorem pipeline_atMost (job : Job) : (pipeline py zip toLowerCase job).run.AtMost 6 := by
  have hcheck : ∀ version, (rejectPublished job version).run.AtMost 2 := by
    intro version
    rw [rejectPublished]
    split
    · exact .done _
    · refine .askExcept fun _ => .askExcept fun found => ?_
      split
      · exact .done _
      · exact .done _
  have hpublish : ∀ version wheel, (publishWheel py zip job version wheel).run.AtMost 4 := by
    intro version wheel
    rw [publishWheel]
    split
    · exact .done _
    split
    · exact .done _
    · exact .askExcept fun _ => .ofExcept fun _ => .askExcept fun _ => .ofExcept fun _ =>
        .askExcept fun _ => .ofExcept fun _ => .askExcept fun _ => .done _
  exact .ofExcept fun _ => .ofExcept fun version => .ofExcept fun _ =>
    .bindExcept (hcheck version) fun _ => .ofExcept fun wheel => .ofExcept fun _ => hpublish version wheel

/-- **How a competitor ends** that has all its moves, every request answered: it has stored its wheel and
    has published it, or has stored nothing and has failed because of the object that is there. -/
theorem competitor_ends {moves : List (ι × Delivery)} (hanswered : ∀ move ∈ moves, move.2 = .answered)
    {j : ι} (hpub : (jobs j).publishes = true) (hreleasable : ∃ wheel, Releasable py zip (jobs j) wheel)
    (hmoves : 6 ≤ Pool.movesOf j moves) {final : Pool ι Request Reply (Except String (Option String)) (Store ι S)}
    (hfinal : (builds py zip toLowerCase jobs initial).run bucket.serve moves = final) :
    (∃ wheel, final.scripts j = .done (.ok (some (publishedLine py (jobs j).baseVersion wheel))) ∧
        (j, Effect.stored (objectKey (jobs j).baseVersion) wheel) ∈ final.state.effects) ∨
      final.state.objects bucket (objectKey (jobs j).baseVersion) ≠ none ∧
        (∀ wheel, (j, Effect.stored (objectKey (jobs j).baseVersion) wheel) ∉ final.state.effects) ∧
        (final.scripts j = .done (.error (alreadyPublished (jobs j).baseVersion)) ∨
          final.scripts j = .done (.error "script returned exit code 1")) := by
  have hmost : ((builds py zip toLowerCase jobs initial).scripts j).AtMost 6 :=
    pipeline_atMost py zip toLowerCase (jobs j)
  obtain ⟨r, hr⟩ := Pool.run_done hmost hmoves
  have hended := Discipline.post_of_run
    (builds_wp bucket py zip jobs toLowerCase initial fun delivery => delivery = .answered) hanswered hr
  rw [hfinal] at hr hended
  have hmem : ∀ e, (j, e) ∈ final.state.effects ↔ e ∈ final.state.of j := fun e => mem_of.symm
  simp only [hmem]
  rw [hr]
  generalize final.state.of j = own at hended ⊢
  cases hended with
  | built h =>
    rw [hpub] at h
    cases h
  | published h => exact Or.inl ⟨_, rfl, by simp⟩
  | alreadyPublished h => exact Or.inr ⟨h, by simp, Or.inl rfl⟩
  | refused h => exact Or.inr ⟨h, by simp, Or.inr rfl⟩
  | failed h => exact absurd hreleasable (h hpub)
  | lost h hlost => exact absurd h hlost

/-- **Of the releases of a version that is new, exactly one succeeds**, if every request is answered and
    no own step of theirs fails: the others end as releases of a version that is already published, or
    with the refusal of their put. -/
theorem exactly_one_release (version : String) (moves : List (ι × Delivery))
    (hnew : bucket.object initial (objectKey version) = none) (hanswered : ∀ move ∈ moves, move.2 = .answered)
    (hsome : ∃ i, (jobs i).publishes = true ∧ (jobs i).baseVersion = version)
    (hcompete : ∀ i, (jobs i).publishes = true → (jobs i).baseVersion = version →
      (∃ wheel, Releasable py zip (jobs i) wheel) ∧ 6 ≤ Pool.movesOf i moves) :
    ∃ i wheel, (jobs i).publishes = true ∧ (jobs i).baseVersion = version ∧
      ((builds py zip toLowerCase jobs initial).run bucket.serve moves).scripts i =
        .done (.ok (some (publishedLine py version wheel))) ∧
      ((builds py zip toLowerCase jobs initial).run bucket.serve moves).state.objects bucket (objectKey version) =
        some wheel ∧
      ∀ j, (jobs j).publishes = true → (jobs j).baseVersion = version → j ≠ i →
        ((builds py zip toLowerCase jobs initial).run bucket.serve moves).scripts j =
            .done (.error (alreadyPublished version)) ∨
          ((builds py zip toLowerCase jobs initial).run bucket.serve moves).scripts j =
            .done (.error "script returned exit code 1") := by
  have hstore := reachable_consistent bucket py zip jobs toLowerCase initial moves
  generalize hfinal : (builds py zip toLowerCase jobs initial).run bucket.serve moves = final at hstore ⊢
  have hends := fun j hpub (hversion : (jobs j).baseVersion = version) =>
    hversion ▸ competitor_ends py zip toLowerCase jobs bucket initial hanswered hpub
      (hcompete j hpub hversion).1 (hcompete j hpub hversion).2 hfinal
  -- what is under the key one of them has stored, and that one has succeeded
  have hthere : final.state.objects bucket (objectKey version) ≠ none := by
    obtain ⟨j, hpub, hversion⟩ := hsome
    rcases hends j hpub hversion with ⟨wheel, -, hstored⟩ | ⟨hthere, -⟩
    · rw [(hstore.stored j _ wheel hstored).2]
      exact Option.some_ne_none wheel
    · exact hthere
  obtain ⟨wheel, hobject⟩ := Option.ne_none_iff_exists'.mp hthere
  rcases hstore.origin _ wheel hobject with hinitial | ⟨i, hi⟩
  · rw [hnew] at hinitial
    cases hinitial
  obtain ⟨hreleases, hkey⟩ := (hstore.protocol i).of_stored (mem_of.mpr hi)
  have hversion : (jobs i).baseVersion = version := (objectKey_injective hkey).symm
  have hdone : final.scripts i = .done (.ok (some (publishedLine py version wheel))) := by
    rcases hends i hreleases.publishes hversion with ⟨wheel', hdone, hstored⟩ | ⟨-, hnot, -⟩
    · have hsame := (hstore.stored i _ wheel' hstored).2
      rw [hobject] at hsame
      rw [hdone, Option.some.inj hsame]
    · exact absurd hi (hnot wheel)
  refine ⟨i, wheel, hreleases.publishes, hversion, hdone, hobject, ?_⟩
  intro j hpub hversion' hne
  rcases hends j hpub hversion' with ⟨wheel', -, hstored⟩ | ⟨-, -, hresult⟩
  · exact absurd (hstore.once j i _ wheel' wheel hstored hi) hne
  · exact hresult

/-- Two builds, the first of which is cut off in the middle by the second, until both are done. -/
def releaseMoves : List (Bool × Delivery) :=
  [(false, .answered), (false, .answered), (false, .answered)] ++ List.replicate 6 (true, .answered) ++
    List.replicate 3 (false, .answered)

theorem exactly_one_release_two : ∃ i wheel, releaseJob.publishes = true ∧ releaseJob.baseVersion = "0.2.2.5" ∧
    ((releaseBuilds Bool).run mapBucket.serve releaseMoves).scripts i =
      .done (.ok (some (publishedLine releaseInterpreter "0.2.2.5" wheel))) ∧
    ((releaseBuilds Bool).run mapBucket.serve releaseMoves).state.objects mapBucket (objectKey "0.2.2.5") =
      some wheel ∧
    ∀ j, releaseJob.publishes = true → releaseJob.baseVersion = "0.2.2.5" → j ≠ i →
      ((releaseBuilds Bool).run mapBucket.serve releaseMoves).scripts j =
          .done (.error (alreadyPublished "0.2.2.5")) ∨
        ((releaseBuilds Bool).run mapBucket.serve releaseMoves).scripts j =
          .done (.error "script returned exit code 1") := by
  have hpub : releaseJob.publishes = true := by decide +kernel
  exact exactly_one_release releaseInterpreter releaseReader lowerAscii (fun _ : Bool => releaseJob) mapBucket .empty
    "0.2.2.5" releaseMoves rfl (by decide +kernel) ⟨true, hpub, rfl⟩
    (fun i _ _ => ⟨⟨_, releasable_releaseJob⟩, by cases i <;> decide +kernel⟩)

/-- **A retry of a published version fails closed**: a build that finds an object it has not stored itself
    under its key never stores or archives anything, and does not end as one that has published. -/
theorem release_retry (moves moves' : List (ι × Delivery)) {i : ι}
    (hthere : ((builds py zip toLowerCase jobs initial).run bucket.serve moves).state.objects bucket
      (objectKey (jobs i).baseVersion) ≠ none)
    (hother : ∀ body, (i, Effect.stored (objectKey (jobs i).baseVersion) body) ∉
      ((builds py zip toLowerCase jobs initial).run bucket.serve moves).state.effects) :
    (∀ key body, (i, Effect.stored key body) ∉
        ((builds py zip toLowerCase jobs initial).run bucket.serve (moves ++ moves')).state.effects) ∧
      (∀ text, (i, Effect.archived text) ∉
        ((builds py zip toLowerCase jobs initial).run bucket.serve (moves ++ moves')).state.effects) ∧
      ∀ text, ((builds py zip toLowerCase jobs initial).run bucket.serve (moves ++ moves')).scripts i ≠
        .done (.ok (some text)) := by
  have hnow := reachable_consistent bucket py zip jobs toLowerCase initial moves
  have hlater := reachable_consistent bucket py zip jobs toLowerCase initial (moves ++ moves')
  have hnever : ∀ key body, (i, Effect.stored key body) ∉
      ((builds py zip toLowerCase jobs initial).run bucket.serve (moves ++ moves')).state.effects := by
    intro key body hi
    obtain ⟨-, rfl⟩ := (hlater.protocol i).of_stored (mem_of.mpr hi)
    obtain ⟨body', hobject⟩ := Option.ne_none_iff_exists'.mp hthere
    rcases hnow.origin _ body' hobject with hinitial | ⟨k, hk⟩
    · rw [(hlater.stored i _ body hi).1] at hinitial
      cases hinitial
    · have hlaterk := (run_kept bucket py zip jobs toLowerCase initial moves moves').2 hk
      have hki : k = i := hlater.once k i _ body' body hlaterk hi
      exact hother body' (hki ▸ hk)
  refine ⟨hnever, fun text hi => ?_, fun text hdone => ?_⟩
  · obtain ⟨wheel, -, -, -, hstored⟩ := (hlater.protocol i).of_archived (mem_of.mpr hi)
    exact hnever _ wheel (mem_of.mp hstored)
  · have hended := Discipline.post_of_run (builds_wp bucket py zip jobs toLowerCase initial fun _ => True)
      (fun _ _ => trivial) hdone
    generalize hown : (((builds py zip toLowerCase jobs initial).run bucket.serve (moves ++ moves')).state.of i) =
      own at hended
    cases hended with
    | @published wheel h =>
      refine hnever (objectKey (jobs i).baseVersion) wheel (mem_of.mp ?_)
      rw [hown]
      simp

theorem release_retry_second :
    (∀ key body, (true, Effect.stored key body) ∉
        ((releaseBuilds Bool).run mapBucket.serve (List.replicate 6 (false, .answered) ++
          List.replicate 6 (true, .answered))).state.effects) ∧
      (∀ text, (true, Effect.archived text) ∉
        ((releaseBuilds Bool).run mapBucket.serve (List.replicate 6 (false, .answered) ++
          List.replicate 6 (true, .answered))).state.effects) ∧
      ∀ text, ((releaseBuilds Bool).run mapBucket.serve (List.replicate 6 (false, .answered) ++
          List.replicate 6 (true, .answered))).scripts true ≠ .done (.ok (some text)) := by
  refine release_retry releaseInterpreter releaseReader lowerAscii (fun _ : Bool => releaseJob) mapBucket .empty
    (List.replicate 6 (false, .answered)) (List.replicate 6 (true, .answered)) (by decide +kernel) ?_
  have hnone : (((releaseBuilds Bool).run mapBucket.serve (List.replicate 6 (false, .answered))).state.of true) = [] := by
    decide +kernel
  intro body h
  have hmem : Effect.stored _ body ∈
      ((releaseBuilds Bool).run mapBucket.serve (List.replicate 6 (false, .answered))).state.of true := mem_of.mpr h
  rw [hnone] at hmem
  cases hmem

end Runs

end FlightSql.Release
