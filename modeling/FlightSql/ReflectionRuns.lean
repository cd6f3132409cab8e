/-
  Any sequence of reflection calls over ONE info cache agrees with what the server says.

  1. **Runs** (`reflectionSteps`) — the calls of a list one after the other, each through SQLAlchemy's
     cache, with the session before and after it.

  2. **One call** (`apply_spec`) — it gives what the server's answers give if every call it makes of the
     connection returns, unless its warning is made an exception; else the last one failed, and it raises
     what that raised.  The cache stays coherent, and a listing stays listed.

  3. **What the answers say of a name** (`Listed`) — the listing has each such name once.

  4. **Every run** (`reflectionSteps_coherent`).

  Mathlib-free.
-/
import FlightSql.ReflectionCoherence

set_option linter.unusedVariables false

namespace FlightSql

open Lib

variable {σ : Type}

/-! ## Runs -/

/-- A list of calls over one session, each served by SQLAlchemy's cache. -/
def reflectionSteps (cache : ReflectionCache σ) (dialect : Dialect) (dbapi : Dbapi σ) :
    Session σ → List ReflectionCall → List (ReflectionStep σ)
  | _, [] => []
  | s, call :: calls =>
    let served := cache.apply call (call.body dialect dbapi) s
    ⟨call, s, served.1, served.2⟩ :: reflectionSteps cache dialect dbapi served.2 calls

/-- A session at its start: an empty info cache, nothing called and nothing warned about. -/
def Session.start (connection : σ) : Session σ := ⟨connection, some .empty, [], [], []⟩

/-! ## One call -/

section FixedAnswers

variable {dialect : Dialect} {dbapi : Dbapi σ} {I : σ → Prop} {answers : Answers}

/-- Between two calls: the cache is coherent, and the connection as its answers need it. -/
structure Ready (dialect : Dialect) (dbapi : Dbapi σ) (I : σ → Prop) (answers : Answers) (s : Session σ) :
    Prop where
  coherent : Coherent dialect dbapi answers s
  invariant : I s.connection

theorem ready_start {connection : σ} (h : I connection) :
    Ready dialect dbapi I answers (Session.start connection) :=
  ⟨⟨.empty, rfl, cacheCoherent_empty⟩, h⟩

/-- A call starts with no calls made. -/
theorem Ready.underWay {s : Session σ} (h : Ready dialect dbapi I answers s) :
    UnderWay dialect dbapi I answers s s :=
  ⟨h.coherent, h.invariant, ⟨[], (List.append_nil _).symm, rfl⟩, fun _ h => h⟩

theorem hasRelations_remember {s : Session σ} {schema : Option String} (h : HasRelations s schema)
    (call : ReflectionCall) (answer : ReflectionAnswer) :
    HasRelations (s.remember call answer) schema := by
  obtain ⟨relations, hrel⟩ := h
  obtain ⟨c, hc, hget⟩ := Option.bind_eq_some_iff.mp hrel
  refine ⟨relations, ?_⟩
  rw [Session.relations?, Session.remember, Session.infoCache_updateCache hc]
  exact hget

/-- **What one served call does.** -/
structure StepSpec (dialect : Dialect) (dbapi : Dbapi σ) (I : σ → Prop) (answers : Answers)
    (step : ReflectionStep σ) : Prop where
  /-- The session is ready for the next, however the call ended. -/
  ready : Ready dialect dbapi I answers step.after
  /-- The calls it made of the connection returned, or the last one failed. -/
  calls : step.Answered dbapi ∨ step.Failed dbapi
  /-- It gave what it should, or it is excused. -/
  outcome : step.outcome = expected dialect dbapi answers step.call ∨ step.Excused dialect dbapi
  /-- What it needed was cached: it called nothing. -/
  cached : Cached step.before step.call →
    step.after.connection = step.before.connection ∧ step.after.calls = step.before.calls
  /-- A listing that returned is in the cache. -/
  listed : ∀ answer schema, step.outcome = .ok answer → step.call.listed = some schema →
    HasRelations step.after schema
  /-- A listing that was in the cache still is. -/
  kept : ∀ schema, HasRelations step.before schema → HasRelations step.after schema

/-- **A step that returned is not excused.** -/
theorem ReflectionStep.not_excused {step : ReflectionStep σ} {answer : ReflectionAnswer}
    (h : step.outcome = .ok answer) : ¬step.Excused dialect dbapi := by
  rintro (⟨_, _, _, e, -, -, -, hraised, -⟩ | ⟨-, _, _, _, -, -, -, -, hraised⟩)
  · rw [h] at hraised
    cases hraised
  · rw [h] at hraised
    cases hraised

/-- What running the method does. -/
theorem body_spec (hfixed : dbapi.Fixed I answers) (hcons : Consistent dbapi answers)
    {s : Session σ} (hs : Ready dialect dbapi I answers s) (call : ReflectionCall) :
    StepSpec dialect dbapi I answers
      ⟨call, s, (call.body dialect dbapi s).1, (call.body dialect dbapi s).2⟩ := by
  have hcomputes := body_computes hfixed hcons call s s ⟨hs.underWay, trivial⟩
  have hcached : Cached s call →
      call.body dialect dbapi s = (expected dialect dbapi answers call, s) := body_cached hs.coherent
  have hkept : ∀ schema, HasRelations s schema →
      HasRelations (call.body dialect dbapi s).2 schema := fun schema =>
    body_keeps (stable_hasRelations schema) call s
  rcases hrun : call.body dialect dbapi s with ⟨outcome, after⟩
  rw [hrun] at hcomputes hcached hkept
  have hsame : Cached s call → after.connection = s.connection ∧ after.calls = s.calls := by
    intro h
    obtain ⟨-, rfl⟩ := Prod.mk.inj (hcached h)
    exact ⟨rfl, rfl⟩
  cases outcome with
  | ok answer =>
    obtain ⟨hexpected, hway, hlisted⟩ := hcomputes
    exact {
      ready := ⟨hway.coherent, hway.invariant⟩
      calls := Or.inl hway.answered
      outcome := Or.inl hexpected.symm
      cached := hsame
      listed := fun _ schema _ hschema => hlisted schema hschema
      kept := hkept }
  | error e =>
    have hraised : Raised dialect dbapi I answers call s (expected dialect dbapi answers call) e after :=
      hcomputes
    exact {
      ready := ⟨hraised.coherent, hraised.invariant⟩
      calls := hraised.calls
      outcome := hraised.cause.imp_left Eq.symm
      cached := hsame
      listed := fun _ _ hok _ => by cases hok
      kept := hkept }

/-- **What serving a call does**, whichever way SQLAlchemy's cache serves it. -/
theorem apply_spec (hfixed : dbapi.Fixed I answers) (hcons : Consistent dbapi answers)
    (cache : ReflectionCache σ) {s : Session σ} (hs : Ready dialect dbapi I answers s)
    (call : ReflectionCall) :
    StepSpec dialect dbapi I answers
      ⟨call, s, (cache.apply call (call.body dialect dbapi) s).1,
        (cache.apply call (call.body dialect dbapi) s).2⟩ := by
  have hbody := body_spec hfixed hcons hs call
  have hserved := cache.served call (call.body dialect dbapi) s
  generalize cache.apply call (call.body dialect dbapi) s = served at hserved
  cases hserved with
  | hit answer hmemo =>
    obtain ⟨hexpected, hlisted⟩ := hs.coherent.memoEntry hmemo
    exact {
      ready := hs
      calls := Or.inl hs.underWay.answered
      outcome := Or.inl hexpected.symm
      cached := fun _ => ⟨rfl, rfl⟩
      listed := fun _ schema _ hschema => hlisted schema hschema
      kept := fun _ h => h }
  | ran => exact hbody
  | stored answer s' hrun =>
    rw [hrun] at hbody
    have hreturned : ¬ReflectionStep.Excused dialect dbapi ⟨call, s, .ok answer, s'⟩ :=
      ReflectionStep.not_excused rfl
    have hok : Except.ok answer = expected dialect dbapi answers call :=
      hbody.outcome.resolve_right hreturned
    have hanswered : ReflectionStep.Answered dbapi ⟨call, s, .ok answer, s'⟩ :=
      hbody.calls.resolve_right fun hfailed => hreturned (Or.inl hfailed)
    have hlisted : ∀ schema, call.listed = some schema → HasRelations s' schema :=
      fun schema hschema => hbody.listed answer schema rfl hschema
    exact {
      ready := ⟨hbody.ready.coherent.remember hok.symm hlisted, hbody.ready.invariant⟩
      calls := Or.inl hanswered
      outcome := Or.inl hok
      cached := hbody.cached
      listed := fun _ schema _ hschema => hasRelations_remember (hlisted schema hschema) call answer
      kept := fun schema h => hasRelations_remember (hbody.kept schema h) call answer }

/-! ## What the answers say of a name -/

/-- A bulk name whose probe does not report it missing. -/
def Reported (dbapi : Dbapi σ) (answers : Answers) (schema : Option String) (tableName : String) :
    Prop :=
  tableName ∈ (answers.bulk schema).tableNames ∧ probed dbapi answers tableName schema ≠ .missing

/-- A bulk name whose probe reports it missing. -/
def Stale (dbapi : Dbapi σ) (answers : Answers) (schema : Option String) (tableName : String) : Prop :=
  tableName ∈ (answers.bulk schema).tableNames ∧ probed dbapi answers tableName schema = .missing

/-- A name with columns in a consistent bulk answer is not missing. -/
theorem probed_of_contains (hcons : Consistent dbapi answers) {schema : Option String}
    {tableName : String} (h : (answers.bulk schema).columns.contains tableName = true) :
    probed dbapi answers tableName schema ≠ .missing := by
  obtain ⟨columns, hget⟩ := Dict.mem_keys_iff.mp (Dict.contains_iff.mp h)
  rw [hcons schema tableName columns hget]
  intro hmissing
  cases hmissing

/-- **A listing has each reported name once**, and no other. -/
theorem listing_spec (hcons : Consistent dbapi answers) (schema : Option String) :
    (listing dbapi answers schema).1.Nodup ∧
      ∀ name, name ∈ (listing dbapi answers schema).1 ↔ Reported dbapi answers schema name := by
  rw [listing]
  by_cases hcomplete : (answers.bulk schema).unresolved = [] ∧
      (answers.bulk schema).includedSchemaSupported = true
  · simp only [if_pos hcomplete]
    refine ⟨nodup_fromKeys _, fun name => ?_⟩
    rw [mem_fromKeys]
    constructor
    · intro hname
      -- nothing is unresolved, so the bulk answer has columns for it
      have hcontains : (answers.bulk schema).columns.contains name = true := by
        have hnone := List.filter_eq_nil_iff.mp hcomplete.1 name (mem_fromKeys.mpr hname)
        simpa using hnone
      exact ⟨hname, probed_of_contains hcons hcontains⟩
    · exact fun hreported => hreported.1
  · simp only [if_neg hcomplete]
    -- the names probed and found
    have hfound : (((answers.bulk schema).unresolved.map fun name =>
          (name, probed dbapi answers name schema)).filter fun e => e.2 ≠ .missing).map Prod.fst =
        (answers.bulk schema).unresolved.filter fun name => probed dbapi answers name schema ≠ .missing := by
      rw [List.filter_map, List.map_map]
      exact List.map_id _
    have hunresolved : ∀ name, name ∈ (answers.bulk schema).unresolved ↔
        name ∈ (answers.bulk schema).tableNames ∧
          (answers.bulk schema).columns.contains name = false := by
      intro name
      rw [TableMetadataResult.unresolved, List.mem_filter, mem_fromKeys, Bool.not_eq_true']
    have hresolved : ∀ name, name ∈ (answers.bulk schema).resolved ↔
        name ∈ (answers.bulk schema).tableNames ∧
          (answers.bulk schema).columns.contains name = true := by
      intro name
      rw [TableMetadataResult.resolved, List.mem_filter, mem_fromKeys]
    rw [TableMetadataResult.present, hfound]
    constructor
    · -- a name with columns is not among those probed
      rw [List.nodup_append]
      refine ⟨(nodup_fromKeys _).filter _, ((nodup_fromKeys _).filter _).filter _, ?_⟩
      rintro a ha b hb rfl
      have hyes := ((hresolved a).mp ha).2
      have hno := ((hunresolved a).mp (List.mem_filter.mp hb).1).2
      rw [hyes] at hno
      cases hno
    · intro name
      rw [List.mem_append, List.mem_filter, hresolved, hunresolved, decide_eq_true_eq]
      constructor
      · rintro (⟨hname, hcontains⟩ | ⟨⟨hname, -⟩, hmissing⟩)
        · exact ⟨hname, probed_of_contains hcons hcontains⟩
        · exact ⟨hname, hmissing⟩
      · rintro ⟨hname, hmissing⟩
        cases hcontains : (answers.bulk schema).columns.contains name with
        | true => exact Or.inl ⟨hname, rfl⟩
        | false => exact Or.inr ⟨⟨hname, rfl⟩, hmissing⟩

/-! ## Every run -/

/-- **What every call keeps holds before every step**, and each step is a call served there. -/
theorem reflectionSteps_keep {cache : ReflectionCache σ} {P : Session σ → Prop}
    (hcall : ∀ (s : Session σ) (call : ReflectionCall), P s → P (cache.apply call (call.body dialect dbapi) s).2)
    {s : Session σ} (hs : P s) (calls : List ReflectionCall) :
    ∀ step ∈ reflectionSteps cache dialect dbapi s calls, ∃ call before, P before ∧
      step = ⟨call, before, (cache.apply call (call.body dialect dbapi) before).1,
        (cache.apply call (call.body dialect dbapi) before).2⟩ := by
  induction calls generalizing s with
  | nil =>
    intro step hstep
    cases hstep
  | cons call calls ih =>
    intro step hstep
    rcases List.mem_cons.mp hstep with rfl | hstep
    · exact ⟨call, s, hs, rfl⟩
    · exact ih (hcall s call hs) step hstep

/-- The steps of a run, one spec each, from a session that is ready. -/
theorem reflectionSteps_spec (hfixed : dbapi.Fixed I answers) (hcons : Consistent dbapi answers)
    (cache : ReflectionCache σ) {s : Session σ} (hs : Ready dialect dbapi I answers s)
    (calls : List ReflectionCall) :
    ∀ step ∈ reflectionSteps cache dialect dbapi s calls,
      Ready dialect dbapi I answers step.before ∧ StepSpec dialect dbapi I answers step := by
  intro step hstep
  have hkeeps : ∀ s call, Ready dialect dbapi I answers s →
      Ready dialect dbapi I answers (cache.apply call (call.body dialect dbapi) s).2 :=
    fun s call hs => (apply_spec hfixed hcons cache hs call).ready
  obtain ⟨call, before, hbefore, rfl⟩ := reflectionSteps_keep hkeeps hs calls step hstep
  exact ⟨hbefore, apply_spec hfixed hcons cache hbefore call⟩

/-- What is listed at some point of a run is listed before every later step. -/
theorem reflectionSteps_listed (hfixed : dbapi.Fixed I answers) (hcons : Consistent dbapi answers)
    (cache : ReflectionCache σ) {s : Session σ} (hs : Ready dialect dbapi I answers s)
    {schema : Option String} (hlisted : HasRelations s schema) (calls : List ReflectionCall) :
    ∀ step ∈ reflectionSteps cache dialect dbapi s calls, HasRelations step.before schema := by
  intro step hstep
  have hkeeps : ∀ s call, Ready dialect dbapi I answers s ∧ HasRelations s schema →
      Ready dialect dbapi I answers (cache.apply call (call.body dialect dbapi) s).2 ∧
        HasRelations (cache.apply call (call.body dialect dbapi) s).2 schema := by
    rintro s call ⟨hs, hlisted⟩
    have hspec := apply_spec hfixed hcons cache hs call
    exact ⟨hspec.ready, hspec.kept schema hlisted⟩
  obtain ⟨call, before, hbefore, rfl⟩ := reflectionSteps_keep hkeeps ⟨hs, hlisted⟩ calls step hstep
  exact hbefore.2

/-- A run up to a step, and the run after it. -/
theorem reflectionSteps_split {cache : ReflectionCache σ} {s : Session σ}
    {calls : List ReflectionCall} {earlier later : List (ReflectionStep σ)} {step : ReflectionStep σ}
    (h : reflectionSteps cache dialect dbapi s calls = earlier ++ step :: later) :
    ∃ rest, later = reflectionSteps cache dialect dbapi step.after rest := by
  induction calls generalizing s earlier with
  | nil => cases earlier <;> cases h
  | cons call calls ih =>
    cases earlier with
    | nil =>
      obtain ⟨rfl, rfl⟩ := List.cons.inj h
      exact ⟨calls, rfl⟩
    | cons first earlier => exact ih (List.cons.inj h).2

/-- **A coherent run** of reflection calls. -/
structure CoherentRun (dialect : Dialect) (dbapi : Dbapi σ) (answers : Answers)
    (steps : List (ReflectionStep σ)) : Prop where
  /-- The calls a step makes of the connection all return, or the last one fails and the step raises that. -/
  calls : ∀ step ∈ steps, step.Answered dbapi ∨ step.Failed dbapi
  /-- If they return, the step gives what the answers give, unless its warning is made an exception. -/
  returns : ∀ step ∈ steps, step.Answered dbapi →
    step.outcome = expected dialect dbapi answers step.call ∨ step.Warned dialect
  /-- Table names and view names are disjoint, and have each reported name once. -/
  names : ∀ schema, ∃ tables views, (tables ++ views).Nodup ∧
    (∀ name, name ∈ tables ++ views ↔ Reported dbapi answers schema name) ∧
    ∀ step ∈ steps,
      (step.call = .getTableNames schema →
        step.outcome = .ok (.names tables) ∨ step.Excused dialect dbapi) ∧
      (step.call = .getViewNames schema →
        step.outcome = .ok (.names views) ∨ step.Excused dialect dbapi)
  /-- `has_table` is true for these names alone. -/
  hasTable : ∀ step ∈ steps, ∀ schema name, step.call = .hasTable name schema →
    (∃ b, step.outcome = .ok (.flag b) ∧ (b = true ↔ Reported dbapi answers schema name)) ∨
      step.Excused dialect dbapi
  /-- `get_columns` of such a name gives its columns, or the probe reports it without a schema. -/
  reportedColumns : ∀ step ∈ steps, ∀ schema name, step.call = .getColumns name schema →
    Reported dbapi answers schema name →
    (∃ columns, step.outcome = .ok (.columns columns) ∧
      probed dbapi answers name schema = .columns columns) ∨
    (∃ e, step.outcome = .error e ∧ e.cls = .sqlalchemy .unreflectableTable ∧
      probed dbapi answers name schema = .unreflectable) ∨ step.Failed dbapi
  /-- `get_columns` of a stale name raises `NoSuchTableError`. -/
  staleColumns : ∀ step ∈ steps, ∀ schema name, step.call = .getColumns name schema →
    Stale dbapi answers schema name →
    step.outcome = .error ⟨.sqlalchemy .noSuchTable, qualifiedName name schema⟩ ∨ step.Failed dbapi
  /-- Once the names of a schema are listed, `has_table` and `get_columns` of a bulk name call nothing. -/
  silent : ∀ schema earlier listing later, steps = earlier ++ listing :: later →
    listing.call.listed = some schema → (∃ answer, listing.outcome = .ok answer) →
    ∀ step ∈ later, ∀ name, (step.call = .hasTable name schema ∨
        step.call = .getColumns name schema ∧ name ∈ (answers.bulk schema).tableNames) →
      step.after.connection = step.before.connection ∧ step.after.calls = step.before.calls
  /-- However each call ended, the cache holds what the answers give. -/
  coherent : ∀ step ∈ steps, Coherent dialect dbapi answers step.after

/-- The tables and views of a listing part its names. -/
theorem select_spec (dialect : Dialect) (hcons : Consistent dbapi answers) (schema : Option String) :
    (Relations.select dialect false (listing dbapi answers schema) ++
        Relations.select dialect true (listing dbapi answers schema)).Nodup ∧
      ∀ name, name ∈ Relations.select dialect false (listing dbapi answers schema) ++
          Relations.select dialect true (listing dbapi answers schema) ↔
        Reported dbapi answers schema name := by
  obtain ⟨hnodup, hmem⟩ := listing_spec hcons schema
  constructor
  · rw [List.nodup_append]
    refine ⟨hnodup.filter _, hnodup.filter _, ?_⟩
    rintro a ha b hb rfl
    have htable := of_decide_eq_true (List.mem_filter.mp ha).2
    have hview := of_decide_eq_true (List.mem_filter.mp hb).2
    rw [htable] at hview
    cases hview
  · intro name
    rw [← hmem name, List.mem_append, Relations.select, Relations.select, List.mem_filter,
      List.mem_filter]
    cases isViewType dialect ((listing dbapi answers schema).2.get? (.str name)) <;> simp

/-- **The names of a schema are the same throughout a run**, and right. -/
theorem names_outcome (hcons : Consistent dbapi answers) {steps : List (ReflectionStep σ)}
    (hspec : ∀ step ∈ steps, StepSpec dialect dbapi I answers step) (schema : Option String) :
    ∃ tables views, (tables ++ views).Nodup ∧
      (∀ name, name ∈ tables ++ views ↔ Reported dbapi answers schema name) ∧
      ∀ step ∈ steps,
        (step.call = .getTableNames schema →
          step.outcome = .ok (.names tables) ∨ step.Excused dialect dbapi) ∧
        (step.call = .getViewNames schema →
          step.outcome = .ok (.names views) ∨ step.Excused dialect dbapi) := by
  obtain ⟨hnodup, hmem⟩ := select_spec dialect hcons schema
  refine ⟨_, _, hnodup, hmem, fun step hstep => ⟨fun hcall => ?_, fun hcall => ?_⟩⟩
  · have h := (hspec step hstep).outcome
    rw [hcall] at h
    exact h
  · have h := (hspec step hstep).outcome
    rw [hcall] at h
    exact h

theorem hasTable_outcome (hcons : Consistent dbapi answers) {step : ReflectionStep σ}
    (hspec : StepSpec dialect dbapi I answers step) {schema : Option String} {name : String}
    (hcall : step.call = .hasTable name schema) :
    (∃ b, step.outcome = .ok (.flag b) ∧ (b = true ↔ Reported dbapi answers schema name)) ∨
      step.Excused dialect dbapi := by
  have h := hspec.outcome
  rw [hcall] at h
  refine h.imp_left fun hflag => ⟨_, hflag, ?_⟩
  rw [decide_eq_true_eq]
  exact (listing_spec hcons schema).2 name

/-- What `get_columns` gives, by what the probe says; it issues no warning. -/
theorem getColumns_outcome {step : ReflectionStep σ} (hspec : StepSpec dialect dbapi I answers step)
    {schema : Option String} {name : String} (hcall : step.call = .getColumns name schema) :
    step.outcome = (columnsFromCacheEntry dialect (probed dbapi answers name schema) name schema).map
      .columns ∨ step.Failed dbapi := by
  have h := hspec.outcome
  rw [hcall] at h
  rcases h with h | hfailed | ⟨-, schema', _, _, hlisted, -⟩
  · exact Or.inl h
  · exact Or.inr hfailed
  · rw [hcall] at hlisted
    cases hlisted

/-- **Reflection over one info cache is coherent**: whatever the order of the calls, and whichever of
    them fail, the run agrees with the server's answers. -/
theorem reflectionSteps_coherent (hfixed : dbapi.Fixed I answers) (hcons : Consistent dbapi answers)
    (cache : ReflectionCache σ) {connection : σ} (hconnection : I connection) (calls : List ReflectionCall) :
    CoherentRun dialect dbapi answers
      (reflectionSteps cache dialect dbapi (Session.start connection) calls) := by
  have hstart : Ready dialect dbapi I answers (Session.start connection) := ready_start hconnection
  have hall := reflectionSteps_spec hfixed hcons cache hstart calls
  have hspec : ∀ step ∈ reflectionSteps cache dialect dbapi (Session.start connection) calls,
      StepSpec dialect dbapi I answers step := fun step hstep => (hall step hstep).2
  refine {
    calls := fun step hstep => (hspec step hstep).calls
    returns := ?_
    names := names_outcome hcons hspec
    hasTable := fun step hstep schema name hcall => hasTable_outcome hcons (hspec step hstep) hcall
    reportedColumns := ?_
    staleColumns := ?_
    silent := ?_
    coherent := fun step hstep => (hspec step hstep).ready.coherent }
  · intro step hstep hanswered
    exact (hspec step hstep).outcome.imp_right fun h => h.resolve_left hanswered.not_failed
  · intro step hstep schema name hcall hreported
    rcases getColumns_outcome (hspec step hstep) hcall with houtcome | hfailed
    · cases hprobe : probed dbapi answers name schema with
      | columns columns =>
        rw [hprobe] at houtcome
        exact Or.inl ⟨columns, houtcome, rfl⟩
      | unreflectable =>
        rw [hprobe] at houtcome
        exact Or.inr (Or.inl ⟨_, houtcome, rfl, rfl⟩)
      | missing => exact absurd hprobe hreported.2
    · exact Or.inr (Or.inr hfailed)
  · intro step hstep schema name hcall hstale
    rcases getColumns_outcome (hspec step hstep) hcall with houtcome | hfailed
    · rw [hstale.2] at houtcome
      exact Or.inl houtcome
    · exact Or.inr hfailed
  · intro schema earlier lister later hsplit hcall hreturned step hstep name hquiet
    have hlister := hspec lister (by rw [hsplit]; exact List.mem_append_right _ List.mem_cons_self)
    obtain ⟨answer, hanswer⟩ := hreturned
    have hlisted := hlister.listed answer schema hanswer hcall
    obtain ⟨rest, rfl⟩ := reflectionSteps_split hsplit
    have hbefore := reflectionSteps_listed hfixed hcons cache hlister.ready hlisted rest step hstep
    obtain ⟨hready, hstepspec⟩ :=
      reflectionSteps_spec hfixed hcons cache hlister.ready rest step hstep
    refine hstepspec.cached ?_
    obtain ⟨relations, hrelations⟩ := hbefore
    rcases hquiet with hcall | ⟨hcall, hname⟩
    · rw [hcall]
      exact ⟨relations, hrelations⟩
    · rw [hcall]
      exact (hready.coherent.relationsEntry hrelations).2 name hname

end FixedAnswers

/-! ## A run whose connection fails now and then -/

namespace Flaky

/-- A call of a connection that counts its calls and fails at every fifth. -/
def attempt {α : Type} (a : α) : Run Nat Exn α := fun n =>
  (if n % 5 = 1 then .error ⟨.flight .unavailable, "connection refused"⟩ else .ok a, n + 1)

theorem attempt_gives {α : Type} (a : α) : Gives (fun _ => True) (attempt a) a := by
  intro n _
  rw [attempt]
  by_cases hfifth : n % 5 = 1
  · rw [if_pos hfifth]
    exact ⟨rfl, trivial⟩
  · rw [if_neg hfifth]
    exact ⟨rfl, trivial⟩

/-- A bulk answer with the columns of `orders` alone; `audit` exists without a schema, `gone` is stale. -/
def answers : Answers where
  metadata _ := .metadata ⟨["orders", "audit", "gone"], some (Dict.empty.set "orders" []), false, none⟩
  names _ := ["orders", "audit", "gone"]
  probe tableName _ :=
    if tableName = "orders" then ⟨["orders"], some (Dict.empty.set "orders" []), true, none⟩
    else if tableName = "audit" then ⟨["audit"], none, false, none⟩
    else .empty
  columns _ _ := []

def dbapi : Dbapi Nat where
  getTableMetadata schema := attempt (answers.metadata schema)
  getTableNames schema := attempt (answers.names schema)
  getTableMetadataForTable := some fun tableName schema =>
    attempt (.metadata (answers.probe tableName schema))
  getColumns tableName schema := attempt (answers.columns tableName schema)

def dialect : Dialect := ⟨id, id, id, false⟩

/-- Names, then columns, over one cache; the first listing fails. -/
def calls : List ReflectionCall :=
  [.getColumns "audit" none, .getTableNames none, .getTableNames none, .getViewNames none,
    .hasTable "gone" none, .getColumns "orders" none, .getColumns "gone" none]

theorem fixed : dbapi.Fixed (fun _ => True) answers where
  metadata := fun schema => attempt_gives _
  names := fun schema => attempt_gives _
  probe := by
    intro probe hprobe tableName schema
    cases hprobe
    exact attempt_gives _
  columns := fun tableName schema => attempt_gives _

theorem consistent : Consistent dbapi answers := by
  intro schema tableName columns hget
  have hentry : (Dict.empty.set "orders" ([] : List ColumnSpec)).get? tableName = some columns := hget
  rw [Dict.get?_set] at hentry
  by_cases hname : "orders" = tableName
  · subst hname
    rw [if_pos rfl] at hentry
    cases hentry
    rfl
  · rw [if_neg hname] at hentry
    cases hentry

end Flaky

theorem reflectionSteps_coherent_flaky :
    CoherentRun Flaky.dialect Flaky.dbapi Flaky.answers
      (reflectionSteps (ReflectionCache.remembering Nat) Flaky.dialect Flaky.dbapi (Session.start 0)
        Flaky.calls) :=
  reflectionSteps_coherent Flaky.fixed Flaky.consistent (ReflectionCache.remembering Nat) trivial Flaky.calls

end FlightSql
