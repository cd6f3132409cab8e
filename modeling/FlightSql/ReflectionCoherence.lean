/-
  What reflection computes when the server's answers are FIXED, and the invariant of the info cache.

  1. **Fixed answers** — `Dbapi.Fixed`: while `I` holds of the connection, each of its methods, when it
     returns, returns the same; when it raises, it raises something of its own.  `Consistent` is the
     promise that the probe of a table gives the columns the bulk answer gives.

  2. **The pure results** — `probed`, `listing` and `expected` compute, from the answers alone, what a
     probe, a listing and a call give.

  3. **The invariant** (`CacheCoherent`) — every entry of the cache is one of these results, and a listed
     schema has an entry for each name of its bulk answer.

  4. **Calls, replayed** — the calls a step made are in the session; making them again from the connection
     of its start tells which of them returned (`CallsAnswered`) and whether the last one failed
     (`ReflectionStep.Failed`).

  5. **The methods compute the pure results** (`Computes`) — from a coherent cache a method returns its
     pure result or raises its pure exception, all calls answered; or the last call failed.  The cache is
     coherent either way.  `Computes.bind` and `Computes.mapEach` follow the structure of the methods.

  Mathlib-free.
-/
import FlightSql.Reflection

set_option linter.unusedVariables false

namespace FlightSql

open Lib

/-- `NoSuchTableError` or `UnreflectableTableError`. -/
def Exn.isReflection (e : Exn) : Bool :=
  e.cls = .sqlalchemy .noSuchTable ∨ e.cls = .sqlalchemy .unreflectableTable

/-! ## Fixed answers -/

variable {σ : Type}

/-- **What a server answers**, once and for all. -/
structure Answers where
  metadata : Option String → BulkAnswer
  names : Option String → List String
  probe : String → Option String → TableMetadataResult
  columns : String → Option String → List ColumnSpec

/-- From a state with `I`, `m` returns `a` or raises no exception of reflection; either way it keeps `I`. -/
def Gives {α : Type} (I : σ → Prop) (m : Run σ Exn α) (a : α) : Prop :=
  Run.Triple I m (fun b c => b = a ∧ I c) (fun e c => e.isReflection = false ∧ I c)

/-- **A connection with fixed answers** as long as `I` holds of it; any of its calls may fail. -/
structure Dbapi.Fixed (dbapi : Dbapi σ) (I : σ → Prop) (answers : Answers) : Prop where
  metadata : ∀ schema, Gives I (dbapi.getTableMetadata schema) (answers.metadata schema)
  names : ∀ schema, Gives I (dbapi.getTableNames schema) (answers.names schema)
  probe : ∀ probe, dbapi.getTableMetadataForTable = some probe →
    ∀ tableName schema, Gives I (probe tableName schema) (.metadata (answers.probe tableName schema))
  columns : ∀ tableName schema, Gives I (dbapi.getColumns tableName schema)
    (answers.columns tableName schema)

/-! ## The pure results -/

variable (dialect : Dialect) (dbapi : Dbapi σ) (answers : Answers)

/-- The bulk answer, in its present shape. -/
def Answers.bulk (schema : Option String) : TableMetadataResult :=
  match answers.metadata schema with
  | .metadata result => result
  | .none => ⟨answers.names schema, none, false, none⟩
  | .mapping columns => ⟨columns.keys, some columns, true, none⟩

/-- What a probe's result says of the table. -/
def resultEntry (tableName : String) (result : TableMetadataResult) : TableColumnCacheEntry :=
  match result.columns.get? tableName with
  | some columns => .columns columns
  | none => if tableName ∈ result.tableNames then .unreflectable else .missing

theorem probeEntry_metadata (tableName : String) (result : TableMetadataResult) :
    probeEntry tableName (.metadata result) = .ok (resultEntry tableName result) := by
  rw [probeEntry, resultEntry]
  cases result.columns.get? tableName with
  | some columns => rfl
  | none =>
    by_cases hname : tableName ∈ result.tableNames
    · simp only [if_pos hname]
    · simp only [if_neg hname]

/-- What the probe of a table says of it. -/
def probed (tableName : String) (schema : Option String) : TableColumnCacheEntry :=
  if dbapi.getTableMetadataForTable.isSome then resultEntry tableName (answers.probe tableName schema)
  else columnsEntry (answers.columns tableName schema)

/-- The names and types of a schema. -/
def listing (schema : Option String) : Relations :=
  let result := answers.bulk schema
  if result.unresolved = [] ∧ result.includedSchemaSupported = true then
    (fromKeys result.tableNames, result.types)
  else
    (result.present (result.unresolved.map fun name => (name, probed dbapi answers name schema)),
      result.types)

/-- The columns of a table, or why there are none. -/
def columnsOf (tableName : String) (schema : Option String) : Except Exn (List ColumnSpec) :=
  columnsFromCacheEntry dialect (probed dbapi answers tableName schema) tableName schema

/-- What a call gives. -/
def expected : ReflectionCall → Except Exn ReflectionAnswer
  | .getColumns tableName schema => (columnsOf dialect dbapi answers tableName schema).map .columns
  | .getTableNames schema => .ok (.names (Relations.select dialect false (listing dbapi answers schema)))
  | .getViewNames schema => .ok (.names (Relations.select dialect true (listing dbapi answers schema)))
  | .hasTable tableName schema => .ok (.flag (tableName ∈ (listing dbapi answers schema).1))

/-- The schema a call lists the names of. -/
def ReflectionCall.listed : ReflectionCall → Option (Option String)
  | .getColumns _ _ => none
  | .getTableNames schema => some schema
  | .getViewNames schema => some schema
  | .hasTable _ schema => some schema

/-- **The probe of a table gives the columns the bulk answer gives for it**, when it gives any. -/
def Consistent : Prop :=
  ∀ schema tableName columns, (answers.bulk schema).columns.get? tableName = some columns →
    probed dbapi answers tableName schema = .columns columns

/-! ## The invariant -/

/-- **A coherent cache**: what it holds is what the server's answers give. -/
structure CacheCoherent (c : InfoCache) : Prop where
  columns : ∀ schema tableName entry, c.columns.get? (schema, tableName) = some entry →
    probed dbapi answers tableName schema = entry
  relations : ∀ schema relations, c.relations.get? schema = some relations →
    listing dbapi answers schema = relations ∧
      ∀ name ∈ (answers.bulk schema).tableNames, (schema, name) ∈ c.columns.keys
  memo : ∀ call answer, c.memo.get? call = some answer →
    expected dialect dbapi answers call = .ok answer ∧
      ∀ schema, call.listed = some schema → schema ∈ c.relations.keys

/-- The session has a cache, and it is coherent. -/
def Coherent (s : Session σ) : Prop :=
  ∃ c, s.infoCache = some c ∧ CacheCoherent dialect dbapi answers c

/-- The entry of a table is in the cache. -/
def HasColumns (s : Session σ) (schema : Option String) (tableName : String) : Prop :=
  ∃ entry, s.columnEntry? schema tableName = some entry

/-- The names of a schema are in the cache. -/
def HasRelations (s : Session σ) (schema : Option String) : Prop :=
  ∃ relations, s.relations? schema = some relations

variable {dialect dbapi answers}

theorem cacheCoherent_empty : CacheCoherent dialect dbapi answers .empty where
  columns := fun _ _ _ h => by cases h
  relations := fun _ _ h => by cases h
  memo := fun _ _ h => by cases h

theorem Coherent.columnEntry {s : Session σ} (h : Coherent dialect dbapi answers s)
    {schema : Option String} {tableName : String} {entry : TableColumnCacheEntry}
    (he : s.columnEntry? schema tableName = some entry) :
    probed dbapi answers tableName schema = entry := by
  obtain ⟨c, hc, hcoh⟩ := h
  rw [Session.columnEntry?, hc] at he
  exact hcoh.columns schema tableName entry he

/-- A listed schema has the right names, and an entry for each name of the bulk answer. -/
theorem Coherent.relationsEntry {s : Session σ} (h : Coherent dialect dbapi answers s)
    {schema : Option String} {relations : Relations} (hr : s.relations? schema = some relations) :
    listing dbapi answers schema = relations ∧
      ∀ name ∈ (answers.bulk schema).tableNames, HasColumns s schema name := by
  obtain ⟨c, hc, hcoh⟩ := h
  rw [Session.relations?, hc] at hr
  obtain ⟨hlisting, hnames⟩ := hcoh.relations schema relations hr
  refine ⟨hlisting, fun name hname => ?_⟩
  obtain ⟨entry, hentry⟩ := Dict.mem_keys_iff.mp (hnames name hname)
  exact ⟨entry, by rw [Session.columnEntry?, hc]; exact hentry⟩

theorem Coherent.memoEntry {s : Session σ} (h : Coherent dialect dbapi answers s)
    {call : ReflectionCall} {answer : ReflectionAnswer} (hm : s.memo? call = some answer) :
    expected dialect dbapi answers call = .ok answer ∧
      ∀ schema, call.listed = some schema → HasRelations s schema := by
  obtain ⟨c, hc, hcoh⟩ := h
  rw [Session.memo?, hc] at hm
  obtain ⟨hexpected, hlisted⟩ := hcoh.memo call answer hm
  refine ⟨hexpected, fun schema hschema => ?_⟩
  obtain ⟨relations, hrel⟩ := Dict.mem_keys_iff.mp (hlisted schema hschema)
  exact ⟨relations, by rw [Session.relations?, hc]; exact hrel⟩

/-- Caching the entry the probe gives keeps the cache coherent. -/
theorem Coherent.cacheColumns {s : Session σ} (h : Coherent dialect dbapi answers s)
    {schema : Option String} {tableName : String} {entry : TableColumnCacheEntry}
    (he : probed dbapi answers tableName schema = entry) :
    Coherent dialect dbapi answers (s.cacheColumns schema tableName entry) := by
  obtain ⟨c, hc, hcoh⟩ := h
  refine ⟨_, Session.infoCache_updateCache hc _, ?_, ?_, hcoh.memo⟩
  · intro schema' tableName' entry' hget
    rw [Dict.get?_set] at hget
    by_cases hkey : (schema, tableName) = (schema', tableName')
    · rw [if_pos hkey] at hget
      obtain ⟨rfl, rfl⟩ := Prod.mk.inj hkey
      rw [← Option.some.inj hget]
      exact he
    · rw [if_neg hkey] at hget
      exact hcoh.columns _ _ _ hget
  · intro schema' relations hget
    obtain ⟨hlisting, hnames⟩ := hcoh.relations schema' relations hget
    exact ⟨hlisting, fun name hname => Dict.keys_set.mpr (Or.inr (hnames name hname))⟩

/-- Caching the listing keeps it coherent, once every name has its entry. -/
theorem Coherent.cacheRelations {s : Session σ} (h : Coherent dialect dbapi answers s)
    {schema : Option String} {relations : Relations}
    (hr : listing dbapi answers schema = relations)
    (hnames : ∀ name ∈ (answers.bulk schema).tableNames, HasColumns s schema name) :
    Coherent dialect dbapi answers (s.cacheRelations schema relations) := by
  obtain ⟨c, hc, hcoh⟩ := h
  have hkeys : ∀ name ∈ (answers.bulk schema).tableNames, (schema, name) ∈ c.columns.keys := by
    intro name hname
    obtain ⟨entry, hentry⟩ := hnames name hname
    rw [Session.columnEntry?, hc] at hentry
    exact Dict.mem_keys_iff.mpr ⟨entry, hentry⟩
  refine ⟨_, Session.infoCache_updateCache hc _, hcoh.columns, ?_, ?_⟩
  · intro schema' relations' hget
    rw [Dict.get?_set] at hget
    by_cases hkey : schema = schema'
    · rw [if_pos hkey] at hget
      subst hkey
      rw [← Option.some.inj hget]
      exact ⟨hr, hkeys⟩
    · rw [if_neg hkey] at hget
      exact hcoh.relations schema' relations' hget
  · intro call answer hget
    obtain ⟨hexpected, hlisted⟩ := hcoh.memo call answer hget
    exact ⟨hexpected, fun schema' hschema => Dict.keys_set.mpr (Or.inr (hlisted schema' hschema))⟩

/-- Remembering the answer a call gives keeps it coherent, once the schema it lists is cached. -/
theorem Coherent.remember {s : Session σ} (h : Coherent dialect dbapi answers s)
    {call : ReflectionCall} {answer : ReflectionAnswer}
    (ha : expected dialect dbapi answers call = .ok answer)
    (hl : ∀ schema, call.listed = some schema → HasRelations s schema) :
    Coherent dialect dbapi answers (s.remember call answer) := by
  obtain ⟨c, hc, hcoh⟩ := h
  refine ⟨_, Session.infoCache_updateCache hc _, hcoh.columns, hcoh.relations, ?_⟩
  intro call' answer' hget
  rw [Dict.get?_set] at hget
  by_cases hkey : call = call'
  · rw [if_pos hkey] at hget
    subst hkey
    rw [← Option.some.inj hget]
    refine ⟨ha, fun schema hschema => ?_⟩
    obtain ⟨relations, hrel⟩ := hl schema hschema
    rw [Session.relations?, hc] at hrel
    exact Dict.mem_keys_iff.mpr ⟨relations, hrel⟩
  · rw [if_neg hkey] at hget
    exact hcoh.memo call' answer' hget

/-! ## What stays cached -/

theorem HasColumns.cacheColumns {s : Session σ} {schema schema' : Option String}
    {tableName tableName' : String} {entry : TableColumnCacheEntry}
    (h : HasColumns s schema' tableName') :
    HasColumns (s.cacheColumns schema tableName entry) schema' tableName' := by
  obtain ⟨entry', hentry⟩ := h
  obtain ⟨c, hc, hget⟩ := Option.bind_eq_some_iff.mp hentry
  rw [HasColumns, Session.columnEntry?, Session.cacheColumns, Session.infoCache_updateCache hc]
  exact Dict.mem_keys_iff.mp (Dict.keys_set.mpr (Or.inr (Dict.mem_keys_iff.mpr ⟨entry', hget⟩)))

theorem hasColumns_cacheColumns {s : Session σ} (h : Coherent dialect dbapi answers s)
    (schema : Option String) (tableName : String) (entry : TableColumnCacheEntry) :
    HasColumns (s.cacheColumns schema tableName entry) schema tableName := by
  obtain ⟨c, hc, -⟩ := h
  refine ⟨entry, ?_⟩
  rw [Session.columnEntry?, Session.cacheColumns, Session.infoCache_updateCache hc]
  exact Dict.get?_set_self _ _ _

theorem hasRelations_cacheRelations {s : Session σ} (h : Coherent dialect dbapi answers s)
    (schema : Option String) (relations : Relations) :
    HasRelations (s.cacheRelations schema relations) schema := by
  obtain ⟨c, hc, -⟩ := h
  refine ⟨relations, ?_⟩
  rw [Session.relations?, Session.cacheRelations, Session.infoCache_updateCache hc]
  exact Dict.get?_set_self _ _ _

/-! ## Calls, replayed -/

/-- Make a call, whatever it returns. -/
def Dbapi.perform (dbapi : Dbapi σ) : DbapiCall → Run σ Exn Unit
  | .getTableMetadata schema => Run.ignore (dbapi.getTableMetadata schema)
  | .getTableNames schema => Run.ignore (dbapi.getTableNames schema)
  | .getTableMetadataForTable tableName schema =>
    match dbapi.getTableMetadataForTable with
    | some probe => Run.ignore (probe tableName schema)
    | none => pure ()
  | .getColumns tableName schema => Run.ignore (dbapi.getColumns tableName schema)

/-- **The calls made between two sessions all returned**: made again from the connection of the first, they
    lead to that of the second. -/
def CallsAnswered (dbapi : Dbapi σ) (s t : Session σ) : Prop :=
  ∃ calls, t.calls = s.calls ++ calls ∧
    Run.forEach dbapi.perform calls s.connection = (.ok (), t.connection)

/-- One served call of a run. -/
structure ReflectionStep (σ : Type) where
  call : ReflectionCall
  before : Session σ
  outcome : Except Exn ReflectionAnswer
  after : Session σ

namespace ReflectionStep

/-- Every call it made of the connection returned. -/
def Answered (dbapi : Dbapi σ) (step : ReflectionStep σ) : Prop :=
  CallsAnswered dbapi step.before step.after

/-- **A call of the connection failed**, and was the last: the step raised what that call raised, and those
    before it had returned. -/
def Failed (dbapi : Dbapi σ) (step : ReflectionStep σ) : Prop :=
  ∃ earlier last connection e, step.after.calls = step.before.calls ++ (earlier ++ [last]) ∧
    Run.forEach dbapi.perform earlier step.before.connection = (.ok (), connection) ∧
    dbapi.perform last connection = (.error e, step.after.connection) ∧
    step.outcome = .error e ∧ e.isReflection = false

/-- **The warning was made an exception**: the interpreter's filters ask for that, the step lists a schema
    not warned about before, and it raised the warning it had just issued. -/
def Warned (dialect : Dialect) (step : ReflectionStep σ) : Prop :=
  dialect.warningsAreErrors = true ∧
    ∃ schema earlier text, step.call.listed = some schema ∧ schema ∉ step.before.warned ∧
      schema ∈ step.after.warned ∧ step.after.warnings = earlier ++ [text] ∧
      step.outcome = .error ⟨.python .other, text⟩

/-- It does not count against the dialect: a call failed, or its warning was made an exception. -/
def Excused (dialect : Dialect) (dbapi : Dbapi σ) (step : ReflectionStep σ) : Prop :=
  step.Failed dbapi ∨ step.Warned dialect

/-- **A step whose calls all returned did not fail.** -/
theorem Answered.not_failed {step : ReflectionStep σ} (h : step.Answered dbapi) : ¬step.Failed dbapi := by
  rintro ⟨earlier, last, connection, e, hcalls, hearlier, hlast, -⟩
  obtain ⟨calls, hmade, hreplayed⟩ := h
  rw [hcalls] at hmade
  rw [← List.append_cancel_left hmade, Run.forEach_snoc hearlier, hlast] at hreplayed
  cases hreplayed

end ReflectionStep

/-! ## The methods compute the pure results -/

/-- **Under way**: the session of a call that started in `before`, when all calls made so far returned. -/
structure UnderWay (dialect : Dialect) (dbapi : Dbapi σ) (I : σ → Prop) (answers : Answers)
    (before s : Session σ) : Prop where
  coherent : Coherent dialect dbapi answers s
  invariant : I s.connection
  answered : CallsAnswered dbapi before s
  warned : ∀ schema ∈ before.warned, schema ∈ s.warned

/-- **How a call may end in an exception**: the cache is coherent, and the exception is that of the pure
    result `x`, all calls answered, or it is excused. -/
structure Raised (dialect : Dialect) (dbapi : Dbapi σ) (I : σ → Prop) (answers : Answers)
    (call : ReflectionCall) (before : Session σ) {α : Type} (x : Except Exn α) (e : Exn) (s : Session σ) :
    Prop where
  coherent : Coherent dialect dbapi answers s
  invariant : I s.connection
  calls : CallsAnswered dbapi before s ∨ ReflectionStep.Failed dbapi ⟨call, before, .error e, s⟩
  cause : x = .error e ∨ ReflectionStep.Excused dialect dbapi ⟨call, before, .error e, s⟩

/-- **`m` computes `x`**: under way, with `P`, a return gives the value of `x` and leads to `Q`; a raise is
    that of `x`, or excused. -/
def Computes (dialect : Dialect) (dbapi : Dbapi σ) (I : σ → Prop) (answers : Answers)
    (call : ReflectionCall) (before : Session σ) {α : Type} (P : Session σ → Prop) (m : Reflecting σ α)
    (x : Except Exn α) (Q : Session σ → Prop) : Prop :=
  Run.Triple (fun s => UnderWay dialect dbapi I answers before s ∧ P s) m
    (fun a s => x = .ok a ∧ UnderWay dialect dbapi I answers before s ∧ Q s)
    (fun e s => Raised dialect dbapi I answers call before x e s)

variable {I : σ → Prop} {call : ReflectionCall} {before : Session σ}

/-- Writing the cache is no step of the connection. -/
theorem UnderWay.updateCache {s : Session σ} {f : InfoCache → InfoCache}
    (h : UnderWay dialect dbapi I answers before s)
    (hcoherent : Coherent dialect dbapi answers (s.updateCache f)) :
    UnderWay dialect dbapi I answers before (s.updateCache f) :=
  ⟨hcoherent, h.invariant, h.answered, h.warned⟩

namespace Computes

variable {α β : Type} {P Q R : Session σ → Prop}

theorem pure (a : α) : Computes dialect dbapi I answers call before P (pure a) (.ok a) P :=
  Run.Triple.pure fun s hs => ⟨rfl, hs⟩

theorem ofExcept (x : Except Exn α) : Computes dialect dbapi I answers call before P (Run.ofExcept x) x P :=
  Run.Triple.ofExcept (fun a s hx hs => ⟨hx, hs⟩) fun e s hx hs =>
    ⟨hs.1.coherent, hs.1.invariant, Or.inl hs.1.answered, Or.inl hx⟩

/-- A sequence computes the second result once the first is a value. -/
theorem bind {m : Reflecting σ α} {x : Except Exn α} {f : α → Reflecting σ β}
    {y : α → Except Exn β} (hm : Computes dialect dbapi I answers call before P m x Q)
    (hf : ∀ a, x = .ok a → Computes dialect dbapi I answers call before Q (f a) (y a) R) :
    Computes dialect dbapi I answers call before P (m >>= f) (x >>= y) R := by
  -- a raise of `m` is one of the sequence
  have hm' : Run.Triple (fun s => UnderWay dialect dbapi I answers before s ∧ P s) m
      (fun a s => x = .ok a ∧ UnderWay dialect dbapi I answers before s ∧ Q s)
      (fun e s => Raised dialect dbapi I answers call before (x >>= y) e s) :=
    Run.Triple.conseq hm (fun s hs => hs) (fun a s hs => hs) fun e s he =>
      ⟨he.coherent, he.invariant, he.calls, he.cause.imp_left fun hx => by rw [hx]; rfl⟩
  refine Run.Triple.bind hm' fun a => ?_
  intro s ⟨hx, hs⟩
  have hfa := hf a hx s hs
  rw [hx]
  exact hfa

/-- What computes a value goes on with it. -/
theorem next {m : Reflecting σ α} {a : α} {f : α → Reflecting σ β} {y : Except Exn β}
    (hm : Computes dialect dbapi I answers call before P m (.ok a) Q)
    (hf : Computes dialect dbapi I answers call before Q (f a) y R) :
    Computes dialect dbapi I answers call before P (m >>= f) y R := by
  refine hm.bind (y := fun _ => y) fun b hb => ?_
  rw [← Except.ok.inj hb]
  exact hf

theorem conseq {P' Q' : Session σ → Prop} {m : Reflecting σ α} {x : Except Exn α}
    (h : Computes dialect dbapi I answers call before P m x Q) (hP : ∀ s, P' s → P s)
    (hQ : ∀ s, Q s → Q' s) : Computes dialect dbapi I answers call before P' m x Q' :=
  Run.Triple.conseq h (fun s hs => ⟨hs.1, hP s hs.2⟩) (fun a s hs => ⟨hs.1, hs.2.1, hQ s hs.2.2⟩)
    fun e s hs => hs

/-- Reading the session: go on from what was read. -/
theorem gets_bind {f : Session σ → β} {g : β → Reflecting σ α} {x : Except Exn α}
    (h : ∀ b, Computes dialect dbapi I answers call before (fun s => P s ∧ f s = b) (g b) x Q) :
    Computes dialect dbapi I answers call before P (Run.gets f >>= g) x Q :=
  fun s hs => h (f s) s ⟨hs.1, hs.2, rfl⟩

/-- A change of the session that leaves the call under way. -/
theorem modify {f : Session σ → Session σ}
    (h : ∀ s, UnderWay dialect dbapi I answers before s → P s →
      UnderWay dialect dbapi I answers before (f s) ∧ Q (f s)) :
    Computes dialect dbapi I answers call before P (Run.modify f) (.ok ()) Q :=
  Run.Triple.modify fun s hs => ⟨rfl, h s hs.1 hs.2⟩

/-- A loop carries what each of its turns does. -/
theorem mapEach {J : List α → Session σ → Prop} {f : α → Reflecting σ β} {g : α → β}
    (hf : ∀ done a, Computes dialect dbapi I answers call before (J done) (f a) (.ok (g a)) (J (done ++ [a])))
    (done xs : List α) :
    Computes dialect dbapi I answers call before (J done) (Run.mapEach f xs) (.ok (xs.map g))
      (J (done ++ xs)) := by
  induction xs generalizing done with
  | nil =>
    rw [List.append_nil]
    exact pure []
  | cons x xs ih =>
    have htail := ih (done ++ [x])
    rw [List.append_assoc, List.singleton_append] at htail
    exact (hf done x).next (htail.next (pure _))

end Computes

/-- What depends on the cache alone. -/
def OfCache (P : Session σ → Prop) : Prop :=
  ∀ s s' : Session σ, s'.infoCache = s.infoCache → P s → P s'

/-- The entries of some tables are in the cache. -/
def HasAllColumns (schema : Option String) (names : List String) (s : Session σ) : Prop :=
  ∀ name ∈ names, HasColumns s schema name

theorem ofCache_true : OfCache (fun _ : Session σ => True) := fun _ _ _ _ => trivial

theorem ofCache_hasAllColumns (schema : Option String) (names : List String) :
    OfCache (fun s : Session σ => HasAllColumns schema names s) := by
  intro s s' hcache h name hname
  obtain ⟨entry, hentry⟩ := h name hname
  exact ⟨entry, by rw [Session.columnEntry?, hcache]; exact hentry⟩

/-- **A call of the connection** computes what its method gives; one that raises is the call that failed. -/
theorem callDbapi_computes {α : Type} {P : Session σ → Prop} {m : Run σ Exn α} {a : α}
    (hm : Gives I m a) (made : DbapiCall) (hmade : dbapi.perform made = Run.ignore m) (hP : OfCache P) :
    Computes dialect dbapi I answers call before P (callDbapi made m) (.ok a) P := by
  intro s ⟨hs, hp⟩
  obtain ⟨c, hc, hcoh⟩ := hs.coherent
  obtain ⟨calls, hcalls, hreplayed⟩ := hs.answered
  have hcalls' : s.calls ++ [made] = before.calls ++ (calls ++ [made]) := by
    rw [hcalls, List.append_assoc]
  have h := hm s.connection hs.invariant
  rw [callDbapi]
  rcases hrun : m s.connection with ⟨r, connection⟩
  rw [hrun] at h
  cases r with
  | ok b =>
    obtain ⟨rfl, hI⟩ := h
    refine ⟨rfl, ⟨⟨c, hc, hcoh⟩, hI, ⟨calls ++ [made], hcalls', ?_⟩, hs.warned⟩, hP s _ rfl hp⟩
    rw [Run.forEach_snoc hreplayed, hmade, Run.ignore_ok hrun]
  | error e =>
    obtain ⟨hkind, hI⟩ := h
    have hlast : dbapi.perform made s.connection = (.error e, connection) := by
      rw [hmade, Run.ignore_error hrun]
    have hfailed : ReflectionStep.Failed dbapi ⟨call, before, .error e,
        { s with connection := connection, calls := s.calls ++ [made] }⟩ :=
      ⟨calls, made, s.connection, e, hcalls', hreplayed, hlast, rfl, hkind⟩
    exact ⟨⟨c, hc, hcoh⟩, hI, Or.inr hfailed, Or.inr (Or.inl hfailed)⟩

theorem probeTableColumns_computes {P : Session σ → Prop} (hfixed : dbapi.Fixed I answers)
    (hP : OfCache P) (tableName : String) (schema : Option String) :
    Computes dialect dbapi I answers call before P (probeTableColumns dbapi tableName schema)
      (.ok (probed dbapi answers tableName schema)) P := by
  cases hprobe : dbapi.getTableMetadataForTable with
  | some probe =>
    have hmade : dbapi.perform (.getTableMetadataForTable tableName schema) =
        Run.ignore (probe tableName schema) := by
      rw [Dbapi.perform, hprobe]
    have hcall : Computes dialect dbapi I answers call before P _ _ P :=
      callDbapi_computes (hfixed.probe probe hprobe tableName schema) _ hmade hP
    have hread : Computes dialect dbapi I answers call before P
        (Run.ofExcept (probeEntry tableName (.metadata (answers.probe tableName schema))))
        (.ok (resultEntry tableName (answers.probe tableName schema))) P := by
      rw [← probeEntry_metadata]
      exact Computes.ofExcept _
    rw [probeTableColumns, probed, hprobe]
    exact hcall.next hread
  | none =>
    have hcall : Computes dialect dbapi I answers call before P _ _ P :=
      callDbapi_computes (hfixed.columns tableName schema) (.getColumns tableName schema) rfl hP
    rw [probeTableColumns, probed, hprobe]
    exact hcall.next (Computes.pure _)

/-- A probe adds the entry of its table to those there are. -/
theorem probeAndCache_computes (hfixed : dbapi.Fixed I answers) (schema : Option String)
    (names : List String) (tableName : String) :
    Computes dialect dbapi I answers call before (HasAllColumns schema names)
      (probeAndCache dbapi schema tableName) (.ok (tableName, probed dbapi answers tableName schema))
      (HasAllColumns schema (names ++ [tableName])) := by
  refine (probeTableColumns_computes hfixed (ofCache_hasAllColumns schema names) tableName schema).next ?_
  have hcache : Computes dialect dbapi I answers call before (HasAllColumns schema names)
      (Run.modify fun s => s.cacheColumns schema tableName (probed dbapi answers tableName schema)) (.ok ())
      (HasAllColumns schema (names ++ [tableName])) := by
    refine Computes.modify fun s hs hnames =>
      ⟨hs.updateCache (hs.coherent.cacheColumns rfl), fun name hname => ?_⟩
    rcases List.mem_append.mp hname with hname | hname
    · exact (hnames name hname).cacheColumns
    · rw [List.mem_singleton.mp hname]
      exact hasColumns_cacheColumns hs.coherent schema tableName _
  exact hcache.next (Computes.pure _)

/-- The entries of a consistent bulk answer are cached one by one. -/
theorem UnderWay.cacheBulk {s : Session σ} {schema : Option String}
    (entries : List (String × List ColumnSpec)) (hs : UnderWay dialect dbapi I answers before s)
    (hentries : ∀ e ∈ entries, probed dbapi answers e.1 schema = .columns e.2)
    {names : List String} (hnames : HasAllColumns schema names s) :
    UnderWay dialect dbapi I answers before
        (entries.foldl (fun s e => s.cacheColumns schema e.1 (.columns e.2)) s) ∧
      HasAllColumns schema (names ++ entries.map Prod.fst)
        (entries.foldl (fun s e => s.cacheColumns schema e.1 (.columns e.2)) s) := by
  induction entries generalizing s names with
  | nil => exact ⟨hs, by simpa using hnames⟩
  | cons e entries ih =>
    have hhead := hentries e List.mem_cons_self
    have hnext : HasAllColumns schema (names ++ [e.1]) (s.cacheColumns schema e.1 (.columns e.2)) := by
      intro name hname
      rcases List.mem_append.mp hname with hname | hname
      · exact (hnames name hname).cacheColumns
      · rw [List.mem_singleton.mp hname]
        exact hasColumns_cacheColumns hs.coherent schema e.1 _
    have htail := ih (hs.updateCache (hs.coherent.cacheColumns hhead))
      (fun e' he' => hentries e' (List.mem_cons_of_mem _ he')) hnext
    rw [List.append_assoc, List.singleton_append] at htail
    exact htail

theorem bulkMetadata_computes (hfixed : dbapi.Fixed I answers) (schema : Option String) :
    Computes dialect dbapi I answers call before (fun _ => True) (bulkMetadata dbapi schema)
      (.ok (answers.bulk schema)) (fun _ => True) := by
  have hcall : Computes dialect dbapi I answers call before (fun _ => True) _ _ (fun _ => True) :=
    callDbapi_computes (hfixed.metadata schema) (.getTableMetadata schema) rfl ofCache_true
  have hnames : Computes dialect dbapi I answers call before (fun _ => True) _ _ (fun _ => True) :=
    callDbapi_computes (hfixed.names schema) (.getTableNames schema) rfl ofCache_true
  refine hcall.next ?_
  rw [Answers.bulk]
  cases answers.metadata schema with
  | metadata result => exact Computes.pure result
  | none => exact hnames.next (Computes.pure _)
  | mapping columns => exact Computes.pure _

/-- A warning changes nothing in the cache; the first of a schema can be made an exception. -/
theorem warnIfDegraded_computes {P : Session σ → Prop} (hP : OfCache P) {schema : Option String}
    (hlisted : call.listed = some schema) (result : TableMetadataResult)
    (entries : List (String × TableColumnCacheEntry)) :
    Computes dialect dbapi I answers call before P (warnIfDegraded dialect schema result entries) (.ok ())
      P := by
  unfold warnIfDegraded
  split
  · refine Computes.gets_bind fun warned => ?_
    have hread : ∀ s : Session σ, P s ∧ s.warned = warned → P s := fun s hs => hs.1
    by_cases hwarned : schema ∈ warned
    · rw [if_pos hwarned]
      exact (Computes.pure ()).conseq hread fun s hs => hs
    · rw [if_neg hwarned]
      rintro s ⟨hs, hp, hread⟩
      have hfirst : schema ∉ before.warned := fun h => hwarned (hread ▸ hs.warned schema h)
      have hkept : ∀ schema' ∈ before.warned, schema' ∈ schema :: s.warned := fun schema' h =>
        List.mem_cons_of_mem _ (hs.warned schema' h)
      obtain ⟨c, hc, hcoh⟩ := hs.coherent
      cases hfilter : dialect.warningsAreErrors with
      | false =>
        exact ⟨rfl, ⟨⟨c, hc, hcoh⟩, hs.invariant, hs.answered, hkept⟩, hP s _ rfl hp⟩
      | true =>
        exact ⟨⟨c, hc, hcoh⟩, hs.invariant, Or.inl hs.answered, Or.inr (Or.inr ⟨hfilter, schema, s.warnings,
          _, hlisted, hfirst, List.mem_cons_self, rfl, rfl⟩)⟩
  · exact Computes.pure ()

/-- **A listing leaves an entry for every name of the bulk answer.** -/
theorem relationNamesUncached_computes (hfixed : dbapi.Fixed I answers) (hcons : Consistent dbapi answers)
    {schema : Option String} (hlisted : call.listed = some schema) :
    Computes dialect dbapi I answers call before (fun _ => True) (relationNamesUncached dialect dbapi schema)
      (.ok (listing dbapi answers schema)) (HasAllColumns schema (answers.bulk schema).tableNames) := by
  refine (bulkMetadata_computes hfixed schema).next ?_
  have hcache : Computes dialect dbapi I answers call before (fun _ => True)
      (Run.modify fun s => s.cacheBulk schema (answers.bulk schema).columns) (.ok ())
      (HasAllColumns schema (answers.bulk schema).columns.keys) := by
    refine Computes.modify fun s hs _ => ?_
    have hentries : ∀ e ∈ (answers.bulk schema).columns.entries,
        probed dbapi answers e.1 schema = .columns e.2 :=
      fun e he => hcons schema e.1 e.2 (Dict.get?_eq_some_iff.mpr he)
    have hnone : HasAllColumns schema [] s := fun name hname => by cases hname
    exact hs.cacheBulk (answers.bulk schema).columns.entries hentries hnone
  refine hcache.next ?_
  rw [listing]
  generalize answers.bulk schema = result
  have hnames : ∀ name ∈ result.tableNames,
      name ∈ result.columns.keys ∨ name ∈ result.unresolved := by
    intro name hname
    by_cases hcolumns : result.columns.contains name = true
    · exact Or.inl (Dict.contains_iff.mp hcolumns)
    · right
      rw [TableMetadataResult.unresolved, List.mem_filter, mem_fromKeys]
      exact ⟨hname, by simpa using hcolumns⟩
  by_cases hcomplete : result.unresolved = [] ∧ result.includedSchemaSupported = true
  · -- nothing is left to probe
    simp only [if_pos hcomplete]
    refine (Computes.pure _).conseq (fun s hs => hs) fun s hs name hname => ?_
    rcases hnames name hname with hkey | hunresolved
    · exact hs name hkey
    · rw [hcomplete.1] at hunresolved
      cases hunresolved
  · -- the rest is probed name by name, each probe adding its name to those in the cache
    simp only [if_neg hcomplete]
    have hturn : ∀ done name, Computes dialect dbapi I answers call before
        (HasAllColumns schema (result.columns.keys ++ done)) (probeAndCache dbapi schema name)
        (.ok (name, probed dbapi answers name schema))
        (HasAllColumns schema (result.columns.keys ++ (done ++ [name]))) := by
      intro done name
      rw [← List.append_assoc]
      exact probeAndCache_computes hfixed schema (result.columns.keys ++ done) name
    have hloop := Computes.mapEach (J := fun done => HasAllColumns schema (result.columns.keys ++ done))
      hturn [] result.unresolved
    rw [List.append_nil] at hloop
    refine hloop.next ((warnIfDegraded_computes (ofCache_hasAllColumns schema _) hlisted result _).next ?_)
    refine (Computes.pure _).conseq (fun s hs => hs) fun s hs name hname => ?_
    exact hs name (List.mem_append.mpr (hnames name hname))

theorem relationNames_computes (hfixed : dbapi.Fixed I answers) (hcons : Consistent dbapi answers)
    {schema : Option String} (hlisted : call.listed = some schema) :
    Computes dialect dbapi I answers call before (fun _ => True) (relationNames dialect dbapi schema)
      (.ok (listing dbapi answers schema)) (fun s => HasRelations s schema) := by
  refine Computes.gets_bind fun cached => ?_
  cases cached with
  | some relations =>
    rintro s ⟨hs, -, hcached⟩
    exact ⟨congrArg Except.ok (hs.coherent.relationsEntry hcached).1, hs, relations, hcached⟩
  | none =>
    have huncached : Computes dialect dbapi I answers call before
        (fun s => True ∧ s.relations? schema = none) (relationNamesUncached dialect dbapi schema)
        (.ok (listing dbapi answers schema)) (HasAllColumns schema (answers.bulk schema).tableNames) :=
      (relationNamesUncached_computes hfixed hcons hlisted).conseq (fun s hs => trivial) fun s hs => hs
    refine huncached.next ?_
    have hcache : Computes dialect dbapi I answers call before
        (HasAllColumns schema (answers.bulk schema).tableNames)
        (Run.modify fun s => s.cacheRelations schema (listing dbapi answers schema)) (.ok ())
        (fun s => HasRelations s schema) :=
      Computes.modify fun s hs hnames => ⟨hs.updateCache (hs.coherent.cacheRelations rfl hnames),
        hasRelations_cacheRelations hs.coherent schema _⟩
    exact hcache.next (Computes.pure _)

theorem tableEntry_computes (hfixed : dbapi.Fixed I answers) (tableName : String)
    (schema : Option String) :
    Computes dialect dbapi I answers call before (fun _ => True) (tableEntry dbapi tableName schema)
      (.ok (probed dbapi answers tableName schema)) (fun _ => True) := by
  refine Computes.gets_bind fun cached => ?_
  cases cached with
  | some entry =>
    rintro s ⟨hs, -, hcached⟩
    exact ⟨congrArg Except.ok (hs.coherent.columnEntry hcached), hs, trivial⟩
  | none =>
    have hprobe : Computes dialect dbapi I answers call before
        (fun s => True ∧ s.columnEntry? schema tableName = none) (probeAndCache dbapi schema tableName)
        (.ok (tableName, probed dbapi answers tableName schema)) (fun _ => True) :=
      (probeAndCache_computes hfixed schema [] tableName).conseq (fun s _ name hname => by cases hname)
        fun s _ => trivial
    exact hprobe.next (Computes.pure _)

/-- **Every method computes what its call gives**, and a listing leaves the names in the cache. -/
theorem body_computes (hfixed : dbapi.Fixed I answers) (hcons : Consistent dbapi answers)
    (call : ReflectionCall) (before : Session σ) :
    Computes dialect dbapi I answers call before (fun _ => True) (call.body dialect dbapi)
      (expected dialect dbapi answers call)
      (fun s => ∀ schema, call.listed = some schema → HasRelations s schema) := by
  have hnames : ∀ (schema : Option String) (f : Relations → ReflectionAnswer),
      call.listed = some schema →
      Computes dialect dbapi I answers call before (fun _ => True)
        (relationNames dialect dbapi schema >>= fun relations => pure (f relations))
        (.ok (f (listing dbapi answers schema)))
        (fun s => ∀ schema', call.listed = some schema' → HasRelations s schema') := by
    intro schema f hlisted
    refine (relationNames_computes hfixed hcons hlisted).next ?_
    refine (Computes.pure _).conseq (fun s hs => hs) fun s hs schema' hschema => ?_
    rw [hlisted] at hschema
    rw [← Option.some.inj hschema]
    exact hs
  cases call with
  | getColumns tableName schema =>
    have hcolumns : Computes dialect dbapi I answers (.getColumns tableName schema) before (fun _ => True)
        (getColumns dialect dbapi tableName schema)
        (columnsOf dialect dbapi answers tableName schema) (fun _ => True) :=
      (tableEntry_computes hfixed tableName schema).next (Computes.ofExcept _)
    have hnothing : ∀ s : Session σ, True → ∀ schema',
        (ReflectionCall.getColumns tableName schema).listed = some schema' → HasRelations s schema' :=
      fun s _ schema' hschema => by cases hschema
    have hexpected : expected dialect dbapi answers (.getColumns tableName schema) =
        (columnsOf dialect dbapi answers tableName schema >>= fun columns => .ok (.columns columns)) := by
      rw [expected]
      cases columnsOf dialect dbapi answers tableName schema <;> rfl
    rw [hexpected]
    exact hcolumns.bind fun columns _ =>
      (Computes.pure (ReflectionAnswer.columns columns)).conseq (fun s hs => hs) hnothing
  | getTableNames schema =>
    have h := hnames schema (fun relations => .names (Relations.select dialect false relations)) rfl
    rw [ReflectionCall.body, getTableNames, Run.bind_assoc]
    exact h
  | getViewNames schema =>
    have h := hnames schema (fun relations => .names (Relations.select dialect true relations)) rfl
    rw [ReflectionCall.body, getViewNames, Run.bind_assoc]
    exact h
  | hasTable tableName schema =>
    have h := hnames schema (fun relations => .flag (tableName ∈ relations.1)) rfl
    rw [ReflectionCall.body, hasTable, Run.bind_assoc]
    exact h

/-! ## What no method undoes -/

/-- **A stable property** of sessions: no single effect of a method undoes it. -/
structure Stable (I : Session σ → Prop) : Prop where
  call : ∀ (s : Session σ) connection call,
    I s → I { s with connection := connection, calls := s.calls ++ [call] }
  cacheColumns : ∀ (s : Session σ) schema tableName entry,
    I s → I (s.cacheColumns schema tableName entry)
  cacheRelations : ∀ (s : Session σ) schema relations, I s → I (s.cacheRelations schema relations)
  warn : ∀ (s : Session σ) schema text,
    I s → I { s with warned := schema :: s.warned, warnings := s.warnings ++ [text] }

theorem stable_hasRelations (schema : Option String) :
    Stable fun s : Session σ => HasRelations s schema where
  call := fun _ _ _ h => h
  cacheColumns := by
    intro s schema' tableName entry ⟨relations, hrel⟩
    obtain ⟨c, hc, hget⟩ := Option.bind_eq_some_iff.mp hrel
    refine ⟨relations, ?_⟩
    rw [Session.relations?, Session.cacheColumns, Session.infoCache_updateCache hc]
    exact hget
  cacheRelations := by
    intro s schema' relations' ⟨relations, hrel⟩
    obtain ⟨c, hc, hget⟩ := Option.bind_eq_some_iff.mp hrel
    rw [HasRelations, Session.relations?, Session.cacheRelations, Session.infoCache_updateCache hc]
    exact Dict.mem_keys_iff.mp (Dict.keys_set.mpr (Or.inr (Dict.mem_keys_iff.mpr ⟨relations, hget⟩)))
  warn := fun _ _ _ h => h

section Keeps

variable {I : Session σ → Prop} (hI : Stable I)
include hI

theorem callDbapi_keeps {α : Type} (call : DbapiCall) (m : Run σ Exn α) :
    Run.Keeps I (callDbapi call m) := fun s hs => hI.call s _ call hs

theorem probeTableColumns_keeps (tableName : String) (schema : Option String) :
    Run.Keeps I (probeTableColumns dbapi tableName schema) := by
  unfold probeTableColumns
  split
  · exact (callDbapi_keeps hI _ _).bind fun answer => Run.Keeps.ofExcept _
  · exact (callDbapi_keeps hI _ _).bind fun columns => Run.Keeps.pure _

theorem probeAndCache_keeps (schema : Option String) (tableName : String) :
    Run.Keeps I (probeAndCache dbapi schema tableName) :=
  (probeTableColumns_keeps hI tableName schema).bind fun entry =>
    (Run.Keeps.modify fun s hs => hI.cacheColumns s schema tableName entry hs).bind fun _ =>
      Run.Keeps.pure _

theorem tableEntry_keeps (tableName : String) (schema : Option String) :
    Run.Keeps I (tableEntry dbapi tableName schema) := by
  refine (Run.Keeps.gets _).bind fun cached => ?_
  cases cached with
  | some entry => exact Run.Keeps.pure entry
  | none => exact (probeAndCache_keeps hI schema tableName).bind fun named => Run.Keeps.pure _

theorem cacheBulk_keeps (schema : Option String) (entries : List (String × List ColumnSpec))
    (s : Session σ) (hs : I s) :
    I (entries.foldl (fun s e => s.cacheColumns schema e.1 (.columns e.2)) s) := by
  induction entries generalizing s with
  | nil => exact hs
  | cons e entries ih => exact ih _ (hI.cacheColumns s schema e.1 _ hs)

theorem warnIfDegraded_keeps (schema : Option String) (result : TableMetadataResult)
    (probed : List (String × TableColumnCacheEntry)) :
    Run.Keeps I (warnIfDegraded dialect schema result probed) := by
  unfold warnIfDegraded warnDegradedReflection
  split
  · refine (Run.Keeps.gets _).bind fun warned => ?_
    split
    · exact Run.Keeps.pure ()
    · exact (Run.Keeps.modify fun s hs => hI.warn s schema _ hs).bind fun _ => Run.Keeps.ofExcept _
  · exact Run.Keeps.pure ()

theorem bulkResult_keeps (schema : Option String) (answer : BulkAnswer) :
    Run.Keeps I (bulkResult dbapi schema answer) := by
  cases answer with
  | metadata result => exact Run.Keeps.pure result
  | none => exact (callDbapi_keeps hI _ _).bind fun names => Run.Keeps.pure _
  | mapping columns => exact Run.Keeps.pure _

theorem relationNamesUncached_keeps (schema : Option String) :
    Run.Keeps I (relationNamesUncached dialect dbapi schema) := by
  have hbulk : Run.Keeps I (bulkMetadata dbapi schema) :=
    (callDbapi_keeps hI _ _).bind (bulkResult_keeps hI schema)
  refine hbulk.bind fun result => ?_
  refine (Run.Keeps.modify fun s hs => cacheBulk_keeps hI schema _ s hs).bind fun _ => ?_
  split
  · exact Run.Keeps.pure _
  · refine (Run.Keeps.mapEach (probeAndCache_keeps hI schema) _).bind fun probed => ?_
    exact (warnIfDegraded_keeps hI schema result probed).bind fun _ => Run.Keeps.pure _

theorem relationNames_keeps (schema : Option String) :
    Run.Keeps I (relationNames dialect dbapi schema) := by
  refine (Run.Keeps.gets _).bind fun cached => ?_
  cases cached with
  | some relations => exact Run.Keeps.pure relations
  | none =>
    exact (relationNamesUncached_keeps hI schema).bind fun relations =>
      (Run.Keeps.modify fun s hs => hI.cacheRelations s schema relations hs).bind fun _ =>
        Run.Keeps.pure relations

theorem body_keeps (call : ReflectionCall) : Run.Keeps I (call.body dialect dbapi) := by
  cases call with
  | getColumns tableName schema =>
    exact ((tableEntry_keeps hI tableName schema).bind fun entry => Run.Keeps.ofExcept _).bind
      fun columns => Run.Keeps.pure _
  | getTableNames schema =>
    exact ((relationNames_keeps hI schema).bind fun relations => Run.Keeps.pure _).bind
      fun names => Run.Keeps.pure _
  | getViewNames schema =>
    exact ((relationNames_keeps hI schema).bind fun relations => Run.Keeps.pure _).bind
      fun names => Run.Keeps.pure _
  | hasTable tableName schema =>
    exact ((relationNames_keeps hI schema).bind fun relations => Run.Keeps.pure _).bind
      fun b => Run.Keeps.pure _

end Keeps

/-! ## Without a call of the connection -/

/-- What a call needs is in the cache. -/
def Cached (s : Session σ) : ReflectionCall → Prop
  | .getColumns tableName schema => HasColumns s schema tableName
  | .getTableNames schema => HasRelations s schema
  | .getViewNames schema => HasRelations s schema
  | .hasTable _ schema => HasRelations s schema

/-- **A cached call** gives what it should and leaves everything as it was. -/
theorem body_cached {s : Session σ} (hs : Coherent dialect dbapi answers s) {call : ReflectionCall}
    (h : Cached s call) : call.body dialect dbapi s = (expected dialect dbapi answers call, s) := by
  have hnames : ∀ {schema : Option String}, HasRelations s schema → ∀ f : Relations → ReflectionAnswer,
      (relationNames dialect dbapi schema >>= fun relations => pure (f relations)) s =
        (.ok (f (listing dbapi answers schema)), s) := by
    rintro schema ⟨relations, hrel⟩ f
    have hrun : relationNames dialect dbapi schema s = (.ok relations, s) := by
      rw [relationNames, Run.bind_ok (Run.gets_run _ s), hrel]
      rfl
    rw [Run.bind_ok hrun, (hs.relationsEntry hrel).1]
    rfl
  cases call with
  | getColumns tableName schema =>
    obtain ⟨entry, hentry⟩ := h
    have hrun : tableEntry dbapi tableName schema s = (.ok entry, s) := by
      rw [tableEntry, Run.bind_ok (Run.gets_run _ s), hentry]
      rfl
    have hcolumns : getColumns dialect dbapi tableName schema s =
        (columnsFromCacheEntry dialect entry tableName schema, s) := by
      rw [getColumns, Run.bind_ok hrun]
      rfl
    rw [ReflectionCall.body, expected, columnsOf, hs.columnEntry hentry]
    cases hread : columnsFromCacheEntry dialect entry tableName schema with
    | ok columns =>
      rw [hread] at hcolumns
      rw [Run.bind_ok hcolumns]
      rfl
    | error e =>
      rw [hread] at hcolumns
      rw [Run.bind_error hcolumns]
      rfl
  | getTableNames schema =>
    rw [ReflectionCall.body, getTableNames, Run.bind_assoc]
    exact hnames h fun relations => .names (Relations.select dialect false relations)
  | getViewNames schema =>
    rw [ReflectionCall.body, getViewNames, Run.bind_assoc]
    exact hnames h fun relations => .names (Relations.select dialect true relations)
  | hasTable tableName schema =>
    rw [ReflectionCall.body, hasTable, Run.bind_assoc]
    exact hnames h fun relations => .flag (tableName ∈ relations.1)

end FlightSql
