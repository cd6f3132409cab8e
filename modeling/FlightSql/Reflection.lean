/-
  Table reflection — `get_columns`, `get_table_names`, `get_view_names`, `has_table` and what they share
  of `flightsql/sqlalchemy.py`.

  1. **The DB API connection** (`Dbapi`) — whatever answers the four metadata methods, over a state of
     its own; the richer probe of one table may be absent, and the bulk answer may have one of the
     older shapes.

  2. **The info cache** — what SQLAlchemy passes to every reflection call: the relation lists and table
     columns the dialect keeps in it, and the answers `reflection.cache` does (`memo`).

  3. **The methods** — a bulk GetTables, one probe for each name it gave no columns for, each answer
     cached as it comes in.  A `Call` is one of the four methods with its arguments; `Call.body` is the
     method, `ReflectionCache.apply` what SQLAlchemy's decorator makes of it.

  Mathlib-free.
-/
import FlightSql.Exceptions
import FlightSql.TableMetadata

set_option linter.unusedVariables false

namespace FlightSql

open Lib

/-! ## The DB API connection -/

/-- What `flightsql_get_table_metadata` answers: a `TableMetadataResult`, `None`, or the mapping of names
    to columns of the earlier interface. -/
inductive BulkAnswer where
  | metadata (result : TableMetadataResult)
  | none
  | mapping (columns : Dict String (List ColumnSpec))

/-- What `flightsql_get_table_metadata_for_table` answers: a `TableMetadataResult`, or anything else. -/
inductive ProbeAnswer where
  | metadata (result : TableMetadataResult)
  | other

/-- **A DB API connection** over the state `σ`, as far as reflection calls it; `none` for a connection
    without the probe of one table. -/
structure Dbapi (σ : Type) where
  getTableMetadata : Option String → Run σ Exn BulkAnswer
  getTableNames : Option String → Run σ Exn (List String)
  getTableMetadataForTable : Option (String → Option String → Run σ Exn ProbeAnswer)
  getColumns : String → Option String → Run σ Exn (List ColumnSpec)

/-- A call of one of its methods. -/
inductive DbapiCall where
  | getTableMetadata (schema : Option String)
  | getTableNames (schema : Option String)
  | getTableMetadataForTable (tableName : String) (schema : Option String)
  | getColumns (tableName : String) (schema : Option String)
  deriving DecidableEq

/-! ## The info cache -/

/-- `_TableColumnCacheEntry`, by its status. -/
inductive TableColumnCacheEntry where
  | columns (columns : List ColumnSpec)
  | unreflectable
  | missing
  deriving DecidableEq

/-- A call of one of the four methods. -/
inductive ReflectionCall where
  | getColumns (tableName : String) (schema : Option String)
  | getTableNames (schema : Option String)
  | getViewNames (schema : Option String)
  | hasTable (tableName : String) (schema : Option String)
  deriving DecidableEq

/-- What one of them returns. -/
inductive ReflectionAnswer where
  | columns (columns : List ColumnSpec)
  | names (names : List String)
  | flag (b : Bool)

/-- The names of a schema, and the table types known. -/
abbrev Relations := List String × Dict PyValue PyValue

/-- **An info cache**: the dialect's own entries, by schema and by schema and table, and those of
    `reflection.cache`. -/
structure InfoCache where
  relations : Dict (Option String) Relations
  columns : Dict (Option String × String) TableColumnCacheEntry
  memo : Dict ReflectionCall ReflectionAnswer

/-- `{}`. -/
def InfoCache.empty : InfoCache := ⟨.empty, .empty, .empty⟩

/-- **What reflection runs over**: the connection, the info cache passed with every call (if one is), the
    schemas the dialect has warned about, the DB API calls made and the warnings issued. -/
structure Session (σ : Type) where
  connection : σ
  infoCache : Option InfoCache
  warned : List (Option String)
  calls : List DbapiCall
  warnings : List String

namespace Session

variable {σ : Type}

/-- `info_cache[key] = …` for whichever entry `f` writes; nothing without a cache. -/
def updateCache (s : Session σ) (f : InfoCache → InfoCache) : Session σ :=
  { s with infoCache := s.infoCache.map f }

theorem infoCache_updateCache {s : Session σ} {c : InfoCache} (hc : s.infoCache = some c)
    (f : InfoCache → InfoCache) : (s.updateCache f).infoCache = some (f c) := by
  rw [updateCache, hc]
  rfl

/-- Write the entry of one table. -/
def cacheColumns (s : Session σ) (schema : Option String) (tableName : String)
    (entry : TableColumnCacheEntry) : Session σ :=
  s.updateCache fun c => { c with columns := c.columns.set (schema, tableName) entry }

/-- Write the entry of one schema. -/
def cacheRelations (s : Session σ) (schema : Option String) (relations : Relations) : Session σ :=
  s.updateCache fun c => { c with relations := c.relations.set schema relations }

/-- Remember the answer of a call. -/
def remember (s : Session σ) (call : ReflectionCall) (answer : ReflectionAnswer) : Session σ :=
  s.updateCache fun c => { c with memo := c.memo.set call answer }

def columnEntry? (s : Session σ) (schema : Option String) (tableName : String) :
    Option TableColumnCacheEntry :=
  s.infoCache.bind fun c => c.columns.get? (schema, tableName)

def relations? (s : Session σ) (schema : Option String) : Option Relations :=
  s.infoCache.bind fun c => c.relations.get? schema

def memo? (s : Session σ) (call : ReflectionCall) : Option ReflectionAnswer :=
  s.infoCache.bind fun c => c.memo.get? call

end Session

/-! ## The dialect -/

/-- **What the dialect takes from the interpreter**: `str.strip`, `str.upper`, `repr` of a string, and
    whether the warning filters turn a warning into an exception. -/
structure Dialect where
  strip : String → String
  upper : String → String
  repr : String → String
  warningsAreErrors : Bool

/-- A computation of the dialect. -/
abbrev Reflecting (σ α : Type) := Run (Session σ) Exn α

variable {σ : Type} (dialect : Dialect) (dbapi : Dbapi σ)

/-- `_is_view_type`. -/
def isViewType : Option PyValue → Bool
  | some (.str tableType) => dialect.upper (dialect.strip tableType) = "VIEW"
  | _ => false

/-- Call a method of the DB API connection. -/
def callDbapi {α : Type} (call : DbapiCall) (m : Run σ Exn α) : Reflecting σ α := fun s =>
  ((m s.connection).1, { s with connection := (m s.connection).2, calls := s.calls ++ [call] })

/-! ## Columns -/

/-- `result.table_types or {}`. -/
def TableMetadataResult.types (result : TableMetadataResult) : Dict PyValue PyValue :=
  result.tableTypes.getD .empty

/-- What a probe of one table says of it. -/
def probeEntry (tableName : String) : ProbeAnswer → Except Exn TableColumnCacheEntry
  | .metadata result =>
    match result.columns.get? tableName with
    | some columns => .ok (.columns columns)
    | none => if tableName ∈ result.tableNames then .ok .unreflectable else .ok .missing
  | .other =>
    .error ⟨.sqlalchemy .invalidRequest,
      "flightsql_get_table_metadata_for_table() must return TableMetadataResult"⟩

/-- What the columns of one table say of it, on a connection without the probe: none means missing. -/
def columnsEntry (columns : List ColumnSpec) : TableColumnCacheEntry :=
  if columns = [] then .missing else .columns columns

/-- `_probe_table_columns`. -/
def probeTableColumns (tableName : String) (schema : Option String) :
    Reflecting σ TableColumnCacheEntry :=
  match dbapi.getTableMetadataForTable with
  | some probe => do
    let answer ← callDbapi (.getTableMetadataForTable tableName schema) (probe tableName schema)
    Run.ofExcept (probeEntry tableName answer)
  | none => do
    let columns ← callDbapi (.getColumns tableName schema) (dbapi.getColumns tableName schema)
    pure (columnsEntry columns)

/-- Probe one table, and cache what the probe says. -/
def probeAndCache (schema : Option String) (tableName : String) :
    Reflecting σ (String × TableColumnCacheEntry) := do
  let entry ← probeTableColumns dbapi tableName schema
  Run.modify fun s => s.cacheColumns schema tableName entry
  pure (tableName, entry)

/-- The table name, behind its schema if it has one. -/
def qualifiedName (tableName : String) : Option String → String
  | none => tableName
  | some schema => schema ++ "." ++ tableName

/-- `_columns_from_cache_entry`. -/
def columnsFromCacheEntry (entry : TableColumnCacheEntry) (tableName : String)
    (schema : Option String) : Except Exn (List ColumnSpec) :=
  match entry with
  | .missing => .error ⟨.sqlalchemy .noSuchTable, qualifiedName tableName schema⟩
  | .unreflectable =>
    .error ⟨.sqlalchemy .unreflectableTable,
      "Flight SQL reports table " ++ dialect.repr (qualifiedName tableName schema)
        ++ ", but filtered GetTables(include_schema=True) did not return a parseable Arrow "
        ++ "table_schema; check metadata permissions and server support"⟩
  | .columns columns => .ok columns

/-- The entry of a table: the cached one, else what a probe says. -/
def tableEntry (tableName : String) (schema : Option String) :
    Reflecting σ TableColumnCacheEntry := do
  let cached ← Run.gets fun s => s.columnEntry? schema tableName
  match cached with
  | some entry => pure entry
  | none => do
    let probed ← probeAndCache dbapi schema tableName
    pure probed.2

/-- `get_columns`. -/
def getColumns (tableName : String) (schema : Option String) : Reflecting σ (List ColumnSpec) := do
  let entry ← tableEntry dbapi tableName schema
  Run.ofExcept (columnsFromCacheEntry dialect entry tableName schema)

/-! ## Names -/

/-- A bulk answer in the present shape; without one, the names are asked for. -/
def bulkResult (schema : Option String) : BulkAnswer → Reflecting σ TableMetadataResult
  | .metadata result => pure result
  | .none => do
    let names ← callDbapi (.getTableNames schema) (dbapi.getTableNames schema)
    pure ⟨names, none, false, none⟩
  | .mapping columns => pure ⟨columns.keys, some columns, true, none⟩

/-- The bulk answer of GetTables. -/
def bulkMetadata (schema : Option String) : Reflecting σ TableMetadataResult := do
  let answer ← callDbapi (.getTableMetadata schema) (dbapi.getTableMetadata schema)
  bulkResult dbapi schema answer

/-- The names without columns in the bulk answer. -/
def TableMetadataResult.unresolved (result : TableMetadataResult) : List String :=
  (fromKeys result.tableNames).filter fun name => !result.columns.contains name

/-- The names with columns. -/
def TableMetadataResult.resolved (result : TableMetadataResult) : List String :=
  (fromKeys result.tableNames).filter fun name => result.columns.contains name

/-- Cache the columns of the bulk answer. -/
def Session.cacheBulk (s : Session σ) (schema : Option String)
    (columns : Dict String (List ColumnSpec)) : Session σ :=
  columns.entries.foldl (fun s e => s.cacheColumns schema e.1 (.columns e.2)) s

/-- How many of the probed tables have a status. -/
def countEntries (p : TableColumnCacheEntry → Bool)
    (probed : List (String × TableColumnCacheEntry)) : Nat :=
  (probed.filter fun e => p e.2).length

def TableColumnCacheEntry.isColumns : TableColumnCacheEntry → Bool
  | .columns _ => true
  | _ => false

/-- `_warn_degraded_reflection`: once a schema. -/
def warnDegradedReflection (schema : Option String)
    (probed : List (String × TableColumnCacheEntry)) : Reflecting σ Unit := do
  let warnedSchemas ← Run.gets Session.warned
  if schema ∈ warnedSchemas then pure ()
  else do
    let scope := match schema with
      | none => "all schemas"
      | some name => "schema " ++ dialect.repr name
    let text := "Flight SQL GetTables(include_schema=True) returned incomplete Arrow table_schema "
      ++ "metadata for " ++ scope ++ "; issued " ++ toString probed.length ++ " filtered probe(s): "
      ++ toString (countEntries TableColumnCacheEntry.isColumns probed) ++ " recovered, "
      ++ toString (countEntries (· = .unreflectable) probed) ++ " still unreflectable, "
      ++ toString (countEntries (· = .missing) probed) ++ " stale row(s) excluded. Existing "
      ++ "unreflectable names remain visible to has_table() but get_columns() fails explicitly. Grant "
      ++ "schema-metadata permission or configure/upgrade the server to return a serialized Arrow "
      ++ "schema for every reported table."
    Run.modify fun s => { s with warned := schema :: s.warned, warnings := s.warnings ++ [text] }
    Run.ofExcept (if dialect.warningsAreErrors then .error ⟨.python .other, text⟩ else .ok ())

/-- The warning of a listing whose bulk answer was not complete. -/
def warnIfDegraded (schema : Option String) (result : TableMetadataResult)
    (probed : List (String × TableColumnCacheEntry)) : Reflecting σ Unit :=
  if result.tableNames ≠ [] ∧ (result.unresolved ≠ [] ∨ result.includedSchemaSupported = false) then
    warnDegradedReflection dialect schema probed
  else pure ()

/-- The names found present, after those with columns. -/
def TableMetadataResult.present (result : TableMetadataResult)
    (probed : List (String × TableColumnCacheEntry)) : List String :=
  result.resolved ++ (probed.filter fun e => e.2 ≠ .missing).map Prod.fst

/-- `_relation_names_uncached`. -/
def relationNamesUncached (schema : Option String) : Reflecting σ Relations := do
  let result ← bulkMetadata dbapi schema
  Run.modify fun s => s.cacheBulk schema result.columns
  if result.unresolved = [] ∧ result.includedSchemaSupported = true then
    pure (fromKeys result.tableNames, result.types)
  else do
    let probed ← Run.mapEach (probeAndCache dbapi schema) result.unresolved
    warnIfDegraded dialect schema result probed
    pure (result.present probed, result.types)

/-- `_relation_names`. -/
def relationNames (schema : Option String) : Reflecting σ Relations := do
  let cached ← Run.gets fun s => s.relations? schema
  match cached with
  | some relations => pure relations
  | none => do
    let relations ← relationNamesUncached dialect dbapi schema
    Run.modify fun s => s.cacheRelations schema relations
    pure relations

/-- The names of a schema that are views, or that are not. -/
def Relations.select (views : Bool) (relations : Relations) : List String :=
  relations.1.filter fun name => isViewType dialect (relations.2.get? (.str name)) = views

/-- `get_table_names`. -/
def getTableNames (schema : Option String) : Reflecting σ (List String) := do
  let relations ← relationNames dialect dbapi schema
  pure (Relations.select dialect false relations)

/-- `get_view_names`. -/
def getViewNames (schema : Option String) : Reflecting σ (List String) := do
  let relations ← relationNames dialect dbapi schema
  pure (Relations.select dialect true relations)

/-- `has_table`. -/
def hasTable (tableName : String) (schema : Option String) : Reflecting σ Bool := do
  let relations ← relationNames dialect dbapi schema
  pure (tableName ∈ relations.1)

/-! ## Calls -/

/-- The method a call names. -/
def ReflectionCall.body : ReflectionCall → Reflecting σ ReflectionAnswer
  | .getColumns tableName schema => do
    let columns ← FlightSql.getColumns dialect dbapi tableName schema
    pure (.columns columns)
  | .getTableNames schema => do
    let names ← FlightSql.getTableNames dialect dbapi schema
    pure (.names names)
  | .getViewNames schema => do
    let names ← FlightSql.getViewNames dialect dbapi schema
    pure (.names names)
  | .hasTable tableName schema => do
    let b ← FlightSql.hasTable dialect dbapi tableName schema
    pure (.flag b)

/-- What a cached method may do with a call: answer what an earlier one returned, or run the method, and
    remember what it returns. -/
inductive Served (call : ReflectionCall) (m : Reflecting σ ReflectionAnswer) (s : Session σ) :
    Except Exn ReflectionAnswer × Session σ → Prop where
  | hit (answer : ReflectionAnswer) (h : s.memo? call = some answer) : Served call m s (.ok answer, s)
  | ran : Served call m s (m s)
  | stored (answer : ReflectionAnswer) (s' : Session σ) (h : m s = (.ok answer, s')) :
    Served call m s (.ok answer, s'.remember call answer)

/-- **`sqlalchemy.engine.reflection.cache`**: any decorator that serves every call so. -/
structure ReflectionCache (σ : Type) where
  apply : ReflectionCall → Reflecting σ ReflectionAnswer → Reflecting σ ReflectionAnswer
  served : ∀ call m s, Served call m s (apply call m s)

/-- The decorator that remembers every answer. -/
def ReflectionCache.remembering (σ : Type) : ReflectionCache σ where
  apply call m s :=
    match s.memo? call with
    | some answer => (.ok answer, s)
    | none =>
      match m s with
      | (.ok answer, s') => (.ok answer, s'.remember call answer)
      | (.error e, s') => (.error e, s')
  served := by
    intro call m s
    cases hmemo : s.memo? call with
    | some answer => exact .hit answer hmemo
    | none =>
      have hran : Served call m s (m s) := .ran
      rcases hrun : m s with ⟨outcome, s'⟩
      rw [hrun] at hran
      cases outcome with
      | ok answer => exact .stored answer s' hrun
      | error e => exact hran

end FlightSql
