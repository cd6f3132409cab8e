/-
  Metadata over a connection — `Connection` of `flightsql/dbapi.py`.

  Every metadata method sends its own request, scoped to the METADATA CATALOG: the explicit catalog,
  else the resolved one, else none.  When an unscoped request of its own came back empty the method
  may look for a catalog first (`catalogFallback`) and then repeat the request scoped to it.

  Discovery asks up to three advisory probes: an unscoped GetDbSchemas, GetCatalogs, and the settings
  query.  `resolve` is the one place where its outcome is written.

  Mathlib-free.
-/
import FlightSql.TableMetadata

set_option linter.unusedVariables false

namespace FlightSql

open Arrow Lib

/-- A method of `Connection`. -/
def connectionMethod {α : Type} (m : Method α) : Method α :=
  checkClosed "Connection" (fun w => w.connection.closed) (translateErrors m)

/-! ## Reading every endpoint -/

/-- The table a reader gives. -/
def readTable (reader : Reader) : Except Exn Table :=
  match reader.readAll with
  | none => .error (.dataError "Flight SQL metadata reader has no read_all() method")
  | some (.error error) => .error error
  | some (.ok .other) => .error (.dataError "Flight SQL metadata reader returned a non-Table payload")
  | some (.ok (.table t)) => .ok t

/-- One turn of the loop of `_tables_from_info`. -/
def tableFromEndpoint (srv : Server) (endpoint : Endpoint) : Method Table :=
  match endpoint.ticket with
  | none => Run.raise (.dataError "Flight SQL metadata endpoint is missing its ticket")
  | some ticket => do
    let reader ← doGet srv ticket
    Run.ofExcept (readTable reader)

/-- **`_tables_from_info`**: the table of every endpoint, in order. -/
def tablesFromInfo (srv : Server) (info : FlightInfo) : Method (List Table) :=
  match info.endpoints with
  | none => Run.raise (.dataError "Flight SQL metadata response has no iterable endpoints")
  | some endpoints => Run.mapEach (tableFromEndpoint srv) endpoints

/-- The values of a column, over the tables that have it. -/
def namesColumn (rt : Runtime) (name : String) (table : Table) : Except Exn (List PyValue) :=
  if name ∈ table.columnNames then table.columnValues rt.asPy name else .ok []

/-- What a `set` or a `dict` refuses: the first unhashable value. -/
def checkHashable (values : List PyValue) : Except Exn Unit :=
  match values.find? fun v => v.hashable = false with
  | some v => .error ⟨.python .typeError, "unhashable type: '" ++ v.typeName ++ "'"⟩
  | none => .ok ()

/-! ## The metadata catalog -/

/-- `_metadata_catalog`. -/
def Connection.metadataCatalog (c : Connection) : Option PyValue :=
  match c.catalog with
  | some catalog => some (.str catalog)
  | none =>
    match c.resolvedCatalog with
    | some resolved => resolved
    | none => none

/-- `self._resolved_catalog = (catalog,)`, with its mark in the log. -/
def resolve (catalog : Option PyValue) : Method Unit :=
  Run.modify fun w => { w.record (.resolved catalog) with
    connection := { w.connection with resolvedCatalog := some catalog } }

/-- `_schema_names`. -/
def schemaNames (rt : Runtime) (srv : Server) (catalog : Option PyValue) :
    Method (List PyValue) := do
  let info ← getDbSchemas rt srv catalog
  let tables ← tablesFromInfo srv info
  let columns ← Run.ofExcept (tables.mapM (namesColumn rt "db_schema_name"))
  pure columns.flatten

/-! ## Discovery -/

/-- `isinstance(error, pa.ArrowNotImplementedError)`. -/
def isNotImplemented (e : Exn) : Bool := e.cls = .arrow .notImplemented

/-- `isinstance(error, (flight.FlightError, pa.ArrowInvalid))`. -/
def isFlightOrInvalid (e : Exn) : Bool := e.isFlightError || e.cls = .arrow .invalid

/-- `_TRANSIENT_PROBE_ERRORS`. -/
def isTransientProbeError (e : Exn) : Bool :=
  e.cls = .flight .unavailable ∨ e.cls = .flight .timedOut ∨ e.cls = .flight .cancelled

/-- `_TRANSIENT_METADATA_PROBE_ERRORS`. -/
def isTransientMetadataProbeError (e : Exn) : Bool :=
  isTransientProbeError e ∨ e.cls = .flight .internal ∨ e.cls = .flight .server

/-- `_catalog_probe_failed`. -/
def catalogProbeFailed (error : Exn) (transient : Exn → Bool) : Method Bool :=
  if transient error then pure false
  else do
    resolve none
    pure false

/-- The GetCatalogs probe: every nonempty catalog name, over all endpoints. -/
def catalogNames (rt : Runtime) (srv : Server) : Method (List PyValue) := do
  let info ← getCatalogs srv
  let tables ← tablesFromInfo srv info
  let columns ← Run.ofExcept (tables.mapM (namesColumn rt "catalog_name"))
  pure (columns.flatten.filter PyValue.truthy)

/-- The query of `_default_catalog`. -/
def settingsQuery : String :=
  "SELECT value FROM information_schema.df_settings WHERE name = 'datafusion.catalog.default_catalog'"

/-- `row["value"]`. -/
def rowValue (row : Dict String PyValue) : Except Exn PyValue :=
  match row.get? "value" with
  | some value => .ok value
  | none => .error ⟨.python .keyError, "'value'"⟩

/-- The `value` cells of one settings table. -/
def settingsValues (rt : Runtime) (table : Table) : Except Exn (List PyValue) := do
  let rows ← table.toPylist rt.asPy
  rows.mapM rowValue

/-- The settings probe: every value the settings query returns. -/
def settings (rt : Runtime) (srv : Server) : Method (List PyValue) := do
  let info ← clientExecute srv settingsQuery
  let tables ← tablesFromInfo srv info
  let values ← Run.ofExcept (tables.mapM (settingsValues rt))
  pure values.flatten

/-- The one value, if it is a string and listed. -/
def listedDefault (catalogs values : List PyValue) : Option PyValue :=
  match values with
  | [.str s] => if .str s ∈ catalogs then some (.str s) else none
  | _ => none

/-- `_default_catalog`. -/
def defaultCatalog (rt : Runtime) (srv : Server) (catalogs : List PyValue) :
    Method (Option PyValue) := do
  let values ← settings rt srv
  pure (listedDefault catalogs values)

/-- `self._resolved_catalog = (resolved,)`; `return resolved is not None`. -/
def decideCatalog (resolved : Option PyValue) : Method Bool := do
  resolve resolved
  pure resolved.isSome

/-- What `_catalog_fallback` does with the catalogs listed. -/
def chooseCatalog (rt : Runtime) (srv : Server) (catalogs : List PyValue) : Method Bool := do
  Run.ofExcept (checkHashable catalogs)
  if (fromKeys catalogs).length = 1 then decideCatalog catalogs.head?
  else if catalogs = [] then decideCatalog none
  else do
    -- several: only the session's default is taken, never a guess
    let answer ← Run.attempt (defaultCatalog rt srv catalogs)
    match answer with
    | .ok resolved => decideCatalog resolved
    | .error error =>
      if isNotImplemented error || isFlightOrInvalid error then
        catalogProbeFailed error isTransientProbeError
      else Run.raise error

/-- `_catalog_fallback` from GetCatalogs on. -/
def probeCatalogs (rt : Runtime) (srv : Server) : Method Bool := do
  let answer ← Run.attempt (catalogNames rt srv)
  match answer with
  | .ok catalogs => chooseCatalog rt srv catalogs
  | .error error =>
    if isNotImplemented error || isFlightOrInvalid error then
      catalogProbeFailed error isTransientMetadataProbeError
    else Run.raise error

/-- `_catalog_fallback` from the unscoped GetDbSchemas on. -/
def probeSchemas (rt : Runtime) (srv : Server) : Method Bool := do
  let answer ← Run.attempt (schemaNames rt srv none)
  match answer with
  | .ok names =>
    if names = [] then probeCatalogs rt srv
    -- unscoped requests are answered: the empty answer stands
    else decideCatalog none
  | .error error =>
    -- no GetDbSchemas: cannot tell
    if isNotImplemented error then probeCatalogs rt srv
    else if isFlightOrInvalid error then catalogProbeFailed error isTransientMetadataProbeError
    else Run.raise error

/-- **`_catalog_fallback`**. -/
def catalogFallback (rt : Runtime) (srv : Server) (unscopedSchemasEmpty : Bool) : Method Bool := do
  let connection ← Run.gets World.connection
  if connection.catalog.isSome || connection.resolvedCatalog.isSome then pure false
  else if unscopedSchemasEmpty then probeCatalogs rt srv
  else probeSchemas rt srv

/-! ## GetTables -/

/-- The keyword arguments a caller of `_get_table_metadata` gives to `get_tables`. -/
structure TablesRequest where
  tableNameFilterPattern : Option String
  dbSchemaFilterPattern : Option String
  includeSchema : Bool

/-- One GetTables with its answer read. -/
def fetchTableMetadata (rt : Runtime) (srv : Server) (requestedSchema : Option String)
    (request : TablesRequest) (catalog : Option PyValue) : Method TableMetadataResult := do
  let info ← getTables rt srv request.includeSchema catalog request.tableNameFilterPattern
    request.dbSchemaFilterPattern
  let tables ← tablesFromInfo srv info
  Run.ofExcept (tableMetadata rt tables requestedSchema)

/-- **`_get_table_metadata`**. -/
def getTableMetadata (rt : Runtime) (srv : Server) (requestedSchema : Option String)
    (request : TablesRequest) : Method TableMetadataResult := do
  let connection ← Run.gets World.connection
  let result ← fetchTableMetadata rt srv requestedSchema request connection.metadataCatalog
  if result.tableNames = [] then do
    let retry ← catalogFallback rt srv false
    if retry then do
      let connection ← Run.gets World.connection
      fetchTableMetadata rt srv requestedSchema request connection.metadataCatalog
    else pure result
  else pure result

/-! ## The public methods -/

/-- `flightsql_get_table_metadata_for_table`. -/
def flightsqlGetTableMetadataForTable (rt : Runtime) (srv : Server) (tableName : String)
    (schema : Option String) : Method TableMetadataResult :=
  connectionMethod do
    let result ← getTableMetadata rt srv schema ⟨some tableName, schema, true⟩
    -- any name that matches the pattern will do; below, only the exact one
    if result.tableNames ≠ [] then pure result
    else do
      let names ← getTableMetadata rt srv schema ⟨some tableName, schema, false⟩
      let exactNames := names.tableNames.filter fun name => name = tableName
      if exactNames ≠ [] then pure ⟨exactNames, none, false, none⟩ else pure result

/-- `flightsql_get_columns`. -/
def flightsqlGetColumns (rt : Runtime) (srv : Server) (tableName : String) (schema : Option String) :
    Method (List ColumnSpec) :=
  checkClosed "Connection" (fun w => w.connection.closed) do
    let result ← flightsqlGetTableMetadataForTable rt srv tableName schema
    match result.columnsByName with
    | none => pure []
    | some metadata => pure ((metadata.get? tableName).getD [])

/-- `result.columns_by_name == {}`. -/
def TableMetadataResult.noColumns (result : TableMetadataResult) : Bool :=
  match result.columnsByName with
  | some columns => columns.size = 0
  | none => false

/-- `flightsql_get_table_metadata`. -/
def flightsqlGetTableMetadata (rt : Runtime) (srv : Server) (schema : Option String) :
    Method TableMetadataResult :=
  connectionMethod do
    let result ← getTableMetadata rt srv schema ⟨none, schema, true⟩
    if result.tableNames = [] ∧ result.noColumns = true then do
      let namesOnly ← getTableMetadata rt srv schema ⟨none, schema, false⟩
      if namesOnly.tableNames ≠ [] then
        pure ⟨namesOnly.tableNames, none, false, namesOnly.tableTypes⟩
      else pure result
    else pure result

/-- `flightsql_get_table_names`. -/
def flightsqlGetTableNames (rt : Runtime) (srv : Server) (schema : Option String) :
    Method (List String) :=
  connectionMethod do
    let result ← getTableMetadata rt srv schema ⟨none, schema, false⟩
    pure result.tableNames

/-- The body of `flightsql_get_schema_names` up to its answer, which may repeat names. -/
def scopedSchemaNames (rt : Runtime) (srv : Server) : Method (List PyValue) := do
  let connection ← Run.gets World.connection
  let names ← schemaNames rt srv connection.metadataCatalog
  if names = [] then do
    let retry ← catalogFallback rt srv (connection.metadataCatalog = none)
    if retry then do
      let connection ← Run.gets World.connection
      schemaNames rt srv connection.metadataCatalog
    else pure names
  else pure names

/-- `flightsql_get_schema_names`. -/
def flightsqlGetSchemaNames (rt : Runtime) (srv : Server) : Method (List PyValue) :=
  connectionMethod do
    let names ← scopedSchemaNames rt srv
    Run.ofExcept (checkHashable names)
    pure (fromKeys names)

/-! ## Keys and server information -/

/-- A dictionary lookup `row[name]`. -/
def rowItem (name : String) (row : Dict String PyValue) : Except Exn PyValue :=
  match row.get? name with
  | some value => .ok value
  | none => .error ⟨.python .keyError, "'" ++ name ++ "'"⟩

/-- `v["info_name"]: v["value"]`. -/
def sqlInfoEntry (row : Dict String PyValue) : Except Exn (PyValue × PyValue) := do
  let name ← rowItem "info_name" row
  let value ← rowItem "value" row
  checkHashable [name]
  .ok (name, value)

/-- `{v["info_name"]: v["value"] for v in values}`. -/
def sqlInfoDict (values : List (Dict String PyValue)) : Except Exn (Dict PyValue PyValue) := do
  let entries ← values.mapM sqlInfoEntry
  .ok (Dict.ofList entries)

/-- The rows of a payload: `reader.read_all().to_pylist()`. -/
def payloadRows (rt : Runtime) (payload : Payload) : Except Exn (List (Dict String PyValue)) :=
  match payload with
  | .table t => t.toPylist rt.asPy
  | .other => .error (attributeError "to_pylist")

/-- `flightsql_get_sql_info`. -/
def flightsqlGetSqlInfo (rt : Runtime) (srv : Server) (info : List Int) :
    Method (Dict PyValue PyValue) :=
  connectionMethod do
    let finfo ← getSqlInfo srv info
    let payload ← readFirstEndpoint srv finfo
    let values ← Run.ofExcept (payloadRows rt payload)
    Run.ofExcept (sqlInfoDict values)

/-- `flightsql_get_primary_keys`. -/
def flightsqlGetPrimaryKeys (rt : Runtime) (srv : Server) (table : String) (schema : Option String) :
    Method (List (Dict String PyValue)) :=
  connectionMethod do
    let info ← getPrimaryKeys srv table schema
    let payload ← readFirstEndpoint srv info
    Run.ofExcept (payloadRows rt payload)

/-- `flightsql_get_foreign_keys`. -/
def flightsqlGetForeignKeys (rt : Runtime) (srv : Server) (table : String) (schema : Option String) :
    Method (List (Dict String PyValue)) :=
  connectionMethod do
    let info ← getImportedKeys srv table schema
    let payload ← readFirstEndpoint srv info
    Run.ofExcept (payloadRows rt payload)

end FlightSql
