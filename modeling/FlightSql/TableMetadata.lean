/-
  What a GetTables answer says — `_table_metadata_from_info` of `flightsql/dbapi.py`, after its tables
  have been read.

  1. **Rows** — `tableMetadataRows`: name, schema and serialized Arrow schema of every row admitted by
     the requested schema, with a `DataError` for a row that cannot be one.

  2. **Included schemas** — `parseTableSchemaRows`: a name keeps its columns only while every row of
     it decodes; a name that failed once stays out.

  3. **The result** — `tableMetadata`: each name once, the usable columns, whether every name has
     some, and the table types when every table reports them.

  Mathlib-free.
-/
import FlightSql.Flight

set_option linter.unusedVariables false

namespace FlightSql

open Arrow Lib

/-! ## The result -/

/-- `TableMetadataResult`. -/
structure TableMetadataResult where
  tableNames : List String
  columnsByName : Option (Dict String (List ColumnSpec))
  includedSchemaSupported : Bool
  tableTypes : Option (Dict PyValue PyValue)

/-- `result.columns_by_name or {}`. -/
def TableMetadataResult.columns (result : TableMetadataResult) : Dict String (List ColumnSpec) :=
  result.columnsByName.getD .empty

/-- The result of an answer without rows. -/
def TableMetadataResult.empty : TableMetadataResult := ⟨[], some .empty, true, none⟩

/-! ## Rows -/

/-- `TableMetadataRow`. -/
structure TableMetadataRow where
  name : String
  rowSchema : Option String
  serialized : PyValue
  hasTableSchema : Bool

/-- `row_schema in (None, requested_schema)`, when a schema is requested. -/
def admits (requestedSchema : Option String) (rowSchema : PyValue) : Bool :=
  match requestedSchema with
  | none => true
  | some requested => rowSchema = .none ∨ rowSchema = .str requested

/-- `db_schema_name` as a string or null. -/
def rowSchemaName : PyValue → Except Exn (Option String)
  | .none => .ok none
  | .str s => .ok (some s)
  | _ => .error (.dataError "Flight SQL GetTables db_schema_name values must be strings or null")

/-- `table_name` as a nonempty string. -/
def rowTableName (name : PyValue) : Except Exn String :=
  match name with
  | .str s =>
    if s = "" then
      .error (.dataError "Flight SQL GetTables table_name values must be nonempty strings")
    else .ok s
  | _ => .error (.dataError "Flight SQL GetTables table_name values must be nonempty strings")

/-- One row of one table; `none` when the requested schema does not admit it. -/
def tableMetadataRow (requestedSchema : Option String) (hasTableSchema : Bool)
    (name rowSchema serialized : PyValue) : Except Exn (Option TableMetadataRow) := do
  let tableName ← rowTableName name
  let schemaName ← rowSchemaName rowSchema
  if admits requestedSchema rowSchema then .ok (some ⟨tableName, schemaName, serialized, hasTableSchema⟩)
  else .ok none

/-- `table.column(name).to_pylist()` when the table has the column, else `[None] * table.num_rows`. -/
def optionalColumn (asPy : AsPy) (table : Table) (name : String) : Except Exn (List PyValue) :=
  if name ∈ table.columnNames then table.columnValues asPy name
  else .ok (List.replicate table.numRows .none)

/-- The admitted rows of one table. -/
def tableRows (asPy : AsPy) (requestedSchema : Option String) (table : Table) :
    Except Exn (List TableMetadataRow) :=
  if "table_name" ∈ table.columnNames then do
    let names ← table.columnValues asPy "table_name"
    let schemaNames ← optionalColumn asPy table "db_schema_name"
    let serializedSchemas ← optionalColumn asPy table "table_schema"
    let rows ← (names.zip (schemaNames.zip serializedSchemas)).mapM fun (name, rowSchema, serialized) =>
      tableMetadataRow requestedSchema ("table_schema" ∈ table.columnNames) name rowSchema serialized
    .ok (rows.filterMap id)
  else
    .error (.dataError "Flight SQL GetTables payload is missing required table_name column")

/-- `_table_metadata_rows`: the rows, and whether any table has a `table_schema` column. -/
def tableMetadataRows (asPy : AsPy) (tables : List Table) (requestedSchema : Option String) :
    Except Exn (List TableMetadataRow × Bool) := do
  let rows ← tables.mapM (tableRows asPy requestedSchema)
  .ok (rows.flatten, tables.any fun t => "table_schema" ∈ t.columnNames)

/-! ## Table types -/

/-- The types one table reports, each name keeping its first. -/
def addTableTypes (asPy : AsPy) (requestedSchema : Option String) (types : Dict PyValue PyValue)
    (table : Table) : Except Exn (Dict PyValue PyValue) := do
  let schemaNames ← optionalColumn asPy table "db_schema_name"
  let names ← table.columnValues asPy "table_name"
  let tableTypes ← table.columnValues asPy "table_type"
  .ok ((names.zip (schemaNames.zip tableTypes)).foldl
    (fun types (name, rowSchema, tableType) =>
      if admits requestedSchema rowSchema then types.setDefault name tableType else types) types)

/-- `_table_types`. -/
def tableTypes (asPy : AsPy) (tables : List Table) (requestedSchema : Option String) :
    Except Exn (Option (Dict PyValue PyValue)) :=
  if tables.all fun t => "table_type" ∈ t.columnNames then do
    let types ← tables.foldlM (addTableTypes asPy requestedSchema) .empty
    .ok (some types)
  else .ok none

/-! ## Included schemas -/

/-- `isinstance(value, (bytes, bytearray, memoryview, pa.Buffer))`. -/
def isBytesLike : PyValue → Bool
  | .bytes _ => true
  | .object cls _ _ => cls = "bytearray" ∨ cls = "memoryview" ∨ cls = "Buffer"
  | _ => false

/-- `(OSError, TypeError, ValueError, pa.ArrowInvalid, pa.ArrowTypeError)`. -/
def isDecodeError (e : Exn) : Bool :=
  match e.cls with
  | .python .osError | .python .typeError | .python .valueError => true
  | .arrow .invalid | .arrow .typeError => true
  | _ => false

/-- The names reported in more than one schema while none was requested. -/
def ambiguousNames (rows : List TableMetadataRow) (requestedSchema : Option String) : List String :=
  (fromKeys (rows.map TableMetadataRow.name)).filter fun name =>
    requestedSchema = none ∧
      (fromKeys ((rows.filter fun row => row.name = name).map TableMetadataRow.rowSchema)).length > 1

/-- The state of the parsing loop: the columns found so far and the names ruled out. -/
structure ParsedSchemas where
  parsed : Dict String (List ColumnSpec)
  invalid : List String

/-- `invalid_names.add(name); parsed_by_name.pop(name, None)`. -/
def ParsedSchemas.reject (state : ParsedSchemas) (name : String) : ParsedSchemas :=
  ⟨state.parsed.erase name, name :: state.invalid⟩

/-- One turn of the parsing loop. -/
def parseTableSchemaRow (openStream : PyValue → Except Exn Schema) (state : ParsedSchemas)
    (row : TableMetadataRow) : Except Exn ParsedSchemas :=
  -- a name ruled out stays out; one row without a schema rules it out
  if row.name ∈ state.invalid ∨ row.hasTableSchema = false ∨ row.serialized = .none then
    .ok (state.reject row.name)
  else if isBytesLike row.serialized = false then .ok (state.reject row.name)
  else
    match openStream row.serialized with
    -- the columns of an earlier row of the name are overwritten, whatever they were
    | .ok schema => .ok ⟨state.parsed.set row.name (columnSpecs schema), state.invalid⟩
    | .error error =>
      if isDecodeError error then .ok (state.reject row.name) else .error error

/-- `_parse_table_schema_rows`. -/
def parseTableSchemaRows (openStream : PyValue → Except Exn Schema) (rows : List TableMetadataRow)
    (requestedSchema : Option String) : Except Exn (Dict String (List ColumnSpec)) := do
  let state ← rows.foldlM (parseTableSchemaRow openStream) ⟨.empty, ambiguousNames rows requestedSchema⟩
  .ok (state.parsed.filterKeys fun name => name ∉ state.invalid)

/-! ## The whole answer -/

/-- **`_table_metadata_from_info`**, from the tables on. -/
def tableMetadata (rt : Runtime) (tables : List Table) (requestedSchema : Option String) :
    Except Exn TableMetadataResult :=
  if tables.length = 0 then .ok .empty
  else do
    let (rows, sawTableSchema) ← tableMetadataRows rt.asPy tables requestedSchema
    if rows.length = 0 then .ok .empty
    else do
      let tableNames := fromKeys (rows.map TableMetadataRow.name)
      let tableTypes ← tableTypes rt.asPy tables requestedSchema
      let metadata ← parseTableSchemaRows rt.openStream rows requestedSchema
      if metadata.size = tableNames.length then .ok ⟨tableNames, some metadata, true, tableTypes⟩
      else if sawTableSchema = false then .ok ⟨tableNames, none, false, tableTypes⟩
      else .ok ⟨tableNames, some metadata, false, tableTypes⟩

/-- **No names, no rows**: the result that lists none is the empty one. -/
theorem tableMetadata_eq_empty {rt : Runtime} {tables : List Table} {requestedSchema : Option String}
    {result : TableMetadataResult} (h : tableMetadata rt tables requestedSchema = .ok result)
    (hnames : result.tableNames = []) : result = .empty := by
  rw [tableMetadata] at h
  by_cases htables : tables.length = 0
  · rw [if_pos htables] at h
    cases h
    rfl
  · rw [if_neg htables] at h
    obtain ⟨⟨rows, saw⟩, -, h⟩ := Outcome.bind_eq_ok h
    have h : (if rows.length = 0 then .ok .empty else _) = Except.ok result := h
    by_cases hrows : rows.length = 0
    · rw [if_pos hrows] at h
      cases h
      rfl
    · rw [if_neg hrows] at h
      obtain ⟨types, -, h⟩ := Outcome.bind_eq_ok h
      obtain ⟨metadata, -, h⟩ := Outcome.bind_eq_ok h
      have htableNames : result.tableNames = fromKeys (rows.map TableMetadataRow.name) := by
        split at h
        · cases h
          rfl
        · split at h <;> cases h <;> rfl
      rw [htableNames, fromKeys_eq_nil, List.map_eq_nil_iff] at hnames
      exact absurd (by rw [hnames]; rfl) hrows

end FlightSql
