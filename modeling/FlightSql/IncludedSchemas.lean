/-
  Which names of a GetTables answer have usable columns, and which columns they are.

  1. **The rows of an answer** (`GetTablesRows`) — what its tables hold, row by row; of these the
     requested schema admits some (`admittedRows`).

  2. **The parsing loop** — `ParsedSoFar` is its invariant: which names are ruled out, and the columns
     every other name has so far.  At the end `parseTableSchemaRows_get?` gives the columns of a name in
     closed form (`usableColumns`): those of its LAST row, unless one of its rows is bad.

     It returns exactly if no stream it opens is refused with an error it does not name
     (`parseTableSchemaRows_returns_iff`).

  3. **The whole answer** (`tableMetadata_reportsAnswer_iff`) — each name once, in the order of first
     occurrence; a name has columns when all its rows are good; rows of other schemas do not matter.  So
     it is, whenever the loop returns.

  4. **Repeated names** (`tableMetadata_unambiguous_iff`) — the columns recorded are those of every row
     of the name exactly when its rows decode alike.

  Mathlib-free.
-/
import FlightSql.Reference
import FlightSql.TableMetadata

set_option linter.unusedVariables false

namespace FlightSql

open Arrow Lib

/-! ## The rows of an answer -/

/-- A schema name as a cell. -/
def schemaCell : Option String → PyValue
  | none => .none
  | some s => .str s

/-- **What a GetTables table holds**: nonempty names, schema names or nulls, and serialized schemas. -/
structure GetTablesRows (asPy : AsPy) (table : Table) (rows : List TableMetadataRow) : Prop where
  names : table.columnValues asPy "table_name" = .ok (rows.map fun row => .str row.name)
  nonempty : ∀ row ∈ rows, row.name ≠ ""
  schemas : optionalColumn asPy table "db_schema_name" = .ok (rows.map fun row => schemaCell row.rowSchema)
  serialized : optionalColumn asPy table "table_schema" = .ok (rows.map TableMetadataRow.serialized)
  present : ∀ row ∈ rows, row.hasTableSchema = decide ("table_schema" ∈ table.columnNames)
  /-- The types can be read, where there are any. -/
  types : "table_type" ∈ table.columnNames → ∃ values, table.columnValues asPy "table_type" = .ok values

/-- **A well-formed table of an answer**, with its rows. -/
structure GetTablesTable (asPy : AsPy) where
  table : Table
  rows : List TableMetadataRow
  reads : GetTablesRows asPy table rows

/-- The tables of an answer. -/
def tablesOf {asPy : AsPy} (answer : List (GetTablesTable asPy)) : List Table :=
  answer.map GetTablesTable.table

/-- All its rows, over all endpoints. -/
def rowsOfAnswer {asPy : AsPy} (answer : List (GetTablesTable asPy)) : List TableMetadataRow :=
  answer.flatMap GetTablesTable.rows

/-- The rows a requested schema admits. -/
def admittedRows (requestedSchema : Option String) (rows : List TableMetadataRow) :
    List TableMetadataRow :=
  rows.filter fun row => admits requestedSchema (schemaCell row.rowSchema)

/-- The rows of a name. -/
def rowsOf (rows : List TableMetadataRow) (name : String) : List TableMetadataRow :=
  rows.filter fun row => row.name = name

theorem mem_rowsOf {rows : List TableMetadataRow} {name : String} {row : TableMetadataRow} :
    row ∈ rowsOf rows name ↔ row ∈ rows ∧ row.name = name := by
  rw [rowsOf, List.mem_filter, decide_eq_true_eq]

/-- The columns a row's own schema has, when it is there, bytes-like, and decodes. -/
def TableMetadataRow.decoded (openStream : PyValue → Except Exn Schema) (row : TableMetadataRow) :
    Option (List ColumnSpec) :=
  if row.hasTableSchema = true ∧ isBytesLike row.serialized = true then
    match openStream row.serialized with
    | .ok schema => some (columnSpecs schema)
    | .error _ => none
  else none

/-! ## The parsing loop -/

section Parsing

variable {openStream : PyValue → Except Exn Schema}

/-- A turn on a good row of a name not ruled out. -/
theorem parseTableSchemaRow_good {state : ParsedSchemas} {row : TableMetadataRow}
    {columns : List ColumnSpec} (hvalid : row.name ∉ state.invalid)
    (hdecoded : row.decoded openStream = some columns) :
    parseTableSchemaRow openStream state row =
      .ok ⟨state.parsed.set row.name columns, state.invalid⟩ := by
  rw [TableMetadataRow.decoded] at hdecoded
  by_cases hbytes : row.hasTableSchema = true ∧ isBytesLike row.serialized = true
  · rw [if_pos hbytes] at hdecoded
    obtain ⟨hpresent, hbytes⟩ := hbytes
    have hnone : row.serialized ≠ .none := by
      intro hnone
      rw [hnone] at hbytes
      cases hbytes
    rw [parseTableSchemaRow, if_neg (by simp [hvalid, hpresent, hnone]), if_neg (by simp [hbytes])]
    cases hopen : openStream row.serialized with
    | ok schema =>
      rw [hopen] at hdecoded
      cases hdecoded
      rfl
    | error e =>
      rw [hopen] at hdecoded
      cases hdecoded
  · rw [if_neg hbytes] at hdecoded
    cases hdecoded

/-- A turn on a bad row, or on any row of a name ruled out, rules the name out. -/
theorem parseTableSchemaRow_bad {state state' : ParsedSchemas} {row : TableMetadataRow}
    (hbad : row.name ∈ state.invalid ∨ row.decoded openStream = none)
    (h : parseTableSchemaRow openStream state row = .ok state') : state' = state.reject row.name := by
  rw [parseTableSchemaRow] at h
  split at h
  · cases h
    rfl
  · rename_i hready
    obtain ⟨hvalid, hready⟩ := not_or.mp hready
    obtain ⟨hpresent, hnone⟩ := not_or.mp hready
    split at h
    · cases h
      rfl
    · rename_i hbytes
      have hbad := hbad.resolve_left hvalid
      rw [TableMetadataRow.decoded, if_pos ⟨by simpa using hpresent, by simpa using hbytes⟩] at hbad
      cases hopen : openStream row.serialized with
      | ok schema =>
        rw [hopen] at hbad
        cases hbad
      | error e =>
        rw [hopen] at h
        by_cases he : isDecodeError e = true
        · simp only [he, if_true] at h
          cases h
          rfl
        · simp only [he] at h
          cases h

/-- **The invariant of the parsing loop** after some rows. -/
structure ParsedSoFar (openStream : PyValue → Except Exn Schema) (ambiguous : List String)
    (done : List TableMetadataRow) (state : ParsedSchemas) : Prop where
  /-- A name is ruled out for being ambiguous or for one bad row. -/
  invalid : ∀ name, name ∈ state.invalid ↔
    name ∈ ambiguous ∨ ∃ row ∈ rowsOf done name, row.decoded openStream = none
  /-- Any other has the columns of its last row. -/
  parsed : ∀ name, name ∉ state.invalid →
    state.parsed.get? name = (rowsOf done name).getLast?.bind (TableMetadataRow.decoded openStream)

theorem rowsOf_append_singleton (done : List TableMetadataRow) (row : TableMetadataRow)
    (name : String) :
    rowsOf (done ++ [row]) name =
      if row.name = name then rowsOf done name ++ [row] else rowsOf done name := by
  rw [rowsOf, List.filter_append]
  by_cases h : row.name = name
  · rw [if_pos h]
    simp [rowsOf, h]
  · rw [if_neg h]
    simp [rowsOf, h]

/-- One turn keeps the invariant. -/
theorem ParsedSoFar.step {ambiguous : List String} {done : List TableMetadataRow}
    {state state' : ParsedSchemas} {row : TableMetadataRow}
    (h : ParsedSoFar openStream ambiguous done state)
    (hrow : parseTableSchemaRow openStream state row = .ok state') :
    ParsedSoFar openStream ambiguous (done ++ [row]) state' := by
  by_cases hgood : row.name ∉ state.invalid ∧ row.decoded openStream ≠ none
  · obtain ⟨hvalid, hdecoded⟩ := hgood
    obtain ⟨columns, hdecoded⟩ := Option.ne_none_iff_exists'.mp hdecoded
    rw [parseTableSchemaRow_good hvalid hdecoded] at hrow
    cases hrow
    constructor
    · intro name
      rw [h.invalid, rowsOf_append_singleton]
      by_cases hname : row.name = name
      · rw [if_pos hname]
        -- the row itself is good, so it adds no bad one
        have hmem : (∃ r ∈ rowsOf done name ++ [row], r.decoded openStream = none) ↔
            ∃ r ∈ rowsOf done name, r.decoded openStream = none := by
          simp [hdecoded]
        rw [hmem]
      · rw [if_neg hname]
    · intro name hinvalid
      show (state.parsed.set row.name columns).get? name = _
      rw [Dict.get?_set, rowsOf_append_singleton]
      by_cases hname : row.name = name
      · rw [if_pos hname, if_pos hname, List.getLast?_concat]
        exact hdecoded.symm
      · rw [if_neg hname, if_neg hname]
        exact h.parsed name hinvalid
  · have hbad : row.name ∈ state.invalid ∨ row.decoded openStream = none := by
      rcases Classical.em (row.name ∈ state.invalid) with hin | hin
      · exact Or.inl hin
      · exact Or.inr (Classical.not_not.mp fun hdecoded => hgood ⟨hin, hdecoded⟩)
    have hstate := parseTableSchemaRow_bad hbad hrow
    subst hstate
    constructor
    · intro name
      show name ∈ row.name :: state.invalid ↔ _
      rw [List.mem_cons, h.invalid, rowsOf_append_singleton]
      by_cases hname : row.name = name
      · rw [if_pos hname]
        constructor
        · intro _
          rcases hbad with hin | hdecoded
          · rw [hname, h.invalid] at hin
            rcases hin with hin | ⟨r, hr, hdecoded⟩
            · exact Or.inl hin
            · exact Or.inr ⟨r, List.mem_append_left _ hr, hdecoded⟩
          · exact Or.inr ⟨row, List.mem_append_right _ List.mem_cons_self, hdecoded⟩
        · exact fun _ => Or.inl hname.symm
      · rw [if_neg hname]
        exact or_iff_right (Ne.symm hname)
    · intro name hinvalid
      have hname : row.name ≠ name := fun hname => hinvalid (hname ▸ List.mem_cons_self)
      have hvalid : name ∉ state.invalid := fun hin => hinvalid (List.mem_cons_of_mem _ hin)
      show (state.parsed.erase row.name).get? name = _
      rw [Dict.get?_erase, if_neg hname, rowsOf_append_singleton, if_neg hname]
      exact h.parsed name hvalid

/-- The loop stands at its start. -/
theorem parsedSoFar_start (ambiguous : List String) :
    ParsedSoFar openStream ambiguous [] ⟨.empty, ambiguous⟩ :=
  ⟨fun name => by simp [rowsOf], fun name _ => rfl⟩

/-- The columns of a name, from all its rows. -/
def usableColumns (openStream : PyValue → Except Exn Schema) (rows : List TableMetadataRow)
    (requestedSchema : Option String) (name : String) : Option (List ColumnSpec) :=
  if name ∈ ambiguousNames rows requestedSchema ∨
      (rowsOf rows name).any (fun row => row.decoded openStream = none) = true then none
  else (rowsOf rows name).getLast?.bind (TableMetadataRow.decoded openStream)

/-- **What the loop finds**, in closed form. -/
theorem parseTableSchemaRows_get? {rows : List TableMetadataRow} {requestedSchema : Option String}
    {metadata : Dict String (List ColumnSpec)}
    (h : parseTableSchemaRows openStream rows requestedSchema = .ok metadata) (name : String) :
    metadata.get? name = usableColumns openStream rows requestedSchema name := by
  obtain ⟨state, hloop, hresult⟩ := Outcome.bind_eq_ok h
  cases hresult
  have hend := Outcome.foldlM_invariant
    (I := ParsedSoFar openStream (ambiguousNames rows requestedSchema))
    (fun done state row state' hI hrow => hI.step hrow)
    (parsedSoFar_start (ambiguousNames rows requestedSchema)) hloop
  rw [List.nil_append] at hend
  have hinvalid : name ∈ state.invalid ↔ name ∈ ambiguousNames rows requestedSchema ∨
      (rowsOf rows name).any (fun row => row.decoded openStream = none) = true := by
    rw [hend.invalid, List.any_eq_true]
    simp only [decide_eq_true_eq]
  rw [Dict.get?_filterKeys, usableColumns]
  by_cases hname : name ∈ state.invalid
  · rw [if_neg (by simpa using hname), if_pos (hinvalid.mp hname)]
  · rw [if_pos (by simpa using hname), if_neg fun h => hname (hinvalid.mpr h)]
    exact hend.parsed name hname

/-- Two schemas under one name, while none was requested. -/
theorem mem_ambiguousNames {rows : List TableMetadataRow} {requestedSchema : Option String}
    {name : String} : name ∈ ambiguousNames rows requestedSchema ↔
      requestedSchema = none ∧ ∃ row ∈ rowsOf rows name, ∃ row' ∈ rowsOf rows name,
        row.rowSchema ≠ row'.rowSchema := by
  have hmany : (fromKeys ((rowsOf rows name).map TableMetadataRow.rowSchema)).length > 1 ↔
      ∃ row ∈ rowsOf rows name, ∃ row' ∈ rowsOf rows name, row.rowSchema ≠ row'.rowSchema := by
    rw [gt_iff_lt, one_lt_length_fromKeys_iff]
    simp only [List.mem_map]
    constructor
    · rintro ⟨_, ⟨row, hrow, rfl⟩, _, ⟨row', hrow', rfl⟩, hne⟩
      exact ⟨row, hrow, row', hrow', hne⟩
    · rintro ⟨row, hrow, row', hrow', hne⟩
      exact ⟨_, ⟨row, hrow, rfl⟩, _, ⟨row', hrow', rfl⟩, hne⟩
  rw [ambiguousNames, List.mem_filter, mem_fromKeys, decide_eq_true_eq]
  show _ ∧ requestedSchema = none ∧
    (fromKeys ((rowsOf rows name).map TableMetadataRow.rowSchema)).length > 1 ↔ _
  rw [hmany]
  constructor
  · exact fun h => h.2
  · rintro ⟨hnone, row, hrow, hpair⟩
    obtain ⟨hmem, hname⟩ := mem_rowsOf.mp hrow
    exact ⟨List.mem_map.mpr ⟨row, hmem, hname⟩, hnone, row, hrow, hpair⟩

/-- Every row of a name decodes, and no two name different schemas while none was requested. -/
structure Qualified (openStream : PyValue → Except Exn Schema) (rows : List TableMetadataRow)
    (requestedSchema : Option String) (name : String) : Prop where
  decodes : ∀ row ∈ rowsOf rows name, ∃ columns, row.decoded openStream = some columns
  oneSchema : requestedSchema = none →
    ∀ row ∈ rowsOf rows name, ∀ row' ∈ rowsOf rows name, row.rowSchema = row'.rowSchema

/-- The columns of a qualified name are those of its last row. -/
theorem usableColumns_qualified {rows : List TableMetadataRow} {requestedSchema : Option String}
    {name : String} (h : Qualified openStream rows requestedSchema name) :
    usableColumns openStream rows requestedSchema name =
      (rowsOf rows name).getLast?.bind (TableMetadataRow.decoded openStream) := by
  rw [usableColumns, if_neg ?_]
  rintro (hambiguous | hbad)
  · obtain ⟨hnone, row, hrow, row', hrow', hne⟩ := mem_ambiguousNames.mp hambiguous
    exact hne (h.oneSchema hnone row hrow row' hrow')
  · obtain ⟨row, hrow, hbad⟩ := List.any_eq_true.mp hbad
    obtain ⟨columns, hdecoded⟩ := h.decodes row hrow
    rw [decide_eq_true_eq, hdecoded] at hbad
    cases hbad

/-- **A name has columns** when it is reported and qualified. -/
theorem usableColumns_isSome_iff {rows : List TableMetadataRow} {requestedSchema : Option String}
    {name : String} : (∃ columns, usableColumns openStream rows requestedSchema name = some columns) ↔
      rowsOf rows name ≠ [] ∧ Qualified openStream rows requestedSchema name := by
  constructor
  · rintro ⟨columns, h⟩
    rw [usableColumns] at h
    split at h
    · cases h
    · rename_i hgood
      obtain ⟨hunambiguous, hgood⟩ := not_or.mp hgood
      refine ⟨?_, ?_, ?_⟩
      · intro hnil
        rw [hnil] at h
        cases h
      · intro row hrow
        apply Option.ne_none_iff_exists'.mp
        intro hbad
        exact hgood (List.any_eq_true.mpr ⟨row, hrow, decide_eq_true hbad⟩)
      · intro hnone row hrow row' hrow'
        apply Classical.byContradiction
        intro hne
        exact hunambiguous (mem_ambiguousNames.mpr ⟨hnone, row, hrow, row', hrow', hne⟩)
  · rintro ⟨hsome, hqualified⟩
    rw [usableColumns_qualified hqualified, List.getLast?_eq_some_getLast hsome]
    exact hqualified.decodes _ (List.getLast_mem hsome)

/-- The stream of a row is opened: it is there, and nothing has ruled its name out. -/
def Opened (openStream : PyValue → Except Exn Schema) (ambiguous : List String)
    (before : List TableMetadataRow) (row : TableMetadataRow) : Prop :=
  row.hasTableSchema = true ∧ isBytesLike row.serialized = true ∧ row.name ∉ ambiguous ∧
    ∀ row' ∈ rowsOf before row.name, row'.decoded openStream ≠ none

/-- **Whatever is opened decodes, or is refused with an error the loop names.** -/
def OpensAsExpected (openStream : PyValue → Except Exn Schema) (rows : List TableMetadataRow)
    (requestedSchema : Option String) : Prop :=
  ∀ before row after, rows = before ++ row :: after →
    Opened openStream (ambiguousNames rows requestedSchema) before row →
    ∀ e, openStream row.serialized = .error e → isDecodeError e = true

/-- **When a turn returns**: exactly if it does not open a stream that is refused otherwise. -/
theorem ParsedSoFar.returns_iff {ambiguous : List String} {done : List TableMetadataRow}
    {state : ParsedSchemas} (h : ParsedSoFar openStream ambiguous done state) (row : TableMetadataRow) :
    (∃ state', parseTableSchemaRow openStream state row = .ok state') ↔
      (Opened openStream ambiguous done row →
        ∀ e, openStream row.serialized = .error e → isDecodeError e = true) := by
  have hvalid : row.name ∉ state.invalid ↔ row.name ∉ ambiguous ∧
      ∀ row' ∈ rowsOf done row.name, row'.decoded openStream ≠ none := by
    rw [h.invalid, not_or]
    simp only [not_exists, not_and, Ne]
  rw [parseTableSchemaRow]
  by_cases hskipped : row.name ∈ state.invalid ∨ row.hasTableSchema = false ∨ row.serialized = .none
  · rw [if_pos hskipped]
    refine iff_of_true ⟨_, rfl⟩ ?_
    rintro ⟨hpresent, hbytes, hname⟩
    rcases hskipped with hinvalid | habsent | hnone
    · exact absurd hinvalid (hvalid.mpr hname)
    · rw [hpresent] at habsent
      cases habsent
    · rw [hnone] at hbytes
      cases hbytes
  · rw [if_neg hskipped]
    obtain ⟨hname, hpresent⟩ := not_or.mp hskipped
    by_cases hbytes : isBytesLike row.serialized = false
    · rw [if_pos hbytes]
      refine iff_of_true ⟨_, rfl⟩ ?_
      rintro ⟨-, hyes, -⟩
      rw [hbytes] at hyes
      cases hyes
    · rw [if_neg hbytes]
      have hopened : Opened openStream ambiguous done row :=
        ⟨by simpa using (not_or.mp hpresent).1, by simpa using hbytes, hvalid.mp hname⟩
      cases hopen : openStream row.serialized with
      | ok schema => exact iff_of_true ⟨_, rfl⟩ fun _ e he => by cases he
      | error e =>
        by_cases he : isDecodeError e = true
        · refine iff_of_true ⟨state.reject row.name, by simp only [he, if_true]⟩ ?_
          rintro - e' ⟨⟩
          exact he
        · refine iff_of_false ?_ fun hexpected => he (hexpected hopened e rfl)
          rintro ⟨state', hturn⟩
          simp only [he] at hturn
          cases hturn

/-- **When the loop returns.** -/
theorem parseTableSchemaRows_returns_iff (rows : List TableMetadataRow) (requestedSchema : Option String) :
    (∃ metadata, parseTableSchemaRows openStream rows requestedSchema = .ok metadata) ↔
      OpensAsExpected openStream rows requestedSchema := by
  refine Iff.trans ?_ (Outcome.foldlM_returns_iff
    (I := ParsedSoFar openStream (ambiguousNames rows requestedSchema))
    (fun done state row state' hI hrow => hI.step hrow)
    (fun done state row hI => hI.returns_iff row) (parsedSoFar_start (ambiguousNames rows requestedSchema)))
  constructor
  · rintro ⟨metadata, h⟩
    obtain ⟨state, hstate, -⟩ := Outcome.bind_eq_ok h
    exact ⟨state, hstate⟩
  · rintro ⟨state, hstate⟩
    refine ⟨state.parsed.filterKeys fun name => name ∉ state.invalid, ?_⟩
    rw [parseTableSchemaRows, hstate]
    rfl

end Parsing

/-! ## The whole answer -/

section Answer

variable {rt : Runtime} {requestedSchema : Option String}

/-- **The answer says what its admitted rows say.** -/
structure AnswerSpec (openStream : PyValue → Except Exn Schema) (requestedSchema : Option String)
    (rows : List TableMetadataRow) (result : TableMetadataResult) : Prop where
  names : result.tableNames = fromKeys (rows.map TableMetadataRow.name)
  /-- A name has the columns of its last row, if it is qualified, and otherwise none. -/
  columns : ∀ name, result.columns.get? name = usableColumns openStream rows requestedSchema name
  /-- The flag says that every name has columns. -/
  supported : result.includedSchemaSupported = true ↔
    ∀ name ∈ result.tableNames, name ∈ result.columns.keys

theorem answerSpec_empty (openStream : PyValue → Except Exn Schema)
    (requestedSchema : Option String) : AnswerSpec openStream requestedSchema [] .empty where
  names := rfl
  columns := fun name => by
    have hnone : rowsOf [] name = [] := rfl
    rw [usableColumns, hnone]
    split <;> rfl
  supported := by simp [TableMetadataResult.empty]

/-- `len(metadata) == len(table_names)` says that every name is a key. -/
theorem size_eq_iff {names : List String} (hnames : names.Nodup) {d : Dict String (List ColumnSpec)}
    (hkeys : d.keys ⊆ names) : d.size = names.length ↔ ∀ name ∈ names, name ∈ d.keys := by
  rw [← Dict.length_keys]
  constructor
  · intro hlength name hname
    exact subset_of_nodup_of_length_le d.nodup_keys hkeys (by omega) hname
  · intro hall
    have hle := d.nodup_keys.length_le_of_subset hkeys
    have hge := hnames.length_le_of_subset hall
    omega

/-- The names of the rows are the keys of what parsing them finds, and more. -/
theorem keys_subset {openStream : PyValue → Except Exn Schema} {rows : List TableMetadataRow}
    {metadata : Dict String (List ColumnSpec)}
    (h : parseTableSchemaRows openStream rows requestedSchema = .ok metadata) :
    metadata.keys ⊆ fromKeys (rows.map TableMetadataRow.name) := by
  intro name hname
  obtain ⟨columns, hget⟩ := Dict.mem_keys_iff.mp hname
  rw [parseTableSchemaRows_get? h] at hget
  obtain ⟨hsome, -⟩ := usableColumns_isSome_iff.mp ⟨columns, hget⟩
  obtain ⟨row, hrow⟩ := List.exists_mem_of_ne_nil _ hsome
  obtain ⟨hrow, hrowname⟩ := mem_rowsOf.mp hrow
  exact mem_fromKeys.mpr (List.mem_map.mpr ⟨row, hrow, hrowname⟩)

/-- A row without a `table_schema` column is not qualified. -/
theorem usableColumns_absent {openStream : PyValue → Except Exn Schema}
    {rows : List TableMetadataRow} (habsent : ∀ row ∈ rows, row.hasTableSchema = false)
    (name : String) : usableColumns openStream rows requestedSchema name = none := by
  rw [← Option.not_isSome_iff_eq_none, Option.isSome_iff_exists]
  intro h
  obtain ⟨hsome, hqualified⟩ := usableColumns_isSome_iff.mp h
  obtain ⟨row, hrow⟩ := List.exists_mem_of_ne_nil _ hsome
  obtain ⟨columns, hdecoded⟩ := hqualified.decodes row hrow
  rw [TableMetadataRow.decoded, if_neg (by simp [habsent row (mem_rowsOf.mp hrow).1])] at hdecoded
  cases hdecoded

/-- A row is marked by the columns of its table. -/
theorem tableRows_present {asPy : AsPy} {table : Table} {rows : List TableMetadataRow}
    (h : tableRows asPy requestedSchema table = .ok rows) :
    ∀ row ∈ rows, row.hasTableSchema = decide ("table_schema" ∈ table.columnNames) := by
  rw [tableRows] at h
  split at h
  · obtain ⟨names, -, h⟩ := Outcome.bind_eq_ok h
    obtain ⟨schemaNames, -, h⟩ := Outcome.bind_eq_ok h
    obtain ⟨serialized, -, h⟩ := Outcome.bind_eq_ok h
    obtain ⟨found, hfound, h⟩ := Outcome.bind_eq_ok h
    cases h
    intro row hrow
    obtain ⟨_, hmem, rfl⟩ := List.mem_filterMap.mp hrow
    obtain ⟨cells, -, hcells⟩ := Outcome.mem_of_mapM_eq_ok hfound hmem
    obtain ⟨tableName, -, hcells⟩ := Outcome.bind_eq_ok hcells
    obtain ⟨schemaName, -, hcells⟩ := Outcome.bind_eq_ok hcells
    split at hcells
    · cases hcells
      rfl
    · cases hcells
  · cases h

/-- Without a `table_schema` column in any table, no row has one. -/
theorem hasTableSchema_of_saw {tables : List Table} {rows : List TableMetadataRow} {saw : Bool}
    (h : tableMetadataRows rt.asPy tables requestedSchema = .ok (rows, saw)) (hsaw : saw = false) :
    ∀ row ∈ rows, row.hasTableSchema = false := by
  obtain ⟨rowss, hrowss, h⟩ := Outcome.bind_eq_ok h
  cases h
  intro row hrow
  obtain ⟨tableRows, htableRows, hrow⟩ := List.mem_flatten.mp hrow
  obtain ⟨table, htable, hread⟩ := Outcome.mem_of_mapM_eq_ok hrowss htableRows
  rw [tableRows_present hread row hrow]
  have hnone := List.any_eq_false.mp hsaw table htable
  exact Bool.eq_false_iff.mpr hnone

/-- **What an answer says, from the rows it admits.** -/
theorem tableMetadata_answer {tables : List Table} {rows : List TableMetadataRow} {saw : Bool}
    (hrows : tableMetadataRows rt.asPy tables requestedSchema = .ok (rows, saw))
    {result : TableMetadataResult} (h : tableMetadata rt tables requestedSchema = .ok result) :
    AnswerSpec rt.openStream requestedSchema rows result := by
  rw [tableMetadata] at h
  by_cases htables : tables.length = 0
  · rw [if_pos htables] at h
    cases h
    rw [List.eq_nil_of_length_eq_zero htables] at hrows
    cases hrows
    exact answerSpec_empty rt.openStream requestedSchema
  · rw [if_neg htables, hrows] at h
    have h : (if rows.length = 0 then .ok .empty else _) = Except.ok result := h
    by_cases hnone : rows.length = 0
    · rw [if_pos hnone] at h
      cases h
      rw [List.eq_nil_of_length_eq_zero hnone]
      exact answerSpec_empty rt.openStream requestedSchema
    · rw [if_neg hnone] at h
      obtain ⟨types, htypes, h⟩ := Outcome.bind_eq_ok h
      obtain ⟨metadata, hparse, h⟩ := Outcome.bind_eq_ok h
      have hsize := size_eq_iff (nodup_fromKeys (rows.map TableMetadataRow.name)) (keys_subset hparse)
      by_cases hall : metadata.size = (fromKeys (rows.map TableMetadataRow.name)).length
      · rw [if_pos hall] at h
        cases h
        exact ⟨rfl, parseTableSchemaRows_get? hparse, fun _ => hsize.mp hall, fun _ => rfl⟩
      · rw [if_neg hall] at h
        by_cases hsaw : saw = false
        · rw [if_pos hsaw] at h
          cases h
          have habsent := hasTableSchema_of_saw hrows hsaw
          refine ⟨rfl, fun name => ?_, fun h => (by cases h), fun hkeys => ?_⟩
          · rw [usableColumns_absent habsent]
            rfl
          · obtain ⟨row, hrow⟩ := List.exists_mem_of_length_pos (Nat.pos_of_ne_zero hnone)
            have hname : row.name ∈ fromKeys (rows.map TableMetadataRow.name) :=
              mem_fromKeys.mpr (List.mem_map.mpr ⟨row, hrow, rfl⟩)
            cases hkeys row.name hname
        · rw [if_neg hsaw] at h
          cases h
          exact ⟨rfl, parseTableSchemaRows_get? hparse, fun h => (by cases h),
            fun hkeys => absurd (hsize.mpr hkeys) hall⟩

/-- An answer that returns has parsed its rows. -/
theorem parseTableSchemaRows_of_answer {tables : List Table} {rows : List TableMetadataRow} {saw : Bool}
    (hrows : tableMetadataRows rt.asPy tables requestedSchema = .ok (rows, saw))
    {result : TableMetadataResult} (h : tableMetadata rt tables requestedSchema = .ok result) :
    ∃ metadata, parseTableSchemaRows rt.openStream rows requestedSchema = .ok metadata := by
  by_cases hnone : rows.length = 0
  · rw [List.eq_nil_of_length_eq_zero hnone]
    exact ⟨_, rfl⟩
  · rw [tableMetadata] at h
    by_cases htables : tables.length = 0
    · rw [List.eq_nil_of_length_eq_zero htables] at hrows
      cases hrows
      exact absurd rfl hnone
    · rw [if_neg htables, hrows] at h
      have h : (if rows.length = 0 then .ok .empty else _) = Except.ok result := h
      rw [if_neg hnone] at h
      obtain ⟨types, htypes, h⟩ := Outcome.bind_eq_ok h
      obtain ⟨metadata, hparse, h⟩ := Outcome.bind_eq_ok h
      exact ⟨metadata, hparse⟩

end Answer

/-! ## Well-formed answers -/

section WellFormed

variable {rt : Runtime} {requestedSchema : Option String}

/-- A column that can be read is there. -/
theorem mem_columnNames_of_values {asPy : AsPy} {table : Table} {name : String}
    {values : List PyValue} (h : table.columnValues asPy name = .ok values) :
    name ∈ table.columnNames := by
  obtain ⟨column, hcolumn, -⟩ := Outcome.bind_eq_ok h
  rw [Table.column] at hcolumn
  split at hcolumn
  · rename_i c hc
    have hmem : c ∈ table.columns.filter fun c => c.info.name = name := by
      rw [hc]
      exact List.mem_singleton_self c
    obtain ⟨hmem, hname⟩ := List.mem_filter.mp hmem
    exact List.mem_map.mpr ⟨c, hmem, of_decide_eq_true hname⟩
  · cases hcolumn
  · cases hcolumn

/-- A well-formed row is read, and kept if it is admitted. -/
theorem tableMetadataRow_reads {row : TableMetadataRow} (hname : row.name ≠ "") :
    tableMetadataRow requestedSchema row.hasTableSchema (.str row.name) (schemaCell row.rowSchema)
        row.serialized =
      .ok (if admits requestedSchema (schemaCell row.rowSchema) = true then some row else none) := by
  have hschema : rowSchemaName (schemaCell row.rowSchema) = .ok row.rowSchema := by
    cases row.rowSchema <;> rfl
  have hrow : rowTableName (.str row.name) = .ok row.name := if_neg hname
  rw [tableMetadataRow, hrow, hschema]
  show (if admits requestedSchema (schemaCell row.rowSchema) = true then _ else _) = _
  split <;> rfl

/-- A well-formed table is read. -/
theorem tableRows_reads {asPy : AsPy} {table : Table} {rows : List TableMetadataRow}
    (h : GetTablesRows asPy table rows) :
    tableRows asPy requestedSchema table = .ok (admittedRows requestedSchema rows) := by
  have hcells : (rows.map fun row => PyValue.str row.name).zip
      ((rows.map fun row => schemaCell row.rowSchema).zip (rows.map TableMetadataRow.serialized)) =
      rows.map fun row => (.str row.name, schemaCell row.rowSchema, row.serialized) := by
    rw [List.zip_map', List.zip_map']
  have hread : ∀ row ∈ rows, tableMetadataRow requestedSchema
      (decide ("table_schema" ∈ table.columnNames)) (.str row.name) (schemaCell row.rowSchema)
        row.serialized =
      .ok (if admits requestedSchema (schemaCell row.rowSchema) = true then some row else none) := by
    intro row hrow
    rw [← h.present row hrow]
    exact tableMetadataRow_reads (h.nonempty row hrow)
  have hloop : rows.mapM ((fun cells : PyValue × PyValue × PyValue =>
      tableMetadataRow requestedSchema (decide ("table_schema" ∈ table.columnNames)) cells.1 cells.2.1
        cells.2.2) ∘ fun row => (.str row.name, schemaCell row.rowSchema, row.serialized)) =
      .ok (rows.map fun row =>
        if admits requestedSchema (schemaCell row.rowSchema) = true then some row else none) :=
    Outcome.mapM_eq_map hread
  rw [tableRows, if_pos (mem_columnNames_of_values h.names), h.names, h.schemas, h.serialized]
  simp only [bind, Except.bind, hcells, List.mapM_map, hloop]
  rw [List.filterMap_map, admittedRows, ← List.filterMap_eq_filter]
  rfl

/-- A well-formed answer is read. -/
theorem tableMetadataRows_reads {asPy : AsPy} (requestedSchema : Option String)
    (answer : List (GetTablesTable asPy)) :
    ∃ saw, tableMetadataRows asPy (tablesOf answer) requestedSchema =
      .ok (admittedRows requestedSchema (rowsOfAnswer answer), saw) := by
  have hread : (tablesOf answer).mapM (tableRows asPy requestedSchema) =
      .ok (answer.map fun t => admittedRows requestedSchema t.rows) := by
    rw [tablesOf, List.mapM_map]
    exact Outcome.mapM_eq_map fun t _ => tableRows_reads t.reads
  have hflatten : (answer.map fun t => admittedRows requestedSchema t.rows).flatten =
      admittedRows requestedSchema (rowsOfAnswer answer) := by
    rw [rowsOfAnswer, admittedRows, List.filter_flatMap, List.flatMap]
    rfl
  refine ⟨(tablesOf answer).any fun t => "table_schema" ∈ t.columnNames, ?_⟩
  rw [tableMetadataRows, hread]
  simp only [bind, Except.bind, hflatten]

/-- Its types are read too. -/
theorem tableTypes_reads {asPy : AsPy} (requestedSchema : Option String)
    (answer : List (GetTablesTable asPy)) :
    ∃ types, tableTypes asPy (tablesOf answer) requestedSchema = .ok types := by
  rw [tableTypes]
  split
  · rename_i hall
    have hturn : ∀ types, ∀ table ∈ tablesOf answer,
        ∃ types', addTableTypes asPy requestedSchema types table = .ok types' := by
      intro types table htable
      have htype := List.all_eq_true.mp hall table htable
      obtain ⟨t, -, rfl⟩ := List.mem_map.mp htable
      obtain ⟨values, hvalues⟩ := t.reads.types (of_decide_eq_true htype)
      rw [addTableTypes, t.reads.schemas, t.reads.names, hvalues]
      exact ⟨_, rfl⟩
    obtain ⟨types, hloop⟩ := Outcome.foldlM_returns hturn .empty
    exact ⟨some types, by rw [hloop]; rfl⟩
  · exact ⟨none, rfl⟩

/-- **A well-formed answer returns** when its admitted rows can be parsed. -/
theorem tableMetadata_returns {answer : List (GetTablesTable rt.asPy)}
    (hparse : ∃ metadata, parseTableSchemaRows rt.openStream
      (admittedRows requestedSchema (rowsOfAnswer answer)) requestedSchema = .ok metadata) :
    ∃ result, tableMetadata rt (tablesOf answer) requestedSchema = .ok result := by
  obtain ⟨saw, hrows⟩ := tableMetadataRows_reads requestedSchema answer
  obtain ⟨types, htypes⟩ := tableTypes_reads requestedSchema answer
  obtain ⟨metadata, hparse⟩ := hparse
  rw [tableMetadata]
  simp only [hrows, htypes, hparse, bind, Except.bind]
  split
  · exact ⟨_, rfl⟩
  · split
    · exact ⟨_, rfl⟩
    · split
      · exact ⟨_, rfl⟩
      · split <;> exact ⟨_, rfl⟩

end WellFormed

/-! ## Which names have columns -/

/-- **What an answer reports**, in terms of its admitted rows. -/
structure ReportedSchemas (openStream : PyValue → Except Exn Schema) (requestedSchema : Option String)
    (rows : List TableMetadataRow) (result : TableMetadataResult) : Prop where
  /-- Each name with a row is reported once, in the order of first occurrence. -/
  nodup : result.tableNames.Nodup
  reported : ∀ name, name ∈ result.tableNames ↔ ∃ row ∈ rows, row.name = name
  ordered : result.tableNames.Pairwise fun name name' =>
    (rows.map TableMetadataRow.name).idxOf name < (rows.map TableMetadataRow.name).idxOf name'
  /-- It has columns when all its rows decode, and name one schema if none was requested. -/
  keys : ∀ name, name ∈ result.columns.keys ↔ name ∈ result.tableNames ∧
    (∀ row ∈ rows, row.name = name →
      isBytesLike row.serialized = true ∧ ∃ schema, openStream row.serialized = .ok schema) ∧
    (requestedSchema = none → ∀ row ∈ rows, ∀ row' ∈ rows, row.name = name → row'.name = name →
      row.rowSchema = row'.rowSchema)
  supported : result.includedSchemaSupported = true ↔
    ∀ name ∈ result.tableNames, name ∈ result.columns.keys

section Reported

variable {rt : Runtime}

/-- A row decodes when its cell is bytes-like and opens; a row without the column has no such cell. -/
theorem decoded_iff {openStream : PyValue → Except Exn Schema} {row : TableMetadataRow}
    (hpresent : row.hasTableSchema = false → row.serialized = .none) :
    (∃ columns, row.decoded openStream = some columns) ↔
      isBytesLike row.serialized = true ∧ ∃ schema, openStream row.serialized = .ok schema := by
  rw [TableMetadataRow.decoded]
  constructor
  · rintro ⟨columns, h⟩
    split at h
    · rename_i hready
      refine ⟨hready.2, ?_⟩
      cases hopen : openStream row.serialized with
      | ok schema => exact ⟨schema, rfl⟩
      | error e =>
        rw [hopen] at h
        cases h
    · cases h
  · rintro ⟨hbytes, schema, hopen⟩
    have hhas : row.hasTableSchema = true := by
      cases hhas : row.hasTableSchema with
      | true => rfl
      | false =>
        rw [hpresent hhas] at hbytes
        cases hbytes
    rw [if_pos ⟨hhas, hbytes⟩, hopen]
    exact ⟨_, rfl⟩

/-- The rows of a table without a `table_schema` column have no serialized schema. -/
theorem serialized_absent {asPy : AsPy} {table : Table} {rows : List TableMetadataRow}
    (h : GetTablesRows asPy table rows) :
    ∀ row ∈ rows, row.hasTableSchema = false → row.serialized = .none := by
  intro row hrow habsent
  have hcolumn : "table_schema" ∉ table.columnNames := by
    rw [h.present row hrow] at habsent
    exact of_decide_eq_false habsent
  have hserialized := h.serialized
  rw [optionalColumn, if_neg hcolumn] at hserialized
  have hmem : row.serialized ∈ List.replicate table.numRows PyValue.none := by
    rw [Except.ok.inj hserialized]
    exact List.mem_map_of_mem hrow
  exact (List.mem_replicate.mp hmem).2

/-- The answer's own account, read as what it reports. -/
theorem AnswerSpec.reportedSchemas {openStream : PyValue → Except Exn Schema}
    {requestedSchema : Option String} {rows : List TableMetadataRow} {result : TableMetadataResult}
    (h : AnswerSpec openStream requestedSchema rows result)
    (habsent : ∀ row ∈ rows, row.hasTableSchema = false → row.serialized = .none) :
    ReportedSchemas openStream requestedSchema rows result := by
  have hreported : ∀ name, name ∈ result.tableNames ↔ ∃ row ∈ rows, row.name = name := by
    intro name
    rw [h.names, mem_fromKeys, List.mem_map]
  refine {
    nodup := by
      rw [h.names]
      exact nodup_fromKeys _
    reported := hreported
    ordered := by
      rw [h.names]
      exact pairwise_fromKeys _
    keys := fun name => ?_
    supported := h.supported }
  rw [Dict.mem_keys_iff, h.columns, usableColumns_isSome_iff, hreported]
  constructor
  · rintro ⟨hsome, hqualified⟩
    obtain ⟨row, hrow⟩ := List.exists_mem_of_ne_nil _ hsome
    refine ⟨⟨row, mem_rowsOf.mp hrow⟩, ?_, ?_⟩
    · intro row hrow hname
      exact (decoded_iff (habsent row hrow)).mp (hqualified.decodes row (mem_rowsOf.mpr ⟨hrow, hname⟩))
    · intro hnone row hrow row' hrow' hname hname'
      exact hqualified.oneSchema hnone row (mem_rowsOf.mpr ⟨hrow, hname⟩) row'
        (mem_rowsOf.mpr ⟨hrow', hname'⟩)
  · rintro ⟨⟨row, hrow, hname⟩, hdecodes, hone⟩
    refine ⟨List.ne_nil_of_mem (mem_rowsOf.mpr ⟨hrow, hname⟩), ?_, ?_⟩
    · intro row hrow
      obtain ⟨hrow, hname⟩ := mem_rowsOf.mp hrow
      exact (decoded_iff (habsent row hrow)).mpr (hdecodes row hrow hname)
    · intro hnone row hrow row' hrow'
      obtain ⟨hrow, hname⟩ := mem_rowsOf.mp hrow
      obtain ⟨hrow', hname'⟩ := mem_rowsOf.mp hrow'
      exact hone hnone row hrow row' hrow' hname hname'

/-- **What a GetTables answer returns is what its admitted rows say**, and nothing else matters to it: rows
    of other schemas may come, go and move. -/
theorem tableMetadata_reportedSchemas (rt : Runtime) (requestedSchema : Option String)
    (answer : List (GetTablesTable rt.asPy)) {result : TableMetadataResult}
    (hresult : tableMetadata rt (tablesOf answer) requestedSchema = .ok result) :
    ReportedSchemas rt.openStream requestedSchema
      (admittedRows requestedSchema (rowsOfAnswer answer)) result ∧
    ∀ answer' : List (GetTablesTable rt.asPy),
      admittedRows requestedSchema (rowsOfAnswer answer') =
        admittedRows requestedSchema (rowsOfAnswer answer) →
      ∃ result', tableMetadata rt (tablesOf answer') requestedSchema = .ok result' ∧
        result'.tableNames = result.tableNames ∧
        (∀ name, result'.columns.get? name = result.columns.get? name) ∧
        result'.includedSchemaSupported = result.includedSchemaSupported := by
  obtain ⟨saw, hrows⟩ := tableMetadataRows_reads requestedSchema answer
  have hspec := tableMetadata_answer hrows hresult
  constructor
  · refine hspec.reportedSchemas ?_
    intro row hrow
    obtain ⟨t, -, hmem⟩ := List.mem_flatMap.mp (List.mem_filter.mp hrow).1
    exact serialized_absent t.reads row hmem
  · intro answer' hsame
    obtain ⟨saw', hrows'⟩ := tableMetadataRows_reads requestedSchema answer'
    have hparse := parseTableSchemaRows_of_answer hrows hresult
    rw [← hsame] at hparse
    obtain ⟨result', hresult'⟩ := tableMetadata_returns hparse
    have hspec' := tableMetadata_answer hrows' hresult'
    rw [hsame] at hspec'
    have hnames : result'.tableNames = result.tableNames := hspec'.names.trans hspec.names.symm
    have hcolumns : ∀ name, result'.columns.get? name = result.columns.get? name := by
      intro name
      rw [hspec'.columns, hspec.columns]
    have hkeys : ∀ name, name ∈ result'.columns.keys ↔ name ∈ result.columns.keys := by
      intro name
      rw [Dict.mem_keys_iff, Dict.mem_keys_iff, hcolumns]
    refine ⟨result', hresult', hnames, hcolumns, Bool.eq_iff_iff.mpr ?_⟩
    rw [hspec'.supported, hspec.supported, hnames]
    exact forall₂_congr fun name _ => hkeys name

/-- **A GetTables answer is reported**: the call returns, what it returns is what the admitted rows say,
    and an answer with the same admitted rows is reported alike. -/
def ReportsAnswer (rt : Runtime) (requestedSchema : Option String)
    (answer : List (GetTablesTable rt.asPy)) : Prop :=
  ∃ result, tableMetadata rt (tablesOf answer) requestedSchema = .ok result ∧
    ReportedSchemas rt.openStream requestedSchema
      (admittedRows requestedSchema (rowsOfAnswer answer)) result ∧
    ∀ answer' : List (GetTablesTable rt.asPy),
      admittedRows requestedSchema (rowsOfAnswer answer') =
        admittedRows requestedSchema (rowsOfAnswer answer) →
      ∃ result', tableMetadata rt (tablesOf answer') requestedSchema = .ok result' ∧
        result'.tableNames = result.tableNames ∧
        (∀ name, result'.columns.get? name = result.columns.get? name) ∧
        result'.includedSchemaSupported = result.includedSchemaSupported

/-- **When a GetTables answer is reported**: exactly if no stream that is opened for one of its admitted
    rows is refused with an error the parsing loop does not name. -/
theorem tableMetadata_reportsAnswer_iff (rt : Runtime) (requestedSchema : Option String)
    (answer : List (GetTablesTable rt.asPy)) :
    ReportsAnswer rt requestedSchema answer ↔
      OpensAsExpected rt.openStream (admittedRows requestedSchema (rowsOfAnswer answer))
        requestedSchema := by
  rw [← parseTableSchemaRows_returns_iff]
  constructor
  · rintro ⟨result, hresult, -⟩
    obtain ⟨saw, hrows⟩ := tableMetadataRows_reads requestedSchema answer
    exact parseTableSchemaRows_of_answer hrows hresult
  · intro hparse
    obtain ⟨result, hresult⟩ := tableMetadata_returns hparse
    exact ⟨result, hresult, tableMetadata_reportedSchemas rt requestedSchema answer hresult⟩

end Reported

/-! ## An answer that is not reported -/

/-- A GetTables table of names, schemas and serialized schemas. -/
def namesTable (rows : List (String × Option String × PyValue)) : Table :=
  Table.ofColumns rows.length
    [("table_name", .string, rows.map fun row => .str row.1),
      ("db_schema_name", .string, rows.map fun row => schemaCell row.2.1),
      ("table_schema", .binary, rows.map fun row => row.2.2)]
    (by simp)

/-- Its rows. -/
def namesRows (rows : List (String × Option String × PyValue)) : List TableMetadataRow :=
  rows.map fun row => ⟨row.1, row.2.1, row.2.2, true⟩

/-- A bit width no integer has. -/
def widthNotImplemented : Exn :=
  ⟨.arrow .notImplemented, "Integers with more than 64 bits not implemented"⟩

/-- The streams of one byte, and one whose schema has such a width. -/
def openWidth : PyValue → Except Exn Schema
  | .bytes [65] => .error widthNotImplemented
  | value => openByte value

/-- The reference runtime with these streams. -/
def Runtime.widths : Runtime := { Runtime.reference with openStream := openWidth }

/-- A good row, one broken among good ones, one without a schema, and one with that width. -/
def widthRows : List (String × Option String × PyValue) :=
  [("orders", some "shop", .bytes [1]), ("audit", some "shop", .bytes [2]),
    ("audit", some "shop", .bytes [0]), ("log", none, .none), ("events", some "shop", .bytes [65])]

def widthTable : GetTablesTable Runtime.widths.asPy where
  table := namesTable widthRows
  rows := namesRows widthRows
  reads := {
    names := rfl
    nonempty := by decide
    schemas := rfl
    serialized := rfl
    present := by decide
    types := fun htypes => absurd htypes (by decide) }

/-- **One schema that is not implemented** takes the whole listing down, where a broken one costs its own
    name only. -/
theorem tableMetadata_widthNotImplemented :
    tableMetadata .widths (tablesOf [widthTable]) none = .error widthNotImplemented ∧
      ¬ReportsAnswer .widths none [widthTable] := by
  have hraise : tableMetadata .widths (tablesOf [widthTable]) none = .error widthNotImplemented := rfl
  refine ⟨hraise, ?_⟩
  rintro ⟨result, hresult, -⟩
  cases hraise.symm.trans hresult

/-- Without it the answer is reported. -/
example : (tableMetadata .decoding [namesTable (widthRows.take 4)] none).map
    (fun result => (result.tableNames, result.columns.keys, result.includedSchemaSupported)) =
      .ok (["orders", "audit", "log"], ["orders"], false) := rfl

/-! ## Names that repeat -/

/-- **Included schemas are unambiguous**: the columns recorded for a name are those of every row of it,
    they do not depend on the order of the rows, and the flag promises as much of every name. -/
structure UnambiguousSchemas (rt : Runtime) (requestedSchema : Option String)
    (rows : List TableMetadataRow) (result : TableMetadataResult) : Prop where
  columns : ∀ name columns, result.columns.get? name = some columns →
    ∀ row ∈ rowsOf rows name, row.decoded rt.openStream = some columns
  order : ∀ tables' rows' saw' result',
    tableMetadataRows rt.asPy tables' requestedSchema = .ok (rows', saw') →
    tableMetadata rt tables' requestedSchema = .ok result' → rows'.Perm rows →
    ∀ name, result'.columns.get? name = result.columns.get? name
  supported : result.includedSchemaSupported = true → ∀ name ∈ result.tableNames,
    ∃ columns, ∀ row ∈ rowsOf rows name, row.decoded rt.openStream = some columns

/-- The rows of every name that keeps its columns decode alike. -/
def DecodeAlike (rt : Runtime) (requestedSchema : Option String) (rows : List TableMetadataRow) : Prop :=
  ∀ name, Qualified rt.openStream rows requestedSchema name →
    ∀ row ∈ rowsOf rows name, ∀ row' ∈ rowsOf rows name,
      row.decoded rt.openStream = row'.decoded rt.openStream

section Repeated

variable {rt : Runtime} {requestedSchema : Option String} {rows rows' : List TableMetadataRow}

theorem perm_rowsOf (h : rows'.Perm rows) (name : String) : (rowsOf rows' name).Perm (rowsOf rows name) :=
  h.filter _

theorem Qualified.perm {name : String} (h : rows'.Perm rows)
    (hq : Qualified rt.openStream rows requestedSchema name) :
    Qualified rt.openStream rows' requestedSchema name where
  decodes := fun row hrow => hq.decodes row ((perm_rowsOf h name).mem_iff.mp hrow)
  oneSchema := fun hnone row hrow row' hrow' => hq.oneSchema hnone row
    ((perm_rowsOf h name).mem_iff.mp hrow) row' ((perm_rowsOf h name).mem_iff.mp hrow')

/-- The columns recorded are those of one of the rows. -/
theorem usableColumns_of_row {name : String} {columns : List ColumnSpec}
    (h : usableColumns rt.openStream rows requestedSchema name = some columns) :
    Qualified rt.openStream rows requestedSchema name ∧
      ∃ row ∈ rowsOf rows name, row.decoded rt.openStream = some columns := by
  obtain ⟨hsome, hqualified⟩ := usableColumns_isSome_iff.mp ⟨columns, h⟩
  rw [usableColumns_qualified hqualified, List.getLast?_eq_some_getLast hsome] at h
  exact ⟨hqualified, _, List.getLast_mem hsome, h⟩

/-- Where rows decode alike, the columns recorded are those of every row. -/
theorem DecodeAlike.columns (halike : DecodeAlike rt requestedSchema rows) {name : String}
    {columns : List ColumnSpec}
    (h : usableColumns rt.openStream rows requestedSchema name = some columns) :
    ∀ row ∈ rowsOf rows name, row.decoded rt.openStream = some columns := by
  obtain ⟨hqualified, row', hrow', hdecoded⟩ := usableColumns_of_row h
  intro row hrow
  rw [halike name hqualified row hrow row' hrow', hdecoded]

/-- Where rows decode alike, their order does not matter. -/
theorem DecodeAlike.order (halike : DecodeAlike rt requestedSchema rows) (hperm : rows'.Perm rows)
    (name : String) : usableColumns rt.openStream rows' requestedSchema name =
      usableColumns rt.openStream rows requestedSchema name := by
  have hmem : ∀ row, row ∈ rowsOf rows' name ↔ row ∈ rowsOf rows name := fun row =>
    (perm_rowsOf hperm name).mem_iff
  cases h : usableColumns rt.openStream rows requestedSchema name with
  | some columns =>
    obtain ⟨hqualified, row, hrow, -⟩ := usableColumns_of_row h
    have hsome : rowsOf rows' name ≠ [] := List.ne_nil_of_mem ((hmem row).mpr hrow)
    obtain ⟨columns', hcolumns'⟩ := usableColumns_isSome_iff.mpr ⟨hsome, hqualified.perm hperm⟩
    obtain ⟨-, row', hrow', hdecoded⟩ := usableColumns_of_row hcolumns'
    rw [hcolumns', ← hdecoded]
    exact halike.columns h row' ((hmem row').mp hrow')
  | none =>
    cases h' : usableColumns rt.openStream rows' requestedSchema name with
    | none => rfl
    | some columns' =>
      obtain ⟨hqualified, row, hrow, -⟩ := usableColumns_of_row h'
      have hsome : rowsOf rows name ≠ [] := List.ne_nil_of_mem ((hmem row).mp hrow)
      obtain ⟨columns, hcolumns⟩ := usableColumns_isSome_iff.mpr ⟨hsome, hqualified.perm hperm.symm⟩
      rw [h] at hcolumns
      cases hcolumns

/-- **Included schemas are unambiguous exactly when** no name that keeps its columns has two rows that
    decode differently. -/
theorem tableMetadata_unambiguous_iff {tables : List Table} {saw : Bool} {result : TableMetadataResult}
    (hrows : tableMetadataRows rt.asPy tables requestedSchema = .ok (rows, saw))
    (hresult : tableMetadata rt tables requestedSchema = .ok result) :
    UnambiguousSchemas rt requestedSchema rows result ↔ DecodeAlike rt requestedSchema rows := by
  have hspec := tableMetadata_answer hrows hresult
  constructor
  · intro h name hqualified row hrow row' hrow'
    obtain ⟨columns, hcolumns⟩ := usableColumns_isSome_iff.mpr ⟨List.ne_nil_of_mem hrow, hqualified⟩
    rw [← hspec.columns] at hcolumns
    rw [h.columns name columns hcolumns row hrow, h.columns name columns hcolumns row' hrow']
  · intro halike
    refine ⟨?_, ?_, ?_⟩
    · intro name columns hcolumns
      rw [hspec.columns] at hcolumns
      exact halike.columns hcolumns
    · intro tables' rows' saw' result' hrows' hresult' hperm name
      have hspec' := tableMetadata_answer hrows' hresult'
      rw [hspec'.columns, hspec.columns]
      exact halike.order hperm name
    · intro hsupported name hname
      obtain ⟨columns, hcolumns⟩ := Dict.mem_keys_iff.mp (hspec.supported.mp hsupported name hname)
      rw [hspec.columns] at hcolumns
      exact ⟨columns, halike.columns hcolumns⟩

end Repeated

/-- One table twice in one schema, with different columns. -/
def repeatedRows : List (String × Option String × PyValue) :=
  [("orders", some "shop", .bytes [1]), ("orders", some "shop", .bytes [2])]

/-- Its answer: the columns of the second row, and the flag set. -/
def repeatedResult : TableMetadataResult :=
  ⟨["orders"], some (Dict.empty.set "orders" [⟨"name", .bigint, true⟩]), true, none⟩

theorem tableMetadata_repeated :
    tableMetadataRows Runtime.decoding.asPy [namesTable repeatedRows] none =
        .ok (namesRows repeatedRows, true) ∧
      tableMetadata .decoding [namesTable repeatedRows] none = .ok repeatedResult ∧
      ¬UnambiguousSchemas .decoding none (namesRows repeatedRows) repeatedResult := by
  refine ⟨rfl, rfl, fun h => ?_⟩
  have hfirst := h.columns "orders" [⟨"name", .bigint, true⟩] rfl _ List.mem_cons_self
  revert hfirst
  decide

/-- Two rows of one table that agree. -/
def agreeingRows : List (String × Option String × PyValue) :=
  [("orders", some "shop", .bytes [1]), ("orders", none, .bytes [1])]

/-- Its answer. -/
def agreeingResult : TableMetadataResult :=
  ⟨["orders"], some (Dict.empty.set "orders" [⟨"id", .bigint, true⟩]), true, none⟩

theorem tableMetadata_unambiguous_agreeing :
    UnambiguousSchemas .decoding (some "shop") (namesRows agreeingRows) agreeingResult := by
  have hrows : tableMetadataRows Runtime.decoding.asPy [namesTable agreeingRows] (some "shop") =
      .ok (namesRows agreeingRows, true) := rfl
  have hresult : tableMetadata .decoding [namesTable agreeingRows] (some "shop") =
      .ok agreeingResult := rfl
  refine (tableMetadata_unambiguous_iff hrows hresult).mpr ?_
  have hall : ∀ row ∈ namesRows agreeingRows,
      row.decoded Runtime.decoding.openStream = some [⟨"id", .bigint, true⟩] := by decide
  intro name _ row hrow row' hrow'
  rw [hall row (mem_rowsOf.mp hrow).1, hall row' (mem_rowsOf.mp hrow').1]

end FlightSql
