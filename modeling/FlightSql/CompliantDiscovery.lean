/-
  Discovery on servers that follow the Flight SQL catalog rule.

  1. **The rule** (`Compliant`) — a server has a fixed content; a request without a catalog is answered
     from all of it, a request that names one from the rows of that catalog, and GetCatalogs lists
     the catalogs.  How an answer is laid out is the server's business: `layout` makes the tables of a
     reply out of the other fields of the request and the rows.

  2. **What a call should return** (`Call.expected`) — computed from the unscoped answers alone, with no
     connection, no discovery and no history.

  3. **What a discovery comes to** (`Content.discovery`) — a catalog, none, or an exception of the settings
     query.  It takes place at the first call that FINDS NOTHING: whose first request has an empty
     unscoped answer.

  4. **Requests** — before the discovery (`Undecided`) a request is answered unscoped, unless it finds
     nothing; then, and ever after (`Decided`), it is answered under the catalog resolved.
     `Call.yields` composes the requests of a call, whichever of these its first one is.

  5. **Every run** (`discovery_invisible`) — a call after any run gives what it should exactly if it is not
     misled (`NotMisled`): no discovery has taken place, or the catalog resolved hides nothing it asks for.

  Mathlib-free.
-/
import FlightSql.AdvisoryProbes

set_option linter.unusedVariables false

namespace FlightSql

open Arrow Lib

/-! ## The rule -/

/-- **A table a server has**. -/
structure ServerTable where
  catalog : Option String
  dbSchema : Option String
  name : String
  serialized : PyValue

/-- **What a server has**: its catalogs, its schemas with their catalogs, its tables. -/
structure Content where
  catalogs : List String
  schemas : List (Option String × String)
  tables : List ServerTable

/-- The catalog field of a request: unset it does not narrow, set it keeps that catalog's rows. -/
def ofCatalog (field : Option String) (catalog : Option String) : Bool :=
  match field with
  | none => true
  | some c => catalog = some c

namespace Content

/-- The schema names of an answer. -/
def schemaNames (content : Content) (field : Option String) : List PyValue :=
  (content.schemas.filter fun s => ofCatalog field s.1).map fun s => .str s.2

/-- The tables of an answer. -/
def tablesIn (content : Content) (field : Option String) : List ServerTable :=
  content.tables.filter fun t => ofCatalog field t.catalog

/-- The catalogs as the driver lists them: the nonempty names. -/
def listed (content : Content) : List PyValue :=
  (content.catalogs.map PyValue.str).filter PyValue.truthy

end Content

/-- **A server that follows the catalog rule**: its answers come from `content` at all times, and the
    settings query always comes to `settings`, whatever that is. -/
structure Compliant (rt : Runtime) (srv : Server) (content : Content)
    (layout : TablesRequest → List ServerTable → List Table)
    (settings : Except Exn (List PyValue)) : Prop where
  tables : ∀ {w : World} (field : Option String) (request : TablesRequest), w.clientClosed = false →
    (fetch srv (.getTables field request.dbSchemaFilterPattern request.tableNameFilterPattern
      request.includeSchema) w).1 = .ok (layout request (content.tablesIn field))
  schemas : ∀ {w : World} (field : Option String), w.clientClosed = false →
    ∃ tables, (fetch srv (.getDbSchemas field none) w).1 = .ok tables ∧
      Probe.schemas.read rt tables = .ok (content.schemaNames field)
  catalogs : ∀ {w : World}, w.clientClosed = false →
    ∃ tables, (fetch srv .getCatalogs w).1 = .ok tables ∧ Probe.catalogs.read rt tables = .ok content.listed
  settings : ∀ {w : World}, w.clientClosed = false → (probe rt srv .settings w).1 = settings

/-! ## What a call should return -/

/-- **What a metadata call returns**. -/
inductive CallResult where
  | schemaNames (names : List PyValue)
  | tableNames (names : List String)
  | metadata (result : TableMetadataResult)
  | columns (columns : List ColumnSpec)

/-- What the call returns or raises from a world. -/
def Call.outcome (rt : Runtime) (srv : Server) (w : World) : Call → Except Exn CallResult
  | .getSchemaNames => (flightsqlGetSchemaNames rt srv w).1.map .schemaNames
  | .getTableNames schema => (flightsqlGetTableNames rt srv schema w).1.map .tableNames
  | .getTableMetadata schema => (flightsqlGetTableMetadata rt srv schema w).1.map .metadata
  | .getTableMetadataForTable tableName schema =>
    (flightsqlGetTableMetadataForTable rt srv tableName schema w).1.map .metadata
  | .getColumns tableName schema => (flightsqlGetColumns rt srv tableName schema w).1.map .columns

section Expected

variable (schemas : Except Exn (List PyValue))
  (tables : Option String → TablesRequest → Except Exn TableMetadataResult)

/-- The schema names, each once. -/
def expectedSchemaNames : Except Exn (List PyValue) := do
  let names ← schemas
  checkHashable names
  .ok (fromKeys names)

/-- Names and included schemas; names alone if there are none with them. -/
def expectedMetadata (schema : Option String) : Except Exn TableMetadataResult := do
  let result ← tables schema ⟨none, schema, true⟩
  if result.tableNames = [] ∧ result.noColumns = true then do
    let namesOnly ← tables schema ⟨none, schema, false⟩
    if namesOnly.tableNames ≠ [] then .ok ⟨namesOnly.tableNames, none, false, namesOnly.tableTypes⟩
    else .ok result
  else .ok result

/-- The same for one table. -/
def expectedForTable (tableName : String) (schema : Option String) : Except Exn TableMetadataResult := do
  let result ← tables schema ⟨some tableName, schema, true⟩
  if result.tableNames ≠ [] then .ok result
  else do
    let names ← tables schema ⟨some tableName, schema, false⟩
    if names.tableNames.filter (fun name => name = tableName) ≠ [] then
      .ok ⟨names.tableNames.filter fun name => name = tableName, none, false, none⟩
    else .ok result

/-- The columns of one table in its result. -/
def columnsFor (tableName : String) (result : TableMetadataResult) : List ColumnSpec :=
  match result.columnsByName with
  | none => []
  | some metadata => (metadata.get? tableName).getD []

/-- **What a call makes of the answers to its own requests**, `schemas` to GetDbSchemas and `tables` to
    GetTables. -/
def Call.expected : Call → Except Exn CallResult
  | .getSchemaNames => ((expectedSchemaNames schemas).mapError translated).map .schemaNames
  | .getTableNames schema =>
    ((tables schema ⟨none, schema, false⟩).mapError translated).map fun result => .tableNames result.tableNames
  | .getTableMetadata schema => ((expectedMetadata tables schema).mapError translated).map .metadata
  | .getTableMetadataForTable tableName schema =>
    ((expectedForTable tables tableName schema).mapError translated).map .metadata
  | .getColumns tableName schema =>
    ((expectedForTable tables tableName schema).mapError translated).map fun result =>
      .columns (columnsFor tableName result)

/-- The request a call starts with, if that is a GetTables; else it is a GetDbSchemas. -/
def Call.firstTables : Call → Option (Option String × TablesRequest)
  | .getSchemaNames => none
  | .getTableNames schema => some (schema, ⟨none, schema, false⟩)
  | .getTableMetadata schema => some (schema, ⟨none, schema, true⟩)
  | .getTableMetadataForTable tableName schema => some (schema, ⟨some tableName, schema, true⟩)
  | .getColumns tableName schema => some (schema, ⟨some tableName, schema, true⟩)

/-- **A call finds nothing**: the answer to the request it starts with is empty. -/
def Call.FindsNothing (call : Call) : Prop :=
  match call.firstTables with
  | none => schemas = .ok []
  | some (schema, request) => ∃ result, tables schema request = .ok result ∧ result.tableNames = []

end Expected

/-! ## What the discovery resolves -/

/-- The catalog of the one listed, or of the settings; none where the settings query fails tolerably. -/
def Content.resolution (content : Content) (settings : Except Exn (List PyValue)) :
    Except Exn (Option PyValue) :=
  if (fromKeys content.listed).length = 1 then .ok content.listed.head?
  else if content.listed = [] then .ok none
  else
    match settings with
    | .ok values => .ok (listedDefault content.listed values)
    | .error e => if isProbeError e then .ok none else .error e

/-- **What a discovery comes to**: unscoped requests are answered where a schema is listed. -/
def Content.discovery (content : Content) (settings : Except Exn (List PyValue)) :
    Except Exn (Option PyValue) :=
  if content.schemas = [] then content.resolution settings else .ok none

/-- The catalog field of a request under a catalog. -/
def scopeOf : Option PyValue → Option String
  | some (.str s) => some s
  | _ => none

section Answers

variable (rt : Runtime) (content : Content) (layout : TablesRequest → List ServerTable → List Table)

/-- The answer to a GetTables with a catalog field, read. -/
def tablesUnder (field requestedSchema : Option String) (request : TablesRequest) :
    Except Exn TableMetadataResult :=
  tableMetadata rt (layout request (content.tablesIn field)) requestedSchema

/-- **What a call makes of the answers with a catalog field**. -/
def Call.answerUnder (field : Option String) (call : Call) : Except Exn CallResult :=
  call.expected (.ok (content.schemaNames field)) (tablesUnder rt content layout field)

/-- The unscoped answer to its first request is empty. -/
def Call.FindsNothingUnscoped (call : Call) : Prop :=
  call.FindsNothing (.ok (content.schemaNames none)) (tablesUnder rt content layout none)

/-- **A call is not misled** after some others: if one of them or itself finds nothing, what it asks for is
    the same under the catalog a discovery resolves.  Where the settings query raises what no probe may, it
    does not find nothing itself. -/
def NotMisled (settings : Except Exn (List PyValue)) (before : List Call) (call : Call) : Prop :=
  match content.discovery settings with
  | .ok resolved => (∃ c ∈ before ++ [call], c.FindsNothingUnscoped rt content layout) →
      call.answerUnder rt content layout (scopeOf resolved) = call.answerUnder rt content layout none
  | .error e => call.FindsNothingUnscoped rt content layout →
      call.answerUnder rt content layout none = .error (translated e)

end Answers

namespace Content

theorem schemaNames_eq_nil_iff {content : Content} :
    content.schemaNames none = [] ↔ content.schemas = [] := by
  have hall : content.schemas.filter (fun s => ofCatalog none s.1) = content.schemas :=
    List.filter_eq_self.mpr fun _ _ => rfl
  rw [Content.schemaNames, hall, List.map_eq_nil_iff]

theorem checkHashable_listed (content : Content) : checkHashable content.listed = .ok () := by
  have hfind : content.listed.find? (fun v => v.hashable = false) = none := by
    rw [List.find?_eq_none]
    intro v hv
    obtain ⟨s, -, rfl⟩ := List.mem_map.mp (List.mem_filter.mp hv).1
    exact Bool.false_ne_true
  rw [checkHashable, hfind]

/-- Where a scope hides nothing, an answer under it is the unscoped one. -/
theorem tablesIn_of_all {content : Content} {s : String} (h : ∀ t ∈ content.tables, t.catalog = some s) :
    content.tablesIn (some s) = content.tablesIn none := by
  apply List.filter_congr
  intro t ht
  exact decide_eq_true (h t ht)

theorem schemaNames_of_nil {content : Content} (h : content.schemas = []) (field : Option String) :
    content.schemaNames field = [] := by
  rw [Content.schemaNames, h]
  rfl

/-- A catalog resolved is a string: it comes from the listed ones. -/
theorem resolution_str {content : Content} {settings : Except Exn (List PyValue)} {c : PyValue}
    (h : content.resolution settings = .ok (some c)) : ∃ s, c = .str s := by
  have hlisted : c ∈ content.listed → ∃ s, c = .str s := by
    intro hc
    obtain ⟨s, -, rfl⟩ := List.mem_map.mp (List.mem_filter.mp hc).1
    exact ⟨s, rfl⟩
  unfold Content.resolution at h
  split at h
  · exact hlisted (List.mem_of_mem_head? (Except.ok.inj h))
  · split at h
    · cases h
    · split at h
      · next values =>
        have hdefault := Except.ok.inj h
        unfold listedDefault at hdefault
        split at hdefault
        · split at hdefault
          · cases hdefault
            exact ⟨_, rfl⟩
          · cases hdefault
        · cases hdefault
      · split at h <;> cases h

end Content

/-- **Where a discovery does no harm, no call is misled**: a schema is listed, or no catalog is resolved, or
    every table is in the one that is. -/
theorem notMisled_of_content {rt : Runtime} {content : Content}
    {layout : TablesRequest → List ServerTable → List Table} {settings : Except Exn (List PyValue)}
    (h : content.schemas ≠ [] ∨ content.resolution settings = .ok none ∨
      ∃ s, content.resolution settings = .ok (some (.str s)) ∧ ∀ t ∈ content.tables, t.catalog = some s)
    (before : List Call) (call : Call) : NotMisled rt content layout settings before call := by
  by_cases hschemas : content.schemas = []
  · have hdiscovery : content.discovery settings = content.resolution settings := if_pos hschemas
    rw [NotMisled, hdiscovery]
    rcases h with h | h | ⟨s, h, htables⟩
    · exact absurd hschemas h
    · rw [h]
      exact fun _ => rfl
    · -- nothing is outside the catalog resolved
      have htablesIn : tablesUnder rt content layout (some s) = tablesUnder rt content layout none := by
        funext requestedSchema request
        rw [tablesUnder, tablesUnder, Content.tablesIn_of_all htables]
      rw [h]
      intro _
      show call.answerUnder rt content layout (some s) = _
      rw [Call.answerUnder, Call.answerUnder, htablesIn, Content.schemaNames_of_nil hschemas,
        Content.schemaNames_of_nil hschemas]
  · have hdiscovery : content.discovery settings = .ok none := if_neg hschemas
    rw [NotMisled, hdiscovery]
    exact fun _ => rfl

/-- **Nor is one before which every call found something**, and which does so itself. -/
theorem notMisled_of_found {rt : Runtime} {content : Content}
    {layout : TablesRequest → List ServerTable → List Table} {settings : Except Exn (List PyValue)}
    {before : List Call} {call : Call}
    (h : ∀ c ∈ before ++ [call], ¬c.FindsNothingUnscoped rt content layout) :
    NotMisled rt content layout settings before call := by
  rw [NotMisled]
  cases content.discovery settings with
  | ok resolved => exact fun ⟨c, hc, hnothing⟩ => absurd hnothing (h c hc)
  | error e => exact fun hnothing => absurd hnothing (h call (List.mem_append_right _ List.mem_cons_self))

/-! ## Requests to a compliant server -/

/-- What a probe comes to, from its tables. -/
theorem probe_fst {rt : Runtime} {srv : Server} {p : Probe} {w : World} {tables : List Table}
    (h : (fetch srv p.command w).1 = .ok tables) : (probe rt srv p w).1 = p.read rt tables := by
  rw [probe]
  rcases hfetch : fetch srv p.command w with ⟨r, w'⟩
  rw [hfetch] at h
  obtain rfl : r = .ok tables := h
  rw [Run.bind_ok hfetch]
  rfl

theorem scopedRequest_fst {α : Type} {rt : Runtime} {srv : Server} {command : Option String → Command}
    {finish : List Table → Except Exn α} {catalog : Option PyValue} {field : Option String} {w : World}
    {tables : List Table} (hfield : catalogField rt catalog = .ok field)
    (h : (fetch srv (command field) w).1 = .ok tables) :
    (scopedRequest rt srv command finish catalog w).1 = finish tables := by
  rw [scopedRequest, hfield]
  show ((fetch srv (command field) >>= fun tables => Run.ofExcept (finish tables)) w).1 = _
  rcases hfetch : fetch srv (command field) w with ⟨r, w'⟩
  rw [hfetch] at h
  obtain rfl : r = .ok tables := h
  rw [Run.bind_ok hfetch]
  rfl

/-- A string is the field of its name. -/
theorem catalogField_str (rt : Runtime) (s : String) : catalogField rt (some (.str s)) = .ok (some s) := by
  rw [catalogField, rt.protobufString_str]
  rfl

namespace Compliant

variable {rt : Runtime} {srv : Server} {content : Content}
  {layout : TablesRequest → List ServerTable → List Table} {settings : Except Exn (List PyValue)}

/-- A probe with this answer leaves its events and nothing else. -/
theorem probe_run {p : Probe} {w : World} {r : Except Exn (List PyValue)} (hopen : w.clientClosed = false)
    (hr : (probe rt srv p w).1 = r) : ∃ evs, probe rt srv p w = (r, w.append evs) := by
  obtain ⟨evs, r', hrun, -⟩ := probe_probed rt srv p hopen
  rw [hrun] at hr
  exact ⟨evs, by rw [hrun, ← hr]⟩

theorem schemaNames_run (h : Compliant rt srv content layout settings) {w : World}
    (hopen : w.clientClosed = false) :
    ∃ evs, FlightSql.schemaNames rt srv none w = (.ok (content.schemaNames none), w.append evs) := by
  obtain ⟨tables, hfetch, hread⟩ := h.schemas (w := w) none hopen
  rw [schemaNames_none]
  exact probe_run hopen (by rw [probe_fst hfetch, hread])

theorem catalogNames_run (h : Compliant rt srv content layout settings) {w : World}
    (hopen : w.clientClosed = false) :
    ∃ evs, FlightSql.catalogNames rt srv w = (.ok content.listed, w.append evs) := by
  obtain ⟨tables, hfetch, hread⟩ := h.catalogs (w := w) hopen
  rw [catalogNames_eq]
  exact probe_run hopen (by rw [probe_fst hfetch, hread])

theorem settings_run (h : Compliant rt srv content layout settings) {w : World}
    (hopen : w.clientClosed = false) : ∃ evs, FlightSql.settings rt srv w = (settings, w.append evs) := by
  rw [settings_eq]
  exact probe_run hopen (h.settings hopen)

/-- **The choice among the listed catalogs** comes to the resolution: it is written down, left undecided
    where no catalog is resolved, or raised. -/
theorem chooseCatalog_run (h : Compliant rt srv content layout settings) {w : World}
    (hopen : w.clientClosed = false) :
    (∃ resolved evs, content.resolution settings = .ok resolved ∧
      (chooseCatalog rt srv content.listed w = (.ok resolved.isSome, (w.append evs).decide resolved) ∨
        resolved = none ∧ chooseCatalog rt srv content.listed w = (.ok false, w.append evs))) ∨
    ∃ e evs, content.resolution settings = .error e ∧
      chooseCatalog rt srv content.listed w = (.error e, w.append evs) := by
  have hhash := content.checkHashable_listed
  by_cases hone : (fromKeys content.listed).length = 1
  · -- the only catalog
    refine Or.inl ⟨content.listed.head?, [], if_pos hone, Or.inl ?_⟩
    rw [chooseCatalog, hhash, World.append_nil]
    show (if (fromKeys content.listed).length = 1 then _ else _ : Method Bool) w = _
    rw [if_pos hone]
    rfl
  · by_cases hnil : content.listed = []
    · refine Or.inl ⟨none, [], (if_neg hone).trans (if_pos hnil), Or.inl ?_⟩
      rw [hnil, World.append_nil]
      rfl
    · -- several catalogs: the default settings choose
      have hmany : 1 < (fromKeys content.listed).length := by
        have hpos : (fromKeys content.listed).length ≠ 0 := fun hzero =>
          hnil (fromKeys_eq_nil.mp (List.eq_nil_of_length_eq_zero hzero))
        omega
      have hresolution : content.resolution settings = _ := (if_neg hone).trans (if_neg hnil)
      rw [hresolution, chooseCatalog_several hhash hmany]
      obtain ⟨evs, hsettings⟩ := h.settings_run hopen
      cases settings with
      | ok values =>
        have hdefault : defaultCatalog rt srv content.listed w =
            (.ok (listedDefault content.listed values), w.append evs) := by
          rw [defaultCatalog, Run.bind_ok hsettings]
          rfl
        rw [hdefault]
        exact Or.inl ⟨_, evs, rfl, Or.inl rfl⟩
      | error e =>
        have hdefault : defaultCatalog rt srv content.listed w = (.error e, w.append evs) := by
          rw [defaultCatalog, Run.bind_error hsettings]
        have hfailed : chooseDefault (.error e) (w.append evs) = (Probe.settings.failed e).apply (w.append evs) :=
          probeFailed_run .settings e (w.append evs)
        rw [hdefault, hfailed, Probe.failed]
        by_cases he : isProbeError e = true
        · -- no catalog; that is final unless the failure is transient
          simp only [he, if_true]
          refine Or.inl ⟨none, evs, rfl, ?_⟩
          by_cases htransient : Probe.settings.transient e = true
          · rw [if_pos htransient]
            exact Or.inr ⟨rfl, rfl⟩
          · rw [if_neg htransient]
            exact Or.inl rfl
        · simp only [he]
          exact Or.inr ⟨e, evs, rfl, rfl⟩

end Compliant

/-! ## Before and after a discovery -/

/-- An open connection without an explicit catalog. -/
structure Catalogless (w : World) : Prop where
  client : w.clientClosed = false
  connection : w.connection.closed = false
  catalog : w.connection.catalog = none

/-- **Before any discovery**. -/
structure Undecided (w : World) : Prop extends Catalogless w where
  resolved : w.connection.resolvedCatalog = none

/-- **After one that came to `resolved`**; where that is no catalog, it may have been left undecided. -/
structure Decided (resolved : Option PyValue) (w : World) : Prop extends Catalogless w where
  resolved : w.connection.resolvedCatalog = some resolved ∨
    resolved = none ∧ w.connection.resolvedCatalog = none

theorem Undecided.append {w : World} (h : Undecided w) (evs : List Event) : Undecided (w.append evs) :=
  ⟨⟨h.client, h.connection, h.catalog⟩, h.resolved⟩

theorem Undecided.decided {w : World} (h : Undecided w) : Decided none w :=
  ⟨h.toCatalogless, Or.inr ⟨rfl, h.resolved⟩⟩

theorem Undecided.decide {w : World} (h : Undecided w) (resolved : Option PyValue) :
    Decided resolved (w.decide resolved) := ⟨⟨h.client, h.connection, h.catalog⟩, Or.inl rfl⟩

theorem Decided.append {w : World} {resolved : Option PyValue} (h : Decided resolved w) (evs : List Event) :
    Decided resolved (w.append evs) := ⟨⟨h.client, h.connection, h.catalog⟩, h.resolved⟩

/-- Requests are scoped to what was resolved. -/
theorem Decided.metadataCatalog {w : World} {resolved : Option PyValue} (h : Decided resolved w) :
    w.connection.metadataCatalog = resolved := by
  rw [Connection.metadataCatalog, h.catalog]
  rcases h.resolved with hresolved | ⟨rfl, hresolved⟩
  · rw [hresolved]
  · rw [hresolved]

theorem Undecided.metadataCatalog {w : World} (h : Undecided w) : w.connection.metadataCatalog = none :=
  h.decided.metadataCatalog

section Discovery

variable {rt : Runtime} {srv : Server} {content : Content}
  {layout : TablesRequest → List ServerTable → List Table} {settings : Except Exn (List PyValue)}

/-- What is resolved is sent as its name. -/
theorem catalogField_discovery {resolved : Option PyValue}
    (h : content.discovery settings = .ok resolved) :
    catalogField rt resolved = .ok (scopeOf resolved) := by
  cases resolved with
  | none => rfl
  | some c =>
    rw [Content.discovery] at h
    split at h
    · obtain ⟨s, rfl⟩ := Content.resolution_str h
      exact catalogField_str rt s
    · cases h

/-- **A discovery comes to what it should**, from a connection without one. -/
theorem catalogFallback_discovery (hserver : Compliant rt srv content layout settings) {skip : Bool}
    (hskip : skip = true → content.schemas = []) {w : World} (hw : Undecided w) :
    (∃ resolved w', content.discovery settings = .ok resolved ∧
      catalogFallback rt srv skip w = (.ok resolved.isSome, w') ∧ Decided resolved w') ∨
    ∃ e w', content.discovery settings = .error e ∧
      catalogFallback rt srv skip w = (.error e, w') ∧ Undecided w' := by
  -- from a silent GetDbSchemas on
  have hsilent : ∀ {es evs}, SchemasSilent rt srv skip w es (w.append evs) → content.schemas = [] →
      (∃ resolved w', content.discovery settings = .ok resolved ∧
        catalogFallback rt srv skip w = (.ok resolved.isSome, w') ∧ Decided resolved w') ∨
      ∃ e w', content.discovery settings = .error e ∧
        catalogFallback rt srv skip w = (.error e, w') ∧ Undecided w' := by
    intro es evs hsilent hschemas
    have hdiscovery : content.discovery settings = content.resolution settings := if_pos hschemas
    rw [catalogFallback_start rt srv skip hw.catalog hw.resolved, hsilent.probeCatalogs, hdiscovery]
    obtain ⟨evs₁, hnames⟩ := hserver.catalogNames_run (hw.append evs).client
    have hw₁ := (hw.append evs).append evs₁
    rw [probeCatalogs_ok hnames]
    rcases hserver.chooseCatalog_run hw₁.client with
      ⟨resolved, evs₂, hresolution, hrun | ⟨rfl, hrun⟩⟩ | ⟨e, evs₂, hresolution, hrun⟩
    · exact Or.inl ⟨resolved, _, hresolution, hrun, (hw₁.append evs₂).decide resolved⟩
    · exact Or.inl ⟨none, _, hresolution, hrun, (hw₁.append evs₂).decided⟩
    · exact Or.inr ⟨e, _, hresolution, hrun, hw₁.append evs₂⟩
  cases skip with
  | true =>
    have hskipped : SchemasSilent rt srv true w [] (w.append []) := by
      rw [World.append_nil]
      exact .skipped
    exact hsilent hskipped (hskip rfl)
  | false =>
    obtain ⟨evs, hnames⟩ := hserver.schemaNames_run hw.client
    by_cases hnil : content.schemaNames none = []
    · rw [hnil] at hnames
      exact hsilent (.nothing hnames) (Content.schemaNames_eq_nil_iff.mp hnil)
    · have hschemas : content.schemas ≠ [] := fun h => hnil (Content.schemaNames_eq_nil_iff.mpr h)
      have hanswered : Fruitless rt srv false w [] ((w.append evs).decide none) :=
        .answered hnames hnil
      obtain ⟨r, hrun, ⟨-, rfl⟩ | ⟨e, he, -⟩⟩ :=
        catalogFallback_fruitless hw.catalog hw.resolved hanswered
      · exact Or.inl ⟨none, _, if_neg hschemas, hrun, (hw.append evs).decide none⟩
      · cases he

/-! ## One request -/

/-- **A request of a call's own**, which the server answers by `x`, whatever catalog field it has. -/
structure AnsweredBy {α : Type} (rt : Runtime) (content : Content)
    (own : Option PyValue → Command → Prop) (ask : Option PyValue → Method α) (isEmpty : α → Prop)
    (skip : Option PyValue → Bool) (x : Option String → Except Exn α) : Prop where
  asks : Asks rt own ask isEmpty skip
  answer : ∀ {c : Option PyValue} {field : Option String} {w : World}, catalogField rt c = .ok field →
    w.clientClosed = false → (ask c w).1 = x field
  skip : skip none = true → ∀ a, x none = .ok a → isEmpty a → content.schemas = []

section AnsweredBy

variable {α : Type} {own : Option PyValue → Command → Prop} {ask : Option PyValue → Method α}
  {isEmpty : α → Prop} [DecidablePred isEmpty] {skip : Option PyValue → Bool}
  {x : Option String → Except Exn α}

omit [DecidablePred isEmpty] in
/-- Asking leaves its events and nothing else. -/
theorem AnsweredBy.ask_run (h : AnsweredBy rt content own ask isEmpty skip x) {c : Option PyValue}
    {field : Option String} {w : World} (hfield : catalogField rt c = .ok field)
    (hopen : w.clientClosed = false) : ∃ evs, ask c w = (x field, w.append evs) := by
  obtain ⟨evs, r, hrun, -⟩ := h.asks.sends c hopen
  have hanswer := h.answer hfield hopen
  rw [hrun] at hanswer
  exact ⟨evs, by rw [hrun, ← hanswer]⟩

/-- **Found**: a first request whose unscoped answer is not empty is answered by it. -/
theorem AnsweredBy.found (h : AnsweredBy rt content own ask isEmpty skip x)
    (hfound : ¬∃ a, x none = .ok a ∧ isEmpty a) :
    Run.Yields Undecided (withFallback rt srv ask isEmpty skip) (x none) Undecided := by
  intro w hw
  obtain ⟨evs, hrun⟩ := h.ask_run (c := none) rfl hw.client
  rw [withFallback, Run.bind_ok (Run.gets_run _ w), hw.metadataCatalog]
  cases hx : x none with
  | error e =>
    rw [hx] at hrun
    rw [Run.bind_error hrun]
    exact ⟨rfl, hw.append evs⟩
  | ok a =>
    rw [hx] at hrun
    rw [Run.bind_ok hrun, if_neg fun hempty => hfound ⟨a, hx, hempty⟩]
    exact ⟨rfl, hw.append evs⟩

/-- An empty one starts a discovery. -/
theorem AnsweredBy.discovers (h : AnsweredBy rt content own ask isEmpty skip x)
    (hserver : Compliant rt srv content layout settings) {a : α} (hx : x none = .ok a) (hempty : isEmpty a)
    {w : World} (hw : Undecided w) :
    ∃ w₁, Undecided w₁ ∧ withFallback rt srv ask isEmpty skip w =
      (catalogFallback rt srv (skip none) >>= fun retry =>
        if retry then do
          let connection ← Run.gets World.connection
          ask connection.metadataCatalog
        else pure a) w₁ := by
  obtain ⟨evs, hrun⟩ := h.ask_run (c := none) rfl hw.client
  rw [hx] at hrun
  refine ⟨w.append evs, hw.append evs, ?_⟩
  rw [withFallback, Run.bind_ok (Run.gets_run _ w), hw.metadataCatalog, Run.bind_ok hrun, if_pos hempty]

/-- **Nothing found**: a first request that finds nothing is answered under the catalog resolved. -/
theorem AnsweredBy.decides (h : AnsweredBy rt content own ask isEmpty skip x)
    (hserver : Compliant rt srv content layout settings) {resolved : Option PyValue}
    (hdiscovery : content.discovery settings = .ok resolved) (hnothing : ∃ a, x none = .ok a ∧ isEmpty a) :
    Run.Yields Undecided (withFallback rt srv ask isEmpty skip) (x (scopeOf resolved)) (Decided resolved) := by
  intro w hw
  obtain ⟨a, hx, hempty⟩ := hnothing
  obtain ⟨w₁, hw₁, hrun⟩ := h.discovers hserver hx hempty hw
  have hskip : skip none = true → content.schemas = [] := fun hskip => h.skip hskip a hx hempty
  rw [hrun]
  rcases catalogFallback_discovery hserver hskip hw₁ with
    ⟨resolved', w₂, hcomes, hfallback, hw₂⟩ | ⟨e, w₂, hcomes, -⟩
  · rw [hdiscovery] at hcomes
    cases hcomes
    rw [Run.bind_ok hfallback]
    cases resolved with
    | none => exact ⟨hx.symm, hw₂⟩
    | some c =>
      -- asked again, under the catalog
      obtain ⟨evs, hagain⟩ := h.ask_run (catalogField_discovery hdiscovery) hw₂.client
      rw [if_pos (show (some c).isSome = true from rfl), Run.bind_ok (Run.gets_run _ w₂), hw₂.metadataCatalog,
        hagain]
      exact ⟨rfl, hw₂.append evs⟩
  · rw [hdiscovery] at hcomes
    cases hcomes

/-- **The discovery raises**, and so does a first request that finds nothing. -/
theorem AnsweredBy.raises (h : AnsweredBy rt content own ask isEmpty skip x)
    (hserver : Compliant rt srv content layout settings) {e : Exn}
    (hdiscovery : content.discovery settings = .error e) (hnothing : ∃ a, x none = .ok a ∧ isEmpty a) :
    Run.Yields Undecided (withFallback rt srv ask isEmpty skip) (.error e) Undecided := by
  intro w hw
  obtain ⟨a, hx, hempty⟩ := hnothing
  obtain ⟨w₁, hw₁, hrun⟩ := h.discovers hserver hx hempty hw
  have hskip : skip none = true → content.schemas = [] := fun hskip => h.skip hskip a hx hempty
  rw [hrun]
  rcases catalogFallback_discovery hserver hskip hw₁ with
    ⟨resolved, w₂, hcomes, -⟩ | ⟨e', w₂, hcomes, hfallback, hw₂⟩
  · rw [hdiscovery] at hcomes
    cases hcomes
  · rw [hdiscovery] at hcomes
    cases hcomes
    rw [Run.bind_error hfallback]
    exact ⟨rfl, hw₂⟩

/-- **After a discovery** every request is answered under what was resolved. -/
theorem AnsweredBy.decided (h : AnsweredBy rt content own ask isEmpty skip x)
    (hserver : Compliant rt srv content layout settings) {resolved : Option PyValue}
    (hdiscovery : content.discovery settings = .ok resolved) :
    Run.Yields (Decided resolved) (withFallback rt srv ask isEmpty skip) (x (scopeOf resolved))
      (Decided resolved) := by
  intro w hw
  rcases hw.resolved with hresolved | ⟨rfl, hresolved⟩
  · have hsettled : w.connection.resolvedCatalog ≠ none := by
      rw [hresolved]
      exact Option.some_ne_none _
    obtain ⟨evs, hrun⟩ := h.ask_run (catalogField_discovery hdiscovery) hw.client
    rw [withFallback_eq_ask h.asks (Or.inr hsettled), hw.metadataCatalog, hrun]
    exact ⟨rfl, hw.append evs⟩
  · -- left undecided: the request may look again
    have hundecided : Undecided w := ⟨hw.toCatalogless, hresolved⟩
    by_cases hnothing : ∃ a, x none = .ok a ∧ isEmpty a
    · exact h.decides hserver hdiscovery hnothing w hundecided
    · have hfound : Run.Yields Undecided (withFallback rt srv ask isEmpty skip) (x none) Undecided :=
        h.found hnothing
      obtain ⟨hanswer, hw'⟩ := hfound w hundecided
      exact ⟨hanswer, hw'.decided⟩

end AnsweredBy

theorem getTableMetadata_answeredBy (hserver : Compliant rt srv content layout settings)
    (requestedSchema : Option String) (request : TablesRequest) :
    AnsweredBy rt content (Metadata.tables.owns rt) (fetchTableMetadata rt srv requestedSchema request)
      (fun result => result.tableNames = []) (fun _ => false)
      (fun field => tablesUnder rt content layout field requestedSchema request) where
  asks := fetchTableMetadata_asks rt srv requestedSchema request
  answer := by
    intro c field w hfield hopen
    rw [fetchTableMetadata_eq]
    exact scopedRequest_fst hfield (hserver.tables field request hopen)
  skip := fun h => nomatch h

theorem scopedSchemaNames_answeredBy (hserver : Compliant rt srv content layout settings) :
    AnsweredBy rt content (Metadata.schemas.owns rt) (schemaNames rt srv) (fun names => names = [])
      (fun c => c = none) (fun field => .ok (content.schemaNames field)) where
  asks := schemaNames_asks rt srv
  answer := by
    intro c field w hfield hopen
    obtain ⟨tables, hfetch, hread⟩ := hserver.schemas (w := w) field hopen
    rw [schemaNames_eq, scopedRequest_fst hfield hfetch, hread]
  skip := by
    intro _ names hnames hempty
    cases hnames
    exact Content.schemaNames_eq_nil_iff.mp hempty

end Discovery

/-! ## One call -/

section Calls

variable {rt : Runtime} {srv : Server} {P Q : World → Prop}

/-- A public method yields what its body does, its exceptions translated. -/
theorem connectionMethod_yields {α : Type} {m : Method α} {x : Except Exn α}
    (hP : ∀ w, P w → w.connection.closed = false) (h : Run.Yields P m x Q) :
    Run.Yields P (connectionMethod m) (x.mapError translated) Q := by
  intro w hw
  obtain ⟨hx, hI⟩ := h w hw
  rw [connectionMethod, checkClosed_open (hP w hw)]
  rcases hm : m w with ⟨e | a, w'⟩
  · rw [hm] at hx hI
    rw [translateErrors, Run.tryCatch_error hm, ← hx]
    exact ⟨rfl, hI⟩
  · rw [hm] at hx hI
    rw [translateErrors_ok hm, ← hx]
    exact ⟨rfl, hI⟩

variable {schemas : Except Exn (List PyValue)}
  {tables : Option String → TablesRequest → Except Exn TableMetadataResult}

theorem tableMetadataForTable_yields (hP : ∀ w, P w → w.connection.closed = false) {tableName : String}
    {schema : Option String}
    (hfirst : Run.Yields P (getTableMetadata rt srv schema ⟨some tableName, schema, true⟩)
      (tables schema ⟨some tableName, schema, true⟩) Q)
    (hrest : (∃ result, tables schema ⟨some tableName, schema, true⟩ = .ok result ∧ result.tableNames = []) →
      ∀ schema request, Run.Yields Q (getTableMetadata rt srv schema request) (tables schema request) Q) :
    Run.Yields P (flightsqlGetTableMetadataForTable rt srv tableName schema)
      ((expectedForTable tables tableName schema).mapError translated) Q := by
  refine connectionMethod_yields hP (hfirst.bind fun result hresult => ?_)
  refine Run.Yields.ite (fun _ => Run.Yields.pure result) fun hnone => ?_
  refine (hrest ⟨result, hresult, Classical.not_not.mp hnone⟩ _ _).bind fun names _ => ?_
  exact Run.Yields.ite (fun _ => Run.Yields.pure _) fun _ => Run.Yields.pure result

/-- **A call yields what its requests come to**: `P` holds before it, `Q` after its first request; a second
    is made only if the first finds nothing. -/
theorem Call.yields (call : Call) (hP : ∀ w, P w → w.connection.closed = false)
    (hschemas : call.firstTables = none → Run.Yields P (scopedSchemaNames rt srv) schemas Q)
    (hfirst : ∀ schema request, call.firstTables = some (schema, request) →
      Run.Yields P (FlightSql.getTableMetadata rt srv schema request) (tables schema request) Q)
    (hrest : call.FindsNothing schemas tables →
      ∀ schema request, Run.Yields Q (FlightSql.getTableMetadata rt srv schema request) (tables schema request) Q)
    {w : World} (hw : P w) :
    call.outcome rt srv w = call.expected schemas tables ∧ Q (call.run rt srv w) := by
  cases call with
  | getSchemaNames =>
    have hbody := (hschemas rfl).bind fun names _ =>
      (Run.Yields.ofExcept (checkHashable names)).bind fun _ _ => Run.Yields.pure (fromKeys names)
    obtain ⟨hx, hI⟩ := connectionMethod_yields hP hbody w hw
    exact ⟨congrArg (Except.map CallResult.schemaNames) hx, hI⟩
  | getTableNames schema =>
    have hbody := (hfirst schema _ rfl).bind fun result _ => Run.Yields.pure result.tableNames
    obtain ⟨hx, hI⟩ := connectionMethod_yields hP hbody w hw
    refine ⟨(congrArg (Except.map CallResult.tableNames) hx).trans ?_, hI⟩
    rw [Call.expected]
    cases tables schema ⟨none, schema, false⟩ <;> rfl
  | getTableMetadata schema =>
    have hbody : Run.Yields P _ (expectedMetadata tables schema) Q :=
      (hfirst schema _ rfl).bind fun result hresult =>
        Run.Yields.ite (fun hnone => (hrest ⟨result, hresult, hnone.1⟩ schema ⟨none, schema, false⟩).bind
          fun namesOnly _ => Run.Yields.ite (fun _ => Run.Yields.pure _) fun _ => Run.Yields.pure result)
          fun _ => Run.Yields.pure result
    obtain ⟨hx, hI⟩ := connectionMethod_yields hP hbody w hw
    exact ⟨congrArg (Except.map CallResult.metadata) hx, hI⟩
  | getTableMetadataForTable tableName schema =>
    obtain ⟨hx, hI⟩ := tableMetadataForTable_yields hP (hfirst schema _ rfl) hrest w hw
    exact ⟨congrArg (Except.map CallResult.metadata) hx, hI⟩
  | getColumns tableName schema =>
    obtain ⟨hx, hI⟩ := tableMetadataForTable_yields hP (hfirst schema _ rfl) hrest w hw
    rw [Call.outcome, Call.run, flightsqlGetColumns, checkClosed_open (hP w hw), Call.expected, ← hx]
    rcases hrun : flightsqlGetTableMetadataForTable rt srv tableName schema w with ⟨e | result, w'⟩
    · rw [hrun] at hI
      rw [Run.bind_error hrun]
      exact ⟨rfl, hI⟩
    · rw [hrun] at hI
      rw [Run.bind_ok hrun]
      cases hcolumns : result.columnsByName with
      | none => exact ⟨by simp only [Except.map, columnsFor, hcolumns]; rfl, hI⟩
      | some metadata => exact ⟨by simp only [Except.map, columnsFor, hcolumns]; rfl, hI⟩

end Calls

/-! ## Every run -/

section Runs

variable {rt : Runtime} {srv : Server} {content : Content}
  {layout : TablesRequest → List ServerTable → List Table} {settings : Except Exn (List PyValue)}

/-- **After a discovery** a call is answered under what was resolved. -/
theorem Call.run_decided (hserver : Compliant rt srv content layout settings)
    {resolved : Option PyValue} (hdiscovery : content.discovery settings = .ok resolved) (call : Call)
    {w : World} (hw : Decided resolved w) :
    call.outcome rt srv w = call.answerUnder rt content layout (scopeOf resolved) ∧
      Decided resolved (call.run rt srv w) := by
  have htables := fun schema request =>
    (getTableMetadata_answeredBy hserver schema request).decided hserver hdiscovery
  exact call.yields (fun w hw => hw.connection)
    (fun _ => (scopedSchemaNames_answeredBy hserver).decided hserver hdiscovery)
    (fun schema request _ => htables schema request) (fun _ => htables) hw

/-- **A first call that finds nothing** is answered so too. -/
theorem Call.run_decides (hserver : Compliant rt srv content layout settings)
    {resolved : Option PyValue} (hdiscovery : content.discovery settings = .ok resolved) {call : Call}
    (hnothing : call.FindsNothingUnscoped rt content layout) {w : World} (hw : Undecided w) :
    call.outcome rt srv w = call.answerUnder rt content layout (scopeOf resolved) ∧
      Decided resolved (call.run rt srv w) := by
  rw [Call.FindsNothingUnscoped, Call.FindsNothing] at hnothing
  refine call.yields (fun w hw => hw.connection) (fun hkind => ?_) (fun schema request hkind => ?_)
    (fun _ schema request =>
      (getTableMetadata_answeredBy hserver schema request).decided hserver hdiscovery) hw
  · rw [hkind] at hnothing
    exact (scopedSchemaNames_answeredBy hserver).decides hserver hdiscovery ⟨[], hnothing, rfl⟩
  · rw [hkind] at hnothing
    exact (getTableMetadata_answeredBy hserver schema request).decides hserver hdiscovery hnothing

/-- **A call that finds something** before a discovery is answered unscoped. -/
theorem Call.run_found (hserver : Compliant rt srv content layout settings) {call : Call}
    (hfound : ¬call.FindsNothingUnscoped rt content layout) {w : World} (hw : Undecided w) :
    call.outcome rt srv w = call.answerUnder rt content layout none ∧ Undecided (call.run rt srv w) := by
  have hfound' := hfound
  rw [Call.FindsNothingUnscoped, Call.FindsNothing] at hfound'
  refine call.yields (fun w hw => hw.connection) (fun hkind => ?_) (fun schema request hkind => ?_)
    (fun hnothing => absurd hnothing hfound) hw
  · rw [hkind] at hfound'
    refine (scopedSchemaNames_answeredBy hserver).found ?_
    rintro ⟨names, hnames, rfl⟩
    exact hfound' hnames
  · rw [hkind] at hfound'
    exact (getTableMetadata_answeredBy hserver schema request).found hfound'

/-- **A discovery that raises** raises out of a call that finds nothing, and decides nothing. -/
theorem Call.run_raises (hserver : Compliant rt srv content layout settings) {e : Exn}
    (hdiscovery : content.discovery settings = .error e) {call : Call}
    (hnothing : call.FindsNothingUnscoped rt content layout) {w : World} (hw : Undecided w) :
    call.outcome rt srv w = .error (translated e) ∧ Undecided (call.run rt srv w) := by
  rw [Call.FindsNothingUnscoped, Call.FindsNothing] at hnothing
  -- a call all of whose requests raise
  have hraised : call.expected (.error e) (fun _ _ => .error e) = .error (translated e) := by
    cases call <;> rfl
  have hsecond : ¬call.FindsNothing (.error e) fun _ _ => .error e := by
    rw [Call.FindsNothing]
    split
    · rintro ⟨⟩
    · rintro ⟨result, ⟨⟩, -⟩
  rw [← hraised]
  refine call.yields (fun w hw => hw.connection) (fun hkind => ?_) (fun schema request hkind => ?_)
    (fun h => absurd h hsecond) hw
  · rw [hkind] at hnothing
    exact (scopedSchemaNames_answeredBy hserver).raises hserver hdiscovery ⟨[], hnothing, rfl⟩
  · rw [hkind] at hnothing
    exact (getTableMetadata_answeredBy hserver schema request).raises hserver hdiscovery hnothing

/-- **Where a run stands**, `nothing` telling whether one of its calls has found nothing. -/
def Stands (content : Content) (settings : Except Exn (List PyValue)) (nothing : Prop) (w : World) : Prop :=
  match content.discovery settings with
  | .ok resolved => (nothing → Decided resolved w) ∧ (¬nothing → Undecided w)
  | .error _ => Undecided w

/-- One more call. -/
theorem Stands.run (hserver : Compliant rt srv content layout settings) {nothing : Prop} {w : World}
    (h : Stands content settings nothing w) (call : Call) :
    Stands content settings (nothing ∨ call.FindsNothingUnscoped rt content layout) (call.run rt srv w) := by
  unfold Stands at h ⊢
  cases hdiscovery : content.discovery settings with
  | ok resolved =>
    simp only [hdiscovery] at h ⊢
    by_cases hnothing : nothing
    · refine ⟨fun _ => ?_, fun hnone => absurd (Or.inl hnothing) hnone⟩
      exact (call.run_decided hserver hdiscovery (h.1 hnothing)).2
    · constructor
      · rintro (hearlier | hcall)
        · exact absurd hearlier hnothing
        · exact (Call.run_decides hserver hdiscovery hcall (h.2 hnothing)).2
      · exact fun hnone => (Call.run_found hserver (fun hcall => hnone (Or.inr hcall)) (h.2 hnothing)).2
  | error e =>
    simp only [hdiscovery] at h ⊢
    by_cases hcall : call.FindsNothingUnscoped rt content layout
    · exact (Call.run_raises hserver hdiscovery hcall h).2
    · exact (Call.run_found hserver hcall h).2

/-- **Any number of calls.** -/
theorem Stands.runCalls (hserver : Compliant rt srv content layout settings) (calls : List Call)
    {nothing : Prop} {w : World} (h : Stands content settings nothing w) :
    Stands content settings (nothing ∨ ∃ c ∈ calls, c.FindsNothingUnscoped rt content layout)
      (runCalls rt srv calls w) := by
  induction calls generalizing nothing w with
  | nil =>
    have hsame : (nothing ∨ ∃ c ∈ ([] : List Call), c.FindsNothingUnscoped rt content layout) = nothing :=
      propext ⟨fun h => h.resolve_right (by rintro ⟨c, ⟨⟩, -⟩), Or.inl⟩
    rw [hsame]
    exact h
  | cons call calls ih =>
    have hsame : (nothing ∨ ∃ c ∈ call :: calls, c.FindsNothingUnscoped rt content layout) =
        ((nothing ∨ call.FindsNothingUnscoped rt content layout) ∨
          ∃ c ∈ calls, c.FindsNothingUnscoped rt content layout) := by
      rw [or_assoc]
      exact propext (or_congr_right (by simp))
    rw [hsame]
    exact ih (h.run hserver call)

end Runs

/-- **Discovery is invisible** to a call exactly if it is not misled.  On a server that follows the catalog
    rule, with any content, layout and settings answer, a call after any run of an open connection without
    an explicit catalog returns what the unscoped answers to its own requests give, if and only if no call so
    far found nothing, or the catalog then resolved hides nothing of what it asks for. -/
theorem discovery_invisible {rt : Runtime} {srv : Server} {content : Content}
    {layout : TablesRequest → List ServerTable → List Table} {settings : Except Exn (List PyValue)}
    (hserver : Compliant rt srv content layout settings)
    {w₀ : World} (hclient : w₀.clientClosed = false) (hopen : w₀.connection.closed = false)
    (hcatalog : w₀.connection.catalog = none) (hfresh : w₀.connection.resolvedCatalog = none)
    (before : List Call) (call : Call) :
    call.outcome rt srv (runCalls rt srv before w₀) = call.answerUnder rt content layout none ↔
      NotMisled rt content layout settings before call := by
  have hw₀ : Undecided w₀ := ⟨⟨hclient, hopen, hcatalog⟩, hfresh⟩
  have hstart : Stands content settings False w₀ := by
    rw [Stands]
    split
    · exact ⟨False.elim, fun _ => hw₀⟩
    · exact hw₀
  have hbefore := hstart.runCalls hserver before
  unfold Stands at hbefore
  rw [NotMisled]
  cases hdiscovery : content.discovery settings with
  | ok resolved =>
    simp only [hdiscovery, false_or] at hbefore ⊢
    by_cases hnothing : ∃ c ∈ before ++ [call], c.FindsNothingUnscoped rt content layout
    · -- a discovery has taken place, or takes place in this call
      have hanswer : call.outcome rt srv (runCalls rt srv before w₀) =
          call.answerUnder rt content layout (scopeOf resolved) := by
        by_cases hearlier : ∃ c ∈ before, c.FindsNothingUnscoped rt content layout
        · exact (call.run_decided hserver hdiscovery (hbefore.1 hearlier)).1
        · obtain ⟨c, hc, hcall⟩ := hnothing
          rcases List.mem_append.mp hc with hc | hc
          · exact absurd ⟨c, hc, hcall⟩ hearlier
          · rw [List.mem_singleton.mp hc] at hcall
            exact (Call.run_decides hserver hdiscovery hcall (hbefore.2 hearlier)).1
      rw [hanswer]
      exact ⟨fun h _ => h, fun h => h hnothing⟩
    · have hearlier : ¬∃ c ∈ before, c.FindsNothingUnscoped rt content layout := fun ⟨c, hc, h⟩ =>
        hnothing ⟨c, List.mem_append_left _ hc, h⟩
      have hcall : ¬call.FindsNothingUnscoped rt content layout := fun h =>
        hnothing ⟨call, List.mem_append_right _ List.mem_cons_self, h⟩
      exact iff_of_true (Call.run_found hserver hcall (hbefore.2 hearlier)).1 fun h => absurd h hnothing
  | error e =>
    simp only [hdiscovery] at hbefore ⊢
    by_cases hcall : call.FindsNothingUnscoped rt content layout
    · rw [(Call.run_raises hserver hdiscovery hcall hbefore).1]
      exact ⟨fun h _ => h.symm, fun h => (h hcall).symm⟩
    · exact iff_of_true (Call.run_found hserver hcall hbefore).1 fun h => absurd h hcall

/-! ## A server with one table -/

/-- Its one catalog has no schemas, and the table is in it or in none. -/
def Content.oneTable (catalog : Option String) : Content :=
  ⟨["main"], [], [⟨catalog, none, "orders", .none⟩]⟩

/-- Every answer with rows is one table of names; under a schema there are none. -/
def oneTableLayout (request : TablesRequest) (rows : List ServerTable) : List Table :=
  match request.dbSchemaFilterPattern, rows with
  | none, _ :: _ => [.ofValues "table_name" .string [.str "orders"]]
  | _, _ => []

/-- A server with that content, without settings. -/
def Server.oneTable (catalog : Option String) : Server :=
  .fixed
    (fun
      | .getCatalogs => .ok (.ofTickets [[1]])
      | .getTables field none _ _ =>
        .ok (.ofTickets (if ofCatalog field catalog = true then [[2]] else []))
      | _ => .ok (.ofTickets []))
    (fun ticket => .ok (.ofTable (
      if ticket = [1] then .ofValues "catalog_name" .string [.str "main"]
      else .ofValues "table_name" .string [.str "orders"])))

theorem oneTable_compliant (catalog : Option String) :
    Compliant .reference (.oneTable catalog) (.oneTable catalog) oneTableLayout (.ok []) where
  tables := by
    intro w field request hopen
    obtain ⟨tablePattern, schemaPattern, includeSchema⟩ := request
    cases schemaPattern with
    | some pattern => exact fetch_fixed [] [] rfl rfl hopen
    | none =>
      cases hfield : ofCatalog field catalog with
      | true =>
        have hrows : (Content.oneTable catalog).tablesIn field = (Content.oneTable catalog).tables :=
          List.filter_eq_self.mpr fun t ht => by rw [List.mem_singleton.mp ht]; exact hfield
        rw [hrows]
        refine fetch_fixed [[2]] [.ofValues "table_name" .string [.str "orders"]] ?_ rfl hopen
        show Except.ok (FlightInfo.ofTickets (if ofCatalog field catalog = true then _ else _)) = _
        rw [if_pos hfield]
      | false =>
        have hrows : (Content.oneTable catalog).tablesIn field = [] := by
          rw [Content.tablesIn, List.filter_eq_nil_iff]
          intro t ht
          rw [List.mem_singleton.mp ht, hfield]
          exact Bool.false_ne_true
        rw [hrows]
        refine fetch_fixed [] [] ?_ rfl hopen
        show Except.ok (FlightInfo.ofTickets (if ofCatalog field catalog = true then _ else _)) = _
        rw [if_neg (by rw [hfield]; exact Bool.false_ne_true)]
  schemas := by
    intro w field hopen
    exact ⟨[], fetch_fixed [] [] rfl rfl hopen, rfl⟩
  catalogs := by
    intro w hopen
    exact ⟨_, fetch_fixed [[1]] [.ofValues "catalog_name" .string [.str "main"]] rfl rfl hopen, rfl⟩
  settings := by
    intro w hopen
    have hfetch : (fetch (.oneTable catalog) Probe.settings.command w).1 = .ok [] :=
      fetch_fixed [] [] rfl rfl hopen
    exact probe_fst hfetch

/-- The theorem at both: where the table is in the catalog that gets resolved the names are still all listed,
    and where it is in none they are as long as no call finds nothing. -/
theorem discovery_invisible_inCatalog :
    (Call.getTableNames none).outcome .reference (.oneTable (some "main"))
        (runCalls .reference (.oneTable (some "main")) [.getSchemaNames] .initial) =
        .ok (.tableNames ["orders"]) ∧
      (Call.getTableNames none).outcome .reference (.oneTable none)
        (runCalls .reference (.oneTable none) [.getTableNames none] .initial) =
        .ok (.tableNames ["orders"]) := by
  constructor
  · have hcontent : (Content.oneTable (some "main")).resolution (.ok []) = .ok (some (.str "main")) := rfl
    refine (@discovery_invisible _ _ _ _ _ (oneTable_compliant (some "main")) .initial rfl rfl rfl rfl
      [.getSchemaNames] (.getTableNames none)).mpr (notMisled_of_content (Or.inr (Or.inr ⟨"main", hcontent, ?_⟩)) _ _)
    intro t ht
    rw [List.mem_singleton.mp ht]
  · refine (@discovery_invisible _ _ _ _ _ (oneTable_compliant none) .initial rfl rfl rfl rfl
      [.getTableNames none] (.getTableNames none)).mpr (notMisled_of_found fun c hc => ?_)
    have hcall : c = .getTableNames none := by simpa using hc
    subst hcall
    rintro ⟨result, hresult, hnone⟩
    cases hresult
    cases hnone

/-- **A compliant server is scoped**: the table is in no catalog, and after the schema names, of which there
    are none, the table names leave it out. -/
theorem oneTable_scoped :
    Compliant .reference (.oneTable none) (.oneTable none) oneTableLayout (.ok []) ∧
      (Call.getTableNames none).answerUnder .reference (.oneTable none) oneTableLayout none =
        .ok (.tableNames ["orders"]) ∧
      (Call.getTableNames none).outcome .reference (.oneTable none) .initial =
        .ok (.tableNames ["orders"]) ∧
      (Call.getTableNames none).outcome .reference (.oneTable none)
          (runCalls .reference (.oneTable none) [.getSchemaNames] .initial) = .ok (.tableNames []) :=
  ⟨oneTable_compliant none, rfl, rfl, rfl⟩

end FlightSql
