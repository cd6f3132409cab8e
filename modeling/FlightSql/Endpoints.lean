/-
  Which endpoints of a FlightInfo are read.

  `_tables_from_info` reads every endpoint.  The cursor and three of the connection's methods take
  `endpoints[0]` alone.  Both are stated on one notion, `Streams srv endpoints tables`: each endpoint
  has a ticket whose stream carries the table at its place.

  `allEndpoints_iff` says when the five paths deliver what all endpoints carry all the same: when the
  tables after the first have no rows — for the dictionary of `flightsql_get_sql_info`, when they say
  nothing the first does not say.
-/
import FlightSql.Reference
import FlightSql.Cursor
import FlightSql.Connection

set_option linter.unusedVariables false

namespace FlightSql

open Arrow Lib

/-! ## Streams -/

/-- **The tables of the endpoints**: every ticket's stream gives its table, whenever it is asked. -/
def Streams (srv : Server) : List Endpoint → List Table → Prop
  | [], [] => True
  | endpoint :: endpoints, table :: tables =>
    (∃ ticket reader, endpoint.ticket = some ticket ∧ (∀ log, srv.doGet log ticket = .ok reader) ∧
      reader.readAll = some (.ok (.table table))) ∧ Streams srv endpoints tables
  | _, _ => False

/-- Reading all endpoints gives all tables. -/
theorem mapEach_streams {srv : Server} {endpoints : List Endpoint} {tables : List Table}
    (h : Streams srv endpoints tables) {w : World} (hopen : w.clientClosed = false) :
    (Run.mapEach (tableFromEndpoint srv) endpoints w).1 = .ok tables := by
  induction endpoints generalizing tables w with
  | nil =>
    cases tables with
    | nil => rfl
    | cons t ts => exact h.elim
  | cons endpoint endpoints ih =>
    cases tables with
    | nil => exact h.elim
    | cons t ts =>
      obtain ⟨⟨ticket, reader, hticket, hget, hread⟩, hrest⟩ := h
      have hone : tableFromEndpoint srv endpoint w =
          (.ok t, w.record (.doGet ticket (.ok reader))) := by
        rw [tableFromEndpoint, hticket]
        show (doGet srv ticket >>= fun reader => Run.ofExcept (readTable reader)) w = _
        rw [Run.bind_ok (doGet_ok hopen (hget w.log)), readTable, hread]
        rfl
      have htail := ih hrest (w := w.record (.doGet ticket (.ok reader))) hopen
      rw [Run.mapEach, Run.bind_ok hone]
      rcases hrun : Run.mapEach (tableFromEndpoint srv) endpoints
        (w.record (.doGet ticket (.ok reader))) with ⟨r, w'⟩
      rw [hrun] at htail
      obtain rfl : r = .ok ts := htail
      rw [Run.bind_ok hrun]
      rfl

theorem tablesFromInfo_streams {srv : Server} {info : FlightInfo} {endpoints : List Endpoint}
    {tables : List Table} (hinfo : info.endpoints = some endpoints)
    (h : Streams srv endpoints tables) {w : World} (hopen : w.clientClosed = false) :
    (tablesFromInfo srv info w).1 = .ok tables := by
  rw [tablesFromInfo, hinfo]
  exact mapEach_streams h hopen

/-- Reading `endpoints[0]` gives the first table. -/
theorem readFirstEndpoint_streams {srv : Server} {info : FlightInfo} {endpoints : List Endpoint}
    {t : Table} {ts : List Table} (hinfo : info.endpoints = some endpoints)
    (h : Streams srv endpoints (t :: ts)) {w : World} (hopen : w.clientClosed = false) :
    ∃ e, readFirstEndpoint srv info w = (.ok (.table t), w.record e) := by
  cases endpoints with
  | nil => exact h.elim
  | cons endpoint endpoints =>
    obtain ⟨⟨ticket, reader, hticket, hget, hread⟩, _⟩ := h
    have hfirst : firstTicket info = .ok ticket := by
      simp only [firstTicket, hinfo, hticket]
    exact ⟨_, readFirstEndpoint_ok hopen hfirst (hget w.log) (by rw [readAll, hread])⟩

/-- Rows of later tables are missing exactly when there are any. -/
theorem eq_append_flatten_iff {α : Type} {rows : List α} {later : List (List α)} :
    rows = rows ++ later.flatten ↔ ∀ more ∈ later, more = [] := by
  rw [List.self_eq_append_right, List.flatten_eq_nil_iff]

/-! ## The cursor -/

/-- The rows `dbapi_results` makes of a table. -/
def dbapiRows (rt : Runtime) (table : Table) : Except Exn (List (List PyValue)) :=
  (dbapiResults rt.pa rt.asPy table).map Prod.fst

theorem storeResults_results {rt : Runtime} {table : Table} {rows : List (List PyValue)}
    (h : dbapiRows rt table = .ok rows) (w : World) :
    (storeResults rt (.table table) w).2.cursor.results = rows := by
  unfold dbapiRows at h
  cases hres : dbapiResults rt.pa rt.asPy table with
  | error e =>
    rw [hres] at h
    cases h
  | ok out =>
    rw [hres] at h
    cases h
    rw [storeResults, asTable]
    show ((Run.ofExcept (dbapiResults rt.pa rt.asPy table) >>= _ : Method Unit) w).2.cursor.results = _
    rw [hres]
    rfl

/-- Closing a statement leaves the cursor alone. -/
theorem statementClose_cursor (srv : Server) (w : World) :
    (statementClose srv w).2.cursor = w.cursor := by
  have hkeep : Run.Keeps (fun w' : World => w'.cursor = w.cursor) (statementClose srv) := by
    refine checkClosed_keeps ((Run.Keeps.gets _).bind fun handle => ?_)
    refine (rpc_keeps fun w' _ hw' => hw').bind fun _ => ?_
    exact Run.Keeps.modify fun w' hw' => hw'
  exact hkeep w rfl

theorem clientClosed_keeps_prepare (rt : Runtime) (srv : Server) (query : String) :
    Run.Keeps (fun w : World => w.clientClosed = false) (prepare rt srv query) := by
  refine (rpc_keeps fun w _ hw => hw).bind fun reply => ?_
  exact (Run.Keeps.ofExcept _).bind fun statement => Run.Keeps.modify fun w hw => hw

theorem clientClosed_keeps_executeRow (rt : Runtime) (srv : Server) (params : List PyValue) :
    Run.Keeps (fun w : World => w.clientClosed = false) (executeRow rt srv params) :=
  executeRow_keeps_of rt srv params (fun w _ hw => hw) fun w _ hw => hw

section Paths

variable {rt : Runtime} {srv : Server} {info : FlightInfo} {endpoints : List Endpoint} {t : Table}
  {ts : List Table} {w : World}

/-- After a direct execute the cursor holds the rows of the first table. -/
theorem execute_direct_results (hinfo : info.endpoints = some endpoints)
    (hstreams : Streams srv endpoints (t :: ts)) (hcursor : w.cursor.closed = false)
    (hclient : w.clientClosed = false) {query : String}
    (hreply : srv.getFlightInfo w.log (.statementQuery query) = .ok info)
    {rows : List (List PyValue)} (hrows : dbapiRows rt t = .ok rows) :
    (execute rt srv query none w).2.cursor.results = rows := by
  let w₀ : World := (resetCursor w).2
  let w₁ : World := w₀.record (.flightInfo (.statementQuery query) (.ok info))
  have hexec : clientExecute srv query w₀ = (.ok info, w₁) := getFlightInfo_ok (w := w₀) hclient hreply
  obtain ⟨e, hread⟩ := readFirstEndpoint_streams hinfo hstreams (w := w₁) hclient
  rw [execute, checkClosed_open hcursor, translateErrors_snd]
  show ((do
    let info ← clientExecute srv query
    let payload ← readFirstEndpoint srv info
    storeResults rt payload : Method Unit) w₀).2.cursor.results = rows
  rw [Run.bind_ok hexec, Run.bind_ok hread]
  exact storeResults_results hrows _

/-- And so after one with parameters. -/
theorem execute_prepared_results (hinfo : info.endpoints = some endpoints)
    (hstreams : Streams srv endpoints (t :: ts)) (hcursor : w.cursor.closed = false)
    (hclient : w.clientClosed = false) {query : String} {params : List PyValue} (hne : params ≠ [])
    {w₁ w₂ : World} (hprepare : prepare rt srv query (resetCursor w).2 = (.ok (), w₁))
    (hexec : executeRow rt srv params w₁ = (.ok info, w₂)) {rows : List (List PyValue)}
    (hrows : dbapiRows rt t = .ok rows) :
    (execute rt srv query (some params) w).2.cursor.results = rows := by
  have hopen₁ : w₁.clientClosed = false := by
    have h := clientClosed_keeps_prepare rt srv query (resetCursor w).2 hclient
    rwa [hprepare] at h
  have hopen₂ : w₂.clientClosed = false := by
    have h := clientClosed_keeps_executeRow rt srv params w₁ hopen₁
    rwa [hexec] at h
  obtain ⟨e, hread⟩ := readFirstEndpoint_streams hinfo hstreams hopen₂
  have hlen : params.length ≠ 0 := fun hl => hne (List.eq_nil_of_length_eq_zero hl)
  rw [execute, checkClosed_open hcursor, translateErrors_snd]
  show ((if params.length = 0 then _
    else withPrepared rt srv query do
      let info ← executeRow rt srv params
      let payload ← readFirstEndpoint srv info
      storeResults rt payload : Method Unit) (resetCursor w).2).2.cursor.results = rows
  rw [if_neg hlen, withPrepared, Run.bind_ok hprepare, Run.withExit_snd, statementClose_cursor,
    Run.bind_ok hexec, Run.bind_ok hread]
  exact storeResults_results hrows _

/-! ## The connection -/

/-- A connection method that reads the first endpoint of one answer returns what its last step makes
    of the first table. -/
theorem connectionMethod_first {α : Type} (hinfo : info.endpoints = some endpoints)
    (hstreams : Streams srv endpoints (t :: ts)) (hopen : w.connection.closed = false)
    (hclient : w.clientClosed = false) {command : Command}
    (hreply : srv.getFlightInfo w.log command = .ok info) (finish : Payload → Except Exn α) {a : α}
    (hfinish : finish (.table t) = .ok a) :
    (connectionMethod (do
      let info ← getFlightInfo srv command
      let payload ← readFirstEndpoint srv info
      Run.ofExcept (finish payload)) w).1 = .ok a := by
  let w₁ : World := w.record (.flightInfo command (.ok info))
  obtain ⟨e, hread⟩ := readFirstEndpoint_streams hinfo hstreams (w := w₁) hclient
  have hrun : ((do
      let info ← getFlightInfo srv command
      let payload ← readFirstEndpoint srv info
      Run.ofExcept (finish payload)) : Method α) w = (.ok a, w₁.record e) := by
    rw [Run.bind_ok (getFlightInfo_ok hclient hreply), Run.bind_ok hread, hfinish]
    rfl
  rw [connectionMethod, checkClosed_open hopen, translateErrors_ok hrun]

theorem flightsqlGetPrimaryKeys_first (hinfo : info.endpoints = some endpoints)
    (hstreams : Streams srv endpoints (t :: ts)) (hopen : w.connection.closed = false)
    (hclient : w.clientClosed = false) {table : String} {schema : Option String}
    (hreply : srv.getFlightInfo w.log (.getPrimaryKeys none schema table) = .ok info)
    {rows : List (Dict String PyValue)} (hrows : t.toPylist rt.asPy = .ok rows) :
    (flightsqlGetPrimaryKeys rt srv table schema w).1 = .ok rows :=
  connectionMethod_first hinfo hstreams hopen hclient hreply (payloadRows rt) hrows

theorem flightsqlGetForeignKeys_first (hinfo : info.endpoints = some endpoints)
    (hstreams : Streams srv endpoints (t :: ts)) (hopen : w.connection.closed = false)
    (hclient : w.clientClosed = false) {table : String} {schema : Option String}
    (hreply : srv.getFlightInfo w.log (.getImportedKeys none schema table) = .ok info)
    {rows : List (Dict String PyValue)} (hrows : t.toPylist rt.asPy = .ok rows) :
    (flightsqlGetForeignKeys rt srv table schema w).1 = .ok rows :=
  connectionMethod_first hinfo hstreams hopen hclient hreply (payloadRows rt) hrows

/-- The dictionary of `flightsql_get_sql_info` is that of the first table's rows. -/
theorem flightsqlGetSqlInfo_first (hinfo : info.endpoints = some endpoints)
    (hstreams : Streams srv endpoints (t :: ts)) (hopen : w.connection.closed = false)
    (hclient : w.clientClosed = false) {ids : List Int}
    (hreply : srv.getFlightInfo w.log (.getSqlInfo ids) = .ok info)
    {rows : List (Dict String PyValue)} (hrows : t.toPylist rt.asPy = .ok rows)
    {entries : List (PyValue × PyValue)} (hentries : rows.mapM sqlInfoEntry = .ok entries) :
    (flightsqlGetSqlInfo rt srv ids w).1 = .ok (Dict.ofList entries) := by
  have hdict : sqlInfoDict rows = .ok (Dict.ofList entries) := by
    rw [sqlInfoDict, hentries]
    rfl
  have hfinish : (payloadRows rt (.table t) >>= sqlInfoDict) = .ok (Dict.ofList entries) := by
    rw [payloadRows, hrows]
    exact hdict
  have hmethod : flightsqlGetSqlInfo rt srv ids = connectionMethod (do
      let info ← getFlightInfo srv (.getSqlInfo ids)
      let payload ← readFirstEndpoint srv info
      Run.ofExcept (payloadRows rt payload >>= sqlInfoDict)) := by
    unfold flightsqlGetSqlInfo getSqlInfo
    congr 3
    funext info
    congr 1
    funext payload w'
    cases hp : payloadRows rt payload <;> rfl
  rw [hmethod]
  exact connectionMethod_first hinfo hstreams hopen hclient hreply
    (fun payload => payloadRows rt payload >>= sqlInfoDict) hfinish

end Paths

/-- Entries added at the end change no lookup exactly when the entries before already say the same. -/
theorem get?_ofList_append_iff {K V : Type} [DecidableEq K] {first later : List (K × V)} :
    (∀ k, (Dict.ofList first).get? k = (Dict.ofList (first ++ later)).get? k) ↔
      ∀ k v, (Dict.ofList later).get? k = some v → (Dict.ofList first).get? k = some v := by
  constructor
  · intro h k v hv
    rw [h k, Dict.get?_ofList_append, hv]
    rfl
  · intro h k
    rw [Dict.get?_ofList_append]
    cases hv : (Dict.ofList later).get? k with
    | none => rfl
    | some v => exact h k v hv

/-- **When all endpoints are delivered.**  For a FlightInfo whose endpoints carry `t :: ts`, the cursor
    after a direct or a prepared execute, the primary keys and the foreign keys are the rows of all
    tables in order exactly when the tables after the first have none; the SQL information is that of
    all rows exactly when every entry of the later tables is one of the first.  The reader of
    GetTables, GetDbSchemas and GetCatalogs gets all tables always. -/
theorem allEndpoints_iff (rt : Runtime) {srv : Server} {info : FlightInfo}
    {endpoints : List Endpoint} {t : Table} {ts : List Table}
    (hinfo : info.endpoints = some endpoints) (hstreams : Streams srv endpoints (t :: ts)) {w : World}
    (hcursor : w.cursor.closed = false) (hconnection : w.connection.closed = false)
    (hclient : w.clientClosed = false) :
    (tablesFromInfo srv info w).1 = .ok (t :: ts) ∧
    (∀ rows later, dbapiRows rt t = .ok rows → ts.mapM (dbapiRows rt) = .ok later →
      (∀ query, srv.getFlightInfo w.log (.statementQuery query) = .ok info →
        ((execute rt srv query none w).2.cursor.results = rows ++ later.flatten ↔
          ∀ more ∈ later, more = [])) ∧
      (∀ query params w₁ w₂, params ≠ [] → prepare rt srv query (resetCursor w).2 = (.ok (), w₁) →
        executeRow rt srv params w₁ = (.ok info, w₂) →
        ((execute rt srv query (some params) w).2.cursor.results = rows ++ later.flatten ↔
          ∀ more ∈ later, more = []))) ∧
    (∀ rows later, t.toPylist rt.asPy = .ok rows → ts.mapM (Table.toPylist rt.asPy) = .ok later →
      (∀ table schema, srv.getFlightInfo w.log (.getPrimaryKeys none schema table) = .ok info →
        ((flightsqlGetPrimaryKeys rt srv table schema w).1 = .ok (rows ++ later.flatten) ↔
          ∀ more ∈ later, more = [])) ∧
      (∀ table schema, srv.getFlightInfo w.log (.getImportedKeys none schema table) = .ok info →
        ((flightsqlGetForeignKeys rt srv table schema w).1 = .ok (rows ++ later.flatten) ↔
          ∀ more ∈ later, more = [])) ∧
      (∀ ids first more, srv.getFlightInfo w.log (.getSqlInfo ids) = .ok info →
        rows.mapM sqlInfoEntry = .ok first → later.flatten.mapM sqlInfoEntry = .ok more →
        ∃ d, (flightsqlGetSqlInfo rt srv ids w).1 = .ok d ∧
          ((∀ k, d.get? k = (Dict.ofList (first ++ more)).get? k) ↔
            ∀ k v, (Dict.ofList more).get? k = some v → (Dict.ofList first).get? k = some v))) := by
  refine ⟨tablesFromInfo_streams hinfo hstreams hclient, ?_, ?_⟩
  · intro rows later hrows _
    constructor
    · intro query hreply
      rw [execute_direct_results hinfo hstreams hcursor hclient hreply hrows]
      exact eq_append_flatten_iff
    · intro query params w₁ w₂ hne hprepare hexec
      rw [execute_prepared_results hinfo hstreams hcursor hclient hne hprepare hexec hrows]
      exact eq_append_flatten_iff
  · intro rows later hrows _
    refine ⟨?_, ?_, ?_⟩
    · intro table schema hreply
      rw [flightsqlGetPrimaryKeys_first hinfo hstreams hconnection hclient hreply hrows,
        Except.ok.injEq]
      exact eq_append_flatten_iff
    · intro table schema hreply
      rw [flightsqlGetForeignKeys_first hinfo hstreams hconnection hclient hreply hrows,
        Except.ok.injEq]
      exact eq_append_flatten_iff
    · intro ids first more hreply hfirst _
      exact ⟨_, flightsqlGetSqlInfo_first hinfo hstreams hconnection hclient hreply hrows hfirst,
        get?_ofList_append_iff⟩

/-- A table of SQL information with one entry. -/
def sqlInfoTable (name : Int) (value : String) : Table where
  columns := [Column.ofValues "info_name" .uint32 [.int name],
    Column.ofValues "value" .string [.str value]]
  numRows := 1
  aligned := by
    intro c hc
    rcases List.mem_cons.mp hc with rfl | hc
    · rfl
    · rw [List.mem_singleton.mp hc]
      rfl

/-- A server that splits every answer over two endpoints, one row each. -/
def Server.split : Server :=
  .fixed (fun _ => .ok (.ofTickets [[0], [1]])) fun ticket =>
    .ok (.ofTable (if ticket = [0] then sqlInfoTable 0 "east" else sqlInfoTable 1 "west"))

theorem Server.split_streams : Streams .split [⟨some [0]⟩, ⟨some [1]⟩]
    [sqlInfoTable 0 "east", sqlInfoTable 1 "west"] := by
  refine ⟨⟨[0], _, rfl, fun _ => rfl, rfl⟩, ⟨[1], _, rfl, fun _ => rfl, rfl⟩, trivial⟩

/-- The theorem on the split server's statement query. -/
theorem allEndpoints_iff_split :
    (execute .reference .split "SELECT" none .initial).2.cursor.results =
        [[PyValue.int 0, .str "east"]] ++ [[[PyValue.int 1, .str "west"]]].flatten ↔
      ∀ more ∈ [[[PyValue.int 1, .str "west"]]], more = [] :=
  have hinfo : (FlightInfo.ofTickets [[0], [1]]).endpoints = some [⟨some [0]⟩, ⟨some [1]⟩] := rfl
  ((allEndpoints_iff .reference hinfo Server.split_streams (w := .initial) rfl rfl rfl).2.1 _ _
    rfl rfl).1 "SELECT" rfl

/-- **Two endpoints, one row each**: the reader of all endpoints gets both tables, the five paths that
    read the first endpoint lose the second row. -/
theorem split_losesRows :
    (execute .reference .split "SELECT" none .initial).2.cursor.results ≠
        [[PyValue.int 0, .str "east"], [.int 1, .str "west"]] ∧
      (execute .reference .split "SELECT" (some [.int 7]) .initial).2.cursor.results ≠
        [[PyValue.int 0, .str "east"], [.int 1, .str "west"]] ∧
      (flightsqlGetPrimaryKeys .reference .split "t" none .initial).1.toOption.map List.length ≠
        some 2 ∧
      (flightsqlGetForeignKeys .reference .split "t" none .initial).1.toOption.map List.length ≠
        some 2 ∧
      ((flightsqlGetSqlInfo .reference .split [0, 1] .initial).1.toOption.bind fun d =>
        d.get? (.int 1)) ≠ some (.str "west") ∧
      (tablesFromInfo .split (.ofTickets [[0], [1]]) .initial).1.toOption.map List.length =
        some 2 := by
  decide

end FlightSql
