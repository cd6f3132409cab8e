/-
  Prepared statements and cursors — `PreparedStatement` of `flightsql/client.py` and `Cursor.execute`,
  `Cursor.executemany` of `flightsql/dbapi.py`.

  A parameterless execute is one GetFlightInfo and one DoGet.  With parameters the driver prepares,
  binds the row with a DoPut, executes the CURRENT handle — the one the put was answered with, when
  it was answered with one — and closes the statement on every way out.  `executemany` prepares once
  and does the same for each row.

  Mathlib-free.
-/
import FlightSql.PreparedHandle
import FlightSql.Flight

set_option linter.unusedVariables false

namespace FlightSql

open Arrow Lib Lib.Wire PreparedHandle

/-! ## PreparedStatement -/

/-- `_read_ipc_schema`: an absent or undecodable schema is no schema. -/
def readIpcSchema (rt : Runtime) (serialized : Bytes) : Except Exn (Option Schema) :=
  if serialized = [] then .ok none
  else
    match rt.readSchema serialized with
    | .ok schema => .ok (some schema)
    | .error error =>
      if error.cls = .arrow .invalid ∨ error.cls = .python .osError then .ok none
      else .error error

/-- The statement `prepare` makes of the server's reply. -/
def preparedStatement (rt : Runtime) : Option PreparedResult → Except Exn PreparedStatement
  | none => .error ⟨.python .indexError, "list index out of range"⟩
  | some result => do
    let datasetSchema ← readIpcSchema rt result.datasetSchema
    let parameterSchema ← readIpcSchema rt result.parameterSchema
    .ok ⟨result.handle, datasetSchema, parameterSchema, false⟩

/-- `FlightSQLClient.prepare`. -/
def prepare (rt : Runtime) (srv : Server) (query : String) : Method Unit := do
  let reply ← rpc (fun log => srv.createPreparedStatement log query) (.createPrepared query)
  let statement ← Run.ofExcept (preparedStatement rt reply)
  Run.modify fun w => w.hold statement

/-- The reply makes `prepare` return. -/
def PrepareReturns (rt : Runtime) (reply : Except Exn (Option PreparedResult)) : Prop :=
  ∃ result statement, reply = .ok result ∧ preparedStatement rt result = .ok statement

theorem prepare_ok {rt : Runtime} {srv : Server} {query : String} {w : World}
    {result : Option PreparedResult} {statement : PreparedStatement}
    (hreply : srv.createPreparedStatement w.log query = .ok result)
    (hstatement : preparedStatement rt result = .ok statement) :
    prepare rt srv query w =
      (.ok (), (w.record (.createPrepared query (.ok result))).hold statement) := by
  rw [prepare, Run.bind_ok (rpc_ok hreply), hstatement]
  rfl

theorem prepare_error {rt : Runtime} {srv : Server} {query : String} {w : World}
    (hfail : ¬PrepareReturns rt (srv.createPreparedStatement w.log query)) :
    ∃ e, prepare rt srv query w =
      (.error e, w.record (.createPrepared query (srv.createPreparedStatement w.log query))) := by
  cases hreply : srv.createPreparedStatement w.log query with
  | error e => exact ⟨e, by rw [prepare, Run.bind_error (rpc_error hreply)]⟩
  | ok result =>
    cases hstatement : preparedStatement rt result with
    | error e => exact ⟨e, by rw [prepare, Run.bind_ok (rpc_ok hreply), hstatement]; rfl⟩
    | ok statement => exact absurd ⟨result, statement, hreply, hstatement⟩ hfail

/-- The statement holds the handle the server issued, and is open. -/
theorem preparedStatement_eq_ok {rt : Runtime} {result : Option PreparedResult}
    {statement : PreparedStatement} (h : preparedStatement rt result = .ok statement) :
    ∃ r, result = some r ∧ statement.handle = r.handle ∧ statement.closed = false ∧
      readIpcSchema rt r.parameterSchema = .ok statement.parameterSchema := by
  cases result with
  | none => cases h
  | some r =>
    obtain ⟨datasetSchema, _, h⟩ := Outcome.bind_eq_ok h
    obtain ⟨parameterSchema, hp, h⟩ := Outcome.bind_eq_ok h
    cases h
    exact ⟨r, rfl, rfl, rfl, hp⟩

/-- The update of `self.handle` after a put, and the command to execute. -/
def updateHandle (command : Command) (metadata : Option Bytes) : Method Command :=
  match updatedPreparedHandle (metadata.getD []) with
  | some updated => do
    Run.modify fun w => { w with statement := { w.statement with handle := updated } }
    pure (.preparedStatementQuery updated)
  | none => pure command

/-- The put of a batch with rows; a batch without rows is not sent. -/
def bindBatch (srv : Server) (handle : Bytes) (binding : RecordBatch) (command : Command) :
    Method Command :=
  if binding.numRows > 0 then do
    let metadata ← rpc (fun log => srv.doPut log handle binding) (.doPut handle binding)
    updateHandle command metadata
  else pure command

/-- `PreparedStatement.execute`. -/
def statementExecute (srv : Server) (binding : RecordBatch) : Method FlightInfo :=
  checkClosed "PreparedStatement" (fun w => w.statement.closed) do
    let handle ← Run.gets fun w => w.statement.handle
    let command ← bindBatch srv handle binding (.preparedStatementQuery handle)
    rpc (fun log => srv.getFlightInfo log command) (.flightInfo command)

/-- `PreparedStatement.close`. -/
def statementClose (srv : Server) : Method Unit :=
  checkClosed "PreparedStatement" (fun w => w.statement.closed) do
    let handle ← Run.gets fun w => w.statement.handle
    rpc (fun log => srv.closePreparedStatement log handle) (.closePrepared handle)
    Run.modify fun w => { w with statement := { w.statement with closed := true } }

/-- `with self.client.prepare(query) as stmt:` around a body. -/
def withPrepared (rt : Runtime) (srv : Server) (query : String) (body : Method Unit) :
    Method Unit := do
  prepare rt srv query
  Run.withExit body (statementClose srv)

/-! ## Cursor -/

/-- `self.description = None; self._results = []`. -/
def resetCursor : Method Unit :=
  Run.modify fun w => { w with cursor := { w.cursor with description := none, results := [] } }

/-- `self._results, self.description = dbapi_results(reader.read_all())`. -/
def storeResults (rt : Runtime) (payload : Payload) : Method Unit := do
  let table ← Run.ofExcept (asTable payload)
  let (rows, description) ← Run.ofExcept (dbapiResults rt.pa rt.asPy table)
  Run.modify fun w =>
    { w with cursor := { w.cursor with results := rows, description := some description } }

/-- Storing results changes nothing but the rows of the cursor and their description. -/
theorem storeResults_keeps {I : World → Prop} (rt : Runtime) (payload : Payload)
    (h : ∀ w description results, I w →
      I { w with cursor := { w.cursor with description := description, results := results } }) :
    Run.Keeps I (storeResults rt payload) := by
  refine (Run.Keeps.ofExcept _).bind fun table => ?_
  refine (Run.Keeps.ofExcept _).bind fun results => ?_
  exact Run.Keeps.modify fun w hw => h w _ _ hw

/-- `build_parameter_record(params, stmt.parameter_schema)`, then `stmt.execute(record)`. -/
def executeRow (rt : Runtime) (srv : Server) (params : List PyValue) : Method FlightInfo := do
  let schema ← Run.gets fun w => w.statement.parameterSchema
  let binding ← Run.ofExcept (buildParameterRecord rt.builder params schema)
  statementExecute srv binding

/-- Executing a statement records events and takes up the handle a put is answered with, no more. -/
theorem statementExecute_keeps_of {I : World → Prop} (srv : Server) (binding : RecordBatch)
    (hrecord : ∀ w e, I w → I (w.record e))
    (hhandle : ∀ w handle, I w → I { w with statement := { w.statement with handle := handle } }) :
    Run.Keeps I (statementExecute srv binding) := by
  refine checkClosed_keeps ((Run.Keeps.gets _).bind fun handle => ?_)
  refine Run.Keeps.bind ?_ fun command => rpc_keeps fun w reply => hrecord w _
  unfold bindBatch
  by_cases hrows : binding.numRows > 0
  · rw [if_pos hrows]
    refine (rpc_keeps fun w reply => hrecord w _).bind fun metadata => ?_
    unfold updateHandle
    cases updatedPreparedHandle (metadata.getD []) with
    | none => exact Run.Keeps.pure _
    | some updated =>
      refine Run.Keeps.bind ?_ fun _ => Run.Keeps.pure _
      exact Run.Keeps.modify fun w => hhandle w updated
  · rw [if_neg hrows]
    exact Run.Keeps.pure _

/-- So does executing a row. -/
theorem executeRow_keeps_of {I : World → Prop} (rt : Runtime) (srv : Server) (params : List PyValue)
    (hrecord : ∀ w e, I w → I (w.record e))
    (hhandle : ∀ w handle, I w → I { w with statement := { w.statement with handle := handle } }) :
    Run.Keeps I (executeRow rt srv params) := by
  refine (Run.Keeps.gets _).bind fun schema => (Run.Keeps.ofExcept _).bind fun binding => ?_
  exact statementExecute_keeps_of srv binding hrecord hhandle

/-- **`Cursor.execute`**. -/
def execute (rt : Runtime) (srv : Server) (query : String) (params : Option (List PyValue)) :
    Method Unit :=
  checkClosed "Cursor" (fun w => w.cursor.closed) (translateErrors do
    resetCursor
    if (params.getD []).length = 0 then do
      let info ← clientExecute srv query
      let payload ← readFirstEndpoint srv info
      storeResults rt payload
    else
      withPrepared rt srv query do
        let info ← executeRow rt srv (params.getD [])
        let payload ← readFirstEndpoint srv info
        storeResults rt payload)

/-- One turn of the loop of `executemany`: the rows of the result are read and dropped. -/
def executeAndDiscard (rt : Runtime) (srv : Server) (params : List PyValue) : Method Unit := do
  let info ← executeRow rt srv params
  let payload ← readFirstEndpoint srv info
  pure ()

/-- **`Cursor.executemany`**. -/
def executemany (rt : Runtime) (srv : Server) (query : String)
    (paramSeq : Option (List (List PyValue))) : Method Unit :=
  checkClosed "Cursor" (fun w => w.cursor.closed) (translateErrors do
    resetCursor
    if (paramSeq.getD []).length = 0 then execute rt srv query none
    else
      withPrepared rt srv query (Run.forEach (executeAndDiscard rt srv) (paramSeq.getD [])))

end FlightSql
