/-
  Flight SQL as the driver's client speaks it — `FlightSQLClient` of `flightsql/client.py`.

  1. **What travels** — `Command` (the protobuf message a descriptor or action carries), `FlightInfo`,
     `Reader`, `PreparedResult`.  Replies are kept as loose as Python objects are: a FlightInfo may
     have no iterable endpoints, an endpoint no ticket, a reader no table to give.

  2. **The log** — every RPC is an `Event`: the request with the server's reply to it.  The client's
     write of the resolved catalog is put in the log too, so that "before" and "after" it mean
     something.

  3. **The server** — a `Server` answers each request knowing the WHOLE log so far; so it may keep
     state, fail, recover, or change its mind.

  4. **The world** — the log and the driver's own mutable objects.  An RPC is `rpc`: ask, append the
     event, return or raise the reply.  Nothing else ever touches the log.

  `Runtime` collects the functions of PyArrow and protobuf the driver calls.

  Mathlib-free.
-/
import FlightSql.Lib.Run
import FlightSql.Lib.Wire
import FlightSql.Results
import FlightSql.Parameters

set_option linter.unusedVariables false

namespace FlightSql

open Arrow Lib Lib.Wire

/-! ## What travels -/

/-- A Flight ticket. -/
abbrev Ticket := Bytes

/-- An endpoint of a FlightInfo; `none` when it has no `ticket` attribute. -/
structure Endpoint where
  ticket : Option Ticket

/-- A FlightInfo; `none` when its `endpoints` cannot be iterated. -/
structure FlightInfo where
  endpoints : Option (List Endpoint)

/-- What `read_all()` returns. -/
inductive Payload where
  | table (t : Table)
  | other

/-- A stream reader: without a callable `read_all`, or with what calling it does. -/
structure Reader where
  readAll : Option (Except Exn Payload)

/-- `ActionCreatePreparedStatementResult`: the handle and the two serialized schemas. -/
structure PreparedResult where
  handle : Bytes
  datasetSchema : Bytes
  parameterSchema : Bytes

/-- The commands the driver packs into a flight descriptor; `getTablesOfTypes` is a GetTables that names
    table types. -/
inductive Command where
  | statementQuery (query : String)
  | preparedStatementQuery (handle : Bytes)
  | getCatalogs
  | getDbSchemas (catalog dbSchemaFilterPattern : Option String)
  | getTables (catalog dbSchemaFilterPattern tableNameFilterPattern : Option String)
      (includeSchema : Bool)
  | getPrimaryKeys (catalog dbSchema : Option String) (table : String)
  | getImportedKeys (catalog dbSchema : Option String) (table : String)
  | getSqlInfo (info : List Int)
  | getTablesOfTypes (catalog dbSchemaFilterPattern tableNameFilterPattern : Option String)
      (includeSchema : Bool) (tableTypes : List String)
  | getExportedKeys (catalog dbSchema : Option String) (table : String)
  | getCrossReference (pkCatalog pkDbSchema : Option String) (pkTable : String)
      (fkCatalog fkDbSchema : Option String) (fkTable : String)
  | getXdbcTypeInfo (dataType : Option Int)
  | getTableTypes
  deriving DecidableEq

/-! ## The log -/

/-- **An event**: a request with its reply, or the client's decision on a catalog.  A
    `createPrepared` reply without a result is an empty result stream; a `doPut` reply is the
    metadata the put was answered with, a `doPutUpdate` reply the record count in it. -/
inductive Event where
  | flightInfo (command : Command) (reply : Except Exn FlightInfo)
  | doGet (ticket : Ticket) (reply : Except Exn Reader)
  | createPrepared (query : String) (reply : Except Exn (Option PreparedResult))
  | doPut (handle : Bytes) (batch : RecordBatch) (reply : Except Exn (Option Bytes))
  | doPutUpdate (query : String) (reply : Except Exn (Option Int))
  | closePrepared (handle : Bytes) (reply : Except Exn Unit)
  | resolved (catalog : Option PyValue)

/-- **The server**: its answer to each request, given everything that happened before. -/
structure Server where
  getFlightInfo : List Event → Command → Except Exn FlightInfo
  doGet : List Event → Ticket → Except Exn Reader
  createPreparedStatement : List Event → String → Except Exn (Option PreparedResult)
  doPut : List Event → Bytes → RecordBatch → Except Exn (Option Bytes)
  doPutUpdate : List Event → String → Except Exn (Option Int)
  closePreparedStatement : List Event → Bytes → Except Exn Unit

/-- **The functions outside the repository** the driver calls. -/
structure Runtime where
  pa : PyArrow
  /-- `scalar.as_py()`. -/
  asPy : AsPy
  /-- `ipc.open_stream(serialized).schema`. -/
  openStream : PyValue → Except Exn Schema
  /-- `pa.ipc.read_schema(pa.py_buffer(serialized))`. -/
  readSchema : Bytes → Except Exn Schema
  /-- What protobuf stores for a value given for a string field. -/
  protobufString : PyValue → Except Exn String
  /-- `pa.array` and casts, for binding parameters. -/
  builder : ArrayBuilder
  /-- A string is stored as it is. -/
  protobufString_str : ∀ s, protobufString (.str s) = .ok s

/-! ## The world -/

/-- `Cursor`. -/
structure Cursor where
  closed : Bool
  arraysize : Int
  description : Option (List ColumnDescription)
  results : List (List PyValue)

/-- `PreparedStatement`. -/
structure PreparedStatement where
  handle : Bytes
  datasetSchema : Option Schema
  parameterSchema : Option Schema
  closed : Bool

/-- `Connection`: whether it is closed, the explicit catalog, and `_resolved_catalog`. -/
structure Connection where
  closed : Bool
  catalog : Option String
  resolvedCatalog : Option (Option PyValue)

/-- **The world**: the log, and the objects a method call reads and writes. -/
structure World where
  log : List Event
  clientClosed : Bool
  connection : Connection
  cursor : Cursor
  statement : PreparedStatement

/-- A method of the driver. -/
abbrev Method (α : Type) := Run World Exn α

namespace World

/-- The log with one more event. -/
def record (e : Event) (w : World) : World := { w with log := w.log ++ [e] }

/-- The same world around another statement. -/
def hold (statement : PreparedStatement) (w : World) : World := { w with statement := statement }

@[simp] theorem record_log (e : Event) (w : World) : (w.record e).log = w.log ++ [e] := rfl

end World

/-- **One RPC**: the reply depends on the log, and both become an event. -/
def rpc {α : Type} (call : List Event → Except Exn α) (event : Except Exn α → Event) : Method α :=
  fun w => (call w.log, w.record (event (call w.log)))

theorem rpc_ok {α : Type} {call : List Event → Except Exn α} {event : Except Exn α → Event}
    {w : World} {a : α} (h : call w.log = .ok a) :
    rpc call event w = (.ok a, w.record (event (.ok a))) := by
  rw [rpc, h]

theorem rpc_error {α : Type} {call : List Event → Except Exn α} {event : Except Exn α → Event}
    {w : World} {e : Exn} (h : call w.log = .error e) :
    rpc call event w = (.error e, w.record (event (.error e))) := by
  rw [rpc, h]

/-- `check_closed`. -/
def checkClosed {α : Type} (className : String) (closed : World → Bool) (m : Method α) :
    Method α :=
  fun w => if closed w then (.error (.error (className ++ " already closed")), w) else m w

theorem checkClosed_open {α : Type} {className : String} {closed : World → Bool} {m : Method α}
    {w : World} (h : closed w = false) : checkClosed className closed m w = m w := by
  rw [checkClosed, if_neg (by rw [h]; exact Bool.false_ne_true)]

theorem checkClosed_closed {α : Type} {className : String} {closed : World → Bool} {m : Method α}
    {w : World} (h : closed w = true) :
    checkClosed className closed m w = (.error (.error (className ++ " already closed")), w) := by
  rw [checkClosed, if_pos h]

/-- `translate_errors`. -/
def translateErrors {α : Type} (m : Method α) : Method α :=
  Run.tryCatch m fun e => Run.raise (translated e)

/-- Translating an exception changes nothing else. -/
@[simp] theorem translateErrors_snd {α : Type} (m : Method α) (w : World) :
    (translateErrors m w).2 = (m w).2 := by
  rw [translateErrors, Run.tryCatch]
  rcases m w with ⟨r, w'⟩
  cases r <;> rfl

theorem translateErrors_error {α : Type} {m : Method α} {w : World} {e : Exn} (h : (m w).1 = .error e) :
    (translateErrors m w).1 = .error (translated e) := by
  rw [translateErrors, Run.tryCatch]
  rcases hm : m w with ⟨r, w'⟩
  rw [hm] at h
  cases h
  rfl

theorem translateErrors_ok {α : Type} {m : Method α} {w w' : World} {a : α}
    (h : m w = (.ok a, w')) : translateErrors m w = (.ok a, w') := Run.tryCatch_ok h

/-! ## FlightSQLClient -/

/-- `_get_flight_info`. -/
def getFlightInfo (srv : Server) (command : Command) : Method FlightInfo :=
  checkClosed "FlightSQLClient" World.clientClosed
    (rpc (fun log => srv.getFlightInfo log command) (.flightInfo command))

/-- `do_get`. -/
def doGet (srv : Server) (ticket : Ticket) : Method Reader :=
  checkClosed "FlightSQLClient" World.clientClosed
    (rpc (fun log => srv.doGet log ticket) (.doGet ticket))

/-- `execute`. -/
def clientExecute (srv : Server) (query : String) : Method FlightInfo :=
  getFlightInfo srv (.statementQuery query)

/-- What a `catalog=` keyword becomes in a command. -/
def catalogField (rt : Runtime) : Option PyValue → Except Exn (Option String)
  | none => .ok none
  | some c => do
    let c ← rt.protobufString c
    .ok (some c)

/-- `get_tables`. -/
def getTables (rt : Runtime) (srv : Server) (includeSchema : Bool) (catalog : Option PyValue)
    (tableNameFilterPattern dbSchemaFilterPattern : Option String) : Method FlightInfo := do
  let catalog ← Run.ofExcept (catalogField rt catalog)
  getFlightInfo srv (.getTables catalog dbSchemaFilterPattern tableNameFilterPattern includeSchema)

/-- `get_db_schemas`. -/
def getDbSchemas (rt : Runtime) (srv : Server) (catalog : Option PyValue) : Method FlightInfo := do
  let catalog ← Run.ofExcept (catalogField rt catalog)
  getFlightInfo srv (.getDbSchemas catalog none)

/-- `get_catalogs`. -/
def getCatalogs (srv : Server) : Method FlightInfo := getFlightInfo srv .getCatalogs

/-- `get_primary_keys(TableRef(table=table, db_schema=schema))`. -/
def getPrimaryKeys (srv : Server) (table : String) (schema : Option String) : Method FlightInfo :=
  getFlightInfo srv (.getPrimaryKeys none schema table)

/-- `get_imported_keys(TableRef(table=table, db_schema=schema))`. -/
def getImportedKeys (srv : Server) (table : String) (schema : Option String) : Method FlightInfo :=
  getFlightInfo srv (.getImportedKeys none schema table)

/-- `get_sql_info`. -/
def getSqlInfo (srv : Server) (info : List Int) : Method FlightInfo :=
  getFlightInfo srv (.getSqlInfo info)

/-! ## Reading one endpoint -/

def attributeError (message : String) : Exn := ⟨.python .attributeError, message⟩

/-- `info.endpoints[0].ticket`. -/
def firstTicket (info : FlightInfo) : Except Exn Ticket :=
  match info.endpoints with
  | none => .error (attributeError "endpoints")
  | some [] => .error ⟨.python .indexError, "list index out of range"⟩
  | some (endpoint :: _) =>
    match endpoint.ticket with
    | none => .error (attributeError "ticket")
    | some ticket => .ok ticket

/-- `reader.read_all()`. -/
def readAll (reader : Reader) : Except Exn Payload :=
  match reader.readAll with
  | none => .error (attributeError "read_all")
  | some outcome => outcome

/-- A payload used as a table. -/
def asTable : Payload → Except Exn Table
  | .table t => .ok t
  | .other => .error (attributeError "schema")

/-- `self.client.do_get(info.endpoints[0].ticket)`, then its `read_all()`. -/
def readFirstEndpoint (srv : Server) (info : FlightInfo) : Method Payload := do
  let ticket ← Run.ofExcept (firstTicket info)
  let reader ← doGet srv ticket
  Run.ofExcept (readAll reader)

/-! ## What an invariant of the log must survive -/

theorem rpc_keeps {α : Type} {I : World → Prop} {call : List Event → Except Exn α}
    {event : Except Exn α → Event} (h : ∀ w reply, I w → I (w.record (event reply))) :
    Run.Keeps I (rpc call event) :=
  fun w hw => h w _ hw

theorem checkClosed_keeps {α : Type} {I : World → Prop} {className : String}
    {closed : World → Bool} {m : Method α} (hm : Run.Keeps I m) :
    Run.Keeps I (checkClosed className closed m) := by
  intro w hw
  rw [checkClosed]
  by_cases hc : closed w = true
  · rw [if_pos hc]
    exact hw
  · rw [if_neg hc]
    exact hm w hw

/-- Reading an endpoint records a DoGet, or nothing. -/
theorem readFirstEndpoint_keeps {I : World → Prop} (srv : Server) (info : FlightInfo)
    (h : ∀ w ticket reply, I w → I (w.record (.doGet ticket reply))) :
    Run.Keeps I (readFirstEndpoint srv info) := by
  refine (Run.Keeps.ofExcept _).bind fun ticket => ?_
  refine Run.Keeps.bind ?_ fun reader => Run.Keeps.ofExcept _
  exact checkClosed_keeps (rpc_keeps fun w reply => h w ticket reply)

/-! ## RPCs that answer -/

theorem getFlightInfo_ok {srv : Server} {command : Command} {w : World} {info : FlightInfo}
    (hopen : w.clientClosed = false) (h : srv.getFlightInfo w.log command = .ok info) :
    getFlightInfo srv command w = (.ok info, w.record (.flightInfo command (.ok info))) := by
  rw [getFlightInfo, checkClosed_open hopen, rpc_ok h]

theorem doGet_ok {srv : Server} {ticket : Ticket} {w : World} {reader : Reader}
    (hopen : w.clientClosed = false) (h : srv.doGet w.log ticket = .ok reader) :
    doGet srv ticket w = (.ok reader, w.record (.doGet ticket (.ok reader))) := by
  rw [doGet, checkClosed_open hopen, rpc_ok h]

theorem readFirstEndpoint_ok {srv : Server} {info : FlightInfo} {ticket : Ticket} {w : World}
    {reader : Reader} {payload : Payload} (hopen : w.clientClosed = false)
    (hticket : firstTicket info = .ok ticket) (hget : srv.doGet w.log ticket = .ok reader)
    (hread : readAll reader = .ok payload) :
    readFirstEndpoint srv info w = (.ok payload, w.record (.doGet ticket (.ok reader))) := by
  rw [readFirstEndpoint, hticket]
  show (doGet srv ticket >>= fun reader => Run.ofExcept (readAll reader)) w = _
  rw [Run.bind_ok (doGet_ok hopen hget), hread]
  rfl

end FlightSql
