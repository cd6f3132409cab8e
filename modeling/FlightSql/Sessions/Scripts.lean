/-
  A cursor's operations as SCRIPTS — `Cursor.execute` and `Cursor.executemany` of `flightsql/dbapi.py`, by the
  requests they send.

  THE CODE sends each request from the middle of a method that reads and writes the cursor, the statement
  and the client.  A script has the requests and what follows from their replies, and nothing else, so
  scripts of several cursors can take turns at one server.

  1. **Calls** — the requests a cursor sends, each with the type of its reply.

  2. **Scripts** — `fetch`, `row`, `rows`, `prepared`, and from them `Operation.script`.

  3. **Refinement** (`operation_alone`) — alone at a server that knows the log, a script sends what the method
     sends, in its order, and ends as it ends.

  Mathlib-free but for what it imports.
-/
import FlightSql.Lib.Interleaving
import FlightSql.BindingTrace
import FlightSql.FailedExecute

set_option linter.unusedVariables false

namespace FlightSql.Sessions

open Arrow Lib Lib.Wire PreparedHandle

/-! ## Calls -/

/-- A request of a cursor. -/
inductive Call where
  | getFlightInfo (command : Command)
  | doGet (ticket : Ticket)
  | createPreparedStatement (query : String)
  | doPut (handle : Bytes) (batch : RecordBatch)
  | closePreparedStatement (handle : Bytes)

/-- What a request is answered with. -/
abbrev Answer : Call → Type
  | .getFlightInfo _ => FlightInfo
  | .doGet _ => Reader
  | .createPreparedStatement _ => Option PreparedResult
  | .doPut _ _ => Option Bytes
  | .closePreparedStatement _ => Unit

/-- An answer, or the exception raised in its place. -/
abbrev Reply (q : Call) : Type := Except Exn (Answer q)

/-- The script of something that may raise. -/
abbrev Driver (α : Type) : Type := ExceptT Exn (Script Call Reply) α

/-- One request. -/
def call (q : Call) : Driver (Answer q) := ExceptT.mk (Script.request q)

/-- A computation without requests. -/
def compute {α : Type} (x : Except Exn α) : Driver α := ExceptT.mk (pure x)

/-! ## Scripts -/

/-- The rows of a result and their description. -/
abbrev Results : Type := List (List PyValue) × List ColumnDescription

/-- `self.client.do_get(info.endpoints[0].ticket).read_all()`. -/
def fetch (info : FlightInfo) : Driver Payload := do
  let ticket ← compute (firstTicket info)
  let reader ← call (.doGet ticket)
  compute (readAll reader)

/-- A GetFlightInfo and the read of its result. -/
def executed (command : Command) : Driver Payload := do
  let info ← call (.getFlightInfo command)
  fetch info

variable (rt : Runtime)

/-- `dbapi_results(…)`. -/
def toResults (payload : Payload) : Except Exn Results := do
  let table ← asTable payload
  dbapiResults rt.pa rt.asPy table

/-- The direct path of `execute`. -/
def direct (query : String) : Driver Results := do
  let payload ← executed (.statementQuery query)
  compute (toResults rt payload)

/-- The put of a batch: the handle the statement holds afterwards. -/
def put (handle : Bytes) (binding : RecordBatch) : Driver Bytes :=
  if binding.numRows > 0 then do
    let metadata ← call (.doPut handle binding)
    pure (boundHandle handle metadata)
  else pure handle

/-- What follows a put: the result, and the handle the statement then holds. -/
def afterPut (handle : Bytes) : Except Exn Bytes → Script Call Reply (Except Exn Payload × Bytes)
  | .error e => pure (.error e, handle)
  | .ok updated => (executed (.preparedStatementQuery updated)).run >>= fun payload =>
    pure (payload, updated)

/-- **One row of parameters**: bound, executed and its result read; with the handle held afterwards. -/
def row (schema : Option Schema) (handle : Bytes) (params : List PyValue) :
    Script Call Reply (Except Exn Payload × Bytes) :=
  match buildParameterRecord rt.builder params schema with
  | .error e => pure (.error e, handle)
  | .ok binding => (put handle binding).run >>= afterPut handle

/-- **The rows of `executemany`**, up to the first that raises. -/
def rows (schema : Option Schema) : Bytes → List (List PyValue) → Script Call Reply (Except Exn Unit × Bytes)
  | handle, [] => pure (.ok (), handle)
  | handle, params :: rest => row rt schema handle params >>= fun out =>
    match out.1 with
    | .error e => pure (.error e, out.2)
    | .ok _ => rows schema out.2 rest

/-- The close of the statement, after a body that came to `out`; an exception of its own is the outcome. -/
def closing {α : Type} (out : Except Exn α × Bytes) : Script Call Reply (Except Exn α) :=
  Script.request (.closePreparedStatement out.2) >>= fun closed => pure (closed >>= fun _ => out.1)

/-- The body around the statement, if there is one. -/
def withStatement {α : Type} (body : PreparedStatement → Script Call Reply (Except Exn α × Bytes)) :
    Except Exn PreparedStatement → Script Call Reply (Except Exn α)
  | .error e => pure (.error e)
  | .ok statement => body statement >>= closing

/-- **`with self.client.prepare(query) as stmt:`** around a body. -/
def prepared {α : Type} (query : String)
    (body : PreparedStatement → Script Call Reply (Except Exn α × Bytes)) : Script Call Reply (Except Exn α) :=
  Script.request (.createPreparedStatement query) >>= fun reply =>
    withStatement body (reply >>= preparedStatement rt)

/-- The block of `execute`. -/
def executeBlock (params : List PyValue) (statement : PreparedStatement) :
    Script Call Reply (Except Exn Results × Bytes) :=
  row rt statement.parameterSchema statement.handle params >>= fun out =>
    pure (out.1 >>= toResults rt, out.2)

/-- **`Cursor.execute`**, as a script. -/
def executeScript (query : String) (params : Option (List PyValue)) : Script Call Reply (Except Exn Results) :=
  (if (params.getD []).length = 0 then (direct rt query).run
    else prepared rt query (executeBlock rt (params.getD []))) >>= fun r =>
  pure (r.mapError translated)

/-- **`Cursor.executemany`**, as a script: the empty sequence has the results of `execute`. -/
def executemanyScript (query : String) (paramSeq : Option (List (List PyValue))) :
    Script Call Reply (Except Exn (Option Results)) :=
  (if (paramSeq.getD []).length = 0 then
      executeScript rt query none >>= fun r => pure (r.map some)
    else
      prepared rt query (fun statement =>
        rows rt statement.parameterSchema statement.handle (paramSeq.getD [])) >>= fun r =>
      pure (r.map fun _ => none)) >>= fun r =>
  pure (r.mapError translated)

/-- A call of a cursor. -/
inductive Operation where
  | execute (query : String) (params : Option (List PyValue))
  | executemany (query : String) (paramSeq : Option (List (List PyValue)))

/-- Its script: the results the cursor holds afterwards, if it holds any. -/
def Operation.script : Operation → Script Call Reply (Except Exn (Option Results))
  | .execute query params => executeScript rt query params >>= fun r => pure (r.map some)
  | .executemany query paramSeq => executemanyScript rt query paramSeq

/-- Its method. -/
def Operation.method (srv : Server) : Operation → Method Unit
  | .execute query params => FlightSql.execute rt srv query params
  | .executemany query paramSeq => FlightSql.executemany rt srv query paramSeq

/-! ## Alone at a server -/

/-- The reply of a server that knows the log. -/
def reply (srv : Server) (log : List Event) : (q : Call) → Reply q
  | .getFlightInfo command => srv.getFlightInfo log command
  | .doGet ticket => srv.doGet log ticket
  | .createPreparedStatement query => srv.createPreparedStatement log query
  | .doPut handle batch => srv.doPut log handle batch
  | .closePreparedStatement handle => srv.closePreparedStatement log handle

/-- The event of a request and its reply. -/
def event : (q : Call) → Reply q → Event
  | .getFlightInfo command, r => .flightInfo command r
  | .doGet ticket, r => .doGet ticket r
  | .createPreparedStatement query, r => .createPrepared query r
  | .doPut handle batch, r => .doPut handle batch r
  | .closePreparedStatement handle, r => .closePrepared handle r

/-- **A script alone at a server**: how it ends, and the log it leaves. -/
def alone {α : Type} (srv : Server) : Script Call Reply α → List Event → α × List Event
  | .done a, log => (a, log)
  | .ask q next, log => alone srv (next (reply srv log q)) (log ++ [event q (reply srv log q)])

theorem alone_bind {α β : Type} {srv : Server} (m : Script Call Reply α) (f : α → Script Call Reply β)
    (log : List Event) : alone srv (m >>= f) log = alone srv (f (alone srv m log).1) (alone srv m log).2 := by
  show alone srv (Script.bind m f) log = _
  induction m generalizing log with
  | done a => rfl
  | ask q next ih => exact ih _ _

/-! ## Refinement -/

/-- The world with another log. -/
def withLog (w : World) (log : List Event) : World := { w with log := log }

/-- **A method follows a script**: where the client is open it ends as the script does and leaves its log,
    and nothing else. -/
def Follows {α : Type} (srv : Server) (m : Method α) (p : Driver α) : Prop :=
  ∀ w : World, w.clientClosed = false →
    m w = ((alone srv p.run w.log).1, withLog w (alone srv p.run w.log).2)

variable {rt} {srv : Server}

theorem Follows.compute {α : Type} (x : Except Exn α) : Follows srv (Run.ofExcept x) (compute x) :=
  fun _ _ => rfl

/-- An RPC, whether or not it looks at the client first. -/
theorem Follows.call {q : Call} {m : Method (Answer q)}
    (h : ∀ w : World, w.clientClosed = false →
      m w = (reply srv w.log q, w.record (event q (reply srv w.log q)))) : Follows srv m (call q) := by
  intro w hclient
  rw [h w hclient]
  rfl

theorem Follows.bind {α β : Type} {m : Method α} {p : Driver α} {f : α → Method β} {g : α → Driver β}
    (hm : Follows srv m p) (hf : ∀ a, Follows srv (f a) (g a)) : Follows srv (m >>= f) (p >>= g) := by
  intro w hclient
  have halone : alone srv (p >>= g).run w.log =
      alone srv (ExceptT.bindCont g (alone srv p.run w.log).1) (alone srv p.run w.log).2 :=
    alone_bind p.run (ExceptT.bindCont g) w.log
  have hrun := hm w hclient
  rw [halone]
  rcases hout : alone srv p.run w.log with ⟨r, log⟩
  rw [hout] at hrun
  rcases r with e | a
  · rw [Run.bind_error hrun]
    rfl
  · rw [Run.bind_ok hrun]
    exact hf a (withLog w log) hclient

theorem fetch_follows (info : FlightInfo) : Follows srv (readFirstEndpoint srv info) (fetch info) := by
  refine (Follows.compute _).bind fun ticket => Follows.bind ?_ fun reader => Follows.compute _
  refine Follows.call (q := .doGet ticket) fun w hclient => ?_
  rw [doGet, checkClosed_open hclient]
  rfl

/-- Executing a command and reading its result. -/
theorem executed_follows (command : Command) :
    Follows srv (do
      let info ← rpc (fun log => srv.getFlightInfo log command) (.flightInfo command)
      readFirstEndpoint srv info) (executed command) :=
  (Follows.call (q := .getFlightInfo command) fun _ _ => rfl).bind fetch_follows

/-- The world after a row: its log, and the handle the statement holds. -/
def afterRow (w : World) (handle : Bytes) (log : List Event) : World :=
  withLog (w.hold { w.statement with handle := handle }) log

/-- The put of a batch, and the handle taken up from its reply. -/
theorem bindBatch_alone {w : World} (handle : Bytes) (binding : RecordBatch) (hheld : w.statement.handle = handle) :
    (∃ updated, (alone srv (put handle binding).run w.log).1 = .ok updated ∧
      bindBatch srv handle binding (.preparedStatementQuery handle) w =
        (.ok (.preparedStatementQuery updated),
          afterRow w updated (alone srv (put handle binding).run w.log).2)) ∨
    ∃ e, (alone srv (put handle binding).run w.log).1 = .error e ∧
      bindBatch srv handle binding (.preparedStatementQuery handle) w =
        (.error e, afterRow w handle (alone srv (put handle binding).run w.log).2) := by
  subst hheld
  unfold bindBatch put
  by_cases hrows : binding.numRows > 0
  · rw [if_pos hrows, if_pos hrows]
    have halone : alone srv (call (.doPut w.statement.handle binding) >>= fun metadata =>
          (pure (boundHandle w.statement.handle metadata) : Driver Bytes)).run w.log =
        ((srv.doPut w.log w.statement.handle binding).map (boundHandle w.statement.handle),
          w.log ++ [.doPut w.statement.handle binding (srv.doPut w.log w.statement.handle binding)]) := by
      show alone srv (ExceptT.bindCont _ (srv.doPut w.log w.statement.handle binding))
        (w.log ++ [.doPut w.statement.handle binding (srv.doPut w.log w.statement.handle binding)]) = _
      rcases srv.doPut w.log w.statement.handle binding with e | metadata
      · rfl
      · rfl
    rw [halone]
    rcases hput : srv.doPut w.log w.statement.handle binding with e | metadata
    · exact Or.inr ⟨e, rfl, Run.bind_error (rpc_error hput)⟩
    · refine Or.inl ⟨_, rfl, ?_⟩
      rw [Run.bind_ok (rpc_ok hput), updateHandle, boundHandle]
      rcases updatedPreparedHandle (metadata.getD []) with _ | updated
      · rfl
      · rfl
  · rw [if_neg hrows, if_neg hrows]
    exact Or.inl ⟨_, rfl, rfl⟩

/-- **One row**: the method does to the log and the statement what the script says. -/
theorem row_alone {w : World} (hclient : w.clientClosed = false) (hopen : w.statement.closed = false)
    (params : List PyValue) :
    (do
      let info ← executeRow rt srv params
      readFirstEndpoint srv info : Method Payload) w =
      ((alone srv (row rt w.statement.parameterSchema w.statement.handle params) w.log).1.1,
        afterRow w (alone srv (row rt w.statement.parameterSchema w.statement.handle params) w.log).1.2
          (alone srv (row rt w.statement.parameterSchema w.statement.handle params) w.log).2) := by
  rw [row]
  rcases hbuild : buildParameterRecord rt.builder params w.statement.parameterSchema with e | binding
  · have hraise : executeRow rt srv params w = (.error e, w) := by
      rw [executeRow, Run.bind_ok (Run.gets_run _ w), hbuild]
      rfl
    rw [Run.bind_error hraise]
    rfl
  have hstart : (do
      let info ← executeRow rt srv params
      readFirstEndpoint srv info : Method Payload) w =
      (bindBatch srv w.statement.handle binding (.preparedStatementQuery w.statement.handle) >>= fun command =>
        (do
          let info ← rpc (fun log => srv.getFlightInfo log command) (.flightInfo command)
          readFirstEndpoint srv info : Method Payload)) w := by
    have hexec : executeRow rt srv params w =
        ((do
          let command ← bindBatch srv w.statement.handle binding
            (.preparedStatementQuery w.statement.handle)
          rpc (fun log => srv.getFlightInfo log command) (.flightInfo command)) :
            Method FlightInfo) w := by
      rw [executeRow, Run.bind_ok (Run.gets_run _ w), hbuild]
      show statementExecute srv binding w = _
      rw [statementExecute, checkClosed_open hopen, Run.bind_ok (Run.gets_run _ w)]
    rw [Run.bind_congr hexec, Run.bind_assoc]
  rw [hstart]
  have hscript : alone srv ((put w.statement.handle binding).run >>= afterPut w.statement.handle) w.log = _ :=
    alone_bind _ _ _
  rw [hscript]
  rcases @bindBatch_alone srv w w.statement.handle binding rfl with ⟨updated, hout, hput⟩ | ⟨e, hout, hput⟩
  · rw [Run.bind_ok hput, hout]
    generalize (alone srv (put w.statement.handle binding).run w.log).2 = log
    have hexecuted := @executed_follows srv (.preparedStatementQuery updated) (afterRow w updated log)
      hclient
    have halone : alone srv (afterPut w.statement.handle (.ok updated)) log = _ := alone_bind _ _ _
    rw [halone]
    exact hexecuted
  · rw [Run.bind_error hput, hout]
    rfl

/-- **The rows of `executemany`**, by induction on them. -/
theorem rows_alone (paramSeq : List (List PyValue)) :
    ∀ {w : World}, w.clientClosed = false → w.statement.closed = false →
      Run.forEach (executeAndDiscard rt srv) paramSeq w =
        ((alone srv (rows rt w.statement.parameterSchema w.statement.handle paramSeq) w.log).1.1,
          afterRow w (alone srv (rows rt w.statement.parameterSchema w.statement.handle paramSeq) w.log).1.2
            (alone srv (rows rt w.statement.parameterSchema w.statement.handle paramSeq) w.log).2) := by
  induction paramSeq with
  | nil =>
    intro w hclient hopen
    rfl
  | cons params rest ih =>
    intro w hclient hopen
    have hrow := @row_alone rt srv w hclient hopen params
    have halone : alone srv (rows rt w.statement.parameterSchema w.statement.handle (params :: rest)) w.log =
        _ := alone_bind _ _ _
    rw [halone]
    -- the result of the row is read and dropped
    have hdiscard : executeAndDiscard rt srv params w =
        ((do
          let info ← executeRow rt srv params
          readFirstEndpoint srv info : Method Payload) >>= fun _ => pure ()) w := by
      rw [Run.bind_assoc]
      rfl
    rcases hout : alone srv (row rt w.statement.parameterSchema w.statement.handle params) w.log with
      ⟨⟨r, handle⟩, log⟩
    rw [hout] at hrow
    rcases r with e | payload
    · rw [Run.forEach, Run.bind_error (by rw [hdiscard, Run.bind_error hrow])]
      rfl
    · have hdone : executeAndDiscard rt srv params w = (.ok (), afterRow w handle log) := by
        rw [hdiscard, Run.bind_ok hrow]
        rfl
      rw [Run.forEach, Run.bind_ok hdone]
      exact @ih (afterRow w handle log) hclient hopen

/-- A method ends as its script: with a result that is `stored` in the cursor, or with its exception. -/
def EndsAs {α : Type} (stored : α → Cursor → Prop) : Except Exn α → Except Exn Unit × World → Prop
  | .ok a, out => out.1 = .ok () ∧ stored a out.2.cursor
  | .error e, out => out.1 = .error e

/-- **The block of a statement follows a script.** -/
structure BlockFollows {α : Type} (srv : Server) (stored : α → Cursor → Prop) (m : Method Unit)
    (body : PreparedStatement → Script Call Reply (Except Exn α × Bytes)) (w : World) : Prop where
  ends : EndsAs stored (alone srv (body w.statement) w.log).1.1 (m w)
  log : (m w).2.log = (alone srv (body w.statement) w.log).2
  handle : (m w).2.statement.handle = (alone srv (body w.statement) w.log).1.2
  opened : (m w).2.statement.closed = false

/-- The exit of the block. -/
theorem closing_alone {α : Type} {stored : α → Cursor → Prop} {m : Method Unit}
    {body : PreparedStatement → Script Call Reply (Except Exn α × Bytes)} {w : World}
    (h : BlockFollows srv stored m body w) :
    EndsAs stored
        (alone srv (closing (alone srv (body w.statement) w.log).1) (alone srv (body w.statement) w.log).2).1
        (Run.withExit m (statementClose srv) w) ∧
      (Run.withExit m (statementClose srv) w).2.log =
        (alone srv (closing (alone srv (body w.statement) w.log).1) (alone srv (body w.statement) w.log).2).2 := by
  obtain ⟨hends, hlog, hhandle, hopened⟩ := h
  generalize hout : alone srv (body w.statement) w.log = out at hends hlog hhandle
  obtain ⟨⟨r, handle⟩, log⟩ := out
  have hclosing : alone srv (closing (r, handle)) log =
      (srv.closePreparedStatement log handle >>= fun _ => r,
        log ++ [.closePrepared handle (srv.closePreparedStatement log handle)]) := rfl
  rw [hclosing]
  subst hlog hhandle
  rcases hreply : srv.closePreparedStatement (m w).2.log (m w).2.statement.handle with e | u
  · have hclose : statementClose srv (m w).2 =
        (.error e, (m w).2.record (.closePrepared (m w).2.statement.handle (.error e))) := by
      rw [statementClose, checkClosed_open hopened, Run.bind_ok (Run.gets_run _ _),
        Run.bind_error (rpc_error hreply)]
    have hraises : (Run.withExit m (statementClose srv) w).1 = .error e :=
      Run.withExit_raises (by rw [hclose])
    rw [Run.withExit_snd, hclose]
    exact ⟨hraises, rfl⟩
  · have hclose : statementClose srv (m w).2 =
        (.ok (), ((m w).2.record (.closePrepared (m w).2.statement.handle (.ok ()))).hold
          { (m w).2.statement with closed := true }) := by
      rw [statementClose, checkClosed_open hopened, Run.bind_ok (Run.gets_run _ _), Run.bind_ok (rpc_ok hreply)]
      rfl
    have hfirst : (Run.withExit m (statementClose srv) w).1 = (m w).1 :=
      Run.withExit_fst (u := ()) (by rw [hclose])
    have hcursor : (Run.withExit m (statementClose srv) w).2.cursor = (m w).2.cursor := by
      rw [Run.withExit_snd, hclose]
      rfl
    refine ⟨?_, by rw [Run.withExit_snd, hclose]; rfl⟩
    show EndsAs stored r _
    rcases r with e | a
    · rw [EndsAs, hfirst]
      exact hends
    · rw [EndsAs, hfirst, hcursor]
      exact hends

/-- **The `with` statement** follows its script if its block does: the close comes last, and an exception of
    its own is the outcome. -/
theorem prepared_alone {α : Type} {stored : α → Cursor → Prop} {m : Method Unit} {query : String}
    {body : PreparedStatement → Script Call Reply (Except Exn α × Bytes)} {w : World}
    (hclient : w.clientClosed = false)
    (hbody : ∀ w', w'.clientClosed = false → w'.statement.closed = false → w'.cursor = w.cursor →
      BlockFollows srv stored m body w') :
    EndsAs stored (alone srv (prepared rt query body) w.log).1 (withPrepared rt srv query m w) ∧
      (withPrepared rt srv query m w).2.log = (alone srv (prepared rt query body) w.log).2 := by
  have halone : alone srv (prepared rt query body) w.log =
      alone srv (withStatement body (srv.createPreparedStatement w.log query >>= preparedStatement rt))
        (w.log ++ [.createPrepared query (srv.createPreparedStatement w.log query)]) := alone_bind _ _ _
  rw [halone, withPrepared]
  rcases hreply : srv.createPreparedStatement w.log query with e | result
  · have hraise : prepare rt srv query w = (.error e, w.record (.createPrepared query (.error e))) := by
      rw [prepare, Run.bind_error (rpc_error hreply)]
    rw [Run.bind_error hraise]
    exact ⟨rfl, rfl⟩
  have hok : (Except.ok result >>= preparedStatement rt) = preparedStatement rt result := rfl
  rw [hok]
  rcases hstatement : preparedStatement rt result with e | statement
  · have hraise : prepare rt srv query w = (.error e, w.record (.createPrepared query (.ok result))) := by
      rw [prepare, Run.bind_ok (rpc_ok hreply), hstatement]
      rfl
    rw [Run.bind_error hraise]
    exact ⟨rfl, rfl⟩
  · obtain ⟨r, -, -, hopen, -⟩ := preparedStatement_eq_ok hstatement
    have hblock := hbody ((w.record (.createPrepared query (.ok result))).hold statement) hclient hopen rfl
    have hscript : alone srv (withStatement body (.ok statement)) (w.log ++ [.createPrepared query (.ok result)]) =
        _ := alone_bind _ _ _
    rw [Run.bind_ok (prepare_ok hreply hstatement), hscript]
    exact closing_alone hblock

/-- What a cursor holds after an operation. -/
def Holds : Option Results → Cursor → Prop
  | some results, c => c.results = results.1 ∧ c.description = some results.2
  | none, c => c.results = [] ∧ c.description = none

theorem EndsAs.map {α β : Type} {stored : β → Cursor → Prop} {f : α → β} {r : Except Exn α}
    {out : Except Exn Unit × World} (h : EndsAs (fun a => stored (f a)) r out) :
    EndsAs stored (r.map f) out := by
  rcases r with e | a
  · exact h
  · exact h

theorem EndsAs.translated {α : Type} {stored : α → Cursor → Prop} {r : Except Exn α} {m : Method Unit} {w : World}
    (h : EndsAs stored r (m w)) : EndsAs stored (r.mapError FlightSql.translated) (translateErrors m w) := by
  rcases r with e | a
  · exact translateErrors_error h
  · obtain ⟨hok, hstored⟩ := h
    rw [translateErrors_ok (Prod.ext hok rfl)]
    exact ⟨rfl, hstored⟩

/-- Storing a result: what the script computes from it is what the cursor then holds. -/
theorem storeResults_follows (payload : Payload) (w : World) :
    EndsAs (fun r => Holds (some r)) (toResults rt payload) (storeResults rt payload w) ∧
      (storeResults rt payload w).2.log = w.log ∧ (storeResults rt payload w).2.statement = w.statement := by
  rw [toResults, storeResults]
  rcases htable : asTable payload with e | table
  · exact ⟨rfl, rfl, rfl⟩
  rcases hresults : dbapiResults rt.pa rt.asPy table with e | out
  · rw [Run.bind_ok (show Run.ofExcept (.ok table) w = (.ok table, w) from rfl), hresults]
    have hraise : (Except.ok table >>= fun table => dbapiResults rt.pa rt.asPy table) = .error e := hresults
    rw [hraise]
    exact ⟨rfl, rfl, rfl⟩
  · rw [Run.bind_ok (show Run.ofExcept (.ok table) w = (.ok table, w) from rfl), hresults]
    have hreturn : (Except.ok table >>= fun table => dbapiResults rt.pa rt.asPy table) = .ok out := hresults
    rw [hreturn]
    exact ⟨⟨rfl, rfl, rfl⟩, rfl, rfl⟩

/-- The direct path. -/
theorem direct_alone {w : World} (hclient : w.clientClosed = false) (query : String) :
    EndsAs (fun r => Holds (some r)) (alone srv (direct rt query).run w.log).1
        ((do
          let info ← clientExecute srv query
          let payload ← readFirstEndpoint srv info
          storeResults rt payload : Method Unit) w) ∧
      ((do
          let info ← clientExecute srv query
          let payload ← readFirstEndpoint srv info
          storeResults rt payload : Method Unit) w).2.log = (alone srv (direct rt query).run w.log).2 := by
  have hread : (clientExecute srv query >>= readFirstEndpoint srv) w =
      ((alone srv (executed (.statementQuery query)).run w.log).1,
        withLog w (alone srv (executed (.statementQuery query)).run w.log).2) := by
    rw [← executed_follows (.statementQuery query) w hclient]
    refine Run.bind_congr ?_
    rw [clientExecute, getFlightInfo, checkClosed_open hclient]
  have halone : alone srv (direct rt query).run w.log = alone srv
      (ExceptT.bindCont (fun payload => compute (toResults rt payload))
        (alone srv (executed (.statementQuery query)).run w.log).1)
      (alone srv (executed (.statementQuery query)).run w.log).2 :=
    alone_bind (executed (.statementQuery query)).run _ w.log
  rw [halone]
  show EndsAs _ _ ((clientExecute srv query >>= fun info => readFirstEndpoint srv info >>= storeResults rt) w) ∧
    ((clientExecute srv query >>= fun info => readFirstEndpoint srv info >>= storeResults rt) w).2.log = _
  rw [← Run.bind_assoc]
  rcases hout : alone srv (executed (.statementQuery query)).run w.log with ⟨r, log⟩
  rw [hout] at hread
  rcases r with e | payload
  · rw [Run.bind_error hread]
    exact ⟨rfl, rfl⟩
  · rw [Run.bind_ok hread]
    obtain ⟨hends, hlog, -⟩ := @storeResults_follows rt payload (withLog w log)
    exact ⟨hends, hlog⟩

/-- The block of `execute`. -/
theorem executeBlock_alone (params : List PyValue) {w : World} (hclient : w.clientClosed = false)
    (hopen : w.statement.closed = false) :
    BlockFollows srv (fun r => Holds (some r))
      (do
        let info ← executeRow rt srv params
        let payload ← readFirstEndpoint srv info
        storeResults rt payload : Method Unit)
      (executeBlock rt params) w := by
  have hrow := @row_alone rt srv w hclient hopen params
  have halone : alone srv (executeBlock rt params w.statement) w.log = _ := alone_bind _ _ _
  have hassoc : (do
        let info ← executeRow rt srv params
        let payload ← readFirstEndpoint srv info
        storeResults rt payload : Method Unit) =
      (executeRow rt srv params >>= readFirstEndpoint srv) >>= storeResults rt := by
    rw [Run.bind_assoc]
  rw [hassoc]
  rcases hout : alone srv (row rt w.statement.parameterSchema w.statement.handle params) w.log with
    ⟨⟨r, handle⟩, log⟩
  rw [hout] at hrow halone
  have hscript : alone srv (executeBlock rt params w.statement) w.log =
      ((r >>= toResults rt, handle), log) := halone
  rcases r with e | payload
  · have hraise : ((executeRow rt srv params >>= readFirstEndpoint srv) >>= storeResults rt) w = _ :=
      Run.bind_error hrow
    constructor
    case ends =>
      rw [hraise, hscript]
      rfl
    case log => rw [hraise, hscript]; rfl
    case handle => rw [hraise, hscript]; rfl
    case opened => rw [hraise]; exact hopen
  · have hstore : ((executeRow rt srv params >>= readFirstEndpoint srv) >>= storeResults rt) w = _ :=
      Run.bind_ok hrow
    obtain ⟨hends, hlog, hstatement⟩ := @storeResults_follows rt payload (afterRow w handle log)
    constructor
    case ends =>
      rw [hstore, hscript]
      exact hends
    case log => rw [hstore, hscript]; exact hlog
    case handle => rw [hstore, hscript, hstatement]; rfl
    case opened => rw [hstore, hstatement]; exact hopen

/-- The block of `executemany` leaves the cursor as it was reset. -/
theorem rowsBlock_alone (paramSeq : List (List PyValue)) {w : World} (hclient : w.clientClosed = false)
    (hopen : w.statement.closed = false) (hreset : Holds none w.cursor) :
    BlockFollows srv (fun _ => Holds none) (Run.forEach (executeAndDiscard rt srv) paramSeq)
      (fun statement => rows rt statement.parameterSchema statement.handle paramSeq) w := by
  have hrows := @rows_alone rt srv paramSeq w hclient hopen
  rcases hout : alone srv (rows rt w.statement.parameterSchema w.statement.handle paramSeq) w.log with
    ⟨⟨r, handle⟩, log⟩
  rw [hout] at hrows
  constructor
  case ends =>
    rw [hrows, hout]
    rcases r with e | u
    · rfl
    · exact ⟨rfl, hreset⟩
  case log => rw [hrows, hout]; rfl
  case handle => rw [hrows, hout]; rfl
  case opened => rw [hrows]; exact hopen

/-- **`execute`**, alone at a server. -/
theorem executeScript_alone {w : World} (hcursor : w.cursor.closed = false) (hclient : w.clientClosed = false)
    (query : String) (params : Option (List PyValue)) :
    EndsAs (fun r => Holds (some r)) (alone srv (executeScript rt query params) w.log).1
        (execute rt srv query params w) ∧
      (execute rt srv query params w).2.log = (alone srv (executeScript rt query params) w.log).2 := by
  have halone : alone srv (executeScript rt query params) w.log = _ := alone_bind _ _ _
  rw [halone, execute, checkClosed_open hcursor, translateErrors_snd]
  by_cases hempty : (params.getD []).length = 0
  · have hblock := @direct_alone rt srv (resetCursor w).2 hclient query
    rw [if_pos hempty, if_pos hempty]
    exact ⟨EndsAs.translated (m := resetCursor >>= fun _ => runDirect rt srv query) hblock.1, hblock.2⟩
  · have hblock := @prepared_alone rt srv _ _ _ query _ (resetCursor w).2 hclient fun w' hclient' hopen _ =>
      @executeBlock_alone rt srv (params.getD []) w' hclient' hopen
    rw [if_neg hempty, if_neg hempty]
    exact ⟨EndsAs.translated (m := resetCursor >>= fun _ =>
      withPrepared rt srv query (runPrepared rt srv (params.getD []))) hblock.1, hblock.2⟩

/-- **`executemany`**, alone at a server. -/
theorem executemanyScript_alone {w : World} (hcursor : w.cursor.closed = false)
    (hclient : w.clientClosed = false) (query : String) (paramSeq : Option (List (List PyValue))) :
    EndsAs Holds (alone srv (executemanyScript rt query paramSeq) w.log).1 (executemany rt srv query paramSeq w) ∧
      (executemany rt srv query paramSeq w).2.log = (alone srv (executemanyScript rt query paramSeq) w.log).2 := by
  have halone : alone srv (executemanyScript rt query paramSeq) w.log = _ := alone_bind _ _ _
  rw [halone, executemany, checkClosed_open hcursor, translateErrors_snd]
  by_cases hempty : (paramSeq.getD []).length = 0
  · have hblock := @executeScript_alone rt srv (resetCursor w).2 hcursor hclient query none
    have hmap : alone srv (executeScript rt query none >>= fun r => pure (r.map some)) w.log = _ :=
      alone_bind _ _ _
    rw [if_pos hempty, if_pos hempty, hmap]
    exact ⟨EndsAs.translated (m := resetCursor >>= fun _ => execute rt srv query none) hblock.1.map, hblock.2⟩
  · have hblock := @prepared_alone rt srv _ _ _ query _ (resetCursor w).2 hclient fun w' hclient' hopen hsame =>
      @rowsBlock_alone rt srv (paramSeq.getD []) w' hclient' hopen (by rw [hsame]; exact ⟨rfl, rfl⟩)
    have hmap : alone srv (prepared rt query (fun statement =>
        rows rt statement.parameterSchema statement.handle (paramSeq.getD [])) >>= fun r =>
      (pure (r.map fun _ => none) : Script Call Reply (Except Exn (Option Results)))) w.log = _ := alone_bind _ _ _
    rw [if_neg hempty, if_neg hempty, hmap]
    exact ⟨EndsAs.translated (m := resetCursor >>= fun _ =>
      withPrepared rt srv query (Run.forEach (executeAndDiscard rt srv) (paramSeq.getD [])))
      (EndsAs.map hblock.1), hblock.2⟩

/-- **A method is its script**: on an open cursor of an open client, and whatever the server does, it sends
    the requests of the script in its order and ends as the script does, with what the script came to in the
    cursor. -/
theorem operation_alone {w : World} (hcursor : w.cursor.closed = false) (hclient : w.clientClosed = false)
    (op : Operation) :
    EndsAs Holds (alone srv (op.script rt) w.log).1 (op.method rt srv w) ∧
      (op.method rt srv w).2.log = (alone srv (op.script rt) w.log).2 := by
  rcases op with ⟨query, params⟩ | ⟨query, paramSeq⟩
  · have hblock := @executeScript_alone rt srv w hcursor hclient query params
    have hmap : alone srv (Operation.script rt (.execute query params)) w.log = _ := alone_bind _ _ _
    rw [hmap]
    exact ⟨hblock.1.map, hblock.2⟩
  · exact executemanyScript_alone hcursor hclient query paramSeq

/-- The server that is gone when the statement is closed: the script raises too, and its log is the same. -/
theorem operation_alone_goneAtClose :
    EndsAs Holds (alone .goneAtClose (Operation.script .reference
          (.execute "SELECT id FROM t WHERE id = ?" (some [.int 7]))) []).1
        (Operation.method .reference .goneAtClose (.execute "SELECT id FROM t WHERE id = ?" (some [.int 7])) .initial) ∧
      (Operation.method .reference .goneAtClose
          (.execute "SELECT id FROM t WHERE id = ?" (some [.int 7])) .initial).2.log =
        (alone .goneAtClose (Operation.script .reference
          (.execute "SELECT id FROM t WHERE id = ?" (some [.int 7]))) []).2 :=
  @operation_alone .reference .goneAtClose .initial rfl rfl (.execute "SELECT id FROM t WHERE id = ?" (some [.int 7]))

end FlightSql.Sessions
