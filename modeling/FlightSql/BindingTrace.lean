/-
  Which parameters each execution of `executemany` runs under.

  A server either keeps a binding with the handle it was sent or answers the put with a new handle
  that carries it.  Both are one notion over the log: `bindings log h` is the batch last put under
  handle `h`.  `executions` reads off the log, in order, what every execution ran under.

  The source binds a row with a DoPut only when its batch has rows, and the batch of the EMPTY row
  has none.  So the empty row runs under whatever the previous row left bound, and the empty sequence
  is executed once instead of not at all.  `executemany_executions` says what the code does;
  `executemany_runsEachRow_iff` says when that is one execution a row under the row's own binding.
-/
import Mathlib.Data.List.TakeWhile
import FlightSql.Reference
import FlightSql.HandleTrace

set_option linter.unusedVariables false

namespace FlightSql

open Arrow Lib Lib.Wire PreparedHandle

/-! ## Bindings in the log -/

/-- The handle a completed put leaves its binding under. -/
def boundHandle (sent : Bytes) (metadata : Option Bytes) : Bytes :=
  (updatedPreparedHandle (metadata.getD [])).getD sent

/-- What is bound to each handle after one more event: a new statement starts unbound. -/
def Event.binds (bound : Bytes → Option RecordBatch) : Event → Bytes → Option RecordBatch
  | .createPrepared _ (.ok (some r)) => fun h => if h = r.handle then none else bound h
  | .doPut sent batch (.ok metadata) => fun h =>
    if h = boundHandle sent metadata then some batch else bound h
  | _ => bound

/-- **What is bound to each handle.** -/
def bindings (log : List Event) : Bytes → Option RecordBatch :=
  log.foldl Event.binds fun _ => none

theorem bindings_snoc (log : List Event) (e : Event) :
    bindings (log ++ [e]) = e.binds (bindings log) := by
  rw [bindings, List.foldl_append]
  rfl

/-- The binding an event executes a query under, when it executes one. -/
def Event.execution (bound : Bytes → Option RecordBatch) : Event → List (Option RecordBatch)
  | .flightInfo (.preparedStatementQuery h) _ => [bound h]
  | .flightInfo (.statementQuery _) _ => [none]
  | _ => []

/-- **The executions in `evs`**, each with its binding, the log being `before` at the start. -/
def executions : List Event → List Event → List (Option RecordBatch)
  | _, [] => []
  | before, e :: evs => e.execution (bindings before) ++ executions (before ++ [e]) evs

theorem executions_append (before xs ys : List Event) :
    executions before (xs ++ ys) = executions before xs ++ executions (before ++ xs) ys := by
  induction xs generalizing before with
  | nil => rw [List.append_nil]; rfl
  | cons e xs ih =>
    rw [List.cons_append, executions, executions, ih, List.append_assoc, List.append_assoc]
    rfl

/-! ## One row -/

/-- A server that answers everything a statement sends: puts, executions, reads. -/
structure Server.Answers (srv : Server) : Prop where
  doPut : ∀ log h batch, ∃ metadata, srv.doPut log h batch = .ok metadata
  flightInfo : ∀ log command, ∃ info ticket,
    srv.getFlightInfo log command = .ok info ∧ firstTicket info = .ok ticket
  doGet : ∀ log ticket, ∃ reader payload,
    srv.doGet log ticket = .ok reader ∧ readAll reader = .ok payload

/-- The binding of a row of its own: its batch, or nothing for the empty row. -/
def ownBinding (rt : Runtime) (schema : Option Schema) (row : List PyValue) : Option RecordBatch :=
  if row = [] then none else (buildParameterRecord rt.builder row schema).toOption

/-- **The invariant of the row loop**: an open statement of some parameter schema, with `last` bound to
    the handle it holds. -/
structure InLoop (schema : Option Schema) (last : Option RecordBatch) (w : World) : Prop where
  client : w.clientClosed = false
  opened : w.statement.closed = false
  schema : w.statement.parameterSchema = schema
  bound : bindings w.log w.statement.handle = last

/-- A read changes no binding and executes nothing. -/
theorem InLoop.record {schema : Option Schema} {last : Option RecordBatch} {w : World} {e : Event}
    (hw : InLoop schema last w) (he : ∀ b, e.binds b = b) : InLoop schema last (w.record e) := by
  refine ⟨hw.client, hw.opened, hw.schema, ?_⟩
  show bindings (w.log ++ [e]) w.statement.handle = last
  rw [bindings_snoc, he]
  exact hw.bound

/-- **Executing the statement's handle** and reading the first endpoint: one execution, under what is
    bound. -/
theorem executeHandle_ok {srv : Server} (hsrv : srv.Answers) {schema : Option Schema}
    {last : Option RecordBatch} {w : World} (hw : InLoop schema last w) :
    ∃ w', ((do
        let info ← rpc (fun log => srv.getFlightInfo log
          (.preparedStatementQuery w.statement.handle))
          (.flightInfo (.preparedStatementQuery w.statement.handle))
        let payload ← readFirstEndpoint srv info
        pure ()) : Method Unit) w = (.ok (), w') ∧
      InLoop schema last w' ∧
      ∃ evs, w'.log = w.log ++ evs ∧ executions w.log evs = [last] := by
  obtain ⟨info, ticket, hinfo, hticket⟩ :=
    hsrv.flightInfo w.log (.preparedStatementQuery w.statement.handle)
  let e₁ : Event := .flightInfo (.preparedStatementQuery w.statement.handle) (.ok info)
  obtain ⟨reader, payload, hreader, hpayload⟩ := hsrv.doGet (w.log ++ [e₁]) ticket
  let e₂ : Event := .doGet ticket (.ok reader)
  have hw₁ : InLoop schema last (w.record e₁) := hw.record fun _ => rfl
  refine ⟨(w.record e₁).record e₂, ?_, hw₁.record fun _ => rfl, [e₁, e₂], ?_, ?_⟩
  · rw [Run.bind_ok (rpc_ok hinfo),
      Run.bind_ok (readFirstEndpoint_ok hw₁.client hticket hreader hpayload)]
    rfl
  · show (w.log ++ [e₁]) ++ [e₂] = w.log ++ [e₁, e₂]
    rw [List.append_assoc]
    rfl
  · show [bindings w.log w.statement.handle] ++ [] = [last]
    rw [hw.bound]
    rfl

/-- **The put of a row**: afterwards its batch is bound to the handle the statement holds. -/
theorem putRow_ok {srv : Server} (hsrv : srv.Answers) {schema : Option Schema}
    {last : Option RecordBatch} {w : World} (hw : InLoop schema last w) {batch : RecordBatch}
    (hrows : batch.numRows > 0) :
    ∃ w', bindBatch srv w.statement.handle batch (.preparedStatementQuery w.statement.handle) w =
        (.ok (.preparedStatementQuery w'.statement.handle), w') ∧
      InLoop schema (some batch) w' ∧
      ∃ e, w'.log = w.log ++ [e] ∧ ∀ b, e.execution b = [] := by
  obtain ⟨metadata, hreply⟩ := hsrv.doPut w.log w.statement.handle batch
  let e : Event := .doPut w.statement.handle batch (.ok metadata)
  have hbound : ∀ h, h = boundHandle w.statement.handle metadata →
      bindings (w.log ++ [e]) h = some batch := by
    intro h hh
    rw [bindings_snoc]
    show (if h = boundHandle w.statement.handle metadata then some batch else _) = _
    rw [if_pos hh]
  rw [bindBatch, if_pos hrows, Run.bind_ok (rpc_ok hreply), updateHandle]
  cases hup : updatedPreparedHandle (metadata.getD []) with
  | none =>
    have hkeep : w.statement.handle = boundHandle w.statement.handle metadata := by
      rw [boundHandle, hup]
      rfl
    exact ⟨w.record e, rfl, ⟨hw.client, hw.opened, hw.schema, hbound _ hkeep⟩, e, rfl, fun _ => rfl⟩
  | some updated =>
    have hnew : updated = boundHandle w.statement.handle metadata := by
      rw [boundHandle, hup]
      rfl
    exact ⟨(w.record e).hold { w.statement with handle := updated }, rfl,
      ⟨hw.client, hw.opened, hw.schema, hbound _ hnew⟩, e, rfl, fun _ => rfl⟩

/-- **One row**: it runs once, under its own binding if it has one, else under the one before. -/
theorem executeAndDiscard_ok {rt : Runtime} {srv : Server} (hsrv : srv.Answers)
    {schema : Option Schema} {last : Option RecordBatch} {w : World} (hw : InLoop schema last w)
    {row : List PyValue} {batch : RecordBatch}
    (hrow : buildParameterRecord rt.builder row schema = .ok batch) :
    ∃ w', executeAndDiscard rt srv row w = (.ok (), w') ∧
      InLoop schema ((ownBinding rt schema row).or last) w' ∧
      ∃ evs, w'.log = w.log ++ evs ∧
        executions w.log evs = [(ownBinding rt schema row).or last] := by
  -- what is left of the row once its batch is built
  have hstart : executeAndDiscard rt srv row w =
      ((do
        let command ← bindBatch srv w.statement.handle batch
          (.preparedStatementQuery w.statement.handle)
        let info ← rpc (fun log => srv.getFlightInfo log command) (.flightInfo command)
        let payload ← readFirstEndpoint srv info
        pure ()) : Method Unit) w := by
    have hexec : executeRow rt srv row w =
        ((do
          let command ← bindBatch srv w.statement.handle batch
            (.preparedStatementQuery w.statement.handle)
          rpc (fun log => srv.getFlightInfo log command) (.flightInfo command)) :
            Method FlightInfo) w := by
      rw [executeRow, Run.bind_ok (Run.gets_run _ w), hw.schema, hrow]
      show statementExecute srv batch w = _
      rw [statementExecute, checkClosed_open hw.opened, Run.bind_ok (Run.gets_run _ w)]
    rw [executeAndDiscard, Run.bind_congr hexec, Run.bind_assoc]
  by_cases hempty : row = []
  · -- no rows in the batch: no put, the handle keeps its binding
    subst hempty
    rw [buildParameterRecord_nil] at hrow
    cases hrow
    obtain ⟨w', hrun, hw', evs, hevs, hexec⟩ := executeHandle_ok hsrv hw
    rw [hstart, Run.bind_ok (show bindBatch srv w.statement.handle ⟨⟨[], []⟩, []⟩
      (.preparedStatementQuery w.statement.handle) w =
        (.ok (.preparedStatementQuery w.statement.handle), w) from rfl)]
    exact ⟨w', hrun, hw', evs, hevs, hexec⟩
  · have hone := numRows_buildParameterRecord hempty hrow
    have hown : ownBinding rt schema row = some batch := by
      rw [ownBinding, if_neg hempty, hrow]
      rfl
    obtain ⟨w₁, hput, hw₁, e, hlog, hnone⟩ := putRow_ok hsrv hw (show batch.numRows > 0 by omega)
    obtain ⟨w', hrun, hw', evs, hevs, hexec⟩ := executeHandle_ok hsrv hw₁
    rw [hstart, Run.bind_ok hput, hown]
    refine ⟨w', hrun, hw', e :: evs, ?_, ?_⟩
    · rw [hevs, hlog, List.append_assoc]
      rfl
    · rw [executions, hnone, ← hlog]
      exact hexec

/-! ## The whole sequence -/

/-- What the rows run under when an unbound row keeps the binding before it. -/
def carried (rt : Runtime) (schema : Option Schema) :
    Option RecordBatch → List (List PyValue) → List (Option RecordBatch)
  | _, [] => []
  | last, row :: rows =>
    (ownBinding rt schema row).or last ::
      carried rt schema ((ownBinding rt schema row).or last) rows

/-- A row that a parameter batch can be built of. -/
def bindable (rt : Runtime) (schema : Option Schema) (row : List PyValue) : Bool :=
  (buildParameterRecord rt.builder row schema).toOption.isSome

theorem bindable_iff {rt : Runtime} {schema : Option Schema} {row : List PyValue} :
    bindable rt schema row = true ↔ ∃ batch, buildParameterRecord rt.builder row schema = .ok batch := by
  rw [bindable]
  cases buildParameterRecord rt.builder row schema with
  | ok batch => simp [Except.toOption]
  | error e => simp [Except.toOption]

/-- A row that cannot be bound raises before anything is sent. -/
theorem executeAndDiscard_error {rt : Runtime} (srv : Server) {schema : Option Schema}
    {last : Option RecordBatch} {w : World} (hw : InLoop schema last w) {row : List PyValue}
    (hrow : bindable rt schema row ≠ true) : ∃ e, executeAndDiscard rt srv row w = (.error e, w) := by
  cases hbuild : buildParameterRecord rt.builder row schema with
  | ok batch => exact absurd (bindable_iff.mpr ⟨batch, hbuild⟩) hrow
  | error e =>
    have hexec : executeRow rt srv row w = (.error e, w) := by
      rw [executeRow, Run.bind_ok (Run.gets_run _ w), hw.schema, hbuild]
      rfl
    exact ⟨e, by rw [executeAndDiscard, Run.bind_error hexec]⟩

/-- **The row loop**: by induction on the rows, each executed once, up to the first that cannot be
    bound. -/
theorem forEach_executions (rt : Runtime) {srv : Server} (hsrv : srv.Answers)
    {schema : Option Schema} (rows : List (List PyValue)) :
    ∀ {last : Option RecordBatch} {w : World}, InLoop schema last w →
      ∃ evs, (Run.forEach (executeAndDiscard rt srv) rows w).2.log = w.log ++ evs ∧
        (Run.forEach (executeAndDiscard rt srv) rows w).2.statement.closed = false ∧
        executions w.log evs = carried rt schema last (rows.takeWhile (bindable rt schema)) := by
  induction rows with
  | nil => exact fun {_ w} hw => ⟨[], (List.append_nil _).symm, hw.opened, rfl⟩
  | cons row rows ih =>
    intro last w hw
    by_cases hrow : bindable rt schema row = true
    · obtain ⟨batch, hbatch⟩ := bindable_iff.mp hrow
      obtain ⟨w', hrun, hw', evs, hevs, hexec⟩ := executeAndDiscard_ok hsrv hw hbatch
      obtain ⟨evs', hevs', hopen, hexec'⟩ := ih hw'
      rw [Run.forEach, Run.bind_ok hrun, List.takeWhile_cons, if_pos hrow]
      refine ⟨evs ++ evs', ?_, hopen, ?_⟩
      · rw [hevs', hevs, List.append_assoc]
      · rw [executions_append, hexec, ← hevs, hexec']
        rfl
    · obtain ⟨e, hrun⟩ := executeAndDiscard_error srv hw hrow
      rw [Run.forEach, Run.bind_error hrun, List.takeWhile_cons, if_neg hrow]
      exact ⟨[], (List.append_nil _).symm, hw.opened, rfl⟩

/-- **What the code does with a nonempty sequence**: it executes row by row, an unbound row under the
    binding before it. -/
theorem executemany_executions {rt : Runtime} {srv : Server} (hsrv : srv.Answers) {query : String}
    {rows : List (List PyValue)} {w : World} {result : Option PreparedResult}
    {statement : PreparedStatement} (hcursor : w.cursor.closed = false)
    (hclient : w.clientClosed = false)
    (hreply : srv.createPreparedStatement w.log query = .ok result)
    (hstatement : preparedStatement rt result = .ok statement) (hne : rows ≠ []) :
    ∃ evs, (executemany rt srv query (some rows) w).2.log = w.log ++ evs ∧
      executions w.log evs = carried rt statement.parameterSchema none
        (rows.takeWhile (bindable rt statement.parameterSchema)) := by
  obtain ⟨r, rfl, hhandle, hopen, _⟩ := preparedStatement_eq_ok hstatement
  let create : Event := .createPrepared query (.ok (some r))
  let w₀ : World := (((resetCursor w).2).record create).hold statement
  -- the new statement starts with nothing bound to its handle
  have hstart : InLoop statement.parameterSchema none w₀ := by
    refine ⟨hclient, hopen, rfl, ?_⟩
    show bindings (w.log ++ [create]) statement.handle = none
    rw [bindings_snoc, hhandle]
    show (if r.handle = r.handle then none else _) = none
    rw [if_pos rfl]
  obtain ⟨evs, hevs, hlive, hexec⟩ := forEach_executions rt hsrv rows hstart
  have hrun : (executemany rt srv query (some rows) w).2 =
      (statementClose srv (Run.forEach (executeAndDiscard rt srv) rows w₀).2).2 := by
    rw [executemany, checkClosed_open hcursor, translateErrors_snd]
    show ((if rows.length = 0 then _ else _ : Method Unit) (resetCursor w).2).2 = _
    rw [if_neg (fun h => hne (List.eq_nil_of_length_eq_zero h)), withPrepared,
      Run.bind_ok (prepare_ok (w := (resetCursor w).2) hreply hstatement), Run.withExit_snd]
    rfl
  let w₁ : World := (Run.forEach (executeAndDiscard rt srv) rows w₀).2
  let close : Event := .closePrepared w₁.statement.handle
    (srv.closePreparedStatement w₁.log w₁.statement.handle)
  have hclose : (executemany rt srv query (some rows) w).2.log =
      w.log ++ [create] ++ evs ++ [close] := by
    rw [hrun, statementClose_log srv hlive, ← show w₁.log = w.log ++ [create] ++ evs from hevs]
  refine ⟨create :: (evs ++ [close]), ?_, ?_⟩
  · rw [hclose, List.append_assoc, List.append_assoc]
    rfl
  · show executions (w.log ++ [create]) (evs ++ [close]) = _
    have hlast : executions (w.log ++ [create] ++ evs) [close] = [] := rfl
    rw [executions_append, hlast, List.append_nil, ← hexec]
    rfl

/-- Reading a result only adds to the log. -/
theorem readResults_prefix (rt : Runtime) (srv : Server) (info : FlightInfo) (base : List Event) :
    Run.Keeps (fun w => base <+: w.log) (do
      let payload ← readFirstEndpoint srv info
      storeResults rt payload) := by
  refine (readFirstEndpoint_keeps srv info fun w _ _ hw => ?_).bind fun payload => ?_
  · exact hw.trans (List.prefix_append _ _)
  · exact storeResults_keeps rt payload fun w _ _ hw => hw

/-- An empty sequence is executed once, as a query without parameters. -/
theorem executemany_nil_executions (rt : Runtime) {srv : Server} {query : String} {w : World}
    (hcursor : w.cursor.closed = false) (hclient : w.clientClosed = false) :
    ∃ evs, (executemany rt srv query (some []) w).2.log = w.log ++ evs ∧
      ∃ more, executions w.log evs = none :: more := by
  let w₀ : World := (resetCursor w).2
  let e : Event := .flightInfo (.statementQuery query)
    (srv.getFlightInfo w.log (.statementQuery query))
  have hrun : (executemany rt srv query (some []) w).2 =
      ((do
        let info ← clientExecute srv query
        let payload ← readFirstEndpoint srv info
        storeResults rt payload : Method Unit) w₀).2 := by
    rw [executemany, checkClosed_open hcursor, translateErrors_snd]
    show (execute rt srv query none w₀).2 = _
    rw [execute, checkClosed_open (w := w₀) hcursor, translateErrors_snd]
    rfl
  have hprefix : w.log ++ [e] <+: (executemany rt srv query (some []) w).2.log := by
    rw [hrun]
    refine Run.Keeps.after (I := fun w' : World => w.log ++ [e] <+: w'.log) ?_ fun info =>
      readResults_prefix rt srv info _
    rw [clientExecute, getFlightInfo, checkClosed_open (w := w₀) hclient]
    exact List.prefix_rfl
  obtain ⟨rest, hrest⟩ := hprefix
  refine ⟨e :: rest, ?_, executions (w.log ++ [e]) rest, rfl⟩
  rw [← hrest, List.append_assoc]
  rfl

/-! ## When every row runs under its own binding -/

/-- No empty row stands after a nonempty one. -/
def EmptyRowsFirst : List (List PyValue) → Prop
  | [] => True
  | [] :: rows => EmptyRowsFirst rows
  | (_ :: _) :: rows => ∀ row ∈ rows, row ≠ []

theorem ownBinding_eq_none_iff {rt : Runtime} {schema : Option Schema} {row : List PyValue}
    (hrow : bindable rt schema row = true) : ownBinding rt schema row = none ↔ row = [] := by
  obtain ⟨batch, h⟩ := bindable_iff.mp hrow
  rw [ownBinding]
  by_cases hrow : row = []
  · simp [hrow]
  · rw [if_neg hrow, h]
    simp [Except.toOption, hrow]

/-- Once something is bound, every further row must bind its own. -/
theorem carried_some_iff {rt : Runtime} {schema : Option Schema} {b : RecordBatch} :
    ∀ {rows : List (List PyValue)}, (∀ row ∈ rows, bindable rt schema row = true) →
      (carried rt schema (some b) rows = rows.map (ownBinding rt schema) ↔ ∀ row ∈ rows, row ≠ []) := by
  intro rows
  induction rows generalizing b with
  | nil => simp [carried]
  | cons row rows ih =>
    intro hrows
    obtain ⟨hrow, hrest⟩ := List.forall_mem_cons.mp hrows
    have hnone := ownBinding_eq_none_iff hrow
    rw [carried, List.map_cons, List.forall_mem_cons]
    cases hown : ownBinding rt schema row with
    | none =>
      constructor
      · intro h
        cases (List.cons.inj h).1
      · intro h
        exact absurd (hnone.mp hown) h.1
    | some c =>
      have hne : row ≠ [] := fun h => by
        rw [hnone.mpr h] at hown
        cases hown
      show some c :: carried rt schema (some c) rows = some c :: _ ↔ _
      constructor
      · intro h
        exact ⟨hne, (ih hrest).mp (List.cons.inj h).2⟩
      · intro h
        rw [(ih hrest).mpr h.2]

/-- From an unbound statement, empty rows are harmless until one is bound. -/
theorem carried_none_iff {rt : Runtime} {schema : Option Schema} :
    ∀ {rows : List (List PyValue)}, (∀ row ∈ rows, bindable rt schema row = true) →
      (carried rt schema none rows = rows.map (ownBinding rt schema) ↔ EmptyRowsFirst rows) := by
  intro rows
  induction rows with
  | nil => simp [carried, EmptyRowsFirst]
  | cons row rows ih =>
    intro hrows
    obtain ⟨hrow, hrest⟩ := List.forall_mem_cons.mp hrows
    have hnone := ownBinding_eq_none_iff hrow
    rw [carried, List.map_cons]
    cases row with
    | nil =>
      rw [hnone.mpr rfl, EmptyRowsFirst]
      show none :: carried rt schema none rows = none :: _ ↔ _
      rw [List.cons_inj_right, ih hrest]
    | cons v vs =>
      cases hown : ownBinding rt schema (v :: vs) with
      | none => cases hnone.mp hown
      | some c =>
        rw [EmptyRowsFirst]
        show some c :: carried rt schema (some c) rows = some c :: _ ↔ _
        rw [List.cons_inj_right, carried_some_iff hrest]

theorem length_carried {rt : Runtime} {schema : Option Schema} {last : Option RecordBatch}
    (rows : List (List PyValue)) : (carried rt schema last rows).length = rows.length := by
  induction rows generalizing last with
  | nil => rfl
  | cons row rows ih => rw [carried, List.length_cons, List.length_cons, ih]

/-- **Exactly when the rows that ran are the rows**, each under its own binding. -/
theorem carried_takeWhile_iff {rt : Runtime} {schema : Option Schema} {rows : List (List PyValue)} :
    carried rt schema none (rows.takeWhile (bindable rt schema)) = rows.map (ownBinding rt schema) ↔
      (∀ row ∈ rows, bindable rt schema row = true) ∧ EmptyRowsFirst rows := by
  constructor
  · intro h
    -- a row that cannot be bound would leave too few executions
    have hlen : (rows.takeWhile (bindable rt schema)).length = rows.length := by
      have hl := congrArg List.length h
      rwa [length_carried, List.length_map] at hl
    have hall : rows.takeWhile (bindable rt schema) = rows :=
      (List.takeWhile_prefix _).eq_of_length hlen
    have hrows : ∀ row ∈ rows, bindable rt schema row = true := by
      intro row hrow
      rw [← hall] at hrow
      exact List.mem_takeWhile_imp hrow
    rw [hall] at h
    exact ⟨hrows, (carried_none_iff hrows).mp h⟩
  · rintro ⟨hrows, hempty⟩
    rw [List.takeWhile_eq_self_iff.mpr hrows]
    exact (carried_none_iff hrows).mpr hempty

/-- **Each row of `executemany` runs exactly once under its own binding** when, and only when, there is
    a row, every row can be bound, and no empty row follows a nonempty one. -/
theorem executemany_runsEachRow_iff {rt : Runtime} {srv : Server} (hsrv : srv.Answers)
    {query : String} {w : World} {result : Option PreparedResult} {statement : PreparedStatement}
    (hcursor : w.cursor.closed = false) (hclient : w.clientClosed = false)
    (hreply : srv.createPreparedStatement w.log query = .ok result)
    (hstatement : preparedStatement rt result = .ok statement) (rows : List (List PyValue)) :
    ∃ evs, (executemany rt srv query (some rows) w).2.log = w.log ++ evs ∧
      (executions w.log evs = rows.map (ownBinding rt statement.parameterSchema) ↔
        rows ≠ [] ∧ (∀ row ∈ rows, bindable rt statement.parameterSchema row = true) ∧
          EmptyRowsFirst rows) := by
  by_cases hne : rows = []
  · subst hne
    obtain ⟨evs, hevs, more, hmore⟩ := executemany_nil_executions rt hcursor hclient
    refine ⟨evs, hevs, ?_⟩
    rw [hmore]
    simp
  · obtain ⟨evs, hevs, hexec⟩ := executemany_executions hsrv hcursor hclient hreply hstatement hne
    refine ⟨evs, hevs, ?_⟩
    rw [hexec, carried_takeWhile_iff, and_iff_right hne]

/-- A server that keeps the binding with the one handle and answers every query with one row. -/
def Server.keeping : Server :=
  .fixed (fun _ => .ok (.ofTickets [[0]])) fun _ => .ok (.ofTable (.ofValues "n" .int64 [.int 1]))

theorem Server.keeping_answers : Server.keeping.Answers where
  doPut _ _ _ := ⟨none, rfl⟩
  flightInfo _ _ := ⟨_, [0], rfl, rfl⟩
  doGet _ _ := ⟨_, _, rfl, rfl⟩

/-- The theorem on two nonempty rows, whose condition holds. -/
theorem executemany_runsEachRow_iff_twoRows :
    ∃ evs, (executemany .reference .keeping "INSERT" (some [[.int 1], [.int 2]]) .initial).2.log =
        World.initial.log ++ evs ∧
      executions World.initial.log evs =
        [[PyValue.int 1], [.int 2]].map (ownBinding .reference none) := by
  have hreply : Server.keeping.createPreparedStatement World.initial.log "INSERT" =
      .ok (some ⟨[1], [], []⟩) := rfl
  have hstatement : preparedStatement .reference (some ⟨[1], [], []⟩) =
      .ok ⟨[1], none, none, false⟩ := rfl
  obtain ⟨evs, hevs, hiff⟩ := executemany_runsEachRow_iff Server.keeping_answers (w := .initial)
    rfl rfl hreply hstatement [[.int 1], [.int 2]]
  refine ⟨evs, hevs, hiff.mpr ⟨by simp, ?_, ?_⟩⟩
  · decide
  · simp [EmptyRowsFirst]

/-- **The empty row after a nonempty one** runs under the binding of the row before it, and the empty
    sequence is executed once. -/
theorem executemany_emptyRow_runsBound :
    executions [] (executemany .reference .keeping "INSERT" (some [[.int 1], []]) .initial).2.log ≠
        [[PyValue.int 1], []].map (ownBinding .reference none) ∧
      (executions [] (executemany .reference .keeping "INSERT" (some []) .initial).2.log).length ≠
        ([] : List (List PyValue)).length := by
  constructor
  · intro h
    have hbound : (executions []
        (executemany .reference .keeping "INSERT" (some [[.int 1], []]) .initial).2.log).map
          Option.isSome = [true, true] := by rfl
    rw [h] at hbound
    revert hbound
    decide
  · decide

end FlightSql
