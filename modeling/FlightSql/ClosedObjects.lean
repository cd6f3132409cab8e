/-
  Closed means closed — `check_closed`, on every object and at every time.

  THE CODE: each public method that sends an RPC asks `self.closed` first, or calls one that does; closing
  a connection closes the cursors it has created, and a closed connection creates no more.  One method has
  no guard: `FlightSQLClient.prepare` calls its Flight client whether or not it is closed.

  WHAT IT IS FOR: after `close()` has returned, a method that would send raises the package's `Error` and
  sends nothing (`ClosedMeansClosed`).

  1. **One method** — what it leaves alone: the guarded calls of the client keep every invariant that is
     kept by them (`Guarded`), and so do the methods built of them.

  2. **One operation** — closed objects stay closed (`Operation.run_stays`); on a closed object it is refused
     (`Operation.run_refused`); over a closed client it sends nothing (`Operation.run_quiet`), unless it
     prepares, and then it does (`Operation.run_prepares`).

  3. **A program** (`closedMeansClosed_iff`) — closed means closed exactly if nothing is prepared over a
     client whose `close()` has returned.

  Mathlib-free.
-/
import FlightSql.Objects
import FlightSql.MetadataRuns

set_option linter.unusedVariables false

namespace FlightSql

open Arrow Lib

/-! ## What methods leave alone -/

/-- **An invariant that the client's guarded calls keep**, and the connection's decision on a catalog. -/
structure Guarded (srv : Server) (I : World → Prop) : Prop where
  info : ∀ command, Run.Keeps I (getFlightInfo srv command)
  get : ∀ ticket, Run.Keeps I (doGet srv ticket)
  resolve : ∀ catalog, Run.Keeps I (resolve catalog)

namespace Guarded

variable {rt : Runtime} {srv : Server} {I : World → Prop} (h : Guarded srv I)
include h

theorem tablesFromInfo (info : FlightInfo) : Run.Keeps I (tablesFromInfo srv info) := by
  unfold FlightSql.tablesFromInfo
  cases info.endpoints with
  | none => exact Run.Keeps.raise _
  | some endpoints =>
    refine Run.Keeps.mapEach (fun endpoint => ?_) endpoints
    unfold tableFromEndpoint
    cases endpoint.ticket with
    | none => exact Run.Keeps.raise _
    | some ticket => exact (h.get ticket).bind fun reader => Run.Keeps.ofExcept _

theorem schemaNames (catalog : Option PyValue) : Run.Keeps I (schemaNames rt srv catalog) := by
  refine Run.Keeps.bind ((Run.Keeps.ofExcept _).bind fun field => h.info _) fun info => ?_
  exact (h.tablesFromInfo info).bind fun tables => (Run.Keeps.ofExcept _).bind fun _ => Run.Keeps.pure _

theorem catalogNames : Run.Keeps I (catalogNames rt srv) := by
  refine (h.info _).bind fun info => ?_
  exact (h.tablesFromInfo info).bind fun tables => (Run.Keeps.ofExcept _).bind fun _ => Run.Keeps.pure _

theorem defaultCatalog (catalogs : List PyValue) : Run.Keeps I (defaultCatalog rt srv catalogs) := by
  refine Run.Keeps.bind ((h.info _).bind fun info => ?_) fun _ => Run.Keeps.pure _
  exact (h.tablesFromInfo info).bind fun tables => (Run.Keeps.ofExcept _).bind fun _ => Run.Keeps.pure _

theorem catalogProbeFailed (error : Exn) (transient : Exn → Bool) :
    Run.Keeps I (catalogProbeFailed error transient) := by
  unfold FlightSql.catalogProbeFailed
  split
  · exact Run.Keeps.pure _
  · exact (h.resolve none).bind fun _ => Run.Keeps.pure _

theorem decideCatalog (resolved : Option PyValue) : Run.Keeps I (decideCatalog resolved) :=
  (h.resolve resolved).bind fun _ => Run.Keeps.pure _

/-- What is done with the outcome of a probe. -/
theorem probed {error : Exn} {transient : Exn → Bool} {c : Bool} :
    Run.Keeps I (if c then FlightSql.catalogProbeFailed error transient else Run.raise error) := by
  split
  · exact h.catalogProbeFailed _ _
  · exact Run.Keeps.raise _

theorem probeCatalogs : Run.Keeps I (probeCatalogs rt srv) := by
  refine h.catalogNames.attempt.bind fun answer => ?_
  cases answer with
  | error error => exact h.probed
  | ok catalogs =>
    refine (Run.Keeps.ofExcept _).bind fun _ => ?_
    split
    · exact h.decideCatalog _
    · split
      · exact h.decideCatalog _
      · refine (h.defaultCatalog catalogs).attempt.bind fun answer => ?_
        cases answer with
        | ok resolved => exact h.decideCatalog _
        | error error => exact h.probed

theorem catalogFallback (unscopedSchemasEmpty : Bool) :
    Run.Keeps I (catalogFallback rt srv unscopedSchemasEmpty) := by
  refine (Run.Keeps.gets _).bind fun connection => ?_
  split
  · exact Run.Keeps.pure _
  split
  · exact h.probeCatalogs
  refine (h.schemaNames none).attempt.bind fun answer => ?_
  cases answer with
  | ok names =>
    dsimp only
    split
    · exact h.probeCatalogs
    · exact h.decideCatalog _
  | error error =>
    dsimp only
    split
    · exact h.probeCatalogs
    · exact h.probed

/-- Asking, and asking again after the fallback. -/
theorem withFallback {α : Type} {ask : Option PyValue → Method α} {isEmpty : α → Prop}
    [DecidablePred isEmpty] {skip : Option PyValue → Bool} (hask : ∀ catalog, Run.Keeps I (ask catalog)) :
    Run.Keeps I (withFallback rt srv ask isEmpty skip) := by
  refine (Run.Keeps.gets _).bind fun connection => (hask _).bind fun answer => ?_
  split
  · refine (h.catalogFallback _).bind fun retry => ?_
    split
    · exact (Run.Keeps.gets _).bind fun connection => hask _
    · exact Run.Keeps.pure _
  · exact Run.Keeps.pure _

/-- **The metadata methods of a connection.** -/
theorem call (call : Call) : ∀ w, I w → I (call.run rt srv w) := by
  intro w hw
  refine call.run_keeps (fun _ => ?_) (fun _ requestedSchema request => ?_) hw
  · rw [scopedSchemaNames_eq]
    exact h.withFallback fun catalog => h.schemaNames catalog
  · rw [getTableMetadata_eq]
    refine h.withFallback fun catalog => ?_
    refine Run.Keeps.bind ((Run.Keeps.ofExcept _).bind fun field => h.info _) fun info => ?_
    exact (h.tablesFromInfo info).bind fun tables => Run.Keeps.ofExcept _

theorem readFirstEndpoint (info : FlightInfo) : Run.Keeps I (readFirstEndpoint srv info) :=
  (Run.Keeps.ofExcept _).bind fun ticket => (h.get ticket).bind fun reader => Run.Keeps.ofExcept _

/-- The methods for keys and server information. -/
theorem firstAnswer {α : Type} (command : Command) (finish : Payload → Except Exn α) :
    Run.Keeps I (connectionMethod do
      let info ← getFlightInfo srv command
      let payload ← FlightSql.readFirstEndpoint srv info
      Run.ofExcept (finish payload)) :=
  connectionMethod_keeps ((h.info command).bind fun info =>
    (h.readFirstEndpoint info).bind fun payload => Run.Keeps.ofExcept _)

end Guarded

/-- **An invariant that is kept by anything that is recorded**, and that looks neither at the decision on a
    catalog, nor at the statement, nor at the rows of the cursor. -/
structure Recording (I : World → Prop) : Prop where
  record : ∀ w e, I w → I (w.record e)
  resolved : ∀ w catalog, I w → I { w with connection := { w.connection with resolvedCatalog := catalog } }
  statement : ∀ w statement, I w → I { w with statement := statement }
  cursor : ∀ w description results, I w →
    I { w with cursor := { w.cursor with description := description, results := results } }

namespace Recording

variable {rt : Runtime} {srv : Server} {I : World → Prop} (h : Recording I)
include h

theorem guarded : Guarded srv I where
  info command := checkClosed_keeps (rpc_keeps fun w reply => h.record w _)
  get ticket := checkClosed_keeps (rpc_keeps fun w reply => h.record w _)
  resolve catalog := Run.Keeps.modify fun w hw => h.resolved _ _ (h.record w _ hw)

theorem prepare (query : String) : Run.Keeps I (prepare rt srv query) := by
  refine (rpc_keeps fun w reply => h.record w _).bind fun reply => ?_
  exact (Run.Keeps.ofExcept _).bind fun statement => Run.Keeps.modify fun w => h.statement w _

theorem executeRow (params : List PyValue) : Run.Keeps I (executeRow rt srv params) :=
  executeRow_keeps_of rt srv params h.record fun w handle => h.statement w _

theorem statementExecute (binding : RecordBatch) : Run.Keeps I (statementExecute srv binding) :=
  statementExecute_keeps_of srv binding h.record fun w handle => h.statement w _

theorem statementClose : Run.Keeps I (statementClose srv) := by
  refine checkClosed_keeps ((Run.Keeps.gets _).bind fun handle => ?_)
  refine (rpc_keeps fun w reply => h.record w _).bind fun _ => ?_
  exact Run.Keeps.modify fun w => h.statement w _

theorem withPrepared {query : String} {body : Method Unit} (hbody : Run.Keeps I body) :
    Run.Keeps I (withPrepared rt srv query body) :=
  (h.prepare query).bind fun _ => hbody.withExit h.statementClose

end Recording

/-- **`Cursor.execute`** keeps what guarded calls and results keep; to prepare is to record. -/
theorem execute_keeps {rt : Runtime} {srv : Server} {I : World → Prop} (hguarded : Guarded srv I)
    (hcursor : ∀ w description results, I w →
      I { w with cursor := { w.cursor with description := description, results := results } })
    {params : Option (List PyValue)} (hparams : (params.getD []).length ≠ 0 → Recording I)
    (query : String) : Run.Keeps I (execute rt srv query params) := by
  refine checkClosed_keeps (Run.Keeps.tryCatch ?_ fun e => Run.Keeps.raise _)
  refine Run.Keeps.bind (Run.Keeps.modify fun w => hcursor w _ _) fun _ => ?_
  split
  · refine (hguarded.info _).bind fun info => (hguarded.readFirstEndpoint info).bind fun payload => ?_
    exact storeResults_keeps rt payload hcursor
  · rename_i hlength
    refine (hparams hlength).withPrepared (((hparams hlength).executeRow _).bind fun info => ?_)
    refine (hguarded.readFirstEndpoint info).bind fun payload => ?_
    exact storeResults_keeps rt payload hcursor

/-- **`Cursor.executemany`**, likewise. -/
theorem executemany_keeps {rt : Runtime} {srv : Server} {I : World → Prop} (hguarded : Guarded srv I)
    (hcursor : ∀ w description results, I w →
      I { w with cursor := { w.cursor with description := description, results := results } })
    {paramSeq : Option (List (List PyValue))} (hparams : (paramSeq.getD []).length ≠ 0 → Recording I)
    (query : String) : Run.Keeps I (executemany rt srv query paramSeq) := by
  refine checkClosed_keeps (Run.Keeps.tryCatch ?_ fun e => Run.Keeps.raise _)
  refine Run.Keeps.bind (Run.Keeps.modify fun w => hcursor w _ _) fun _ => ?_
  split
  · exact execute_keeps hguarded hcursor (fun hnone => absurd rfl hnone) query
  · rename_i hlength
    refine (hparams hlength).withPrepared (Run.Keeps.forEach (fun params => ?_) _)
    refine ((hparams hlength).executeRow params).bind fun info => ?_
    exact (hguarded.readFirstEndpoint info).bind fun payload => Run.Keeps.pure _

/-! ## Closed objects stay closed -/

/-- **What a method leaves of the flags**: those of the client and the connection, and a closed cursor. -/
structure Flags (w₀ w : World) : Prop where
  client : w.clientClosed = w₀.clientClosed
  connection : w.connection.closed = w₀.connection.closed
  cursor : w₀.cursor.closed = true → w.cursor.closed = true

theorem Flags.refl (w : World) : Flags w w := ⟨rfl, rfl, id⟩

theorem Flags.recording (w₀ : World) : Recording (Flags w₀) where
  record w e h := ⟨h.client, h.connection, h.cursor⟩
  resolved w catalog h := ⟨h.client, h.connection, h.cursor⟩
  statement w statement h := ⟨h.client, h.connection, h.cursor⟩
  cursor w description results h := ⟨h.client, h.connection, h.cursor⟩

/-- **From `s` on**: every object is still there, and closed if it was. -/
structure Stays (s s' : Objects) : Prop where
  client : s.clientClosed = true → s'.clientClosed = true
  connection : s.connection.closed = true → s'.connection.closed = true
  cursor : ∀ (i : Nat) (c : Cursor), s.cursors[i]? = some c →
    ∃ c' : Cursor, s'.cursors[i]? = some c' ∧ (c.closed = true → c'.closed = true)
  statement : ∀ (i : Nat) (p : PreparedStatement), s.statements[i]? = some p →
    ∃ p' : PreparedStatement, s'.statements[i]? = some p' ∧ (p.closed = true → p'.closed = true)

theorem Stays.refl (s : Objects) : Stays s s :=
  ⟨id, id, fun _ c hc => ⟨c, hc, id⟩, fun _ p hp => ⟨p, hp, id⟩⟩

theorem Stays.trans {s s' s'' : Objects} (h : Stays s s') (h' : Stays s' s'') : Stays s s'' where
  client hc := h'.client (h.client hc)
  connection hc := h'.connection (h.connection hc)
  cursor i c hc := by
    obtain ⟨c', hc', himp⟩ := h.cursor i c hc
    obtain ⟨c'', hc'', himp'⟩ := h'.cursor i c' hc'
    exact ⟨c'', hc'', fun hclosed => himp' (himp hclosed)⟩
  statement i p hp := by
    obtain ⟨p', hp', himp⟩ := h.statement i p hp
    obtain ⟨p'', hp'', himp'⟩ := h'.statement i p' hp'
    exact ⟨p'', hp'', fun hclosed => himp' (himp hclosed)⟩

/-- A closed object that is there is there, and closed. -/
theorem Stays.closed {s s' : Objects} (h : Stays s s') {object : Object} (hhas : s.has object = true)
    (hclosed : s.closed object = true) : s'.has object = true ∧ s'.closed object = true := by
  cases object with
  | client => exact ⟨rfl, h.client hclosed⟩
  | connection => exact ⟨rfl, h.connection hclosed⟩
  | cursor i =>
    have hlt : i < s.cursors.length := of_decide_eq_true hhas
    obtain ⟨c', hc', himp⟩ := h.cursor i _ (List.getElem?_eq_getElem hlt)
    have hc : s.cursors[i].closed = true := by
      simpa [Objects.closed, List.getElem?_eq_getElem hlt] using hclosed
    refine ⟨decide_eq_true (List.getElem?_eq_some_iff.mp hc').1, ?_⟩
    simpa [Objects.closed, hc'] using himp hc
  | statement i =>
    have hlt : i < s.statements.length := of_decide_eq_true hhas
    obtain ⟨p', hp', himp⟩ := h.statement i _ (List.getElem?_eq_getElem hlt)
    have hp : s.statements[i].closed = true := by
      simpa [Objects.closed, List.getElem?_eq_getElem hlt] using hclosed
    refine ⟨decide_eq_true (List.getElem?_eq_some_iff.mp hp').1, ?_⟩
    simpa [Objects.closed, hp'] using himp hp

/-- A change of an element of a list that keeps it closed. -/
theorem set_stays {α : Type} {xs : List α} {closed : α → Bool} {i : Nat} {x y : α}
    (hx : xs[i]? = some x) (hxy : closed x = true → closed y = true) (j : Nat) (z : α)
    (hz : xs[j]? = some z) :
    ∃ z', (xs.set i y)[j]? = some z' ∧ (closed z = true → closed z' = true) := by
  by_cases hij : i = j
  · subst hij
    rw [hx] at hz
    cases hz
    have hlt : i < xs.length := (List.getElem?_eq_some_iff.mp hx).1
    exact ⟨y, by rw [List.getElem?_set_self hlt], hxy⟩
  · exact ⟨z, by rw [List.getElem?_set_ne hij, hz], id⟩

section Stay

variable {rt : Runtime} {srv : Server} {disconnect : List Event → Except Exn Unit} {α : Type} {s : Objects}

theorem onClient_stays {m : Method α} (h : ∀ w₀, Run.Keeps (Flags w₀) m) : Stays s (onClient m s).2 := by
  have hflags := h (s.world .new .absent) _ (Flags.refl _)
  refine ⟨fun hc => ?_, fun hc => ?_, fun _ c hc => ⟨c, hc, id⟩, fun _ p hp => ⟨p, hp, id⟩⟩
  · exact hflags.client.trans hc
  · exact hflags.connection.trans hc

theorem forget_snd (m : Run Objects Exn α) : (forget m s).2 = (m s).2 := by
  rw [forget, Run.bind_snd]
  rcases m s with ⟨r, s'⟩
  cases r <;> rfl

theorem askFlightInfo_stays (command : Command) : Stays s (askFlightInfo srv command s).2 := by
  rw [askFlightInfo, forget_snd]
  exact onClient_stays fun w₀ => (Flags.recording w₀).guarded.info command

theorem onCursor_stays {i : Nat} {m : Method α} (h : ∀ w, Flags w (m w).2) :
    Stays s (onCursor i m s).2 := by
  unfold onCursor
  cases hcursor : s.cursors[i]? with
  | none => exact Stays.refl s
  | some cursor =>
    have hflags := h (s.world cursor .absent)
    refine ⟨fun hc => ?_, fun hc => ?_, ?_, fun _ p hp => ⟨p, hp, id⟩⟩
    · exact hflags.client.trans hc
    · exact hflags.connection.trans hc
    · exact set_stays hcursor hflags.cursor

/-- A method of a statement that a closed statement refuses. -/
theorem onStatement_stays {i : Nat} {m : Method α} (h : ∀ w₀, Run.Keeps (Flags w₀) m)
    (hclosed : ∀ w, w.statement.closed = true → (m w).2 = w) : Stays s (onStatement i m s).2 := by
  unfold onStatement
  cases hstatement : s.statements[i]? with
  | none => exact Stays.refl s
  | some statement =>
    have hflags := h (s.world .new statement) _ (Flags.refl _)
    refine ⟨fun hc => ?_, fun hc => ?_, fun _ c hc => ⟨c, hc, id⟩, ?_⟩
    · exact hflags.client.trans hc
    · exact hflags.connection.trans hc
    · refine set_stays hstatement fun hp => ?_
      rw [hclosed _ hp]
      exact hp

theorem whileOpen_closed (hclosed : s.connection.closed = true) (m : Action) :
    whileOpen m s = (.error (.error "Connection already closed"), s) := if_pos hclosed

theorem whileOpen_open (hopen : s.connection.closed = false) (m : Action) : whileOpen m s = m s :=
  if_neg (Bool.eq_false_iff.mp hopen)

theorem whileOpen_stays {m : Action} (h : Stays s (m s).2) : Stays s (whileOpen m s).2 := by
  unfold whileOpen
  split
  · exact Stays.refl s
  · exact h

theorem newCursor_stays : Stays s (newCursor s).2 := by
  refine whileOpen_stays ⟨id, id, fun i c hc => ⟨c, ?_, id⟩, fun _ p hp => ⟨p, hp, id⟩⟩
  show (s.cursors ++ [Cursor.new])[i]? = some c
  rw [List.getElem?_append_left (List.getElem?_eq_some_iff.mp hc).1, hc]

theorem onNewCursor_stays {m : Method α} (h : ∀ w, Flags w (m w).2) :
    Stays s (onNewCursor m s).2 := by
  refine whileOpen_stays ?_
  refine Run.Keeps.after newCursor_stays fun _ => ?_
  refine (Run.Keeps.gets _).bind fun cursors => fun s' hs' => ?_
  exact hs'.trans (onCursor_stays h)

theorem closeConnection_stays : Stays s (closeConnection s).2 := by
  refine whileOpen_stays ⟨id, fun _ => rfl, fun i c hc => ⟨c.closeUnlessClosed, ?_, fun hclosed => ?_⟩,
    fun _ p hp => ⟨p, hp, id⟩⟩
  · show (s.cursors.map Cursor.closeUnlessClosed)[i]? = _
    rw [List.getElem?_map, hc]
    rfl
  · rw [Cursor.closeUnlessClosed, if_pos hclosed]
    exact hclosed

theorem prepareStatement_stays (query : String) : Stays s (prepareStatement rt srv query s).2 := by
  refine Run.Keeps.after (onClient_stays fun w₀ => ?_) fun statement => ?_
  · exact ((Flags.recording w₀).prepare query).bind fun _ => Run.Keeps.gets _
  · refine Run.Keeps.modify fun s' hs' => hs'.trans ⟨id, id, fun _ c hc => ⟨c, hc, id⟩, fun i p hp => ?_⟩
    refine ⟨p, ?_, id⟩
    show (s'.statements ++ [statement])[i]? = some p
    rw [List.getElem?_append_left (List.getElem?_eq_some_iff.mp hp).1, hp]

/-- The methods of the client. -/
theorem ClientMethod.run_stays (method : ClientMethod) : Stays s (method.run rt srv disconnect s).2 := by
  cases method with
  | close =>
    have hclosed : Stays s { s with clientClosed := true } :=
      ⟨fun _ => rfl, id, fun _ c hc => ⟨c, hc, id⟩, fun _ p hp => ⟨p, hp, id⟩⟩
    exact hclosed
  | execute query => exact askFlightInfo_stays (.statementQuery query)
  | executeUpdate query =>
    rw [ClientMethod.run, forget_snd]
    refine onClient_stays fun w₀ => Run.Keeps.bind ?_ fun reply => Run.Keeps.pure _
    exact checkClosed_keeps (rpc_keeps fun w reply => (Flags.recording w₀).record w _)
  | prepare query => exact prepareStatement_stays query
  | doGet ticket =>
    rw [ClientMethod.run, forget_snd]
    exact onClient_stays fun w₀ => (Flags.recording w₀).guarded.get ticket
  | _ => exact askFlightInfo_stays _

/-- The methods of a statement. -/
theorem StatementMethod.run_stays (i : Nat) (method : StatementMethod) :
    Stays s (method.run srv i s).2 := by
  cases method with
  | execute binding =>
    refine onStatement_stays (fun w₀ => (Flags.recording w₀).statementExecute binding) fun w hw => ?_
    rw [statementExecute, checkClosed_closed hw]
  | close =>
    refine onStatement_stays (fun w₀ => (Flags.recording w₀).statementClose) fun w hw => ?_
    rw [statementClose, checkClosed_closed hw]

variable (rt srv) in
/-- **A method of a cursor that sends nothing** records nothing either. -/
theorem CursorMethod.run_local {method : CursorMethod} {i : Nat}
    (hlocal : (Operation.cursor i method).sends = false) :
    ∃ (β : Type) (m : Method β), method.run rt srv i = onCursor i m ∧
      ∀ w₀, Run.Keeps (fun w => Flags w₀ w ∧ w.log = w₀.log) m := by
  have hrows : ∀ (w₀ w : World) (results : List Row), Flags w₀ w ∧ w.log = w₀.log →
      Flags w₀ { w with cursor := { w.cursor with results := results } } ∧ w.log = w₀.log :=
    fun w₀ w results hw => ⟨⟨hw.1.client, hw.1.connection, hw.1.cursor⟩, hw.2⟩
  cases method with
  | execute query params => cases hlocal
  | executemany query paramSeq => cases hlocal
  | iter =>
    exact ⟨_, _, rfl, fun w₀ => checkClosed_keeps ((Run.Keeps.gets _).bind fun _ => Run.Keeps.pure _)⟩
  | close =>
    refine ⟨_, _, rfl, fun w₀ => checkClosed_keeps (Run.Keeps.modify fun w hw => ?_)⟩
    exact ⟨⟨hw.1.client, hw.1.connection, fun _ => rfl⟩, hw.2⟩
  | fetchone =>
    refine ⟨_, _, rfl, fun w₀ => checkClosed_keeps ((Run.Keeps.gets _).bind fun results => ?_)⟩
    cases results with
    | nil => exact Run.Keeps.pure _
    | cons row rest => exact (Run.Keeps.modify fun w => hrows w₀ w rest).bind fun _ => Run.Keeps.pure _
  | fetchmany size =>
    refine ⟨_, _, rfl, fun w₀ => checkClosed_keeps ((Run.Keeps.gets _).bind fun cursor => ?_)⟩
    refine Run.Keeps.bind ?_ fun _ => Run.Keeps.pure _
    exact Run.Keeps.modify fun w => hrows w₀ w _
  | fetchall =>
    refine ⟨_, _, rfl, fun w₀ => checkClosed_keeps ((Run.Keeps.gets _).bind fun out => ?_)⟩
    exact (Run.Keeps.modify fun w => hrows w₀ w []).bind fun _ => Run.Keeps.pure _
  | setinputsizes => exact ⟨_, _, rfl, fun w₀ => checkClosed_keeps (Run.Keeps.pure _)⟩
  | setoutputsizes => exact ⟨_, _, rfl, fun w₀ => checkClosed_keeps (Run.Keeps.pure _)⟩
  | rowcount => exact ⟨_, _, rfl, fun w₀ => checkClosed_keeps (Run.Keeps.gets _)⟩

/-- The methods of a cursor. -/
theorem CursorMethod.run_stays (i : Nat) (method : CursorMethod) :
    Stays s (method.run rt srv i s).2 := by
  by_cases hlocal : (Operation.cursor i method).sends = false
  · obtain ⟨β, m, hrun, hkeeps⟩ := CursorMethod.run_local rt srv hlocal
    rw [hrun]
    exact onCursor_stays fun w => (hkeeps w w ⟨Flags.refl w, rfl⟩).1
  have hflags := Flags.recording
  cases method with
  | execute query params =>
    exact onCursor_stays fun w => execute_keeps (hflags w).guarded (hflags w).cursor
      (fun _ => hflags w) query w (Flags.refl w)
  | executemany query paramSeq =>
    exact onCursor_stays fun w => executemany_keeps (hflags w).guarded (hflags w).cursor
      (fun _ => hflags w) query w (Flags.refl w)
  | _ => exact absurd rfl hlocal

theorem connectionMethod_closed {m : Method α} {w : World} (hw : w.connection.closed = true) :
    connectionMethod m w = (.error (.error "Connection already closed"), w) := checkClosed_closed hw

/-- A method of the connection that asks for metadata or keys. -/
def ConnectionMethod.isMetadata : ConnectionMethod → Bool
  | .commit | .rollback | .close | .cursor | .execute _ _ | .executemany _ _ => false
  | _ => true

variable (rt srv) in
/-- **A metadata method** is built of guarded calls, behind the guard of the connection. -/
theorem ConnectionMethod.run_metadata {method : ConnectionMethod} (hmetadata : method.isMetadata = true) :
    ∃ (β : Type) (m : Method β), method.run rt srv = forget (onClient m) ∧
      (∀ I, Guarded srv I → Run.Keeps I m) ∧
      ∀ w, w.connection.closed = true → m w = (.error (.error "Connection already closed"), w) := by
  cases method with
  | commit | rollback | close | cursor | execute _ _ | executemany _ _ => cases hmetadata
  | getColumns tableName schema =>
    exact ⟨_, _, rfl, fun I h => h.call (.getColumns tableName schema), fun w hw => checkClosed_closed hw⟩
  | getTableMetadataForTable tableName schema =>
    exact ⟨_, _, rfl, fun I h => h.call (.getTableMetadataForTable tableName schema),
      fun w hw => connectionMethod_closed hw⟩
  | getTableMetadata schema =>
    exact ⟨_, _, rfl, fun I h => h.call (.getTableMetadata schema), fun w hw => connectionMethod_closed hw⟩
  | getTableNames schema =>
    exact ⟨_, _, rfl, fun I h => h.call (.getTableNames schema), fun w hw => connectionMethod_closed hw⟩
  | getSchemaNames => exact ⟨_, _, rfl, fun I h => h.call .getSchemaNames, fun w hw => connectionMethod_closed hw⟩
  | getSqlInfo info =>
    refine ⟨_, _, rfl, fun I h => ?_, fun w hw => connectionMethod_closed hw⟩
    refine connectionMethod_keeps ((h.info _).bind fun finfo => (h.readFirstEndpoint finfo).bind fun payload => ?_)
    exact (Run.Keeps.ofExcept _).bind fun values => Run.Keeps.ofExcept _
  | getPrimaryKeys table schema =>
    exact ⟨_, _, rfl, fun I h => h.firstAnswer _ _, fun w hw => connectionMethod_closed hw⟩
  | getForeignKeys table schema =>
    exact ⟨_, _, rfl, fun I h => h.firstAnswer _ _, fun w hw => connectionMethod_closed hw⟩

/-- The methods of the connection. -/
theorem ConnectionMethod.run_stays (method : ConnectionMethod) : Stays s (method.run rt srv s).2 := by
  by_cases hmetadata : method.isMetadata = true
  · obtain ⟨β, m, hrun, hkeeps, -⟩ := ConnectionMethod.run_metadata rt srv hmetadata
    rw [hrun, forget_snd]
    exact onClient_stays fun w₀ => hkeeps _ (Flags.recording w₀).guarded
  have hflags := Flags.recording
  cases method with
  | commit => exact whileOpen_stays (Stays.refl s)
  | rollback => exact whileOpen_stays (Stays.refl s)
  | close => exact closeConnection_stays
  | cursor => exact newCursor_stays
  | execute query params =>
    exact onNewCursor_stays fun w => execute_keeps (hflags w).guarded (hflags w).cursor
      (fun _ => hflags w) query w (Flags.refl w)
  | executemany query paramSeq =>
    exact onNewCursor_stays fun w => executemany_keeps (hflags w).guarded (hflags w).cursor
      (fun _ => hflags w) query w (Flags.refl w)
  | _ => exact absurd rfl hmetadata

/-- **Closed objects stay closed**, whatever the operation. -/
theorem Operation.run_stays (op : Operation) : Stays s (op.run rt srv disconnect s).2 := by
  cases op with
  | client method => exact method.run_stays
  | connection method => exact method.run_stays
  | cursor i method => exact method.run_stays i
  | statement i method => exact method.run_stays i

end Stay

/-! ## Closing -/

/-- What closes what. -/
theorem Operation.closes_cases {op : Operation} {object : Object} (h : op.closes object = true) :
    (op = .client .close ∧ object = .client) ∨
      (op = .connection .close ∧ (object = .connection ∨ ∃ i, object = .cursor i)) ∨
      (∃ i, op = .cursor i .close ∧ object = .cursor i) ∨
      ∃ i, op = .statement i .close ∧ object = .statement i := by
  unfold Operation.closes at h
  split at h
  · exact Or.inl ⟨rfl, rfl⟩
  · exact Or.inr (Or.inl ⟨rfl, Or.inl rfl⟩)
  · exact Or.inr (Or.inl ⟨rfl, Or.inr ⟨_, rfl⟩⟩)
  · exact Or.inr (Or.inr (Or.inl ⟨_, rfl, by rw [of_decide_eq_true h]⟩))
  · exact Or.inr (Or.inr (Or.inr ⟨_, rfl, by rw [of_decide_eq_true h]⟩))
  · cases h

section Close

variable {rt : Runtime} {srv : Server} {disconnect : List Event → Except Exn Unit} {α : Type} {s : Objects}

theorem onCursor_some {i : Nat} {cursor : Cursor} (hcursor : s.cursors[i]? = some cursor) (m : Method α) :
    onCursor i m s = ((m (s.world cursor .absent)).1.map fun _ => (),
      { s.absorb (m (s.world cursor .absent)).2 with
        cursors := s.cursors.set i (m (s.world cursor .absent)).2.cursor }) := by
  unfold onCursor
  rw [hcursor]

theorem onCursor_none {i : Nat} (hcursor : s.cursors[i]? = none) (m : Method α) :
    onCursor i m s = (.ok (), s) := by
  unfold onCursor
  rw [hcursor]

theorem onStatement_some {i : Nat} {statement : PreparedStatement}
    (hstatement : s.statements[i]? = some statement) (m : Method α) :
    onStatement i m s = ((m (s.world .new statement)).1.map fun _ => (),
      { s.absorb (m (s.world .new statement)).2 with
        statements := s.statements.set i (m (s.world .new statement)).2.statement }) := by
  unfold onStatement
  rw [hstatement]

theorem has_cursor {i : Nat} (h : s.has (.cursor i) = true) : ∃ c : Cursor, s.cursors[i]? = some c :=
  ⟨_, List.getElem?_eq_getElem (of_decide_eq_true h)⟩

theorem has_statement {i : Nat} (h : s.has (.statement i) = true) :
    ∃ p : PreparedStatement, s.statements[i]? = some p :=
  ⟨_, List.getElem?_eq_getElem (of_decide_eq_true h)⟩

theorem closed_cursor {i : Nat} {c : Cursor} (hc : s.cursors[i]? = some c) :
    s.has (.cursor i) = true ∧ s.closed (.cursor i) = c.closed := by
  refine ⟨decide_eq_true (List.getElem?_eq_some_iff.mp hc).1, ?_⟩
  rw [Objects.closed, hc]
  rfl

theorem closed_statement {i : Nat} {p : PreparedStatement} (hp : s.statements[i]? = some p) :
    s.has (.statement i) = true ∧ s.closed (.statement i) = p.closed := by
  refine ⟨decide_eq_true (List.getElem?_eq_some_iff.mp hp).1, ?_⟩
  rw [Objects.closed, hp]
  rfl

/-- A `close` of a statement that returns has closed it. -/
theorem statementClose_closes {w w' : World} (h : statementClose srv w = (.ok (), w')) :
    w'.statement.closed = true := by
  rw [statementClose, checkClosed] at h
  split at h
  · cases h
  · obtain ⟨_, s₁, h₁, h⟩ := Run.bind_eq_ok h
    obtain ⟨_, s₂, h₂, h⟩ := Run.bind_eq_ok h
    cases h
    rfl

/-- What `Connection.close` does when it returns: a connection that is closed already does not. -/
theorem closeConnection_ok (hok : (closeConnection s).1 = .ok ()) :
    closeConnection s = (.ok (), { s with
      connection := { s.connection with closed := true }
      cursors := s.cursors.map Cursor.closeUnlessClosed }) := by
  cases hclosed : s.connection.closed with
  | true =>
    rw [closeConnection, whileOpen_closed hclosed] at hok
    cases hok
  | false =>
    rw [closeConnection, whileOpen_open hclosed]
    rfl

theorem Cursor.closeUnlessClosed_closed (c : Cursor) : c.closeUnlessClosed.closed = true := by
  unfold Cursor.closeUnlessClosed
  split
  · assumption
  · rfl

/-- The loop of `Connection.close` reaches every cursor the connection has. -/
theorem closeConnection_cursor {i : Nat} (hhas : s.has (.cursor i) = true)
    (hok : (closeConnection s).1 = .ok ()) :
    (closeConnection s).2.has (.cursor i) = true ∧ (closeConnection s).2.closed (.cursor i) = true := by
  obtain ⟨c, hc⟩ := has_cursor hhas
  have hmap : (closeConnection s).2.cursors[i]? = some c.closeUnlessClosed := by
    rw [closeConnection_ok hok]
    show (s.cursors.map Cursor.closeUnlessClosed)[i]? = _
    rw [List.getElem?_map, hc]
    rfl
  obtain ⟨hhas', hclosed⟩ := closed_cursor hmap
  exact ⟨hhas', hclosed.trans c.closeUnlessClosed_closed⟩

/-- `Cursor.close` on an open cursor. -/
theorem cursorClose_open (rt : Runtime) (srv : Server) {i : Nat} {c : Cursor} (hc : s.cursors[i]? = some c) (hopen : c.closed = false) :
    (CursorMethod.close.run rt srv i s).2.has (.cursor i) = true ∧
      (CursorMethod.close.run rt srv i s).2.closed (.cursor i) = true := by
  have hrun : CursorMethod.close.run rt srv i s =
      (.ok (), { s with cursors := s.cursors.set i { c with closed := true } }) := by
    rw [CursorMethod.run, onCursor_some hc, cursorMethod,
      checkClosed_open (show (s.world c .absent).cursor.closed = false from hopen)]
    rfl
  rw [hrun]
  exact closed_cursor (s := { s with cursors := s.cursors.set i { c with closed := true } })
    (List.getElem?_set_self (List.getElem?_eq_some_iff.mp hc).1)

/-- `PreparedStatement.close`, when it returns. -/
theorem statementMethodClose_ok {i : Nat} {p : PreparedStatement} (hp : s.statements[i]? = some p)
    (hok : (StatementMethod.close.run srv i s).1 = .ok ()) :
    (StatementMethod.close.run srv i s).2.has (.statement i) = true ∧
      (StatementMethod.close.run srv i s).2.closed (.statement i) = true := by
  rw [StatementMethod.run, onStatement_some hp] at hok ⊢
  rcases hclose : statementClose srv (s.world .new p) with ⟨r, w⟩
  rw [hclose] at hok
  cases r with
  | error e => cases hok
  | ok u =>
    obtain ⟨hhas, hflag⟩ := closed_statement (s := { s.absorb w with
      statements := s.statements.set i w.statement })
      (List.getElem?_set_self (List.getElem?_eq_some_iff.mp hp).1)
    exact ⟨hhas, hflag.trans (statementClose_closes hclose)⟩

/-- **An operation that closes an object and returns leaves it closed.** -/
theorem Operation.run_closes {op : Operation} {object : Object} (hcloses : op.closes object = true)
    (hhas : s.has object = true) (hok : (op.run rt srv disconnect s).1 = .ok ()) :
    (op.run rt srv disconnect s).2.has object = true ∧
      (op.run rt srv disconnect s).2.closed object = true := by
  rcases closes_cases hcloses with ⟨rfl, rfl⟩ | ⟨rfl, rfl | ⟨i, rfl⟩⟩ | ⟨i, rfl, rfl⟩ | ⟨i, rfl, rfl⟩
  · exact ⟨rfl, rfl⟩
  · show (closeConnection s).2.has .connection = true ∧ (closeConnection s).2.closed .connection = true
    rw [closeConnection_ok hok]
    exact ⟨rfl, rfl⟩
  · exact closeConnection_cursor hhas hok
  · obtain ⟨c, hc⟩ := has_cursor hhas
    cases hclosed : c.closed with
    -- to close a cursor again raises, and leaves it closed
    | true => exact (Operation.cursor i .close).run_stays.closed hhas ((closed_cursor hc).2.trans hclosed)
    | false => exact cursorClose_open rt srv hc hclosed
  · obtain ⟨p, hp⟩ := has_statement hhas
    exact statementMethodClose_ok hp hok

end Close

/-! ## A closed object refuses -/

section Refuse

variable {rt : Runtime} {srv : Server} {disconnect : List Event → Except Exn Unit} {α : Type} {s : Objects}

/-- **Refused**: the package's `Error` is raised, and nothing has happened. -/
def Refused (rt : Runtime) (srv : Server) (disconnect : List Event → Except Exn Unit) (op : Operation)
    (s : Objects) : Prop :=
  ∃ message, op.run rt srv disconnect s = (.error (.error message), s)

theorem onClient_refused {m : Method α} {e : Exn} (h : ∀ w, w.clientClosed = s.clientClosed →
    w.connection = s.connection → m w = (.error e, w)) : forget (onClient m) s = (.error e, s) := by
  have hrun : onClient m s = (.error e, s) := by
    rw [onClient, h (s.world .new .absent) rfl rfl]
    rfl
  rw [forget, Run.bind_error hrun]

theorem askFlightInfo_refused (hclosed : s.clientClosed = true) (command : Command) :
    askFlightInfo srv command s = (.error (.error "FlightSQLClient already closed"), s) :=
  onClient_refused fun w hw _ => checkClosed_closed (hw.trans hclosed)

/-- A method of a cursor that refuses it. -/
theorem onCursor_refused {i : Nat} {c : Cursor} (hc : s.cursors[i]? = some c) {m : Method α} {e : Exn}
    (h : m (s.world c .absent) = (.error e, s.world c .absent)) : onCursor i m s = (.error e, s) := by
  obtain ⟨hlt, hget⟩ := List.getElem?_eq_some_iff.mp hc
  have hset : s.cursors.set i c = s.cursors := by
    rw [← hget, List.set_getElem_self]
  rw [onCursor_some hc, h]
  show (Except.error e, { s with cursors := s.cursors.set i c }) = (_, s)
  rw [hset]

theorem onStatement_refused {i : Nat} {p : PreparedStatement} (hp : s.statements[i]? = some p)
    {m : Method α} {e : Exn} (h : m (s.world .new p) = (.error e, s.world .new p)) :
    onStatement i m s = (.error e, s) := by
  obtain ⟨hlt, hget⟩ := List.getElem?_eq_some_iff.mp hp
  have hset : s.statements.set i p = s.statements := by
    rw [← hget, List.set_getElem_self]
  rw [onStatement_some hp, h]
  show (Except.error e, { s with statements := s.statements.set i p }) = (_, s)
  rw [hset]

theorem ClientMethod.run_refused {method : ClientMethod} (hclosed : s.clientClosed = true)
    (hsends : (Operation.client method).sends = true) (hprepare : ∀ query, method ≠ .prepare query) :
    method.run rt srv disconnect s = (.error (.error "FlightSQLClient already closed"), s) := by
  cases method with
  | close => cases hsends
  | execute query => exact askFlightInfo_refused hclosed (.statementQuery query)
  | executeUpdate query =>
    refine onClient_refused fun w hw _ => ?_
    rw [clientExecuteUpdate, Run.bind_error (checkClosed_closed (hw.trans hclosed))]
    rfl
  | prepare query => exact absurd rfl (hprepare query)
  | doGet ticket => exact onClient_refused fun w hw _ => checkClosed_closed (hw.trans hclosed)
  | _ => exact askFlightInfo_refused hclosed _

theorem ConnectionMethod.run_refused {method : ConnectionMethod} (hclosed : s.connection.closed = true)
    (hsends : (Operation.connection method).sends = true) :
    method.run rt srv s = (.error (.error "Connection already closed"), s) := by
  by_cases hmetadata : method.isMetadata = true
  · obtain ⟨β, m, hrun, -, hguard⟩ := ConnectionMethod.run_metadata rt srv hmetadata
    rw [hrun]
    refine onClient_refused fun w _ hw => hguard w ?_
    rw [hw]
    exact hclosed
  · cases method with
    | execute query params => exact whileOpen_closed hclosed _
    | executemany query paramSeq => exact whileOpen_closed hclosed _
    | commit | rollback | close | cursor => cases hsends
    | _ => exact absurd rfl hmetadata

/-- **A closed object refuses every method that sends**, except that the client prepares. -/
theorem Operation.run_refused {op : Operation} (hhas : s.has op.object = true)
    (hclosed : s.closed op.object = true) (hsends : op.sends = true)
    (hprepare : ∀ query, op ≠ .client (.prepare query)) : Refused rt srv disconnect op s := by
  cases op with
  | client method =>
    exact ⟨_, ClientMethod.run_refused hclosed hsends fun query h => hprepare query (congrArg _ h)⟩
  | connection method => exact ⟨_, ConnectionMethod.run_refused hclosed hsends⟩
  | cursor i method =>
    obtain ⟨c, hc⟩ := has_cursor hhas
    have hcursor : c.closed = true := (closed_cursor hc).2.symm.trans hclosed
    cases method with
    | execute query params => exact ⟨_, onCursor_refused hc (checkClosed_closed hcursor)⟩
    | executemany query paramSeq => exact ⟨_, onCursor_refused hc (checkClosed_closed hcursor)⟩
    | _ => cases hsends
  | statement i method =>
    obtain ⟨p, hp⟩ := has_statement hhas
    have hstatement : p.closed = true := (closed_statement hp).2.symm.trans hclosed
    cases method with
    | execute binding => exact ⟨_, onStatement_refused hp (checkClosed_closed hstatement)⟩
    | close => exact ⟨_, onStatement_refused hp (checkClosed_closed hstatement)⟩

end Refuse

/-! ## What is sent over a closed client -/

/-- The connection's decision on a catalog is no RPC; every other event is. -/
def Event.isRpc : Event → Bool
  | .resolved _ => false
  | _ => true

/-- The RPCs of a log. -/
def rpcsOf (log : List Event) : List Event := log.filter Event.isRpc

/-- A method whose RPCs are all those of the client's public methods. -/
def Operation.callsClient : Operation → Bool
  | .connection _ | .cursor _ _ => true
  | _ => false

/-- **The operation prepares a statement**: the client's own `prepare`, or parameters given to a cursor or a
    connection that is open. -/
def Operation.prepares (s : Objects) : Operation → Bool
  | .client (.prepare _) => true
  | .cursor i (.execute _ params) => s.has (.cursor i) && !s.closed (.cursor i) && (params.getD []).length ≠ 0
  | .cursor i (.executemany _ paramSeq) =>
    s.has (.cursor i) && !s.closed (.cursor i) && (paramSeq.getD []).length ≠ 0
  | .connection (.execute _ params) => !s.closed .connection && (params.getD []).length ≠ 0
  | .connection (.executemany _ paramSeq) => !s.closed .connection && (paramSeq.getD []).length ≠ 0
  | _ => false

/-- A closed client, and no RPC since. -/
structure Silent (log : List Event) (w : World) : Prop where
  client : w.clientClosed = true
  rpcs : rpcsOf w.log = rpcsOf log

theorem Silent.guarded (srv : Server) (log : List Event) : Guarded srv (Silent log) where
  info command w hw := by
    rw [getFlightInfo, checkClosed_closed hw.client]
    exact hw
  get ticket w hw := by
    rw [FlightSql.doGet, checkClosed_closed hw.client]
    exact hw
  resolve catalog := Run.Keeps.modify fun w hw => by
    refine ⟨hw.client, ?_⟩
    show rpcsOf (w.log ++ [.resolved catalog]) = _
    rw [rpcsOf, List.filter_append]
    exact (List.append_nil _).trans hw.rpcs

theorem Silent.cursor {log : List Event} (w : World) (description : Option (List ColumnDescription))
    (results : List (List PyValue)) (hw : Silent log w) :
    Silent log { w with cursor := { w.cursor with description := description, results := results } } :=
  ⟨hw.client, hw.rpcs⟩

/-- An RPC has been recorded since. -/
def Sent (log : List Event) (w : World) : Prop :=
  ∃ e evs, w.log = log ++ e :: evs ∧ e.isRpc = true

theorem Sent.recording (log : List Event) : Recording (Sent log) where
  record w x hw := by
    obtain ⟨e, evs, hlog, he⟩ := hw
    refine ⟨e, evs ++ [x], ?_, he⟩
    rw [World.record_log, hlog, List.append_assoc]
    rfl
  resolved w catalog hw := hw
  statement w statement hw := hw
  cursor w description results hw := hw

theorem Sent.rpcs_ne {log : List Event} {w : World} (h : Sent log w) : rpcsOf w.log ≠ rpcsOf log := by
  obtain ⟨e, evs, hlog, he⟩ := h
  intro heq
  have hlength := congrArg List.length heq
  rw [hlog, rpcsOf, rpcsOf, List.filter_append, List.filter_cons_of_pos he, List.length_append,
    List.length_cons] at hlength
  omega

section Send

variable {rt : Runtime} {srv : Server} {disconnect : List Event → Except Exn Unit} {s : Objects}

/-- To prepare is to send. -/
theorem prepare_sent (rt : Runtime) (srv : Server) (query : String) (w : World) :
    Sent w.log (prepare rt srv query w).2 := by
  refine Run.Keeps.after ⟨_, [], rfl, rfl⟩ fun reply => ?_
  exact (Run.Keeps.ofExcept _).bind fun statement => Run.Keeps.modify fun w' hw' => hw'

theorem withPrepared_sent {query : String} {body : Method Unit}
    (hbody : ∀ log, Run.Keeps (Sent log) body) (w : World) :
    Sent w.log (withPrepared rt srv query body w).2 :=
  Run.Keeps.after (prepare_sent rt srv query w) fun _ =>
    (hbody w.log).withExit (Sent.recording w.log).statementClose

theorem execute_sent {w : World} (hopen : w.cursor.closed = false) {params : Option (List PyValue)}
    (hparams : (params.getD []).length ≠ 0) (query : String) :
    Sent w.log (execute rt srv query params w).2 := by
  rw [execute, checkClosed_open hopen, translateErrors_snd]
  show Sent w.log ((if (params.getD []).length = 0 then _ else withPrepared rt srv query _ : Method Unit)
    (resetCursor w).2).2
  rw [if_neg hparams]
  refine withPrepared_sent (w := (resetCursor w).2) fun log => ?_
  refine ((Sent.recording log).executeRow _).bind fun info => ?_
  refine ((Sent.recording log).guarded.readFirstEndpoint info).bind fun payload => ?_
  exact storeResults_keeps rt payload (Sent.recording log).cursor

theorem executemany_sent {w : World} (hopen : w.cursor.closed = false)
    {paramSeq : Option (List (List PyValue))} (hparams : (paramSeq.getD []).length ≠ 0) (query : String) :
    Sent w.log (executemany rt srv query paramSeq w).2 := by
  rw [executemany, checkClosed_open hopen, translateErrors_snd]
  show Sent w.log ((if (paramSeq.getD []).length = 0 then _ else withPrepared rt srv query _ : Method Unit)
    (resetCursor w).2).2
  rw [if_neg hparams]
  refine withPrepared_sent (w := (resetCursor w).2) fun log => Run.Keeps.forEach (fun params => ?_) _
  refine ((Sent.recording log).executeRow params).bind fun info => ?_
  exact ((Sent.recording log).guarded.readFirstEndpoint info).bind fun payload => Run.Keeps.pure _

/-- A method of a new cursor is a method of a cursor as the constructor makes it. -/
theorem onNewCursor_log (hopen : s.connection.closed = false) {α : Type} (m : Method α) :
    (onNewCursor m s).2.log = (m (s.world .new .absent)).2.log := by
  let s' : Objects := { s with cursors := s.cursors ++ [.new] }
  have hnew : newCursor s = (.ok (), s') := by
    rw [newCursor, whileOpen_open hopen]
    rfl
  have hlast : s'.cursors[s'.cursors.length - 1]? = some Cursor.new := by
    show (s.cursors ++ [Cursor.new])[(s.cursors ++ [Cursor.new]).length - 1]? = _
    simp
  rw [onNewCursor, whileOpen_open hopen, Run.bind_ok hnew, Run.bind_ok (Run.gets_run _ s'),
    onCursor_some hlast]
  rfl

/-- A method of a cursor that is there. -/
theorem onCursor_log {i : Nat} {c : Cursor} (hc : s.cursors[i]? = some c) {α : Type} (m : Method α) :
    (onCursor i m s).2.log = (m (s.world c .absent)).2.log := by
  rw [onCursor_some hc]
  rfl

/-- `prepare` of the client sends what it sends in a world. -/
theorem prepareStatement_log (query : String) :
    (prepareStatement rt srv query s).2.log = (prepare rt srv query (s.world .new .absent)).2.log := by
  have hclient : ∀ (r : Except Exn Unit) (w : World), prepare rt srv query (s.world .new .absent) = (r, w) →
      onClient (do prepare rt srv query; Run.gets World.statement) s =
        (r.map fun _ => w.statement, s.absorb w) := by
    intro r w hrun
    unfold onClient
    cases r with
    | ok u => rw [Run.bind_ok hrun]; rfl
    | error e => rw [Run.bind_error hrun]; rfl
  rcases hrun : prepare rt srv query (s.world .new .absent) with ⟨r, w⟩
  cases r with
  | ok u => rw [prepareStatement, Run.bind_ok (hclient _ w hrun)]; rfl
  | error e => rw [prepareStatement, Run.bind_error (hclient _ w hrun)]; rfl

/-- An open cursor. -/
theorem open_cursor {i : Nat} (h : (s.has (.cursor i) && !s.closed (.cursor i)) = true) :
    ∃ c, s.cursors[i]? = some c ∧ c.closed = false := by
  obtain ⟨hhas, hopen⟩ := (Bool.and_eq_true _ _).mp h
  obtain ⟨c, hc⟩ := has_cursor hhas
  refine ⟨c, hc, ?_⟩
  rw [← (closed_cursor hc).2]
  exact Bool.not_eq_true' _ |>.mp hopen

/-- **An operation that prepares sends an RPC**, over a closed client too. -/
theorem Operation.run_prepares {op : Operation} (h : op.prepares s = true) :
    rpcsOf (op.run rt srv disconnect s).2.log ≠ rpcsOf s.log := by
  unfold Operation.prepares at h
  split at h
  · rename_i query
    show rpcsOf (prepareStatement rt srv query s).2.log ≠ _
    rw [prepareStatement_log]
    exact (prepare_sent rt srv query (s.world .new .absent)).rpcs_ne
  · rename_i i query params
    obtain ⟨hthere, hparams⟩ := (Bool.and_eq_true _ _).mp h
    obtain ⟨c, hc, hopen⟩ := open_cursor hthere
    rw [Operation.run, CursorMethod.run, onCursor_log hc]
    exact (execute_sent (w := s.world c .absent) hopen (of_decide_eq_true hparams) query).rpcs_ne
  · rename_i i query paramSeq
    obtain ⟨hthere, hparams⟩ := (Bool.and_eq_true _ _).mp h
    obtain ⟨c, hc, hopen⟩ := open_cursor hthere
    rw [Operation.run, CursorMethod.run, onCursor_log hc]
    exact (executemany_sent (w := s.world c .absent) hopen (of_decide_eq_true hparams) query).rpcs_ne
  · rename_i query params
    obtain ⟨hopen, hparams⟩ := (Bool.and_eq_true _ _).mp h
    rw [Operation.run, ConnectionMethod.run, onNewCursor_log ((Bool.not_eq_true' _).mp hopen)]
    exact (execute_sent (w := s.world .new .absent) rfl (of_decide_eq_true hparams) query).rpcs_ne
  · rename_i query paramSeq
    obtain ⟨hopen, hparams⟩ := (Bool.and_eq_true _ _).mp h
    rw [Operation.run, ConnectionMethod.run, onNewCursor_log ((Bool.not_eq_true' _).mp hopen)]
    exact (executemany_sent (w := s.world .new .absent) rfl (of_decide_eq_true hparams) query).rpcs_ne
  · cases h

/-- Nothing is sent through a closed client without parameters. -/
theorem execute_silent {w : World} (hclient : w.clientClosed = true) {params : Option (List PyValue)}
    (hparams : ¬(params.getD []).length ≠ 0) (query : String) :
    rpcsOf (execute rt srv query params w).2.log = rpcsOf w.log :=
  (execute_keeps (Silent.guarded srv w.log) Silent.cursor (fun h => absurd h hparams) query w
    ⟨hclient, rfl⟩).rpcs

theorem executemany_silent {w : World} (hclient : w.clientClosed = true)
    {paramSeq : Option (List (List PyValue))} (hparams : ¬(paramSeq.getD []).length ≠ 0) (query : String) :
    rpcsOf (executemany rt srv query paramSeq w).2.log = rpcsOf w.log :=
  (executemany_keeps (Silent.guarded srv w.log) Silent.cursor (fun h => absurd h hparams) query w
    ⟨hclient, rfl⟩).rpcs

/-- Where the object is there and open, there are no parameters. -/
theorem no_parameters {here : Bool} {n : Nat} (hhere : here = true)
    (h : (here && decide (n ≠ 0)) = false) : ¬n ≠ 0 := by
  intro hn
  rw [hhere, Bool.true_and, decide_eq_true hn] at h
  cases h

theorem ConnectionMethod.run_quiet {method : ConnectionMethod} (hclient : s.clientClosed = true)
    (hprepares : (Operation.connection method).prepares s = false) :
    rpcsOf (method.run rt srv s).2.log = rpcsOf s.log := by
  by_cases hmetadata : method.isMetadata = true
  · obtain ⟨β, m, hrun, hkeeps, -⟩ := ConnectionMethod.run_metadata rt srv hmetadata
    rw [hrun, forget_snd]
    exact (hkeeps _ (Silent.guarded srv s.log) (s.world .new .absent) ⟨hclient, rfl⟩).rpcs
  cases hclosed : s.connection.closed with
  | true =>
    -- a closed connection refuses the call before it has a cursor
    have hwhile : ∀ m : Action, rpcsOf (whileOpen m s).2.log = rpcsOf s.log := fun m => by
      rw [whileOpen_closed hclosed]
    cases method with
    | commit | rollback | close | cursor | execute _ _ | executemany _ _ => exact hwhile _
    | _ => exact absurd rfl hmetadata
  | false =>
    have hopen : (!s.closed .connection) = true := (Bool.not_eq_true' _).mpr hclosed
    have hwhile : ∀ m : Action, (m s).2.log = s.log → rpcsOf (whileOpen m s).2.log = rpcsOf s.log := by
      intro m hlog
      rw [whileOpen_open hclosed, hlog]
    cases method with
    | commit | rollback | close | cursor => exact hwhile _ rfl
    | execute query params =>
      rw [ConnectionMethod.run, onNewCursor_log hclosed]
      exact execute_silent (w := s.world .new .absent) hclient (no_parameters hopen hprepares) query
    | executemany query paramSeq =>
      rw [ConnectionMethod.run, onNewCursor_log hclosed]
      exact executemany_silent (w := s.world .new .absent) hclient (no_parameters hopen hprepares) query
    | _ => exact absurd rfl hmetadata

theorem CursorMethod.run_quiet {method : CursorMethod} {i : Nat} (hclient : s.clientClosed = true)
    (hprepares : (Operation.cursor i method).prepares s = false) :
    rpcsOf (method.run rt srv i s).2.log = rpcsOf s.log := by
  by_cases hlocal : (Operation.cursor i method).sends = false
  · obtain ⟨β, m, hrun, hkeeps⟩ := CursorMethod.run_local rt srv hlocal
    rw [hrun]
    cases hc : s.cursors[i]? with
    | none => rw [onCursor_none hc]
    | some c =>
      rw [onCursor_log hc, (hkeeps (s.world c .absent) _ ⟨Flags.refl _, rfl⟩).2]
      rfl
  · cases hc : s.cursors[i]? with
    | none =>
      cases method with
      | execute _ _ | executemany _ _ => rw [CursorMethod.run, onCursor_none hc]
      | _ => exact absurd rfl hlocal
    | some c =>
      cases hclosed : c.closed with
      | true =>
        have hrefused : Refused rt srv (fun _ => .ok ()) (.cursor i method) s := by
          refine Operation.run_refused (closed_cursor hc).1 ((closed_cursor hc).2.trans hclosed)
            (Bool.of_not_eq_false hlocal) fun query h => ?_
          cases h
        obtain ⟨message, hrun⟩ := hrefused
        exact congrArg (fun end_ => rpcsOf end_.2.log) hrun
      | false =>
        have hthere : (s.has (.cursor i) && !s.closed (.cursor i)) = true := by
          rw [(closed_cursor hc).1, (closed_cursor hc).2, hclosed]
          rfl
        cases method with
        | execute query params =>
          rw [CursorMethod.run, onCursor_log hc]
          exact execute_silent (w := s.world c .absent) hclient (no_parameters hthere hprepares) query
        | executemany query paramSeq =>
          rw [CursorMethod.run, onCursor_log hc]
          exact executemany_silent (w := s.world c .absent) hclient (no_parameters hthere hprepares) query
        | _ => exact absurd rfl hlocal

/-- **Over a closed client, an operation that does not prepare sends nothing** through the client. -/
theorem Operation.run_quiet {op : Operation} (hclient : s.clientClosed = true)
    (hcalls : op.callsClient = true) (hprepares : op.prepares s = false) :
    rpcsOf (op.run rt srv disconnect s).2.log = rpcsOf s.log := by
  cases op with
  | client method => cases hcalls
  | connection method => exact ConnectionMethod.run_quiet hclient hprepares
  | cursor i method => exact CursorMethod.run_quiet hclient hprepares
  | statement i method => cases hcalls

end Send

/-! ## Programs -/

section Program

variable (rt : Runtime) (srv : Server) (disconnect : List Event → Except Exn Unit)

/-- The objects after some operations. -/
def objectsAfter (ops : List Operation) (s : Objects) : Objects :=
  Run.runAll (fun op : Operation => op.run rt srv disconnect) ops s

/-- **`close()` of the object has returned**: its own, or that of the connection for a cursor it had created
    by then. -/
def HasClosed (ops : List Operation) (s : Objects) (object : Object) : Prop :=
  ∃ before op after, ops = before ++ op :: after ∧ op.closes object = true ∧
    (objectsAfter rt srv disconnect before s).has object = true ∧
    (op.run rt srv disconnect (objectsAfter rt srv disconnect before s)).1 = .ok ()

/-- **Closed means closed**, in a program: a method that sends is refused by an object whose `close()` has
    returned; and once that of the client has, no method of the connection or a cursor sends through it. -/
structure ClosedMeansClosed (ops : List Operation) (s : Objects) : Prop where
  refused : ∀ before op after, ops = before ++ op :: after → op.sends = true →
    HasClosed rt srv disconnect before s op.object →
    Refused rt srv disconnect op (objectsAfter rt srv disconnect before s)
  quiet : ∀ before op after, ops = before ++ op :: after → op.callsClient = true →
    HasClosed rt srv disconnect before s .client →
    rpcsOf (op.run rt srv disconnect (objectsAfter rt srv disconnect before s)).2.log =
      rpcsOf (objectsAfter rt srv disconnect before s).log

variable {rt srv disconnect}

/-- **What has been closed is closed** from then on. -/
theorem HasClosed.closed {ops : List Operation} {s : Objects} {object : Object}
    (h : HasClosed rt srv disconnect ops s object) :
    (objectsAfter rt srv disconnect ops s).has object = true ∧
      (objectsAfter rt srv disconnect ops s).closed object = true := by
  obtain ⟨before, op, after, rfl, hcloses, hhas, hok⟩ := h
  obtain ⟨hhas', hclosed⟩ := Operation.run_closes hcloses hhas hok
  have hsplit : objectsAfter rt srv disconnect (before ++ op :: after) s =
      objectsAfter rt srv disconnect after
        (op.run rt srv disconnect (objectsAfter rt srv disconnect before s)).2 := Run.runAll_append _ _ _ _
  have hstays : ∀ s₀, Stays s₀ (objectsAfter rt srv disconnect after s₀) := fun s₀ =>
    Run.Keeps.runAll (I := Stays s₀) (fun op s hs => hs.trans op.run_stays) after s₀ (Stays.refl s₀)
  rw [hsplit]
  exact (hstays _).closed hhas' hclosed

/-- **When closed means closed.**  In every program, from whatever objects it starts: exactly if nothing is
    prepared over a client whose `close()` has returned. -/
theorem closedMeansClosed_iff (rt : Runtime) (srv : Server) (disconnect : List Event → Except Exn Unit)
    (ops : List Operation) (s : Objects) :
    ClosedMeansClosed rt srv disconnect ops s ↔
      ∀ before op after, ops = before ++ op :: after → HasClosed rt srv disconnect before s .client →
        op.prepares (objectsAfter rt srv disconnect before s) = false := by
  constructor
  · intro h before op after hops hclosed
    -- what prepares has sent: as the client's own call it was not refused, as another's it was not quiet
    rw [Bool.eq_false_iff]
    intro hprepares
    have hsent : rpcsOf (op.run rt srv disconnect (objectsAfter rt srv disconnect before s)).2.log ≠
        rpcsOf (objectsAfter rt srv disconnect before s).log := Operation.run_prepares hprepares
    cases op with
    | client method =>
      cases method with
      | prepare query =>
        obtain ⟨message, hrun⟩ := h.refused before _ after hops rfl hclosed
        rw [hrun] at hsent
        exact hsent rfl
      | _ => cases hprepares
    | connection method => exact hsent (h.quiet before _ after hops rfl hclosed)
    | cursor i method => exact hsent (h.quiet before _ after hops rfl hclosed)
    | statement i method => cases hprepares
  · intro h
    refine ⟨fun before op after hops hsends hclosed => ?_, fun before op after hops hcalls hclosed => ?_⟩
    · obtain ⟨hhas, hflag⟩ := hclosed.closed
      refine Operation.run_refused hhas hflag hsends fun query hop => ?_
      subst hop
      cases h before _ after hops hclosed
    · exact Operation.run_quiet hclosed.closed.2 hcalls (h before op after hops hclosed)

end Program

/-! ## A client that is closed first -/

/-- A client and a connection on it, as they are made. -/
def Objects.fresh : Objects := ⟨[], false, ⟨false, none, none⟩, [], []⟩

/-- A Flight client that answers after it has been closed as PyArrow's does. -/
def Server.disconnected : Server :=
  { Server.fixed (fun _ => .ok (.ofTickets [])) fun _ => .error ⟨.arrow .invalid, "FlightClient is closed"⟩ with
    createPreparedStatement := fun _ _ => .error ⟨.arrow .invalid, "FlightClient is closed"⟩ }

/-- **`prepare` of a closed client** calls the Flight client and raises what that raises, which is no
    `Error` of the package. -/
theorem closedMeansClosed_prepare :
    ((Operation.client (.prepare "SELECT 1")).run .reference .disconnected (fun _ => .ok ())
        (objectsAfter .reference .disconnected (fun _ => .ok ()) [.client .close] .fresh)).1 =
        .error ⟨.arrow .invalid, "FlightClient is closed"⟩ ∧
      ¬ClosedMeansClosed .reference .disconnected (fun _ => .ok ())
        [.client .close, .client (.prepare "SELECT 1")] .fresh := by
  refine ⟨rfl, fun h => ?_⟩
  obtain ⟨message, hrun⟩ := h.refused [.client .close] (.client (.prepare "SELECT 1")) [] rfl rfl
    ⟨[], .client .close, [], rfl, rfl, rfl, rfl⟩
  cases congrArg Prod.fst hrun

end FlightSql
