/-
  A FLIGHT SQL SERVICE — what the cursors of several sessions talk to, as far as `flightsql.proto` and
  `PreparedStatement.execute` of `flightsql/client.py` describe it.

  The service is not part of the package: it is a parameter, and what is known of it are the laws of a
  `Contract`.  They say what a handle runs, never what it is: a service may keep the statement behind a handle
  and bind to it, or put query and parameters into the handle; it may answer a put with a new handle or with
  none, go on running the old one as it was, give one handle to equal queries, execute a query when it is
  asked for it or when its result is read, and refuse anything.

  1. **Queries and executions** — `Engine`, `Execution`; the database is what the executions make of it (`Replays`).

  2. **The contract** — `View`, what the sessions have of a service, and the laws.

  3. **What becomes of a request** (`serve`) — an answer may get lost, and so may the request.

  4. **What a session relies on** (`Rely`) — while the others change statements of their own only, what its
     handles run stays as it is, and so does what it has executed (`serve_rely`).

  Mathlib-free but for what it imports.
-/
import FlightSql.Sessions.Scripts

set_option linter.unusedVariables false

namespace FlightSql.Sessions

open Arrow Lib Lib.Wire PreparedHandle

/-! ## Queries and executions -/

/-- **What a database makes of queries.** -/
structure Engine (D : Type) where
  /-- The serialized dataset and parameter schemas of a query. -/
  prepare : String → D → Except Exn (Bytes × Bytes)
  /-- The result of a query under a binding, and the database after it. -/
  evaluate : String → Option RecordBatch → D → Except Exn (Table × D)

/-- A query with the binding it runs under. -/
abbrev Ran : Type := String × Option RecordBatch

/-- An execution, of whoever asked for it, with its result. -/
structure Execution (ι : Type) where
  owner : ι
  ran : Ran
  table : Table

/-- **The database is what the executions make of it**, one after the other. -/
def Replays {ι D : Type} (engine : Engine D) : D → List (Execution ι) → D → Prop
  | d, [], d' => d' = d
  | d, e :: es, d' => ∃ d₁, engine.evaluate e.ran.1 e.ran.2 d = .ok (e.table, d₁) ∧ Replays engine d₁ es d'

theorem Replays.append {ι D : Type} {engine : Engine D} {d d' d'' : D} {es es' : List (Execution ι)}
    (h : Replays engine d es d') (h' : Replays engine d' es' d'') : Replays engine d (es ++ es') d'' := by
  induction es generalizing d with
  | nil =>
    have hd : d' = d := h
    subst hd
    exact h'
  | cons e es ih =>
    obtain ⟨d₁, hfirst, hrest⟩ := h
    exact ⟨d₁, hfirst, ih hrest⟩

/-! ## The contract -/

/-- **A service**: what it answers to a request of a session, and what it executes for the answer. -/
structure Service (ι S : Type) where
  answer : ι → (q : Call) → S → Reply q × S
  executes : ι → Call → S → Option (Ran × Table)

/-- The handle of the statement a request changes. -/
def changed : Call → Option Bytes
  | .doPut handle _ => some handle
  | .closePreparedStatement handle => some handle
  | _ => none

/-- A request that asks for an execution or reads a result. -/
def Call.queries : Call → Prop
  | .getFlightInfo _ | .doGet _ => True
  | _ => False

/-- The statements a request opens, at most. -/
def Call.opens : Call → Nat
  | .createPreparedStatement _ => 1
  | _ => 0

/-- What a ticket stands for: a result, or a query that runs when it is read. -/
inductive Fetch where
  | result (table : Table)
  | pending (ran : Ran)

/-- **How a put is answered**, and which handle the batch is then bound to: a new one comes in a result
    message, bare or in an `Any`; where there is none it is the handle that was sent. -/
inductive PutAnswer (sent : Bytes) : Option Bytes → Bytes → Prop where
  | silent : PutAnswer sent none sent
  | blank : PutAnswer sent (some []) sent
  | other {url value : Bytes} (hurl : url.length < 2 ^ 64) (hvalue : value.length < 2 ^ 64)
      (htyped : typeUrlPrefix <+: url) (hother : url ≠ doPutPreparedResultUrl) :
      PutAnswer sent (some (encodeAny url value)) sent
  | bare {before after : List Wire.Field} {handle : Bytes} (hbefore : Unknown before) (hafter : Unknown after)
      (hlength : handle.length < 2 ^ 64) (hne : handle ≠ []) (htyped : ¬ typeUrlPrefix <+: handle) :
      PutAnswer sent (some (encodeResult before handle after)) handle
  | wrapped {before after : List Wire.Field} {handle : Bytes} (hbefore : Unknown before) (hafter : Unknown after)
      (hlength : handle.length < 2 ^ 64) (hne : handle ≠ [])
      (hresult : (encodeResult before handle after).length < 2 ^ 64) :
      PutAnswer sent (some (encodeAny doPutPreparedResultUrl (encodeResult before handle after))) handle

/-- **The client takes up that handle.** -/
theorem PutAnswer.boundHandle_eq {sent : Bytes} {metadata : Option Bytes} {handle : Bytes}
    (h : PutAnswer sent metadata handle) : boundHandle sent metadata = handle := by
  cases h with
  | silent => rfl
  | blank => rfl
  | other hurl hvalue htyped hother =>
    rw [boundHandle, Option.getD_some, updatedPreparedHandle_otherAny hurl hvalue htyped hother]
    rfl
  | bare hbefore hafter hlength hne htyped =>
    rw [boundHandle, Option.getD_some, updatedPreparedHandle_encodeResult hbefore hafter hlength hne htyped]
    rfl
  | wrapped hbefore hafter hlength hne hresult =>
    rw [boundHandle, Option.getD_some, updatedPreparedHandle_encodeAny hbefore hafter hlength hne hresult]
    rfl

/-- **What the sessions have of a service** in each of its states. -/
structure View (ι S : Type) where
  /-- The handle is of a statement of the session, whatever it runs by now. -/
  Holds : ι → Bytes → S → Prop
  /-- A GetFlightInfo of the session's handle runs this, if it runs anything. -/
  Runs : ι → Bytes → Ran → S → Prop
  /-- The ticket is the session's, and stands for this. -/
  Serves : ι → Ticket → Fetch → S → Prop
  /-- How many statements of the session are open. -/
  openOf : ι → S → Nat

namespace View

variable {ι S : Type} (view : View ι S)

/-- The request changes a statement of the session's own, if any. -/
def OwnChange (i : ι) (q : Call) (s : S) : Prop := ∀ handle, changed q = some handle → view.Holds i handle s

/-- What the session has in `s` it has in `s'`, and no statement of its has been opened. -/
structure Kept (i : ι) (s s' : S) : Prop where
  holds : ∀ {handle : Bytes}, view.Holds i handle s → view.Holds i handle s'
  runs : ∀ {handle : Bytes} {ran : Ran}, view.Runs i handle ran s → view.Runs i handle ran s'
  serves : ∀ {ticket : Ticket} {fetch : Fetch}, view.Serves i ticket fetch s → view.Serves i ticket fetch s'
  opened : view.openOf i s' ≤ view.openOf i s

theorem Kept.refl (i : ι) (s : S) : view.Kept i s s := ⟨id, id, id, Nat.le_refl _⟩

variable {view}

theorem Kept.trans {i : ι} {s s' s'' : S} (h : view.Kept i s s') (h' : view.Kept i s' s'') : view.Kept i s s'' where
  holds hhandle := h'.holds (h.holds hhandle)
  runs hruns := h'.runs (h.runs hruns)
  serves hserves := h'.serves (h.serves hserves)
  opened := Nat.le_trans h'.opened h.opened

/-- What the session runs with a command. -/
def Asks (view : View ι S) (i : ι) (ran : Ran) (s : S) : Command → Prop
  | .statementQuery query => ran = (query, none)
  | .preparedStatementQuery handle => view.Runs i handle ran s
  | _ => False

end View

/-- The payload a reply comes to when it is read. -/
def Delivers (reply : Except Exn Reader) (payload : Payload) : Prop :=
  ∃ reader, reply = .ok reader ∧ readAll reader = .ok payload

/-- What a ticket stands for when this was executed before it was handed out. -/
def Fetch.Of (ran : Ran) (executed : Option (Ran × Table)) : Fetch → Prop
  | .result table => executed = some (ran, table)
  | .pending later => later = ran ∧ executed = none

/-- What is executed and delivered when a ticket is read. -/
def Fetch.Read (executed : Option (Ran × Table)) (reply : Except Exn Reader) : Fetch → Prop
  | .result table => executed = none ∧ ∀ payload, Delivers reply payload → payload = .table table
  | .pending ran => (∀ e, executed = some e → e.1 = ran) ∧
      ∀ payload, Delivers reply payload → ∃ table, executed = some (ran, table) ∧ payload = .table table

/-- What an execution makes of the database. -/
def Engine.Step {D : Type} (engine : Engine D) : Option (Ran × Table) → D → D → Prop
  | none, d, d' => d' = d
  | some (ran, table), d, d' => engine.evaluate ran.1 ran.2 d = .ok (table, d')

/-- **What is relied on of a service**, law by law. -/
structure Contract {ι S D : Type} (engine : Engine D) (service : Service ι S) extends View ι S where
  database : S → D
  /-- The handle a session knows the meaning of is its own. -/
  holds_of_runs : ∀ {i handle ran s}, Runs i handle ran s → Holds i handle s
  /-- The database changes by executions alone. -/
  step : ∀ i q s, engine.Step (service.executes i q s) (database s) (database (service.answer i q s).2)
  /-- Only a GetFlightInfo or a DoGet executes anything. -/
  quiet : ∀ {i q s}, ¬ q.queries → service.executes i q s = none
  /-- A statement is prepared with nothing bound, under the schemas of its query. -/
  prepared : ∀ {i query s result}, (service.answer i (.createPreparedStatement query) s).1 = .ok (some result) →
    engine.prepare query (database s) = .ok (result.datasetSchema, result.parameterSchema) ∧
      Runs i result.handle (query, none) (service.answer i (.createPreparedStatement query) s).2
  /-- A put that is answered binds its batch; the handle it is answered with runs it. -/
  bound : ∀ {i handle batch ran s metadata}, Runs i handle ran s →
    (service.answer i (.doPut handle batch) s).1 = .ok metadata →
      ∃ handle', PutAnswer handle metadata handle' ∧
        Runs i handle' (ran.1, some batch) (service.answer i (.doPut handle batch) s).2
  /-- A put takes no statement from its session. -/
  put_holds : ∀ {i handle batch s}, Holds i handle s → Holds i handle (service.answer i (.doPut handle batch) s).2
  /-- A GetFlightInfo executes its query or nothing. -/
  asked : ∀ {i ran s command}, toView.Asks i ran s command →
    ∀ e, service.executes i (.getFlightInfo command) s = some e → e.1 = ran
  /-- The ticket of its first endpoint stands for the whole result: results in several endpoints are not meant. -/
  info : ∀ {i ran s command info ticket}, toView.Asks i ran s command →
    (service.answer i (.getFlightInfo command) s).1 = .ok info → firstTicket info = .ok ticket →
      ∃ fetch : Fetch, fetch.Of ran (service.executes i (.getFlightInfo command) s) ∧
        Serves i ticket fetch (service.answer i (.getFlightInfo command) s).2
  /-- A ticket is read for what it stands for. -/
  read : ∀ {i ticket fetch s}, Serves i ticket fetch s →
    fetch.Read (service.executes i (.doGet ticket) s) (service.answer i (.doGet ticket) s).1
  /-- A statement may be executed again. -/
  reusable : ∀ {i q handle ran s}, q.queries → Runs i handle ran s → Runs i handle ran (service.answer i q s).2
  /-- Only a CreatePreparedStatement opens a statement. -/
  opening : ∀ i q s, openOf i (service.answer i q s).2 ≤ openOf i s + q.opens
  /-- A ClosePreparedStatement that is answered closes the statement its handle runs. -/
  closing : ∀ {i handle ran s}, Runs i handle ran s → (service.answer i (.closePreparedStatement handle) s).1 = .ok () →
    openOf i (service.answer i (.closePreparedStatement handle) s).2 ≤ openOf i s - 1
  /-- What a session does with statements of its own leaves the others what they have. -/
  others : ∀ {i j q s}, j ≠ i → toView.OwnChange j q s → toView.Kept i s (service.answer j q s).2

/-! ## What becomes of a request -/

/-- **A service on record**: its state, and what it has executed so far. -/
structure Record (ι S : Type) where
  state : S
  executions : List (Execution ι)

namespace Record

variable {ι S : Type}

/-- Nothing is executed yet. -/
def initial (s : S) : Record ι S := ⟨s, []⟩

variable [DecidableEq ι]

def executionsOf (r : Record ι S) (i : ι) : List (Execution ι) := r.executions.filter fun e => e.owner = i

/-- What the session `i` ran, in its order. -/
def ranOf (r : Record ι S) (i : ι) : List Ran := (r.executionsOf i).map Execution.ran

end Record

/-- What becomes of a request: it is answered, or it or its answer is lost, which raises. -/
inductive Delivery where
  | answered
  | requestLost (e : Exn)
  | replyLost (e : Exn)

namespace Service

variable {ι S : Type} (service : Service ι S)

/-- What is executed for a request. -/
def executed (i : ι) (q : Call) (s : S) : List (Execution ι) :=
  ((service.executes i q s).map fun e => ⟨i, e.1, e.2⟩).toList

/-- **A request that is answered**, on record. -/
def perform (i : ι) (q : Call) (r : Record ι S) : Reply q × Record ι S :=
  ((service.answer i q r.state).1,
    ⟨(service.answer i q r.state).2, r.executions ++ service.executed i q r.state⟩)

/-- **A request and what becomes of it.** -/
def serve (i : ι) : Delivery → (q : Call) → Record ι S → Reply q × Record ι S
  | .answered, q, r => service.perform i q r
  | .requestLost e, q, r => (.error e, r)
  | .replyLost e, q, r => (.error e, (service.perform i q r).2)

end Service

/-! ## What a session relies on -/

section Frame

variable {ι S D : Type} [DecidableEq ι] {engine : Engine D} {service : Service ι S}
  {contract : Contract engine service} {i j : ι} {r r' : Record ι S}

/-- A request adds to the record what is executed for it: to that of its own session. -/
theorem executionsOf_perform (i j : ι) (q : Call) (r : Record ι S) :
    (service.perform j q r).2.executionsOf i =
      r.executionsOf i ++ if j = i then service.executed j q r.state else [] := by
  have hexecuted : (service.executed j q r.state).filter (fun e => e.owner = i) =
      if j = i then service.executed j q r.state else [] := by
    rw [Service.executed]
    rcases service.executes j q r.state with _ | e
    · by_cases hj : j = i
      · rw [if_pos hj]
        rfl
      · rw [if_neg hj]
        rfl
    · by_cases hj : j = i
      · simp [hj]
      · simp [hj]
  show (r.executions ++ service.executed j q r.state).filter (fun e => e.owner = i) = _
  rw [List.filter_append, hexecuted]
  rfl

/-- **What the session `i` relies on**: what it has of the service, and its executions. -/
structure Rely (contract : Contract engine service) (i : ι) (r r' : Record ι S) : Prop where
  kept : contract.toView.Kept i r.state r'.state
  executions : r'.executionsOf i = r.executionsOf i

theorem Rely.refl (contract : Contract engine service) (i : ι) (r : Record ι S) : Rely contract i r r :=
  ⟨.refl _ i r.state, rfl⟩

theorem Rely.trans {r'' : Record ι S} (h : Rely contract i r r') (h' : Rely contract i r' r'') :
    Rely contract i r r'' :=
  ⟨h.kept.trans h'.kept, h'.executions.trans h.executions⟩

theorem Rely.ranOf (h : Rely contract i r r') : r'.ranOf i = r.ranOf i := by
  rw [Record.ranOf, h.executions, Record.ranOf]

/-- **What the others do**: with handles of their own statements only, they leave a session's alone. -/
theorem serve_rely {q : Call} {delivery : Delivery} (hne : j ≠ i) (hown : contract.toView.OwnChange j q r.state) :
    Rely contract i r (service.serve j delivery q r).2 := by
  have hperform : Rely contract i r (service.perform j q r).2 := by
    refine ⟨contract.others hne hown, ?_⟩
    rw [executionsOf_perform, if_neg hne, List.append_nil]
  rcases delivery with _ | e | e
  · exact hperform
  · exact Rely.refl contract i r
  · exact hperform

end Frame

end FlightSql.Sessions
