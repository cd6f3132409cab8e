/-
  ONE CURSOR AMONG OTHERS — what each part of the script of `Cursor.execute` and `Cursor.executemany`
  (`flightsql/dbapi.py`) does at a service that keeps a `Contract`, while other sessions take turns with it.

  1. **Plans** — what an operation may have run when it has stopped somewhere (`Begins`) and when it has
     returned (`Completes`), and what a session of operations may (`Possible`).

  2. **The discipline** (`sessions`) — a session changes only statements of its own, and executes only what
     its operations still plan.

  3. **Specifications** — from `executed_wp` and `put_wp` to `row_wp`, `rows_wp` by induction on the rows, and
     `prepared_wp`, whatever is lost on the way.

  Mathlib-free but for what it imports.
-/
import FlightSql.Sessions.Service

set_option linter.unusedVariables false

namespace FlightSql.Sessions

open Arrow Lib Lib.Wire PreparedHandle

/-! ## Plans -/

/-- The query of an operation. -/
def Operation.query : Operation → String
  | .execute query _ => query
  | .executemany query _ => query

/-- Its rows of parameters, if it prepares a statement. -/
def Operation.rows : Operation → Option (List (List PyValue))
  | .execute _ params => if (params.getD []).length = 0 then none else some [params.getD []]
  | .executemany _ paramSeq => if (paramSeq.getD []).length = 0 then none else some (paramSeq.getD [])

/-- How an operation ends: with the results the cursor then holds, if any, or an exception. -/
abbrev Outcome : Type := Except Exn (Option Results)

/-- **What is done with a cursor**: operations one after the other, each chosen by how those before it ended. -/
inductive Session where
  | done
  | next (op : Operation) (k : Outcome → Session)

section Plans

variable {D : Type} (rt : Runtime) (engine : Engine D)

/-- The server says of a query that it has these parameters. -/
def Reports (query : String) (schema : Option Schema) : Prop :=
  ∃ d dataset parameters, engine.prepare query d = .ok (dataset, parameters) ∧
    readIpcSchema rt parameters = .ok schema

/-- What a query runs for rows that can be bound, `last` being bound before. -/
def planned (query : String) (schema : Option Schema) (last : Option RecordBatch)
    (rows : List (List PyValue)) : List Ran :=
  (carried rt schema last (rows.takeWhile (bindable rt schema))).map fun binding => (query, binding)

/-- **What an operation may have run when it stops somewhere.** -/
def Begins (op : Operation) (ran : List Ran) : Prop :=
  match op.rows with
  | none => ran <+: [(op.query, none)]
  | some rows => ran = [] ∨ ∃ schema, Reports rt engine op.query schema ∧
      ran <+: planned rt op.query schema none rows

/-- **What it has run when it returns.** -/
def Completes (op : Operation) (ran : List Ran) : Prop :=
  match op.rows with
  | none => ran = [(op.query, none)]
  | some rows => ∃ schema, Reports rt engine op.query schema ∧ (∀ params ∈ rows, bindable rt schema params = true) ∧
      ran = planned rt op.query schema none rows

/-- What it has run when it is over. -/
def Ended (op : Operation) : Outcome → List Ran → Prop
  | .ok _, ran => Completes rt engine op ran
  | .error _, ran => Begins rt engine op ran

/-- **What a session may have run** when it stops somewhere: all that its operations ran that are over, and
    what one more may have run. -/
def Possible : Session → List Ran → Prop
  | .done, ran => ran = []
  | .next op k, ran => Begins rt engine op ran ∨
      ∃ r first rest, ran = first ++ rest ∧ Ended rt engine op r first ∧ Possible (k r) rest

variable {rt engine}

theorem Begins.nil (op : Operation) : Begins rt engine op [] := by
  unfold Begins
  split
  · exact List.nil_prefix
  · exact Or.inl rfl

theorem Completes.begins {op : Operation} {ran : List Ran} (h : Completes rt engine op ran) :
    Begins rt engine op ran := by
  unfold Completes at h
  unfold Begins
  split at h
  · rw [h]
  · obtain ⟨schema, hreports, -, hran⟩ := h
    rw [hran]
    exact Or.inr ⟨schema, hreports, List.prefix_rfl⟩

theorem Completes.ended {op : Operation} {ran : List Ran} (h : Completes rt engine op ran) (r : Outcome) :
    Ended rt engine op r ran := by
  rcases r with e | results
  · exact h.begins
  · exact h

theorem Possible.nil (session : Session) : Possible rt engine session [] := by
  cases session with
  | done => rfl
  | next op k => exact Or.inl (Begins.nil op)

end Plans

/-! ## The discipline -/

section Discipline

variable {ι S D : Type} [DecidableEq ι] (rt : Runtime) {engine : Engine D} {service : Service ι S}
  (contract : Contract engine service)

/-- **What the sessions may do**: change their own statements, and ask for what their operations plan. -/
def sessions (programs : ι → Session) : Discipline service.serve where
  Allowed _ := True
  Permits i q r := contract.toView.OwnChange i q r.state ∧
    ∀ e, service.executes i q r.state = some e → Possible rt engine (programs i) (r.ranOf i ++ [e.1])
  Rely := Rely contract
  refl := Rely.refl contract
  trans h h' := h.trans h'
  others hne _ hpermits := serve_rely hne hpermits.1

end Discipline

/-! ## Its own requests -/

section Own

variable {ι S D : Type} [DecidableEq ι] {rt : Runtime} {engine : Engine D} {service : Service ι S}
  {contract : Contract engine service} {programs : ι → Session} {i : ι} {r r' r'' : Record ι S}

/-- From `r` to `r'` the session `i` executed `new`, and no statement of its was opened. -/
structure Adds (contract : Contract engine service) (i : ι) (r : Record ι S) (new : List (Execution ι))
    (r' : Record ι S) : Prop where
  executions : r'.executionsOf i = r.executionsOf i ++ new
  opened : contract.openOf i r'.state ≤ contract.openOf i r.state

/-- Its handles run what they ran. -/
def Lasts (contract : Contract engine service) (i : ι) (r r' : Record ι S) : Prop :=
  ∀ (handle : Bytes) (ran : Ran), contract.Runs i handle ran r.state → contract.Runs i handle ran r'.state

theorem Adds.trans {new new' : List (Execution ι)} (h : Adds contract i r new r') (h' : Adds contract i r' new' r'') :
    Adds contract i r (new ++ new') r'' where
  executions := by rw [h'.executions, h.executions, List.append_assoc]
  opened := Nat.le_trans h'.opened h.opened

theorem Rely.adds (h : Rely contract i r r') : Adds contract i r [] r' :=
  ⟨by rw [h.executions, List.append_nil], h.kept.opened⟩

theorem Adds.rely {new : List (Execution ι)} (h : Adds contract i r new r') (hs : Rely contract i r' r'') :
    Adds contract i r new r'' := by
  have hadds := h.trans hs.adds
  rwa [List.append_nil] at hadds

theorem Adds.after {new : List (Execution ι)} (hs : Rely contract i r r') (h : Adds contract i r' new r'') :
    Adds contract i r new r'' := hs.adds.trans h

theorem Adds.ranOf {new : List (Execution ι)} (h : Adds contract i r new r') :
    r'.ranOf i = r.ranOf i ++ new.map Execution.ran := by
  rw [Record.ranOf, h.executions, List.map_append]
  rfl

theorem Rely.lasts (h : Rely contract i r r') : Lasts contract i r r' := fun _ _ hruns => h.kept.runs hruns

omit [DecidableEq ι] in
theorem Lasts.trans (h : Lasts contract i r r') (h' : Lasts contract i r' r'') : Lasts contract i r r'' :=
  fun handle ran hruns => h' handle ran (h handle ran hruns)

/-- What a command asks for stays so. -/
theorem asks_rely {ran : Ran} {command : Command} (h : contract.toView.Asks i ran r.state command)
    (hs : Rely contract i r r') : contract.toView.Asks i ran r'.state command := by
  cases command with
  | statementQuery query => exact h
  | preparedStatementQuery handle => exact hs.kept.runs h
  | _ => exact h.elim

/-- What is executed for a request of its own is added, and nothing is opened but by one that opens. -/
theorem perform_adds {q : Call} (hq : q.opens = 0) (r : Record ι S) :
    Adds contract i r (service.executed i q r.state) (service.perform i q r).2 where
  executions := by rw [executionsOf_perform, if_pos rfl]
  opened := by
    have hopening := contract.opening i q r.state
    rw [hq] at hopening
    exact hopening

omit [DecidableEq ι] in
theorem perform_lasts (q : Call) (hq : q.queries) (r : Record ι S) :
    Lasts contract i r (service.perform i q r).2 := fun _ _ hruns => contract.reusable hq hruns

omit [DecidableEq ι] in
theorem executed_of_none {q : Call} {s : S} (h : service.executes i q s = none) : service.executed i q s = [] := by
  rw [Service.executed, h]
  rfl

omit [DecidableEq ι] in
theorem executed_of_some {q : Call} {s : S} {ran : Ran} {table : Table}
    (h : service.executes i q s = some (ran, table)) : service.executed i q s = [⟨i, ran, table⟩] := by
  rw [Service.executed, h]
  rfl

omit [DecidableEq ι] in
/-- At most one execution, of what is asked for. -/
theorem executed_atMostOnce {q : Call} {s : S} {ran : Ran} (h : ∀ e, service.executes i q s = some e → e.1 = ran) :
    (service.executed i q s).map Execution.ran <+: [ran] := by
  rcases hexecutes : service.executes i q s with _ | ⟨ran', table⟩
  · rw [executed_of_none hexecutes]
    exact List.nil_prefix
  · rw [executed_of_some hexecutes, ← h _ hexecutes]
    exact List.prefix_rfl

/-- **A request of its own**: permitted whatever the others do, and good for what follows whether it is
    answered, lost before it arrives, or its answer lost. -/
theorem wp_request {α : Type} {q : Call} {next : Reply q → Script Call Reply α} {post : α → Record ι S → Prop}
    (hpermits : ∀ r', Rely contract i r r' → (sessions rt contract programs).Permits i q r')
    (hanswered : ∀ r', Rely contract i r r' →
      (sessions rt contract programs).wp i (next (service.perform i q r').1) post (service.perform i q r').2)
    (hunsent : ∀ e, (sessions rt contract programs).wp i (next (.error e)) post r)
    (hlost : ∀ e r', Rely contract i r r' →
      (sessions rt contract programs).wp i (next (.error e)) post (service.perform i q r').2) :
    (sessions rt contract programs).wp i (.ask q next) post r := by
  intro r' hs
  refine ⟨hpermits r' hs, fun delivery _ => ?_⟩
  rcases delivery with _ | e | e
  · exact hanswered r' hs
  · exact Discipline.wp_rely (hunsent e) hs
  · exact hlost e r' hs

/-- Whether and what a command ran, by what its result was. -/
def OneRun (ran : Ran) : Except Exn Payload → List (Execution ι) → Prop
  | .ok payload, new => ∃ e, new = [e] ∧ e.ran = ran ∧ payload = .table e.table
  | .error _, new => new.map Execution.ran <+: [ran]

/-- What the read of a ticket ran, by what it stands for and what was read. -/
def Fetch.Comes (out : Except Exn Payload) (new : List (Execution ι)) : Fetch → Prop
  | .result table => new = [] ∧ ∀ payload, out = .ok payload → payload = .table table
  | .pending ran => OneRun ran out new

/-- What is read of a reply. -/
def payloadOf (reply : Except Exn Reader) : Except Exn Payload := reply >>= readAll

theorem fetch_run {info : FlightInfo} {ticket : Ticket} (hticket : firstTicket info = .ok ticket) :
    (fetch info).run = .ask (.doGet ticket) fun reply => .done (payloadOf reply) := by
  have hnext : ∀ reply : Except Exn Reader,
      ExceptT.bindCont (fun reader => compute (readAll reader)) reply = Script.done (payloadOf reply) := by
    intro reply
    rcases reply with e | reader
    · rfl
    · rfl
  rw [fetch, hticket]
  exact congrArg (Script.ask (Call.doGet ticket)) (funext hnext)

theorem delivers_of_ok {reply : Except Exn Reader} {payload : Payload} (h : payloadOf reply = .ok payload) :
    Delivers reply payload := Outcome.bind_eq_ok h

omit [DecidableEq ι] in
/-- What is read of a ticket, and what is executed for it. -/
theorem comes_of_read {ticket : Ticket} {meaning : Fetch} (hserves : contract.Serves i ticket meaning r.state) :
    meaning.Comes (payloadOf (service.answer i (.doGet ticket) r.state).1)
        (service.executed i (.doGet ticket) r.state) ∧
      ∀ e : Exn, meaning.Comes (.error e) (service.executed i (.doGet ticket) r.state) := by
  have hread := contract.read hserves
  rcases meaning with table | ran
  · obtain ⟨hnone, hpayload⟩ := hread
    have hexecuted := executed_of_none hnone
    exact ⟨⟨hexecuted, fun payload h => hpayload payload (delivers_of_ok h)⟩, fun e => ⟨hexecuted, by rintro payload ⟨⟩⟩⟩
  · obtain ⟨honly, hpayload⟩ := hread
    refine ⟨?_, fun e => executed_atMostOnce honly⟩
    rcases hout : payloadOf (service.answer i (.doGet ticket) r.state).1 with e | payload
    · exact executed_atMostOnce honly
    · obtain ⟨table, hexecutes, hpayload⟩ := hpayload payload (delivers_of_ok hout)
      exact ⟨_, executed_of_some hexecutes, rfl, hpayload⟩

omit [DecidableEq ι] in
/-- Nothing was read. -/
theorem comes_unread (meaning : Fetch) (e : Exn) : meaning.Comes (.error e) ([] : List (Execution ι)) := by
  rcases meaning with table | ran
  · exact ⟨rfl, by rintro payload ⟨⟩⟩
  · exact List.nil_prefix

/-- **The read of a result**: of the execution whose ticket it is, or of one that is pending. -/
theorem fetch_wp {info : FlightInfo} {ticket : Ticket} {meaning : Fetch} (hticket : firstTicket info = .ok ticket)
    (hserves : contract.Serves i ticket meaning r.state)
    (hpossible : ∀ ran, meaning = .pending ran → Possible rt engine (programs i) (r.ranOf i ++ [ran])) :
    (sessions rt contract programs).wp i (fetch info).run
      (fun out r' => Lasts contract i r r' ∧ ∃ new, Adds contract i r new r' ∧ meaning.Comes out new) r := by
  rw [fetch_run hticket]
  have hperformed : ∀ r' r'', Rely contract i r r' → Rely contract i (service.perform i (.doGet ticket) r').2 r'' →
      Lasts contract i r r'' ∧ Adds contract i r (service.executed i (.doGet ticket) r'.state) r'' :=
    fun r' r'' hs hs' => ⟨hs.lasts.trans ((perform_lasts (.doGet ticket) trivial r').trans hs'.lasts),
      (Adds.after hs (perform_adds rfl r')).rely hs'⟩
  refine wp_request ?_ ?_ ?_ ?_
  · intro r' hs
    refine ⟨by rintro handle ⟨⟩, fun e he => ?_⟩
    have hread := contract.read (hs.kept.serves hserves)
    rw [hs.ranOf]
    rcases meaning with table | ran
    · have hnone := hread.1
      rw [he] at hnone
      cases hnone
    · rw [hread.1 e he]
      exact hpossible ran rfl
  · intro r' hs r'' hs'
    obtain ⟨hlasts, hadds⟩ := hperformed r' r'' hs hs'
    exact ⟨hlasts, _, hadds, (comes_of_read (hs.kept.serves hserves)).1⟩
  · exact fun e r' hs => ⟨hs.lasts, [], hs.adds, comes_unread meaning e⟩
  · intro e r' hs r'' hs'
    obtain ⟨hlasts, hadds⟩ := hperformed r' r'' hs hs'
    exact ⟨hlasts, _, hadds, (comes_of_read (hs.kept.serves hserves)).2 e⟩

omit [DecidableEq ι] in
/-- What ran before a ticket was handed out, and what ran when it was read, are one run. -/
theorem oneRun_of_fetch {ran : Ran} {command : Command} {s : S} {meaning : Fetch} {out : Except Exn Payload}
    {new : List (Execution ι)} (hof : meaning.Of ran (service.executes i (.getFlightInfo command) s))
    (hcomes : meaning.Comes out new) :
    OneRun ran out (service.executed i (.getFlightInfo command) s ++ new) := by
  rcases meaning with table | later
  · obtain ⟨rfl, hpayload⟩ := hcomes
    rw [executed_of_some hof, List.append_nil]
    rcases out with e | payload
    · exact List.prefix_rfl
    · exact ⟨_, rfl, rfl, hpayload payload rfl⟩
  · obtain ⟨rfl, hnone⟩ := hof
    rw [executed_of_none hnone]
    exact hcomes

/-- **A command of its own is executed and its result read**: once, or nothing came of it. -/
theorem executed_wp {command : Command} {ran : Ran} (hasks : contract.toView.Asks i ran r.state command)
    (hpossible : Possible rt engine (programs i) (r.ranOf i ++ [ran])) :
    (sessions rt contract programs).wp i (executed command).run
      (fun out r' => Lasts contract i r r' ∧ ∃ new, Adds contract i r new r' ∧ OneRun ran out new) r := by
  have hraised : ∀ (e : Exn) r₁ r₂, Rely contract i r r₁ →
      Rely contract i (service.perform i (.getFlightInfo command) r₁).2 r₂ →
      Lasts contract i r r₂ ∧ ∃ new, Adds contract i r new r₂ ∧ OneRun ran (.error e) new :=
    fun e r₁ r₂ hs₁ hs₂ => ⟨hs₁.lasts.trans ((perform_lasts (.getFlightInfo command) trivial r₁).trans hs₂.lasts), _,
      (Adds.after hs₁ (perform_adds rfl r₁)).rely hs₂, executed_atMostOnce (contract.asked (asks_rely hasks hs₁))⟩
  show (sessions rt contract programs).wp i (.ask (.getFlightInfo command) (ExceptT.bindCont fetch)) _ r
  refine wp_request ?_ ?_ ?_ ?_
  · intro r₁ hs₁
    refine ⟨by rintro handle ⟨⟩, fun e he => ?_⟩
    rw [hs₁.ranOf, contract.asked (asks_rely hasks hs₁) e he]
    exact hpossible
  · intro r₁ hs₁
    have hasks₁ := asks_rely hasks hs₁
    rcases hreply : (service.perform i (.getFlightInfo command) r₁).1 with e | info
    · exact fun r₂ hs₂ => hraised e r₁ r₂ hs₁ hs₂
    show (sessions rt contract programs).wp i (fetch info).run _ _
    rcases hticket : firstTicket info with e | ticket
    · rw [fetch, hticket]
      exact fun r₂ hs₂ => hraised e r₁ r₂ hs₁ hs₂
    obtain ⟨meaning, hof, hserves⟩ := contract.info hasks₁ hreply hticket
    have hadds : Adds contract i r₁ _ (service.perform i (.getFlightInfo command) r₁).2 := perform_adds rfl r₁
    refine Discipline.wp_mono (fetch_wp (r := (service.perform i (.getFlightInfo command) r₁).2) hticket hserves ?_) ?_
    · rintro later rfl
      obtain ⟨rfl, hnone⟩ := hof
      rw [hadds.ranOf, executed_of_none hnone, hs₁.ranOf]
      show Possible rt engine (programs i) (r.ranOf i ++ [] ++ [later])
      rw [List.append_nil]
      exact hpossible
    · rintro out r₂ ⟨hlasts, new, hnew, hcomes⟩
      exact ⟨hs₁.lasts.trans ((perform_lasts (.getFlightInfo command) trivial r₁).trans hlasts), _, Adds.after hs₁ (hadds.trans hnew),
        oneRun_of_fetch hof hcomes⟩
  · exact fun e r₁ hs₁ => ⟨hs₁.lasts, [], hs₁.adds, List.nil_prefix⟩
  · exact fun e r₁ hs₁ r₂ hs₂ => hraised e r₁ r₂ hs₁ hs₂

/-- What is bound after a put of a batch, which is not sent without rows. -/
def boundAfter (batch : RecordBatch) (last : Option RecordBatch) : Option RecordBatch :=
  if batch.numRows > 0 then some batch else last

/-- What the put of a batch comes to: the handle it came back with runs the query under it; or an exception,
    and the old handle is still the session's. -/
def PutEnds (contract : Contract engine service) (i : ι) (handle : Bytes) (batch : RecordBatch) (query : String)
    (last : Option RecordBatch) : Except Exn Bytes → Record ι S → Prop
  | .ok updated, r => contract.Runs i updated (query, boundAfter batch last) r.state
  | .error _, r => contract.Holds i handle r.state

/-- **A put of its own.** -/
theorem put_wp {handle : Bytes} {batch : RecordBatch} {query : String} {last : Option RecordBatch}
    (hruns : contract.Runs i handle (query, last) r.state) :
    (sessions rt contract programs).wp i (put handle batch).run
      (fun out r' => Adds contract i r [] r' ∧ PutEnds contract i handle batch query last out r') r := by
  unfold put
  by_cases hrows : batch.numRows > 0
  · rw [if_pos hrows]
    have hadds : ∀ r₁, Rely contract i r r₁ → Adds contract i r [] (service.perform i (.doPut handle batch) r₁).2 := by
      intro r₁ hs₁
      have hperform : Adds contract i r₁ _ (service.perform i (.doPut handle batch) r₁).2 := perform_adds rfl r₁
      rw [executed_of_none (contract.quiet id)] at hperform
      exact Adds.after hs₁ hperform
    have hholds : ∀ r₁, Rely contract i r r₁ →
        contract.Holds i handle (service.perform i (.doPut handle batch) r₁).2.state :=
      fun r₁ hs₁ => contract.put_holds (contract.holds_of_runs (hs₁.kept.runs hruns))
    show (sessions rt contract programs).wp i (.ask (.doPut handle batch)
      (ExceptT.bindCont fun metadata => pure (boundHandle handle metadata))) _ r
    refine wp_request ?_ ?_ ?_ ?_
    · intro r₁ hs₁
      constructor
      · rintro handle' hchanged
        cases hchanged
        exact contract.holds_of_runs (hs₁.kept.runs hruns)
      · intro e he
        rw [contract.quiet id] at he
        cases he
    · intro r₁ hs₁
      rcases hreply : (service.perform i (.doPut handle batch) r₁).1 with e | metadata
      · exact fun r₂ hs₂ => ⟨(hadds r₁ hs₁).rely hs₂, hs₂.kept.holds (hholds r₁ hs₁)⟩
      · obtain ⟨handle', hputs, hruns'⟩ := contract.bound (hs₁.kept.runs hruns) hreply
        intro r₂ hs₂
        refine ⟨(hadds r₁ hs₁).rely hs₂, ?_⟩
        show contract.Runs i (boundHandle handle metadata) (query, boundAfter batch last) r₂.state
        rw [hputs.boundHandle_eq, boundAfter, if_pos hrows]
        exact hs₂.kept.runs hruns'
    · exact fun e r₁ hs₁ => ⟨hs₁.adds, contract.holds_of_runs (hs₁.kept.runs hruns)⟩
    · exact fun e r₁ hs₁ r₂ hs₂ => ⟨(hadds r₁ hs₁).rely hs₂, hs₂.kept.holds (hholds r₁ hs₁)⟩
  · rw [if_neg hrows]
    refine fun r₁ hs₁ => ⟨hs₁.adds, ?_⟩
    show contract.Runs i handle (query, boundAfter batch last) r₁.state
    rw [boundAfter, if_neg hrows]
    exact hs₁.kept.runs hruns

/-! ## Rows -/

theorem planned_cons {query : String} {schema : Option Schema} {last : Option RecordBatch}
    {params : List PyValue} {rows : List (List PyValue)} (h : bindable rt schema params = true) :
    planned rt query schema last (params :: rows) =
      (query, (ownBinding rt schema params).or last) ::
        planned rt query schema ((ownBinding rt schema params).or last) rows := by
  rw [planned, List.takeWhile_cons, if_pos h]
  rfl

/-- The batch of a row binds what the row has of its own; an empty row leaves what is bound. -/
theorem boundAfter_eq {schema : Option Schema} {params : List PyValue} {batch : RecordBatch}
    (last : Option RecordBatch) (h : buildParameterRecord rt.builder params schema = .ok batch) :
    boundAfter batch last = (ownBinding rt schema params).or last := by
  by_cases hempty : params = []
  · subst hempty
    rw [buildParameterRecord_nil] at h
    cases h
    rfl
  · have hone := numRows_buildParameterRecord hempty h
    have hown : ownBinding rt schema params = some batch := by
      rw [ownBinding, if_neg hempty, h]
      rfl
    rw [boundAfter, if_pos (show batch.numRows > 0 by omega), hown]
    rfl

/-- What is left to close: the handle is the session's, and if the body returned it runs something. -/
def Closable {α : Type} (contract : Contract engine service) (i : ι) (out : Except Exn α × Bytes) (r : Record ι S) :
    Prop :=
  contract.Holds i out.2 r.state ∧ ∀ a, out.1 = .ok a → ∃ ran, contract.Runs i out.2 ran r.state

theorem Closable.rely {α : Type} {out : Except Exn α × Bytes} (h : Closable contract i out r)
    (hs : Rely contract i r r') : Closable contract i out r' := by
  obtain ⟨hholds, hruns⟩ := h
  refine ⟨hs.kept.holds hholds, fun a ha => ?_⟩
  obtain ⟨ran, hran⟩ := hruns a ha
  exact ⟨ran, hs.kept.runs hran⟩

omit [DecidableEq ι] in
theorem closable_of_error {α : Type} {e : Exn} {handle : Bytes} (h : contract.Holds i handle r.state) :
    Closable contract i ((.error e : Except Exn α), handle) r := ⟨h, by rintro a ⟨⟩⟩

omit [DecidableEq ι] in
theorem closable_of_runs {α : Type} {out : Except Exn α} {handle : Bytes} {ran : Ran}
    (h : contract.Runs i handle ran r.state) : Closable contract i (out, handle) r :=
  ⟨contract.holds_of_runs h, fun _ _ => ⟨ran, h⟩⟩

/-- **What a row comes to**: it ran once, under its own binding or the one before, and its result was read;
    or an exception stopped it, before or after it ran. -/
structure RowEnds (rt : Runtime) (contract : Contract engine service) (i : ι) (schema : Option Schema)
    (params : List PyValue) (query : String) (last : Option RecordBatch) (out : Except Exn Payload × Bytes)
    (new : List (Execution ι)) (r : Record ι S) : Prop where
  one : OneRun (query, (ownBinding rt schema params).or last) out.1 new
  bound : bindable rt schema params = true ∨ new = [] ∧ ∃ e, out.1 = .error e
  holds : contract.Holds i out.2 r.state
  runs : ∀ payload, out.1 = .ok payload →
    contract.Runs i out.2 (query, (ownBinding rt schema params).or last) r.state

/-- **A row.** -/
theorem row_wp {schema : Option Schema} {handle : Bytes} {params : List PyValue} {query : String}
    {last : Option RecordBatch} (hruns : contract.Runs i handle (query, last) r.state)
    (hpossible : bindable rt schema params = true → Possible rt engine (programs i)
      (r.ranOf i ++ [(query, (ownBinding rt schema params).or last)])) :
    (sessions rt contract programs).wp i (row rt schema handle params)
      (fun out r' => ∃ new, Adds contract i r new r' ∧ RowEnds rt contract i schema params query last out new r') r := by
  unfold row
  rcases hbuild : buildParameterRecord rt.builder params schema with e | batch
  · -- the row cannot be bound: nothing is sent
    exact fun r₁ hs₁ => ⟨[], hs₁.adds, List.nil_prefix, Or.inr ⟨rfl, e, rfl⟩,
      contract.holds_of_runs (hs₁.kept.runs hruns), by rintro payload ⟨⟩⟩
  have hbindable : bindable rt schema params = true := bindable_iff.mpr ⟨batch, hbuild⟩
  refine Discipline.wp_bind (Discipline.wp_mono (put_wp hruns) ?_)
  rintro out r₁ ⟨hadds, hends⟩
  rcases out with e | updated
  · exact fun r₂ hs₂ => ⟨[], hadds.rely hs₂, List.nil_prefix, Or.inl hbindable, hs₂.kept.holds hends, by
      rintro payload ⟨⟩⟩
  have hruns₁ : contract.Runs i updated (query, (ownBinding rt schema params).or last) r₁.state := by
    rw [← boundAfter_eq last hbuild]
    exact hends
  have hran : r₁.ranOf i = r.ranOf i := by
    rw [hadds.ranOf]
    exact List.append_nil _
  have hexecuted := @executed_wp ι S D _ rt engine service contract programs i r₁ (.preparedStatementQuery updated) _
    hruns₁ (hran ▸ hpossible hbindable)
  refine Discipline.wp_bind (Discipline.wp_mono hexecuted ?_)
  rintro payload r₂ ⟨hlasts, new, hadds₂, hone⟩ r₃ hs₃
  have hruns₃ := hs₃.kept.runs (hlasts _ _ hruns₁)
  exact ⟨new, (hadds.trans hadds₂).rely hs₃, hone, Or.inl hbindable, contract.holds_of_runs hruns₃, fun _ _ => hruns₃⟩

/-- **The rows of `executemany`**, by induction on them: what ran is a prefix of what is planned, and all of
    it when none raised. -/
theorem rows_wp {schema : Option Schema} {query : String} (paramSeq : List (List PyValue)) :
    ∀ {handle : Bytes} {last : Option RecordBatch} {r : Record ι S}, contract.Runs i handle (query, last) r.state →
      (∀ ran, ran <+: planned rt query schema last paramSeq →
        Possible rt engine (programs i) (r.ranOf i ++ ran)) →
      (sessions rt contract programs).wp i (rows rt schema handle paramSeq)
        (fun out r' => Closable contract i out r' ∧ ∃ new, Adds contract i r new r' ∧
          new.map Execution.ran <+: planned rt query schema last paramSeq ∧
          (out.1 = .ok () → (∀ params ∈ paramSeq, bindable rt schema params = true) ∧
            new.map Execution.ran = planned rt query schema last paramSeq)) r := by
  induction paramSeq with
  | nil =>
    intro handle last r hruns hpossible r₁ hs₁
    exact ⟨closable_of_runs (hs₁.kept.runs hruns), [], hs₁.adds, List.nil_prefix, fun _ => ⟨by simp, rfl⟩⟩
  | cons params rest ih =>
    intro handle last r hruns hpossible
    have hfirst : bindable rt schema params = true → Possible rt engine (programs i)
        (r.ranOf i ++ [(query, (ownBinding rt schema params).or last)]) := by
      intro hbindable
      refine hpossible _ ?_
      rw [planned_cons hbindable]
      exact ⟨_, rfl⟩
    unfold rows
    refine Discipline.wp_bind (Discipline.wp_mono (row_wp hruns hfirst) ?_)
    rintro ⟨out, handle'⟩ r₁ ⟨new, hadds, hone, hbound, hholds, hruns'⟩
    rcases out with e | payload
    · -- the row raised: the rest is not run
      refine fun r₂ hs₂ => ⟨closable_of_error (hs₂.kept.holds hholds), new, hadds.rely hs₂, ?_, by rintro ⟨⟩⟩
      rcases hbound with hbindable | ⟨hnone, -⟩
      · rw [planned_cons hbindable]
        exact List.IsPrefix.trans hone ⟨_, rfl⟩
      · rw [hnone]
        exact List.nil_prefix
    have hbindable : bindable rt schema params = true := by
      rcases hbound with hbindable | ⟨-, e, he⟩
      · exact hbindable
      · cases he
    obtain ⟨e, hnew, hran, -⟩ := hone
    have hhead : new.map Execution.ran = [(query, (ownBinding rt schema params).or last)] := by
      rw [hnew]
      exact congrArg (fun ran => [ran]) hran
    have hplan : planned rt query schema last (params :: rest) =
        new.map Execution.ran ++ planned rt query schema ((ownBinding rt schema params).or last) rest := by
      rw [planned_cons hbindable, hhead]
      rfl
    have hrest : ∀ ran, ran <+: planned rt query schema ((ownBinding rt schema params).or last) rest →
        Possible rt engine (programs i) (r₁.ranOf i ++ ran) := by
      intro ran hstart
      rw [hadds.ranOf, List.append_assoc]
      refine hpossible _ ?_
      rw [hplan]
      exact (List.prefix_append_right_inj _).mpr hstart
    refine Discipline.wp_mono (ih (hruns' payload rfl) hrest) ?_
    rintro out r₂ ⟨hclosable, new', hadds', hstart, hall⟩
    refine ⟨hclosable, new ++ new', hadds.trans hadds', ?_, fun hok => ?_⟩
    · rw [hplan, List.map_append]
      exact (List.prefix_append_right_inj _).mpr hstart
    · obtain ⟨hbindables, hran'⟩ := hall hok
      rw [hplan, List.map_append, hran']
      exact ⟨List.forall_mem_cons.mpr ⟨hbindable, hbindables⟩, rfl⟩

/-! ## Statements -/

/-- Whether it raised: one, or none. -/
def raised {α : Type} : Except Exn α → Nat
  | .ok _ => 0
  | .error _ => 1

/-- **The close of a statement**: if body and close returned, there is one open statement less. -/
theorem closing_wp {α : Type} {out : Except Exn α × Bytes} (hclosable : Closable contract i out r) :
    (sessions rt contract programs).wp i (closing out)
      (fun res r' => Adds contract i r [] r' ∧ ((∃ e, res = .error e) ∨ res = out.1) ∧
        ∀ a, res = .ok a → contract.openOf i r'.state ≤ contract.openOf i r.state - 1) r := by
  have hadds : ∀ r₁, Rely contract i r r₁ →
      Adds contract i r [] (service.perform i (.closePreparedStatement out.2) r₁).2 := by
    intro r₁ hs₁
    have hperform : Adds contract i r₁ _ (service.perform i (.closePreparedStatement out.2) r₁).2 := perform_adds rfl r₁
    rw [executed_of_none (contract.quiet id)] at hperform
    exact Adds.after hs₁ hperform
  show (sessions rt contract programs).wp i (.ask (.closePreparedStatement out.2)
    fun closed => .done (closed >>= fun _ => out.1)) _ r
  refine wp_request ?_ ?_ ?_ ?_
  · intro r₁ hs₁
    constructor
    · rintro handle hchanged
      cases hchanged
      exact (hclosable.rely hs₁).1
    · intro e he
      rw [contract.quiet id] at he
      cases he
  · intro r₁ hs₁
    rcases hreply : (service.perform i (.closePreparedStatement out.2) r₁).1 with e | u
    · exact fun r₂ hs₂ => ⟨(hadds r₁ hs₁).rely hs₂, Or.inl ⟨e, rfl⟩, by rintro a ⟨⟩⟩
    · refine fun r₂ hs₂ => ⟨(hadds r₁ hs₁).rely hs₂, Or.inr rfl, fun a ha => ?_⟩
      obtain ⟨ran, hruns⟩ := (hclosable.rely hs₁).2 a ha
      have hclosed : contract.openOf i (service.perform i (.closePreparedStatement out.2) r₁).2.state ≤
          contract.openOf i r₁.state - 1 := contract.closing hruns hreply
      have hbefore := hs₁.kept.opened
      have hafter := hs₂.kept.opened
      omega
  · exact fun e r₁ hs₁ => ⟨hs₁.adds, Or.inl ⟨e, rfl⟩, by rintro a ⟨⟩⟩
  · exact fun e r₁ hs₁ r₂ hs₂ => ⟨(hadds r₁ hs₁).rely hs₂, Or.inl ⟨e, rfl⟩, by rintro a ⟨⟩⟩

/-- **What a session is left with**: what it ran since `r`, and at most one open statement more, and that only
    if it raised. -/
def Leaves {α : Type} (contract : Contract engine service) (i : ι) (r : Record ι S)
    (ends : Except Exn α → List (Execution ι) → Prop) (res : Except Exn α) (r' : Record ι S) : Prop :=
  contract.openOf i r'.state ≤ contract.openOf i r.state + raised res ∧
    ∃ new, r'.executionsOf i = r.executionsOf i ++ new ∧ ends res new

theorem Leaves.rely {α : Type} {ends : Except Exn α → List (Execution ι) → Prop} {res : Except Exn α}
    (h : Leaves contract i r ends res r') (hs : Rely contract i r' r'') : Leaves contract i r ends res r'' := by
  obtain ⟨hopen, new, hexec, hends⟩ := h
  exact ⟨Nat.le_trans hs.kept.opened hopen, new, hs.executions.trans hexec, hends⟩

/-- Nothing was opened. -/
theorem leaves_of_adds {α : Type} {ends : Except Exn α → List (Execution ι) → Prop} {res : Except Exn α}
    {new : List (Execution ι)} (h : Adds contract i r new r') (hends : ends res new) :
    Leaves contract i r ends res r' := ⟨Nat.le_add_right_of_le h.opened, new, h.executions, hends⟩

/-- Another outcome in place of the first. -/
theorem leaves_wp_map {α β : Type} {ends : Except Exn α → List (Execution ι) → Prop}
    {ends' : Except Exn β → List (Execution ι) → Prop} {m : Script Call Reply (Except Exn α)}
    {g : Except Exn α → Except Exn β} (h : (sessions rt contract programs).wp i m (Leaves contract i r ends) r)
    (hraised : ∀ res, raised (g res) = raised res) (hends : ∀ res new, ends res new → ends' (g res) new) :
    (sessions rt contract programs).wp i (m >>= fun res => pure (g res)) (Leaves contract i r ends') r := by
  refine Discipline.wp_bind (Discipline.wp_mono h fun res r₁ hr r₂ hs₂ => ?_)
  obtain ⟨hopen, new, hexec, hnew⟩ := hr.rely hs₂
  refine ⟨?_, new, hexec, hends res new hnew⟩
  rw [hraised res]
  exact hopen

/-- **The `with` statement**: its body runs for a statement of its own with nothing bound; what the body ran is
    what ran; and a statement stays open only if it raised. -/
theorem prepared_wp {α : Type} {query : String}
    {body : PreparedStatement → Script Call Reply (Except Exn α × Bytes)}
    {ends : Except Exn α → List (Execution ι) → Prop} (hnone : ∀ e, ends (.error e) [])
    (hraised : ∀ res new e, ends res new → ends (.error e) new)
    (hbody : ∀ statement r₁, Reports rt engine query statement.parameterSchema →
      contract.Runs i statement.handle (query, none) r₁.state → r₁.ranOf i = r.ranOf i →
      (sessions rt contract programs).wp i (body statement) (fun out r' => Closable contract i out r' ∧
        ∃ new, Adds contract i r₁ new r' ∧ ends out.1 new) r₁) :
    (sessions rt contract programs).wp i (prepared rt query body) (Leaves contract i r ends) r := by
  have hexecutions : ∀ r₁, Rely contract i r r₁ →
      (service.perform i (.createPreparedStatement query) r₁).2.executionsOf i = r.executionsOf i := by
    intro r₁ hs₁
    rw [executionsOf_perform, if_pos rfl, executed_of_none (contract.quiet id), List.append_nil]
    exact hs₁.executions
  have hopened : ∀ r₁, Rely contract i r r₁ →
      contract.openOf i (service.perform i (.createPreparedStatement query) r₁).2.state ≤
        contract.openOf i r.state + 1 :=
    fun r₁ hs₁ => Nat.le_trans (contract.opening i (.createPreparedStatement query) r₁.state)
      (Nat.add_le_add_right hs₁.kept.opened 1)
  have hleft : ∀ (e : Exn) r₁ r₂, Rely contract i r r₁ →
      Rely contract i (service.perform i (.createPreparedStatement query) r₁).2 r₂ →
      Leaves contract i r ends (.error e) r₂ :=
    fun e r₁ r₂ hs₁ hs₂ => ⟨Nat.le_trans hs₂.kept.opened (hopened r₁ hs₁), [],
      by rw [hs₂.executions, hexecutions r₁ hs₁, List.append_nil], hnone e⟩
  show (sessions rt contract programs).wp i (.ask (.createPreparedStatement query)
    fun reply => withStatement body (reply >>= preparedStatement rt)) _ r
  refine wp_request ?_ ?_ ?_ ?_
  · intro r₁ hs₁
    refine ⟨by rintro handle ⟨⟩, fun e he => ?_⟩
    rw [contract.quiet id] at he
    cases he
  · intro r₁ hs₁
    rcases hreply : (service.perform i (.createPreparedStatement query) r₁).1 with e | result
    · exact fun r₂ hs₂ => hleft e r₁ r₂ hs₁ hs₂
    show (sessions rt contract programs).wp i (withStatement body (preparedStatement rt result)) _ _
    rcases hstatement : preparedStatement rt result with e | statement
    · -- the schemas cannot be read: the statement is left open
      exact fun r₂ hs₂ => hleft e r₁ r₂ hs₁ hs₂
    obtain ⟨result, rfl, hhandle, -, hschema⟩ := preparedStatement_eq_ok hstatement
    obtain ⟨hprepare, hruns⟩ := contract.prepared hreply
    have hreports : Reports rt engine query statement.parameterSchema := ⟨_, _, _, hprepare, hschema⟩
    rw [← hhandle] at hruns
    have hran : (service.perform i (.createPreparedStatement query) r₁).2.ranOf i = r.ranOf i := by
      rw [Record.ranOf, hexecutions r₁ hs₁, Record.ranOf]
    refine Discipline.wp_bind (Discipline.wp_mono (hbody statement _ hreports hruns hran) ?_)
    rintro out r₂ ⟨hclosable, new, hadds, hends⟩
    refine Discipline.wp_mono (closing_wp hclosable) ?_
    rintro res r₃ ⟨hadds₃, hres, hclosed⟩
    have hopen₁ := hopened r₁ hs₁
    have hopen₂ := hadds.opened
    have hopen₃ := hadds₃.opened
    refine ⟨?_, new, ?_, ?_⟩
    · rcases res with e | a
      · show contract.openOf i r₃.state ≤ contract.openOf i r.state + 1
        omega
      · have hless := hclosed a rfl
        show contract.openOf i r₃.state ≤ contract.openOf i r.state + 0
        omega
    · rw [hadds₃.executions, List.append_nil, hadds.executions, hexecutions r₁ hs₁]
    · rcases hres with ⟨e, rfl⟩ | rfl
      · exact hraised _ new e hends
      · exact hends
  · exact fun e r₁ hs₁ => leaves_of_adds hs₁.adds (hnone e)
  · exact fun e r₁ hs₁ r₂ hs₂ => hleft e r₁ r₂ hs₁ hs₂

end Own

end FlightSql.Sessions
