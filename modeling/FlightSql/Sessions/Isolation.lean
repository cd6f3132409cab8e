/-
  SESSIONS DO NOT MIX — any number of cursors at one Flight SQL service that keeps a `Contract`, in every
  interleaving, and whatever requests and answers are lost.

  THE CODE keeps nothing between two requests but the handle of its statement (`PreparedStatement.handle` of
  `flightsql/client.py`) and takes up the handle a put is answered with; so what keeps two cursors apart is
  that neither ever sends the other's.

  1. **One operation** (`operation_wp`) — what `execute` and `executemany` run, return and leave open.

  2. **Every run** (`run_possible`) — the database is the executions one after the other, and each session ran
     what its operations ask for, in their order, every row under its binding, none twice.

  3. **Finished sessions** — rows that were returned are of the one execution of their operation
     (`finished_explained`); no operation that returned left a statement open (`finished_openOf`).

  4. **Progress** (`session_finishes`) — a session makes so many requests at most, at any service.

  Mathlib-free but for what it imports.
-/
import FlightSql.Sessions.OwnRequests
import FlightSql.Sessions.StatelessServer

set_option linter.unusedVariables false

namespace FlightSql.Sessions

open Arrow Lib Lib.Wire PreparedHandle

/-! ## One operation -/

section Operations

variable {ι S D : Type} [DecidableEq ι] {rt : Runtime} {engine : Engine D} {service : Service ι S}
  {contract : Contract engine service} {programs : ι → Session} {i : ι} {r : Record ι S}

/-- **How an operation and what it ran fit**: results that were returned are of its one execution. -/
def Ends (rt : Runtime) (engine : Engine D) (op : Operation) (res : Outcome) (new : List (Execution ι)) : Prop :=
  Ended rt engine op res (new.map Execution.ran) ∧
    ∀ results, res = .ok (some results) → ∃ e, new = [e] ∧ toResults rt (.table e.table) = .ok results

omit [DecidableEq ι] in
/-- Another exception. -/
theorem Ends.mapError {op : Operation} {res : Outcome} {new : List (Execution ι)} (h : Ends rt engine op res new)
    (f : Exn → Exn) : Ends rt engine op (res.mapError f) new := by
  rcases res with e | results
  · exact ⟨h.1, by rintro results ⟨⟩⟩
  · exact h

theorem raised_mapError {α : Type} (f : Exn → Exn) (r : Except Exn α) : raised (r.mapError f) = raised r := by
  cases r <;> rfl

theorem raised_map {α β : Type} (f : α → β) (r : Except Exn α) : raised (r.map f) = raised r := by
  cases r <;> rfl

/-- What an operation may run, a session that comes to it may run. -/
def Allows (rt : Runtime) (engine : Engine D) (session : Session) (i : ι) (op : Operation) (r : Record ι S) : Prop :=
  ∀ ran, Begins rt engine op ran → Possible rt engine session (r.ranOf i ++ ran)

/-- **An operation without parameters**: one query, and its result. -/
theorem direct_wp {op : Operation} (hrows : op.rows = none) (hallows : Allows rt engine (programs i) i op r) :
    (sessions rt contract programs).wp i (direct rt op.query).run
      (Leaves contract i r fun res new => Ends rt engine op (res.map some) new) r := by
  have hbegins : ∀ ran, ran <+: [(op.query, none)] → Begins rt engine op ran := by
    intro ran hstart
    rw [Begins, hrows]
    exact hstart
  have hexecuted := @executed_wp ι S D _ rt engine service contract programs i r (.statementQuery op.query)
    (op.query, none) rfl (hallows _ (hbegins _ List.prefix_rfl))
  show (sessions rt contract programs).wp i ((executed (.statementQuery op.query)).run >>=
    ExceptT.bindCont fun payload => compute (toResults rt payload)) _ r
  refine Discipline.wp_bind (Discipline.wp_mono hexecuted ?_)
  rintro out r₁ ⟨-, new, hadds, hone⟩
  rcases out with e | payload
  · exact fun r₂ hs₂ => leaves_of_adds (hadds.rely hs₂) ⟨hbegins _ hone, by rintro results ⟨⟩⟩
  · intro r₂ hs₂
    obtain ⟨e, rfl, hran, rfl⟩ := hone
    have hall : [e].map Execution.ran = [(op.query, none)] := congrArg (fun ran => [ran]) hran
    have hcompletes : Completes rt engine op ([e].map Execution.ran) := by
      rw [Completes, hrows]
      exact hall
    refine leaves_of_adds (hadds.rely hs₂) ⟨hcompletes.ended _, fun results hresults => ?_⟩
    refine ⟨e, rfl, ?_⟩
    rcases hr : toResults rt (.table e.table) with err | results'
    · rw [hr] at hresults
      cases hresults
    · rw [hr] at hresults
      cases hresults
      rfl

/-- **The block of `execute`.** -/
theorem executeBlock_wp {op : Operation} {params : List PyValue} (hrows : op.rows = some [params])
    (hallows : Allows rt engine (programs i) i op r) (statement : PreparedStatement) (r₁ : Record ι S)
    (hreports : Reports rt engine op.query statement.parameterSchema)
    (hruns : contract.Runs i statement.handle (op.query, none) r₁.state) (hran : r₁.ranOf i = r.ranOf i) :
    (sessions rt contract programs).wp i (executeBlock rt params statement)
      (fun out r' => Closable contract i out r' ∧ ∃ new, Adds contract i r₁ new r' ∧
        Ends rt engine op (out.1.map some) new) r₁ := by
  have hplan : ∀ hbindable : bindable rt statement.parameterSchema params = true,
      planned rt op.query statement.parameterSchema none [params] =
        [(op.query, (ownBinding rt statement.parameterSchema params).or none)] :=
    fun hbindable => planned_cons hbindable
  have hbegins : ∀ ran, ran <+: planned rt op.query statement.parameterSchema none [params] →
      Begins rt engine op ran := by
    intro ran hstart
    rw [Begins, hrows]
    exact Or.inr ⟨_, hreports, hstart⟩
  have hrow := @row_wp ι S D _ rt engine service contract programs i r₁ statement.parameterSchema statement.handle params
    _ _ hruns fun hbindable => by
      rw [hran]
      exact hallows _ (hbegins _ (by rw [hplan hbindable]))
  refine Discipline.wp_bind (Discipline.wp_mono hrow ?_)
  rintro ⟨out, handle⟩ r₂ ⟨new, hadds, hone, hbound, hholds, hruns₂⟩ r₃ hs₃
  rcases out with e | payload
  · refine ⟨closable_of_error (hs₃.kept.holds hholds), new, hadds.rely hs₃, ?_, by rintro results ⟨⟩⟩
    rcases hbound with hbindable | ⟨rfl, -⟩
    · exact hbegins _ (by rw [hplan hbindable]; exact hone)
    · exact Begins.nil op
  · refine ⟨closable_of_runs (hs₃.kept.runs (hruns₂ payload rfl)), new, hadds.rely hs₃, ?_⟩
    have hbindable : bindable rt statement.parameterSchema params = true := by
      rcases hbound with hbindable | ⟨-, e, he⟩
      · exact hbindable
      · cases he
    obtain ⟨e, rfl, hrun, rfl⟩ := hone
    have hcompletes : Completes rt engine op ([e].map Execution.ran) := by
      rw [Completes, hrows]
      refine ⟨_, hreports, by simpa using hbindable, ?_⟩
      rw [hplan hbindable]
      exact congrArg (fun ran => [ran]) hrun
    refine ⟨hcompletes.ended _, fun results hresults => ⟨e, rfl, ?_⟩⟩
    rcases hr : toResults rt (.table e.table) with err | results'
    · have hfails : (Except.ok (Payload.table e.table) >>= toResults rt) = .error err := hr
      rw [hfails] at hresults
      cases hresults
    · have hreturns : (Except.ok (Payload.table e.table) >>= toResults rt) = .ok results' := hr
      rw [hreturns] at hresults
      cases hresults
      rfl

/-- **The block of `executemany`.** -/
theorem rowsBlock_wp {op : Operation} {paramSeq : List (List PyValue)} (hrows : op.rows = some paramSeq)
    (hallows : Allows rt engine (programs i) i op r) (statement : PreparedStatement) (r₁ : Record ι S)
    (hreports : Reports rt engine op.query statement.parameterSchema)
    (hruns : contract.Runs i statement.handle (op.query, none) r₁.state) (hran : r₁.ranOf i = r.ranOf i) :
    (sessions rt contract programs).wp i (rows rt statement.parameterSchema statement.handle paramSeq)
      (fun out r' => Closable contract i out r' ∧ ∃ new, Adds contract i r₁ new r' ∧
        Ends rt engine op (out.1.map fun _ => none) new) r₁ := by
  have hbegins : ∀ ran, ran <+: planned rt op.query statement.parameterSchema none paramSeq →
      Begins rt engine op ran := by
    intro ran hstart
    rw [Begins, hrows]
    exact Or.inr ⟨_, hreports, hstart⟩
  refine Discipline.wp_mono (rows_wp paramSeq hruns fun ran hstart => ?_) ?_
  · rw [hran]
    exact hallows _ (hbegins _ hstart)
  · rintro ⟨out, handle⟩ r₂ ⟨hclosable, new, hadds, hstart, hall⟩
    refine ⟨hclosable, new, hadds, ?_⟩
    rcases out with e | u
    · exact ⟨hbegins _ hstart, by rintro results ⟨⟩⟩
    · obtain ⟨hbindable, hran'⟩ := hall rfl
      have hcompletes : Completes rt engine op (new.map Execution.ran) := by
        rw [Completes, hrows]
        exact ⟨_, hreports, hbindable, hran'⟩
      exact ⟨hcompletes.ended _, by rintro results ⟨⟩⟩

omit [DecidableEq ι] in
/-- An exception in place of an outcome. -/
theorem Ends.raise {op : Operation} {res : Outcome} {new : List (Execution ι)} (h : Ends rt engine op res new)
    (e : Exn) : Ends rt engine op (.error e) new := by
  refine ⟨?_, by rintro results ⟨⟩⟩
  rcases res with e' | results
  · exact h.1
  · exact Completes.begins h.1

/-- **`execute`.** -/
theorem executeScript_wp {query : String} {params : Option (List PyValue)}
    (hallows : Allows rt engine (programs i) i (.execute query params) r) :
    (sessions rt contract programs).wp i (executeScript rt query params)
      (Leaves contract i r fun res new => Ends rt engine (.execute query params) (res.map some) new) r := by
  let op : Operation := .execute query params
  have hblock : (sessions rt contract programs).wp i
      (if (params.getD []).length = 0 then (direct rt query).run
        else prepared rt query (executeBlock rt (params.getD [])))
      (Leaves contract i r fun res new => Ends rt engine op (res.map some) new) r := by
    by_cases hempty : (params.getD []).length = 0
    · have hrows : op.rows = none := if_pos hempty
      rw [if_pos hempty]
      exact @direct_wp ι S D _ rt engine service contract programs i r op hrows hallows
    · have hrows : op.rows = some [params.getD []] := if_neg hempty
      rw [if_neg hempty]
      exact prepared_wp (fun e => ⟨Begins.nil op, by rintro results ⟨⟩⟩) (fun res new e h => Ends.raise h e)
        (@executeBlock_wp ι S D _ rt engine service contract programs i r op (params.getD []) hrows hallows)
  refine leaves_wp_map hblock (raised_mapError translated) fun res new h => ?_
  have hmapped := Ends.mapError h translated
  rcases res with e | results
  · exact hmapped
  · exact hmapped

/-- **An operation**, while the others take turns: it ran what it plans or stopped on the way, and it leaves at
    most one statement open, and that only if it raised. -/
theorem operation_wp (op : Operation) (hallows : Allows rt engine (programs i) i op r) :
    (sessions rt contract programs).wp i (op.script rt) (Leaves contract i r (Ends rt engine op)) r := by
  rcases op with ⟨query, params⟩ | ⟨query, paramSeq⟩
  · exact leaves_wp_map (executeScript_wp hallows) (raised_map some) fun res new h => h
  · let op : Operation := .executemany query paramSeq
    suffices hblock : (sessions rt contract programs).wp i _ (Leaves contract i r (Ends rt engine op)) r from
      leaves_wp_map hblock (raised_mapError translated) fun res new h => Ends.mapError h translated
    by_cases hempty : (paramSeq.getD []).length = 0
    · -- the empty sequence: what the nested `execute` plans is what the operation plans
      have hrows : op.rows = none := if_pos hempty
      have hbegins : ∀ ran, Begins rt engine (.execute query none) ran → Begins rt engine op ran := by
        intro ran h
        rw [Begins, hrows]
        exact h
      have hcompletes : ∀ ran, Completes rt engine (.execute query none) ran → Completes rt engine op ran := by
        intro ran h
        rw [Completes, hrows]
        exact h
      rw [if_pos hempty]
      refine leaves_wp_map (executeScript_wp fun ran h => hallows ran (hbegins ran h)) (raised_map some)
        fun res new h => ?_
      rcases res with e | results
      · exact ⟨hbegins _ h.1, h.2⟩
      · exact ⟨hcompletes _ h.1, h.2⟩
    · have hrows : op.rows = some (paramSeq.getD []) := if_neg hempty
      have hprepared : (sessions rt contract programs).wp i (prepared rt query fun statement =>
            rows rt statement.parameterSchema statement.handle (paramSeq.getD []))
          (Leaves contract i r fun res new => Ends rt engine op (res.map fun _ => none) new) r :=
        prepared_wp (fun e => ⟨Begins.nil op, by rintro results ⟨⟩⟩) (fun res new e h => Ends.raise h e)
          (@rowsBlock_wp ι S D _ rt engine service contract programs i r op (paramSeq.getD []) hrows hallows)
      rw [if_neg hempty]
      exact leaves_wp_map hprepared (raised_map _) fun res new h => h

end Operations

/-! ## Sessions -/

/-- The script of a session: it comes to the outcomes of its operations. -/
def Session.script (rt : Runtime) : Session → Script Call Reply (List Outcome)
  | .done => pure []
  | .next op k => op.script rt >>= fun r => (k r).script rt >>= fun rs => pure (r :: rs)

/-- **The outcomes of a session and what it ran fit**, operation by operation. -/
def Explains {ι D : Type} (rt : Runtime) (engine : Engine D) : Session → List Outcome → List (Execution ι) → Prop
  | .done, rs, es => rs = [] ∧ es = []
  | .next op k, rs, es => ∃ r rs' first rest, rs = r :: rs' ∧ es = first ++ rest ∧ Ends rt engine op r first ∧
      Explains rt engine (k r) rs' rest

/-- The sessions at a service in the state `s`, before anything is sent. -/
def cursors {ι S : Type} (rt : Runtime) (programs : ι → Session) (s : S) : Pool ι Call Reply (List Outcome) S :=
  ⟨fun i => (programs i).script rt, s⟩

/-! ## Two sessions -/

/-- The reference runtime with schemas to read. -/
def Runtime.typed : Runtime := { Runtime.reference with readSchema := fun serialized => openByte (.bytes serialized) }

/-- A session that inserts one row, and one that inserts two, with the same query. -/
def twoSessions : Bool → Session
  | true => .next (.execute "INSERT INTO t VALUES (?)" (some [.int 7])) fun _ => .done
  | false => .next (.executemany "INSERT INTO t VALUES (?)" (some [[.int 8], [.int 9]])) fun _ => .done

/-- They take turns up to the close of the first, whose request comes to `delivery`. -/
def takeTurns (delivery : Delivery) : List (Bool × Delivery) :=
  [(true, .answered), (false, .answered), (true, .answered), (false, .answered), (true, .answered),
    (false, .answered), (true, .answered), (false, .answered), (false, .answered), (true, delivery)]

/-- Their handles at a stateless server. -/
def insertHandles : Codec := numbered ["INSERT INTO t VALUES (?)"]

/-! ## Runs -/

section Runs

variable {ι S D : Type} [DecidableEq ι] {rt : Runtime} {engine : Engine D} {service : Service ι S}
  {contract : Contract engine service} {programs : ι → Session} {i : ι}

/-- **A session**, by induction on it. -/
theorem session_wp (session : Session) : ∀ {r : Record ι S},
    (∀ ran, Possible rt engine session ran → Possible rt engine (programs i) (r.ranOf i ++ ran)) →
      (sessions rt contract programs).wp i (session.script rt)
        (fun rs r' => contract.openOf i r'.state ≤ contract.openOf i r.state + (rs.map raised).sum ∧
          ∃ new, r'.executionsOf i = r.executionsOf i ++ new ∧ Explains rt engine session rs new) r := by
  induction session with
  | done =>
    intro r _ r₁ hs₁
    exact ⟨hs₁.kept.opened, [], hs₁.adds.executions, rfl, rfl⟩
  | next op k ih =>
    intro r hallows
    refine Discipline.wp_bind (Discipline.wp_mono
      (operation_wp op fun ran hbegins => hallows ran (Or.inl hbegins)) ?_)
    rintro res r₁ ⟨hopen, new, hexec, hends⟩
    have hran : r₁.ranOf i = r.ranOf i ++ new.map Execution.ran := by
      rw [Record.ranOf, hexec, List.map_append]
      rfl
    have hrest : ∀ ran, Possible rt engine (k res) ran → Possible rt engine (programs i) (r₁.ranOf i ++ ran) := by
      intro ran hpossible
      rw [hran, List.append_assoc]
      exact hallows _ (Or.inr ⟨res, new.map Execution.ran, ran, rfl, hends.1, hpossible⟩)
    refine Discipline.wp_bind (Discipline.wp_mono (ih res hrest) ?_)
    rintro rs r₂ ⟨hopen₂, new₂, hexec₂, hexplains⟩ r₃ hs₃
    have hopen₃ := hs₃.kept.opened
    have hexec₃ : r₃.executionsOf i = r₂.executionsOf i := hs₃.executions
    constructor
    · rw [List.map_cons, List.sum_cons]
      omega
    · exact ⟨new ++ new₂, by rw [hexec₃, hexec₂, hexec, List.append_assoc], res, rs, new, new₂, rfl, rfl, hends,
        hexplains⟩

/-- Of every session, from the start. -/
theorem cursors_wp (contract : Contract engine service) (s : S) (i : ι) :
    (sessions rt contract programs).wp i ((cursors rt programs (Record.initial s : Record ι S)).scripts i)
      (fun rs r' => contract.openOf i r'.state ≤ contract.openOf i s + (rs.map raised).sum ∧
        Explains rt engine (programs i) rs (r'.executionsOf i)) (Record.initial s) := by
  refine Discipline.wp_mono (session_wp (programs i) fun ran h => h) ?_
  rintro rs r' ⟨hopen, new, hexec, hexplains⟩
  have hnew : r'.executionsOf i = new := hexec
  exact ⟨hopen, hnew ▸ hexplains⟩

/-- **What stays true**: the database is the executions one after the other, and each session ran what its
    operations ask for. -/
def Consistent (rt : Runtime) (contract : Contract engine service) (programs : ι → Session) (s : S) (r : Record ι S) :
    Prop :=
  Replays engine (contract.database s) r.executions (contract.database r.state) ∧
    ∀ i, Possible rt engine (programs i) (r.ranOf i)

omit [DecidableEq ι] in
/-- What a request executes is what becomes of the database. -/
theorem replays_executed (contract : Contract engine service) (i : ι) (q : Call) (s : S) :
    Replays engine (contract.database s) (service.executed i q s) (contract.database (service.answer i q s).2) := by
  have hstep := contract.step i q s
  rcases hexecutes : service.executes i q s with _ | ⟨ran, table⟩
  · rw [hexecutes] at hstep
    rw [executed_of_none hexecutes]
    exact hstep
  · rw [hexecutes] at hstep
    rw [executed_of_some hexecutes]
    exact ⟨_, hstep, rfl⟩

/-- One request. -/
theorem serve_consistent {s : S} {q : Call} {r : Record ι S} {delivery : Delivery}
    (hpermits : (sessions rt contract programs).Permits i q r) (h : Consistent rt contract programs s r) :
    Consistent rt contract programs s (service.serve i delivery q r).2 := by
  suffices hperform : Consistent rt contract programs s (service.perform i q r).2 by
    rcases delivery with _ | e | e
    · exact hperform
    · exact h
    · exact hperform
  obtain ⟨hreplays, hpossible⟩ := h
  refine ⟨hreplays.append (replays_executed contract i q r.state), fun j => ?_⟩
  rw [Record.ranOf, executionsOf_perform]
  by_cases hj : i = j
  · subst hj
    rw [if_pos rfl]
    rcases hexecutes : service.executes i q r.state with _ | ⟨ran, table⟩
    · rw [executed_of_none hexecutes, List.append_nil]
      exact hpossible i
    · rw [executed_of_some hexecutes, List.map_append]
      exact hpermits.2 _ hexecutes
  · rw [if_neg hj, List.append_nil]
    exact hpossible j

/-- **Every run**: whatever the order of the requests and whichever are lost, also when a session never goes
    on, the database is the executions one after the other, and each session ran what its operations ask for:
    in their order, each at most once, every row of parameters under its own binding or the one before. -/
theorem run_possible (rt : Runtime) (contract : Contract engine service) (programs : ι → Session) (s : S)
    (moves : List (ι × Delivery)) :
    Consistent rt contract programs s ((cursors rt programs (Record.initial s)).run service.serve moves).state :=
  Discipline.run_invariant (cursors_wp contract s) (fun _ _ => trivial)
    (fun i delivery q r _ hpermits h => serve_consistent hpermits h)
    ⟨rfl, fun i => Possible.nil (programs i)⟩

/-- At a stateless server, where both sessions have the handle of the one query. -/
theorem run_possible_stateless :
    Consistent Runtime.typed (statelessContract Bool counting insertHandles) twoSessions 0
      ((cursors Runtime.typed twoSessions (Record.initial 0)).run (stateless counting insertHandles).serve
        (takeTurns .answered)).state :=
  run_possible Runtime.typed (statelessContract Bool counting insertHandles) twoSessions 0 (takeTurns .answered)

/-- **A session that is over**: what an operation returned is of its one execution, and one that returned has
    run all it asks for. -/
theorem finished_explained (contract : Contract engine service) {s : S} {moves : List (ι × Delivery)}
    {rs : List Outcome}
    (h : ((cursors rt programs (Record.initial s)).run service.serve moves).scripts i = .done rs) :
    Explains rt engine (programs i) rs
      (((cursors rt programs (Record.initial s)).run service.serve moves).state.executionsOf i) :=
  (Discipline.post_of_run (cursors_wp contract s) (fun _ _ => trivial) h).2

/-- The first session at a stateless server: its put was answered with another handle than the one it sent. -/
theorem finished_explained_first : ∃ rs,
    ((cursors Runtime.typed twoSessions (Record.initial 0)).run (stateless counting insertHandles).serve
        (takeTurns .answered)).scripts true = .done rs ∧
      Explains Runtime.typed counting (twoSessions true) rs
        (((cursors Runtime.typed twoSessions (Record.initial 0)).run (stateless counting insertHandles).serve
          (takeTurns .answered)).state.executionsOf true) :=
  ⟨_, rfl, finished_explained (statelessContract Bool counting insertHandles) rfl⟩

end Runs

/-! ## Progress -/

/-- The requests of an operation, at most: of a row three. -/
def Operation.requests (op : Operation) : Nat :=
  match op.rows with
  | none => 2
  | some rows => 2 + 3 * rows.length

theorem Operation.requests_of_none {op : Operation} (h : op.rows = none) : op.requests = 2 := by
  rw [Operation.requests, h]

theorem Operation.requests_of_some {op : Operation} {rows : List (List PyValue)} (h : op.rows = some rows) :
    op.requests = 2 + 3 * rows.length := by
  rw [Operation.requests, h]

/-- A session makes at most `n` requests. -/
inductive Session.Within : Nat → Session → Prop where
  | done {n : Nat} : Within n .done
  | next {n : Nat} {op : Operation} {k : Outcome → Session} (h : ∀ r, Within n (k r)) :
      Within (op.requests + n) (.next op k)

section Progress

variable {rt : Runtime}

theorem call_atMost {β : Type} {n : Nat} {q : Call} {f : Answer q → Driver β}
    (h : ∀ a, Script.AtMost n (f a).run) : Script.AtMost (n + 1) (call q >>= f).run := by
  refine .ask fun r => ?_
  rcases r with e | a
  · exact .done _
  · exact h a

theorem executed_atMost (command : Command) : Script.AtMost 2 (executed command).run :=
  call_atMost fun info => Script.AtMost.ofExcept fun ticket => call_atMost fun reader => .done _

theorem row_atMost (schema : Option Schema) (handle : Bytes) (params : List PyValue) :
    (row rt schema handle params).AtMost 3 := by
  unfold row
  rcases buildParameterRecord rt.builder params schema with e | batch
  · exact .done _
  have hput : Script.AtMost 1 (put handle batch).run := by
    unfold put
    by_cases hrows : batch.numRows > 0
    · rw [if_pos hrows]
      exact call_atMost fun metadata => .done _
    · rw [if_neg hrows]
      exact .done _
  have hbound : ((put handle batch).run >>= afterPut handle).AtMost (1 + 2) := by
    refine Script.AtMost.bind hput fun out => ?_
    rcases out with e | updated
    · exact .done _
    · exact Script.AtMost.bind (k := 0) (executed_atMost _) fun payload => .done _
  exact hbound

theorem rows_atMost (schema : Option Schema) (paramSeq : List (List PyValue)) :
    ∀ handle, (rows rt schema handle paramSeq).AtMost (3 * paramSeq.length) := by
  induction paramSeq with
  | nil => exact fun handle => .done _
  | cons params rest ih =>
    intro handle
    have hcons : (rows rt schema handle (params :: rest)).AtMost (3 + 3 * rest.length) := by
      unfold rows
      refine Script.AtMost.bind (row_atMost schema handle params) fun out => ?_
      rcases out with ⟨e | payload, handle'⟩
      · exact .done _
      · exact ih handle'
    exact hcons.mono (by rw [List.length_cons]; omega)

theorem prepared_atMost {α : Type} {n : Nat} {query : String}
    {body : PreparedStatement → Script Call Reply (Except Exn α × Bytes)} (h : ∀ statement, (body statement).AtMost n) :
    (prepared rt query body).AtMost (2 + n) := by
  have hafter : ∀ statement, (withStatement body statement).AtMost (n + 1) := by
    intro statement
    rcases statement with e | statement
    · exact .done _
    · exact Script.AtMost.bind (h statement) fun out => .ask fun closed => .done _
  have hall : (prepared rt query body).AtMost (n + 1 + 1) := .ask fun reply => hafter _
  exact hall.mono (by omega)

theorem executeScript_atMost (query : String) (params : Option (List PyValue)) :
    (executeScript rt query params).AtMost (Operation.execute query params).requests := by
  have hblock : (if (params.getD []).length = 0 then (direct rt query).run
      else prepared rt query (executeBlock rt (params.getD []))).AtMost
        (Operation.execute query params).requests := by
    by_cases hempty : (params.getD []).length = 0
    · have hrows : (Operation.execute query params).rows = none := if_pos hempty
      rw [if_pos hempty, Operation.requests_of_none hrows]
      exact Script.AtMost.bindExcept (k := 0) (executed_atMost _) fun payload => .done _
    · have hrows : (Operation.execute query params).rows = some [params.getD []] := if_neg hempty
      rw [if_neg hempty, Operation.requests_of_some hrows]
      exact prepared_atMost fun statement => Script.AtMost.bind (k := 0) (row_atMost _ _ _) fun out => .done _
  exact Script.AtMost.bind (k := 0) hblock fun r => .done _

theorem operation_atMost (op : Operation) : (op.script rt).AtMost op.requests := by
  rcases op with ⟨query, params⟩ | ⟨query, paramSeq⟩
  · exact Script.AtMost.bind (k := 0) (executeScript_atMost query params) fun r => .done _
  · refine Script.AtMost.bind (n := (Operation.executemany query paramSeq).requests) (k := 0) ?_ fun r => .done _
    by_cases hempty : (paramSeq.getD []).length = 0
    · have hrows : (Operation.executemany query paramSeq).rows = none := if_pos hempty
      rw [if_pos hempty, Operation.requests_of_none hrows]
      exact Script.AtMost.bind (k := 0) (executeScript_atMost query none) fun r => .done _
    · have hrows : (Operation.executemany query paramSeq).rows = some (paramSeq.getD []) := if_neg hempty
      rw [if_neg hempty, Operation.requests_of_some hrows]
      exact Script.AtMost.bind (k := 0) (prepared_atMost fun statement => rows_atMost _ _ _) fun r => .done _

theorem session_atMost {n : Nat} {session : Session} (h : session.Within n) : (session.script rt).AtMost n := by
  induction h with
  | done => exact .done _
  | next _ ih =>
    exact Script.AtMost.bind (operation_atMost _) fun r => Script.AtMost.bind (k := 0) (ih r) fun rs => .done _

/-- **Progress**: a session of at most `n` requests is over after `n` moves of its own, whatever is answered,
    and whatever the others do. -/
theorem session_finishes {ι W S : Type} [DecidableEq ι] {serve : ι → W → (q : Call) → S → Reply q × S}
    {programs : ι → Session} {i : ι} {n : Nat} (s : S) {moves : List (ι × W)} (hwithin : (programs i).Within n)
    (hmoves : n ≤ Pool.movesOf i moves) :
    ∃ rs, ((cursors rt programs s).run serve moves).scripts i = .done rs :=
  Pool.run_done (session_atMost hwithin) hmoves

theorem session_finishes_first : ∃ rs,
    ((cursors Runtime.typed twoSessions (Record.initial 0)).run (stateless counting insertHandles).serve
      (takeTurns .answered)).scripts true = .done rs :=
  @session_finishes Runtime.typed Bool Delivery (Record Bool Nat) _ (stateless counting insertHandles).serve twoSessions
    true 5 (Record.initial 0) (takeTurns .answered)
    (@Session.Within.next 0 (.execute "INSERT INTO t VALUES (?)" (some [.int 7])) _ fun _ => .done) (by decide)

end Progress

end FlightSql.Sessions
