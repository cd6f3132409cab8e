/-
  A SERVER THAT KEEPS ITS STATEMENTS — one of the services a `Contract` speaks of.

  A GetFlightInfo executes a query on the database and issues a ticket for its result; a prepared statement
  is known by its handle alone, whoever sends it; a put binds its batch to the statement, and the server may
  answer it with a new handle in place of the old one, which it then no longer knows.

  1. **The state** — `State`; a handle stands for a statement and a version of it (`Names`).

  2. **What is answered** (`answer`) and what is executed for it (`executes`).

  3. **The contract** (`keepingContract`) — a handle runs the statement it stands for in its current version.

  4. **An instance** (`counting`) — every put is answered with a new handle, and a query says how many ran.

  Mathlib-free but for what it imports.
-/
import FlightSql.Sessions.Service

set_option linter.unusedVariables false

namespace FlightSql.Sessions

open Arrow Lib Lib.Wire PreparedHandle

/-! ## The state -/

/-- **The names a server gives** to statements and results. -/
structure Names where
  /-- The handle of a version of a statement. -/
  handle : Nat → Nat → Bytes
  locate : Bytes → Option (Nat × Nat)
  locate_handle : ∀ n k, locate (handle n k) = some (n, k)
  /-- Whether a put to a version of a statement is answered with a new handle, and the metadata with it. -/
  renames : Nat → Nat → Bool
  metadata : Nat → Nat → Bytes
  metadata_handle : ∀ sent n k, renames n k = true → PutAnswer sent (some (metadata n k)) (handle n (k + 1))
  ticket : Nat → Ticket
  result : Ticket → Option Nat
  result_ticket : ∀ n, result (ticket n) = some n
  /-- What is raised for a handle or a ticket that is not known. -/
  unknown : Exn

/-- A statement on the server. -/
structure Statement (ι : Type) where
  owner : ι
  query : String
  binding : Option RecordBatch
  version : Nat
  opened : Bool

/-- **The state of the server**: the statements in the order they were prepared, the results in theirs. -/
structure State (ι D : Type) where
  database : D
  statements : List (Statement ι)
  results : List Table

/-- No statement and no result yet. -/
def State.initial (ι : Type) {D : Type} (database : D) : State ι D := ⟨database, [], []⟩

/-! ## What is answered -/

section Answer

variable {ι D : Type} (engine : Engine D) (names : Names)

/-- The open statement a handle stands for, in its current version. -/
def current (s : State ι D) (handle : Bytes) : Option (Nat × Statement ι) :=
  match names.locate handle with
  | none => none
  | some (n, k) =>
    match s.statements[n]? with
    | none => none
    | some st => if st.version = k ∧ st.opened then some (n, st) else none

/-- The result with number `n`: one endpoint, with its ticket. -/
def infoOf (n : Nat) : FlightInfo := ⟨some [⟨some (names.ticket n)⟩]⟩

/-- What a command runs. -/
def requested (s : State ι D) : Command → Option Ran
  | .statementQuery query => some (query, none)
  | .preparedStatementQuery handle => (current names s handle).map fun found => (found.2.query, found.2.binding)
  | _ => none

/-- The statement `n` becomes `st`. -/
def update (n : Nat) (st : Statement ι) (s : State ι D) : State ι D :=
  { s with statements := s.statements.set n st }

/-- A put: the batch is bound to the statement, which may get a new handle. -/
def answerPut (batch : RecordBatch) (n : Nat) (st : Statement ι) (s : State ι D) :
    Except Exn (Option Bytes) × State ι D :=
  if names.renames n st.version then
    (.ok (some (names.metadata n st.version)),
      update n { st with binding := some batch, version := st.version + 1 } s)
  else (.ok none, update n { st with binding := some batch } s)

/-- The execution of a query under a binding. -/
def answerExecution (ran : Ran) (s : State ι D) : Except Exn FlightInfo × State ι D :=
  match engine.evaluate ran.1 ran.2 s.database with
  | .error e => (.error e, s)
  | .ok (table, database) =>
    (.ok (infoOf names s.results.length), { s with database := database, results := s.results ++ [table] })

/-- **The answer to a request of the session `i`.** -/
def answer (i : ι) : (q : Call) → State ι D → Reply q × State ι D
  | .getFlightInfo command, s =>
    match requested names s command with
    | none => (.error names.unknown, s)
    | some ran => answerExecution engine names ran s
  | .doGet ticket, s =>
    match (names.result ticket).bind fun n => s.results[n]? with
    | none => (.error names.unknown, s)
    | some table => (.ok ⟨some (.ok (.table table))⟩, s)
  | .createPreparedStatement query, s =>
    match engine.prepare query s.database with
    | .error e => (.error e, s)
    | .ok (dataset, parameters) =>
      (.ok (some ⟨names.handle s.statements.length 0, dataset, parameters⟩),
        { s with statements := s.statements ++ [⟨i, query, none, 0, true⟩] })
  | .doPut handle batch, s =>
    match current names s handle with
    | none => (.error names.unknown, s)
    | some (n, st) => answerPut names batch n st s
  | .closePreparedStatement handle, s =>
    match current names s handle with
    | none => (.error names.unknown, s)
    | some (n, st) => (.ok (), update n { st with opened := false } s)

/-- What is executed for it. -/
def executes (_ : ι) : Call → State ι D → Option (Ran × Table)
  | .getFlightInfo command, s =>
    (requested names s command).bind fun ran =>
      (engine.evaluate ran.1 ran.2 s.database).toOption.map fun out => (ran, out.1)
  | _, _ => none

/-- **The server**, as a service. -/
def keeping : Service ι (State ι D) := ⟨answer engine names, executes engine names⟩

end Answer

/-! ## Handles -/

section Handles

variable {ι D : Type} {engine : Engine D} {names : Names} {i j : ι} {s s' : State ι D}

/-- A handle of a statement of the session `i`, in whatever version. -/
def OwnHandle (names : Names) (i : ι) (handle : Bytes) (s : State ι D) : Prop :=
  ∃ n k st, names.locate handle = some (n, k) ∧ s.statements[n]? = some st ∧ st.owner = i

/-- The handle of the open statement `st` of the session `i`. -/
def Held (names : Names) (i : ι) (handle : Bytes) (st : Statement ι) (s : State ι D) : Prop :=
  st.owner = i ∧ st.opened = true ∧
    ∃ n, names.locate handle = some (n, st.version) ∧ s.statements[n]? = some st

theorem Held.own {handle : Bytes} {st : Statement ι} (h : Held names i handle st s) :
    OwnHandle names i handle s := by
  obtain ⟨hown, hopened, n, hlocate, hst⟩ := h
  exact ⟨n, st.version, st, hlocate, hst, hown⟩

theorem current_eq_some {handle : Bytes} {n : Nat} {st : Statement ι} :
    current names s handle = some (n, st) ↔
      names.locate handle = some (n, st.version) ∧ s.statements[n]? = some st ∧ st.opened = true := by
  rw [current]
  constructor
  · intro h
    rcases hlocate : names.locate handle with _ | ⟨m, k⟩
    · rw [hlocate] at h
      cases h
    rw [hlocate] at h
    rcases hst : s.statements[m]? with _ | st'
    · simp only [hst] at h
      cases h
    simp only [hst] at h
    by_cases hcurrent : st'.version = k ∧ st'.opened
    · rw [if_pos hcurrent] at h
      cases h
      obtain ⟨hversion, hopened⟩ := hcurrent
      exact ⟨by rw [hversion], hst, hopened⟩
    · rw [if_neg hcurrent] at h
      cases h
  · rintro ⟨hlocate, hst, hopened⟩
    simp [hlocate, hst, hopened]

theorem Held.current {handle : Bytes} {st : Statement ι} (h : Held names i handle st s) :
    ∃ n, Sessions.current names s handle = some (n, st) ∧ s.statements[n]? = some st := by
  obtain ⟨hown, hopened, n, hlocate, hst⟩ := h
  exact ⟨n, current_eq_some.mpr ⟨hlocate, hst, hopened⟩, hst⟩

/-- The owner of what an own handle stands for. -/
theorem OwnHandle.owner {handle : Bytes} {n : Nat} {st : Statement ι} (h : OwnHandle names i handle s)
    (hcurrent : Sessions.current names s handle = some (n, st)) : st.owner = i := by
  obtain ⟨m, k, st', hlocate, hst', hown⟩ := h
  obtain ⟨hlocate', hst, hopened⟩ := current_eq_some.mp hcurrent
  have hsame : (n, st.version) = (m, k) := Option.some.inj (hlocate'.symm.trans hlocate)
  have hn : n = m := congrArg Prod.fst hsame
  subst hn
  have hstatement : st = st' := Option.some.inj (hst.symm.trans hst')
  rw [hstatement]
  exact hown

/-- Statements of the session `i` are as they were. -/
def Stays (i : ι) (s s' : State ι D) : Prop :=
  ∀ (n : Nat) (st : Statement ι), s.statements[n]? = some st → st.owner = i → s'.statements[n]? = some st

theorem Stays.own {handle : Bytes} (hs : Stays i s s') (h : OwnHandle names i handle s) :
    OwnHandle names i handle s' := by
  obtain ⟨n, k, st, hlocate, hst, hown⟩ := h
  exact ⟨n, k, st, hlocate, hs n st hst hown, hown⟩

theorem Stays.held {handle : Bytes} {st : Statement ι} (hs : Stays i s s') (h : Held names i handle st s) :
    Held names i handle st s' := by
  obtain ⟨hown, hopened, n, hlocate, hst⟩ := h
  exact ⟨hown, hopened, n, hlocate, hs n st hst hown⟩

/-- A change of another session's statement. -/
theorem stays_update {n : Nat} {st st' : Statement ι} (hst : s.statements[n]? = some st) (hne : st.owner ≠ i) :
    Stays i s (update n st' s) := by
  intro m st₁ hst₁ hown
  have hdistinct : n ≠ m := by
    rintro rfl
    have hsame : st = st₁ := Option.some.inj (hst.symm.trans hst₁)
    rw [hsame] at hne
    exact hne hown
  show (s.statements.set n st')[m]? = some st₁
  rw [List.getElem?_set_ne hdistinct]
  exact hst₁

/-- One more statement. -/
theorem stays_push (st : Statement ι) :
    Stays i s ({ s with statements := s.statements ++ [st] } : State ι D) := by
  intro n st₁ hst₁ _
  obtain ⟨hlt, -⟩ := List.getElem?_eq_some_iff.mp hst₁
  show (s.statements ++ [st])[n]? = some st₁
  rw [List.getElem?_append_left hlt]
  exact hst₁

/-- The statement is the one it becomes, and no other handle is lost to its session. -/
theorem getElem?_update {n : Nat} {st st' : Statement ι} (hst : s.statements[n]? = some st) :
    (update n st' s).statements[n]? = some st' := by
  have hlt : n < s.statements.length := (List.getElem?_eq_some_iff.mp hst).1
  show (s.statements.set n st')[n]? = some st'
  rw [List.getElem?_set_self hlt]

theorem OwnHandle.update {handle : Bytes} {n : Nat} {st st' : Statement ι} (h : OwnHandle names i handle s)
    (hst : s.statements[n]? = some st) (howner : st'.owner = st.owner) :
    OwnHandle names i handle (Sessions.update n st' s) := by
  obtain ⟨m, k, st₁, hlocate, hst₁, hown⟩ := h
  by_cases hm : n = m
  · subst hm
    have hsame : st = st₁ := Option.some.inj (hst.symm.trans hst₁)
    exact ⟨n, k, st', hlocate, getElem?_update hst, by rw [howner, hsame, hown]⟩
  · refine ⟨m, k, st₁, hlocate, ?_, hown⟩
    show (s.statements.set n st')[m]? = some st₁
    rw [List.getElem?_set_ne hm]
    exact hst₁

/-- A put is answered for a statement in its current version. -/
theorem answerPut_cases (names : Names) (batch : RecordBatch) (n : Nat) (st : Statement ι) (s : State ι D) :
    ∃ metadata st', answerPut names batch n st s = (.ok metadata, update n st' s) ∧
      st'.owner = st.owner ∧ st'.query = st.query ∧ st'.binding = some batch ∧ st'.opened = st.opened ∧
      ∀ handle, names.locate handle = some (n, st.version) → ∃ handle', PutAnswer handle metadata handle' ∧
        names.locate handle' = some (n, st'.version) := by
  rw [answerPut]
  by_cases hrename : names.renames n st.version = true
  · rw [if_pos hrename]
    exact ⟨_, { st with binding := some batch, version := st.version + 1 }, rfl, rfl, rfl, rfl, rfl, fun handle _ =>
      ⟨_, names.metadata_handle handle n st.version hrename, names.locate_handle n (st.version + 1)⟩⟩
  · rw [if_neg hrename]
    exact ⟨_, { st with binding := some batch }, rfl, rfl, rfl, rfl, rfl, fun handle hlocate =>
      ⟨handle, .silent, hlocate⟩⟩

/-- What an execution comes to. -/
theorem answerExecution_cases (engine : Engine D) (names : Names) (ran : Ran) (s : State ι D) :
    (∃ e, engine.evaluate ran.1 ran.2 s.database = .error e ∧ answerExecution engine names ran s = (.error e, s)) ∨
      ∃ table database, engine.evaluate ran.1 ran.2 s.database = .ok (table, database) ∧
        answerExecution engine names ran s = (.ok (infoOf names s.results.length),
          { s with database := database, results := s.results ++ [table] }) := by
  rw [answerExecution]
  rcases engine.evaluate ran.1 ran.2 s.database with e | ⟨table, database⟩
  · exact Or.inl ⟨e, rfl, rfl⟩
  · exact Or.inr ⟨table, database, rfl, rfl⟩

variable [DecidableEq ι]

/-- How many statements of the session `i` are open. -/
def State.openOf (i : ι) (s : State ι D) : Nat := s.statements.countP fun st => st.owner = i ∧ st.opened

/-- Open statements after a change of one of them. -/
theorem openOf_update {n : Nat} {st st' : Statement ι} (hst : s.statements[n]? = some st) :
    (update n st' s).openOf i = s.openOf i - (if st.owner = i ∧ st.opened then 1 else 0) +
      if st'.owner = i ∧ st'.opened then 1 else 0 := by
  obtain ⟨hlt, hget⟩ := List.getElem?_eq_some_iff.mp hst
  have hcount := @List.countP_set _ (fun st : Statement ι => decide (st.owner = i ∧ st.opened)) s.statements n st' hlt
  rw [hget] at hcount
  simp only [decide_eq_true_eq] at hcount
  exact hcount

theorem openOf_push (st : Statement ι) :
    ({ s with statements := s.statements ++ [st] } : State ι D).openOf i =
      s.openOf i + if st.owner = i ∧ st.opened then 1 else 0 := by
  simp [State.openOf, List.countP_append, List.countP_cons]

theorem openOf_pos {n : Nat} {st : Statement ι} (hst : s.statements[n]? = some st) (hown : st.owner = i)
    (hopened : st.opened = true) : 0 < s.openOf i := by
  refine List.countP_pos_iff.mpr ⟨st, List.mem_of_getElem? hst, ?_⟩
  simp [hown, hopened]

/-- A statement of the same session, as open as before, or closed. -/
theorem openOf_update_le {n : Nat} {st st' : Statement ι} (hst : s.statements[n]? = some st)
    (howner : st'.owner = st.owner) (hopened : st'.opened = true → st.opened = true) :
    (update n st' s).openOf i ≤ s.openOf i := by
  have hopen := @openOf_update ι D i s _ n st st' hst
  by_cases hafter : st'.owner = i ∧ st'.opened = true
  · obtain ⟨hown, hstays⟩ := hafter
    have hpos := openOf_pos hst (howner.symm.trans hown) (hopened hstays)
    rw [if_pos ⟨howner.symm.trans hown, hopened hstays⟩, if_pos ⟨hown, hstays⟩] at hopen
    omega
  · rw [if_neg hafter] at hopen
    omega

end Handles

/-! ## The contract -/

section Contract

variable {ι D : Type} [DecidableEq ι] {engine : Engine D} {names : Names} {i j : ι} {s s' : State ι D}

/-- **What the sessions have of the server.** -/
def keepingView (ι D : Type) [DecidableEq ι] (names : Names) : View ι (State ι D) where
  Holds i handle s := OwnHandle names i handle s
  Runs i handle ran s := ∃ st, Held names i handle st s ∧ ran = (st.query, st.binding)
  Serves _ ticket fetch s := ∃ n table, names.result ticket = some n ∧ s.results[n]? = some table ∧
    fetch = .result table
  openOf i s := s.openOf i

/-- Statements that stay as they are, and results that stay. -/
theorem keepingView_kept (hstays : Stays i s s') (hresults : s.results <+: s'.results)
    (hopened : s'.openOf i ≤ s.openOf i) : (keepingView ι D names).Kept i s s' where
  holds h := hstays.own h
  runs := by
    rintro handle ran ⟨st, hheld, hran⟩
    exact ⟨st, hstays.held hheld, hran⟩
  serves := by
    rintro ticket fetch ⟨n, table, hresult, htable, hfetch⟩
    obtain ⟨rest, hrest⟩ := hresults
    obtain ⟨hlt, -⟩ := List.getElem?_eq_some_iff.mp htable
    refine ⟨n, table, hresult, ?_, hfetch⟩
    rw [← hrest, List.getElem?_append_left hlt]
    exact htable
  opened := hopened

/-- An execution leaves the statements alone. -/
theorem answerExecution_kept (ran : Ran) :
    (keepingView ι D names).Kept i s (answerExecution engine names ran s).2 := by
  rw [answerExecution]
  rcases engine.evaluate ran.1 ran.2 s.database with e | ⟨table, database⟩
  · exact .refl _ i s
  · exact keepingView_kept (fun _ _ h _ => h) (List.prefix_append _ _) (Nat.le_refl _)

/-- A GetFlightInfo or a DoGet leaves them alone too. -/
theorem answer_kept_of_queries {q : Call} (hq : q.queries) :
    (keepingView ι D names).Kept i s (answer engine names j q s).2 := by
  cases q with
  | getFlightInfo command =>
    rw [answer]
    rcases requested names s command with _ | ran
    · exact .refl _ i s
    · exact answerExecution_kept ran
  | doGet ticket =>
    rw [answer]
    rcases (names.result ticket).bind fun n => s.results[n]? with _ | table
    · exact .refl _ i s
    · exact .refl _ i s
  | createPreparedStatement query => exact hq.elim
  | doPut handle batch => exact hq.elim
  | closePreparedStatement handle => exact hq.elim

/-- **With handles of their own statements only, the others leave a session's alone.** -/
theorem answer_others {q : Call} (hne : j ≠ i) (hown : (keepingView ι D names).OwnChange j q s) :
    (keepingView ι D names).Kept i s (answer engine names j q s).2 := by
  cases q with
  | getFlightInfo command => exact answer_kept_of_queries trivial
  | doGet ticket => exact answer_kept_of_queries trivial
  | createPreparedStatement query =>
    rw [answer]
    rcases engine.prepare query s.database with e | ⟨dataset, parameters⟩
    · exact .refl _ i s
    · refine keepingView_kept (stays_push _) List.prefix_rfl ?_
      have hopen := @openOf_push ι D i s _ (⟨j, query, none, 0, true⟩ : Statement ι)
      rw [if_neg fun h => hne h.1] at hopen
      exact Nat.le_of_eq hopen
  | doPut handle batch =>
    rw [answer]
    rcases hcurrent : current names s handle with _ | ⟨n, st⟩
    · exact .refl _ i s
    · have howner := OwnHandle.owner (hown handle rfl) hcurrent
      have hst := (current_eq_some.mp hcurrent).2.1
      obtain ⟨metadata, st', hanswer, hown', -, -, hopened, -⟩ := answerPut_cases names batch n st s
      show (keepingView ι D names).Kept i s (answerPut names batch n st s).2
      rw [hanswer]
      exact keepingView_kept (stays_update hst fun h => hne (howner.symm.trans h)) List.prefix_rfl
        (openOf_update_le hst hown' fun h => hopened ▸ h)
  | closePreparedStatement handle =>
    rw [answer]
    rcases hcurrent : current names s handle with _ | ⟨n, st⟩
    · exact .refl _ i s
    · have howner := OwnHandle.owner (hown handle rfl) hcurrent
      have hst := (current_eq_some.mp hcurrent).2.1
      exact keepingView_kept (stays_update hst fun h => hne (howner.symm.trans h)) List.prefix_rfl
        (openOf_update_le hst rfl (by rintro ⟨⟩))

/-- What a command runs of what a session has. -/
theorem requested_of_asks {ran : Ran} {command : Command} (h : (keepingView ι D names).Asks i ran s command) :
    requested names s command = some ran := by
  cases command with
  | statementQuery query => rw [requested, show ran = (query, none) from h]
  | preparedStatementQuery handle =>
    obtain ⟨st, hheld, hran⟩ := h
    obtain ⟨n, hcurrent, -⟩ := hheld.current
    rw [requested, hcurrent, hran]
    rfl
  | _ => exact h.elim

omit [DecidableEq ι] in
/-- Without a GetFlightInfo the database stays as it is. -/
theorem database_answer {q : Call} (h : ∀ command, q ≠ .getFlightInfo command) :
    (answer engine names i q s).2.database = s.database := by
  cases q with
  | getFlightInfo command => exact absurd rfl (h command)
  | doGet ticket =>
    rw [answer]
    rcases (names.result ticket).bind fun n => s.results[n]? with _ | table
    · rfl
    · rfl
  | createPreparedStatement query =>
    rw [answer]
    rcases engine.prepare query s.database with e | ⟨dataset, parameters⟩
    · rfl
    · rfl
  | doPut handle batch =>
    rw [answer]
    rcases current names s handle with _ | ⟨n, st⟩
    · rfl
    · obtain ⟨metadata, st', hanswer, -⟩ := answerPut_cases names batch n st s
      show (answerPut names batch n st s).2.database = s.database
      rw [hanswer]
      rfl
  | closePreparedStatement handle =>
    rw [answer]
    rcases current names s handle with _ | ⟨n, st⟩
    · rfl
    · rfl

omit [DecidableEq ι] in
theorem step_answer (i : ι) (q : Call) (s : State ι D) :
    engine.Step (executes engine names i q s) s.database (answer engine names i q s).2.database := by
  cases q with
  | getFlightInfo command =>
    rw [answer, executes]
    rcases requested names s command with _ | ran
    · rfl
    show engine.Step ((engine.evaluate ran.1 ran.2 s.database).toOption.map fun out => (ran, out.1)) s.database
      (answerExecution engine names ran s).2.database
    rcases answerExecution_cases engine names ran s with ⟨e, heval, hanswer⟩ | ⟨table, database, heval, hanswer⟩
    · rw [heval, hanswer]
      rfl
    · rw [heval, hanswer]
      exact heval
  | doGet ticket => exact database_answer (by rintro command ⟨⟩)
  | createPreparedStatement query => exact database_answer (by rintro command ⟨⟩)
  | doPut handle batch => exact database_answer (by rintro command ⟨⟩)
  | closePreparedStatement handle => exact database_answer (by rintro command ⟨⟩)

theorem opening_answer (i j : ι) (q : Call) (s : State ι D) :
    (answer engine names j q s).2.openOf i ≤ s.openOf i + q.opens := by
  cases q with
  | getFlightInfo command =>
    have hkept : (keepingView ι D names).Kept i s (answer engine names j (.getFlightInfo command) s).2 :=
      answer_kept_of_queries trivial
    exact hkept.opened
  | doGet ticket =>
    have hkept : (keepingView ι D names).Kept i s (answer engine names j (.doGet ticket) s).2 :=
      answer_kept_of_queries trivial
    exact hkept.opened
  | createPreparedStatement query =>
    rw [answer]
    rcases engine.prepare query s.database with e | ⟨dataset, parameters⟩
    · exact Nat.le_add_right _ _
    · have hopen := @openOf_push ι D i s _ (⟨j, query, none, 0, true⟩ : Statement ι)
      show State.openOf i _ ≤ s.openOf i + 1
      rw [hopen]
      split
      · exact Nat.le_refl _
      · omega
  | doPut handle batch =>
    rw [answer]
    rcases hcurrent : current names s handle with _ | ⟨n, st⟩
    · exact Nat.le_refl _
    · obtain ⟨metadata, st', hanswer, hown', -, -, hopened, -⟩ := answerPut_cases names batch n st s
      show (answerPut names batch n st s).2.openOf i ≤ s.openOf i
      rw [hanswer]
      exact openOf_update_le (current_eq_some.mp hcurrent).2.1 hown' fun h => hopened ▸ h
  | closePreparedStatement handle =>
    rw [answer]
    rcases hcurrent : current names s handle with _ | ⟨n, st⟩
    · exact Nat.le_refl _
    · exact openOf_update_le (current_eq_some.mp hcurrent).2.1 rfl (by rintro ⟨⟩)

/-- **The server keeps the contract.** -/
def keepingContract (ι : Type) [DecidableEq ι] (engine : Engine D) (names : Names) :
    Contract engine (keeping engine names : Service ι (State ι D)) where
  toView := keepingView ι D names
  database s := s.database
  holds_of_runs := by
    rintro i handle ran s ⟨st, hheld, -⟩
    exact hheld.own
  step := step_answer
  quiet := by
    intro i q s hq
    cases q with
    | getFlightInfo command => exact absurd trivial hq
    | doGet ticket => rfl
    | createPreparedStatement query => rfl
    | doPut handle batch => rfl
    | closePreparedStatement handle => rfl
  prepared := by
    intro i query s result hreply
    show engine.prepare query s.database = _ ∧ ∃ st, Held names i result.handle st
      (answer engine names i (.createPreparedStatement query) s).2 ∧ (query, none) = (st.query, st.binding)
    change (answer engine names i (.createPreparedStatement query) s).1 = .ok (some result) at hreply
    rw [answer] at hreply ⊢
    rcases hprepare : engine.prepare query s.database with e | ⟨dataset, parameters⟩
    · rw [hprepare] at hreply
      cases hreply
    · rw [hprepare] at hreply
      cases hreply
      refine ⟨rfl, ⟨i, query, none, 0, true⟩, ⟨rfl, rfl, s.statements.length, names.locate_handle _ _, ?_⟩, rfl⟩
      show (s.statements ++ [_])[s.statements.length]? = some _
      simp
  bound := by
    rintro i handle batch ran s metadata ⟨st, ⟨hown, hopened, n, hlocate, hst⟩, rfl⟩ hreply
    have hcurrent : current names s handle = some (n, st) := current_eq_some.mpr ⟨hlocate, hst, hopened⟩
    obtain ⟨metadata', st', hanswer, hown', hquery, hbinding, hopened', hput⟩ :=
      answerPut_cases names batch n st s
    have hall : answer engine names i (.doPut handle batch) s = (.ok metadata', update n st' s) := by
      rw [answer, hcurrent]
      exact hanswer
    obtain ⟨handle', hputs, hlocate'⟩ := hput handle hlocate
    change (answer engine names i (.doPut handle batch) s).1 = .ok metadata at hreply
    rw [hall] at hreply
    cases hreply
    refine ⟨handle', hputs, st', ?_, by rw [hquery, hbinding]⟩
    show Held names i handle' st' (answer engine names i (.doPut handle batch) s).2
    rw [hall]
    exact ⟨hown'.trans hown, hopened'.trans hopened, n, hlocate', getElem?_update hst⟩
  put_holds := by
    intro i handle batch s hholds
    show OwnHandle names i handle (answer engine names i (.doPut handle batch) s).2
    rw [answer]
    rcases hcurrent : current names s handle with _ | ⟨n, st⟩
    · exact hholds
    · obtain ⟨metadata, st', hanswer, hown', -⟩ := answerPut_cases names batch n st s
      show OwnHandle names i handle (answerPut names batch n st s).2
      rw [hanswer]
      exact OwnHandle.update hholds (current_eq_some.mp hcurrent).2.1 hown'
  asked := by
    intro i ran s command hasks e he
    change executes engine names i (.getFlightInfo command) s = some e at he
    rw [executes, requested_of_asks hasks] at he
    obtain ⟨out, -, rfl⟩ := Option.map_eq_some_iff.mp he
    rfl
  info := by
    intro i ran s command info ticket hasks hreply hticket
    have hrequested := requested_of_asks hasks
    have hall : answer engine names i (.getFlightInfo command) s = answerExecution engine names ran s := by
      rw [answer, hrequested]
    change (answer engine names i (.getFlightInfo command) s).1 = .ok info at hreply
    show ∃ fetch : Fetch, fetch.Of ran (executes engine names i (.getFlightInfo command) s) ∧
      ∃ n table, names.result ticket = some n ∧
        (answer engine names i (.getFlightInfo command) s).2.results[n]? = some table ∧ fetch = .result table
    rw [hall] at hreply ⊢
    rcases answerExecution_cases engine names ran s with ⟨e, heval, hanswer⟩ | ⟨table, database, heval, hanswer⟩
    · rw [hanswer] at hreply
      cases hreply
    · rw [hanswer] at hreply ⊢
      cases hreply
      cases hticket
      refine ⟨.result table, ?_, s.results.length, table, names.result_ticket _, ?_, rfl⟩
      · show executes engine names i (.getFlightInfo command) s = some (ran, table)
        rw [executes, hrequested]
        show (engine.evaluate ran.1 ran.2 s.database).toOption.map _ = _
        rw [heval]
        rfl
      · show (s.results ++ [table])[s.results.length]? = some table
        simp
  read := by
    rintro i ticket fetch s ⟨n, table, hresult, htable, rfl⟩
    refine ⟨rfl, ?_⟩
    rintro payload ⟨reader, hreply, hread⟩
    change (answer engine names i (.doGet ticket) s).1 = .ok reader at hreply
    rw [answer, hresult] at hreply
    simp only [Option.bind_some, htable] at hreply
    cases hreply
    cases hread
    rfl
  reusable hq := (answer_kept_of_queries hq).runs
  opening i q s := opening_answer i i q s
  closing := by
    rintro i handle ran s ⟨st, ⟨hown, hopened, n, hlocate, hst⟩, -⟩ -
    have hcurrent : current names s handle = some (n, st) := current_eq_some.mpr ⟨hlocate, hst, hopened⟩
    have hclosed := @openOf_update ι D i s _ n st { st with opened := false } hst
    rw [if_pos ⟨hown, hopened⟩, if_neg (by rintro ⟨-, ⟨⟩⟩)] at hclosed
    show (answer engine names i (.closePreparedStatement handle) s).2.openOf i ≤ s.openOf i - 1
    rw [answer, hcurrent]
    exact Nat.le_of_eq hclosed
  others := answer_others

end Contract

/-! ## An instance -/

/-- Two numbers in unary, as a handle. -/
def unaryHandle (n k : Nat) : Bytes := 2 :: (List.replicate n 1 ++ 0 :: List.replicate k 1)

def unaryLocate : Bytes → Option (Nat × Nat)
  | 2 :: rest => some ((rest.takeWhile (· = 1)).length, (rest.drop ((rest.takeWhile (· = 1)).length + 1)).length)
  | _ => none

theorem unaryLocate_handle (n k : Nat) : unaryLocate (unaryHandle n k) = some (n, k) := by
  have hcount : (List.replicate n (1 : UInt8) ++ 0 :: List.replicate k 1).takeWhile (· = 1) = List.replicate n 1 := by
    rw [List.takeWhile_append_of_pos (by simp)]
    simp
  rw [unaryHandle, unaryLocate, hcount]
  simp [List.drop_append]

theorem unaryHandle_length {n k : Nat} (h : n + k < 2 ^ 32) : (unaryHandle n k).length < 2 ^ 64 := by
  simp only [unaryHandle, List.length_cons, List.length_append, List.length_replicate]
  omega

theorem unaryHandle_untyped (n k : Nat) : ¬ typeUrlPrefix <+: unaryHandle n k := by
  rintro ⟨rest, hrest⟩
  have hfirst := congrArg List.head? hrest
  have hstart : (typeUrlPrefix ++ rest).head? = some 116 := rfl
  rw [hstart] at hfirst
  cases hfirst

/-- A put that is answered with such a handle. -/
theorem putAnswer_unaryHandle (sent : Bytes) {n k : Nat} (h : n + k < 2 ^ 32) :
    PutAnswer sent (some (encodeResult [] (unaryHandle n k) [])) (unaryHandle n k) :=
  .bare (by simp [Unknown]) (by simp [Unknown]) (unaryHandle_length h) (by simp [unaryHandle])
    (unaryHandle_untyped n k)

/-- Every put is answered with a new handle, while there are any left. -/
def unaryNames : Names where
  handle := unaryHandle
  locate := unaryLocate
  locate_handle := unaryLocate_handle
  renames n k := n + (k + 1) < 2 ^ 32
  metadata n k := encodeResult [] (unaryHandle n (k + 1)) []
  metadata_handle sent n k h := putAnswer_unaryHandle sent (by simpa using h)
  ticket n := List.replicate n 0
  result ticket := some ticket.length
  result_ticket n := by simp
  unknown := ⟨.flight .unauthenticated, "unknown handle"⟩

/-- A database that is the number of executions, which is also the result of each; a query has one parameter. -/
def counting : Engine Nat where
  prepare _ _ := .ok ([], [1])
  evaluate _ _ d := .ok (.ofValues "n" .int64 [.int (d + 1)], d + 1)

end FlightSql.Sessions
