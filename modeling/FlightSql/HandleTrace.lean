/-
  Which prepared-statement handle a run uses.

  The handle of a prepared statement is mutable state: a DoPut may be answered with a new handle, and
  from then on only that one carries the bound parameters.  Over the log this is one notion, the
  CURRENT handle: the one the last completed CreatePreparedStatement or DoPut issued.

  `UsesCurrentHandle` is the property of a run: every DoPut, GetFlightInfo and Close carries the
  handle current at that moment, and a statement that was prepared is closed exactly once, by the
  last request.  Inside the `with` block the invariant is `InStatement`: the statement object holds
  the current handle.  Each step keeps it whether it returns or raises, so it holds wherever the
  block ends; `withPrepared_usesCurrentHandle` adds the create before it and the close after it.

  Mathlib-free.
-/
import FlightSql.Cursor

set_option linter.unusedVariables false

namespace FlightSql

open Arrow Lib Lib.Wire PreparedHandle

/-! ## Handles in the log -/

namespace Event

/-- The handle a request carries. -/
def handle? : Event → Option Bytes
  | .flightInfo (.preparedStatementQuery h) _ => some h
  | .doPut h _ _ => some h
  | .closePrepared h _ => some h
  | _ => none

/-- What may be sent for a prepared statement before it is closed: puts, executions of a handle, and
    the reads of their results. -/
def usesStatement : Event → Bool
  | .doPut _ _ _ => true
  | .flightInfo (.preparedStatementQuery _) _ => true
  | .doGet _ _ => true
  | _ => false

def isCreate : Event → Bool
  | .createPrepared _ _ => true
  | _ => false

/-- The current handle after one more event: a completed create or put may issue a new one. -/
def issues (current : Option Bytes) : Event → Option Bytes
  | .createPrepared _ (.ok (some result)) => some result.handle
  | .doPut _ _ (.ok metadata) => (updatedPreparedHandle (metadata.getD [])).or current
  | _ => current

end Event

/-- **The current handle**: the newest one a completed RPC issued. -/
def currentHandle (log : List Event) : Option Bytes := log.foldl Event.issues none

theorem currentHandle_snoc (log : List Event) (e : Event) :
    currentHandle (log ++ [e]) = e.issues (currentHandle log) := by
  rw [currentHandle, List.foldl_append]
  rfl

/-- Every handle in `evs` was current when it was sent, the log being `before` at the start. -/
def HandlesCurrent (before evs : List Event) : Prop :=
  ∀ pre e post h, evs = pre ++ e :: post → e.handle? = some h →
    currentHandle (before ++ pre) = some h

theorem HandlesCurrent.nil (before : List Event) : HandlesCurrent before [] := by
  intro pre e post h he
  cases pre <;> cases he

theorem HandlesCurrent.snoc {before evs : List Event} {e : Event} (hevs : HandlesCurrent before evs)
    (he : ∀ h, e.handle? = some h → currentHandle (before ++ evs) = some h) :
    HandlesCurrent before (evs ++ [e]) := by
  intro pre x post h hsplit hx
  rcases List.append_eq_append_iff.mp hsplit with ⟨as, hpre, has⟩ | ⟨bs, hevs', hbs⟩
  · -- the split point is at or after the last event
    cases as with
    | nil =>
      rw [List.nil_append] at has
      injection has with hxe hpost
      rw [hpre, List.append_nil]
      exact he h (hxe ▸ hx)
    | cons a as =>
      injection has with _ has
      cases as <;> cases has
  · cases bs with
    | nil =>
      rw [List.nil_append] at hbs
      injection hbs with hxe hpost
      rw [← hevs'.trans (List.append_nil pre)]
      exact he h (hxe ▸ hx)
    | cons b bs =>
      injection hbs with hb hpost
      exact hevs pre b bs h (hb ▸ hevs') (hb ▸ hx)

/-- **Only current handles are used**, and after `prepare` returned everything is about that statement,
    which is closed once, last. -/
structure UsesCurrentHandle (rt : Runtime) (before evs : List Event) : Prop where
  handles : HandlesCurrent before evs
  closes : ∀ pre query reply rest, evs = pre ++ .createPrepared query reply :: rest →
    PrepareReturns rt reply →
      ∃ body h closeReply, rest = body ++ [.closePrepared h closeReply] ∧
        ∀ e ∈ body, e.usesStatement = true

/-! ## Inside the `with` block -/

/-- **The invariant of the block**: since `base` only current handles were used, everything was about
    the statement, and the open statement holds the current handle. -/
structure InStatement (base : List Event) (w : World) : Prop where
  events : ∃ evs, w.log = base ++ evs ∧ HandlesCurrent base evs ∧
    ∀ e ∈ evs, e.usesStatement = true
  handle : currentHandle w.log = some w.statement.handle
  opened : w.statement.closed = false

/-- One more event, with the handle the statement then holds. -/
theorem InStatement.step {base : List Event} {w w' : World} {e : Event} (hw : InStatement base w)
    (hlog : w'.log = w.log ++ [e]) (hcarry : ∀ h, e.handle? = some h → h = w.statement.handle)
    (huse : e.usesStatement = true)
    (hissue : e.issues (some w.statement.handle) = some w'.statement.handle)
    (hopen : w'.statement.closed = false) : InStatement base w' := by
  obtain ⟨evs, hevs, hcur, hkind⟩ := hw.events
  refine ⟨⟨evs ++ [e], ?_, ?_, ?_⟩, ?_, hopen⟩
  · rw [hlog, hevs, List.append_assoc]
  · refine hcur.snoc fun h hh => ?_
    rw [← hevs, hw.handle, hcarry h hh]
  · intro x hx
    rcases List.mem_append.mp hx with hx | hx
    · exact hkind x hx
    · rw [List.mem_singleton.mp hx]
      exact huse
  · rw [hlog, currentHandle_snoc, hw.handle, hissue]

/-- Reading a result neither carries nor issues a handle. -/
theorem InStatement.doGet (base : List Event) (w : World) (ticket : Ticket)
    (reply : Except Exn Reader) (hw : InStatement base w) :
    InStatement base (w.record (.doGet ticket reply)) :=
  hw.step rfl (fun _ hh => by cases hh) rfl rfl hw.opened

theorem InStatement.withCursor (base : List Event) (w : World) (cursor : Cursor)
    (hw : InStatement base w) : InStatement base { w with cursor := cursor } :=
  ⟨hw.events, hw.handle, hw.opened⟩

/-- **The put**: the command returned is for the handle the statement then holds. -/
theorem bindBatch_triple (base : List Event) (srv : Server) (binding : RecordBatch) (h : Bytes) :
    Run.Triple (fun w => InStatement base w ∧ w.statement.handle = h)
      (bindBatch srv h binding (.preparedStatementQuery h))
      (fun command w => InStatement base w ∧
        command = .preparedStatementQuery w.statement.handle)
      (fun _ w => InStatement base w) := by
  unfold bindBatch
  by_cases hrows : binding.numRows > 0
  · rw [if_pos hrows]
    rintro w ⟨hw, rfl⟩
    cases hreply : srv.doPut w.log w.statement.handle binding with
    | error error =>
      rw [Run.bind_error (rpc_error hreply)]
      exact hw.step rfl (fun _ hh => (Option.some.inj hh).symm) rfl rfl hw.opened
    | ok metadata =>
      rw [Run.bind_ok (rpc_ok hreply)]
      unfold updateHandle
      cases hup : updatedPreparedHandle (metadata.getD []) with
      | none =>
        -- no handle in the reply: the one that was sent stays current
        refine ⟨hw.step rfl (fun _ hh => (Option.some.inj hh).symm) rfl ?_ hw.opened, rfl⟩
        show (updatedPreparedHandle (metadata.getD [])).or _ = _
        rw [hup]
        rfl
      | some updated =>
        refine ⟨hw.step rfl (fun _ hh => (Option.some.inj hh).symm) rfl ?_ hw.opened, rfl⟩
        show (updatedPreparedHandle (metadata.getD [])).or _ = _
        rw [hup]
        rfl
  · rw [if_neg hrows]
    rintro w ⟨hw, rfl⟩
    exact ⟨hw, rfl⟩

theorem statementExecute_keeps (base : List Event) (srv : Server) (binding : RecordBatch) :
    Run.Keeps (InStatement base) (statementExecute srv binding) := by
  refine checkClosed_keeps ?_
  intro w hw
  rw [Run.bind_ok (Run.gets_run _ w)]
  have hput := bindBatch_triple base srv binding w.statement.handle w ⟨hw, rfl⟩
  rw [Run.bind_snd]
  rcases hrun : bindBatch srv w.statement.handle binding
    (.preparedStatementQuery w.statement.handle) w with ⟨r, w'⟩
  rw [hrun] at hput
  cases r with
  | error error => exact hput
  | ok command =>
    obtain ⟨hw', rfl⟩ := hput
    exact hw'.step rfl (fun _ hh => (Option.some.inj hh).symm) rfl rfl hw'.opened

theorem executeRow_keeps (base : List Event) (rt : Runtime) (srv : Server)
    (params : List PyValue) : Run.Keeps (InStatement base) (executeRow rt srv params) := by
  refine (Run.Keeps.gets _).bind fun schema => ?_
  exact (Run.Keeps.ofExcept _).bind fun binding => statementExecute_keeps base srv binding

/-! ## The whole run -/

theorem HandlesCurrent.cons {before evs : List Event} {e : Event} (he : e.handle? = none)
    (hevs : HandlesCurrent (before ++ [e]) evs) : HandlesCurrent before (e :: evs) := by
  intro pre x post h hsplit hx
  cases pre with
  | nil =>
    injection hsplit with hex _
    rw [← hex, he] at hx
    cases hx
  | cons p pre =>
    injection hsplit with hp hsplit
    have hcur := hevs pre x post h hsplit hx
    rwa [← hp, ← List.singleton_append, ← List.append_assoc]

/-- Events without a handle or a create use only current handles. -/
theorem UsesCurrentHandle.of_quiet {rt : Runtime} {before evs : List Event}
    (h : ∀ e ∈ evs, e.handle? = none ∧ e.isCreate = false) : UsesCurrentHandle rt before evs := by
  constructor
  · intro pre e post g hsplit hg
    have he : e ∈ evs := hsplit ▸ List.mem_append_right _ List.mem_cons_self
    rw [(h e he).1] at hg
    cases hg
  · intro pre query reply rest hsplit
    have he : .createPrepared query reply ∈ evs :=
      hsplit ▸ List.mem_append_right _ List.mem_cons_self
    exact Bool.noConfusion (h _ he).2

/-- A run that only sent the create, because `prepare` did not return. -/
theorem UsesCurrentHandle.of_create {rt : Runtime} {before : List Event} {query : String}
    {reply : Except Exn (Option PreparedResult)} (hfail : ¬PrepareReturns rt reply) :
    UsesCurrentHandle rt before [.createPrepared query reply] := by
  constructor
  · exact HandlesCurrent.cons rfl (HandlesCurrent.nil _)
  · intro pre query' reply' rest hsplit hret
    cases pre with
    | nil =>
      injection hsplit with hc _
      injection hc with _ hreply
      exact absurd (hreply ▸ hret) hfail
    | cons p pre =>
      injection hsplit with _ hsplit
      cases pre <;> cases hsplit

/-- A whole statement: the create, a block that kept the invariant, the close. -/
theorem UsesCurrentHandle.of_block {rt : Runtime} {before : List Event} {query : String}
    {reply : Except Exn (Option PreparedResult)} {w : World}
    (hw : InStatement (before ++ [.createPrepared query reply]) w)
    (closeReply : Except Exn Unit) :
    ∃ evs, w.log ++ [.closePrepared w.statement.handle closeReply] = before ++ evs ∧
      UsesCurrentHandle rt before evs := by
  obtain ⟨evs, hevs, hcur, hkind⟩ := hw.events
  refine ⟨.createPrepared query reply :: (evs ++ [.closePrepared w.statement.handle closeReply]), ?_,
    ?_, ?_⟩
  · rw [hevs, List.append_assoc, List.append_assoc]
    rfl
  · refine HandlesCurrent.cons rfl (hcur.snoc fun h hh => ?_)
    rw [← hevs, hw.handle]
    exact hh
  · intro pre query' reply' rest hsplit _
    cases pre with
    | nil =>
      injection hsplit with _ hrest
      exact ⟨evs, _, _, hrest.symm, hkind⟩
    | cons p pre =>
      -- a second create would have to be inside the block
      injection hsplit with _ hsplit
      have hmem : .createPrepared query' reply' ∈
          evs ++ [.closePrepared w.statement.handle closeReply] :=
        hsplit ▸ List.mem_append_right _ List.mem_cons_self
      rcases List.mem_append.mp hmem with he | he
      · exact Bool.noConfusion (hkind _ he)
      · cases List.mem_singleton.mp he

/-- Closing an open statement sends the one close, with the handle it holds. -/
theorem statementClose_log (srv : Server) {w : World} (hopen : w.statement.closed = false) :
    (statementClose srv w).2.log = w.log ++
      [.closePrepared w.statement.handle (srv.closePreparedStatement w.log w.statement.handle)] := by
  rw [statementClose, checkClosed_open hopen, Run.bind_ok (Run.gets_run _ w)]
  cases hreply : srv.closePreparedStatement w.log w.statement.handle with
  | ok u =>
    rw [Run.bind_ok (rpc_ok hreply)]
    rfl
  | error e =>
    rw [Run.bind_error (rpc_error hreply)]
    rfl

/-- **`with prepare(query)` around any block that keeps the invariant.** -/
theorem withPrepared_usesCurrentHandle {rt : Runtime} {srv : Server} {query : String}
    {body : Method Unit} (hbody : ∀ base, Run.Keeps (InStatement base) body) (w : World) :
    ∃ evs, (withPrepared rt srv query body w).2.log = w.log ++ evs ∧
      UsesCurrentHandle rt w.log evs := by
  by_cases hret : PrepareReturns rt (srv.createPreparedStatement w.log query)
  · obtain ⟨result, statement, hreply, hstatement⟩ := hret
    obtain ⟨r, rfl, hhandle, hopen, _⟩ := preparedStatement_eq_ok hstatement
    -- the block starts with the handle the create issued
    have hstart : InStatement (w.log ++ [.createPrepared query (.ok (some r))])
        ((w.record (.createPrepared query (.ok (some r)))).hold statement) := by
      refine ⟨⟨[], (List.append_nil _).symm, HandlesCurrent.nil _, by simp⟩, ?_, hopen⟩
      show currentHandle (w.log ++ [_]) = some statement.handle
      rw [currentHandle_snoc, hhandle]
      rfl
    have hend := hbody _ _ hstart
    have hlog : (withPrepared rt srv query body w).2.log =
        (statementClose srv (body ((w.record (.createPrepared query (.ok (some r)))).hold
          statement)).2).2.log := by
      rw [withPrepared, Run.bind_ok (prepare_ok hreply hstatement), Run.withExit_snd]
    rw [hlog, statementClose_log srv hend.opened]
    exact UsesCurrentHandle.of_block hend _
  · obtain ⟨e, hrun⟩ := prepare_error hret
    refine ⟨[.createPrepared query (srv.createPreparedStatement w.log query)], ?_,
      UsesCurrentHandle.of_create hret⟩
    rw [withPrepared, Run.bind_error hrun]
    rfl

/-! ## The cursor's methods -/

/-- Nothing but events without a handle or a create since `base`. -/
def Quiet (base : List Event) (w : World) : Prop :=
  ∃ evs, w.log = base ++ evs ∧ ∀ e ∈ evs, e.handle? = none ∧ e.isCreate = false

theorem Quiet.record {base : List Event} {w : World} {e : Event} (hw : Quiet base w)
    (he : e.handle? = none ∧ e.isCreate = false) : Quiet base (w.record e) := by
  obtain ⟨evs, hevs, hquiet⟩ := hw
  refine ⟨evs ++ [e], ?_, ?_⟩
  · rw [World.record_log, hevs, List.append_assoc]
  · intro x hx
    rcases List.mem_append.mp hx with hx | hx
    · exact hquiet x hx
    · rw [List.mem_singleton.mp hx]
      exact he

/-- The direct path sends one GetFlightInfo and at most one DoGet. -/
theorem executeDirect_quiet (base : List Event) (rt : Runtime) (srv : Server) (query : String) :
    Run.Keeps (Quiet base) (do
      let info ← clientExecute srv query
      let payload ← readFirstEndpoint srv info
      storeResults rt payload) := by
  refine Run.Keeps.bind (checkClosed_keeps (rpc_keeps fun w _ hw => hw.record ⟨rfl, rfl⟩))
    fun info => ?_
  refine (readFirstEndpoint_keeps srv info fun w _ _ hw => hw.record ⟨rfl, rfl⟩).bind
    fun payload => ?_
  exact storeResults_keeps rt payload fun w _ _ hw => hw

/-- What a cursor method leaves in the log is what its body does, from the reset cursor. -/
theorem cursorMethod_log {m : Method Unit} {before : List Event → List Event → Prop} {w : World}
    (hnil : before w.log [])
    (hm : ∃ evs, (m (resetCursor w).2).2.log = w.log ++ evs ∧ before w.log evs) :
    ∃ evs, (checkClosed "Cursor" (fun w => w.cursor.closed)
        (translateErrors (do resetCursor; m)) w).2.log = w.log ++ evs ∧ before w.log evs := by
  by_cases hc : w.cursor.closed = true
  · refine ⟨[], ?_, hnil⟩
    rw [checkClosed_closed hc, List.append_nil]
  · rw [checkClosed_open ((Bool.eq_false_or_eq_true _).resolve_left hc), translateErrors_snd]
    exact hm

theorem execute_usesCurrentHandle (rt : Runtime) (srv : Server) (query : String)
    (params : Option (List PyValue)) (w : World) :
    ∃ evs, (execute rt srv query params w).2.log = w.log ++ evs ∧
      UsesCurrentHandle rt w.log evs := by
  refine cursorMethod_log (UsesCurrentHandle.of_quiet (by simp)) ?_
  by_cases hp : (params.getD []).length = 0
  · rw [if_pos hp]
    obtain ⟨evs, hevs, hquiet⟩ := executeDirect_quiet w.log rt srv query (resetCursor w).2
      ⟨[], (List.append_nil _).symm, by simp⟩
    exact ⟨evs, hevs, UsesCurrentHandle.of_quiet hquiet⟩
  · rw [if_neg hp]
    refine withPrepared_usesCurrentHandle (fun base => ?_) (resetCursor w).2
    refine (executeRow_keeps base rt srv _).bind fun info => ?_
    refine (readFirstEndpoint_keeps srv info (InStatement.doGet base)).bind fun payload => ?_
    exact storeResults_keeps rt payload fun w _ _ => InStatement.withCursor base w _

/-- **Only current prepared-statement handles are used.**  In every run of `execute` or `executemany`,
    against every server and with every reply or failure at any step, each DoPut, GetFlightInfo and
    Close carries the handle current when it is sent, and once `prepare` has returned exactly one
    Close is sent, as the last request of the run. -/
theorem cursor_usesCurrentHandle (rt : Runtime) (srv : Server) (query : String) (w : World) :
    (∀ params, ∃ evs, (execute rt srv query params w).2.log = w.log ++ evs ∧
      UsesCurrentHandle rt w.log evs) ∧
    (∀ paramSeq, ∃ evs, (executemany rt srv query paramSeq w).2.log = w.log ++ evs ∧
      UsesCurrentHandle rt w.log evs) := by
  constructor
  · exact fun params => execute_usesCurrentHandle rt srv query params w
  · intro paramSeq
    refine cursorMethod_log (UsesCurrentHandle.of_quiet (by simp)) ?_
    by_cases hp : (paramSeq.getD []).length = 0
    · rw [if_pos hp]
      exact execute_usesCurrentHandle rt srv query none (resetCursor w).2
    · rw [if_neg hp]
      refine withPrepared_usesCurrentHandle (fun base => ?_) (resetCursor w).2
      refine Run.Keeps.forEach (fun params => ?_) _
      refine (executeRow_keeps base rt srv params).bind fun info => ?_
      refine (readFirstEndpoint_keeps srv info (InStatement.doGet base)).bind fun payload => ?_
      exact Run.Keeps.pure ()

end FlightSql
