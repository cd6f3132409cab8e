/-
  Fetching without a result — `check_result` over whole histories of a cursor.

  THE CODE guards `fetchone`, `fetchmany`, `fetchall` and `rowcount`: with `_results` being `None` they raise
  "called before execute".

  WHAT IT IS FOR: a fetch is refused unless the last execute returned (`GuardsFetches`).

  1. **The sentinel** — the methods once more over a cursor whose `_results` may be `None`: the guard reads
     it, the constructor and every execute assign a list, and nothing assigns `None`.

  2. **It is never `None`** (`history_isNone`): one operation keeps it so, and the constructor starts so.

  3. **The guard is dead** (`guardsFetches_iff`): on an open cursor every fetch returns, so fetches are
     guarded in exactly the histories whose last execute returned.

  Mathlib-free.
-/
import FlightSql.Objects

set_option linter.unusedVariables false

namespace FlightSql

open Arrow Lib

/-! ## The sentinel -/

/-- **A cursor with its sentinel**: the world of its methods, whose list of rows is there unless `_results`
    is `None`. -/
structure Held where
  world : World
  isNone : Bool

/-- A method of such a cursor; what it returns is dropped. -/
abbrev HeldMethod := Run Held Exn Unit

/-- The refusal of `check_result`. -/
def calledBeforeExecute : Exn := .error "called before execute"

/-- `check_result`. -/
def checkResult (m : HeldMethod) : HeldMethod := fun s =>
  if s.isNone then (.error calledBeforeExecute, s) else m s

/-- A method that leaves the sentinel. -/
def keepingSentinel {α : Type} (m : Method α) : HeldMethod := fun s =>
  ((m s.world).1.map fun _ => (), { s with world := (m s.world).2 })

/-- A method that assigns a list to `_results` once it has seen that the cursor is open. -/
def assigningList {α : Type} (m : Method α) : HeldMethod := fun s =>
  ((m s.world).1.map fun _ => (), ⟨(m s.world).2, s.isNone && s.world.cursor.closed⟩)

/-- `__iter__`, which has no guard: `iter(None)` is a `TypeError`. -/
def iterateHeld : HeldMethod := fun s =>
  if s.isNone ∧ s.world.cursor.closed = false then
    (.error ⟨.python .typeError, "'NoneType' object is not iterable"⟩, s)
  else keepingSentinel iterate s

variable (rt : Runtime) (srv : Server)

/-- **The public methods**, with the guard where the class has it. -/
def CursorMethod.onHeld : CursorMethod → HeldMethod
  | .iter => iterateHeld
  | .close => keepingSentinel (cursorMethod (Run.modify fun w =>
      { w with cursor := { w.cursor with closed := true } }))
  | .execute query params => assigningList (FlightSql.execute rt srv query params)
  | .executemany query paramSeq => assigningList (FlightSql.executemany rt srv query paramSeq)
  | .fetchone => checkResult (keepingSentinel FlightSql.fetchone)
  | .fetchmany size => checkResult (assigningList (FlightSql.fetchmany size))
  | .fetchall => checkResult (assigningList FlightSql.fetchall)
  | .setinputsizes => keepingSentinel (cursorMethod (pure ()))
  | .setoutputsizes => keepingSentinel (cursorMethod (pure ()))
  | .rowcount => checkResult (keepingSentinel (cursorMethod (Run.gets fun w => w.cursor.results.length)))

/-! ## Histories -/

/-- `execute` and `executemany`. -/
def CursorMethod.isExecute : CursorMethod → Bool
  | .execute _ _ | .executemany _ _ => true
  | _ => false

/-- The methods under `check_result`. -/
def CursorMethod.isFetch : CursorMethod → Bool
  | .fetchone | .fetchmany _ | .fetchall | .rowcount => true
  | _ => false

/-- **One step of a cursor's history**: a call of one of its methods, an assignment to its array size, or
    something elsewhere, which may change all that the cursor's methods read of other objects and, as
    `Connection.close` does, close the cursor. -/
inductive CursorStep where
  | call (method : CursorMethod)
  | setArraysize (size : Int)
  | elsewhere (log : List Event) (clientClosed : Bool) (connection : Connection)
      (statement : PreparedStatement) (closesCursor : Bool)

/-- **A history**: the cursor it has led to, and whether an execute was issued and the last one returned. -/
structure History where
  held : Held
  executed : Bool

/-- A cursor just constructed: `self._results = []`. -/
def History.start (w : World) : History := ⟨⟨{ w with cursor := .new }, false⟩, false⟩

/-- One step more. -/
def History.turn (h : History) : CursorStep → History
  | .call method =>
    let ended := method.onHeld rt srv h.held
    ⟨ended.2, if method.isExecute then ended.1.isOk else h.executed⟩
  | .setArraysize size =>
    let w := h.held.world
    { h with held := { h.held with world := { w with cursor := { w.cursor with arraysize := size } } } }
  | .elsewhere log clientClosed connection statement closesCursor =>
    let cursor := h.held.world.cursor
    { h with held := { h.held with world :=
      ⟨log, clientClosed, connection, { cursor with closed := cursor.closed || closesCursor }, statement⟩ } }

/-- The history of a cursor constructed in a world. -/
def history (w : World) (steps : List CursorStep) : History :=
  steps.foldl (History.turn rt srv) (.start w)

/-- **Fetching without a result is an error**, and with one it is not this error. -/
structure GuardsFetches (h : History) : Prop where
  without : h.executed = false → ∀ method : CursorMethod, method.isFetch = true →
    (method.onHeld rt srv h.held).1 = .error calledBeforeExecute
  after : h.executed = true → ∀ method : CursorMethod, method.isFetch = true →
    (method.onHeld rt srv h.held).1 ≠ .error calledBeforeExecute

/-! ## The sentinel is never `None` -/

variable {rt srv}

/-- The guard lets everything through where there is a list. -/
theorem checkResult_list {m : HeldMethod} {s : Held} (h : s.isNone = false) : checkResult m s = m s := by
  rw [checkResult, if_neg (by rw [h]; exact Bool.false_ne_true)]

/-- A list stays a list. -/
theorem onHeld_isNone {s : Held} (h : s.isNone = false) (method : CursorMethod) :
    (method.onHeld rt srv s).2.isNone = false := by
  have hassigning : ∀ {α : Type} (m : Method α), (assigningList m s).2.isNone = false := by
    intro α m
    show (s.isNone && s.world.cursor.closed) = false
    rw [h, Bool.false_and]
  cases method with
  | iter =>
    show (iterateHeld s).2.isNone = false
    rw [iterateHeld, if_neg (by simp [h])]
    exact h
  | close => exact h
  | execute query params => exact hassigning _
  | executemany query paramSeq => exact hassigning _
  | fetchone =>
    rw [CursorMethod.onHeld, checkResult_list h]
    exact h
  | fetchmany size =>
    rw [CursorMethod.onHeld, checkResult_list h]
    exact hassigning _
  | fetchall =>
    rw [CursorMethod.onHeld, checkResult_list h]
    exact hassigning _
  | setinputsizes => exact h
  | setoutputsizes => exact h
  | rowcount =>
    rw [CursorMethod.onHeld, checkResult_list h]
    exact h

theorem History.turn_isNone {h : History} (hlist : h.held.isNone = false) (step : CursorStep) :
    (h.turn rt srv step).held.isNone = false := by
  cases step with
  | call method => exact onHeld_isNone hlist method
  | setArraysize size => exact hlist
  | elsewhere log clientClosed connection statement closesCursor => exact hlist

theorem foldl_turn_isNone (steps : List CursorStep) :
    ∀ {h : History}, h.held.isNone = false → (steps.foldl (History.turn rt srv) h).held.isNone = false := by
  induction steps with
  | nil => exact fun hlist => hlist
  | cons step steps ih => exact fun hlist => ih (History.turn_isNone hlist step)

/-- **`_results` is never `None`**, whatever happened since the constructor. -/
theorem history_isNone (w : World) (steps : List CursorStep) : (history rt srv w steps).held.isNone = false :=
  foldl_turn_isNone steps rfl

/-! ## The guard is dead -/

/-- **Every fetch returns** on an open cursor that holds a list. -/
theorem fetch_returns {s : Held} (hlist : s.isNone = false) (hopen : s.world.cursor.closed = false)
    {method : CursorMethod} (hfetch : method.isFetch = true) : (method.onHeld rt srv s).1 = .ok () := by
  cases method with
  | fetchone =>
    rw [CursorMethod.onHeld, checkResult_list hlist]
    show (fetchone s.world).1.map (fun _ => ()) = .ok ()
    rw [fetchone, checkClosed_open hopen, popRow, Run.bind_ok (Run.gets_run _ s.world)]
    -- a list without rows is answered with `None`
    cases s.world.cursor.results with
    | nil => rfl
    | cons row rows => rfl
  | fetchmany size =>
    rw [CursorMethod.onHeld, checkResult_list hlist]
    show (fetchmany size s.world).1.map (fun _ => ()) = .ok ()
    rw [fetchmany, checkClosed_open hopen]
    rfl
  | fetchall =>
    rw [CursorMethod.onHeld, checkResult_list hlist]
    show (fetchall s.world).1.map (fun _ => ()) = .ok ()
    rw [fetchall, checkClosed_open hopen]
    rfl
  | rowcount =>
    rw [CursorMethod.onHeld, checkResult_list hlist]
    show (cursorMethod _ s.world).1.map (fun _ => ()) = .ok ()
    rw [cursorMethod, checkClosed_open hopen]
    rfl
  | _ => cases hfetch

/-- **Fetches are guarded in exactly the histories whose last execute returned**: none is ever refused. -/
theorem guardsFetches_iff (rt : Runtime) (srv : Server) (w : World) (steps : List CursorStep)
    (hopen : (history rt srv w steps).held.world.cursor.closed = false) :
    GuardsFetches rt srv (history rt srv w steps) ↔ (history rt srv w steps).executed = true := by
  have hlist : (history rt srv w steps).held.isNone = false := history_isNone w steps
  constructor
  · intro h
    cases hexecuted : (history rt srv w steps).executed with
    | true => rfl
    | false =>
      have hrefused := h.without hexecuted .fetchone rfl
      rw [fetch_returns hlist hopen rfl] at hrefused
      cases hrefused
  · intro hexecuted
    refine ⟨fun hnot => ?_, fun _ method hfetch => ?_⟩
    · rw [hexecuted] at hnot
      cases hnot
    · rw [fetch_returns hlist hopen hfetch]
      intro h
      cases h

/-- A server that answers everything with one table of one row. -/
def Server.oneRow : Server :=
  .fixed (fun _ => .ok (.ofTickets [[1]])) fun _ => .ok (.ofTable (.ofValues "id" .int64 [.int 7]))

theorem guardsFetches_select :
    (history .reference .oneRow .initial [.call (.execute "SELECT id FROM t" none)]).executed = true ∧
      GuardsFetches .reference .oneRow
        (history .reference .oneRow .initial [.call (.execute "SELECT id FROM t" none)]) :=
  ⟨rfl, (guardsFetches_iff .reference .oneRow .initial [.call (.execute "SELECT id FROM t" none)] rfl).mpr
    rfl⟩

/-- A fetch before any execute returns `None`. -/
theorem guardsFetches_fresh : ¬GuardsFetches .reference .oneRow (history .reference .oneRow .initial []) := by
  intro h
  have hrefused := h.without rfl .fetchone rfl
  cases hrefused

end FlightSql
