/-
  What a failed `Cursor.execute` leaves in the cursor.

  `execute` resets the cursor first and assigns the rows last, so wherever it fails in between there is
  nothing to see.  Two ways of failing are not in between: a closed cursor raises before the reset, and
  on the prepared path the rows are assigned INSIDE the `with` block, whose exit is one more RPC.

  1. **Assigning is the last thing a block does** (`storeResults_cases`, `runPrepared_cases`) — a block
     that fails has not touched the cursor, one that returns has described a result.

  2. **Every way to fail** (`execute_failsClean_iff`) — a failed execute exposes nothing exactly if a closed
     cursor holds nothing and the statement's close is answered whenever the block has returned.
-/
import FlightSql.BindingErrors
import FlightSql.Endpoints

set_option linter.unusedVariables false

namespace FlightSql

open Arrow Lib

/-- The cursor holds no rows and describes no columns. -/
def NothingExposed (w : World) : Prop := w.cursor.results = [] ∧ w.cursor.description = none

/-! ## Assigning is the last thing a block does -/

/-- The body of `with self.client.prepare(query) as stmt:` in `execute`. -/
def runPrepared (rt : Runtime) (srv : Server) (params : List PyValue) : Method Unit := do
  let info ← executeRow rt srv params
  let payload ← readFirstEndpoint srv info
  storeResults rt payload

/-- The direct path of `execute`. -/
def runDirect (rt : Runtime) (srv : Server) (query : String) : Method Unit := do
  let info ← clientExecute srv query
  let payload ← readFirstEndpoint srv info
  storeResults rt payload

/-- Storing returns with a description, or fails before it assigns. -/
theorem storeResults_cases (rt : Runtime) (payload : Payload) (w : World) :
    ((storeResults rt payload w).1 = .ok () ∧ (storeResults rt payload w).2.cursor.description ≠ none ∧
        (storeResults rt payload w).2.statement = w.statement) ∨
      ∃ e, storeResults rt payload w = (.error e, w) := by
  rw [storeResults]
  cases htable : asTable payload with
  | error e => exact Or.inr ⟨e, rfl⟩
  | ok table =>
    rw [Run.bind_ok (show Run.ofExcept (.ok table) w = (.ok table, w) from rfl)]
    cases hresults : dbapiResults rt.pa rt.asPy table with
    | error e => exact Or.inr ⟨e, rfl⟩
    | ok out =>
      rw [Run.bind_ok (show Run.ofExcept (.ok out) w = (.ok out, w) from rfl)]
      exact Or.inl ⟨rfl, Option.some_ne_none _, rfl⟩

section Block

variable {rt : Runtime} {srv : Server} {query : String} {params : List PyValue} {w : World}

/-- The cursor is `c`, and what is said of the statement holds. -/
def Holding (c : Cursor) (S : PreparedStatement → Prop) (w : World) : Prop := w.cursor = c ∧ S w.statement

/-- A block that ends in storing: what comes before it leaves the cursor as it is. -/
theorem storing_cases {α : Type} {m : Method α} {f : α → Method Payload} {S : PreparedStatement → Prop}
    (hm : ∀ c, Run.Keeps (Holding c S) m) (hf : ∀ a c, Run.Keeps (Holding c S) (f a)) (hS : S w.statement) :
    (∃ w', (m >>= fun a => f a >>= storeResults rt) w = (.ok (), w') ∧ w'.cursor.description ≠ none ∧
        S w'.statement) ∨
      ∃ e w', (m >>= fun a => f a >>= storeResults rt) w = (.error e, w') ∧ Holding w.cursor S w' := by
  have hkeep := hm w.cursor w ⟨rfl, hS⟩
  rcases hrun : m w with ⟨r, w₁⟩
  rw [hrun] at hkeep
  cases r with
  | error e => exact Or.inr ⟨e, w₁, Run.bind_error hrun, hkeep⟩
  | ok a =>
    rw [Run.bind_ok hrun]
    have hkeep₂ := hf a w.cursor w₁ hkeep
    rcases hread : f a w₁ with ⟨r₂, w₂⟩
    rw [hread] at hkeep₂
    cases r₂ with
    | error e => exact Or.inr ⟨e, w₂, Run.bind_error hread, hkeep₂⟩
    | ok payload =>
      rw [Run.bind_ok hread]
      rcases storeResults_cases rt payload w₂ with ⟨hok, hdescription, hstatement⟩ | ⟨e, herror⟩
      · refine Or.inl ⟨(storeResults rt payload w₂).2, Prod.ext hok rfl, hdescription, ?_⟩
        rw [hstatement]
        exact hkeep₂.2
      · exact Or.inr ⟨e, w₂, herror, hkeep₂⟩

theorem readFirstEndpoint_holding (srv : Server) (S : PreparedStatement → Prop) (info : FlightInfo)
    (c : Cursor) : Run.Keeps (Holding c S) (readFirstEndpoint srv info) :=
  readFirstEndpoint_keeps srv info fun _ _ _ hw => hw

/-- The block of a prepared execute leaves its statement open. -/
theorem runPrepared_cases (hopen : w.statement.closed = false) :
    (∃ w', runPrepared rt srv params w = (.ok (), w') ∧ w'.cursor.description ≠ none ∧
        w'.statement.closed = false) ∨
      ∃ e w', runPrepared rt srv params w = (.error e, w') ∧ w'.cursor = w.cursor ∧
        w'.statement.closed = false :=
  storing_cases (S := fun s => s.closed = false)
    (fun c => executeRow_keeps_of rt srv params (fun _ _ hw => hw) fun _ _ hw => hw)
    (readFirstEndpoint_holding srv _) hopen

/-- The direct path. -/
theorem runDirect_cases (rt : Runtime) (srv : Server) (query : String) (w : World) :
    (∃ w', runDirect rt srv query w = (.ok (), w')) ∨
      ∃ e w', runDirect rt srv query w = (.error e, w') ∧ w'.cursor = w.cursor := by
  have hinfo : ∀ c, Run.Keeps (Holding c fun _ => True) (clientExecute srv query) :=
    fun c => checkClosed_keeps (rpc_keeps fun _ _ hw => hw)
  rcases @storing_cases rt w _ _ _ _ hinfo (readFirstEndpoint_holding srv _) trivial with
    ⟨w', hrun, -⟩ | ⟨e, w', hrun, hcursor, -⟩
  · exact Or.inl ⟨w', hrun⟩
  · exact Or.inr ⟨e, w', hrun, hcursor⟩

/-- Preparing leaves the cursor as it is, and an open statement when it returns. -/
theorem prepare_cases (rt : Runtime) (srv : Server) (query : String) (w : World) :
    (∃ w', prepare rt srv query w = (.ok (), w') ∧ w'.cursor = w.cursor ∧ w'.statement.closed = false) ∨
      ∃ e w', prepare rt srv query w = (.error e, w') ∧ w'.cursor = w.cursor := by
  by_cases hreturns : PrepareReturns rt (srv.createPreparedStatement w.log query)
  · obtain ⟨result, statement, hreply, hstatement⟩ := hreturns
    obtain ⟨-, -, -, hopen, -⟩ := preparedStatement_eq_ok hstatement
    exact Or.inl ⟨_, prepare_ok hreply hstatement, rfl, hopen⟩
  · obtain ⟨e, he⟩ := prepare_error hreturns
    exact Or.inr ⟨e, _, he, rfl⟩

/-! ## Every way to fail -/

/-- A failure, if it is one, exposes nothing. -/
def FailsClean (m : Method Unit) (w : World) : Prop := ∀ e, (m w).1 = .error e → NothingExposed (m w).2

/-- Translating exceptions makes no difference to what is exposed. -/
theorem failsClean_translateErrors (m : Method Unit) (w : World) :
    FailsClean (translateErrors m) w ↔ FailsClean m w := by
  rw [FailsClean, FailsClean, translateErrors_snd]
  constructor
  · intro h e he
    exact h _ (translateErrors_error he)
  · intro h e he
    rcases hrun : m w with ⟨r, w'⟩
    cases r with
    | error e' =>
      have hclean := h e' (by rw [hrun])
      rwa [hrun] at hclean
    | ok u =>
      rw [translateErrors_ok hrun] at he
      cases he

/-- Whenever the block returns, the server answers the close that follows it. -/
def CloseAnswered (rt : Runtime) (srv : Server) (query : String) (params : List PyValue) (w : World) :
    Prop :=
  ∀ w₁ w₂, prepare rt srv query w = (.ok (), w₁) → runPrepared rt srv params w₁ = (.ok (), w₂) →
    srv.closePreparedStatement w₂.log w₂.statement.handle = .ok ()

/-- Once the block has stored a result, only the close of the statement can fail. -/
theorem stored_failsClean_iff {m : Method Unit} {w₁ w₂ : World} (hbody : m w₁ = (.ok (), w₂))
    (hdescription : w₂.cursor.description ≠ none) (hopen : w₂.statement.closed = false) :
    FailsClean (Run.withExit m (statementClose srv)) w₁ ↔
      srv.closePreparedStatement w₂.log w₂.statement.handle = .ok () := by
  have hcursor : (statementClose srv (m w₁).2).2.cursor = w₂.cursor := by
    rw [statementClose_cursor, hbody]
  have hclose : (statementClose srv (m w₁).2).1 =
      srv.closePreparedStatement w₂.log w₂.statement.handle := by
    rw [hbody, statementClose_fst srv hopen]
  rw [FailsClean, Run.withExit_snd]
  constructor
  · intro h
    cases hreply : srv.closePreparedStatement w₂.log w₂.statement.handle with
    | ok u => rfl
    | error e =>
      -- the failure of the close is what leaves, and the cursor holds the result
      rw [hreply] at hclose
      have hclean := h e (Run.withExit_raises hclose)
      rw [NothingExposed, hcursor] at hclean
      exact absurd hclean.2 hdescription
  · intro h e he
    rw [h] at hclose
    rw [Run.withExit_fst hclose, hbody] at he
    cases he

/-- A block that fails before it stores anything exposes nothing, however the close ends. -/
theorem unstored_failsClean {m : Method Unit} {w₁ w₂ : World} {e : Exn} (hbody : m w₁ = (.error e, w₂))
    (hw : NothingExposed w₂) : FailsClean (Run.withExit m (statementClose srv)) w₁ := by
  intro e' _
  rw [Run.withExit_snd, NothingExposed, statementClose_cursor, hbody]
  exact hw

/-- **The prepared path** fails clean exactly if its close is answered. -/
theorem withPrepared_failsClean_iff (hw : NothingExposed w) :
    FailsClean (withPrepared rt srv query (runPrepared rt srv params)) w ↔
      CloseAnswered rt srv query params w := by
  rcases prepare_cases rt srv query w with ⟨w₁, hprepare, hcursor₁, hopen₁⟩ | ⟨e, w₁, hprepare, hcursor₁⟩
  · have hrun : FailsClean (withPrepared rt srv query (runPrepared rt srv params)) w ↔
        FailsClean (Run.withExit (runPrepared rt srv params) (statementClose srv)) w₁ := by
      rw [FailsClean, withPrepared, Run.bind_ok hprepare]
      rfl
    rw [hrun]
    rcases @runPrepared_cases rt srv params w₁ hopen₁ with
      ⟨w₂, hbody, hdescription, hopen₂⟩ | ⟨e, w₂, hbody, hcursor₂, hopen₂⟩
    · rw [stored_failsClean_iff hbody hdescription hopen₂]
      constructor
      · intro h w₁' w₂' hprepare' hbody'
        cases hprepare.symm.trans hprepare'
        cases hbody.symm.trans hbody'
        exact h
      · intro h
        exact h w₁ w₂ hprepare hbody
    · constructor
      · intro h w₁' w₂' hprepare' hbody'
        cases hprepare.symm.trans hprepare'
        cases hbody.symm.trans hbody'
      · intro _
        refine unstored_failsClean hbody ?_
        rw [NothingExposed, hcursor₂, hcursor₁]
        exact hw
  · -- without a statement there is no block and no close
    constructor
    · intro h w₁' w₂' hprepare' hbody'
      cases hprepare.symm.trans hprepare'
    · intro h e' he'
      rw [withPrepared, Run.bind_error hprepare, NothingExposed, hcursor₁]
      exact hw

/-- **The direct path** stores last: it fails clean always. -/
theorem runDirect_failsClean (rt : Runtime) (srv : Server) (query : String) (hw : NothingExposed w) :
    FailsClean (runDirect rt srv query) w := by
  intro e he
  rcases runDirect_cases rt srv query w with ⟨w', hrun⟩ | ⟨e', w', hrun, hcursor⟩
  · rw [hrun] at he
    cases he
  · rw [hrun, NothingExposed, hcursor]
    exact hw

end Block

/-- **What a failed execute exposes**: nothing exactly if a closed cursor held nothing, and on the
    prepared path the close is answered whenever the result has been stored. -/
theorem execute_failsClean_iff (rt : Runtime) (srv : Server) (query : String)
    (params : Option (List PyValue)) (w : World) :
    (∀ e, (execute rt srv query params w).1 = .error e → NothingExposed (execute rt srv query params w).2) ↔
      (w.cursor.closed = true → NothingExposed w) ∧
        (w.cursor.closed = false → params.getD [] ≠ [] →
          CloseAnswered rt srv query (params.getD []) (resetCursor w).2) := by
  cases hclosed : w.cursor.closed with
  | true =>
    rw [execute, checkClosed_closed hclosed]
    constructor
    · intro h
      exact ⟨fun _ => h _ rfl, by rintro ⟨⟩⟩
    · intro h e _
      exact h.1 rfl
  | false =>
    rw [execute, checkClosed_open hclosed]
    show FailsClean (translateErrors _) w ↔ _
    rw [failsClean_translateErrors]
    have hreset : NothingExposed (resetCursor w).2 := ⟨rfl, rfl⟩
    by_cases hparams : params.getD [] = []
    · rw [if_pos (by rw [hparams]; rfl)]
      constructor
      · intro _
        exact ⟨by rintro ⟨⟩, fun _ hne => absurd hparams hne⟩
      · intro _
        exact runDirect_failsClean rt srv query hreset
    · rw [if_neg fun hlength => hparams (List.eq_nil_of_length_eq_zero hlength)]
      show FailsClean (withPrepared rt srv query (runPrepared rt srv (params.getD []))) (resetCursor w).2 ↔ _
      rw [withPrepared_failsClean_iff hreset]
      constructor
      · intro h
        exact ⟨by rintro ⟨⟩, fun _ _ => h⟩
      · intro h
        exact h.2 rfl hparams

/-- A server that answers everything with one table of one row, and is gone when the statement is closed. -/
def Server.goneAtClose : Server :=
  { Server.fixed (fun _ => .ok (.ofTickets [[1]])) fun _ => .ok (.ofTable (.ofValues "id" .int64 [.int 7])) with
    closePreparedStatement := fun _ _ => .error ⟨.flight .unavailable, "connection reset"⟩ }

/-- **The close fails after the rows were stored**: the execute raises and the cursor holds them. -/
theorem execute_failedClose :
    (execute .reference .goneAtClose "SELECT id FROM t WHERE id = ?" (some [.int 7]) .initial).1 =
        .error ⟨.dbapi .operational, "connection reset"⟩ ∧
      (execute .reference .goneAtClose "SELECT id FROM t WHERE id = ?" (some [.int 7])
        .initial).2.cursor.results = [[.int 7]] ∧
      ¬NothingExposed (execute .reference .goneAtClose "SELECT id FROM t WHERE id = ?" (some [.int 7])
        .initial).2 := by
  refine ⟨rfl, rfl, ?_⟩
  rintro ⟨hrows, -⟩
  cases hrows

end FlightSql
