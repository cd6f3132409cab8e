/-
  Fetching — `Cursor.fetchone`, `fetchmany`, `fetchall` and iteration.

  THE CODE: the four ways rows leave a cursor.  Three of them take the rows they hand out from
  `_results`; iteration walks the list by index and leaves it as it is.  (`check_result` asks whether
  `_results` is `None`; the constructor and every execute store a list, so it never raises.)

  WHAT IT IS FOR: rows are CONSERVED: what a run hands out, followed by what is still held, are the rows
  held at its start, in order.

  1. **One step** (`FetchOp.conserves`) — each fetch splits the rows held into those it hands out and
     those it leaves; Python's slices split a list for a negative size too.

  2. **A run** (`fetchRun_conserves_iff`) — rows are conserved exactly if every iteration finds no rows:
     an iteration over rows hands them out and keeps them, and no later step makes up for it.

  Mathlib-free.
-/
import FlightSql.Reference

set_option linter.unusedVariables false

namespace FlightSql

open Lib

/-! ## The source functions -/

/-- A row, as `dbapi_results` makes it. -/
abbrev Row := List PyValue

/-- `self._results.pop(0)`, or `None` on the `IndexError` of an empty list. -/
def popRow : Method (Option Row) := do
  let results ← Run.gets fun w => w.cursor.results
  match results with
  | [] => pure none
  | row :: rest => do
    Run.modify fun w => { w with cursor := { w.cursor with results := rest } }
    pure (some row)

/-- `fetchone`. -/
def fetchone : Method (Option Row) := checkClosed "Cursor" (fun w => w.cursor.closed) popRow

/-- Where `xs[:size]` ends and `xs[size:]` starts in a list of this length: a negative size counts from
    the end. -/
def sliceIndex (size : Int) (length : Nat) : Nat :=
  if size < 0 then (length + size).toNat else size.toNat

/-- `fetchmany`; `size or self.arraysize` takes the array size for `None` and for zero. -/
def fetchmany (size : Option Int) : Method (List Row) :=
  checkClosed "Cursor" (fun w => w.cursor.closed) do
    let cursor ← Run.gets fun w => w.cursor
    let size := if size.getD 0 = 0 then cursor.arraysize else size.getD 0
    let out := cursor.results.take (sliceIndex size cursor.results.length)
    Run.modify fun w =>
      { w with cursor := { w.cursor with
        results := cursor.results.drop (sliceIndex size cursor.results.length) } }
    pure out

/-- `fetchall`. -/
def fetchall : Method (List Row) :=
  checkClosed "Cursor" (fun w => w.cursor.closed) do
    let out ← Run.gets fun w => w.cursor.results
    Run.modify fun w => { w with cursor := { w.cursor with results := [] } }
    pure out

/-- What a list iterator gives from an index on, one `next` after another until there is no such row. -/
def iterateFrom (rows : List Row) : Nat → Nat → List Row
  | 0, _ => []
  | fuel + 1, index =>
    match rows[index]? with
    | some row => row :: iterateFrom rows fuel (index + 1)
    | none => []

/-- `for row in cursor`, to the end of `__iter__`'s iterator: `iter(self._results)`. -/
def iterate : Method (List Row) :=
  checkClosed "Cursor" (fun w => w.cursor.closed) do
    let rows ← Run.gets fun w => w.cursor.results
    pure (iterateFrom rows (rows.length + 1) 0)

/-- Iterating to the end gives every row. -/
theorem iterateFrom_eq (rows : List Row) : ∀ fuel index, rows.length < fuel + index →
    iterateFrom rows fuel index = rows.drop index
  | 0, index, h => (List.drop_eq_nil_of_le (by omega)).symm
  | fuel + 1, index, h => by
    rw [iterateFrom]
    cases hrow : rows[index]? with
    | none => exact (List.drop_eq_nil_of_le (List.getElem?_eq_none_iff.mp hrow)).symm
    | some row =>
      obtain ⟨hlt, hget⟩ := List.getElem?_eq_some_iff.mp hrow
      rw [List.drop_eq_getElem_cons hlt, hget]
      exact congrArg (row :: ·) (iterateFrom_eq rows fuel (index + 1) (by omega))

/-! ## One step -/

/-- What a caller does with the rows of a cursor. -/
inductive FetchOp where
  | one
  | many (size : Option Int)
  | all
  | iterate
  | setArraysize (size : Int)
  deriving DecidableEq

namespace FetchOp

/-- The rows a step hands out. -/
def run : FetchOp → Method (List Row)
  | one => do
    let row ← fetchone
    pure row.toList
  | many size => fetchmany size
  | all => fetchall
  | iterate => FlightSql.iterate
  | setArraysize size => do
    Run.modify fun w => { w with cursor := { w.cursor with arraysize := size } }
    pure []

/-- The rows a caller has of a step: none of one that raised. -/
def rows (op : FetchOp) (w : World) : List Row := (op.run w).1.toOption.getD []

/-- A step on a closed cursor hands out nothing and leaves the rows. -/
theorem run_closed {w : World} (h : w.cursor.closed = true) (op : FetchOp) :
    op.rows w = [] ∧ (op.run w).2.cursor.results = w.cursor.results := by
  cases op with
  | one =>
    have hone : fetchone w = (.error (.error ("Cursor" ++ " already closed")), w) := checkClosed_closed h
    rw [rows, run, Run.bind_error hone]
    exact ⟨rfl, rfl⟩
  | many size => rw [rows, run, fetchmany, checkClosed_closed h]; exact ⟨rfl, rfl⟩
  | all => rw [rows, run, fetchall, checkClosed_closed h]; exact ⟨rfl, rfl⟩
  | iterate => rw [rows, run, FlightSql.iterate, checkClosed_closed h]; exact ⟨rfl, rfl⟩
  | setArraysize size => exact ⟨rfl, rfl⟩

/-- **One step** on an open cursor splits the rows held, unless it is an iteration, which hands out all
    of them and leaves all of them. -/
theorem conserves {w : World} (h : w.cursor.closed = false) (op : FetchOp) :
    op.rows w ++ (op.run w).2.cursor.results =
      (if op = iterate then w.cursor.results else []) ++ w.cursor.results := by
  cases op with
  | one =>
    -- `pop(0)` needs a row, so the two lists are told apart
    rw [rows, run]
    cases hheld : w.cursor.results with
    | nil =>
      have hone : fetchone w = (.ok none, w) := by
        rw [fetchone, checkClosed_open h, popRow, Run.bind_ok (Run.gets_run _ w), hheld]
        rfl
      rw [Run.bind_ok hone]
      exact hheld
    | cons row rest =>
      have hone : fetchone w =
          (.ok (some row), { w with cursor := { w.cursor with results := rest } }) := by
        rw [fetchone, checkClosed_open h, popRow, Run.bind_ok (Run.gets_run _ w), hheld]
        rfl
      rw [Run.bind_ok hone]
      rfl
  | many size =>
    rw [rows, run, fetchmany, checkClosed_open h]
    -- both slices are cut at one index, whatever size asked for it
    exact List.take_append_drop _ _
  | all =>
    rw [rows, run, fetchall, checkClosed_open h]
    exact List.append_nil _
  | iterate =>
    rw [rows, run, FlightSql.iterate, checkClosed_open h, if_pos rfl]
    show iterateFrom w.cursor.results (w.cursor.results.length + 1) 0 ++ w.cursor.results = _
    rw [iterateFrom_eq _ _ _ (by omega), List.drop_zero]
  | setArraysize size => rfl

end FetchOp

/-! ## A run -/

/-- A sequence of steps: the rows handed out over all of it, and where it ends. -/
def fetchRun : List FetchOp → World → List Row × World
  | [], w => ([], w)
  | op :: ops, w =>
    (op.rows w ++ (fetchRun ops (op.run w).2).1, (fetchRun ops (op.run w).2).2)

/-- Every iteration finds no rows, or a closed cursor. -/
def IterationsEmpty : List FetchOp → World → Prop
  | [], _ => True
  | op :: ops, w =>
    (op = .iterate → w.cursor.closed = true ∨ w.cursor.results = []) ∧ IterationsEmpty ops (op.run w).2

/-- A step that is no iteration over rows conserves them. -/
theorem FetchOp.conserves_of_empty {op : FetchOp} {w : World}
    (h : op = .iterate → w.cursor.closed = true ∨ w.cursor.results = []) :
    op.rows w ++ (op.run w).2.cursor.results = w.cursor.results := by
  cases hclosed : w.cursor.closed with
  | true =>
    obtain ⟨hrows, hheld⟩ := FetchOp.run_closed hclosed op
    rw [hrows, hheld, List.nil_append]
  | false =>
    rw [FetchOp.conserves hclosed]
    by_cases hop : op = .iterate
    · rw [if_pos hop]
      rcases h hop with hyes | hnil
      · rw [hclosed] at hyes
        cases hyes
      · rw [hnil, List.append_nil]
    · rw [if_neg hop, List.nil_append]

/-- A step hands out and leaves no fewer rows than were held, and more if it iterates over some. -/
theorem FetchOp.length_step (op : FetchOp) (w : World) :
    w.cursor.results.length ≤ (op.rows w).length + (op.run w).2.cursor.results.length ∧
      (¬(op = .iterate → w.cursor.closed = true ∨ w.cursor.results = []) →
        w.cursor.results.length < (op.rows w).length + (op.run w).2.cursor.results.length) := by
  by_cases hempty : op = .iterate → w.cursor.closed = true ∨ w.cursor.results = []
  · have hlength := congrArg List.length (FetchOp.conserves_of_empty hempty)
    rw [List.length_append] at hlength
    exact ⟨Nat.le_of_eq hlength.symm, fun hnot => absurd hempty hnot⟩
  · -- an iteration over rows: they are counted twice
    obtain ⟨hop, hnot⟩ := Classical.not_imp.mp hempty
    obtain ⟨hopen, hheld⟩ := not_or.mp hnot
    have hlength := congrArg List.length
      (FetchOp.conserves ((Bool.eq_false_or_eq_true _).resolve_left hopen) op)
    rw [if_pos hop, List.length_append, List.length_append] at hlength
    have hpos : 0 < w.cursor.results.length := List.length_pos_iff.mpr hheld
    exact ⟨by omega, fun _ => by omega⟩

/-- Over a run no row is lost, and an iteration over rows adds some for good. -/
theorem fetchRun_length (ops : List FetchOp) (w : World) :
    w.cursor.results.length ≤ (fetchRun ops w).1.length + (fetchRun ops w).2.cursor.results.length ∧
      (¬IterationsEmpty ops w → w.cursor.results.length <
        (fetchRun ops w).1.length + (fetchRun ops w).2.cursor.results.length) := by
  induction ops generalizing w with
  | nil => exact ⟨by simp [fetchRun], fun hnot => absurd trivial hnot⟩
  | cons op ops ih =>
    obtain ⟨hstep, hmore⟩ := FetchOp.length_step op w
    obtain ⟨hrest, hmoreRest⟩ := ih (op.run w).2
    -- rows once delivered twice stay so: no later step takes one back
    dsimp only [fetchRun]
    rw [List.length_append]
    refine ⟨by omega, fun hnot => ?_⟩
    by_cases hempty : op = .iterate → w.cursor.closed = true ∨ w.cursor.results = []
    · have := hmoreRest fun hrun => hnot ⟨hempty, hrun⟩
      omega
    · have := hmore hempty
      omega

/-- **Which runs deliver every row exactly once**: those whose iterations find no rows.  In them the rows
    handed out, followed by the rows still held, are the rows held at the start, in order. -/
theorem fetchRun_conserves_iff (ops : List FetchOp) (w : World) :
    (fetchRun ops w).1 ++ (fetchRun ops w).2.cursor.results = w.cursor.results ↔
      IterationsEmpty ops w := by
  constructor
  · intro h
    refine Classical.byContradiction fun hnot => ?_
    have hlength := congrArg List.length h
    rw [List.length_append] at hlength
    have hmore := (fetchRun_length ops w).2 hnot
    omega
  · intro h
    induction ops generalizing w with
    | nil => rfl
    | cons op ops ih =>
      obtain ⟨hempty, hrest⟩ := h
      rw [fetchRun, List.append_assoc, ih _ hrest]
      exact FetchOp.conserves_of_empty hempty

/-- A cursor that holds two rows. -/
def World.holdingTwo (w : World) : World :=
  { w with cursor := ⟨false, 1, none, [[.int 1], [.int 2]]⟩ }

/-- **Iterating to the end and then fetching all rows delivers each of them twice.** -/
theorem fetchRun_iterateThenAll :
    (fetchRun [.iterate, .all] World.initial.holdingTwo).1 ++
        (fetchRun [.iterate, .all] World.initial.holdingTwo).2.cursor.results ≠
      World.initial.holdingTwo.cursor.results := by
  intro h
  have hlength := congrArg List.length h
  cases hlength

/-- A negative size hands out all rows but the last ones, and the rest after. -/
example (w : World) : (fetchRun [.many (some (-1)), .one, .many none] w.holdingTwo).1 =
    [[.int 1], [.int 2]] := rfl

end FlightSql
