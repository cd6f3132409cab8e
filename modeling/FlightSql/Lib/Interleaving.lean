/-
  INTERLEAVED SCRIPTS — processes that work on one shared state, each request of theirs at one moment.

  A `Script` is what one process still has to do: it is done, or makes a request and goes on with the
  reply.  A `Pool` is a script for each process and the shared state; its `run` follows a list of
  moves, each of one process, so a statement about every list is one about every interleaving, also
  about those in which a process never moves again.

  1. **The logic** (`Discipline`, `wp`) — rely and guarantee: a process relies on what the others may do
     to the state between two of its moves, and makes only requests that are permitted in the state they
     reach.

  2. **Its rules for scripts** — `wp_mono`, `wp_bind`, and for scripts that may fail `wp_bindExcept`,
     `wp_askExcept`, `wp_ofExcept`.

  3. **Its rules for runs** — what each script is left with stays true (`run_wp`), so of a script that is
     done its postcondition holds (`post_of_run`); an invariant that permitted requests keep holds
     (`run_invariant`); a script that makes at most `n` requests is done after `n` moves
     (`run_done`).

  Mathlib-free.
-/

set_option linter.unusedVariables false

namespace FlightSql.Lib

/-! ## Scripts -/

/-- **What a process still has to do.** -/
inductive Script (Req : Type) (Reply : Req → Type) (α : Type) where
  | done (a : α)
  | ask (q : Req) (next : Reply q → Script Req Reply α)

namespace Script

variable {Req : Type} {Reply : Req → Type} {α β : Type}

protected def bind : Script Req Reply α → (α → Script Req Reply β) → Script Req Reply β
  | done a, f => f a
  | ask q next, f => ask q fun r => (next r).bind f

instance : Monad (Script Req Reply) where
  pure := done
  bind := Script.bind

/-- One request; its reply is the result. -/
def request (q : Req) : Script Req Reply (Reply q) := ask q done

/-- At most `n` requests, whatever the replies. -/
inductive AtMost : Nat → Script Req Reply α → Prop where
  | done {n : Nat} (a : α) : AtMost n (done a)
  | ask {n : Nat} {q : Req} {next : Reply q → Script Req Reply α} (h : ∀ r, AtMost n (next r)) :
      AtMost (n + 1) (ask q next)

theorem AtMost.mono {n n' : Nat} {m : Script Req Reply α} (h : AtMost n m) (hle : n ≤ n') :
    AtMost n' m := by
  induction h generalizing n' with
  | done a => exact .done a
  | ask _ ih =>
    obtain ⟨k, rfl⟩ : ∃ k, n' = k + 1 := ⟨n' - 1, by omega⟩
    exact .ask fun r => ih r (by omega)

theorem AtMost.bind {n k : Nat} {m : Script Req Reply α} {f : α → Script Req Reply β}
    (hm : AtMost n m) (hf : ∀ a, AtMost k (f a)) : AtMost (n + k) (m >>= f) := by
  induction hm with
  | done a => exact (hf a).mono (by omega)
  | @ask n q next _ ih =>
    have hnext : AtMost (n + k + 1) (Script.ask q fun r => next r >>= f) := .ask ih
    rwa [show n + 1 + k = n + k + 1 by omega]

theorem AtMost.askExcept {ε : Type} {n : Nat} {q : Req} {f : Reply q → ExceptT ε (Script Req Reply) β}
    (h : ∀ r, AtMost n (f r).run) : AtMost (n + 1) (ExceptT.lift (request q) >>= f).run := .ask h

theorem AtMost.ofExcept {ε : Type} {n : Nat} {x : Except ε α} {f : α → ExceptT ε (Script Req Reply) β}
    (h : ∀ a, AtMost n (f a).run) : AtMost n (ExceptT.mk (pure x) >>= f).run := by
  rcases x with e | a
  · exact .done _
  · exact h a

theorem AtMost.bindExcept {ε : Type} {n k : Nat} {m : ExceptT ε (Script Req Reply) α}
    {f : α → ExceptT ε (Script Req Reply) β} (hm : AtMost n m.run) (hf : ∀ a, AtMost k (f a).run) :
    AtMost (n + k) (m >>= f).run := by
  refine AtMost.bind (m := m.run) (f := ExceptT.bindCont f) hm fun r => ?_
  rcases r with e | a
  · exact .done _
  · exact hf a

end Script

/-! ## Pools and their runs -/

/-- **A script for each process, and the state they share.** -/
structure Pool (ι : Type) (Req : Type) (Reply : Req → Type) (α S : Type) where
  scripts : ι → Script Req Reply α
  state : S

namespace Pool

variable {ι W Req S α : Type} {Reply : Req → Type} [DecidableEq ι]

/-- Process `i` is answered, where `w` is what else decides the answer; a process that is done stays so. -/
def turn (serve : ι → W → (q : Req) → S → Reply q × S) (c : Pool ι Req Reply α S) (move : ι × W) :
    Pool ι Req Reply α S :=
  match c.scripts move.1 with
  | .done _ => c
  | .ask q next =>
    { scripts := fun j => if j = move.1 then next (serve move.1 move.2 q c.state).1 else c.scripts j
      state := (serve move.1 move.2 q c.state).2 }

/-- **The moves, one after the other.** -/
def run (serve : ι → W → (q : Req) → S → Reply q × S) (c : Pool ι Req Reply α S)
    (moves : List (ι × W)) : Pool ι Req Reply α S := moves.foldl (turn serve) c

variable {serve : ι → W → (q : Req) → S → Reply q × S} {c : Pool ι Req Reply α S}

theorem run_append (moves moves' : List (ι × W)) :
    c.run serve (moves ++ moves') = (c.run serve moves).run serve moves' := List.foldl_append

theorem turn_of_done {move : ι × W} {a : α} (h : c.scripts move.1 = .done a) : c.turn serve move = c := by
  rw [turn, h]

theorem turn_of_ask {move : ι × W} {q : Req} {next : Reply q → Script Req Reply α}
    (h : c.scripts move.1 = .ask q next) :
    c.turn serve move =
      { scripts := fun j => if j = move.1 then next (serve move.1 move.2 q c.state).1 else c.scripts j
        state := (serve move.1 move.2 q c.state).2 } := by
  rw [turn, h]

/-- The moves of one process. -/
def movesOf (i : ι) (moves : List (ι × W)) : Nat := moves.countP fun move => move.1 = i

/-- **A script comes to its end**: one that makes at most `n` requests is done after `n` moves. -/
theorem run_done {i : ι} {n : Nat} {moves : List (ι × W)} (h : (c.scripts i).AtMost n)
    (hmoves : n ≤ movesOf i moves) : ∃ a, (c.run serve moves).scripts i = .done a := by
  induction moves generalizing c n with
  | nil =>
    have hn : n = 0 := by simpa [movesOf] using hmoves
    subst hn
    cases hscript : c.scripts i with
    | done a => exact ⟨a, hscript⟩
    | ask q next =>
      rw [hscript] at h
      cases h
  | cons move moves ih =>
    show ∃ a, ((c.turn serve move).run serve moves).scripts i = .done a
    have hcount : movesOf i (move :: moves) = movesOf i moves + if move.1 = i then 1 else 0 := by
      simp [movesOf, List.countP_cons]
    cases hscript : c.scripts move.1 with
    | done a =>
      rw [turn_of_done hscript]
      by_cases hi : move.1 = i
      · rw [hi] at hscript
        rw [hscript] at h
        have hzero : (c.scripts i).AtMost 0 := hscript ▸ .done a
        exact ih hzero (Nat.zero_le _)
      · rw [hcount, if_neg hi] at hmoves
        exact ih h hmoves
    | ask q next =>
      rw [turn_of_ask hscript]
      by_cases hi : move.1 = i
      · -- the process's own move: one request less
        subst hi
        rw [hcount, if_pos rfl] at hmoves
        rw [hscript] at h
        cases h with
        | @ask k _ _ hnext =>
          refine ih (n := k) ?_ (by omega)
          show (if move.1 = move.1 then _ else _ : Script Req Reply α).AtMost k
          rw [if_pos rfl]
          exact hnext _
      · rw [hcount, if_neg hi] at hmoves
        refine ih (n := n) ?_ hmoves
        show (if i = move.1 then _ else c.scripts i : Script Req Reply α).AtMost n
        rw [if_neg (fun heq => hi heq.symm)]
        exact h

end Pool

/-! ## Rely and guarantee -/

/-- **What the processes may do**: what else may decide an answer, which requests are permitted in which
    states, and what a process may rely on while the others move. -/
structure Discipline {ι W Req S : Type} {Reply : Req → Type}
    (serve : ι → W → (q : Req) → S → Reply q × S) where
  Allowed : W → Prop
  Permits : ι → Req → S → Prop
  Rely : ι → S → S → Prop
  refl : ∀ i s, Rely i s s
  trans : ∀ {i s s' s''}, Rely i s s' → Rely i s' s'' → Rely i s s''
  others : ∀ {i j w q s}, j ≠ i → Allowed w → Permits j q s → Rely i s (serve j w q s).2

namespace Discipline

variable {ι W Req S α β ε : Type} {Reply : Req → Type}
  {serve : ι → W → (q : Req) → S → Reply q × S} (d : Discipline serve)

/-- **The weakest precondition of the script of process `i`** among the others: its requests are
    permitted, and when it is done `post` holds and keeps holding. -/
def wp (i : ι) : Script Req Reply α → (α → S → Prop) → S → Prop
  | .done a, post, s => ∀ s', d.Rely i s s' → post a s'
  | .ask q next, post, s => ∀ s', d.Rely i s s' → d.Permits i q s' ∧
      ∀ w, d.Allowed w → wp i (next (serve i w q s').1) post (serve i w q s').2

variable {d} {i : ι} {s s' : S}

/-- What the others do leaves the precondition true. -/
theorem wp_rely {m : Script Req Reply α} {post : α → S → Prop} (h : d.wp i m post s)
    (hs : d.Rely i s s') : d.wp i m post s' := by
  cases m with
  | done a => exact fun s'' hs' => h s'' (d.trans hs hs')
  | ask q next => exact fun s'' hs' => h s'' (d.trans hs hs')

theorem wp_mono {m : Script Req Reply α} {post post' : α → S → Prop} (h : d.wp i m post s)
    (hpost : ∀ a s, post a s → post' a s) : d.wp i m post' s := by
  induction m generalizing s with
  | done a => exact fun s' hs => hpost a s' (h s' hs)
  | ask q next ih => exact fun s' hs => ⟨(h s' hs).1, fun w hw => ih _ ((h s' hs).2 w hw)⟩

/-- A postcondition for each of the two ways a script that may fail ends. -/
def onExcept (ok : α → S → Prop) (error : ε → S → Prop) : Except ε α → S → Prop
  | .ok a => ok a
  | .error e => error e

/-- **Sequence.** -/
theorem wp_bind {m : Script Req Reply α} {f : α → Script Req Reply β} {post : β → S → Prop}
    (h : d.wp i m (fun a s => d.wp i (f a) post s) s) : d.wp i (m >>= f) post s := by
  show d.wp i (Script.bind m f) post s
  induction m generalizing s with
  | done a => exact h s (d.refl i s)
  | ask q next ih => exact fun s' hs => ⟨(h s' hs).1, fun w hw => ih _ ((h s' hs).2 w hw)⟩

/-- **Sequence, where the first script may fail**: then that is the result. -/
theorem wp_bindExcept {m : ExceptT ε (Script Req Reply) α} {f : α → ExceptT ε (Script Req Reply) β}
    {post : Except ε β → S → Prop}
    (h : d.wp i m.run (onExcept (fun a s => d.wp i (f a).run post s) fun e s => post (.error e) s) s) :
    d.wp i (m >>= f).run post s := by
  show d.wp i (Script.bind m.run (ExceptT.bindCont f)) post s
  generalize m.run = script at h
  induction script generalizing s with
  | done r =>
    cases r with
    | ok a => exact h s (d.refl i s)
    | error e => exact h
  | ask q next ih => exact fun s' hs => ⟨(h s' hs).1, fun w hw => ih _ ((h s' hs).2 w hw)⟩

/-- A request first. -/
theorem wp_askExcept {q : Req} {f : Reply q → ExceptT ε (Script Req Reply) β} {post : Except ε β → S → Prop}
    (h : ∀ s', d.Rely i s s' → d.Permits i q s' ∧
      ∀ w, d.Allowed w → d.wp i (f (serve i w q s').1).run post (serve i w q s').2) :
    d.wp i (ExceptT.lift (Script.request q) >>= f).run post s := h

/-- A computation without requests first. -/
theorem wp_ofExcept {x : Except ε α} {f : α → ExceptT ε (Script Req Reply) β} {post : Except ε β → S → Prop}
    (herror : ∀ e, x = .error e → ∀ s', d.Rely i s s' → post (.error e) s')
    (hok : ∀ a, x = .ok a → d.wp i (f a).run post s) :
    d.wp i (ExceptT.mk (pure x) >>= f).run post s := by
  rcases x with e | a
  · exact herror e rfl
  · exact hok a rfl

/-! ## Runs -/

variable [DecidableEq ι] {c : Pool ι Req Reply α S} {post : ι → α → S → Prop} {moves : List (ι × W)}

/-- One move: the process that moves goes on from what it was left with, the others rely on it. -/
theorem turn_wp (h : ∀ i, d.wp i (c.scripts i) (post i) c.state) {move : ι × W} (hw : d.Allowed move.2)
    (i : ι) : d.wp i ((c.turn serve move).scripts i) (post i) (c.turn serve move).state := by
  cases hscript : c.scripts move.1 with
  | done a =>
    rw [Pool.turn_of_done hscript]
    exact h i
  | ask q next =>
    have hown : d.wp move.1 (.ask q next) (post move.1) c.state := hscript ▸ h move.1
    obtain ⟨hpermitted, hnext⟩ := hown c.state (d.refl move.1 c.state)
    rw [Pool.turn_of_ask hscript]
    by_cases hi : i = move.1
    · subst hi
      show d.wp move.1 (if move.1 = move.1 then _ else _) _ _
      rw [if_pos rfl]
      exact hnext move.2 hw
    · show d.wp i (if i = move.1 then _ else c.scripts i) _ _
      rw [if_neg hi]
      exact wp_rely (h i) (d.others (fun heq => hi heq.symm) hw hpermitted)

/-- **Of every process, what it is left with stays true.** -/
theorem run_wp (h : ∀ i, d.wp i (c.scripts i) (post i) c.state) (hw : ∀ move ∈ moves, d.Allowed move.2)
    (i : ι) : d.wp i ((c.run serve moves).scripts i) (post i) (c.run serve moves).state := by
  induction moves generalizing c with
  | nil => exact h i
  | cons move moves ih =>
    obtain ⟨hfirst, hrest⟩ := List.forall_mem_cons.mp hw
    exact ih (turn_wp h hfirst) hrest

/-- **Of a process that is done, its postcondition holds.** -/
theorem post_of_run (h : ∀ i, d.wp i (c.scripts i) (post i) c.state)
    (hw : ∀ move ∈ moves, d.Allowed move.2) {i : ι} {a : α} (hdone : (c.run serve moves).scripts i = .done a) :
    post i a (c.run serve moves).state := by
  have hleft := run_wp h hw i
  rw [hdone] at hleft
  exact hleft _ (d.refl i _)

/-- **An invariant that permitted requests keep holds in the end.** -/
theorem run_invariant {I : S → Prop} (h : ∀ i, d.wp i (c.scripts i) (post i) c.state)
    (hw : ∀ move ∈ moves, d.Allowed move.2)
    (hserve : ∀ i w q s, d.Allowed w → d.Permits i q s → I s → I (serve i w q s).2) (hI : I c.state) :
    I (c.run serve moves).state := by
  induction moves generalizing c with
  | nil => exact hI
  | cons move moves ih =>
    obtain ⟨hfirst, hrest⟩ := List.forall_mem_cons.mp hw
    refine ih (c := c.turn serve move) (turn_wp h hfirst) hrest ?_
    cases hscript : c.scripts move.1 with
    | done a =>
      rw [Pool.turn_of_done hscript]
      exact hI
    | ask q next =>
      have hown : d.wp move.1 (.ask q next) (post move.1) c.state := hscript ▸ h move.1
      have hpermitted := (hown c.state (d.refl move.1 c.state)).1
      rw [Pool.turn_of_ask hscript]
      exact hserve move.1 move.2 q c.state hfirst hpermitted hI

end Discipline

end FlightSql.Lib
