/-
  Computations that RETURN OR RAISE over a state that survives the raise — the shape of a method of
  an interpreted, exception-throwing language.

  `Run σ ε α` maps a state to an outcome (a value or an exception) and the state at that moment.
  Beside the monad there are the control structures such a language has:

  * `tryCatch` — handlers, chosen by the exception; `attempt` — the outcome itself as a value;
  * `withExit` — the context manager: the exit runs on every way out, and an exception of its own
    replaces the outcome of the body;
  * `forEach`, `mapEach` — loops over a list.

  Reasoning is in two layers.  The EQUATIONS (`bind_ok`, `bind_error`, …) run a computation on a
  known state.  The TRIPLES (`Triple P m Q E`: from `P`, a return satisfies `Q` and a raise satisfies
  `E`) compose without knowing the state; `Keeps I` is the triple of an invariant that holds on
  every way out, which is what a run that may fail anywhere needs.  `Yields P m x Q` says that from `P`
  the outcome is always `x`.

  Mathlib-free.
-/

set_option linter.unusedVariables false

namespace FlightSql.Lib

/-! ## Outcomes -/

namespace Outcome

variable {ε α β : Type}

/-- A sequence of two outcomes that returns went through a first return. -/
theorem bind_eq_ok {x : Except ε α} {f : α → Except ε β} {b : β} (h : (x >>= f) = .ok b) :
    ∃ a, x = .ok a ∧ f a = .ok b := by
  cases x with
  | ok a => exact ⟨a, rfl, h⟩
  | error e => cases h

theorem bind_eq_ok_iff {x : Except ε α} {f : α → Except ε β} {b : β} :
    x >>= f = .ok b ↔ ∃ a, x = .ok a ∧ f a = .ok b := by
  constructor
  · exact bind_eq_ok
  · rintro ⟨a, rfl, h⟩
    exact h

theorem mapM_cons_eq_ok {f : α → Except ε β} {x : α} {xs : List α} {ys : List β}
    (h : (x :: xs).mapM f = .ok ys) : ∃ y ys', ys = y :: ys' ∧ f x = .ok y ∧ xs.mapM f = .ok ys' := by
  rw [List.mapM_cons] at h
  obtain ⟨y, hy, h⟩ := bind_eq_ok h
  obtain ⟨ys', hys, h⟩ := bind_eq_ok h
  cases h
  exact ⟨y, ys', rfl, hy, hys⟩

/-- A sequence of two outcomes raises in the first or in the second. -/
theorem bind_eq_error {x : Except ε α} {f : α → Except ε β} {e : ε} (h : (x >>= f) = .error e) :
    x = .error e ∨ ∃ a, x = .ok a ∧ f a = .error e := by
  cases x with
  | ok a => exact Or.inr ⟨a, rfl, h⟩
  | error e' =>
    cases h
    exact Or.inl rfl

/-- What is built of an outcome without fail raises when the outcome does. -/
theorem bind_ok_eq_error_iff {x : Except ε α} {f : α → β} {e : ε} :
    (x >>= fun a => .ok (f a)) = .error e ↔ x = .error e := by
  constructor
  · intro h
    rcases bind_eq_error h with h | ⟨a, -, ⟨⟩⟩
    exact h
  · intro h
    rw [h]
    rfl

/-- What a loop that returns has gathered, it has from its elements. -/
theorem mem_of_mapM_eq_ok {f : α → Except ε β} {xs : List α} {ys : List β} (h : xs.mapM f = .ok ys)
    {y : β} (hy : y ∈ ys) : ∃ x ∈ xs, f x = .ok y := by
  induction xs generalizing ys with
  | nil =>
    cases h
    cases hy
  | cons x xs ih =>
    obtain ⟨y', ys', rfl, hx, hxs⟩ := mapM_cons_eq_ok h
    rcases List.mem_cons.mp hy with rfl | hy
    · exact ⟨x, List.mem_cons_self, hx⟩
    · obtain ⟨x', hx', hfx⟩ := ih hxs hy
      exact ⟨x', List.mem_cons_of_mem x hx', hfx⟩

/-- Each element of a loop that returns has its result, at its own place. -/
theorem getElem?_of_mapM_eq_ok {f : α → Except ε β} {xs : List α} {ys : List β}
    (h : xs.mapM f = .ok ys) {k : Nat} {x : α} (hx : xs[k]? = some x) :
    ∃ y, ys[k]? = some y ∧ f x = .ok y := by
  induction xs generalizing ys k with
  | nil => cases hx
  | cons x' xs ih =>
    obtain ⟨y, ys', rfl, hx', hxs⟩ := mapM_cons_eq_ok h
    cases k with
    | zero =>
      cases hx
      exact ⟨y, rfl, hx'⟩
    | succ k => exact ih hxs hx

theorem length_of_mapM_eq_ok {f : α → Except ε β} {xs : List α} {ys : List β}
    (h : xs.mapM f = .ok ys) : ys.length = xs.length := by
  induction xs generalizing ys with
  | nil =>
    cases h
    rfl
  | cons x xs ih =>
    obtain ⟨y, ys', rfl, -, hxs⟩ := mapM_cons_eq_ok h
    rw [List.length_cons, List.length_cons, ih hxs]

/-- A loop whose turns all return is a map. -/
theorem mapM_eq_map {f : α → Except ε β} {g : α → β} {xs : List α} (h : ∀ x ∈ xs, f x = .ok (g x)) :
    xs.mapM f = .ok (xs.map g) := by
  induction xs with
  | nil => rfl
  | cons x xs ih =>
    obtain ⟨hx, hxs⟩ := List.forall_mem_cons.mp h
    rw [List.mapM_cons, hx, ih hxs]
    rfl

/-- A loop all of whose turns return, returns. -/
theorem foldlM_returns {f : β → α → Except ε β} {xs : List α}
    (h : ∀ b, ∀ x ∈ xs, ∃ b', f b x = .ok b') (b : β) : ∃ b', xs.foldlM f b = .ok b' := by
  induction xs generalizing b with
  | nil => exact ⟨b, rfl⟩
  | cons x xs ih =>
    obtain ⟨b', hb⟩ := h b x List.mem_cons_self
    rw [List.foldlM_cons, hb]
    exact ih (fun b y hy => h b y (List.mem_cons_of_mem x hy)) b'

/-- A loop that raises does so at one of its elements. -/
theorem mapM_eq_error {f : α → Except ε β} {xs : List α} {e : ε} (h : xs.mapM f = .error e) :
    ∃ x ∈ xs, f x = .error e := by
  induction xs with
  | nil => cases h
  | cons x xs ih =>
    rw [List.mapM_cons] at h
    rcases bind_eq_error h with hx | ⟨y, hy, h⟩
    · exact ⟨x, List.mem_cons_self, hx⟩
    · rcases bind_eq_error h with hxs | ⟨ys, hys, h⟩
      · obtain ⟨x', hx', hraised⟩ := ih hxs
        exact ⟨x', List.mem_cons_of_mem x hx', hraised⟩
      · cases h

/-- A loop raises what the first of its elements to raise does. -/
theorem mapM_eq_error_iff {f : α → Except ε β} {xs : List α} {e : ε} :
    xs.mapM f = .error e ↔
      ∃ before x after, xs = before ++ x :: after ∧ (∀ y ∈ before, ∃ b, f y = .ok b) ∧ f x = .error e := by
  induction xs with
  | nil => exact ⟨by rintro ⟨⟩, by rintro ⟨before, x, after, h, -⟩; simp at h⟩
  | cons a xs ih =>
    rw [List.mapM_cons]
    constructor
    · intro h
      rcases bind_eq_error h with ha | ⟨b, ha, h⟩
      · exact ⟨[], a, xs, rfl, by simp, ha⟩
      · rcases bind_eq_error h with hxs | ⟨bs, -, h⟩
        · obtain ⟨before, x, after, rfl, hbefore, hx⟩ := ih.mp hxs
          exact ⟨a :: before, x, after, rfl, List.forall_mem_cons.mpr ⟨⟨b, ha⟩, hbefore⟩, hx⟩
        · cases h
    · rintro ⟨before, x, after, hsplit, hbefore, hx⟩
      cases before with
      | nil =>
        obtain ⟨rfl, rfl⟩ := List.cons.inj hsplit
        rw [hx]
        rfl
      | cons a' before =>
        obtain ⟨rfl, hxs⟩ := List.cons.inj hsplit
        obtain ⟨⟨b, ha⟩, hbefore⟩ := List.forall_mem_cons.mp hbefore
        rw [ha, ih.mpr ⟨before, x, after, hxs, hbefore, hx⟩]
        rfl

/-- **Which failures a loop has**: all are of one kind exactly if each element that fails otherwise
    comes after one that fails in that kind. -/
theorem mapM_errors_iff {f : α → Except ε β} {P : ε → Prop} {xs : List α} :
    (∀ e, xs.mapM f = .error e → P e) ↔
      ∀ before x after, xs = before ++ x :: after → (∃ e, f x = .error e ∧ ¬P e) →
        ∃ y ∈ before, ∃ e, f y = .error e ∧ P e := by
  constructor
  · rintro h before x after rfl ⟨e, hx, he⟩
    -- the elements up to `x` do not all return, so a first one of them fails
    cases hfirst : before.mapM f with
    | error e' =>
      obtain ⟨before', y, after', rfl, hbefore', hy⟩ := mapM_eq_error_iff.mp hfirst
      have hraised : ((before' ++ y :: after') ++ x :: after).mapM f = .error e' :=
        mapM_eq_error_iff.mpr ⟨before', y, after' ++ x :: after, by simp, hbefore', hy⟩
      exact ⟨y, by simp, e', hy, h e' hraised⟩
    | ok ys =>
      have hreturn : ∀ y ∈ before, ∃ b, f y = .ok b := by
        intro y hy
        obtain ⟨k, hk⟩ := List.mem_iff_getElem?.mp hy
        obtain ⟨b, -, hb⟩ := getElem?_of_mapM_eq_ok hfirst hk
        exact ⟨b, hb⟩
      exact absurd (h e (mapM_eq_error_iff.mpr ⟨before, x, after, rfl, hreturn, hx⟩)) he
  · intro h e he
    obtain ⟨before, x, after, hsplit, hbefore, hx⟩ := mapM_eq_error_iff.mp he
    refine Classical.byContradiction fun hnot => ?_
    obtain ⟨y, hy, e', hfail, -⟩ := h before x after hsplit ⟨e, hx, hnot⟩
    obtain ⟨b, hb⟩ := hbefore y hy
    rw [hfail] at hb
    cases hb

/-- A loop that returns carries, from its start to its end, whatever each of its turns carries. -/
theorem foldlM_invariant {f : β → α → Except ε β} {I : List α → β → Prop}
    (hstep : ∀ done b x b', I done b → f b x = .ok b' → I (done ++ [x]) b') {done xs : List α}
    {b b' : β} (hI : I done b) (h : xs.foldlM f b = .ok b') : I (done ++ xs) b' := by
  induction xs generalizing done b with
  | nil =>
    cases h
    rw [List.append_nil]
    exact hI
  | cons x xs ih =>
    rw [List.foldlM_cons] at h
    obtain ⟨c, hc, h⟩ := bind_eq_ok h
    have hnext := ih (hstep done b x c hI hc) h
    rw [List.append_assoc, List.singleton_append] at hnext
    exact hnext

/-- **When a loop with an invariant returns**: exactly if every turn does, where the invariant says what
    makes a turn return. -/
theorem foldlM_returns_iff {f : β → α → Except ε β} {I : List α → β → Prop} {P : List α → α → Prop}
    (hstep : ∀ done b x b', I done b → f b x = .ok b' → I (done ++ [x]) b')
    (hturn : ∀ done b x, I done b → ((∃ b', f b x = .ok b') ↔ P done x)) {done xs : List α} {b : β}
    (hI : I done b) :
    (∃ b', xs.foldlM f b = .ok b') ↔ ∀ before x after, xs = before ++ x :: after → P (done ++ before) x := by
  induction xs generalizing done b with
  | nil => exact iff_of_true ⟨b, rfl⟩ fun before x after h => by simp at h
  | cons x xs ih =>
    rw [List.foldlM_cons]
    constructor
    · rintro ⟨b', h⟩ before y after hsplit
      obtain ⟨c, hc, h⟩ := bind_eq_ok h
      cases before with
      | nil =>
        obtain ⟨rfl, -⟩ := List.cons.inj hsplit
        rw [List.append_nil]
        exact (hturn done b x hI).mp ⟨c, hc⟩
      | cons z before =>
        obtain ⟨rfl, htail⟩ := List.cons.inj hsplit
        have hlater := (ih (hstep done b x c hI hc)).mp ⟨b', h⟩ before y after htail
        rwa [List.append_assoc, List.singleton_append] at hlater
    · intro h
      have hfirst := h [] x xs rfl
      rw [List.append_nil] at hfirst
      obtain ⟨c, hc⟩ := (hturn done b x hI).mpr hfirst
      obtain ⟨b', hb'⟩ := (ih (hstep done b x c hI hc)).mpr fun before y after hsplit => by
        have hlater := h (x :: before) y after (by rw [hsplit, List.cons_append])
        rwa [List.append_assoc, List.singleton_append]
      refine ⟨b', ?_⟩
      rw [hc]
      exact hb'

end Outcome

/-- **A computation over `σ`** that returns an `α` or raises an `ε`. -/
def Run (σ ε α : Type) : Type := σ → Except ε α × σ

namespace Run

variable {σ ε α β : Type}

/-! ## The monad and the control structures -/

protected def pure (a : α) : Run σ ε α := fun s => (.ok a, s)

protected def bind (m : Run σ ε α) (f : α → Run σ ε β) : Run σ ε β := fun s =>
  match m s with
  | (.ok a, s') => f a s'
  | (.error e, s') => (.error e, s')

instance : Monad (Run σ ε) where
  pure := Run.pure
  bind := Run.bind

def raise (e : ε) : Run σ ε α := fun s => (.error e, s)

/-- Read the state. -/
def gets (f : σ → α) : Run σ ε α := fun s => (.ok (f s), s)

/-- Change the state. -/
def modify (f : σ → σ) : Run σ ε Unit := fun s => (.ok (), f s)

/-- An outcome computed elsewhere. -/
def ofExcept (x : Except ε α) : Run σ ε α := fun s => (x, s)

/-- Run `m`; an exception goes to the handler, which starts in the state the raise left. -/
def tryCatch (m : Run σ ε α) (handler : ε → Run σ ε α) : Run σ ε α := fun s =>
  match m s with
  | (.ok a, s') => (.ok a, s')
  | (.error e, s') => handler e s'

/-- Run `m` and look at how it ended: an exception becomes a value. -/
def attempt (m : Run σ ε α) : Run σ ε (Except ε α) := fun s => (.ok (m s).1, (m s).2)

/-- Run `m` for its effects. -/
def ignore (m : Run σ ε α) : Run σ ε Unit := fun s => ((m s).1.map fun _ => (), (m s).2)

/-- `with`: the exit runs whichever way the body ends; if it raises, its exception is the outcome. -/
def withExit (m : Run σ ε α) (exit : Run σ ε Unit) : Run σ ε α := fun s =>
  match exit (m s).2 with
  | (.ok _, s') => ((m s).1, s')
  | (.error e, s') => (.error e, s')

/-- `for x in xs: f(x)`. -/
def forEach (f : α → Run σ ε Unit) : List α → Run σ ε Unit
  | [] => Run.pure ()
  | x :: xs => do
    f x
    forEach f xs

/-- `[f(x) for x in xs]`. -/
def mapEach (f : α → Run σ ε β) : List α → Run σ ε (List β)
  | [] => Run.pure []
  | x :: xs => do
    let y ← f x
    let ys ← mapEach f xs
    pure (y :: ys)

/-! ## Equations -/

section Equations

variable {s s' : σ} {m : Run σ ε α} {f : α → Run σ ε β} {a : α} {e : ε}

@[simp] theorem gets_run (f : σ → α) (s : σ) : (gets f : Run σ ε α) s = (.ok (f s), s) := rfl

theorem bind_ok (h : m s = (.ok a, s')) : (m >>= f) s = f a s' := by
  show Run.bind m f s = f a s'
  rw [Run.bind, h]

theorem bind_error (h : m s = (.error e, s')) : (m >>= f) s = (.error e, s') := by
  show Run.bind m f s = _
  rw [Run.bind, h]

/-- An outcome that is a value goes on with it. -/
theorem ofExcept_ok_bind (a : α) (f : α → Run σ ε β) : ofExcept (.ok a) >>= f = f a := rfl

/-- A sequence that returns went through a first return. -/
theorem bind_eq_ok {b : β} (h : (m >>= f) s = (.ok b, s')) :
    ∃ a s₁, m s = (.ok a, s₁) ∧ f a s₁ = (.ok b, s') := by
  rcases hm : m s with ⟨e | a, s₁⟩
  · rw [bind_error hm] at h
    cases h
  · rw [bind_ok hm] at h
    exact ⟨a, s₁, rfl, h⟩

/-- A sequence that raises did so in its first part, or after it returned. -/
theorem bind_eq_error (h : (m >>= f) s = (.error e, s')) :
    m s = (.error e, s') ∨ ∃ a s₁, m s = (.ok a, s₁) ∧ f a s₁ = (.error e, s') := by
  rcases hm : m s with ⟨e' | a, s₁⟩
  · rw [bind_error hm] at h
    cases h
    exact Or.inl rfl
  · rw [bind_ok hm] at h
    exact Or.inr ⟨a, s₁, rfl, h⟩

/-- Sequencing is associative. -/
theorem bind_assoc {γ : Type} (m : Run σ ε α) (f : α → Run σ ε β) (g : β → Run σ ε γ) :
    m >>= f >>= g = m >>= fun a => f a >>= g := by
  funext s
  show Run.bind (Run.bind m f) g s = Run.bind m (fun a => Run.bind (f a) g) s
  unfold Run.bind
  rcases m s with ⟨r, s'⟩
  cases r <;> rfl

/-- From one state, only what the first computation does there matters. -/
theorem bind_congr {m' : Run σ ε α} (h : m s = m' s) : (m >>= f) s = (m' >>= f) s := by
  show Run.bind m f s = Run.bind m' f s
  rw [Run.bind, Run.bind, h]

theorem tryCatch_ok {handler : ε → Run σ ε α} (h : m s = (.ok a, s')) :
    tryCatch m handler s = (.ok a, s') := by
  rw [tryCatch, h]

theorem tryCatch_error {handler : ε → Run σ ε α} (h : m s = (.error e, s')) :
    tryCatch m handler s = handler e s' := by
  rw [tryCatch, h]

theorem attempt_run (m : Run σ ε α) (s : σ) : attempt m s = (.ok (m s).1, (m s).2) := rfl

theorem ignore_ok (h : m s = (.ok a, s')) : ignore m s = (.ok (), s') := by
  rw [ignore, h]
  rfl

theorem ignore_error (h : m s = (.error e, s')) : ignore m s = (.error e, s') := by
  rw [ignore, h]
  rfl

/-- A loop over one more is a turn after the loop. -/
theorem forEach_snoc {f : α → Run σ ε Unit} {xs : List α} {u : Unit} (h : forEach f xs s = (.ok u, s'))
    (x : α) : forEach f (xs ++ [x]) s = f x s' := by
  induction xs generalizing s with
  | nil =>
    obtain ⟨-, rfl⟩ := Prod.mk.inj h
    show (f x >>= fun _ => Run.pure ()) s = f x s
    rcases hx : f x s with ⟨e | u, s''⟩
    · rw [bind_error hx]
    · rw [bind_ok hx]
      rfl
  | cons y ys ih =>
    obtain ⟨v, s₁, hy, hys⟩ := bind_eq_ok h
    show (f y >>= fun _ => forEach f (ys ++ [x])) s = f x s'
    rw [bind_ok hy]
    exact ih hys

/-- An exit that raises decides the outcome. -/
theorem withExit_raises {exit : Run σ ε Unit} (h : (exit (m s).2).1 = .error e) :
    (withExit m exit s).1 = .error e := by
  rw [withExit]
  rcases hexit : exit (m s).2 with ⟨r, s'⟩
  rw [hexit] at h
  cases h
  rfl

/-- An exit that returns leaves the outcome to the body. -/
theorem withExit_fst {exit : Run σ ε Unit} {u : Unit} (h : (exit (m s).2).1 = .ok u) :
    (withExit m exit s).1 = (m s).1 := by
  rw [withExit]
  rcases hexit : exit (m s).2 with ⟨r, s'⟩
  rw [hexit] at h
  cases h
  rfl

/-- However the body ends, the state afterwards is the exit's. -/
theorem withExit_snd (m : Run σ ε α) (exit : Run σ ε Unit) (s : σ) :
    (withExit m exit s).2 = (exit (m s).2).2 := by
  rw [withExit]
  rcases exit (m s).2 with ⟨r, s'⟩
  cases r <;> rfl

/-- What a computation does to the state, whatever it returns. -/
theorem bind_snd (m : Run σ ε α) (f : α → Run σ ε β) (s : σ) :
    ((m >>= f) s).2 =
      match m s with
      | (.ok a, s') => (f a s').2
      | (.error _, s') => s' := by
  show (Run.bind m f s).2 = _
  rw [Run.bind]
  rcases m s with ⟨r, s'⟩
  cases r <;> rfl

end Equations

/-! ## Triples -/

/-- An outcome meets the postcondition of its kind. -/
def Post (Q : α → σ → Prop) (E : ε → σ → Prop) : Except ε α × σ → Prop
  | (.ok a, s) => Q a s
  | (.error e, s) => E e s

/-- **A Hoare triple**: from a state satisfying `P`, a return satisfies `Q`, a raise `E`. -/
def Triple (P : σ → Prop) (m : Run σ ε α) (Q : α → σ → Prop) (E : ε → σ → Prop) : Prop :=
  ∀ s, P s → Post Q E (m s)

section Triples

variable {P P' : σ → Prop} {Q Q' : α → σ → Prop} {R : β → σ → Prop} {E E' : ε → σ → Prop}
  {m : Run σ ε α}

theorem Triple.pure {a : α} (h : ∀ s, P s → Q a s) : Triple P (pure a : Run σ ε α) Q E :=
  fun s hs => h s hs

theorem Triple.modify {f : σ → σ} {Q : Unit → σ → Prop} (h : ∀ s, P s → Q () (f s)) :
    Triple P (modify f : Run σ ε Unit) Q E :=
  fun s hs => h s hs

theorem Triple.ofExcept {x : Except ε α} (hok : ∀ a s, x = .ok a → P s → Q a s)
    (herror : ∀ e s, x = .error e → P s → E e s) : Triple P (ofExcept x : Run σ ε α) Q E := by
  intro s hs
  cases hx : x with
  | ok a => exact hok a s hx hs
  | error e => exact herror e s hx hs

theorem Triple.bind {f : α → Run σ ε β} (hm : Triple P m Q E) (hf : ∀ a, Triple (Q a) (f a) R E) :
    Triple P (m >>= f) R E := by
  intro s hs
  have h := hm s hs
  show Post R E (Run.bind m f s)
  rw [Run.bind]
  rcases hms : m s with ⟨r, s'⟩
  rw [hms] at h
  cases r with
  | ok a => exact hf a s' h
  | error e => exact h

theorem Triple.conseq (h : Triple P m Q E) (hP : ∀ s, P' s → P s) (hQ : ∀ a s, Q a s → Q' a s)
    (hE : ∀ e s, E e s → E' e s) : Triple P' m Q' E' := by
  intro s hs
  have h := h s (hP s hs)
  rcases hms : m s with ⟨r, s'⟩
  rw [hms] at h
  cases r with
  | ok a => exact hQ a s' h
  | error e => exact hE e s' h

end Triples

/-! ## Invariants that hold on every way out -/

/-- **`m` keeps `I`**, whether it returns or raises. -/
def Keeps (I : σ → Prop) (m : Run σ ε α) : Prop := ∀ s, I s → I (m s).2

namespace Keeps

variable {I : σ → Prop} {m : Run σ ε α}

theorem pure (a : α) : Keeps I (pure a : Run σ ε α) := fun s hs => hs

theorem raise (e : ε) : Keeps I (raise e : Run σ ε α) := fun s hs => hs

theorem gets (f : σ → α) : Keeps I (gets f : Run σ ε α) := fun s hs => hs

theorem ofExcept (x : Except ε α) : Keeps I (ofExcept x : Run σ ε α) := fun s hs => hs

theorem modify {f : σ → σ} (h : ∀ s, I s → I (f s)) : Keeps I (modify f : Run σ ε Unit) :=
  fun s hs => h s hs

/-- From a state after which `m` leaves the invariant true. -/
theorem after {f : α → Run σ ε β} {s : σ} (hm : I (m s).2) (hf : ∀ a, Keeps I (f a)) :
    I ((m >>= f) s).2 := by
  rw [bind_snd]
  rcases hms : m s with ⟨r, s'⟩
  rw [hms] at hm
  cases r with
  | ok a => exact hf a s' hm
  | error e => exact hm

theorem bind {f : α → Run σ ε β} (hm : Keeps I m) (hf : ∀ a, Keeps I (f a)) :
    Keeps I (m >>= f) :=
  fun s hs => after (hm s hs) hf

theorem tryCatch {handler : ε → Run σ ε α} (hm : Keeps I m) (hh : ∀ e, Keeps I (handler e)) :
    Keeps I (tryCatch m handler) := by
  intro s hs
  have h := hm s hs
  rw [Run.tryCatch]
  rcases hms : m s with ⟨r, s'⟩
  rw [hms] at h
  cases r with
  | ok a => exact h
  | error e => exact hh e s' h

theorem attempt (hm : Keeps I m) : Keeps I (attempt m) := fun s hs => hm s hs

theorem withExit {exit : Run σ ε Unit} (hm : Keeps I m) (hexit : Keeps I exit) : Keeps I (withExit m exit) := by
  intro s hs
  rw [withExit_snd]
  exact hexit _ (hm s hs)

theorem forEach {f : α → Run σ ε Unit} (hf : ∀ a, Keeps I (f a)) :
    ∀ xs, Keeps I (forEach f xs)
  | [] => Keeps.pure ()
  | x :: xs => Keeps.bind (hf x) fun _ => forEach hf xs

theorem mapEach {f : α → Run σ ε β} (hf : ∀ a, Keeps I (f a)) :
    ∀ xs, Keeps I (mapEach f xs)
  | [] => Keeps.pure []
  | x :: xs => Keeps.bind (hf x) fun y => Keeps.bind (mapEach hf xs) fun ys => Keeps.pure (y :: ys)

end Keeps

/-! ## One operation after the other -/

/-- The state after some operations, whatever each of them returned or raised. -/
def runAll {ι : Type} (run : ι → Run σ ε α) (ops : List ι) (s : σ) : σ :=
  ops.foldl (fun s op => (run op s).2) s

theorem runAll_append {ι : Type} (run : ι → Run σ ε α) (xs ys : List ι) (s : σ) :
    runAll run (xs ++ ys) s = runAll run ys (runAll run xs s) := List.foldl_append

/-- What every operation keeps, any number of them keep. -/
theorem Keeps.runAll {ι : Type} {I : σ → Prop} {run : ι → Run σ ε α} (h : ∀ op, Keeps I (run op)) :
    ∀ (ops : List ι) (s : σ), I s → I (runAll run ops s)
  | [], s, hs => hs
  | op :: ops, s, hs => Keeps.runAll h ops (run op s).2 (h op s hs)

/-- **Every operation of a list satisfies `P`** in the state it is run in. -/
def AllSteps {ι : Type} (run : ι → Run σ ε α) (P : ι → σ → Prop) (ops : List ι) (s : σ) : Prop :=
  ∀ before op after, ops = before ++ op :: after → P op (runAll run before s)

theorem allSteps_nil {ι : Type} (run : ι → Run σ ε α) (P : ι → σ → Prop) (s : σ) : AllSteps run P [] s := by
  intro before op after hops
  cases before with
  | nil => cases hops
  | cons first rest => cases hops

theorem allSteps_cons {ι : Type} {run : ι → Run σ ε α} {P : ι → σ → Prop} {op : ι} {ops : List ι} {s : σ} :
    AllSteps run P (op :: ops) s ↔ P op s ∧ AllSteps run P ops (run op s).2 := by
  constructor
  · intro h
    refine ⟨h [] op ops rfl, fun before op' after hops => ?_⟩
    exact h (op :: before) op' after (congrArg (op :: ·) hops)
  · rintro ⟨hop, hops⟩ before op' after hsplit
    cases before with
    | nil =>
      cases hsplit
      exact hop
    | cons first rest =>
      cases hsplit
      exact hops rest op' after rfl

/-- Where two properties of a step are the same under an invariant, and a step with them keeps it, they are
    the same of a whole run. -/
theorem allSteps_iff {ι : Type} {run : ι → Run σ ε α} {I : σ → Prop} {P Q : ι → σ → Prop}
    (hiff : ∀ op s, I s → (P op s ↔ Q op s)) (hkeeps : ∀ op s, I s → P op s → I (run op s).2) :
    ∀ (ops : List ι) (s : σ), I s → (AllSteps run P ops s ↔ AllSteps run Q ops s)
  | [], s, hs => iff_of_true (allSteps_nil run P s) (allSteps_nil run Q s)
  | op :: ops, s, hs => by
    rw [allSteps_cons, allSteps_cons, ← hiff op s hs]
    exact and_congr_right fun hop => allSteps_iff hiff hkeeps ops (run op s).2 (hkeeps op s hs hop)

/-! ## Outcomes that are the same wherever a condition holds -/

/-- **`m` yields `x` wherever `P` holds**, and leads to `Q`: as far as its callers can tell, `m` is the
    computation `x`, which has no state. -/
def Yields (P : σ → Prop) (m : Run σ ε α) (x : Except ε α) (Q : σ → Prop) : Prop :=
  ∀ s, P s → (m s).1 = x ∧ Q (m s).2

namespace Yields

variable {P Q : σ → Prop} {m : Run σ ε α} {x : Except ε α}

theorem pure (a : α) : Yields P (pure a : Run σ ε α) (.ok a) P := fun s hs => ⟨rfl, hs⟩

theorem ofExcept (x : Except ε α) : Yields P (ofExcept x : Run σ ε α) x P := fun s hs => ⟨rfl, hs⟩

/-- What comes after the first computation keeps what that leads to. -/
theorem bind {f : α → Run σ ε β} {y : α → Except ε β} (hm : Yields P m x Q)
    (hf : ∀ a, x = .ok a → Yields Q (f a) (y a) Q) : Yields P (m >>= f) (x >>= y) Q := by
  intro s hs
  obtain ⟨hx, hQ⟩ := hm s hs
  rcases hms : m s with ⟨e | a, s'⟩
  · rw [hms] at hx hQ
    rw [bind_error hms, ← hx]
    exact ⟨rfl, hQ⟩
  · rw [hms] at hx hQ
    rw [bind_ok hms, ← hx]
    exact hf a hx.symm s' hQ

theorem ite {p : Prop} [Decidable p] {m' : Run σ ε α} {x' : Except ε α} (hm : p → Yields P m x Q)
    (hm' : ¬p → Yields P m' x' Q) : Yields P (if p then m else m') (if p then x else x') Q := by
  by_cases hp : p
  · rw [if_pos hp, if_pos hp]
    exact hm hp
  · rw [if_neg hp, if_neg hp]
    exact hm' hp

end Yields

end Run

end FlightSql.Lib
