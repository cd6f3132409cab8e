/-
  A STATELESS SERVER — the other kind of service a `Contract` speaks of, and the one the comment in
  `PreparedStatement.execute` of `flightsql/client.py` is about.

  It keeps nothing of a statement: a handle says what it runs (`Codec`).  So equal queries have equal handles,
  a put is answered with the handle of the query with its parameters, the handle that was sent goes on running
  the query without them, a close does nothing, and a ticket is the handle again: the query runs when it is
  read.

  1. **What is answered** (`answerStateless`), and what is executed for it.

  2. **The contract** (`statelessContract`) — a handle runs what it says, whoever sends it.

  3. **An instance** (`numbered`) — handles for given queries with one integer bound, if any.

  Mathlib-free but for what it imports.
-/
import FlightSql.Sessions.SharedServer

set_option linter.unusedVariables false

namespace FlightSql.Sessions

open Arrow Lib Lib.Wire PreparedHandle

/-! ## What is answered -/

/-- **Handles that say what they run.** -/
structure Codec where
  encode : Ran → Option Bytes
  decode : Bytes → Option Ran
  decode_encode : ∀ {ran handle}, encode ran = some handle → decode handle = some ran
  /-- A handle fits into the result of a put. -/
  put_encode : ∀ sent {ran handle}, encode ran = some handle →
    PutAnswer sent (some (encodeResult [] handle [])) handle
  /-- What is raised for bytes that are no handle, and for what has none. -/
  unknown : Exn

section Answer

variable {ι D : Type} (engine : Engine D) (codec : Codec)

/-- The handle of what is to run. -/
def Codec.name (ran : Ran) : Except Exn Bytes :=
  match codec.encode ran with
  | none => .error codec.unknown
  | some handle => .ok handle

/-- What a handle runs. -/
def Codec.resolve (handle : Bytes) : Except Exn Ran :=
  match codec.decode handle with
  | none => .error codec.unknown
  | some ran => .ok ran

/-- One endpoint: its ticket is the handle. -/
def Codec.info (ran : Ran) : Except Exn FlightInfo := do
  let handle ← codec.name ran
  .ok ⟨some [⟨some handle⟩]⟩

/-- The table of a query under a binding, and the database after it. -/
def evaluated (ran : Ran) (d : D) : Except Exn (Table × D) := engine.evaluate ran.1 ran.2 d

/-- **The answer to a request**: only a read changes anything. -/
def answerStateless (_ : ι) : (q : Call) → D → Reply q × D
  | .getFlightInfo (.statementQuery query), d => (codec.info (query, none), d)
  | .getFlightInfo (.preparedStatementQuery handle), d => (codec.resolve handle >>= codec.info, d)
  | .getFlightInfo _, d => (.error codec.unknown, d)
  | .doGet ticket, d =>
    match codec.resolve ticket >>= fun ran => evaluated engine ran d with
    | .error e => (.error e, d)
    | .ok (table, d') => (.ok ⟨some (.ok (.table table))⟩, d')
  | .createPreparedStatement query, d =>
    (do
      let (dataset, parameters) ← engine.prepare query d
      let handle ← codec.name (query, none)
      .ok (some ⟨handle, dataset, parameters⟩), d)
  | .doPut handle batch, d =>
    (do
      let ran ← codec.resolve handle
      let bound ← codec.name (ran.1, some batch)
      .ok (some (encodeResult [] bound [])), d)
  | .closePreparedStatement _, d => (.ok (), d)

/-- What is executed for it. -/
def executesStateless (_ : ι) : Call → D → Option (Ran × Table)
  | .doGet ticket, d =>
    (codec.decode ticket).bind fun ran => (evaluated engine ran d).toOption.map fun out => (ran, out.1)
  | _, _ => none

/-- **The server**, as a service; its state is the database. -/
def stateless : Service ι D := ⟨answerStateless engine codec, executesStateless engine codec⟩

end Answer

/-! ## The contract -/

section Contract

variable {ι D : Type} {engine : Engine D} {codec : Codec}

theorem Codec.decode_of_name {ran : Ran} {handle : Bytes} (h : codec.name ran = .ok handle) :
    codec.encode ran = some handle ∧ codec.decode handle = some ran := by
  rw [Codec.name] at h
  rcases hencode : codec.encode ran with _ | handle'
  · rw [hencode] at h
    cases h
  · rw [hencode] at h
    cases h
    exact ⟨rfl, codec.decode_encode hencode⟩

theorem Codec.resolve_of_decode {ran : Ran} {handle : Bytes} (h : codec.decode handle = some ran) :
    codec.resolve handle = .ok ran := by
  rw [Codec.resolve, h]

/-- The ticket of an info runs what the info is for. -/
theorem Codec.decode_of_info {ran : Ran} {info : FlightInfo} {ticket : Ticket} (h : codec.info ran = .ok info)
    (hticket : firstTicket info = .ok ticket) : codec.decode ticket = some ran := by
  obtain ⟨handle, hname, hinfo⟩ := Outcome.bind_eq_ok h
  cases hinfo
  cases hticket
  exact (codec.decode_of_name hname).2

/-- **What the sessions have of the server**: every handle is as good as any other's. -/
def statelessView (ι D : Type) (codec : Codec) : View ι D where
  Holds _ _ _ := True
  Runs _ handle ran _ := codec.decode handle = some ran
  Serves _ ticket fetch _ := ∃ ran, codec.decode ticket = some ran ∧ fetch = .pending ran
  openOf _ _ := 0

/-- What handles run does not change. -/
theorem statelessView_kept (i : ι) (d d' : D) : (statelessView ι D codec).Kept i d d' := ⟨id, id, id, Nat.le_refl _⟩

/-- The info of a command is for what the command asks. -/
theorem answerStateless_info {i : ι} {ran : Ran} {d : D} {command : Command}
    (h : (statelessView ι D codec).Asks i ran d command) :
    (answerStateless engine codec i (.getFlightInfo command) d).1 = codec.info ran := by
  cases command with
  | statementQuery query => rw [show ran = (query, none) from h, answerStateless]
  | preparedStatementQuery handle =>
    rw [answerStateless, codec.resolve_of_decode h]
    rfl
  | _ => exact h.elim

/-- A read of a ticket: what is executed is what is delivered. -/
theorem answerStateless_doGet (i : ι) (ticket : Ticket) (d : D) :
    (executesStateless engine codec i (.doGet ticket) d = none ∧
      ∃ e, answerStateless engine codec i (.doGet ticket) d = (.error e, d)) ∨
    ∃ ran table d', codec.decode ticket = some ran ∧ engine.evaluate ran.1 ran.2 d = .ok (table, d') ∧
      executesStateless engine codec i (.doGet ticket) d = some (ran, table) ∧
      answerStateless engine codec i (.doGet ticket) d = (.ok ⟨some (.ok (.table table))⟩, d') := by
  rw [executesStateless, answerStateless]
  rcases hdecode : codec.decode ticket with _ | ran
  · have hresolve : codec.resolve ticket = .error codec.unknown := by
      rw [Codec.resolve, hdecode]
    rw [hresolve]
    exact Or.inl ⟨rfl, codec.unknown, rfl⟩
  · rw [codec.resolve_of_decode hdecode]
    show ((evaluated engine ran d).toOption.map _ = none ∧ _) ∨ _
    have hbind : (Except.ok ran >>= fun ran => evaluated engine ran d) = evaluated engine ran d := rfl
    rw [hbind]
    rcases heval : evaluated engine ran d with e | ⟨table, d'⟩
    · exact Or.inl ⟨rfl, e, rfl⟩
    · refine Or.inr ⟨ran, table, d', rfl, heval, ?_, rfl⟩
      show (evaluated engine ran d).toOption.map _ = _
      rw [heval]
      rfl

theorem step_answerStateless (i : ι) (q : Call) (d : D) :
    engine.Step (executesStateless engine codec i q d) d (answerStateless engine codec i q d).2 := by
  cases q with
  | getFlightInfo command => cases command <;> rfl
  | doGet ticket =>
    rcases @answerStateless_doGet ι D engine codec i ticket d with
      ⟨hnone, e, hanswer⟩ | ⟨ran, table, d', -, heval, hsome, hanswer⟩
    · rw [hnone, hanswer]
      rfl
    · rw [hsome, hanswer]
      exact heval
  | createPreparedStatement query => rfl
  | doPut handle batch => rfl
  | closePreparedStatement handle => rfl

/-- **The server keeps the contract.** -/
def statelessContract (ι : Type) (engine : Engine D) (codec : Codec) :
    Contract engine (stateless engine codec : Service ι D) where
  toView := statelessView ι D codec
  database d := d
  holds_of_runs _ := trivial
  step := step_answerStateless
  quiet := by
    intro i q d hq
    cases q with
    | getFlightInfo command => exact absurd trivial hq
    | doGet ticket => exact absurd trivial hq
    | createPreparedStatement query => rfl
    | doPut handle batch => rfl
    | closePreparedStatement handle => rfl
  prepared := by
    intro i query d result hreply
    obtain ⟨⟨dataset, parameters⟩, hprepare, hreply⟩ := Outcome.bind_eq_ok hreply
    obtain ⟨handle, hname, hreply⟩ := Outcome.bind_eq_ok hreply
    cases hreply
    exact ⟨hprepare, (codec.decode_of_name hname).2⟩
  bound := by
    intro i handle batch ran d metadata hruns hreply
    obtain ⟨ran', hresolve, hreply⟩ := Outcome.bind_eq_ok hreply
    obtain ⟨handle', hname, hreply⟩ := Outcome.bind_eq_ok hreply
    cases hreply
    rw [codec.resolve_of_decode hruns] at hresolve
    cases hresolve
    obtain ⟨hencode, hdecode⟩ := codec.decode_of_name hname
    exact ⟨handle', codec.put_encode handle hencode, hdecode⟩
  put_holds _ := trivial
  asked := by
    rintro i ran d command - e ⟨⟩
  info := by
    intro i ran d command info ticket hasks hreply hticket
    have hinfo : codec.info ran = .ok info := (answerStateless_info hasks).symm.trans hreply
    exact ⟨.pending ran, ⟨rfl, rfl⟩, ran, codec.decode_of_info hinfo hticket, rfl⟩
  read := by
    rintro i ticket fetch d ⟨ran, hdecode, rfl⟩
    show (∀ e, executesStateless engine codec i (.doGet ticket) d = some e → e.1 = ran) ∧
      ∀ payload, Delivers (answerStateless engine codec i (.doGet ticket) d).1 payload →
        ∃ table, executesStateless engine codec i (.doGet ticket) d = some (ran, table) ∧ payload = .table table
    rcases @answerStateless_doGet ι D engine codec i ticket d with
      ⟨hnone, e, hanswer⟩ | ⟨ran', table, d', hdecode', heval, hsome, hanswer⟩
    · rw [hnone, hanswer]
      exact ⟨by rintro e ⟨⟩, by rintro payload ⟨reader, ⟨⟩, -⟩⟩
    · have hran : ran' = ran := Option.some.inj (hdecode'.symm.trans hdecode)
      subst hran
      rw [hsome, hanswer]
      refine ⟨?_, ?_⟩
      · rintro e ⟨⟩
        rfl
      · rintro payload ⟨reader, ⟨⟩, ⟨⟩⟩
        exact ⟨table, rfl, rfl⟩
  reusable _ hruns := hruns
  opening _ _ _ := Nat.zero_le _
  closing _ _ := Nat.zero_le _
  others := fun {i j q d} _ _ => statelessView_kept i d _

end Contract

/-! ## An instance -/

/-- One integer, bound to the parameter `id`. -/
def intBatch (n : Nat) : RecordBatch :=
  ⟨⟨[⟨⟨"id", true, []⟩, .scalar .int64⟩], []⟩, [⟨.scalar .int64, .fixed ⟨0, 1, none⟩ [.int n]⟩]⟩

/-- The number of such a batch. -/
def batchNumber : RecordBatch → Option Nat
  | ⟨⟨[⟨info, type⟩], []⟩, [⟨type', .fixed ⟨offset, length, validity⟩ [.int (.ofNat n)]⟩]⟩ =>
    if info = ⟨"id", true, []⟩ ∧ type = .scalar .int64 ∧ type' = .scalar .int64 ∧ offset = 0 ∧ length = 1 ∧
      validity = none then some n else none
  | _ => none

theorem intBatch_of_number {batch : RecordBatch} {n : Nat} (h : batchNumber batch = some n) : intBatch n = batch := by
  unfold batchNumber at h
  split at h
  · split at h
    · rename_i hsame
      obtain ⟨rfl, rfl, rfl, rfl, rfl, rfl⟩ := hsame
      cases h
      rfl
    · cases h
  · cases h

/-- A binding as a number: none, or an integer. -/
def bindingNumber : Option RecordBatch → Option Nat
  | none => some 0
  | some batch => (batchNumber batch).map (· + 1)

def numberBinding : Nat → Option RecordBatch
  | 0 => none
  | n + 1 => some (intBatch n)

theorem numberBinding_of_number {binding : Option RecordBatch} {k : Nat} (h : bindingNumber binding = some k) :
    numberBinding k = binding := by
  rcases binding with _ | batch
  · cases h
    rfl
  · obtain ⟨n, hn, rfl⟩ := Option.map_eq_some_iff.mp h
    exact congrArg some (intBatch_of_number hn)

/-- The handle of one of the queries with a binding. -/
def numberedEncode (queries : List String) (ran : Ran) : Option Bytes :=
  (queries.idxOf? ran.1).bind fun n => (bindingNumber ran.2).bind fun k =>
    if n + k < 2 ^ 32 then some (unaryHandle n k) else none

def numberedDecode (queries : List String) (handle : Bytes) : Option Ran :=
  (unaryLocate handle).bind fun at_ => queries[at_.1]?.map fun query => (query, numberBinding at_.2)

theorem numberedEncode_cases {queries : List String} {ran : Ran} {handle : Bytes}
    (h : numberedEncode queries ran = some handle) : ∃ n k, queries[n]? = some ran.1 ∧ numberBinding k = ran.2 ∧
      n + k < 2 ^ 32 ∧ handle = unaryHandle n k := by
  obtain ⟨n, hn, h⟩ := Option.bind_eq_some_iff.mp h
  obtain ⟨k, hk, h⟩ := Option.bind_eq_some_iff.mp h
  by_cases hfits : n + k < 2 ^ 32
  · rw [if_pos hfits] at h
    cases h
    refine ⟨n, k, ?_, numberBinding_of_number hk, hfits, rfl⟩
    obtain ⟨hlt, hget, -⟩ := List.idxOf?_eq_some_iff.mp hn
    rw [List.getElem?_eq_getElem hlt, hget]
  · rw [if_neg hfits] at h
    cases h

/-- **Handles for given queries.** -/
def numbered (queries : List String) : Codec where
  encode := numberedEncode queries
  decode := numberedDecode queries
  decode_encode := by
    intro ran handle h
    obtain ⟨n, k, hquery, hbinding, -, rfl⟩ := numberedEncode_cases h
    rw [numberedDecode, unaryLocate_handle]
    show queries[n]?.map _ = _
    rw [hquery]
    exact congrArg some (Prod.ext rfl hbinding)
  put_encode := by
    intro sent ran handle h
    obtain ⟨n, k, -, -, hfits, rfl⟩ := numberedEncode_cases h
    exact putAnswer_unaryHandle sent hfits
  unknown := ⟨.flight .unauthenticated, "unknown handle"⟩

end FlightSql.Sessions
