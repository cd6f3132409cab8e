/-
  Runs of metadata calls — the catalog of a connection over any sequence of calls.

  A run is a fold of `Call.run`: a call that raises leaves the world it raised in, and the next one
  goes on from there.  Every call is accounted for by a `CatalogTrace` of its own kind of request
  (`Call.run_traced`), and so is every run (`runCalls_traced`).

  For an attempt whose answers are well formed, being left undecided and having ended in an error
  transient for its probe are the same (`Attempt.settles`); `WellFormed` reads that off the events,
  each DoGet answering the last GetFlightInfo.

  Mathlib-free.
-/
import FlightSql.Reference
import FlightSql.CatalogTrace

set_option linter.unusedVariables false

namespace FlightSql

open Arrow Lib

/-! ## Servers that never change -/

/-- From a server whose answers never change every endpoint is read. -/
theorem fetch_fixed {info : Command → Except Exn FlightInfo} {stream : Ticket → Except Exn Reader}
    {command : Command} (tickets : List Ticket) (tables : List Table)
    (hinfo : info command = .ok (.ofTickets tickets))
    (hstream : tickets.map stream = tables.map fun t => .ok (.ofTable t)) {w : World}
    (hopen : w.clientClosed = false) : (fetch (.fixed info stream) command w).1 = .ok tables := by
  have hread : ∀ w : World, w.clientClosed = false →
      (Run.mapEach (tableFromEndpoint (.fixed info stream)) (tickets.map fun t => ⟨some t⟩) w).1 =
        .ok tables := by
    clear hinfo hopen w
    induction tickets generalizing tables with
    | nil =>
      intro w hopen
      rw [List.map_eq_nil_iff.mp hstream.symm]
      rfl
    | cons ticket tickets ih =>
      intro w hopen
      cases tables with
      | nil => cases hstream
      | cons table tables =>
        obtain ⟨hticket, hrest⟩ := List.cons.inj hstream
        let w₁ : World := w.record (.doGet ticket (.ok (.ofTable table)))
        have hturn : tableFromEndpoint (.fixed info stream) ⟨some ticket⟩ w = (.ok table, w₁) := by
          show (doGet (.fixed info stream) ticket >>= fun reader => Run.ofExcept (readTable reader)) w = _
          rw [Run.bind_ok (doGet_ok hopen hticket)]
          rfl
        have hih := ih tables hrest w₁ hopen
        rw [List.map_cons, Run.mapEach, Run.bind_ok hturn]
        rcases htail : Run.mapEach (tableFromEndpoint (.fixed info stream))
          (tickets.map fun t => ⟨some t⟩) w₁ with ⟨r, w₂⟩
        rw [htail] at hih
        obtain rfl : r = .ok tables := hih
        rw [Run.bind_ok htail]
        rfl
  have hreply : (Server.fixed info stream).getFlightInfo w.log command = .ok (.ofTickets tickets) := hinfo
  rw [fetch, Run.bind_ok (getFlightInfo_ok hopen hreply)]
  exact hread _ hopen

/-! ## Calls -/

/-- **A metadata call**. -/
inductive Call where
  | getSchemaNames
  | getTableNames (schema : Option String)
  | getTableMetadata (schema : Option String)
  | getTableMetadataForTable (tableName : String) (schema : Option String)
  | getColumns (tableName : String) (schema : Option String)

/-- The world a call leaves, whether it returns or raises. -/
def Call.run (rt : Runtime) (srv : Server) (call : Call) (w : World) : World :=
  match call with
  | .getSchemaNames => (flightsqlGetSchemaNames rt srv w).2
  | .getTableNames schema => (flightsqlGetTableNames rt srv schema w).2
  | .getTableMetadata schema => (flightsqlGetTableMetadata rt srv schema w).2
  | .getTableMetadataForTable tableName schema =>
    (flightsqlGetTableMetadataForTable rt srv tableName schema w).2
  | .getColumns tableName schema => (flightsqlGetColumns rt srv tableName schema w).2

/-- The kind of request a call makes for itself. -/
def Call.kind : Call → Metadata
  | .getSchemaNames => .schemas
  | _ => .tables

/-- **A run**: one call after the other. -/
def runCalls (rt : Runtime) (srv : Server) (calls : List Call) (w : World) : World :=
  calls.foldl (fun w call => call.run rt srv w) w

theorem Traced.keeps {α : Type} {rt : Runtime} {own : Option PyValue → Command → Prop} {w₀ : World}
    {m : Method α} (h : ∀ w, Traced rt own w (m w).2) : Run.Keeps (Traced rt own w₀) m :=
  fun w hw => hw.trans (h w)

theorem connectionMethod_keeps {α : Type} {I : World → Prop} {m : Method α} (hm : Run.Keeps I m) :
    Run.Keeps I (connectionMethod m) :=
  checkClosed_keeps (hm.tryCatch fun e => Run.Keeps.raise _)

theorem getTableMetadata_traced (rt : Runtime) (srv : Server) (requestedSchema : Option String)
    (request : TablesRequest) (w : World) :
    Traced rt (Metadata.tables.owns rt) w
      (getTableMetadata rt srv requestedSchema request w).2 := by
  rw [getTableMetadata_eq]
  exact withFallback_traced (fetchTableMetadata_asks rt srv requestedSchema request) w

theorem flightsqlGetTableMetadataForTable_keeps {I : World → Prop} {rt : Runtime} {srv : Server}
    (htables : ∀ requestedSchema request, Run.Keeps I (getTableMetadata rt srv requestedSchema request))
    (tableName : String) (schema : Option String) :
    Run.Keeps I (flightsqlGetTableMetadataForTable rt srv tableName schema) := by
  refine connectionMethod_keeps ((htables _ _).bind fun result => ?_)
  by_cases hnames : result.tableNames ≠ []
  · rw [if_pos hnames]
    exact Run.Keeps.pure _
  · rw [if_neg hnames]
    refine (htables _ _).bind fun names => ?_
    dsimp only
    split <;> exact Run.Keeps.pure _

/-- **What the requests of its kind keep, a call keeps.** -/
theorem Call.run_keeps {I : World → Prop} {rt : Runtime} {srv : Server} (call : Call)
    (hschemas : call.kind = .schemas → Run.Keeps I (scopedSchemaNames rt srv))
    (htables : call.kind = .tables → ∀ requestedSchema request,
      Run.Keeps I (FlightSql.getTableMetadata rt srv requestedSchema request)) {w : World} (hw : I w) :
    I (call.run rt srv w) := by
  cases call with
  | getSchemaNames =>
    refine connectionMethod_keeps ?_ w hw
    exact (hschemas rfl).bind fun names => (Run.Keeps.ofExcept _).bind fun _ => Run.Keeps.pure _
  | getTableNames schema =>
    exact connectionMethod_keeps ((htables rfl _ _).bind fun result => Run.Keeps.pure _) w hw
  | getTableMetadata schema =>
    refine connectionMethod_keeps ((htables rfl _ _).bind fun result => ?_) w hw
    by_cases hempty : result.tableNames = [] ∧ result.noColumns = true
    · rw [if_pos hempty]
      refine (htables rfl _ _).bind fun namesOnly => ?_
      split <;> exact Run.Keeps.pure _
    · rw [if_neg hempty]
      exact Run.Keeps.pure _
  | getTableMetadataForTable tableName schema =>
    exact flightsqlGetTableMetadataForTable_keeps (htables rfl) tableName schema w hw
  | getColumns tableName schema =>
    refine checkClosed_keeps ?_ w hw
    refine (flightsqlGetTableMetadataForTable_keeps (htables rfl) tableName schema).bind fun result => ?_
    cases result.columnsByName <;> exact Run.Keeps.pure _

/-- **One call is accounted for** by a trace of its own kind of request. -/
theorem Call.run_traced (rt : Runtime) (srv : Server) (call : Call) (w : World) :
    Traced rt (call.kind.owns rt) w (call.run rt srv w) := by
  refine call.run_keeps (fun hkind => Traced.keeps fun w => ?_)
    (fun hkind requestedSchema request => Traced.keeps fun w => ?_) (Traced.refl rt _ w)
  · rw [hkind, scopedSchemaNames_eq]
    exact withFallback_traced (schemaNames_asks rt srv) w
  · rw [hkind]
    exact getTableMetadata_traced rt srv requestedSchema request w

/-- **And so is every run**, by induction on the calls. -/
theorem runCalls_traced (rt : Runtime) (srv : Server) (calls : List Call) (w : World) :
    Traced rt (anyOwns rt) w (runCalls rt srv calls w) := by
  induction calls generalizing w with
  | nil => exact Traced.refl rt _ w
  | cons call calls ih =>
    have hone : Traced rt (anyOwns rt) w (call.run rt srv w) :=
      (call.run_traced rt srv w).mono fun _ _ h => ⟨call.kind, h⟩
    exact hone.trans (ih (call.run rt srv w))

/-! ## What a trace says about the decision -/

def Event.isMark : Event → Prop
  | .resolved _ => True
  | _ => False

/-- The decision is written at most once, and stays what was written. -/
def WrittenOnce (evs : List Event) (resolved : Option (Option PyValue)) : Prop :=
  (resolved = none ∧ ∀ e ∈ evs, ¬e.isMark) ∨
    ∃ before c after, evs = before ++ .resolved c :: after ∧ resolved = some c ∧
      (∀ e ∈ before, ¬e.isMark) ∧ ∀ e ∈ after, ¬e.isMark

theorem Unscoped.noMark {evs : List Event} (h : Unscoped evs) : ∀ e ∈ evs, ¬e.isMark := by
  intro e he hmark
  cases e with
  | resolved c => exact h _ he
  | _ => exact hmark

theorem Scoped.noMark {own : Option PyValue → Command → Prop} {c : Option PyValue}
    {evs : List Event} (h : Scoped own c evs) : ∀ e ∈ evs, ¬e.isMark := by
  intro e he hmark
  cases e with
  | resolved c => exact h _ he
  | _ => exact hmark

namespace CatalogTrace

variable {rt : Runtime} {own : Option PyValue → Command → Prop} {a b : Connection}
  {evs : List Event}

theorem catalog_eq (h : CatalogTrace rt own a evs b) : b.catalog = a.catalog := by
  cases h <;> rfl

theorem writtenOnce (h : CatalogTrace rt own a evs b) (hcat : a.catalog = none)
    (hres : a.resolvedCatalog = none) : WrittenOnce evs b.resolvedCatalog := by
  cases h with
  | explicit hcat' _ => cases hcat.symm.trans hcat'
  | resolved _ hres' _ => cases hres.symm.trans hres'
  | undecided _ _ hu => exact Or.inl ⟨hres, hu.noMark⟩
  | decides _ _ hu _ hs => exact Or.inr ⟨_, _, _, rfl, rfl, hu.noMark, hs.noMark⟩

theorem scoped_of_explicit (h : CatalogTrace rt own a evs b) {catalog : String}
    (hcat : a.catalog = some catalog) : Scoped own (some (.str catalog)) evs := by
  cases h with
  | explicit hcat' hs =>
    obtain rfl := Option.some.inj (hcat.symm.trans hcat')
    exact hs
  | resolved hcat' _ _ => cases hcat.symm.trans hcat'
  | undecided hcat' _ _ => cases hcat.symm.trans hcat'
  | decides hcat' _ _ _ _ => cases hcat.symm.trans hcat'

theorem scoped_of_resolved (h : CatalogTrace rt own a evs b) {c : Option PyValue}
    (hcat : a.catalog = none) (hres : a.resolvedCatalog = some c) :
    b.resolvedCatalog = some c ∧ Scoped own c evs := by
  cases h with
  | explicit hcat' _ => cases hcat.symm.trans hcat'
  | resolved _ hres' hs =>
    obtain rfl := Option.some.inj (hres.symm.trans hres')
    exact ⟨hres, hs⟩
  | undecided _ hres' _ => cases hres.symm.trans hres'
  | decides _ hres' _ _ _ => cases hres.symm.trans hres'

end CatalogTrace

/-- A list has one split at its only mark. -/
theorem split_at_mark {before after xs ys : List Event} {c d : Option PyValue}
    (hx : ∀ e ∈ xs, ¬e.isMark) (hy : ∀ e ∈ ys, ¬e.isMark)
    (h : before ++ .resolved c :: after = xs ++ .resolved d :: ys) :
    before = xs ∧ c = d ∧ after = ys := by
  rcases List.append_eq_append_iff.mp h with ⟨as, rfl, htail⟩ | ⟨bs, rfl, htail⟩
  · cases as with
    | nil =>
      injection htail with hmark hafter
      injection hmark with hc
      exact ⟨(List.append_nil _).symm, hc, hafter⟩
    | cons a as =>
      injection htail with hmark _
      exact absurd (hmark ▸ trivial) (hx a (List.mem_append_right _ List.mem_cons_self))
  · cases bs with
    | nil =>
      injection htail with hmark hafter
      injection hmark with hc
      exact ⟨List.append_nil _, hc.symm, hafter.symm⟩
    | cons b bs =>
      injection htail with _ hafter
      have hmem : Event.resolved c ∈ ys := hafter ▸ List.mem_append_right _ List.mem_cons_self
      exact absurd trivial (hy _ hmem)

/-- What is sent after the decision is scoped by it. -/
theorem CatalogTrace.scoped_after {rt : Runtime} {own : Option PyValue → Command → Prop}
    {a b : Connection} {before after : List Event} {c : Option PyValue}
    (h : CatalogTrace rt own a (before ++ .resolved c :: after) b) : Scoped own c after := by
  generalize hevs : before ++ .resolved c :: after = evs at h
  have hmark : Event.resolved c ∈ evs := hevs ▸ List.mem_append_right _ List.mem_cons_self
  cases h with
  | explicit _ hs => exact absurd trivial (hs.noMark _ hmark)
  | resolved _ _ hs => exact absurd trivial (hs.noMark _ hmark)
  | undecided _ _ hu => exact absurd trivial (hu.noMark _ hmark)
  | decides _ _ hu _ hs =>
    obtain ⟨_, rfl, rfl⟩ := split_at_mark hu.noMark hs.noMark hevs
    exact hs

/-! ## Well-formed answers -/

/-- A table that answers `command` has the columns its reader takes, as Python values. -/
def WellFormedTable (rt : Runtime) (command : Option Command) (t : Table) : Prop :=
  ∀ p : Probe, command = some p.command →
    ∃ values, p.column rt t = .ok values ∧ (p = .catalogs → ∀ v ∈ values, v.hashable = true)

/-- A classified error, or endpoints that all have a ticket. -/
def WellFormedInfo : Except Exn FlightInfo → Prop
  | .error e => isProbeError e = true
  | .ok info => ∃ endpoints, info.endpoints = some endpoints ∧
      ∀ endpoint ∈ endpoints, endpoint.ticket ≠ none

/-- A classified error, of the DoGet or of the read, or a well-formed table. -/
def WellFormedRead (rt : Runtime) (command : Option Command) : Except Exn Table → Prop
  | .error e => isProbeError e = true
  | .ok t => WellFormedTable rt command t

/-- **Well-formed answers**, each DoGet answering the last GetFlightInfo. -/
def WellFormed (rt : Runtime) : Option Command → List Event → Prop
  | _, [] => True
  | _, .flightInfo command reply :: evs =>
    WellFormedInfo reply ∧ WellFormed rt (some command) evs
  | command, .doGet _ reply :: evs =>
    WellFormedRead rt command (reply >>= readTable) ∧ WellFormed rt command evs
  | command, _ :: evs => WellFormed rt command evs

/-- A classified error, or well-formed tables. -/
def WellFormedTables (rt : Runtime) (command : Option Command) : Except Exn (List Table) → Prop
  | .error e => isProbeError e = true
  | .ok tables => ∀ t ∈ tables, WellFormedTable rt command t

theorem Streamed.wellFormed {rt : Runtime} {command : Option Command} {endpoints : List Endpoint}
    {evs rest : List Event} {r : Except Exn (List Table)} (h : Streamed endpoints evs r)
    (htickets : ∀ endpoint ∈ endpoints, endpoint.ticket ≠ none)
    (hwf : WellFormed rt command (evs ++ rest)) :
    WellFormedTables rt command r ∧ WellFormed rt command rest := by
  induction h with
  | done =>
    refine ⟨?_, hwf⟩
    intro t ht
    cases ht
  | noTicket hnone => exact absurd hnone (htickets _ List.mem_cons_self)
  | refused _ => exact hwf
  | @unreadable _ _ _ reader _ _ hread =>
    have hstream : WellFormedRead rt command (readTable reader) := hwf.1
    rw [hread] at hstream
    exact ⟨hstream, hwf.2⟩
  | @read _ _ _ reader table _ r _ hread _ ih =>
    obtain ⟨htables, hrest⟩ := ih (fun x hx => htickets x (List.mem_cons_of_mem _ hx)) hwf.2
    have hstream : WellFormedRead rt command (readTable reader) := hwf.1
    rw [hread] at hstream
    refine ⟨?_, hrest⟩
    cases r with
    | error e => exact htables
    | ok tables => exact List.forall_mem_cons.mpr ⟨hstream, htables⟩

/-- A well-formed exchange fails with a classified error only, and gives well-formed tables. -/
theorem Fetched.wellFormed {rt : Runtime} {before : Option Command} {command : Command}
    {evs rest : List Event} {r : Except Exn (List Table)} (h : Fetched command evs r)
    (hwf : WellFormed rt before (evs ++ rest)) :
    WellFormedTables rt (some command) r ∧ WellFormed rt (some command) rest := by
  cases h with
  | refused => exact hwf
  | noEndpoints hnone =>
    obtain ⟨endpoints, hsome, _⟩ := hwf.1
    cases hnone.symm.trans hsome
  | streamed hendpoints hstreamed =>
    obtain ⟨endpoints', hsome, htickets⟩ := hwf.1
    obtain rfl := Option.some.inj (hendpoints.symm.trans hsome)
    exact hstreamed.wellFormed htickets hwf.2

/-! ## What leaves an attempt undecided -/

/-- **Transient for a probe**: unavailable, timed out or cancelled for any; internal or unknown for
    the two metadata probes. -/
def TransientFor (p : Probe) (e : Exn) : Prop :=
  e.cls = .flight .unavailable ∨ e.cls = .flight .timedOut ∨ e.cls = .flight .cancelled ∨
    (p ≠ .settings ∧ (e.cls = .flight .internal ∨ e.cls = .flight .server))

theorem Probe.transient_iff (p : Probe) (e : Exn) : p.transient e = true ↔ TransientFor p e := by
  cases p <;>
    simp [Probe.transient, isTransientProbeError, isTransientMetadataProbeError, TransientFor, or_assoc]

/-- The events end in the failed exchange of a probe, with an error transient for it. -/
def EndedTransient (evs : List Event) : Prop :=
  ∃ before exchange p e, evs = before ++ exchange ∧ Fetched (Probe.command p) exchange (.error e) ∧
    TransientFor p e

theorem EndedTransient.append_left {evs : List Event} (h : EndedTransient evs) (xs : List Event) :
    EndedTransient (xs ++ evs) := by
  obtain ⟨before, exchange, p, e, rfl, hfetched, htransient⟩ := h
  exact ⟨xs ++ before, exchange, p, e, (List.append_assoc _ _ _).symm, hfetched, htransient⟩

/-- A verdict that an attempt with these events may end with. -/
def Settles (evs : List Event) (v : Verdict) : Prop :=
  (∃ c, v = .decided c) ∨ (v = .undecided ∧ EndedTransient evs)

/-- A probe that failed with a classified error settles accordingly. -/
theorem Probe.failed_settles {p : Probe} {e : Exn} {evs : List Event}
    (hfetched : Fetched p.command evs (.error e)) (he : isProbeError e = true) :
    Settles evs (p.failed e) := by
  unfold Probe.failed
  rw [if_pos he]
  by_cases htransient : p.transient e = true
  · rw [if_pos htransient]
    exact Or.inr ⟨rfl, [], evs, p, e, rfl, hfetched, (p.transient_iff e).mp htransient⟩
  · rw [if_neg htransient]
    exact Or.inl ⟨none, rfl⟩

/-- Reading well-formed tables does not fail, and lists hashable catalogs. -/
theorem Probe.read_wellFormed {rt : Runtime} {p : Probe} {tables : List Table}
    (h : ∀ t ∈ tables, WellFormedTable rt (some p.command) t) :
    ∃ values, p.read rt tables = .ok values ∧
      (p = .catalogs → ∀ v ∈ values, v.hashable = true) := by
  have hcolumns : ∃ columns, tables.mapM (p.column rt) = .ok columns ∧
      (p = .catalogs → ∀ v ∈ columns.flatten, v.hashable = true) := by
    induction tables with
    | nil => exact ⟨[], rfl, by simp⟩
    | cons t ts ih =>
      obtain ⟨values, hvalues, hhash⟩ := h t List.mem_cons_self p rfl
      obtain ⟨columns, hcols, hhash'⟩ := ih fun x hx => h x (List.mem_cons_of_mem _ hx)
      refine ⟨values :: columns, ?_, fun hp => ?_⟩
      · rw [List.mapM_cons, hvalues, hcols]
        rfl
      · rw [List.flatten_cons, List.forall_mem_append]
        exact ⟨hhash hp, hhash' hp⟩
  obtain ⟨columns, hcols, hhash⟩ := hcolumns
  refine ⟨p.select columns.flatten, ?_, fun hp v hv => ?_⟩
  · rw [Probe.read, hcols]
    rfl
  · subst hp
    exact hhash rfl v (List.mem_filter.mp hv).1

/-- A failed exchange with a classified error, or values of which catalogs are hashable. -/
def WellFormedOutcome (p : Probe) (evs : List Event) : Except Exn (List PyValue) → Prop
  | .error e => isProbeError e = true ∧ Fetched p.command evs (.error e)
  | .ok values => p = .catalogs → ∀ v ∈ values, v.hashable = true

/-- What a well-formed probe comes to. -/
theorem Probed.wellFormed {rt : Runtime} {before : Option Command} {p : Probe}
    {evs rest : List Event} {r : Except Exn (List PyValue)} (h : Probed rt p evs r)
    (hwf : WellFormed rt before (evs ++ rest)) :
    WellFormedOutcome p evs r ∧ WellFormed rt (some p.command) rest := by
  obtain ⟨tables, hfetched, rfl⟩ := h
  obtain ⟨htables, hrest⟩ := hfetched.wellFormed hwf
  refine ⟨?_, hrest⟩
  cases tables with
  | error e => exact ⟨htables, hfetched⟩
  | ok tables =>
    obtain ⟨values, hread, hhash⟩ := Probe.read_wellFormed htables
    have hresult : ((.ok tables : Except Exn (List Table)) >>= p.read rt) = .ok values := hread
    rw [hresult]
    exact hhash

theorem Chosen.settles {rt : Runtime} {before : Option Command} {catalogs : List PyValue}
    {evs rest : List Event} {v : Verdict} (h : Chosen rt catalogs evs v)
    (hhash : ∀ c ∈ catalogs, c.hashable = true) (hwf : WellFormed rt before (evs ++ rest)) :
    Settles evs v := by
  cases h with
  | unhashable hfail =>
    unfold checkHashable at hfail
    rw [List.find?_eq_none.mpr fun c hc => by simp [hhash c hc]] at hfail
    cases hfail
  | only _ _ => exact Or.inl ⟨_, rfl⟩
  | nothing _ => exact Or.inl ⟨_, rfl⟩
  | byDefault _ _ => exact Or.inl ⟨_, rfl⟩
  | failed _ hprobed =>
    obtain ⟨⟨hclassified, hfetched⟩, _⟩ := hprobed.wellFormed hwf
    exact Probe.failed_settles hfetched hclassified

theorem Settles.append_left {evs : List Event} {v : Verdict} (h : Settles evs v) (xs : List Event) :
    Settles (xs ++ evs) v := by
  rcases h with h | ⟨hv, h⟩
  · exact Or.inl h
  · exact Or.inr ⟨hv, h.append_left xs⟩

theorem Listed.settles {rt : Runtime} {before : Option Command} {evs rest : List Event} {v : Verdict}
    (h : Listed rt evs v) (hwf : WellFormed rt before (evs ++ rest)) : Settles evs v := by
  cases h with
  | failed hprobed =>
    obtain ⟨⟨hclassified, hfetched⟩, _⟩ := hprobed.wellFormed hwf
    exact Probe.failed_settles hfetched hclassified
  | answered hprobed hchosen =>
    rw [List.append_assoc] at hwf
    obtain ⟨hhash, hrest⟩ := hprobed.wellFormed hwf
    exact (hchosen.settles (hhash rfl) hrest).append_left _

/-- **A well-formed attempt decides, or ended in a transient error.** -/
theorem Attempt.settles {rt : Runtime} {before : Option Command} {skip : Bool}
    {evs rest : List Event} {v : Verdict} (h : Attempt rt skip evs v)
    (hwf : WellFormed rt before (evs ++ rest)) : Settles evs v := by
  cases h with
  | skipped hl => exact hl.settles hwf
  | answered _ _ => exact Or.inl ⟨_, rfl⟩
  | failed hprobed _ =>
    obtain ⟨⟨hclassified, hfetched⟩, _⟩ := hprobed.wellFormed hwf
    exact Probe.failed_settles hfetched hclassified
  | silent hs hl =>
    obtain ⟨r, hprobed, _⟩ := hs
    rw [List.append_assoc] at hwf
    exact (hl.settles (hprobed.wellFormed hwf).2).append_left _

theorem Fetched.ne_nil {command : Command} {evs : List Event} {r : Except Exn (List Table)}
    (h : Fetched command evs r) : evs ≠ [] := by
  cases h <;> exact List.cons_ne_nil _ _

/-- Events that end with a decision did not end in an error. -/
theorem not_endedTransient_mark (evs : List Event) (c : Option PyValue) :
    ¬EndedTransient (evs ++ [.resolved c]) := by
  rintro ⟨before, exchange, p, e, hsplit, hfetched, _⟩
  have hlast : exchange.getLast? = some (.resolved c) := by
    have h := congrArg List.getLast? hsplit
    rw [List.getLast?_append, List.getLast?_append] at h
    cases hx : exchange.getLast? with
    | none => exact absurd (List.getLast?_eq_none_iff.mp hx) hfetched.ne_nil
    | some x =>
      rw [hx] at h
      exact h.symm
  exact hfetched.requests _ (List.mem_of_getLast? hlast)

/-- **An attempt leaves the outcome undecided exactly when it ended in an error transient for the
    probe that raised it.** -/
theorem catalogFallback_undecided_iff (rt : Runtime) (srv : Server) (skip : Bool) {w : World}
    (hopen : w.clientClosed = false) (hcatalog : w.connection.catalog = none)
    (hresolved : w.connection.resolvedCatalog = none) :
    ∃ evs, (catalogFallback rt srv skip w).2.log = w.log ++ evs ∧
      (WellFormed rt none evs →
        ((catalogFallback rt srv skip w).2.connection.resolvedCatalog = none ↔
          EndedTransient evs)) := by
  obtain ⟨evs, v, hrun, hattempt⟩ := catalogFallback_attempt rt srv skip hopen hcatalog hresolved
  rw [hrun]
  cases v with
  | decided c =>
    refine ⟨evs ++ [.resolved c], ?_, fun _ => ?_⟩
    · show w.log ++ evs ++ [.resolved c] = _
      exact List.append_assoc _ _ _
    · constructor
      · intro h
        cases h
      · intro h
        exact absurd h (not_endedTransient_mark evs c)
  | undecided =>
    refine ⟨evs, rfl, fun hwf => ?_⟩
    rw [← List.append_nil evs] at hwf
    rcases hattempt.settles hwf with ⟨c, hc⟩ | ⟨_, hended⟩
    · cases hc
    · exact iff_of_true hresolved hended
  | raised e =>
    refine ⟨evs, rfl, fun hwf => ?_⟩
    rw [← List.append_nil evs] at hwf
    rcases hattempt.settles hwf with ⟨c, hc⟩ | ⟨hc, _⟩ <;> cases hc

end FlightSql
