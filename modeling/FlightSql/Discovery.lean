/-
  What a catalog discovery does, as an account of the events it leaves.

  A metadata request is one GetFlightInfo and a DoGet for each endpoint until something fails.
  `Fetched command evs r` says exactly that: the requests and replies of `evs` are those of one such
  exchange, and `r` is what came of it.  On top of it stands the abstract discovery: `Attempt`, with
  its three probes in their order, ending in a `Verdict`.

  `catalogFallback_attempt` is the refinement: from an undecided state the code always makes such an
  attempt and does with the world what the verdict says, and nothing else.

  Mathlib-free.
-/
import FlightSql.Connection

set_option linter.unusedVariables false

namespace FlightSql

open Arrow Lib

/-! ## Worlds that differ in their log -/

/-- The same world some events later. -/
def World.append (w : World) (evs : List Event) : World := { w with log := w.log ++ evs }

theorem World.append_nil (w : World) : w.append [] = w := by
  rw [World.append, List.append_nil]

theorem World.append_append (w : World) (xs ys : List Event) :
    (w.append xs).append ys = w.append (xs ++ ys) := by
  rw [World.append, World.append, World.append, List.append_assoc]

/-- The world after its catalog has been decided. -/
def World.decide (w : World) (catalog : Option PyValue) : World :=
  { w.record (.resolved catalog) with
    connection := { w.connection with resolvedCatalog := some catalog } }

/-! ## One exchange -/

/-- Reading endpoints one after the other: the events, and the tables or the first failure. -/
inductive Streamed : List Endpoint → List Event → Except Exn (List Table) → Prop where
  | done : Streamed [] [] (.ok [])
  | noTicket {endpoint endpoints} : endpoint.ticket = none →
      Streamed (endpoint :: endpoints) []
        (.error (.dataError "Flight SQL metadata endpoint is missing its ticket"))
  | refused {endpoint endpoints ticket e} : endpoint.ticket = some ticket →
      Streamed (endpoint :: endpoints) [.doGet ticket (.error e)] (.error e)
  | unreadable {endpoint endpoints ticket reader e} : endpoint.ticket = some ticket →
      readTable reader = .error e →
      Streamed (endpoint :: endpoints) [.doGet ticket (.ok reader)] (.error e)
  | read {endpoint endpoints ticket reader table evs r} : endpoint.ticket = some ticket →
      readTable reader = .ok table → Streamed endpoints evs r →
      Streamed (endpoint :: endpoints) (.doGet ticket (.ok reader) :: evs) (r.map (table :: ·))

/-- **One exchange** for `command`: the events, and the tables or the failure. -/
inductive Fetched (command : Command) : List Event → Except Exn (List Table) → Prop where
  | refused {e} : Fetched command [.flightInfo command (.error e)] (.error e)
  | noEndpoints {info} : info.endpoints = none →
      Fetched command [.flightInfo command (.ok info)]
        (.error (.dataError "Flight SQL metadata response has no iterable endpoints"))
  | streamed {info endpoints evs r} : info.endpoints = some endpoints →
      Streamed endpoints evs r → Fetched command (.flightInfo command (.ok info) :: evs) r

/-- A GetFlightInfo for a command satisfying `p`, or a DoGet. -/
def Event.isRequest (p : Command → Prop) : Event → Prop
  | .flightInfo command _ => p command
  | .doGet _ _ => True
  | _ => False

theorem Streamed.requests {p : Command → Prop} {endpoints : List Endpoint} {evs : List Event}
    {r : Except Exn (List Table)} (h : Streamed endpoints evs r) : ∀ e ∈ evs, e.isRequest p := by
  induction h with
  | done => simp
  | noTicket => simp
  | refused => simp [Event.isRequest]
  | unreadable => simp [Event.isRequest]
  | read _ _ _ ih =>
    rw [List.forall_mem_cons]
    exact ⟨trivial, ih⟩

/-- The exchange for a command sends that command and no other. -/
theorem Fetched.requests {command : Command} {evs : List Event} {r : Except Exn (List Table)}
    (h : Fetched command evs r) : ∀ e ∈ evs, e.isRequest (· = command) := by
  cases h with
  | refused => simp [Event.isRequest]
  | noEndpoints => simp [Event.isRequest]
  | streamed _ hs =>
    rw [List.forall_mem_cons]
    exact ⟨rfl, hs.requests⟩

/-- One GetFlightInfo, then every endpoint. -/
def fetch (srv : Server) (command : Command) : Method (List Table) := do
  let info ← getFlightInfo srv command
  tablesFromInfo srv info

theorem mapEach_streamed (srv : Server) (endpoints : List Endpoint) {w : World}
    (hopen : w.clientClosed = false) :
    ∃ evs r, Run.mapEach (tableFromEndpoint srv) endpoints w = (r, w.append evs) ∧
      Streamed endpoints evs r := by
  induction endpoints generalizing w with
  | nil => exact ⟨[], .ok [], by rw [World.append_nil]; rfl, .done⟩
  | cons endpoint endpoints ih =>
    rw [Run.mapEach]
    cases hticket : endpoint.ticket with
    | none =>
      refine ⟨[], _, ?_, .noTicket hticket⟩
      rw [World.append_nil]
      refine Run.bind_error ?_
      rw [tableFromEndpoint, hticket]
      rfl
    | some ticket =>
      have hturn : tableFromEndpoint srv endpoint w =
          (doGet srv ticket >>= fun reader => Run.ofExcept (readTable reader)) w := by
        rw [tableFromEndpoint, hticket]
      -- the turn ends with the reply, with the reader's table, or goes on to the rest
      cases hreply : srv.doGet w.log ticket with
      | error e =>
        refine ⟨[.doGet ticket (.error e)], .error e, Run.bind_error ?_, .refused hticket⟩
        rw [hturn]
        refine Run.bind_error ?_
        rw [doGet, checkClosed_open hopen, rpc_error hreply]
        rfl
      | ok reader =>
        have hone : tableFromEndpoint srv endpoint w =
            (readTable reader, w.append [.doGet ticket (.ok reader)]) := by
          rw [hturn, Run.bind_ok (doGet_ok hopen hreply)]
          rfl
        cases htable : readTable reader with
        | error e =>
          rw [htable] at hone
          exact ⟨[.doGet ticket (.ok reader)], .error e, Run.bind_error hone,
            .unreadable hticket htable⟩
        | ok table =>
          rw [htable] at hone
          obtain ⟨evs, r, hrun, hstreamed⟩ :=
            ih (w := w.append [.doGet ticket (.ok reader)]) hopen
          refine ⟨.doGet ticket (.ok reader) :: evs, r.map (table :: ·), ?_,
            .read hticket htable hstreamed⟩
          rw [Run.bind_ok hone]
          rw [World.append_append] at hrun
          cases r with
          | error e => exact Run.bind_error hrun
          | ok tables => exact Run.bind_ok hrun

/-- **Fetching is one exchange** and changes nothing but the log. -/
theorem fetch_fetched (srv : Server) (command : Command) {w : World}
    (hopen : w.clientClosed = false) :
    ∃ evs r, fetch srv command w = (r, w.append evs) ∧ Fetched command evs r := by
  cases hreply : srv.getFlightInfo w.log command with
  | error e =>
    refine ⟨[.flightInfo command (.error e)], .error e, Run.bind_error ?_, .refused⟩
    rw [getFlightInfo, checkClosed_open hopen, rpc_error hreply]
    rfl
  | ok info =>
    rw [fetch, Run.bind_ok (getFlightInfo_ok hopen hreply)]
    unfold tablesFromInfo
    cases hendpoints : info.endpoints with
    | none => exact ⟨[.flightInfo command (.ok info)], _, rfl, .noEndpoints hendpoints⟩
    | some endpoints =>
      obtain ⟨evs, r, hrun, hstreamed⟩ :=
        mapEach_streamed srv endpoints (w := w.append [.flightInfo command (.ok info)]) hopen
      rw [World.append_append] at hrun
      exact ⟨_, r, hrun, .streamed hendpoints hstreamed⟩

/-- A closed client sends nothing. -/
theorem fetch_closed (srv : Server) (command : Command) {w : World}
    (hclosed : w.clientClosed = true) :
    fetch srv command w = (.error (.error "FlightSQLClient already closed"), w) :=
  Run.bind_error (by rw [getFlightInfo, checkClosed_closed hclosed]; rfl)

/-! ## The three probes -/

/-- **The advisory probes**. -/
inductive Probe where
  | schemas | catalogs | settings
  deriving DecidableEq

/-- What a probe sends. -/
def Probe.command : Probe → Command
  | .schemas => .getDbSchemas none none
  | .catalogs => .getCatalogs
  | .settings => .statementQuery settingsQuery

/-- What one table of the answer contributes. -/
def Probe.column (rt : Runtime) : Probe → Table → Except Exn (List PyValue)
  | .schemas => namesColumn rt "db_schema_name"
  | .catalogs => namesColumn rt "catalog_name"
  | .settings => settingsValues rt

/-- Of the values read, the ones that count. -/
def Probe.select : Probe → List PyValue → List PyValue
  | .catalogs => List.filter PyValue.truthy
  | _ => id

/-- The values a probe reads out of the tables of its answer. -/
def Probe.read (rt : Runtime) (p : Probe) (tables : List Table) : Except Exn (List PyValue) := do
  let columns ← tables.mapM (p.column rt)
  .ok (p.select columns.flatten)

/-- **A probe and what it found**, as events. -/
def Probed (rt : Runtime) (p : Probe) (evs : List Event) (r : Except Exn (List PyValue)) : Prop :=
  ∃ tables, Fetched p.command evs tables ∧ r = tables >>= p.read rt

/-- Sending a probe. -/
def probe (rt : Runtime) (srv : Server) (p : Probe) : Method (List PyValue) := do
  let tables ← fetch srv p.command
  Run.ofExcept (p.read rt tables)

theorem probe_probed (rt : Runtime) (srv : Server) (p : Probe) {w : World}
    (hopen : w.clientClosed = false) :
    ∃ evs r, probe rt srv p w = (r, w.append evs) ∧ Probed rt p evs r := by
  obtain ⟨evs, tables, hrun, hfetched⟩ := fetch_fetched srv p.command hopen
  refine ⟨evs, tables >>= p.read rt, ?_, tables, hfetched, rfl⟩
  cases tables with
  | error e => exact Run.bind_error hrun
  | ok tables => exact Run.bind_ok hrun

/-- A probe as the code writes it: the answer, its tables, their columns. -/
theorem probe_eq (rt : Runtime) (srv : Server) (p : Probe) :
    (do
      let info ← getFlightInfo srv p.command
      let tables ← tablesFromInfo srv info
      let columns ← Run.ofExcept (tables.mapM (p.column rt))
      pure (p.select columns.flatten) : Method (List PyValue)) = probe rt srv p := by
  rw [probe, fetch, Run.bind_assoc]
  congr 1
  funext info
  congr 1
  funext tables w
  rw [Probe.read]
  cases tables.mapM (p.column rt) <;> rfl

theorem schemaNames_none (rt : Runtime) (srv : Server) :
    schemaNames rt srv none = probe rt srv .schemas := probe_eq rt srv .schemas

theorem catalogNames_eq (rt : Runtime) (srv : Server) :
    catalogNames rt srv = probe rt srv .catalogs := probe_eq rt srv .catalogs

theorem settings_eq (rt : Runtime) (srv : Server) : settings rt srv = probe rt srv .settings :=
  probe_eq rt srv .settings

/-! ## The attempt -/

/-- **How an attempt ends**: with a decision, without one, or in an exception. -/
inductive Verdict where
  | decided (catalog : Option PyValue)
  | undecided
  | raised (e : Exn)

/-- What a verdict does to the world, and what `_catalog_fallback` returns. -/
def Verdict.apply : Verdict → World → Except Exn Bool × World
  | .decided catalog, w => (.ok catalog.isSome, w.decide catalog)
  | .undecided, w => (.ok false, w)
  | .raised e, w => (.error e, w)

/-- The errors a probe may fail with. -/
def isProbeError (e : Exn) : Bool := isNotImplemented e || isFlightOrInvalid e

/-- The errors of a probe that leave the outcome undecided. -/
def Probe.transient : Probe → Exn → Bool
  | .settings => isTransientProbeError
  | _ => isTransientMetadataProbeError

/-- The verdict on a probe that failed. -/
def Probe.failed (p : Probe) (e : Exn) : Verdict :=
  if isProbeError e then if p.transient e then .undecided else .decided none
  else .raised e

/-- From the listed catalogs on. -/
inductive Chosen (rt : Runtime) (catalogs : List PyValue) : List Event → Verdict → Prop where
  | unhashable {e} : checkHashable catalogs = .error e → Chosen rt catalogs [] (.raised e)
  | only : checkHashable catalogs = .ok () → (fromKeys catalogs).length = 1 →
      Chosen rt catalogs [] (.decided catalogs.head?)
  | nothing : catalogs = [] → Chosen rt catalogs [] (.decided none)
  | byDefault {evs values} : 1 < (fromKeys catalogs).length → Probed rt .settings evs (.ok values) →
      Chosen rt catalogs evs (.decided (listedDefault catalogs values))
  | failed {evs e} : 1 < (fromKeys catalogs).length → Probed rt .settings evs (.error e) →
      Chosen rt catalogs evs (Probe.settings.failed e)

/-- From GetCatalogs on. -/
inductive Listed (rt : Runtime) : List Event → Verdict → Prop where
  | failed {evs e} : Probed rt .catalogs evs (.error e) → Listed rt evs (Probe.catalogs.failed e)
  | answered {evs evs' catalogs v} : Probed rt .catalogs evs (.ok catalogs) →
      Chosen rt catalogs evs' v → Listed rt (evs ++ evs') v

/-- The unscoped GetDbSchemas answered no names, or is not implemented. -/
def SilentSchemas (rt : Runtime) (evs : List Event) : Prop :=
  ∃ r, Probed rt .schemas evs r ∧ (r = .ok [] ∨ ∃ e, r = .error e ∧ isNotImplemented e = true)

/-- **A discovery attempt**: with its GetDbSchemas probe, or, when the caller has just asked the same,
    from GetCatalogs on. -/
inductive Attempt (rt : Runtime) : Bool → List Event → Verdict → Prop where
  | skipped {evs v} : Listed rt evs v → Attempt rt true evs v
  | answered {evs names} : Probed rt .schemas evs (.ok names) → names ≠ [] →
      Attempt rt false evs (.decided none)
  | failed {evs e} : Probed rt .schemas evs (.error e) → isNotImplemented e = false →
      Attempt rt false evs (Probe.schemas.failed e)
  | silent {evs evs' v} : SilentSchemas rt evs → Listed rt evs' v → Attempt rt false (evs ++ evs') v

/-! ## The code makes such attempts -/

/-- What the code does with a failed probe. -/
theorem probeFailed_run (p : Probe) (e : Exn) (w : World) :
    (if isNotImplemented e || isFlightOrInvalid e then catalogProbeFailed e p.transient
      else Run.raise e : Method Bool) w = (p.failed e).apply w := by
  unfold Probe.failed isProbeError
  by_cases hprobe : (isNotImplemented e || isFlightOrInvalid e) = true
  · rw [if_pos hprobe, if_pos hprobe, catalogProbeFailed]
    by_cases htransient : p.transient e = true
    · rw [if_pos htransient, if_pos htransient]
      rfl
    · rw [if_neg htransient, if_neg htransient]
      rfl
  · rw [if_neg hprobe, if_neg hprobe]
    rfl

theorem chooseCatalog_chosen (rt : Runtime) (srv : Server) (catalogs : List PyValue) {w : World}
    (hopen : w.clientClosed = false) :
    ∃ evs v, chooseCatalog rt srv catalogs w = v.apply (w.append evs) ∧ Chosen rt catalogs evs v := by
  unfold chooseCatalog
  cases hhash : checkHashable catalogs with
  | error e =>
    refine ⟨[], .raised e, ?_, .unhashable hhash⟩
    rw [World.append_nil]
    rfl
  | ok u =>
    show ∃ evs v, (if (fromKeys catalogs).length = 1 then _ else _ : Method Bool) w = _ ∧ _
    by_cases hone : (fromKeys catalogs).length = 1
    · refine ⟨[], _, ?_, .only hhash hone⟩
      rw [if_pos hone, World.append_nil]
      rfl
    · rw [if_neg hone]
      by_cases hnil : catalogs = []
      · refine ⟨[], _, ?_, .nothing hnil⟩
        rw [if_pos hnil, World.append_nil]
        rfl
      · -- several catalogs: the settings query decides
        have hmany : 1 < (fromKeys catalogs).length := by
          have hpos : (fromKeys catalogs).length ≠ 0 := fun h =>
            hnil (fromKeys_eq_nil.mp (List.eq_nil_of_length_eq_zero h))
          omega
        rw [if_neg hnil]
        obtain ⟨evs, r, hrun, hprobed⟩ := probe_probed rt srv .settings hopen
        rw [← settings_eq] at hrun
        cases r with
        | ok values =>
          refine ⟨evs, _, ?_, .byDefault hmany hprobed⟩
          rw [Run.bind_ok (Run.attempt_run _ w), defaultCatalog, Run.bind_ok hrun]
          rfl
        | error e =>
          refine ⟨evs, _, ?_, .failed hmany hprobed⟩
          rw [Run.bind_ok (Run.attempt_run _ w), defaultCatalog, Run.bind_error hrun]
          exact probeFailed_run .settings e _

theorem probeCatalogs_listed (rt : Runtime) (srv : Server) {w : World}
    (hopen : w.clientClosed = false) :
    ∃ evs v, probeCatalogs rt srv w = v.apply (w.append evs) ∧ Listed rt evs v := by
  obtain ⟨evs, r, hrun, hprobed⟩ := probe_probed rt srv .catalogs hopen
  rw [← catalogNames_eq] at hrun
  rw [probeCatalogs, Run.bind_ok (Run.attempt_run _ w), hrun]
  cases r with
  | error e => exact ⟨evs, _, probeFailed_run .catalogs e _, .failed hprobed⟩
  | ok catalogs =>
    obtain ⟨evs', v, hchoose, hchosen⟩ := chooseCatalog_chosen rt srv catalogs (w := w.append evs) hopen
    rw [World.append_append] at hchoose
    exact ⟨evs ++ evs', v, hchoose, .answered hprobed hchosen⟩

theorem probeSchemas_attempt (rt : Runtime) (srv : Server) {w : World}
    (hopen : w.clientClosed = false) :
    ∃ evs v, probeSchemas rt srv w = v.apply (w.append evs) ∧ Attempt rt false evs v := by
  obtain ⟨evs, r, hrun, hprobed⟩ := probe_probed rt srv .schemas hopen
  rw [← schemaNames_none] at hrun
  rw [probeSchemas, Run.bind_ok (Run.attempt_run _ w), hrun]
  obtain ⟨evs', v, hlist, hlisted⟩ := probeCatalogs_listed rt srv (w := w.append evs) hopen
  rw [World.append_append] at hlist
  cases r with
  | ok names =>
    by_cases hnil : names = []
    · refine ⟨evs ++ evs', v, ?_, .silent ⟨_, hprobed, Or.inl (by rw [hnil])⟩ hlisted⟩
      rw [← hlist, hnil]
      rfl
    · refine ⟨evs, _, ?_, .answered hprobed hnil⟩
      show (if names = [] then _ else _ : Method Bool) (w.append evs) = _
      rw [if_neg hnil]
      rfl
  | error e =>
    by_cases hni : isNotImplemented e = true
    · refine ⟨evs ++ evs', v, ?_, .silent ⟨_, hprobed, Or.inr ⟨e, rfl, hni⟩⟩ hlisted⟩
      show (if isNotImplemented e = true then _ else _ : Method Bool) (w.append evs) = _
      rw [if_pos hni, hlist]
    · have hni : isNotImplemented e = false := Bool.eq_false_iff.mpr hni
      refine ⟨evs, _, ?_, .failed hprobed hni⟩
      rw [← probeFailed_run .schemas e (w.append evs)]
      show (if isNotImplemented e = true then _ else _ : Method Bool) (w.append evs) = _
      rw [hni]
      rfl

/-- From an undecided connection the fallback starts with a probe. -/
theorem catalogFallback_start (rt : Runtime) (srv : Server) (skip : Bool) {w : World}
    (hcatalog : w.connection.catalog = none) (hresolved : w.connection.resolvedCatalog = none) :
    catalogFallback rt srv skip w =
      (if skip then probeCatalogs rt srv else probeSchemas rt srv) w := by
  rw [catalogFallback, Run.bind_ok (Run.gets_run _ w), hcatalog, hresolved]
  rfl

/-- **The code refines the abstract attempt.**  From an undecided connection without an explicit
    catalog, `_catalog_fallback` makes one attempt and applies its verdict. -/
theorem catalogFallback_attempt (rt : Runtime) (srv : Server) (skip : Bool) {w : World}
    (hopen : w.clientClosed = false) (hcatalog : w.connection.catalog = none) (hresolved : w.connection.resolvedCatalog = none) :
    ∃ evs v, catalogFallback rt srv skip w = v.apply (w.append evs) ∧ Attempt rt skip evs v := by
  rw [catalogFallback_start rt srv skip hcatalog hresolved]
  cases skip with
  | true =>
    obtain ⟨evs, v, hrun, hlisted⟩ := probeCatalogs_listed rt srv hopen
    exact ⟨evs, v, hrun, .skipped hlisted⟩
  | false => exact probeSchemas_attempt rt srv hopen

/-- With a catalog given or decided there is no attempt. -/
theorem catalogFallback_settled (rt : Runtime) (srv : Server) (skip : Bool) {w : World}
    (h : w.connection.catalog ≠ none ∨ w.connection.resolvedCatalog ≠ none) :
    catalogFallback rt srv skip w = (.ok false, w) := by
  have hsome : (w.connection.catalog.isSome || w.connection.resolvedCatalog.isSome) = true := by
    rw [Bool.or_eq_true, Option.isSome_iff_ne_none, Option.isSome_iff_ne_none]
    exact h
  rw [catalogFallback, Run.bind_ok (Run.gets_run _ w), if_pos hsome]
  rfl

end FlightSql
