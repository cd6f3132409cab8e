/-
  What any run of metadata calls leaves in the log and in the connection.

  `CatalogTrace own before evs after` is the account: with an explicit catalog, or one decided
  earlier, every request is one of the caller's OWN, scoped by it; undecided, nothing is scoped; and a
  run that decides consists of unscoped requests, the discovery, the mark, and own requests scoped by
  the decision.  Traces compose (`CatalogTrace.trans`), so the account of one call is the account of
  every sequence of calls.

  All calls ask, and on an empty answer fall back and ask again: `withFallback` is that pattern and
  `withFallback_traced` the one place where the account is checked against the code.

  Mathlib-free.
-/
import FlightSql.Discovery

set_option linter.unusedVariables false

namespace FlightSql

open Arrow Lib

/-! ## Requests and their scope -/

/-- The two kinds of metadata request a call makes for itself. -/
inductive Metadata where
  | schemas | tables

/-- A request of that kind scoped by `catalog`. -/
def Metadata.owns (rt : Runtime) (kind : Metadata) (catalog : Option PyValue) : Command → Prop
  | .getDbSchemas field none => kind = .schemas ∧ catalogField rt catalog = .ok field
  | .getTables field _ _ _ => kind = .tables ∧ catalogField rt catalog = .ok field
  | _ => False

/-- A request of either kind. -/
def anyOwns (rt : Runtime) (catalog : Option PyValue) (command : Command) : Prop :=
  ∃ kind : Metadata, kind.owns rt catalog command

/-- Every request in `evs` is an own request scoped by `catalog`; the rest are reads of answers. -/
def Scoped (own : Option PyValue → Command → Prop) (catalog : Option PyValue) (evs : List Event) :
    Prop :=
  ∀ e ∈ evs, e.isRequest (own catalog)

/-- No decision, and no catalog in a GetTables or GetDbSchemas. -/
def Event.unscoped : Event → Prop
  | .flightInfo (.getTables field _ _ _) _ => field = none
  | .flightInfo (.getDbSchemas field _) _ => field = none
  | .resolved _ => False
  | _ => True

def Unscoped (evs : List Event) : Prop := ∀ e ∈ evs, e.unscoped

theorem Event.isRequest.imp {p q : Command → Prop} {e : Event} (h : e.isRequest p)
    (hpq : ∀ command, p command → q command) : e.isRequest q := by
  cases e with
  | flightInfo command reply => exact hpq command h
  | doGet ticket reply => trivial
  | _ => exact h

/-- A request scoped by no catalog names none. -/
theorem Event.isRequest.unscoped {rt : Runtime} {e : Event} (h : e.isRequest (anyOwns rt none)) :
    e.unscoped := by
  cases e with
  | flightInfo command reply =>
    obtain ⟨kind, hown⟩ := h
    cases command with
    | getDbSchemas field pattern =>
      cases pattern with
      | none => exact (Except.ok.inj hown.2).symm
      | some p => exact hown.elim
    | getTables field schemaPattern tablePattern includeSchema => exact (Except.ok.inj hown.2).symm
    | _ => exact hown.elim
  | doGet ticket reply => trivial
  | _ => exact h.elim

theorem Probed.unscoped {rt : Runtime} {p : Probe} {evs : List Event}
    {r : Except Exn (List PyValue)} (h : Probed rt p evs r) : Unscoped evs := by
  obtain ⟨tables, hfetched, _⟩ := h
  intro e he
  have hreq := hfetched.requests e he
  cases e with
  | flightInfo command reply =>
    obtain rfl : command = p.command := hreq
    cases p with
    | schemas => rfl
    | catalogs => trivial
    | settings => trivial
  | doGet ticket reply => trivial
  | _ => exact hreq.elim

theorem Unscoped.append {xs ys : List Event} (hx : Unscoped xs) (hy : Unscoped ys) :
    Unscoped (xs ++ ys) := by
  intro e he
  rcases List.mem_append.mp he with h | h
  · exact hx e h
  · exact hy e h

theorem Chosen.unscoped {rt : Runtime} {catalogs : List PyValue} {evs : List Event} {v : Verdict}
    (h : Chosen rt catalogs evs v) : Unscoped evs := by
  cases h with
  | byDefault _ hp => exact hp.unscoped
  | failed _ hp => exact hp.unscoped
  | _ => simp [Unscoped]

theorem Listed.unscoped {rt : Runtime} {evs : List Event} {v : Verdict} (h : Listed rt evs v) :
    Unscoped evs := by
  cases h with
  | failed hp => exact hp.unscoped
  | answered hp hc => exact hp.unscoped.append hc.unscoped

/-- No probe names a catalog. -/
theorem Attempt.unscoped {rt : Runtime} {skip : Bool} {evs : List Event} {v : Verdict}
    (h : Attempt rt skip evs v) : Unscoped evs := by
  cases h with
  | skipped hl => exact hl.unscoped
  | answered hp _ => exact hp.unscoped
  | failed hp _ => exact hp.unscoped
  | silent hs hl =>
    obtain ⟨r, hp, _⟩ := hs
    exact hp.unscoped.append hl.unscoped

/-! ## What a decision rests on -/

/-- The catalogs listed and the settings answer leave `c` as the only choice: it is the one name
    listed, or one of several and the one value of the settings query. -/
def Choice (rt : Runtime) (catalogs : List PyValue) (evs : List Event) (c : PyValue) : Prop :=
  (evs = [] ∧ catalogs ≠ [] ∧ ∀ name ∈ catalogs, name = c) ∨
    ((∃ x ∈ catalogs, ∃ y ∈ catalogs, x ≠ y) ∧ c ∈ catalogs ∧ (∃ s, c = .str s) ∧
      Probed rt .settings evs (.ok [c]))

/-- **The evidence for a catalog**: a silent GetDbSchemas, a GetCatalogs answer, and a choice. -/
def Evidence (rt : Runtime) (evs : List Event) (c : PyValue) : Prop :=
  ∃ schemas listing choice catalogs, evs = schemas ++ listing ++ choice ∧
    SilentSchemas rt schemas ∧ Probed rt .catalogs listing (.ok catalogs) ∧
    Choice rt catalogs choice c

/-- A decision for no catalog needs no evidence. -/
def Discovered (rt : Runtime) (evs : List Event) : Option PyValue → Prop
  | none => True
  | some c => Evidence rt evs c

theorem Probe.failed_ne_some (p : Probe) (e : Exn) (c : PyValue) :
    p.failed e ≠ .decided (some c) := by
  unfold Probe.failed
  intro h
  split at h
  · split at h <;> cases h
  · cases h

theorem Chosen.choice {rt : Runtime} {catalogs : List PyValue} {evs : List Event} {c : PyValue}
    (h : Chosen rt catalogs evs (.decided (some c))) : Choice rt catalogs evs c := by
  generalize hv : Verdict.decided (some c) = v at h
  cases h with
  | unhashable _ => cases hv
  | nothing _ => cases hv
  | only _ hone =>
    injection hv with hhead
    cases catalogs with
    | nil => cases hhead
    | cons x xs =>
      obtain rfl : c = x := Option.some.inj hhead
      exact Or.inl ⟨rfl, List.cons_ne_nil _ _,
        List.forall_mem_cons.mpr ⟨rfl, length_fromKeys_eq_one_iff.mp hone⟩⟩
  | byDefault hmany hprobed =>
    injection hv with hlisted
    unfold listedDefault at hlisted
    split at hlisted
    · rename_i s
      split at hlisted
      · rename_i hmem
        obtain rfl := Option.some.inj hlisted
        exact Or.inr ⟨one_lt_length_fromKeys_iff.mp hmany, hmem, ⟨s, rfl⟩, hprobed⟩
      · cases hlisted
    · cases hlisted
  | failed _ _ => exact absurd hv.symm (Probe.failed_ne_some _ _ _)

theorem Listed.evidence {rt : Runtime} {schemas evs : List Event} {c : PyValue}
    (hsilent : SilentSchemas rt schemas) (h : Listed rt evs (.decided (some c))) :
    Evidence rt (schemas ++ evs) c := by
  generalize hv : Verdict.decided (some c) = v at h
  cases h with
  | failed _ => exact absurd hv.symm (Probe.failed_ne_some _ _ _)
  | answered hprobed hchosen =>
    subst hv
    exact ⟨schemas, _, _, _, (List.append_assoc _ _ _).symm, hsilent, hprobed, hchosen.choice⟩

/-- **A decision rests on evidence**: the attempt's own, or, when the caller asked GetDbSchemas
    itself, the caller's and the attempt's together. -/
theorem Attempt.evidence {rt : Runtime} {skip : Bool} {own evs : List Event} {c : PyValue}
    (hown : skip = true → SilentSchemas rt own) (h : Attempt rt skip evs (.decided (some c))) :
    Evidence rt (if skip then own ++ evs else evs) c := by
  generalize hv : Verdict.decided (some c) = v at h
  cases h with
  | skipped hl =>
    subst hv
    exact hl.evidence (hown rfl)
  | answered _ _ => cases hv
  | failed _ _ => exact absurd hv.symm (Probe.failed_ne_some _ _ _)
  | silent hs hl =>
    subst hv
    exact hl.evidence hs

/-! ## Traces -/

/-- **The account of a run**, from one state of the connection to another. -/
inductive CatalogTrace (rt : Runtime) (own : Option PyValue → Command → Prop) :
    Connection → List Event → Connection → Prop where
  | explicit {conn catalog evs} : conn.catalog = some catalog →
      Scoped own (some (.str catalog)) evs → CatalogTrace rt own conn evs conn
  | resolved {conn c evs} : conn.catalog = none → conn.resolvedCatalog = some c →
      Scoped own c evs → CatalogTrace rt own conn evs conn
  | undecided {conn evs} : conn.catalog = none → conn.resolvedCatalog = none →
      Unscoped evs → CatalogTrace rt own conn evs conn
  | decides {conn c before discovery after} : conn.catalog = none → conn.resolvedCatalog = none →
      Unscoped (before ++ discovery) → Discovered rt discovery c → Scoped own c after →
      CatalogTrace rt own conn (before ++ discovery ++ .resolved c :: after)
        { conn with resolvedCatalog := some c }

theorem Scoped.append {own : Option PyValue → Command → Prop} {c : Option PyValue}
    {xs ys : List Event} (hx : Scoped own c xs) (hy : Scoped own c ys) : Scoped own c (xs ++ ys) := by
  intro e he
  rcases List.mem_append.mp he with h | h
  · exact hx e h
  · exact hy e h

namespace CatalogTrace

variable {rt : Runtime} {own own' : Option PyValue → Command → Prop} {a b c : Connection}
  {xs ys : List Event}

theorem refl (a : Connection) : CatalogTrace rt own a [] a := by
  cases hcat : a.catalog with
  | some catalog => exact .explicit hcat (by simp [Scoped])
  | none =>
    cases hres : a.resolvedCatalog with
    | some c => exact .resolved hcat hres (by simp [Scoped])
    | none => exact .undecided hcat hres (by simp [Unscoped])

theorem mono (h : CatalogTrace rt own a xs b) (hown : ∀ c command, own c command → own' c command) :
    CatalogTrace rt own' a xs b := by
  have hscoped : ∀ {c evs}, Scoped own c evs → Scoped own' c evs := fun hs e he =>
    (hs e he).imp (hown _)
  cases h with
  | explicit hcat hs => exact .explicit hcat (hscoped hs)
  | resolved hcat hres hs => exact .resolved hcat hres (hscoped hs)
  | undecided hcat hres hu => exact .undecided hcat hres hu
  | decides hcat hres hu hd hs => exact .decides hcat hres hu hd (hscoped hs)

/-- **Traces compose**, by the state the first one ends in. -/
theorem trans (h : CatalogTrace rt own a xs b) (h' : CatalogTrace rt own b ys c) :
    CatalogTrace rt own a (xs ++ ys) c := by
  cases h with
  | explicit hcat hs =>
    cases h' with
    | explicit hcat' hs' =>
      obtain rfl := Option.some.inj (hcat.symm.trans hcat')
      exact .explicit hcat (hs.append hs')
    | resolved hcat' _ _ => cases hcat.symm.trans hcat'
    | undecided hcat' _ _ => cases hcat.symm.trans hcat'
    | decides hcat' _ _ _ _ => cases hcat.symm.trans hcat'
  | resolved hcat hres hs =>
    cases h' with
    | explicit hcat' _ => cases hcat.symm.trans hcat'
    | resolved _ hres' hs' =>
      obtain rfl := Option.some.inj (hres.symm.trans hres')
      exact .resolved hcat hres (hs.append hs')
    | undecided _ hres' _ => cases hres.symm.trans hres'
    | decides _ hres' _ _ _ => cases hres.symm.trans hres'
  | undecided hcat hres hu =>
    cases h' with
    | explicit hcat' _ => cases hcat.symm.trans hcat'
    | resolved _ hres' _ => cases hres.symm.trans hres'
    | undecided _ _ hu' => exact .undecided hcat hres (hu.append hu')
    | decides _ _ hu' hd hs =>
      -- what was unscoped before joins what was unscoped before the discovery
      have hall := hu.append hu'
      rw [← List.append_assoc] at hall
      rw [← List.append_assoc, ← List.append_assoc]
      exact .decides hcat hres hall hd hs
  | decides hcat hres hu hd hs =>
    cases h' with
    | explicit hcat' _ => cases hcat.symm.trans hcat'
    | resolved _ hres' hs' =>
      obtain rfl := Option.some.inj hres'
      rw [List.append_assoc, List.cons_append]
      exact .decides hcat hres hu hd (hs.append hs')
    | undecided _ hres' _ => cases hres'
    | decides _ hres' _ _ _ => cases hres'

end CatalogTrace

/-- A world reached by a run with such an account. -/
def Traced (rt : Runtime) (own : Option PyValue → Command → Prop) (w w' : World) : Prop :=
  ∃ evs, w'.log = w.log ++ evs ∧ CatalogTrace rt own w.connection evs w'.connection

theorem Traced.refl (rt : Runtime) (own : Option PyValue → Command → Prop) (w : World) :
    Traced rt own w w := ⟨[], (List.append_nil _).symm, .refl _⟩

theorem Traced.trans {rt : Runtime} {own : Option PyValue → Command → Prop} {w w' w'' : World}
    (h : Traced rt own w w') (h' : Traced rt own w' w'') : Traced rt own w w'' := by
  obtain ⟨xs, hxs, htrace⟩ := h
  obtain ⟨ys, hys, htrace'⟩ := h'
  exact ⟨xs ++ ys, by rw [hys, hxs, List.append_assoc], htrace.trans htrace'⟩

theorem Traced.mono {rt : Runtime} {own own' : Option PyValue → Command → Prop} {w w' : World}
    (h : Traced rt own w w') (hown : ∀ c command, own c command → own' c command) :
    Traced rt own' w w' := by
  obtain ⟨evs, hevs, htrace⟩ := h
  exact ⟨evs, hevs, htrace.mono hown⟩

/-! ## The code's requests -/

/-- A request scoped by a catalog, its answer read. -/
def scopedRequest {α : Type} (rt : Runtime) (srv : Server) (command : Option String → Command)
    (finish : List Table → Except Exn α) (catalog : Option PyValue) : Method α := do
  let field ← Run.ofExcept (catalogField rt catalog)
  let tables ← fetch srv (command field)
  Run.ofExcept (finish tables)

theorem fetchTableMetadata_eq (rt : Runtime) (srv : Server) (requestedSchema : Option String)
    (request : TablesRequest) :
    fetchTableMetadata rt srv requestedSchema request =
      scopedRequest rt srv
        (fun field => .getTables field request.dbSchemaFilterPattern request.tableNameFilterPattern
          request.includeSchema)
        (fun tables => tableMetadata rt tables requestedSchema) := by
  funext catalog
  rw [fetchTableMetadata, getTables, scopedRequest, Run.bind_assoc]
  congr 1
  funext field
  rw [fetch, Run.bind_assoc]

theorem schemaNames_eq (rt : Runtime) (srv : Server) :
    schemaNames rt srv =
      scopedRequest rt srv (fun field => .getDbSchemas field none) (Probe.schemas.read rt) := by
  funext catalog
  rw [schemaNames, getDbSchemas, scopedRequest, Run.bind_assoc]
  congr 1
  funext field
  rw [fetch, Run.bind_assoc]
  congr 1
  funext info
  congr 1
  funext tables w
  rw [Probe.read]
  show _ = (Run.ofExcept (tables.mapM (namesColumn rt "db_schema_name") >>= _) : Method _) w
  cases tables.mapM (namesColumn rt "db_schema_name") <;> rfl

/-- A scoped request changes nothing but the log, and sends only itself. -/
theorem scopedRequest_append {α : Type} {rt : Runtime} {srv : Server}
    {command : Option String → Command} {finish : List Table → Except Exn α}
    {catalog : Option PyValue} {w : World} (hopen : w.clientClosed = false) :
    ∃ evs r, scopedRequest rt srv command finish catalog w = (r, w.append evs) ∧
      ∀ e ∈ evs, e.isRequest fun c =>
        ∃ field, catalogField rt catalog = .ok field ∧ c = command field := by
  unfold scopedRequest
  cases hfield : catalogField rt catalog with
  | error e =>
    refine ⟨[], .error e, ?_, by simp⟩
    rw [World.append_nil]
    rfl
  | ok field =>
    obtain ⟨evs, tables, hrun, hfetched⟩ := fetch_fetched srv (command field) hopen
    refine ⟨evs, tables >>= finish, ?_, fun e he =>
      (hfetched.requests e he).imp fun c hc => ⟨field, rfl, hc⟩⟩
    show (fetch srv (command field) >>= fun tables => Run.ofExcept (finish tables)) w = _
    cases tables with
    | error e => exact Run.bind_error hrun
    | ok tables => exact Run.bind_ok hrun

theorem scopedRequest_closed {α : Type} {rt : Runtime} {srv : Server}
    {command : Option String → Command} {finish : List Table → Except Exn α}
    {catalog : Option PyValue} {w : World} (hclosed : w.clientClosed = true) :
    ∃ e, scopedRequest rt srv command finish catalog w = (.error e, w) := by
  unfold scopedRequest
  cases hfield : catalogField rt catalog with
  | error e => exact ⟨e, rfl⟩
  | ok field =>
    refine ⟨.error "FlightSQLClient already closed", ?_⟩
    show (fetch srv (command field) >>= fun tables => Run.ofExcept (finish tables)) w = _
    exact Run.bind_error (fetch_closed srv _ hclosed)

/-! ## Ask, fall back, ask again -/

/-- **The pattern of every metadata call**: ask; on an empty answer run the fallback, and if it says so
    ask again. -/
def withFallback {α : Type} (rt : Runtime) (srv : Server) (ask : Option PyValue → Method α)
    (isEmpty : α → Prop) [DecidablePred isEmpty] (skip : Option PyValue → Bool) : Method α := do
  let connection ← Run.gets World.connection
  let answer ← ask connection.metadataCatalog
  if isEmpty answer then do
    let retry ← catalogFallback rt srv (skip connection.metadataCatalog)
    if retry then do
      let connection ← Run.gets World.connection
      ask connection.metadataCatalog
    else pure answer
  else pure answer

theorem getTableMetadata_eq (rt : Runtime) (srv : Server) (requestedSchema : Option String)
    (request : TablesRequest) :
    getTableMetadata rt srv requestedSchema request =
      withFallback rt srv (fetchTableMetadata rt srv requestedSchema request)
        (fun result => result.tableNames = []) (fun _ => false) := rfl

theorem scopedSchemaNames_eq (rt : Runtime) (srv : Server) :
    scopedSchemaNames rt srv =
      withFallback rt srv (schemaNames rt srv) (fun names => names = []) (fun c => c = none) := rfl

/-- What the pattern asks of `ask`: own requests only, nothing from a closed client, and where its
    empty unscoped answer is to stand for the GetDbSchemas probe, that it is one. -/
structure Asks {α : Type} (rt : Runtime) (own : Option PyValue → Command → Prop)
    (ask : Option PyValue → Method α) (isEmpty : α → Prop) (skip : Option PyValue → Bool) : Prop where
  sends : ∀ {w : World} catalog, w.clientClosed = false →
    ∃ evs r, ask catalog w = (r, w.append evs) ∧ Scoped own catalog evs ∧
      (catalog = none → skip none = true → ∀ a, r = .ok a → isEmpty a → SilentSchemas rt evs)
  closed : ∀ {w : World} catalog, w.clientClosed = true → ∃ e, ask catalog w = (.error e, w)
  unscopedOwn : ∀ {command}, own none command → anyOwns rt none command

theorem fetchTableMetadata_asks (rt : Runtime) (srv : Server) (requestedSchema : Option String)
    (request : TablesRequest) :
    Asks rt (Metadata.tables.owns rt) (fetchTableMetadata rt srv requestedSchema request)
      (fun result => result.tableNames = []) (fun _ => false) := by
  rw [fetchTableMetadata_eq]
  refine ⟨fun catalog hopen => ?_, fun catalog hclosed => scopedRequest_closed hclosed,
    fun h => ⟨.tables, h⟩⟩
  obtain ⟨evs, r, hrun, hreq⟩ := scopedRequest_append hopen
  refine ⟨evs, r, hrun, fun e he => (hreq e he).imp ?_, fun _ hskip => nomatch hskip⟩
  rintro command ⟨field, hfield, rfl⟩
  exact ⟨rfl, hfield⟩

theorem schemaNames_asks (rt : Runtime) (srv : Server) :
    Asks rt (Metadata.schemas.owns rt) (schemaNames rt srv) (fun names => names = [])
      (fun c => c = none) := by
  refine ⟨fun {w} catalog hopen => ?_, fun catalog hclosed => ?_, fun h => ⟨.schemas, h⟩⟩
  · cases catalog with
    | none =>
      -- unscoped it is the GetDbSchemas probe
      obtain ⟨evs, r, hrun, hprobed⟩ := probe_probed rt srv .schemas hopen
      rw [← schemaNames_none] at hrun
      refine ⟨evs, r, hrun, ?_, fun _ _ a ha hnil => ⟨r, hprobed, Or.inl (by rw [ha, hnil])⟩⟩
      obtain ⟨tables, hfetched, _⟩ := hprobed
      refine fun e he => (hfetched.requests e he).imp ?_
      rintro command rfl
      exact ⟨rfl, rfl⟩
    | some c =>
      rw [schemaNames_eq]
      obtain ⟨evs, r, hrun, hreq⟩ := scopedRequest_append hopen
      refine ⟨evs, r, hrun, fun e he => (hreq e he).imp ?_, fun h => nomatch h⟩
      rintro command ⟨field, hfield, rfl⟩
      exact ⟨rfl, hfield⟩
  · rw [schemaNames_eq]
    exact scopedRequest_closed hclosed

/-- A request that succeeds leaves the connection as it was, and the client open. -/
theorem Asks.ok_connection {α : Type} {rt : Runtime} {own : Option PyValue → Command → Prop}
    {ask : Option PyValue → Method α} {isEmpty : α → Prop} {skip : Option PyValue → Bool}
    (hask : Asks rt own ask isEmpty skip) {c : Option PyValue} {w w' : World} {a : α}
    (h : ask c w = (.ok a, w')) : w'.connection = w.connection ∧ w'.clientClosed = false := by
  cases hopen : w.clientClosed with
  | true =>
    obtain ⟨e, hclosed⟩ := hask.closed c hopen
    rw [h] at hclosed
    cases hclosed
  | false =>
    obtain ⟨evs, r, hrun, -⟩ := hask.sends c hopen
    rw [h] at hrun
    obtain ⟨-, rfl⟩ := Prod.mk.inj hrun
    exact ⟨rfl, hopen⟩

/-- A settled connection asks once, under its metadata catalog. -/
theorem withFallback_eq_ask {α : Type} {rt : Runtime} {srv : Server} {own : Option PyValue → Command → Prop}
    {ask : Option PyValue → Method α} {isEmpty : α → Prop} [DecidablePred isEmpty]
    {skip : Option PyValue → Bool} (hask : Asks rt own ask isEmpty skip) {w : World}
    (hsettled : w.connection.catalog ≠ none ∨ w.connection.resolvedCatalog ≠ none) :
    withFallback rt srv ask isEmpty skip w = ask w.connection.metadataCatalog w := by
  rw [withFallback, Run.bind_ok (Run.gets_run _ w)]
  rcases hrun : ask w.connection.metadataCatalog w with ⟨e | a, w'⟩
  · rw [Run.bind_error hrun]
  · obtain ⟨hconn, -⟩ := hask.ok_connection hrun
    rw [← hconn] at hsettled
    rw [Run.bind_ok hrun]
    by_cases hempty : isEmpty a
    · rw [if_pos hempty, Run.bind_ok (catalogFallback_settled rt srv _ hsettled)]
      rfl
    · rw [if_neg hempty]
      rfl

/-- From a settled connection the pattern only asks, scoped by the metadata catalog. -/
theorem withFallback_settled {α : Type} {rt : Runtime} (srv : Server)
    {own : Option PyValue → Command → Prop} {ask : Option PyValue → Method α} {isEmpty : α → Prop}
    [DecidablePred isEmpty] {skip : Option PyValue → Bool} (hask : Asks rt own ask isEmpty skip)
    {w : World} (hopen : w.clientClosed = false)
    (hsettled : w.connection.catalog ≠ none ∨ w.connection.resolvedCatalog ≠ none) :
    ∃ evs, (withFallback rt srv ask isEmpty skip w).2 = w.append evs ∧
      Scoped own w.connection.metadataCatalog evs := by
  obtain ⟨evs, r, hrun, hscoped, _⟩ := hask.sends w.connection.metadataCatalog hopen
  refine ⟨evs, ?_, hscoped⟩
  rw [withFallback_eq_ask hask hsettled, hrun]

/-- Without an explicit catalog the decided one scopes what follows. -/
theorem decide_metadataCatalog {w : World} {c : PyValue} (hcatalog : w.connection.catalog = none) :
    (w.decide (some c)).connection.metadataCatalog = some c := by
  have hcatalog' : (w.decide (some c)).connection.catalog = none := hcatalog
  rw [Connection.metadataCatalog, hcatalog']
  rfl

/-- What follows a decision: with a catalog the request is made again, scoped by it. -/
theorem withFallback_decided {α : Type} {rt : Runtime} {own : Option PyValue → Command → Prop} {ask : Option PyValue → Method α} {isEmpty : α → Prop}
    {skip : Option PyValue → Bool} (hask : Asks rt own ask isEmpty skip) {w : World}
    (hopen : w.clientClosed = false) (hcat : w.connection.catalog = none)
    (hres : w.connection.resolvedCatalog = none) {evs evs' : List Event} {c : Option PyValue} {a : α}
    (hu : Unscoped (evs ++ evs')) (hattempt : Attempt rt (skip none) evs' (.decided c))
    (hsilent : skip none = true → SilentSchemas rt evs) :
    Traced rt own w
      ((if c.isSome = true then do
          let connection ← Run.gets World.connection
          ask connection.metadataCatalog
        else pure a : Method α) ((w.append (evs ++ evs')).decide c)).2 := by
  cases c with
  | none =>
    refine ⟨evs ++ evs' ++ [.resolved none], ?_, ?_⟩
    · exact List.append_assoc _ _ _
    · exact .decides hcat hres hu trivial (by simp [Scoped])
  | some c =>
    let w₁ : World := (w.append (evs ++ evs')).decide (some c)
    have hscope : w₁.connection.metadataCatalog = some c :=
      decide_metadataCatalog (w := w.append (evs ++ evs')) hcat
    obtain ⟨evs₂, r, hrun, hscoped, _⟩ := hask.sends (w := w₁) (some c) hopen
    have hevidence := hattempt.evidence hsilent
    show Traced rt own w
      ((Run.gets World.connection >>= fun conn => ask conn.metadataCatalog : Method α) w₁).2
    rw [Run.bind_ok (Run.gets_run _ w₁), hscope, hrun]
    refine ⟨evs ++ evs' ++ .resolved (some c) :: evs₂, ?_, ?_⟩
    · show w.log ++ (evs ++ evs') ++ [.resolved (some c)] ++ evs₂ = _
      rw [List.append_assoc, List.append_assoc]
      rfl
    · -- the evidence is the attempt's, or the caller's and the attempt's
      cases hskip : skip none with
      | false =>
        rw [hskip] at hevidence
        exact .decides hcat hres hu hevidence hscoped
      | true =>
        rw [hskip] at hevidence
        rw [← List.nil_append (evs ++ evs')] at hu ⊢
        exact .decides hcat hres hu hevidence hscoped

/-- **The account of the pattern**, by the state of the connection and the verdict of the attempt. -/
theorem withFallback_traced {α : Type} {rt : Runtime} {srv : Server}
    {own : Option PyValue → Command → Prop} {ask : Option PyValue → Method α} {isEmpty : α → Prop}
    [DecidablePred isEmpty] {skip : Option PyValue → Bool} (hask : Asks rt own ask isEmpty skip)
    (w : World) : Traced rt own w (withFallback rt srv ask isEmpty skip w).2 := by
  cases hopen : w.clientClosed with
  | true =>
    -- nothing is sent
    obtain ⟨e, hrun⟩ := hask.closed w.connection.metadataCatalog hopen
    rw [withFallback, Run.bind_ok (Run.gets_run _ w), Run.bind_error hrun]
    exact Traced.refl rt own w
  | false =>
    cases hcat : w.connection.catalog with
    | some catalog =>
      obtain ⟨evs, hrun, hscoped⟩ := withFallback_settled srv hask hopen
        (Or.inl (by rw [hcat]; exact Option.some_ne_none _))
      rw [hrun]
      rw [Connection.metadataCatalog, hcat] at hscoped
      exact ⟨evs, rfl, .explicit hcat hscoped⟩
    | none =>
      cases hres : w.connection.resolvedCatalog with
      | some c =>
        obtain ⟨evs, hrun, hscoped⟩ := withFallback_settled srv hask hopen
          (Or.inr (by rw [hres]; exact Option.some_ne_none _))
        rw [hrun]
        rw [Connection.metadataCatalog, hcat, hres] at hscoped
        exact ⟨evs, rfl, .resolved hcat hres hscoped⟩
      | none =>
        have hnone : w.connection.metadataCatalog = none := by
          rw [Connection.metadataCatalog, hcat, hres]
        obtain ⟨evs, r, hrun, hscoped, hsilent⟩ := hask.sends none hopen
        have hu : Unscoped evs := fun e he =>
          ((hscoped e he).imp fun _ h => hask.unscopedOwn h).unscoped
        rw [withFallback, Run.bind_ok (Run.gets_run _ w), hnone]
        cases r with
        | error e =>
          rw [Run.bind_error hrun]
          exact ⟨evs, rfl, .undecided hcat hres hu⟩
        | ok a =>
          rw [Run.bind_ok hrun]
          by_cases hempty : isEmpty a
          · -- an empty answer: discovery, whose verdict decides about a second request
            rw [if_pos hempty]
            obtain ⟨evs', v, hfall, hattempt⟩ :=
              catalogFallback_attempt rt srv (skip none) (w := w.append evs) hopen hcat hres
            have hu' := hu.append hattempt.unscoped
            rw [World.append_append] at hfall
            cases v with
            | undecided =>
              rw [Run.bind_ok hfall]
              exact ⟨evs ++ evs', rfl, .undecided hcat hres hu'⟩
            | raised e =>
              rw [Run.bind_error hfall]
              exact ⟨evs ++ evs', rfl, .undecided hcat hres hu'⟩
            | decided c =>
              rw [Run.bind_ok hfall]
              exact withFallback_decided hask hopen hcat hres hu' hattempt fun hskip =>
                hsilent rfl hskip a rfl hempty
          · rw [if_neg hempty]
            exact ⟨evs, rfl, .undecided hcat hres hu⟩

end FlightSql
