/-
  The catalog of a connection is decided once, and never guessed.

  `catalogDiscovery_runs` is the first half: over any sequence of metadata calls an explicit catalog
  is never discovered, a decision is written at most once and scopes everything after it, and an
  attempt is left undecided by transient errors alone.

  `catalog_neverGuessed` is the second: a resolved catalog has its evidence in the log right before
  the decision, nothing is scoped without one, and where the evidence is there the empty request is
  made again under the catalog it names.

  Mathlib-free.
-/
import FlightSql.MetadataRuns

set_option linter.unusedVariables false

namespace FlightSql

open Arrow Lib

/-- **Discovery over whole runs.**  From a connection that has not resolved a catalog, for every server
    and every sequence of metadata calls: with an explicit catalog every call sends its own requests,
    scoped by it, and nothing else; without one the decision is written at most once, and from then on
    every call keeps it and sends its own requests only, scoped by it; and any attempt whose answers
    are well formed is left undecided exactly when it ended in an error transient for its probe. -/
theorem catalogDiscovery_runs (rt : Runtime) (srv : Server) (w₀ : World)
    (hfresh : w₀.connection.resolvedCatalog = none) :
    (∀ catalog, w₀.connection.catalog = some catalog → ∀ before call, ∃ evs,
      (Call.run rt srv call (runCalls rt srv before w₀)).log =
          (runCalls rt srv before w₀).log ++ evs ∧
        Scoped (call.kind.owns rt) (some (.str catalog)) evs) ∧
    (w₀.connection.catalog = none →
      (∀ calls, ∃ evs, (runCalls rt srv calls w₀).log = w₀.log ++ evs ∧
        WrittenOnce evs (runCalls rt srv calls w₀).connection.resolvedCatalog) ∧
      (∀ before call c, (runCalls rt srv before w₀).connection.resolvedCatalog = some c →
        (Call.run rt srv call (runCalls rt srv before w₀)).connection.resolvedCatalog = some c ∧
          ∃ evs, (Call.run rt srv call (runCalls rt srv before w₀)).log =
              (runCalls rt srv before w₀).log ++ evs ∧ Scoped (call.kind.owns rt) c evs) ∧
      (∀ before call xs c ys,
        (Call.run rt srv call (runCalls rt srv before w₀)).log =
            (runCalls rt srv before w₀).log ++ (xs ++ .resolved c :: ys) →
          Scoped (call.kind.owns rt) c ys)) ∧
    (∀ (w : World) skip, w.clientClosed = false → w.connection.catalog = none →
      w.connection.resolvedCatalog = none →
      ∃ evs, (catalogFallback rt srv skip w).2.log = w.log ++ evs ∧
        (WellFormed rt none evs →
          ((catalogFallback rt srv skip w).2.connection.resolvedCatalog = none ↔
            EndedTransient evs))) := by
  refine ⟨?_, ?_, fun w skip => catalogFallback_undecided_iff rt srv skip⟩
  · intro catalog hcatalog before call
    obtain ⟨_, _, hbefore⟩ := runCalls_traced rt srv before w₀
    obtain ⟨evs, hevs, htrace⟩ := call.run_traced rt srv (runCalls rt srv before w₀)
    exact ⟨evs, hevs, htrace.scoped_of_explicit (hbefore.catalog_eq.trans hcatalog)⟩
  · intro hcatalog
    refine ⟨?_, ?_, ?_⟩
    · intro calls
      obtain ⟨evs, hevs, htrace⟩ := runCalls_traced rt srv calls w₀
      exact ⟨evs, hevs, htrace.writtenOnce hcatalog hfresh⟩
    · intro before call c hc
      obtain ⟨_, _, hbefore⟩ := runCalls_traced rt srv before w₀
      obtain ⟨evs, hevs, htrace⟩ := call.run_traced rt srv (runCalls rt srv before w₀)
      have h := htrace.scoped_of_resolved (hbefore.catalog_eq.trans hcatalog) hc
      exact ⟨h.1, evs, hevs, h.2⟩
    · intro before call xs c ys hlog
      obtain ⟨evs, hevs, htrace⟩ := call.run_traced rt srv (runCalls rt srv before w₀)
      obtain rfl := List.append_cancel_left (hevs.symm.trans hlog)
      exact htrace.scoped_after

/-- A server that only enumerates the catalog named in the request, and has one. -/
def Server.scopedOnly : Server :=
  .fixed
    (fun
      | .getCatalogs => .ok (.ofTickets [[1]])
      | .getDbSchemas (some "datafusion") _ => .ok (.ofTickets [[2]])
      | .getTables (some "datafusion") _ _ _ => .ok (.ofTickets [[3]])
      | _ => .ok (.ofTickets []))
    (fun ticket => .ok (.ofTable (
      if ticket = [1] then .ofValues "catalog_name" .string [.str "datafusion"]
      else if ticket = [2] then .ofValues "db_schema_name" .string [.str "public"]
      else .ofValues "table_name" .string [.str "orders"])))

/-- The theorem on two calls to a server that needs the catalog: the first decides, the second is
    scoped by the decision. -/
theorem catalogDiscovery_runs_scopedOnly :
    (∃ evs, (runCalls .reference .scopedOnly [.getTableNames none, .getSchemaNames] .initial).log =
        World.initial.log ++ evs ∧ WrittenOnce evs (some (some (.str "datafusion")))) ∧
      ∃ evs, (Call.run .reference .scopedOnly .getSchemaNames
          (runCalls .reference .scopedOnly [.getTableNames none] .initial)).log =
            (runCalls .reference .scopedOnly [.getTableNames none] .initial).log ++ evs ∧
        Scoped (Metadata.schemas.owns .reference) (some (.str "datafusion")) evs := by
  have h := (catalogDiscovery_runs .reference .scopedOnly .initial rfl).2.1 rfl
  exact ⟨h.1 [.getTableNames none, .getSchemaNames],
    (h.2.1 [.getTableNames none] .getSchemaNames (some (.str "datafusion")) rfl).2⟩

/-! ## Evidence -/

/-- A run that resolved a catalog has its evidence in the log, and every request sent before names no
    catalog. -/
theorem CatalogTrace.evidence {rt : Runtime} {a b : Connection} {evs : List Event}
    (h : CatalogTrace rt (anyOwns rt) a evs b) (hcatalog : a.catalog = none)
    (hfresh : a.resolvedCatalog = none) :
    (∀ c, b.resolvedCatalog = some (some c) → ∃ before discovery after,
      evs = before ++ discovery ++ .resolved (some c) :: after ∧ Evidence rt discovery c) ∧
    (∀ xs e ys, evs = xs ++ e :: ys → (∀ c, Event.resolved (some c) ∉ xs) →
      e.isMark ∨ e.unscoped) := by
  cases h with
  | explicit hcatalog' _ => cases hcatalog.symm.trans hcatalog'
  | resolved _ hres _ => cases hfresh.symm.trans hres
  | undecided _ _ hu =>
    constructor
    · intro c hc
      cases hfresh.symm.trans hc
    · rintro xs e ys rfl _
      exact Or.inr (hu e (List.mem_append_right _ List.mem_cons_self))
  | @decides r before discovery after _ _ hu hd hs =>
    constructor
    · rintro c ⟨⟩
      exact ⟨before, discovery, after, rfl, hd⟩
    · intro xs e ys hsplit hxs
      rcases List.append_eq_append_iff.mp hsplit with ⟨as, rfl, htail⟩ | ⟨bs, hbefore, htail⟩
      · -- from the mark on
        cases as with
        | nil =>
          injection htail with hmark _
          exact Or.inl (hmark ▸ trivial)
        | cons a as =>
          injection htail with hmark hafter
          have he : e ∈ after := hafter ▸ List.mem_append_right _ List.mem_cons_self
          cases r with
          | none => exact Or.inr (hs e he).unscoped
          | some c =>
            exact absurd (hmark ▸ List.mem_append_right _ List.mem_cons_self) (hxs c)
      · cases bs with
        | nil =>
          injection htail with hmark _
          exact Or.inl (hmark ▸ trivial)
        | cons b bs =>
          injection htail with hb _
          refine Or.inr (hu e ?_)
          rw [hbefore, hb]
          exact List.mem_append_right _ List.mem_cons_self

/-- The catalogs listed leave `c` as the only choice, perhaps after the settings query. -/
def Chooses (rt : Runtime) (srv : Server) (catalogs : List PyValue) (c : PyValue) (w w' : World) :
    Prop :=
  (catalogs ≠ [] ∧ (∀ name ∈ catalogs, name = c) ∧ w' = w) ∨
    ((∃ x ∈ catalogs, ∃ y ∈ catalogs, x ≠ y) ∧ c ∈ catalogs ∧ (∃ s, c = .str s) ∧
      settings rt srv w = (.ok [c], w'))

/-- Then it is the decision. -/
theorem chooseCatalog_decides {rt : Runtime} {srv : Server} {catalogs : List PyValue} {c : PyValue}
    {w w' : World} (hhash : checkHashable catalogs = .ok ()) (h : Chooses rt srv catalogs c w w') :
    chooseCatalog rt srv catalogs w = (.ok true, w'.decide (some c)) := by
  rw [chooseCatalog, hhash]
  show (if (fromKeys catalogs).length = 1 then _ else _ : Method Bool) w = _
  rcases h with ⟨hne, hall, rfl⟩ | ⟨hmany, hmem, ⟨s, rfl⟩, hsettings⟩
  · cases catalogs with
    | nil => exact absurd rfl hne
    | cons x xs =>
      obtain ⟨rfl, hxs⟩ := List.forall_mem_cons.mp hall
      rw [if_pos (length_fromKeys_eq_one_iff.mpr hxs)]
      rfl
  · have hlen := one_lt_length_fromKeys_iff.mpr hmany
    have hne : catalogs ≠ [] := List.ne_nil_of_mem hmem
    have hdefault : defaultCatalog rt srv catalogs w = (.ok (some (.str s)), w') := by
      rw [defaultCatalog, Run.bind_ok hsettings, listedDefault, if_pos hmem]
      rfl
    rw [if_neg (by omega), if_neg hne, Run.bind_ok (Run.attempt_run _ w), hdefault]
    rfl

theorem probeCatalogs_decides {rt : Runtime} {srv : Server} {catalogs : List PyValue} {c : PyValue}
    {w w₁ w₂ : World} (hcatalogs : catalogNames rt srv w = (.ok catalogs, w₁))
    (hhash : checkHashable catalogs = .ok ()) (h : Chooses rt srv catalogs c w₁ w₂) :
    probeCatalogs rt srv w = (.ok true, w₂.decide (some c)) := by
  rw [probeCatalogs, Run.bind_ok (Run.attempt_run _ w), hcatalogs]
  exact chooseCatalog_decides hhash h

/-- Probes leave the connection as it was. -/
theorem probe_connection {rt : Runtime} {srv : Server} {p : Probe} {w w' : World}
    {r : Except Exn (List PyValue)} (hopen : w.clientClosed = false)
    (h : probe rt srv p w = (r, w')) :
    w'.connection = w.connection ∧ w'.clientClosed = false := by
  obtain ⟨evs, r', hrun, _⟩ := probe_probed rt srv p hopen
  obtain ⟨_, rfl⟩ := Prod.mk.inj (h.symm.trans hrun)
  exact ⟨rfl, hopen⟩

theorem Chooses.connection {rt : Runtime} {srv : Server} {catalogs : List PyValue} {c : PyValue}
    {w w' : World} (hopen : w.clientClosed = false) (h : Chooses rt srv catalogs c w w') :
    w'.connection = w.connection := by
  rcases h with ⟨_, _, rfl⟩ | ⟨_, _, _, hsettings⟩
  · rfl
  · rw [settings_eq] at hsettings
    exact (probe_connection hopen hsettings).1

/-- **Ask again.**  Where the evidence for `c` is there, the pattern makes its request again under
    `c`, and that answer is its answer. -/
theorem withFallback_retries {α : Type} {rt : Runtime} {srv : Server} {ask : Option PyValue → Method α}
    {isEmpty : α → Prop} [DecidablePred isEmpty] {skip : Option PyValue → Bool} {w w₁ w₂ : World}
    {c : PyValue} {a : α} (hcatalog : w.connection.catalog = none)
    (hresolved : w.connection.resolvedCatalog = none) (hask : ask none w = (.ok a, w₁))
    (hempty : isEmpty a) (hfallback : catalogFallback rt srv (skip none) w₁ = (.ok true, w₂))
    (hscope : w₂.connection.metadataCatalog = some c) :
    withFallback rt srv ask isEmpty skip w = ask (some c) w₂ := by
  have hnone : w.connection.metadataCatalog = none := by
    rw [Connection.metadataCatalog, hcatalog, hresolved]
  rw [withFallback, Run.bind_ok (Run.gets_run _ w), hnone, Run.bind_ok hask, if_pos hempty,
    Run.bind_ok hfallback, ← hscope]
  rfl

/-- **A catalog is never guessed.**  From a fresh connection without an explicit catalog, for every
    server and every sequence of metadata calls: a resolved catalog was decided by a discovery whose
    events are its evidence, and whatever was sent before such a decision names no catalog.
    Conversely, when the evidence for `c` is there, an unscoped GetTables or GetDbSchemas that came
    back empty is made again under `c`, and that answer is the one used. -/
theorem catalog_neverGuessed (rt : Runtime) (srv : Server) (w₀ : World)
    (hcatalog : w₀.connection.catalog = none) (hfresh : w₀.connection.resolvedCatalog = none) :
    (∀ calls, ∃ evs, (runCalls rt srv calls w₀).log = w₀.log ++ evs ∧
      (∀ c, (runCalls rt srv calls w₀).connection.resolvedCatalog = some (some c) →
        ∃ before discovery after, evs = before ++ discovery ++ .resolved (some c) :: after ∧
          Evidence rt discovery c) ∧
      (∀ xs e ys, evs = xs ++ e :: ys → (∀ c, Event.resolved (some c) ∉ xs) →
        e.isMark ∨ e.unscoped)) ∧
    (∀ (w w₁ w₂ w₃ w₄ : World) requestedSchema request result answer catalogs c,
      w.clientClosed = false → w.connection.catalog = none → w.connection.resolvedCatalog = none →
      fetchTableMetadata rt srv requestedSchema request none w = (.ok result, w₁) →
      result.tableNames = [] →
      schemaNames rt srv none w₁ = (answer, w₂) →
      (answer = .ok [] ∨ ∃ e, answer = .error e ∧ isNotImplemented e = true) →
      catalogNames rt srv w₂ = (.ok catalogs, w₃) → checkHashable catalogs = .ok () →
      Chooses rt srv catalogs c w₃ w₄ →
      getTableMetadata rt srv requestedSchema request w =
        fetchTableMetadata rt srv requestedSchema request (some c) (w₄.decide (some c))) ∧
    (∀ (w w₁ w₂ w₃ : World) catalogs c,
      w.clientClosed = false → w.connection.catalog = none → w.connection.resolvedCatalog = none →
      schemaNames rt srv none w = (.ok [], w₁) →
      catalogNames rt srv w₁ = (.ok catalogs, w₂) → checkHashable catalogs = .ok () →
      Chooses rt srv catalogs c w₂ w₃ →
      scopedSchemaNames rt srv w = schemaNames rt srv (some c) (w₃.decide (some c))) := by
  refine ⟨?_, ?_, ?_⟩
  · intro calls
    obtain ⟨evs, hevs, htrace⟩ := runCalls_traced rt srv calls w₀
    exact ⟨evs, hevs, htrace.evidence hcatalog hfresh⟩
  · intro w w₁ w₂ w₃ w₄ requestedSchema request result answer catalogs c hopen hcat hres hfetch hempty
      hschemas hsilent hcatalogs hhash hchooses
    -- the connection is the same all the way to the decision
    obtain ⟨evs, r, hrun, _, _⟩ :=
      (fetchTableMetadata_asks rt srv requestedSchema request).sends none hopen
    obtain ⟨_, rfl⟩ := Prod.mk.inj (hfetch.symm.trans hrun)
    have hschemas' := hschemas
    rw [schemaNames_none] at hschemas'
    obtain ⟨hconn₂, hopen₂⟩ := probe_connection (w := w.append evs) hopen hschemas'
    have hcatalogs' := hcatalogs
    rw [catalogNames_eq] at hcatalogs'
    obtain ⟨hconn₃, hopen₃⟩ := probe_connection hopen₂ hcatalogs'
    have hconn₄ : w₄.connection.catalog = none := by
      rw [hchooses.connection hopen₃, hconn₃, hconn₂]
      exact hcat
    have hfallback : catalogFallback rt srv false (w.append evs) =
        (.ok true, w₄.decide (some c)) := by
      have hprobe := probeCatalogs_decides hcatalogs hhash hchooses
      rw [catalogFallback_start rt srv false (w := w.append evs) hcat hres]
      show probeSchemas rt srv (w.append evs) = _
      rw [probeSchemas, Run.bind_ok (Run.attempt_run _ _), hschemas]
      rcases hsilent with rfl | ⟨e, rfl, hni⟩
      · exact hprobe
      · show (if isNotImplemented e = true then _ else _ : Method Bool) w₂ = _
        rw [if_pos hni]
        exact hprobe
    rw [getTableMetadata_eq]
    exact withFallback_retries hcat hres hfetch hempty hfallback (decide_metadataCatalog hconn₄)
  · intro w w₁ w₂ w₃ catalogs c hopen hcat hres hschemas hcatalogs hhash hchooses
    have hschemas' := hschemas
    rw [schemaNames_none] at hschemas'
    obtain ⟨hconn₁, hopen₁⟩ := probe_connection hopen hschemas'
    have hcatalogs' := hcatalogs
    rw [catalogNames_eq] at hcatalogs'
    obtain ⟨hconn₂, hopen₂⟩ := probe_connection hopen₁ hcatalogs'
    have hconn₃ : w₃.connection.catalog = none := by
      rw [hchooses.connection hopen₂, hconn₂, hconn₁]
      exact hcat
    have hfallback : catalogFallback rt srv true w₁ = (.ok true, w₃.decide (some c)) := by
      rw [catalogFallback_start rt srv true (by rw [hconn₁, hcat]) (by rw [hconn₁, hres])]
      exact probeCatalogs_decides hcatalogs hhash hchooses
    rw [scopedSchemaNames_eq]
    exact withFallback_retries hcat hres hschemas rfl hfallback (decide_metadataCatalog hconn₃)

/-- The theorem on one call that resolves a catalog. -/
theorem catalog_neverGuessed_scopedOnly : ∃ evs,
    (runCalls .reference .scopedOnly [.getTableNames none] .initial).log =
        World.initial.log ++ evs ∧
      ∃ before discovery after,
        evs = before ++ discovery ++ .resolved (some (.str "datafusion")) :: after ∧
          Evidence .reference discovery (.str "datafusion") := by
  obtain ⟨evs, hevs, hresolved, _⟩ := (catalog_neverGuessed .reference .scopedOnly .initial
    rfl rfl).1 [.getTableNames none]
  exact ⟨evs, hevs, hresolved (.str "datafusion") rfl⟩

end FlightSql
