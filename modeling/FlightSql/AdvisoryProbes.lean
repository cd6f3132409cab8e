/-
  What a failed advisory probe does to the call that asked.

  A discovery starts after a request of the call's own came back without rows, and its probes are only
  advice: the empty answer should stand whatever becomes of them.

  1. **Fruitless discoveries** (`Fruitless`) — every way a discovery ends without a catalog, with the
     failures of its probes on the way.  A GetDbSchemas that is not implemented does not end one.

  2. **Tolerated failures** — `catalogFallback_fruitless`: a fruitless discovery returns exactly when
     every failure in it is one of the classes the three `except` clauses name (`isProbeError`); the
     first that is not leaves the method.  What is tolerated was raised by the server or its stream
     (`Fetched.tolerated_error`), never by a reply of malformed shape.

  3. **Calls** (`EmptyAnswers`) — a call makes one or two requests of its own, each followed by a
     discovery while the catalog is undecided; so the account of a call is a list of failures, and
     `emptyAnswer_stands_iff` goes through them request by request.

  Mathlib-free.
-/
import FlightSql.CatalogDecision

set_option linter.unusedVariables false

namespace FlightSql

open Arrow Lib

/-! ## Fruitless discoveries -/

/-- From GetDbSchemas to GetCatalogs: the probe was skipped, found nothing, or is not implemented. -/
inductive SchemasSilent (rt : Runtime) (srv : Server) : Bool → World → List Exn → World → Prop where
  | skipped {w} : SchemasSilent rt srv true w [] w
  | nothing {w w'} : schemaNames rt srv none w = (.ok [], w') → SchemasSilent rt srv false w [] w'
  | notImplemented {w w' e} : schemaNames rt srv none w = (.error e, w') → isNotImplemented e = true →
      SchemasSilent rt srv false w [e] w'

/-- **A discovery that resolves no catalog**, with the failures of its probes and the world it leaves. -/
inductive Fruitless (rt : Runtime) (srv : Server) : Bool → World → List Exn → World → Prop where
  | answered {w w' names} : schemaNames rt srv none w = (.ok names, w') → names ≠ [] →
      Fruitless rt srv false w [] (w'.decide none)
  | schemas {w w' e} : schemaNames rt srv none w = (.error e, w') → isNotImplemented e = false →
      Fruitless rt srv false w [e] ((Probe.schemas.failed e).apply w').2
  | catalogs {skip w es w' w'' e} : SchemasSilent rt srv skip w es w' →
      catalogNames rt srv w' = (.error e, w'') →
      Fruitless rt srv skip w (es ++ [e]) ((Probe.catalogs.failed e).apply w'').2
  | unhashable {skip w es w' w'' catalogs e} : SchemasSilent rt srv skip w es w' →
      catalogNames rt srv w' = (.ok catalogs, w'') → checkHashable catalogs = .error e →
      Fruitless rt srv skip w (es ++ [e]) w''
  | unlisted {skip w es w' w''} : SchemasSilent rt srv skip w es w' →
      catalogNames rt srv w' = (.ok [], w'') → Fruitless rt srv skip w es (w''.decide none)
  | settings {skip w es w' w'' w₃ catalogs e} : SchemasSilent rt srv skip w es w' →
      catalogNames rt srv w' = (.ok catalogs, w'') → checkHashable catalogs = .ok () →
      1 < (fromKeys catalogs).length → settings rt srv w'' = (.error e, w₃) →
      Fruitless rt srv skip w (es ++ [e]) ((Probe.settings.failed e).apply w₃).2
  | noDefault {skip w es w' w'' w₃ catalogs values} : SchemasSilent rt srv skip w es w' →
      catalogNames rt srv w' = (.ok catalogs, w'') → checkHashable catalogs = .ok () →
      1 < (fromKeys catalogs).length → settings rt srv w'' = (.ok values, w₃) →
      listedDefault catalogs values = none → Fruitless rt srv skip w es (w₃.decide none)

/-- What the `except` clauses catch. -/
def Tolerated (es : List Exn) : Prop := ∀ e ∈ es, isProbeError e = true

theorem tolerated_nil : Tolerated [] := fun _ h => nomatch h

theorem tolerated_append {xs ys : List Exn} : Tolerated (xs ++ ys) ↔ Tolerated xs ∧ Tolerated ys :=
  List.forall_mem_append

theorem tolerated_singleton {e : Exn} : Tolerated [e] ↔ isProbeError e = true :=
  List.forall_mem_singleton

/-- What the fallback returns after these failures. -/
def AfterFailures (es : List Exn) (r : Except Exn Bool) : Prop :=
  (Tolerated es ∧ r = .ok false) ∨ ∃ e ∈ es, isProbeError e = false ∧ r = .error e

/-- A failed probe raises, or returns without a catalog. -/
theorem Probe.failed_apply (p : Probe) (e : Exn) (w : World) :
    AfterFailures [e] ((p.failed e).apply w).1 := by
  unfold Probe.failed
  cases he : isProbeError e with
  | true =>
    rw [if_pos rfl]
    refine Or.inl ⟨tolerated_singleton.mpr he, ?_⟩
    split <;> rfl
  | false => exact Or.inr ⟨e, List.mem_singleton_self e, he, rfl⟩

/-- A tolerated failure before it changes nothing. -/
theorem AfterFailures.cons_tolerated {es es' : List Exn} {r : Except Exn Bool} (hes : Tolerated es)
    (h : AfterFailures es' r) : AfterFailures (es ++ es') r := by
  rcases h with ⟨hes', hr⟩ | ⟨e, he, hraised, hr⟩
  · exact Or.inl ⟨tolerated_append.mpr ⟨hes, hes'⟩, hr⟩
  · exact Or.inr ⟨e, List.mem_append_right _ he, hraised, hr⟩

theorem SchemasSilent.tolerated {rt : Runtime} {srv : Server} {skip : Bool} {w w' : World}
    {es : List Exn} (h : SchemasSilent rt srv skip w es w') : Tolerated es := by
  cases h with
  | skipped => exact tolerated_nil
  | nothing _ => exact tolerated_nil
  | notImplemented _ hni =>
    rw [tolerated_singleton, isProbeError, hni]
    rfl

/-- What a set refuses is a `TypeError`. -/
theorem checkHashable_error {values : List PyValue} {e : Exn} (h : checkHashable values = .error e) :
    isProbeError e = false := by
  unfold checkHashable at h
  split at h
  · cases h
    rfl
  · cases h

/-- After a silent GetDbSchemas the fallback goes on with GetCatalogs. -/
theorem SchemasSilent.probeCatalogs {rt : Runtime} {srv : Server} {skip : Bool} {w w' : World}
    {es : List Exn} (h : SchemasSilent rt srv skip w es w') :
    (if skip then FlightSql.probeCatalogs rt srv else probeSchemas rt srv) w =
      FlightSql.probeCatalogs rt srv w' := by
  cases h with
  | skipped => rfl
  | nothing hrun =>
    show probeSchemas rt srv w = _
    rw [probeSchemas, Run.bind_ok (Run.attempt_run _ w), hrun]
    rfl
  | @notImplemented _ _ e hrun hni =>
    show probeSchemas rt srv w = _
    rw [probeSchemas, Run.bind_ok (Run.attempt_run _ w), hrun]
    show (if isNotImplemented e = true then _ else _ : Method Bool) w' = _
    rw [if_pos hni]

/-- With the catalogs listed the fallback chooses among them. -/
theorem probeCatalogs_ok {rt : Runtime} {srv : Server} {w w' : World} {catalogs : List PyValue}
    (h : catalogNames rt srv w = (.ok catalogs, w')) :
    probeCatalogs rt srv w = chooseCatalog rt srv catalogs w' := by
  rw [probeCatalogs, Run.bind_ok (Run.attempt_run _ w), h]

/-- What `_catalog_fallback` does with the outcome of `_default_catalog`. -/
def chooseDefault : Except Exn (Option PyValue) → Method Bool
  | .ok resolved => decideCatalog resolved
  | .error error =>
    if isNotImplemented error || isFlightOrInvalid error then
      catalogProbeFailed error isTransientProbeError
    else Run.raise error

/-- Among several hashable catalogs the settings query chooses. -/
theorem chooseCatalog_several {rt : Runtime} {srv : Server} {w : World} {catalogs : List PyValue}
    (hhash : checkHashable catalogs = .ok ()) (hmany : 1 < (fromKeys catalogs).length) :
    chooseCatalog rt srv catalogs w =
      chooseDefault (defaultCatalog rt srv catalogs w).1 (defaultCatalog rt srv catalogs w).2 := by
  have hne : catalogs ≠ [] := by
    rintro rfl
    exact absurd hmany (by decide)
  rw [chooseCatalog, hhash]
  show (if (fromKeys catalogs).length = 1 then _ else _ : Method Bool) w = _
  rw [if_neg (by omega), if_neg hne]
  exact Run.bind_ok (Run.attempt_run _ w)

/-- **A fruitless discovery returns without a catalog, or raises a failure no clause names.** -/
theorem catalogFallback_fruitless {rt : Runtime} {srv : Server} {skip : Bool} {w w' : World}
    {es : List Exn} (hcatalog : w.connection.catalog = none)
    (hresolved : w.connection.resolvedCatalog = none) (h : Fruitless rt srv skip w es w') :
    ∃ r, catalogFallback rt srv skip w = (r, w') ∧ AfterFailures es r := by
  rw [catalogFallback_start rt srv skip hcatalog hresolved]
  -- one probe after another, up to the one that ends it
  cases h with
  | @answered _ w' names hrun hne =>
    refine ⟨.ok false, ?_, Or.inl ⟨tolerated_nil, rfl⟩⟩
    show probeSchemas rt srv w = _
    rw [probeSchemas, Run.bind_ok (Run.attempt_run _ w), hrun]
    show (if names = [] then _ else _ : Method Bool) w' = _
    rw [if_neg hne]
    rfl
  | @schemas _ w' e hrun hni =>
    refine ⟨_, ?_, Probe.failed_apply .schemas e w'⟩
    show probeSchemas rt srv w = _
    rw [probeSchemas, Run.bind_ok (Run.attempt_run _ w), hrun]
    have hfailed := probeFailed_run .schemas e w'
    rw [hni, Bool.false_or] at hfailed
    show (if isNotImplemented e = true then _ else _ : Method Bool) w' = _
    rw [hni, if_neg Bool.false_ne_true]
    exact hfailed
  | @catalogs _ _ es w' w'' e hsilent hrun =>
    refine ⟨_, ?_, (Probe.failed_apply .catalogs e w'').cons_tolerated hsilent.tolerated⟩
    rw [hsilent.probeCatalogs, probeCatalogs, Run.bind_ok (Run.attempt_run _ w'), hrun]
    exact probeFailed_run .catalogs e w''
  | @unhashable _ _ es w' w'' catalogs e hsilent hrun hhash =>
    refine ⟨.error e, ?_, Or.inr ⟨e, List.mem_append_right _ List.mem_cons_self,
      checkHashable_error hhash, rfl⟩⟩
    rw [hsilent.probeCatalogs, probeCatalogs_ok hrun, chooseCatalog, hhash]
    rfl
  | unlisted hsilent hrun =>
    refine ⟨.ok false, ?_, Or.inl ⟨hsilent.tolerated, rfl⟩⟩
    rw [hsilent.probeCatalogs, probeCatalogs_ok hrun]
    rfl
  | @settings _ _ es w' w'' w₃ catalogs e hsilent hrun hhash hmany hsettings =>
    refine ⟨_, ?_, (Probe.failed_apply .settings e w₃).cons_tolerated hsilent.tolerated⟩
    have hdefault : defaultCatalog rt srv catalogs w'' = (.error e, w₃) := by
      rw [defaultCatalog, Run.bind_error hsettings]
    rw [hsilent.probeCatalogs, probeCatalogs_ok hrun, chooseCatalog_several hhash hmany, hdefault]
    exact probeFailed_run .settings e w₃
  | @noDefault _ _ es w' w'' w₃ catalogs values hsilent hrun hhash hmany hsettings hnone =>
    refine ⟨.ok false, ?_, Or.inl ⟨hsilent.tolerated, rfl⟩⟩
    have hdefault : defaultCatalog rt srv catalogs w'' = (.ok none, w₃) := by
      rw [defaultCatalog, Run.bind_ok hsettings, hnone]
      rfl
    rw [hsilent.probeCatalogs, probeCatalogs_ok hrun, chooseCatalog_several hhash hmany, hdefault]
    rfl

/-- The event is the failure: of the RPC, of the DoGet, or of reading the stream. -/
def Event.raises (e : Exn) : Event → Prop
  | .flightInfo _ reply => reply = .error e
  | .doGet _ reply => reply = .error e ∨ ∃ reader, reply = .ok reader ∧ reader.readAll = some (.error e)
  | _ => False

/-- A reader without a table to give fails with a `DataError`, unless reading it raised. -/
theorem readTable_error {reader : Reader} {e : Exn} (h : readTable reader = .error e)
    (he : isProbeError e = true) : reader.readAll = some (.error e) := by
  unfold readTable at h
  split at h
  · cases h
    cases he
  · rename_i error hread
    cases h
    exact hread
  · cases h
    cases he
  · cases h

theorem Streamed.tolerated_error {endpoints : List Endpoint} {evs : List Event}
    {r : Except Exn (List Table)} (h : Streamed endpoints evs r) {e : Exn} (hr : r = .error e)
    (he : isProbeError e = true) : ∃ event ∈ evs, event.raises e := by
  induction h with
  | done => cases hr
  | noTicket _ =>
    cases hr
    cases he
  | refused _ =>
    cases hr
    exact ⟨_, List.mem_cons_self, Or.inl rfl⟩
  | @unreadable _ _ _ reader _ _ hread =>
    cases hr
    exact ⟨_, List.mem_cons_self, Or.inr ⟨reader, rfl, readTable_error hread he⟩⟩
  | @read _ _ _ _ table _ r _ _ _ ih =>
    cases r with
    | ok tables => cases hr
    | error e' =>
      cases hr
      obtain ⟨event, hmem, hraises⟩ := ih rfl
      exact ⟨event, List.mem_cons_of_mem _ hmem, hraises⟩

/-- **What is tolerated was raised at the server or in its stream**: a reply of malformed shape (no
    endpoints to iterate, no ticket, no `read_all`, no table) never is. -/
theorem Fetched.tolerated_error {command : Command} {evs : List Event} {e : Exn}
    (h : Fetched command evs (.error e)) (he : isProbeError e = true) : ∃ event ∈ evs, event.raises e := by
  generalize hr : (Except.error e : Except Exn (List Table)) = r at h
  cases h with
  | refused =>
    cases hr
    exact ⟨_, List.mem_cons_self, rfl⟩
  | noEndpoints _ =>
    cases hr
    cases he
  | streamed _ hstreamed =>
    obtain ⟨event, hmem, hraises⟩ := hstreamed.tolerated_error hr.symm he
    exact ⟨event, List.mem_cons_of_mem _ hmem, hraises⟩

/-- **Every discovery resolves a catalog or is fruitless.** -/
theorem discovery_total (rt : Runtime) (srv : Server) (skip : Bool) {w : World}
    (hcatalog : w.connection.catalog = none) (hresolved : w.connection.resolvedCatalog = none) :
    (∃ w', catalogFallback rt srv skip w = (.ok true, w')) ∨ ∃ es w', Fruitless rt srv skip w es w' := by
  -- from a silent GetDbSchemas on
  have hlisted : ∀ {es w₁}, SchemasSilent rt srv skip w es w₁ →
      (∃ w', catalogFallback rt srv skip w = (.ok true, w')) ∨
        ∃ es w', Fruitless rt srv skip w es w' := by
    intro es w₁ hsilent
    rw [catalogFallback_start rt srv skip hcatalog hresolved, hsilent.probeCatalogs]
    rcases hnames : catalogNames rt srv w₁ with ⟨e | catalogs, w₂⟩
    · exact Or.inr ⟨_, _, .catalogs hsilent hnames⟩
    · rw [probeCatalogs_ok hnames]
      cases hhash : checkHashable catalogs with
      | error e => exact Or.inr ⟨_, _, .unhashable hsilent hnames hhash⟩
      | ok u =>
        rcases Nat.lt_trichotomy (fromKeys catalogs).length 1 with hlen | hlen | hlen
        · have hnil : catalogs = [] := fromKeys_eq_nil.mp (List.eq_nil_of_length_eq_zero (by omega))
          rw [hnil] at hnames
          exact Or.inr ⟨_, _, .unlisted hsilent hnames⟩
        · left
          have hne : catalogs ≠ [] := by
            rintro rfl
            cases hlen
          obtain ⟨c, cs, rfl⟩ := List.exists_cons_of_ne_nil hne
          rw [chooseCatalog, hhash]
          show ∃ w', (if (fromKeys (c :: cs)).length = 1 then _ else _ : Method Bool) _ = _
          rw [if_pos hlen]
          exact ⟨_, rfl⟩
        · rcases hsettings : settings rt srv w₂ with ⟨e | values, w₃⟩
          · exact Or.inr ⟨_, _, .settings hsilent hnames hhash hlen hsettings⟩
          · cases hdefault : listedDefault catalogs values with
            | none => exact Or.inr ⟨_, _, .noDefault hsilent hnames hhash hlen hsettings hdefault⟩
            | some c =>
              left
              have hchosen : defaultCatalog rt srv catalogs w₂ = (.ok (some c), w₃) := by
                rw [defaultCatalog, Run.bind_ok hsettings, hdefault]
                rfl
              rw [chooseCatalog_several hhash hlen, hchosen]
              exact ⟨_, rfl⟩
  cases skip with
  | true => exact hlisted .skipped
  | false =>
    rcases hschemas : schemaNames rt srv none w with ⟨e | names, w₁⟩
    · cases hni : isNotImplemented e with
      | true => exact hlisted (.notImplemented hschemas hni)
      | false => exact Or.inr ⟨_, _, .schemas hschemas hni⟩
    · by_cases hnil : names = []
      · rw [hnil] at hschemas
        exact hlisted (.nothing hschemas)
      · exact Or.inr ⟨_, _, .answered hschemas hnil⟩

/-! ## Requests of the call's own -/

/-- **A request a call makes for itself**. -/
inductive OwnRequest where
  | schemas
  | tables (requestedSchema : Option String) (request : TablesRequest)

/-- The unscoped request succeeds with no rows. -/
def OwnRequest.Empty (rt : Runtime) (srv : Server) : OwnRequest → World → World → Prop
  | .schemas, w, w' => schemaNames rt srv none w = (.ok [], w')
  | .tables requestedSchema request, w, w' => ∃ result,
      fetchTableMetadata rt srv requestedSchema request none w = (.ok result, w') ∧ result.tableNames = []

/-- Whether the request has just asked what the first probe asks. -/
def OwnRequest.skips : OwnRequest → Bool
  | .schemas => true
  | .tables _ _ => false

/-- The requests of a call, in their order. -/
def Call.requests : Call → List OwnRequest
  | .getSchemaNames => [.schemas]
  | .getTableNames schema => [.tables schema ⟨none, schema, false⟩]
  | .getTableMetadata schema =>
    [.tables schema ⟨none, schema, true⟩, .tables schema ⟨none, schema, false⟩]
  | .getTableMetadataForTable tableName schema | .getColumns tableName schema =>
    [.tables schema ⟨some tableName, schema, true⟩, .tables schema ⟨some tableName, schema, false⟩]

/-- **Own requests that all succeed with no rows**, and the failures of the probes in between.  Once a
    discovery has decided against a catalog there are no more; after a failure no clause names there
    is nothing more at all. -/
inductive EmptyAnswers (rt : Runtime) (srv : Server) : List OwnRequest → World → List Exn → Prop where
  | done {w} : EmptyAnswers rt srv [] w []
  | decided {request requests w w' es} : w.connection.resolvedCatalog = some none →
      request.Empty rt srv w w' → EmptyAnswers rt srv requests w' es →
      EmptyAnswers rt srv (request :: requests) w es
  | undecided {request requests w w' w'' es es'} : w.connection.resolvedCatalog = none →
      request.Empty rt srv w w' → Fruitless rt srv request.skips w' es w'' →
      (Tolerated es → EmptyAnswers rt srv requests w'' es') →
      EmptyAnswers rt srv (request :: requests) w (es ++ es')

/-- The call returns what it returns when there is nothing. -/
def Call.ReturnsEmpty (rt : Runtime) (srv : Server) (w : World) : Call → Prop
  | .getSchemaNames => (flightsqlGetSchemaNames rt srv w).1 = .ok []
  | .getTableNames schema => (flightsqlGetTableNames rt srv schema w).1 = .ok []
  | .getTableMetadata schema => (flightsqlGetTableMetadata rt srv schema w).1 = .ok .empty
  | .getTableMetadataForTable tableName schema =>
    (flightsqlGetTableMetadataForTable rt srv tableName schema w).1 = .ok .empty
  | .getColumns tableName schema => (flightsqlGetColumns rt srv tableName schema w).1 = .ok []

/-! ## One request -/

/-- What a request comes to after these failures: its empty answer, or an exception. -/
def RequestOutcome {α : Type} (es : List Exn) (empty : α) (r : Except Exn α) : Prop :=
  (Tolerated es ∧ r = .ok empty) ∨ (¬Tolerated es ∧ ∃ e, r = .error e)

/-- A fruitless discovery writes at most the decision. -/
theorem Fruitless.connection {rt : Runtime} {srv : Server} {skip : Bool} {w w' : World} {es : List Exn}
    (hopen : w.clientClosed = false) (hcatalog : w.connection.catalog = none)
    (hresolved : w.connection.resolvedCatalog = none) (h : Fruitless rt srv skip w es w') :
    w'.connection.catalog = none ∧ w'.connection.closed = w.connection.closed := by
  obtain ⟨r, hrun, -⟩ := catalogFallback_fruitless hcatalog hresolved h
  obtain ⟨evs, v, hrun', -⟩ := catalogFallback_attempt rt srv skip hopen hcatalog hresolved
  rw [hrun] at hrun'
  cases v with
  | decided c =>
    obtain ⟨-, rfl⟩ := Prod.mk.inj hrun'
    exact ⟨hcatalog, rfl⟩
  | undecided =>
    obtain ⟨-, rfl⟩ := Prod.mk.inj hrun'
    exact ⟨hcatalog, rfl⟩
  | raised e =>
    obtain ⟨-, rfl⟩ := Prod.mk.inj hrun'
    exact ⟨hcatalog, rfl⟩

/-- Once decided against a catalog, an empty answer is the answer. -/
theorem withFallback_decidedNone {α : Type} {rt : Runtime} {srv : Server}
    {own : Option PyValue → Command → Prop} {ask : Option PyValue → Method α} {isEmpty : α → Prop}
    [DecidablePred isEmpty] {skip : Option PyValue → Bool} (hask : Asks rt own ask isEmpty skip)
    {w w' : World} {a : α} (hcatalog : w.connection.catalog = none)
    (hresolved : w.connection.resolvedCatalog = some none) (hrun : ask none w = (.ok a, w'))
    (hempty : isEmpty a) : withFallback rt srv ask isEmpty skip w = (.ok a, w') := by
  have hnone : w.connection.metadataCatalog = none := by
    rw [Connection.metadataCatalog, hcatalog, hresolved]
  have hsettled : w.connection.catalog ≠ none ∨ w.connection.resolvedCatalog ≠ none := by
    right
    rw [hresolved]
    exact Option.some_ne_none _
  rw [withFallback_eq_ask hask hsettled, hnone, hrun]

/-- **An empty answer and a fruitless discovery**: the answer stands if the failures are tolerated. -/
theorem withFallback_fruitless {α : Type} {rt : Runtime} {srv : Server}
    {own : Option PyValue → Command → Prop} {ask : Option PyValue → Method α} {isEmpty : α → Prop}
    [DecidablePred isEmpty] {skip : Option PyValue → Bool} (hask : Asks rt own ask isEmpty skip)
    {w w' w'' : World} {a : α} {es : List Exn} (hcatalog : w.connection.catalog = none)
    (hresolved : w.connection.resolvedCatalog = none) (hrun : ask none w = (.ok a, w'))
    (hempty : isEmpty a) (h : Fruitless rt srv (skip none) w' es w'') :
    ∃ r, withFallback rt srv ask isEmpty skip w = (r, w'') ∧ RequestOutcome es a r := by
  obtain ⟨hconn, -⟩ := hask.ok_connection hrun
  have hnone : w.connection.metadataCatalog = none := by
    rw [Connection.metadataCatalog, hcatalog, hresolved]
  rw [withFallback, Run.bind_ok (Run.gets_run _ w), hnone, Run.bind_ok hrun, if_pos hempty]
  obtain ⟨r, hfallback, hr⟩ := catalogFallback_fruitless (by rw [hconn, hcatalog])
    (by rw [hconn, hresolved]) h
  rcases hr with ⟨htolerated, rfl⟩ | ⟨e, he, hraised, rfl⟩
  · refine ⟨.ok a, ?_, Or.inl ⟨htolerated, rfl⟩⟩
    rw [Run.bind_ok hfallback]
    rfl
  · refine ⟨.error e, Run.bind_error hfallback, Or.inr ⟨fun htolerated => ?_, e, rfl⟩⟩
    rw [htolerated e he] at hraised
    cases hraised

theorem RequestOutcome.returns_iff {α : Type} {es : List Exn} {empty : α} {r : Except Exn α}
    (h : RequestOutcome es empty r) : r = .ok empty ↔ Tolerated es := by
  rcases h with ⟨htolerated, rfl⟩ | ⟨hnot, e, rfl⟩
  · exact ⟨fun _ => htolerated, fun _ => rfl⟩
  · exact ⟨fun h => (by cases h), fun h => absurd h hnot⟩

/-- Outcomes compose: after a tolerated request the next one follows. -/
theorem RequestOutcome.bind {α β : Type} {m : Method α} {f : α → Method β} {w w' : World}
    {es es' : List Exn} {a : α} {b : β} {r : Except Exn α} (hrun : m w = (r, w'))
    (hr : RequestOutcome es a r) (hf : Tolerated es → RequestOutcome es' b (f a w').1) :
    RequestOutcome (es ++ es') b ((m >>= f) w).1 := by
  rcases hr with ⟨htolerated, rfl⟩ | ⟨hnot, e, rfl⟩
  · rw [Run.bind_ok hrun]
    rcases hf htolerated with ⟨htolerated', hok⟩ | ⟨hnot, herror⟩
    · exact Or.inl ⟨tolerated_append.mpr ⟨htolerated, htolerated'⟩, hok⟩
    · exact Or.inr ⟨fun h => hnot (tolerated_append.mp h).2, herror⟩
  · rw [Run.bind_error hrun]
    exact Or.inr ⟨fun h => hnot (tolerated_append.mp h).1, e, rfl⟩

/-- Translating an exception keeps it one. -/
theorem RequestOutcome.connectionMethod {α : Type} {m : Method α} {w : World} {es : List Exn} {a : α}
    (hopen : w.connection.closed = false) (h : RequestOutcome es a (m w).1) :
    RequestOutcome es a (FlightSql.connectionMethod m w).1 := by
  rw [FlightSql.connectionMethod, checkClosed_open hopen]
  rcases hm : m w with ⟨e | a', w'⟩
  · rw [translateErrors, Run.tryCatch_error hm]
    rw [hm] at h
    rcases h with ⟨-, hok⟩ | ⟨hnot, -⟩
    · cases hok
    · exact Or.inr ⟨hnot, _, rfl⟩
  · rw [translateErrors_ok hm]
    rw [hm] at h
    exact h

/-- **The first request of a call**, run: what it comes to, and what is left of the call. -/
structure FirstRequest {α : Type} (rt : Runtime) (srv : Server) (m : Method α) (empty : α)
    (requests : List OwnRequest) (w : World) (es es' : List Exn) (r : Except Exn α) (w' : World) :
    Prop where
  run : m w = (r, w')
  outcome : RequestOutcome es empty r
  catalog : w'.connection.catalog = none
  closed : w'.connection.closed = w.connection.closed
  rest : Tolerated es → EmptyAnswers rt srv requests w' es'

theorem EmptyAnswers.first {α : Type} {rt : Runtime} {srv : Server}
    {own : Option PyValue → Command → Prop} {ask : Option PyValue → Method α} {isEmpty : α → Prop}
    [DecidablePred isEmpty] {skip : Option PyValue → Bool} (hask : Asks rt own ask isEmpty skip)
    {request : OwnRequest} {requests : List OwnRequest} {w : World} {es : List Exn} {a : α}
    (hanswer : ∀ w', request.Empty rt srv w w' → ask none w = (.ok a, w')) (hempty : isEmpty a)
    (hskip : skip none = request.skips) (hcatalog : w.connection.catalog = none)
    (h : EmptyAnswers rt srv (request :: requests) w es) :
    ∃ es₁ es₂ r w', es = es₁ ++ es₂ ∧
      FirstRequest rt srv (withFallback rt srv ask isEmpty skip) a requests w es₁ es₂ r w' := by
  cases h with
  | @decided _ _ _ w' _ hresolved hreply hrest =>
    have hrun := hanswer w' hreply
    obtain ⟨hconn, -⟩ := hask.ok_connection hrun
    refine ⟨[], es, .ok a, w', rfl, ?_⟩
    exact {
      run := withFallback_decidedNone hask hcatalog hresolved hrun hempty
      outcome := Or.inl ⟨tolerated_nil, rfl⟩
      catalog := by rw [hconn, hcatalog]
      closed := by rw [hconn]
      rest := fun _ => hrest }
  | @undecided _ _ _ w' w'' es₁ es₂ hresolved hreply hfruitless hrest =>
    have hrun := hanswer w' hreply
    obtain ⟨hconn, hopen⟩ := hask.ok_connection hrun
    obtain ⟨hcatalog', hclosed⟩ := hfruitless.connection hopen (by rw [hconn, hcatalog])
      (by rw [hconn, hresolved])
    rw [← hskip] at hfruitless
    obtain ⟨r, hrun', hr⟩ := withFallback_fruitless hask hcatalog hresolved hrun hempty hfruitless
    refine ⟨es₁, es₂, r, w'', rfl, ?_⟩
    exact {
      run := hrun'
      outcome := hr
      catalog := hcatalog'
      closed := by rw [hclosed, hconn]
      rest := hrest }

/-- A GetTables of the call's own. -/
theorem EmptyAnswers.tables {rt : Runtime} {srv : Server} {requestedSchema : Option String}
    {request : TablesRequest} {requests : List OwnRequest} {w : World} {es : List Exn}
    (hcatalog : w.connection.catalog = none)
    (h : EmptyAnswers rt srv (.tables requestedSchema request :: requests) w es) :
    ∃ es₁ es₂ r w', es = es₁ ++ es₂ ∧
      FirstRequest rt srv (getTableMetadata rt srv requestedSchema request) .empty requests w es₁ es₂ r w' := by
  rw [getTableMetadata_eq]
  refine EmptyAnswers.first (fetchTableMetadata_asks rt srv requestedSchema request) ?_ rfl rfl hcatalog h
  rintro w' ⟨result, hrun, hnames⟩
  have hempty : result = .empty := by
    have hread := hrun
    rw [fetchTableMetadata] at hread
    obtain ⟨info, w₁, -, hread⟩ := Run.bind_eq_ok hread
    obtain ⟨tables, w₂, -, hread⟩ := Run.bind_eq_ok hread
    exact tableMetadata_eq_empty (Prod.mk.inj hread).1 hnames
  rw [← hempty]
  exact hrun

/-- Nothing is left after the last request. -/
theorem EmptyAnswers.nil {rt : Runtime} {srv : Server} {w : World} {es : List Exn}
    (h : EmptyAnswers rt srv [] w es) : es = [] := by
  cases h
  rfl

/-- The last request of a call that returns what it was answered. -/
theorem FirstRequest.last {α β : Type} {rt : Runtime} {srv : Server} {m : Method α} {empty : α}
    {w w' : World} {es es' : List Exn} {r : Except Exn α} {f : α → Method β} {b : β}
    (h : FirstRequest rt srv m empty [] w es es' r w') (hf : (f empty w').1 = .ok b) :
    RequestOutcome (es ++ es') b ((m >>= f) w).1 := by
  refine RequestOutcome.bind h.run h.outcome fun htolerated => Or.inl ⟨?_, hf⟩
  rw [(h.rest htolerated).nil]
  exact tolerated_nil

/-! ## Calls -/

/-- Two GetTables, both without rows. -/
theorem twoRequests_outcome {rt : Runtime} {srv : Server} {requestedSchema : Option String}
    {first second : TablesRequest} {w : World} {es : List Exn} {f : TableMetadataResult → Method TableMetadataResult}
    {g : TableMetadataResult → Method TableMetadataResult} (hcatalog : w.connection.catalog = none)
    (hf : f .empty = getTableMetadata rt srv requestedSchema second >>= g)
    (hg : g .empty = pure .empty)
    (h : EmptyAnswers rt srv [.tables requestedSchema first, .tables requestedSchema second] w es) :
    RequestOutcome es .empty ((getTableMetadata rt srv requestedSchema first >>= f) w).1 := by
  obtain ⟨es₁, es₂, r, w', rfl, hfirst⟩ := h.tables hcatalog
  refine RequestOutcome.bind hfirst.run hfirst.outcome fun htolerated => ?_
  obtain ⟨es₃, es₄, r', w'', rfl, hsecond⟩ := (hfirst.rest htolerated).tables hfirst.catalog
  rw [hf]
  exact hsecond.last (by rw [hg]; rfl)

theorem tableMetadataForTable_outcome {rt : Runtime} {srv : Server} {tableName : String}
    {schema : Option String} {w : World} {es : List Exn} (hopen : w.connection.closed = false)
    (hcatalog : w.connection.catalog = none)
    (h : EmptyAnswers rt srv (Call.getTableMetadataForTable tableName schema).requests w es) :
    RequestOutcome es .empty (flightsqlGetTableMetadataForTable rt srv tableName schema w).1 := by
  refine RequestOutcome.connectionMethod hopen ?_
  exact twoRequests_outcome hcatalog rfl rfl h

/-- **The empty answer stands exactly when every failure is tolerated.**  For every call of an open
    connection without an explicit catalog whose own requests all succeed with no rows, whatever
    becomes of the probes of its discoveries short of a resolved catalog — and every discovery is
    such a one, or resolves a catalog. -/
theorem emptyAnswer_stands_iff (rt : Runtime) (srv : Server) {w : World}
    (hopen : w.connection.closed = false) (hcatalog : w.connection.catalog = none) :
    (∀ (call : Call) es, EmptyAnswers rt srv call.requests w es →
      (call.ReturnsEmpty rt srv w ↔ ∀ e ∈ es, isProbeError e = true)) ∧
    ∀ (w' : World) skip, w'.connection.catalog = none → w'.connection.resolvedCatalog = none →
      (∃ w'', catalogFallback rt srv skip w' = (.ok true, w'')) ∨
        ∃ es w'', Fruitless rt srv skip w' es w'' := by
  refine ⟨?_, fun w' skip => discovery_total rt srv skip⟩
  intro call es h
  -- each call is its last request under `connectionMethod`, after an empty first one
  cases call with
  | getSchemaNames =>
    obtain ⟨es₁, es₂, r, w', rfl, hfirst⟩ := EmptyAnswers.first (schemaNames_asks rt srv)
      (fun w' (hreply : OwnRequest.Empty rt srv .schemas w w') => hreply) rfl rfl hcatalog h
    rw [← scopedSchemaNames_eq] at hfirst
    have hlast := hfirst.last (f := fun names => do
      Run.ofExcept (checkHashable names)
      pure (fromKeys names)) (b := []) rfl
    exact (RequestOutcome.connectionMethod hopen hlast).returns_iff
  | getTableNames schema =>
    obtain ⟨es₁, es₂, r, w', rfl, hfirst⟩ := h.tables hcatalog
    have hlast := hfirst.last (f := fun result => pure result.tableNames) (b := []) rfl
    exact (RequestOutcome.connectionMethod hopen hlast).returns_iff
  | getTableMetadata schema =>
    have houtcome := twoRequests_outcome hcatalog (f := fun result =>
      if result.tableNames = [] ∧ result.noColumns = true then do
        let namesOnly ← FlightSql.getTableMetadata rt srv schema ⟨none, schema, false⟩
        if namesOnly.tableNames ≠ [] then
          pure ⟨namesOnly.tableNames, none, false, namesOnly.tableTypes⟩
        else pure result
      else pure result) rfl rfl h
    exact (RequestOutcome.connectionMethod hopen houtcome).returns_iff
  | getTableMetadataForTable tableName schema =>
    exact (tableMetadataForTable_outcome hopen hcatalog h).returns_iff
  | getColumns tableName schema =>
    have houtcome := tableMetadataForTable_outcome hopen hcatalog h
    have hcolumns : RequestOutcome es [] (flightsqlGetColumns rt srv tableName schema w).1 := by
      rcases hrun : flightsqlGetTableMetadataForTable rt srv tableName schema w with ⟨r, w'⟩
      rw [hrun] at houtcome
      rw [flightsqlGetColumns, checkClosed_open hopen, ← List.append_nil es]
      exact RequestOutcome.bind hrun houtcome fun _ => Or.inl ⟨tolerated_nil, rfl⟩
    exact hcolumns.returns_iff

/-- A server without content whose GetCatalogs is unavailable. -/
def Server.catalogsUnavailable : Server :=
  .fixed
    (fun
      | .getCatalogs => .error ⟨.flight .unavailable, "no catalogs now"⟩
      | _ => .ok (.ofTickets []))
    (fun _ => .error ⟨.flight .other, "no such ticket"⟩)

/-- The theorem on a call of two requests, with a discovery that fails after each. -/
theorem emptyAnswer_stands_catalogsUnavailable :
    EmptyAnswers .reference .catalogsUnavailable (Call.getTableMetadata none).requests .initial
        [⟨.flight .unavailable, "no catalogs now"⟩, ⟨.flight .unavailable, "no catalogs now"⟩] ∧
      (Call.getTableMetadata none).ReturnsEmpty .reference .catalogsUnavailable .initial := by
  have hanswers : EmptyAnswers .reference .catalogsUnavailable (Call.getTableMetadata none).requests
      .initial [⟨.flight .unavailable, "no catalogs now"⟩, ⟨.flight .unavailable, "no catalogs now"⟩] := by
    refine @EmptyAnswers.undecided _ _ _ _ _ _ _ [_] [_] rfl ⟨.empty, rfl, rfl⟩
      (@Fruitless.catalogs _ _ _ _ [] _ _ _ (.nothing rfl) rfl) fun _ => ?_
    exact @EmptyAnswers.undecided _ _ _ _ _ _ _ [_] [] rfl ⟨.empty, rfl, rfl⟩
      (@Fruitless.catalogs _ _ _ _ [] _ _ _ (.nothing rfl) rfl) fun _ => .done
  have hiff := (emptyAnswer_stands_iff .reference .catalogsUnavailable
    (w := .initial) rfl rfl).1 (.getTableMetadata none) _ hanswers
  exact ⟨hanswers, hiff.mpr (by decide)⟩

/-- A server with two catalogs whose settings table has no `value` column. -/
def Server.misnamedSettings : Server :=
  .fixed
    (fun
      | .getCatalogs => .ok (.ofTickets [[1]])
      | .statementQuery _ => .ok (.ofTickets [[2]])
      | _ => .ok (.ofTickets []))
    (fun ticket => .ok (.ofTable (
      if ticket = [1] then .ofValues "catalog_name" .string [.str "east", .str "west"]
      else .ofValues "VALUE" .string [.str "east"])))

/-- **An advisory probe turns an empty answer into an error**: a `KeyError` that no clause names. -/
theorem misnamedSettings_raises :
    EmptyAnswers .reference .misnamedSettings Call.getSchemaNames.requests .initial
        [⟨.python .keyError, "'value'"⟩] ∧
      (flightsqlGetSchemaNames .reference .misnamedSettings .initial).1 =
        .error ⟨.python .keyError, "'value'"⟩ := by
  refine ⟨?_, rfl⟩
  exact @EmptyAnswers.undecided _ _ _ _ _ _ _ [_] [] rfl rfl
    (@Fruitless.settings _ _ _ _ [] _ _ _ [.str "east", .str "west"] _ .skipped rfl rfl (by decide) rfl)
    fun _ => .done

end FlightSql
