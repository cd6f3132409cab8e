/-
  One catalog for all metadata — and for keys.

  Seven methods of a connection report metadata.  Five of them are the calls of `Call`, whose GetTables
  and GetDbSchemas name the metadata catalog; `flightsql_get_primary_keys` and
  `flightsql_get_foreign_keys` build a `TableRef` without one.

  `Event.names` reads off a request whether it names a catalog, and `runMetadata_names_iff` says when
  all requests of a run do: while the connection has a catalog, exactly when the run asks for no keys
  (or nothing can be sent any more).  The step lemmas are `Call.run_sentUnder`, for a call that keeps
  to the catalog, and `keysMethod_sends`, for one that does not.

  Mathlib-free.
-/
import FlightSql.CatalogDecision

set_option linter.unusedVariables false

namespace FlightSql

open Arrow Lib

/-! ## Calls of any kind -/

/-- **A metadata call of any kind**. -/
inductive MetadataCall where
  | call (call : Call)
  | getPrimaryKeys (table : String) (schema : Option String)
  | getForeignKeys (table : String) (schema : Option String)

/-- The world a call leaves, whether it returns or raises. -/
def MetadataCall.run (rt : Runtime) (srv : Server) (call : MetadataCall) (w : World) : World :=
  match call with
  | .call call => call.run rt srv w
  | .getPrimaryKeys table schema => (flightsqlGetPrimaryKeys rt srv table schema w).2
  | .getForeignKeys table schema => (flightsqlGetForeignKeys rt srv table schema w).2

/-- The call asks for keys. -/
def MetadataCall.isKeys : MetadataCall → Bool
  | .call _ => false
  | _ => true

/-- **A run**: one call after the other. -/
def runMetadata (rt : Runtime) (srv : Server) (calls : List MetadataCall) (w : World) : World :=
  calls.foldl (fun w call => call.run rt srv w) w

/-- **A request that can name a catalog names `c`.** -/
def Event.names (rt : Runtime) (c : PyValue) : Event → Prop
  | .flightInfo (.getDbSchemas field _) _ => catalogField rt (some c) = .ok field
  | .flightInfo (.getTables field _ _ _) _ => catalogField rt (some c) = .ok field
  | .flightInfo (.getPrimaryKeys field _ _) _ => catalogField rt (some c) = .ok field
  | .flightInfo (.getImportedKeys field _ _) _ => catalogField rt (some c) = .ok field
  | .flightInfo (.getTablesOfTypes field _ _ _ _) _ => catalogField rt (some c) = .ok field
  | .flightInfo (.getExportedKeys field _ _) _ => catalogField rt (some c) = .ok field
  | .flightInfo (.getCrossReference pkField _ _ fkField _ _) _ =>
    catalogField rt (some c) = .ok pkField ∧ catalogField rt (some c) = .ok fkField
  | _ => True

/-- A catalog is some field. -/
theorem catalogField_ne_none (rt : Runtime) (c : PyValue) : catalogField rt (some c) ≠ .ok none := by
  intro h
  obtain ⟨field, -, h⟩ := Outcome.bind_eq_ok h
  cases h

/-! ## Calls that keep to the catalog -/

/-- An own request under a catalog names it. -/
theorem Event.isRequest.names {rt : Runtime} {c : PyValue} {e : Event}
    (h : e.isRequest (anyOwns rt (some c))) : e.names rt c := by
  cases e with
  | flightInfo command reply =>
    obtain ⟨kind, hown⟩ := h
    cases command with
    | getDbSchemas field pattern =>
      cases pattern with
      | none => exact hown.2
      | some p => exact hown.elim
    | getTables field schemaPattern tablePattern includeSchema => exact hown.2
    | getPrimaryKeys field schema table => exact hown.elim
    | getImportedKeys field schema table => exact hown.elim
    | getTablesOfTypes field schemaPattern tablePattern includeSchema tableTypes => exact hown.elim
    | getExportedKeys field schema table => exact hown.elim
    | getCrossReference pkField pkSchema pkTable fkField fkSchema fkTable => exact hown.elim
    | _ => trivial
  | _ => trivial

/-- From one world to another nothing happened but requests that name the catalog. -/
def SentUnder (rt : Runtime) (c : PyValue) (w w' : World) : Prop :=
  ∃ evs, w' = w.append evs ∧ ∀ e ∈ evs, e.names rt c

theorem SentUnder.refl (rt : Runtime) (c : PyValue) (w : World) : SentUnder rt c w w :=
  ⟨[], w.append_nil.symm, fun _ h => nomatch h⟩

theorem SentUnder.trans {rt : Runtime} {c : PyValue} {w w' w'' : World} (h : SentUnder rt c w w')
    (h' : SentUnder rt c w' w'') : SentUnder rt c w w'' := by
  obtain ⟨xs, rfl, hxs⟩ := h
  obtain ⟨ys, rfl, hys⟩ := h'
  exact ⟨xs ++ ys, World.append_append w xs ys, List.forall_mem_append.mpr ⟨hxs, hys⟩⟩

/-- A connection whose metadata catalog is known makes no discovery. -/
theorem settled_of_metadataCatalog {conn : Connection} {c : PyValue}
    (h : conn.metadataCatalog = some c) : conn.catalog ≠ none ∨ conn.resolvedCatalog ≠ none := by
  cases hcatalog : conn.catalog with
  | some catalog => exact Or.inl (Option.some_ne_none _)
  | none =>
    right
    intro hresolved
    rw [Connection.metadataCatalog, hcatalog, hresolved] at h
    cases h

/-- **The pattern keeps to the catalog.** -/
theorem withFallback_sentUnder {α : Type} {rt : Runtime} {srv : Server} {kind : Metadata}
    {ask : Option PyValue → Method α} {isEmpty : α → Prop} [DecidablePred isEmpty]
    {skip : Option PyValue → Bool} (hask : Asks rt (kind.owns rt) ask isEmpty skip) {w : World}
    {c : PyValue} (hscope : w.connection.metadataCatalog = some c) :
    SentUnder rt c w (withFallback rt srv ask isEmpty skip w).2 := by
  cases hopen : w.clientClosed with
  | true =>
    obtain ⟨e, hrun⟩ := hask.closed w.connection.metadataCatalog hopen
    rw [withFallback, Run.bind_ok (Run.gets_run _ w), Run.bind_error hrun]
    exact SentUnder.refl rt c w
  | false =>
    obtain ⟨evs, hrun, hscoped⟩ :=
      withFallback_settled srv hask hopen (settled_of_metadataCatalog hscope)
    rw [hscope] at hscoped
    refine ⟨evs, hrun, fun e he => ?_⟩
    exact Event.isRequest.names ((hscoped e he).imp fun _ h => ⟨kind, h⟩)

/-- **A call of the five kinds keeps to the catalog.** -/
theorem Call.run_sentUnder (rt : Runtime) (srv : Server) (call : Call) {w : World} {c : PyValue}
    (hscope : w.connection.metadataCatalog = some c) : SentUnder rt c w (call.run rt srv w) := by
  refine call.run_keeps (fun _ w' hw' => ?_) (fun _ requestedSchema request w' hw' => ?_)
    (SentUnder.refl rt c w)
  · refine hw'.trans ?_
    obtain ⟨evs, rfl, -⟩ := hw'
    rw [scopedSchemaNames_eq]
    exact withFallback_sentUnder (schemaNames_asks rt srv) hscope
  · refine hw'.trans ?_
    obtain ⟨evs, rfl, -⟩ := hw'
    rw [getTableMetadata_eq]
    exact withFallback_sentUnder (fetchTableMetadata_asks rt srv requestedSchema request) hscope

/-! ## Calls that do not -/

/-- Nothing but the log changes, and in it are only DoGets. -/
theorem readFirstEndpoint_append (srv : Server) (info : FlightInfo) (w : World) :
    ∃ r evs, readFirstEndpoint srv info w = (r, w.append evs) := by
  rw [readFirstEndpoint]
  cases hticket : firstTicket info with
  | error e => exact ⟨.error e, [], by rw [World.append_nil]; rfl⟩
  | ok ticket =>
    show ∃ r evs, (doGet srv ticket >>= fun reader => Run.ofExcept (readAll reader)) w = (r, w.append evs)
    rcases hget : doGet srv ticket w with ⟨r, w'⟩
    have hlog : ∃ evs, w' = w.append evs := by
      have h := congrArg Prod.snd hget
      rw [doGet, checkClosed] at h
      split at h
      · exact ⟨[], by rw [World.append_nil]; exact h.symm⟩
      · exact ⟨[_], h.symm⟩
    obtain ⟨evs, rfl⟩ := hlog
    cases r with
    | error e => exact ⟨.error e, evs, Run.bind_error hget⟩
    | ok reader => exact ⟨readAll reader, evs, by rw [Run.bind_ok hget]; rfl⟩

/-- The two methods for keys, with their command. -/
def keysMethod (rt : Runtime) (srv : Server) (command : Command) :
    Method (List (Dict String PyValue)) :=
  connectionMethod do
    let info ← getFlightInfo srv command
    let payload ← readFirstEndpoint srv info
    Run.ofExcept (payloadRows rt payload)

theorem connectionMethod_snd {α : Type} {m : Method α} {w : World} (hopen : w.connection.closed = false) :
    (connectionMethod m w).2 = (m w).2 := by
  rw [connectionMethod, checkClosed_open hopen, translateErrors_snd]

/-- **An open connection sends the command** as it is. -/
theorem keysMethod_sends (rt : Runtime) (srv : Server) (command : Command) {w : World}
    (hopen : w.connection.closed = false) (hclient : w.clientClosed = false) :
    ∃ reply evs, (keysMethod rt srv command w).2 = w.append (.flightInfo command reply :: evs) := by
  rw [keysMethod, connectionMethod_snd hopen]
  cases hreply : srv.getFlightInfo w.log command with
  | error e =>
    have hrun : getFlightInfo srv command w = (.error e, w.record (.flightInfo command (.error e))) := by
      rw [getFlightInfo, checkClosed_open hclient, rpc_error hreply]
    refine ⟨.error e, [], ?_⟩
    rw [Run.bind_error hrun]
    rfl
  | ok info =>
    let w₁ : World := w.record (.flightInfo command (.ok info))
    rw [Run.bind_ok (getFlightInfo_ok hclient hreply)]
    obtain ⟨r, evs, hread⟩ := readFirstEndpoint_append srv info w₁
    refine ⟨.ok info, evs, ?_⟩
    have hworld : w₁.append evs = w.append (.flightInfo command (.ok info) :: evs) :=
      World.append_append w [.flightInfo command (.ok info)] evs
    cases r with
    | error e =>
      rw [Run.bind_error hread]
      exact hworld
    | ok payload =>
      rw [Run.bind_ok hread]
      exact hworld

/-- A closed connection or client sends nothing. -/
theorem keysMethod_closed (rt : Runtime) (srv : Server) (command : Command) {w : World}
    (hclosed : w.connection.closed = true ∨ w.clientClosed = true) :
    (keysMethod rt srv command w).2 = w := by
  cases hopen : w.connection.closed with
  | true =>
    rw [keysMethod, connectionMethod, checkClosed_closed hopen]
  | false =>
    have hclient : w.clientClosed = true := by
      rcases hclosed with h | h
      · rw [hopen] at h
        cases h
      · exact h
    rw [keysMethod, connectionMethod_snd hopen]
    have hrun : getFlightInfo srv command w = (.error (.error "FlightSQLClient already closed"), w) := by
      rw [getFlightInfo, checkClosed_closed hclient]
      rfl
    rw [Run.bind_error hrun]

/-! ## Runs -/

/-- Nothing can be sent: the connection or its client is closed. -/
def World.silent (w : World) : Prop := w.connection.closed = true ∨ w.clientClosed = true

/-- A method for keys names the catalog only by sending nothing. -/
theorem keysMethod_names_iff (rt : Runtime) (srv : Server) {command : Command} {w : World} {c : PyValue}
    (hcommand : ∀ reply, ¬(Event.flightInfo command reply).names rt c) :
    ∃ evs, (keysMethod rt srv command w).2 = w.append evs ∧
      ((∀ e ∈ evs, e.names rt c) ↔ w.silent) := by
  by_cases hsilent : w.silent
  · refine ⟨[], ?_, iff_of_true (fun _ h => nomatch h) hsilent⟩
    rw [keysMethod_closed rt srv command hsilent, World.append_nil]
  · have hopen : w.connection.closed = false := Bool.eq_false_iff.mpr fun h => hsilent (Or.inl h)
    have hclient : w.clientClosed = false := Bool.eq_false_iff.mpr fun h => hsilent (Or.inr h)
    obtain ⟨reply, evs, hrun⟩ := keysMethod_sends rt srv command hopen hclient
    refine ⟨_, hrun, iff_of_false (fun hall => ?_) hsilent⟩
    exact hcommand reply (hall _ List.mem_cons_self)

/-- **One call**: its requests name the catalog unless it asks for keys. -/
theorem MetadataCall.run_names_iff (rt : Runtime) (srv : Server) (call : MetadataCall) {w : World}
    {c : PyValue} (hscope : w.connection.metadataCatalog = some c) :
    ∃ evs, call.run rt srv w = w.append evs ∧
      ((∀ e ∈ evs, e.names rt c) ↔ w.silent ∨ call.isKeys = false) := by
  cases call with
  | call call =>
    obtain ⟨evs, hrun, hnames⟩ := call.run_sentUnder rt srv hscope
    exact ⟨evs, hrun, iff_of_true hnames (Or.inr rfl)⟩
  | getPrimaryKeys table schema =>
    have hcommand : ∀ reply, ¬(Event.flightInfo (.getPrimaryKeys none schema table) reply).names rt c :=
      fun _ => catalogField_ne_none rt c
    obtain ⟨evs, hrun, hiff⟩ := keysMethod_names_iff rt srv (w := w) hcommand
    have hkeys : ¬(MetadataCall.getPrimaryKeys table schema).isKeys = false := Bool.false_ne_true.symm
    exact ⟨evs, hrun, hiff.trans (or_iff_left hkeys).symm⟩
  | getForeignKeys table schema =>
    have hcommand : ∀ reply, ¬(Event.flightInfo (.getImportedKeys none schema table) reply).names rt c :=
      fun _ => catalogField_ne_none rt c
    obtain ⟨evs, hrun, hiff⟩ := keysMethod_names_iff rt srv (w := w) hcommand
    have hkeys : ¬(MetadataCall.getForeignKeys table schema).isKeys = false := Bool.false_ne_true.symm
    exact ⟨evs, hrun, hiff.trans (or_iff_left hkeys).symm⟩

/-- **And a run**, by induction on its calls: none of them changes the catalog or closes anything. -/
theorem runMetadata_names_iff (rt : Runtime) (srv : Server) (calls : List MetadataCall) {w : World}
    {c : PyValue} (hscope : w.connection.metadataCatalog = some c) :
    ∃ evs, runMetadata rt srv calls w = w.append evs ∧
      ((∀ e ∈ evs, e.names rt c) ↔ w.silent ∨ ∀ call ∈ calls, call.isKeys = false) := by
  induction calls generalizing w with
  | nil =>
    refine ⟨[], w.append_nil.symm, iff_of_true (fun _ h => nomatch h) (Or.inr fun _ h => nomatch h)⟩
  | cons call calls ih =>
    obtain ⟨xs, hone, hxs⟩ := call.run_names_iff rt srv hscope
    obtain ⟨ys, hrest, hys⟩ := ih (w := w.append xs) hscope
    refine ⟨xs ++ ys, ?_, ?_⟩
    · show runMetadata rt srv calls (call.run rt srv w) = _
      rw [hone, hrest, World.append_append]
    · have hsilent : (w.append xs).silent ↔ w.silent := Iff.rfl
      rw [List.forall_mem_append, hxs, hys, hsilent, List.forall_mem_cons]
      constructor
      · rintro ⟨hcall | hcall, hcalls | hcalls⟩
        · exact Or.inl hcall
        · exact Or.inl hcall
        · exact Or.inl hcalls
        · exact Or.inr ⟨hcall, hcalls⟩
      · rintro (h | ⟨hcall, hcalls⟩)
        · exact ⟨Or.inl h, Or.inl h⟩
        · exact ⟨Or.inr hcall, Or.inr hcalls⟩

/-- **When one catalog scopes all metadata.**  For every server, every run of metadata calls of any kind
    after which the connection's metadata catalog is `c`, given or resolved on the way, and every run
    that follows: all of its requests that can name a catalog name `c` exactly when it asks for no
    keys, or nothing can be sent at all. -/
theorem metadataCatalog_scopesAll_iff (rt : Runtime) (srv : Server) (w₀ : World)
    (before : List MetadataCall) {c : PyValue}
    (hscope : (runMetadata rt srv before w₀).connection.metadataCatalog = some c)
    (later : List MetadataCall) :
    ∃ evs, (runMetadata rt srv later (runMetadata rt srv before w₀)).log =
        (runMetadata rt srv before w₀).log ++ evs ∧
      ((∀ e ∈ evs, e.names rt c) ↔
        (runMetadata rt srv before w₀).silent ∨ ∀ call ∈ later, call.isKeys = false) := by
  obtain ⟨evs, hrun, hiff⟩ := runMetadata_names_iff rt srv later hscope
  exact ⟨evs, congrArg World.log hrun, hiff⟩

/-- The theorem on a catalog that the first call resolves and the second keeps to. -/
theorem metadataCatalog_scopesAll_scopedOnly :
    (runMetadata .reference .scopedOnly [.call (.getTableNames none)] .initial).connection.metadataCatalog =
        some (.str "datafusion") ∧
      ∃ evs, (runMetadata .reference .scopedOnly [.call .getSchemaNames]
          (runMetadata .reference .scopedOnly [.call (.getTableNames none)] .initial)).log =
          (runMetadata .reference .scopedOnly [.call (.getTableNames none)] .initial).log ++ evs ∧
        ∀ e ∈ evs, e.names .reference (.str "datafusion") := by
  refine ⟨rfl, ?_⟩
  obtain ⟨evs, hlog, hiff⟩ := metadataCatalog_scopesAll_iff .reference .scopedOnly .initial
    [.call (.getTableNames none)] (c := .str "datafusion") rfl [.call .getSchemaNames]
  exact ⟨evs, hlog, hiff.mpr (Or.inr (by decide))⟩

/-- A connection to one of two catalogs. -/
def World.explicit : World := { World.initial with connection := ⟨false, some "sales", none⟩ }

/-- **Keys are asked of every catalog.** -/
theorem getPrimaryKeys_unscoped :
    (runMetadata .reference .scopedOnly [] World.explicit).connection.metadataCatalog =
        some (.str "sales") ∧
      ∃ e ∈ (runMetadata .reference .scopedOnly [.getPrimaryKeys "orders" none] World.explicit).log,
        ¬e.names .reference (.str "sales") :=
  ⟨rfl, _, List.mem_cons_self, catalogField_ne_none .reference (.str "sales")⟩

end FlightSql
