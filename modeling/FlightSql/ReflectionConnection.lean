/-
  The package's own connection, as reflection sees it.

  A connection that has SETTLED its scope — an explicit catalog, or a discovery that decided — sends
  every GetTables with the same catalog field.  If the server's answers to these are fixed, whichever of
  them fail, so are those of the four methods reflection calls: `Dbapi.ofServer` is `Fixed`, with the
  answers `expectedMetadata` and `expectedForTable` compute (`fixed_ofServer`).

  1. **The server** (`FixedTables`) — what it answers when it answers.

  2. **One method** (`Provides`) — it returns the pure result or raises nothing of reflection, and the
     scope stays settled; `Provides.bind` follows the structure of the methods.

  Mathlib-free.
-/
import FlightSql.CompliantDiscovery
import FlightSql.ReflectionCoherence
import FlightSql.TableProbe

set_option linter.unusedVariables false

namespace FlightSql

open Arrow Lib

/-! ## The server -/

/-- **A server whose GetTables answers are fixed** under a catalog field: `answer` is what it answers when it
    does.  Neither an exchange nor reading the answer raises an exception of SQLAlchemy. -/
structure FixedTables (rt : Runtime) (srv : Server) (field : Option String)
    (answer : TablesRequest → List Table) : Prop where
  answered : ∀ {w : World} {request : TablesRequest} {tables : List Table},
    (fetch srv (.getTables field request.dbSchemaFilterPattern request.tableNameFilterPattern
      request.includeSchema) w).1 = .ok tables → tables = answer request
  raised : ∀ {w : World} {request : TablesRequest} {e : Exn},
    (fetch srv (.getTables field request.dbSchemaFilterPattern request.tableNameFilterPattern
      request.includeSchema) w).1 = .error e → e.isReflection = false
  unreadable : ∀ {request : TablesRequest} {schema : Option String} {e : Exn},
    tableMetadata rt (answer request) schema = .error e → e.isReflection = false

/-- The scope is settled, and requests are sent with that catalog field. -/
structure Settled (rt : Runtime) (field : Option String) (w : World) : Prop where
  decided : w.connection.catalog ≠ none ∨ w.connection.resolvedCatalog ≠ none
  field : catalogField rt w.connection.metadataCatalog = .ok field

/-- What an answer is read as. -/
def readTables (rt : Runtime) (answer : TablesRequest → List Table) (schema : Option String)
    (request : TablesRequest) : Except Exn TableMetadataResult := tableMetadata rt (answer request) schema

/-! ## One method -/

/-- Translating changes no exception into one of reflection. -/
theorem isReflection_translated {e : Exn} (h : e.isReflection = false) :
    (translated e).isReflection = false := by
  obtain ⟨cls, message⟩ := e
  cases cls with
  | flight c => cases c <;> rfl
  | arrow c => cases c <;> rfl
  | dbapi c => rfl
  | sqlalchemy c => exact h
  | python c => rfl
  | provenance => rfl

/-- Under a settled scope, `m` returns the value of `x` or raises no exception of reflection. -/
def Provides {α : Type} (rt : Runtime) (field : Option String) (m : Method α) (x : Except Exn α) : Prop :=
  Run.Triple (Settled rt field) m (fun a w => x = .ok a ∧ Settled rt field w)
    (fun e w => e.isReflection = false ∧ Settled rt field w)

namespace Provides

variable {α β : Type} {rt : Runtime} {field : Option String} {m : Method α} {x : Except Exn α}

theorem pure (a : α) : Provides rt field (pure a) (.ok a) := Run.Triple.pure fun w hw => ⟨rfl, hw⟩

theorem bind {f : α → Method β} {y : α → Except Exn β} (hm : Provides rt field m x)
    (hf : ∀ a, Provides rt field (f a) (y a)) : Provides rt field (m >>= f) (x >>= y) := by
  refine Run.Triple.bind hm fun a => ?_
  rintro w ⟨hx, hw⟩
  rw [hx]
  exact hf a w hw

theorem ite {p : Prop} [Decidable p] {m' : Method α} {x' : Except Exn α} (hm : Provides rt field m x)
    (hm' : Provides rt field m' x') : Provides rt field (if p then m else m') (if p then x else x') := by
  split
  · exact hm
  · exact hm'

/-- A public method settles what its body does. -/
theorem connectionMethod (hm : Provides rt field m x) : Provides rt field (connectionMethod m) x := by
  intro w hw
  rw [FlightSql.connectionMethod]
  cases hclosed : w.connection.closed with
  | true =>
    rw [checkClosed_closed hclosed]
    exact ⟨rfl, hw⟩
  | false =>
    have h := hm w hw
    rw [checkClosed_open hclosed]
    rcases hrun : m w with ⟨e | a, w'⟩
    · rw [hrun] at h
      rw [translateErrors, Run.tryCatch_error hrun]
      exact ⟨isReflection_translated h.1, h.2⟩
    · rw [hrun] at h
      rw [translateErrors_ok hrun]
      exact h

/-- **It gives the value of `x`**, or a default where there is none to return. -/
theorem gives (hm : Provides rt field m x) {a : α} (ha : ∀ b, x = .ok b → b = a) :
    Gives (Settled rt field) m a :=
  Run.Triple.conseq hm (fun w hw => hw) (fun b w h => ⟨ha b h.1, h.2⟩) fun e w h => h

end Provides

section Server

variable {rt : Runtime} {srv : Server} {field : Option String} {answer : TablesRequest → List Table}

/-- **Under a settled scope a GetTables is one request**, and its answer is not asked for again. -/
theorem getTableMetadata_provides (h : FixedTables rt srv field answer) (schema : Option String)
    (request : TablesRequest) :
    Provides rt field (getTableMetadata rt srv schema request) (readTables rt answer schema request) := by
  intro w hw
  have hask := fetchTableMetadata_asks rt srv schema request
  have hkept : Settled rt field (fetchTableMetadata rt srv schema request w.connection.metadataCatalog w).2 := by
    have hconn := hask.connection w.connection.metadataCatalog w
    exact ⟨by rw [hconn]; exact hw.decided, by rw [hconn]; exact hw.field⟩
  rw [getTableMetadata_eq, withFallback_eq_ask hask hw.decided]
  -- the request as one exchange whose tables are read
  have hsent : fetchTableMetadata rt srv schema request w.connection.metadataCatalog w =
      (fetch srv (.getTables field request.dbSchemaFilterPattern request.tableNameFilterPattern
        request.includeSchema) >>= fun tables => Run.ofExcept (tableMetadata rt tables schema)) w := by
    rw [fetchTableMetadata_eq, scopedRequest, hw.field]
    rfl
  rw [hsent] at hkept ⊢
  rcases hfetch : fetch srv (.getTables field request.dbSchemaFilterPattern request.tableNameFilterPattern
    request.includeSchema) w with ⟨e | tables, w'⟩
  · rw [Run.bind_error hfetch] at hkept ⊢
    exact ⟨h.raised (by rw [hfetch]), hkept⟩
  · have htables : tables = answer request := h.answered (by rw [hfetch])
    subst htables
    rw [Run.bind_ok hfetch] at hkept ⊢
    cases hresult : tableMetadata rt (answer request) schema with
    | error e =>
      rw [hresult] at hkept
      exact ⟨h.unreadable hresult, hkept⟩
    | ok result =>
      rw [hresult] at hkept
      exact ⟨hresult, hkept⟩

/-- The value a computation returns; the empty result where it returns none. -/
def resultOf (x : Except Exn TableMetadataResult) : TableMetadataResult :=
  match x with
  | .ok result => result
  | .error _ => .empty

/-- **What the server's answers make of the methods.** -/
def Answers.ofTables (tables : Option String → TablesRequest → Except Exn TableMetadataResult) : Answers where
  metadata schema := .metadata (resultOf (expectedMetadata tables schema))
  names schema := (resultOf (tables schema ⟨none, schema, false⟩)).tableNames
  probe tableName schema := resultOf (expectedForTable tables tableName schema)
  columns tableName schema := columnsFor tableName (resultOf (expectedForTable tables tableName schema))

theorem tableMetadataForTable_provides (h : FixedTables rt srv field answer) (tableName : String)
    (schema : Option String) :
    Provides rt field (flightsqlGetTableMetadataForTable rt srv tableName schema)
      (expectedForTable (readTables rt answer) tableName schema) := by
  have htables := getTableMetadata_provides h
  refine Provides.connectionMethod ((htables _ _).bind fun result => ?_)
  refine Provides.ite (Provides.pure result) ((htables _ _).bind fun names => ?_)
  exact Provides.ite (Provides.pure _) (Provides.pure result)

/-- **The package's connection has fixed answers**, once its scope is settled, on a server whose GetTables
    answers are. -/
theorem Dbapi.fixed_ofServer (h : FixedTables rt srv field answer) :
    (Dbapi.ofServer rt srv).Fixed (Settled rt field) (.ofTables (readTables rt answer)) where
  metadata := by
    intro schema
    have htables := getTableMetadata_provides h
    have hbody : Provides rt field (flightsqlGetTableMetadata rt srv schema)
        (expectedMetadata (readTables rt answer) schema) := by
      refine Provides.connectionMethod ((htables _ _).bind fun result => ?_)
      refine Provides.ite ((htables _ _).bind fun namesOnly => ?_) (Provides.pure result)
      exact Provides.ite (Provides.pure _) (Provides.pure result)
    refine (hbody.bind fun result => Provides.pure (BulkAnswer.metadata result)).gives fun b hb => ?_
    obtain ⟨result, hresult, hanswer⟩ := Outcome.bind_eq_ok hb
    cases hanswer
    show _ = BulkAnswer.metadata (resultOf (expectedMetadata (readTables rt answer) schema))
    rw [hresult]
    rfl
  names := by
    intro schema
    have hbody := ((getTableMetadata_provides h schema ⟨none, schema, false⟩).bind fun result =>
      Provides.pure result.tableNames).connectionMethod
    refine hbody.gives fun b hb => ?_
    obtain ⟨result, hresult, hanswer⟩ := Outcome.bind_eq_ok hb
    cases hanswer
    show _ = (resultOf (readTables rt answer schema ⟨none, schema, false⟩)).tableNames
    rw [hresult]
    rfl
  probe := by
    intro probe hprobe tableName schema
    cases hprobe
    have hbody := (tableMetadataForTable_provides h tableName schema).bind fun result =>
      Provides.pure (ProbeAnswer.metadata result)
    refine hbody.gives fun b hb => ?_
    obtain ⟨result, hresult, hanswer⟩ := Outcome.bind_eq_ok hb
    cases hanswer
    show _ = ProbeAnswer.metadata (resultOf (expectedForTable (readTables rt answer) tableName schema))
    rw [hresult]
    rfl
  columns := by
    -- the method checks first whether the connection is closed
    intro tableName schema w hw
    show Run.Post _ _ (flightsqlGetColumns rt srv tableName schema w)
    rw [flightsqlGetColumns]
    cases hclosed : w.connection.closed with
    | true =>
      rw [checkClosed_closed hclosed]
      exact ⟨rfl, hw⟩
    | false =>
      have hresult := tableMetadataForTable_provides h tableName schema w hw
      rw [checkClosed_open hclosed]
      rcases hrun : flightsqlGetTableMetadataForTable rt srv tableName schema w with ⟨e | result, w'⟩
      · rw [hrun] at hresult
        rw [Run.bind_error hrun]
        exact hresult
      · rw [hrun] at hresult
        obtain ⟨hexpected, hw'⟩ := hresult
        have hanswer : (Answers.ofTables (readTables rt answer)).columns tableName schema =
            columnsFor tableName result := by
          show columnsFor tableName (resultOf (expectedForTable (readTables rt answer) tableName schema)) = _
          rw [hexpected]
          rfl
        rw [Run.bind_ok hrun, hanswer, columnsFor]
        cases result.columnsByName with
        | none => exact ⟨rfl, hw'⟩
        | some metadata => exact ⟨rfl, hw'⟩

end Server

end FlightSql
