/-
  How binding fails — the exceptions of `build_parameter_record`, on both of its paths.

  The typed path turns what PyArrow refuses into a `DataError`; the legacy path has no handler.  So the
  package's `Error` is not all a caller can see:

  1. **What PyArrow is relied on for** (`Conversions`) — the five builtin classes go into the children of
     the union, except an `int` outside `int64` and a `str` that UTF-8 cannot encode (`Unencodable`).

  2. **One value** — on the legacy path (`unionArrayForValue_errors`) and on the typed path
     (`bindValue_errors`): when it fails as an `Error`, and when as something else.  On the typed path
     that is a matter of what PyArrow raises: what the handler names is refused (`Refuses`), the rest
     escapes it (`Escapes`), as for a `str` that cannot be encoded.

  3. **The row** (`buildParameterRecord_errors_iff`) — the first value that fails decides, so a row fails
     as an `Error` exactly if every value that fails otherwise comes after one that fails as an `Error`.
     What leaves `Cursor.execute` is that exception, translated.
-/
import FlightSql.Cursor
import FlightSql.PlaceholderOrder

set_option linter.unusedVariables false

namespace FlightSql

open Arrow Lib

/-! ## What PyArrow is relied on for -/

/-- An `int` that `int64` does not hold, or a `str` with a lone surrogate. -/
def Unencodable : PyValue → Prop
  | .int n => n < -9223372036854775808 ∨ 9223372036854775808 ≤ n
  | .surrogates _ => True
  | _ => False

/-- The value is a `str` with a lone surrogate. -/
def IsSurrogates : PyValue → Prop
  | .surrogates _ => True
  | _ => False

/-- **What of PyArrow decides how binding fails**. -/
structure Conversions (b : ArrayBuilder) : Prop where
  empty : ∀ p ∈ unionPositions, ∃ a, b.array [] (some (.scalar p.2)) = .ok a
  /-- The type id and the offset of a union of one value. -/
  index : ∀ n t, 0 ≤ n → n ≤ 127 → t = .int8 ∨ t = .int32 →
    ∃ a, b.array [.int n] (some (.scalar t)) = .ok a
  /-- A value of a builtin class is built as the Arrow type of that class. -/
  own : ∀ v, ¬Unencodable v → ∀ p ∈ unionPositions, v.builtinType = some p.1 →
    ∃ a, b.array [v] (some (.scalar p.2)) = .ok a
  /-- `OverflowError`: the `int` does not fit the C integer. -/
  overflow : ∀ n, Unencodable (.int n) →
    ∃ e, b.array [.int n] (some (.scalar .int64)) = .error e ∧ e.cls = .python .overflowError
  /-- `UnicodeEncodeError`, which is a `ValueError`. -/
  unicode : ∀ v, IsSurrogates v → ∀ type,
    type = none ∨ type = some (.scalar .string) ∨ (∃ t, type = some t ∧ isView t = true) →
    ∃ e, b.array [v] type = .error e ∧ e.cls = .python .valueError
  /-- A dense union of one value, in one of the children. -/
  dense : ∀ (i : Nat) types offsets children, b.array [.int i] (some (.scalar .int8)) = .ok types →
    b.array [.int 0] (some (.scalar .int32)) = .ok offsets → i < children.length →
    ∃ u, b.unionFromDense types offsets children = .ok u

/-- What cannot be encoded belongs to a class the union has. -/
theorem Unencodable.builtinType {v : PyValue} (h : Unencodable v) : v.builtinType ≠ none := by
  cases v <;> first | exact h.elim | simp [PyValue.builtinType]

/-- **How an outcome fails**: as an `Error` exactly when it is refused, and otherwise exactly when it leaks. -/
structure FailsAs {α : Type} (outcome : Except Exn α) (refused leaks : Prop) : Prop where
  refuses : (∃ e, outcome = .error e ∧ e.isError = true) ↔ refused
  leaks : (∃ e, outcome = .error e ∧ ¬e.isError = true) ↔ leaks

section FailsAs

variable {α : Type} {refused leaks : Prop}

theorem FailsAs.of_ok {a : α} (hrefused : ¬refused) (hleaks : ¬leaks) :
    FailsAs (.ok a : Except Exn α) refused leaks := by
  refine ⟨⟨?_, fun hyes => absurd hyes hrefused⟩, ⟨?_, fun hyes => absurd hyes hleaks⟩⟩
  · rintro ⟨e, ⟨⟩, -⟩
  · rintro ⟨e, ⟨⟩, -⟩

theorem FailsAs.of_error {e : Exn} (he : e.isError = true) (hrefused : refused) (hleaks : ¬leaks) :
    FailsAs (.error e : Except Exn α) refused leaks := by
  refine ⟨⟨fun _ => hrefused, fun _ => ⟨e, rfl, he⟩⟩, ⟨?_, fun hyes => absurd hyes hleaks⟩⟩
  rintro ⟨e', ⟨⟩, hno⟩
  exact absurd he hno

theorem FailsAs.of_leak {e : Exn} (he : ¬e.isError = true) (hrefused : ¬refused) (hleaks : leaks) :
    FailsAs (.error e : Except Exn α) refused leaks := by
  refine ⟨⟨?_, fun hyes => absurd hyes hrefused⟩, ⟨fun _ => hleaks, fun _ => ⟨e, rfl, he⟩⟩⟩
  rintro ⟨e', ⟨⟩, hyes⟩
  exact absurd hyes he

end FailsAs

/-! ## One value -/

section OneValue

variable {b : ArrayBuilder}

/-- The children are built in order, so the child of the value's own class decides. -/
theorem unionChildren_ok (h : Conversions b) {v : PyValue} (hv : ¬Unencodable v) :
    ∃ children, unionChildren b v = .ok children := by
  have hall : ∀ p ∈ unionPositions, ∃ a,
      b.array (if v.builtinType = some p.1 then [v] else []) (some (.scalar p.2)) = .ok a := by
    intro p hp
    by_cases hown : v.builtinType = some p.1
    · rw [if_pos hown]
      exact h.own v hv p hp hown
    · rw [if_neg hown]
      exact h.empty p hp
  cases hchildren : unionChildren b v with
  | ok children => exact ⟨children, rfl⟩
  | error e =>
    obtain ⟨⟨t, arrowType⟩, hp, herror⟩ := Outcome.mapM_eq_error hchildren
    obtain ⟨a, ha⟩ := hall _ hp
    cases ha.symm.trans herror

/-- A value of a class the union has, and that can be encoded, has its union. -/
theorem unionArrayForValue_ok (h : Conversions b) {v : PyValue} (hv : ¬Unencodable v)
    (htype : v.builtinType ≠ none) : ∃ u, unionArrayForValue b v = .ok u := by
  obtain ⟨children, hchildren⟩ := unionChildren_ok h hv
  unfold unionArrayForValue
  cases hposition : unionPositions.findIdx? fun p => v.builtinType = some p.1 with
  | none => cases v <;> first | exact absurd rfl htype | simp [unionPositions, PyValue.builtinType] at hposition
  | some typeId =>
    have hposition : typeId < unionPositions.length := (List.findIdx?_eq_some_iff_findIdx_eq.mp hposition).1
    have hlength : unionPositions.length = 5 := rfl
    have hchild : typeId < children.length := by
      rw [Outcome.length_of_mapM_eq_ok hchildren]
      exact hposition
    obtain ⟨types, htypes⟩ := h.index (typeId : Int) .int8 (by omega) (by omega) (Or.inl rfl)
    obtain ⟨offsets, hoffsets⟩ := h.index 0 .int32 (by omega) (by omega) (Or.inr rfl)
    obtain ⟨u, hu⟩ := h.dense typeId types offsets children htypes hoffsets hchild
    refine ⟨u, ?_⟩
    show (unionChildren b v >>= fun children => _) = _
    rw [hchildren]
    show (b.array [.int typeId] (some (.scalar .int8)) >>= fun types => _) = _
    rw [htypes]
    show (b.array [.int 0] (some (.scalar .int32)) >>= fun offsets => _) = _
    rw [hoffsets]
    exact hu

/-- The interpreter's exceptions are none of the package's. -/
theorem not_isError_of_python {e : Exn} {c : PythonClass} (h : e.cls = .python c) : ¬e.isError = true := by
  obtain ⟨cls, message⟩ := e
  obtain rfl : cls = .python c := h
  exact Bool.false_ne_true

/-- A value that cannot be encoded is not what the union refuses: building its child raises. -/
theorem unionArrayForValue_leak (h : Conversions b) {v : PyValue} (hv : Unencodable v) :
    ∃ e, unionArrayForValue b v = .error e ∧ ¬e.isError = true := by
  have hraise : ∀ {e : Exn}, unionChildren b v = .error e → unionArrayForValue b v = .error e := by
    intro e he
    unfold unionArrayForValue
    cases hposition : unionPositions.findIdx? fun p => v.builtinType = some p.1 with
    | none =>
      rw [List.findIdx?_eq_none_iff] at hposition
      cases v <;> first | exact hv.elim | simp [unionPositions, PyValue.builtinType] at hposition
    | some typeId =>
      show (unionChildren b v >>= fun children => _) = _
      rw [he]
      rfl
  cases v with
  | int n =>
    obtain ⟨e, he, hcls⟩ := h.overflow n hv
    refine ⟨e, hraise (Outcome.mapM_eq_error_iff.mpr ?_), not_isError_of_python hcls⟩
    exact ⟨[], ("int", .int64), _, rfl, by simp, he⟩
  | surrogates codePoints =>
    obtain ⟨e, he, hcls⟩ := h.unicode (.surrogates codePoints) trivial _ (Or.inr (Or.inl rfl))
    refine ⟨e, hraise (Outcome.mapM_eq_error_iff.mpr ?_), not_isError_of_python hcls⟩
    refine ⟨[("int", .int64), ("float", .float64)], ("str", .string), _, rfl, ?_, he⟩
    intro p hp
    rcases List.mem_pair.mp hp with rfl | rfl
    · exact h.empty ("int", .int64) (by decide)
    · exact h.empty ("float", .float64) (by decide)
  | none | bool _ | float _ | str _ | bytes _ | decimal _ _ | object _ _ _ => exact hv.elim

/-- **One value on the legacy path** fails as an `Error` if its class is none of the union's, and
    otherwise if it cannot be encoded. -/
theorem unionArrayForValue_errors (h : Conversions b) (v : PyValue) :
    FailsAs (unionArrayForValue b v) (v.builtinType = none) (Unencodable v) := by
  by_cases htype : v.builtinType = none
  · -- the lookup of the class fails before any array is built
    have hraise : unionArrayForValue b v =
        .error (.error ("unable to map \"" ++ v.typeName ++ "\" type to PyArrow datatype")) := by
      unfold unionArrayForValue
      rw [htype]
      rfl
    rw [hraise]
    exact .of_error rfl htype fun hv => hv.builtinType htype
  · by_cases hv : Unencodable v
    · obtain ⟨e, hraise, hleak⟩ := unionArrayForValue_leak h hv
      rw [hraise]
      exact .of_leak hleak htype hv
    · obtain ⟨u, hu⟩ := unionArrayForValue_ok h hv htype
      rw [hu]
      exact .of_ok htype hv

/-- An exception leaves the handler of the typed path as an `Error`. -/
def LeavesAsError (e : Exn) : Prop := isBindError e = true ∨ e.isError = true

/-- The value is refused for the type, in a way the handler of the typed path expects. -/
def Refuses (b : ArrayBuilder) (type : DataType) (value : PyValue) : Prop :=
  ∃ e, buildValue b type (sourceValue type value) = .error e ∧ LeavesAsError e

/-- **PyArrow raises for the value what that handler does not name.** -/
def Escapes (b : ArrayBuilder) (type : DataType) (value : PyValue) : Prop :=
  ∃ e, buildValue b type (sourceValue type value) = .error e ∧ ¬LeavesAsError e

/-- The handler of the typed path, in one equation for each kind of failure. -/
theorem bindValue_error {field : Field} {value : PyValue} {e : Exn}
    (h : buildValue b field.type (sourceValue field.type value) = .error e) :
    ∃ message, bindValue b field value =
      .error (if isBindError e = true then .dataError message else e) := by
  rw [bindValue, h]
  refine ⟨"cannot bind " ++ value.typeName ++ " value to parameter " ++ b.strRepr field.info.name ++
    " of type " ++ b.typeStr field.type, ?_⟩
  dsimp only
  split <;> rfl

/-- **A `str` that cannot be encoded escapes**, whatever the field. -/
theorem escapes_surrogates (h : Conversions b) (type : DataType) {value : PyValue}
    (hv : IsSurrogates value) : Escapes b type value := by
  -- the handler does not name `ValueError`
  have hleaves : ∀ {e : Exn}, e.cls = .python .valueError → ¬LeavesAsError e := by
    rintro ⟨cls, message⟩ rfl
    rintro (hbind | herror)
    · cases hbind
    · cases herror
  cases value with
  | surrogates codePoints =>
    by_cases hview : isView type = true
    · obtain ⟨e, he, hcls⟩ := h.unicode (.surrogates codePoints) hv (some type) (Or.inr (Or.inr ⟨type, rfl, hview⟩))
      refine ⟨e, ?_, hleaves hcls⟩
      rw [buildValue, if_pos hview]
      exact he
    · obtain ⟨e, he, hcls⟩ := h.unicode (.surrogates codePoints) hv none (Or.inl rfl)
      refine ⟨e, ?_, hleaves hcls⟩
      rw [buildValue, if_neg hview]
      show (b.array [.surrogates codePoints] none >>= fun a => b.castSafe a type) = _
      rw [he]
      rfl
  | none | bool _ | int _ | float _ | str _ | bytes _ | decimal _ _ | object _ _ _ => exact hv.elim

/-- **One value on the typed path** fails as an `Error` if it is refused, and otherwise if it escapes. -/
theorem bindValue_errors (b : ArrayBuilder) (field : Field) (v : PyValue) :
    FailsAs (bindValue b field v) (Refuses b field.type v) (Escapes b field.type v) := by
  cases hbuild : buildValue b field.type (sourceValue field.type v) with
  | ok a =>
    have hnone : ∀ P : Exn → Prop,
        ¬∃ e, buildValue b field.type (sourceValue field.type v) = .error e ∧ P e := by
      rintro P ⟨e, he, -⟩
      cases hbuild.symm.trans he
    rw [bindValue, hbuild]
    exact .of_ok (hnone _) (hnone _)
  | error e =>
    obtain ⟨message, hraise⟩ := bindValue_error hbuild
    rw [hraise]
    by_cases hleaves : LeavesAsError e
    · have hrefuses : Refuses b field.type v := ⟨e, hbuild, hleaves⟩
      have hescapes : ¬Escapes b field.type v := by
        rintro ⟨e', he', hnot⟩
        cases hbuild.symm.trans he'
        exact hnot hleaves
      by_cases hbind : isBindError e = true
      · rw [if_pos hbind]
        exact .of_error rfl hrefuses hescapes
      · rw [if_neg hbind]
        exact .of_error (hleaves.resolve_left hbind) hrefuses hescapes
    · have hrefuses : ¬Refuses b field.type v := by
        rintro ⟨e', he', hyes⟩
        cases hbuild.symm.trans he'
        exact hleaves hyes
      rw [if_neg fun hbind => hleaves (Or.inl hbind)]
      exact .of_leak (fun herror => hleaves (Or.inr herror)) hrefuses ⟨e, hbuild, hleaves⟩

end OneValue

/-! ## The row -/

/-- Every element that leaks comes after one that is refused. -/
def RefusedFirst {α : Type} (leaks refused : α → Prop) (xs : List α) : Prop :=
  ∀ before x after, xs = before ++ x :: after → leaks x → ∃ y ∈ before, refused y

/-- The row takes the legacy path. -/
def TakesLegacyPath (values : List PyValue) : Option Schema → Prop
  | none => True
  | some schema =>
    schema.fields.length ≠ values.length ∨ values.length = 0 ∨ schema.fields.any (fun f => isUnion f.type)

/-- On the legacy path every value that cannot be encoded comes after one of a class the union lacks. -/
def LegacySafe (values : List PyValue) : Prop :=
  RefusedFirst Unencodable (fun v => v.builtinType = none) values

/-- On the typed path every value for which PyArrow raises what the handler does not name is bound after one
    that is refused. -/
def TypedSafe (b : ArrayBuilder) (values : List PyValue) (schema : Schema) : Prop :=
  RefusedFirst (fun p : Field × Nat => Escapes b p.1.type (values.getD p.2 .none))
    (fun p => Refuses b p.1.type (values.getD p.2 .none)) (schema.fields.zip (sources schema))

/-- No value can fail otherwise than as an `Error`. -/
def BindingSafe (b : ArrayBuilder) (values : List PyValue) (schema : Option Schema) : Prop :=
  (TakesLegacyPath values schema → LegacySafe values) ∧
    ∀ s, schema = some s → ¬TakesLegacyPath values schema → TypedSafe b values s

/-- A batch of one row, of none for the empty row, or an `Error`. -/
def BindsOrRaises (values : List PyValue) : Except Exn RecordBatch → Prop
  | .ok batch => batch.numRows = if values = [] then 0 else 1
  | .error e => e.isError = true

section Row

variable {b : ArrayBuilder} {values : List PyValue}

/-- A loop over the values fails only as an `Error` if each value that leaks is preceded. -/
theorem mapM_refusedFirst_iff {α β : Type} {f : α → Except Exn β} {leaks refused : α → Prop} {xs : List α}
    (hf : ∀ x, FailsAs (f x) (refused x) (leaks x)) :
    (∀ e, xs.mapM f = .error e → e.isError = true) ↔ RefusedFirst leaks refused xs := by
  rw [Outcome.mapM_errors_iff]
  simp only [(hf _).refuses, (hf _).leaks]
  rfl

theorem buildRecord_errors_iff (h : Conversions b) (values : List PyValue) :
    (∀ e, buildRecord b values = .error e → e.isError = true) ↔ LegacySafe values := by
  rw [LegacySafe, ← mapM_refusedFirst_iff (unionArrayForValue_errors h)]
  cases values with
  | nil => exact ⟨by rintro - e ⟨⟩, by rintro - e ⟨⟩⟩
  | cons v vs =>
    rw [buildRecord, if_neg (by simp)]
    simp only [Outcome.bind_ok_eq_error_iff]

theorem bindTyped_errors_iff {schema : Schema}
    (hlength : schema.fields.length = values.length) :
    (∀ e, bindTyped b values schema = .error e → e.isError = true) ↔ TypedSafe b values schema := by
  rw [TypedSafe, ← mapM_refusedFirst_iff
    (fun p : Field × Nat => bindValue_errors b p.1 (values.getD p.2 .none)), bindTyped_eq b hlength]
  simp only [Outcome.bind_ok_eq_error_iff]

theorem buildParameterRecord_legacy {schema : Option Schema} (h : TakesLegacyPath values schema) :
    buildParameterRecord b values schema = buildRecord b values := by
  cases schema with
  | none => rfl
  | some schema => exact if_pos h

theorem buildParameterRecord_typedPath {schema : Schema} (h : ¬TakesLegacyPath values (some schema)) :
    buildParameterRecord b values (some schema) = bindTyped b values schema ∧
      schema.fields.length = values.length :=
  ⟨if_neg h, Classical.not_not.mp fun hlength => h (Or.inl hlength)⟩

/-- **When a row fails only as an `Error`.** -/
theorem errors_iff_bindingSafe (h : Conversions b) (values : List PyValue)
    (schema : Option Schema) :
    (∀ e, buildParameterRecord b values schema = .error e → e.isError = true) ↔
      BindingSafe b values schema := by
  by_cases hpath : TakesLegacyPath values schema
  · rw [buildParameterRecord_legacy hpath, buildRecord_errors_iff h]
    exact ⟨fun hsafe => ⟨fun _ => hsafe, fun s _ hnot => absurd hpath hnot⟩, fun hsafe => hsafe.1 hpath⟩
  · cases schema with
    | none => exact absurd trivial hpath
    | some schema =>
      obtain ⟨htyped, hlength⟩ := buildParameterRecord_typedPath (b := b) hpath
      rw [htyped, bindTyped_errors_iff hlength]
      constructor
      · intro hsafe
        refine ⟨fun hyes => absurd hyes hpath, ?_⟩
        rintro s ⟨⟩ -
        exact hsafe
      · intro hsafe
        exact hsafe.2 schema rfl hpath

/-- The rows of a batch are as many as the call asks for, so only the exceptions matter. -/
theorem bindsOrRaises_iff (b : ArrayBuilder) (values : List PyValue) (schema : Option Schema) :
    BindsOrRaises values (buildParameterRecord b values schema) ↔
      ∀ e, buildParameterRecord b values schema = .error e → e.isError = true := by
  cases hbuild : buildParameterRecord b values schema with
  | ok batch =>
    refine ⟨by rintro - e ⟨⟩, fun _ => ?_⟩
    show batch.numRows = if values = [] then 0 else 1
    by_cases hnil : values = []
    · subst hnil
      rw [buildParameterRecord_nil] at hbuild
      cases hbuild
      rfl
    · rw [if_neg hnil]
      exact numRows_buildParameterRecord hnil hbuild
  | error e =>
    constructor
    · rintro hyes e' ⟨⟩
      exact hyes
    · intro hall
      exact hall e rfl

end Row

/-! ## Cursor.execute -/

/-- The statement of the query can be prepared, with this parameter schema, and closed. -/
structure Prepares (rt : Runtime) (srv : Server) (query : String) (w : World) (schema : Option Schema) :
    Prop where
  cursor : w.cursor.closed = false
  reply : ∃ reply statement, srv.createPreparedStatement w.log query = .ok reply ∧
    preparedStatement rt reply = .ok statement ∧ statement.parameterSchema = schema
  close : ∀ log handle, srv.closePreparedStatement log handle = .ok ()

/-- The close of an open statement ends as the server answers it. -/
theorem statementClose_fst (srv : Server) {w : World} (hopen : w.statement.closed = false) :
    (statementClose srv w).1 = srv.closePreparedStatement w.log w.statement.handle := by
  rw [statementClose, checkClosed_open hopen, Run.bind_ok (Run.gets_run _ w)]
  cases hreply : srv.closePreparedStatement w.log w.statement.handle with
  | ok u =>
    rw [Run.bind_ok (rpc_ok hreply)]
    rfl
  | error e => rw [Run.bind_error (rpc_error hreply)]

/-- A row that cannot be bound sends nothing. -/
theorem executeRow_bindingFails {rt : Runtime} {srv : Server} {values : List PyValue} {w : World}
    {e : Exn} (he : buildParameterRecord rt.builder values w.statement.parameterSchema = .error e) :
    executeRow rt srv values w = (.error e, w) := by
  rw [executeRow, Run.bind_ok (Run.gets_run _ w)]
  have hbuild : (Run.ofExcept (buildParameterRecord rt.builder values w.statement.parameterSchema) :
      Method RecordBatch) w = (.error e, w) := by
    rw [Run.ofExcept, he]
  exact Run.bind_error hbuild

/-- What binding fails with leaves `Cursor.execute` translated, after the statement is closed. -/
theorem execute_bindingFails {rt : Runtime} {srv : Server} {query : String} {w : World}
    {schema : Option Schema} (h : Prepares rt srv query w schema) {values : List PyValue}
    (hne : values ≠ []) {e : Exn} (he : buildParameterRecord rt.builder values schema = .error e) :
    (execute rt srv query (some values) w).1 = .error (translated e) := by
  obtain ⟨reply, statement, hreply, hstatement, rfl⟩ := h.reply
  obtain ⟨-, -, -, hopen, -⟩ := preparedStatement_eq_ok hstatement
  have hlength : ¬((some values).getD []).length = 0 :=
    fun hzero => hne (List.eq_nil_of_length_eq_zero hzero)
  have hprepare := prepare_ok (w := (resetCursor w).2) hreply hstatement
  rw [execute, checkClosed_open h.cursor]
  refine translateErrors_error ?_
  rw [if_neg hlength]
  show (withPrepared rt srv query _ (resetCursor w).2).1 = _
  rw [withPrepared, Run.bind_ok hprepare]
  -- the body ends where it started, with the statement just prepared
  rw [Run.withExit_fst (u := ())]
  · rw [Run.bind_error (executeRow_bindingFails he)]
  · rw [Run.bind_error (executeRow_bindingFails he)]
    rw [statementClose_fst srv hopen]
    exact h.close _ _

/-! ## The exact condition -/

/-- **When binding fails only with the package's errors**, on whichever path the server's schema
    chooses; and `Cursor.execute` raises what binding raised, which is changed only if it is a Flight or
    Arrow failure. -/
theorem buildParameterRecord_errors_iff {b : ArrayBuilder} (h : Conversions b) (values : List PyValue)
    (schema : Option Schema) :
    (BindsOrRaises values (buildParameterRecord b values schema) ↔ BindingSafe b values schema) ∧
      ∀ (rt : Runtime) (srv : Server) (query : String) (w : World), rt.builder = b → values ≠ [] →
        Prepares rt srv query w schema → ∀ e, buildParameterRecord b values schema = .error e →
          (execute rt srv query (some values) w).1 = .error (translated e) ∧
            (dbapiError e = none → translated e = e) := by
  constructor
  · rw [bindsOrRaises_iff, errors_iff_bindingSafe h]
  · rintro rt srv query w rfl hne hprepares e he
    refine ⟨execute_bindingFails hprepares hne he, fun hnone => ?_⟩
    rw [translated]
    split
    · rfl
    · rw [hnone]

/-! ## A builder that refuses -/

/-- What C makes of an `int` that does not fit. -/
def intTooLarge : Exn := ⟨.python .overflowError, "Python int too large to convert to C long"⟩

/-- What UTF-8 makes of a lone surrogate. -/
def surrogatesNotAllowed : Exn := ⟨.python .valueError, "surrogates not allowed"⟩

/-- Arrays of one value, refused where PyArrow has no encoding; all others as the reference builds them. -/
def strictArray : List PyValue → Option DataType → Except Exn ArrowArray
  | [.int n], some (.scalar .int64) =>
    if n < -9223372036854775808 ∨ 9223372036854775808 ≤ n then .error intTooLarge
    else ArrayBuilder.reference.array [.int n] (some (.scalar .int64))
  | [.surrogates _], _ => .error surrogatesNotAllowed
  | values, type => ArrayBuilder.reference.array values type

/-- **The reference builder with the two refusals.** -/
def ArrayBuilder.strict : ArrayBuilder :=
  { ArrayBuilder.reference with
    array := strictArray
    array_length := by
      intro values type a h
      unfold strictArray at h
      split at h
      · split at h
        · cases h
        · exact ArrayBuilder.reference.array_length h
      · cases h
      · exact ArrayBuilder.reference.array_length h }

/-- **The laws can be met together.** -/
theorem conversions_strict : Conversions .strict where
  empty p hp := ⟨_, rfl⟩
  index n t _ hsmall ht := by
    rcases ht with rfl | rfl <;> exact ⟨_, rfl⟩
  own v hv p hp hown := by
    cases hbuild : strictArray [v] (some (.scalar p.2)) with
    | ok a => exact ⟨a, hbuild⟩
    | error e =>
      unfold strictArray at hbuild
      split at hbuild
      · rename_i n hvalues htype
        cases hvalues
        have hfits : ¬(n < -9223372036854775808 ∨ 9223372036854775808 ≤ n) := hv
        rw [if_neg hfits] at hbuild
        cases hbuild
      · rename_i hvalues
        cases hvalues
        exact absurd trivial hv
      · cases hbuild
  overflow n hn := ⟨intTooLarge, if_pos hn, rfl⟩
  unicode v hv type _ := by
    cases v with
    | surrogates codePoints => exact ⟨surrogatesNotAllowed, rfl, rfl⟩
    | none | bool _ | int _ | float _ | str _ | bytes _ | decimal _ _ | object _ _ _ => exact hv.elim
  dense i types offsets children _ _ _ := ⟨_, rfl⟩

/-- A date stops the row before its last value, which is too large, is reached. -/
theorem buildParameterRecord_dateFirst :
    BindsOrRaises [.int 7, .object "date" 0 true, .int 9223372036854775808]
      (buildParameterRecord .strict [.int 7, .object "date" 0 true, .int 9223372036854775808] none) := by
  refine (buildParameterRecord_errors_iff conversions_strict _ none).1.mpr ⟨fun _ => ?_, by rintro s ⟨⟩⟩
  intro before x after hsplit hx
  rcases before with _ | ⟨v₁, _ | ⟨v₂, before⟩⟩
  · obtain ⟨rfl, -⟩ := List.cons.inj hsplit
    exact absurd hx (by show ¬((7 : Int) < _ ∨ _); omega)
  · obtain ⟨-, hsplit⟩ := List.cons.inj hsplit
    obtain ⟨rfl, -⟩ := List.cons.inj hsplit
    exact hx.elim
  · obtain ⟨-, hsplit⟩ := List.cons.inj hsplit
    obtain ⟨rfl, -⟩ := List.cons.inj hsplit
    exact ⟨.object "date" 0 true, List.mem_cons_of_mem v₁ List.mem_cons_self, rfl⟩

/-- The server of the reference runtime prepares every statement, without a parameter schema. -/
theorem prepares_reference (rt : Runtime) (query : String) :
    Prepares rt (.fixed (fun _ => .ok (.ofTickets [])) fun _ => .ok ⟨none⟩) query .initial none where
  cursor := rfl
  reply := ⟨_, _, rfl, rfl, rfl⟩
  close _ _ := rfl

/-- **`2**63` leaves the legacy path as an `OverflowError`**, and so leaves `Cursor.execute`. -/
theorem buildParameterRecord_overflow :
    Conversions .strict ∧
      ¬BindsOrRaises [.int 9223372036854775808]
        (buildParameterRecord .strict [.int 9223372036854775808] none) ∧
      (execute { Runtime.reference with builder := .strict }
        (.fixed (fun _ => .ok (.ofTickets [])) fun _ => .ok ⟨none⟩) "SELECT ?"
        (some [.int 9223372036854775808]) .initial).1 = .error intTooLarge := by
  have hraise : buildParameterRecord .strict [.int 9223372036854775808] none = .error intTooLarge := rfl
  refine ⟨conversions_strict, ?_, ?_⟩
  · rw [hraise]
    exact Bool.false_ne_true
  · exact @execute_bindingFails { Runtime.reference with builder := .strict } _ _ _ _
      (prepares_reference _ _) _ (List.cons_ne_nil _ _) _ hraise

end FlightSql
