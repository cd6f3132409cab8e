/-
  Which value each parameter is built from — the order in `build_parameter_record`.

  1. **Placeholder names** — the index read back out of `$i` is `i` (`placeholderIndex_placeholder`), so
     different indices have different names.

  2. **Set equality is a permutation** — names as many as the placeholders and with the same set are the
     placeholders in some order (`isNumbered_iff`).

  3. **The batch** (`buildParameterRecord_placeholders`) — `sources` lists, column by column, the index
     of the value a column is built from; it is a permutation of all indices.
-/
import Mathlib
import FlightSql.Reference
import FlightSql.Parameters

set_option linter.unusedVariables false

namespace FlightSql

open Arrow Lib

/-! ## Placeholder names -/

/-- **Reading an index back** out of its placeholder. -/
theorem placeholderIndex_placeholder (i : Nat) : placeholderIndex ("$" ++ toString (i + 1)) = i := by
  have hdigits : (("$" ++ toString (i + 1)).toList.drop 1) = (Nat.repr (i + 1)).toList := by
    rw [String.toList_append]
    rfl
  rw [placeholderIndex, hdigits, String.ofList_toList, Nat.toNat?_repr]
  rfl

theorem placeholders_length (n : Nat) : (placeholders n).length = n := by
  rw [placeholders, List.length_map, List.length_range]

/-- Read back, the placeholders are the indices in order. -/
theorem map_placeholderIndex (n : Nat) : (placeholders n).map placeholderIndex = List.range n := by
  rw [placeholders, List.map_map]
  calc (List.range n).map (placeholderIndex ∘ fun i => "$" ++ toString (i + 1))
      = (List.range n).map id := List.map_congr_left fun i _ => placeholderIndex_placeholder i
    _ = List.range n := List.map_id _

/-- No two placeholders are the same name. -/
theorem nodup_placeholders (n : Nat) : (placeholders n).Nodup := by
  apply List.Nodup.of_map placeholderIndex
  rw [map_placeholderIndex]
  exact List.nodup_range

/-- The set of the names is that of the placeholders. -/
theorem isNumbered_eq_true_iff {names : List String} {n : Nat} :
    isNumbered names n = true ↔ names ⊆ placeholders n ∧ placeholders n ⊆ names := by
  rw [isNumbered, Bool.and_eq_true, List.all_eq_true, List.all_eq_true]
  simp only [decide_eq_true_eq]
  rfl

/-- **As many names with the same set are a permutation.** -/
theorem isNumbered_iff {names : List String} {n : Nat} (hlength : names.length = n) :
    isNumbered names n = true ↔ names.Perm (placeholders n) := by
  rw [isNumbered_eq_true_iff]
  constructor
  · rintro ⟨-, hall⟩
    have hsub : (placeholders n).Subperm names := List.subperm_of_subset (nodup_placeholders n) hall
    have hle : names.length ≤ (placeholders n).length := by rw [hlength, placeholders_length]
    exact (hsub.perm_of_length_le hle).symm
  · exact fun hperm => ⟨hperm.subset, hperm.symm.subset⟩

/-! ## The batch -/

/-- The names of a parameter schema. -/
def Arrow.Schema.names (schema : Schema) : List String := schema.fields.map fun f => f.info.name

/-- **Where each column's value comes from**: by placeholder if the names are the placeholders, else by
    position. -/
def sources (schema : Schema) : List Nat :=
  if isNumbered schema.names schema.fields.length then schema.names.map placeholderIndex
  else List.range schema.fields.length

theorem sources_length (schema : Schema) : (sources schema).length = schema.fields.length := by
  rw [sources]
  split
  · rw [List.length_map, Schema.names, List.length_map]
  · exact List.length_range

/-- **No value is used twice or dropped.** -/
theorem sources_perm (schema : Schema) :
    (sources schema).Perm (List.range schema.fields.length) := by
  rw [sources]
  split
  · rename_i hnumbered
    have hlength : schema.names.length = schema.fields.length := by rw [Schema.names, List.length_map]
    have hperm := ((isNumbered_iff hlength).mp hnumbered).map placeholderIndex
    rw [map_placeholderIndex] at hperm
    exact hperm
  · exact List.Perm.refl _

/-- The typed batch binds each field to the value at its source. -/
theorem bindTyped_eq (b : ArrayBuilder) {values : List PyValue} {schema : Schema}
    (hlength : schema.fields.length = values.length) :
    bindTyped b values schema = (do
      let columns ← (schema.fields.zip (sources schema)).mapM fun p =>
        bindValue b p.1 (values.getD p.2 .none)
      .ok ⟨nullableSchema schema, columns⟩) := by
  have hpairs : schema.fields.zip (sources schema) = schema.fields.zipIdx.map fun p =>
      (p.1, if isNumbered schema.names values.length then placeholderIndex p.1.info.name else p.2) := by
    rw [sources, hlength]
    split
    · calc schema.fields.zip (schema.names.map placeholderIndex)
          = schema.fields.map fun f => (f, placeholderIndex f.info.name) := by
            rw [Schema.names, List.map_map, List.map_prod_left_eq_zip]
            rfl
        _ = (schema.fields.zipIdx.map Prod.fst).map fun f => (f, placeholderIndex f.info.name) := by
            rw [List.zipIdx_map_fst]
        _ = _ := List.map_map
    · rw [← hlength, List.range_eq_range', ← List.zipIdx_eq_zip_range']
      exact (List.map_id _).symm
  rw [bindTyped, hpairs, List.mapM_map]
  rfl

/-- **Parameters reach their placeholders**: what a batch bound against a schema holds. -/
structure BoundInOrder (b : ArrayBuilder) (values : List PyValue) (schema : Schema)
    (batch : RecordBatch) : Prop where
  /-- The server's fields, in their order, every one nullable. -/
  fields : batch.schema.fields = schema.fields.map fun f => ⟨{ f.info with nullable := true }, f.type⟩
  metadata : batch.schema.metadata = schema.metadata
  count : batch.columns.length = values.length
  /-- Column by column, the index of the value it is built from: each index once. -/
  once : ∃ indices : List Nat, indices.Perm (List.range values.length) ∧
    ∀ (k : Nat) (field : Field), schema.fields[k]? = some field →
      ∃ (index : Nat) (value : PyValue) (column : ArrowArray), indices[k]? = some index ∧
      values[index]? = some value ∧ batch.columns[k]? = some column ∧
      bindValue b field value = .ok column
  /-- Under the placeholders' names, in any order, a name says which value. -/
  numbered : schema.names.Perm (placeholders values.length) →
    ∀ (k : Nat) (field : Field) (i : Nat) (value : PyValue), schema.fields[k]? = some field →
      field.info.name = "$" ++ toString (i + 1) → values[i]? = some value →
      ∃ column, batch.columns[k]? = some column ∧ bindValue b field value = .ok column
  /-- Under any other names the position does. -/
  positional : ¬schema.names.Perm (placeholders values.length) →
    ∀ (k : Nat) (field : Field) (value : PyValue), schema.fields[k]? = some field →
      values[k]? = some value → ∃ column, batch.columns[k]? = some column ∧ bindValue b field value = .ok column

/-- The name of a field gives its source, when the names are the placeholders. -/
theorem sources_numbered {schema : Schema} {k : Nat} {field : Field} {i : Nat}
    (hnumbered : isNumbered schema.names schema.fields.length = true)
    (hfield : schema.fields[k]? = some field) (hname : field.info.name = "$" ++ toString (i + 1)) :
    (sources schema)[k]? = some i := by
  rw [sources, if_pos hnumbered, Schema.names, List.map_map, List.getElem?_map, hfield]
  show some (placeholderIndex field.info.name) = some i
  rw [hname, placeholderIndex_placeholder]

/-- Any other names leave every value in its place. -/
theorem sources_positional {schema : Schema} {k : Nat}
    (hnumbered : ¬isNumbered schema.names schema.fields.length = true) (hk : k < schema.fields.length) :
    (sources schema)[k]? = some k := by
  rw [sources, if_neg hnumbered, List.getElem?_range hk]

/-- Each column is bound to the value at its source. -/
theorem bound_at_sources {b : ArrayBuilder} {values : List PyValue} {schema : Schema}
    (hlength : schema.fields.length = values.length) {columns : List ArrowArray}
    (h : (schema.fields.zip (sources schema)).mapM (fun p =>
      bindValue b p.1 (values.getD p.2 .none)) = .ok columns) {k : Nat} {field : Field}
    (hfield : schema.fields[k]? = some field) :
    ∃ index value column, (sources schema)[k]? = some index ∧ values[index]? = some value ∧
      columns[k]? = some column ∧ bindValue b field value = .ok column := by
  have hk : k < (sources schema).length := by
    rw [sources_length]
    exact (List.getElem?_eq_some_iff.mp hfield).1
  have hsource : (sources schema)[k]? = some (sources schema)[k] := List.getElem?_eq_getElem hk
  have hindex : (sources schema)[k] < values.length := by
    have hmem := (sources_perm schema).mem_iff.mp (List.getElem_mem hk)
    rw [hlength] at hmem
    exact List.mem_range.mp hmem
  have hvalue : values[(sources schema)[k]]? = some values[(sources schema)[k]] :=
    List.getElem?_eq_getElem hindex
  have hpair : (schema.fields.zip (sources schema))[k]? = some (field, (sources schema)[k]) := by
    rw [List.getElem?_zip_eq_some]
    exact ⟨hfield, hsource⟩
  obtain ⟨column, hcolumn, hbound⟩ := Outcome.getElem?_of_mapM_eq_ok h hpair
  refine ⟨_, _, column, hsource, hvalue, hcolumn, ?_⟩
  have hget : values.getD (sources schema)[k] .none = values[(sources schema)[k]] := by
    rw [List.getD_eq_getElem?_getD, hvalue, Option.getD_some]
  rw [← hget]
  exact hbound

theorem bound_of_source {b : ArrayBuilder} {values : List PyValue} {schema : Schema}
    (hlength : schema.fields.length = values.length) {columns : List ArrowArray}
    (h : (schema.fields.zip (sources schema)).mapM (fun p =>
      bindValue b p.1 (values.getD p.2 .none)) = .ok columns) {k i : Nat} {field : Field}
    {value : PyValue} (hfield : schema.fields[k]? = some field) (hsource : (sources schema)[k]? = some i)
    (hvalue : values[i]? = some value) :
    ∃ column, columns[k]? = some column ∧ bindValue b field value = .ok column := by
  obtain ⟨index, value', column, hindex, hvalue', hcolumn, hok⟩ := bound_at_sources hlength h hfield
  rw [hsource] at hindex
  cases hindex
  rw [hvalue] at hvalue'
  cases hvalue'
  exact ⟨column, hcolumn, hok⟩

/-- What keeps a typed batch from being built is a column that cannot be bound to the value at its
    source. -/
theorem failed_at_sources {b : ArrayBuilder} {values : List PyValue} {schema : Schema}
    (hlength : schema.fields.length = values.length) {e : Exn}
    (h : (schema.fields.zip (sources schema)).mapM (fun p =>
      bindValue b p.1 (values.getD p.2 .none)) = .error e) :
    ∃ (k index : Nat) (field : Field) (value : PyValue), schema.fields[k]? = some field ∧
      (sources schema)[k]? = some index ∧ values[index]? = some value ∧
      bindValue b field value = .error e := by
  obtain ⟨⟨field, index⟩, hmem, herror⟩ := Outcome.mapM_eq_error h
  obtain ⟨k, hk⟩ := List.mem_iff_getElem?.mp hmem
  obtain ⟨hfield, hindex⟩ := List.getElem?_zip_eq_some.mp hk
  have hlt : index < values.length := by
    have hrange := (sources_perm schema).mem_iff.mp (List.mem_of_getElem? hindex)
    rw [hlength] at hrange
    exact List.mem_range.mp hrange
  have hvalue : values[index]? = some values[index] := List.getElem?_eq_getElem hlt
  refine ⟨k, index, field, values[index], hfield, hindex, hvalue, ?_⟩
  have hget : values.getD index .none = values[index] := by
    rw [List.getD_eq_getElem?_getD, hvalue, Option.getD_some]
  rw [← hget]
  exact herror

/-- A nonempty row that fits a schema without unions takes the typed path. -/
theorem buildParameterRecord_typed (b : ArrayBuilder) {values : List PyValue} {schema : Schema}
    (hsome : 1 ≤ values.length) (hlength : schema.fields.length = values.length)
    (hunion : ∀ field ∈ schema.fields, isUnion field.type = false) :
    buildParameterRecord b values (some schema) = bindTyped b values schema := by
  refine if_neg ?_
  rintro (h | h | h)
  · exact h hlength
  · omega
  · obtain ⟨field, hfield, hyes⟩ := List.any_eq_true.mp h
    rw [hunion field hfield] at hyes
    cases hyes

/-- **Every typed batch is bound in order**, and nothing but a value that cannot be bound to its field
    keeps it from being built. -/
theorem buildParameterRecord_boundInOrder (b : ArrayBuilder) {values : List PyValue} {schema : Schema}
    (hsome : 1 ≤ values.length) (hlength : schema.fields.length = values.length)
    (hunion : ∀ field ∈ schema.fields, isUnion field.type = false) :
    (∀ batch, buildParameterRecord b values (some schema) = .ok batch →
      BoundInOrder b values schema batch) ∧
    ∀ e, buildParameterRecord b values (some schema) = .error e →
      ∃ field ∈ schema.fields, ∃ value ∈ values, bindValue b field value = .error e := by
  have htyped : buildParameterRecord b values (some schema) = bindTyped b values schema :=
    buildParameterRecord_typed b hsome hlength hunion
  have hnames : schema.names.length = values.length := by rw [Schema.names, List.length_map, hlength]
  rw [htyped, bindTyped_eq b hlength]
  constructor
  · intro batch hbatch
    obtain ⟨columns, hcolumns, hbatch⟩ := Outcome.bind_eq_ok hbatch
    cases hbatch
    refine {
      fields := rfl
      metadata := rfl
      count := ?_
      once := ⟨sources schema, ?_, fun k field hfield => bound_at_sources hlength hcolumns hfield⟩
      numbered := ?_
      positional := ?_ }
    · show columns.length = values.length
      rw [Outcome.length_of_mapM_eq_ok hcolumns, List.length_zip, sources_length, hlength, Nat.min_self]
    · rw [← hlength]
      exact sources_perm schema
    · intro hperm k field i value hfield hname hvalue
      have hnumbered : isNumbered schema.names schema.fields.length = true := by
        rw [hlength]
        exact (isNumbered_iff hnames).mpr hperm
      exact bound_of_source hlength hcolumns hfield (sources_numbered hnumbered hfield hname) hvalue
    · intro hperm k field value hfield hvalue
      have hnumbered : ¬isNumbered schema.names schema.fields.length = true := by
        rw [hlength]
        exact fun h => hperm ((isNumbered_iff hnames).mp h)
      have hk : k < schema.fields.length := (List.getElem?_eq_some_iff.mp hfield).1
      exact bound_of_source hlength hcolumns hfield (sources_positional hnumbered hk) hvalue
  · intro e he
    rcases Outcome.bind_eq_error he with he | ⟨columns, -, he⟩
    · obtain ⟨k, index, field, value, hfield, -, hvalue, herror⟩ := failed_at_sources hlength he
      exact ⟨field, List.mem_of_getElem? hfield, value, List.mem_of_getElem? hvalue, herror⟩
    · cases he

/-- Two placeholders, in reverse order. -/
def reversedParameters : Schema :=
  ⟨[⟨⟨"$2", false, []⟩, .scalar .string⟩, ⟨⟨"$1", false, []⟩, .scalar .int64⟩], [("origin", "server")]⟩

theorem buildParameterRecord_reversed :
    ∃ batch, buildParameterRecord .reference [.int 7, .str "seven"] (some reversedParameters) = .ok batch ∧
      BoundInOrder .reference [.int 7, .str "seven"] reversedParameters batch := by
  have hsome : 1 ≤ [PyValue.int 7, .str "seven"].length := by decide
  have hunion : ∀ field ∈ reversedParameters.fields, isUnion field.type = false := by decide
  obtain ⟨horder, -⟩ := buildParameterRecord_boundInOrder .reference hsome rfl hunion
  exact ⟨_, rfl, horder _ rfl⟩

end FlightSql
