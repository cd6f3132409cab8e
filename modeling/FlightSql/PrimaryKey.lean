/-
  Reflecting a primary key — `get_pk_constraint` of `flightsql/sqlalchemy.py` over the answer of
  `flightsql_get_primary_keys`.

  A GetPrimaryKeys answer has one row for each column of each key it found.  The request names a table, a
  schema only if the caller has one, and never a catalog, so an answer may hold the keys of several tables
  of that name.  Its order is the protocol's: by catalog, schema, table and key (the GROUP of a row), then
  by key sequence.

  THE CODE takes the columns of all rows, and the name of the first row's key.

  WHAT IT IS FOR: one table's key (`IsOneKey`).

  The crux is `isOneKey_iff`: the columns of an ordered answer are one key's exactly if the answer has one
  group and names each column once.  Only one direction needs the order — within a group it is that of
  the key sequence (`Ordered.sequence`).
-/
import Mathlib.Data.List.Forall2
import Mathlib.Data.List.Nodup
import FlightSql.IncludedSchemas
import FlightSql.Endpoints

set_option linter.unusedVariables false

namespace FlightSql

open Arrow Lib

/-! ## The source function -/

/-- `FEATURE_PRIMARY_KEYS`. -/
def featurePrimaryKeys : String := "sqlalchemy-primary-keys"

/-- The dictionary of a primary key. -/
structure PkConstraint where
  constrainedColumns : List PyValue
  name : PyValue
  deriving DecidableEq

/-- `{"constrained_columns": [], "name": None}`. -/
def PkConstraint.empty : PkConstraint := ⟨[], .none⟩

/-- What `get_pk_constraint` makes of the rows. -/
def pkConstraint (columns : List (Dict String PyValue)) : Except Exn PkConstraint :=
  match columns with
  | [] => .ok .empty
  | first :: rest => do
    let names ← (first :: rest).mapM (rowItem "column_name")
    let name ← rowItem "key_name" first
    .ok ⟨names, name⟩

/-- **`get_pk_constraint`**. -/
def getPkConstraint (rt : Runtime) (srv : Server) (features : Dict String String) (tableName : String)
    (schema : Option String) : Method PkConstraint :=
  if features.get? featurePrimaryKeys ≠ some "on" then pure .empty
  else do
    let columns ← flightsqlGetPrimaryKeys rt srv tableName schema
    Run.ofExcept (pkConstraint columns)

/-! ## Answers -/

/-- **The group of a row**: whose key it is of. -/
structure KeyGroup where
  catalogName : Option String
  schemaName : Option String
  tableName : String
  keyName : Option String
  deriving DecidableEq

/-- **A row of a GetPrimaryKeys answer**. -/
structure KeyRow where
  group : KeyGroup
  columnName : String
  keySequence : Int
  deriving DecidableEq

/-- A Python row with these cells. -/
structure Reads (row : Dict String PyValue) (r : KeyRow) : Prop where
  catalogName : row.get? "catalog_name" = some (schemaCell r.group.catalogName)
  schemaName : row.get? "db_schema_name" = some (schemaCell r.group.schemaName)
  tableName : row.get? "table_name" = some (.str r.group.tableName)
  columnName : row.get? "column_name" = some (.str r.columnName)
  keyName : row.get? "key_name" = some (schemaCell r.group.keyName)
  keySequence : row.get? "key_sequence" = some (.int r.keySequence)

/-- **How a server orders names**, with its collation and its place for nulls: no name is before itself. -/
structure Collation where
  before : Option String → Option String → Bool
  irrefl : ∀ name, before name name = false

/-- By catalog, then schema, then table, then key. -/
def KeyGroup.before (c : Collation) (a b : KeyGroup) : Bool :=
  c.before a.catalogName b.catalogName || (a.catalogName = b.catalogName &&
    (c.before a.schemaName b.schemaName || (a.schemaName = b.schemaName &&
      (c.before (some a.tableName) (some b.tableName) || (a.tableName = b.tableName &&
        c.before a.keyName b.keyName)))))

/-- **The protocol's order** of an answer: by group, then by key sequence. -/
def Ordered (c : Collation) (answer : List KeyRow) : Prop :=
  answer.Pairwise fun a b =>
    a.group.before c b.group = true ∨ (a.group = b.group ∧ a.keySequence ≤ b.keySequence)

instance (c : Collation) (answer : List KeyRow) : Decidable (Ordered c answer) :=
  inferInstanceAs (Decidable (answer.Pairwise _))

/-! ## What it is for -/

/-- **One table's key**: columns of one group of the answer, by key sequence and without repeats, with the
    name of the group's key. -/
def IsOneKey (answer : List KeyRow) (constraint : PkConstraint) : Prop :=
  ∃ (group : KeyGroup) (key : List KeyRow), (∀ r ∈ key, r ∈ answer ∧ r.group = group) ∧
    key.Pairwise (fun a b => a.keySequence ≤ b.keySequence) ∧ (key.map KeyRow.columnName).Nodup ∧
    constraint = ⟨key.map fun r => .str r.columnName, schemaCell group.keyName⟩

/-- **All rows are of one group**, and name a column each. -/
def OneGroup (answer : List KeyRow) : Prop :=
  (∀ a ∈ answer, ∀ b ∈ answer, a.group = b.group) ∧ (answer.map KeyRow.columnName).Nodup

instance (answer : List KeyRow) : Decidable (OneGroup answer) := inferInstanceAs (Decidable (_ ∧ _))

/-- What the code returns for an answer. -/
def PkConstraint.ofAnswer : List KeyRow → PkConstraint
  | [] => .empty
  | first :: rest => ⟨(first :: rest).map fun r => .str r.columnName, schemaCell first.group.keyName⟩

theorem KeyGroup.before_irrefl (c : Collation) (g : KeyGroup) : g.before c g = false := by
  simp [KeyGroup.before, c.irrefl]

/-- Within a group the order is that of the key sequence. -/
theorem Ordered.sequence {c : Collation} {answer : List KeyRow} (h : Ordered c answer)
    (hgroup : ∀ a ∈ answer, ∀ b ∈ answer, a.group = b.group) :
    answer.Pairwise fun a b => a.keySequence ≤ b.keySequence := by
  refine List.Pairwise.imp_of_mem (fun {a b} ha hb hab => ?_) h
  rcases hab with hbefore | ⟨-, hsequence⟩
  -- no row goes before another of its own group
  · rw [hgroup a ha b hb, KeyGroup.before_irrefl] at hbefore
    cases hbefore
  · exact hsequence

theorem str_columns_inj {key key' : List KeyRow}
    (h : (key.map fun r => PyValue.str r.columnName) = key'.map fun r => PyValue.str r.columnName) :
    key.map KeyRow.columnName = key'.map KeyRow.columnName := by
  have hstr : ∀ rows : List KeyRow, (rows.map fun r => PyValue.str r.columnName) =
      (rows.map KeyRow.columnName).map PyValue.str := by
    intro rows
    rw [List.map_map]
    rfl
  rw [hstr, hstr] at h
  exact List.map_injective_iff.mpr (fun _ _ h => PyValue.str.inj h) h

/-- The columns of the code are one key's only if the answer is one key. -/
theorem IsOneKey.oneGroup {answer : List KeyRow} (h : IsOneKey answer (.ofAnswer answer)) :
    OneGroup answer := by
  obtain ⟨group, key, hkey, -, hnodup, hconstraint⟩ := h
  -- the code returns the columns of all rows, so they are the columns of this key
  have hcolumns : answer.map KeyRow.columnName = key.map KeyRow.columnName := by
    apply str_columns_inj
    have h := congrArg PkConstraint.constrainedColumns hconstraint
    cases answer with
    | nil => exact h
    | cons first rest => exact h
  rw [← hcolumns] at hnodup
  -- every row names the column of a row of the group, and no other row names it
  have hgroup : ∀ r ∈ answer, r.group = group := by
    intro r hr
    have hmem : r.columnName ∈ key.map KeyRow.columnName := by
      rw [← hcolumns]
      exact List.mem_map_of_mem hr
    obtain ⟨r', hr', hname⟩ := List.mem_map.mp hmem
    obtain ⟨hanswer, hgroup'⟩ := hkey r' hr'
    rw [List.inj_on_of_nodup_map hnodup hr hanswer hname.symm]
    exact hgroup'
  exact ⟨fun a ha b hb => (hgroup a ha).trans (hgroup b hb).symm, hnodup⟩

/-- The columns of one group, in the protocol's order, are one key's. -/
theorem OneGroup.isOneKey {c : Collation} {answer : List KeyRow} (h : OneGroup answer)
    (hordered : Ordered c answer) : IsOneKey answer (.ofAnswer answer) := by
  obtain ⟨hgroup, hnodup⟩ := h
  cases answer with
  | nil =>
    exact ⟨⟨none, none, "", none⟩, [], fun _ h => absurd h List.not_mem_nil, List.Pairwise.nil,
      List.nodup_nil, rfl⟩
  | cons first rest =>
    exact ⟨first.group, first :: rest, fun r hr => ⟨hr, hgroup r hr first List.mem_cons_self⟩,
      hordered.sequence hgroup, hnodup, rfl⟩

theorem isOneKey_iff {c : Collation} {answer : List KeyRow} (hordered : Ordered c answer) :
    IsOneKey answer (.ofAnswer answer) ↔ OneGroup answer :=
  ⟨IsOneKey.oneGroup, fun h => h.isOneKey hordered⟩

/-! ## The code -/

/-- Rows with these cells give their columns. -/
theorem mapM_columnName {rows : List (Dict String PyValue)} {answer : List KeyRow}
    (h : List.Forall₂ Reads rows answer) :
    rows.mapM (rowItem "column_name") = .ok (answer.map fun r => PyValue.str r.columnName) := by
  induction h with
  | nil => rfl
  | cons hrow hrows ih =>
    rw [List.mapM_cons, ih, rowItem, hrow.columnName]
    rfl

/-- What is made of the rows is what is returned for the answer. -/
theorem pkConstraint_reads {rows : List (Dict String PyValue)} {answer : List KeyRow}
    (h : List.Forall₂ Reads rows answer) : pkConstraint rows = .ok (.ofAnswer answer) := by
  cases h with
  | nil => rfl
  | cons hrow hrows =>
    rw [pkConstraint, mapM_columnName (.cons hrow hrows)]
    show (rowItem "key_name" _ >>= _) = _
    rw [rowItem, hrow.keyName]
    rfl

/-- Without the feature, the constraint is empty and nothing is asked. -/
theorem getPkConstraint_off (rt : Runtime) (srv : Server) {features : Dict String String}
    (hoff : features.get? featurePrimaryKeys ≠ some "on") (tableName : String) (schema : Option String)
    (w : World) : getPkConstraint rt srv features tableName schema w = (.ok .empty, w) := by
  rw [getPkConstraint, if_pos hoff]
  rfl

/-- With it, the constraint is made of the answer's rows. -/
theorem getPkConstraint_on {rt : Runtime} {srv : Server} {features : Dict String String}
    (hon : features.get? featurePrimaryKeys = some "on") {tableName : String} {schema : Option String}
    {w w' : World} {rows : List (Dict String PyValue)} {answer : List KeyRow}
    (hread : flightsqlGetPrimaryKeys rt srv tableName schema w = (.ok rows, w'))
    (hrows : List.Forall₂ Reads rows answer) :
    getPkConstraint rt srv features tableName schema w = (.ok (.ofAnswer answer), w') := by
  rw [getPkConstraint, if_neg fun hoff => hoff hon, Run.bind_ok hread, pkConstraint_reads hrows]
  rfl

/-- **When a reflected primary key is one table's key.**  For every answer in the protocol's order, under
    any collation, the call returns: and what it returns is one key exactly if the feature is off, or all
    rows are of one group and name a column each. -/
theorem getPkConstraint_oneKey_iff (rt : Runtime) (srv : Server) (features : Dict String String)
    {tableName : String} {schema : Option String} {w w' : World} {rows : List (Dict String PyValue)}
    {answer : List KeyRow} (c : Collation)
    (hread : flightsqlGetPrimaryKeys rt srv tableName schema w = (.ok rows, w'))
    (hrows : List.Forall₂ Reads rows answer) (hordered : Ordered c answer) :
    ∃ constraint, (getPkConstraint rt srv features tableName schema w).1 = .ok constraint ∧
      (IsOneKey answer constraint ↔ features.get? featurePrimaryKeys ≠ some "on" ∨ OneGroup answer) := by
  by_cases hon : features.get? featurePrimaryKeys = some "on"
  · refine ⟨_, congrArg Prod.fst (getPkConstraint_on hon hread hrows), ?_⟩
    rw [isOneKey_iff hordered]
    constructor
    · exact Or.inr
    · rintro (hoff | hone)
      · exact absurd hon hoff
      · exact hone
  · refine ⟨.empty, congrArg Prod.fst (getPkConstraint_off rt srv hon tableName schema w), ?_⟩
    refine iff_of_true ?_ (Or.inl hon)
    exact ⟨⟨none, none, "", none⟩, [], fun _ h => absurd h List.not_mem_nil, List.Pairwise.nil,
      List.nodup_nil, rfl⟩

/-! ## Two schemas -/

/-- Nulls first, then by code point. -/
def Collation.reference : Collation where
  before
    | none, some _ => true
    | some s, some t => decide (s < t)
    | _, none => false
  irrefl
    | none => rfl
    | some s => decide_eq_false (String.lt_irrefl s)

/-- The row as Python reads it. -/
def KeyRow.toRow (r : KeyRow) : Dict String PyValue :=
  .ofList [("catalog_name", schemaCell r.group.catalogName), ("db_schema_name", schemaCell r.group.schemaName),
    ("table_name", .str r.group.tableName), ("column_name", .str r.columnName),
    ("key_name", schemaCell r.group.keyName), ("key_sequence", .int r.keySequence)]

theorem forall₂_reads (answer : List KeyRow) : List.Forall₂ Reads (answer.map KeyRow.toRow) answer := by
  rw [List.forall₂_map_left_iff, List.forall₂_same]
  exact fun r _ => ⟨rfl, rfl, rfl, rfl, rfl, rfl⟩

/-- The table of an answer. -/
def keysTable (answer : List KeyRow) : Table :=
  .ofColumns answer.length
    [("catalog_name", .string, answer.map fun r => schemaCell r.group.catalogName),
      ("db_schema_name", .string, answer.map fun r => schemaCell r.group.schemaName),
      ("table_name", .string, answer.map fun r => .str r.group.tableName),
      ("column_name", .string, answer.map fun r => .str r.columnName),
      ("key_name", .string, answer.map fun r => schemaCell r.group.keyName),
      ("key_sequence", .int32, answer.map fun r => .int r.keySequence)]
    (by simp)

/-- A server with one answer. -/
def Server.keys (answer : List KeyRow) : Server :=
  .fixed (fun _ => .ok (.ofTickets [[0]])) fun _ => .ok (.ofTable (keysTable answer))

/-- The key of `sales.orders`. -/
def salesKey : List KeyRow :=
  [⟨⟨none, some "sales", "orders", some "orders_pk"⟩, "region", 1⟩,
    ⟨⟨none, some "sales", "orders", some "orders_pk"⟩, "id", 2⟩]

/-- The key of `archive.orders`. -/
def archiveKey : List KeyRow := [⟨⟨none, some "archive", "orders", some "archive_pk"⟩, "year", 1⟩]

/-- Reflection that asks for keys. -/
def keysFeatures : Dict String String := .ofList [(featurePrimaryKeys, "on")]

/-- The theorem on a table whose name is in one schema. -/
theorem getPkConstraint_oneSchema :
    ∃ constraint, (getPkConstraint .reference (.keys salesKey) keysFeatures "orders" none .initial).1 =
        .ok constraint ∧ IsOneKey salesKey constraint := by
  obtain ⟨constraint, hrun, hiff⟩ := getPkConstraint_oneKey_iff .reference (.keys salesKey) keysFeatures
    .reference (show flightsqlGetPrimaryKeys .reference (.keys salesKey) "orders" none .initial =
      (.ok (salesKey.map KeyRow.toRow), _) from rfl) (forall₂_reads salesKey) (by decide +kernel)
  exact ⟨constraint, hrun, hiff.mpr (Or.inr (by decide))⟩

/-- **A table whose name is in two schemas** reflects with the columns of both keys. -/
theorem getPkConstraint_twoSchemas :
    flightsqlGetPrimaryKeys .reference (.keys (archiveKey ++ salesKey)) "orders" none .initial =
        (.ok ((archiveKey ++ salesKey).map KeyRow.toRow),
          (flightsqlGetPrimaryKeys .reference (.keys (archiveKey ++ salesKey)) "orders" none .initial).2) ∧
      Ordered .reference (archiveKey ++ salesKey) ∧
      (getPkConstraint .reference (.keys (archiveKey ++ salesKey)) keysFeatures "orders" none .initial).1 =
        .ok ⟨[.str "year", .str "region", .str "id"], .str "archive_pk"⟩ ∧
      ¬IsOneKey (archiveKey ++ salesKey) ⟨[.str "year", .str "region", .str "id"], .str "archive_pk"⟩ := by
  refine ⟨rfl, by decide +kernel, rfl, fun h => ?_⟩
  have hone : OneGroup (archiveKey ++ salesKey) := IsOneKey.oneGroup h
  exact absurd hone (by decide)

end FlightSql
