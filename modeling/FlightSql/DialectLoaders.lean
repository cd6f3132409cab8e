/-
  DB API loaders — `FlightSQLDialect.__init_subclass__` over whole class hierarchies.

  THE CODE: SQLAlchemy 1.4 calls a dialect's `dbapi`, SQLAlchemy 2 its `import_dbapi`.  Every subclass gets one
  loader under both names: the one its body defines, else the one that `import_dbapi` is found to be in the
  classes after it.

  WHAT IT IS FOR: the loader is the one defined, under either name, by the first class that defines any
  (`OneLoader`).

  1. **Classes** — what a body defines and what `__dict__` has afterwards are two things: a subclass of the
     dialect that defines nothing has both names all the same.

  2. **What is found** (`getattr_loader`) — in a hierarchy as the code leaves it, the lookup ends at the first
     class that is a dialect or defines `import_dbapi`, with the loader nearest to THAT class.

  3. **Runs** (`oneLoader_iff`) — the loader nearest to it is that of the new class too, exactly where no mixin
     with only `dbapi` and no other branch's definition stands between.

  Mathlib-free.
-/
import FlightSql.Exceptions
import FlightSql.Lib.Linearization
import FlightSql.Lib.Run

set_option linter.unusedVariables false

namespace FlightSql

open Lib Lib.Linearization

/-! ## Classes -/

/-- A function, by identity. -/
abbrev Loader := Nat

/-- A class, by the order of creation. -/
abbrev ClassId := Nat

/-- An attribute in a class: a class method of a function, or something else (a function, a static
    method). -/
inductive Attribute where
  | classMethod (function : Loader)
  | other
  deriving DecidableEq, Repr

/-- `import_dbapi` and `dbapi` of a class. -/
structure LoaderNames where
  importDbapi : Option Attribute
  dbapi : Option Attribute
  deriving DecidableEq, Repr

/-- `cls.import_dbapi = classmethod(loader)`; `cls.dbapi = classmethod(loader)`. -/
def LoaderNames.both (loader : Loader) : LoaderNames := ⟨some (.classMethod loader), some (.classMethod loader)⟩

/-- **A class**: the order of its lookup, what its body defines, and what its `__dict__` has. -/
structure PyClass where
  mro : List ClassId
  body : LoaderNames
  dict : LoaderNames
  deriving DecidableEq, Repr

/-- **The classes created so far**, and which of them is `FlightSQLDialect`. -/
structure Hierarchy where
  classes : List PyClass
  dialect : Option ClassId
  deriving DecidableEq, Repr

/-- A class statement. -/
structure ClassStatement where
  bases : List ClassId
  body : LoaderNames

namespace Hierarchy

def empty : Hierarchy := ⟨[], none⟩

/-- `cls.__mro__`. -/
def mroOf (h : Hierarchy) (i : ClassId) : List ClassId := (h.classes[i]?.map PyClass.mro).getD []

/-- The order of lookup after the new class itself; none where the bases have no consistent one, or do not
    exist. -/
def linearize (h : Hierarchy) (bases : List ClassId) : Option (List ClassId) :=
  if bases.all (· < h.classes.length) then merge (bases.map h.mroOf ++ [bases]) else none

/-- `FlightSQLDialect` stands in the order of lookup. -/
def isDialect (h : Hierarchy) (mro : List ClassId) : Bool := h.dialect.any (· ∈ mro)

/-- `getattr(cls, "import_dbapi")`, before it is bound, for a class that does not define it. -/
def getattr (h : Hierarchy) (mro : List ClassId) : Option Attribute :=
  mro.findSome? fun i => h.classes[i]?.bind fun c => c.dict.importDbapi

end Hierarchy

/-- `_dbapi_loader_function`. -/
def dbapiLoaderFunction (name : String) : Attribute → Except Exn Loader
  | .classMethod function => .ok function
  | .other => .error ⟨.python .typeError, name ++ " must be declared with @classmethod"⟩

/-- `FlightSQLDialect.__init_subclass__`: the loader that it binds to both names. -/
def initSubclass (h : Hierarchy) (mro : List ClassId) (body : LoaderNames) : Except Exn Loader :=
  match body.importDbapi, body.dbapi with
  | some directImport, some directLegacy => do
    let importLoader ← dbapiLoaderFunction "import_dbapi" directImport
    let legacyLoader ← dbapiLoaderFunction "dbapi" directLegacy
    if importLoader ≠ legacyLoader then
      .error ⟨.python .typeError,
        "define only import_dbapi or dbapi; SQLAlchemy 1.4 and 2.x must use one loader"⟩
    else .ok importLoader
  | some directImport, none => dbapiLoaderFunction "import_dbapi" directImport
  | none, some directLegacy => dbapiLoaderFunction "dbapi" directLegacy
  | none, none =>
    match h.getattr mro with
    | some (.classMethod function) => .ok function
    | some .other => .error ⟨.python .attributeError, "'function' object has no attribute '__func__'"⟩
    | none => .error ⟨.python .attributeError, "type object has no attribute 'import_dbapi'"⟩

/-- **The creation of a class**, subclasses of `FlightSQLDialect` through its hook. -/
def declareClass (h : Hierarchy) (statement : ClassStatement) : Except Exn PyClass :=
  match h.linearize statement.bases with
  | none =>
    .error ⟨.python .typeError, "Cannot create a consistent method resolution order (MRO) for bases"⟩
  | some mro =>
    if h.isDialect mro then do
      let loader ← initSubclass h mro statement.body
      .ok ⟨h.classes.length :: mro, statement.body, .both loader⟩
    else .ok ⟨h.classes.length :: mro, statement.body, statement.body⟩

/-- **A step of a program**: a class statement, or the creation of `FlightSQLDialect` itself, once, with its
    two class methods of one function. -/
inductive HierarchyStep where
  | classStatement (statement : ClassStatement)
  | flightSqlDialect (bases : List ClassId) (importFlightsqlDbapi : Loader)

/-- A step that raises leaves no class. -/
def HierarchyStep.run : HierarchyStep → Run Hierarchy Exn Unit
  | .classStatement statement => fun h =>
    match declareClass h statement with
    | .ok c => (.ok (), { h with classes := h.classes ++ [c] })
    | .error e => (.error e, h)
  | .flightSqlDialect bases loader => fun h =>
    match h.dialect, h.linearize bases with
    | some _, _ => (.ok (), h)
    | none, none => (.error ⟨.python .typeError, "Cannot create a consistent method resolution order (MRO)"⟩, h)
    | none, some mro =>
      (.ok (), ⟨h.classes ++ [⟨h.classes.length :: mro, .both loader, .both loader⟩], some h.classes.length⟩)

/-! ## What is asked of a class -/

/-- What a class defines under either name, under `import_dbapi` first. -/
def LoaderNames.declared (names : LoaderNames) : Option Attribute := names.importDbapi.or names.dbapi

def Attribute.loader : Attribute → Option Loader
  | .classMethod function => some function
  | .other => none

/-- **The nearest loader**: of the first class in the order that defines one under either name. -/
def Hierarchy.nearestLoader (h : Hierarchy) (mro : List ClassId) : Option Loader :=
  (mro.findSome? fun i => h.classes[i]?.bind fun c => c.body.declared).bind Attribute.loader

/-- The nearest loader of a class with this body, and this order after it. -/
def Hierarchy.nearestLoaderOf (h : Hierarchy) (body : LoaderNames) (mro : List ClassId) : Option Loader :=
  match body.declared with
  | some defined => defined.loader
  | none => h.nearestLoader mro

/-- The body defines both names with different functions, or one not as a class method. -/
inductive Ambiguous : LoaderNames → Prop where
  | different {f g : Loader} (hne : f ≠ g) : Ambiguous ⟨some (.classMethod f), some (.classMethod g)⟩
  | importDbapi {dbapi : Option Attribute} : Ambiguous ⟨some .other, dbapi⟩
  | dbapi {importDbapi : Option Attribute} : Ambiguous ⟨importDbapi, some .other⟩

/-- **One loader**: the creation of a subclass of `FlightSQLDialect` raises `TypeError` for an ambiguous
    body, or leaves both names bound to the nearest loader. -/
def OneLoader (statement : ClassStatement) (h : Hierarchy) : Prop :=
  ∀ mro, h.linearize statement.bases = some mro → h.isDialect mro = true →
    (Ambiguous statement.body ∧
        ∃ message, declareClass h statement = .error ⟨.python .typeError, message⟩) ∨
      ∃ c loader, declareClass h statement = .ok c ∧ c.dict = .both loader ∧
        h.nearestLoaderOf statement.body mro = some loader

/-- A class in which the lookup ends: a subclass of `FlightSQLDialect`, itself, or one that defines
    `import_dbapi`. -/
def Hierarchy.endsLookup (h : Hierarchy) (i : ClassId) : Bool :=
  h.isDialect (h.mroOf i) || h.classes[i]?.any fun c => c.body.importDbapi.isSome

/-- **The lookup ends right**: a class that defines neither name has the nearest loader of the class in which
    the lookup ends. -/
def EndsRight (statement : ClassStatement) (h : Hierarchy) : Prop :=
  ∀ mro, h.linearize statement.bases = some mro → h.isDialect mro = true → statement.body.declared = none →
    ∃ i loader, mro.find? h.endsLookup = some i ∧ h.nearestLoader (h.mroOf i) = some loader ∧
      h.nearestLoader mro = some loader

/-! ## What the code leaves -/

/-- **A hierarchy as the code leaves it**: each class stands first in its own order, before older ones; a
    class that is no dialect has what its body defines, and a dialect its nearest loader under both names. -/
structure WellKept (h : Hierarchy) : Prop where
  order : ∀ (k : ClassId) (c : PyClass), h.classes[k]? = some c → ∃ rest, c.mro = k :: rest ∧ ∀ i ∈ rest, i < k
  plain : ∀ (k : ClassId) (c : PyClass), h.classes[k]? = some c → h.isDialect c.mro = false → c.dict = c.body
  loader : ∀ (k : ClassId) (c : PyClass), h.classes[k]? = some c → h.isDialect c.mro = true →
    ∃ loader, c.dict = .both loader ∧ h.nearestLoader c.mro = some loader
  root : ∀ d : ClassId, h.dialect = some d → d < h.classes.length

theorem wellKept_empty : WellKept .empty where
  order k c h := by cases h
  plain k c h := by cases h
  loader k c h := by cases h
  root d h := by cases h

theorem mroOf_eq {h : Hierarchy} {k : ClassId} {c : PyClass} (hc : h.classes[k]? = some c) :
    h.mroOf k = c.mro := by
  rw [Hierarchy.mroOf, hc]
  rfl

/-- The order after a new class is of older classes. -/
theorem linearize_lt {h : Hierarchy} (hkept : WellKept h) {bases mro : List ClassId}
    (hmro : h.linearize bases = some mro) : ∀ i ∈ mro, i < h.classes.length := by
  rw [Hierarchy.linearize] at hmro
  by_cases hbases : bases.all (· < h.classes.length) = true
  · rw [if_pos hbases] at hmro
    have hlt : ∀ i ∈ bases, i < h.classes.length := fun i hi => by simpa using List.all_eq_true.mp hbases i hi
    intro i hi
    obtain ⟨seq, hseq, hmem⟩ := (mem_merge_iff hmro i).mp hi
    rcases List.mem_append.mp hseq with hseq | hseq
    · obtain ⟨base, hbase, rfl⟩ := List.mem_map.mp hseq
      have hget := List.getElem?_eq_getElem (hlt base hbase)
      obtain ⟨rest, horder, hrest⟩ := hkept.order base _ hget
      rw [mroOf_eq hget, horder] at hmem
      rcases List.mem_cons.mp hmem with rfl | hmem
      · exact hlt i hbase
      · exact Nat.lt_trans (hrest i hmem) (hlt base hbase)
    · rw [List.mem_singleton.mp hseq] at hmem
      exact hlt i hmem
  · rw [if_neg hbases] at hmro
    cases hmro

/-- What a class defines is what the nearest definition of its own order is. -/
theorem nearestLoader_own {h : Hierarchy} {k : ClassId} {c : PyClass} (hc : h.classes[k]? = some c)
    (rest : List ClassId) : h.nearestLoader (k :: rest) = h.nearestLoaderOf c.body rest := by
  rw [Hierarchy.nearestLoaderOf, Hierarchy.nearestLoader, List.findSome?_cons, hc]
  cases hdeclared : c.body.declared with
  | none => simp [hdeclared, Hierarchy.nearestLoader]
  | some defined => simp [hdeclared]

/-- What the lookup sees of one class: something exactly where it ends, which is the loader nearest to that
    class. -/
theorem endsLookup_spec {h : Hierarchy} (hkept : WellKept h) {i : ClassId} (hi : i < h.classes.length) :
    (h.endsLookup i = false ∧ (h.classes[i]?.bind fun c => c.dict.importDbapi) = none) ∨
      ∃ found, h.endsLookup i = true ∧ (h.classes[i]?.bind fun c => c.dict.importDbapi) = some found ∧
        h.nearestLoader (h.mroOf i) = found.loader := by
  have hget := List.getElem?_eq_getElem hi
  rw [Hierarchy.endsLookup, mroOf_eq hget, hget]
  cases hdialect : h.isDialect h.classes[i].mro with
  | true =>
    obtain ⟨loader, hdict, hnearest⟩ := hkept.loader i _ hget hdialect
    exact Or.inr ⟨.classMethod loader, rfl, by simp [hdict, LoaderNames.both], hnearest⟩
  | false =>
    have hdict := hkept.plain i _ hget hdialect
    cases himport : h.classes[i].body.importDbapi with
    | none => exact Or.inl ⟨by simp [himport], by simp [hdict, himport]⟩
    | some found =>
      refine Or.inr ⟨found, by simp [himport], by simp [hdict, himport], ?_⟩
      obtain ⟨rest, horder, -⟩ := hkept.order i _ hget
      have hdeclared : h.classes[i].body.declared = some found := by
        rw [LoaderNames.declared, himport]
        rfl
      rw [horder, nearestLoader_own hget, Hierarchy.nearestLoaderOf, hdeclared]

/-- **What the lookup finds**: the nearest loader of the class in which it ends. -/
theorem getattr_loader {h : Hierarchy} (hkept : WellKept h) {mro : List ClassId}
    (hlt : ∀ i ∈ mro, i < h.classes.length) :
    (h.getattr mro).bind Attribute.loader =
      (mro.find? h.endsLookup).bind fun i => h.nearestLoader (h.mroOf i) := by
  induction mro with
  | nil => rfl
  | cons i mro ih =>
    obtain ⟨hi, hrest⟩ := List.forall_mem_cons.mp hlt
    rw [Hierarchy.getattr, List.findSome?_cons, List.find?_cons]
    rcases endsLookup_spec hkept hi with ⟨hends, hnone⟩ | ⟨found, hends, hsome, hnearest⟩
    · rw [hends, hnone]
      exact ih hrest
    · rw [hends, hsome]
      exact hnearest.symm

/-! ## One class -/

theorem LoaderNames.both_injective {f g : Loader} (h : LoaderNames.both f = .both g) : f = g := by
  injection h with himport
  injection himport with hmethod
  injection hmethod

/-- An ambiguous body defines something. -/
theorem Ambiguous.declared {body : LoaderNames} (h : Ambiguous body) : body.declared ≠ none := by
  cases h with
  | different hne => simp [LoaderNames.declared]
  | importDbapi => simp [LoaderNames.declared]
  | dbapi => simp [LoaderNames.declared]

/-- The hook of a body that defines neither name. -/
theorem initSubclass_undeclared {h : Hierarchy} {mro : List ClassId} {body : LoaderNames}
    (hbody : body.declared = none) (loader : Loader) :
    initSubclass h mro body = .ok loader ↔ (h.getattr mro).bind Attribute.loader = some loader := by
  obtain ⟨himport, hdbapi⟩ := Option.or_eq_none_iff.mp hbody
  rw [initSubclass, himport, hdbapi]
  cases h.getattr mro with
  | none => exact iff_of_false (fun h => by cases h) fun h => by cases h
  | some found =>
    cases found with
    | classMethod function =>
      constructor
      · intro h
        exact congrArg some (Except.ok.inj h)
      · intro h
        exact congrArg Except.ok (Option.some.inj h)
    | other => exact iff_of_false (fun h => by cases h) fun h => by cases h

/-- The hook of a body that defines one of the names, or both. -/
theorem initSubclass_declared (h : Hierarchy) (mro : List ClassId) {body : LoaderNames} {defined : Attribute}
    (hbody : body.declared = some defined) :
    (Ambiguous body ∧ ∃ message, initSubclass h mro body = .error ⟨.python .typeError, message⟩) ∨
      ∃ loader, initSubclass h mro body = .ok loader ∧ defined.loader = some loader := by
  obtain ⟨directImport, directLegacy⟩ := body
  cases directImport with
  | none =>
    cases directLegacy with
    | none => cases hbody
    | some legacy =>
      cases hbody
      cases defined with
      | other => exact Or.inl ⟨.dbapi, _, rfl⟩
      | classMethod function => exact Or.inr ⟨function, rfl, rfl⟩
  | some found =>
    cases hbody
    cases defined with
    | other =>
      cases directLegacy with
      | none => exact Or.inl ⟨.importDbapi, _, rfl⟩
      | some legacy => exact Or.inl ⟨.importDbapi, _, rfl⟩
    | classMethod function =>
      cases directLegacy with
      | none => exact Or.inr ⟨function, rfl, rfl⟩
      | some legacy =>
        cases legacy with
        | other => exact Or.inl ⟨.dbapi, _, rfl⟩
        | classMethod function' =>
          by_cases hsame : function = function'
          · subst hsame
            exact Or.inr ⟨function, by simp [initSubclass, dbapiLoaderFunction, bind, Except.bind], rfl⟩
          · exact Or.inl ⟨.different hsame, _, by
              simp only [initSubclass, dbapiLoaderFunction, bind, Except.bind, ne_eq, hsame,
                not_false_eq_true, if_true]
              rfl⟩

/-- The creation of a subclass of `FlightSQLDialect` is that of its loader. -/
theorem declareClass_dialect {h : Hierarchy} {statement : ClassStatement} {mro : List ClassId}
    (hmro : h.linearize statement.bases = some mro) (hdialect : h.isDialect mro = true) :
    declareClass h statement = initSubclass h mro statement.body >>= fun loader =>
      .ok ⟨h.classes.length :: mro, statement.body, .both loader⟩ := by
  rw [declareClass, hmro]
  exact if_pos hdialect

/-- **One class**: it gets its nearest loader exactly if the lookup ends right. -/
theorem oneLoader_iff_endsRight {h : Hierarchy} (hkept : WellKept h) (statement : ClassStatement) :
    OneLoader statement h ↔ EndsRight statement h := by
  constructor
  · intro hone mro hmro hdialect hundeclared
    rcases hone mro hmro hdialect with ⟨hambiguous, -⟩ | ⟨c, loader, hok, hdict, hnearest⟩
    · exact absurd hundeclared hambiguous.declared
    · rw [declareClass_dialect hmro hdialect] at hok
      obtain ⟨loader', hinit, hc⟩ := Outcome.bind_eq_ok hok
      cases hc
      have hsame : loader' = loader := LoaderNames.both_injective hdict
      subst hsame
      have hfound := (initSubclass_undeclared hundeclared loader').mp hinit
      rw [getattr_loader hkept (linearize_lt hkept hmro)] at hfound
      obtain ⟨i, hends, hi⟩ := Option.bind_eq_some_iff.mp hfound
      rw [Hierarchy.nearestLoaderOf, hundeclared] at hnearest
      exact ⟨i, loader', hends, hi, hnearest⟩
  · intro hends mro hmro hdialect
    cases hdeclared : statement.body.declared with
    | none =>
      obtain ⟨i, loader, hfind, hi, hnearest⟩ := hends mro hmro hdialect hdeclared
      have hfound : (h.getattr mro).bind Attribute.loader = some loader := by
        rw [getattr_loader hkept (linearize_lt hkept hmro), hfind]
        exact hi
      have hinit := (initSubclass_undeclared hdeclared loader).mpr hfound
      refine Or.inr ⟨⟨h.classes.length :: mro, statement.body, .both loader⟩, loader, ?_, rfl, ?_⟩
      · rw [declareClass_dialect hmro hdialect, hinit]
        rfl
      · rw [Hierarchy.nearestLoaderOf, hdeclared]
        exact hnearest
    | some defined =>
      rcases initSubclass_declared h mro hdeclared with ⟨hambiguous, message, herror⟩ | ⟨loader, hinit, hloader⟩
      · refine Or.inl ⟨hambiguous, message, ?_⟩
        rw [declareClass_dialect hmro hdialect, herror]
        rfl
      · refine Or.inr ⟨⟨h.classes.length :: mro, statement.body, .both loader⟩, loader, ?_, rfl, ?_⟩
        · rw [declareClass_dialect hmro hdialect, hinit]
          rfl
        · rw [Hierarchy.nearestLoaderOf, hdeclared]
          exact hloader

/-! ## One more class -/

/-- The classes with one more. -/
theorem getElem?_snoc {classes : List PyClass} {c : PyClass} {k : Nat} {found : PyClass}
    (h : (classes ++ [c])[k]? = some found) :
    (k < classes.length ∧ classes[k]? = some found) ∨ (k = classes.length ∧ found = c) := by
  rcases Nat.lt_or_ge k classes.length with hlt | hge
  · rw [List.getElem?_append_left hlt] at h
    exact Or.inl ⟨hlt, h⟩
  · rw [List.getElem?_append_right hge] at h
    obtain ⟨hone, hfound⟩ := List.getElem?_eq_some_iff.mp h
    have hlast : [c].length = 1 := rfl
    have hk : k = classes.length := by omega
    subst hk
    exact Or.inr ⟨rfl, by simpa using hfound.symm⟩

/-- Older classes keep their nearest loaders. -/
theorem nearestLoader_snoc {h h' : Hierarchy} {c : PyClass} (hclasses : h'.classes = h.classes ++ [c])
    {mro : List ClassId} (hlt : ∀ i ∈ mro, i < h.classes.length) :
    h'.nearestLoader mro = h.nearestLoader mro := by
  induction mro with
  | nil => rfl
  | cons i mro ih =>
    obtain ⟨hi, hrest⟩ := List.forall_mem_cons.mp hlt
    have hsame : h'.classes[i]? = h.classes[i]? := by rw [hclasses, List.getElem?_append_left hi]
    have hih := ih hrest
    rw [Hierarchy.nearestLoader, Hierarchy.nearestLoader] at hih ⊢
    rw [List.findSome?_cons, List.findSome?_cons, hsame]
    cases h.classes[i]?.bind fun c => c.body.declared with
    | none => exact hih
    | some found => rfl

/-- The nearest loader of the new class. -/
theorem nearestLoader_new {h h' : Hierarchy} {c : PyClass} (hclasses : h'.classes = h.classes ++ [c])
    {mro : List ClassId} (hlt : ∀ i ∈ mro, i < h.classes.length) :
    h'.nearestLoader (h.classes.length :: mro) = h.nearestLoaderOf c.body mro := by
  have hget : h'.classes[h.classes.length]? = some c := by
    rw [hclasses, List.getElem?_append_right (Nat.le_refl _), Nat.sub_self]
    rfl
  rw [nearestLoader_own hget, Hierarchy.nearestLoaderOf, Hierarchy.nearestLoaderOf,
    nearestLoader_snoc hclasses hlt]

/-- The members of an older class's order are older than a new one. -/
theorem WellKept.mro_lt {h : Hierarchy} (hkept : WellKept h) {k : ClassId} {c : PyClass}
    (hc : h.classes[k]? = some c) : ∀ i ∈ c.mro, i < h.classes.length := by
  obtain ⟨rest, horder, hrest⟩ := hkept.order k c hc
  have hk : k < h.classes.length := (List.getElem?_eq_some_iff.mp hc).1
  rw [horder]
  exact List.forall_mem_cons.mpr ⟨hk, fun i hi => Nat.lt_trans (hrest i hi) hk⟩

/-- **A class with its nearest loader keeps the hierarchy well.** -/
theorem wellKept_snoc {h : Hierarchy} (hkept : WellKept h) {c : PyClass} {mro : List ClassId}
    (horder : c.mro = h.classes.length :: mro) (hlt : ∀ i ∈ mro, i < h.classes.length)
    (hplain : h.isDialect mro = false → c.dict = c.body)
    (hloader : h.isDialect mro = true →
      ∃ loader, c.dict = .both loader ∧ h.nearestLoaderOf c.body mro = some loader) :
    WellKept { h with classes := h.classes ++ [c] } := by
  have hdialect : h.isDialect c.mro = h.isDialect mro := by
    rw [horder, Hierarchy.isDialect, Hierarchy.isDialect]
    cases hroot : h.dialect with
    | none => rfl
    | some d =>
      have hne : d ≠ h.classes.length := Nat.ne_of_lt (hkept.root d hroot)
      simp [hne]
  constructor
  · intro k found hfound
    rcases getElem?_snoc hfound with ⟨-, hold⟩ | ⟨rfl, rfl⟩
    · exact hkept.order k found hold
    · exact ⟨mro, horder, hlt⟩
  · intro k found hfound hnot
    rcases getElem?_snoc hfound with ⟨-, hold⟩ | ⟨rfl, rfl⟩
    · exact hkept.plain k found hold hnot
    · exact hplain (hdialect.symm.trans hnot)
  · intro k found hfound his
    rcases getElem?_snoc hfound with ⟨-, hold⟩ | ⟨rfl, rfl⟩
    · obtain ⟨loader, hdict, hnearest⟩ := hkept.loader k found hold his
      exact ⟨loader, hdict, (nearestLoader_snoc rfl (hkept.mro_lt hold)).trans hnearest⟩
    · obtain ⟨loader, hdict, hnearest⟩ := hloader (hdialect.symm.trans his)
      refine ⟨loader, hdict, ?_⟩
      rw [horder]
      exact (nearestLoader_new rfl hlt).trans hnearest
  · intro d hd
    show d < (h.classes ++ [c]).length
    rw [List.length_append]
    exact Nat.lt_add_right _ (hkept.root d hd)

/-- The creation of `FlightSQLDialect` keeps it well: no older class comes after it. -/
theorem wellKept_flightSqlDialect {h : Hierarchy} (hkept : WellKept h) (hnone : h.dialect = none)
    {mro : List ClassId} (hlt : ∀ i ∈ mro, i < h.classes.length) (loader : Loader) :
    WellKept ⟨h.classes ++ [⟨h.classes.length :: mro, .both loader, .both loader⟩],
      some h.classes.length⟩ := by
  have hold : ∀ (k : ClassId) (found : PyClass), h.classes[k]? = some found →
      h.classes.length ∉ found.mro := fun k found hfound hmem =>
    Nat.lt_irrefl _ (hkept.mro_lt hfound _ hmem)
  constructor
  · intro k found hfound
    rcases getElem?_snoc hfound with ⟨-, hfound⟩ | ⟨rfl, rfl⟩
    · exact hkept.order k found hfound
    · exact ⟨mro, rfl, hlt⟩
  · intro k found hfound hnot
    rcases getElem?_snoc hfound with ⟨-, hfound⟩ | ⟨rfl, rfl⟩
    · exact hkept.plain k found hfound (by rw [Hierarchy.isDialect, hnone]; rfl)
    · rfl
  · intro k found hfound his
    rcases getElem?_snoc hfound with ⟨-, hfound⟩ | ⟨rfl, rfl⟩
    · exact absurd (by simpa [Hierarchy.isDialect] using his) (hold k found hfound)
    · refine ⟨loader, rfl, ?_⟩
      show Hierarchy.nearestLoader _ (h.classes.length :: mro) = _
      rw [nearestLoader_new rfl hlt]
      rfl
  · intro d hd
    cases hd
    show h.classes.length < (h.classes ++ [_]).length
    rw [List.length_append]
    exact Nat.lt_succ_self _

/-! ## Every hierarchy -/

/-- `OneLoader` of a class statement. -/
def HierarchyStep.oneLoader : HierarchyStep → Hierarchy → Prop
  | .classStatement statement, h => OneLoader statement h
  | .flightSqlDialect _ _, _ => True

/-- `EndsRight` of a class statement. -/
def HierarchyStep.endsRight : HierarchyStep → Hierarchy → Prop
  | .classStatement statement, h => EndsRight statement h
  | .flightSqlDialect _ _, _ => True

theorem HierarchyStep.oneLoader_endsRight (step : HierarchyStep) (h : Hierarchy) (hkept : WellKept h) :
    step.oneLoader h ↔ step.endsRight h := by
  cases step with
  | classStatement statement => exact oneLoader_iff_endsRight hkept statement
  | flightSqlDialect bases loader => exact Iff.rfl

/-- A class created with its nearest loader keeps the hierarchy well. -/
theorem declareClass_wellKept {h : Hierarchy} (hkept : WellKept h) {statement : ClassStatement}
    (hone : OneLoader statement h) {c : PyClass} (hdeclare : declareClass h statement = .ok c) :
    WellKept { h with classes := h.classes ++ [c] } := by
  cases hmro : h.linearize statement.bases with
  | none =>
    rw [declareClass, hmro] at hdeclare
    cases hdeclare
  | some mro =>
    have hlt := linearize_lt hkept hmro
    cases hdialect : h.isDialect mro with
    | true =>
      rcases hone mro hmro hdialect with ⟨-, message, herror⟩ | ⟨c', loader, hok, hdict, hnearest⟩
      · rw [hdeclare] at herror
        cases herror
      · rw [hdeclare] at hok
        cases hok
        rw [declareClass_dialect hmro hdialect] at hdeclare
        obtain ⟨loader', -, hc⟩ := Outcome.bind_eq_ok hdeclare
        cases hc
        refine wellKept_snoc hkept rfl hlt (fun hnot => ?_) fun _ => ⟨loader, hdict, hnearest⟩
        rw [hdialect] at hnot
        cases hnot
    | false =>
      have hplain : declareClass h statement =
          .ok ⟨h.classes.length :: mro, statement.body, statement.body⟩ := by
        rw [declareClass, hmro]
        exact if_neg (by rw [hdialect]; exact Bool.false_ne_true)
      rw [hplain] at hdeclare
      cases hdeclare
      refine wellKept_snoc hkept rfl hlt (fun _ => rfl) fun his => ?_
      rw [hdialect] at his
      cases his

/-- **One step** that leaves one loader keeps the hierarchy well. -/
theorem HierarchyStep.run_wellKept (step : HierarchyStep) (h : Hierarchy) (hkept : WellKept h)
    (hone : step.oneLoader h) : WellKept (step.run h).2 := by
  cases step with
  | classStatement statement =>
    cases hdeclare : declareClass h statement with
    | error e =>
      have hrun : (HierarchyStep.run (.classStatement statement) h).2 = h := by
        simp only [HierarchyStep.run, hdeclare]
      rw [hrun]
      exact hkept
    | ok c =>
      have hrun : (HierarchyStep.run (.classStatement statement) h).2 =
          { h with classes := h.classes ++ [c] } := by
        simp only [HierarchyStep.run, hdeclare]
      rw [hrun]
      exact declareClass_wellKept hkept hone hdeclare
  | flightSqlDialect bases loader =>
    cases hroot : h.dialect with
    | some d =>
      have hrun : (HierarchyStep.run (.flightSqlDialect bases loader) h).2 = h := by
        simp only [HierarchyStep.run, hroot]
      rw [hrun]
      exact hkept
    | none =>
      cases hmro : h.linearize bases with
      | none =>
        have hrun : (HierarchyStep.run (.flightSqlDialect bases loader) h).2 = h := by
          simp only [HierarchyStep.run, hroot, hmro]
        rw [hrun]
        exact hkept
      | some mro =>
        simp only [HierarchyStep.run, hroot, hmro]
        exact wellKept_flightSqlDialect hkept hroot (linearize_lt hkept hmro) loader

/-- **One loader in every hierarchy**: whatever classes a program creates, each subclass of `FlightSQLDialect`
    gets its nearest loader exactly if the lookup ends right for each. -/
theorem oneLoader_iff (steps : List HierarchyStep) :
    Run.AllSteps HierarchyStep.run HierarchyStep.oneLoader steps .empty ↔
      Run.AllSteps HierarchyStep.run HierarchyStep.endsRight steps .empty :=
  Run.allSteps_iff HierarchyStep.oneLoader_endsRight HierarchyStep.run_wellKept steps .empty wellKept_empty

/-- `FlightSQLDialect`, a mixin that defines `dbapi`, and a dialect with the mixin. -/
def legacyMixin : List HierarchyStep :=
  [.flightSqlDialect [] 0, .classStatement ⟨[], ⟨none, some (.classMethod 1)⟩⟩,
    .classStatement ⟨[1, 0], ⟨none, none⟩⟩]

/-- The dialect is left with the loader of `FlightSQLDialect`. -/
example :
    (Run.runAll HierarchyStep.run legacyMixin .empty).classes[2]? =
      some ⟨[2, 1, 0], ⟨none, none⟩, .both 0⟩ := by
  decide

/-- **The mixin's loader is lost.** -/
theorem legacyMixin_fails : ¬Run.AllSteps HierarchyStep.run HierarchyStep.oneLoader legacyMixin .empty := by
  intro h
  have hone := h [.flightSqlDialect [] 0, .classStatement ⟨[], ⟨none, some (.classMethod 1)⟩⟩]
    (.classStatement ⟨[1, 0], ⟨none, none⟩⟩) [] rfl [1, 0] (by decide) (by decide)
  rcases hone with ⟨hambiguous, -⟩ | ⟨c, loader, hok, hdict, hnearest⟩
  · exact hambiguous.declared rfl
  · have hloader : loader = 1 := by
      have hsome : some (1 : Loader) = some loader := by
        rw [← hnearest]
        decide
      exact (Option.some.inj hsome).symm
    cases hok
    cases hdict
    cases hloader

/-- `B` defines nothing, `C` defines a loader, and `D` inherits from both. -/
example : ((Run.runAll HierarchyStep.run [.flightSqlDialect [] 0, .classStatement ⟨[0], ⟨none, none⟩⟩,
    .classStatement ⟨[0], ⟨some (.classMethod 1), none⟩⟩, .classStatement ⟨[1, 2], ⟨none, none⟩⟩]
    .empty).classes.getLast?) = some ⟨[3, 1, 2, 0], ⟨none, none⟩, .both 0⟩ := by
  decide

end FlightSql
