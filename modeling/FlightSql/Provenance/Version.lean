/-
  The version of the installed module — `_version` and `_package_version` of `flightsql/provenance.py`.

  THE CODE: of the module's top-level statements, those are counted that assign a literal string to the
  name `__version__`; there must be one, and its string is the version.

  WHAT IT IS FOR: that is the version the module binds (`VersionBound`): one assignment binds the name, and
  binds it to that string.

  A statement that binds the name in any other way is passed over where it should count: a computed value,
  an unpacked target, a `:=` inside some other assignment, an import.  So the code does what it is for
  exactly if it refuses the file, or nothing at the top level binds the name but assignments of literal
  strings to it (`packageVersion_bound_iff`).

  Mathlib-free.
-/
import FlightSql.Provenance.Inventory

set_option linter.unusedVariables false

namespace FlightSql.Provenance

open Lib

/-! ## Statements -/

/-- **Expressions**, as targets and values of assignments: `str` is a literal string, `named` a value that is
    given a name where it stands, and `other` every expression of another form, with those inside it that are
    evaluated in the module's scope (a call's arguments, the index of a subscript, the elements of a
    comprehension). -/
inductive Expr where
  | name (id : String)
  | str (value : String)
  | tuple (elts : List Expr)
  | list (elts : List Expr)
  | starred (value : Expr)
  | named (id : String) (value : Expr)
  | other (parts : List Expr)

/-- **Top-level statements**; `other` is every statement that is no assignment, with the names it can bind
    in the module's scope (what it imports or defines, and what is bound inside an `if`, a loop, a `with`). -/
inductive Stmt where
  | assign (targets : List Expr) (value : Expr)
  | annAssign (target annotation : Expr) (value : Option Expr)
  | augAssign (target value : Expr)
  | other (names : List String)

/-- The name the version is bound to. -/
def versionName : String := "__version__"

/-- `isinstance(target, ast.Name) and target.id == "__version__"`. -/
def Expr.isVersion : Expr → Bool
  | .name id => id = versionName
  | _ => false

/-- `isinstance(node, ast.Constant) and isinstance(node.value, str)`, with the string. -/
def Expr.literal? : Expr → Option String
  | .str value => some value
  | _ => none

/-- One turn of the loop of `_package_version`: the string it appends, if it does. -/
def Stmt.literalVersion? : Stmt → Option String
  | .assign targets value => if targets.any Expr.isVersion then value.literal? else none
  | .annAssign target _ value => if [target].any Expr.isVersion then value.bind Expr.literal? else none
  | _ => none

/-! ## The source functions -/

/-- What `ast.parse` fails with. -/
inductive ParseFailure where
  | syntaxError
  | other (e : Exn)

/-- **What is taken from Python's libraries**: `ast.parse` with the body of its module, and
    `packaging.version.Version`, with `none` for an invalid version; or no `packaging` at all. -/
structure VersionLibrary (V : Type) where
  parse : String → Except ParseFailure (List Stmt)
  version : Option (String → Option V)

variable {V : Type} (py : Interpreter) (lib : VersionLibrary V) (fs : FileSystem Bytes)

/-- `_version`. -/
def version (value label : String) : Except Exn V :=
  match lib.version with
  | none => .error ⟨.python .runtimeError, "the packaging dependency is unavailable"⟩
  | some parse =>
    match parse value with
    | some v => .ok v
    | none => .error (provenanceError (label ++ " " ++ py.repr value ++ " is not a valid PEP 440 version"))

/-- The statements of the module. -/
def moduleBody (packageInit : Path) : Except Exn (List Stmt) :=
  match readText fs packageInit with
  | .error _ => .error (provenanceError "installed flightsql/__init__.py cannot be parsed safely")
  | .ok text =>
    match lib.parse text with
    | .ok body => .ok body
    | .error .syntaxError =>
      .error (provenanceError "installed flightsql/__init__.py cannot be parsed safely")
    | .error (.other e) => .error e

/-- **`_package_version`**. -/
def packageVersion (packageInit : Path) : Except Exn V := do
  let body ← moduleBody lib fs packageInit
  match body.filterMap Stmt.literalVersion? with
  | [value] => version py lib value "installed flightsql.__version__"
  | _ =>
    .error (provenanceError
      "installed flightsql/__init__.py must contain one literal __version__ assignment")

/-! ## What the module binds -/

mutual
/-- A target that binds the name by unpacking. -/
def Expr.unpacksVersion : Expr → Bool
  | .tuple elts => anyBindsVersion elts
  | .list elts => anyBindsVersion elts
  | .starred value => value.unpacksVersion || value.isVersion
  | _ => false
/-- One of some targets binds the name. -/
def anyBindsVersion : List Expr → Bool
  | [] => false
  | e :: es => e.isVersion || e.unpacksVersion || anyBindsVersion es
end

mutual
/-- Evaluating the expression binds the name, by a `:=` in it. -/
def Expr.namesVersion : Expr → Bool
  | .name _ => false
  | .str _ => false
  | .tuple elts => anyNamesVersion elts
  | .list elts => anyNamesVersion elts
  | .starred value => value.namesVersion
  | .named id value => decide (id = versionName) || value.namesVersion
  | .other parts => anyNamesVersion parts
/-- Evaluating one of some expressions binds the name. -/
def anyNamesVersion : List Expr → Bool
  | [] => false
  | e :: es => e.namesVersion || anyNamesVersion es
end

/-- What the name is bound to: the literal string assigned to it, or anything else. -/
inductive Binding where
  | literal (value : String)
  | computed

/-- What the name is bound to when it is a target of this value. -/
def Expr.binding (value : Expr) : Binding :=
  match value.literal? with
  | some text => .literal text
  | none => .computed

/-- A target's binding of the name: what is unpacked is computed. -/
def targetBindings (value target : Expr) : List Binding :=
  if target.isVersion then [value.binding] else if target.unpacksVersion then [.computed] else []

/-- What evaluating the expressions of a statement binds the name to. -/
def innerBindings (exprs : List Expr) : List Binding :=
  if anyNamesVersion exprs then [.computed] else []

/-- What the targets of a statement bind the name to; without a value an annotated one binds nothing. -/
def Stmt.outerBindings : Stmt → List Binding
  | .assign targets value => targets.flatMap (targetBindings value)
  | .annAssign target _ (some value) => targetBindings value target
  | .annAssign _ _ none => []
  | .augAssign target _ => if target.isVersion then [.computed] else []
  | .other names => if versionName ∈ names then [.computed] else []

/-- The expressions a statement evaluates; what is inside any other statement is in its names. -/
def Stmt.exprs : Stmt → List Expr
  | .assign targets value => value :: targets
  | .annAssign target annotation value => target :: annotation :: value.toList
  | .augAssign target value => [target, value]
  | .other _ => []

/-- **What a statement binds the name to.** -/
def Stmt.bindings (stmt : Stmt) : List Binding := innerBindings stmt.exprs ++ stmt.outerBindings

/-- The statement binds the name. -/
def Stmt.binds (stmt : Stmt) : Bool := stmt.bindings ≠ []

/-- `node.value`. -/
def Stmt.value? : Stmt → Option Expr
  | .assign _ value => some value
  | .annAssign _ _ value => value
  | .augAssign _ value => some value
  | .other _ => none

/-- The version a string stands for, if it stands for one. -/
def VersionLibrary.parsed (lib : VersionLibrary V) (value : String) : Option V :=
  lib.version.bind fun parse => parse value

/-- **The verified version is the version the module binds.**  If a version is returned, one top-level
    statement binds the name, an assignment whose value is a literal string; it binds the name to nothing
    else, and the version is that of this string; and a file that binds the name to a computed value
    returns none. -/
structure VersionBound (body : List Stmt) (outcome : Except Exn V) : Prop where
  returned : ∀ v, outcome = .ok v → ∃ stmt value, body.filter Stmt.binds = [stmt] ∧
    stmt.value? = some (.str value) ∧ (∀ b ∈ stmt.bindings, b = .literal value) ∧ lib.parsed value = some v
  rejected : ∀ stmt ∈ body, .computed ∈ stmt.bindings → ∀ v, outcome ≠ .ok v

theorem literal?_eq_some {e : Expr} {value : String} (h : e.literal? = some value) : e = .str value := by
  cases e with
  | str text => rw [Option.some.inj h]
  | _ => cases h

theorem isVersion_binding {value target : Expr} (h : target.isVersion = true) :
    targetBindings value target = [value.binding] := by
  rw [targetBindings, if_pos h]

theorem mem_bindings_of_outer {stmt : Stmt} {b : Binding} (h : b ∈ stmt.outerBindings) :
    b ∈ stmt.bindings := List.mem_append_right _ h

/-- A statement that binds without computing binds by its targets alone. -/
theorem bindings_eq_outer {stmt : Stmt} (hcomputed : .computed ∉ stmt.bindings) :
    stmt.bindings = stmt.outerBindings := by
  unfold Stmt.bindings innerBindings at hcomputed ⊢
  split at hcomputed
  · exact absurd List.mem_cons_self hcomputed
  · rename_i hnone
    rw [if_neg hnone, List.nil_append]

/-- **A statement that counts** binds the name to the string it counts with. -/
theorem literalVersion?_binds {stmt : Stmt} {text : String} (h : stmt.literalVersion? = some text) :
    .literal text ∈ stmt.bindings ∧ stmt.value? = some (.str text) := by
  have hbinding : (Expr.str text).binding = .literal text := rfl
  refine (?_ : .literal text ∈ stmt.outerBindings ∧ _).imp_left mem_bindings_of_outer
  cases stmt with
  | assign targets value =>
    rw [Stmt.literalVersion?] at h
    split at h
    · rename_i hname
      obtain ⟨target, htarget, hversion⟩ := List.any_eq_true.mp hname
      cases literal?_eq_some h
      refine ⟨List.mem_flatMap.mpr ⟨target, htarget, ?_⟩, rfl⟩
      rw [isVersion_binding hversion, hbinding]
      exact List.mem_singleton_self _
    · cases h
  | annAssign target annotation value =>
    rw [Stmt.literalVersion?] at h
    split at h
    · rename_i hname
      have hversion : target.isVersion = true := by simpa using hname
      obtain ⟨e, rfl, hliteral⟩ := Option.bind_eq_some_iff.mp h
      cases literal?_eq_some hliteral
      refine ⟨?_, rfl⟩
      rw [Stmt.outerBindings, isVersion_binding hversion, hbinding]
      exact List.mem_singleton_self _
    · cases h
  | augAssign target value => cases h
  | other names => cases h

/-- What a target binds without computing is the literal string of the value. -/
theorem targetBindings_literal {value target : Expr} {b : Binding} (hb : b ∈ targetBindings value target)
    (hcomputed : .computed ∉ targetBindings value target) :
    target.isVersion = true ∧ ∃ text, value = .str text ∧ b = .literal text := by
  unfold targetBindings at hb hcomputed
  split at hb
  · rename_i hversion
    rw [if_pos hversion] at hcomputed
    rw [List.mem_singleton.mp hb]
    cases value with
    | str text => exact ⟨hversion, text, rfl, rfl⟩
    | _ => exact absurd (List.mem_singleton_self _) hcomputed
  · rename_i hversion
    rw [if_neg hversion] at hcomputed
    split at hb
    · rename_i hunpacks
      rw [if_pos hunpacks] at hcomputed
      exact absurd (List.mem_singleton_self _) hcomputed
    · cases hb

/-- **A statement that binds the name without computing counts**, and binds it to one string. -/
theorem literalVersion?_of_binds {stmt : Stmt} (hbinds : stmt.binds = true)
    (hcomputed : .computed ∉ stmt.bindings) :
    ∃ text, stmt.literalVersion? = some text ∧ ∀ b ∈ stmt.bindings, b = .literal text := by
  obtain ⟨b, hb⟩ := List.exists_mem_of_ne_nil _ (of_decide_eq_true hbinds)
  have houter := bindings_eq_outer hcomputed
  rw [houter] at hb hcomputed ⊢
  clear houter hbinds
  cases stmt with
  | assign targets value =>
    -- a target that binds without computing is the bare name, and the value a string
    have hpart : ∀ target ∈ targets, .computed ∉ targetBindings value target :=
      fun target htarget hmem => hcomputed (List.mem_flatMap.mpr ⟨target, htarget, hmem⟩)
    obtain ⟨target, htarget, hb⟩ := List.mem_flatMap.mp hb
    obtain ⟨hversion, text, rfl, -⟩ := targetBindings_literal hb (hpart target htarget)
    refine ⟨text, ?_, fun b' hb' => ?_⟩
    · rw [Stmt.literalVersion?, if_pos (List.any_eq_true.mpr ⟨target, htarget, hversion⟩)]
      rfl
    · obtain ⟨target', htarget', hb'⟩ := List.mem_flatMap.mp hb'
      obtain ⟨-, text', htext, rfl⟩ := targetBindings_literal hb' (hpart target' htarget')
      cases htext
      rfl
  | annAssign target annotation value =>
    cases value with
    | none => cases hb
    | some value =>
      obtain ⟨hversion, text, rfl, -⟩ := targetBindings_literal hb hcomputed
      refine ⟨text, ?_, fun b' hb' => ?_⟩
      · rw [Stmt.literalVersion?, if_pos (by simpa using hversion)]
        rfl
      · obtain ⟨-, text', htext, rfl⟩ := targetBindings_literal hb' hcomputed
        cases htext
        rfl
  | augAssign target value =>
    -- an augmented assignment always computes
    rw [Stmt.outerBindings] at hb hcomputed
    split at hb
    · rename_i hversion
      rw [if_pos hversion] at hcomputed
      exact absurd (List.mem_singleton_self _) hcomputed
    · cases hb
  | other names =>
    -- and so does every other statement
    rw [Stmt.outerBindings] at hb hcomputed
    split at hb
    · rename_i hnamed
      rw [if_pos hnamed] at hcomputed
      exact absurd (List.mem_singleton_self _) hcomputed
    · cases hb

/-- A list that `f` gives one value for has one element it gives a value for. -/
theorem filterMap_eq_singleton {α β : Type} {f : α → Option β} {xs : List α} {y : β}
    (h : xs.filterMap f = [y]) : ∃ x, xs.filter (fun x => (f x).isSome) = [x] ∧ f x = some y := by
  induction xs with
  | nil => cases h
  | cons x xs ih =>
    cases hx : f x with
    | none =>
      rw [List.filterMap_cons_none hx] at h
      obtain ⟨x', hfilter, hx'⟩ := ih h
      refine ⟨x', ?_, hx'⟩
      rw [List.filter_cons_of_neg (by rw [hx]; exact Bool.false_ne_true), hfilter]
    | some z =>
      rw [List.filterMap_cons_some hx] at h
      obtain ⟨rfl, hrest⟩ := List.cons.inj h
      refine ⟨x, ?_, hx⟩
      have hnone : xs.filter (fun x => (f x).isSome) = [] := by
        refine List.filter_eq_nil_iff.mpr fun x' hx' hsome => ?_
        obtain ⟨y', hy'⟩ := Option.isSome_iff_exists.mp hsome
        have hmem : y' ∈ xs.filterMap f := List.mem_filterMap.mpr ⟨x', hx', hy'⟩
        rw [hrest] at hmem
        cases hmem
      rw [List.filter_cons_of_pos (by rw [hx]; rfl), hnone]

/-! ## The code -/

section Code

variable {py lib fs} {packageInit : Path} {body : List Stmt}

/-- **The file is accepted**: one statement counts, and its string is a version. -/
def Accepted (lib : VersionLibrary V) (body : List Stmt) (value : String) (v : V) : Prop :=
  body.filterMap Stmt.literalVersion? = [value] ∧ lib.parsed value = some v

theorem version_eq_ok_iff {value label : String} {v : V} :
    version py lib value label = .ok v ↔ lib.parsed value = some v := by
  unfold version VersionLibrary.parsed
  cases hversion : lib.version with
  | none => simp
  | some parse =>
    cases hparse : parse value with
    | none => simp [hparse]
    | some v' => simp [hparse]

theorem packageVersion_eq_ok_iff (hbody : moduleBody lib fs packageInit = .ok body) {v : V} :
    packageVersion py lib fs packageInit = .ok v ↔ ∃ value, Accepted lib body value v := by
  unfold packageVersion Accepted
  rw [hbody]
  simp only [bind, Except.bind]
  cases hvalues : body.filterMap Stmt.literalVersion? with
  | nil => simp
  | cons value rest =>
    cases rest with
    | nil =>
      rw [version_eq_ok_iff]
      simp
    | cons other rest => simp

/-- **An accepted file that computes no binding** has one statement that binds, to the string that counts. -/
theorem Accepted.bound {value : String} {v : V} (h : Accepted lib body value v)
    (hcomputed : ∀ stmt ∈ body, .computed ∉ stmt.bindings) :
    ∃ stmt, body.filter Stmt.binds = [stmt] ∧ stmt.value? = some (.str value) ∧
      ∀ b ∈ stmt.bindings, b = .literal value := by
  obtain ⟨stmt, hfilter, hliteral⟩ := filterMap_eq_singleton h.1
  -- what binds is what counts
  have hsame : body.filter Stmt.binds = body.filter fun stmt => stmt.literalVersion?.isSome := by
    refine List.filter_congr fun stmt hstmt => Bool.eq_iff_iff.mpr ⟨fun hbinds => ?_, fun hsome => ?_⟩
    · obtain ⟨text, htext, -⟩ := literalVersion?_of_binds hbinds (hcomputed stmt hstmt)
      rw [htext]
      rfl
    · obtain ⟨text, htext⟩ := Option.isSome_iff_exists.mp hsome
      exact decide_eq_true (List.ne_nil_of_mem (literalVersion?_binds htext).1)
  obtain ⟨hmem, hvalue⟩ := literalVersion?_binds hliteral
  have hstmt : stmt ∈ body := by
    have hin : stmt ∈ body.filter fun stmt => stmt.literalVersion?.isSome := by
      rw [hfilter]
      exact List.mem_singleton_self _
    exact (List.mem_filter.mp hin).1
  obtain ⟨text, htext, hall⟩ :=
    literalVersion?_of_binds (decide_eq_true (List.ne_nil_of_mem hmem)) (hcomputed stmt hstmt)
  rw [hliteral] at htext
  cases htext
  exact ⟨stmt, hsame.trans hfilter, hvalue, hall⟩

end Code

/-- **When the verified version is the version the module binds.**  For every body of the module: exactly if
    the file is not accepted, or none of its top-level statements binds the name to a computed value. -/
theorem packageVersion_bound_iff (py : Interpreter) (lib : VersionLibrary V) (fs : FileSystem Bytes)
    {packageInit : Path} {body : List Stmt} (hbody : moduleBody lib fs packageInit = .ok body) :
    VersionBound lib body (packageVersion py lib fs packageInit) ↔
      (¬∃ value v, Accepted lib body value v) ∨ ∀ stmt ∈ body, .computed ∉ stmt.bindings := by
  constructor
  · intro h
    by_cases haccepted : ∃ value v, Accepted lib body value v
    · obtain ⟨value, v, haccepted⟩ := haccepted
      refine Or.inr fun stmt hstmt hcomputed => ?_
      exact h.rejected stmt hstmt hcomputed v ((packageVersion_eq_ok_iff hbody).mpr ⟨value, haccepted⟩)
    · exact Or.inl haccepted
  · intro h
    -- a version is returned by an accepted file alone
    have hok : ∀ v, packageVersion py lib fs packageInit = .ok v → ∃ value, Accepted lib body value v ∧
        ∀ stmt ∈ body, .computed ∉ stmt.bindings := by
      intro v hv
      obtain ⟨value, haccepted⟩ := (packageVersion_eq_ok_iff hbody).mp hv
      rcases h with hnot | hcomputed
      · exact absurd ⟨value, v, haccepted⟩ hnot
      · exact ⟨value, haccepted, hcomputed⟩
    refine ⟨fun v hv => ?_, fun stmt hstmt hcomputed v hv => ?_⟩
    · obtain ⟨value, haccepted, hcomputed⟩ := hok v hv
      obtain ⟨stmt, hfilter, hvalue, hall⟩ := haccepted.bound hcomputed
      exact ⟨stmt, value, hfilter, hvalue, hall, haccepted.2⟩
    · obtain ⟨value, -, hnone⟩ := hok v hv
      exact hnone stmt hstmt hcomputed

/-! ## A module that computes its version -/

/-- The texts of the two modules. -/
def literalModule : String := "__version__ = \"0.2.2.5\"\n"

def computedModule : String := "__version__ = \"0.2.2.5\"\n__version__ = read_version()\n"

/-- `read_version()`. -/
def readVersion : Expr := .other [.name "read_version"]

/-- Their statements, and release numbers as versions. -/
def VersionLibrary.releases : VersionLibrary String where
  parse text :=
    if text = literalModule then .ok [.assign [.name "__version__"] (.str "0.2.2.5")]
    else if text = computedModule then
      .ok [.assign [.name "__version__"] (.str "0.2.2.5"), .assign [.name "__version__"] readVersion]
    else .error .syntaxError
  version := some fun text =>
    if text.toList.all fun c => c.isDigit || c = '.' then some text else none

/-- A directory with one module. -/
def moduleSite (text : String) : FileSystem Bytes :=
  { siteWithRecord [] with
    root := .ofList [("flightsql", .dir (.ofList [("__init__.py", .file true (utf8 text))]))]
    distinct := by rfl }

theorem moduleBody_literalModule :
    moduleBody .releases (moduleSite literalModule) ["flightsql", "__init__.py"] =
      .ok [.assign [.name "__version__"] (.str "0.2.2.5")] := by rfl

theorem moduleBody_computedModule :
    moduleBody .releases (moduleSite computedModule) ["flightsql", "__init__.py"] =
      .ok [.assign [.name "__version__"] (.str "0.2.2.5"), .assign [.name "__version__"] readVersion] := by rfl

/-- The theorem on the package's own module. -/
theorem packageVersion_literalModule :
    packageVersion .ascii .releases (moduleSite literalModule) ["flightsql", "__init__.py"] = .ok "0.2.2.5" ∧
      VersionBound .releases [.assign [.name "__version__"] (.str "0.2.2.5")]
        (packageVersion .ascii .releases (moduleSite literalModule) ["flightsql", "__init__.py"]) := by
  refine ⟨(packageVersion_eq_ok_iff moduleBody_literalModule).mpr ⟨_, rfl, rfl⟩, ?_⟩
  refine (packageVersion_bound_iff .ascii .releases (moduleSite literalModule)
    moduleBody_literalModule).mpr (Or.inr fun stmt hstmt hmem => ?_)
  rw [List.mem_singleton.mp hstmt] at hmem
  cases List.mem_singleton.mp hmem

/-- **A computed version after a literal one** is passed over: the literal is verified, and the module binds
    something else. -/
theorem packageVersion_computedModule :
    packageVersion .ascii .releases (moduleSite computedModule) ["flightsql", "__init__.py"] = .ok "0.2.2.5" ∧
      ¬VersionBound .releases
        [.assign [.name "__version__"] (.str "0.2.2.5"), .assign [.name "__version__"] readVersion]
        (packageVersion .ascii .releases (moduleSite computedModule) ["flightsql", "__init__.py"]) := by
  have hok : packageVersion .ascii .releases (moduleSite computedModule) ["flightsql", "__init__.py"] =
      .ok "0.2.2.5" := (packageVersion_eq_ok_iff moduleBody_computedModule).mpr ⟨_, rfl, rfl⟩
  refine ⟨hok, fun h => ?_⟩
  exact h.rejected (.assign [.name "__version__"] readVersion) (by simp) (List.mem_singleton_self _) _ hok

/-- A `:=` in another assignment, or a function of that name, binds it as well. -/
example : ∀ stmt ∈ ([.assign [.name "x"] (.named "__version__" readVersion),
    .annAssign (.name "x") (.name "str") (some (.other [.named "__version__" readVersion])),
    .other ["__version__"]] : List Stmt),
    stmt.literalVersion? = none ∧ stmt.binds = true := by
  simp only [List.mem_cons, List.not_mem_nil, or_false, forall_eq_or_imp, forall_eq]
  exact ⟨⟨rfl, rfl⟩, ⟨rfl, rfl⟩, rfl, rfl⟩

end FlightSql.Provenance
