/-
  The installer's `direct_url.json` — `_unique_json_object` and `_installed_direct_url` of
  `flightsql/provenance.py`.

  THE CODE hands every object of the text, when it is complete, to `_unique_json_object`, the inner ones
  before the outer ones and also where the text turns out to be no JSON further on.

  WHAT IT IS FOR: what is returned can be read in one way only.  No object in it, at any depth, has a key
  twice (`installedDirectUrl_iff`).

  The crux is that the objects `json.loads` completes are those that occur in the value
  (`mem_completed_iff`).  Mathlib-free.
-/
import FlightSql.Provenance.Selection

set_option linter.unusedVariables false

namespace FlightSql.Provenance

open Lib

/-! ## Objects of a value -/

mutual
/-- The objects of a value in the order they are complete. -/
def Json.completed : Json → List (List (String × Json))
  | .arr items => completedItems items
  | .obj members => completedMembers members ++ [members]
  | _ => []
/-- Those of the items of an array. -/
def completedItems : List Json → List (List (String × Json))
  | [] => []
  | item :: items => item.completed ++ completedItems items
/-- Those of the members of an object. -/
def completedMembers : List (String × Json) → List (List (String × Json))
  | [] => []
  | (_, value) :: members => value.completed ++ completedMembers members
end

/-- `v` is the value or stands in it, at any depth. -/
inductive Json.Occurs (v : Json) : Json → Prop where
  | self : Occurs v v
  | item {items : List Json} {value : Json} (h : value ∈ items) (hv : Occurs v value) :
      Occurs v (.arr items)
  | member {members : List (String × Json)} {key : String} {value : Json} (h : (key, value) ∈ members)
      (hv : Occurs v value) : Occurs v (.obj members)

/-- **Unique keys**: no object in the value has a key twice. -/
def Json.UniqueKeys (v : Json) : Prop :=
  ∀ pairs, Json.Occurs (.obj pairs) v → (pairs.map Prod.fst).Nodup

/-! ## The source functions -/

/-- How `json.loads` fails: with a `JSONDecodeError`, or otherwise. -/
inductive JsonFailure where
  | decodeError
  | other (e : Exn)

/-- **What `json.loads` comes to**: a value, or a failure after some objects were complete. -/
inductive Parsed where
  | value (v : Json)
  | failed (completed : List (List (String × Json))) (failure : JsonFailure)

/-- **What the verifier takes from Python's libraries**, beside the version library: white space,
    `json.loads`, and equality and text of versions. -/
structure InstallLibrary (V : Type) extends VersionLibrary V where
  isSpace : Char → Bool
  loads : String → Parsed
  same : V → V → Bool
  versionText : V → String

variable {V : Type} (py : Interpreter) (lib : InstallLibrary V) (fs : FileSystem Bytes)

/-- `_unique_json_object`. -/
def uniqueJsonObject (pairs : List (String × Json)) : Except Exn (Dict String Json) :=
  pairs.foldlM (fun result pair => do
    raiseIf (result.contains pair.1)
      ("installed direct_url.json contains duplicate key " ++ py.repr pair.1)
    .ok (result.set pair.1 pair.2)) .empty

/-- The hook's part in `json.loads`. -/
def uniqueJsonObjects (completed : List (List (String × Json))) : Except Exn (List (Dict String Json)) :=
  completed.mapM (uniqueJsonObject py)

/-- `_installed_direct_url`. -/
def installedDirectUrl (path : Path) : Except Exn (Dict String Json) :=
  match readText fs path with
  | .error _ => .error (provenanceError "installed direct_url.json is not valid UTF-8 JSON")
  | .ok text =>
    match lib.loads text with
    | .failed completed failure => do
      let _ ← uniqueJsonObjects py completed
      match failure with
      | .decodeError => .error (provenanceError "installed direct_url.json is not valid UTF-8 JSON")
      | .other e => .error e
    | .value v => do
      let _ ← uniqueJsonObjects py v.completed
      match v with
      | .obj members => uniqueJsonObject py members
      | _ => .error (provenanceError "installed direct_url.json must contain a JSON object")

/-! ## The objects completed are those that occur -/

mutual
theorem mem_completed_iff (v : Json) (pairs : List (String × Json)) :
    pairs ∈ v.completed ↔ Json.Occurs (.obj pairs) v := by
  cases v with
  | arr items =>
    rw [Json.completed, mem_completedItems_iff items pairs]
    constructor
    · rintro ⟨value, hvalue, hoccurs⟩
      exact .item hvalue hoccurs
    · intro h
      cases h with
      | item h hv => exact ⟨_, h, hv⟩
  | obj members =>
    rw [Json.completed, List.mem_append, List.mem_singleton, mem_completedMembers_iff members pairs]
    constructor
    · rintro (⟨key, value, hvalue, hoccurs⟩ | rfl)
      · exact .member hvalue hoccurs
      · exact .self
    · intro h
      cases h with
      | self => exact Or.inr rfl
      | member h hv => exact Or.inl ⟨_, _, h, hv⟩
  | null => exact iff_of_false (by simp [Json.completed]) (fun h => nomatch h)
  | bool b => exact iff_of_false (by simp [Json.completed]) (fun h => nomatch h)
  | num text => exact iff_of_false (by simp [Json.completed]) (fun h => nomatch h)
  | str s => exact iff_of_false (by simp [Json.completed]) (fun h => nomatch h)

theorem mem_completedItems_iff (items : List Json) (pairs : List (String × Json)) :
    pairs ∈ completedItems items ↔ ∃ value ∈ items, Json.Occurs (.obj pairs) value := by
  cases items with
  | nil => simp [completedItems]
  | cons item items =>
    rw [completedItems, List.mem_append, mem_completed_iff item pairs, mem_completedItems_iff items pairs]
    simp

theorem mem_completedMembers_iff (members : List (String × Json)) (pairs : List (String × Json)) :
    pairs ∈ completedMembers members ↔
      ∃ key value, (key, value) ∈ members ∧ Json.Occurs (.obj pairs) value := by
  cases members with
  | nil => simp [completedMembers]
  | cons member members =>
    obtain ⟨key, value⟩ := member
    rw [completedMembers, List.mem_append, mem_completed_iff value pairs,
      mem_completedMembers_iff members pairs]
    constructor
    · rintro (h | ⟨key', value', hmem, h⟩)
      · exact ⟨key, value, List.mem_cons_self, h⟩
      · exact ⟨key', value', List.mem_cons_of_mem _ hmem, h⟩
    · rintro ⟨key', value', hmem, h⟩
      rcases List.mem_cons.mp hmem with heq | hmem
      · obtain ⟨rfl, rfl⟩ := Prod.mk.inj heq
        exact Or.inl h
      · exact Or.inr ⟨key', value', hmem, h⟩
end

/-! ## What is returned -/

variable {py lib fs}

/-- The loop returns exactly for unique keys, and then the members themselves. -/
theorem uniqueJsonObject_eq_ok {pairs : List (String × Json)} {d : Dict String Json} :
    uniqueJsonObject py pairs = .ok d ↔ (pairs.map Prod.fst).Nodup ∧ d.entries = pairs := by
  have hloop : ∀ (pairs : List (String × Json)) (start d : Dict String Json),
      pairs.foldlM (fun (result : Dict String Json) pair => do
          raiseIf (result.contains pair.1)
            ("installed direct_url.json contains duplicate key " ++ py.repr pair.1)
          .ok (result.set pair.1 pair.2)) start = .ok d ↔
        ((start.entries ++ pairs).map Prod.fst).Nodup ∧ d.entries = start.entries ++ pairs := by
    intro pairs
    induction pairs with
    | nil =>
      intro start d
      rw [List.append_nil]
      constructor
      · intro h
        rw [← Except.ok.inj h]
        exact ⟨start.nodup, rfl⟩
      · rintro ⟨-, hentries⟩
        obtain ⟨entries, _⟩ := d
        subst hentries
        rfl
    | cons pair pairs ih =>
      intro start d
      rw [List.foldlM_cons]
      by_cases hkey : pair.1 ∈ start.keys
      · -- the key is there already
        have hcontains : start.contains pair.1 = true := Dict.contains_iff.mpr hkey
        have hnot : ¬((start.entries ++ pair :: pairs).map Prod.fst).Nodup := by
          intro hnodup
          rw [List.map_append, List.nodup_append] at hnodup
          exact hnodup.2.2 pair.1 hkey pair.1 (by simp) rfl
        refine iff_of_false (fun h => ?_) fun h => hnot h.1
        rw [hcontains] at h
        cases h
      · have hcontains : start.contains pair.1 = false :=
          eq_false_of_ne_true fun h => hkey (Dict.contains_iff.mp h)
        have hset := ih (start.set pair.1 pair.2) d
        rw [Dict.entries_set_of_not_mem hkey, List.append_assoc, List.singleton_append] at hset
        rw [hcontains]
        exact hset
  have hall := hloop pairs .empty d
  rwa [show (Dict.empty : Dict String Json).entries = [] from rfl, List.nil_append] at hall

theorem uniqueJsonObjects_eq_ok {v : Json} :
    (∃ ds, uniqueJsonObjects py v.completed = .ok ds) ↔ v.UniqueKeys := by
  constructor
  · rintro ⟨ds, h⟩ pairs hoccurs
    obtain ⟨k, hk⟩ := List.mem_iff_getElem?.mp ((mem_completed_iff v pairs).mpr hoccurs)
    obtain ⟨d, -, hd⟩ := Outcome.getElem?_of_mapM_eq_ok h hk
    exact (uniqueJsonObject_eq_ok.mp hd).1
  · intro h
    -- the objects' pairs are their members, so each hook call returns them
    have hone : ∀ pairs ∈ v.completed, ∃ d, uniqueJsonObject py pairs = .ok d := by
      intro pairs hmem
      have hnodup := h pairs ((mem_completed_iff v pairs).mp hmem)
      exact ⟨⟨pairs, hnodup⟩, uniqueJsonObject_eq_ok.mpr ⟨hnodup, rfl⟩⟩
    rw [uniqueJsonObjects]
    generalize v.completed = completed at hone
    induction completed with
    | nil => exact ⟨[], rfl⟩
    | cons pairs completed ih =>
      obtain ⟨hhead, htail⟩ := List.forall_mem_cons.mp hone
      obtain ⟨d, hd⟩ := hhead
      obtain ⟨ds, hds⟩ := ih htail
      exact ⟨d :: ds, by rw [List.mapM_cons, hd, hds]; rfl⟩

/-- **What is returned has unique keys at every depth**, and is the object in the file. -/
theorem installedDirectUrl_iff {path : Path} {d : Dict String Json} :
    installedDirectUrl py lib fs path = .ok d ↔ ∃ text, readText fs path = .ok text ∧
      lib.loads text = .value (.obj d.entries) ∧ (Json.obj d.entries).UniqueKeys := by
  constructor
  · intro h
    unfold installedDirectUrl at h
    split at h
    · cases h
    rename_i text htext
    split at h
    · obtain ⟨_, -, h⟩ := Outcome.bind_eq_ok h
      split at h <;> cases h
    rename_i v hv
    obtain ⟨ds, hds, h⟩ := Outcome.bind_eq_ok h
    have hunique := uniqueJsonObjects_eq_ok.mp ⟨ds, hds⟩
    split at h
    · rename_i members
      obtain ⟨-, hentries⟩ := uniqueJsonObject_eq_ok.mp h
      rw [hentries]
      exact ⟨text, htext, hv, hunique⟩
    · cases h
  · rintro ⟨text, htext, hv, hunique⟩
    obtain ⟨ds, hds⟩ := (@uniqueJsonObjects_eq_ok py _).mpr hunique
    have hmembers : uniqueJsonObject py d.entries = .ok d := uniqueJsonObject_eq_ok.mpr ⟨d.nodup, rfl⟩
    simp [installedDirectUrl, htext, hv, hds, hmembers, bind, Except.bind]

end FlightSql.Provenance
