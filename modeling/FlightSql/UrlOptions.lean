/-
  Where the options of a URL go — `_parse_boolean_query_value` and `client_from_url` of
  `flightsql/sqlalchemy.py`.

  THE CODE: the query is folded into one map of lower-cased keys, which is then taken apart: two booleans,
  the token and the features are popped, the rest is metadata.

  WHAT IT IS FOR: every key of the query, however it is spelled, has an EFFECTIVE value — the last one
  given under a spelling of it (`effectiveValue`) — and each effective key goes to one place.

  1. **The map** (`get?_effectiveQuery`) — its values are the effective ones.

  2. **The features** (`popFeatures_features`, `popFeatures_metadata`) — the loop that pops keys while it
     walks a copy of them moves each feature key, without its prefix, and leaves the others.

  3. **The client** (`clientFromUrl_routes`).
-/
import FlightSql.CallHeaders

set_option linter.unusedVariables false

namespace FlightSql

open Lib Lib.Wire

/-! ## The source functions -/

/-- **What rests on Unicode tables**: `str.lower`, `str.strip` and `repr` of a string. -/
structure PythonText where
  lower : String → String
  strip : String → String
  repr : String → String

/-- The value of a query key: a string, or the tuple of a repeated key. -/
inductive QueryValue where
  | one (value : String)
  | repeated (values : List String) (nonempty : values ≠ [])

/-- `value if isinstance(value, str) else value[-1]`. -/
def QueryValue.last : QueryValue → String
  | .one value => value
  | .repeated values nonempty => values.getLast nonempty

/-- `sqlalchemy.engine.URL`. -/
structure Url where
  username : Option String
  password : Option String
  host : Option String
  port : Option Nat
  query : Dict String QueryValue

/-- `_TRUE_QUERY_VALUES`. -/
def trueQueryValues : List String := ["1", "true", "yes", "on"]

/-- `_FALSE_QUERY_VALUES`. -/
def falseQueryValues : List String := ["", "0", "false", "no", "off"]

/-- `ArgumentError(message)`. -/
def argumentError (message : String) : Exn := ⟨.sqlalchemy .argument, message⟩

/-- `_parse_boolean_query_value`; the choices are the sorted union of the two sets. -/
def parseBooleanQueryValue (py : PythonText) (name value : String) : Except Exn Bool :=
  if py.lower (py.strip value) ∈ trueQueryValues then .ok true
  else if py.lower (py.strip value) ∈ falseQueryValues then .ok false
  else
    .error (argumentError ("invalid boolean value for " ++ py.repr name ++ ": " ++ py.repr value ++
      "; expected one of: <empty>, 0, 1, false, no, off, on, true, yes"))

/-- `feature_prefix`. -/
def featurePrefix : String := "feature-"

/-- `k.startswith(feature_prefix)`. -/
def isFeature (key : String) : Bool := featurePrefix.toList.isPrefixOf key.toList

/-- `k[len(feature_prefix):]`. -/
def featureName (key : String) : String := String.ofList (key.toList.drop featurePrefix.length)

/-- `{key.lower(): value if isinstance(value, str) else value[-1] for key, value in url.query.items()}`. -/
def effectiveQuery (py : PythonText) (query : Dict String QueryValue) : Dict String String :=
  Dict.ofList (query.entries.map fun e => (py.lower e.1, e.2.last))

/-- One turn of the loop over `list(metadata.keys())`. -/
def popFeature (state : Dict String String × Dict String String) (key : String) :
    Dict String String × Dict String String :=
  if isFeature key then
    (state.1.set (featureName key) ((state.2.get? key).getD ""), state.2.erase key)
  else state

/-- The features, and the metadata they are popped from. -/
def popFeatures (metadata : Dict String String) : Dict String String × Dict String String :=
  metadata.keys.foldl popFeature (.empty, metadata)

/-- `url.translate_connect_args(…)[name]`: what is empty or zero is no connect argument. -/
def connectArg {α : Type} (name : String) (truthy : α → Bool) (value : Option α) : Except Exn α :=
  match value.filter truthy with
  | some value => .ok value
  | none => .error ⟨.python .keyError, "'" ++ name ++ "'"⟩

/-- **`client_from_url`**. -/
def clientFromUrl (lib : FlightLibrary) (py : PythonText) (url : Url) :
    Run (List FlightClient) Exn FlightSqlClient := do
  let metadata := effectiveQuery py url.query
  let insecure ← Run.ofExcept (parseBooleanQueryValue py "insecure" ((metadata.get? "insecure").getD ""))
  let metadata := metadata.erase "insecure"
  let disableServerVerification ← Run.ofExcept (parseBooleanQueryValue py "disable_server_verification"
    ((metadata.get? "disable_server_verification").getD ""))
  let metadata := metadata.erase "disable_server_verification"
  if insecure && disableServerVerification then
    Run.raise (argumentError "insecure and disable_server_verification cannot both be true")
  else do
    let token := metadata.get? "token"
    let (features, metadata) := popFeatures (metadata.erase "token")
    let host ← Run.ofExcept (connectArg "host" (fun host => host ≠ "") url.host)
    let port ← Run.ofExcept (connectArg "port" (fun port => port ≠ 0) url.port)
    flightSqlClient lib
      { host := host
        port := port
        user := url.username.filter fun user => user ≠ ""
        password := url.password.filter fun password => password ≠ ""
        token := token
        insecure := .bool insecure
        disableServerVerification := .bool disableServerVerification
        metadata := metadata
        kwargs := .empty }
      features

/-! ## The map -/

/-- **The effective value of a key**: that of the last entry spelled so, up to its case. -/
def effectiveValue (py : PythonText) (query : Dict String QueryValue) (key : String) : Option String :=
  (query.entries.reverse.find? fun e => py.lower e.1 = key).map fun e => e.2.last

theorem assocGet_map {α β : Type} (f : α → String) (g : β → String) (key : String) (es : List (α × β)) :
    assocGet key (es.map fun e => (f e.1, g e.2)) = (es.find? fun e => f e.1 = key).map fun e => g e.2 := by
  induction es with
  | nil => rfl
  | cons e es ih =>
    rw [List.map_cons, assocGet, List.find?_cons, ih]
    by_cases h : f e.1 = key
    · rw [if_pos h, decide_eq_true h]
      rfl
    · rw [if_neg h, decide_eq_false h]

theorem get?_effectiveQuery (py : PythonText) (query : Dict String QueryValue) (key : String) :
    (effectiveQuery py query).get? key = effectiveValue py query key := by
  rw [effectiveQuery, Dict.get?_ofList, ← List.map_reverse, effectiveValue]
  exact assocGet_map py.lower QueryValue.last key _

/-- An effective key is a key of the query, in lower case. -/
theorem key_of_effectiveValue {py : PythonText} {query : Dict String QueryValue} {key value : String}
    (h : effectiveValue py query key = some value) : ∃ spelled ∈ query.keys, py.lower spelled = key := by
  obtain ⟨e, he, -⟩ := Option.map_eq_some_iff.mp h
  have hlower := List.find?_some he
  exact ⟨e.1, List.mem_map_of_mem (List.mem_reverse.mp (List.mem_of_find?_eq_some he)), of_decide_eq_true hlower⟩

/-! ## The features -/

theorem isFeature_iff {key : String} : isFeature key = true ↔ ∃ name, key = featurePrefix ++ name := by
  rw [isFeature, List.isPrefixOf_iff_prefix]
  constructor
  · rintro ⟨rest, hrest⟩
    refine ⟨String.ofList rest, ?_⟩
    rw [← String.toList_inj, String.toList_append, String.toList_ofList, hrest]
  · rintro ⟨name, rfl⟩
    exact ⟨name.toList, String.toList_append.symm⟩

theorem featureName_append (name : String) : featureName (featurePrefix ++ name) = name := by
  rw [featureName, String.toList_append]
  have hdrop : (featurePrefix.toList ++ name.toList).drop featurePrefix.length = name.toList := by
    rw [← String.length_toList, List.drop_left]
  rw [hdrop, String.ofList_toList]

/-- One turn of the loop on the metadata: a feature key is popped. -/
theorem popFeature_metadata (state : Dict String String × Dict String String) (key k : String) :
    (popFeature state key).2.get? k = if k = key ∧ isFeature k = true then none else state.2.get? k := by
  unfold popFeature
  by_cases hfeature : isFeature key = true
  · rw [if_pos hfeature]
    by_cases hkey : k = key
    · subst hkey
      rw [if_pos ⟨rfl, hfeature⟩, Dict.get?_erase, if_pos rfl]
    · rw [if_neg fun h => hkey h.1, Dict.get?_erase, if_neg (Ne.symm hkey)]
  · rw [if_neg hfeature, if_neg]
    rintro ⟨rfl, hyes⟩
    exact hfeature hyes

theorem foldl_popFeature_metadata (keys : List String) (state : Dict String String × Dict String String)
    (k : String) : (keys.foldl popFeature state).2.get? k =
      if k ∈ keys ∧ isFeature k = true then none else state.2.get? k := by
  induction keys generalizing state with
  | nil => simp
  | cons key keys ih =>
    rw [List.foldl_cons, ih, popFeature_metadata]
    by_cases hfeature : isFeature k = true
    · by_cases hrest : k ∈ keys
      -- whether the key is popped at this turn, at a later one or never
      · rw [if_pos ⟨hrest, hfeature⟩, if_pos ⟨List.mem_cons_of_mem key hrest, hfeature⟩]
      · rw [if_neg fun h => hrest h.1]
        by_cases hkey : k = key
        · rw [if_pos ⟨hkey, hfeature⟩, if_pos ⟨List.mem_cons.mpr (Or.inl hkey), hfeature⟩]
        · rw [if_neg fun h => hkey h.1, if_neg fun h => (List.mem_cons.mp h.1).elim hkey hrest]
    · rw [if_neg fun h => hfeature h.2, if_neg fun h => hfeature h.2, if_neg fun h => hfeature h.2]

/-- What is left is every key that is no feature. -/
theorem popFeatures_metadata (metadata : Dict String String) (k : String) :
    (popFeatures metadata).2.get? k = if isFeature k = true then none else metadata.get? k := by
  rw [popFeatures, foldl_popFeature_metadata]
  by_cases hfeature : isFeature k = true
  · rw [if_pos hfeature]
    split
    · rfl
    · rename_i hnot
      exact Dict.get?_eq_none_iff.mpr fun hk => hnot ⟨hk, hfeature⟩
  · rw [if_neg fun h => hfeature h.2, if_neg hfeature]

/-- One turn of the loop on the features: the value of a feature key goes under the rest of the key. -/
theorem popFeature_features {state : Dict String String × Dict String String} {key : String}
    (hkey : key ∈ state.2.keys) (name : String) : (popFeature state key).1.get? name =
      if featurePrefix ++ name = key then state.2.get? key else state.1.get? name := by
  unfold popFeature
  by_cases hname : featurePrefix ++ name = key
  · subst hname
    obtain ⟨value, hvalue⟩ := Dict.mem_keys_iff.mp hkey
    rw [if_pos (isFeature_iff.mpr ⟨name, rfl⟩), if_pos rfl, featureName_append, hvalue]
    exact Dict.get?_set_self _ _ _
  · rw [if_neg hname]
    by_cases hfeature : isFeature key = true
    · obtain ⟨name', rfl⟩ := isFeature_iff.mp hfeature
      have hne : name' ≠ name := fun h => hname (by rw [h])
      rw [if_pos hfeature, featureName_append, Dict.get?_set, if_neg hne]
    · rw [if_neg hfeature]

theorem foldl_popFeature_features (keys : List String) (hnodup : keys.Nodup)
    (state : Dict String String × Dict String String) (hkeys : ∀ key ∈ keys, key ∈ state.2.keys)
    (name : String) : (keys.foldl popFeature state).1.get? name =
      if featurePrefix ++ name ∈ keys then state.2.get? (featurePrefix ++ name) else state.1.get? name := by
  induction keys generalizing state with
  | nil => simp
  | cons key keys ih =>
    obtain ⟨hfresh, hnodup⟩ := List.nodup_cons.mp hnodup
    -- the turn at `key` leaves the values of the keys still to come
    have hother : ∀ k ∈ keys, (popFeature state key).2.get? k = state.2.get? k := by
      intro k hk
      rw [popFeature_metadata, if_neg]
      rintro ⟨rfl, -⟩
      exact hfresh hk
    have hrest : ∀ k ∈ keys, k ∈ (popFeature state key).2.keys := by
      intro k hk
      rw [Dict.mem_keys_iff, hother k hk, ← Dict.mem_keys_iff]
      exact hkeys k (List.mem_cons_of_mem key hk)
    rw [List.foldl_cons, ih hnodup _ hrest]
    by_cases hlater : featurePrefix ++ name ∈ keys
    · rw [if_pos hlater, if_pos (List.mem_cons_of_mem key hlater), hother _ hlater]
    · rw [if_neg hlater, popFeature_features (hkeys key List.mem_cons_self)]
      by_cases hkey : featurePrefix ++ name = key
      · rw [if_pos hkey, if_pos (List.mem_cons.mpr (Or.inl hkey)), hkey]
      · rw [if_neg hkey, if_neg fun h => (List.mem_cons.mp h).elim hkey hlater]

/-- A feature is the value of its key. -/
theorem popFeatures_features (metadata : Dict String String) (name : String) :
    (popFeatures metadata).1.get? name = metadata.get? (featurePrefix ++ name) := by
  rw [popFeatures, foldl_popFeature_features metadata.keys metadata.nodup (.empty, metadata) fun _ h => h]
  split
  · rfl
  · rename_i hnot
    exact (Dict.get?_eq_none_iff.mpr hnot).symm

/-! ## The client -/

/-- The keys that are popped by name. -/
def poppedKeys : List String := ["insecure", "disable_server_verification", "token"]

/-- A key that means something to the driver itself. -/
def Reserved (key : String) : Prop := key ∈ poppedKeys ∨ isFeature key = true

/-- The metadata the features are popped from. -/
def unpopped (metadata : Dict String String) : Dict String String :=
  ((metadata.erase "insecure").erase "disable_server_verification").erase "token"

theorem get?_unpopped (metadata : Dict String String) (key : String) :
    (unpopped metadata).get? key = if key ∈ poppedKeys then none else metadata.get? key := by
  rw [unpopped, Dict.get?_erase, Dict.get?_erase, Dict.get?_erase]
  by_cases htoken : "token" = key
  · subst htoken
    rfl
  · rw [if_neg htoken]
    by_cases hverification : "disable_server_verification" = key
    · subst hverification
      rfl
    · rw [if_neg hverification]
      by_cases hinsecure : "insecure" = key
      · subst hinsecure
        rfl
      · rw [if_neg hinsecure, if_neg]
        simp [poppedKeys, Ne.symm htoken, Ne.symm hverification, Ne.symm hinsecure]

/-- No key popped by name is a feature. -/
theorem feature_not_popped (name : String) : featurePrefix ++ name ∉ poppedKeys := by
  intro hmem
  have hall : ∀ key ∈ poppedKeys, isFeature key = false := by decide
  have hnot := hall _ hmem
  rw [isFeature_iff.mpr ⟨name, rfl⟩] at hnot
  cases hnot

section Client

variable (lib : FlightLibrary) (py : PythonText) (url : Url)

/-- The text of a boolean option: empty unless it is given. -/
def flagText (name : String) : String := (effectiveValue py url.query name).getD ""

/-- An accepted spelling of a boolean. -/
def Accepted (value : String) : Prop :=
  py.lower (py.strip value) ∈ trueQueryValues ∨ py.lower (py.strip value) ∈ falseQueryValues

/-- An accepted spelling of true. -/
def IsTrue (value : String) : Prop := py.lower (py.strip value) ∈ trueQueryValues

instance (value : String) : Decidable (IsTrue py value) := inferInstanceAs (Decidable (_ ∈ trueQueryValues))

instance (value : String) : Decidable (Accepted py value) := inferInstanceAs (Decidable (_ ∨ _))

/-- A boolean that is not accepted, or both of them true. -/
def RejectedUrl : Prop :=
  ¬Accepted py (flagText py url "insecure") ∨
    ¬Accepted py (flagText py url "disable_server_verification") ∨
    (IsTrue py (flagText py url "insecure") ∧ IsTrue py (flagText py url "disable_server_verification"))

instance : Decidable (RejectedUrl py url) := inferInstanceAs (Decidable (_ ∨ _ ∨ _))

/-- **Where the effective keys of a client went**: each is in one place, and none that means something to
    the driver is among the headers of the metadata. -/
structure Routed (flight : FlightClient) (client : FlightSqlClient) (credentials : List Header)
    (metadata : Dict String String) : Prop where
  flight_eq : client.client = flight
  token : credentialHeaders lib flight (url.username.filter fun user => user ≠ "")
    (url.password.filter fun password => password ≠ "") (effectiveValue py url.query "token") = .ok credentials
  feature : ∀ name, client.features.get? name = effectiveValue py url.query (featurePrefix ++ name)
  reserved : ∀ key, Reserved key → metadata.get? key = none
  unreserved : ∀ key, ¬Reserved key → metadata.get? key = effectiveValue py url.query key
  sent : client.headers = credentials ++ metadataHeaders metadata
  spelled : ∀ header ∈ metadataHeaders metadata, ∃ key ∈ url.query.keys,
    header.1 = utf8 (py.lower key) ∧ ¬Reserved (py.lower key)

/-- A boolean option is parsed as its effective text says. -/
theorem parseBooleanQueryValue_cases (name value : String) :
    (Accepted py value ∧ parseBooleanQueryValue py name value = .ok (decide (IsTrue py value))) ∨
      (¬Accepted py value ∧ ∃ message, parseBooleanQueryValue py name value = .error (argumentError message)) := by
  unfold parseBooleanQueryValue
  by_cases htrue : py.lower (py.strip value) ∈ trueQueryValues
  · refine Or.inl ⟨Or.inl htrue, ?_⟩
    rw [if_pos htrue, decide_eq_true (show IsTrue py value from htrue)]
  · rw [if_neg htrue]
    by_cases hfalse : py.lower (py.strip value) ∈ falseQueryValues
    · refine Or.inl ⟨Or.inr hfalse, ?_⟩
      rw [if_pos hfalse, decide_eq_false (show ¬IsTrue py value from htrue)]
    · rw [if_neg hfalse]
      exact Or.inr ⟨fun h => h.elim htrue hfalse, _, rfl⟩

/-- The arguments `client_from_url` makes a client of. -/
def urlArgs (host : String) (port : Nat) : ClientArgs where
  host := host
  port := port
  user := url.username.filter fun user => user ≠ ""
  password := url.password.filter fun password => password ≠ ""
  token := effectiveValue py url.query "token"
  insecure := .bool (decide (IsTrue py (flagText py url "insecure")))
  disableServerVerification := .bool (decide (IsTrue py (flagText py url "disable_server_verification")))
  metadata := (popFeatures (unpopped (effectiveQuery py url.query))).2
  kwargs := .empty

/-- `client_from_url`, with the map taken apart. -/
theorem clientFromUrl_eq : clientFromUrl lib py url = (do
    let insecure ← Run.ofExcept (parseBooleanQueryValue py "insecure" (flagText py url "insecure"))
    let disableServerVerification ← Run.ofExcept (parseBooleanQueryValue py "disable_server_verification"
      (flagText py url "disable_server_verification"))
    if insecure && disableServerVerification then
      Run.raise (argumentError "insecure and disable_server_verification cannot both be true")
    else do
      let host ← Run.ofExcept (connectArg "host" (fun host => host ≠ "") url.host)
      let port ← Run.ofExcept (connectArg "port" (fun port => port ≠ 0) url.port)
      flightSqlClient lib
        { urlArgs py url host port with
          insecure := .bool insecure, disableServerVerification := .bool disableServerVerification }
        (popFeatures (unpopped (effectiveQuery py url.query))).1) := by
  have htoken : (((effectiveQuery py url.query).erase "insecure").erase "disable_server_verification").get?
      "token" = effectiveValue py url.query "token" := by
    rw [Dict.get?_erase, if_neg (by decide), Dict.get?_erase, if_neg (by decide), get?_effectiveQuery]
  have hverification : ((effectiveQuery py url.query).erase "insecure").get? "disable_server_verification" =
      effectiveValue py url.query "disable_server_verification" := by
    rw [Dict.get?_erase, if_neg (by decide), get?_effectiveQuery]
  unfold clientFromUrl
  dsimp only
  rw [htoken, hverification, get?_effectiveQuery]
  rfl

variable {lib py url}

/-- A URL whose booleans are not accepted makes no client. -/
theorem clientFromUrl_rejected (h : RejectedUrl py url) (calls : List FlightClient) :
    ∃ message, clientFromUrl lib py url calls = (.error (argumentError message), calls) := by
  rw [clientFromUrl_eq]
  rcases parseBooleanQueryValue_cases py "insecure" (flagText py url "insecure") with
    ⟨hinsecure, hparse⟩ | ⟨-, message, hparse⟩
  -- the second option is read only if the first is accepted
  · rw [hparse]
    rcases parseBooleanQueryValue_cases py "disable_server_verification"
      (flagText py url "disable_server_verification") with ⟨hverification, hparse'⟩ | ⟨-, message, hparse'⟩
    · rw [hparse']
      have hboth : (decide (IsTrue py (flagText py url "insecure")) &&
          decide (IsTrue py (flagText py url "disable_server_verification"))) = true := by
        rcases h with hnot | hnot | ⟨htrue, htrue'⟩
        · exact absurd hinsecure hnot
        · exact absurd hverification hnot
        · rw [decide_eq_true htrue, decide_eq_true htrue']
          rfl
      refine ⟨"insecure and disable_server_verification cannot both be true", ?_⟩
      rw [Run.ofExcept_ok_bind, Run.ofExcept_ok_bind, if_pos hboth]
      rfl
    · rw [hparse']
      exact ⟨message, rfl⟩
  · rw [hparse]
    exact ⟨message, rfl⟩

/-- What is accepted comes down to one client of the URL's arguments. -/
theorem clientFromUrl_accepted (h : ¬RejectedUrl py url) {host : String} {port : Nat}
    (hhost : url.host = some host ∧ host ≠ "") (hport : url.port = some port ∧ port ≠ 0) :
    clientFromUrl lib py url = flightSqlClient lib (urlArgs py url host port)
        (popFeatures (unpopped (effectiveQuery py url.query))).1 ∧
      (decide (IsTrue py (flagText py url "insecure")) &&
        decide (IsTrue py (flagText py url "disable_server_verification"))) = false := by
  obtain ⟨hinsecure, h⟩ := not_or.mp h
  obtain ⟨hverification, hboth⟩ := not_or.mp h
  have hparse : ∀ name, ¬¬Accepted py (flagText py url name) → parseBooleanQueryValue py name
      (flagText py url name) = .ok (decide (IsTrue py (flagText py url name))) := by
    intro name hname
    rcases parseBooleanQueryValue_cases py name (flagText py url name) with ⟨-, hok⟩ | ⟨hnot, -⟩
    · exact hok
    · exact absurd hnot hname
  have hnot : (decide (IsTrue py (flagText py url "insecure")) &&
      decide (IsTrue py (flagText py url "disable_server_verification"))) = false := by
    rw [Bool.and_eq_false_iff, decide_eq_false_iff_not, decide_eq_false_iff_not]
    exact Classical.not_and_iff_not_or_not.mp hboth
  have hconnectHost : connectArg "host" (fun host => host ≠ "") url.host = .ok host := by
    simp [connectArg, hhost.1, Option.filter, hhost.2]
  have hconnectPort : connectArg "port" (fun port => port ≠ 0) url.port = .ok port := by
    simp [connectArg, hport.1, Option.filter, hport.2]
  refine ⟨?_, hnot⟩
  rw [clientFromUrl_eq, hparse _ hinsecure, hparse _ hverification, Run.ofExcept_ok_bind,
    Run.ofExcept_ok_bind, if_neg (Bool.eq_false_iff.mp hnot), hconnectHost, Run.ofExcept_ok_bind, hconnectPort,
    Run.ofExcept_ok_bind]
  rfl

/-- The Flight client of a URL verifies the server unless its flag is true. -/
theorem verification_of_urlArgs {host : String} {port : Nat}
    (hnot : (decide (IsTrue py (flagText py url "insecure")) &&
      decide (IsTrue py (flagText py url "disable_server_verification"))) = false) :
    (flightClientOf (urlArgs py url host port)).kwargs.get? "disable_server_verification" =
      if IsTrue py (flagText py url "disable_server_verification") then some (.bool true) else none := by
  have hkwargs : (flightClientOf (urlArgs py url host port)).kwargs =
      if decide (IsTrue py (flagText py url "insecure")) = true then Dict.empty
      else if decide (IsTrue py (flagText py url "disable_server_verification")) = true then
        Dict.empty.set "disable_server_verification" (.bool true)
      else Dict.empty := rfl
  rw [hkwargs]
  by_cases hverification : IsTrue py (flagText py url "disable_server_verification")
  · rw [decide_eq_true hverification, Bool.and_true] at hnot
    rw [if_neg (Bool.eq_false_iff.mp hnot), if_pos (decide_eq_true hverification), if_pos hverification]
    exact Dict.get?_set_self _ _ _
  · have hoff : ¬decide (IsTrue py (flagText py url "disable_server_verification")) = true :=
      fun h => hverification (of_decide_eq_true h)
    rw [if_neg hoff, ite_self, if_neg hverification]
    rfl

/-- The metadata of a URL is what is not reserved. -/
theorem get?_urlMetadata (key : String) {host : String} {port : Nat} :
    (Reserved key → (urlArgs py url host port).metadata.get? key = none) ∧
      (¬Reserved key →
        (urlArgs py url host port).metadata.get? key = effectiveValue py url.query key) := by
  show (Reserved key → (popFeatures _).2.get? key = none) ∧ (_ → (popFeatures _).2.get? key = _)
  rw [popFeatures_metadata, get?_unpopped, get?_effectiveQuery]
  constructor
  · rintro (hpopped | hfeature)
    · rw [if_pos hpopped, ite_self]
    · rw [if_pos hfeature]
  · intro hnot
    obtain ⟨hpopped, hfeature⟩ := not_or.mp hnot
    rw [if_neg hfeature, if_neg hpopped]

/-- The client of an accepted URL has its options where they belong. -/
theorem routed_of_client {host : String} {port : Nat} {client : FlightSqlClient} {credentials : List Header}
    (hcredentials : (urlArgs py url host port).credentials lib = .ok credentials)
    (hclient : client = ⟨flightClientOf (urlArgs py url host port),
      credentials ++ metadataHeaders (urlArgs py url host port).metadata,
      (popFeatures (unpopped (effectiveQuery py url.query))).1, false⟩) :
    Routed lib py url (flightClientOf (urlArgs py url host port)) client credentials
      (urlArgs py url host port).metadata := by
  subst hclient
  refine {
    flight_eq := rfl
    token := hcredentials
    feature := ?_
    reserved := fun key => (get?_urlMetadata key).1
    unreserved := fun key => (get?_urlMetadata key).2
    sent := rfl
    spelled := ?_ }
  · intro name
    show (popFeatures _).1.get? name = _
    rw [popFeatures_features, get?_unpopped, if_neg (feature_not_popped name), get?_effectiveQuery]
  · intro header hheader
    obtain ⟨⟨key, value⟩, hentry, rfl⟩ := List.mem_map.mp hheader
    have hget : (urlArgs py url host port).metadata.get? key = some value := Dict.get?_eq_some_iff.mpr hentry
    have hnot : ¬Reserved key := by
      intro hreserved
      -- nothing reserved is left, so a header was an effective key
      rw [(get?_urlMetadata key).1 hreserved] at hget
      cases hget
    rw [(get?_urlMetadata key).2 hnot] at hget
    obtain ⟨spelled, hspelled, rfl⟩ := key_of_effectiveValue hget
    exact ⟨spelled, hspelled, rfl, hnot⟩

end Client

/-- **URL options go where they belong.**  A URL whose booleans are not accepted raises `ArgumentError` and
    makes no Flight client.  Any other makes one call of `flight.FlightClient`, over TCP exactly when
    `insecure` is true and without verification exactly when that is asked for; and the client it returns
    has every other effective key in one place. -/
theorem clientFromUrl_routes (lib : FlightLibrary) (py : PythonText) {url : Url} {host : String} {port : Nat}
    (hhost : url.host = some host ∧ host ≠ "") (hport : url.port = some port ∧ port ≠ 0)
    (calls : List FlightClient) :
    (RejectedUrl py url →
      ∃ message, clientFromUrl lib py url calls = (.error (argumentError message), calls)) ∧
    (¬RejectedUrl py url → ∃ flight metadata,
      (clientFromUrl lib py url calls).2 = calls ++ [flight] ∧
      flight.url = "grpc+" ++ (if IsTrue py (flagText py url "insecure") then "tcp" else "tls") ++ "://" ++
        host ++ ":" ++ toString port ∧
      flight.kwargs.get? "disable_server_verification" =
        (if IsTrue py (flagText py url "disable_server_verification") then some (.bool true) else none) ∧
      (∀ client, (clientFromUrl lib py url calls).1 = .ok client →
        ∃ credentials, Routed lib py url flight client credentials metadata) ∧
      (∀ credentials, lib.connect flight = .ok () →
        credentialHeaders lib flight (url.username.filter fun user => user ≠ "")
          (url.password.filter fun password => password ≠ "") (effectiveValue py url.query "token") =
            .ok credentials →
        ∃ client, (clientFromUrl lib py url calls).1 = .ok client)) := by
  refine ⟨fun hrejected => clientFromUrl_rejected hrejected calls, fun haccepted => ?_⟩
  obtain ⟨hclient, hnot⟩ := @clientFromUrl_accepted lib py url haccepted host port hhost hport
  obtain ⟨hcalls, houtcome⟩ := @flightSqlClient_run lib (urlArgs py url host port)
    (popFeatures (unpopped (effectiveQuery py url.query))).1 calls _ _ rfl rfl hnot
  rw [hclient]
  refine ⟨_, (urlArgs py url host port).metadata, hcalls, ?_, ?_, ?_, ?_⟩
  · show "grpc+" ++ (if (decide (IsTrue py (flagText py url "insecure"))) = true then "tcp" else "tls") ++ _ ++
      _ ++ _ ++ _ = _
    simp only [decide_eq_true_eq]
    rfl
  · exact verification_of_urlArgs hnot
  · intro client hok
    obtain ⟨-, credentials, hcredentials, heq⟩ := (houtcome client).mp hok
    exact ⟨credentials, routed_of_client hcredentials heq⟩
  · intro credentials hconnect hcredentials
    exact ⟨_, (houtcome _).mpr ⟨hconnect, credentials, hcredentials, rfl⟩⟩

/-! ## A URL -/

/-- ASCII text. -/
def PythonText.ascii : PythonText where
  lower text := String.ofList (text.toList.map Char.toLower)
  strip text := String.ofList
    (((text.toList.dropWhile Char.isWhitespace).reverse.dropWhile Char.isWhitespace).reverse)
  repr text := "'" ++ text ++ "'"

/-- Two spellings of `insecure`, a token, a feature and a repeated key. -/
def Url.mixedCase : Url where
  username := none
  password := none
  host := some "localhost"
  port := some 443
  query := .ofList [("insecure", .one "perhaps"), ("Token", .one "secret"), ("Feature-Safe", .one "on"),
    ("Bucket", .repeated ["a", "b"] (List.cons_ne_nil _ _)), ("INSECURE", .one " True")]

/-- The last spelling decides, and the client has one header of its token and one of its bucket. -/
theorem clientFromUrl_mixedCase :
    ∃ flight metadata, (clientFromUrl .reference .ascii .mixedCase []).2 = [] ++ [flight] ∧
      flight.url = "grpc+tcp://localhost:443" ∧
      ∀ client, (clientFromUrl .reference .ascii .mixedCase []).1 = .ok client →
        ∃ credentials, Routed .reference .ascii .mixedCase flight client credentials metadata := by
  obtain ⟨flight, metadata, hcalls, hurl, -, hclient, -⟩ :=
    (clientFromUrl_routes .reference .ascii ⟨rfl, by decide⟩ ⟨rfl, by decide⟩ []).2
      (by decide : ¬RejectedUrl .ascii .mixedCase)
  exact ⟨flight, metadata, hcalls, hurl.trans (by decide), hclient⟩

end FlightSql
