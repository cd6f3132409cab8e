/-
  Flight clients and the headers of their calls — `create_flight_client`, `FlightSQLClient.__init__` and
  `_flight_call_options` of `flightsql/client.py`.

  A client's headers are the header of its credentials, if it has any, and one for each entry of its
  metadata.  A call that has options of its own adds theirs and removes duplicates; a call without
  options sends the client's list as it is.

  1. **Creating a client** (`createFlightClient`) — the calls of `flight.FlightClient` are recorded, so
     that it can be said that there was none.

  2. **Removing duplicates** (`lastWins_dict`) — an `OrderedDict` of headers has each name once, with its
     last value; a list has that property exactly if no name repeats (`lastWins_self_iff`).

  3. **Every call** (`flightCallOptions_lastWins_iff`) — the headers are unique with the last value
     winning exactly if the call has options, or no metadata names the header of the credentials.
-/
import Mathlib.Data.List.Nodup
import FlightSql.Lib.Dict
import FlightSql.Lib.Wire
import FlightSql.Lib.Run
import FlightSql.Exceptions
import FlightSql.PyValue

set_option linter.unusedVariables false

namespace FlightSql

open Lib Lib.Wire

/-! ## Headers -/

/-- The name and the value of a header. -/
abbrev Header := Bytes × Bytes

/-- `text.encode("utf-8")`. -/
def utf8 (text : String) : Bytes := text.toByteArray.data.toList

theorem utf8_injective {s t : String} (h : utf8 s = utf8 t) : s = t := by
  have hdata : s.toByteArray.data = t.toByteArray.data := Array.toList_inj.mp h
  exact String.toByteArray_inj.mp (ByteArray.ext hdata)

/-! ## Creating a client -/

/-- A call of `flight.FlightClient(url, **kwargs)`. -/
structure FlightClient where
  url : String
  kwargs : Dict String PyValue

/-- **What is taken from `pyarrow.flight`**: whether a client can be made, and the header that
    `authenticate_basic_token` gets for a user and a password. -/
structure FlightLibrary where
  connect : FlightClient → Except Exn Unit
  authenticateBasicToken : FlightClient → Option String → Option String → Except Exn Header

/-- The arguments of `create_flight_client`. -/
structure ClientArgs where
  host : String
  port : Nat
  user : Option String
  password : Option String
  token : Option String
  insecure : PyValue
  disableServerVerification : PyValue
  metadata : Dict String String
  kwargs : Dict String PyValue

/-- `bool(text)` of a string or `None`. -/
def truthyText (text : Option String) : Bool := text.getD "" ≠ ""

/-- `value is not None and not isinstance(value, bool)` is a `TypeError`. -/
def checkBool (name : String) (value : PyValue) : Except Exn Unit :=
  match value with
  | .none | .bool _ => .ok ()
  | value => .error ⟨.python .typeError, name ++ " must be a bool or None, not " ++ value.typeName⟩

/-- The call `create_flight_client` makes for its protocol and its verification. -/
def flightClientOf (args : ClientArgs) : FlightClient where
  url := "grpc+" ++ (if args.insecure.truthy then "tcp" else "tls") ++ "://" ++ args.host ++ ":" ++
    toString args.port
  kwargs :=
    if args.insecure.truthy then args.kwargs
    else if args.disableServerVerification.truthy then
      args.kwargs.set "disable_server_verification" (.bool true)
    else args.kwargs

/-- The header of the credentials: a user or password goes before a token. -/
def credentialHeaders (lib : FlightLibrary) (client : FlightClient) (user password token : Option String) :
    Except Exn (List Header) :=
  if truthyText user || truthyText password then do
    let header ← lib.authenticateBasicToken client user password
    .ok [header]
  else if truthyText token then .ok [(utf8 "authorization", utf8 ("Bearer " ++ token.getD ""))]
  else .ok []

/-- The credentials among the arguments. -/
def ClientArgs.credentials (lib : FlightLibrary) (args : ClientArgs) : Except Exn (List Header) :=
  credentialHeaders lib (flightClientOf args) args.user args.password args.token

/-- One header for each entry of the metadata. -/
def metadataHeaders (metadata : Dict String String) : List Header :=
  metadata.entries.map fun e => (utf8 e.1, utf8 e.2)

/-- `create_flight_client`, over the list of the calls of `flight.FlightClient`. -/
def createFlightClient (lib : FlightLibrary) (args : ClientArgs) :
    Run (List FlightClient) Exn (FlightClient × List Header) := do
  Run.ofExcept (checkBool "insecure" args.insecure)
  Run.ofExcept (checkBool "disable_server_verification" args.disableServerVerification)
  if args.insecure.truthy && args.disableServerVerification.truthy then
    Run.raise ⟨.python .valueError, "insecure and disable_server_verification cannot both be true"⟩
  else do
    Run.modify fun calls => calls ++ [flightClientOf args]
    Run.ofExcept (lib.connect (flightClientOf args))
    let credentials ← Run.ofExcept (args.credentials lib)
    pure (flightClientOf args, credentials ++ metadataHeaders args.metadata)

/-- `FlightSQLClient`, as far as its calls depend on it. -/
structure FlightSqlClient where
  client : FlightClient
  headers : List Header
  features : Dict String String
  closed : Bool

/-- `FlightSQLClient(…)`. -/
def flightSqlClient (lib : FlightLibrary) (args : ClientArgs) (features : Dict String String) :
    Run (List FlightClient) Exn FlightSqlClient := do
  let (client, headers) ← createFlightClient lib args
  pure ⟨client, headers, features, false⟩

/-- Two booleans that are not both true pass the checks: there is one call of `flight.FlightClient`. -/
theorem createFlightClient_checked (lib : FlightLibrary) {args : ClientArgs} (calls : List FlightClient)
    {insecure verification : Bool} (hinsecure : args.insecure = .bool insecure)
    (hverification : args.disableServerVerification = .bool verification)
    (hnot : (insecure && verification) = false) :
    createFlightClient lib args calls = (do
      Run.ofExcept (lib.connect (flightClientOf args))
      let credentials ← Run.ofExcept (args.credentials lib)
      pure (flightClientOf args, credentials ++ metadataHeaders args.metadata) :
        Run (List FlightClient) Exn (FlightClient × List Header)) (calls ++ [flightClientOf args]) := by
  have hboth : ¬(args.insecure.truthy && args.disableServerVerification.truthy) = true := by
    rw [hinsecure, hverification]
    exact Bool.eq_false_iff.mp hnot
  have hfirst : checkBool "insecure" args.insecure = .ok () := by
    rw [hinsecure]
    rfl
  have hsecond : checkBool "disable_server_verification" args.disableServerVerification = .ok () := by
    rw [hverification]
    rfl
  unfold createFlightClient
  rw [hfirst, hsecond, if_neg hboth]
  rfl

/-- With such booleans the outcome is the library's: it connects, and it gives the credentials. -/
theorem flightSqlClient_run (lib : FlightLibrary) {args : ClientArgs} (features : Dict String String)
    (calls : List FlightClient) {insecure verification : Bool} (hinsecure : args.insecure = .bool insecure)
    (hverification : args.disableServerVerification = .bool verification)
    (hnot : (insecure && verification) = false) :
    (flightSqlClient lib args features calls).2 = calls ++ [flightClientOf args] ∧
      ∀ client, (flightSqlClient lib args features calls).1 = .ok client ↔
        lib.connect (flightClientOf args) = .ok () ∧ ∃ credentials, args.credentials lib = .ok credentials ∧
          client = ⟨flightClientOf args, credentials ++ metadataHeaders args.metadata, features, false⟩ := by
  have hchecked := createFlightClient_checked lib calls hinsecure hverification hnot
  unfold flightSqlClient
  cases hconnect : lib.connect (flightClientOf args) with
  | error e =>
    have hcreate : createFlightClient lib args calls = (.error e, calls ++ [flightClientOf args]) := by
      rw [hchecked, hconnect]
      rfl
    rw [Run.bind_error hcreate]
    exact ⟨rfl, fun client => ⟨by rintro ⟨⟩, by rintro ⟨⟨⟩, -⟩⟩⟩
  | ok u =>
    cases hcredentials : args.credentials lib with
    | error e =>
      have hcreate : createFlightClient lib args calls = (.error e, calls ++ [flightClientOf args]) := by
        rw [hchecked, hconnect, hcredentials]
        rfl
      rw [Run.bind_error hcreate]
      exact ⟨rfl, fun client => ⟨by rintro ⟨⟩, by rintro ⟨-, credentials, ⟨⟩, -⟩⟩⟩
    | ok credentials =>
      have hcreate : createFlightClient lib args calls =
          (.ok (flightClientOf args, credentials ++ metadataHeaders args.metadata),
            calls ++ [flightClientOf args]) := by
        rw [hchecked, hconnect, hcredentials]
        rfl
      rw [Run.bind_ok hcreate]
      refine ⟨rfl, fun client => ⟨?_, ?_⟩⟩
      · rintro ⟨⟩
        exact ⟨rfl, credentials, rfl, rfl⟩
      · rintro ⟨-, credentials', ⟨⟩, rfl⟩
        rfl

/-! ## Call options -/

/-- `FlightSQLCallOptions`. -/
structure CallOptions where
  timeout : PyValue
  headers : Option (List Header)
  writeOptions : PyValue
  readOptions : PyValue

/-- `flight.FlightCallOptions`. -/
structure FlightCallOptions where
  timeout : PyValue
  headers : List Header
  readOptions : PyValue
  writeOptions : PyValue

/-- `list(OrderedDict(headers).items())`. -/
def deduplicate (headers : List Header) : List Header := (Dict.ofList headers).entries

/-- The options a call with these options passes, from a client with these headers. -/
def passedOptions (headers : List Header) : Option CallOptions → FlightCallOptions
  | none => ⟨.none, headers, .none, .none⟩
  | some options =>
    ⟨options.timeout, deduplicate (headers ++ options.headers.getD []), options.readOptions,
      options.writeOptions⟩

/-- `_flight_call_options`. -/
def flightCallOptions (options : Option CallOptions) : Run FlightSqlClient Exn FlightCallOptions := do
  let headers ← Run.gets fun client => client.headers
  pure (passedOptions headers options)

/-! ## Removing duplicates -/

/-- The value of the last header of this name. -/
def lastValue (name : Bytes) (headers : List Header) : Option Bytes := assocGet name headers.reverse

/-- **Unique, with the last value winning**: each name is passed once, with the value of its last
    occurrence among all headers. -/
structure LastWins (all passed : List Header) : Prop where
  once : (passed.map Prod.fst).Nodup
  last : ∀ name value, (name, value) ∈ passed ↔ lastValue name all = some value

theorem lastWins_deduplicate (headers : List Header) : LastWins headers (deduplicate headers) where
  once := (Dict.ofList headers).nodup
  last name value := by
    rw [lastValue, ← Dict.get?_ofList]
    exact Dict.get?_eq_some_iff.symm

/-- A list passed as it is has the property exactly if no name repeats in it. -/
theorem lastWins_self_iff {headers : List Header} :
    LastWins headers headers ↔ (headers.map Prod.fst).Nodup := by
  constructor
  · exact fun h => h.once
  · intro hnodup
    refine ⟨hnodup, fun name value => ?_⟩
    have hreverse : (headers.reverse.map Prod.fst).Nodup := by
      rw [List.map_reverse]
      exact List.nodup_reverse.mpr hnodup
    have hget := Dict.get?_eq_some_iff (d := ⟨headers.reverse, hreverse⟩) (k := name) (v := value)
    rw [lastValue, ← List.mem_reverse]
    exact hget.symm

/-! ## Every call -/

theorem createFlightClient_ok {lib : FlightLibrary} {args : ClientArgs} {calls calls' : List FlightClient}
    {client : FlightClient} {headers : List Header}
    (h : createFlightClient lib args calls = (.ok (client, headers), calls')) :
    ∃ credentials, args.credentials lib = .ok credentials ∧ client = flightClientOf args ∧
      headers = credentials ++ metadataHeaders args.metadata := by
  obtain ⟨_, s₁, h₁, h⟩ := Run.bind_eq_ok h
  obtain ⟨_, s₂, h₂, h⟩ := Run.bind_eq_ok h
  split at h
  · cases h
  · obtain ⟨_, s₃, h₃, h⟩ := Run.bind_eq_ok h
    obtain ⟨_, s₄, h₄, h⟩ := Run.bind_eq_ok h
    obtain ⟨credentials, s₅, h₅, h⟩ := Run.bind_eq_ok h
    cases h
    exact ⟨credentials, congrArg Prod.fst h₅, rfl, rfl⟩

theorem flightSqlClient_headers {lib : FlightLibrary} {args : ClientArgs} {features : Dict String String}
    {calls calls' : List FlightClient} {client : FlightSqlClient}
    (h : flightSqlClient lib args features calls = (.ok client, calls')) :
    ∃ credentials, args.credentials lib = .ok credentials ∧
      client.headers = credentials ++ metadataHeaders args.metadata := by
  obtain ⟨⟨flight, headers⟩, s₁, hcreate, h⟩ := Run.bind_eq_ok h
  cases h
  obtain ⟨credentials, hcredentials, -, hheaders⟩ := createFlightClient_ok hcreate
  exact ⟨credentials, hcredentials, hheaders⟩

/-- The credentials have one header at most. -/
theorem nodup_credentials {lib : FlightLibrary} {args : ClientArgs} {credentials : List Header}
    (h : args.credentials lib = .ok credentials) : (credentials.map Prod.fst).Nodup := by
  unfold ClientArgs.credentials credentialHeaders at h
  split at h
  -- a user or a password: the token Flight issues
  · obtain ⟨header, -, h⟩ := Outcome.bind_eq_ok h
    cases h
    exact List.nodup_singleton _
  · split at h
    -- the token of the client
    · cases h
      exact List.nodup_singleton _
    · cases h
      exact List.nodup_nil

/-- The metadata is a dictionary, so no two of its headers have one name. -/
theorem nodup_metadataHeaders (metadata : Dict String String) :
    ((metadataHeaders metadata).map Prod.fst).Nodup := by
  have hnames : (metadataHeaders metadata).map Prod.fst = metadata.keys.map utf8 := by
    rw [metadataHeaders, Dict.keys, List.map_map, List.map_map]
    rfl
  rw [hnames]
  exact (List.pairwise_map.mpr (metadata.nodup.imp fun hne heq => hne (utf8_injective heq)))

/-- No entry of the metadata names the header of the credentials. -/
def NamesDistinct (lib : FlightLibrary) (args : ClientArgs) : Prop :=
  ∀ credentials, args.credentials lib = .ok credentials →
    ∀ header ∈ credentials, ∀ key ∈ args.metadata.keys, utf8 key ≠ header.1

theorem mem_names_metadataHeaders {metadata : Dict String String} {name : Bytes} :
    name ∈ (metadataHeaders metadata).map Prod.fst ↔ ∃ key ∈ metadata.keys, utf8 key = name := by
  simp [metadataHeaders, Dict.keys]

/-- A client's headers repeat a name only between its credentials and its metadata. -/
theorem nodup_headers_iff {lib : FlightLibrary} {args : ClientArgs} {credentials : List Header}
    (h : args.credentials lib = .ok credentials) :
    ((credentials ++ metadataHeaders args.metadata).map Prod.fst).Nodup ↔ NamesDistinct lib args := by
  rw [List.map_append, List.nodup_append]
  constructor
  · rintro ⟨-, -, hdisjoint⟩ credentials' h' header hheader key hkey heq
    cases h.symm.trans h'
    exact hdisjoint _ (List.mem_map_of_mem hheader) _ (mem_names_metadataHeaders.mpr ⟨key, hkey, rfl⟩)
      heq.symm
  · intro hdistinct
    -- neither list repeats a name, so only a shared name is left
    refine ⟨nodup_credentials h, nodup_metadataHeaders _, ?_⟩
    intro name hname name' hname' heq
    obtain ⟨header, hheader, rfl⟩ := List.mem_map.mp hname
    obtain ⟨key, hkey, rfl⟩ := mem_names_metadataHeaders.mp hname'
    exact hdistinct credentials h header hheader key hkey heq.symm

/-- What a client passes over any number of calls is what it passes in each: its own list stays. -/
theorem mapEach_flightCallOptions (calls : List (Option CallOptions)) (client : FlightSqlClient) :
    Run.mapEach flightCallOptions calls client = (.ok (calls.map (passedOptions client.headers)), client) := by
  induction calls with
  | nil => rfl
  | cons options calls ih =>
    have hone : flightCallOptions options client = (.ok (passedOptions client.headers options), client) := rfl
    rw [Run.mapEach, Run.bind_ok hone, Run.bind_ok ih]
    rfl

/-- **Which calls send each header once, with its last value**: those with options of their own, and all
    of them if no metadata names the header of the credentials.  The client's list never changes. -/
theorem flightCallOptions_lastWins_iff (lib : FlightLibrary) (args : ClientArgs)
    (features : Dict String String) {calls calls' : List FlightClient} {client : FlightSqlClient}
    (hclient : flightSqlClient lib args features calls = (.ok client, calls')) :
    (∀ sent : List (Option CallOptions), Run.mapEach flightCallOptions sent client =
        (.ok (sent.map (passedOptions client.headers)), client)) ∧
      ∀ options : Option CallOptions,
        LastWins (client.headers ++ (options.bind CallOptions.headers).getD [])
            (passedOptions client.headers options).headers ↔
          options ≠ none ∨ NamesDistinct lib args := by
  refine ⟨fun sent => mapEach_flightCallOptions sent client, fun options => ?_⟩
  cases options with
  | some options =>
    exact ⟨fun _ => Or.inl (Option.some_ne_none options), fun _ => lastWins_deduplicate _⟩
  | none =>
    -- the client's list is passed as it is
    obtain ⟨credentials, hcredentials, hheaders⟩ := flightSqlClient_headers hclient
    show LastWins (client.headers ++ []) client.headers ↔ _
    rw [List.append_nil, lastWins_self_iff, hheaders, nodup_headers_iff hcredentials]
    constructor
    · exact Or.inr
    · rintro (hnot | hdistinct)
      · exact absurd rfl hnot
      · exact hdistinct

/-! ## A library that connects -/

/-- Every client can be made; a password gets a token of its own. -/
def FlightLibrary.reference : FlightLibrary where
  connect _ := .ok ()
  authenticateBasicToken _ _ _ := .ok (utf8 "authorization", utf8 "Bearer issued")

/-- A client with a token and this metadata. -/
def ClientArgs.withToken (metadata : Dict String String) : ClientArgs :=
  ⟨"localhost", 443, none, none, some "secret", .none, .none, metadata, .empty⟩

/-- A call whose own header replaces one of the metadata. -/
theorem flightCallOptions_bucket :
    ∃ client, flightSqlClient .reference (.withToken (.ofList [("bucket", "a")])) .empty [] =
        (.ok client, [flightClientOf (.withToken (.ofList [("bucket", "a")]))]) ∧
      LastWins (client.headers ++ [(utf8 "bucket", utf8 "b")])
        (passedOptions client.headers (some ⟨.none, some [(utf8 "bucket", utf8 "b")], .none, .none⟩)).headers :=
  ⟨_, rfl, ((@flightCallOptions_lastWins_iff .reference (.withToken (.ofList [("bucket", "a")])) .empty [] _ _
    rfl).2 (some ⟨.none, some [(utf8 "bucket", utf8 "b")], .none, .none⟩)).mpr
      (Or.inl (Option.some_ne_none _))⟩

/-- **A call without options sends two authorization headers** if the metadata names one. -/
theorem flightCallOptions_authorization :
    ∃ client, flightSqlClient .reference (.withToken (.ofList [("authorization", "Basic x")])) .empty [] =
        (.ok client, [flightClientOf (.withToken (.ofList [("authorization", "Basic x")]))]) ∧
      ¬LastWins (client.headers ++ []) (passedOptions client.headers none).headers := by
  refine ⟨_, rfl, fun h => ?_⟩
  have hnodup := h.once
  revert hnodup
  decide

end FlightSql
