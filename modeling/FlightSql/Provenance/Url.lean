/-
  `urllib.parse.urlparse` as the verifier uses it: the scheme, the netloc with the user information and
  host in it, the path, the query and the fragment of a URL.

  Control characters and spaces are dropped in front, tabs and line ends everywhere; a scheme is
  letters, digits, `+`, `-`, `.` before the first colon; a netloc stands between `//` and the first of
  `/`, `?`, `#`.  Parameters after `;` are taken off the path for the schemes that have them.

  What `urlparse` asks of the address and Unicode libraries about a netloc is in `Platform`, together
  with `url2pathname` and the `repr` of a JSON value.

  Mathlib-free.
-/
import FlightSql.Lib.Dict
import FlightSql.Provenance.Text

set_option linter.unusedVariables false

namespace FlightSql.Provenance

open Lib

/-! ## JSON values -/

/-- What `json.loads` gives; a number is kept as its text. -/
inductive Json where
  | null
  | bool (b : Bool)
  | num (text : String)
  | str (s : String)
  | arr (items : List Json)
  | obj (members : List (String × Json))

/-- A looked-up value as Python sees it: `None` for a missing key and for null. -/
def notNull : Option Json → Option Json
  | some .null => none
  | value => value

theorem notNull_eq_some {value : Option Json} {v : Json} (h : notNull value = some v) :
    value = some v := by
  unfold notNull at h
  split at h
  · cases h
  · exact h

/-- `members.get(key)`; a key does not repeat, `_unique_json_object` sees to it. -/
def member (members : List (String × Json)) (key : String) : Option Json :=
  notNull (assocGet key members)

/-- **What parsing and comparing URLs takes from the platform** beside the interpreter: `repr` of a JSON
    value or of `None` for a missing one, NFKC normalization, whether a bracketed host is an IPv6 or
    IPvFuture address, and `url2pathname`. -/
structure Platform extends Interpreter where
  reprJson : Option Json → String
  nfkc : String → String
  isBracketedHost : String → Bool
  url2pathname : String → String

/-! ## Parsing -/

/-- `urllib.parse.ParseResult`. -/
structure ParseResult where
  scheme : String
  netloc : String
  path : String
  query : String
  fragment : String

/-- The schemes whose paths have parameters (`uses_params`). -/
def usesParams : List String :=
  ["", "ftp", "hdl", "prospero", "http", "https", "shttp", "rtsp", "rtspu", "sip", "sips", "mms",
    "sftp", "tel"]

/-- `scheme_chars`. -/
def isSchemeChar (c : Char) : Bool := c.isAlphanum ∨ c = '+' ∨ c = '-' ∨ c = '.'

/-- The scheme, if the text before the first colon is one, and what follows. -/
def splitScheme (url : List Char) : List Char × List Char :=
  match splitOnceChars ':' url with
  | some (c :: scheme, rest) =>
    if c.isAlpha ∧ (c :: scheme).all isSchemeChar then (c :: scheme, rest) else ([], url)
  | _ => ([], url)

/-- `_splitnetloc`, when the URL goes on with `//`. -/
def splitNetloc (url : List Char) : List Char × List Char :=
  match url with
  | '/' :: '/' :: rest =>
    (rest.takeWhile fun c => c ∉ ['/', '?', '#'], rest.dropWhile fun c => c ∉ ['/', '?', '#'])
  | _ => ([], url)

/-- What stands before the first `sep` and after it; everything and nothing without one. -/
def cutAt (sep : Char) (text : List Char) : List Char × List Char :=
  (splitOnceChars sep text).getD (text, [])

/-- The last segment of a path loses what follows its first `;` (`_splitparams`). -/
def dropParams (path : List Char) : List Char :=
  let last := (path.reverse.takeWhile (· ≠ '/')).reverse
  path.take (path.length - last.length) ++ (cutAt ';' last).1

/-- `text.rpartition(sep)[2]`. -/
def afterLast (sep : Char) (text : List Char) : List Char := (text.reverse.takeWhile (· ≠ sep)).reverse

/-- `text.rpartition(sep)[0]` when there is a separator. -/
def beforeLast (sep : Char) (text : List Char) : Option (List Char) :=
  (splitOnceChars sep text.reverse).map fun (_, before) => before.reverse

variable (py : Platform)

/-- `_checknetloc`: no character of the netloc may normalize to a delimiter. -/
def checkNetloc (netloc : List Char) : Except Exn Unit :=
  if netloc.all fun c => c.toNat < 128 then .ok ()
  else
    let plain := String.ofList (netloc.filter fun c => c ∉ ['@', ':', '#', '?'])
    let normalized := py.nfkc plain
    if plain = normalized then .ok ()
    else if normalized.toList.any fun c => c ∈ ['/', '?', '#', '@', ':'] then
      .error ⟨.python .valueError, "netloc '" ++ String.ofList netloc ++
        "' contains invalid characters under NFKC normalization"⟩
    else .ok ()

/-- The brackets of a netloc come in pairs, around an address. -/
def checkBrackets (netloc : List Char) : Except Exn Unit :=
  if '[' ∈ netloc ∧ ']' ∈ netloc then
    let host := String.ofList (cutAt ']' (cutAt '[' netloc).2).1
    if py.isBracketedHost host then .ok ()
    else .error ⟨.python .valueError, "'" ++ host ++ "' does not appear to be an IPv4 or IPv6 address"⟩
  else if '[' ∈ netloc ∨ ']' ∈ netloc then .error ⟨.python .valueError, "Invalid IPv6 URL"⟩
  else .ok ()

/-- `urlparse(url)`. -/
def urlparse (url : String) : Except Exn ParseResult := do
  let stripped := (url.toList.dropWhile fun c => c.toNat ≤ 32).filter fun c => c ∉ ['\t', '\r', '\n']
  let (schemeChars, rest) := splitScheme stripped
  let scheme := py.lower (String.ofList schemeChars)
  let (netloc, rest) := splitNetloc rest
  checkBrackets py netloc
  let (rest, fragment) := cutAt '#' rest
  let (rest, query) := cutAt '?' rest
  checkNetloc py netloc
  let path := if scheme ∈ usesParams then dropParams rest else rest
  .ok ⟨scheme, String.ofList netloc, String.ofList path, String.ofList query, String.ofList fragment⟩

/-! ## Inside a netloc -/

namespace ParseResult

variable (parsed : ParseResult)

/-- `parsed.username`. -/
def username : Option String :=
  (beforeLast '@' parsed.netloc.toList).map fun userinfo => String.ofList (cutAt ':' userinfo).1

/-- `parsed.password`. -/
def password : Option String :=
  (beforeLast '@' parsed.netloc.toList).bind fun userinfo =>
    (splitOnceChars ':' userinfo).map fun (_, password) => String.ofList password

/-- `parsed.hostname`, lowered up to a zone. -/
def hostname : Option String :=
  let hostinfo := afterLast '@' parsed.netloc.toList
  let host :=
    match splitOnceChars '[' hostinfo with
    | some (_, bracketed) => (cutAt ']' bracketed).1
    | none => (cutAt ':' hostinfo).1
  if host = [] then none
  else
    match splitOnceChars '%' host with
    | some (name, zone) => some (py.lower (String.ofList name) ++ "%" ++ String.ofList zone)
    | none => some (py.lower (String.ofList host))

end ParseResult

/-- The truth value of an optional string. -/
def truthy : Option String → Bool
  | none => false
  | some s => s ≠ ""

/-! ## Repositories -/

/-- `text.rstrip(c)`. -/
def rstripChars (c : Char) (text : List Char) : List Char := (text.reverse.dropWhile (· = c)).reverse

/-- `text.removesuffix(suffix)`. -/
def removeSuffix (suffix text : List Char) : List Char :=
  if suffix.isSuffixOf text then text.take (text.length - suffix.length) else text

/-- `url.rstrip("/").removesuffix(".git")`. -/
def repositoryBase (url : String) : String :=
  String.ofList (removeSuffix ".git".toList (rstripChars '/' url.toList))

/-- The condition `_normalized_repository` refuses. -/
def ParseResult.isUncredentialedHttps (parsed : ParseResult) : Bool :=
  !(parsed.scheme ≠ "https" || truthy parsed.username || truthy parsed.password ||
    parsed.query ≠ "" || parsed.fragment ≠ "" || !truthy (parsed.hostname py))

/-- `_normalized_repository`. -/
def normalizedRepository (url : String) : Except Exn String := do
  let parsed ← urlparse py url
  raiseIf (!parsed.isUncredentialedHttps py)
    ("repository URL is not an uncredentialed HTTPS source: " ++ py.repr url)
  .ok (repositoryBase url)

/-- `_accepted_archive_urls`. -/
def acceptedArchiveUrls (repository commit : String) : Except Exn (List String) := do
  let base ← normalizedRepository py repository
  let parsed ← urlparse py base
  if parsed.netloc ≠ "github.com" then
    .ok [base ++ "/archive/" ++ commit ++ ".tar.gz", base ++ "/archive/" ++ commit ++ ".zip"]
  else
    .ok [base ++ "/archive/" ++ commit ++ ".tar.gz", base ++ "/archive/" ++ commit ++ ".zip",
      "https://codeload.github.com" ++ parsed.path ++ "/tar.gz/" ++ commit,
      "https://codeload.github.com" ++ parsed.path ++ "/zip/" ++ commit]

/-- A repository is normalized only if it is an uncredentialed HTTPS URL. -/
theorem normalizedRepository_eq_ok {url base : String}
    (h : normalizedRepository py url = .ok base) :
    base = repositoryBase url ∧
      ∃ parsed, urlparse py url = .ok parsed ∧ parsed.isUncredentialedHttps py = true := by
  obtain ⟨parsed, hparsed, h⟩ := Outcome.bind_eq_ok h
  obtain ⟨hsafe, h⟩ := raiseIf_bind_eq_ok h
  exact ⟨(Except.ok.inj h).symm, parsed, hparsed, by simpa using hsafe⟩

end FlightSql.Provenance
