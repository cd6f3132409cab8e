/-
  The installer's RECORD — `_record_path`, `_parse_record_hash`, `_parse_record_size` and `_read_record`
  of `flightsql/provenance.py`.

  1. **One row** — a path text, a hash text and a size text.  `recordPath` admits a relative path
     without `.`, `..`, empty or drive parts; a hash is empty or SHA-256; a size is empty or decimal.

  2. **The loop** — `recordRow` adds one row to the rows read so far, `readRecord` runs it over the
     records of the CSV text.

  3. **What a row promises** — `RowAccepted` says of one row what the loop checked of it, `RowsRead` of
     the dictionary what it holds: `readRecord_rows` is the loop's invariant at its end.

  Mathlib-free.
-/
import FlightSql.Lib.Csv
import FlightSql.Lib.Dict
import FlightSql.Provenance.Text

set_option linter.unusedVariables false

namespace FlightSql.Provenance

open Lib

variable (py : Interpreter)

/-- `_RecordRow`; `installedPath` is below the site root. -/
structure RecordRow where
  relativePath : PurePosixPath
  installedPath : Path
  digest : Option String
  size : Option Nat

/-! ## One row -/

/-- `re.match(r"^[A-Za-z]:", text)`. -/
def hasDrive (text : String) : Bool :=
  match text.toList with
  | c :: ':' :: _ => c.isAlpha
  | _ => false

/-- `_record_path`. -/
def recordPath (pathText : String) : Except Exn PurePosixPath := do
  raiseIf (pathText = "" ∨ '\\' ∈ pathText.toList ∨ pathText.toList.any fun c => c.toNat < 32)
    ("installed RECORD contains an invalid path " ++ py.repr pathText)
  let rawParts := split '/' pathText
  raiseIf ((rawParts.any fun part => part ∈ ["", ".", ".."]) ∨ hasDrive pathText)
    ("installed RECORD contains unsafe path traversal " ++ py.repr pathText)
  let path := PurePosixPath.ofString pathText
  raiseIf (path.absolute ∨ ".." ∈ path.parts)
    ("installed RECORD contains unsafe path traversal " ++ py.repr pathText)
  .ok path

/-- `_RECORD_SHA256.fullmatch(digest)`. -/
def isRecordSha256 (digest : String) : Bool :=
  digest.toList.length = 43 ∧ digest.toList.all fun c => c.isAlphanum ∨ c = '_' ∨ c = '-'

/-- `_parse_record_hash`. -/
def parseRecordHash (pathText hashText : String) : Except Exn (Option String) :=
  if hashText = "" then .ok none
  else
    match splitOnce '=' hashText with
    | none =>
      .error (provenanceError
        ("installed RECORD hash for " ++ py.repr pathText ++ " is malformed"))
    | some (algorithm, digest) => do
      raiseIf (py.lower algorithm ≠ "sha256")
        ("installed RECORD uses unsafe or unsupported hash algorithm " ++ py.repr algorithm ++ " for "
          ++ py.repr pathText ++ "; SHA-256 is required")
      raiseIf (!isRecordSha256 digest)
        ("installed RECORD SHA-256 for " ++ py.repr pathText ++ " is malformed")
      .ok (some digest)

/-- `text.isdecimal()`. -/
def isDecimal (text : String) : Bool := text ≠ "" ∧ text.toList.all fun c => (py.decimal c).isSome

/-- The number the decimal characters of `text` write. -/
def decimalValue (text : String) : Nat :=
  text.toList.foldl (fun n c => 10 * n + (py.decimal c).getD 0) 0

/-- `int(text)` of a decimal text: the interpreter refuses more than 4300 digits. -/
def intOfDecimal (text : String) : Except Exn Nat :=
  if 4300 < text.length then
    .error ⟨.python .valueError, "Exceeds the limit (4300 digits) for integer string conversion: value has "
      ++ toString text.length ++ " digits; use sys.set_int_max_str_digits() to increase the limit"⟩
  else .ok (decimalValue py text)

/-- `_parse_record_size`. -/
def parseRecordSize (pathText sizeText : String) : Except Exn (Option Nat) :=
  if sizeText = "" then .ok none
  else do
    raiseIf (!isDecimal py sizeText)
      ("installed RECORD size for " ++ py.repr pathText ++ " is invalid")
    let size ← intOfDecimal py sizeText
    .ok (some size)

/-! ## The loop -/

/-- `relative_path.parts and relative_path.parts[0].endswith(".dist-info")`, and its first part is not
    the selected directory. -/
def isDecoy (distInfo : String) (path : PurePosixPath) : Bool :=
  match path.parts with
  | first :: _ => first.endsWith ".dist-info" && first ≠ distInfo
  | [] => false

/-- One turn of the loop of `_read_record`. -/
def recordRow (distInfo : String) (recordRows : Dict String RecordRow) (row : List String) :
    Except Exn (Dict String RecordRow) :=
  match row with
  | [pathText, hashText, sizeText] => do
    let relativePath ← recordPath py pathText
    raiseIf (recordRows.contains pathText)
      ("installed RECORD contains duplicate path " ++ py.repr pathText)
    raiseIf (isDecoy distInfo relativePath)
      ("installed RECORD contains a decoy distribution metadata path " ++ py.repr pathText)
    let digest ← parseRecordHash py pathText hashText
    let size ← parseRecordSize py pathText sizeText
    raiseIf (digest = none ∧ ¬(pathText = distInfo ++ "/RECORD" ∨ suffix relativePath.parts = ".pyc"))
      ("installed RECORD has no SHA-256 for recorded file " ++ py.repr pathText)
    .ok (recordRows.set pathText ⟨relativePath, relativePath.parts, digest, size⟩)
  | _ => .error (provenanceError "installed RECORD contains a row that does not have three fields")

/-- The records of RECORD: its text is read and parsed, and every failure of that is one refusal. -/
def recordTable (fs : FileSystem Bytes) (distInfo : String) : Except Exn (List (List String)) :=
  match readText fs [distInfo, "RECORD"] with
  | .error _ =>
    .error (provenanceError "selected distribution RECORD cannot be read as valid UTF-8 CSV")
  | .ok text =>
    match Csv.reader text with
    | .error _ =>
      .error (provenanceError "selected distribution RECORD cannot be read as valid UTF-8 CSV")
    | .ok rows => .ok rows

/-- A RECORD that holds the UTF-8 bytes of a text has the records of that text. -/
theorem recordTable_utf8 {fs : FileSystem Bytes} {distInfo : String} {chars : List Char}
    {rows : List (List String)}
    (hfile : fs.lstat [distInfo, "RECORD"] = some (.file true (utf8 (String.ofList chars))))
    (hrows : (Csv.records .init (Csv.lines (universalNewlines chars))).toOption = some rows) :
    recordTable fs distInfo = .ok rows := by
  rw [recordTable, readText_utf8 hfile]
  simp only [Csv.reader, String.toList_ofList]
  cases h : Csv.records .init (Csv.lines (universalNewlines chars)) with
  | error e => rw [h] at hrows; cases hrows
  | ok rows' =>
    rw [h] at hrows
    rw [← Option.some.inj hrows]

/-- `_read_record`. -/
def readRecord (fs : FileSystem Bytes) (distInfo : String) : Except Exn (Dict String RecordRow) := do
  raiseIf (fs.isSymlink [distInfo, "RECORD"] ∨ ¬fs.isFile [distInfo, "RECORD"])
    "selected distribution RECORD is missing or is not a regular file"
  let rows ← recordTable fs distInfo
  raiseIf (rows = []) "selected distribution RECORD is empty"
  let recordRows ← rows.foldlM (recordRow py distInfo) .empty
  raiseIf (!recordRows.contains (distInfo ++ "/RECORD"))
    "installed RECORD does not list the selected distribution's own RECORD file"
  .ok recordRows

/-- Nothing but its checks keeps `_read_record` from returning the rows of the table. -/
theorem readRecord_of_rows {fs : FileSystem Bytes} {distInfo : String} {table : List (List String)}
    {recordRows : Dict String RecordRow}
    (hlink : fs.isSymlink [distInfo, "RECORD"] = false)
    (hfile : fs.isFile [distInfo, "RECORD"] = true)
    (htable : recordTable fs distInfo = .ok table) (hne : table ≠ [])
    (hrows : table.foldlM (recordRow py distInfo) .empty = .ok recordRows)
    (hlisted : recordRows.contains (distInfo ++ "/RECORD") = true) :
    readRecord py fs distInfo = .ok recordRows := by
  simp [readRecord, raiseIf, hlink, hfile, htable, hne, hrows, hlisted, bind, Except.bind]

/-! ## What a row promises -/

/-- `hashText` records the SHA-256 `digest`. -/
def RecordsDigest (hashText digest : String) : Prop :=
  ∃ algorithm, hashText = algorithm ++ "=" ++ digest ∧ py.lower algorithm = "sha256"

/-- `sizeText` records the size `n`. -/
def RecordsSize (sizeText : String) (n : Nat) : Prop :=
  isDecimal py sizeText = true ∧ decimalValue py sizeText = n

/-- **An accepted row**: not under another `.dist-info`, and hashed unless it is RECORD itself or a
    compiled module. -/
structure RowAccepted (distInfo pathText hashText : String) : Prop where
  notDecoy : ∀ first rest, split '/' pathText = first :: rest → first.endsWith ".dist-info" = true →
    first = distInfo
  hashed : (∃ digest, RecordsDigest py hashText digest ∧ isRecordSha256 digest = true) ∨
    pathText = distInfo ++ "/RECORD" ∨ IsBytecode (split '/' pathText)

/-- What the dictionary holds of one row. -/
structure RowParsed (hashText sizeText : String) (row : RecordRow) : Prop where
  digest : ∀ d, row.digest = some d → RecordsDigest py hashText d
  size : ∀ n, row.size = some n → RecordsSize py sizeText n
  noSize : row.size = none → sizeText = ""

/-- The names of an admitted path text are its parts. -/
theorem recordPath_eq_ok {pathText : String} {path : PurePosixPath}
    (h : recordPath py pathText = .ok path) : path.parts = split '/' pathText := by
  obtain ⟨-, h⟩ := raiseIf_bind_eq_ok h
  obtain ⟨hparts, h⟩ := raiseIf_bind_eq_ok h
  obtain ⟨-, h⟩ := raiseIf_bind_eq_ok h
  have hpath : PurePosixPath.ofString pathText = path := Except.ok.inj h
  rw [decide_eq_false_iff_not, not_or] at hparts
  rw [← hpath, PurePosixPath.ofString, List.filter_eq_self]
  intro part hpart
  have hsafe : part ∉ ["", ".", ".."] := by
    intro hbad
    exact hparts.1 (List.any_eq_true.mpr ⟨part, hpart, decide_eq_true hbad⟩)
  simp only [List.mem_cons, not_or] at hsafe
  exact decide_eq_true ⟨hsafe.1, hsafe.2.1⟩

theorem parseRecordHash_eq_ok {pathText hashText : String} {digest : Option String}
    (h : parseRecordHash py pathText hashText = .ok digest) :
    digest = none ∨ ∃ d, digest = some d ∧ RecordsDigest py hashText d ∧ isRecordSha256 d = true := by
  rw [parseRecordHash] at h
  by_cases he : hashText = ""
  · rw [if_pos he] at h
    exact Or.inl (Except.ok.inj h).symm
  · rw [if_neg he] at h
    cases hs : splitOnce '=' hashText with
    | none => rw [hs] at h; cases h
    | some parts =>
      obtain ⟨algorithm, d⟩ := parts
      rw [hs] at h
      obtain ⟨halg, h⟩ := raiseIf_bind_eq_ok h
      obtain ⟨hsha, h⟩ := raiseIf_bind_eq_ok h
      obtain ⟨htext, -⟩ := splitOnce_eq_some hs
      have halg' : py.lower algorithm = "sha256" := by simpa using halg
      exact Or.inr ⟨d, (Except.ok.inj h).symm, ⟨algorithm, htext, halg'⟩, by simpa using hsha⟩

theorem parseRecordSize_eq_ok {pathText sizeText : String} {size : Option Nat}
    (h : parseRecordSize py pathText sizeText = .ok size) :
    (size = none ∧ sizeText = "") ∨ ∃ n, size = some n ∧ RecordsSize py sizeText n := by
  rw [parseRecordSize] at h
  by_cases he : sizeText = ""
  · rw [if_pos he] at h
    exact Or.inl ⟨(Except.ok.inj h).symm, he⟩
  · rw [if_neg he] at h
    obtain ⟨hdec, h⟩ := raiseIf_bind_eq_ok h
    obtain ⟨n, hn, h⟩ := Outcome.bind_eq_ok h
    rw [intOfDecimal] at hn
    by_cases hlen : 4300 < sizeText.length
    · rw [if_pos hlen] at hn
      cases hn
    · rw [if_neg hlen] at hn
      have hdec' : isDecimal py sizeText = true := by simpa using hdec
      exact Or.inr ⟨n, (Except.ok.inj h).symm, hdec', Except.ok.inj hn⟩

/-- **One turn of the loop**: the row has three fields, its path text is new, it is acceptable, and it
    is added as what its fields say. -/
theorem recordRow_eq_ok {distInfo : String} {recordRows recordRows' : Dict String RecordRow}
    {row : List String} (h : recordRow py distInfo recordRows row = .ok recordRows') :
    ∃ pathText hashText sizeText parsed, row = [pathText, hashText, sizeText] ∧
      pathText ∉ recordRows.keys ∧ RowAccepted py distInfo pathText hashText ∧
      RowParsed py hashText sizeText parsed ∧ recordRows' = recordRows.set pathText parsed := by
  unfold recordRow at h
  split at h
  · next pathText hashText sizeText =>
    obtain ⟨path, hpath, h⟩ := Outcome.bind_eq_ok h
    obtain ⟨hnew, h⟩ := raiseIf_bind_eq_ok h
    obtain ⟨hdecoy, h⟩ := raiseIf_bind_eq_ok h
    obtain ⟨digest, hdigest, h⟩ := Outcome.bind_eq_ok h
    obtain ⟨size, hsize, h⟩ := Outcome.bind_eq_ok h
    obtain ⟨hnone, h⟩ := raiseIf_bind_eq_ok h
    have hparts : path.parts = split '/' pathText := recordPath_eq_ok py hpath
    have hfresh : pathText ∉ recordRows.keys := by
      intro hmem
      rw [Dict.contains_iff.mpr hmem] at hnew
      cases hnew
    refine ⟨pathText, hashText, sizeText, _, rfl, hfresh, ⟨?_, ?_⟩, ⟨?_, ?_, ?_⟩,
      (Except.ok.inj h).symm⟩
    · intro first rest hfirst hends
      rw [isDecoy, hparts, hfirst] at hdecoy
      simpa [hends] using hdecoy
    · rcases parseRecordHash_eq_ok py hdigest with hno | ⟨d, -, hrec, hsha⟩
      · have hexempt : pathText = distInfo ++ "/RECORD" ∨ suffix path.parts = ".pyc" :=
          Classical.byContradiction fun hc => (of_decide_eq_false hnone) ⟨hno, hc⟩
        rw [suffix_eq_pyc_iff, hparts] at hexempt
        exact Or.inr hexempt
      · exact Or.inl ⟨d, hrec, hsha⟩
    · intro d hd
      rcases parseRecordHash_eq_ok py hdigest with hno | ⟨d', hsome, hrec, -⟩
      · rw [hno] at hd
        cases hd
      · rw [hsome] at hd
        rw [← Option.some.inj hd]
        exact hrec
    · intro n hn
      rcases parseRecordSize_eq_ok py hsize with ⟨hno, -⟩ | ⟨n', hsome, hrec⟩
      · rw [hno] at hn
        cases hn
      · rw [hsome] at hn
        rw [← Option.some.inj hn]
        exact hrec
    · intro hno
      rcases parseRecordSize_eq_ok py hsize with ⟨-, hempty⟩ | ⟨n', hsome, -⟩
      · exact hempty
      · rw [hsome] at hno
        cases hno
  · cases h

/-- **What the loop has read** after the records `table`: every record was accepted, and each entry of
    the dictionary comes from the only record with its path text. -/
structure RowsRead (distInfo : String) (table : List (List String))
    (recordRows : Dict String RecordRow) : Prop where
  accepted : ∀ row ∈ table, ∃ pathText hashText sizeText,
    row = [pathText, hashText, sizeText] ∧ RowAccepted py distInfo pathText hashText
  listed : ∀ row ∈ table, ∃ pathText, row.head? = some pathText ∧ pathText ∈ recordRows.keys
  entry : ∀ pathText parsed, recordRows.get? pathText = some parsed →
    ∃ before hashText sizeText after, table = before ++ [pathText, hashText, sizeText] :: after ∧
      (∀ row ∈ before ++ after, row.head? ≠ some pathText) ∧ RowParsed py hashText sizeText parsed

theorem rowsRead_nil (distInfo : String) : RowsRead py distInfo [] .empty where
  accepted := fun row hrow => by cases hrow
  listed := fun row hrow => by cases hrow
  entry := fun pathText parsed h => by cases h

/-- The step of the loop: the new record is the only one with its path text, because its path text
    was not listed. -/
theorem rowsRead_snoc {distInfo : String} {table : List (List String)}
    {recordRows recordRows' : Dict String RecordRow} {row : List String}
    (hI : RowsRead py distInfo table recordRows)
    (h : recordRow py distInfo recordRows row = .ok recordRows') :
    RowsRead py distInfo (table ++ [row]) recordRows' := by
  obtain ⟨pathText, hashText, sizeText, parsed, rfl, hfresh, hacc, hparsed, rfl⟩ :=
    recordRow_eq_ok py h
  have hunlisted : ∀ row ∈ table, row.head? ≠ some pathText := by
    intro row hrow hhead
    obtain ⟨p, hp, hmem⟩ := hI.listed row hrow
    rw [hhead] at hp
    rw [← Option.some.inj hp] at hmem
    exact hfresh hmem
  constructor
  · intro row hrow
    rcases List.mem_append.mp hrow with hrow | hrow
    · exact hI.accepted row hrow
    · rw [List.mem_singleton.mp hrow]
      exact ⟨pathText, hashText, sizeText, rfl, hacc⟩
  · intro row hrow
    rcases List.mem_append.mp hrow with hrow | hrow
    · obtain ⟨p, hp, hmem⟩ := hI.listed row hrow
      exact ⟨p, hp, Dict.keys_set.mpr (Or.inr hmem)⟩
    · rw [List.mem_singleton.mp hrow]
      exact ⟨pathText, rfl, Dict.keys_set.mpr (Or.inl rfl)⟩
  · intro p q hq
    rw [Dict.get?_set] at hq
    by_cases hp : pathText = p
    · rw [if_pos hp] at hq
      subst hp
      rw [← Option.some.inj hq]
      refine ⟨table, hashText, sizeText, [], rfl, ?_, hparsed⟩
      rw [List.append_nil]
      exact hunlisted
    · rw [if_neg hp] at hq
      obtain ⟨before, hash, size, after, rfl, huniq, hpq⟩ := hI.entry p q hq
      refine ⟨before, hash, size, after ++ [[pathText, hashText, sizeText]], ?_, ?_, hpq⟩
      · rw [List.append_assoc, List.cons_append]
      · intro row hrow
        rw [← List.append_assoc] at hrow
        rcases List.mem_append.mp hrow with hrow | hrow
        · exact huniq row hrow
        · rw [List.mem_singleton.mp hrow]
          exact fun hhead => hp (Option.some.inj hhead)

/-- **The loop rule**: what holds of no records and is kept by every accepted one holds of the table in
    RECORD and the rows returned. -/
theorem readRecord_invariant {fs : FileSystem Bytes} {distInfo : String}
    {recordRows : Dict String RecordRow} {I : List (List String) → Dict String RecordRow → Prop}
    (hnil : I [] .empty)
    (hsnoc : ∀ {table : List (List String)} {rows rows' : Dict String RecordRow} {row : List String},
      I table rows → recordRow py distInfo rows row = .ok rows' → I (table ++ [row]) rows')
    (h : readRecord py fs distInfo = .ok recordRows) :
    ∃ table, recordTable fs distInfo = .ok table ∧ I table recordRows := by
  obtain ⟨-, h⟩ := raiseIf_bind_eq_ok h
  obtain ⟨table, htable, h⟩ := Outcome.bind_eq_ok h
  obtain ⟨-, h⟩ := raiseIf_bind_eq_ok h
  obtain ⟨rows, hrows, h⟩ := Outcome.bind_eq_ok h
  obtain ⟨-, h⟩ := raiseIf_bind_eq_ok h
  have hread : I ([] ++ table) rows :=
    Outcome.foldlM_invariant (fun _ _ _ _ hI hrow => hsnoc hI hrow) hnil hrows
  rw [List.nil_append, Except.ok.inj h] at hread
  exact ⟨table, htable, hread⟩

/-- **`_read_record`**: the rows it returns are those of the table in RECORD. -/
theorem readRecord_rows {fs : FileSystem Bytes} {distInfo : String}
    {recordRows : Dict String RecordRow} (h : readRecord py fs distInfo = .ok recordRows) :
    ∃ table, recordTable fs distInfo = .ok table ∧ RowsRead py distInfo table recordRows :=
  readRecord_invariant py (rowsRead_nil py distInfo) (fun hI hrow => rowsRead_snoc py hI hrow) h

end FlightSql.Provenance
