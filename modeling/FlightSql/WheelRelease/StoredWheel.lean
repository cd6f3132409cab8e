/-
  The stored wheel — `scripts/verify-stored-wheel`, the last check of a release.

  THE CODE reads a wheel back, collects what is wrong with it (`wheelErrors`), and exits with 0 if that
  is nothing.

  WHAT IT IS FOR: an exit with 0 says that the stored bytes have the digest of the build and that the
  metadata inside them, read as a wheel, names the distribution and the version of the file name.

  1. **What is checked** — `filenameErrors`, `metadataErrors` and `archiveErrors`, each with the exact
     condition under which it finds nothing.

  2. **The whole** (`verifyStoredWheel_eq_zero_iff`) — status 0 exactly for a `VerifiedWheel`; for the
     wheel of a release the file name's part of that is a property of the version
     (`filenameErrors_wheelName`).

  `zipfile` and `email.parser` are a `WheelReader`, over which everything is stated.  Mathlib-free.
-/
import FlightSql.Provenance.Source
import FlightSql.Provenance.RecordPaths
import FlightSql.BuildVersion

set_option linter.unusedVariables false

namespace FlightSql.Release

open Lib Provenance

/-! ## The source functions -/

/-- How an archive fails to be read: with one of the exceptions `main` catches, or with another. -/
inductive ArchiveError where
  | unreadable (text : String)
  | uncaught (text : String)
  deriving DecidableEq

/-- **What `main` takes from `zipfile` and `email.parser`**: the names in an archive, a member of it, the
    first header of that name, and the text of a `UnicodeDecodeError`. -/
structure WheelReader where
  namelist : Bytes → Except ArchiveError (List String)
  read : Bytes → String → Except ArchiveError Bytes
  header : String → String → Option String
  decodeError : Bytes → String

/-- `bytes.decode("utf-8")`. -/
def decodeUtf8 (content : Bytes) : Option String := String.fromUTF8? ⟨content.toArray⟩

/-- `text.endswith(end)`. -/
def endsWith (text ending : String) : Bool := ending.toList.isSuffixOf text.toList

variable (py : Interpreter) (zip : WheelReader)

/-- `f"{value!r}"` of a header. -/
def reprHeader : Option String → String
  | none => "None"
  | some value => py.repr value

/-- `f"{names}"` of a list of strings. -/
def reprList (names : List String) : String := "[" ++ ", ".intercalate (names.map py.repr) ++ "]"

/-- What is wrong with the digest of the stored bytes. -/
def digestErrors (stored : Bytes) (expectedDigest : String) : List String :=
  if hexdigest (py.sha256 stored) ≠ expectedDigest then
    ["stored sha256 " ++ hexdigest (py.sha256 stored) ++ " does not match built sha256 "
      ++ expectedDigest]
  else []

/-- What is wrong with the file name. -/
def filenameErrors (filename version : String) : List String :=
  if endsWith filename ".whl" = false ∨ ((split '-' filename).drop 1).take 1 ≠ [version] then
    ["filename " ++ py.repr filename ++ " does not carry version " ++ py.repr version]
  else []

/-- `headers["Name"].replace("-", "_").lower() if headers["Name"] else None`. -/
def normalizedName : Option String → Option String
  | none => none
  | some name =>
    if name = "" then none
    else some (py.lower (String.ofList (name.toList.map fun c => if c = '-' then '_' else c)))

/-- What is wrong with the text of the METADATA. -/
def metadataErrors (name version metadata : String) : List String :=
  (if normalizedName py (zip.header metadata "Name") ≠ some (py.lower name) then
    ["wheel metadata Name " ++ reprHeader py (zip.header metadata "Name") ++ " does not match "
      ++ py.repr name]
  else []) ++
  if zip.header metadata "Version" ≠ some version then
    ["wheel metadata Version " ++ reprHeader py (zip.header metadata "Version") ++ " != "
      ++ py.repr version]
  else []

/-- The `with` block. -/
def archiveErrors (stored : Bytes) (name version : String) : Except ArchiveError (List String) := do
  let names ← zip.namelist stored
  match names.filter fun n => endsWith n ".dist-info/METADATA" with
  | [file] =>
    let content ← zip.read stored file
    match decodeUtf8 content with
    | none => .ok [file ++ " is not valid UTF-8: " ++ zip.decodeError content]
    | some metadata => .ok (metadataErrors py zip name version metadata)
  | files => .ok ["expected one METADATA file in the wheel, found " ++ reprList py files]

/-- `errors`, or the exception that is not caught. -/
def wheelErrors (stored : Bytes) (filename version expectedDigest : String) :
    Except String (List String) :=
  match archiveErrors py zip stored ((split '-' filename).headD "") version with
  | .ok found => .ok (digestErrors py stored expectedDigest ++ filenameErrors py filename version ++ found)
  | .error (.unreadable text) =>
    .ok (digestErrors py stored expectedDigest ++ filenameErrors py filename version ++
      ["stored object is not a readable wheel: " ++ text])
  | .error (.uncaught text) => .error text

/-- **The exit status of `main`** for its arguments after the first; the status of an interpreter that an
    exception ends is 1. -/
def verifyStoredWheel (readBytes : String → Option Bytes) : List String → Nat
  | [stored, filename, version, expectedDigest] =>
    match readBytes stored with
    | none => 1
    | some content =>
      match wheelErrors py zip content filename version expectedDigest with
      | .ok [] => 0
      | _ => 1
  | _ => 2

/-! ## What a wheel has to be -/

/-- **The metadata in a wheel** names the distribution, in its normal form, and the version. -/
structure Declares (stored : Bytes) (name version : String) : Prop where
  intro ::
  declared : ∃ names file content metadata declaredName,
    zip.namelist stored = .ok names ∧ (names.filter fun n => endsWith n ".dist-info/METADATA") = [file] ∧
    zip.read stored file = .ok content ∧ decodeUtf8 content = some metadata ∧
    zip.header metadata "Name" = some declaredName ∧ declaredName ≠ "" ∧
    py.lower (String.ofList (declaredName.toList.map fun c => if c = '-' then '_' else c)) = py.lower name ∧
    zip.header metadata "Version" = some version

/-- **A verified wheel.** -/
structure VerifiedWheel (stored : Bytes) (filename version digest : String) : Prop where
  sha256 : hexdigest (py.sha256 stored) = digest
  extension : endsWith filename ".whl" = true
  carries : ((split '-' filename).drop 1).take 1 = [version]
  metadata : Declares py zip stored ((split '-' filename).headD "") version

/-! ## Each check -/

variable {py zip}

theorem digestErrors_eq_nil {stored : Bytes} {digest : String} :
    digestErrors py stored digest = [] ↔ hexdigest (py.sha256 stored) = digest := by
  unfold digestErrors
  by_cases heq : hexdigest (py.sha256 stored) = digest
  · simp [heq]
  · simp [heq]

theorem filenameErrors_eq_nil {filename version : String} :
    filenameErrors py filename version = [] ↔
      endsWith filename ".whl" = true ∧ ((split '-' filename).drop 1).take 1 = [version] := by
  unfold filenameErrors
  by_cases hend : endsWith filename ".whl" = true
  · by_cases hversion : ((split '-' filename).drop 1).take 1 = [version]
    · have hgood : ¬(endsWith filename ".whl" = false ∨
          ((split '-' filename).drop 1).take 1 ≠ [version]) := by
        rintro (hbad | hbad)
        · exact Bool.false_ne_true (hbad.symm.trans hend)
        · exact hbad hversion
      rw [if_neg hgood]
      exact iff_of_true rfl ⟨hend, hversion⟩
    · rw [if_pos (Or.inr hversion)]
      exact iff_of_false (List.cons_ne_nil _ _) fun h => hversion h.2
  · rw [if_pos (Or.inl (eq_false_of_ne_true hend))]
    exact iff_of_false (List.cons_ne_nil _ _) fun h => hend h.1

theorem normalizedName_eq_some {declared : Option String} {name : String} :
    normalizedName py declared = some name ↔ ∃ declaredName, declared = some declaredName ∧
      declaredName ≠ "" ∧
      py.lower (String.ofList (declaredName.toList.map fun c => if c = '-' then '_' else c)) = name := by
  rcases declared with _ | declaredName
  · simp [normalizedName]
  · by_cases hempty : declaredName = ""
    · simp [normalizedName, hempty]
    · simp [normalizedName, hempty]

theorem metadataErrors_eq_nil {name version metadata : String} :
    metadataErrors py zip name version metadata = [] ↔
      normalizedName py (zip.header metadata "Name") = some (py.lower name) ∧
      zip.header metadata "Version" = some version := by
  unfold metadataErrors
  by_cases hname : normalizedName py (zip.header metadata "Name") = some (py.lower name)
  · by_cases hversion : zip.header metadata "Version" = some version
    · simp [hname, hversion]
    · simp [hname, hversion]
  · simp [hname]

/-- The archive is read, has one METADATA, and nothing is wrong with that. -/
theorem archiveErrors_eq_nil {stored : Bytes} {name version : String} :
    archiveErrors py zip stored name version = .ok [] ↔ Declares py zip stored name version := by
  constructor
  · intro h
    obtain ⟨names, hnames, h⟩ := Outcome.bind_eq_ok h
    split at h
    · rename_i file hfiles
      obtain ⟨content, hcontent, h⟩ := Outcome.bind_eq_ok h
      split at h
      · cases h
      · rename_i metadata hmetadata
        have hnone : metadataErrors py zip name version metadata = [] := Except.ok.inj h
        obtain ⟨hname, hversion⟩ := metadataErrors_eq_nil.mp hnone
        obtain ⟨declaredName, hdeclared, hempty, hlower⟩ := normalizedName_eq_some.mp hname
        exact ⟨names, file, content, metadata, declaredName, hnames, hfiles, hcontent, hmetadata, hdeclared,
          hempty, hlower, hversion⟩
    · cases h
  · rintro ⟨names, file, content, metadata, declaredName, hnames, hfiles, hcontent, hmetadata, hdeclared,
      hempty, hlower, hversion⟩
    have hname : normalizedName py (zip.header metadata "Name") = some (py.lower name) :=
      normalizedName_eq_some.mpr ⟨declaredName, hdeclared, hempty, hlower⟩
    have hnone := metadataErrors_eq_nil.mpr ⟨hname, hversion⟩
    simp [archiveErrors, hnames, hfiles, hcontent, hmetadata, hnone, bind, Except.bind]

/-! ## The whole -/

theorem wheelErrors_eq_nil {stored : Bytes} {filename version digest : String} :
    wheelErrors py zip stored filename version digest = .ok [] ↔
      VerifiedWheel py zip stored filename version digest := by
  constructor
  · intro h
    unfold wheelErrors at h
    split at h
    · rename_i found hfound
      have hall := Except.ok.inj h
      obtain ⟨hbefore, rfl⟩ := List.append_eq_nil_iff.mp hall
      obtain ⟨hdigest, hfilename⟩ := List.append_eq_nil_iff.mp hbefore
      obtain ⟨hend, hcarries⟩ := filenameErrors_eq_nil.mp hfilename
      exact ⟨digestErrors_eq_nil.mp hdigest, hend, hcarries, archiveErrors_eq_nil.mp hfound⟩
    · have hall := Except.ok.inj h
      simp at hall
    · cases h
  · intro h
    have hfilename : filenameErrors py filename version = [] :=
      filenameErrors_eq_nil.mpr ⟨h.extension, h.carries⟩
    have hdigest : digestErrors py stored digest = [] := digestErrors_eq_nil.mpr h.sha256
    unfold wheelErrors
    rw [archiveErrors_eq_nil.mpr h.metadata, hfilename, hdigest]
    rfl

/-- **Status 0 exactly for a verified wheel**, and 2 exactly for another number of arguments. -/
theorem verifyStoredWheel_eq_zero_iff {readBytes : String → Option Bytes} {args : List String} :
    verifyStoredWheel py zip readBytes args = 0 ↔ ∃ stored filename version digest content,
      args = [stored, filename, version, digest] ∧ readBytes stored = some content ∧
      VerifiedWheel py zip content filename version digest := by
  constructor
  · intro h
    unfold verifyStoredWheel at h
    split at h
    · rename_i stored filename version digest
      split at h
      · cases h
      · rename_i content hread
        split at h
        · rename_i hnone
          exact ⟨stored, filename, version, digest, content, rfl, hread, wheelErrors_eq_nil.mp hnone⟩
        · cases h
    · cases h
  · rintro ⟨stored, filename, version, digest, content, rfl, hread, hverified⟩
    simp [verifyStoredWheel, hread, wheelErrors_eq_nil.mpr hverified]

/-! ## The wheel of a release -/

theorem split_append {sep : Char} {before after : String} (h : sep ∉ before.toList) :
    split sep (before ++ String.singleton sep ++ after) = before :: split sep after := by
  have hchars : (before ++ String.singleton sep ++ after).toList =
      before.toList ++ sep :: after.toList := by simp
  rw [split, split, splitChars_eq_splitOn, splitChars_eq_splitOn, hchars,
    List.splitOn_append_cons_self_of_not_mem h, List.map_cons, String.ofList_toList]

theorem wheelName_eq (version : String) :
    wheelName version = "flightsql_dbapi" ++ String.singleton '-' ++ (version ++ "-py3-none-any.whl") := by
  have hstart : "flightsql_dbapi-" = "flightsql_dbapi" ++ String.singleton '-' := by decide
  show "flightsql_dbapi-" ++ version ++ "-py3-none-any.whl" = _
  rw [hstart, String.append_assoc]

theorem split_wheelName (version : String) :
    split '-' (wheelName version) = "flightsql_dbapi" :: split '-' (version ++ "-py3-none-any.whl") := by
  rw [wheelName_eq]
  exact split_append (by decide)

/-- **The file name of a release carries the version** exactly if there is no `-` in that. -/
theorem carries_wheelName {version : String} :
    ((split '-' (wheelName version)).drop 1).take 1 = [version] ↔ '-' ∉ version.toList := by
  rw [split_wheelName, List.drop_succ_cons, List.drop_zero]
  constructor
  · intro h hdash
    have hmem : version ∈ split '-' (version ++ "-py3-none-any.whl") :=
      List.mem_of_mem_take (h ▸ List.mem_singleton_self version)
    exact (mem_split hmem hdash).2 rfl
  · intro h
    have htext : version ++ "-py3-none-any.whl" =
        version ++ String.singleton '-' ++ "py3-none-any.whl" := by
      have hstart : "-py3-none-any.whl" = String.singleton '-' ++ "py3-none-any.whl" := by decide
      rw [hstart, String.append_assoc]
    rw [htext, split_append h]
    rfl

theorem endsWith_wheelName (version : String) : endsWith (wheelName version) ".whl" = true := by
  have hlast : "-py3-none-any.whl" = "-py3-none-any" ++ ".whl" := by decide
  have hchars : (wheelName version).toList =
      ("flightsql_dbapi-" ++ version ++ "-py3-none-any").toList ++ ".whl".toList := by
    show ("flightsql_dbapi-" ++ version ++ "-py3-none-any.whl").toList = _
    rw [hlast, ← String.append_assoc, String.toList_append]
  rw [endsWith, List.isSuffixOf_iff_suffix, hchars]
  exact List.suffix_append _ _

/-- **What status 0 says of the wheel of a release.** -/
theorem verifyStoredWheel_wheelName_iff {readBytes : String → Option Bytes}
    {stored version digest : String} :
    verifyStoredWheel py zip readBytes [stored, wheelName version, version, digest] = 0 ↔
      '-' ∉ version.toList ∧ ∃ content, readBytes stored = some content ∧
        hexdigest (py.sha256 content) = digest ∧ Declares py zip content "flightsql_dbapi" version := by
  have hname : (split '-' (wheelName version)).headD "" = "flightsql_dbapi" := by
    rw [split_wheelName]
    rfl
  rw [verifyStoredWheel_eq_zero_iff]
  constructor
  · rintro ⟨stored', filename, version', digest', content, hargs, hread, hverified⟩
    obtain ⟨rfl, rfl, rfl, rfl, -⟩ : stored = stored' ∧ wheelName version = filename ∧
        version = version' ∧ digest = digest' ∧ True := by simpa using hargs
    have hmetadata := hverified.metadata
    rw [hname] at hmetadata
    exact ⟨carries_wheelName.mp hverified.carries, content, hread, hverified.sha256, hmetadata⟩
  · rintro ⟨hdash, content, hread, hdigest, hmetadata⟩
    refine ⟨stored, wheelName version, version, digest, content, rfl, hread, hdigest,
      endsWith_wheelName version, carries_wheelName.mpr hdash, ?_⟩
    rw [hname]
    exact hmetadata

end FlightSql.Release
