/-
  Texts as `flightsql/provenance.py` handles them: the string, path and encoding primitives it calls.

  * `split`, `splitOnce` — `str.split`, without and with a bound of one split;
  * `PurePosixPath`, `suffix`, `asPosix` — the parts of `pathlib` the verifier uses;
  * `universalNewlines` — what `read_text` does to line ends;
  * `urlsafeB64` — `base64.urlsafe_b64encode(…).rstrip(b"=")`.

  What rests on Unicode tables or is a hash function is a field of `Interpreter`, over which everything
  is stated.  `raiseIf` is the verifier's `if …: raise ProvenanceError(…)`.

  Mathlib-free.
-/
import FlightSql.Exceptions
import FlightSql.Lib.FileTree
import FlightSql.Lib.Run

set_option linter.unusedVariables false

namespace FlightSql.Provenance

open Lib

abbrev Bytes := List UInt8

/-- **What the verifier takes from its interpreter**: `str.lower`, `repr` of a string, the decimal
    value of a character (`unicodedata.decimal`), `hashlib.sha256`. -/
structure Interpreter where
  lower : String → String
  repr : String → String
  decimal : Char → Option Nat
  sha256 : Bytes → Bytes

/-! ## Refusals -/

/-- `ProvenanceError(message)`. -/
def provenanceError (message : String) : Exn := ⟨.provenance, message⟩

/-- `if bad: raise ProvenanceError(message)`. -/
def raiseIf (bad : Bool) (message : String) : Except Exn Unit :=
  if bad then .error (provenanceError message) else .ok ()

@[simp] theorem raiseIf_eq_ok {bad : Bool} {message : String} {u : Unit} :
    raiseIf bad message = .ok u ↔ bad = false := by
  cases bad with
  | false => simp [raiseIf]
  | true => simp [raiseIf]

/-- What follows a check runs only if the check passed. -/
theorem raiseIf_bind_eq_ok {bad : Bool} {message : String} {α : Type} {next : Unit → Except Exn α}
    {a : α} (h : (raiseIf bad message >>= next) = .ok a) : bad = false ∧ next () = .ok a := by
  obtain ⟨u, hu, hnext⟩ := Outcome.bind_eq_ok h
  exact ⟨raiseIf_eq_ok.mp hu, hnext⟩

/-! ## Splitting -/

def splitChars (sep : Char) : List Char → List (List Char)
  | [] => [[]]
  | c :: cs =>
    if c = sep then [] :: splitChars sep cs
    else
      match splitChars sep cs with
      | [] => [[c]]
      | part :: parts => (c :: part) :: parts

/-- `text.split(sep)`. -/
def split (sep : Char) (text : String) : List String :=
  (splitChars sep text.toList).map String.ofList

def splitOnceChars (sep : Char) : List Char → Option (List Char × List Char)
  | [] => none
  | c :: cs =>
    if c = sep then some ([], cs)
    else (splitOnceChars sep cs).map fun (before, after) => (c :: before, after)

/-- `text.split(sep, 1)` when it gives two strings. -/
def splitOnce (sep : Char) (text : String) : Option (String × String) :=
  (splitOnceChars sep text.toList).map fun (before, after) =>
    (String.ofList before, String.ofList after)

theorem splitOnceChars_eq_some {sep : Char} {cs before after : List Char}
    (h : splitOnceChars sep cs = some (before, after)) :
    cs = before ++ sep :: after ∧ sep ∉ before := by
  induction cs generalizing before with
  | nil => cases h
  | cons c cs ih =>
    rw [splitOnceChars] at h
    by_cases hc : c = sep
    · rw [if_pos hc] at h
      obtain ⟨rfl, rfl⟩ := Prod.mk.inj (Option.some.inj h)
      exact ⟨by rw [hc, List.nil_append], List.not_mem_nil⟩
    · rw [if_neg hc, Option.map_eq_some_iff] at h
      obtain ⟨⟨before', after'⟩, hrec, heq⟩ := h
      obtain ⟨rfl, rfl⟩ := Prod.mk.inj heq
      obtain ⟨hcs, hsep⟩ := ih hrec
      refine ⟨by rw [hcs, List.cons_append], ?_⟩
      rw [List.mem_cons, not_or]
      exact ⟨fun he => hc he.symm, hsep⟩

/-- The two strings are what stands before and after the first separator. -/
theorem splitOnce_eq_some {sep : Char} {text before after : String}
    (h : splitOnce sep text = some (before, after)) :
    text = before ++ String.singleton sep ++ after ∧ sep ∉ before.toList := by
  obtain ⟨⟨b, a⟩, hchars, heq⟩ := Option.map_eq_some_iff.mp h
  obtain ⟨rfl, rfl⟩ := Prod.mk.inj heq
  obtain ⟨htext, hsep⟩ := splitOnceChars_eq_some hchars
  refine ⟨?_, by rw [String.toList_ofList]; exact hsep⟩
  apply String.toList_injective
  rw [htext]
  simp

/-! ## Paths -/

/-- **`PurePosixPath`**: whether it starts at the root, and the names in it. -/
structure PurePosixPath where
  absolute : Bool
  parts : List String
  deriving DecidableEq

/-- `PurePosixPath(text)`: empty and `.` names are dropped. -/
def PurePosixPath.ofString (text : String) : PurePosixPath :=
  ⟨text.toList.head? = some '/', (split '/' text).filter fun part => part ≠ "" ∧ part ≠ "."⟩

/-- `path.as_posix()` of a relative path. -/
def asPosix (path : Path) : String := String.intercalate "/" path

/-- `path.suffix` of a path that ends in `name`. -/
def nameSuffix (name : String) : String :=
  let reversed := name.toList.reverse
  let extension := (reversed.takeWhile (· ≠ '.')).reverse
  let stem := (reversed.dropWhile (· ≠ '.')).drop 1
  if extension = [] ∨ stem = [] then "" else String.ofList ('.' :: extension)

/-- `path.suffix`. -/
def suffix (path : Path) : String := nameSuffix (path.getLast?.getD "")

/-- A suffix is read off the last dot, when something stands on both sides of it. -/
theorem nameSuffix_eq_iff {name : String} {extension : List Char} (hne : extension ≠ [])
    (hdot : '.' ∉ extension) :
    nameSuffix name = String.ofList ('.' :: extension) ↔
      ∃ stem, stem ≠ [] ∧ name.toList = stem ++ '.' :: extension := by
  constructor
  · intro h
    have hsplit := List.takeWhile_append_dropWhile (p := (· ≠ '.')) (l := name.toList.reverse)
    rw [nameSuffix] at h
    by_cases hside : (name.toList.reverse.takeWhile (· ≠ '.')).reverse = [] ∨
        (name.toList.reverse.dropWhile (· ≠ '.')).drop 1 = []
    · rw [if_pos hside] at h
      have := congrArg String.toList h
      simp at this
    · rw [if_neg hside] at h
      obtain ⟨-, hstem⟩ := not_or.mp hside
      have hext : (name.toList.reverse.takeWhile (· ≠ '.')).reverse = extension := by
        have := congrArg String.toList h
        rw [String.toList_ofList, String.toList_ofList] at this
        exact (List.cons.inj this).2
      have hhead := List.head?_dropWhile_not (· ≠ '.') name.toList.reverse
      cases hd : name.toList.reverse.dropWhile (· ≠ '.') with
      | nil => rw [hd] at hstem; exact absurd rfl hstem
      | cons c rest =>
        rw [hd] at hstem hhead hsplit
        have hc : c = '.' := by simpa using hhead
        refine ⟨rest.reverse, by simpa using hstem, ?_⟩
        have hrev := congrArg List.reverse hsplit
        rw [List.reverse_reverse, List.reverse_append, hext, hc, List.reverse_cons] at hrev
        rw [← hrev, List.append_assoc, List.singleton_append]
  · rintro ⟨stem, hstem, hname⟩
    have hrev : name.toList.reverse = extension.reverse ++ '.' :: stem.reverse := by
      rw [hname, List.reverse_append, List.reverse_cons, List.append_assoc, List.singleton_append]
    have hall : ∀ c ∈ extension.reverse, decide (c ≠ '.') = true := by
      intro c hc
      have hne : c ≠ '.' := fun he => hdot (he ▸ List.mem_reverse.mp hc)
      exact decide_eq_true hne
    rw [nameSuffix, hrev, List.takeWhile_append_of_pos hall, List.dropWhile_append_of_pos hall]
    simp [hne, hstem]

/-- A compiled module: a name that ends in `.pyc`, after at least one character. -/
def IsBytecode (path : Path) : Prop :=
  ∃ stem : String, stem ≠ "" ∧ path.getLast? = some (stem ++ ".pyc")

theorem suffix_eq_pyc_iff {path : Path} : suffix path = ".pyc" ↔ IsBytecode path := by
  have hname : ∀ name, nameSuffix name = ".pyc" ↔
      ∃ stem, stem ≠ [] ∧ name.toList = stem ++ ['.', 'p', 'y', 'c'] := fun name =>
    nameSuffix_eq_iff (List.cons_ne_nil 'p' ['y', 'c']) (by decide)
  rw [suffix, hname]
  constructor
  · rintro ⟨stem, hstem, htext⟩
    refine ⟨String.ofList stem, fun h => hstem (by simpa using h), ?_⟩
    cases hlast : path.getLast? with
    | none =>
      rw [hlast] at htext
      simp at htext
    | some name =>
      rw [hlast, Option.getD_some] at htext
      have : name = String.ofList stem ++ ".pyc" := by
        apply String.toList_injective
        rw [htext]
        simp
      rw [this]
  · rintro ⟨stem, hstem, hlast⟩
    refine ⟨stem.toList, fun h => hstem (by simpa using h), ?_⟩
    rw [hlast, Option.getD_some, String.toList_append]
    rfl

/-! ## Reading and encoding -/

/-- The line ends `read_text` gives: `\r\n` and `\r` are read as `\n`. -/
def universalNewlines : List Char → List Char
  | [] => []
  | [c] => if c = '\r' then ['\n'] else [c]
  | c :: d :: cs =>
    if c = '\r' then
      if d = '\n' then '\n' :: universalNewlines cs else '\n' :: universalNewlines (d :: cs)
    else c :: universalNewlines (d :: cs)

/-- Open a file and read all of it. -/
def readBytes (fs : FileSystem Bytes) (path : Path) : Except Exn Bytes :=
  match fs.stat path with
  | some (.file true content) => .ok content
  | _ => .error ⟨.python .osError, asPosix path⟩

/-- `path.read_text(encoding="utf-8")`. -/
def readText (fs : FileSystem Bytes) (path : Path) : Except Exn String := do
  let content ← readBytes fs path
  match String.fromUTF8? ⟨content.toArray⟩ with
  | some text => .ok (String.ofList (universalNewlines text.toList))
  | none => .error ⟨.python .valueError, "'utf-8' codec can't decode bytes"⟩

theorem readBytes_of_lstat {fs : FileSystem Bytes} {path : Path} {readable : Bool}
    {content content' : Bytes} (hf : fs.lstat path = some (.file readable content))
    (h : readBytes fs path = .ok content') : content' = content := by
  have hstat : fs.stat path = some (.file readable content) := FileSystem.stat_of_not_symlink hf rfl
  rw [readBytes, hstat] at h
  cases readable with
  | true => exact (Except.ok.inj h).symm
  | false => cases h

/-- The bytes of a text. -/
def utf8 (text : String) : Bytes := text.toByteArray.data.toList

/-- A file that holds the UTF-8 bytes of a text is read as that text. -/
theorem readText_utf8 {fs : FileSystem Bytes} {path : Path} {text : String}
    (h : fs.lstat path = some (.file true (utf8 text))) :
    readText fs path = .ok (String.ofList (universalNewlines text.toList)) := by
  have hstat : fs.stat path = some (.file true (utf8 text)) := FileSystem.stat_of_not_symlink h rfl
  have hread : readBytes fs path = .ok (utf8 text) := by rw [readBytes, hstat]
  have hbytes : (⟨(utf8 text).toArray⟩ : ByteArray) = text.toByteArray := by
    rw [utf8, Array.toArray_toList]
  have hdecode : String.fromUTF8? text.toByteArray = some text := by
    rw [String.fromUTF8?, dif_pos text.isValidUTF8]
    rfl
  rw [readText, hread]
  simp only [bind, Except.bind, hbytes, hdecode]

def urlsafeAlphabet : List Char :=
  "ABCDEFGHIJKLMNOPQRSTUVWXYZabcdefghijklmnopqrstuvwxyz0123456789-_".toList

/-- The character for six bits. -/
def urlsafeChar (n : Nat) : Char := urlsafeAlphabet.getD n '='

/-- `base64.urlsafe_b64encode`. -/
def urlsafeB64encode : Bytes → List Char
  | [] => []
  | [a] => [urlsafeChar (a.toNat / 4), urlsafeChar (a.toNat % 4 * 16), '=', '=']
  | [a, b] =>
    [urlsafeChar (a.toNat / 4), urlsafeChar (a.toNat % 4 * 16 + b.toNat / 16),
      urlsafeChar (b.toNat % 16 * 4), '=']
  | a :: b :: c :: rest =>
    urlsafeChar (a.toNat / 4) :: urlsafeChar (a.toNat % 4 * 16 + b.toNat / 16) ::
      urlsafeChar (b.toNat % 16 * 4 + c.toNat / 64) :: urlsafeChar (c.toNat % 64) ::
      urlsafeB64encode rest

/-- `base64.urlsafe_b64encode(data).rstrip(b"=").decode("ascii")`. -/
def urlsafeB64 (data : Bytes) : String :=
  String.ofList ((urlsafeB64encode data).reverse.dropWhile (· = '=')).reverse

/-! ## A reference interpreter -/

/-- The SHA-256 of no bytes. -/
def emptySha256 : Bytes :=
  [0xe3, 0xb0, 0xc4, 0x42, 0x98, 0xfc, 0x1c, 0x14, 0x9a, 0xfb, 0xf4, 0xc8, 0x99, 0x6f, 0xb9, 0x24,
    0x27, 0xae, 0x41, 0xe4, 0x64, 0x9b, 0x93, 0x4c, 0xa4, 0x95, 0x99, 0x1b, 0x78, 0x52, 0xb8, 0x55]

/-- An interpreter that is right on ASCII texts, and on the digest of no bytes. -/
def Interpreter.ascii : Interpreter where
  lower text := String.ofList (text.toList.map Char.toLower)
  repr text := "'" ++ text ++ "'"
  decimal c := if c.isDigit then some (c.toNat - 48) else none
  sha256 _ := emptySha256

example : urlsafeB64 emptySha256 = "47DEQpj8HBSa-_TImW-5JCeuQeRkm5NMpJWZG3hSuFU" := by
  decide +kernel

end FlightSql.Provenance
