/-
  Conflicting digests — what `_archive_sha256` makes of ALL the SHA-256 values a `direct_url.json`
  records, under whatever spelling of the algorithm's name.

  1. **The returns** (`archiveSha256_ok_iff`) — the values it accepts, as conditions on the JSON, and
     the one text it then reads: the entry `sha256` of `hashes`, else the legacy `hash`.

  2. **No conflict** (`archiveSha256_noConflict_iff`) — the names `md5` and `sha1` and the legacy name
     are compared in lower case, the entry is looked up as it is spelled.  So an entry `SHA256` is
     never read, and the digest returned is the only one recorded exactly when those entries agree
     with the text that is.

  Mathlib-free.
-/
import FlightSql.Provenance.Source

set_option linter.unusedVariables false

namespace FlightSql.Provenance

open Lib

variable (py : Platform) (directUrl : Dict String Json)

/-! ## What is recorded -/

/-- The members of an object, none of anything else. -/
def membersOf : Option Json → List (String × Json)
  | some (.obj members) => members
  | _ => []

def archiveInfoOf : List (String × Json) := membersOf (notNull (directUrl.get? "archive_info"))

def hashesOf : List (String × Json) := membersOf (member (archiveInfoOf directUrl) "hashes")

/-- `algorithm` is `sha256` in some letter case. -/
def NamesSha256 (algorithm : String) : Prop := algorithm = "sha256" ∨ py.lower algorithm = "sha256"

/-- `algorithm` is `md5` or `sha1` in some letter case. -/
def NamesUnsafe (algorithm : String) : Prop := py.lower algorithm = "md5" ∨ py.lower algorithm = "sha1"

/-- **A SHA-256 value recorded** in `archive_info`: an entry of `hashes`, or what follows the `=` of the
    legacy `hash`. -/
inductive RecordsSha256 : Json → Prop where
  | hashes {algorithm : String} {value : Json} (hname : NamesSha256 py algorithm)
      (hvalue : member (hashesOf directUrl) algorithm = some value) : RecordsSha256 value
  | legacy {legacy algorithm text : String}
      (hlegacy : member (archiveInfoOf directUrl) "hash" = some (.str legacy))
      (hsplit : splitOnce '=' legacy = some (algorithm, text)) (hname : NamesSha256 py algorithm) :
      RecordsSha256 (.str text)

/-- Prefix removal and lower-casing. -/
def normalForm (text : String) : String := py.lower (stripHashPrefix text)

/-- `value` is the digest `d`, up to prefix and case. -/
def IsDigest (d : String) (value : Json) : Prop := ∃ text, value = .str text ∧ normalForm py text = d

/-- **No conflicting digest is accepted**: all that is recorded equals the digest returned, nothing is
    recorded where none is, and every other value is refused. -/
inductive NoConflict : Except Exn (Option String) → Prop where
  | digest {d : String} (hsame : ∀ value, RecordsSha256 py directUrl value → IsDigest py d value)
      (hsafe : ∀ entry ∈ hashesOf directUrl, ¬NamesUnsafe py entry.1) : NoConflict (.ok (some d))
  | silent (hnone : ∀ value, ¬RecordsSha256 py directUrl value) : NoConflict (.ok none)
  | refused {message : String} : NoConflict (.error (provenanceError message))

/-! ## The returns -/

/-- A looked-up value that is absent, null or an object. -/
def IsObject (value : Option Json) : Prop := ∀ v, value = some v → ∃ members, v = .obj members

/-- The text after the `=` of the legacy `hash`. -/
def legacyText : Option Json → Option String
  | some (.str legacy) => (splitOnce '=' legacy).map Prod.snd
  | _ => none

/-- A legacy `hash` of the form `sha256=…`. -/
def LegacyForm (value : Option Json) : Prop :=
  ∀ v, value = some v → ∃ legacy algorithm text, v = .str legacy ∧
    splitOnce '=' legacy = some (algorithm, text) ∧ py.lower algorithm = "sha256"

/-- The text that is read: that of the entry, else the legacy one. -/
def chosenText : Option Json → Option String → Option String
  | some (.str text), _ => some text
  | _, legacyValue => legacyValue

/-- The entry is a string, the same as the legacy text if there is one. -/
def EntryForm (value : Option Json) (legacyValue : Option String) : Prop :=
  ∀ v, value = some v → ∃ text, v = .str text ∧ ∀ legacy, legacyValue = some legacy → legacy = text

/-- The text `_archive_sha256` reads. -/
def hashText : Option String :=
  chosenText (member (hashesOf directUrl) "sha256")
    (legacyText (member (archiveInfoOf directUrl) "hash"))

/-- **The values it returns for.** -/
structure DigestAccepted : Prop where
  archiveInfo : IsObject (notNull (directUrl.get? "archive_info"))
  hashes : IsObject (member (archiveInfoOf directUrl) "hashes")
  safe : ∀ entry ∈ hashesOf directUrl, ¬NamesUnsafe py entry.1
  legacy : LegacyForm py (member (archiveInfoOf directUrl) "hash")
  entry : EntryForm (member (hashesOf directUrl) "sha256")
    (legacyText (member (archiveInfoOf directUrl) "hash"))
  sha256 : ∀ text, hashText directUrl = some text → isSha256 (stripHashPrefix text) = true

variable {py directUrl}

theorem objectOr_eq_ok_iff {message : String} {value : Option Json} {members : List (String × Json)} :
    objectOr message value = .ok members ↔ IsObject value ∧ members = membersOf value := by
  rcases value with _ | v
  · constructor
    · intro h
      exact ⟨fun v hv => (by cases hv), (Except.ok.inj h).symm⟩
    · rintro ⟨-, rfl⟩
      rfl
  · cases v with
    | obj members' =>
      constructor
      · intro h
        exact ⟨fun v hv => ⟨members', (Option.some.inj hv).symm⟩, (Except.ok.inj h).symm⟩
      · rintro ⟨-, rfl⟩
        rfl
    | _ =>
      constructor
      · intro h
        cases h
      · rintro ⟨hobject, -⟩
        obtain ⟨members', hv⟩ := hobject _ rfl
        cases hv

theorem legacyHash_eq_ok_iff {value : Option Json} {legacyValue : Option String} :
    legacyHash py value = .ok legacyValue ↔ LegacyForm py value ∧ legacyValue = legacyText value := by
  rcases value with _ | v
  · constructor
    · intro h
      exact ⟨fun v hv => (by cases hv), (Except.ok.inj h).symm⟩
    · rintro ⟨-, rfl⟩
      rfl
  · cases v with
    | str legacy =>
      rw [legacyHash, legacyText]
      cases hsplit : splitOnce '=' legacy with
      | none =>
        constructor
        · intro h
          cases h
        · rintro ⟨hform, -⟩
          obtain ⟨legacy', algorithm, text, hv, hsome, -⟩ := hform _ rfl
          cases hv
          rw [hsplit] at hsome
          cases hsome
      | some parts =>
        obtain ⟨algorithm, text⟩ := parts
        constructor
        · intro h
          obtain ⟨halg, h⟩ := raiseIf_bind_eq_ok h
          have hname : py.lower algorithm = "sha256" := by simpa using halg
          refine ⟨?_, (Except.ok.inj h).symm⟩
          intro v hv
          exact ⟨legacy, algorithm, text, (Option.some.inj hv).symm, hsplit, hname⟩
        · rintro ⟨hform, rfl⟩
          obtain ⟨legacy', algorithm', text', hv, hsome, hname⟩ := hform _ rfl
          cases hv
          rw [hsplit] at hsome
          cases hsome
          have hpass : decide (py.lower algorithm ≠ "sha256") = false := by simpa using hname
          exact Outcome.bind_eq_ok_iff.mpr ⟨(), raiseIf_eq_ok.mpr hpass, rfl⟩
    | _ =>
      constructor
      · intro h
        cases h
      · rintro ⟨hform, -⟩
        obtain ⟨legacy, algorithm, text, hv, -⟩ := hform _ rfl
        cases hv

/-- A text that is a SHA-256 is normalized. -/
theorem normalizedHash_eq_ok_iff {text label d : String} :
    normalizedHash py text label = .ok d ↔
      isSha256 (stripHashPrefix text) = true ∧ d = normalForm py text := by
  constructor
  · intro h
    obtain ⟨hsha, hd⟩ := normalizedHash_eq_ok h
    exact ⟨hsha, hd.symm⟩
  · rintro ⟨hsha, rfl⟩
    have hpass : (!isSha256 (stripHashPrefix text)) = false := by rw [hsha]; rfl
    exact Outcome.bind_eq_ok_iff.mpr ⟨(), raiseIf_eq_ok.mpr hpass, rfl⟩

theorem map_normalizedHash_eq_ok_iff {text label : String} {r : Option String} :
    some <$> normalizedHash py text label = .ok r ↔
      isSha256 (stripHashPrefix text) = true ∧ r = some (normalForm py text) := by
  constructor
  · intro h
    obtain ⟨d, rfl, hsha, hd⟩ := map_normalizedHash_eq_ok h
    exact ⟨hsha, congrArg some hd.symm⟩
  · rintro ⟨hsha, rfl⟩
    rw [normalizedHash_eq_ok_iff.mpr ⟨hsha, rfl⟩]
    rfl

theorem chosenHash_eq_ok_iff {value : Option Json} {legacyValue r : Option String} :
    chosenHash py value legacyValue = .ok r ↔
      EntryForm value legacyValue ∧
        (∀ text, chosenText value legacyValue = some text → isSha256 (stripHashPrefix text) = true) ∧
        r = (chosenText value legacyValue).map (normalForm py) := by
  rcases value with _ | v
  · have hentry : EntryForm none legacyValue := fun v hv => by cases hv
    cases legacyValue with
    | none =>
      constructor
      · intro h
        exact ⟨hentry, fun text ht => (by cases ht), (Except.ok.inj h).symm⟩
      · rintro ⟨-, -, rfl⟩
        rfl
    | some text =>
      rw [chosenHash, map_normalizedHash_eq_ok_iff]
      constructor
      · rintro ⟨hsha, rfl⟩
        exact ⟨hentry, fun text' ht => Option.some.inj ht ▸ hsha, rfl⟩
      · rintro ⟨-, hsha, rfl⟩
        exact ⟨hsha text rfl, rfl⟩
  · cases v with
    | str text =>
      constructor
      · intro h
        obtain ⟨hconflict, h⟩ := raiseIf_bind_eq_ok h
        obtain ⟨hsha, rfl⟩ := map_normalizedHash_eq_ok_iff.mp h
        refine ⟨?_, fun text' ht => Option.some.inj ht ▸ hsha, rfl⟩
        intro v hv
        refine ⟨text, (Option.some.inj hv).symm, ?_⟩
        rintro legacy rfl
        simpa using hconflict
      · rintro ⟨hentry, hsha, rfl⟩
        obtain ⟨text', hv, hsame⟩ := hentry _ rfl
        cases hv
        have hpass : decide (legacyValue ≠ none ∧ legacyValue ≠ some text) = false := by
          rw [decide_eq_false_iff_not]
          rintro ⟨hsome, hne⟩
          obtain ⟨legacy, rfl⟩ := Option.ne_none_iff_exists'.mp hsome
          exact hne (congrArg some (hsame legacy rfl))
        exact Outcome.bind_eq_ok_iff.mpr
          ⟨(), raiseIf_eq_ok.mpr hpass, map_normalizedHash_eq_ok_iff.mpr ⟨hsha text rfl, rfl⟩⟩
    | _ =>
      constructor
      · intro h
        obtain ⟨-, h⟩ := raiseIf_bind_eq_ok h
        cases h
      · rintro ⟨hentry, -⟩
        obtain ⟨text, hv, -⟩ := hentry _ rfl
        cases hv

/-- No name of an object is unsafe. -/
theorem find?_unsafe_eq_none {hashes : List (String × Json)} :
    ((hashes.map Prod.fst).find? fun algorithm => decide (py.lower algorithm ∈ ["md5", "sha1"])) = none ↔
      ∀ entry ∈ hashes, ¬NamesUnsafe py entry.1 := by
  rw [List.find?_eq_none]
  simp [NamesUnsafe]

/-- **The returns of `_archive_sha256`**: the values it accepts, and the text it reads there. -/
theorem archiveSha256_eq_ok_iff {r : Option String} :
    archiveSha256 py directUrl = .ok r ↔
      DigestAccepted py directUrl ∧ r = (hashText directUrl).map (normalForm py) := by
  rw [archiveSha256, Outcome.bind_eq_ok_iff]
  simp only [Outcome.bind_eq_ok_iff, objectOr_eq_ok_iff]
  constructor
  · rintro ⟨info, ⟨hinfo, rfl⟩, hashes, ⟨hhashes, rfl⟩, h⟩
    split at h
    · cases h
    · next hsafe =>
      obtain ⟨legacyValue, hlegacy, h⟩ := Outcome.bind_eq_ok h
      obtain ⟨hform, rfl⟩ := legacyHash_eq_ok_iff.mp hlegacy
      obtain ⟨hentry, hsha, rfl⟩ := chosenHash_eq_ok_iff.mp h
      exact ⟨⟨hinfo, hhashes, find?_unsafe_eq_none.mp hsafe, hform, hentry, hsha⟩, rfl⟩
  · rintro ⟨h, rfl⟩
    refine ⟨archiveInfoOf directUrl, ⟨h.archiveInfo, rfl⟩, hashesOf directUrl, ⟨h.hashes, rfl⟩, ?_⟩
    rw [find?_unsafe_eq_none.mpr h.safe]
    exact Outcome.bind_eq_ok_iff.mpr ⟨_, legacyHash_eq_ok_iff.mpr ⟨h.legacy, rfl⟩,
      chosenHash_eq_ok_iff.mpr ⟨h.entry, h.sha256, rfl⟩⟩

/-! ## The refusals -/

/-- Every exception of `x` is a `ProvenanceError`. -/
def Refuses {α : Type} (x : Except Exn α) : Prop :=
  ∀ e, x = .error e → ∃ message, e = provenanceError message

theorem Refuses.ok {α : Type} (a : α) : Refuses (.ok a) := by
  intro e h
  cases h

theorem Refuses.error {α : Type} (message : String) :
    Refuses (.error (provenanceError message) : Except Exn α) := by
  intro e h
  cases h
  exact ⟨message, rfl⟩

theorem Refuses.bind {α β : Type} {x : Except Exn α} {f : α → Except Exn β} (hx : Refuses x)
    (hf : ∀ a, Refuses (f a)) : Refuses (x >>= f) := by
  intro e h
  rcases Outcome.bind_eq_error h with hfail | ⟨a, -, hfail⟩
  · exact hx e hfail
  · exact hf a e hfail

theorem refuses_raiseIf {bad : Bool} {message : String} : Refuses (raiseIf bad message) := by
  rw [raiseIf]
  split
  · exact .error message
  · exact .ok ()

theorem refuses_objectOr {message : String} {value : Option Json} : Refuses (objectOr message value) := by
  unfold objectOr
  split
  · exact .ok []
  · exact .ok _
  · exact .error message

theorem refuses_legacyHash {value : Option Json} : Refuses (legacyHash py value) := by
  unfold legacyHash
  split
  · exact .ok none
  · split
    · exact .error _
    · exact refuses_raiseIf.bind fun _ => .ok _
  · exact .error _

theorem refuses_map_normalizedHash {text label : String} :
    Refuses (some <$> normalizedHash py text label) := by
  rw [map_eq_pure_bind]
  exact (refuses_raiseIf.bind fun _ => .ok _).bind fun _ => .ok _

theorem refuses_chosenHash {value : Option Json} {legacyValue : Option String} :
    Refuses (chosenHash py value legacyValue) := by
  unfold chosenHash
  split
  · exact .ok none
  · exact refuses_map_normalizedHash
  · exact refuses_raiseIf.bind fun _ => refuses_map_normalizedHash
  · exact refuses_raiseIf.bind fun _ => .error _

/-- `_archive_sha256` raises nothing but `ProvenanceError`. -/
theorem refuses_archiveSha256 : Refuses (archiveSha256 py directUrl) := by
  refine refuses_objectOr.bind fun archiveInfo => refuses_objectOr.bind fun hashes => ?_
  split
  · exact .error _
  · exact refuses_legacyHash.bind fun _ => refuses_chosenHash

/-! ## No conflict -/

/-- **The other spellings agree**: an entry of `hashes` whose name is `sha256` in other letters is a
    string, equal up to prefix and case to the text that is read. -/
def SpellingsAgree (py : Platform) (directUrl : Dict String Json) : Prop :=
  ∀ algorithm value, py.lower algorithm = "sha256" → algorithm ≠ "sha256" →
    member (hashesOf directUrl) algorithm = some value →
    ∃ text, hashText directUrl = some text ∧ IsDigest py (normalForm py text) value

/-- The entry as it is looked up is the text that is read. -/
theorem DigestAccepted.hashText_entry (h : DigestAccepted py directUrl) {value : Json}
    (hvalue : member (hashesOf directUrl) "sha256" = some value) :
    ∃ text, value = .str text ∧ hashText directUrl = some text := by
  obtain ⟨text, rfl, -⟩ := h.entry value hvalue
  refine ⟨text, rfl, ?_⟩
  rw [hashText, hvalue]
  rfl

/-- So is the legacy one, which the entry may only repeat. -/
theorem DigestAccepted.hashText_legacy (h : DigestAccepted py directUrl) {legacy algorithm text : String}
    (hlegacy : member (archiveInfoOf directUrl) "hash" = some (.str legacy))
    (hsplit : splitOnce '=' legacy = some (algorithm, text)) : hashText directUrl = some text := by
  have htext : legacyText (member (archiveInfoOf directUrl) "hash") = some text := by
    rw [hlegacy, legacyText, hsplit]
    rfl
  cases hvalue : member (hashesOf directUrl) "sha256" with
  | none =>
    rw [hashText, hvalue, htext]
    rfl
  | some value =>
    obtain ⟨text', rfl, hsame⟩ := h.entry value hvalue
    rw [hashText, hvalue, hsame text htext]
    rfl

/-- **What is recorded in an accepted value** is what is read, where the other spellings agree. -/
theorem DigestAccepted.hashText_of_recorded (h : DigestAccepted py directUrl)
    (hagree : SpellingsAgree py directUrl) {value : Json} (hvalue : RecordsSha256 py directUrl value) :
    ∃ text, hashText directUrl = some text ∧ IsDigest py (normalForm py text) value := by
  cases hvalue with
  | @hashes algorithm value hname hmember =>
    by_cases hexact : algorithm = "sha256"
    · subst hexact
      obtain ⟨text, rfl, htext⟩ := h.hashText_entry hmember
      exact ⟨text, htext, text, rfl, rfl⟩
    · exact hagree algorithm value (hname.resolve_left hexact) hexact hmember
  | legacy hlegacy hsplit hname =>
    exact ⟨_, h.hashText_legacy hlegacy hsplit, _, rfl, rfl⟩

/-- **No conflicting digest is accepted exactly where the other spellings of `sha256` agree** with the
    text that is read, or the value is refused for another reason. -/
theorem archiveSha256_noConflict_iff (py : Platform) (directUrl : Dict String Json) :
    NoConflict py directUrl (archiveSha256 py directUrl) ↔
      (DigestAccepted py directUrl → SpellingsAgree py directUrl) := by
  constructor
  · intro h haccepted algorithm value hname hother hmember
    have hrecorded : RecordsSha256 py directUrl value := .hashes (.inr hname) hmember
    rw [archiveSha256_eq_ok_iff.mpr ⟨haccepted, rfl⟩] at h
    cases htext : hashText directUrl with
    | none =>
      rw [htext] at h
      cases h with
      | silent hnone => exact absurd hrecorded (hnone value)
    | some text =>
      rw [htext] at h
      cases h with
      | digest hsame hsafe => exact ⟨text, rfl, hsame value hrecorded⟩
  · intro hagree
    cases hr : archiveSha256 py directUrl with
    | error e =>
      obtain ⟨message, rfl⟩ := refuses_archiveSha256 e hr
      exact .refused
    | ok r =>
      obtain ⟨haccepted, rfl⟩ := archiveSha256_eq_ok_iff.mp hr
      -- every recorded value leads to the text that is read, so none is recorded where none is read
      have hrecorded := fun value (hvalue : RecordsSha256 py directUrl value) =>
        haccepted.hashText_of_recorded (hagree haccepted) hvalue
      cases htext : hashText directUrl with
      | none =>
        refine .silent fun value hvalue => ?_
        obtain ⟨text, hsome, -⟩ := hrecorded value hvalue
        rw [htext] at hsome
        cases hsome
      | some text =>
        refine .digest (fun value hvalue => ?_) haccepted.safe
        obtain ⟨text', hsome, hdigest⟩ := hrecorded value hvalue
        rw [htext] at hsome
        cases hsome
        exact hdigest

/-- Two digests under two spellings. -/
def twoSpellings : Dict String Json :=
  .ofList [("archive_info", .obj [("hashes", .obj
    [("SHA256", .str "1111111111111111111111111111111111111111111111111111111111111111"),
      ("sha256", .str "2222222222222222222222222222222222222222222222222222222222222222")])])]

theorem twoSpellings_returned : (archiveSha256 .ascii twoSpellings).toOption =
    some (some "2222222222222222222222222222222222222222222222222222222222222222") := by
  decide +kernel

/-- The first is recorded, the second returned. -/
theorem twoSpellings_conflict :
    ¬NoConflict .ascii twoSpellings (archiveSha256 .ascii twoSpellings) := by
  have hrecorded : RecordsSha256 .ascii twoSpellings
      (.str "1111111111111111111111111111111111111111111111111111111111111111") :=
    @RecordsSha256.hashes .ascii twoSpellings "SHA256" _ (.inr (by decide +kernel)) rfl
  have hreturned := twoSpellings_returned
  intro h
  cases hr : archiveSha256 .ascii twoSpellings with
  | error e =>
    rw [hr] at hreturned
    cases hreturned
  | ok r =>
    rw [hr] at h hreturned
    cases hreturned
    cases h with
    | digest hsame hsafe =>
      obtain ⟨text, htext, hnormal⟩ := hsame _ hrecorded
      cases htext
      revert hnormal
      decide +kernel

end FlightSql.Provenance
