/-
  The protocol-buffer WIRE FORMAT, written side.

  A message is a sequence of fields.  A field is a KEY — the varint of `number * 8 + wireType` —
  followed by a payload whose shape the wire type fixes:

  * wire type 0: a varint;
  * wire type 1: eight bytes;
  * wire type 2: a length varint and that many bytes;
  * wire type 5: four bytes.

  A varint is the number in base 128, least significant digit first, with the high bit set on
  every byte but the last.  `encodeVarint` is the MINIMAL encoding (no trailing zero digit).

  Nothing here knows any particular message or decoder: `Field` is a field of any message,
  `encodeFields` its bytes, and `lastBytes` the meaning a last-wins reader gives a repeated
  length-delimited field.  A decoder is proved against the two varint equations
  (`encodeVarint_of_lt`, `encodeVarint_of_ge`) and `encodeFields_cons`.

  The GRAMMAR (`Complete`) says which byte strings are messages at all, minimal or not: a concatenation
  of complete fields.  Its parts end where their own bytes say (`unique`), so a message cut inside a
  fixed-width value (`CutInFixed`) is no message.  `LastBytes` is `lastBytes` for the messages of the
  grammar.
-/
import Mathlib.Algebra.Group.Nat.Defs

set_option linter.unusedVariables false

namespace FlightSql.Lib.Wire

/-- A byte string. -/
abbrev Bytes := List UInt8

/-! ## Varints -/

/-- The base-128 digits of `n`, at most `fuel` of them. -/
def encodeVarintAux : Nat → Nat → Bytes
  | 0, _ => []
  | fuel + 1, n =>
    if n < 128 then [UInt8.ofNat n]
    else UInt8.ofNat (n % 128 + 128) :: encodeVarintAux fuel (n / 128)

/-- **The minimal varint of `n`.** -/
def encodeVarint (n : Nat) : Bytes := encodeVarintAux (n + 1) n

/-- Fuel irrelevance: `n + 1` digits are always enough. -/
theorem encodeVarintAux_congr : ∀ (f f' n : Nat), n < f → n < f' →
    encodeVarintAux f n = encodeVarintAux f' n := by
  intro f
  induction f with
  | zero => intro f' n hn _; exact absurd hn (Nat.not_lt_zero n)
  | succ f ih =>
    intro f' n hn hn'
    cases f' with
    | zero => exact absurd hn' (Nat.not_lt_zero n)
    | succ f'' =>
      rw [encodeVarintAux, encodeVarintAux]
      by_cases h : n < 128
      · rw [if_pos h, if_pos h]
      · rw [if_neg h, if_neg h, ih f'' (n / 128) (by omega) (by omega)]

theorem encodeVarint_of_lt {n : Nat} (h : n < 128) : encodeVarint n = [UInt8.ofNat n] := by
  rw [encodeVarint, encodeVarintAux, if_pos h]

theorem encodeVarint_of_ge {n : Nat} (h : 128 ≤ n) :
    encodeVarint n = UInt8.ofNat (n % 128 + 128) :: encodeVarint (n / 128) := by
  rw [encodeVarint, encodeVarintAux, if_neg (by omega), encodeVarint,
    encodeVarintAux_congr n (n / 128 + 1) (n / 128) (by omega) (by omega)]

theorem encodeVarint_ne_nil (n : Nat) : encodeVarint n ≠ [] := by
  by_cases h : n < 128
  · rw [encodeVarint_of_lt h]; simp
  · rw [encodeVarint_of_ge (by omega)]; simp

theorem encodeVarint_length_pos (n : Nat) : 0 < (encodeVarint n).length :=
  List.length_pos_iff.mpr (encodeVarint_ne_nil n)

/-! ## Fields -/

/-- What follows a field's key; the fixed-width payloads carry their width. -/
inductive Payload where
  | varint (value : Nat)
  | fixed64 (bytes : Vector UInt8 8)
  | lengthDelimited (bytes : Bytes)
  | fixed32 (bytes : Vector UInt8 4)

namespace Payload

def wireType : Payload → Nat
  | varint _ => 0
  | fixed64 _ => 1
  | lengthDelimited _ => 2
  | fixed32 _ => 5

def encode : Payload → Bytes
  | varint value => encodeVarint value
  | fixed64 bytes => bytes.toList
  | lengthDelimited bytes => encodeVarint bytes.length ++ bytes
  | fixed32 bytes => bytes.toList

/-- Every varint the payload writes is below `2 ^ 64`. -/
def InRange : Payload → Prop
  | varint value => value < 2 ^ 64
  | lengthDelimited bytes => bytes.length < 2 ^ 64
  | _ => True

instance : (p : Payload) → Decidable p.InRange
  | varint value => inferInstanceAs (Decidable (value < 2 ^ 64))
  | lengthDelimited bytes => inferInstanceAs (Decidable (bytes.length < 2 ^ 64))
  | fixed64 _ => inferInstanceAs (Decidable True)
  | fixed32 _ => inferInstanceAs (Decidable True)

theorem wireType_lt (p : Payload) : p.wireType < 8 := by
  cases p <;> simp [wireType]

end Payload

/-- One field of a message. -/
structure Field where
  number : Nat
  payload : Payload

namespace Field

/-- The key's number: field number and wire type. -/
def key (f : Field) : Nat := f.number * 8 + f.payload.wireType

def encode (f : Field) : Bytes := encodeVarint f.key ++ f.payload.encode

/-- A field a message may hold: numbered from 1, all its varints below `2 ^ 64`. -/
def InRange (f : Field) : Prop := 1 ≤ f.number ∧ f.key < 2 ^ 64 ∧ f.payload.InRange

instance (f : Field) : Decidable f.InRange :=
  inferInstanceAs (Decidable (1 ≤ f.number ∧ f.key < 2 ^ 64 ∧ f.payload.InRange))

theorem encode_length_pos (f : Field) : 0 < f.encode.length := by
  rw [encode, List.length_append]
  have := encodeVarint_length_pos f.key
  omega

end Field

/-- **The bytes of a message.** -/
def encodeFields (fs : List Field) : Bytes := fs.flatMap Field.encode

theorem encodeFields_cons (f : Field) (fs : List Field) :
    encodeFields (f :: fs) = f.encode ++ encodeFields fs := by
  rw [encodeFields, List.flatMap_cons, encodeFields]

/-- The payload of the last length-delimited occurrence of `number`, or `acc` when there is
    none — what a reader that keeps the last value of a field ends up with. -/
def lastBytesFrom (number : Nat) : Option Bytes → List Field → Option Bytes
  | acc, [] => acc
  | acc, f :: fs =>
    match f.payload with
    | .lengthDelimited bytes =>
      lastBytesFrom number (if f.number = number then some bytes else acc) fs
    | _ => lastBytesFrom number acc fs

def lastBytes (number : Nat) (fs : List Field) : Option Bytes := lastBytesFrom number none fs

/-- A length-delimited field. -/
def bytesField (number : Nat) (bytes : Bytes) : Field := ⟨number, .lengthDelimited bytes⟩

theorem lastBytesFrom_bytes (number n : Nat) (bytes : Bytes) (acc : Option Bytes)
    (fs : List Field) : lastBytesFrom number acc (⟨n, .lengthDelimited bytes⟩ :: fs)
      = lastBytesFrom number (if n = number then some bytes else acc) fs := rfl

/-- A field of another number leaves the last payload of `number` alone. -/
theorem lastBytesFrom_cons_of_ne {number : Nat} (acc : Option Bytes) {f : Field}
    (fs : List Field) (h : f.number ≠ number) :
    lastBytesFrom number acc (f :: fs) = lastBytesFrom number acc fs := by
  obtain ⟨n, p⟩ := f
  cases p with
  | lengthDelimited bytes => rw [lastBytesFrom_bytes, if_neg h]
  | varint _ => rfl
  | fixed64 _ => rfl
  | fixed32 _ => rfl

theorem lastBytesFrom_of_forall_ne {number : Nat} (acc : Option Bytes) {fs : List Field}
    (h : ∀ f ∈ fs, f.number ≠ number) : lastBytesFrom number acc fs = acc := by
  induction fs with
  | nil => rfl
  | cons f fs ih =>
    rw [lastBytesFrom_cons_of_ne acc fs (h f List.mem_cons_self)]
    exact ih fun g hg => h g (List.mem_cons_of_mem f hg)

theorem lastBytesFrom_append (number : Nat) (acc : Option Bytes) (fs gs : List Field) :
    lastBytesFrom number acc (fs ++ gs) = lastBytesFrom number (lastBytesFrom number acc fs) gs := by
  induction fs generalizing acc with
  | nil => rfl
  | cons f fs ih =>
    obtain ⟨n, p⟩ := f
    cases p with
    | lengthDelimited bytes => exact ih _
    | varint _ => exact ih acc
    | fixed64 _ => exact ih acc
    | fixed32 _ => exact ih acc

/-- A field that occurs once, as bytes, has those bytes as its last payload. -/
theorem lastBytes_of_unique {number : Nat} {bytes : Bytes} {fs gs : List Field}
    (hfs : ∀ f ∈ fs, f.number ≠ number) (hgs : ∀ f ∈ gs, f.number ≠ number) :
    lastBytes number (fs ++ bytesField number bytes :: gs) = some bytes := by
  rw [lastBytes, lastBytesFrom_append, bytesField, lastBytesFrom_bytes, if_pos rfl,
    lastBytesFrom_of_forall_ne _ hgs]

example : encodeVarint 300 = [0xAC, 0x02] := by decide
example : encodeFields [bytesField 1 [7, 8], ⟨2, .varint 1⟩] = [0x0A, 2, 7, 8, 0x10, 1] := by decide

/-! ## The grammar, read side -/

/-- The digits of a varint: all but the last have the high bit.  The number they stand for is beside. -/
inductive VarintDigits : Bytes → Nat → Prop where
  | last (b : UInt8) : b.toNat < 128 → VarintDigits [b] b.toNat
  | more (b : UInt8) (bs : Bytes) (n : Nat) : 128 ≤ b.toNat → VarintDigits bs n →
      VarintDigits (b :: bs) (b.toNat - 128 + 128 * n)

/-- **A varint**: at most ten bytes. -/
def IsVarint (bs : Bytes) (n : Nat) : Prop := VarintDigits bs n ∧ bs.length ≤ 10

/-- The width of a value that has one fixed for its wire type. -/
def fixedWidth : Nat → Option Nat
  | 1 => some 8
  | 5 => some 4
  | _ => none

/-- **What follows a key** of some wire type. -/
inductive FieldBody : Nat → Bytes → Prop where
  | varint {bs : Bytes} {n : Nat} : IsVarint bs n → FieldBody 0 bs
  | lengthDelimited {l bs : Bytes} {n : Nat} : IsVarint l n → bs.length = n → FieldBody 2 (l ++ bs)
  | fixed {wireType width : Nat} {bs : Bytes} : fixedWidth wireType = some width →
      bs.length = width → FieldBody wireType bs

/-- **A complete field**: its key, and all that the key's wire type asks for. -/
inductive CompleteField : Bytes → Prop where
  | mk {k body : Bytes} {key : Nat} : IsVarint k key → FieldBody (key % 8) body →
      CompleteField (k ++ body)

/-- **A complete message**: nothing but complete fields, one after the other. -/
inductive Complete : Bytes → Prop where
  | nil : Complete []
  | cons {f rest : Bytes} : CompleteField f → Complete rest → Complete (f ++ rest)

/-- **A message cut inside a fixed-width value**: complete fields, the key of another, and too few bytes
    after it. -/
inductive CutInFixed : Bytes → Prop where
  | here {k rest : Bytes} {key width : Nat} : IsVarint k key → fixedWidth (key % 8) = some width →
      rest.length < width → CutInFixed (k ++ rest)
  | later {f rest : Bytes} : CompleteField f → CutInFixed rest → CutInFixed (f ++ rest)

/-- **A complete length-delimited field** of some number, and the bytes it carries. -/
inductive BytesField (number : Nat) : Bytes → Bytes → Prop where
  | mk {k l bs : Bytes} {key n : Nat} : IsVarint k key → key % 8 = 2 → key / 8 = number →
      IsVarint l n → bs.length = n → BytesField number (k ++ (l ++ bs)) bs

/-- **What the last length-delimited field of some number carries**, in a complete message. -/
inductive LastBytes (number : Nat) : Bytes → Option Bytes → Prop where
  | nil : LastBytes number [] none
  | field {f rest bs : Bytes} {later : Option Bytes} : BytesField number f bs →
      LastBytes number rest later → LastBytes number (f ++ rest) (some (later.getD bs))
  | other {f rest : Bytes} {later : Option Bytes} : CompleteField f →
      (∀ bs, ¬BytesField number f bs) → LastBytes number rest later →
      LastBytes number (f ++ rest) later

theorem BytesField.complete {number : Nat} {f bs : Bytes} (h : BytesField number f bs) :
    CompleteField f := by
  obtain ⟨hk, hwire, -, hl, hlength⟩ := h
  rename_i k l key n
  have hbody : FieldBody (key % 8) (l ++ bs) := by
    rw [hwire]
    exact .lengthDelimited hl hlength
  exact .mk hk hbody

/-- Every complete message says what its last field of a number carries. -/
theorem Complete.lastBytes {msg : Bytes} (h : Complete msg) (number : Nat) :
    ∃ r, LastBytes number msg r := by
  induction h with
  | nil => exact ⟨none, .nil⟩
  | @cons f rest hf _ ih =>
    obtain ⟨later, hlater⟩ := ih
    by_cases hbytes : ∃ bs, BytesField number f bs
    · obtain ⟨bs, hbytes⟩ := hbytes
      exact ⟨_, .field hbytes hlater⟩
    · exact ⟨later, .other hf (fun bs h => hbytes ⟨bs, h⟩) hlater⟩

theorem LastBytes.complete {number : Nat} {msg : Bytes} {r : Option Bytes}
    (h : LastBytes number msg r) : Complete msg := by
  induction h with
  | nil => exact .nil
  | field hbytes _ ih => exact .cons hbytes.complete ih
  | other hf _ _ ih => exact .cons hf ih

theorem VarintDigits.ne_nil {bs : Bytes} {n : Nat} (h : VarintDigits bs n) : bs ≠ [] := by
  cases h <;> exact List.cons_ne_nil _ _

/-- Where one varint ends is determined by its bytes. -/
theorem VarintDigits.unique {bs : Bytes} {n : Nat} (h : VarintDigits bs n) {bs' rest rest' : Bytes}
    {n' : Nat} (h' : VarintDigits bs' n') (heq : bs ++ rest = bs' ++ rest') :
    bs = bs' ∧ n = n' ∧ rest = rest' := by
  induction h generalizing bs' n' with
  | last b hb =>
    cases h' with
    | last b' hb' =>
      obtain ⟨rfl, rfl⟩ := List.cons.inj heq
      exact ⟨rfl, rfl, rfl⟩
    | more b' tail m hb' _ =>
      obtain ⟨rfl, -⟩ := List.cons.inj heq
      omega
  | more b tail m hb _ ih =>
    cases h' with
    | last b' hb' =>
      obtain ⟨rfl, -⟩ := List.cons.inj heq
      omega
    | more b' tail' m' hb' htail' =>
      obtain ⟨rfl, htails⟩ := List.cons.inj heq
      obtain ⟨rfl, rfl, rfl⟩ := ih htail' htails
      exact ⟨rfl, rfl, rfl⟩

/-- So is where the rest of a field ends. -/
theorem FieldBody.unique {wireType : Nat} {body body' rest rest' : Bytes}
    (h : FieldBody wireType body) (h' : FieldBody wireType body')
    (heq : body ++ rest = body' ++ rest') : body = body' ∧ rest = rest' := by
  cases h with
  | varint hv =>
    cases h' with
    | varint hv' =>
      obtain ⟨rfl, -, rfl⟩ := hv.1.unique hv'.1 heq
      exact ⟨rfl, rfl⟩
    | fixed hwidth _ => cases hwidth
  | lengthDelimited hl hlength =>
    cases h' with
    | lengthDelimited hl' hlength' =>
      rw [List.append_assoc, List.append_assoc] at heq
      obtain ⟨rfl, rfl, heq⟩ := hl.1.unique hl'.1 heq
      obtain ⟨rfl, rfl⟩ := List.append_inj heq (hlength.trans hlength'.symm)
      exact ⟨rfl, rfl⟩
    | fixed hwidth _ => cases hwidth
  | fixed hwidth hlength =>
    cases h' with
    | varint _ => cases hwidth
    | lengthDelimited _ _ => cases hwidth
    | fixed hwidth' hlength' =>
      rw [hwidth] at hwidth'
      cases hwidth'
      exact List.append_inj heq (hlength.trans hlength'.symm)

theorem CompleteField.unique {f f' rest rest' : Bytes} (h : CompleteField f) (h' : CompleteField f')
    (heq : f ++ rest = f' ++ rest') : f = f' ∧ rest = rest' := by
  obtain ⟨hk, hbody⟩ := h
  obtain ⟨hk', hbody'⟩ := h'
  rw [List.append_assoc, List.append_assoc] at heq
  obtain ⟨rfl, rfl, heq⟩ := hk.1.unique hk'.1 heq
  obtain ⟨rfl, rfl⟩ := hbody.unique hbody' heq
  exact ⟨rfl, rfl⟩

theorem CompleteField.ne_nil {f : Bytes} (h : CompleteField f) : f ≠ [] := by
  obtain ⟨hk, -⟩ := h
  exact List.append_ne_nil_of_left_ne_nil hk.1.ne_nil _

/-- **A message cut inside a fixed-width value is not complete.** -/
theorem CutInFixed.not_complete {bs : Bytes} (h : CutInFixed bs) : ¬Complete bs := by
  induction h with
  | @here k rest key width hk hwidth hshort =>
    intro hcomplete
    generalize heq : k ++ rest = bs at hcomplete
    cases hcomplete with
    | nil => exact hk.1.ne_nil (List.append_eq_nil_iff.mp heq).1
    | @cons f tail hf _ =>
      obtain ⟨hk', hbody⟩ := hf
      rw [List.append_assoc] at heq
      obtain ⟨rfl, rfl, rfl⟩ := hk.1.unique hk'.1 heq
      -- the body the key asks for would fit into the rest
      generalize hw : key % 8 = wireType at hwidth hbody
      cases hbody with
      | varint _ => cases hwidth
      | lengthDelimited _ _ => cases hwidth
      | fixed hwidth' hlength =>
        rw [hwidth] at hwidth'
        cases hwidth'
        rw [List.length_append] at hshort
        omega
  | @later f rest hf _ ih =>
    intro hcomplete
    generalize heq : f ++ rest = bs at hcomplete
    cases hcomplete with
    | nil => exact hf.ne_nil (List.append_eq_nil_iff.mp heq).1
    | cons hf' htail =>
      obtain ⟨rfl, rfl⟩ := hf.unique hf' heq
      exact ih htail

end FlightSql.Lib.Wire
