/-
  The prepared-statement handle a server returns from DoPut — `flightsql/client.py`,
  `_protobuf_fields` and `_updated_prepared_handle`.

  A stateless server answers the DoPut that binds parameters with a message carrying a NEW handle.
  The message postdates the bundled protobuf module, so the driver decodes it by hand:

  * `protobufFields` scans a byte string as a protobuf message and keeps, for each field number,
    the last length-delimited payload;
  * `updatedPreparedHandle` reads field 1 of that map, looking through an `Any` wrapper and
    refusing an `Any` of some other message.

  Both scans are written with an explicit number of TURNS (structural recursion, kernel-reducible)
  and then shown to satisfy the source's `while` loops verbatim (`varintLoop_eq`, `fieldsLoop_eq`):
  the tenth varint byte and the end of the payload stop the source's loops before the turns run
  out.  The decoder is then proved to undo `Wire.encodeFields`, one field per turn.
-/
import FlightSql.Lib.Dict
import FlightSql.Lib.Wire

set_option linter.unusedVariables false

namespace FlightSql.PreparedHandle

open FlightSql.Lib FlightSql.Lib.Wire

/-! ## `_protobuf_fields` -/

/-- The loop of `varint`: at position `pos`, with `value` and `shift` accumulated so far. -/
def varintLoop (payload : Bytes) : Nat → Nat → Nat → Nat → Option (Nat × Nat)
  | 0, _, _, _ => none
  | turns + 1, pos, value, shift =>
    if payload.length ≤ pos ∨ 63 < shift then none   -- "truncated varint"
    else
      let byte := (payload.getD pos 0).toNat
      let value := value ||| ((byte &&& 0x7F) <<< shift)
      if byte &&& 0x80 = 0 then some (value, pos + 1)
      else varintLoop payload turns (pos + 1) value (shift + 7)

/-- The varint at `pos` and the position after it.  `shift > 63` stops the loop in its eleventh
    turn at the latest. -/
def varint (payload : Bytes) (pos : Nat) : Option (Nat × Nat) := varintLoop payload 11 pos 0 0

/-- The loop over the fields of the message. -/
def fieldsLoop (payload : Bytes) : Nat → Nat → Dict Nat Bytes → Option (Dict Nat Bytes)
  | 0, _, _ => none
  | turns + 1, pos, fields =>
    if payload.length ≤ pos then some fields
    else
      match varint payload pos with
      | none => none
      | some (key, pos) =>
        let number := key >>> 3
        let wireType := key &&& 0x07
        if wireType = 0 then
          match varint payload pos with
          | none => none
          | some (_, pos) => fieldsLoop payload turns pos fields
        else if wireType = 2 then
          match varint payload pos with
          | none => none
          | some (length, pos) =>
            if payload.length < pos + length then none
            else
              fieldsLoop payload turns (pos + length)
                (fields.set number ((payload.drop pos).take length))
        else if wireType = 1 then fieldsLoop payload turns (pos + 8) fields
        else if wireType = 5 then fieldsLoop payload turns (pos + 4) fields
        else none

/-- `_protobuf_fields`: every turn moves past at least one byte, so one turn more than the payload
    has bytes reaches the end. -/
def protobufFields (payload : Bytes) : Option (Dict Nat Bytes) :=
  fieldsLoop payload (payload.length + 1) 0 Dict.empty

/-! ## `_updated_prepared_handle` -/

/-- The bytes of an ASCII text. -/
def asciiBytes (s : String) : Bytes := s.toList.map fun c => UInt8.ofNat c.toNat

/-- `_DO_PUT_PREPARED_RESULT_URL.encode()`. -/
def doPutPreparedResultUrl : Bytes :=
  asciiBytes "type.googleapis.com/arrow.flight.protocol.sql.DoPutPreparedStatementResult"

/-- What the type URL of every `Any` starts with. -/
def typeUrlPrefix : Bytes := asciiBytes "type.googleapis.com/"

/-- `x or None` for an optional byte string. -/
def bytesOrNone : Option Bytes → Option Bytes
  | some [] => none
  | x => x

/-- `x` when it is a nonempty mapping: the truth test on an optional `dict`. -/
def truthyFields : Option (Dict Nat Bytes) → Option (Dict Nat Bytes)
  | some fields => if fields.entries = [] then none else some fields
  | none => none

/-- `_updated_prepared_handle`: the handle a DoPut reply carries, if any. -/
def updatedPreparedHandle (payload : Bytes) : Option Bytes :=
  if payload = [] then none
  else
    match truthyFields (protobufFields payload) with
    | none => none
    | some fields =>
      if fields.get? 1 = some doPutPreparedResultUrl ∧ fields.contains 2 = true then
        match truthyFields (protobufFields ((fields.get? 2).getD [])) with
        | none => none
        | some fields => bytesOrNone (fields.get? 1)
      -- An `Any` wrapping some other message.
      else if typeUrlPrefix <+: (fields.get? 1).getD [] then none
      else bytesOrNone (fields.get? 1)

/-! ## Varints: the decoder undoes the minimal encoding -/

section Bytes

theorem ofNat_toNat_of_lt {n : Nat} (h : n < 256) : (UInt8.ofNat n).toNat = n := by
  rw [UInt8.toNat_ofNat']; exact Nat.mod_eq_of_lt h

theorem and_0x7F (n : Nat) : n &&& 0x7F = n % 128 := Nat.and_two_pow_sub_one_eq_mod n 7

theorem and_0x07 (n : Nat) : n &&& 0x07 = n % 8 := Nat.and_two_pow_sub_one_eq_mod n 3

theorem and_0x80 {n : Nat} (h : n < 256) : n &&& 0x80 = n / 128 * 128 :=
  (by decide +kernel : ∀ i : Fin 256, i.val &&& 0x80 = i.val / 128 * 128) ⟨n, h⟩

/-- OR-ing a digit in at `shift` adds it, the accumulated value being below `2 ^ shift`. -/
theorem or_shiftLeft {value digit shift : Nat} (h : value < 2 ^ shift) :
    value ||| (digit <<< shift) = value + digit * 2 ^ shift := by
  rw [Nat.shiftLeft_eq, Nat.mul_comm, Nat.or_comm, ← Nat.two_pow_add_eq_or_of_lt h, Nat.add_comm]

theorem getD_of_drop {payload rest : Bytes} {pos : Nat} {b : UInt8}
    (h : payload.drop pos = b :: rest) : payload.getD pos 0 = b := by
  have hget : (payload.drop pos)[0]? = some b := by rw [h]; rfl
  rw [List.getElem?_drop, Nat.add_zero] at hget
  rw [List.getD_eq_getElem?_getD, hget, Option.getD_some]

theorem lt_length_of_drop {payload rest : Bytes} {pos : Nat} {b : UInt8}
    (h : payload.drop pos = b :: rest) : pos < payload.length := by
  have hlen := congrArg List.length h
  rw [List.length_drop, List.length_cons] at hlen
  omega

theorem add_length_le_of_drop {payload xs rest : Bytes} {pos : Nat}
    (h : payload.drop pos = xs ++ rest) (hne : xs ≠ []) : pos + xs.length ≤ payload.length := by
  have hlen := congrArg List.length h
  have hpos := List.length_pos_iff.mpr hne
  rw [List.length_drop, List.length_append] at hlen
  omega

theorem drop_add_of_drop {payload xs rest : Bytes} {pos : Nat} (h : payload.drop pos = xs ++ rest) :
    payload.drop (pos + xs.length) = rest := by
  rw [← List.drop_drop, h, List.drop_left]

end Bytes

/-- **The source's loop, turn by turn.**  While turns and shifts still cover the ten bytes a varint
    may have, the number of turns left does not matter. -/
theorem varintLoop_eq (payload : Bytes) : ∀ (t t' pos value shift : Nat),
    70 < shift + 7 * t → 70 < shift + 7 * t' →
    varintLoop payload t pos value shift = varintLoop payload t' pos value shift := by
  intro t
  induction t with
  | zero =>
    intro t' pos value shift h h'
    cases t' with
    | zero => rfl
    | succ t' => rw [varintLoop, varintLoop, if_pos (Or.inr (by omega))]
  | succ t ih =>
    intro t' pos value shift h h'
    cases t' with
    | zero => rw [varintLoop, varintLoop, if_pos (Or.inr (by omega))]
    | succ t' =>
      rw [varintLoop, varintLoop]
      by_cases hs : payload.length ≤ pos ∨ 63 < shift
      · rw [if_pos hs, if_pos hs]
      · rw [if_neg hs, if_neg hs]
        have hrec := fun v => ih t' (pos + 1) v (shift + 7) (by omega) (by omega)
        simp only [hrec]

/-- Reading the minimal encoding of `n` from a state that has accumulated `value` below
    `2 ^ shift`.  Strong induction on `n`, one byte each; the invariant `n * 2 ^ shift < 2 ^ 64`
    keeps `shift` at most 63 while digits remain. -/
theorem varintLoop_encode (payload : Bytes) : ∀ (n turns pos value shift : Nat) (rest : Bytes),
    payload.drop pos = encodeVarint n ++ rest → value < 2 ^ shift → shift ≤ 63 →
    n * 2 ^ shift < 2 ^ 64 → 63 < shift + 7 * turns →
    varintLoop payload turns pos value shift
      = some (value + n * 2 ^ shift, pos + (encodeVarint n).length) := by
  intro n
  induction n using Nat.strongRecOn with
  | ind n ih =>
    intro turns pos value shift rest hd hv hs hn ht
    obtain ⟨t, rfl⟩ : ∃ t, turns = t + 1 := ⟨turns - 1, by omega⟩
    rw [varintLoop]
    by_cases hlt : n < 128
    · -- the last byte
      rw [encodeVarint_of_lt hlt] at hd
      have hlen := lt_length_of_drop hd
      have hb := ofNat_toNat_of_lt (show n < 256 by omega)
      rw [if_neg (by omega)]
      simp only [getD_of_drop hd, hb, and_0x7F, and_0x80 (show n < 256 by omega),
        Nat.mod_eq_of_lt hlt, or_shiftLeft hv]
      rw [if_pos (by omega), encodeVarint_of_lt hlt]
      rfl
    · -- a byte with its high bit set, then the varint of `n / 128`
      rw [encodeVarint_of_ge (by omega), List.cons_append] at hd
      have hlen := lt_length_of_drop hd
      have hb := ofNat_toNat_of_lt (show n % 128 + 128 < 256 by omega)
      have hdrop : payload.drop (pos + 1) = encodeVarint (n / 128) ++ rest :=
        @drop_add_of_drop _ [_] _ _ hd
      rw [if_neg (by omega)]
      simp only [getD_of_drop hd, hb, and_0x7F, and_0x80 (show n % 128 + 128 < 256 by omega),
        show (n % 128 + 128) % 128 = n % 128 by omega, or_shiftLeft hv]
      rw [if_neg (by omega)]
      have hpow : 2 ^ (shift + 7) = 2 ^ shift * 128 := by rw [Nat.pow_add]
      have hdiv : n / 128 * 2 ^ (shift + 7) ≤ n * 2 ^ shift := by
        rw [hpow, Nat.mul_comm (2 ^ shift), ← Nat.mul_assoc]
        exact Nat.mul_le_mul_right _ (Nat.div_mul_le_self n 128)
      have hone : 2 ^ (shift + 7) ≤ n / 128 * 2 ^ (shift + 7) :=
        Nat.le_mul_of_pos_left _ (by omega)
      have hshift : shift + 7 ≤ 63 := by
        have h64 : 2 ^ (shift + 7) < 2 ^ 64 := by omega
        have := (Nat.pow_lt_pow_iff_right (by decide : 1 < 2)).mp h64
        omega
      have hval : value + n % 128 * 2 ^ shift < 2 ^ (shift + 7) := by
        have : n % 128 * 2 ^ shift ≤ 127 * 2 ^ shift := Nat.mul_le_mul_right _ (by omega)
        omega
      rw [ih (n / 128) (by omega) t (pos + 1) _ (shift + 7) rest hdrop hval hshift (by omega)
        (by omega), encodeVarint_of_ge (show 128 ≤ n by omega), List.length_cons]
      congr 2
      · have hn' : n = n % 128 + n / 128 * 128 := by omega
        rw [hpow]
        calc value + n % 128 * 2 ^ shift + n / 128 * (2 ^ shift * 128)
            = value + (n % 128 + n / 128 * 128) * 2 ^ shift := by
              rw [Nat.add_mul, Nat.mul_comm (2 ^ shift) 128, Nat.mul_assoc, Nat.add_assoc]
          _ = value + n * 2 ^ shift := by rw [← hn']
      · omega

/-- **A varint is read back**, wherever it stands. -/
theorem varint_encode {payload rest : Bytes} {pos n : Nat}
    (hd : payload.drop pos = encodeVarint n ++ rest) (hn : n < 2 ^ 64) :
    varint payload pos = some (n, pos + (encodeVarint n).length) := by
  rw [varint, varintLoop_encode payload n 11 pos 0 0 rest hd (by decide) (by decide) (by omega)
    (by decide)]
  simp

/-- A varint the loop accepts ends strictly after its start. -/
theorem varintLoop_pos_lt {payload : Bytes} : ∀ {turns pos value shift v pos' : Nat},
    varintLoop payload turns pos value shift = some (v, pos') → pos < pos' := by
  intro turns
  induction turns with
  | zero => intro pos value shift v pos' h; simp [varintLoop] at h
  | succ t ih =>
    intro pos value shift v pos' h
    rw [varintLoop] at h
    split at h
    · simp at h
    · simp only at h
      split at h
      · simp only [Option.some.injEq, Prod.mk.injEq] at h
        omega
      · have := ih h
        omega

/-! ## Fields: the decoder undoes the message's bytes -/

/-- **The source's `while` loop, turn by turn.**  Every turn moves past a byte, so turns beyond the
    bytes that are left do not matter. -/
theorem fieldsLoop_eq (payload : Bytes) : ∀ (t t' pos : Nat) (fields : Dict Nat Bytes),
    payload.length - pos < t → payload.length - pos < t' →
    fieldsLoop payload t pos fields = fieldsLoop payload t' pos fields := by
  intro t
  induction t with
  | zero => intro t' pos fields h _; exact absurd h (Nat.not_lt_zero _)
  | succ t ih =>
    intro t' pos fields h h'
    cases t' with
    | zero => exact absurd h' (Nat.not_lt_zero _)
    | succ t' =>
      rw [fieldsLoop, fieldsLoop]
      by_cases hpos : payload.length ≤ pos
      · rw [if_pos hpos, if_pos hpos]
      · rw [if_neg hpos, if_neg hpos]
        cases hkey : varint payload pos with
        | none => rfl
        | some kp =>
          obtain ⟨key, p⟩ := kp
          have hp : pos < p := varintLoop_pos_lt hkey
          have hrec := fun q (hq : p ≤ q) d => ih t' q d (by omega) (by omega)
          simp only [hrec _ (Nat.le_add_right p _)]
          cases hv : varint payload p with
          | none => rfl
          | some vp =>
            obtain ⟨v, q⟩ := vp
            have hq : p < q := varintLoop_pos_lt hv
            simp only [hrec q (by omega), hrec (q + v) (by omega)]

/-- One turn over an encoded field: the loop stands after the field, having assigned its payload
    when the field is length-delimited.  One case per wire type. -/
theorem fieldsLoop_field {payload rest : Bytes} {pos : Nat} {f : Field} (hf : f.InRange)
    (hd : payload.drop pos = f.encode ++ rest) (turns : Nat) (fields : Dict Nat Bytes) :
    fieldsLoop payload (turns + 1) pos fields
      = fieldsLoop payload turns (pos + f.encode.length)
          (match f.payload with
            | .lengthDelimited bytes => fields.set f.number bytes
            | _ => fields) := by
  obtain ⟨number, p⟩ := f
  obtain ⟨_, hkey, hp⟩ := hf
  have hlen := congrArg List.length hd
  have hpos := Field.encode_length_pos ⟨number, p⟩
  rw [List.length_drop, List.length_append] at hlen
  rw [Field.encode, List.append_assoc] at hd
  have hread := varint_encode hd hkey
  have hd' := drop_add_of_drop hd
  rw [fieldsLoop, if_neg (by omega), hread]
  have hnum : Field.key ⟨number, p⟩ >>> 3 = number := by
    have := p.wireType_lt
    simp only [Nat.shiftRight_eq_div_pow, Field.key]
    omega
  have hwire : Field.key ⟨number, p⟩ &&& 0x07 = p.wireType := by
    have := p.wireType_lt
    simp only [and_0x07, Field.key]
    omega
  simp only [hnum, hwire, Field.encode, List.length_append, ← Nat.add_assoc]
  cases p with
  | varint value =>
    rw [varint_encode hd' hp]
    rfl
  | fixed64 bytes =>
    simp [Payload.wireType, Payload.encode]
  | lengthDelimited bytes =>
    have hfit := add_length_le_of_drop hd' (by simp [Payload.encode, encodeVarint_ne_nil])
    simp only [Payload.encode, List.append_assoc, List.length_append, ← Nat.add_assoc] at hd' hfit
    rw [varint_encode hd' hp]
    simp only [Payload.encode, List.length_append, ← Nat.add_assoc, drop_add_of_drop hd',
      List.take_left, if_neg (Nat.not_lt.mpr hfit)]
    rfl
  | fixed32 bytes =>
    simp [Payload.wireType, Payload.encode]

/-- Decoding the bytes of `fs` from the middle of a message: each number ends with its last
    payload in `fs`, or keeps what it had.  Induction on the fields, one turn each. -/
theorem fieldsLoop_encodeFields {payload : Bytes} : ∀ (fs : List Field) (turns pos : Nat)
    (fields : Dict Nat Bytes), (∀ f ∈ fs, f.InRange) → payload.drop pos = encodeFields fs →
    fs.length < turns → ∃ d, fieldsLoop payload turns pos fields = some d ∧
      ∀ n, d.get? n = lastBytesFrom n (fields.get? n) fs := by
  intro fs
  induction fs with
  | nil =>
    intro turns pos fields _ hd ht
    obtain ⟨t, rfl⟩ : ∃ t, turns = t + 1 := ⟨turns - 1, by simp at ht; omega⟩
    have hpos : payload.length ≤ pos := List.drop_eq_nil_iff.mp hd
    exact ⟨fields, by rw [fieldsLoop, if_pos hpos], fun n => rfl⟩
  | cons f fs ih =>
    intro turns pos fields hfs hd ht
    obtain ⟨t, rfl⟩ : ∃ t, turns = t + 1 := ⟨turns - 1, by simp at ht; omega⟩
    rw [encodeFields_cons] at hd
    rw [fieldsLoop_field (hfs f List.mem_cons_self) hd]
    obtain ⟨d, hd1, hd2⟩ := ih t (pos + f.encode.length) _
      (fun g hg => hfs g (List.mem_cons_of_mem f hg)) (drop_add_of_drop hd)
      (by simp at ht; omega)
    refine ⟨d, hd1, fun n => ?_⟩
    rw [hd2 n]
    obtain ⟨number, p⟩ := f
    cases p with
    | lengthDelimited bytes =>
      rw [lastBytesFrom_bytes]
      show lastBytesFrom n ((fields.set number bytes).get? n) fs = _
      rw [Dict.get?_set]
    | varint _ => rfl
    | fixed64 _ => rfl
    | fixed32 _ => rfl

theorem length_le_encodeFields (fs : List Field) : fs.length ≤ (encodeFields fs).length := by
  induction fs with
  | nil => exact Nat.le_refl 0
  | cons f fs ih =>
    rw [encodeFields_cons, List.length_append, List.length_cons]
    have := f.encode_length_pos
    omega

/-- **The decoder undoes the wire encoding**: the map holds, for each number, its last
    length-delimited payload. -/
theorem protobufFields_encodeFields {fs : List Field} (h : ∀ f ∈ fs, f.InRange) :
    ∃ d, protobufFields (encodeFields fs) = some d ∧ ∀ n, d.get? n = lastBytes n fs :=
  fieldsLoop_encodeFields fs _ 0 Dict.empty h rfl
    (Nat.lt_succ_of_le (length_le_encodeFields fs))

/-! ## Handles -/

/-- A map a lookup succeeds in is truthy. -/
theorem truthyFields_of_get? {d : Dict Nat Bytes} {n : Nat} {bytes : Bytes}
    (h : d.get? n = some bytes) : truthyFields (some d) = some d := by
  have hne : d.entries ≠ [] := List.ne_nil_of_mem (Dict.mem_entries_of_get? h)
  rw [truthyFields, if_neg hne]

theorem bytesOrNone_of_ne_nil {h : Bytes} (hh : h ≠ []) : bytesOrNone (some h) = some h := by
  cases h with
  | nil => exact absurd rfl hh
  | cons b bs => rfl

theorem encodeFields_ne_nil {fs : List Field} (h : fs ≠ []) : encodeFields fs ≠ [] := by
  have h1 := length_le_encodeFields fs
  have h2 := List.length_pos_iff.mpr h
  exact List.length_pos_iff.mp (by omega)

/-- The serialization of `DoPutPreparedStatementResult` with handle `h` in field 1, unknown fields
    `before` and `after` around it. -/
def encodeResult (before : List Field) (h : Bytes) (after : List Field) : Bytes :=
  encodeFields (before ++ bytesField 1 h :: after)

/-- The serialization of `Any`: the type URL in field 1, the value — left out when empty — in
    field 2. -/
def encodeAny (url value : Bytes) : Bytes :=
  encodeFields (bytesField 1 url :: if value = [] then [] else [bytesField 2 value])

theorem encodeResult_ne_nil (before after : List Field) (h : Bytes) :
    encodeResult before h after ≠ [] := encodeFields_ne_nil (by simp)

theorem encodeAny_ne_nil (url value : Bytes) : encodeAny url value ≠ [] :=
  encodeFields_ne_nil (by simp)

/-- Unknown fields: well-formed, and of other numbers than the handle's. -/
def Unknown (fs : List Field) : Prop := ∀ f ∈ fs, f.InRange ∧ f.number ≠ 1

/-- What the decoder keeps of a result message: its handle, in field 1. -/
theorem protobufFields_encodeResult {before after : List Field} {h : Bytes}
    (hb : Unknown before) (ha : Unknown after) (hh : h.length < 2 ^ 64) :
    ∃ d, protobufFields (encodeResult before h after) = some d ∧ d.get? 1 = some h := by
  have hin : ∀ f ∈ before ++ bytesField 1 h :: after, f.InRange := by
    intro f hf
    rcases List.mem_append.mp hf with hf | hf
    · exact (hb f hf).1
    · rcases List.mem_cons.mp hf with hf | hf
      · subst hf
        exact ⟨Nat.le_refl 1, (by decide : 1 * 8 + 2 < 2 ^ 64), hh⟩
      · exact (ha f hf).1
  obtain ⟨d, hd, hget⟩ := protobufFields_encodeFields hin
  exact ⟨d, hd, by rw [hget 1, lastBytes_of_unique (fun f hf => (hb f hf).2) fun f hf => (ha f hf).2]⟩

/-- What the decoder keeps of an `Any`: the URL in field 1, a nonempty value in field 2. -/
theorem protobufFields_encodeAny {url value : Bytes} (hu : url.length < 2 ^ 64)
    (hv : value.length < 2 ^ 64) :
    ∃ d, protobufFields (encodeAny url value) = some d ∧ d.get? 1 = some url ∧
      d.get? 2 = if value = [] then none else some value := by
  have hin : ∀ f ∈ bytesField 1 url :: (if value = [] then [] else [bytesField 2 value]),
      f.InRange := by
    intro f hf
    rcases List.mem_cons.mp hf with hf | hf
    · subst hf
      exact ⟨Nat.le_refl 1, (by decide : 1 * 8 + 2 < 2 ^ 64), hu⟩
    · by_cases hvn : value = []
      · rw [if_pos hvn] at hf; exact absurd hf List.not_mem_nil
      · rw [if_neg hvn, List.mem_singleton] at hf
        subst hf
        exact ⟨(by decide : 1 ≤ 2), (by decide : 2 * 8 + 2 < 2 ^ 64), hv⟩
  obtain ⟨d, hd, hget⟩ := protobufFields_encodeFields hin
  refine ⟨d, hd, ?_, ?_⟩
  · rw [hget 1]
    by_cases hvn : value = []
    · rw [if_pos hvn]; rfl
    · rw [if_neg hvn]; rfl
  · rw [hget 2]
    by_cases hvn : value = []
    · rw [if_pos hvn, if_pos hvn]; rfl
    · rw [if_neg hvn, if_neg hvn]; rfl

/-- The raw message: the handle comes back unless it looks like a type URL. -/
theorem updatedPreparedHandle_encodeResult {before after : List Field} {h : Bytes}
    (hb : Unknown before) (ha : Unknown after) (hh : h.length < 2 ^ 64) (hne : h ≠ [])
    (hpre : ¬ typeUrlPrefix <+: h) :
    updatedPreparedHandle (encodeResult before h after) = some h := by
  obtain ⟨d, hd, hget⟩ := protobufFields_encodeResult hb ha hh
  have hurl : ¬ (d.get? 1 = some doPutPreparedResultUrl ∧ d.contains 2 = true) := by
    rintro ⟨he, _⟩
    rw [hget] at he
    exact hpre (Option.some.inj he ▸ by decide)
  rw [updatedPreparedHandle, if_neg (encodeResult_ne_nil _ _ _), hd,
    truthyFields_of_get? hget]
  simp only [if_neg hurl]
  simp only [hget, Option.getD_some, if_neg hpre]
  exact bytesOrNone_of_ne_nil hne

/-- The `Any`-wrapped message: every nonempty handle comes back. -/
theorem updatedPreparedHandle_encodeAny {before after : List Field} {h : Bytes}
    (hb : Unknown before) (ha : Unknown after) (hh : h.length < 2 ^ 64) (hne : h ≠ [])
    (hlen : (encodeResult before h after).length < 2 ^ 64) :
    updatedPreparedHandle (encodeAny doPutPreparedResultUrl (encodeResult before h after))
      = some h := by
  have hvne : encodeResult before h after ≠ [] := encodeResult_ne_nil _ _ _
  obtain ⟨d, hd, h1, h2⟩ := protobufFields_encodeAny (show doPutPreparedResultUrl.length < 2 ^ 64 by
    decide) hlen
  rw [if_neg hvne] at h2
  obtain ⟨d', hd', hget⟩ := protobufFields_encodeResult hb ha hh
  have hurl : d.get? 1 = some doPutPreparedResultUrl ∧ d.contains 2 = true :=
    ⟨h1, by rw [Dict.contains, h2]; rfl⟩
  rw [updatedPreparedHandle, if_neg (encodeAny_ne_nil _ _), hd, truthyFields_of_get? h1]
  simp only [if_pos hurl, h2, Option.getD_some, hd', truthyFields_of_get? hget, hget]
  exact bytesOrNone_of_ne_nil hne

/-- An `Any` of another message carries no handle. -/
theorem updatedPreparedHandle_otherAny {url value : Bytes} (hu : url.length < 2 ^ 64)
    (hv : value.length < 2 ^ 64) (hpre : typeUrlPrefix <+: url) (hne : url ≠ doPutPreparedResultUrl) :
    updatedPreparedHandle (encodeAny url value) = none := by
  obtain ⟨d, hd, h1, _⟩ := protobufFields_encodeAny hu hv
  have hurl : ¬ (d.get? 1 = some doPutPreparedResultUrl ∧ d.contains 2 = true) := by
    rintro ⟨he, _⟩
    rw [h1] at he
    exact hne (Option.some.inj he)
  rw [updatedPreparedHandle, if_neg (encodeAny_ne_nil _ _), hd, truthyFields_of_get? h1]
  simp only [if_neg hurl]
  simp only [h1, Option.getD_some, if_pos hpre]

/-- **The prepared-handle decoder undoes the wire encoding.**  Every message comes back as the map
    of last payloads; and so a handle comes back from the raw result message (unless it starts like
    a type URL) and from its `Any`, and an `Any` of another message yields none. -/
theorem preparedHandle_roundTrip :
    (∀ fs : List Field, (∀ f ∈ fs, f.InRange) →
      ∃ d, protobufFields (encodeFields fs) = some d ∧ ∀ n, d.get? n = lastBytes n fs) ∧
    (∀ (before after : List Field) (h : Bytes), Unknown before → Unknown after →
      h.length < 2 ^ 64 → h ≠ [] →
      (¬ typeUrlPrefix <+: h → updatedPreparedHandle (encodeResult before h after) = some h) ∧
      ((encodeResult before h after).length < 2 ^ 64 →
        updatedPreparedHandle (encodeAny doPutPreparedResultUrl (encodeResult before h after))
          = some h)) ∧
    (∀ url value : Bytes, url.length < 2 ^ 64 → value.length < 2 ^ 64 → typeUrlPrefix <+: url →
      url ≠ doPutPreparedResultUrl → updatedPreparedHandle (encodeAny url value) = none) :=
  ⟨fun _ h => protobufFields_encodeFields h,
    fun _ _ _ hb ha hh hne =>
      ⟨updatedPreparedHandle_encodeResult hb ha hh hne,
        updatedPreparedHandle_encodeAny hb ha hh hne⟩,
    fun _ _ hu hv hpre hne => updatedPreparedHandle_otherAny hu hv hpre hne⟩

/-- A two-byte handle behind an unknown varint field, decoded raw. -/
theorem preparedHandle_roundTrip_raw :
    updatedPreparedHandle (encodeResult [⟨2, .varint 300⟩] [7, 8] []) = some [7, 8] :=
  (preparedHandle_roundTrip.2.1 [⟨2, .varint 300⟩] [] [7, 8]
    (by simp only [Unknown, List.mem_singleton, forall_eq]; decide)
    (by simp [Unknown]) (by decide) (by decide)).1 (by decide)

end FlightSql.PreparedHandle
