/-
  Which byte strings `_protobuf_fields` accepts.

  1. **The loops without turns** — `varintStep` and `fieldTurn` are one turn of each loop of the source;
     `VarintRun` and `FieldsRun` string turns together until one stops.  That such a run exists from
     every position is what termination means (`varint_run`, `protobufFields_run`).

  2. **One turn against the grammar** — a varint is read exactly where one stands (`varint_iff`); a turn
     goes past one complete field, or past the end of the payload inside a fixed-width value, which the
     source does not check.

  3. **Acceptance** (`protobufFields_iff`) — complete messages, and those cut inside such a value.

  4. **The message inside an `Any`** — the same scan reads it, so a handle takes both (`Parsed`).

  Mathlib-free.
-/
import FlightSql.PreparedHandle

set_option linter.unusedVariables false

namespace FlightSql.PreparedHandle

open FlightSql.Lib FlightSql.Lib.Wire

/-! ## The loops without turns -/

/-- **A run of the loop of `varint`**: it stops at the end of the payload or past ten bytes, or at a
    byte without the high bit. -/
inductive VarintRun (payload : Bytes) : Nat → Nat → Nat → Option (Nat × Nat) → Prop where
  | truncated {pos value shift : Nat} : payload.length ≤ pos ∨ 63 < shift →
      VarintRun payload pos value shift none
  | last {pos value shift : Nat} : ¬(payload.length ≤ pos ∨ 63 < shift) →
      (payload.getD pos 0).toNat &&& 0x80 = 0 →
      VarintRun payload pos value shift
        (some (value ||| (((payload.getD pos 0).toNat &&& 0x7F) <<< shift), pos + 1))
  | more {pos value shift : Nat} {r : Option (Nat × Nat)} : ¬(payload.length ≤ pos ∨ 63 < shift) →
      (payload.getD pos 0).toNat &&& 0x80 ≠ 0 →
      VarintRun payload (pos + 1) (value ||| (((payload.getD pos 0).toNat &&& 0x7F) <<< shift))
        (shift + 7) r →
      VarintRun payload pos value shift r

/-- The loop of `varint` stops, in the turns it is given. -/
theorem varintLoop_run (payload : Bytes) (turns pos value shift : Nat) (h : 70 < shift + 7 * turns) :
    VarintRun payload pos value shift (varintLoop payload turns pos value shift) := by
  induction turns generalizing pos value shift with
  | zero => exact .truncated (Or.inr (by omega))
  | succ turns ih =>
    rw [varintLoop]
    by_cases hstop : payload.length ≤ pos ∨ 63 < shift
    · rw [if_pos hstop]
      exact .truncated hstop
    · rw [if_neg hstop]
      by_cases hlast : (payload.getD pos 0).toNat &&& 0x80 = 0
      · simp only [hlast, if_true]
        exact .last hstop hlast
      · simp only [hlast, if_false]
        exact .more hstop hlast (ih _ _ _ (by omega))

theorem varint_run (payload : Bytes) (pos : Nat) :
    VarintRun payload pos 0 0 (varint payload pos) := varintLoop_run payload 11 pos 0 0 (by decide)

/-- What one turn of the loop over the fields does. -/
inductive Turn where
  | stop (result : Option (Dict Nat Bytes))
  | next (pos : Nat) (fields : Dict Nat Bytes)

/-- **One turn of the loop over the fields.** -/
def fieldTurn (payload : Bytes) (pos : Nat) (fields : Dict Nat Bytes) : Turn :=
  if payload.length ≤ pos then .stop (some fields)
  else
    match varint payload pos with
    | none => .stop none
    | some (key, pos) =>
      if key &&& 0x07 = 0 then
        match varint payload pos with
        | none => .stop none
        | some (_, pos) => .next pos fields
      else if key &&& 0x07 = 2 then
        match varint payload pos with
        | none => .stop none
        | some (length, pos) =>
          if payload.length < pos + length then .stop none
          else .next (pos + length) (fields.set (key >>> 3) ((payload.drop pos).take length))
      else if key &&& 0x07 = 1 then .next (pos + 8) fields
      else if key &&& 0x07 = 5 then .next (pos + 4) fields
      else .stop none

/-- **A run of the loop over the fields**: turns, until one stops. -/
inductive FieldsRun (payload : Bytes) : Nat → Dict Nat Bytes → Option (Dict Nat Bytes) → Prop where
  | stop {pos : Nat} {fields : Dict Nat Bytes} {r : Option (Dict Nat Bytes)} :
      fieldTurn payload pos fields = .stop r → FieldsRun payload pos fields r
  | next {pos pos' : Nat} {fields fields' : Dict Nat Bytes} {r : Option (Dict Nat Bytes)} :
      fieldTurn payload pos fields = .next pos' fields' → FieldsRun payload pos' fields' r →
      FieldsRun payload pos fields r

/-- Going on after a turn. -/
def Turn.after (next : Nat → Dict Nat Bytes → Option (Dict Nat Bytes)) :
    Turn → Option (Dict Nat Bytes)
  | .stop r => r
  | .next pos fields => next pos fields

/-- The loop is its turns. -/
theorem fieldsLoop_succ (payload : Bytes) (turns pos : Nat) (fields : Dict Nat Bytes) :
    fieldsLoop payload (turns + 1) pos fields =
      (fieldTurn payload pos fields).after (fieldsLoop payload turns) := by
  rw [fieldsLoop, fieldTurn]
  by_cases hend : payload.length ≤ pos
  · rw [if_pos hend, if_pos hend]
    rfl
  · rw [if_neg hend, if_neg hend]
    cases varint payload pos with
    | none => rfl
    | some read =>
      obtain ⟨key, p⟩ := read
      simp only
      by_cases h0 : key &&& 0x07 = 0
      · rw [if_pos h0, if_pos h0]
        cases varint payload p with
        | none => rfl
        | some read => rfl
      · rw [if_neg h0, if_neg h0]
        by_cases h2 : key &&& 0x07 = 2
        · rw [if_pos h2, if_pos h2]
          cases varint payload p with
          | none => rfl
          | some read =>
            simp only
            by_cases hlong : payload.length < read.2 + read.1
            · rw [if_pos hlong, if_pos hlong]
              rfl
            · rw [if_neg hlong, if_neg hlong]
              rfl
        · rw [if_neg h2, if_neg h2]
          by_cases h1 : key &&& 0x07 = 1
          · rw [if_pos h1, if_pos h1]
            rfl
          · rw [if_neg h1, if_neg h1]
            by_cases h5 : key &&& 0x07 = 5
            · rw [if_pos h5, if_pos h5]
              rfl
            · rw [if_neg h5, if_neg h5]
              rfl

/-! ## One turn against the grammar -/

/-- Appending a digit above those there are. -/
theorem value_more (value n b : Nat) (shift : Nat) (hb : 128 ≤ b) (hb' : b < 256) :
    value + b % 128 * 2 ^ shift + n * 2 ^ (shift + 7) = value + (b - 128 + 128 * n) * 2 ^ shift := by
  have hdigit : b % 128 = b - 128 := by omega
  have hpow : 2 ^ (shift + 7) = 128 * 2 ^ shift := by rw [Nat.pow_add, Nat.mul_comm]
  rw [hdigit, hpow, Nat.add_mul, ← Nat.mul_assoc, Nat.mul_comm n 128, Nat.add_assoc]

/-- The accumulated value stays below the next shift. -/
theorem value_lt (value b : Nat) {shift : Nat} (h : value < 2 ^ shift) :
    value + b % 128 * 2 ^ shift < 2 ^ (shift + 7) := by
  have hdigit : b % 128 * 2 ^ shift ≤ 127 * 2 ^ shift := Nat.mul_le_mul_right _ (by omega)
  have hpow : 2 ^ (shift + 7) = 128 * 2 ^ shift := by rw [Nat.pow_add, Nat.mul_comm]
  omega

theorem byte_lt (b : UInt8) : b.toNat < 256 := UInt8.toNat_lt b

/-- The byte at a position inside the payload. -/
theorem drop_cons {payload : Bytes} {pos : Nat} (h : pos < payload.length) :
    payload.drop pos = payload.getD pos 0 :: payload.drop (pos + 1) := by
  rw [List.drop_eq_getElem_cons h, List.getD_eq_getElem?_getD, List.getElem?_eq_getElem h,
    Option.getD_some]

/-- What a run of the loop accepts are the digits of a varint. -/
theorem VarintRun.sound {payload : Bytes} {pos value shift : Nat} {r : Option (Nat × Nat)}
    (h : VarintRun payload pos value shift r) {v pos' : Nat} (hr : r = some (v, pos'))
    (hvalue : value < 2 ^ shift) :
    ∃ bs n, VarintDigits bs n ∧ shift + 7 * bs.length ≤ 70 ∧
      payload.drop pos = bs ++ payload.drop pos' ∧ pos' = pos + bs.length ∧
      v = value + n * 2 ^ shift := by
  induction h with
  | truncated _ => cases hr
  | @last pos value shift hgo hlast =>
    cases hr
    have hbyte := byte_lt (payload.getD pos 0)
    rw [and_0x80 hbyte] at hlast
    have hlow : (payload.getD pos 0).toNat < 128 := by omega
    refine ⟨[payload.getD pos 0], _, .last _ hlow, ?_, ?_, rfl, ?_⟩
    · rw [List.length_singleton]
      omega
    · rw [List.singleton_append]
      exact drop_cons (by omega)
    · rw [and_0x7F, or_shiftLeft hvalue, Nat.mod_eq_of_lt hlow]
  | @more pos value shift r hgo hmore _ ih =>
    have hbyte := byte_lt (payload.getD pos 0)
    rw [and_0x80 hbyte] at hmore
    have hhigh : 128 ≤ (payload.getD pos 0).toNat := by omega
    rw [and_0x7F, or_shiftLeft hvalue] at ih
    obtain ⟨bs, n, hdigits, hlength, hdrop, hpos, hv⟩ := ih hr (value_lt value _ hvalue)
    refine ⟨payload.getD pos 0 :: bs, _, .more _ bs n hhigh hdigits, ?_, ?_, ?_, ?_⟩
    · rw [List.length_cons]
      omega
    · rw [drop_cons (by omega), hdrop, List.cons_append]
    · rw [hpos, List.length_cons]
      omega
    · rw [hv, value_more _ _ _ _ hhigh hbyte]

/-- Where the digits of a varint stand, the loop runs through them. -/
theorem varintRun_of_digits {payload bs rest : Bytes} {n : Nat} (h : VarintDigits bs n)
    {pos value shift : Nat} (hdrop : payload.drop pos = bs ++ rest) (hvalue : value < 2 ^ shift)
    (hlength : shift + 7 * bs.length ≤ 70) :
    VarintRun payload pos value shift (some (value + n * 2 ^ shift, pos + bs.length)) := by
  induction h generalizing pos value shift with
  | last b hb =>
    have hpos := lt_length_of_drop hdrop
    have hget := getD_of_drop hdrop
    rw [List.length_singleton] at hlength
    have hrun : VarintRun payload pos value shift
        (some (value ||| (((payload.getD pos 0).toNat &&& 0x7F) <<< shift), pos + 1)) := by
      refine .last (by omega) ?_
      rw [hget, and_0x80 (byte_lt b)]
      omega
    rw [hget, and_0x7F, or_shiftLeft hvalue, Nat.mod_eq_of_lt hb] at hrun
    exact hrun
  | more b bs n hb _ ih =>
    have hpos := lt_length_of_drop hdrop
    have hget := getD_of_drop hdrop
    rw [List.length_cons] at hlength
    have hrest : payload.drop (pos + 1) = bs ++ rest := @drop_add_of_drop _ [b] _ _ hdrop
    have htail := ih hrest (value_lt value b.toNat hvalue) (by omega)
    rw [value_more _ _ _ _ hb (byte_lt b)] at htail
    have hrun : VarintRun payload pos value shift
        (some (value + (b.toNat - 128 + 128 * n) * 2 ^ shift, pos + 1 + bs.length)) := by
      refine .more (by omega) ?_ ?_
      · rw [hget, and_0x80 (byte_lt b)]
        omega
      · rw [hget, and_0x7F, or_shiftLeft hvalue]
        exact htail
    rw [List.length_cons, Nat.add_comm bs.length 1, ← Nat.add_assoc]
    exact hrun

/-- A run of the loop has one result. -/
theorem VarintRun.unique {payload : Bytes} {pos value shift : Nat} {r r' : Option (Nat × Nat)}
    (h : VarintRun payload pos value shift r) (h' : VarintRun payload pos value shift r') : r = r' := by
  induction h with
  | truncated hstop =>
    cases h' with
    | truncated _ => rfl
    | last hgo _ => exact absurd hstop hgo
    | more hgo _ _ => exact absurd hstop hgo
  | last hgo hlast =>
    cases h' with
    | truncated hstop => exact absurd hstop hgo
    | last _ _ => rfl
    | more _ hmore _ => exact absurd hlast hmore
  | more hgo hmore _ ih =>
    cases h' with
    | truncated hstop => exact absurd hstop hgo
    | last _ hlast => exact absurd hlast hmore
    | more _ _ htail => exact ih htail

/-- **`varint` reads exactly the varint at its position.** -/
theorem varint_iff {payload : Bytes} {pos key pos' : Nat} :
    varint payload pos = some (key, pos') ↔
      ∃ k, IsVarint k key ∧ payload.drop pos = k ++ payload.drop pos' ∧ pos' = pos + k.length := by
  constructor
  · intro h
    obtain ⟨bs, n, hdigits, hlength, hdrop, hpos, hv⟩ :=
      (varint_run payload pos).sound h (by decide)
    have hkey : key = n := by simpa using hv
    subst hkey
    exact ⟨bs, ⟨hdigits, by omega⟩, hdrop, hpos⟩
  · rintro ⟨k, ⟨hdigits, hlength⟩, hdrop, rfl⟩
    have hrun : VarintRun payload pos 0 0 (some (0 + key * 2 ^ 0, pos + k.length)) :=
      varintRun_of_digits hdigits hdrop (by decide) (by omega)
    rw [(varint_run payload pos).unique hrun]
    simp

/-- A turn at a key. -/
theorem fieldTurn_key {payload k rest : Bytes} {pos key : Nat} (hk : IsVarint k key)
    (hdrop : payload.drop pos = k ++ rest) :
    ¬payload.length ≤ pos ∧ varint payload pos = some (key, pos + k.length) ∧
      payload.drop (pos + k.length) = rest := by
  have hrest := drop_add_of_drop hdrop
  have hlength := add_length_le_of_drop hdrop hk.1.ne_nil
  have hpos := List.length_pos_iff.mpr hk.1.ne_nil
  refine ⟨by omega, varint_iff.mpr ⟨k, hk, ?_, rfl⟩, hrest⟩
  rw [hrest, hdrop]

/-- A turn goes past a length-delimited field, and its number is assigned the bytes. -/
theorem fieldTurn_bytes {payload f bs rest : Bytes} {pos number : Nat} (fields : Dict Nat Bytes)
    (hf : BytesField number f bs) (hdrop : payload.drop pos = f ++ rest) :
    fieldTurn payload pos fields = .next (pos + f.length) (fields.set number bs) := by
  obtain ⟨hk, hwire, hnumber, hl, hlength⟩ := hf
  rename_i k l key n
  rw [List.append_assoc] at hdrop
  obtain ⟨hgo, hvarint, hrest⟩ := fieldTurn_key hk hdrop
  rw [List.append_assoc] at hrest
  obtain ⟨-, hvalue, hbytes⟩ := fieldTurn_key hl hrest
  have hfits : pos + k.length + l.length + n ≤ payload.length := by
    have hlen := congrArg List.length hrest
    have hkey := congrArg List.length hdrop
    simp only [List.length_drop, List.length_append] at hlen hkey
    omega
  have hnumber' : key >>> 3 = number := by rw [Nat.shiftRight_eq_div_pow, ← hnumber]
  rw [fieldTurn, if_neg hgo, hvarint]
  simp only [and_0x07]
  rw [hwire, if_neg (by decide), if_pos rfl, hvalue]
  simp only
  rw [if_neg (by omega), hbytes, hnumber', ← hlength, List.take_left, List.length_append,
    List.length_append, ← Nat.add_assoc, ← Nat.add_assoc]

/-- A turn goes past a complete field; a number the field is not one of keeps what it has. -/
theorem fieldTurn_complete {payload f rest : Bytes} {pos : Nat} (fields : Dict Nat Bytes)
    (hf : CompleteField f) (hdrop : payload.drop pos = f ++ rest) :
    ∃ fields', fieldTurn payload pos fields = .next (pos + f.length) fields' ∧
      ∀ number, (∀ bs, ¬BytesField number f bs) → fields'.get? number = fields.get? number := by
  obtain ⟨hk, hbody⟩ := hf
  rename_i k body key
  generalize hw : key % 8 = wireType at hbody
  cases hbody with
  | @lengthDelimited l bs n hl hlength =>
    have hbytes : BytesField (key / 8) (k ++ (l ++ bs)) bs := .mk hk hw rfl hl hlength
    refine ⟨_, fieldTurn_bytes fields hbytes hdrop, fun number hother => ?_⟩
    rw [Dict.get?_set, if_neg]
    rintro rfl
    exact hother bs hbytes
  | varint hv =>
    rw [List.append_assoc] at hdrop
    obtain ⟨hgo, hvarint, hrest⟩ := fieldTurn_key hk hdrop
    obtain ⟨-, hvalue, -⟩ := fieldTurn_key hv hrest
    refine ⟨fields, ?_, fun _ _ => rfl⟩
    rw [fieldTurn, if_neg hgo, hvarint, List.length_append, ← Nat.add_assoc]
    simp only [and_0x07]
    rw [hw, if_pos rfl, hvalue]
  | fixed hwidth hlength =>
    rw [List.append_assoc] at hdrop
    obtain ⟨hgo, hvarint, hrest⟩ := fieldTurn_key hk hdrop
    refine ⟨fields, ?_, fun _ _ => rfl⟩
    rw [fieldTurn, if_neg hgo, hvarint, List.length_append, ← Nat.add_assoc]
    simp only [and_0x07, hw]
    clear hw
    match wireType, hwidth with
    | 1, hwidth =>
      cases hwidth
      rw [hlength, if_neg (by decide), if_neg (by decide), if_pos rfl]
    | 5, hwidth =>
      cases hwidth
      rw [hlength, if_neg (by decide), if_neg (by decide), if_neg (by decide), if_pos rfl]

/-- Inside a fixed-width value, a turn goes past the end of the payload. -/
theorem fieldTurn_cut {payload k rest : Bytes} {pos key width : Nat} (fields : Dict Nat Bytes)
    (hk : IsVarint k key) (hwidth : fixedWidth (key % 8) = some width) (hshort : rest.length < width)
    (hdrop : payload.drop pos = k ++ rest) :
    fieldTurn payload pos fields = .next (pos + k.length + width) fields ∧
      payload.length ≤ pos + k.length + width := by
  obtain ⟨hgo, hvarint, hrest⟩ := fieldTurn_key hk hdrop
  have hlength : payload.length ≤ pos + k.length + width := by
    have hlen := congrArg List.length hrest
    rw [List.length_drop] at hlen
    omega
  refine ⟨?_, hlength⟩
  rw [fieldTurn, if_neg hgo, hvarint]
  simp only [and_0x07]
  generalize key % 8 = wireType at hwidth
  match wireType, hwidth with
  | 1, hwidth =>
    cases hwidth
    rw [if_neg (by decide), if_neg (by decide), if_pos rfl]
  | 5, hwidth =>
    cases hwidth
    rw [if_neg (by decide), if_neg (by decide), if_neg (by decide), if_pos rfl]

/-- Reading a fixed-width value: it is there, or the payload ends inside it. -/
theorem fixed_or_cut {payload k : Bytes} {pos p key width : Nat} (hk : IsVarint k key)
    (hwidth : fixedWidth (key % 8) = some width) (hdrop : payload.drop pos = k ++ payload.drop p) :
    (∃ f, CompleteField f ∧ payload.drop pos = f ++ payload.drop (p + width)) ∨
      CutInFixed (payload.drop pos) ∧ payload.length ≤ p + width := by
  rcases Nat.lt_or_ge (payload.drop p).length width with hshort | hfits
  · rw [hdrop]
    refine Or.inr ⟨.here hk hwidth hshort, ?_⟩
    rw [List.length_drop] at hshort
    omega
  · have hbody : FieldBody (key % 8) ((payload.drop p).take width) :=
      .fixed hwidth (List.length_take_of_le hfits)
    refine Or.inl ⟨k ++ (payload.drop p).take width, .mk hk hbody, ?_⟩
    rw [hdrop, List.append_assoc, ← List.drop_drop, List.take_append_drop]

/-- **A turn that goes on** has gone past a complete field, or past the end of the payload inside a
    fixed-width value. -/
theorem fieldTurn_next {payload : Bytes} {pos pos' : Nat} {fields fields' : Dict Nat Bytes}
    (h : fieldTurn payload pos fields = .next pos' fields') :
    (∃ f, CompleteField f ∧ payload.drop pos = f ++ payload.drop pos') ∨
      CutInFixed (payload.drop pos) ∧ payload.length ≤ pos' := by
  rw [fieldTurn] at h
  split at h
  · cases h
  · split at h
    · cases h
    · rename_i key p hkey
      obtain ⟨k, hk, hdrop, -⟩ := varint_iff.mp hkey
      rw [and_0x07] at h
      -- the wire types in the order of the source: varint, bytes, 64 and 32 bits
      split at h
      · rename_i hw
        split at h
        · cases h
        · rename_i value q hvalue
          cases h
          obtain ⟨v, hv, hrest, -⟩ := varint_iff.mp hvalue
          have hbody : FieldBody (key % 8) v := by
            rw [hw]
            exact .varint hv
          refine Or.inl ⟨k ++ v, .mk hk hbody, ?_⟩
          rw [hdrop, hrest, List.append_assoc]
      · split at h
        · rename_i hw
          split at h
          · cases h
          · rename_i length q hlength
            obtain ⟨l, hl, hrest, -⟩ := varint_iff.mp hlength
            split at h
            · cases h
            · rename_i hfits
              cases h
              have hlen : ((payload.drop q).take length).length = length := by
                rw [List.length_take, List.length_drop]
                omega
              have hbody : FieldBody (key % 8) (l ++ (payload.drop q).take length) := by
                rw [hw]
                exact .lengthDelimited hl hlen
              refine Or.inl ⟨_, .mk hk hbody, ?_⟩
              rw [hdrop, hrest, List.append_assoc, List.append_assoc, ← List.drop_drop,
                List.take_append_drop]
        · split at h
          · rename_i hw
            cases h
            exact fixed_or_cut hk (by rw [hw]; rfl) hdrop
          · split at h
            · rename_i hw
              cases h
              exact fixed_or_cut hk (by rw [hw]; rfl) hdrop
            · cases h

/-- A turn that stops with a map stands at the end. -/
theorem fieldTurn_stop {payload : Bytes} {pos : Nat} {fields d : Dict Nat Bytes}
    (h : fieldTurn payload pos fields = .stop (some d)) : payload.length ≤ pos := by
  rw [fieldTurn] at h
  split at h
  · assumption
  · split at h
    · cases h
    · split at h
      · split at h <;> cases h
      · split at h
        · split at h
          · cases h
          · split at h <;> cases h
        · split at h
          · cases h
          · split at h <;> cases h

/-! ## Acceptance -/

/-- A turn that goes on leaves less to read. -/
theorem fieldTurn_lt {payload : Bytes} {pos pos' : Nat} {fields fields' : Dict Nat Bytes}
    (h : fieldTurn payload pos fields = .next pos' fields') :
    payload.length - pos' < payload.length - pos := by
  rcases fieldTurn_next h with ⟨f, hf, hdrop⟩ | ⟨hcut, hend⟩
  · have hlen := congrArg List.length hdrop
    have hpos := List.length_pos_iff.mpr hf.ne_nil
    rw [List.length_append, List.length_drop, List.length_drop] at hlen
    omega
  · have hsome : payload.drop pos ≠ [] := fun hnil => by
      rw [hnil] at hcut
      exact hcut.not_complete .nil
    have hpos := List.length_pos_iff.mpr hsome
    rw [List.length_drop] at hpos
    omega

/-- The loop over the fields stops, in the turns it is given. -/
theorem fieldsLoop_run (payload : Bytes) (turns pos : Nat) (fields : Dict Nat Bytes)
    (h : payload.length - pos < turns) :
    FieldsRun payload pos fields (fieldsLoop payload turns pos fields) := by
  induction turns generalizing pos fields with
  | zero => exact absurd h (Nat.not_lt_zero _)
  | succ turns ih =>
    rw [fieldsLoop_succ]
    cases hturn : fieldTurn payload pos fields with
    | stop r => exact .stop hturn
    | next pos' fields' =>
      have hless := fieldTurn_lt hturn
      exact .next hturn (ih pos' fields' (by omega))

/-- **The source's loop terminates** on every payload, with what `protobufFields` says. -/
theorem protobufFields_run (payload : Bytes) :
    FieldsRun payload 0 .empty (protobufFields payload) :=
  fieldsLoop_run payload (payload.length + 1) 0 .empty (by omega)

theorem FieldsRun.unique {payload : Bytes} {pos : Nat} {fields : Dict Nat Bytes}
    {r r' : Option (Dict Nat Bytes)} (h : FieldsRun payload pos fields r)
    (h' : FieldsRun payload pos fields r') : r = r' := by
  induction h with
  | stop hstop =>
    cases h' with
    | stop hstop' =>
      rw [hstop] at hstop'
      cases hstop'
      rfl
    | next hnext _ =>
      rw [hstop] at hnext
      cases hnext
  | next hnext _ ih =>
    cases h' with
    | stop hstop =>
      rw [hnext] at hstop
      cases hstop
    | next hnext' hrun =>
      rw [hnext] at hnext'
      cases hnext'
      exact ih hrun

/-- What a run accepts. -/
theorem FieldsRun.accepted {payload : Bytes} {pos : Nat} {fields d : Dict Nat Bytes}
    {r : Option (Dict Nat Bytes)} (h : FieldsRun payload pos fields r) (hr : r = some d) :
    Complete (payload.drop pos) ∨ CutInFixed (payload.drop pos) := by
  induction h with
  | stop hstop =>
    rw [hr] at hstop
    rw [List.drop_eq_nil_of_le (fieldTurn_stop hstop)]
    exact Or.inl .nil
  | next hnext _ ih =>
    rcases fieldTurn_next hnext with ⟨f, hf, hdrop⟩ | ⟨hcut, -⟩
    · rw [hdrop]
      exact (ih hr).imp (.cons hf) (.later hf)
    · exact Or.inr hcut

/-- At the end of the payload the loop stops. -/
theorem fieldsRun_end {payload : Bytes} {pos : Nat} (fields : Dict Nat Bytes)
    (h : payload.length ≤ pos) : FieldsRun payload pos fields (some fields) :=
  .stop (by rw [fieldTurn, if_pos h])

/-- A complete message is accepted. -/
theorem accepts_complete {payload bs : Bytes} (h : Complete bs) {pos : Nat} (fields : Dict Nat Bytes)
    (hdrop : payload.drop pos = bs) : ∃ d, FieldsRun payload pos fields (some d) := by
  induction h generalizing pos fields with
  | nil => exact ⟨fields, fieldsRun_end fields (List.drop_eq_nil_iff.mp hdrop)⟩
  | cons hf _ ih =>
    obtain ⟨fields', hturn, -⟩ := fieldTurn_complete fields hf hdrop
    obtain ⟨d, hrun⟩ := ih fields' (drop_add_of_drop hdrop)
    exact ⟨d, .next hturn hrun⟩

/-- So is one cut inside a fixed-width value. -/
theorem accepts_cut {payload bs : Bytes} (h : CutInFixed bs) {pos : Nat} (fields : Dict Nat Bytes)
    (hdrop : payload.drop pos = bs) : ∃ d, FieldsRun payload pos fields (some d) := by
  induction h generalizing pos fields with
  | here hk hwidth hshort =>
    obtain ⟨hturn, hend⟩ := fieldTurn_cut fields hk hwidth hshort hdrop
    exact ⟨fields, .next hturn (fieldsRun_end fields hend)⟩
  | later hf _ ih =>
    obtain ⟨fields', hturn, -⟩ := fieldTurn_complete fields hf hdrop
    obtain ⟨d, hrun⟩ := ih fields' (drop_add_of_drop hdrop)
    exact ⟨d, .next hturn hrun⟩

/-- **`_protobuf_fields` accepts** the complete messages and those cut inside a fixed-width value. -/
theorem protobufFields_iff (payload : Bytes) :
    (protobufFields payload).isSome = true ↔ Complete payload ∨ CutInFixed payload := by
  rw [Option.isSome_iff_exists]
  constructor
  · rintro ⟨d, hd⟩
    exact (protobufFields_run payload).accepted hd
  · intro h
    have haccepts : ∃ d, FieldsRun payload 0 .empty (some d) :=
      h.elim (fun h => accepts_complete h .empty rfl) fun h => accepts_cut h .empty rfl
    obtain ⟨d, hrun⟩ := haccepts
    exact ⟨d, (protobufFields_run payload).unique hrun⟩

/-- A handle is read out of a payload that was accepted. -/
theorem accepted_of_updatedPreparedHandle {payload : Bytes}
    (h : updatedPreparedHandle payload ≠ none) : (protobufFields payload).isSome = true := by
  rw [updatedPreparedHandle] at h
  split at h
  · exact absurd rfl h
  · cases hfields : protobufFields payload with
    | none =>
      rw [hfields] at h
      exact absurd rfl h
    | some fields => rfl

/-! ## The message inside an `Any` -/

/-- A complete message is scanned to what its last fields carry. -/
theorem accepts_lastBytes {payload bs : Bytes} {number : Nat} {r : Option Bytes}
    (h : LastBytes number bs r) {pos : Nat} (fields : Dict Nat Bytes) (hdrop : payload.drop pos = bs) :
    ∃ d, FieldsRun payload pos fields (some d) ∧ d.get? number = r.or (fields.get? number) := by
  induction h generalizing pos fields with
  | nil => exact ⟨fields, fieldsRun_end fields (List.drop_eq_nil_iff.mp hdrop), rfl⟩
  | @field f rest bs later hbytes _ ih =>
    obtain ⟨d, hrun, hd⟩ := ih (fields.set number bs) (drop_add_of_drop hdrop)
    refine ⟨d, .next (fieldTurn_bytes fields hbytes hdrop) hrun, ?_⟩
    rw [hd, Dict.get?_set_self]
    cases later <;> rfl
  | other hf hother _ ih =>
    obtain ⟨fields', hturn, hkept⟩ := fieldTurn_complete fields hf hdrop
    obtain ⟨d, hrun, hd⟩ := ih fields' (drop_add_of_drop hdrop)
    exact ⟨d, .next hturn hrun, by rw [hd, hkept _ hother]⟩

/-- **What `_protobuf_fields` returns**, number by number. -/
theorem protobufFields_get? {payload : Bytes} {number : Nat} {r : Option Bytes}
    (h : LastBytes number payload r) {d : Dict Nat Bytes} (hd : protobufFields payload = some d) :
    d.get? number = r := by
  have hwhole : payload.drop 0 = payload := rfl
  obtain ⟨d', hrun, hget⟩ := accepts_lastBytes h .empty hwhole
  have hsame := (protobufFields_run payload).unique hrun
  rw [hd] at hsame
  cases hsame
  have hempty : Dict.empty.get? number = (none : Option Bytes) := rfl
  rw [hget, hempty, Option.or_none]

/-- **An `Any` of a DoPut result**: field 1 is the type URL, and field 2 the message it wraps. -/
def Wraps (payload message : Bytes) : Prop :=
  LastBytes 1 payload (some doPutPreparedResultUrl) ∧ LastBytes 2 payload (some message)

/-- **It is one exactly if the code looks through it**: the scan has the URL under 1 and the message
    under 2. -/
theorem wraps_iff {payload message : Bytes} (hcomplete : Complete payload) {d : Dict Nat Bytes}
    (hd : protobufFields payload = some d) :
    Wraps payload message ↔ d.get? 1 = some doPutPreparedResultUrl ∧ d.get? 2 = some message := by
  obtain ⟨url, hurl⟩ := hcomplete.lastBytes 1
  obtain ⟨value, hvalue⟩ := hcomplete.lastBytes 2
  constructor
  · intro hwraps
    exact ⟨protobufFields_get? hwraps.1 hd, protobufFields_get? hwraps.2 hd⟩
  · rintro ⟨hget₁, hget₂⟩
    rw [protobufFields_get? hurl hd] at hget₁
    rw [protobufFields_get? hvalue hd] at hget₂
    subst hget₁
    subst hget₂
    exact ⟨hurl, hvalue⟩

/-- A handle of an `Any` is read out of a message that was accepted too. -/
theorem accepted_of_wraps {payload message : Bytes} (hwraps : Wraps payload message)
    (h : updatedPreparedHandle payload ≠ none) : (protobufFields message).isSome = true := by
  obtain ⟨d, hd⟩ := Option.isSome_iff_exists.mp (accepted_of_updatedPreparedHandle h)
  obtain ⟨hurl, hvalue⟩ := (wraps_iff hwraps.1.complete hd).mp hwraps
  have hcontains : d.contains 2 = true := by rw [Dict.contains, hvalue]; rfl
  rw [updatedPreparedHandle] at h
  split at h
  · exact absurd rfl h
  · rw [hd] at h
    cases htruthy : truthyFields (some d) with
    | none =>
      rw [htruthy] at h
      exact absurd rfl h
    | some fields =>
      have hfields : fields = d := by
        simp only [truthyFields] at htruthy
        split at htruthy
        · cases htruthy
        · exact (Option.some.inj htruthy).symm
      subst hfields
      rw [htruthy] at h
      simp only [hurl, hcontains, hvalue, and_self, if_true, Option.getD_some] at h
      cases hmessage : protobufFields message with
      | none =>
        rw [hmessage] at h
        exact absurd rfl h
      | some _ => rfl

/-- **What a DoPut payload asks the driver to parse**: itself, and the message an `Any` wraps. -/
inductive Parsed (payload : Bytes) : Bytes → Prop where
  | payload : Parsed payload payload
  | wrapped {message : Bytes} : Wraps payload message → Parsed payload message

/-- **Malformed DoPut metadata is rejected**: of the payload and of the message it wraps, the scan ends
    and accepts nothing but complete messages, and no handle is read unless both are complete. -/
structure RejectsMalformed (payload : Bytes) : Prop where
  terminates : ∀ message, Parsed payload message → FieldsRun message 0 .empty (protobufFields message)
  accepts : ∀ message, Parsed payload message →
    ((protobufFields message).isSome = true ↔ Complete message)
  handle : updatedPreparedHandle payload ≠ none → ∀ message, Parsed payload message → Complete message

/-- It is exactly when neither the payload nor the message it wraps ends inside a fixed-width value. -/
theorem rejectsMalformed_iff (payload : Bytes) :
    RejectsMalformed payload ↔ ∀ message, Parsed payload message → ¬CutInFixed message := by
  constructor
  · intro h message hparsed hcut
    exact hcut.not_complete
      ((h.accepts message hparsed).mp ((protobufFields_iff message).mpr (Or.inr hcut)))
  · intro hcut
    have haccepts : ∀ message, Parsed payload message →
        ((protobufFields message).isSome = true ↔ Complete message) := by
      intro message hparsed
      rw [protobufFields_iff]
      exact or_iff_left (hcut message hparsed)
    refine ⟨fun message _ => protobufFields_run message, haccepts, fun hhandle message hparsed => ?_⟩
    refine (haccepts message hparsed).mp ?_
    cases hparsed with
    | payload => exact accepted_of_updatedPreparedHandle hhandle
    | wrapped hwraps => exact accepted_of_wraps hwraps hhandle

/-- A handle, then the key of an eight-byte value and one byte of it. -/
def cutPayload : Bytes := [0x0A, 1, 0x68, 0x11, 0]

theorem rejectsMalformed_cutPayload :
    updatedPreparedHandle cutPayload = some [0x68] ∧ ¬Complete cutPayload ∧
      ¬RejectsMalformed cutPayload := by
  have hhandle : CompleteField [0x0A, 1, 0x68] := by
    have hlength : FieldBody (10 % 8) [1, 0x68] :=
      .lengthDelimited (l := [1]) ⟨.last 1 (by decide), by decide⟩ rfl
    exact .mk (k := [0x0A]) ⟨.last 0x0A (by decide), by decide⟩ hlength
  have hcut : CutInFixed [0x11, 0] :=
    .here (k := [0x11]) ⟨.last 0x11 (by decide), by decide⟩ rfl (by decide)
  have hpayload : CutInFixed cutPayload := .later hhandle hcut
  exact ⟨by decide, hpayload.not_complete, fun h => hpayload.not_complete (h.handle (by decide) _ .payload)⟩

/-- The same message inside an `Any` whose own fields are complete. -/
example : updatedPreparedHandle (encodeAny doPutPreparedResultUrl cutPayload) = some [0x68] := by
  decide +kernel

end FlightSql.PreparedHandle
