/-
  Python values bound as SQL literals — what the interpreter prints, and what a text denotes.

  1. **Values** (`BoundValue`) with the texts the interpreter gives them (`Python.str`).

  2. **Denotation** (`LiteralOf`) — a text is exactly one literal, read to its end, of a value.  So
     nothing in the value can end the literal early.

  3. **Which texts are literals of what** — quoted strings of a string alone, the literals with a
     keyword of the date, time, timestamp or bytes they were written from, and `str(value)` of finite
     numbers and truth values alone (`literalOf_str_iff`).
-/
import Mathlib.Data.Rat.Defs
import Mathlib.Algebra.Order.Ring.Rat
import FlightSql.Exceptions
import FlightSql.Lib.IsoTime
import FlightSql.Lib.SqlLiteral

set_option linter.unusedVariables false

namespace FlightSql

open Lib Lib.Digits Lib.SqlLiteral

/-! ## Values -/

/-- `bytes`, `bytearray` and `memoryview`. -/
inductive BytesClass where
  | bytes | bytearray | memoryview
  deriving DecidableEq

/-- A `decimal.Decimal`. -/
inductive DecimalValue where
  | finite (n : Numeral)
  | infinite (negative : Bool)
  | nan (negative signaling : Bool) (payload : Nat)
  deriving DecidableEq

/-- A `datetime.time`; one with a `tzinfo` may still have no offset. -/
structure TimeValue where
  time : IsoTime.Time
  tzinfo : Bool
  zoned : time.offset ≠ none → tzinfo = true
  deriving DecidableEq

/-- **A Python value** bound to a parameter. -/
inductive BoundValue where
  | none
  | bool (b : Bool)
  | int (n : Int)
  | float (bits : UInt64)
  | decimal (d : DecimalValue)
  | str (s : String)
  | bytesLike (cls : BytesClass) (bytes : List UInt8)
  | date (d : IsoTime.Date)
  | datetime (t : IsoTime.Timestamp)
  | time (t : TimeValue)
  | object (cls : String) (identity : Nat)
  deriving DecidableEq

/-- `math.isfinite`. -/
def isFinite (bits : UInt64) : Bool := bits &&& 0x7FF0000000000000 ≠ 0x7FF0000000000000

/-- A finite number, or a truth value. -/
def BoundValue.isFiniteNumber : BoundValue → Bool
  | .bool _ => true
  | .int _ => true
  | .float bits => isFinite bits
  | .decimal (.finite _) => true
  | _ => false

/-- A number or a truth value. -/
def BoundValue.isNumber : BoundValue → Bool
  | .bool _ | .int _ | .float _ | .decimal _ => true
  | _ => false

/-- A number that is not finite. -/
def BoundValue.nonFinite : BoundValue → Bool
  | .float bits => !isFinite bits
  | .decimal (.finite _) => false
  | .decimal _ => true
  | _ => false

/-- An integer in digits. -/
def intText (n : Int) : List Char := numeralText (n < 0) (natText n.natAbs) [] none

/-- The digits of a `Decimal` before the point, and those after it. -/
def decimalParts (digits : List Char) (dotplace : Int) : List Char × List Char :=
  if dotplace ≤ 0 then (['0'], List.replicate (-dotplace).toNat '0' ++ digits)
  else if digits.length ≤ dotplace then
    (digits ++ List.replicate (dotplace - digits.length).toNat '0', [])
  else (digits.take dotplace.toNat, digits.drop dotplace.toNat)

/-- Where `Decimal.__str__` puts the point. -/
def decimalPoint (exponent leftdigits : Int) : Int :=
  if exponent ≤ 0 ∧ -6 < leftdigits then leftdigits else 1

/-- `str(value)` of a finite `Decimal`. -/
def decimalText (n : Numeral) : List Char :=
  let digits := natText n.mantissa
  let leftdigits : Int := n.exponent + digits.length
  let dotplace := decimalPoint n.exponent leftdigits
  let parts := decimalParts digits dotplace
  numeralText n.negative parts.1 parts.2 (if leftdigits = dotplace then none else some (leftdigits - dotplace))

/-- The sign of a `Decimal` that is no number. -/
def signText (negative : Bool) : String := if negative then "-" else ""

/-- `str(value)` of a `Decimal`. -/
def DecimalValue.text : DecimalValue → String
  | .finite n => String.ofList (decimalText n)
  | .infinite negative => signText negative ++ "Infinity"
  | .nan negative signaling payload =>
    signText negative ++ (if signaling then "sNaN" else "NaN") ++ (if payload = 0 then "" else toString payload)

/-- **What the interpreter does** with numbers and texts: `repr` of a float, which reads back as that
    float; `int(value)`; and `str(value)` of bytes and of other objects. -/
structure Python where
  floatText : UInt64 → String
  nearest : Numeral → UInt64
  floatText_reads : ∀ bits, isFinite bits = true →
    ∃ n, Numeral.read (floatText bits).toList = some n ∧ nearest n = bits
  int : BoundValue → Except Exn Int
  bytesText : BytesClass → List UInt8 → String
  bytesText_head : ∀ cls bytes, ∃ c ∈ (bytesText cls bytes).toList.head?, c = 'b' ∨ c = '<'
  objectText : String → Nat → String

/-- `str(value)`. -/
def Python.str (py : Python) : BoundValue → String
  | .none => "None"
  | .bool b => if b then "True" else "False"
  | .int n => String.ofList (intText n)
  | .float bits => py.floatText bits
  | .decimal d => d.text
  | .str s => s
  | .bytesLike cls bytes => py.bytesText cls bytes
  | .date d => String.ofList d.text
  | .datetime t => String.ofList (t.text ' ')
  | .time t => String.ofList t.time.text
  | .object cls identity => py.objectText cls identity

/-- A quoted string. -/
def quotedText (s : List Char) : String := String.ofList (Kind.string.literal s)

/-- `true` and `false`. -/
def boolText (b : Bool) : String := if b then "true" else "false"

/-! ## What a text denotes -/

/-- The number a numeral stands for. -/
def numeralValue (n : Numeral) : Rat :=
  (if n.negative then -(n.mantissa : Rat) else n.mantissa) * (10 : Rat) ^ n.exponent

section Denotation

variable (py : Python)

/-- **A literal is of a value.** -/
def IsLiteralOf (value : BoundValue) : Literal → Prop
  | .null => value = .none
  | .boolean b => value = .bool b
  | .number n =>
    (∃ m : Int, value = .int m ∧ numeralValue n = m) ∨
      (∃ d, value = .decimal (.finite d) ∧ numeralValue n = numeralValue d) ∨
      ∃ bits, value = .float bits ∧ isFinite bits = true ∧ py.nearest n = bits
  | .quoted .string s => value = .str (String.ofList s)
  | .quoted .binary s => ∃ cls bytes, value = .bytesLike cls bytes ∧ readHex s = some bytes
  | .quoted .date s => ∃ d, value = .date d ∧ IsoTime.Date.read s = some (d, [])
  | .quoted .time s => ∃ t, value = .time t ∧ IsoTime.Time.read s = some t.time
  | .quoted .timestamp s => ∃ t, value = .datetime t ∧ IsoTime.Timestamp.read ' ' s = some t

/-- **The text is exactly one literal, of that value.** -/
def LiteralOf (text : String) (value : BoundValue) : Prop :=
  ∃ literal, Literal.read text.toList = some literal ∧ IsLiteralOf py value literal

end Denotation

/-! ## Texts that are literals -/

section Literals

variable {py : Python}

theorem toList_quoted (kind : Kind) (opening : String) (s : List Char)
    (hopening : opening.toList = kind.keyword ++ [quote]) (hplain : quote ∉ s) :
    Literal.read (opening ++ String.ofList s ++ "'").toList = some (.quoted kind s) := by
  have htext : (opening ++ String.ofList s ++ "'").toList = kind.literal s := by
    rw [String.toList_append, String.toList_append, String.toList_ofList, hopening, Kind.literal,
      doubled_of_plain hplain]
    simp only [List.append_assoc, List.singleton_append]
    rfl
  rw [htext, read_literal]

theorem read_quotedText (s : List Char) :
    Literal.read (quotedText s).toList = some (.quoted .string s) := by
  rw [quotedText, String.toList_ofList, read_literal]

/-- A quoted string is a literal of a string only. -/
theorem literalOf_quotedText {s : List Char} {value : BoundValue} :
    LiteralOf py (quotedText s) value ↔ value = .str (String.ofList s) := by
  constructor
  · rintro ⟨literal, hread, hliteral⟩
    rw [read_quotedText] at hread
    cases hread
    exact hliteral
  · intro h
    exact ⟨_, read_quotedText s, h⟩

theorem read_intText (n : Int) :
    Numeral.read (intText n) = some ⟨decide (n < 0), n.natAbs, 0⟩ := by
  have hvalue : value (natText n.natAbs ++ []) = some n.natAbs := by
    rw [List.append_nil, value_natText]
  exact read_numeralText (natText_ne_nil _) hvalue

theorem literalOf_intText (n : Int) : LiteralOf py (String.ofList (intText n)) (.int n) := by
  refine ⟨.number ⟨decide (n < 0), n.natAbs, 0⟩, ?_, Or.inl ⟨n, rfl, ?_⟩⟩
  · rw [String.toList_ofList]
    exact read_number (read_intText n)
  · rw [numeralValue, zpow_zero, mul_one]
    by_cases hneg : n < 0
    · rw [if_pos (decide_eq_true hneg)]
      have hn : (n.natAbs : Int) = -n := by omega
      have hcast : (n.natAbs : Rat) = ((n.natAbs : Int) : Rat) := rfl
      rw [hcast, hn]
      simp
    · rw [if_neg (by simpa using hneg)]
      have hn : (n.natAbs : Int) = n := by omega
      have hcast : (n.natAbs : Rat) = ((n.natAbs : Int) : Rat) := rfl
      rw [hcast, hn]

theorem read_boolText (b : Bool) : Literal.read (boolText b).toList = some (.boolean b) := by
  cases b with
  | false => rfl
  | true => rfl

theorem literalOf_boolText {b : Bool} {value : BoundValue} :
    LiteralOf py (boolText b) value ↔ value = .bool b := by
  constructor
  · rintro ⟨literal, hread, hliteral⟩
    rw [read_boolText] at hread
    cases hread
    exact hliteral
  · intro h
    exact ⟨_, read_boolText b, h⟩

end Literals

/-! ## Decimals -/

/-- Zeros before a number do not count. -/
theorem value_zeros (k : Nat) (digits : List Char) :
    value (List.replicate k '0' ++ digits) = value digits := by
  induction k with
  | zero => rfl
  | succ k ih =>
    rw [List.replicate_succ, List.cons_append, value, valueFrom]
    exact ih

/-- **The parts of a decimal** are its digits, as many after the point as the point is before their end. -/
theorem decimalParts_spec {digits : List Char} {m : Nat} {dotplace : Int} (hne : digits ≠ [])
    (hvalue : value digits = some m) (hdot : (digits.length : Int) ≤ dotplace → dotplace = digits.length) :
    (decimalParts digits dotplace).1 ≠ [] ∧
      value ((decimalParts digits dotplace).1 ++ (decimalParts digits dotplace).2) = some m ∧
      ((decimalParts digits dotplace).2.length : Int) = digits.length - dotplace := by
  have hpos : 0 < digits.length := List.length_pos_iff.mpr hne
  rw [decimalParts]
  by_cases hleft : dotplace ≤ 0
  · -- no digit is left of the point
    rw [if_pos hleft]
    refine ⟨List.cons_ne_nil _ _, ?_, ?_⟩
    · rw [List.singleton_append, ← List.cons_append, ← List.replicate_succ, value_zeros]
      exact hvalue
    · rw [List.length_append, List.length_replicate]
      omega
  · rw [if_neg hleft]
    by_cases hright : (digits.length : Int) ≤ dotplace
    · have hend := hdot hright
      have hzero : (dotplace - digits.length).toNat = 0 := by omega
      rw [if_pos hright, hzero, List.replicate_zero, List.append_nil]
      refine ⟨hne, ?_, ?_⟩
      · rw [List.append_nil]
        exact hvalue
      · rw [List.length_nil]
        omega
    · rw [if_neg hright]
      refine ⟨?_, ?_, ?_⟩
      · intro hnil
        have hlen := congrArg List.length hnil
        rw [List.length_take, List.length_nil] at hlen
        omega
      · rw [List.take_append_drop]
        exact hvalue
      · rw [List.length_drop]
        omega

/-- The point is at the end of the digits or before it. -/
theorem decimalPoint_le (exponent : Int) {length : Nat} (hpos : 0 < length)
    (h : (length : Int) ≤ decimalPoint exponent (exponent + length)) :
    decimalPoint exponent (exponent + length) = length := by
  rw [decimalPoint] at h ⊢
  by_cases hplain : exponent ≤ 0 ∧ -6 < exponent + length
  · rw [if_pos hplain] at h ⊢
    omega
  · rw [if_neg hplain] at h ⊢
    omega

/-- **A finite decimal is read as it is.** -/
theorem read_decimalText (n : Numeral) : Numeral.read (decimalText n) = some n := by
  have hne := natText_ne_nil n.mantissa
  have hpos : 0 < (natText n.mantissa).length := List.length_pos_iff.mpr hne
  obtain ⟨hwhole, hvalue, hlength⟩ := decimalParts_spec hne (value_natText n.mantissa)
    (decimalPoint_le n.exponent hpos)
  have hread : Numeral.read (decimalText n) = some _ := read_numeralText hwhole hvalue
  refine hread.trans ?_
  rw [hlength]
  congr 2
  split
  · rename_i hplain
    rw [Option.getD_none]
    omega
  · rw [Option.getD_some]
    omega

theorem literalOf_decimalText {py : Python} (n : Numeral) :
    LiteralOf py (String.ofList (decimalText n)) (.decimal (.finite n)) := by
  refine ⟨.number n, ?_, Or.inr (Or.inl ⟨n, rfl, rfl⟩)⟩
  rw [String.toList_ofList]
  exact read_number (read_decimalText n)

/-! ## Literals with a keyword -/

section Typed

variable {py : Python}

/-- A literal in quotes has its content's meaning only. -/
theorem literalOf_quoted (kind : Kind) (opening : String) (s : List Char)
    (hopening : opening.toList = kind.keyword ++ [quote]) (hplain : quote ∉ s) (value : BoundValue) :
    LiteralOf py (opening ++ String.ofList s ++ "'") value ↔ IsLiteralOf py value (.quoted kind s) := by
  have hread := toList_quoted kind opening s hopening hplain
  constructor
  · rintro ⟨literal, hliteral, hvalue⟩
    rw [hread] at hliteral
    cases hliteral
    exact hvalue
  · intro hvalue
    exact ⟨_, hread, hvalue⟩

/-- No character of a date or a time is a quote. -/
theorem not_isMark_quote : IsoTime.isMark quote = false := rfl

theorem quote_notMem_of_all {s : List Char} (h : s.all IsoTime.isMark = true) : quote ∉ s := by
  intro hmem
  have hquote := List.all_eq_true.mp h quote hmem
  rw [not_isMark_quote] at hquote
  cases hquote

theorem quote_notMem_timestamp (t : IsoTime.Timestamp) : quote ∉ t.text ' ' := by
  intro hmem
  rcases IsoTime.Timestamp.mem_text hmem with h | h
  · exact absurd h (by decide)
  · rw [not_isMark_quote] at h
    cases h

theorem literalOf_timestamp (t : IsoTime.Timestamp) (value : BoundValue) :
    LiteralOf py ("TIMESTAMP '" ++ String.ofList (t.text ' ') ++ "'") value ↔ value = .datetime t := by
  rw [literalOf_quoted .timestamp "TIMESTAMP '" _ rfl (quote_notMem_timestamp t)]
  constructor
  · rintro ⟨t', rfl, hread⟩
    rw [IsoTime.Timestamp.read_text] at hread
    cases hread
    rfl
  · intro h
    exact ⟨t, h, IsoTime.Timestamp.read_text ' ' t⟩

theorem literalOf_date (d : IsoTime.Date) (value : BoundValue) :
    LiteralOf py ("DATE '" ++ String.ofList d.text ++ "'") value ↔ value = .date d := by
  have hread : IsoTime.Date.read d.text = some (d, []) := by
    have h := IsoTime.Date.read_text d []
    rwa [List.append_nil] at h
  rw [literalOf_quoted .date "DATE '" _ rfl (quote_notMem_of_all d.all_text)]
  constructor
  · rintro ⟨d', rfl, h⟩
    rw [hread] at h
    cases h
    rfl
  · intro h
    exact ⟨d, h, hread⟩

theorem literalOf_time (t : IsoTime.Time) (value : BoundValue) :
    LiteralOf py ("TIME '" ++ String.ofList t.text ++ "'") value ↔ ∃ t', value = .time t' ∧ t'.time = t := by
  rw [literalOf_quoted .time "TIME '" _ rfl (quote_notMem_of_all t.all_text)]
  constructor
  · rintro ⟨t', rfl, hread⟩
    rw [IsoTime.Time.read_text] at hread
    exact ⟨t', rfl, (Option.some.inj hread).symm⟩
  · rintro ⟨t', rfl, rfl⟩
    exact ⟨t', rfl, IsoTime.Time.read_text t'.time⟩

theorem literalOf_binary (bytes : List UInt8) (value : BoundValue) :
    LiteralOf py ("X'" ++ String.ofList (hexText bytes) ++ "'") value ↔
      ∃ cls, value = .bytesLike cls bytes := by
  rw [literalOf_quoted .binary "X'" _ rfl (quote_notMem_hexText bytes)]
  constructor
  · rintro ⟨cls, bytes', rfl, hread⟩
    rw [readHex_hexText] at hread
    exact ⟨cls, congrArg (BoundValue.bytesLike cls) (Option.some.inj hread).symm⟩
  · rintro ⟨cls, rfl⟩
    exact ⟨cls, bytes, rfl, readHex_hexText bytes⟩

end Typed

/-! ## `str(value)` -/

section Str

variable {py : Python}

/-- A text read as a literal with a keyword starts with a capital. -/
theorem keyword_head {text content : List Char} {kind : Kind} (hkind : kind ≠ .string)
    (h : Literal.read text = some (.quoted kind content)) {c : Char} (hc : c ∈ text.head?) :
    c = 'X' ∨ c = 'D' ∨ c = 'T' := by
  obtain ⟨body, htext, -⟩ := read_eq_quoted h
  rw [htext] at hc
  cases kind with
  | string => exact absurd rfl hkind
  | binary => exact Or.inl (Option.some.inj hc).symm
  | date => exact Or.inr (Or.inl (Option.some.inj hc).symm)
  | time => exact Or.inr (Or.inr (Option.some.inj hc).symm)
  | timestamp => exact Or.inr (Or.inr (Option.some.inj hc).symm)

/-- Digits of some width start with one. -/
theorem head_fixed (width n : Nat) (rest : List Char) :
    ∃ c ∈ (fixed (width + 1) n ++ rest).head?, isDigit c = true := by
  cases htext : fixed (width + 1) n with
  | nil =>
    have hlen := length_fixed (width + 1) n
    rw [htext] at hlen
    cases hlen
  | cons c cs =>
    have hdigits := valueFrom_isDigit (valueFrom_fixed 0 (width + 1) n)
    rw [htext] at hdigits
    exact ⟨c, rfl, hdigits c List.mem_cons_self⟩

/-- The values whose literals have a keyword. -/
def BoundValue.hasKeyword : BoundValue → Bool
  | .bytesLike _ _ | .date _ | .datetime _ | .time _ => true
  | _ => false

/-- **What a literal can be of**: `None`, a finite number, a string in plain quotes, or a value with a
    keyword. -/
theorem isLiteralOf_cases {value : BoundValue} {literal : Literal} (h : IsLiteralOf py value literal) :
    value = .none ∨ value.isFiniteNumber = true ∨
      (∃ s, value = .str (String.ofList s) ∧ literal = .quoted .string s) ∨
      value.hasKeyword = true ∧ ∃ kind content, kind ≠ .string ∧ literal = .quoted kind content := by
  cases literal with
  | null => exact Or.inl h
  | boolean b =>
    have hvalue : value = .bool b := h
    exact Or.inr (Or.inl (hvalue ▸ rfl))
  | number n =>
    right
    left
    rcases h with ⟨m, rfl, -⟩ | ⟨d, rfl, -⟩ | ⟨bits, rfl, hfinite, -⟩
    · rfl
    · rfl
    · exact hfinite
  | quoted kind content =>
    right
    right
    cases kind with
    | string => exact Or.inl ⟨content, h, rfl⟩
    | binary =>
      obtain ⟨_, _, rfl, -⟩ := h
      exact Or.inr ⟨rfl, .binary, content, by rintro ⟨⟩, rfl⟩
    | date =>
      obtain ⟨_, rfl, -⟩ := h
      exact Or.inr ⟨rfl, .date, content, by rintro ⟨⟩, rfl⟩
    | time =>
      obtain ⟨_, rfl, -⟩ := h
      exact Or.inr ⟨rfl, .time, content, by rintro ⟨⟩, rfl⟩
    | timestamp =>
      obtain ⟨_, rfl, -⟩ := h
      exact Or.inr ⟨rfl, .timestamp, content, by rintro ⟨⟩, rfl⟩

theorem not_isFiniteNumber_of_hasKeyword {value : BoundValue} (h : value.hasKeyword = true) :
    value.isFiniteNumber = false := by
  cases value with
  | bytesLike cls bytes => rfl
  | date d => rfl
  | datetime t => rfl
  | time t => rfl
  | _ => cases h

theorem isLiteralOf_keyword {value : BoundValue} {literal : Literal} (hvalue : value.hasKeyword = true)
    (h : IsLiteralOf py value literal) : ∃ kind content, kind ≠ .string ∧ literal = .quoted kind content := by
  rcases isLiteralOf_cases h with rfl | hfinite | ⟨s, rfl, -⟩ | ⟨-, hliteral⟩
  · cases hvalue
  · rw [not_isFiniteNumber_of_hasKeyword hvalue] at hfinite
    cases hfinite
  · cases hvalue
  · exact hliteral

/-- Their texts have none. -/
theorem str_head (py : Python) {value : BoundValue} (hvalue : value.hasKeyword = true) :
    ∃ c ∈ (py.str value).toList.head?, c ≠ 'X' ∧ c ≠ 'D' ∧ c ≠ 'T' := by
  have hdigit : ∀ width n rest, ∃ c ∈ (String.ofList (fixed (width + 1) n ++ rest)).toList.head?,
      c ≠ 'X' ∧ c ≠ 'D' ∧ c ≠ 'T' := by
    intro width n rest
    obtain ⟨c, hc, hdigit⟩ := head_fixed width n rest
    rw [String.toList_ofList]
    refine ⟨c, hc, ?_, ?_, ?_⟩ <;> rintro rfl <;> cases hdigit
  cases value with
  | bytesLike cls bytes =>
    obtain ⟨c, hc, hstart⟩ := py.bytesText_head cls bytes
    refine ⟨c, hc, ?_⟩
    rcases hstart with rfl | rfl <;> decide
  | date d => exact hdigit 3 d.year _
  | datetime t =>
    have htext : t.text ' ' = fixed 4 t.date.year ++ ('-' :: (fixed 2 t.date.month ++
        '-' :: fixed 2 t.date.day) ++ ' ' :: t.time.text) := by
      rw [IsoTime.Timestamp.text, IsoTime.Date.text, List.append_assoc]
    rw [Python.str, htext]
    exact hdigit 3 t.date.year _
  | time t =>
    have htext : t.time.text = fixed 2 t.time.clock.hour ++ (':' :: (fixed 2 t.time.clock.minute ++
        ':' :: (fixed 2 t.time.clock.second ++ IsoTime.fractionText t.time.clock.microsecond)) ++
          IsoTime.Time.offsetText t.time.offset) := by
      rw [IsoTime.Time.text, IsoTime.Clock.text, List.append_assoc]
    rw [Python.str, htext]
    exact hdigit 1 t.time.clock.hour _
  | _ => cases hvalue

/-- So `str(value)` of such a value is no literal of it. -/
theorem not_literalOf_str_keyword {value : BoundValue} (hvalue : value.hasKeyword = true) :
    ¬LiteralOf py (py.str value) value := by
  rintro ⟨literal, hread, hliteral⟩
  obtain ⟨kind, content, hkind, rfl⟩ := isLiteralOf_keyword hvalue hliteral
  obtain ⟨c, hc, hX, hD, hT⟩ := str_head py hvalue
  rcases keyword_head hkind hread hc with h | h | h
  · exact hX h
  · exact hD h
  · exact hT h

/-- Nor is a string, unquoted. -/
theorem not_literalOf_str_self (s : String) : ¬LiteralOf py s (.str s) := by
  rintro ⟨literal, hread, hliteral⟩
  rcases isLiteralOf_cases hliteral with h | hfinite | ⟨content, hs, rfl⟩ | ⟨hkeyword, -⟩
  · cases h
  · cases hfinite
  · rw [BoundValue.str.inj hs, String.toList_ofList] at hread
    exact read_ne_self content hread
  · cases hkeyword

/-- No literal is of an object of any other class. -/
theorem not_isLiteralOf_object {cls : String} {identity : Nat} {literal : Literal} :
    ¬IsLiteralOf py (.object cls identity) literal := by
  intro h
  rcases isLiteralOf_cases h with h | hfinite | ⟨s, h, -⟩ | ⟨hkeyword, -⟩
  · cases h
  · cases hfinite
  · cases h
  · cases hkeyword

/-- `str(value)` of a finite number is its literal. -/
theorem literalOf_str {value : BoundValue} (h : value.isFiniteNumber = true) :
    LiteralOf py (py.str value) value := by
  cases value with
  | bool b =>
    have hfalse : Literal.read "False".toList = some (.boolean false) := rfl
    have htrue : Literal.read "True".toList = some (.boolean true) := rfl
    cases b with
    | false => exact ⟨_, hfalse, rfl⟩
    | true => exact ⟨_, htrue, rfl⟩
  | int n => exact literalOf_intText n
  | float bits =>
    obtain ⟨n, hread, hnearest⟩ := py.floatText_reads bits h
    exact ⟨.number n, read_number hread, Or.inr (Or.inr ⟨bits, rfl, h, hnearest⟩)⟩
  | decimal d =>
    cases d with
    | finite n => exact literalOf_decimalText n
    | infinite negative => cases h
    | nan negative signaling payload => cases h
  | _ => cases h

/-- A literal of a finite number is of nothing else. -/
theorem isFiniteNumber_of_literalOf {text : String} {number value : BoundValue}
    (hnumber : number.isFiniteNumber = true) (htext : LiteralOf py text number)
    (h : LiteralOf py text value) : value.isFiniteNumber = true := by
  obtain ⟨literal, hread, hliteral⟩ := htext
  obtain ⟨literal', hread', hvalue⟩ := h
  cases hread.symm.trans hread'
  cases literal with
  | null =>
    cases hliteral
    cases hnumber
  | boolean b =>
    cases hvalue
    rfl
  | number n =>
    rcases hvalue with ⟨m, rfl, -⟩ | ⟨d, rfl, -⟩ | ⟨bits, rfl, hfinite, -⟩
    · rfl
    · rfl
    · exact hfinite
  | quoted kind content =>
    rcases isLiteralOf_cases hliteral with rfl | hfinite | ⟨s, rfl, -⟩ | ⟨hkeyword, -⟩
    · cases hnumber
    · cases kind with
      | string =>
        cases hliteral
        cases hfinite
      | binary =>
        obtain ⟨_, _, rfl, -⟩ := hliteral
        cases hfinite
      | date =>
        obtain ⟨_, rfl, -⟩ := hliteral
        cases hfinite
      | time =>
        obtain ⟨_, rfl, -⟩ := hliteral
        cases hfinite
      | timestamp =>
        obtain ⟨_, rfl, -⟩ := hliteral
        cases hfinite
    · cases hnumber
    · rw [not_isFiniteNumber_of_hasKeyword hkeyword] at hnumber
      cases hnumber

/-- What is printed for a number that is not finite is no literal. -/
theorem read_nonFinite {d : DecimalValue} (h : (BoundValue.decimal d).nonFinite = true) :
    Literal.read d.text.toList = none := by
  cases d with
  | finite n => cases h
  | infinite negative => cases negative <;> rfl
  | nan negative signaling payload =>
    rw [DecimalValue.text, String.toList_append, String.toList_append]
    generalize (if payload = 0 then "" else toString payload).toList = digits
    cases negative <;> cases signaling <;> rfl

/-- So `str(value)` of a `Decimal` is a literal of finite numbers at most. -/
theorem isFiniteNumber_of_literalOf_decimal {d : DecimalValue} {value : BoundValue}
    (h : LiteralOf py (py.str (.decimal d)) value) : value.isFiniteNumber = true := by
  cases hnonFinite : (BoundValue.decimal d).nonFinite with
  | true =>
    obtain ⟨literal, hread, -⟩ := h
    rw [Python.str, read_nonFinite hnonFinite] at hread
    cases hread
  | false =>
    have hfinite : (BoundValue.decimal d).isFiniteNumber = true := by
      cases d with
      | finite n => rfl
      | infinite negative => cases hnonFinite
      | nan negative signaling payload => cases hnonFinite
    exact isFiniteNumber_of_literalOf hfinite (literalOf_str hfinite) h

/-- **`str(value)` is a literal of the value** exactly for finite numbers and truth values. -/
theorem literalOf_str_iff {value : BoundValue} :
    LiteralOf py (py.str value) value ∧ value.nonFinite = false ↔ value.isFiniteNumber = true := by
  constructor
  · rintro ⟨hliteral, hfinite⟩
    cases value with
    | none =>
      -- `None` is no SQL
      obtain ⟨literal, hread, -⟩ := hliteral
      have hnone : Literal.read "None".toList = none := rfl
      rw [Python.str, hnone] at hread
      cases hread
    | bool b => rfl
    | int n => rfl
    | float bits =>
      rw [BoundValue.nonFinite, Bool.not_eq_false'] at hfinite
      exact hfinite
    | decimal d =>
      cases d with
      | finite n => rfl
      | infinite negative => cases hfinite
      | nan negative signaling payload => cases hfinite
    | str s => exact absurd hliteral (not_literalOf_str_self s)
    | object cls identity =>
      obtain ⟨literal, -, hliteral⟩ := hliteral
      exact absurd hliteral not_isLiteralOf_object
    | bytesLike cls bytes => exact absurd hliteral (not_literalOf_str_keyword rfl)
    | date d => exact absurd hliteral (not_literalOf_str_keyword rfl)
    | datetime t => exact absurd hliteral (not_literalOf_str_keyword rfl)
    | time t => exact absurd hliteral (not_literalOf_str_keyword rfl)
  · intro h
    refine ⟨literalOf_str h, ?_⟩
    cases value with
    | float bits =>
      rw [BoundValue.nonFinite, Bool.not_eq_false']
      exact h
    | decimal d =>
      cases d with
      | finite n => rfl
      | infinite negative => cases h
      | nan negative signaling payload => cases h
    | bool b => rfl
    | int n => rfl
    | _ => cases h

end Str

end FlightSql
