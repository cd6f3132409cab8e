/-
  ISO 8601 — dates, clock times and offsets from UTC, as text and back.

  A value is written with fields of fixed width; a fraction of a second and an offset only when there
  is one.  The readers take a field at a time off the front and leave the rest, so that a reader of a
  pair is the two readers in a row; `read_text` of each says that it reads back what was written, and
  leaves what came after.

  Mathlib-free.
-/
import FlightSql.Lib.Digits

set_option linter.unusedVariables false

namespace FlightSql.Lib.IsoTime

open Digits

/-! ## Readers -/

/-- A field of some width. -/
def readField (width : Nat) (cs : List Char) : Option (Nat × List Char) :=
  if width ≤ cs.length then (value (cs.take width)).map fun n => (n, cs.drop width) else none

/-- A separator. -/
def readChar (c : Char) : List Char → Option (List Char)
  | [] => none
  | d :: cs => if d = c then some cs else none

theorem readField_fixed {width n : Nat} (h : n < 10 ^ width) (rest : List Char) :
    readField width (fixed width n ++ rest) = some (n, rest) := by
  have hlen := length_fixed width n
  have htake : (fixed width n ++ rest).take width = fixed width n := List.take_left' hlen
  have hdrop : (fixed width n ++ rest).drop width = rest := List.drop_left' hlen
  have hle : width ≤ (fixed width n ++ rest).length := by
    rw [List.length_append, hlen]
    omega
  rw [readField, if_pos hle, htake, hdrop, value_fixed h]
  rfl

theorem readChar_cons (c : Char) (rest : List Char) : readChar c (c :: rest) = some rest := if_pos rfl

/-! ## Dates -/

/-- The characters of dates and times. -/
def isMark (c : Char) : Bool := isDigit c || c = '-' || c = ':' || c = '.' || c = '+'

theorem all_fixed (width n : Nat) : (fixed width n).all isMark = true := by
  rw [List.all_eq_true]
  intro c hc
  have hdigit : isDigit c = true := valueFrom_isDigit (valueFrom_fixed 0 width n) c hc
  simp only [isMark, hdigit, Bool.true_or]

/-- **A date**. -/
structure Date where
  year : Nat
  month : Nat
  day : Nat
  inRange : (1 ≤ year ∧ year ≤ 9999) ∧ (1 ≤ month ∧ month ≤ 12) ∧ 1 ≤ day ∧ day ≤ 31
  deriving DecidableEq

namespace Date

/-- `YYYY-MM-DD`. -/
def text (d : Date) : List Char :=
  fixed 4 d.year ++ '-' :: (fixed 2 d.month ++ '-' :: fixed 2 d.day)

/-- A date off the front. -/
def read (cs : List Char) : Option (Date × List Char) := do
  let (year, cs) ← readField 4 cs
  let cs ← readChar '-' cs
  let (month, cs) ← readField 2 cs
  let cs ← readChar '-' cs
  let (day, cs) ← readField 2 cs
  if h : (1 ≤ year ∧ year ≤ 9999) ∧ (1 ≤ month ∧ month ≤ 12) ∧ 1 ≤ day ∧ day ≤ 31 then
    some (⟨year, month, day, h⟩, cs)
  else none

theorem read_text (d : Date) (rest : List Char) : read (d.text ++ rest) = some (d, rest) := by
  obtain ⟨year, month, day, hrange⟩ := d
  have hyear : year < 10 ^ 4 := by omega
  have hmonth : month < 10 ^ 2 := by omega
  have hday : day < 10 ^ 2 := by omega
  simp only [text, read, List.append_assoc, List.cons_append, readField_fixed hyear,
    readField_fixed hmonth, readField_fixed hday, readChar_cons, bind, Option.bind, dif_pos hrange]

theorem all_text (d : Date) : d.text.all isMark = true := by
  have hdash : isMark '-' = true := rfl
  simp only [text, List.all_append, List.all_cons, all_fixed, hdash, Bool.true_and]

end Date

/-! ## Clock times -/

/-- **A time of day**, to the microsecond. -/
structure Clock where
  hour : Nat
  minute : Nat
  second : Nat
  microsecond : Nat
  inRange : hour < 24 ∧ minute < 60 ∧ second < 60 ∧ microsecond < 1000000
  deriving DecidableEq

/-- `.ffffff`, unless it is zero. -/
def fractionText (microsecond : Nat) : List Char :=
  if microsecond = 0 then [] else '.' :: fixed 6 microsecond

theorem all_fractionText (microsecond : Nat) : (fractionText microsecond).all isMark = true := by
  rw [fractionText]
  by_cases hzero : microsecond = 0
  · rw [if_pos hzero, List.all_nil]
  · rw [if_neg hzero, List.all_cons, all_fixed]
    rfl

/-- A fraction off the front, zero if there is none. -/
def readFraction (cs : List Char) : Option (Nat × List Char) :=
  match readChar '.' cs with
  | some cs => readField 6 cs
  | none => some (0, cs)

/-- A text that goes on with no fraction. -/
def NoFraction (rest : List Char) : Prop := readChar '.' rest = none

theorem readFraction_text {microsecond : Nat} (h : microsecond < 1000000) {rest : List Char}
    (hrest : NoFraction rest) :
    readFraction (fractionText microsecond ++ rest) = some (microsecond, rest) := by
  rw [fractionText]
  by_cases hzero : microsecond = 0
  · rw [if_pos hzero, List.nil_append, readFraction, hrest, hzero]
  · rw [if_neg hzero, List.cons_append, readFraction, readChar_cons]
    exact readField_fixed h rest

namespace Clock

/-- `HH:MM:SS[.ffffff]`. -/
def text (c : Clock) : List Char :=
  fixed 2 c.hour ++ ':' :: (fixed 2 c.minute ++ ':' :: (fixed 2 c.second ++ fractionText c.microsecond))

/-- A time of day off the front. -/
def read (cs : List Char) : Option (Clock × List Char) := do
  let (hour, cs) ← readField 2 cs
  let cs ← readChar ':' cs
  let (minute, cs) ← readField 2 cs
  let cs ← readChar ':' cs
  let (second, cs) ← readField 2 cs
  let (microsecond, cs) ← readFraction cs
  if h : hour < 24 ∧ minute < 60 ∧ second < 60 ∧ microsecond < 1000000 then
    some (⟨hour, minute, second, microsecond, h⟩, cs)
  else none

theorem read_text (c : Clock) {rest : List Char} (hrest : NoFraction rest) :
    read (c.text ++ rest) = some (c, rest) := by
  obtain ⟨hour, minute, second, microsecond, hrange⟩ := c
  have hhour : hour < 10 ^ 2 := by omega
  have hminute : minute < 10 ^ 2 := by omega
  have hsecond : second < 10 ^ 2 := by omega
  simp only [text, read, List.append_assoc, List.cons_append, readField_fixed hhour,
    readField_fixed hminute, readField_fixed hsecond, readFraction_text hrange.2.2.2 hrest, readChar_cons,
    bind, Option.bind, dif_pos hrange]

theorem all_text (c : Clock) : c.text.all isMark = true := by
  have hcolon : isMark ':' = true := rfl
  simp only [text, List.all_append, List.all_cons, all_fixed, all_fractionText, hcolon, Bool.true_and]

end Clock

/-! ## Offsets from UTC -/

/-- **An offset**, in microseconds and less than a day either way. -/
structure Offset where
  microseconds : Int
  inRange : microseconds.natAbs < 86400000000
  deriving DecidableEq

namespace Offset

/-- The seconds of an offset, unless it is one of whole minutes. -/
def secondsText (magnitude : Nat) : List Char :=
  if magnitude % 60000000 = 0 then []
  else ':' :: (fixed 2 (magnitude / 1000000 % 60) ++ fractionText (magnitude % 1000000))

/-- The seconds of an offset in microseconds, zero if there are none. -/
def readSeconds (cs : List Char) : Option (Nat × List Char) :=
  match readChar ':' cs with
  | some cs => do
    let (second, cs) ← readField 2 cs
    let (microsecond, cs) ← readFraction cs
    some (second * 1000000 + microsecond, cs)
  | none => some (0, cs)

theorem readSeconds_text (magnitude : Nat) :
    readSeconds (secondsText magnitude) = some (magnitude % 60000000, []) := by
  rw [secondsText]
  by_cases hzero : magnitude % 60000000 = 0
  · rw [if_pos hzero, hzero]
    rfl
  · have hsecond : magnitude / 1000000 % 60 < 10 ^ 2 := by omega
    have hmicrosecond : magnitude % 1000000 < 1000000 := by omega
    have hend : NoFraction [] := rfl
    have hfraction := readFraction_text hmicrosecond hend
    have hsum : magnitude / 1000000 % 60 * 1000000 + magnitude % 1000000 = magnitude % 60000000 := by omega
    rw [List.append_nil] at hfraction
    rw [if_neg hzero, readSeconds, readChar_cons]
    simp only [readField_fixed hsecond, hfraction, bind, Option.bind, hsum]

/-- `±HH:MM[:SS[.ffffff]]`. -/
def text (o : Offset) : List Char :=
  (if o.microseconds < 0 then '-' else '+') ::
    (fixed 2 (o.microseconds.natAbs / 3600000000) ++
      ':' :: (fixed 2 (o.microseconds.natAbs / 60000000 % 60) ++ secondsText o.microseconds.natAbs))

/-- The sign. -/
def readSign : List Char → Option (Bool × List Char)
  | [] => none
  | c :: cs => if c = '-' then some (true, cs) else if c = '+' then some (false, cs) else none

/-- An offset that is the whole text. -/
def read (cs : List Char) : Option Offset := do
  let (negative, cs) ← readSign cs
  let (hour, cs) ← readField 2 cs
  let cs ← readChar ':' cs
  let (minute, cs) ← readField 2 cs
  let (seconds, cs) ← readSeconds cs
  let magnitude : Nat := hour * 3600000000 + minute * 60000000 + seconds
  let microseconds : Int := if negative then -(magnitude : Int) else magnitude
  if h : microseconds.natAbs < 86400000000 then
    if cs = [] then some ⟨microseconds, h⟩ else none
  else none

theorem read_text (o : Offset) : read o.text = some o := by
  obtain ⟨microseconds, hrange⟩ := o
  have hhour : microseconds.natAbs / 3600000000 < 10 ^ 2 := by omega
  have hminute : microseconds.natAbs / 60000000 % 60 < 10 ^ 2 := by omega
  have hmagnitude : microseconds.natAbs / 3600000000 * 3600000000 +
      microseconds.natAbs / 60000000 % 60 * 60000000 + microseconds.natAbs % 60000000 =
      microseconds.natAbs := by omega
  have hsign : readSign (Offset.text ⟨microseconds, hrange⟩) =
      some (decide (microseconds < 0), (Offset.text ⟨microseconds, hrange⟩).tail) := by
    rw [text]
    by_cases hneg : microseconds < 0
    · simp only [if_pos hneg, decide_eq_true hneg]
      rfl
    · simp only [if_neg hneg, decide_eq_false hneg]
      rfl
  have hvalue : (if decide (microseconds < 0) = true then -(microseconds.natAbs : Int)
      else microseconds.natAbs) = microseconds := by
    by_cases hneg : microseconds < 0
    · rw [if_pos (decide_eq_true hneg)]
      omega
    · rw [if_neg (by rw [decide_eq_false hneg]; exact Bool.false_ne_true)]
      omega
  simp only [read, hsign, bind, Option.bind]
  simp only [text, List.tail_cons, readField_fixed hhour, readField_fixed hminute, readChar_cons,
    readSeconds_text, hmagnitude, hvalue, dif_pos hrange, if_true]

theorem noFraction_text (o : Offset) : NoFraction o.text := by
  rw [NoFraction, text, readChar]
  by_cases hneg : o.microseconds < 0
  · rw [if_pos hneg]
    rfl
  · rw [if_neg hneg]
    rfl

theorem all_text (o : Offset) : o.text.all isMark = true := by
  have hcolon : isMark ':' = true := rfl
  have hsign : isMark (if o.microseconds < 0 then '-' else '+') = true := by split <;> rfl
  have hseconds : (secondsText o.microseconds.natAbs).all isMark = true := by
    rw [secondsText]
    split
    · rfl
    · simp only [List.all_cons, List.all_append, all_fixed, all_fractionText, hcolon, Bool.true_and]
  simp only [text, List.all_append, List.all_cons, all_fixed, hseconds, hsign, hcolon, Bool.true_and]

end Offset

/-! ## Times and timestamps -/

/-- **A time**, of a zone or of none. -/
structure Time where
  clock : Clock
  offset : Option Offset
  deriving DecidableEq

namespace Time

/-- The offset, if there is one. -/
def offsetText : Option Offset → List Char
  | none => []
  | some o => o.text

def text (t : Time) : List Char := t.clock.text ++ offsetText t.offset

/-- A time that is the whole text. -/
def read (cs : List Char) : Option Time := do
  let (clock, cs) ← Clock.read cs
  if cs = [] then some ⟨clock, none⟩ else (Offset.read cs).map fun o => ⟨clock, some o⟩

theorem read_text (t : Time) : read t.text = some t := by
  obtain ⟨clock, offset⟩ := t
  cases offset with
  | none =>
    have hclock : Clock.read (clock.text ++ []) = some (clock, []) := Clock.read_text clock rfl
    rw [read, text, offsetText, hclock]
    rfl
  | some o =>
    have hne : o.text ≠ [] := List.cons_ne_nil _ _
    have hclock : Clock.read (clock.text ++ o.text) = some (clock, o.text) :=
      Clock.read_text clock o.noFraction_text
    rw [read, text, offsetText, hclock]
    simp only [bind, Option.bind, if_neg hne, o.read_text, Option.map]

theorem all_text (t : Time) : t.text.all isMark = true := by
  rw [text, List.all_append, t.clock.all_text, Bool.true_and]
  cases t.offset with
  | none => rfl
  | some o => exact o.all_text

end Time

/-- **A timestamp**. -/
structure Timestamp where
  date : Date
  time : Time
  deriving DecidableEq

namespace Timestamp

/-- The date and the time with `separator` between them. -/
def text (separator : Char) (t : Timestamp) : List Char := t.date.text ++ separator :: t.time.text

/-- A timestamp that is the whole text. -/
def read (separator : Char) (cs : List Char) : Option Timestamp := do
  let (date, cs) ← Date.read cs
  let cs ← readChar separator cs
  (Time.read cs).map fun t => ⟨date, t⟩

theorem read_text (separator : Char) (t : Timestamp) : read separator (t.text separator) = some t := by
  rw [read, text, Date.read_text]
  simp only [bind, Option.bind, readChar_cons, Time.read_text, Option.map]

theorem mem_text {separator c : Char} {t : Timestamp} (h : c ∈ t.text separator) :
    c = separator ∨ isMark c = true := by
  have hdate := List.all_eq_true.mp t.date.all_text
  have htime := List.all_eq_true.mp t.time.all_text
  rcases List.mem_append.mp h with h | h
  · exact Or.inr (hdate c h)
  · rcases List.mem_cons.mp h with h | h
    · exact Or.inl h
    · exact Or.inr (htime c h)

end Timestamp

end FlightSql.Lib.IsoTime
