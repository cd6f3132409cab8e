/-
  SQL LITERALS — the texts that are exactly one literal, and which.

  `Literal.read` reads a whole text: a numeral, one of the words NULL, TRUE and FALSE in any case, or a
  quoted text, alone or after the keyword of its kind.  A quote inside a quoted text is doubled; one that
  is not ends it, and nothing may follow.  So a text that is read is one literal to its very end.

  Each kind of literal is written by one function and read back as it was (`read_numeralText`,
  `read_literal`), whatever characters it is made of.

  Mathlib-free.
-/
import FlightSql.Lib.Digits

set_option linter.unusedVariables false

namespace FlightSql.Lib.SqlLiteral

open Digits

/-! ## Quoted text -/

/-- The quote. -/
def quote : Char := Char.ofNat 39

/-- The text with its quotes doubled. -/
def doubled (s : List Char) : List Char :=
  s.flatMap fun c => if c = quote then [quote, quote] else [c]

/-- The text up to a closing quote that ends the input. -/
def readQuoted : List Char → Option (List Char)
  | [] => none
  | c :: cs =>
    if c = quote then
      match cs with
      | [] => some []
      | d :: ds => if d = quote then (readQuoted ds).map (quote :: ·) else none
    else (readQuoted cs).map (c :: ·)

theorem readQuoted_cons {c : Char} (hc : c ≠ quote) (cs : List Char) :
    readQuoted (c :: cs) = (readQuoted cs).map (c :: ·) := by
  rw [readQuoted.eq_def]
  exact if_neg hc

theorem doubled_cons (c : Char) (s : List Char) :
    doubled (c :: s) = (if c = quote then [quote, quote] else [c]) ++ doubled s := rfl

/-- **A quoted text reads as itself**: none of its characters ends it. -/
theorem readQuoted_doubled (s : List Char) : readQuoted (doubled s ++ [quote]) = some s := by
  induction s with
  | nil => rfl
  | cons c s ih =>
    rw [doubled_cons]
    by_cases hc : c = quote
    · rw [if_pos hc, hc]
      show (if quote = quote then
        (if quote = quote then (readQuoted (doubled s ++ [quote])).map (quote :: ·) else none) else _) = _
      rw [if_pos rfl, if_pos rfl, ih]
      rfl
    · rw [if_neg hc, List.singleton_append, List.cons_append, readQuoted_cons hc, ih]
      rfl

/-- A text without quotes is its own doubling. -/
theorem doubled_of_plain {s : List Char} (h : quote ∉ s) : doubled s = s := by
  induction s with
  | nil => rfl
  | cons c s ih =>
    obtain ⟨hc, hs⟩ := List.ne_and_not_mem_of_not_mem_cons h
    rw [doubled_cons, if_neg hc.symm, ih hs, List.singleton_append]

/-- Quoting makes a text longer. -/
theorem length_lt_of_readQuoted {cs s : List Char} (h : readQuoted cs = some s) :
    s.length < cs.length := by
  induction cs using readQuoted.induct generalizing s with
  | case1 => cases h
  | case2 =>
    cases h
    exact Nat.one_pos
  | case3 ds ih =>
    rw [readQuoted, if_pos rfl] at h
    obtain ⟨s', hs', rfl⟩ := Option.map_eq_some_iff.mp h
    have hlt := ih hs'
    simp only [List.length_cons]
    omega
  | case4 d ds hd =>
    rw [readQuoted, if_pos rfl] at h
    simp only [if_neg hd] at h
    cases h
  | case5 c cs hc ih =>
    rw [readQuoted_cons hc] at h
    obtain ⟨s', hs', rfl⟩ := Option.map_eq_some_iff.mp h
    have hlt := ih hs'
    simp only [List.length_cons]
    omega

/-! ## Numerals -/

/-- **A numeral**: `± mantissa · 10 ^ exponent`. -/
structure Numeral where
  negative : Bool
  mantissa : Nat
  exponent : Int
  deriving DecidableEq

/-- The sign, `+` for none. -/
def readSign : List Char → Bool × List Char
  | [] => (false, [])
  | c :: cs => if c = '-' then (true, cs) else if c = '+' then (false, cs) else (false, c :: cs)

/-- Digits to the end, at least one. -/
def readNat (cs : List Char) : Option Nat := if cs = [] then none else value cs

/-- The exponent, zero for none. -/
def readExponent : List Char → Option Int
  | [] => some 0
  | c :: cs =>
    if c = 'E' ∨ c = 'e' then
      (readNat (readSign cs).2).map fun n => if (readSign cs).1 then -(n : Int) else n
    else none

/-- The digits after the point, and the rest. -/
def readFraction : List Char → List Char × List Char
  | [] => ([], [])
  | c :: cs => if c = '.' then (cs.takeWhile isDigit, cs.dropWhile isDigit) else ([], c :: cs)

namespace Numeral

/-- A numeral that is the whole text. -/
def read (text : List Char) : Option Numeral :=
  let (negative, cs) := readSign text
  let whole := cs.takeWhile isDigit
  let (fraction, rest) := readFraction (cs.dropWhile isDigit)
  if whole = [] then none
  else
    (readExponent rest).bind fun exponent =>
      (value (whole ++ fraction)).map fun mantissa => ⟨negative, mantissa, exponent - fraction.length⟩

end Numeral

/-- The digits after the point, if there are any. -/
def fractionText (fraction : List Char) : List Char := if fraction = [] then [] else '.' :: fraction

/-- The exponent with its sign, if there is one. -/
def exponentText : Option Int → List Char
  | none => []
  | some e => 'E' :: (if e < 0 then '-' else '+') :: natText e.natAbs

/-- A numeral as it is written. -/
def numeralText (negative : Bool) (whole fraction : List Char) (exponent : Option Int) : List Char :=
  (if negative then ['-'] else []) ++ (whole ++ (fractionText fraction ++ exponentText exponent))

theorem takeWhile_digits {xs rest : List Char} (h : ∀ c ∈ xs, isDigit c = true)
    (hrest : ∀ c ∈ rest.head?, isDigit c = false) :
    (xs ++ rest).takeWhile isDigit = xs ∧ (xs ++ rest).dropWhile isDigit = rest := by
  have hstop : rest.takeWhile isDigit = [] ∧ rest.dropWhile isDigit = rest := by
    cases rest with
    | nil => exact ⟨rfl, rfl⟩
    | cons c cs =>
      have hc := hrest c rfl
      rw [List.takeWhile_cons, List.dropWhile_cons, hc]
      exact ⟨rfl, rfl⟩
  rw [List.takeWhile_append_of_pos h, List.dropWhile_append_of_pos h, hstop.1, hstop.2, List.append_nil]
  exact ⟨rfl, rfl⟩

theorem readExponent_text (exponent : Option Int) :
    readExponent (exponentText exponent) = some (exponent.getD 0) := by
  cases exponent with
  | none => rfl
  | some e =>
    have hnat : readNat (natText e.natAbs) = some e.natAbs := by
      rw [readNat, if_neg (natText_ne_nil _), value_natText]
    rw [exponentText, readExponent, if_pos (Or.inl rfl)]
    by_cases hneg : e < 0
    · have hsign : readSign ((if e < 0 then '-' else '+') :: natText e.natAbs) =
          (true, natText e.natAbs) := by
        rw [if_pos hneg]
        rfl
      rw [hsign, hnat]
      have he : -(e.natAbs : Int) = e := by omega
      exact congrArg some he
    · have hsign : readSign ((if e < 0 then '-' else '+') :: natText e.natAbs) =
          (false, natText e.natAbs) := by
        rw [if_neg hneg]
        rfl
      rw [hsign, hnat]
      have he : (e.natAbs : Int) = e := by omega
      exact congrArg some he

/-- An exponent starts with its letter. -/
theorem head_exponentText (exponent : Option Int) :
    ∀ c ∈ (exponentText exponent).head?, c = 'E' := by
  intro c hc
  cases exponent with
  | none => cases hc
  | some e => exact (Option.some.inj hc).symm

theorem readFraction_text {fraction : List Char} (h : ∀ c ∈ fraction, isDigit c = true)
    (exponent : Option Int) :
    readFraction (fractionText fraction ++ exponentText exponent) = (fraction, exponentText exponent) := by
  rw [fractionText]
  by_cases hnil : fraction = []
  · rw [if_pos hnil, hnil, List.nil_append]
    cases exponent <;> rfl
  · have hrest : ∀ c ∈ (exponentText exponent).head?, isDigit c = false := by
      intro c hc
      rw [head_exponentText exponent c hc]
      rfl
    have hstop := takeWhile_digits h hrest
    rw [if_neg hnil, List.cons_append, readFraction, if_pos rfl, hstop.1, hstop.2]

/-- **A numeral is read as it was written.** -/
theorem read_numeralText {negative : Bool} {whole fraction : List Char} {exponent : Option Int}
    {mantissa : Nat} (hne : whole ≠ []) (hvalue : value (whole ++ fraction) = some mantissa) :
    Numeral.read (numeralText negative whole fraction exponent) =
      some ⟨negative, mantissa, exponent.getD 0 - fraction.length⟩ := by
  have hdigits := valueFrom_isDigit hvalue
  have hwhole : ∀ c ∈ whole, isDigit c = true := fun c hc => hdigits c (List.mem_append_left _ hc)
  have hfraction : ∀ c ∈ fraction, isDigit c = true := fun c hc => hdigits c (List.mem_append_right _ hc)
  -- after the whole digits comes the point, the letter or the end
  have hrest : ∀ c ∈ (fractionText fraction ++ exponentText exponent).head?, isDigit c = false := by
    intro c hc
    rw [fractionText] at hc
    by_cases hnil : fraction = []
    · rw [if_pos hnil, List.nil_append] at hc
      rw [head_exponentText exponent c hc]
      rfl
    · rw [if_neg hnil] at hc
      cases hc
      rfl
  have hstop := takeWhile_digits hwhole hrest
  have hsign : readSign (numeralText negative whole fraction exponent) =
      (negative, whole ++ (fractionText fraction ++ exponentText exponent)) := by
    rw [numeralText]
    cases negative with
    | true => rfl
    | false =>
      cases whole with
      | nil => exact absurd rfl hne
      | cons c whole =>
        have hc := hwhole c List.mem_cons_self
        have hminus : c ≠ '-' := by
          rintro rfl
          cases hc
        have hplus : c ≠ '+' := by
          rintro rfl
          cases hc
        show (if c = '-' then _ else if c = '+' then _ else _) = _
        rw [if_neg hminus, if_neg hplus]
        rfl
  simp only [Numeral.read, hsign, hstop.1, hstop.2, readFraction_text hfraction, if_neg hne,
    readExponent_text, hvalue, Option.bind_some, Option.map_some]

/-! ## Literals -/

/-- **The kinds of quoted literals**. -/
inductive Kind where
  | string | binary | date | time | timestamp
  deriving DecidableEq

/-- What stands before the quotes. -/
def Kind.keyword : Kind → List Char
  | .string => []
  | .binary => ['X']
  | .date => ['D', 'A', 'T', 'E', ' ']
  | .time => ['T', 'I', 'M', 'E', ' ']
  | .timestamp => ['T', 'I', 'M', 'E', 'S', 'T', 'A', 'M', 'P', ' ']

def Kind.all : List Kind := [.string, .binary, .date, .time, .timestamp]

/-- **A literal**. -/
inductive Literal where
  | null
  | boolean (b : Bool)
  | number (n : Numeral)
  | quoted (kind : Kind) (content : List Char)
  deriving DecidableEq

/-- A quoted literal as it is written. -/
def Kind.literal (kind : Kind) (content : List Char) : List Char :=
  kind.keyword ++ quote :: (doubled content ++ [quote])

/-- The text after a prefix. -/
def afterPrefix : List Char → List Char → Option (List Char)
  | [], cs => some cs
  | _ :: _, [] => none
  | p :: ps, c :: cs => if p = c then afterPrefix ps cs else none

/-- The content of a literal of some kind. -/
def Kind.read (kind : Kind) (text : List Char) : Option (List Char) :=
  (afterPrefix (kind.keyword ++ [quote]) text).bind readQuoted

/-- A word that is a literal. -/
def readWord (text : List Char) : Option Literal :=
  if text.map Char.toLower = ['n', 'u', 'l', 'l'] then some .null
  else if text.map Char.toLower = ['t', 'r', 'u', 'e'] then some (.boolean true)
  else if text.map Char.toLower = ['f', 'a', 'l', 's', 'e'] then some (.boolean false)
  else none

/-- A literal in quotes. -/
def readKinds (text : List Char) : Option Literal :=
  Kind.all.findSome? fun kind => (kind.read text).map (Literal.quoted kind)

/-- **The literal a text is**, if it is exactly one. -/
def Literal.read (text : List Char) : Option Literal :=
  match Numeral.read text with
  | some n => some (.number n)
  | none =>
    match readWord text with
    | some word => some word
    | none => readKinds text

theorem afterPrefix_append (ps cs : List Char) : afterPrefix ps (ps ++ cs) = some cs := by
  induction ps with
  | nil => rfl
  | cons p ps ih => rw [List.cons_append, afterPrefix, if_pos rfl, ih]

/-- The keywords keep the kinds apart. -/
theorem Kind.read_literal (kind other : Kind) (content : List Char) :
    other.read (kind.literal content) = if other = kind then some content else none := by
  by_cases h : other = kind
  · have htext : kind.literal content = kind.keyword ++ [quote] ++ (doubled content ++ [quote]) := by
      rw [Kind.literal, List.append_assoc, List.singleton_append]
    rw [if_pos h, h, Kind.read, htext, afterPrefix_append]
    exact readQuoted_doubled content
  · rw [if_neg h]
    cases kind <;> cases other <;> first | exact absurd rfl h | rfl

/-- **A quoted literal is read as it was written.** -/
theorem read_literal (kind : Kind) (content : List Char) :
    Literal.read (kind.literal content) = some (.quoted kind content) := by
  have hnumeral : Numeral.read (kind.literal content) = none := by cases kind <;> rfl
  have hword : readWord (kind.literal content) = none := by cases kind <;> rfl
  have hkinds : readKinds (kind.literal content) = some (.quoted kind content) := by
    simp only [readKinds, Kind.read_literal]
    cases kind <;> rfl
  rw [Literal.read, hnumeral, hword]
  exact hkinds

/-- **A numeral is read as one.** -/
theorem read_number {text : List Char} {n : Numeral} (h : Numeral.read text = some n) :
    Literal.read text = some (.number n) := by
  rw [Literal.read, h]

theorem afterPrefix_eq_some {ps cs rest : List Char} (h : afterPrefix ps cs = some rest) :
    cs = ps ++ rest := by
  induction ps generalizing cs with
  | nil =>
    cases h
    rfl
  | cons p ps ih =>
    cases cs with
    | nil => cases h
    | cons c cs =>
      rw [afterPrefix] at h
      by_cases hp : p = c
      · rw [if_pos hp] at h
        rw [hp, List.cons_append, ← ih h]
      · rw [if_neg hp] at h
        cases h

/-- A text read as a quoted literal starts with its keyword. -/
theorem read_eq_quoted {text content : List Char} {kind : Kind}
    (h : Literal.read text = some (.quoted kind content)) :
    ∃ body, text = kind.keyword ++ quote :: body ∧ readQuoted body = some content := by
  rw [Literal.read] at h
  cases hnumeral : Numeral.read text with
  | some n =>
    rw [hnumeral] at h
    cases h
  | none =>
    rw [hnumeral] at h
    cases hword : readWord text with
    | some word =>
      rw [hword] at h
      cases h
      rw [readWord] at hword
      split at hword
      · cases hword
      · split at hword
        · cases hword
        · split at hword <;> cases hword
    | none =>
      rw [hword] at h
      obtain ⟨kind', -, hkind⟩ := List.exists_of_findSome?_eq_some h
      obtain ⟨content', hread, hquoted⟩ := Option.map_eq_some_iff.mp hkind
      cases hquoted
      obtain ⟨body, hprefix, hbody⟩ := Option.bind_eq_some_iff.mp hread
      refine ⟨body, ?_, hbody⟩
      rw [afterPrefix_eq_some hprefix, List.append_assoc, List.singleton_append]

/-- No text is the string literal of itself. -/
theorem read_ne_self (text : List Char) : Literal.read text ≠ some (.quoted .string text) := by
  intro h
  obtain ⟨body, htext, hbody⟩ := read_eq_quoted h
  have hlt := length_lt_of_readQuoted hbody
  have hlen := congrArg List.length htext
  rw [Kind.keyword, List.nil_append, List.length_cons] at hlen
  omega

/-! ## Bytes -/

/-- A hexadecimal digit. -/
def hexDigit (n : Nat) : Char := if n < 10 then Char.ofNat (48 + n) else Char.ofNat (87 + n)

/-- The value of a hexadecimal digit. -/
def hexValue (c : Char) : Option Nat :=
  if 48 ≤ c.toNat ∧ c.toNat ≤ 57 then some (c.toNat - 48)
  else if 97 ≤ c.toNat ∧ c.toNat ≤ 102 then some (c.toNat - 87)
  else none

/-- `bytes.hex()`. -/
def hexText (bytes : List UInt8) : List Char :=
  bytes.flatMap fun b => [hexDigit (b.toNat / 16), hexDigit (b.toNat % 16)]

/-- Bytes from pairs of hexadecimal digits. -/
def readHex : List Char → Option (List UInt8)
  | [] => some []
  | [_] => none
  | c :: d :: cs =>
    (hexValue c).bind fun high => (hexValue d).bind fun low =>
      (readHex cs).map (UInt8.ofNat (high * 16 + low) :: ·)

theorem hexValue_hexDigit {n : Nat} (h : n < 16) : hexValue (hexDigit n) = some n := by
  have hall : ∀ d : Fin 16, hexValue (hexDigit d) = some d.val := by decide
  exact hall ⟨n, h⟩

/-- **Bytes are read as they were written.** -/
theorem readHex_hexText (bytes : List UInt8) : readHex (hexText bytes) = some bytes := by
  induction bytes with
  | nil => rfl
  | cons b bytes ih =>
    have hb := b.toNat_lt
    have hhigh : hexValue (hexDigit (b.toNat / 16)) = some (b.toNat / 16) := hexValue_hexDigit (by omega)
    have hlow : hexValue (hexDigit (b.toNat % 16)) = some (b.toNat % 16) := hexValue_hexDigit (by omega)
    have hbyte : UInt8.ofNat (b.toNat / 16 * 16 + b.toNat % 16) = b := by
      rw [show b.toNat / 16 * 16 + b.toNat % 16 = b.toNat by omega, UInt8.ofNat_toNat]
    show ((hexValue (hexDigit (b.toNat / 16))).bind fun high =>
      (hexValue (hexDigit (b.toNat % 16))).bind fun low =>
        (readHex (hexText bytes)).map (UInt8.ofNat (high * 16 + low) :: ·)) = _
    rw [hhigh, Option.bind_some, hlow, Option.bind_some, ih, hbyte]
    rfl

/-- No digit is a quote. -/
theorem quote_notMem_hexText (bytes : List UInt8) : quote ∉ hexText bytes := by
  have hdigit : ∀ {n : Nat}, n < 16 → quote ≠ hexDigit n := by
    intro n hn heq
    have hvalue := hexValue_hexDigit hn
    rw [← heq] at hvalue
    cases hvalue
  intro hmem
  obtain ⟨b, -, hc⟩ := List.mem_flatMap.mp hmem
  have hb := b.toNat_lt
  rcases List.mem_cons.mp hc with hc | hc
  · exact hdigit (by omega) hc
  · exact hdigit (by omega) (List.mem_singleton.mp hc)

end FlightSql.Lib.SqlLiteral
