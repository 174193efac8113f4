/-
# Numbers, dates and texts of a configuration

Each reader takes the longest piece of its form from the front of a text, and returns it with the
rest. What is left over is for the reader of the whole to accept or refuse: `01` is the number zero
and a rest of `1`.

| form | as in |
| --- | --- |
| integers | `+99`, `1_000`, `0xff`, `0o17`, `0b11` |
| numbers with a fraction | `1.5`, `1e3`, `-inf`, `nan` |
| dates and times | `1979-05-27`, `07:32:00.5`, `1979-05-27T07:32:00Z` |
| texts | `"a\tb"`, `'a'`, and both with three quotes over several lines |
-/

import Reckoner.Binary64
import Reckoner.Decimal.Text
import Reckoner.Toml.Calendar

namespace Reckoner
namespace Toml

/-- Why a text is no configuration. -/
inductive Error where
  | malformed
  /-- An integer has more digits than are read. -/
  | integerTooLong (digits : Nat)
  /-- Arrays and inline tables are nested too deeply. -/
  | tooDeep
  deriving DecidableEq

/-- The wording for values that are nested too deeply. -/
def nestedTooDeeply : String := "maximum recursion depth exceeded"

/-- The wording of an error. -/
def Error.message : Error → String
  | malformed => "not a TOML document"
  | integerTooLong digits =>
    "Exceeds the limit (" ++ Digits.toText Digits.maxText ++
      " digits) for integer string conversion: value has " ++ Digits.toText digits ++
      " digits; use sys.set_int_max_str_digits() to increase the limit"
  | tooDeep => nestedTooDeeply

/-! ### Numbers -/

/-- Digits that satisfy `p`, with single underscores between them; the underscores are dropped. -/
def moreDigits (p : Char → Bool) : List Char → List Char × List Char
  | '_' :: c :: cs =>
    if p c then
      let (digits, rest) := moreDigits p cs
      (c :: digits, rest)
    else ([], '_' :: c :: cs)
  | c :: cs =>
    if p c then
      let (digits, rest) := moreDigits p cs
      (c :: digits, rest)
    else ([], c :: cs)
  | [] => ([], [])

/-- At least one digit that satisfies `p`, and more. -/
def someDigits? (p : Char → Bool) : List Char → Option (List Char × List Char)
  | c :: cs =>
    if p c then
      let (digits, rest) := moreDigits p cs
      some (c :: digits, rest)
    else none
  | [] => none

/-- The value of a hexadecimal digit. -/
def hexValue? (c : Char) : Option Nat :=
  if '0' ≤ c ∧ c ≤ '9' then some (c.toNat - 48)
  else if 'a' ≤ c ∧ c ≤ 'f' then some (c.toNat - 87)
  else if 'A' ≤ c ∧ c ≤ 'F' then some (c.toNat - 55)
  else none

/-- The number that digits write in a base. -/
def ofBase (base : Nat) (digits : List Char) : Nat :=
  digits.foldl (fun n c => n * base + (hexValue? c).getD 0) 0

/-- Whether `c` is a digit of a base up to sixteen. -/
def isDigitOf (base : Nat) (c : Char) : Bool := (hexValue? c).any (· < base)

/-- An integer in base sixteen, eight or two, from its mark on. -/
def readBased? : List Char → Option (Nat × List Char)
  | '0' :: mark :: cs => do
    let base ← [('x', 16), ('o', 8), ('b', 2)].lookup mark
    let (digits, rest) ← someDigits? (isDigitOf base) cs
    return (ofBase base digits, rest)
  | _ => none

/-- The whole part of a number: a zero alone, or digits of which the first is none. -/
def readWhole? : List Char → Option (List Char × List Char)
  | '0' :: cs => some (['0'], cs)
  | cs => someDigits? Decimal.isDigit cs

/-- The digits after a point, if a point with digits follows. -/
def readFraction : List Char → List Char × List Char
  | '.' :: cs => (someDigits? Decimal.isDigit cs).getD ([], '.' :: cs)
  | cs => ([], cs)

/-- The exponent, if one follows. -/
def readPower? (cs : List Char) : Option (Int × List Char) :=
  match cs with
  | c :: after =>
    if c = 'e' ∨ c = 'E' then do
      let (negative, after) := Decimal.readSign after
      let (digits, rest) ← someDigits? Decimal.isDigit after
      return (if negative then -(Digits.ofChars digits : Int) else Digits.ofChars digits, rest)
    else none
  | [] => none

/-- A number as it is read. -/
inductive Number where
  | integer (n : Int)
  | real (x : Binary64)
  /-- An integer of so many digits that it is not read. -/
  | tooLong (digits : Nat)

/-- A decimal integer, or a number with a fraction or an exponent. -/
def readDecimal? (cs : List Char) : Option (Number × List Char) := do
  let (negative, unsigned) := Decimal.readSign cs
  let (whole, afterWhole) ← readWhole? unsigned
  let (fraction, afterFraction) := readFraction afterWhole
  match fraction, readPower? afterFraction with
  | [], none =>
    if Digits.maxText < whole.length then return (.tooLong whole.length, afterFraction)
    else
      let n : Int := Digits.ofChars whole
      return (.integer (if negative then -n else n), afterFraction)
  | fraction, power =>
    let (exponent, rest) := power.getD (0, afterFraction)
    let coefficient := Digits.ofChars (whole ++ fraction)
    return (.real (.ofDecimal negative coefficient (exponent - fraction.length)), rest)

/-- A number in digits. -/
def readNumber? (cs : List Char) : Option (Number × List Char) :=
  (readBased? cs).map (fun (n, rest) => (.integer n, rest)) <|> readDecimal? cs

/-- A number that is not written in digits. -/
def readSpecial? (cs : List Char) : Option (Binary64 × List Char) :=
  let (negative, rest) := Decimal.readSign cs
  match rest with
  | 'i' :: 'n' :: 'f' :: rest => some (.infinite negative, rest)
  | 'n' :: 'a' :: 'n' :: rest => some (.notANumber, rest)
  | _ => none

/-! ### Dates and times -/

/-- A number of exactly `width` digits. -/
def readWidth? (width : Nat) (cs : List Char) : Option (Nat × List Char) :=
  let digits := cs.take width
  if digits.length = width ∧ digits.all Decimal.isDigit then
    some (Digits.ofChars digits, cs.drop width)
  else none

/-- A number of two digits from `low` to `high`. -/
def readTwo? (low high : Nat) (cs : List Char) : Option (Nat × List Char) := do
  let (n, rest) ← readWidth? 2 cs
  if low ≤ n ∧ n ≤ high then some (n, rest) else none

/-- A character that has to be there. -/
def skip? (c : Char) : List Char → Option (List Char)
  | d :: cs => if d = c then some cs else none
  | [] => none

/-- Millionths of a second after a point, if any; digits past the sixth are dropped. -/
def readMicroseconds : List Char → Nat × List Char
  | '.' :: cs =>
    let (digits, rest) := cs.span Decimal.isDigit
    if digits.isEmpty then (0, '.' :: cs)
    else (Digits.ofChars ((digits ++ List.replicate 6 '0').take 6), rest)
  | cs => (0, cs)

/-- A time of day. -/
def readTime? (cs : List Char) : Option (Time × List Char) := do
  let (hour, cs) ← readTwo? 0 23 cs
  let cs ← skip? ':' cs
  let (minute, cs) ← readTwo? 0 59 cs
  let cs ← skip? ':' cs
  let (second, cs) ← readTwo? 0 59 cs
  let (microsecond, cs) := readMicroseconds cs
  return (⟨hour, minute, second, microsecond⟩, cs)

/-- An offset from universal time in minutes. -/
def readOffset? : List Char → Option (Int × List Char)
  | c :: cs =>
    if c = 'Z' ∨ c = 'z' then some (0, cs)
    else if c = '+' ∨ c = '-' then do
      let (hours, cs) ← readTwo? 0 23 cs
      let cs ← skip? ':' cs
      let (minutes, cs) ← readTwo? 0 59 cs
      let offset : Int := hours * 60 + minutes
      return (if c = '-' then -offset else offset, cs)
    else none
  | [] => none

/-- A time behind a date, and perhaps an offset. -/
def readClock? : List Char → Option (Time × Option Int × List Char)
  | c :: cs =>
    if c = 'T' ∨ c = 't' ∨ c = ' ' then do
      let (time, cs) ← readTime? cs
      match readOffset? cs with
      | some (offset, cs) => return (time, some offset, cs)
      | none => return (time, none, cs)
    else none
  | [] => none

/-- The digits of a date; whether there is such a day is not asked. -/
def readDate? (cs : List Char) : Option (Date × List Char) := do
  let (year, cs) ← readWidth? 4 cs
  let cs ← skip? '-' cs
  let (month, cs) ← readTwo? 1 12 cs
  let cs ← skip? '-' cs
  let (day, cs) ← readTwo? 1 31 cs
  return (⟨year, month, day⟩, cs)

/-- A date, a date with a time, or a time; a day that does not exist is refused. -/
def readMoment? (cs : List Char) : Option (Except Error (Moment × List Char)) :=
  match readDate? cs with
  | some (date, cs) =>
    if !date.isValid then some (.error .malformed)
    else match readClock? cs with
      | some (time, offset, cs) => some (.ok (.both date time offset, cs))
      | none => some (.ok (.date date, cs))
  | none => (readTime? cs).map fun (time, cs) => .ok (.time time, cs)

/-! ### Texts -/

/-- Whether a character may not stand in a text as it is; a line feed may in several lines. -/
def isIllegal (multiline : Bool) (c : Char) : Bool :=
  (c.toNat < 32 || c.toNat = 127) && c != '\t' && !(multiline && c == '\n')

/-- The character of a code point in hexadecimal digits. -/
def ofHex? (digits : List Char) : Option Char :=
  let code := ofBase 16 digits
  if digits.all (isDigitOf 16) ∧ code.isValidChar then some (Char.ofNat code) else none

/-- The character that stands behind a backslash as one letter. -/
def escaped? (c : Char) : Option Char :=
  [('b', '\x08'), ('t', '\t'), ('n', '\n'), ('f', '\x0c'), ('r', '\r'), ('"', '"'),
    ('\\', '\\')].lookup c

/-- The escape behind a backslash: a character and the rest. -/
def readEscape? : List Char → Option (Char × List Char)
  | 'u' :: cs => if cs.length < 4 then none else (ofHex? (cs.take 4)).map (·, cs.drop 4)
  | 'U' :: cs => if cs.length < 8 then none else (ofHex? (cs.take 8)).map (·, cs.drop 8)
  | c :: cs => (escaped? c).map (·, cs)
  | [] => none

/-- An escape uses a character. -/
theorem length_readEscape? {cs rest : List Char} {c : Char}
    (h : readEscape? cs = some (c, rest)) : rest.length < cs.length := by
  unfold readEscape? at h
  split at h
  · split at h <;> simp at h
    obtain ⟨_, _, _, rfl⟩ := h
    simp only [List.length_cons, List.length_drop]
    omega
  · split at h <;> simp at h
    obtain ⟨_, _, _, rfl⟩ := h
    simp only [List.length_cons, List.length_drop]
    omega
  · simp at h
    obtain ⟨_, _, _, rfl⟩ := h
    exact Nat.lt_succ_self _
  · contradiction

/-- Whether `c` is a blank of this format. -/
def isSpace (c : Char) : Bool := c == ' ' || c == '\t'

/-- Whether `c` is a blank of this format or a line feed. -/
def isSpaceOrFeed (c : Char) : Bool := isSpace c || c == '\n'

/-- What follows a backslash at the end of a line: the blanks up to the next text are dropped. -/
def readContinuation? (cs : List Char) : Option (List Char) :=
  match cs with
  | c :: after =>
    if c = '\n' then some (after.dropWhile isSpaceOrFeed)
    else if isSpace c then
      match after.dropWhile isSpace with
      | '\n' :: rest => some (rest.dropWhile isSpaceOrFeed)
      | [] => some []
      | _ => none
    else none
  | [] => none

/-- What is left of a text behind its first characters is no longer than it. -/
theorem length_dropWhile_le (p : Char → Bool) (cs : List Char) :
    (cs.dropWhile p).length ≤ cs.length := (List.dropWhile_sublist p).length_le

/-- A line that is continued uses a character. -/
theorem length_readContinuation? {cs rest : List Char} (h : readContinuation? cs = some rest) :
    rest.length < cs.length := by
  unfold readContinuation? at h
  split at h
  · rename_i c after
    split at h
    · simp only [Option.some.injEq] at h
      have := length_dropWhile_le isSpaceOrFeed after
      simp only [← h, List.length_cons]
      omega
    · split at h <;> try contradiction
      split at h <;> try contradiction
      · rename_i rest' heq
        simp only [Option.some.injEq] at h
        have h₁ := length_dropWhile_le isSpace after
        have h₂ := length_dropWhile_le isSpaceOrFeed rest'
        rw [heq, List.length_cons] at h₁
        simp only [← h, List.length_cons]
        omega
      · simp only [Option.some.injEq] at h
        simp [← h]
  · contradiction

/-- The rest of a text in quotation marks; `done` is what has been read, last character first. -/
def readQuoted (multiline : Bool) (done : List Char) (cs : List Char) :
    Except Error (List Char × List Char) :=
  match cs with
  | [] => .error .malformed
  | '"' :: after =>
    if !multiline then .ok (done.reverse, after)
    else if ['"', '"'].isPrefixOf after then .ok (done.reverse, after.drop 2)
    else readQuoted multiline ('"' :: done) after
  | '\\' :: after =>
    match _continued : if multiline then readContinuation? after else none with
    | some rest => readQuoted multiline done rest
    | none =>
      match _escaped : readEscape? after with
      | some (c, rest) => readQuoted multiline (c :: done) rest
      | none => .error .malformed
  | c :: after =>
    if isIllegal multiline c then .error .malformed else readQuoted multiline (c :: done) after
termination_by cs.length
decreasing_by
  · exact Nat.lt_succ_self _
  · split at _continued
    · exact Nat.lt_succ_of_lt (length_readContinuation? _continued)
    · contradiction
  · exact Nat.lt_succ_of_lt (length_readEscape? _escaped)
  · exact Nat.lt_succ_self _

/-- The rest of a text between apostrophes on one line. -/
def readLiteral (cs : List Char) : Except Error (List Char × List Char) :=
  match cs.span fun c => c != '\'' && !isIllegal false c with
  | (text, '\'' :: rest) => .ok (text, rest)
  | _ => .error .malformed

/-- The rest of a text between three apostrophes; `done` is what has been read, last character
first. -/
def readLiteralLines (done : List Char) : List Char → Except Error (List Char × List Char)
  | '\'' :: '\'' :: '\'' :: rest => .ok (done.reverse, rest)
  | c :: rest => if isIllegal true c then .error .malformed else readLiteralLines (c :: done) rest
  | [] => .error .malformed

/-- Up to two quotes that stand directly in front of the three that end a text belong to it. -/
def addQuotes (quote : Char) : List Char × List Char → List Char × List Char
  | (text, c :: d :: rest) =>
    if c = quote then
      if d = quote then (text ++ [quote, quote], rest) else (text ++ [quote], d :: rest)
    else (text, c :: d :: rest)
  | (text, [c]) => if c = quote then (text ++ [quote], []) else (text, [c])
  | (text, []) => (text, [])

/-- A text without the line feed that it starts with. -/
def dropFeed : List Char → List Char
  | '\n' :: cs => cs
  | cs => cs

/-- A text in quotes on one line, as keys may be. -/
def readOneLine? : List Char → Option (Except Error (List Char × List Char))
  | '"' :: cs => some (readQuoted false [] cs)
  | '\'' :: cs => some (readLiteral cs)
  | _ => none

/-- A text in quotes. -/
def readText? (cs : List Char) : Option (Except Error (List Char × List Char)) :=
  match cs with
  | '"' :: '"' :: '"' :: rest => some ((readQuoted true [] (dropFeed rest)).map (addQuotes '"'))
  | '\'' :: '\'' :: '\'' :: rest =>
    some ((readLiteralLines [] (dropFeed rest)).map (addQuotes '\''))
  | cs => readOneLine? cs

end Toml
end Reckoner
