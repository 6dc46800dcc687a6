import ViewEngine.Number.Binary
import ViewEngine.Text.Quote

/-!
Reading numbers and truth values from text: decimal and hexadecimal floating-point literals,
integers with an optional base prefix, and the spellings of true and false. A failure is either
bad syntax or a value out of the target's range.
-/

namespace ViewEngine.Number

/-- Why a text is not a number of the wanted kind. -/
inductive ReadError where
  /-- The text is not spelt as such a number. -/
  | malformed
  /-- The text is a number, but the target cannot hold it. -/
  | range
  deriving DecidableEq, Repr, Inhabited

/-- A failed reading: which reader, the text, and why. -/
structure ReadFailure where
  /-- The reader that failed, e.g. `ParseInt`. -/
  reader : String
  /-- The text that was read. -/
  input : String
  /-- Why it failed. -/
  cause : ReadError
  deriving DecidableEq, Repr, Inhabited

/-- The message of a failed reading. -/
def ReadFailure.message (e : ReadFailure) : String :=
  "strconv." ++ e.reader ++ ": parsing " ++ Text.quote e.input ++ ": " ++
    (match e.cause with
     | .malformed => "invalid syntax"
     | .range => "value out of range")

/-- Lower-cases an ASCII letter. -/
def lowerAscii (c : Char) : Char :=
  if 'A' ≤ c && c ≤ 'Z' then Char.ofNat (c.toNat + 32) else c

/-- The value of a digit in bases up to 36, if the character is one. -/
def digitValue (c : Char) : Option Nat :=
  let l := lowerAscii c
  if '0' ≤ c && c ≤ '9' then some (c.toNat - 48)
  else if 'a' ≤ l && l ≤ 'z' then some (l.toNat - 87)
  else none

/-- Whether the underscores of a literal each stand between two digits, or between a base prefix
and a digit. -/
def underscoresFit (s : List Char) : Bool :=
  let body := match s with
    | '+' :: rest => rest
    | '-' :: rest => rest
    | rest => rest
  let (start, hex, body) := match body with
    | '0' :: c :: rest =>
      let l := lowerAscii c
      if l == 'b' || l == 'o' || l == 'x' then ('0', l == 'x', rest) else ('^', false, body)
    | _ => ('^', false, body)
  -- The last class seen: '^' start, '0' digit or prefix, '_' underscore, '!' anything else.
  let step (seen : Option Char) (c : Char) : Option Char :=
    match seen with
    | none => none
    | some last =>
      let l := lowerAscii c
      if ('0' ≤ c && c ≤ '9') || (hex && 'a' ≤ l && l ≤ 'f') then some '0'
      else if c == '_' then (if last == '0' then some '_' else none)
      else if last == '_' then none
      else some '!'
  match body.foldl step (some start) with
  | some last => last != '_'
  | none => false

/-- The digits of a floating-point literal as read: the digit value, the scale of the point, and
whether the literal is hexadecimal (scale in bits) or decimal (scale in tens). -/
structure FloatLiteral where
  /-- The sign. -/
  negative : Bool
  /-- All significant digits as one number. -/
  mantissa : Nat
  /-- The power (of two for hexadecimal, of ten for decimal) of the last digit. -/
  exponent : Int
  /-- Whether the literal is hexadecimal. -/
  hex : Bool

/-- Reads the mantissa digits of a literal: the value, the digits after the point, whether any
digit was seen, whether an underscore was, and the rest of the text. -/
def scanMantissa (hex : Bool) : List Char → Nat → Option Nat → Bool → Bool →
    Nat × Option Nat × Bool × Bool × List Char
  | [], value, after, seen, underscore => (value, after, seen, underscore, [])
  | c :: rest, value, after, seen, underscore =>
    let base := if hex then 16 else 10
    let bump := fun (a : Option Nat) => a.map (· + 1)
    if c == '_' then scanMantissa hex rest value after seen true
    else if c == '.' then
      if after.isSome then (value, after, seen, underscore, c :: rest)
      else scanMantissa hex rest value (some 0) seen underscore
    else
      match digitValue c with
      | some d =>
        if d < base then scanMantissa hex rest (value * base + d) (bump after) true underscore
        else (value, after, seen, underscore, c :: rest)
      | none => (value, after, seen, underscore, c :: rest)

/-- Reads the decimal digits of an exponent (capped, since a larger one only saturates). -/
def scanExponent : List Char → Nat → Bool → Nat × Bool × List Char
  | [], value, underscore => (value, underscore, [])
  | c :: rest, value, underscore =>
    if c == '_' then scanExponent rest value true
    else if '0' ≤ c && c ≤ '9' then
      scanExponent rest (if value < 10000 then value * 10 + (c.toNat - 48) else value) underscore
    else (value, underscore, c :: rest)

/-- Reads a floating-point literal at the start of a text; the rest of the text follows it. -/
def scanFloat (s : List Char) : Option (FloatLiteral × List Char) :=
  let (negative, body) := match s with
    | '+' :: rest => (false, rest)
    | '-' :: rest => (true, rest)
    | rest => (false, rest)
  let (hex, body) := match body with
    | '0' :: c :: d :: rest => if lowerAscii c == 'x' then (true, d :: rest) else (false, body)
    | _ => (false, body)
  let (mantissa, after, seen, underscore, rest) := scanMantissa hex body 0 none false false
  if !seen then none
  else
    let fractionDigits : Int := after.getD 0
    let unit : Int := if hex then 4 else 1
    let mark := if hex then 'p' else 'e'
    let exponentPart : Option (Int × Bool × List Char) :=
      match rest with
      | c :: more =>
        if lowerAscii c == mark then
          let (sign, digits) := match more with
            | '+' :: r => ((1 : Int), r)
            | '-' :: r => (-1, r)
            | r => (1, r)
          match digits with
          | d :: _ =>
            if '0' ≤ d && d ≤ '9' then
              let (value, underscoreExp, tail) := scanExponent digits 0 false
              some (sign * value, underscoreExp, tail)
            else none
          | [] => none
        else if hex then none else some (0, false, rest)
      | [] => if hex then none else some (0, false, [])
    match exponentPart with
    | none => none
    | some (power, underscoreExp, tail) =>
      let consumed := s.take (s.length - tail.length)
      if (underscore || underscoreExp) && !underscoresFit consumed then none
      else some (⟨negative, mantissa, power - fractionDigits * unit, hex⟩, tail)

/-- Whether a text starts with a word, ignoring ASCII case; the length of the common prefix. -/
def commonPrefixIgnoringCase (s word : List Char) : Nat :=
  match s, word with
  | c :: rest, w :: more => if lowerAscii c == w then commonPrefixIgnoringCase rest more + 1 else 0
  | _, _ => 0

/-- The special spellings: an optionally signed `inf` or `infinity`, or an unsigned `nan`, each in
any case, as a reading and the number of characters they take. -/
def scanSpecial (s : List Char) : Option (Reading × Nat) :=
  let infinity := fun (negative : Bool) (rest : List Char) (signLength : Nat) =>
    let n := commonPrefixIgnoringCase rest "infinity".toList
    let n := if 3 < n && n < 8 then 3 else n
    if n == 3 || n == 8 then some (Reading.infinite negative, signLength + n) else none
  match s with
  | '+' :: rest => infinity false rest 1
  | '-' :: rest => infinity true rest 1
  | c :: rest =>
    let l := lowerAscii c
    if l == 'i' then infinity false (c :: rest) 0
    else if l == 'n' then
      if commonPrefixIgnoringCase (c :: rest) "nan".toList == 3 then some (.nan, 3) else none
    else none
  | [] => none

/-- The bit pattern of a quiet NaN in a format. -/
def Format.nanPattern (f : Format) : Nat := f.quietNan

/-- The pattern nearest to the value a whole text spells in a format, an overflow giving an
infinity; `none` when the text is not a floating-point literal. -/
def Format.nearestOfText (f : Format) (s : String) : Option Nat :=
  let cs := s.toList
  match scanSpecial cs with
  | some (r, n) =>
    if n != cs.length then none
    else match r with
      | .nan => some f.nanPattern
      | .infinite negative => some (f.infinity negative)
      | .finite _ _ _ => none
  | none =>
    match scanFloat cs with
    | none => none
    | some (lit, rest) =>
      if !rest.isEmpty then none
      else if lit.hex then some (f.ofScaled lit.negative lit.mantissa lit.exponent)
      else some (f.ofDecimal lit.negative lit.mantissa lit.exponent)

/-- Reads a whole text as a floating-point value of a format, rounding to nearest; a finite
literal that overflows to infinity is a range failure. -/
def Format.readFloat (f : Format) (s : String) : Except ReadError Nat :=
  match f.nearestOfText s with
  | none => .error .malformed
  | some bits =>
    match f.read bits, scanSpecial s.toList with
    | .infinite _, none => .error .range
    | _, _ => .ok bits

/-- Reads a whole text as a 64-bit floating-point value. -/
def Binary64.readText (s : String) : Except ReadError Binary64 :=
  (Format.binary64.readFloat s).map (fun bits => ⟨bits.toUInt64⟩)

/-- A 32-bit value read from text: a NaN is the narrowing of the 64-bit NaN that text spells. -/
def Binary32.ofTextPattern (bits : Nat) : Binary32 :=
  match Format.binary32.read bits with
  | .nan => Binary64.nan.toBinary32
  | _ => ⟨bits.toUInt32⟩

/-- Reads a whole text as a 32-bit floating-point value. -/
def Binary32.readText (s : String) : Except ReadError Binary32 :=
  (Format.binary32.readFloat s).map Binary32.ofTextPattern

/-- The 64-bit value a text spells, an overflow giving an infinity. -/
def Binary64.nearestOfText (s : String) : Option Binary64 :=
  (Format.binary64.nearestOfText s).map (fun bits => ⟨bits.toUInt64⟩)

/-- The 32-bit value a text spells, an overflow giving an infinity. -/
def Binary32.nearestOfText (s : String) : Option Binary32 :=
  (Format.binary32.nearestOfText s).map Binary32.ofTextPattern

/-- Accumulates digits of a base, stopping at the first bad character (bad syntax) or at the
first digit that takes the value past `limit` (out of range). -/
def accumulate (base limit : Nat) (allowUnderscore : Bool) : List Char → Nat → Bool →
    Except ReadError (Nat × Bool)
  | [], value, underscore => .ok (value, underscore)
  | c :: rest, value, underscore =>
    if c == '_' && allowUnderscore then accumulate base limit allowUnderscore rest value true
    else
      match digitValue c with
      | none => .error .malformed
      | some d =>
        if d ≥ base then .error .malformed
        else
          let next := value * base + d
          if next > limit then .error .range
          else accumulate base limit allowUnderscore rest next underscore

/-- Reads a whole text as an unsigned integer of a bit width. The base is ten, or given by a
prefix `0b`, `0o`, `0x`, or a leading `0` for octal; underscores may separate digits. -/
def readNat (s : String) (width : Nat) : Except ReadError Nat :=
  let cs := s.toList
  if cs.isEmpty then .error .malformed
  else
    let (base, digits) := match cs with
      | '0' :: c :: d :: rest =>
        let l := lowerAscii c
        if l == 'b' then (2, d :: rest)
        else if l == 'o' then (8, d :: rest)
        else if l == 'x' then (16, d :: rest)
        else (8, c :: d :: rest)
      | '0' :: rest => (8, rest)
      | rest => (10, rest)
    match accumulate base (Nat.pow 2 width - 1) true digits 0 false with
    | .error e => .error e
    | .ok (value, underscore) =>
      if underscore && !underscoresFit cs then .error .malformed else .ok value

/-- Reads a whole text as a signed integer of a bit width, with an optional sign. -/
def readInt (s : String) (width : Nat) : Except ReadError Int :=
  let cs := s.toList
  if cs.isEmpty then .error .malformed
  else
    let (negative, body) := match cs with
      | '+' :: rest => (false, rest)
      | '-' :: rest => (true, rest)
      | rest => (false, rest)
    let cutoff := Nat.pow 2 (width - 1)
    match readNat (String.ofList body) 64 with
    | .error .malformed => .error .malformed
    | .error .range => .error .range
    | .ok n =>
      if !negative && n ≥ cutoff then .error .range
      else if negative && n > cutoff then .error .range
      else .ok (if negative then -(n : Int) else n)

/-- Reads the spellings of a truth value: `1 t T TRUE true True` and `0 f F FALSE false False`. -/
def readBool (s : String) : Except ReadError Bool :=
  if ["1", "t", "T", "TRUE", "true", "True"].contains s then .ok true
  else if ["0", "f", "F", "FALSE", "false", "False"].contains s then .ok false
  else .error .malformed

end ViewEngine.Number
