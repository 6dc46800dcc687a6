/-! Binary floating-point values: reading a bit pattern, and the nearest pattern to an exact ratio. -/

namespace ViewEngine.Number

/-- An interchange format: the widths of the fraction and exponent fields of a bit pattern. -/
structure Format where
  /-- Bits of the stored fraction. -/
  fractionBits : Nat
  /-- Bits of the biased exponent. -/
  exponentBits : Nat

namespace Format

/-- The 64-bit format: 52 fraction bits, 11 exponent bits. -/
def binary64 : Format := ⟨52, 11⟩

/-- The 32-bit format: 23 fraction bits, 8 exponent bits. -/
def binary32 : Format := ⟨23, 8⟩

/-- The exponent bias. -/
def bias (f : Format) : Nat := Nat.pow 2 (f.exponentBits - 1) - 1

/-- The all-ones exponent field, which marks infinities and NaN. -/
def topField (f : Format) : Nat := Nat.pow 2 f.exponentBits - 1

/-- The binary exponent of the last fraction bit of the subnormal and least normal values. -/
def minExponent (f : Format) : Int := 1 - (f.bias : Int) - f.fractionBits

/-- The width of a whole bit pattern. -/
def width (f : Format) : Nat := f.fractionBits + f.exponentBits + 1

end Format

/-- What a bit pattern stands for. -/
inductive Reading where
  /-- Not a number. -/
  | nan
  /-- An infinity of the given sign. -/
  | infinite (negative : Bool)
  /-- The value `m * 2 ^ q` with the given sign; `m = 0` is a signed zero. -/
  | finite (negative : Bool) (m : Nat) (q : Int)
  deriving Repr, DecidableEq, Inhabited

namespace Format

/-- Reads a bit pattern: sign, biased exponent and fraction fields. -/
def read (f : Format) (bits : Nat) : Reading :=
  let fraction := bits % Nat.pow 2 f.fractionBits
  let field := (bits / Nat.pow 2 f.fractionBits) % Nat.pow 2 f.exponentBits
  let negative := (bits / Nat.pow 2 (f.fractionBits + f.exponentBits)) % 2 == 1
  if field == f.topField then
    if fraction == 0 then .infinite negative else .nan
  else if field == 0 then .finite negative fraction f.minExponent
  else .finite negative (Nat.pow 2 f.fractionBits + fraction) ((field : Int) - f.bias - f.fractionBits)

/-- The bit pattern of a sign over magnitude fields. -/
def assemble (f : Format) (negative : Bool) (field fraction : Nat) : Nat :=
  (if negative then Nat.pow 2 (f.width - 1) else 0) + field * Nat.pow 2 f.fractionBits + fraction

/-- The pattern of an infinity. -/
def infinity (f : Format) (negative : Bool) : Nat :=
  f.assemble negative f.topField 0

/-- The pattern of the quiet NaN that arithmetic produces. -/
def quietNan (f : Format) : Nat :=
  f.assemble false f.topField (Nat.pow 2 (f.fractionBits - 1)) + 1

/-- The greatest `e` with `2 ^ e ≤ num / den`, for positive `num` and `den`. -/
def floorLog2 (num den : Nat) : Int :=
  let guess : Int := (Nat.log2 num : Int) - Nat.log2 den
  -- The guess is the true exponent or one above it.
  let reached := if guess ≥ 0 then num ≥ den * Nat.pow 2 guess.toNat else num * Nat.pow 2 (-guess).toNat ≥ den
  if reached then guess else guess - 1

/-- Divides with rounding to the nearest integer, a tie going to the even neighbour. -/
def roundHalfEven (num den : Nat) : Nat :=
  let quotient := num / den
  let twice := 2 * (num % den)
  if twice > den || (twice == den && quotient % 2 == 1) then quotient + 1 else quotient

/-- The pattern nearest to `num / den` (ties to even), overflowing to infinity. -/
def nearest (f : Format) (negative : Bool) (num den : Nat) : Nat :=
  if num == 0 || den == 0 then f.assemble negative 0 0
  else
    let e := floorLog2 num den
    -- The last kept bit weighs 2^q: fraction bits below the leading one, never below subnormals.
    let q := max (e - f.fractionBits) f.minExponent
    let m :=
      if q ≥ 0 then roundHalfEven num (den * Nat.pow 2 q.toNat)
      else roundHalfEven (num * Nat.pow 2 (-q).toNat) den
    -- Rounding up may carry into a new leading bit.
    let (m, q) := if m == Nat.pow 2 (f.fractionBits + 1) then (m / 2, q + 1) else (m, q)
    if m < Nat.pow 2 f.fractionBits then f.assemble negative 0 m
    else
      let field := q + f.bias + f.fractionBits
      if field ≥ f.topField then f.infinity negative
      else f.assemble negative field.toNat (m - Nat.pow 2 f.fractionBits)

/-- The pattern nearest to `m * 2 ^ q`. -/
def ofScaled (f : Format) (negative : Bool) (m : Nat) (q : Int) : Nat :=
  if q ≥ 0 then f.nearest negative (m * Nat.pow 2 q.toNat) 1 else f.nearest negative m (Nat.pow 2 (-q).toNat)

/-- The pattern nearest to `digits * 10 ^ exp`. -/
def ofDecimal (f : Format) (negative : Bool) (digits : Nat) (exp : Int) : Nat :=
  if exp ≥ 0 then f.nearest negative (digits * Nat.pow 10 exp.toNat) 1
  else f.nearest negative digits (Nat.pow 10 (-exp).toNat)

end Format

namespace Reading

/-- The integer part of a finite value, truncated toward zero. -/
def truncate : Reading → Option Int
  | .finite negative m q =>
    let magnitude := if q ≥ 0 then m * Nat.pow 2 q.toNat else m / Nat.pow 2 (-q).toNat
    some (if negative then -(magnitude : Int) else magnitude)
  | _ => none

/-- Whether the value is a zero of either sign. -/
def isZero : Reading → Bool
  | .finite _ m _ => m == 0
  | _ => false

/-- Whether the value is below zero (NaN is not). -/
def isNegative : Reading → Bool
  | .finite negative m _ => negative && m != 0
  | .infinite negative => negative
  | .nan => false

end Reading

/-- A 64-bit binary floating-point value, held by its bit pattern. -/
structure Binary64 where
  /-- The bit pattern. -/
  bits : UInt64
  deriving DecidableEq, Repr, Inhabited

/-- A 32-bit binary floating-point value, held by its bit pattern. -/
structure Binary32 where
  /-- The bit pattern. -/
  bits : UInt32
  deriving DecidableEq, Repr, Inhabited

namespace Binary64

/-- What the value stands for. -/
def read (x : Binary64) : Reading := Format.binary64.read x.bits.toNat

/-- The value nearest to `digits * 10 ^ exp`. -/
def ofDecimal (negative : Bool) (digits : Nat) (exp : Int) : Binary64 :=
  ⟨(Format.binary64.ofDecimal negative digits exp).toUInt64⟩

/-- The value nearest to an integer. -/
def ofInt (n : Int) : Binary64 :=
  ⟨(Format.binary64.nearest (n < 0) n.natAbs 1).toUInt64⟩

/-- Positive or negative zero. -/
def zero (negative : Bool) : Binary64 := ofDecimal negative 0 0

/-- An infinity. -/
def infinity (negative : Bool) : Binary64 := ⟨(Format.binary64.infinity negative).toUInt64⟩

/-- The quiet NaN. -/
def nan : Binary64 := ⟨(Format.binary64.quietNan).toUInt64⟩

/-- Whether the value equals zero. -/
def isZero (x : Binary64) : Bool := x.read.isZero

/-- The 32-bit value nearest to this one; a NaN keeps its sign and leading payload bits, made quiet. -/
def toBinary32 (x : Binary64) : Binary32 :=
  match x.read with
  | .nan =>
    let bits := x.bits.toNat
    let payload := (bits % Nat.pow 2 52) / Nat.pow 2 29 ||| Nat.pow 2 22
    ⟨(Format.binary32.assemble (bits / Nat.pow 2 63 == 1) Format.binary32.topField payload).toUInt32⟩
  | .infinite negative => ⟨(Format.binary32.infinity negative).toUInt32⟩
  | .finite negative m q => ⟨(Format.binary32.ofScaled negative m q).toUInt32⟩

end Binary64

namespace Binary32

/-- What the value stands for. -/
def read (x : Binary32) : Reading := Format.binary32.read x.bits.toNat

/-- The value nearest to `digits * 10 ^ exp`. -/
def ofDecimal (negative : Bool) (digits : Nat) (exp : Int) : Binary32 :=
  ⟨(Format.binary32.ofDecimal negative digits exp).toUInt32⟩

/-- The value nearest to an integer. -/
def ofInt (n : Int) : Binary32 :=
  ⟨(Format.binary32.nearest (n < 0) n.natAbs 1).toUInt32⟩

/-- The same value in the 64-bit format, which holds every 32-bit value exactly; a NaN keeps its
payload bits at the top of the wider fraction, made quiet. -/
def toBinary64 (x : Binary32) : Binary64 :=
  match x.read with
  | .nan =>
    let bits := x.bits.toNat
    let payload := ((bits % Nat.pow 2 23) ||| Nat.pow 2 22) * Nat.pow 2 29
    ⟨(Format.binary64.assemble (bits / Nat.pow 2 31 == 1) Format.binary64.topField payload).toUInt64⟩
  | .infinite negative => Binary64.infinity negative
  | .finite negative m q => ⟨(Format.binary64.ofScaled negative m q).toUInt64⟩

end Binary32

end ViewEngine.Number
