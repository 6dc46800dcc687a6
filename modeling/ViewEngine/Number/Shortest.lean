import ViewEngine.Number.Binary

/-!
Shortest decimals: the decimal with the fewest digits among those that read back as a given binary
value, the nearest of them when two qualify, a tie going to the even one.
-/

namespace ViewEngine.Number

/-- The decimal `digits * 10 ^ exp`. -/
structure Decimal where
  /-- The significant digits as a number. -/
  digits : Nat
  /-- The power of ten of the last digit. -/
  exp : Int
  deriving Repr, DecidableEq, Inhabited

/-- Compares `a * 10 ^ i` with `n * 2 ^ j` exactly. -/
def cmpScaled (a : Nat) (i : Int) (n : Nat) (j : Int) : Ordering :=
  compare (a * Nat.pow 10 i.toNat * Nat.pow 2 (-j).toNat) (n * Nat.pow 2 j.toNat * Nat.pow 10 (-i).toNat)

/-- A positive finite binary value `m * 2 ^ q`, with the flag telling that the gap to the value
below is half the gap to the value above (a power of two above the least normal value). -/
structure Scaled where
  /-- The integer significand. -/
  m : Nat
  /-- The binary exponent. -/
  q : Int
  /-- Whether the neighbour below is twice as close as the neighbour above. -/
  narrowBelow : Bool

/-- The positive value of a finite reading in a format, when it is not zero. -/
def Format.scaled? (f : Format) : Reading → Option Scaled
  | .finite _ m q =>
    if m == 0 then none else some ⟨m, q, m == Nat.pow 2 f.fractionBits && q > f.minExponent⟩
  | _ => none

namespace Scaled

/-- Whether a decimal lies among the reals that round to this value (ends included when the
significand is even). -/
def readsBack (x : Scaled) (d : Decimal) : Bool :=
  let lo := if x.narrowBelow then 4 * x.m - 1 else 4 * x.m - 2
  let hi := 4 * x.m + 2
  let inclusive := x.m % 2 == 0
  let low := cmpScaled d.digits d.exp lo (x.q - 2)
  let high := cmpScaled d.digits d.exp hi (x.q - 2)
  (low == .gt || (inclusive && low == .eq)) && (high == .lt || (inclusive && high == .eq))

/-- Whether the value is below `10 ^ k`. -/
def belowPow10 (x : Scaled) (k : Int) : Bool :=
  cmpScaled 1 k x.m x.q == .gt

/-- Moves a guess of the decimal scale up until the value is below `10 ^ k`. -/
def raiseScale (x : Scaled) : Nat → Int → Int
  | 0, k => k
  | fuel + 1, k => if x.belowPow10 k then k else raiseScale x fuel (k + 1)

/-- Moves a guess of the decimal scale down while the value stays below `10 ^ (k - 1)`. -/
def lowerScale (x : Scaled) : Nat → Int → Int
  | 0, k => k
  | fuel + 1, k => if x.belowPow10 (k - 1) then lowerScale x fuel (k - 1) else k

/-- The least `k` with the value below `10 ^ k`: estimated from the binary length, then corrected. -/
def scale (x : Scaled) : Int :=
  let bitLength : Int := (Nat.log2 x.m : Int) + 1 + x.q
  let guess := (bitLength - 1) * 30103 / 100000 + 1
  x.lowerScale 4 (x.raiseScale 4 guess)

/-- The value divided by `10 ^ g`, as the floor of a ratio `num / den` kept exact. -/
def ratioAt (x : Scaled) (g : Int) : Nat × Nat :=
  (x.m * Nat.pow 2 x.q.toNat * Nat.pow 10 (-g).toNat, Nat.pow 2 (-x.q).toNat * Nat.pow 10 g.toNat)

/-- The decimal of a grid `10 ^ g` that reads back, if one of the two grid points around the
value does; of two the nearer, and on a tie the even one. -/
def candidateAt (x : Scaled) (g : Int) : Option Decimal :=
  let (num, den) := x.ratioAt g
  let below := num / den
  let lowHit := x.readsBack ⟨below, g⟩
  let highHit := x.readsBack ⟨below + 1, g⟩
  if lowHit && highHit then
    -- Twice the value against the midpoint of the two grid points decides the nearer.
    match compare (2 * num) ((2 * below + 1) * den) with
    | .lt => some ⟨below, g⟩
    | .gt => some ⟨below + 1, g⟩
    | .eq => some (if below % 2 == 0 then ⟨below, g⟩ else ⟨below + 1, g⟩)
  else if lowHit then some ⟨below, g⟩
  else if highHit then some ⟨below + 1, g⟩
  else none

/-- Tries grids of `n`, `n + 1`, … significant digits, up to seventeen. -/
def search (x : Scaled) (k : Int) : Nat → Nat → Option Decimal
  | 0, _ => none
  | fuel + 1, n =>
    match x.candidateAt (k - n) with
    | some d => some d
    | none => search x k fuel (n + 1)

/-- The exact decimal expansion of the value. -/
def exact (x : Scaled) : Decimal :=
  if x.q ≥ 0 then ⟨x.m * Nat.pow 2 x.q.toNat, 0⟩ else ⟨x.m * Nat.pow 5 (-x.q).toNat, x.q⟩

end Scaled

/-- Removes trailing zero digits into the exponent. -/
def Decimal.trim (d : Decimal) : Decimal :=
  if zero : d.digits ≠ 0 ∧ d.digits % 10 = 0 then
    Decimal.trim ⟨d.digits / 10, d.exp + 1⟩
  else d
termination_by d.digits
decreasing_by
  -- Dividing a positive number by ten makes it smaller.
  exact Nat.div_lt_self (Nat.pos_of_ne_zero zero.1) (by decide)

/-- The shortest decimal that reads back as the value, without trailing zeros. -/
def Scaled.shortest (x : Scaled) : Decimal :=
  (match x.search x.scale 17 1 with
   | some d => d
   | none => x.exact).trim

end ViewEngine.Number
