import ViewEngine.Number.Shortest

/-!
Laying out a decimal as text: digit by digit, or as a mantissa with a power of ten. Three layouts
are used: plain text (always positional), the general layout of values inside collections, and the
layout of numbers in data documents.
-/

namespace ViewEngine.Number

/-- Where a number is written positionally and how its exponent form looks. -/
structure Layout where
  /-- Leading-digit exponents `e` with `lo ≤ e < hi` are written positionally; `none`: always. -/
  positional : Option (Int × Int)
  /-- Least digit count of a non-negative exponent. -/
  posWidth : Nat
  /-- Least digit count of a negative exponent. -/
  negWidth : Nat

namespace Layout

/-- Plain text: every value digit by digit, however large or small. -/
def plain : Layout := ⟨none, 2, 2⟩

/-- Values inside collections: positional for leading exponents from -4 to 5, else `1e+06`,
`1e-05`, exponents of at least two digits. -/
def general : Layout := ⟨some (-4, 6), 2, 2⟩

/-- Numbers in data documents: positional for leading exponents from -6 to 20, else `1e+21`,
`1e-7`. -/
def data : Layout := ⟨some (-6, 21), 2, 1⟩

/-- `n` zero digits. -/
def zeros (n : Nat) : List Char := List.replicate n '0'

/-- The decimal digits of a number, padded with zeros in front to a width. -/
def padded (width n : Nat) : List Char :=
  let digits := (Nat.repr n).toList
  zeros (width - digits.length) ++ digits

/-- Writes a positive decimal with no trailing zero digits. -/
def write (l : Layout) (d : Decimal) : String :=
  let s := (Nat.repr d.digits).toList
  let n : Int := s.length
  let lead := n - 1 + d.exp
  let positional :=
    match l.positional with
    | none => true
    | some (lo, hi) => lo ≤ lead && lead < hi
  if positional then
    if d.exp ≥ 0 then String.ofList (s ++ zeros d.exp.toNat)
    else if lead ≥ 0 then
      let whole := (n + d.exp).toNat
      String.ofList (s.take whole ++ '.' :: s.drop whole)
    else String.ofList ('0' :: '.' :: zeros (-lead - 1).toNat ++ s)
  else
    let mantissa := match s with
      | [] => ['0']
      | [c] => [c]
      | c :: rest => c :: '.' :: rest
    let power :=
      if lead < 0 then '-' :: padded l.negWidth (-lead).toNat else '+' :: padded l.posWidth lead.toNat
    String.ofList (mantissa ++ 'e' :: power)

/-- The text of a reading in a format: shortest digits for finite values, `NaN`, `+Inf`, `-Inf`. -/
def render (l : Layout) (f : Format) (r : Reading) : String :=
  match r with
  | .nan => "NaN"
  | .infinite negative => if negative then "-Inf" else "+Inf"
  | .finite negative m q =>
    let sign := if negative then "-" else ""
    match f.scaled? (.finite negative m q) with
    | none => sign ++ "0"
    | some x => sign ++ l.write x.shortest

end Layout

/-- The plain text of a 64-bit value. -/
def Binary64.plainText (x : Binary64) : String := Layout.plain.render .binary64 x.read

/-- The text of a 64-bit value inside a collection. -/
def Binary64.generalText (x : Binary64) : String := Layout.general.render .binary64 x.read

/-- The text of a finite 64-bit value in a data document. -/
def Binary64.dataText (x : Binary64) : String := Layout.data.render .binary64 x.read

/-- The plain text of a 32-bit value, with the digits that single out the 32-bit value. -/
def Binary32.plainText (x : Binary32) : String := Layout.plain.render .binary32 x.read

/-- The text of a 32-bit value inside a collection. -/
def Binary32.generalText (x : Binary32) : String := Layout.general.render .binary32 x.read

end ViewEngine.Number
