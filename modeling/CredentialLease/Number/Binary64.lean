import CredentialLease.Time

/-!
# Durations as binary floating-point seconds, in decimal

Time limits are reported in seconds as 64-bit floating-point numbers: the whole seconds and the
fraction are rounded to 53 significant bits each, and so is their sum. `Fraction.text` writes such
a number with the fewest decimal digits that round back to it, without an exponent. All numbers
here are zero or in the normal range, so the exponent is not bounded.
-/

namespace CredentialLease.Number

/-- A non-negative fraction; the denominator is meant to be positive. -/
structure Fraction where
  num : Nat
  den : Nat
deriving DecidableEq

/-- The sum of two fractions. -/
def Fraction.add (x y : Fraction) : Fraction := ⟨x.num * y.den + y.num * x.den, x.den * y.den⟩

/-- Whether two fractions are equal as numbers. -/
def Fraction.same (x y : Fraction) : Bool := x.num * y.den == y.num * x.den

/-- The integer nearest to a fraction, the even one of two that are equally near. -/
def Fraction.round (x : Fraction) : Nat :=
  let floor := x.num / x.den
  let twice := 2 * (x.num % x.den)
  if twice < x.den then floor
  else if x.den < twice then floor + 1
  else floor + floor % 2

/-- The fraction times `base` to an integer power. -/
def Fraction.scale (x : Fraction) (base : Nat) (exponent : Int) : Fraction :=
  if 0 ≤ exponent then ⟨x.num * base.pow exponent.toNat, x.den⟩
  else ⟨x.num, x.den * base.pow (-exponent).toNat⟩

/-! ### Rounding to binary -/

/-- The integer `e` with `2 ^ e ≤ x < 2 ^ (e + 1)`, for positive `x`. -/
def Fraction.binaryExponent (x : Fraction) : Int :=
  let guess : Int := (x.num.log2 : Int) - x.den.log2
  let scaled := x.scale 2 (-guess)
  if scaled.num < scaled.den then guess - 1 else guess

/-- The nearest number with 53 significant bits, ties to even. -/
def Fraction.toBinary64 (x : Fraction) : Fraction :=
  if x.num = 0 then ⟨0, 1⟩
  else
    let shift := 52 - x.binaryExponent
    Fraction.scale ⟨(x.scale 2 shift).round, 1⟩ 2 (-shift)

/-! ### Decimal text -/

/-- The number of decimal digits before the point that `x` needs, negative when zeros follow
the point: the `e` with `10 ^ (e - 1) ≤ x < 10 ^ e`, for positive `x`. -/
def Fraction.decimalExponent (x : Fraction) : Int :=
  if x.den ≤ x.num then ((Nat.toDigits 10 (x.num / x.den)).length : Int)
  else
    let inverse := x.den / x.num
    let guess : Int := 1 - ((Nat.toDigits 10 inverse).length : Int)
    let scaled := x.scale 10 (-guess)
    if scaled.num < scaled.den then guess else guess + 1

/-- The nearest decimal with `digits` significant digits: its digits as a number, and the power
of ten they are multiplied by. -/
def Fraction.toDecimal (x : Fraction) (digits : Nat) : Nat × Int :=
  let power := x.decimalExponent - digits
  ((x.scale 10 (-power)).round, power)

/-- The shortest decimal that rounds to the binary number `x`, with at least `digits` digits. The
search ends by 17 digits, which always suffice. -/
def Fraction.shortest (x : Fraction) : Nat → Nat → Nat × Int
  | 0, digits => x.toDecimal digits
  | fuel + 1, digits =>
    let decimal := x.toDecimal digits
    if (Fraction.scale ⟨decimal.1, 1⟩ 10 decimal.2).toBinary64.same x then decimal
    else x.shortest fuel (digits + 1)

/-- A decimal without an exponent and without trailing zeros after the point. -/
def plainDecimal (digits : Nat) (power : Int) : String :=
  if 0 ≤ power then toString (digits * Nat.pow 10 power.toNat)
  else
    let places := (-power).toNat
    let whole := digits / Nat.pow 10 places
    let fraction := Nat.toDigits 10 (digits % Nat.pow 10 places)
    let padded := List.replicate (places - fraction.length) '0' ++ fraction
    let shown := (padded.reverse.dropWhile (· = '0')).reverse
    if shown = [] then toString whole else toString whole ++ "." ++ String.ofList shown

/-- The shortest text of a binary number. -/
def Fraction.text (x : Fraction) : String :=
  if x.num = 0 then "0"
  else
    let decimal := x.shortest 16 1
    plainDecimal decimal.1 decimal.2

end CredentialLease.Number

namespace CredentialLease

open Number in
/-- A duration in seconds as a binary floating-point number. -/
def Duration.secondsText (d : Duration) : String :=
  let whole := Fraction.toBinary64 ⟨d.seconds, 1⟩
  let fraction := Fraction.toBinary64 ⟨d.subsecondNanos, Duration.nanosPerSecond⟩
  (whole.add fraction).toBinary64.text

end CredentialLease
