/-!
# Non-negative binary floating-point numbers

The value of a number literal: the binary64 number nearest to what is written, kept exactly as
`mantissa * 2 ^ exponent`. All arithmetic is on natural numbers.
-/

namespace LoopTemplate.Number

/-- A non-negative binary64 value. -/
inductive Double where
  /-- The value `mantissa * 2 ^ exponent`. -/
  | finite (mantissa : Nat) (exponent : Int)
  /-- Too large to be finite. -/
  | infinite
deriving DecidableEq, Inhabited

namespace Double

/-- Zero. -/
def zero : Double := .finite 0 0

/-- `num / den` brought to the scale `2 ^ exponent`, as a fraction. -/
def scaled (num den : Nat) (exponent : Int) : Nat × Nat :=
  match exponent with
  | .ofNat up => (num, den * Nat.pow 2 up)
  | .negSucc down => (num * Nat.pow 2 (down + 1), den)

/-- A quotient rounded to the nearest natural number, a half going to the even neighbour. -/
def roundHalfEven (num den : Nat) : Nat :=
  let quotient := num / den
  let twice := 2 * (num % den)
  if twice < den then quotient
  else if den < twice then quotient + 1
  else if quotient % 2 = 0 then quotient
  else quotient + 1

/-- The binary64 value nearest to `num / den`. -/
def ofRatio (num den : Nat) : Double :=
  if num = 0 then zero
  else
    let estimate : Int := (Nat.log2 num : Int) - (Nat.log2 den : Int) - 52
    let (estimateNum, estimateDen) := scaled num den estimate
    let exact := if estimateNum / estimateDen < Nat.pow 2 52 then estimate - 1 else estimate
    let exponent := max exact (-1074)
    let (scaledNum, scaledDen) := scaled num den exponent
    let mantissa := roundHalfEven scaledNum scaledDen
    let (mantissa, exponent) :=
      if mantissa = Nat.pow 2 53 then (Nat.pow 2 52, exponent + 1) else (mantissa, exponent)
    if 971 < exponent then .infinite else .finite mantissa exponent

/-- The binary64 value nearest to `digits * 10 ^ power`, where `digits` is written with `width`
decimal digits. Powers far outside the range are settled without computing them. -/
def ofDecimal (digits width : Nat) (power : Int) : Double :=
  if digits = 0 then zero
  else if 400 < power + width then .infinite
  else if power + width < -400 then zero
  else match power with
    | .ofNat up => ofRatio (digits * Nat.pow 10 up) 1
    | .negSucc down => ofRatio digits (Nat.pow 10 (down + 1))

/-- The binary64 value nearest to a natural number. -/
def ofNat (value : Nat) : Double := ofRatio value 1

/-- Whether the value has no fractional part. -/
def isInteger : Double → Bool
  | .infinite => false
  | .finite _ (.ofNat _) => true
  | .finite mantissa (.negSucc down) => mantissa % Nat.pow 2 (down + 1) == 0

/-- The value without its fractional part. -/
def floor : Double → Nat
  | .infinite => 0
  | .finite mantissa (.ofNat up) => mantissa * Nat.pow 2 up
  | .finite mantissa (.negSucc down) => mantissa / Nat.pow 2 (down + 1)

end Double

end LoopTemplate.Number
