import LoopTemplate.Number.Double

/-!
# The shortest decimal form of a number

`shortest` finds the fewest decimal digits that read back as the given value, and of those the
ones nearest to it. `decimalText` writes them positionally, or with an exponent when the point
would stand more than twenty-one places to the right or more than six zeros to the left.
-/

namespace LoopTemplate.Number

/-- `digits * 10 ^ power`. -/
structure Decimal where
  digits : Nat
  power : Int
deriving Repr, DecidableEq

/-- A fraction compared with `digits * 10 ^ power`. -/
def Decimal.compareRatio (decimal : Decimal) (num den : Nat) : Ordering :=
  match decimal.power with
  | .ofNat up => compare (decimal.digits * Nat.pow 10 up * den) num
  | .negSucc down => compare (decimal.digits * den) (num * Nat.pow 10 (down + 1))

/-- The values that read back as one binary64 value: all between `low / den` and `high / den`, the
ends included when `closed`. The value itself is `mid / den`. -/
structure Window where
  low : Nat
  mid : Nat
  high : Nat
  den : Nat
  closed : Bool

/-- The window of `mantissa * 2 ^ exponent`: half way to either neighbour. Below a power of two the
lower neighbour is twice as near. -/
def Window.of (mantissa : Nat) (exponent : Int) : Window :=
  let below := if mantissa = Nat.pow 2 52 && -1074 < exponent then 1 else 2
  let (factor, den) : Nat × Nat := match exponent with
    | .ofNat up => (Nat.pow 2 up, 4)
    | .negSucc down => (1, 4 * Nat.pow 2 (down + 1))
  { low := (4 * mantissa - below) * factor
    mid := 4 * mantissa * factor
    high := (4 * mantissa + 2) * factor
    den := den
    closed := mantissa % 2 == 0 }

/-- Whether a decimal reads back as the value of the window. -/
def Window.holds (window : Window) (decimal : Decimal) : Bool :=
  let low := decimal.compareRatio window.low window.den
  let high := decimal.compareRatio window.high window.den
  (low == .gt || (window.closed && low == .eq)) && (high == .lt || (window.closed && high == .eq))

/-- Number of decimal digits of a natural number; one for zero. -/
def digitCount (value : Nat) : Nat := (Nat.toDigits 10 value).length

/-- The power of ten of the leading digit of `num / den`, where the fraction lies below one: tries
`-1`, `-2`, … -/
def leadingBelowOne (num den : Nat) : Nat → Nat → Int
  | 0, tried => -(tried : Int)
  | fuel + 1, tried =>
      if den ≤ num * Nat.pow 10 tried then -(tried : Int)
      else leadingBelowOne num den fuel (tried + 1)

/-- The power of ten of the leading digit of a positive fraction. -/
def leadingPower (num den : Nat) : Int :=
  if den ≤ num then (digitCount (num / den) : Int) - 1
  else leadingBelowOne num den 400 1

/-- The candidates on the grid `10 ^ power`: the value rounded down and up, nearest first. -/
def gridNeighbours (window : Window) (power : Int) : List Decimal :=
  let (num, den) : Nat × Nat := match power with
    | .ofNat up => (window.mid, window.den * Nat.pow 10 up)
    | .negSucc down => (window.mid * Nat.pow 10 (down + 1), window.den)
  let lower := num / den
  let twice := 2 * (num % den)
  let down : Decimal := ⟨lower, power⟩
  let up : Decimal := ⟨lower + 1, power⟩
  if twice < den then [down, up]
  else if den < twice then [up, down]
  else if lower % 2 = 0 then [down, up] else [up, down]

/-- The first grid, from coarse to fine, with a decimal that reads back. -/
def searchGrids (window : Window) (leading : Int) : Nat → Nat → Option Decimal
  | 0, _ => none
  | fuel + 1, width =>
      match (gridNeighbours window (leading + 1 - width)).find? window.holds with
      | some decimal => some decimal
      | none => searchGrids window leading fuel (width + 1)

/-- The decimal without trailing zeros among its digits. -/
def Decimal.stripZeros : Nat → Decimal → Decimal
  | 0, decimal => decimal
  | fuel + 1, decimal =>
      if decimal.digits ≠ 0 ∧ decimal.digits % 10 = 0 then
        stripZeros fuel ⟨decimal.digits / 10, decimal.power + 1⟩
      else decimal

/-- The fewest digits that read back as `mantissa * 2 ^ exponent`, nearest to it. -/
def shortest (mantissa : Nat) (exponent : Int) : Decimal :=
  let window := Window.of mantissa exponent
  let leading := leadingPower window.mid window.den
  ((searchGrids window leading 17 1).getD ⟨0, 0⟩).stripZeros 20

/-- A run of zeros. -/
def zeros (count : Nat) : String := String.ofList (List.replicate count '0')

/-- The decimal in writing. -/
def Decimal.text (decimal : Decimal) : String :=
  let digits := toString decimal.digits
  let width := digits.length
  let point : Int := width + decimal.power
  if 0 < point ∧ point ≤ 21 then
    let whole := point.toNat
    if width ≤ whole then digits ++ zeros (whole - width)
    else String.ofList (digits.toList.take whole) ++ "." ++ String.ofList (digits.toList.drop whole)
  else if -6 < point ∧ point ≤ 0 then
    "0." ++ zeros (-point).toNat ++ digits
  else
    let shown := point - 1
    let exponent := (if shown < 0 then "-" else "+") ++ toString shown.natAbs
    match digits.toList with
    | [] => ""
    | [single] => String.ofList [single] ++ "e" ++ exponent
    | lead :: rest => String.ofList (lead :: '.' :: rest) ++ "e" ++ exponent

/-- The shortest decimal form of a finite value. -/
def decimalText (mantissa : Nat) (exponent : Int) : String :=
  if mantissa = 0 then "0" else (shortest mantissa exponent).text

end LoopTemplate.Number
