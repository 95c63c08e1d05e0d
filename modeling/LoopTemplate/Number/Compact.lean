import LoopTemplate.Number.Shortest

/-!
# Numbers as they are printed

The decimal form of a number loses the zero before its point. An integer whose hexadecimal form is
shorter takes that one. Everything else is folded, step by step, into digits with an exponent where
that is shorter. Integers below a thousand stay as they are.
-/

namespace LoopTemplate.Number

/-- Drops the `0` before a leading point and the `+` of an exponent. -/
def plainForm (text : String) : String :=
  let chars := match text.toList with
    | '0' :: '.' :: rest => '.' :: rest
    | chars => chars
  String.ofList (chars.filter (· ≠ '+'))

/-- Whichever of two spellings is shorter; the first on a tie. -/
def shorter (kept candidate : String) : String :=
  if candidate.length < kept.length then candidate else kept

/-- `.00012` as `12e-5`. -/
def foldLeadingZeros (text : String) : String :=
  match text.toList with
  | '.' :: '0' :: rest =>
      let digits := rest.dropWhile (· == '0')
      if digits.isEmpty then text
      else shorter text (String.ofList digits ++ "e-" ++ toString (text.length - 1))
  | _ => text

/-- `12000` as `12e3`. -/
def foldTrailingZeros (text : String) : String :=
  let digits := (text.toList.reverse.dropWhile (· == '0')).reverse
  let dropped := text.length - digits.length
  if dropped = 0 ∨ digits.isEmpty then text
  else shorter text (String.ofList digits ++ "e" ++ toString dropped)

/-- An exponent with an optional minus sign. -/
def signedOf (chars : List Char) : Int :=
  match chars with
  | '-' :: digits => -(digits.foldl (fun acc c => acc * 10 + (c.toNat - 48)) 0 : Nat)
  | digits => (digits.foldl (fun acc c => acc * 10 + (c.toNat - 48)) 0 : Nat)

/-- `1.5e21` as `15e20`. -/
def foldPoint (text : String) : String :=
  let whole := text.toList.takeWhile (· ≠ '.')
  match text.toList.dropWhile (· ≠ '.') with
  | '.' :: rest =>
      let fraction := rest.takeWhile (· ≠ 'e')
      match rest.dropWhile (· ≠ 'e') with
      | 'e' :: exponent =>
          shorter text (String.ofList (whole ++ fraction) ++ "e"
            ++ toString (signedOf exponent - fraction.length))
      | _ => text
  | _ => text

/-- Hexadecimal form of an integer, of at most 128 bits. -/
def hexText (value : Nat) : String :=
  "0x" ++ String.ofList (Nat.toDigits 16 (min value (Nat.pow 2 128 - 1)))

/-- Folds zeros and the point of a decimal form into an exponent. -/
def foldDecimal (integer : Bool) (plain : String) : String :=
  let text := if integer then plain else foldLeadingZeros plain
  foldPoint (foldTrailingZeros text)

/-- The spelling of a finite value. -/
def compactText (mantissa : Nat) (exponent : Int) : String :=
  let value := Double.finite mantissa exponent
  let text := decimalText mantissa exponent
  if value.isInteger && value.floor < 1000 then text
  else
    let plain := plainForm text
    let hex := hexText value.floor
    if value.isInteger && hex.length < plain.length then hex
    else foldDecimal value.isInteger plain

/-- Whether a number spelled this way could be read together with a point that follows it. -/
def swallowsPoint (text : String) : Bool :=
  !text.toList.any fun c => c == '.' || c == 'e' || c == 'x'

end LoopTemplate.Number
