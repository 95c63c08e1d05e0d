import LoopTemplate.Text.Identifier
import LoopTemplate.Token.Rest
import LoopTemplate.Token.Basic
import LoopTemplate.Token.Word

/-!
# Number literals

Decimal, hexadecimal, octal and binary numbers, with underscores between digits, and integers of
any size marked by a final `n`.
-/

namespace LoopTemplate.Token

open LoopTemplate.Number (Double)
open LoopTemplate.Text (isAsciiDigit)

/-- Digits and the underscores between them. -/
def isNumeralPart (c : Char) : Bool := isAsciiDigit c || c == '_'

/-- The value of a run of digits in a base, underscores skipped. -/
def digitsValue (base : Nat) (digits : List Char) : Nat :=
  digits.foldl (fun value c => match hexValue? c with
    | some digit => value * base + digit
    | none => value) 0

/-- A run of digits without its underscores. -/
def digitsOnly (digits : List Char) : List Char := digits.filter (· ≠ '_')

/-- An integer, which a final `n` makes one of any size. -/
def integerKind (value : Nat) (style : String) (rest : Rest) : Kind × Rest :=
  match rest.chars with
  | 'n' :: _ => (.bigInteger value, rest.drop 1)
  | _ => (.number (Double.ofNat value) style, rest)

/-- An exponent, if one follows: its value and the text after it. -/
def readExponent (rest : Rest) : Option (Int × Rest) :=
  match rest.chars with
  | e :: sign :: _ =>
      if e = 'e' ∨ e = 'E' then
        let signed := sign = '+' ∨ sign = '-'
        let (digits, after) := (rest.drop (if signed then 2 else 1)).takeWhile isNumeralPart
        if digits.isEmpty then none
        else
          let value : Int := digitsValue 10 digits
          some (if sign = '-' then -value else value, after)
      else none
  | _ => none

/-- A decimal number, of which `whole` are the digits before the point. -/
def decimalKind (whole : List Char) (rest : Rest) : Kind × Rest :=
  let (fraction, pointed, rest) : List Char × Bool × Rest := match rest.chars with
    | '.' :: _ =>
        let (fraction, rest) := (rest.drop 1).takeWhile isNumeralPart
        (fraction, true, rest)
    | _ => ([], false, rest)
  match readExponent rest, pointed with
  | none, false => integerKind (digitsValue 10 whole) "decimal" rest
  | exponent, _ =>
      let digits := digitsOnly (whole ++ fraction)
      let power : Int := (exponent.map (·.1)).getD 0 - (digitsOnly fraction).length
      let rest := (exponent.map (·.2)).getD rest
      let style := if exponent.isSome then "exponential" else "float"
      (.number (Double.ofDecimal (digitsValue 10 digits) digits.length power) style, rest)

/-- Reads a number that begins with a digit, or with a point before a digit. -/
def readNumeral (rest : Rest) : Kind × Rest :=
  let radix (base : Nat) (style : String) (accept : Char → Bool) : Kind × Rest :=
    let (digits, after) := (rest.drop 2).takeWhile fun c => accept c || c == '_'
    if digits.isEmpty then (.bad, after) else integerKind (digitsValue base digits) style after
  match rest.chars with
  | '0' :: 'x' :: _ | '0' :: 'X' :: _ => radix 16 "hex" fun c => (hexValue? c).isSome
  | '0' :: 'o' :: _ | '0' :: 'O' :: _ => radix 8 "octal" fun c => '0' ≤ c && c ≤ '7'
  | '0' :: 'b' :: _ | '0' :: 'B' :: _ => radix 2 "binary" fun c => c == '0' || c == '1'
  | _ =>
      let (whole, after) := rest.takeWhile isNumeralPart
      match whole with
      | '0' :: _ :: _ =>
          if whole.all fun c => '0' ≤ c && c ≤ '7' then
            (.number (Double.ofNat (digitsValue 8 whole)) "octal", after)
          else decimalKind whole after
      | _ => decimalKind whole after

end LoopTemplate.Token
