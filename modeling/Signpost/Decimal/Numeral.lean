import Signpost.Text.Basic
import Signpost.Unicode.Digit
import Signpost.Unicode.Case

/-!
# Reading numerals

`wholeNumber?` reads an unsigned or plus-signed whole number and `float?` a floating-point number.
Both allow blanks around the numeral, digits of any script, and single underscores between digits.
-/

namespace Signpost.Decimal

/-- The values of the digits of a non-empty run in which single underscores may part the digits. -/
def digits? : Text → Option (List Nat)
  | [] => none
  | [c] => (Unicode.digitValue? c.toNat).map ([·])
  | c :: '_' :: rest => do
      let value ← Unicode.digitValue? c.toNat
      let others ← digits? rest
      return value :: others
  | c :: rest => do
      let value ← Unicode.digitValue? c.toNat
      let others ← digits? rest
      return value :: others

/-- The number with the given decimal digits. -/
def ofDigits (digits : List Nat) : Nat :=
  digits.foldl (fun n d => 10 * n + d) 0

/-- The most digits that a numeral may have. -/
def mostDigits : Nat := 4300

/-- A whole number without a minus sign. -/
def wholeNumber? (text : Text) : Option Nat := do
  let body := match Text.trim text with
    | '+' :: rest => rest
    | other => other
  let digits ← digits? body
  if digits.length ≤ mostDigits then some (ofDigits digits) else none

/-- Digits that may be missing. -/
def optionalDigits? : Text → Option (List Nat)
  | [] => some []
  | text => digits? text

/-- An exponent, with or without sign. -/
def exponent? : Text → Option Int
  | '+' :: rest => (digits? rest).map fun d => (ofDigits d : Int)
  | '-' :: rest => (digits? rest).map fun d => -(ofDigits d : Int)
  | text => (digits? text).map fun d => (ofDigits d : Int)

/-- The floating-point number nearest to a decimal fraction. -/
def nearest (count : Nat) (place : Int) : Float :=
  let point : Int := (Nat.toDigits 10 count).length + place
  if count = 0 || point < -400 then 0.0
  else if point > 400 then 1.0 / 0.0
  else if 0 ≤ place then Float.ofScientific (count * Nat.pow 10 place.toNat) false 0
  else Float.ofScientific count true (-place).toNat

/-- A decimal fraction with an optional exponent. -/
def unsigned? (text : Text) : Option Float := do
  let lower := Unicode.lowerText text
  if lower = "inf".toList || lower = "infinity".toList then some (1.0 / 0.0)
  else if lower = "nan".toList then some (0.0 / 0.0)
  else
    let mantissa := Text.before 'e' lower
    let exponent ← match Text.after? 'e' lower with
      | none => some 0
      | some rest => exponent? rest
    let whole ← optionalDigits? (Text.before '.' mantissa)
    let fraction ← optionalDigits? ((Text.after? '.' mantissa).getD [])
    if whole.isEmpty && fraction.isEmpty then none
    else some (nearest (ofDigits (whole ++ fraction)) (exponent - fraction.length))

/-- A floating-point number. -/
def float? (text : Text) : Option Float :=
  match Text.trim text with
  | '+' :: rest => unsigned? rest
  | '-' :: rest => (unsigned? rest).map fun x => -x
  | rest => unsigned? rest

end Signpost.Decimal
