import Signpost.Text.Basic

/-!
# Shortest decimal notation of a floating-point number

A finite positive number is `significand · 2 ^ exponent`.  Every real number between the midpoints
to its two neighbours is read back as this number, the midpoints themselves just when the
significand is even.  `Binary.shortest` looks on the decimal grids with one, two, … seventeen
significant digits for a point in that interval; the first grid that has one gives the digits, and
of two points the nearer is taken, on a tie the even one.  `Notation.write` lays the digits out.
-/

namespace Signpost.Decimal

/-- A positive floating-point number. -/
structure Binary where
  /-- The binary digits, as a whole number. -/
  significand : Nat
  /-- The power of two that the significand counts. -/
  exponent : Int
  /-- Whether the neighbour below is only half as far away as the one above. -/
  atPower : Bool
  deriving DecidableEq, Repr

/-- The number whose double-precision pattern has the given exponent field and fraction field. -/
def Binary.ofFields (field fraction : Nat) : Binary :=
  if field = 0 then ⟨fraction, -1074, false⟩
  else ⟨fraction + Nat.pow 2 52, (field : Int) - 1075, fraction == 0 && field > 1⟩

/-- A quotient of whole numbers. -/
structure Ratio where
  top : Nat
  bottom : Nat

/-- A multiple of a power of two. -/
def Ratio.scaled (count : Nat) (exponent : Int) : Ratio :=
  if 0 ≤ exponent then ⟨count * Nat.pow 2 exponent.toNat, 1⟩
  else ⟨count, Nat.pow 2 (-exponent).toNat⟩

/-- A multiple of a power of ten. -/
def Ratio.decimal (count : Nat) (place : Int) : Ratio :=
  if 0 ≤ place then ⟨count * Nat.pow 10 place.toNat, 1⟩
  else ⟨count, Nat.pow 10 (-place).toNat⟩

/-- Whether the first quotient is below the second one. -/
def Ratio.below (a b : Ratio) : Bool :=
  a.top * b.bottom < b.top * a.bottom

/-- The distance between two quotients. -/
def Ratio.distance (a b : Ratio) : Ratio :=
  let left := a.top * b.bottom
  let right := b.top * a.bottom
  ⟨(left - right) + (right - left), a.bottom * b.bottom⟩

/-- The number itself. -/
def Binary.value (x : Binary) : Ratio :=
  Ratio.scaled x.significand x.exponent

/-- Whether a quotient is read back as the number. -/
def Binary.readsBack (x : Binary) (r : Ratio) : Bool :=
  let low := Ratio.scaled (4 * x.significand - if x.atPower then 1 else 2) (x.exponent - 2)
  let high := Ratio.scaled (4 * x.significand + 2) (x.exponent - 2)
  if x.significand % 2 = 0 then !r.below low && !high.below r else low.below r && r.below high

/-- The place of the first digit of a quotient that is at least the given power of ten, searched
downwards. -/
def leadingPlace (r : Ratio) : Nat → Int → Int
  | 0, place => place
  | steps + 1, place =>
      if r.below (Ratio.decimal 1 place) then leadingPlace r steps (place - 1) else place

/-- The point of the grid of a place that is read back as the number and lies nearest to it. -/
def Binary.onGrid (x : Binary) (place : Int) : Option Nat :=
  let unit := Ratio.decimal 1 place
  let floor := x.value.top * unit.bottom / (x.value.bottom * unit.top)
  let down := Ratio.decimal floor place
  let up := Ratio.decimal (floor + 1) place
  let toDown := x.value.distance down
  let toUp := x.value.distance up
  match x.readsBack down, x.readsBack up with
  | true, false => some floor
  | false, true => some (floor + 1)
  | false, false => none
  | true, true =>
      if toDown.below toUp then some floor
      else if toUp.below toDown then some (floor + 1)
      else if floor % 2 = 0 then some floor else some (floor + 1)

/-- The first hit on the grids that start at a place and refine it. -/
def Binary.search (x : Binary) : Nat → Int → Nat × Int
  | 0, place => (x.value.top / x.value.bottom, place)
  | steps + 1, place =>
      match x.onGrid place with
      | some count => (count, place)
      | none => x.search steps (place - 1)

/-- The fewest digits that read back as the number, and the place of the last one. -/
def Binary.shortest (x : Binary) : Nat × Int :=
  x.search 17 (leadingPlace x.value 660 309)

/-- How digits are laid out. -/
structure Layout where
  /-- Positional notation is used when the point stands after more places than this. -/
  pointAbove : Int
  /-- Positional notation is used when the point stands after at most this many places. -/
  pointUpTo : Int
  /-- The least number of digits of an exponent. -/
  exponentDigits : Nat

/-- The digits of a number without the zeros at its end. -/
def significantDigits (count : Nat) : Text :=
  ((Nat.toDigits 10 count).reverse.dropWhile (· = '0')).reverse

/-- Digits with their decimal point, by a layout. -/
def Layout.write (layout : Layout) (count : Nat) (place : Int) : Text :=
  let digits := significantDigits count
  let point : Int := (Nat.toDigits 10 count).length + place
  if layout.pointAbove < point ∧ point ≤ layout.pointUpTo then
    if point ≤ 0 then ['0', '.'] ++ List.replicate (-point).toNat '0' ++ digits
    else
      let whole := digits.take point.toNat
      let fraction := digits.drop point.toNat
      whole ++ List.replicate (point.toNat - whole.length) '0' ++ ['.'] ++
        (if fraction.isEmpty then ['0'] else fraction)
  else
    let exponent := point - 1
    let shown := Nat.toDigits 10 exponent.natAbs
    digits.take 1 ++ (if digits.length > 1 then '.' :: digits.drop 1 else []) ++
      ['e', if exponent < 0 then '-' else '+'] ++
      List.replicate (layout.exponentDigits - shown.length) '0' ++ shown

/-- Positional from four zeros after the point up to sixteen places before it, exponents with at
least two digits. -/
def plainLayout : Layout := ⟨-4, 16, 2⟩

/-- The shortest notation of a floating-point number. -/
def ofFloat (x : Float) : Text :=
  let bits := x.toBits.toNat
  let sign : Text := if bits / Nat.pow 2 63 = 1 then ['-'] else []
  let field := bits / Nat.pow 2 52 % Nat.pow 2 11
  let fraction := bits % Nat.pow 2 52
  if field = 2047 then if fraction = 0 then sign ++ "inf".toList else "nan".toList
  else if field = 0 && fraction = 0 then sign ++ "0.0".toList
  else
    let (count, place) := (Binary.ofFields field fraction).shortest
    sign ++ plainLayout.write count place

end Signpost.Decimal
