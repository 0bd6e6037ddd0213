/-!
# Shortest decimals

A decimal numeral stands for the nearest number of double precision.  That number is written with
the fewest digits that still stand for it, and of several such numerals with the nearest.  All of
this is exact arithmetic on natural numbers.
-/

namespace RestModel

/-- The number `digits * 10 ^ exponent`, or its negation. -/
structure Decimal where
  negative : Bool
  digits : Nat
  exponent : Int
  deriving DecidableEq

/-- A positive number of double precision: `significand * 2 ^ exponent`. -/
structure Binary where
  significand : Nat
  exponent : Int

namespace Binary

/-- The least exponent of a number of double precision. -/
def leastExponent : Int := -1074

/-- The least significand that needs all 53 bits. -/
def fullSignificand : Nat := Nat.pow 2 52

/-- A power of two times a fraction, as a fraction. -/
def scale (numerator denominator : Nat) (exponent : Int) : Nat × Nat :=
  if 0 ≤ exponent then (numerator * Nat.pow 2 exponent.toNat, denominator)
  else (numerator, denominator * Nat.pow 2 (-exponent).toNat)

/-- The integer nearest to a fraction; a tie goes to the even one. -/
def roundHalfEven (numerator denominator : Nat) : Nat :=
  let quotient := numerator / denominator
  let twice := 2 * (numerator % denominator)
  if twice < denominator then quotient
  else if denominator < twice then quotient + 1
  else quotient + quotient % 2

/-- The number with the given least exponent nearest to a fraction. -/
def roundAt (numerator denominator : Nat) (exponent : Int) : Binary :=
  let (top, bottom) := scale numerator denominator (-exponent)
  ⟨roundHalfEven top bottom, exponent⟩

/-- The number nearest to a positive fraction, with a significand of at most 53 bits. -/
def nearest (numerator denominator : Nat) : Binary :=
  let guess : Int := (Nat.log2 numerator : Int) - (Nat.log2 denominator : Int) - 53
  let first := roundAt numerator denominator (max guess leastExponent)
  if first.significand < 2 * fullSignificand then first
  else
    let second := roundAt numerator denominator (max guess leastExponent + 1)
    if second.significand < 2 * fullSignificand then second
    else roundAt numerator denominator (max guess leastExponent + 2)

/-- Whether the number is too large for double precision. -/
def isInfinite (number : Binary) : Bool :=
  971 < number.exponent || (number.exponent == 971 && 2 * fullSignificand ≤ number.significand)

/-- Four times the number, as a multiple of a power of two, and the two ends of the interval of the
numbers that round to it, in the same unit. -/
def quadruple (number : Binary) : Nat × Nat × Nat :=
  let middle := 4 * number.significand
  let below :=
    if number.significand = fullSignificand ∧ leastExponent < number.exponent then 1 else 2
  (middle, middle - below, middle + 2)

/-- Whether `digits * 10 ^ exponent` rounds to the number. -/
def isRoundedFrom (number : Binary) (digits : Nat) (exponent : Int) : Bool :=
  let (_, low, high) := number.quadruple
  let (power, root) :=
    if 0 ≤ exponent then (Nat.pow 10 exponent.toNat, 1) else (1, Nat.pow 10 (-exponent).toNat)
  let (left, right) := scale (digits * power) root (2 - number.exponent)
  if number.significand % 2 = 0 then low * right ≤ left && left ≤ high * right
  else low * right < left && left < high * right

/-- The floor of the number divided by a power of ten, and whether the next integer is nearer. -/
def digitsAt (number : Binary) (exponent : Int) : Nat × Bool :=
  let (top, bottom) := scale number.significand 1 number.exponent
  let (top, bottom) :=
    if 0 ≤ exponent then (top, bottom * Nat.pow 10 exponent.toNat)
    else (top * Nat.pow 10 (-exponent).toNat, bottom)
  (top / bottom, bottom < 2 * (top % bottom))

/-- The numeral with the given last place that rounds to the number, the nearer one of two. -/
def numeralAt? (number : Binary) (exponent : Int) : Option Nat :=
  let (floor, nextIsNearer) := number.digitsAt exponent
  let candidates := if nextIsNearer then [floor + 1, floor] else [floor, floor + 1]
  candidates.find? (fun digits => digits != 0 && number.isRoundedFrom digits exponent)

/-- The numeral with the greatest last place, at most `exponent`, that rounds to the number. -/
def shortestFrom (number : Binary) : Nat → Int → Decimal
  | 0, exponent => ⟨false, (number.digitsAt exponent).1, exponent⟩
  | places + 1, exponent =>
    match number.numeralAt? exponent with
    | some digits => ⟨false, digits, exponent⟩
    | none => shortestFrom number places (exponent - 1)

/-- The shortest numeral of the number.  Its first digit stands at most at the 309th place before
the point, and its last one at most at the 324th place behind it. -/
def shortest (number : Binary) : Decimal :=
  number.shortestFrom 640 309

end Binary

namespace Decimal

/-- A run of decimal digits at the beginning of a text. -/
def digitRun (text : List Char) : List Char × List Char :=
  (text.takeWhile Char.isDigit, text.dropWhile Char.isDigit)

/-- The value of decimal digits. -/
def digitsValue (digits : List Char) : Nat :=
  digits.foldl (fun value digit => value * 10 + (digit.toNat - '0'.toNat)) 0

/-- A sign at the beginning of a text, true for a minus. -/
def signOf : List Char → Bool × List Char
  | '-' :: rest => (true, rest)
  | '+' :: rest => (false, rest)
  | rest => (false, rest)

/-- The exponent at the end of a numeral; without one it is zero. -/
def exponentOf? : List Char → Option Int
  | [] => some 0
  | mark :: rest =>
    if mark = 'e' ∨ mark = 'E' then
      let (negative, digits) := signOf rest
      if digits.isEmpty || !digits.all Char.isDigit then none
      else
        let value : Int := digitsValue digits
        some (if negative then -value else value)
    else none

/-- Read a numeral: a sign, digits with an optional point among them, and an optional exponent. -/
def parse? (text : List Char) : Option Decimal := do
  let (negative, unsigned) := signOf text
  let (whole, rest) := digitRun unsigned
  let (fraction, rest) :=
    match rest with
    | '.' :: rest => digitRun rest
    | rest => ([], rest)
  if whole.isEmpty && fraction.isEmpty then none
  let exponent ← exponentOf? rest
  return ⟨negative, digitsValue (whole ++ fraction), exponent - fraction.length⟩

/-- The number of decimal digits of a natural number, and one for zero. -/
def length (number : Nat) : Nat :=
  (toString number).length

/-- The nearest number of double precision; none if it is infinite, and zero as the significand if
it is zero. -/
def toBinary? (decimal : Decimal) : Option Binary :=
  let place : Int := length decimal.digits + decimal.exponent
  if decimal.digits = 0 ∨ place < -400 then some ⟨0, 0⟩
  else if 400 < place then none
  else
    let number :=
      if 0 ≤ decimal.exponent then
        Binary.nearest (decimal.digits * Nat.pow 10 decimal.exponent.toNat) 1
      else Binary.nearest decimal.digits (Nat.pow 10 (-decimal.exponent).toNat)
    if number.isInfinite then none else some number

/-- The numeral without an exponent and with at least one digit behind the point. -/
def positional (decimal : Decimal) : String :=
  let digits := toString decimal.digits
  let places := (-decimal.exponent).toNat
  let text :=
    if 0 ≤ decimal.exponent then
      digits ++ String.ofList (List.replicate decimal.exponent.toNat '0') ++ ".0"
    else
      let padded := List.replicate (places + 1 - digits.length) '0' ++ digits.toList
      String.ofList (padded.take (padded.length - places)) ++ "." ++
        String.ofList (padded.drop (padded.length - places))
  if decimal.negative then "-" ++ text else text

/-- The shortest text of the nearest number of double precision, if that is finite. -/
def shortestText? (decimal : Decimal) : Option String :=
  decimal.toBinary?.map (fun number =>
    let digits : Decimal := if number.significand = 0 then ⟨false, 0, 0⟩ else number.shortest
    positional { digits with negative := decimal.negative })

end Decimal

end RestModel
