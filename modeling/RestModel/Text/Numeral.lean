/-!
# Numerals

Reading a numeral in a given radix, digit by digit, up to a largest value.  The first character that
is no digit and the first digit that carries the value past the limit each end the reading.
-/

namespace RestModel.Text

/-- Why a text is no numeral. -/
inductive NumeralError where
  | empty
  | invalidDigit
  | tooLarge
  deriving DecidableEq

/-- The text of a numeral error. -/
def NumeralError.message : NumeralError → String
  | empty => "cannot parse integer from empty string"
  | invalidDigit => "invalid digit found in string"
  | tooLarge => "number too large to fit in target type"

/-- The value of an ASCII digit or letter as a digit of a radix. -/
def digitValue? (radix : Nat) (char : Char) : Option Nat :=
  let code := char.toNat
  let value? :=
    if 0x30 ≤ code ∧ code ≤ 0x39 then some (code - 0x30)
    else if 0x41 ≤ code ∧ code ≤ 0x5A then some (code - 0x41 + 10)
    else if 0x61 ≤ code ∧ code ≤ 0x7A then some (code - 0x61 + 10)
    else none
  value?.filter (· < radix)

/-- Read digits behind a part whose value is known. -/
def readDigits (radix limit value : Nat) : List Char → Except NumeralError Nat
  | [] => .ok value
  | char :: rest =>
    match digitValue? radix char with
    | none => .error .invalidDigit
    | some digit =>
      if limit < value * radix + digit then .error .tooLarge
      else readDigits radix limit (value * radix + digit) rest

/-- The value of a text of digits. -/
def readNumeral (radix limit : Nat) (digits : List Char) : Except NumeralError Nat :=
  if digits.isEmpty then .error .empty else readDigits radix limit 0 digits

/-- The largest value of 32 binary digits. -/
def limit32 : Nat := 4294967295

end RestModel.Text
