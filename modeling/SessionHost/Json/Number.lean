import SessionHost.Json.Value

/-!
Reading numbers.

A number is kept as an integer where it can be. Otherwise its digits, as far as they fit one word,
are scaled by a power of ten in the arithmetic of doubles. So the library `serde_json` 1.0 does it,
and its rounding is kept.
-/

namespace SessionHost.Json

def isDigit (b : UInt8) : Bool := 0x30 ≤ b && b ≤ 0x39

/-- The digits in front and the rest. -/
def splitDigits (input : Bytes) : Bytes × Bytes :=
  let digits := input.takeWhile isDigit
  (digits, input.drop digits.length)

/-- A number as it is written. -/
structure Numeral where
  negative : Bool
  whole : Bytes
  fraction : Option Bytes
  exponent : Option (Bool × Bytes)
deriving DecidableEq, Repr

/-- The point and the digits after it, if there is a point. -/
def readFraction : Bytes → Option (Option Bytes × Bytes)
  | 0x2E :: rest =>
      let (digits, after) := splitDigits rest
      if digits.isEmpty then none else some (some digits, after)
  | rest => some (none, rest)

/-- Whether an exponent has a minus sign, and the rest. -/
def splitSign : Bytes → Bool × Bytes
  | 0x2B :: rest => (false, rest)
  | 0x2D :: rest => (true, rest)
  | rest => (false, rest)

/-- The sign and the digits of an exponent, if there is one. -/
def readExponent : Bytes → Option (Option (Bool × Bytes) × Bytes)
  | [] => some (none, [])
  | b :: rest =>
      if b = 0x65 || b = 0x45 then
        let (negative, rest) := splitSign rest
        let (digits, after) := splitDigits rest
        if digits.isEmpty then none else some (some (negative, digits), after)
      else some (none, b :: rest)

/-- A number and what follows it. A zero in front of further digits is refused. -/
def readNumeral (input : Bytes) : Option (Numeral × Bytes) := do
  let (negative, rest) :=
    match input with
    | 0x2D :: rest => (true, rest)
    | rest => (false, rest)
  let (whole, rest) := splitDigits rest
  if whole.isEmpty || (whole.head? = some 0x30 && 1 < whole.length) then none
  else
    let (fraction, rest) ← readFraction rest
    let (exponent, rest) ← readExponent rest
    return (⟨negative, whole, fraction, exponent⟩, rest)

/-! ### Values of numbers -/

/-- The greatest number of one word. -/
def greatestWord : Nat := UInt64.size - 1

/-- Appends digits to a number as long as it fits one word, and counts those left over. -/
def appendDigits (n : Nat) : Bytes → Nat × Nat
  | [] => (n, 0)
  | digit :: rest =>
      let next := n * 10 + (digit.toNat - 0x30)
      if greatestWord < next then (n, rest.length + 1) else appendDigits next rest

/-- The number that the digits of an exponent spell. -/
def exponentOf (digits : Bytes) : Nat :=
  digits.foldl (fun n digit => n * 10 + (digit.toNat - 0x30)) 0

/-- A power of ten among the doubles. -/
def powerOfTen (n : Nat) : Float := Float.ofScientific 1 false n

/-- The greatest power of ten among the doubles. -/
def greatestPower : Nat := 308

/-- A double divided by a power of ten, in steps that each divide by a double. -/
def divideByPower (f : Float) (n : Nat) : Float :=
  if n ≤ greatestPower then f / powerOfTen n
  else if f == 0 then f
  else divideByPower (f / powerOfTen greatestPower) (n - greatestPower)
termination_by n
decreasing_by simp only [greatestPower] at *; omega

/-- A word times a power of ten as a double, or nothing if that is no finite double. -/
def scale (significand : Nat) (power : Int) : Option Float :=
  let f := significand.toUInt64.toFloat
  if power < 0 then some (divideByPower f (-power).toNat)
  else if greatestPower < power.toNat then if f == 0 then some f else none
  else
    let product := f * powerOfTen power.toNat
    if product.isInf then none else some product

/-- The bits of a double with a sign. -/
def signedBits (negative : Bool) (f : Float) : UInt64 := (if negative then -f else f).toBits

/-- The greatest number of a signed word of 32 bits, to which exponents are held. -/
def exponentBound : Nat := UInt32.size / 2 - 1

namespace Numeral

/-- The value of a number as a double. -/
def float? (numeral : Numeral) : Option Value := do
  let (whole, left) := appendDigits 0 numeral.whole
  let fraction := numeral.fraction.getD []
  let (significand, dropped) := appendDigits whole fraction
  let power := (left : Int) - (fraction.length - dropped : Nat)
  let f ←
    match numeral.exponent with
    | none => scale significand power
    | some (negative, digits) =>
        let exponent := exponentOf digits
        if exponentBound < exponent then
          if significand ≠ 0 && !negative then none else some 0
        else scale significand (if negative then power - exponent else power + exponent)
  return .float (signedBits numeral.negative f)

/-- The value of a number. -/
def value? (numeral : Numeral) : Option Value :=
  match numeral.fraction, numeral.exponent with
  | none, none =>
      let (n, left) := appendDigits 0 numeral.whole
      if left ≠ 0 then numeral.float?
      else if !numeral.negative then some (.integer n)
      else if n = 0 || UInt64.size / 2 < n then some (.float (signedBits true n.toUInt64.toFloat))
      else some (.integer (-n))
  | _, _ => numeral.float?

/-- The value of a number as one word, if it is a natural number written as such. -/
def word? (numeral : Numeral) : Option UInt64 :=
  match numeral.negative, numeral.fraction, numeral.exponent with
  | false, none, none =>
      let (n, left) := appendDigits 0 numeral.whole
      if left = 0 then some n.toUInt64 else none
  | _, _, _ => none

end Numeral

end SessionHost.Json
