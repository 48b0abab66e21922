import SessionHost.Toml.Characters

/-!
Values that stand without quotes: numbers, booleans, and dates and times, in the forms that the
library `toml` 0.9 accepts.
-/

namespace SessionHost.Toml

/-- An unquoted value. Of a number with a fraction or an exponent, and of a date or time, only the
kind is kept. -/
inductive Atom where
  | integer (value : Int)
  | float
  | boolean (value : Bool)
  | dateTime
deriving DecidableEq, Repr

namespace Atom

/-! ### Digits -/

/-- The digits of a number without the underscores, each of which stands between two of them. -/
def digits? (isDigit : Char → Bool) (chars : List Char) : Option (List Char) :=
  let groups := chars.splitOn '_'
  if groups.all fun group => !group.isEmpty && group.all isDigit then some groups.flatten
  else none

/-- The digits of a decimal number, which has no zero in front of others. -/
def wholeDigits? (chars : List Char) : Option (List Char) := do
  let digits ← digits? isDecimal chars
  if digits.head? = some '0' && 1 < digits.length then none else some digits

/-- Whether a minus sign stands in front, and the rest after a sign of either kind. -/
def splitSign : List Char → Bool × List Char
  | '+' :: rest => (false, rest)
  | '-' :: rest => (true, rest)
  | chars => (false, chars)

/-! ### Integers -/

/-- Whether an integer has a representation: one word of 128 bits with or without a sign. -/
def inRange (n : Int) : Bool := -(Nat.pow 2 127 : Int) ≤ n && n < Nat.pow 2 128

/-- An integer in another base than ten: without a sign, after its mark. -/
def based? (base : Nat) (isDigit : Char → Bool) (chars : List Char) : Option Int := do
  return numberOf base (← digits? isDigit chars)

/-- The integer that the characters spell. -/
def integer? (chars : List Char) : Option Int := do
  let n ←
    match chars with
    | '0' :: 'x' :: rest => based? 16 isHex rest
    | '0' :: 'o' :: rest => based? 8 isOctal rest
    | '0' :: 'b' :: rest => based? 2 isBinary rest
    | _ =>
        let (negative, rest) := splitSign chars
        (wholeDigits? rest).map fun digits =>
          if negative then -(numberOf 10 digits : Int) else numberOf 10 digits
  if inRange n then some n else none

/-! ### Numbers with a fraction or an exponent -/

/-- The decimal exponent after its letter. -/
def exponent? (chars : List Char) : Option Int :=
  let (negative, rest) := splitSign chars
  (digits? isDecimal rest).map fun digits =>
    if negative then -(numberOf 10 digits : Int) else numberOf 10 digits

/-- Whether digits before a power of ten have a finite double nearest to them. -/
def isFinite (digits : List Char) (power : Int) : Bool :=
  let significant := digits.dropWhile (· = '0')
  let magnitude := (significant.length : Int) + power
  if significant.isEmpty || magnitude < 308 then true
  else if 310 < magnitude then false
  else
    -- halfway between the greatest double and the next power of two
    let bound := Nat.pow 2 1024 - Nat.pow 2 970
    let n := numberOf 10 significant
    if 0 ≤ power then n * Nat.pow 10 power.toNat < bound
    else n < bound * Nat.pow 10 (-power).toNat

/-- Whether the characters spell a finite number with a fraction or an exponent. -/
def isDecimalFloat (chars : List Char) : Bool :=
  let rest := (splitSign chars).2
  let whole := rest.takeWhile fun c => c != '.' && c != 'e' && c != 'E'
  let after := rest.drop whole.length
  let (fraction, tail) :=
    match after with
    | '.' :: more =>
        let part := more.takeWhile fun c => c != 'e' && c != 'E'
        (digits? isDecimal part, more.drop part.length)
    | _ => (some [], after)
  let power :=
    match tail with
    | [] => if after.isEmpty then none else some 0
    | _ :: chars => exponent? chars
  match wholeDigits? whole, fraction, power with
  | some whole, some fraction, some power =>
      isFinite (whole ++ fraction) (power - fraction.length)
  | _, _, _ => false

/-- Whether the characters spell an infinity or no number, with or without a sign. -/
def isSpecialFloat (chars : List Char) : Bool :=
  let rest := (splitSign chars).2
  rest = ['i', 'n', 'f'] || rest = ['n', 'a', 'n']

/-! ### Dates and times -/

/-- The number in `width` decimal digits, and what follows them. -/
def field? (width : Nat) (chars : List Char) : Option (Nat × List Char) :=
  let digits := chars.take width
  if digits.length = width && digits.all isDecimal then
    some (numberOf 10 digits, chars.drop width)
  else none

/-- The rest after a mark, if it is there. -/
def after? (mark : Char) : List Char → Option (List Char)
  | c :: rest => if c = mark then some rest else none
  | [] => none

def isLeap (year : Nat) : Bool := year % 4 = 0 && (year % 100 != 0 || year % 400 = 0)

/-- How many days a month has. -/
def daysIn (year month : Nat) : Nat :=
  if month = 2 then if isLeap year then 29 else 28
  else if month = 4 || month = 6 || month = 9 || month = 11 then 30
  else 31

/-- The rest after a day of the calendar. -/
def date? (chars : List Char) : Option (List Char) := do
  let (year, rest) ← field? 4 chars
  let (month, rest) ← field? 2 (← after? '-' rest)
  let (day, rest) ← field? 2 (← after? '-' rest)
  if 1 ≤ month && month ≤ 12 && 1 ≤ day && day ≤ daysIn year month then some rest else none

/-- The rest after the seconds of a time, with a fraction or without. -/
def seconds? (chars : List Char) : Option (List Char) := do
  let (second, rest) ← field? 2 chars
  if 60 < second then none
  else
    match rest with
    | '.' :: more =>
        let fraction := more.takeWhile isDecimal
        if fraction.isEmpty then none else some (more.drop fraction.length)
    | _ => some rest

/-- The rest after a time of day. The seconds may be left out. -/
def time? (chars : List Char) : Option (List Char) := do
  let (hour, rest) ← field? 2 chars
  let (minute, rest) ← field? 2 (← after? ':' rest)
  if 23 < hour || 59 < minute then none
  else
    match rest with
    | ':' :: more => seconds? more
    | _ => some rest

/-- Whether the characters are nothing or the distance from universal time. -/
def isOffset : List Char → Bool
  | [] => true
  | ['Z'] => true
  | ['z'] => true
  | c :: rest =>
      (c = '+' || c = '-') &&
        match field? 2 rest with
        | some (hour, ':' :: more) =>
            match field? 2 more with
            | some (minute, []) => hour ≤ 23 && minute ≤ 59
            | _ => false
        | _ => false

/-- Whether the characters are a date, a time, or both. -/
def isDateTime (chars : List Char) : Bool :=
  match date? chars with
  | some [] => true
  | some (c :: rest) =>
      (c = 'T' || c = 't' || c = ' ') &&
        match time? rest with
        | some offset => isOffset offset
        | none => false
  | none => time? chars = some []

/-- Whether a time may follow the characters after a blank. -/
def isDate (chars : List Char) : Bool := date? chars = some []

/-- The unquoted value that the characters spell. -/
def ofChars? (chars : List Char) : Option Atom :=
  if chars = ['t', 'r', 'u', 'e'] then some (.boolean true)
  else if chars = ['f', 'a', 'l', 's', 'e'] then some (.boolean false)
  else
    match integer? chars with
    | some n => some (.integer n)
    | none =>
        if isDecimalFloat chars || isSpecialFloat chars then some .float
        else if isDateTime chars then some .dateTime
        else none

/-- A character that ends an unquoted value. -/
def isEnd (c : Char) : Bool :=
  [' ', '\t', '\n', '\r', '#', ',', '=', '[', ']', '\x7b', '\x7d', '"', '\''].contains c

/-- An unquoted value and what follows it. Between a date and its time one blank may stand. -/
def read? (input : List Char) : Option (Atom × List Char) := do
  let word := input.takeWhile (!isEnd ·)
  let rest := input.drop word.length
  let (whole, rest) :=
    match rest with
    | ' ' :: c :: more =>
        if isDate word && isDecimal c then
          let time := (c :: more).takeWhile (!isEnd ·)
          (word ++ ' ' :: time, (c :: more).drop time.length)
        else (word, rest)
    | _ => (word, rest)
  return (← ofChars? whole, rest)

end Atom

end SessionHost.Toml
