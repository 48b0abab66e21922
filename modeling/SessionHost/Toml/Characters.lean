/-!
Character classes of TOML 1.1, and what may stand between its expressions.

These modules follow the reader of the library `toml` 0.9, with which the program reads its
configuration, profiles and manifests.
-/

namespace SessionHost.Toml

/-- The two characters that separate words on a line. -/
def isSpace (c : Char) : Bool := c = ' ' || c = '\t'

/-- A control character that no TOML text holds as it is, other than in a line end. -/
def isControl (c : Char) : Bool := (c.toNat < 0x20 && c != '\t') || c.toNat = 0x7F

/-- A character of a key that stands without quotes. -/
def isBare (c : Char) : Bool :=
  ('a' ≤ c && c ≤ 'z') || ('A' ≤ c && c ≤ 'Z') || ('0' ≤ c && c ≤ '9') || c = '_' || c = '-'

def isDecimal (c : Char) : Bool := '0' ≤ c && c ≤ '9'

def isOctal (c : Char) : Bool := '0' ≤ c && c ≤ '7'

def isBinary (c : Char) : Bool := c = '0' || c = '1'

def isHex (c : Char) : Bool :=
  isDecimal c || ('a' ≤ c && c ≤ 'f') || ('A' ≤ c && c ≤ 'F')

/-- The value of a digit in any of the bases. -/
def digitValue (c : Char) : Nat :=
  if isDecimal c then c.toNat - '0'.toNat
  else if 'a' ≤ c && c ≤ 'f' then c.toNat - 'a'.toNat + 10
  else c.toNat - 'A'.toNat + 10

/-- The number that the digits spell in a base. -/
def numberOf (base : Nat) (digits : List Char) : Nat :=
  digits.foldl (fun n c => n * base + digitValue c) 0

/-! ### Between expressions -/

/-- The rest after the spaces in front. -/
def skipSpaces (input : List Char) : List Char := input.dropWhile isSpace

/-- The rest after a line end in front, if there is one. -/
def lineEnd? : List Char → Option (List Char)
  | '\n' :: rest => some rest
  | '\r' :: '\n' :: rest => some rest
  | _ => none

/-- The rest after a comment whose number sign has been read, from its line end on. -/
def skipComment : List Char → Option (List Char)
  | [] => some []
  | '\n' :: rest => some ('\n' :: rest)
  | '\r' :: '\n' :: rest => some ('\r' :: '\n' :: rest)
  | c :: rest => if isControl c then none else skipComment rest

/-- The rest after the spaces and the comment, if any, that may end a line. What is left begins
with a line end or is empty. -/
def endLine (input : List Char) : Option (List Char) := do
  let rest ←
    match skipSpaces input with
    | '#' :: comment => skipComment comment
    | rest => some rest
  if rest.isEmpty then some [] else lineEnd? rest

/-- The rest after any spaces, line ends and comments. `inComment` says that a comment is open. -/
def skipFiller (inComment : Bool) : List Char → Option (List Char)
  | [] => some []
  | '\n' :: rest => skipFiller false rest
  | '\r' :: '\n' :: rest => skipFiller false rest
  | c :: rest =>
      if inComment then if isControl c then none else skipFiller true rest
      else if isSpace c then skipFiller false rest
      else if c = '#' then skipFiller true rest
      else some (c :: rest)

end SessionHost.Toml
