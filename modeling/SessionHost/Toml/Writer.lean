import SessionHost.Toml.Characters

/-!
Writing texts as TOML strings.

Of the four kinds of strings the plainest that needs no escape is chosen: one line between double
quotes, one line between single quotes, and then the same two in several lines. A text that needs
an escape is written between double quotes. This is the choice of the library `toml` 0.9, with which
the program saves its configuration.
-/

namespace SessionHost.Toml

/-- The four kinds of strings. -/
inductive Style where
  | basic
  | literal
  | basicLines
  | literalLines
deriving DecidableEq, Repr

/-! ### What a text holds -/

/-- The length of the longest run of a character, `current` of which have just been seen. -/
def longestRunFrom (c : Char) (current : Nat) : List Char → Nat
  | [] => current
  | d :: rest =>
      if d = c then longestRunFrom c (current + 1) rest
      else max current (longestRunFrom c 0 rest)

/-- The length of the longest run of a character. -/
def longestRun (c : Char) (chars : List Char) : Nat := longestRunFrom c 0 chars

/-- A character that can only be written as an escape. A line end is not one of them. -/
def needsEscape (c : Char) : Bool := isControl c && c != '\n'

/-- The kind of string that a text is written as. -/
def styleOf (chars : List Char) : Style :=
  let codes := chars.any needsEscape
  let backslash := chars.contains '\\'
  let lines := chars.contains '\n'
  let double := longestRun '"' chars
  let single := longestRun '\'' chars
  if !codes && !backslash && double = 0 && !lines then .basic
  else if !codes && single = 0 && !lines then .literal
  else if !codes && !backslash && double ≤ 2 then .basicLines
  else if !codes && single ≤ 2 then .literalLines
  else if lines then .basicLines
  else .basic

/-! ### Bodies -/

/-- The number of a character in four upper-case hexadecimal digits. -/
def fourDigits (n : Nat) : List Char :=
  let digits := (Nat.toDigits 16 n).map Char.toUpper
  List.replicate (4 - digits.length) '0' ++ digits

/-- The escape of a control character. -/
def controlEscape (c : Char) : List Char :=
  if c = '\x08' then ['\\', 'b']
  else if c = '\t' then ['\\', 't']
  else if c = '\n' then ['\\', 'n']
  else if c = '\x0c' then ['\\', 'f']
  else if c = '\r' then ['\\', 'r']
  else '\\' :: 'u' :: fourDigits c.toNat

/-- The body of a basic string. In several `lines`, line ends stand as they are, and of three
double quotes in a row only the third is escaped; `quotes` counts those just written. -/
def basicBody (lines : Bool) (quotes : Nat) : List Char → List Char
  | [] => []
  | c :: rest =>
      if c = '"' then
        if lines && quotes < 2 then c :: basicBody lines (quotes + 1) rest
        else '\\' :: c :: basicBody lines 0 rest
      else if c = '\\' then '\\' :: c :: basicBody lines 0 rest
      else if c = '\t' || (isControl c && !(lines && c = '\n')) then
        controlEscape c ++ basicBody lines 0 rest
      else c :: basicBody lines 0 rest

/-- A text as a string of the given kind. A text of several lines starts on a line of its own. -/
def writeAs (style : Style) (chars : List Char) : List Char :=
  let start := if chars.contains '\n' then ['\n'] else []
  match style with
  | .basic => '"' :: basicBody false 0 chars ++ ['"']
  | .literal => '\'' :: chars ++ ['\'']
  | .basicLines =>
      ['"', '"', '"'] ++ start ++ basicBody true 0 chars ++ ['"', '"', '"']
  | .literalLines => ['\'', '\'', '\''] ++ start ++ chars ++ ['\'', '\'', '\'']

/-- A text as a string. -/
def writeText (chars : List Char) : List Char := writeAs (styleOf chars) chars

/-- The line that gives a key a text. The key is one that needs no quotes. -/
def writeLine (key value : String) : List Char :=
  key.toList ++ [' ', '=', ' '] ++ writeText value.toList ++ ['\n']

end SessionHost.Toml
