import SessionHost.Toml.Characters

/-!
Reading quoted text: the four kinds of strings.

A string is read in two steps. The first finds its end and gives the body as written, the second
turns the body into the text that it stands for. The escapes are those of TOML 1.1, as the library
`toml` 0.9 reads them.
-/

namespace SessionHost.Toml

/-! ### Finding the end -/

/-- The body of a literal string on one line, and what follows its closing quote. -/
def splitLiteral : List Char → Option (List Char × List Char)
  | [] => none
  | '\'' :: rest => some ([], rest)
  | c :: rest =>
      if isControl c then none else (splitLiteral rest).map fun r => (c :: r.1, r.2)

/-- The body of a basic string on one line, and what follows its closing quote. -/
def splitBasic : List Char → Option (List Char × List Char)
  | [] => none
  | '"' :: rest => some ([], rest)
  | '\\' :: c :: rest =>
      if isControl c then none
      else (splitBasic rest).map fun r => ('\\' :: c :: r.1, r.2)
  | c :: rest =>
      if isControl c then none else (splitBasic rest).map fun r => (c :: r.1, r.2)

/-- Up to two quotes before the three that close a string of several lines belong to its body. -/
def closeQuotes (quote : Char) (rest : List Char) : List Char × List Char :=
  let extra := (rest.takeWhile (· = quote)).take 2
  (extra, rest.drop extra.length)

/-- A line end or a character that a string of several lines may hold. -/
def isLineChar (c : Char) (rest : List Char) : Bool :=
  c = '\n' || (c = '\r' && rest.head? = some '\n') || !isControl c

/-- The body of a literal string of several lines, and what follows its closing quotes. -/
def splitLiteralLines : List Char → Option (List Char × List Char)
  | [] => none
  | '\'' :: '\'' :: '\'' :: rest => some (closeQuotes '\'' rest)
  | c :: rest =>
      if isLineChar c rest then (splitLiteralLines rest).map fun r => (c :: r.1, r.2) else none

/-- The body of a basic string of several lines, and what follows its closing quotes. -/
def splitBasicLines : List Char → Option (List Char × List Char)
  | [] => none
  | '"' :: '"' :: '"' :: rest => some (closeQuotes '"' rest)
  | '\\' :: c :: rest =>
      if isLineChar c rest then
        (splitBasicLines rest).map fun r => ('\\' :: c :: r.1, r.2)
      else none
  | c :: rest =>
      if isLineChar c rest then (splitBasicLines rest).map fun r => (c :: r.1, r.2) else none

/-! ### Escapes -/

/-- The character with the given number, if that is a character. -/
def scalar? (n : Nat) : Option Char :=
  if n < 0xD800 || (0xDFFF < n && n < 0x110000) then some (Char.ofNat n) else none

/-- The character that hexadecimal digits name. -/
def hexChar? (digits : List Char) : Option Char :=
  if digits.all isHex then scalar? (numberOf 16 digits) else none

/-- The character that one letter after a backslash stands for. -/
def shortEscape? : Char → Option Char
  | 'b' => some '\x08'
  | 't' => some '\t'
  | 'n' => some '\n'
  | 'f' => some '\x0c'
  | 'r' => some '\r'
  | 'e' => some '\x1b'
  | '"' => some '"'
  | '\\' => some '\\'
  | _ => none

/-- How many hexadecimal digits follow the letter of a numeric escape. -/
def escapeWidth? : Char → Option Nat
  | 'x' => some 2
  | 'u' => some 4
  | 'U' => some 8
  | _ => none

/-- Where in the body of a basic string the reading stands. -/
inductive Reading where
  /-- Between characters. -/
  | plain
  /-- After a backslash. -/
  | escape
  /-- In a numeric escape that still needs this many digits, after these in reverse. -/
  | digits (missing : Nat) (read : List Char)
  /-- After a backslash and spaces, before the line end that has to come. -/
  | folding
  /-- After a folded line end, among the spaces and line ends that it swallows. -/
  | folded
deriving DecidableEq, Repr

/-- The text that the body of a basic string stands for. In a string of `several` lines a
backslash at the end of a line swallows the line end and all spaces and line ends after it. -/
def decodeBasic (several : Bool) : Reading → List Char → Option (List Char)
  | .plain, [] => some []
  | .folded, [] => some []
  | _, [] => none
  | .plain, c :: rest =>
      if c = '\\' then decodeBasic several .escape rest
      else (decodeBasic several .plain rest).map (c :: ·)
  | .escape, c :: rest =>
      match shortEscape? c with
      | some d => (decodeBasic several .plain rest).map (d :: ·)
      | none =>
          match escapeWidth? c with
          | some width => decodeBasic several (.digits (width - 1) []) rest
          | none =>
              if several && c = '\n' then decodeBasic several .folded rest
              else if several && (isSpace c || c = '\r') then decodeBasic several .folding rest
              else none
  | .digits 0 read, c :: rest =>
      match hexChar? (c :: read).reverse with
      | some d => (decodeBasic several .plain rest).map (d :: ·)
      | none => none
  | .digits (missing + 1) read, c :: rest =>
      decodeBasic several (.digits missing (c :: read)) rest
  | .folding, c :: rest =>
      if c = '\n' then decodeBasic several .folded rest
      else if isSpace c || c = '\r' then decodeBasic several .folding rest
      else none
  | .folded, c :: rest =>
      if isSpace c || c = '\r' || c = '\n' then decodeBasic several .folded rest
      else if c = '\\' then decodeBasic several .escape rest
      else (decodeBasic several .plain rest).map (c :: ·)

/-- A line end right after the opening quotes is not part of the text. -/
def dropFirstLineEnd (body : List Char) : List Char := (lineEnd? body).getD body

/-! ### Strings -/

/-- A string on one line, and what follows it. -/
def readLineString : List Char → Option (List Char × List Char)
  | '\'' :: rest => splitLiteral rest
  | '"' :: rest => do
      let (body, after) ← splitBasic rest
      return (← decodeBasic false .plain body, after)
  | _ => none

/-- A string of any kind, and what follows it. -/
def readString : List Char → Option (List Char × List Char)
  | '\'' :: '\'' :: '\'' :: rest => do
      let (body, after) ← splitLiteralLines rest
      return (dropFirstLineEnd body, after)
  | '"' :: '"' :: '"' :: rest => do
      let (body, after) ← splitBasicLines rest
      return (← decodeBasic true .plain (dropFirstLineEnd body), after)
  | input => readLineString input

end SessionHost.Toml
