import SessionHost.Text.Utf8

/-!
Reading strings.

A string that is kept is cut out at its closing quote and then decoded. A string that is skipped
is only checked for its form: it may hold invalid UTF-8 and half surrogates, as in the library
`serde_json` 1.0.
-/

namespace SessionHost.Json

@[match_pattern] abbrev quote : UInt8 := 0x22

@[match_pattern] abbrev backslash : UInt8 := 0x5C

/-- The letter of a numeric escape. -/
@[match_pattern] abbrev letterU : UInt8 := 0x75

/-- The value of a hexadecimal digit. -/
def hexValue? (b : UInt8) : Option Nat :=
  if 0x30 ≤ b && b ≤ 0x39 then some (b.toNat - 0x30)
  else if 0x61 ≤ b && b ≤ 0x66 then some (b.toNat - 0x61 + 10)
  else if 0x41 ≤ b && b ≤ 0x46 then some (b.toNat - 0x41 + 10)
  else none

/-- The number that four hexadecimal digits spell. -/
def hexUnit? (a b c d : UInt8) : Option Nat := do
  return (((← hexValue? a) * 16 + (← hexValue? b)) * 16 + (← hexValue? c)) * 16 + (← hexValue? d)

/-- The byte that one letter after a backslash stands for. -/
def shortEscape? (b : UInt8) : Option UInt8 :=
  if b = 0x22 || b = 0x5C || b = 0x2F then some b
  else if b = 0x62 then some 0x08
  else if b = 0x66 then some 0x0C
  else if b = 0x6E then some 0x0A
  else if b = 0x72 then some 0x0D
  else if b = 0x74 then some 0x09
  else none

/-- The first half of a surrogate pair. -/
def isHighSurrogate (n : Nat) : Bool := 0xD800 ≤ n && n ≤ 0xDBFF

/-- The second half of a surrogate pair. -/
def isLowSurrogate (n : Nat) : Bool := 0xDC00 ≤ n && n ≤ 0xDFFF

/-- The bytes of the character with the given number. -/
def encodeUnit (n : Nat) : Bytes := String.utf8EncodeChar (Char.ofNat n)

/-- The body of a string, as written, and what follows its closing quote. -/
def splitString : Bytes → Option (Bytes × Bytes)
  | [] => none
  | quote :: rest => some ([], rest)
  | backslash :: b :: rest => (splitString rest).map fun r => (backslash :: b :: r.1, r.2)
  | b :: rest =>
      if b < 0x20 then none else (splitString rest).map fun r => (b :: r.1, r.2)

/-- The bytes that the body of a string stands for. -/
def decodeBody : Bytes → Option Bytes
  | [] => some []
  | backslash :: letterU :: a :: b :: c :: d :: rest => do
      let n ← hexUnit? a b c d
      if isLowSurrogate n then none
      else if isHighSurrogate n then
        match rest with
        | backslash :: letterU :: e :: f :: g :: h :: rest => do
            let m ← hexUnit? e f g h
            if isLowSurrogate m then
              let more ← decodeBody rest
              return encodeUnit (0x10000 + (n - 0xD800) * 0x400 + (m - 0xDC00)) ++ more
            else none
        | _ => none
      else
        let more ← decodeBody rest
        return encodeUnit n ++ more
  | backslash :: b :: rest => do
      let byte ← shortEscape? b
      let more ← decodeBody rest
      return byte :: more
  | b :: rest => (decodeBody rest).map (b :: ·)

/-- A string whose opening quote has been read, and what follows it. -/
def readString (input : Bytes) : Option (String × Bytes) := do
  let (body, rest) ← splitString input
  let text ← Text.decode? (← decodeBody body)
  return (text, rest)

/-- What follows a string whose opening quote has been read, if the string has the right form. -/
def skipString : Bytes → Option Bytes
  | [] => none
  | quote :: rest => some rest
  | backslash :: letterU :: a :: b :: c :: d :: rest => do
      let _ ← hexUnit? a b c d
      skipString rest
  | backslash :: b :: rest => do
      let _ ← shortEscape? b
      skipString rest
  | b :: rest => if b < 0x20 then none else skipString rest

end SessionHost.Json
