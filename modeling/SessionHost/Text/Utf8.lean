/-!
Text as bytes.

`encode` writes a text in UTF-8. Reading goes through `pieces`, which cuts any byte list into
characters and maximal invalid parts: `decode?` accepts a list with no invalid part, and `lossy`
puts one U+FFFD in the place of each.
-/

namespace SessionHost

/-- The content of a file, or any other run of bytes. -/
abbrev Bytes := List UInt8

namespace Text

/-- The UTF-8 form of a text. -/
def encode (text : String) : Bytes :=
  text.toList.flatMap String.utf8EncodeChar

/-- A byte that may follow the first one of a longer sequence. -/
def isContinuation (b : UInt8) : Bool := 0x80 ≤ b && b ≤ 0xBF

/-- Whether `b` may follow the lead byte `lead` of a sequence of three bytes: no shorter sequence
may exist for the character, and it may not be a surrogate. -/
def followsThree (lead b : UInt8) : Bool :=
  isContinuation b && (lead != 0xE0 || 0xA0 ≤ b) && (lead != 0xED || b ≤ 0x9F)

/-- Whether `b` may follow the lead byte `lead` of a sequence of four bytes: no shorter sequence
may exist for the character, and it may not lie above U+10FFFF. -/
def followsFour (lead b : UInt8) : Bool :=
  isContinuation b && (lead != 0xF0 || 0x90 ≤ b) && (lead != 0xF4 || b ≤ 0x8F)

/-- The six bits that a continuation byte carries. -/
def payload (b : UInt8) : Nat := b.toNat % 64

/-- The first piece of a nonempty byte list and what follows it. The piece is `none` for an
invalid part, which is taken as long as it could still begin a character. -/
def firstPiece (a : UInt8) (rest : Bytes) : Option Char × Bytes :=
  if a < 0x80 then (some (Char.ofNat a.toNat), rest)
  else if 0xC2 ≤ a && a ≤ 0xDF then
    match rest with
    | b :: rest' =>
        if isContinuation b then
          (some (Char.ofNat (a.toNat % 32 * 64 + payload b)), rest')
        else (none, rest)
    | [] => (none, [])
  else if 0xE0 ≤ a && a ≤ 0xEF then
    match rest with
    | b :: rest' =>
        if followsThree a b then
          match rest' with
          | c :: rest'' =>
              if isContinuation c then
                (some (Char.ofNat (a.toNat % 16 * 4096 + payload b * 64 + payload c)), rest'')
              else (none, rest')
          | [] => (none, [])
        else (none, rest)
    | [] => (none, [])
  else if 0xF0 ≤ a && a ≤ 0xF4 then
    match rest with
    | b :: rest' =>
        if followsFour a b then
          match rest' with
          | c :: rest'' =>
              if isContinuation c then
                match rest'' with
                | d :: rest''' =>
                    if isContinuation d then
                      (some (Char.ofNat (a.toNat % 8 * 262144 + payload b * 4096
                        + payload c * 64 + payload d)), rest''')
                    else (none, rest'')
                | [] => (none, [])
              else (none, rest')
          | [] => (none, [])
        else (none, rest)
    | [] => (none, [])
  else (none, rest)

theorem length_firstPiece_le (a : UInt8) (rest : Bytes) :
    (firstPiece a rest).2.length ≤ rest.length := by
  unfold firstPiece
  repeat' split
  all_goals simp only [List.length_cons, List.length_nil]; omega

/-- Cuts bytes into characters and maximal invalid parts. -/
def pieces : Bytes → List (Option Char)
  | [] => []
  | a :: rest => (firstPiece a rest).1 :: pieces (firstPiece a rest).2
termination_by bytes => bytes.length
decreasing_by
  have := length_firstPiece_le a rest
  simp only [List.length_cons]
  omega

/-- The text that the bytes spell, if they are valid UTF-8. -/
def decode? (bytes : Bytes) : Option String :=
  ((pieces bytes).mapM id).map String.ofList

/-- The text that the bytes spell, with U+FFFD for each invalid part. -/
def lossy (bytes : Bytes) : String :=
  String.ofList ((pieces bytes).map (·.getD '\uFFFD'))

end Text

end SessionHost
