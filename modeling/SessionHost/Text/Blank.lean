/-!
Blank characters and trimming.
-/

namespace SessionHost.Text

/-- A character with the Unicode property White_Space. -/
def isBlank (c : Char) : Bool :=
  let n := c.toNat
  (0x9 ≤ n && n ≤ 0xD) || n == 0x20 || n == 0x85 || n == 0xA0 || n == 0x1680
    || (0x2000 ≤ n && n ≤ 0x200A) || n == 0x2028 || n == 0x2029 || n == 0x202F || n == 0x205F
    || n == 0x3000

/-- The list without its leading and trailing blanks. -/
def trimChars (chars : List Char) : List Char :=
  ((chars.dropWhile isBlank).reverse.dropWhile isBlank).reverse

/-- The text without its leading and trailing blanks. -/
def trim (text : String) : String :=
  String.ofList (trimChars text.toList)

/-- A text of nothing but blanks. -/
def allBlank (text : String) : Bool :=
  (trim text).isEmpty

end SessionHost.Text
