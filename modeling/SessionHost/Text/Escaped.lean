import SessionHost.Text.Printable
import SessionHost.Text.Extending

/-!
Text made visible for a message.

Characters that would not show, or would end the quotation they stand in, are written as escapes.
-/

namespace SessionHost.Text

/-- The number in lower-case hexadecimal between braces, as it follows the u of an escape. -/
def bracedHex (n : Nat) : List Char :=
  '\x7b' :: Nat.toDigits 16 n ++ ['\x7d']

/-- A character as it is shown. An extending character is escaped only where `leading` says that
nothing stands before it. -/
def escapeChar (leading : Bool) (c : Char) : List Char :=
  if c = '\x00' then ['\\', '0']
  else if c = '\t' then ['\\', 't']
  else if c = '\r' then ['\\', 'r']
  else if c = '\n' then ['\\', 'n']
  else if c = '\'' then ['\\', '\'']
  else if c = '"' then ['\\', '"']
  else if c = '\\' then ['\\', '\\']
  else if !isPrintable c || (leading && isExtending c) then '\\' :: 'u' :: bracedHex c.toNat
  else [c]

/-- A text with every unprintable character and every quote shown as an escape. -/
def escaped (text : String) : String :=
  match text.toList with
  | [] => ""
  | c :: rest => String.ofList (escapeChar true c ++ rest.flatMap (escapeChar false))

end SessionHost.Text
