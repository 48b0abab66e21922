/-!
Text in colours, for terminals that show them.
-/

namespace SessionHost.Console

/-- The ways in which a text can stand out. -/
inductive Style where
  | bold
  | yellow
  | cyan
  | boldRed
  | boldGreen
  | boldYellow
  | boldBlue
deriving DecidableEq, Repr

/-- The parameters of the terminal sequence that turns a style on. -/
def Style.parameters : Style → String
  | bold => "1"
  | yellow => "33"
  | cyan => "36"
  | boldRed => "1;31"
  | boldGreen => "1;32"
  | boldYellow => "1;33"
  | boldBlue => "1;34"

/-- A text in a style, or as it is where colours are off. -/
def Style.paint (style : Style) (color : Bool) (text : String) : String :=
  if color then "\x1b[" ++ style.parameters ++ "m" ++ text ++ "\x1b[0m" else text

end SessionHost.Console
