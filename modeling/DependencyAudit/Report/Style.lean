/-! Text in colour, as terminals show it. -/
namespace DependencyAudit.Report

/-- A style is the list of codes that turn it on. -/
inductive Style
  | bold
  | boldRed
  | boldGreen
  | boldYellow
  | white
  | cyan
  | brightBlue
deriving DecidableEq

def Style.codes : Style → String
  | bold => "1"
  | boldRed => "1;31"
  | boldGreen => "1;32"
  | boldYellow => "1;33"
  | white => "37"
  | cyan => "36"
  | brightBlue => "94"

def Style.on (s : Style) : String := "\x1b[" ++ s.codes ++ "m"

def styleOff : String := "\x1b[0m"

/-- The text in a style. Where the text itself turns styles off, the style is turned on again. -/
def paint (colour : Bool) (s : Style) (text : String) : String :=
  if colour then
    s.on ++ String.intercalate (styleOff ++ s.on) (text.splitOn styleOff) ++ styleOff
  else text

end DependencyAudit.Report
