-- Terminal styling. A style is a row of codes; painting a text puts the codes before it and a
-- reset after it, or leaves the text alone where colors are off.
import Gamebook.Text.Color
import Gamebook.Text.Substitution

namespace Gamebook.Text

/-! ## Painting -/

/-- The codes of a style, as they stand between the bracket and the `m`. -/
abbrev Style := String

namespace Style

def bold : Style := "1"
def dimmed : Style := "2"
def boldYellow : Style := "1;33"
def boldRed : Style := "1;31"

def opening (style : Style) : String := "\x1b[" ++ style ++ "m"

def reset : String := "\x1b[0m"

/-- The text in a style. A reset inside the text is followed by the style again, so that the
style lasts to the end. -/
def paint (style : Style) (color : Bool) (text : String) : String :=
  if color then opening style ++ replaceAll text reset (reset ++ opening style) ++ reset
  else text

/-! ## Colors -/

/-- Text in the named color. -/
def foreground (name : String) : Style := toString (Shade.ofName name).code

/-- White text on the named color. -/
def whiteOn (name : String) : Style := toString ((Shade.ofName name).code + 10) ++ ";37"

example : whiteOn "Red" = "41;37" ∧ foreground "chartreuse" = "37" := by decide +kernel

end Style

end Gamebook.Text
