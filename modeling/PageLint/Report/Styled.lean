import PageLint.Text.Basic

/-!
# Styled text

Text for a terminal, as spans that may have a style. A style is written as control sequences around
its text, and is left out where colours are not wanted, so the text itself does not depend on it.

* `Styled.render`: the spans as text, with or without colour.
-/

namespace PageLint

/-- A colour of a terminal. -/
inductive Colour where
  /-- Red. -/
  | red
  /-- Green. -/
  | green
  /-- Yellow. -/
  | yellow
  /-- Blue. -/
  | blue
  /-- Magenta. -/
  | magenta
  /-- Cyan. -/
  | cyan
  deriving DecidableEq, Repr

/-- The number of the rendition with a colour. -/
def Colour.code : Colour → String
  | red => "31"
  | green => "32"
  | yellow => "33"
  | blue => "34"
  | magenta => "35"
  | cyan => "36"

/-- A style of a span. -/
inductive Style where
  /-- Bold. -/
  | bold
  /-- Faint. -/
  | dimmed
  /-- Italic. -/
  | italic
  /-- In a colour. -/
  | coloured (c : Colour)
  /-- Bold and in a colour. -/
  | strong (c : Colour)
  deriving DecidableEq, Repr

/-- A control sequence that selects a rendition. -/
def Style.sequence (code : String) : String := "\x1b[" ++ code ++ "m"

/-- What is written before and after a text in this style. A bold text leaves its colour before it
leaves the bold rendition. -/
def Style.marks : Style → String × String
  | bold => (sequence "1", sequence "0")
  | dimmed => (sequence "2", sequence "0")
  | italic => (sequence "3", sequence "0")
  | coloured c => (sequence c.code, sequence "0")
  | strong c => (sequence "1" ++ sequence c.code, sequence "39" ++ sequence "0")

/-- A text with an optional style. -/
structure Span where
  /-- The text. -/
  text : String
  /-- Its style. -/
  style : Option Style := none
  deriving DecidableEq, Repr

namespace Span

/-- A text without style. -/
def plain (text : String) : Span := { text }

/-- A text with a style. -/
def styled (style : Style) (text : String) : Span := { text, style := some style }

/-- The end of a line. -/
def newline : Span := plain "\n"

/-- The span as text, with or without colour. -/
def render (color : Bool) (s : Span) : String :=
  match color, s.style with
  | true, some style => style.marks.1 ++ s.text ++ style.marks.2
  | _, _ => s.text

end Span

/-- The spans as text, with or without colour. -/
def Styled.render (color : Bool) (spans : List Span) : String :=
  String.join (spans.map (·.render color))

end PageLint
