import TemplateBundler.Text.ControlSequence

/-! # Styled text

A text in spans, some of which stand out. A terminal shows a span that stands out after the
codes of its style, and another code takes the style back. What is printed plain has no
codes, and no other control sequences either: a span cannot smuggle in its own.
-/

namespace TemplateBundler.Text

/-- Why a span stands out. -/
inductive Emphasis where
  | error
  | heading
  | literal
  | wrong
  deriving DecidableEq, Repr

/-- The codes of the style: errors are bold and red, headings bold and underlined, what is to be
typed is bold, and what is wrong is yellow. -/
def Emphasis.codes : Emphasis → String
  | error => "\x1b[1m\x1b[31m"
  | heading => "\x1b[1m\x1b[4m"
  | literal => "\x1b[1m"
  | wrong => "\x1b[33m"

/-- The code that takes a style back. -/
def plainCode : String := "\x1b[0m"

/-- A piece of text in one style. -/
structure Span where
  text : String
  /-- Why it stands out, if it does. -/
  emphasis : Option Emphasis := none
  deriving DecidableEq, Repr

namespace Span

instance : Coe String Span := ⟨fun text => { text }⟩

def error (text : String) : Span := { text, emphasis := some .error }

def heading (text : String) : Span := { text, emphasis := some .heading }

def literal (text : String) : Span := { text, emphasis := some .literal }

def wrong (text : String) : Span := { text, emphasis := some .wrong }

/-- The span without any codes. -/
def plain (span : Span) : String := withoutControls span.text

/-- The span between the codes of its style. -/
def coded (span : Span) : String :=
  match span.emphasis with
  | some emphasis => emphasis.codes ++ span.text ++ plainCode
  | none => span.text

end Span

abbrev Styled := List Span

namespace Styled

/-- Lines as a text, each with a line feed after it. -/
def ofLines (lines : List Styled) : Styled := lines.flatMap (· ++ [("\n" : Span)])

/-- The text without any codes. -/
def plain (text : Styled) : String := String.join (text.map Span.plain)

/-- The text with the codes of its styles. -/
def coded (text : Styled) : String := String.join (text.map Span.coded)

end Styled

end TemplateBundler.Text
