/-! # Lines

A line feed ends a line, and so does a carriage return together with it. A text closes its
last line when it ends in a line feed; no further line is opened then.
-/

namespace TemplateBundler.Text

/-- Whether the text ends in a line feed. -/
def endsLine (text : String) : Bool := text.toList.getLast? == some '\n'

/-- The text, with a line feed after it unless it ends in one. -/
def closed (text : String) : String := if endsLine text then text else text ++ "\n"

/-- The characters without a carriage return at their end. -/
def dropReturn (cs : List Char) : List Char :=
  if cs.getLast? = some '\r' then cs.dropLast else cs

/-- The lines of a text, without what ends them. -/
def lines (text : String) : List String :=
  let pieces := text.toList.splitOn '\n'
  let pieces := if pieces.getLast? = some [] then pieces.dropLast else pieces
  pieces.map fun piece => String.ofList (dropReturn piece)

/-- Lines as a text, each with a line feed after it. -/
def ofLines (lines : List String) : String := String.join (lines.map (· ++ "\n"))

end TemplateBundler.Text
