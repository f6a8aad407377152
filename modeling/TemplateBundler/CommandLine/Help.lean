import TemplateBundler.CommandLine.Arguments

/-! # Help

What the command line says about itself.
-/

namespace TemplateBundler.CommandLine

def versionText : Text.Styled := .ofLines [["xjst 0.1.0"]]

/-- What the help command is for. -/
def helpAbout : String := "Print this message or the help of the given subcommand(s)"

/-- What the build command is for. -/
def buildAbout : String := "Build one bundle from XJST template files"

def generalHelp : Text.Styled := .ofLines
  [["Merge, compile and bundle XJST templates"],
   [],
   [.heading "Usage:", " ", .literal "xjst", " <COMMAND>"],
   [],
   [.heading "Commands:"],
   ["  ", .literal "build", "  ", buildAbout],
   ["  ", .literal "help", "   ", helpAbout],
   [],
   [.heading "Options:"],
   ["  ", .literal "-h", ", ", .literal "--help", "     Print help"],
   ["  ", .literal "-V", ", ", .literal "--version", "  Print version"]]

/-- The forms of an option. -/
def OptionForm.helpForms (form : OptionForm) : Text.Styled :=
  match form.short with
  | some c => ["  ", .literal s!"-{c}", ", ", .literal s!"--{form.long}", form.shownValue]
  | none => ["      ", .literal s!"--{form.long}", form.shownValue]

/-- The lines about an option: its forms, then what it is for. -/
def OptionForm.helpLines (form : OptionForm) : List Text.Styled :=
  [form.helpForms, ["          ", form.description]]

/-- What help on the build command says before the options. -/
def buildUsage : List Text.Styled :=
  [[buildAbout],
   [],
   [.heading "Usage:", " ", .literal "xjst build", " [OPTIONS] ", shownFiles],
   [],
   [.heading "Arguments:"],
   ["  ", shownFiles, "  Template files, in the order they are merged"],
   []]

def buildHelp : Text.Styled :=
  .ofLines (buildUsage ++ [.heading "Options:"] :: buildOptions.flatMap OptionForm.helpLines)

def helpHelp : Text.Styled := .ofLines
  [[helpAbout],
   [],
   [.heading "Usage:", " ", .literal "xjst help", " [COMMAND]..."],
   [],
   [.heading "Arguments:"],
   ["  [COMMAND]...  Print help for the subcommand(s)"]]

end TemplateBundler.CommandLine
