import TemplateBundler.FileTree
import TemplateBundler.Options.Exchange
import TemplateBundler.Schema.Yaml
import TemplateBundler.Text.Blank

/-! # Configuration files

Options are configured in YAML. A text of nothing but white space configures nothing.
-/

namespace TemplateBundler

/-- Why a configuration cannot be used. -/
inductive ConfigError where
  /-- The file cannot be read. -/
  | unreadable (path : Path) (error : FileError)
  /-- The text is no configuration. -/
  | invalid (error : Yaml.ReadError)

def ConfigError.message : ConfigError → String
  | unreadable path error => s!"Failed to read config file {path.shown}: {error.message}"
  | invalid error => s!"Invalid config: {error.message}"

/-- The text of what lies behind a configuration error. -/
def ConfigError.cause : ConfigError → String
  | unreadable _ error => error.message
  | invalid error => error.message

namespace Options

/-- The options that a text configures. -/
def ofYaml (text : String) : Except ConfigError Options :=
  if (Text.trim text).isEmpty then .ok {}
  else (Options.exchange.parseYaml text).mapError .invalid

/-- The options that a file configures. -/
def ofFile (tree : FileTree) (cwd : Location) (path : Path) : Except ConfigError Options := do
  ofYaml (← (tree.readText cwd path).mapError (.unreadable path))

end Options

end TemplateBundler
