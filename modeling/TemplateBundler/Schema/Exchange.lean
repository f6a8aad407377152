import TemplateBundler.Schema.JsonText

/-! # Exchanging values

An exchange says how the values of a type are laid out for other programs: the schema
of the layout, and the way there and back. Writing and the three ways of reading are
the same for every exchange.
-/

namespace TemplateBundler

/-- How the values of a type are laid out. -/
structure Exchange (α : Type) where
  schema : Schema
  lay : α → schema.Carrier
  lift : schema.Carrier → α

namespace Exchange

variable {α : Type}

def toJson (exchange : Exchange α) (value : α) : Json :=
  exchange.schema.toJson (exchange.lay value)

def write (exchange : Exchange α) (value : α) : String := (exchange.toJson value).render

def ofJson (exchange : Exchange α) (json : Json) : Except SchemaError α :=
  exchange.lift <$> exchange.schema.ofJson json

def parse (exchange : Exchange α) (text : String) : Except Json.ReadError α :=
  exchange.lift <$> exchange.schema.parse text

end Exchange

end TemplateBundler
