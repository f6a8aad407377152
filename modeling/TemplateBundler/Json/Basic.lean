/-! # JSON values

Objects keep their members in order. A number is an integer when it is written as one
and fits 64 bits; every other number is a floating-point one.
-/

namespace TemplateBundler

inductive Json where
  | null
  | flag (value : Bool)
  | integer (value : Int)
  /-- A number that is no integer, or too large for one. -/
  | float (value : Float)
  | text (value : String)
  | array (items : List Json)
  | object (members : List (String × Json))
  deriving Inhabited

namespace Json

def natural (n : Nat) : Json := integer n

/-- The member of this name, if the value is an object that has one. -/
def member? (json : Json) (name : String) : Option Json :=
  match json with
  | object members => (members.find? (·.1 == name)).map (·.2)
  | _ => none

def orNull : Option Json → Json
  | some json => json
  | none => null

end Json

end TemplateBundler
