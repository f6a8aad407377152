import TemplateBundler.Yaml.Event

/-! # YAML documents

A document is a node as its events, with every reference led to the node it stands for.
Only the first document of a text is kept, with a note of whether there is more. What
comes before a fault can still be read.

Anchors are numbered as they come, by the number of names known at the time. A name that
is used again keeps its place among the names but gets a new number, so the number may
come up once more for the next new name, which then takes over older references.
-/

namespace TemplateBundler.Yaml

/-- A part of a node without names. -/
inductive Node where
  | void
  | alias (anchor : Nat)
  | scalar (tag : Option String) (text : String) (style : Style)
  | sequenceStart
  | sequenceEnd
  | mappingStart
  | mappingEnd
  deriving DecidableEq, Repr

/-- Why a text is no YAML. -/
inductive Fault where
  | malformed
  | unknownAnchor (mark : Mark)
  deriving DecidableEq, Repr

def Fault.message : Fault → String
  | malformed => "malformed YAML"
  | unknownAnchor mark => "unknown anchor" ++ mark.shown

structure Document where
  /-- The parts of its node, up to a fault if there is one. -/
  nodes : Array (Node × Mark) := #[]
  /-- Where the node of an anchor begins. -/
  anchors : List (Nat × Nat) := []
  fault? : Option Fault := none
  /-- Whether nothing follows the document. -/
  single : Bool := true
  deriving Repr

namespace Document

/-- The document so far, with the anchors by name. -/
structure Composing where
  document : Document := {}
  /-- The numbers of the names. -/
  names : List (String × Nat) := []

/-- Notes that the next part has this anchor. -/
def Composing.bind (composing : Composing) : Option String → Composing
  | none => composing
  | some name =>
    let number := composing.names.length
    let names :=
      if composing.names.any (·.1 == name) then
        composing.names.map fun n => if n.1 = name then (name, number) else n
      else composing.names ++ [(name, number)]
    let document := composing.document
    { document :=
        { document with anchors := (number, document.nodes.size) :: document.anchors }
      names }

def Composing.push (composing : Composing) (node : Node) (mark : Mark) : Composing :=
  let document := composing.document
  { composing with document := { document with nodes := document.nodes.push (node, mark) } }

/-- The document with a fault after the parts so far. -/
def Composing.broken (composing : Composing) (fault : Fault) : Document :=
  { composing.document with fault? := some fault }

/-- Composes the first document from the events after its beginning. -/
def compose (wellFormed : Bool) : Composing → List MarkedEvent → Document
  | composing, [] => composing.broken .malformed
  | composing, (event, mark) :: events =>
    match event with
    | .documentStart => compose wellFormed composing events
    | .documentEnd =>
      { composing.document with single := wellFormed && events.isEmpty }
    | .alias name =>
      match composing.names.lookup name with
      | some anchor => compose wellFormed (composing.push (.alias anchor) mark) events
      | none => composing.broken (.unknownAnchor mark)
    | .scalar anchor tag text style =>
      compose wellFormed ((composing.bind anchor).push (.scalar tag text style) mark) events
    | .sequenceStart anchor =>
      compose wellFormed ((composing.bind anchor).push .sequenceStart mark) events
    | .sequenceEnd => compose wellFormed (composing.push .sequenceEnd mark) events
    | .mappingStart anchor =>
      compose wellFormed ((composing.bind anchor).push .mappingStart mark) events
    | .mappingEnd => compose wellFormed (composing.push .mappingEnd mark) events

def ofText (text : String) : Document :=
  let events := Event.ofTokens (Tokens.ofText text)
  if events.events.isEmpty && events.wellFormed then { nodes := #[(.void, {})] }
  else compose events.wellFormed {} events.events

/-- Why there is nothing where a part is due. -/
def fault (document : Document) : Fault := document.fault?.getD .malformed

/-- Where a part stands after following a reference. -/
def follow (document : Document) (position : Nat) : Nat :=
  match document.nodes[position]? with
  | some (.alias anchor, _) => (document.anchors.lookup anchor).getD position
  | _ => position

/-- The number of parts that make up the node at a position. -/
def nodeLength (document : Document) (position : Nat) : Option Nat :=
  go (document.nodes.size - position) 0 0
where
  /-- Goes through parts until as many nodes are closed as were opened. -/
  go : Nat → Nat → Nat → Option Nat
    | 0, _, _ => none
    | fuel + 1, depth, length => do
      let (node, _) ← document.nodes[position + length]?
      let depth ← match node with
        | .sequenceStart | .mappingStart => some (depth + 1)
        | .sequenceEnd | .mappingEnd => if depth = 0 then none else some (depth - 1)
        | _ => some depth
      if depth = 0 then some (length + 1) else go fuel depth (length + 1)

end Document

end TemplateBundler.Yaml
