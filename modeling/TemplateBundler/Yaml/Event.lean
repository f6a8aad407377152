import TemplateBundler.Yaml.Token

/-! # YAML events

Events are the nodes of a text in order, with the ends of sequences and mappings: the
grammar of tokens, where a key or a value that is left out counts as an empty scalar.
The events that come before a fault are kept.
-/

namespace TemplateBundler.Yaml

/-- A part of a node. -/
inductive Event where
  | documentStart
  | documentEnd
  /-- A reference to the node with this anchor. -/
  | alias (name : String)
  | scalar (anchor : Option String) (tag : Option String) (text : String) (style : Style)
  | sequenceStart (anchor : Option String)
  | sequenceEnd
  | mappingStart (anchor : Option String)
  | mappingEnd
  deriving DecidableEq, Repr

/-- An event and the place where it begins. -/
abbrev MarkedEvent := Event × Mark

namespace Event

/-- What comes next in the grammar. -/
inductive Expecting where
  /-- A document, or the end of the text; only the first one may begin without its mark. -/
  | document (first : Bool)
  /-- What a document holds after its mark. -/
  | content
  | closing
  /-- A node that is not inside brackets. -/
  | node
  | item
  /-- An item of a sequence that is no deeper than the mapping around it. -/
  | flatItem
  | key
  | value
  | flowItem (first : Bool)
  /-- The key of a pair that is an item between brackets. -/
  | pairKey
  | pairValue
  | pairEnd
  | flowKey (first : Bool)
  | flowValue
  /-- The missing value for it. -/
  | noFlowValue
  deriving DecidableEq, Repr

/-- How far the tokens of a text have been read into events. -/
structure Grammar where
  lexemes : List Lexeme
  now : Expecting := .document true
  /-- What comes after that, the innermost first. -/
  later : List Expecting := []
  shorthands : List (String × String) := []

inductive Step where
  | event (event : Event) (mark : Mark) (rest : Grammar)
  | finished
  | failed

namespace Grammar

def skip (grammar : Grammar) : Grammar := { grammar with lexemes := grammar.lexemes.drop 1 }

/-- Goes on with what was put off. -/
def pop (grammar : Grammar) : Grammar :=
  { grammar with now := grammar.later.head?.getD .closing, later := grammar.later.drop 1 }

/-- Puts something off. -/
def putOff (grammar : Grammar) (later : Expecting) : Grammar :=
  { grammar with later := later :: grammar.later }

/-- An empty scalar, after which `now` is expected. -/
def empty (grammar : Grammar) (mark : Mark) (now : Expecting) : Step :=
  .event (.scalar none none "" .plain) mark { grammar with now }

def standardShorthands : List (String × String) :=
  [("!", "!"), ("!!", "tag:yaml.org,2002:")]

/-- Reads directives. There may be one version, which has to be a known one, and each shorthand
may be given once. -/
def takeDirectives : Nat → Bool → List (String × String) → Grammar → Option Grammar
  | 0, _, _, _ => none
  | fuel + 1, versioned, shorthands, grammar =>
    match grammar.lexemes with
    | { token := .version major minor, .. } :: _ =>
      if versioned || major ≠ 1 || (minor ≠ 1 && minor ≠ 2) then none
      else takeDirectives fuel true shorthands grammar.skip
    | { token := .tagShorthand handle meaning, .. } :: _ =>
      if shorthands.any (·.1 == handle) then none
      else takeDirectives fuel versioned ((handle, meaning) :: shorthands) grammar.skip
    | _ =>
      let standard := standardShorthands.filter fun s => !shorthands.any (·.1 == s.1)
      some { grammar with shorthands := shorthands ++ standard }

/-- Reads a document's beginning, or the end of the text. -/
def stepDocument (grammar : Grammar) (first : Bool) : Step :=
  let lexemes :=
    if first then grammar.lexemes else grammar.lexemes.dropWhile (·.token == .documentEnd)
  let grammar := { grammar with lexemes }
  match lexemes with
  | [] => .failed
  | { token := .textEnd, .. } :: _ => .finished
  | { token, start, .. } :: _ =>
    match takeDirectives (lexemes.length + 1) false [] grammar with
    | none => .failed
    | some grammar =>
      match grammar.lexemes with
      | { token := .documentStart, .. } :: _ =>
        .event .documentStart start { grammar with now := .content, later := [.closing] }.skip
      | _ =>
        match first, token with
        | false, _ | _, .version _ _ | _, .tagShorthand _ _ => .failed
        | true, _ => .event .documentStart start { grammar with now := .node, later := [.closing] }

/-- What comes before the content of a node. -/
structure Properties where
  anchor : Option String := none
  /-- The tag, as a shorthand and the rest. -/
  tag : Option (String × String) := none

/-- Reads the anchor and the tag of a node, in either order. -/
def takeProperties (grammar : Grammar) : Properties × Grammar :=
  match grammar.lexemes with
  | { token := .anchor anchor, .. } :: { token := .tag handle rest, .. } :: _ =>
    ({ anchor := some anchor, tag := some (handle, rest) }, grammar.skip.skip)
  | { token := .tag handle rest, .. } :: { token := .anchor anchor, .. } :: _ =>
    ({ anchor := some anchor, tag := some (handle, rest) }, grammar.skip.skip)
  | { token := .anchor anchor, .. } :: _ => ({ anchor := some anchor }, grammar.skip)
  | { token := .tag handle rest, .. } :: _ => ({ tag := some (handle, rest) }, grammar.skip)
  | _ => ({}, grammar)

/-- The whole tag. A shorthand has to be known. -/
def expandTag (grammar : Grammar) : Option (String × String) → Option (Option String)
  | none => some none
  | some (handle, rest) =>
    if handle = "" then some (some rest)
    else (grammar.shorthands.lookup handle).map fun meaning => some (meaning ++ rest)

/-- Reads the beginning of a node, or the whole of a scalar. Blocks begin only outside of
brackets, and a sequence without a block of its own only where `flat` allows it. -/
def stepNode (grammar : Grammar) (block flat : Bool) : Step :=
  match grammar.lexemes with
  | [] => .failed
  | { token := .alias name, start, .. } :: _ => .event (.alias name) start grammar.skip.pop
  | { start, .. } :: _ =>
    let (properties, grammar) := grammar.takeProperties
    match grammar.lexemes, grammar.expandTag properties.tag with
    | [], _ | _, none => .failed
    | { token, .. } :: _, some tag =>
      let anchor := properties.anchor
      let opening (event : Event) (now : Expecting) (grammar : Grammar) : Step :=
        .event event start { grammar with now }
      match token with
      | .blockEntry =>
        if flat then opening (.sequenceStart anchor) .flatItem grammar
        else orEmpty anchor tag start grammar
      | .scalar text style => .event (.scalar anchor tag text style) start grammar.skip.pop
      | .flowSequenceStart => opening (.sequenceStart anchor) (.flowItem true) grammar.skip
      | .flowMappingStart => opening (.mappingStart anchor) (.flowKey true) grammar.skip
      | .blockSequenceStart =>
        if block then opening (.sequenceStart anchor) .item grammar.skip
        else orEmpty anchor tag start grammar
      | .blockMappingStart =>
        if block then opening (.mappingStart anchor) .key grammar.skip
        else orEmpty anchor tag start grammar
      | _ => orEmpty anchor tag start grammar
where
  /-- A node that has properties may be left out otherwise. -/
  orEmpty (anchor tag : Option String) (start : Mark) (grammar : Grammar) : Step :=
    if anchor.isSome || tag.isSome then .event (.scalar anchor tag "" .plain) start grammar.pop
    else .failed

/-- Reads a node in a place that may be left empty, namely before the tokens in `without`.
Afterwards `later` is expected. -/
def stepOptionalNode (grammar : Grammar) (block flat : Bool) (without : List Token) (mark : Mark)
    (later : Expecting) : Step :=
  match grammar.lexemes with
  | [] => .failed
  | { token, .. } :: _ =>
    if without.contains token then grammar.empty mark later
    else (grammar.putOff later).stepNode block flat

/-- Reads an item between brackets, or their end after a comma. -/
def stepFlowItem (grammar : Grammar) : Step :=
  match grammar.lexemes with
  | [] => .failed
  | { token := .flowSequenceEnd, start, .. } :: _ => .event .sequenceEnd start grammar.skip.pop
  | { token := .key, start, .. } :: _ =>
    .event (.mappingStart none) start { grammar.skip with now := .pairKey }
  | _ => (grammar.putOff (.flowItem false)).stepNode false false

/-- Reads a key between braces, or their end after a comma. -/
def stepFlowKey (grammar : Grammar) : Step :=
  match grammar.lexemes with
  | [] => .failed
  | { token := .flowMappingEnd, start, .. } :: _ => .event .mappingEnd start grammar.skip.pop
  | { token := .key, .. } :: _ =>
    match grammar.skip.lexemes with
    | [] => .failed
    | { start, .. } :: _ =>
      grammar.skip.stepOptionalNode false false [.value, .flowEntry, .flowMappingEnd] start
        .flowValue
  | _ => (grammar.putOff .noFlowValue).stepNode false false

/-- Reads a value between brackets or braces after its colon. -/
def stepFlowValue (grammar : Grammar) (closing : Token) (later : Expecting) : Step :=
  match grammar.lexemes with
  | [] => .failed
  | { start, .. } :: _ =>
    grammar.stepOptionalNode false false [.flowEntry, closing] start later

def step (grammar : Grammar) : Step :=
  match grammar.lexemes with
  | [] => .failed
  | { token, start, stop } :: _ =>
    match grammar.now with
    | .document first => grammar.stepDocument first
    | .content =>
      match token with
      | .version _ _ | .tagShorthand _ _ | .documentStart | .documentEnd | .textEnd =>
        .event (.scalar none none "" .plain) start grammar.pop
      | _ => grammar.stepNode true false
    | .closing =>
      let grammar := if token = .documentEnd then grammar.skip else grammar
      .event .documentEnd start
        { grammar with now := .document false, later := [], shorthands := [] }
    | .node => grammar.stepNode true false
    | .item =>
      match token with
      | .blockEntry =>
        grammar.skip.stepOptionalNode true false [.blockEntry, .blockEnd] stop .item
      | .blockEnd => .event .sequenceEnd start grammar.skip.pop
      | _ => .failed
    | .flatItem =>
      match token with
      | .blockEntry =>
        grammar.skip.stepOptionalNode true false [.blockEntry, .key, .value, .blockEnd] stop
          .flatItem
      | _ => .event .sequenceEnd start grammar.pop
    | .key =>
      match token with
      | .key => grammar.skip.stepOptionalNode true true [.key, .value, .blockEnd] stop .value
      | .blockEnd => .event .mappingEnd start grammar.skip.pop
      | _ => .failed
    | .value =>
      match token with
      | .value => grammar.skip.stepOptionalNode true true [.key, .value, .blockEnd] stop .key
      | _ => grammar.empty start .key
    | .flowItem first =>
      match first, token with
      | _, .flowSequenceEnd => .event .sequenceEnd start grammar.skip.pop
      | true, _ => grammar.stepFlowItem
      | false, .flowEntry => grammar.skip.stepFlowItem
      | false, _ => .failed
    | .pairKey =>
      match token with
      | .value | .flowEntry | .flowSequenceEnd => grammar.skip.empty stop .pairValue
      | _ => (grammar.putOff .pairValue).stepNode false false
    | .pairValue =>
      match token with
      | .value => grammar.skip.stepFlowValue .flowSequenceEnd .pairEnd
      | _ => grammar.empty start .pairEnd
    | .pairEnd => .event .mappingEnd start { grammar with now := .flowItem false }
    | .flowKey first =>
      match first, token with
      | _, .flowMappingEnd => .event .mappingEnd start grammar.skip.pop
      | true, _ => grammar.stepFlowKey
      | false, .flowEntry => grammar.skip.stepFlowKey
      | false, _ => .failed
    | .flowValue =>
      match token with
      | .value => grammar.skip.stepFlowValue .flowMappingEnd (.flowKey false)
      | _ => grammar.empty start (.flowKey false)
    | .noFlowValue => grammar.empty start (.flowKey false)
end Grammar

/-- The events of a text, and whether it is well-formed throughout. -/
structure Events where
  /-- The events, up to a fault if there is one. -/
  events : List MarkedEvent
  wellFormed : Bool

/-- Reads events; those read so far are kept in reverse. -/
def readAll : Nat → List MarkedEvent → Grammar → Events
  | 0, events, _ => ⟨events.reverse, false⟩
  | fuel + 1, events, grammar =>
    match grammar.step with
    | .event event mark grammar => readAll fuel ((event, mark) :: events) grammar
    | .finished => ⟨events.reverse, true⟩
    | .failed => ⟨events.reverse, false⟩

/-- The events of these tokens. No token gives rise to more than four events. -/
def ofTokens (lexemes : List Lexeme) : Events :=
  readAll (4 * lexemes.length + 4) [] { lexemes }

end Event

end TemplateBundler.Yaml
