import TemplateBundler.LineTable

/-! # Position index

Source units are merged by writing them one after the other, each on fresh lines. The
index says for each line of the merged text which unit and which line of that unit it
came from. Only lines are mapped: since every unit starts on a fresh line, a column
never moves.

An index may come from outside and be inconsistent. Look-ups then go by the position
of a record in the table, whatever the record says of itself.
-/

namespace TemplateBundler

/-- One source file: its text and the path or other name that identifies it. -/
structure SourceUnit where
  /-- The whole text. -/
  text : String
  /-- The name under which errors refer to the unit. -/
  identifier : String
  deriving DecidableEq, Repr

/-- The place of a unit in the order of merging, counted from 0. -/
abbrev UnitId := Nat

/-- Where one line of the merged text came from. -/
structure LineRecord where
  /-- The line of the merged text. -/
  mergedLine : Nat
  /-- The unit it came from. -/
  unit : UnitId
  /-- The line within that unit. -/
  sourceLine : Nat
  deriving DecidableEq, Repr

/-- A unit with its line table. -/
structure IndexedUnit where
  source : SourceUnit
  table : LineTable
  deriving DecidableEq, Repr

/-- The units in the order of merging and one record per merged line. -/
structure PositionIndex where
  /-- The units, in the order of merging. -/
  units : List IndexedUnit := []
  /-- The records, by merged line. -/
  records : List LineRecord := []
  deriving DecidableEq, Repr

/-- A position in a source unit. -/
structure SourcePosition where
  unit : UnitId
  /-- The unit's text and name. -/
  source : SourceUnit
  /-- The line within the unit. -/
  line : Nat
  /-- The column, as in the merged text. -/
  column : Nat
  deriving DecidableEq, Repr

namespace PositionIndex

/-- How many merged lines a unit takes: at least one, since it starts on a fresh line. -/
def occupied (table : LineTable) : Nat := max 1 table.lineCount

/-- Adds a unit after those already there. -/
def push (index : PositionIndex) (source : SourceUnit) : PositionIndex :=
  let table := LineTable.ofText source.text
  let first := index.records.length + 1
  { units := index.units ++ [{ source, table }]
    records := index.records ++ (List.range (occupied table)).map fun k =>
      { mergedLine := first + k, unit := index.units.length, sourceLine := k + 1 } }

/-- The index of units merged in this order. -/
def ofUnits (units : List SourceUnit) : PositionIndex := units.foldl push {}

/-- The number of merged lines. -/
def size (index : PositionIndex) : Nat := index.records.length

/-- Whether no line is indexed. -/
def isEmpty (index : PositionIndex) : Bool := index.records.isEmpty

/-- The record of a merged line, counted from 1. -/
def record? (index : PositionIndex) (line : Nat) : Option LineRecord :=
  if line = 0 then none else index.records[line - 1]?

/-- The unit with this place in the order. -/
def unit? (index : PositionIndex) (unit : UnitId) : Option SourceUnit :=
  index.units[unit]?.map (·.source)

/-- The text of a line of a unit, by the unit's line table. -/
def lineText? (index : PositionIndex) (unit : UnitId) (line : Nat) : Option String := do
  let indexed ← index.units[unit]?
  indexed.table.lineText? line indexed.source.text

/-- The position in a source unit that a position in the merged text came from, or `none` if
the line is not indexed. -/
def resolve (index : PositionIndex) (line column : Nat) : Option SourcePosition := do
  let record ← index.record? line
  let source ← index.unit? record.unit
  return { unit := record.unit, source, line := record.sourceLine, column }

end PositionIndex

end TemplateBundler
