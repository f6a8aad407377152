import TemplateBundler.PositionIndex
import TemplateBundler.Schema.Exchange

/-! # Exchanging line tables and position indexes

An index is written with everything that it holds, the texts of the units included, so
that it can be stored and read back.
-/

namespace TemplateBundler

@[reducible] def LineTable.schema : Schema :=
  .record "FileInformation"
    (.cons "line_breaks" (.list .natural) true (.cons "total_length" .natural true .nil))

@[reducible] def SourceUnit.schema : Schema :=
  .record "SourceUnit" (.cons "text" .text true (.cons "identifier" .text true .nil))

@[reducible] def IndexedUnit.schema : Schema :=
  .record "IndexedUnit"
    (.cons "unit" SourceUnit.schema true (.cons "file_info" LineTable.schema true .nil))

@[reducible] def LineRecord.schema : Schema :=
  .record "LineRecord"
    (.cons "merged_line" .natural true
      (.cons "file_id" .natural true (.cons "source_line" .natural true .nil)))

@[reducible] def PositionIndex.schema : Schema :=
  .record "PositionIndex"
    (.cons "units" (.list IndexedUnit.schema) true
      (.cons "records" (.list LineRecord.schema) true .nil))

def LineTable.exchange : Exchange LineTable where
  schema := LineTable.schema
  lay table := (table.breaks, table.length, ())
  lift := fun (breaks, length, ()) => { breaks, length }

def SourceUnit.exchange : Exchange SourceUnit where
  schema := SourceUnit.schema
  lay source := (source.text, source.identifier, ())
  lift := fun (text, identifier, ()) => { text, identifier }

def IndexedUnit.exchange : Exchange IndexedUnit where
  schema := IndexedUnit.schema
  lay unit := (SourceUnit.exchange.lay unit.source, LineTable.exchange.lay unit.table, ())
  lift := fun (source, table, ()) =>
    { source := SourceUnit.exchange.lift source, table := LineTable.exchange.lift table }

def LineRecord.exchange : Exchange LineRecord where
  schema := LineRecord.schema
  lay record := (record.mergedLine, record.unit, record.sourceLine, ())
  lift := fun (mergedLine, unit, sourceLine, ()) => { mergedLine, unit, sourceLine }

def PositionIndex.exchange : Exchange PositionIndex where
  schema := PositionIndex.schema
  lay index :=
    (index.units.map IndexedUnit.exchange.lay, index.records.map LineRecord.exchange.lay, ())
  lift := fun (units, records, ()) =>
    { units := units.map IndexedUnit.exchange.lift
      records := records.map LineRecord.exchange.lift }

end TemplateBundler
