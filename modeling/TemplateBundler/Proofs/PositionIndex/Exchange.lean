import TemplateBundler.Diagnosis
import TemplateBundler.PositionIndex.Exchange
import TemplateBundler.Proofs.Schema.RoundTrip

/-! # Indexes restored from their text

An index that was written out and is read again is the same index, whatever stands in it: texts
and names of any characters, line tables that fit no text and records that point nowhere. So it
answers every question as before.
-/

namespace TemplateBundler

namespace PositionIndex

/-- All numbers in the index have at most 64 bits. -/
structure FitsWords (index : PositionIndex) : Prop where
  tables : ∀ unit ∈ index.units,
    (∀ offset ∈ unit.table.breaks, offset ≤ maxNatural) ∧ unit.table.length ≤ maxNatural
  records : ∀ record ∈ index.records,
    record.mergedLine ≤ maxNatural ∧ record.unit ≤ maxNatural ∧ record.sourceLine ≤ maxNatural

theorem lift_lay (index : PositionIndex) : exchange.lift (exchange.lay index) = index := by
  have hunits : (index.units.map IndexedUnit.exchange.lay).map IndexedUnit.exchange.lift =
      index.units := by
    rw [List.map_map]
    exact List.map_id _
  have hrecords : (index.records.map LineRecord.exchange.lay).map LineRecord.exchange.lift =
      index.records := by
    rw [List.map_map]
    exact List.map_id _
  exact congrArg₂ PositionIndex.mk hunits hrecords

theorem FitsWords.fits {index : PositionIndex} (h : index.FitsWords) :
    exchange.schema.Fits (exchange.lay index) := by
  refine ⟨?_, ?_, trivial⟩
  · intro unit hunit
    obtain ⟨unit, hmem, rfl⟩ := List.mem_map.mp hunit
    obtain ⟨hbreaks, hlength⟩ := h.tables unit hmem
    exact ⟨⟨trivial, trivial, trivial⟩, ⟨hbreaks, hlength, trivial⟩, trivial⟩
  · intro record hrecord
    obtain ⟨record, hmem, rfl⟩ := List.mem_map.mp hrecord
    obtain ⟨hmerged, hunit, hsource⟩ := h.records record hmem
    exact ⟨hmerged, hunit, hsource, trivial⟩

/-- What is written of an index is read as the same index, which answers as the first one does. -/
theorem exchange_restores_index (index : PositionIndex) (h : index.FitsWords) :
    ∃ restored, exchange.parse (exchange.write index) = .ok restored ∧ restored = index ∧
      (∀ line column, restored.resolve line column = index.resolve line column) ∧
      (∀ line, restored.record? line = index.record? line) ∧
      (∀ unit, restored.unit? unit = index.unit? unit) ∧
      (∀ unit line, restored.lineText? unit line = index.lineText? unit line) ∧
      ∀ root options failure, Diagnosis.ofFailure root options restored failure =
        Diagnosis.ofFailure root options index failure := by
  refine ⟨index, ?_, rfl, fun _ _ => rfl, fun _ => rfl, fun _ => rfl, fun _ _ => rfl,
    fun _ _ _ => rfl⟩
  exact exchange.parse_write (by decide) h.fits index.lift_lay

/-- The table fits no text, the first record names no unit, and the numbers are the greatest. -/
theorem exchange_restores_false_index :
    let index : PositionIndex :=
      { units := [⟨⟨"\x7b\"a\\\n\u0001é", "\""⟩, ⟨[maxNatural, 3, 3], 0⟩⟩]
        records := [⟨0, maxNatural, 7⟩, ⟨9, 0, maxNatural⟩] }
    index.FitsWords ∧ ∃ restored, exchange.parse (exchange.write index) = .ok restored ∧
      restored = index ∧ restored.resolve 2 maxNatural = index.resolve 2 maxNatural := by
  intro index
  have hfits : index.FitsWords := ⟨by decide, by decide⟩
  obtain ⟨restored, hrestored, heq, hresolve, -⟩ := exchange_restores_index index hfits
  exact ⟨hfits, restored, hrestored, heq, hresolve _ _⟩

end PositionIndex

end TemplateBundler
