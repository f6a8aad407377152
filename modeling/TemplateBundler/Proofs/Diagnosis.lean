import TemplateBundler.Proofs.Stage

/-! # Diagnosis of units merged in two parts

Merging carries nothing from one unit to the next but how many lines and units came before. Units
that are merged behind others therefore keep their lines and their order, moved by those two
numbers, and a failure is led back to them as it is when they are merged alone.
-/

namespace TemplateBundler

open PositionIndex

/-- The record behind this many lines of this many units. -/
def LineRecord.shift (lines units : Nat) (record : LineRecord) : LineRecord where
  mergedLine := lines + record.mergedLine
  unit := units + record.unit
  sourceLine := record.sourceLine

namespace PositionIndex

theorem records_push (index : PositionIndex) (source : SourceUnit) :
    (index.push source).records = index.records ++
      (List.range (occupied (LineTable.ofText source.text))).map fun k =>
        ⟨index.size + 1 + k, index.units.length, k + 1⟩ := rfl

theorem records_ofUnits_append (units others : List SourceUnit) :
    (ofUnits (units ++ others)).records = (ofUnits units).records ++
      (ofUnits others).records.map (LineRecord.shift (ofUnits units).size units.length) := by
  induction others using List.reverseRecOn with
  | nil => simp [ofUnits]
  | append_singleton others source ih =>
      have hunits : (ofUnits (units ++ others)).units.length =
          units.length + (ofUnits others).units.length := by simp
      rw [← List.append_assoc, ofUnits_append_singleton, ofUnits_append_singleton, records_push,
        records_push, ih, size_ofUnits_append, hunits, List.map_append, List.map_map,
        List.append_assoc]
      simp only [Function.comp_def, LineRecord.shift, Nat.add_assoc]

namespace PlacedAt

variable {units before after : List SourceUnit} {source : SourceUnit} {merged number : Nat}

theorem append (h : PlacedAt units merged before source after number) (others : List SourceUnit) :
    PlacedAt (units ++ others) merged before source (after ++ others) number :=
  ⟨by rw [h.split, List.append_assoc, List.cons_append], h.counted, h.pos, h.le⟩

theorem prepend (h : PlacedAt units merged before source after number)
    (others : List SourceUnit) :
    PlacedAt (others ++ units) ((ofUnits others).size + merged) (others ++ before) source after
      number := by
  refine ⟨by rw [h.split, List.append_assoc], ?_, h.pos, h.le⟩
  rw [size_ofUnits_append, h.counted, Nat.add_assoc]

end PlacedAt

end PositionIndex

namespace Diagnosis

variable {units : List SourceUnit} {line : Nat}

theorem ofFailure_append_of_le (hle : line ≤ (merge units).index.size)
    (others : List SourceUnit) (root : Path) (options : ExcerptOptions) (message : String)
    (column : Nat) :
    ofFailure root options (merge (units ++ others)).index (.positioned message line column) =
      ofFailure root options (merge units).index (.positioned message line column) := by
  rcases Nat.eq_zero_or_pos line with rfl | hpos
  · -- Lines are counted from 1, so neither index has this one.
    have hzero (units : List SourceUnit) :
        ¬ (merge units).Covers (.positioned message 0 column) := by
      rintro ⟨message, line, column, hfailure, hline⟩
      cases hfailure
      exact Nat.not_succ_le_zero 0 hline.1
    rw [ofFailure_of_not_covers (hzero _), ofFailure_of_not_covers (hzero _)]
  · obtain ⟨before, source, after, number, h⟩ := exists_placedAt hpos hle
    rw [ofFailure_of_placedAt (h.append others), ofFailure_of_placedAt h]

/-- The place of the unit in the order of merging does not enter the error. -/
theorem ofFailure_append_add (others : List SourceUnit) (hpos : 0 < line)
    (hle : line ≤ (merge units).index.size) (root : Path) (options : ExcerptOptions)
    (message : String) (column : Nat) :
    ∃ error,
      ofFailure root options (merge (others ++ units)).index
        (.positioned message ((merge others).index.size + line) column) = inFile error ∧
      ofFailure root options (merge units).index (.positioned message line column) =
        inFile error := by
  obtain ⟨before, source, after, number, h⟩ := exists_placedAt hpos hle
  exact ⟨_, ofFailure_of_placedAt (h.prepend others) message column,
    ofFailure_of_placedAt h message column⟩

/-- Units merged behind others add their own text and table to theirs, the table moved by the lines
and units before it. A failure at a line of the first part is diagnosed as if nothing followed,
and one at a line of the second part as if nothing came before. -/
theorem merge_append_keeps_diagnoses (units others : List SourceUnit) :
    (merge (units ++ others)).text = (merge units).text ++ (merge others).text ∧
    (merge (units ++ others)).index.records = (merge units).index.records ++
      (merge others).index.records.map
        (LineRecord.shift (merge units).index.size units.length) ∧
    ∀ (root : Path) (options : ExcerptOptions) (message : String) (column : Nat),
      (∀ line ≤ (merge units).index.size,
        ofFailure root options (merge (units ++ others)).index (.positioned message line column) =
          ofFailure root options (merge units).index (.positioned message line column)) ∧
      ∀ line ∈ Set.Icc 1 (merge others).index.size, ∃ error,
        ofFailure root options (merge (units ++ others)).index
          (.positioned message ((merge units).index.size + line) column) = inFile error ∧
        ofFailure root options (merge others).index (.positioned message line column) =
          inFile error := by
  refine ⟨merge_text_append units others, records_ofUnits_append units others, ?_⟩
  intro root options message column
  constructor
  · intro line hle
    exact ofFailure_append_of_le hle others root options message column
  · intro line hline
    exact ofFailure_append_add units hline.1 hline.2 root options message column

/-- An open unit is closed before an empty one, and the failures beside that seam stay where they
were. -/
theorem merge_append_keeps_diagnoses_at_seam :
    let units : List SourceUnit := [⟨"a\nb\r", "/p/x"⟩]
    let others : List SourceUnit := [⟨"", "/p/y"⟩, ⟨"c", "/p/z"⟩]
    2 ≤ (merge units).index.size ∧ 1 ∈ Set.Icc 1 (merge others).index.size ∧
    ofFailure (Path.ofText "/p") {} (merge (units ++ others)).index (.positioned "Bad" 2 1) =
      ofFailure (Path.ofText "/p") {} (merge units).index (.positioned "Bad" 2 1) ∧
    ofFailure (Path.ofText "/p") {} (merge (units ++ others)).index
        (.positioned "Bad" ((merge units).index.size + 1) 1) =
      ofFailure (Path.ofText "/p") {} (merge others).index (.positioned "Bad" 1 1) := by
  intro units others
  have hfirst : 2 ≤ (merge units).index.size := by decide
  have hsecond : 1 ∈ Set.Icc 1 (merge others).index.size := ⟨by decide, by decide⟩
  obtain ⟨-, -, hparts⟩ := merge_append_keeps_diagnoses units others
  obtain ⟨hbefore, hafter⟩ := hparts (Path.ofText "/p") {} "Bad" 1
  obtain ⟨error, hmoved, halone⟩ := hafter 1 hsecond
  exact ⟨hfirst, hsecond, hbefore 2 hfirst, hmoved.trans halone.symm⟩

end Diagnosis

end TemplateBundler
