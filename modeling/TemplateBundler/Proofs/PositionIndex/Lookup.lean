import TemplateBundler.Diagnosis
import TemplateBundler.Proofs.LineTable.Checked

/-! # Look-ups in an index from outside

Nothing ties the parts of an index that was read from outside to each other: its line tables need
not fit the texts, and its records need not name units or lines that exist. Each look-up then still
answers by what it finds, or that it finds nothing, and a diagnosis does without the line tables.
-/

namespace TemplateBundler

open Text

namespace PositionIndex

variable {index other : PositionIndex} {unit : UnitId} {line column : Nat} {found : String}
  {position : SourcePosition}

/-- The indexes have the same units, and their records name the same units and lines in the same
order. Line tables may differ, and the merged lines that the records say they are for. -/
structure SaysAlike (index other : PositionIndex) : Prop where
  units : other.units.map (·.source) = index.units.map (·.source)
  records : other.records.map (fun record => (record.unit, record.sourceLine)) =
    index.records.map fun record => (record.unit, record.sourceLine)

theorem lineText?_eq_some_iff : index.lineText? unit line = some found ↔
    ∃ indexed range, index.units[unit]? = some indexed ∧
      indexed.table.lineRange? line indexed.source.text = some range ∧
      range.Holds indexed.source.text found := by
  constructor
  · intro h
    obtain ⟨indexed, hindexed, h⟩ := Option.bind_eq_some_iff.mp h
    obtain ⟨range, hrange, hholds⟩ := LineTable.lineText?_eq_some_iff.mp h
    exact ⟨indexed, range, hindexed, hrange, hholds⟩
  · rintro ⟨indexed, range, hindexed, hrange, hholds⟩
    exact Option.bind_eq_some_iff.mpr
      ⟨indexed, hindexed, LineTable.lineText?_eq_some_iff.mpr ⟨range, hrange, hholds⟩⟩

theorem record?_eq_some_iff {record : LineRecord} :
    index.record? line = some record ↔ 0 < line ∧ index.records[line - 1]? = some record := by
  rw [record?]
  split
  next hzero => simp [hzero]
  next hpos => simp [Nat.pos_of_ne_zero hpos]

/-- A position is that of the record with this place among all, in the unit that the record
names. -/
theorem resolve_eq_some_iff : index.resolve line column = some position ↔
    ∃ record indexed, 0 < line ∧ index.records[line - 1]? = some record ∧
      index.units[record.unit]? = some indexed ∧
      position = ⟨record.unit, indexed.source, record.sourceLine, column⟩ := by
  constructor
  · intro h
    obtain ⟨record, hrecord, h⟩ := Option.bind_eq_some_iff.mp h
    obtain ⟨source, hsource, h⟩ := Option.bind_eq_some_iff.mp h
    obtain ⟨indexed, hindexed, rfl⟩ := Option.map_eq_some_iff.mp hsource
    obtain ⟨hpos, hrecord⟩ := record?_eq_some_iff.mp hrecord
    exact ⟨record, indexed, hpos, hrecord, hindexed, (Option.some.inj h).symm⟩
  · rintro ⟨record, indexed, hpos, hrecord, hindexed, rfl⟩
    have hfound := record?_eq_some_iff.mpr ⟨hpos, hrecord⟩
    simp [resolve, hfound, unit?, hindexed]

/-- Positions depend on the units and on what the records name, and on nothing else. -/
theorem SaysAlike.resolve_eq (h : SaysAlike index other) (line column : Nat) :
    other.resolve line column = index.resolve line column := by
  have hresolve : ∀ index : PositionIndex, index.resolve line column =
      if line = 0 then none else
        (index.records.map fun record => (record.unit, record.sourceLine))[line - 1]?.bind
          fun (unit, number) => (index.units.map (·.source))[unit]?.map
            fun source => ⟨unit, source, number, column⟩ := by
    intro index
    rw [resolve, record?]
    split
    next => rfl
    next =>
      rw [List.getElem?_map]
      cases index.records[line - 1]? with
      | none => rfl
      | some record =>
          simp only [Option.map_some, Option.bind_some, List.getElem?_map]
          cases hunit : index.units[record.unit]? with
          | none => simp [unit?, hunit]
          | some indexed => simp [unit?, hunit]
  rw [hresolve, hresolve, h.units, h.records]

end PositionIndex

namespace Diagnosis

variable {root : Path} {options : ExcerptOptions} {index other : PositionIndex}
  {failure : CompileFailure} {line column : Nat} {position : SourcePosition}

theorem ofFailure_of_resolve (hplace : failure.position? = some (line, column))
    (hposition : index.resolve line column = some position) :
    ofFailure root options index failure =
      inFile (syntaxError root options failure.message position) := by
  simp [ofFailure, hplace, hposition]

/-- A failure is led back just if it has a position that the index leads back. -/
theorem exists_inFile_iff : (∃ error, ofFailure root options index failure = inFile error) ↔
    ∃ line column, failure.position? = some (line, column) ∧
      (index.resolve line column).isSome := by
  constructor
  · rintro ⟨error, herror⟩
    rw [ofFailure] at herror
    split at herror
    next => cases herror
    next line column hplace =>
      split at herror
      next => cases herror
      next position hposition => exact ⟨line, column, hplace, Option.isSome_of_eq_some hposition⟩
  · rintro ⟨line, column, hplace, hsome⟩
    obtain ⟨position, hposition⟩ := Option.isSome_iff_exists.mp hsome
    exact ⟨_, ofFailure_of_resolve hplace hposition⟩

theorem ofFailure_congr (h : index.SaysAlike other) :
    ofFailure root options other failure = ofFailure root options index failure := by
  simp only [ofFailure, h.resolve_eq]

end Diagnosis

namespace PositionIndex

/-- Whatever stands in an index, its line tables ask for nothing that is missing and fault only
where a sum is no word, and the tables that are made anew for an excerpt do not fault. A line has a
range just if its table counts it, and a text just if that range is a piece of the unit's text. A
position is led back just if there is a record in this place whose unit there is. A failure is led
back just if its position is, and what is said of it depends on the unit and the record alone. -/
theorem lookups_answer (index : PositionIndex) :
    (∀ unit ∈ index.units,
      (∀ line, Checked.Ends unit.table.IsStored
        (Checked.lineRange? unit.table line unit.source.text)
        (unit.table.lineRange? line unit.source.text)) ∧
      (unit.source.text.utf8ByteSize < maxNatural → ∀ line,
        Checked.lineRange? (.ofText unit.source.text) line unit.source.text =
          .ok ((LineTable.ofText unit.source.text).lineRange? line unit.source.text)) ∧
      ∀ line, (unit.table.lineRange? line unit.source.text).isSome ↔
        line ∈ Set.Icc 1 unit.table.lineCount) ∧
    (∀ unit line found, index.lineText? unit line = some found ↔
      ∃ indexed range, index.units[unit]? = some indexed ∧
        indexed.table.lineRange? line indexed.source.text = some range ∧
        range.Holds indexed.source.text found) ∧
    (∀ line column position, index.resolve line column = some position ↔
      ∃ record indexed, 0 < line ∧ index.records[line - 1]? = some record ∧
        index.units[record.unit]? = some indexed ∧
        position = ⟨record.unit, indexed.source, record.sourceLine, column⟩) ∧
    ∀ root options failure,
      ((∃ error, Diagnosis.ofFailure root options index failure = .inFile error) ↔
        ∃ line column, failure.position? = some (line, column) ∧
          (index.resolve line column).isSome) ∧
      (∀ line column position, failure.position? = some (line, column) →
        index.resolve line column = some position →
        ∃ error, Diagnosis.ofFailure root options index failure = .inFile error ∧
          error.message = Message.clean failure.message ++ " at " ++ error.path ++ "\n" ++
            Excerpt.render options position.source.text position.line column ∧
          error.path = Path.display root (Path.ofText position.source.identifier) ∧
          error.line = position.line ∧ error.column = column) ∧
      ∀ other, index.SaysAlike other →
        Diagnosis.ofFailure root options other failure =
          Diagnosis.ofFailure root options index failure := by
  refine ⟨fun unit _ => ⟨fun line => Checked.ends_lineRange? unit.table line _, ?_,
      fun _ => LineTable.isSome_lineRange?_iff⟩,
    fun _ _ _ => lineText?_eq_some_iff, fun _ _ _ => resolve_eq_some_iff,
    fun root options failure => ⟨Diagnosis.exists_inFile_iff, ?_,
      fun _ => Diagnosis.ofFailure_congr⟩⟩
  · intro hsize line
    exact (Checked.ends_lineRange? _ line _).eq_ok (LineTable.isStored_ofText hsize)
  · intro line column position hplace hposition
    obtain ⟨record, indexed, -, -, -, rfl⟩ := resolve_eq_some_iff.mp hposition
    refine ⟨_, Diagnosis.ofFailure_of_resolve hplace hposition, ?_⟩
    simp only [Diagnosis.syntaxError, and_self]

/-- A table that is out of order and out of bounds, and a record for another line than the one in
whose place it stands. -/
theorem lookups_answer_of_false_index :
    let text := "é\n"
    let table : LineTable := ⟨[7, 1, maxNatural - 1], 3⟩
    let index : PositionIndex := { units := [⟨⟨text, "/p/x"⟩, table⟩], records := [⟨9, 0, 2⟩] }
    let honest : PositionIndex :=
      { units := [⟨⟨text, "/p/x"⟩, .ofText text⟩], records := [⟨1, 0, 2⟩] }
    let diagnose (index : PositionIndex) :=
      Diagnosis.ofFailure (Path.ofText "/p") {} index (.positioned "Bad" 1 4)
    table.IsStored ∧ text.utf8ByteSize < maxNatural ∧
      Checked.lineRange? table 2 text = .ok (some ⟨8, 1⟩) ∧
      Checked.lineRange? (.ofText text) 2 text = .ok none ∧
      index.resolve 1 4 = some ⟨0, ⟨text, "/p/x"⟩, 2, 4⟩ ∧
      (∃ error, diagnose index = .inFile error ∧ error.line = 2) ∧
      index.SaysAlike honest ∧ diagnose honest = diagnose index := by
  intro text table index honest diagnose
  have htable : table.IsStored := ⟨by decide, by decide⟩
  have hsize : text.utf8ByteSize < maxNatural := by decide
  have hposition : index.resolve 1 4 = some ⟨0, ⟨text, "/p/x"⟩, 2, 4⟩ := rfl
  have hnone : (LineTable.ofText text).lineRange? 2 text = none := by decide
  have hhonest : index.SaysAlike honest := ⟨rfl, rfl⟩
  obtain ⟨hchecked, -, -, hdiagnoses⟩ := lookups_answer index
  obtain ⟨hends, hfresh, -⟩ := hchecked ⟨⟨text, "/p/x"⟩, table⟩ (by simp [index])
  obtain ⟨-, hresolved, halike⟩ := hdiagnoses (Path.ofText "/p") {} (.positioned "Bad" 1 4)
  obtain ⟨error, herror, -, -, hline, -⟩ := hresolved 1 4 _ rfl hposition
  exact ⟨htable, hsize, (hends 2).eq_ok htable, (hfresh hsize 2).trans (congrArg Except.ok hnone),
    hposition, ⟨error, herror, hline⟩, hhonest, halike honest hhonest⟩

end PositionIndex

end TemplateBundler
