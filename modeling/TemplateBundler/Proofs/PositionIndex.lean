import Mathlib.Data.List.Induction
import Mathlib.Data.Prod.Lex
import Mathlib.Data.Set.Function
import Mathlib.Order.Interval.Set.Basic
import TemplateBundler.PositionIndex

/-! # The table of a position index

Adding a unit leaves every record in its place and appends one record for each line
that the unit takes. So the merged lines fall into one run for each unit, and each
line of each run has exactly one number.
-/

namespace TemplateBundler.PositionIndex

/-! ## Adding one unit -/

theorem ofUnits_append_singleton (units : List SourceUnit) (source : SourceUnit) :
    ofUnits (units ++ [source]) = (ofUnits units).push source := by
  simp [ofUnits]

@[simp]
theorem units_push (index : PositionIndex) (source : SourceUnit) :
    (index.push source).units = index.units ++ [⟨source, LineTable.ofText source.text⟩] := rfl

@[simp]
theorem size_push (index : PositionIndex) (source : SourceUnit) :
    (index.push source).size = index.size + occupied (LineTable.ofText source.text) := by
  simp [size, push]

/-- Records are found where they were before. -/
theorem record?_push_of_le {index : PositionIndex} {line : Nat} (hle : line ≤ index.size)
    (source : SourceUnit) : (index.push source).record? line = index.record? line := by
  unfold record?
  split
  next => rfl
  next hpos =>
    have hlt : line - 1 < index.records.length := by
      simp only [size] at hle
      omega
    exact List.getElem?_append_left hlt

/-- The lines of a new unit are numbered on from those already there. -/
theorem record?_push_add {index : PositionIndex} {source : SourceUnit} {number : Nat}
    (hpos : 0 < number) (hle : number ≤ occupied (LineTable.ofText source.text)) :
    (index.push source).record? (index.size + number) =
      some ⟨index.size + number, index.units.length, number⟩ := by
  have hline : index.size + number ≠ 0 := by omega
  have hplace : index.size + number - 1 = index.records.length + (number - 1) := by
    simp only [size]
    omega
  have hwithin : number - 1 < occupied (LineTable.ofText source.text) := by omega
  have hmerged : index.records.length + 1 + (number - 1) = index.size + number := by
    simp only [size]
    omega
  rw [record?, if_neg hline, hplace]
  simp only [push, List.getElem?_append_right (Nat.le_add_right _ _), Nat.add_sub_cancel_left,
    List.getElem?_map, List.getElem?_range hwithin, Option.map_some, hmerged,
    Nat.sub_add_cancel hpos]

/-! ## Adding units one after the other -/

@[simp]
theorem units_ofUnits (units : List SourceUnit) :
    (ofUnits units).units = units.map fun source => ⟨source, LineTable.ofText source.text⟩ := by
  induction units using List.reverseRecOn with
  | nil => rfl
  | append_singleton units source ih => rw [ofUnits_append_singleton, units_push, ih]; simp

theorem size_ofUnits_append (units others : List SourceUnit) :
    (ofUnits (units ++ others)).size = (ofUnits units).size + (ofUnits others).size := by
  induction others using List.reverseRecOn with
  | nil => simp [ofUnits, size]
  | append_singleton others source ih =>
      rw [← List.append_assoc, ofUnits_append_singleton, ofUnits_append_singleton, size_push,
        size_push, ih, Nat.add_assoc]

theorem record?_ofUnits_append_of_le {units : List SourceUnit} {line : Nat}
    (hle : line ≤ (ofUnits units).size) (others : List SourceUnit) :
    (ofUnits (units ++ others)).record? line = (ofUnits units).record? line := by
  induction others using List.reverseRecOn with
  | nil => simp
  | append_singleton others source ih =>
      have hwithin : line ≤ (ofUnits (units ++ others)).size := by
        rw [size_ofUnits_append]
        omega
      rw [← List.append_assoc, ofUnits_append_singleton, record?_push_of_le hwithin, ih]

theorem unit?_ofUnits (units : List SourceUnit) (unit : UnitId) :
    (ofUnits units).unit? unit = units[unit]? := by
  simp [unit?, Function.comp_def]

theorem exists_split_of_getElem? {units : List SourceUnit} {unit : UnitId} {source : SourceUnit}
    (hunit : units[unit]? = some source) :
    ∃ before after, units = before ++ source :: after ∧ before.length = unit := by
  obtain ⟨hlt, hsource⟩ := List.getElem?_eq_some_iff.mp hunit
  refine ⟨units.take unit, units.drop (unit + 1), ?_, List.length_take_of_le (by omega)⟩
  rw [← hsource, List.getElem_cons_drop, List.take_append_drop]

/-! ## Where a merged line comes from -/

/-- The merged line `merged` is the line with this number of `source`, which is merged after the
units `before` and before the units `after`. -/
structure PlacedAt (units : List SourceUnit) (merged : Nat) (before : List SourceUnit)
    (source : SourceUnit) (after : List SourceUnit) (number : Nat) : Prop where
  split : units = before ++ source :: after
  counted : merged = (ofUnits before).size + number
  pos : 0 < number
  le : number ≤ occupied (LineTable.ofText source.text)

theorem exists_placedAt {units : List SourceUnit} {merged : Nat} (hpos : 0 < merged)
    (hle : merged ≤ (ofUnits units).size) :
    ∃ before source after number, PlacedAt units merged before source after number := by
  induction units using List.reverseRecOn with
  | nil =>
      simp only [ofUnits, size, List.foldl_nil, List.length_nil] at hle
      omega
  | append_singleton units source ih =>
      -- The last unit is added behind all others, so it takes the lines past theirs.
      by_cases hearlier : merged ≤ (ofUnits units).size
      · obtain ⟨before, found, after, number, h⟩ := ih hearlier
        exact ⟨before, found, after ++ [source], number, by simp [h.split], h.counted, h.pos, h.le⟩
      · rw [ofUnits_append_singleton, size_push] at hle
        exact ⟨units, source, [], merged - (ofUnits units).size, rfl, by omega, by omega, by omega⟩

namespace PlacedAt

variable {units before after : List SourceUnit} {source : SourceUnit} {merged number : Nat}

theorem bounds (h : PlacedAt units merged before source after number) :
    0 < merged ∧ merged ≤ (ofUnits units).size := by
  have hcounted := h.counted
  have hpos := h.pos
  have hle := h.le
  rw [h.split, ← List.singleton_append, size_ofUnits_append, size_ofUnits_append]
  have hone : (ofUnits [source]).size = occupied (LineTable.ofText source.text) := by
    simp [ofUnits, size, push]
  omega

theorem record? (h : PlacedAt units merged before source after number) :
    (ofUnits units).record? merged = some ⟨merged, before.length, number⟩ := by
  have hle := h.le
  have hwithin : merged ≤ (ofUnits (before ++ [source])).size := by
    rw [ofUnits_append_singleton, size_push, h.counted]
    omega
  have hsplit : units = before ++ [source] ++ after := by simp [h.split]
  rw [hsplit, record?_ofUnits_append_of_le hwithin, ofUnits_append_singleton, h.counted,
    record?_push_add h.pos h.le]
  simp

theorem getElem? (h : PlacedAt units merged before source after number) :
    units[before.length]? = some source := by
  simp [h.split]

theorem resolve (h : PlacedAt units merged before source after number) (column : Nat) :
    (ofUnits units).resolve merged column = some ⟨before.length, source, number, column⟩ := by
  simp [PositionIndex.resolve, h.record?, unit?_ofUnits, h.getElem?]

/-- A unit further down takes only lines further down. -/
theorem lt_of_length_lt (h : PlacedAt units merged before source after number)
    {before' after' : List SourceUnit} {source' : SourceUnit} {merged' number' : Nat}
    (h' : PlacedAt units merged' before' source' after' number')
    (hlt : before.length < before'.length) : merged < merged' := by
  -- The first unit is itself among those before the second one.
  have hprefix : before ++ [source] <+: before' := by
    have hfirst : before ++ [source] <+: units := ⟨after, by simp [h.split]⟩
    have hsecond : before' <+: units := ⟨source' :: after', h'.split.symm⟩
    apply List.prefix_of_prefix_length_le hfirst hsecond
    rw [List.length_append, List.length_singleton]
    omega
  obtain ⟨between, rfl⟩ := hprefix
  have hcounted := h.counted
  have hle := h.le
  have hcounted' := h'.counted
  have hpos' := h'.pos
  rw [size_ofUnits_append, ofUnits_append_singleton, size_push] at hcounted'
  omega

end PlacedAt

/-! ## The whole table -/

/-- The unit and the line within it that a merged line came from, ordered by unit and then by
line. -/
def origin (index : PositionIndex) (line : Nat) : Nat ×ₗ Nat :=
  toLex (((index.record? line).map fun record => (record.unit, record.sourceLine)).getD (0, 0))

theorem PlacedAt.origin {units before after : List SourceUnit} {source : SourceUnit}
    {merged number : Nat} (h : PlacedAt units merged before source after number) :
    (ofUnits units).origin merged = toLex (before.length, number) := by
  simp [PositionIndex.origin, h.record?]

theorem strictMonoOn_origin (units : List SourceUnit) :
    StrictMonoOn (ofUnits units).origin (Set.Icc 1 (ofUnits units).size) := by
  intro line hline line' hline' hlt
  obtain ⟨before, source, after, number, h⟩ := exists_placedAt hline.1 hline.2
  obtain ⟨before', source', after', number', h'⟩ := exists_placedAt hline'.1 hline'.2
  rw [h.origin, h'.origin, Prod.Lex.toLex_lt_toLex]
  rcases Nat.lt_trichotomy before.length before'.length with hunit | hunit | hunit
  · exact .inl hunit
  · have hbefore : before = before' :=
      (List.append_inj (h.split.symm.trans h'.split) hunit).1
    subst hbefore
    have hcounted := h.counted
    have hcounted' := h'.counted
    exact .inr ⟨rfl, by simp only; omega⟩
  · exact absurd (h'.lt_of_length_lt h hunit) (by omega)

/-- The lines of the units, as pairs of a unit's place and a line that it takes. -/
def unitLines (units : List SourceUnit) : Set (Nat ×ₗ Nat) :=
  {place | ∃ source, units[(ofLex place).1]? = some source ∧
    (ofLex place).2 ∈ Set.Icc 1 (max 1 (LineTable.ofText source.text).lineCount)}

theorem bijOn_origin (units : List SourceUnit) :
    Set.BijOn (ofUnits units).origin (Set.Icc 1 (ofUnits units).size) (unitLines units) := by
  refine ⟨?_, (strictMonoOn_origin units).injOn, ?_⟩
  · intro line hline
    obtain ⟨before, source, after, number, h⟩ := exists_placedAt hline.1 hline.2
    rw [h.origin]
    exact ⟨source, h.getElem?, h.pos, h.le⟩
  · rintro place ⟨source, hunit, hpos, hle⟩
    obtain ⟨before, after, hsplit, hlength⟩ := exists_split_of_getElem? hunit
    have h : PlacedAt units _ before source after (ofLex place).2 := ⟨hsplit, rfl, hpos, hle⟩
    refine ⟨_, h.bounds, ?_⟩
    rw [h.origin, hlength]
    rfl

theorem mergedLines_ofUnits (units : List SourceUnit) :
    (ofUnits units).records.map LineRecord.mergedLine = List.range' 1 (ofUnits units).size := by
  apply List.ext_getElem (by simp [size])
  intro k hk _
  rw [List.length_map] at hk
  have hsize : k + 1 ≤ (ofUnits units).size := hk
  obtain ⟨before, source, after, number, h⟩ := exists_placedAt (Nat.succ_pos k) hsize
  have hrecord := h.record?
  rw [PositionIndex.record?, if_neg (Nat.succ_ne_zero k), Nat.succ_sub_one] at hrecord
  obtain ⟨_, hfound⟩ := List.getElem?_eq_some_iff.mp hrecord
  simp [hfound, Nat.add_comm]

/-- What is tabulated for a unit depends on its text only through the number of lines. -/
theorem records_foldl_push_congr {index index' : PositionIndex} {units others : List SourceUnit}
    (hrecords : index.records = index'.records) (hunits : index.units.length = index'.units.length)
    (hlines : units.map (fun source => occupied (LineTable.ofText source.text)) =
      others.map fun source => occupied (LineTable.ofText source.text)) :
    (units.foldl push index).records = (others.foldl push index').records := by
  -- Both runs keep equal records and equally many units, which is all that a step reads.
  induction units generalizing others index index' with
  | nil =>
      have hnil : others = [] := by simpa using hlines.symm
      subst hnil
      exact hrecords
  | cons source units ih =>
      cases others with
      | nil => simp at hlines
      | cons other others =>
          simp only [List.map_cons, List.cons.injEq] at hlines
          rw [List.foldl_cons, List.foldl_cons]
          refine ih ?_ (by simp [hunits]) hlines.2
          simp only [push, hrecords, hunits, hlines.1]

theorem resolve_eq_none_of_not_mem {units : List SourceUnit} {line : Nat}
    (h : line ∉ Set.Icc 1 (ofUnits units).size) (column : Nat) :
    (ofUnits units).resolve line column = none := by
  have hrecord : (ofUnits units).record? line = none := by
    rw [record?]
    split
    next => rfl
    next hpos =>
      apply List.getElem?_eq_none
      rw [Set.mem_Icc] at h
      simp only [size] at h
      omega
  simp [resolve, hrecord]

theorem isSome_resolve_iff (units : List SourceUnit) (line column : Nat) :
    ((ofUnits units).resolve line column).isSome ↔ line ∈ Set.Icc 1 (ofUnits units).size := by
  constructor
  · intro hsome
    by_contra hline
    simp [resolve_eq_none_of_not_mem hline] at hsome
  · intro hline
    obtain ⟨before, source, after, number, h⟩ := exists_placedAt hline.1 hline.2
    simp [h.resolve]

/-- However units follow one another, the merged lines are numbered without gaps and run through
the lines of the units in order, each exactly once. Resolving a line gives that place, with the
unit found there and the column as it was, and fails outside the table. Nothing of the texts
enters the records but their numbers of lines. -/
theorem ofUnits_tabulates_lines (units : List SourceUnit) :
    (ofUnits units).records.map LineRecord.mergedLine = List.range' 1 (ofUnits units).size ∧
    StrictMonoOn (ofUnits units).origin (Set.Icc 1 (ofUnits units).size) ∧
    Set.BijOn (ofUnits units).origin (Set.Icc 1 (ofUnits units).size) (unitLines units) ∧
    (∀ line column, ((ofUnits units).resolve line column).isSome ↔
      line ∈ Set.Icc 1 (ofUnits units).size) ∧
    (∀ line column position, (ofUnits units).resolve line column = some position →
      toLex (position.unit, position.line) = (ofUnits units).origin line ∧
      units[position.unit]? = some position.source ∧ position.column = column) ∧
    ∀ others : List SourceUnit,
      units.map (fun source => max 1 (LineTable.ofText source.text).lineCount) =
        others.map (fun source => max 1 (LineTable.ofText source.text).lineCount) →
      (ofUnits units).records = (ofUnits others).records := by
  refine ⟨mergedLines_ofUnits units, strictMonoOn_origin units, bijOn_origin units,
    fun line column => isSome_resolve_iff units line column, ?_,
    fun others hlines => records_foldl_push_congr rfl rfl hlines⟩
  intro line column position hposition
  have hline : line ∈ Set.Icc 1 (ofUnits units).size :=
    (isSome_resolve_iff units line column).mp (by simp [hposition])
  obtain ⟨before, source, after, number, h⟩ := exists_placedAt hline.1 hline.2
  rw [h.resolve, Option.some.injEq] at hposition
  subst hposition
  exact ⟨h.origin.symm, h.getElem?, rfl⟩

/-- Neither terminators nor names enter the records. -/
theorem ofUnits_tabulates_open_units_alike :
    (ofUnits [⟨"a\nb", "x"⟩, ⟨"", "y"⟩]).records =
      (ofUnits [⟨"\r\n\n", "z"⟩, ⟨"\r", "z"⟩]).records :=
  (ofUnits_tabulates_lines _).2.2.2.2.2 _ (by decide)

end TemplateBundler.PositionIndex
