import TemplateBundler.Proofs.Excerpt
import TemplateBundler.Proofs.Merge
import TemplateBundler.Stage

/-! # Compile failures of a build

The compiler sees only the payload, so a build has to tell which lines of it are the
user's. The index holds exactly those, and the scaffolding lies past its end. A line
that is the user's is shown as the compiler was given it, under the name and number
that it has in its own file.
-/

namespace TemplateBundler

open Text PositionIndex

/-- The failure is reported at a line that some unit contributed. -/
def MergedUnit.Covers (merged : MergedUnit) (failure : CompileFailure) : Prop :=
  ∃ message line column, failure = .positioned message line column ∧
    line ∈ Set.Icc 1 merged.index.size

namespace Diagnosis

variable {root : Path} {options : ExcerptOptions} {units : List SourceUnit}

/-- A failure at a merged line is an error at the line that was placed there. -/
theorem ofFailure_of_placedAt {before after : List SourceUnit} {source : SourceUnit}
    {line number : Nat} (h : PlacedAt units line before source after number) (message : String)
    (column : Nat) :
    ofFailure root options (merge units).index (.positioned message line column) =
      inFile (syntaxError root options message ⟨before.length, source, number, column⟩) := by
  have hresolve : (merge units).index.resolve line column =
      some ⟨before.length, source, number, column⟩ := h.resolve column
  simp [ofFailure, CompileFailure.position?, CompileFailure.message, hresolve]

theorem ofFailure_of_covers {failure : CompileFailure} (h : (merge units).Covers failure) :
    ∃ error, ofFailure root options (merge units).index failure = inFile error := by
  obtain ⟨message, line, column, rfl, hline⟩ := h
  obtain ⟨before, source, after, number, hplaced⟩ := exists_placedAt hline.1 hline.2
  exact ⟨_, ofFailure_of_placedAt hplaced message column⟩

theorem ofFailure_of_not_covers {failure : CompileFailure} (h : ¬ (merge units).Covers failure) :
    ofFailure root options (merge units).index failure = passedOn failure := by
  cases failure with
  | unpositioned message => rfl
  | positioned message line column =>
      have hline : line ∉ Set.Icc 1 (ofUnits units).size :=
        fun hline => h ⟨message, line, column, rfl, hline⟩
      have hresolve : (merge units).index.resolve line column = none :=
        resolve_eq_none_of_not_mem hline column
      simp [ofFailure, CompileFailure.position?, hresolve]

end Diagnosis

namespace Stage

variable {stage : Stage} {compiler : Compiler} {units : List SourceUnit}

/-- The job that a build hands to the compiler. -/
def unitsJob (stage : Stage) (units : List SourceUnit) : CompileJob where
  payload := (merge units).payload
  config := stage.options.compileConfig

theorem job?_buildUnits (stage : Stage) (compiler : Compiler) (units : List SourceUnit)
    (dirname : Path) :
    (stage.buildUnits compiler units dirname).job? = some (stage.unitsJob units) := rfl

theorem result_buildUnits_of_error (dirname : Path) {failure : CompileFailure}
    (h : compiler (stage.unitsJob units) = .error failure) :
    (stage.buildUnits compiler units dirname).result = .error (.ofDiagnosis
      (Diagnosis.ofFailure stage.root stage.excerpt (merge units).index failure)) := by
  simp only [unitsJob] at h
  simp [buildUnits, h]

/-- The payload continues the merged text by a blank line and the scaffolding. A build fails in a
user's file exactly when the compiler fails at a line of the merged text, and passes every other
failure on as it is. -/
theorem buildUnits_sorts_failures (stage : Stage) (compiler : Compiler) (units : List SourceUnit)
    (dirname : Path) :
    Text.lines (merge units).payload =
      Text.lines (merge units).text ++ "" :: MergedUnit.scaffolding ∧
    (Text.lines (merge units).text).length = (merge units).index.size ∧
    (LineTable.ofText (merge units).payload).lineCount = (merge units).index.size + 4 ∧
    ∃ job, (stage.buildUnits compiler units dirname).job? = some job ∧
      job.payload = (merge units).payload ∧
      ∀ failure, compiler job = .error failure →
        ((∃ error, (stage.buildUnits compiler units dirname).result = .error (.inFile error)) ↔
          (merge units).Covers failure) ∧
        (¬ (merge units).Covers failure →
          (stage.buildUnits compiler units dirname).result = .error (.failed failure)) := by
  refine ⟨MergedUnit.lines_payload units, ?_, MergedUnit.lineCount_payload units,
    stage.unitsJob units, job?_buildUnits stage compiler units dirname, rfl, ?_⟩
  · rw [MergedUnit.lines_merge, List.length_map, MergedUnit.length_splitOn_dropLast_merge]
  · intro failure hfailure
    have hresult := result_buildUnits_of_error dirname hfailure
    have hpassed : ¬ (merge units).Covers failure →
        (stage.buildUnits compiler units dirname).result = .error (.failed failure) := by
      intro hcovers
      rw [hresult, Diagnosis.ofFailure_of_not_covers hcovers]
      rfl
    refine ⟨⟨?_, ?_⟩, hpassed⟩
    · rintro ⟨error, herror⟩
      by_contra hcovers
      rw [hpassed hcovers] at herror
      cases herror
    · intro hcovers
      obtain ⟨error, herror⟩ := Diagnosis.ofFailure_of_covers hcovers
      exact ⟨error, by rw [hresult, herror]; rfl⟩

/-- With no units at all, line 1 is the blank line, and a failure there is passed on. -/
theorem buildUnits_passes_on_scaffolding_failure :
    let stage : Stage := { options := {}, root := Path.ofText "/p" }
    let compiler : Compiler := fun _ => .error (.positioned "Bad at: 1:2" 1 2)
    ¬ (merge []).Covers (.positioned "Bad at: 1:2" 1 2) ∧
    (stage.buildUnits compiler [] (Path.ofText "/p")).result =
      .error (.failed (.positioned "Bad at: 1:2" 1 2)) := by
  intro stage compiler
  have hcovers : ¬ (merge []).Covers (.positioned "Bad at: 1:2" 1 2) := by
    rintro ⟨message, line, column, hfailure, hline⟩
    cases hfailure
    exact absurd hline.2 (by decide)
  obtain ⟨-, -, -, job, -, -, hfailures⟩ :=
    buildUnits_sorts_failures stage compiler [] (Path.ofText "/p")
  exact ⟨hcovers, (hfailures _ rfl).2 hcovers⟩

/-! ## The line that is shown -/

/-- Among the lines of the payload, the one with this number, `content` between line feeds, is
there for `source`, in whose own text it is the line `number`. -/
structure Contributed (units : List SourceUnit) (payload : String) (line : Nat)
    (source : SourceUnit) (number : Nat) (content : List Char) : Prop where
  /-- The payload has the content on that line. -/
  inPayload : (payload.toList.splitOn '\n')[line - 1]? = some content
  /-- The line falls to the unit, counted from where the payload holds it. -/
  written : ∃ before after rest, units = before ++ source :: after ∧
    payload = (merge before).text ++ closed source.text ++ rest ∧
    line = (merge before).text.toList.count '\n' + number ∧
    number ∈ Set.Icc 1 ((closed source.text).toList.count '\n')
  /-- The unit has the same content on its own line. -/
  inSource : (source.text.toList.splitOn '\n')[number - 1]? = some content
  /-- An empty unit has the one empty line. -/
  ofEmpty : source.text = "" → number = 1 ∧ content = []

theorem payload_eq_of_split {units before after : List SourceUnit} {source : SourceUnit}
    (h : units = before ++ source :: after) :
    ∃ rest, (merge units).payload = (merge before).text ++ closed source.text ++ rest := by
  refine ⟨(merge after).text ++ "\n" ++ "\n".intercalate MergedUnit.scaffolding, ?_⟩
  rw [h, MergedUnit.payload, merge_text_append, merge_text_cons]
  simp only [String.append_assoc]

/-- Each merged line is contributed by the unit placed there, and its text in the unit is what an
excerpt of the unit shows. -/
theorem exists_contributed {before after : List SourceUnit} {source : SourceUnit}
    {line number : Nat} (h : PlacedAt units line before source after number) :
    ∃ content, Contributed units (merge units).payload line source number content ∧
      Excerpt.textAt source.text number = String.ofList (dropReturn content) := by
  obtain ⟨front, content, behind, hne, hclosed, hown⟩ := exists_lineAt_closed h.pos h.le
  -- The same characters are a line of the closed unit, of the merged text and of the payload.
  have hmerged := h.lineAt_merge hclosed hne
  have hpayload := hmerged.append (by simp [hne])
    (['\n'].intercalate ([] :: MergedUnit.scaffolding.map String.toList))
  rw [← MergedUnit.payload_toList] at hpayload
  obtain ⟨rest, hrest⟩ := payload_eq_of_split h.split
  have hsame : (source.text.toList.splitOn '\n')[number - 1]? = some content ∧
      (source.text = "" → number = 1 ∧ content = []) ∧
      Excerpt.textAt source.text number = String.ofList (dropReturn content) := by
    rcases hown with ⟨rest, hown⟩ | ⟨hempty, hone, -, hcontent⟩
    · refine ⟨hown.splitOn_getElem?, ?_, by simp [Excerpt.textAt, LineTable.lineText?_ofText hown]⟩
      exact fun hempty => absurd (by simp [hempty]) hown.ne_nil
    · rw [hempty, hone, hcontent]
      exact ⟨rfl, fun _ => ⟨rfl, rfl⟩, rfl⟩
  obtain ⟨hsource, hempty, hshown⟩ := hsame
  exact ⟨content, ⟨hpayload.splitOn_getElem?, ⟨before, after, rest, h.split, hrest,
    size_ofUnits before ▸ h.counted, h.pos, occupied_ofText source.text ▸ h.le⟩, hsource, hempty⟩,
    hshown⟩

/-- When the compiler fails at a line of the merged text, the build fails in the file of the unit
that contributed this line to the payload, at the line's own number there. The excerpt shows
the line as the compiler was given it, right above a line with nothing but the caret. -/
theorem buildUnits_shows_compiled_line (stage : Stage) (compiler : Compiler)
    (units : List SourceUnit) (dirname : Path) {job : CompileJob} {message : String}
    {line column : Nat}
    (hjob : (stage.buildUnits compiler units dirname).job? = some job)
    (hfailure : compiler job = .error (.positioned message line column))
    (hline : line ∈ Set.Icc 1 (merge units).lineCount)
    (hindent : '\n' ∉ stage.excerpt.indent.toList) :
    ∃ error source content excerpt,
      (stage.buildUnits compiler units dirname).result = .error (.inFile error) ∧
      Contributed units job.payload line source error.line content ∧
      error.path = Path.display stage.root (Path.ofText source.identifier) ∧
      error.column = column ∧
      error.message = Message.clean message ++ " at " ++ error.path ++ "\n" ++ excerpt ∧
      Excerpt.IsCaretLine stage.excerpt
        (Excerpt.caretLine stage.excerpt (String.ofList (dropReturn content)) column) ∧
      ∃ above below : List (List Char),
        above.length = min stage.excerpt.linesAround (error.line - 1) ∧
        excerpt.toList.splitOn '\n' = above ++
          (stage.excerpt.indent.toList ++ dropReturn content) ::
            (Excerpt.caretLine stage.excerpt (String.ofList (dropReturn content)) column).toList ::
              below := by
  obtain rfl : stage.unitsJob units = job := by
    rw [job?_buildUnits] at hjob
    exact Option.some.inj hjob
  obtain ⟨before, source, after, number, h⟩ := exists_placedAt hline.1 hline.2
  obtain ⟨content, hcontributed, hshown⟩ := exists_contributed h
  have hresult := result_buildUnits_of_error dirname hfailure
  rw [Diagnosis.ofFailure_of_placedAt h, BuildError.ofDiagnosis] at hresult
  obtain ⟨above, below, habove, hlines⟩ :=
    Excerpt.shownLines_eq stage.excerpt column h.pos h.le
  refine ⟨_, source, content, Excerpt.render stage.excerpt source.text number column, hresult,
    ?_, ?_, ?_, ?_, Excerpt.isCaretLine_caretLine _ _ _, above.map String.toList,
    below.map String.toList, ?_, ?_⟩
  · exact hcontributed
  · simp only [Diagnosis.syntaxError]
  · simp only [Diagnosis.syntaxError]
  · simp only [Diagnosis.syntaxError]
  · rw [List.length_map]
    exact habove
  · rw [Excerpt.splitOn_render hindent (by simp [hlines]), hlines, hshown]
    simp

/-- A failure at an open last line that ends in a carriage return, merged behind an empty unit. -/
theorem buildUnits_shows_open_line :
    let stage : Stage := { options := {}, root := Path.ofText "/p", excerpt := ⟨"> ", 1⟩ }
    let units : List SourceUnit := [⟨"a\r\nb", "/p/x"⟩, ⟨"", "/p/y"⟩, ⟨"\tc\r", "/q/z"⟩]
    let compiler : Compiler := fun _ => .error (.positioned "Bad at: 4:2" 4 2)
    compiler (stage.unitsJob units) = .error (.positioned "Bad at: 4:2" 4 2) ∧
    4 ∈ Set.Icc 1 (merge units).lineCount ∧ '\n' ∉ stage.excerpt.indent.toList ∧
    ∃ error source content, (stage.buildUnits compiler units (Path.ofText "/p")).result =
        .error (.inFile error) ∧
      Contributed units (stage.unitsJob units).payload 4 source error.line content ∧
      error.path = Path.display stage.root (Path.ofText source.identifier) ∧ error.column = 2 := by
  intro stage units compiler
  have hline : 4 ∈ Set.Icc 1 (merge units).lineCount := ⟨by decide, by decide⟩
  have hindent : '\n' ∉ stage.excerpt.indent.toList := by decide
  obtain ⟨error, source, content, _, hresult, hcontributed, hpath, hcolumn, -⟩ :=
    buildUnits_shows_compiled_line stage compiler units (Path.ofText "/p")
      (job?_buildUnits _ _ _ _) rfl hline hindent
  exact ⟨rfl, hline, hindent, error, source, content, hresult, hcontributed, hpath, hcolumn⟩

end Stage

end TemplateBundler
