import TemplateBundler.Proofs.RelativePath
import TemplateBundler.Proofs.Sources
import TemplateBundler.Proofs.Stage

/-! # Where the path of an error leads

An error in a file shows the file's path as seen from the root of the stage. From there it leads
back to the file, however root and file were spelled, provided that the file's absolute path is a
text. It does not where the root is empty: such a root is not taken from the current directory but
stays as it is, and the absolute path, shown with a dot in front, becomes a relative one.
-/

namespace TemplateBundler

open Bytes PositionIndex

variable {root target file : Path} {cwd : Location} {files : List Path}

/-- What is shown of a path relative to the root leads from the root to the target. -/
def LeadsTo (root : Path) (shown : String) (target : Path) : Prop :=
  (root.join (Path.ofText shown)).normalize = target

/-! ## Roots and names -/

theorem isText_bytes_ofText (s : String) : IsText (Path.ofText s).bytes := isText_ofText s

theorem isAbsolute_ofText_shown (h : target.isAbsolute = true) :
    (Path.ofText target.shown).isAbsolute = true := by
  obtain ⟨bytes⟩ := target
  obtain ⟨rest, rfl⟩ : ∃ rest, bytes = Path.slash :: rest := by
    simpa [Path.isAbsolute, List.head?_eq_some_iff] using h
  obtain ⟨shown, hshown⟩ := exists_shown_cons (b := Path.slash) (by decide) rest
  rw [Path.isAbsolute_ofText_iff, Path.shown, hshown]
  rfl

theorem root_ofRoot (cwd : Location) (options : Options) (h : root.bytes ≠ [])
    (excerpt : ExcerptOptions) :
    (Stage.ofRoot cwd options root excerpt).root = absolutePath cwd root :=
  resolve_eq_absolutePath cwd h

theorem root_ofRoot_of_empty (cwd : Location) (options : Options) (h : root.bytes = [])
    (excerpt : ExcerptOptions) : (Stage.ofRoot cwd options root excerpt).root = root :=
  if_pos h

/-- Seen from an absolute root, a unit's name leads to the file it was made from exactly if the name
could be written without loss. -/
theorem leadsTo_display_iff (hroot : root.isAbsolute = true) (htarget : target.isAbsolute = true)
    (hnormal : target.normalize = target) :
    LeadsTo root (Path.display root (Path.ofText target.shown)) target ↔ IsText target.bytes := by
  have hname := isAbsolute_ofText_shown htarget
  rw [LeadsTo, Path.normalize_join_display hroot hname (isText_bytes_ofText _)]
  constructor
  · intro h
    rw [← h]
    exact Path.isText_normalize (isText_bytes_ofText _)
  · rintro ⟨text, htext⟩
    have hsame : Path.ofText target.shown = target := by
      rw [Path.shown, htext, shown_ofText]
      exact congrArg Path.mk htext.symm
    rw [hsame, hnormal]

/-- Seen from the empty root, an absolute path is shown as a relative one. -/
theorem not_leadsTo_display_of_empty (hroot : root.bytes = [])
    (htarget : target.isAbsolute = true) :
    ¬ LeadsTo root (Path.display root (Path.ofText target.shown)) target := by
  obtain ⟨bytes⟩ := root
  obtain rfl : bytes = [] := hroot
  have hname := isAbsolute_ofText_shown htarget
  have hrelative : Path.relativeTo ⟨[]⟩ (Path.ofText target.shown) = Path.ofText target.shown := by
    rw [Path.relativeTo, hname]
    rfl
  have htext : IsText (Path.relativeTo ⟨[]⟩ (Path.ofText target.shown)).bytes := by
    rw [hrelative]
    exact isText_bytes_ofText _
  obtain ⟨hshown, -⟩ := Path.display_spec htext
  intro h
  have habsolute := congrArg Path.isAbsolute h
  rw [Path.isAbsolute_normalize, Path.isAbsolute_join _ hshown, htarget] at habsolute
  cases habsolute

/-! ## Errors of a build -/

namespace Stage

variable {compiler : Compiler} {tree : FileTree} {completion : Completion files.length}
  {units before after : List SourceUnit} {source : SourceUnit} {message : String}
  {line column number : Nat}

/-- A failure at a line of a file is an error under the file's absolute path, as seen from the
root. -/
theorem exists_error_of_file (stage : Stage) (dirname : Path)
    (hunits : readSources tree cwd files completion = .ok units)
    (hplaced : PlacedAt units line before source after number)
    (hfile : files[before.length]? = some file)
    (hfailure : compiler (stage.unitsJob units) = .error (.positioned message line column)) :
    ∃ error,
      (stage.build compiler tree cwd files dirname completion).result = .error (.inFile error) ∧
        error.path = Path.display stage.root (Path.ofText (absolutePath cwd file).shown) := by
  obtain ⟨text, -, hunit⟩ := exists_unit_of_file hunits hfile
  rw [hplaced.getElem?, Option.some.injEq] at hunit
  have hresult := result_buildUnits_of_error dirname hfailure
  rw [Diagnosis.ofFailure_of_placedAt hplaced, hunit, BuildError.ofDiagnosis] at hresult
  have hbuild : (stage.build compiler tree cwd files dirname completion).result =
      (stage.buildUnits compiler units dirname).result := by
    rw [build, hunits]
  refine ⟨_, hbuild.trans hresult, ?_⟩
  rw [Diagnosis.syntaxError]

/-- When the compiler fails at a line of some file, the build fails with an error whose path leads
from the root back to this file exactly if the root is not empty and the file's absolute path is
a text. -/
theorem build_leads_back (cwd : Location) (options : Options) (root : Path)
    (excerpt : ExcerptOptions) (compiler : Compiler) (tree : FileTree) (files : List Path)
    (dirname : Path) (completion : Completion files.length) {units before after : List SourceUnit}
    {source : SourceUnit} {file : Path} {message : String} {line column number : Nat}
    (hunits : readSources tree cwd files completion = .ok units)
    (hplaced : PlacedAt units line before source after number)
    (hfile : files[before.length]? = some file)
    (hfailure : compiler ((ofRoot cwd options root excerpt).unitsJob units) =
      .error (.positioned message line column)) :
    ∃ error,
      ((ofRoot cwd options root excerpt).build compiler tree cwd files dirname completion).result =
        .error (.inFile error) ∧
      (LeadsTo (ofRoot cwd options root excerpt).root error.path (absolutePath cwd file) ↔
        root.bytes ≠ [] ∧ IsText (absolutePath cwd file).bytes) := by
  obtain ⟨error, hresult, hpath⟩ := exists_error_of_file _ dirname hunits hplaced hfile hfailure
  refine ⟨error, hresult, ?_⟩
  rw [hpath]
  have htarget := isAbsolute_absolutePath cwd file
  by_cases hroot : root.bytes = []
  · refine iff_of_false ?_ fun h => h.1 hroot
    rw [root_ofRoot_of_empty cwd options hroot excerpt]
    exact not_leadsTo_display_of_empty hroot htarget
  · rw [root_ofRoot cwd options hroot excerpt, and_iff_right hroot]
    exact leadsTo_display_iff (isAbsolute_absolutePath cwd root) htarget
      (Path.normalize_normalize _)

/-- The root is the parent of the current directory, and the file is hidden. -/
theorem build_leads_back_to_hidden_file :
    let cwd : Location := [ofText "p", ofText "w"]
    let tree : FileTree := ⟨[([ofText "p"], .directory), ([ofText "p", ofText "w"], .directory),
      ([ofText "p", ofText ".a"], .file (ofText "x\n") none)]⟩
    let file := Path.ofText ".././.a"
    let stage := ofRoot cwd {} (Path.ofText "..")
    let compiler : Compiler := fun _ => .error (.positioned "Bad" 1 1)
    let source : SourceUnit := ⟨"x\n", "/p/.a"⟩
    readSources tree cwd [file] = .ok [source] ∧ PlacedAt [source] 1 [] source [] 1 ∧
    compiler (stage.unitsJob [source]) = .error (.positioned "Bad" 1 1) ∧
    ∃ error, (stage.build compiler tree cwd [file] (Path.ofText "/p")).result =
        .error (.inFile error) ∧
      LeadsTo stage.root error.path (absolutePath cwd file) := by
  intro cwd tree file stage compiler source
  have hunits : readSources tree cwd [file] = .ok [source] :=
    readSources_eq_ok_iff.mpr (by decide)
  have hplaced : PlacedAt [source] 1 [] source [] 1 := ⟨rfl, rfl, by decide, by decide⟩
  obtain ⟨error, hresult, hleads⟩ := build_leads_back cwd {} (Path.ofText "..") {} compiler tree
    [file] (Path.ofText "/p") (.inOrder _) hunits hplaced rfl rfl
  exact ⟨hunits, hplaced, rfl, error, hresult, hleads.mpr ⟨by decide, "/p/.a", by decide⟩⟩

/-- Under the empty root the same file is shown by a path that leads elsewhere. -/
theorem build_loses_file_from_empty_root :
    let cwd : Location := [ofText "p"]
    let tree : FileTree := ⟨[([ofText "p"], .directory),
      ([ofText "p", ofText "a"], .file (ofText "x\n") none)]⟩
    let file := Path.ofText "a"
    let stage := ofRoot cwd {} (Path.ofText "")
    let compiler : Compiler := fun _ => .error (.positioned "Bad" 1 1)
    ∃ error, (stage.build compiler tree cwd [file] (Path.ofText "/p")).result =
        .error (.inFile error) ∧
      error.path = ".//p/a" ∧ ¬ LeadsTo stage.root error.path (absolutePath cwd file) := by
  intro cwd tree file stage compiler
  have hunits : readSources tree cwd [file] = .ok [⟨"x\n", "/p/a"⟩] :=
    readSources_eq_ok_iff.mpr (by decide)
  have hplaced : PlacedAt [⟨"x\n", "/p/a"⟩] 1 [] ⟨"x\n", "/p/a"⟩ [] 1 :=
    ⟨rfl, rfl, by decide, by decide⟩
  have hfailure :
      compiler (stage.unitsJob [⟨"x\n", "/p/a"⟩]) = .error (.positioned "Bad" 1 1) := rfl
  obtain ⟨error, hresult, hpath⟩ :=
    exists_error_of_file stage (Path.ofText "/p") hunits hplaced rfl hfailure
  refine ⟨error, hresult, ?_, ?_⟩
  · rw [hpath]
    decide
  · rw [hpath]
    exact not_leadsTo_display_of_empty rfl (isAbsolute_absolutePath cwd file)

end Stage

end TemplateBundler
