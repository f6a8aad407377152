import Mathlib.Data.List.OfFn
import TemplateBundler.Proofs.FileTree
import TemplateBundler.Proofs.Path
import TemplateBundler.Stage

/-! # Reading template files

Files are read side by side, and which read ends first is not up to the bundler. If all can be read
it does not matter: the units stand in the order of the files, each with the text of its file and
named by the file's absolute path. If some cannot, the error is that of one of them.
-/

namespace TemplateBundler

open Bytes

variable {tree : FileTree} {cwd : Location} {file path : Path} {files : List Path} {text : String}
  {units : List SourceUnit} {source : SourceUnit} {error : BuildError}

/-! ## Absolute paths -/

theorem isAbsolute_toPath (location : Location) : location.toPath.isAbsolute = true := by
  unfold Location.toPath
  cases location with
  | nil => rfl
  | cons name location => rfl

/-- The normal form of a path, taken from the current directory. -/
def absolutePath (cwd : Location) (path : Path) : Path :=
  ((Location.toPath cwd).join path).normalize

theorem isAbsolute_absolutePath (cwd : Location) (path : Path) :
    (absolutePath cwd path).isAbsolute = true := by
  rw [absolutePath, Path.isAbsolute_normalize]
  exact Path.isAbsolute_join_of_isAbsolute (isAbsolute_toPath cwd) path

theorem resolve_eq_absolutePath (cwd : Location) (h : path.bytes ≠ []) :
    Path.resolve (Location.toPath cwd) path = absolutePath cwd path :=
  if_neg h

/-! ## Reading one file -/

namespace Stage

theorem readSource_eq_ok_iff : readSource tree cwd file = .ok source ↔
    ∃ text, tree.read cwd file = .ok (ofText text) ∧
      source = { text, identifier := (absolutePath cwd file).shown } := by
  unfold readSource
  cases htext : tree.readText cwd file with
  | error cause =>
      refine iff_of_false (by simp) ?_
      rintro ⟨text, hread, -⟩
      rw [FileTree.readText_eq_ok_iff.mpr hread] at htext
      cases htext
  | ok text =>
      have hread := FileTree.readText_eq_ok_iff.mp htext
      rw [resolve_eq_absolutePath cwd (FileTree.bytes_ne_nil_of_read hread), Except.ok.injEq]
      constructor
      · rintro rfl
        exact ⟨text, hread, rfl⟩
      · rintro ⟨text', hread', rfl⟩
        rw [hread, Except.ok.injEq, ofText_inj] at hread'
        rw [hread']

/-- A failure to read names the file as it was given. -/
theorem exists_of_readSource_eq_error (h : readSource tree cwd file = .error error) :
    ∃ cause, error = .unreadable file cause ∧ ∀ text, tree.read cwd file ≠ .ok (ofText text) := by
  unfold readSource at h
  cases htext : tree.readText cwd file with
  | ok text => simp [htext] at h
  | error cause =>
      rw [htext, Except.error.injEq] at h
      refine ⟨cause, h.symm, fun text hread => ?_⟩
      rw [FileTree.readText_eq_ok_iff.mpr hread] at htext
      cases htext

/-! ## Reading all files -/

variable {completion other : Completion files.length}

/-- The order in which the reads end is seen in no unit. -/
theorem readSources_eq_ok_iff : readSources tree cwd files completion = .ok units ↔
    files.map (readSource tree cwd) = units.map .ok := by
  have hcases := gather_cases (fun place : Fin files.length => readSource tree cwd files[place])
    completion
  have hactions : List.ofFn (fun place : Fin files.length => readSource tree cwd files[place]) =
      files.map (readSource tree cwd) := List.ofFn_getElem_eq_map files _
  rw [hactions] at hcases
  rcases hcases with ⟨values, hresult, hvalues⟩ | ⟨error, hresult, place, herror⟩
  · rw [readSources, hresult, hvalues, Except.ok.injEq,
      List.map_inj_right fun _ _ => Except.ok.inj]
  · rw [readSources, hresult]
    refine iff_of_false (by simp) fun hunits => ?_
    have hmem : Except.error error ∈ files.map (readSource tree cwd) := by
      rw [← herror]
      exact List.mem_map_of_mem (List.getElem_mem place.isLt)
    rw [hunits, List.mem_map] at hmem
    obtain ⟨_, -, hok⟩ := hmem
    cases hok

theorem readSources_of_order (h : readSources tree cwd files completion = .ok units) :
    readSources tree cwd files other = .ok units :=
  readSources_eq_ok_iff.mpr (readSources_eq_ok_iff.mp h)

theorem exists_of_readSources_eq_error (h : readSources tree cwd files completion = .error error) :
    ∃ file ∈ files, readSource tree cwd file = .error error := by
  rcases gather_cases (fun place : Fin files.length => readSource tree cwd files[place])
    completion with ⟨values, hresult, -⟩ | ⟨error', hresult, place, herror⟩
  · rw [readSources, hresult] at h
    cases h
  · rw [readSources, hresult, Except.error.injEq] at h
    rw [← h]
    exact ⟨files[place], List.getElem_mem place.isLt, herror⟩

theorem exists_readSources_eq_ok_iff :
    (∃ units, readSources tree cwd files completion = .ok units) ↔
      ∀ file ∈ files, ∃ text, tree.read cwd file = .ok (ofText text) := by
  constructor
  · rintro ⟨units, hunits⟩ file hfile
    have hmem : readSource tree cwd file ∈ units.map .ok := by
      rw [← readSources_eq_ok_iff.mp hunits]
      exact List.mem_map_of_mem hfile
    obtain ⟨source, -, hsource⟩ := List.mem_map.mp hmem
    obtain ⟨text, hread, -⟩ := readSource_eq_ok_iff.mp hsource.symm
    exact ⟨text, hread⟩
  · intro hall
    cases hresult : readSources tree cwd files completion with
    | ok units => exact ⟨units, rfl⟩
    | error error =>
        obtain ⟨file, hfile, herror⟩ := exists_of_readSources_eq_error hresult
        obtain ⟨cause, -, hfailed⟩ := exists_of_readSource_eq_error herror
        obtain ⟨text, hread⟩ := hall file hfile
        exact absurd hread (hfailed text)

/-- The unit in a place is that of the file in this place. -/
theorem exists_unit_of_file (hunits : readSources tree cwd files completion = .ok units)
    {place : Nat} (hfile : files[place]? = some file) :
    ∃ text, tree.read cwd file = .ok (ofText text) ∧
      units[place]? = some { text, identifier := (absolutePath cwd file).shown } := by
  have hplace := congrArg (·[place]?) (readSources_eq_ok_iff.mp hunits)
  rw [List.getElem?_map, List.getElem?_map, hfile, Option.map_some, eq_comm,
    Option.map_eq_some_iff] at hplace
  obtain ⟨source, hsource, hsame⟩ := hplace
  obtain ⟨text, hread, rfl⟩ := readSource_eq_ok_iff.mp hsame.symm
  exact ⟨text, hread, hsource⟩

/-- In whatever order the reads end, they give units exactly if every file holds UTF-8, and then the
unit in each place has the text and the absolute name of the file in this place. Another order
would have given the same, and so the compiler is asked the same. A failure to read is that of
one of the files, named as it was given. -/
theorem readSources_keeps_places (tree : FileTree) (cwd : Location) (files : List Path)
    (completion : Completion files.length) :
    ((∃ units, readSources tree cwd files completion = .ok units) ↔
      ∀ file ∈ files, ∃ text, tree.read cwd file = .ok (ofText text)) ∧
    (∀ units, readSources tree cwd files completion = .ok units →
      units.length = files.length ∧
      (∀ (place : Nat) (file : Path), files[place]? = some file →
        ∃ text, tree.read cwd file = .ok (ofText text) ∧
          units[place]? = some { text, identifier := (absolutePath cwd file).shown } ∧
          (absolutePath cwd file).isAbsolute ∧
          (absolutePath cwd file).normalize = absolutePath cwd file) ∧
      ∀ other : Completion files.length, readSources tree cwd files other = .ok units) ∧
    (∀ error, readSources tree cwd files completion = .error error →
      ∃ file ∈ files, ∃ cause, error = .unreadable file cause ∧
        ∀ text, tree.read cwd file ≠ .ok (ofText text)) ∧
    ∀ (stage : Stage) (compiler : Compiler) (dirname : Path) (other : Completion files.length),
      (stage.build compiler tree cwd files dirname other).job? =
        (stage.build compiler tree cwd files dirname completion).job? := by
  refine ⟨exists_readSources_eq_ok_iff, ?_, ?_, ?_⟩
  · intro units hunits
    refine ⟨?_, ?_, fun other => readSources_of_order hunits⟩
    · simpa using (congrArg List.length (readSources_eq_ok_iff.mp hunits)).symm
    · intro place file hfile
      obtain ⟨text, hread, hunit⟩ := exists_unit_of_file hunits hfile
      exact ⟨text, hread, hunit, isAbsolute_absolutePath cwd file, Path.normalize_normalize _⟩
  · intro error herror
    obtain ⟨file, hfile, hfailed⟩ := exists_of_readSources_eq_error herror
    exact ⟨file, hfile, exists_of_readSource_eq_error hfailed⟩
  · intro stage compiler dirname other
    cases hresult : readSources tree cwd files completion with
    | ok units =>
        have hother : readSources tree cwd files other = .ok units := readSources_of_order hresult
        simp [build, hresult, hother]
    | error error =>
        cases hother : readSources tree cwd files other with
        | error error' => simp [build, hresult, hother]
        | ok units =>
            rw [readSources_of_order hother] at hresult
            cases hresult

/-- A file that is given twice, with another one in between, and reads that end backwards. -/
theorem readSources_keeps_places_of_repeated :
    let tree : FileTree := ⟨[([ofText "a"], .file (ofText "x\n") none),
      ([ofText "b"], .file (ofText "é") none)]⟩
    let files := [Path.ofText "a", Path.ofText "../b", Path.ofText "./a"]
    let completion : Completion files.length := ⟨(List.finRange _).reverse, List.reverse_perm _⟩
    (∀ file ∈ files, ∃ text, tree.read [] file = .ok (ofText text)) ∧
    files[1]? = some (Path.ofText "../b") ∧
    ∃ units, readSources tree [] files completion = .ok units ∧ units.length = 3 ∧
      units[1]? = some ⟨"é", (absolutePath [] (Path.ofText "../b")).shown⟩ ∧
      readSources tree [] files (.inOrder _) = .ok units := by
  intro tree files completion
  have hread : ∀ file ∈ files, ∃ text, tree.read [] file = .ok (ofText text) := by
    simp only [files, List.forall_mem_cons, List.not_mem_nil, IsEmpty.forall_iff, implies_true,
      and_true]
    exact ⟨⟨"x\n", by decide⟩, ⟨"é", by decide⟩, ⟨"x\n", by decide⟩⟩
  obtain ⟨hok, hplaces, -, -⟩ := readSources_keeps_places tree [] files completion
  obtain ⟨units, hunits⟩ := hok.mpr hread
  obtain ⟨hlength, hplace, hother⟩ := hplaces units hunits
  obtain ⟨text, htext, hunit, -, -⟩ := hplace 1 (Path.ofText "../b") rfl
  have hsame : Except.ok (ofText text) = Except.ok (ofText "é") :=
    htext.symm.trans (by decide : tree.read [] (Path.ofText "../b") = .ok (ofText "é"))
  rw [Except.ok.injEq, ofText_inj] at hsame
  exact ⟨hread, rfl, units, hunits, hlength, hsame ▸ hunit, hother (.inOrder _)⟩

end Stage

end TemplateBundler
