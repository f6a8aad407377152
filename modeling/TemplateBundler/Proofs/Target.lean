import TemplateBundler.Proofs.FileTree
import TemplateBundler.Proofs.Sources
import TemplateBundler.Proofs.Stage

/-! # Building to a target

A build to a target writes one file, and it does so last: whatever goes wrong on the way leaves the
files as they were. What it writes is the module that a build without a target gives. The compiler
is asked at most once, after all files were read, and no answer of it but the one to this job
has any effect.
-/

namespace TemplateBundler.Stage

open Bytes

variable {stage : Stage} {compiler other : Compiler} {tree : FileTree} {cwd : Location}
  {files : List Path} {directory path : Path} {completion : Completion files.length}
  {units : List SourceUnit} {code : String} {error : BuildError}

/-! ## What the compiler is asked -/

theorem build_of_readSources_eq_ok (stage : Stage) (compiler : Compiler) (dirname : Path)
    (h : readSources tree cwd files completion = .ok units) :
    stage.build compiler tree cwd files dirname completion =
      stage.buildUnits compiler units dirname := by
  rw [build, h]

theorem build_of_readSources_eq_error (stage : Stage) (compiler : Compiler) (dirname : Path)
    (h : readSources tree cwd files completion = .error error) :
    stage.build compiler tree cwd files dirname completion = { result := .error error } := by
  rw [build, h]

/-- Two compilers that answer the job alike cannot be told apart by a build. -/
theorem build_congr {dirname : Path}
    (h : ∀ job ∈ (stage.build compiler tree cwd files dirname completion).job?,
      other job = compiler job) :
    stage.build other tree cwd files dirname completion =
      stage.build compiler tree cwd files dirname completion := by
  cases hunits : readSources tree cwd files completion with
  | error error =>
      rw [build_of_readSources_eq_error stage other dirname hunits,
        build_of_readSources_eq_error stage compiler dirname hunits]
  | ok units =>
      rw [build_of_readSources_eq_ok stage compiler dirname hunits] at h ⊢
      rw [build_of_readSources_eq_ok stage other dirname hunits]
      have hreply : other (stage.unitsJob units) = compiler (stage.unitsJob units) :=
        h _ (job?_buildUnits stage compiler units dirname)
      rw [unitsJob] at hreply
      simp only [buildUnits, hreply]

/-- A build that gives a module has read all files. -/
theorem exists_units_of_build {dirname : Path}
    (h : (stage.build compiler tree cwd files dirname completion).result = .ok code) :
    ∃ units, readSources tree cwd files completion = .ok units := by
  cases hunits : readSources tree cwd files completion with
  | ok units => exact ⟨units, rfl⟩
  | error error =>
      rw [build_of_readSources_eq_error stage compiler dirname hunits] at h
      cases h

theorem job?_build_of_unreadable {dirname : Path} {file : Path} (hfile : file ∈ files)
    (h : ∀ text, tree.read cwd file ≠ .ok (ofText text)) :
    (stage.build compiler tree cwd files dirname completion).job? = none := by
  cases hunits : readSources tree cwd files completion with
  | error error => rw [build_of_readSources_eq_error stage compiler dirname hunits]
  | ok units =>
      obtain ⟨text, hread⟩ := exists_readSources_eq_ok_iff.mp ⟨units, hunits⟩ file hfile
      exact absurd hread (h text)

/-! ## What is written -/

/-- Either the module was written, or nothing was: there was no module, or it could not be
written. -/
theorem buildToTarget_cases (stage : Stage) (compiler : Compiler) (tree : FileTree)
    (cwd : Location) (files : List Path) (directory : Path)
    (completion : Completion files.length) :
    let built := stage.build compiler tree cwd files directory completion
    let target := stage.targetPath directory
    (∃ code after, built.result = .ok code ∧ tree.write cwd target (ofText code) = .ok after ∧
      stage.buildToTarget compiler tree cwd files directory completion =
        (after, { built with result := .ok target, log := built.log ++ [.written target] })) ∨
    ∃ error, (∀ code after, built.result = .ok code →
        tree.write cwd target (ofText code) ≠ .ok after) ∧
      stage.buildToTarget compiler tree cwd files directory completion =
        (tree, { built with result := .error error }) := by
  intro built target
  unfold buildToTarget
  dsimp only
  split
  next error herror =>
    refine .inr ⟨error, fun code after hcode => ?_, rfl⟩
    rw [herror] at hcode
    cases hcode
  next code hcode =>
    split
    next after hafter => exact .inl ⟨code, after, hcode, hafter, rfl⟩
    next cause hcause =>
      refine .inr ⟨.unwritable target cause, fun other after hother hafter => ?_, rfl⟩
      rw [hcode, Except.ok.injEq] at hother
      rw [← hother, hcause] at hafter
      cases hafter

theorem job?_buildToTarget (stage : Stage) (compiler : Compiler) (tree : FileTree)
    (cwd : Location) (files : List Path) (directory : Path)
    (completion : Completion files.length) :
    (stage.buildToTarget compiler tree cwd files directory completion).2.job? =
      (stage.build compiler tree cwd files directory completion).job? := by
  rcases buildToTarget_cases stage compiler tree cwd files directory completion with
    ⟨code, after, -, -, heq⟩ | ⟨error, -, heq⟩
  · rw [heq]
  · rw [heq]

theorem buildToTarget_congr
    (h : ∀ job ∈ (stage.buildToTarget compiler tree cwd files directory completion).2.job?,
      other job = compiler job) :
    stage.buildToTarget other tree cwd files directory completion =
      stage.buildToTarget compiler tree cwd files directory completion := by
  rw [job?_buildToTarget] at h
  rw [buildToTarget, buildToTarget, build_congr h]

/-- The files are changed by a success alone. -/
theorem tree_buildToTarget_of_error
    (h : (stage.buildToTarget compiler tree cwd files directory completion).2.result =
      .error error) :
    (stage.buildToTarget compiler tree cwd files directory completion).1 = tree := by
  rcases buildToTarget_cases stage compiler tree cwd files directory completion with
    ⟨code, after, -, -, heq⟩ | ⟨error, -, heq⟩
  · rw [heq] at h
    cases h
  · rw [heq]

theorem exists_of_result_buildToTarget
    (h : (stage.buildToTarget compiler tree cwd files directory completion).2.result = .ok path) :
    path = stage.targetPath directory ∧ ∃ code,
      (stage.build compiler tree cwd files directory completion).result = .ok code ∧
      tree.write cwd path (ofText code) =
        .ok (stage.buildToTarget compiler tree cwd files directory completion).1 := by
  rcases buildToTarget_cases stage compiler tree cwd files directory completion with
    ⟨code, after, hcode, hafter, heq⟩ | ⟨error, -, heq⟩
  · rw [heq, Except.ok.injEq] at h
    rw [heq, ← h]
    exact ⟨rfl, code, hcode, hafter⟩
  · rw [heq] at h
    cases h

/-- A build to a target succeeds if there is a module and a place for it. -/
theorem exists_result_buildToTarget_iff :
    (∃ path, (stage.buildToTarget compiler tree cwd files directory completion).2.result =
      .ok path) ↔
    (∃ code, (stage.build compiler tree cwd files directory completion).result = .ok code) ∧
      ∃ location, tree.locateTarget cwd (stage.targetPath directory) = .ok location ∧
        tree.entry? location ≠ some .directory := by
  constructor
  · rintro ⟨path, hpath⟩
    obtain ⟨htarget, code, hcode, hwrite⟩ := exists_of_result_buildToTarget hpath
    rw [htarget] at hwrite
    exact ⟨⟨code, hcode⟩, FileTree.exists_write_eq_ok_iff.mp ⟨_, hwrite⟩⟩
  · rintro ⟨⟨code, hcode⟩, hplace⟩
    obtain ⟨after, hafter⟩ : ∃ after,
        tree.write cwd (stage.targetPath directory) (ofText code) = .ok after :=
      FileTree.exists_write_eq_ok_iff.mpr hplace
    rcases buildToTarget_cases stage compiler tree cwd files directory completion with
      ⟨code, after, -, -, heq⟩ | ⟨error, hnot, -⟩
    · exact ⟨_, by rw [heq]⟩
    · exact absurd hafter (hnot code after hcode)

/-- A build that gives a module rests on the compiler's answer: it would have failed, had the
compiler failed at the job. -/
theorem exists_job_of_build {dirname : Path}
    (h : (stage.build compiler tree cwd files dirname completion).result = .ok code) :
    ∃ job, (stage.build compiler tree cwd files dirname completion).job? = some job ∧
      ∀ (other : Compiler) (order : Completion files.length),
        (other job = compiler job →
          (stage.build other tree cwd files dirname order).result = .ok code) ∧
        ∀ failure, other job = .error failure → ∃ error,
          (stage.build other tree cwd files dirname order).result = .error error := by
  obtain ⟨units, hunits⟩ := exists_units_of_build h
  have hjob : (stage.build compiler tree cwd files dirname completion).job? =
      some (stage.unitsJob units) := by
    rw [build_of_readSources_eq_ok stage compiler dirname hunits, job?_buildUnits]
  refine ⟨stage.unitsJob units, hjob, fun other order => ?_⟩
  have horder : readSources tree cwd files order = .ok units := readSources_of_order hunits
  constructor
  · intro hreply
    have hsame : stage.build other tree cwd files dirname completion =
        stage.build compiler tree cwd files dirname completion := by
      refine build_congr fun job hmem => ?_
      rw [hjob, Option.mem_some] at hmem
      rwa [← hmem]
    rw [build_of_readSources_eq_ok stage other dirname horder,
      ← build_of_readSources_eq_ok stage other dirname hunits, hsame, h]
  · intro failure hfailure
    rw [build_of_readSources_eq_ok stage other dirname horder]
    exact ⟨_, result_buildUnits_of_error dirname hfailure⟩

theorem result_buildToTarget_of_error
    (h : (stage.build compiler tree cwd files directory completion).result = .error error) :
    ∃ error, (stage.buildToTarget compiler tree cwd files directory completion).2.result =
      .error error := by
  cases hresult : (stage.buildToTarget compiler tree cwd files directory completion).2.result with
  | error error => exact ⟨error, rfl⟩
  | ok path =>
      obtain ⟨-, code, hcode, -⟩ := exists_of_result_buildToTarget hresult
      rw [h] at hcode
      cases hcode

/-- A build to a target that fails leaves the files as they were. One that succeeds has changed no
file but the target, which now holds the module that a build gives for the same files and the
same answer of the compiler. The answer to one job is all that it takes from the compiler, and
it takes nothing from it if a file cannot be read. -/
theorem buildToTarget_commits (stage : Stage) (compiler : Compiler) (tree : FileTree)
    (cwd : Location) (files : List Path) (directory : Path)
    (completion : Completion files.length) :
    let target := directory.join
      (Path.ofText (targetFileName stage.options.targetPattern directory))
    let run (compiler : Compiler) :=
      stage.buildToTarget compiler tree cwd files directory completion
    (∀ error, (run compiler).2.result = .error error → (run compiler).1 = tree) ∧
    (∀ path, (run compiler).2.result = .ok path →
      path = target ∧ ∃ code location job,
        (run compiler).1.read cwd path = .ok (ofText code) ∧
        tree.locateTarget cwd path = .ok location ∧
        (∀ other, other ≠ location →
          FileTree.entry? (run compiler).1 other = tree.entry? other) ∧
        (run compiler).2.job? = some job ∧
        (∀ (other : Compiler) (order : Completion files.length), other job = compiler job →
          (stage.build other tree cwd files directory order).result = .ok code) ∧
        ∀ (other : Compiler) (failure : CompileFailure), other job = .error failure →
          ∃ error, (run other).2.result = .error error) ∧
    (∀ other : Compiler, (∀ job ∈ (run compiler).2.job?, other job = compiler job) →
      run other = run compiler) ∧
    ∀ file ∈ files, (∀ text, tree.read cwd file ≠ .ok (ofText text)) →
      (run compiler).2.job? = none := by
  intro target run
  refine ⟨fun error => tree_buildToTarget_of_error, ?_, fun other => buildToTarget_congr, ?_⟩
  · intro path hpath
    obtain ⟨htarget, code, hcode, hwrite⟩ := exists_of_result_buildToTarget hpath
    obtain ⟨location, hlocation, hread, hothers⟩ := FileTree.exists_place_of_write hwrite
    obtain ⟨job, hjob, hreply⟩ := exists_job_of_build hcode
    refine ⟨htarget, code, location, job, hread, hlocation, hothers, ?_, ?_, ?_⟩
    · rw [job?_buildToTarget, hjob]
    · exact fun other order => (hreply other order).1
    · intro other failure hfailure
      obtain ⟨error, herror⟩ := (hreply other completion).2 failure hfailure
      exact result_buildToTarget_of_error herror
  · intro file hfile hnot
    rw [job?_buildToTarget]
    exact job?_build_of_unreadable hfile hnot

/-- The target may be one of the files that the module is made from. -/
theorem buildToTarget_commits_over_source :
    let cwd : Location := [ofText "p"]
    let tree : FileTree := ⟨[(cwd, .directory),
      (cwd ++ [ofText "p.xjst.js"], .file (ofText "x\n") (some .interpreter)),
      (cwd ++ [ofText "b"], .file (ofText "é") none)]⟩
    let files := [Path.ofText "b", Path.ofText "p.xjst.js"]
    let directory := Path.ofText "/p"
    let stage : Stage := { options := {}, root := Path.ofText "/p" }
    let compiler : Compiler := fun _ => .ok "code"
    ∃ after built code, stage.buildToTarget compiler tree cwd files directory = (after, built) ∧
      built.result = .ok (Path.ofText "/p/p.xjst.js") ∧
      (stage.build compiler tree cwd files directory).result = .ok code ∧
      after.read cwd (Path.ofText "/p/p.xjst.js") = .ok (ofText code) ∧
      FileTree.entry? after (cwd ++ [ofText "b"]) = some (.file (ofText "é") none) := by
  intro cwd tree files directory stage compiler
  have hunits : readSources tree cwd files = .ok [⟨"é", "/p/b"⟩, ⟨"x\n", "/p/p.xjst.js"⟩] :=
    readSources_eq_ok_iff.mpr (by decide)
  have hcode : ∃ code, (stage.build compiler tree cwd files directory).result = .ok code := by
    rw [build_of_readSources_eq_ok stage compiler directory hunits]
    exact ⟨_, rfl⟩
  have htarget : stage.targetPath directory = Path.ofText "/p/p.xjst.js" := by decide
  have hplace : tree.locateTarget cwd (stage.targetPath directory) =
      .ok (cwd ++ [ofText "p.xjst.js"]) := by
    rw [htarget]
    decide
  obtain ⟨path, hpath⟩ : ∃ path,
      (stage.buildToTarget compiler tree cwd files directory).2.result = .ok path :=
    exists_result_buildToTarget_iff.mpr ⟨hcode, _, hplace, by decide⟩
  obtain ⟨-, hok, -, -⟩ :=
    buildToTarget_commits stage compiler tree cwd files directory (.inOrder _)
  beta_reduce at hok
  obtain ⟨hsame, code, location, job, hread, hlocation, hothers, -, hbuild, -⟩ := hok path hpath
  rw [← targetPath] at hsame
  rw [hsame, hplace, Except.ok.injEq] at hlocation
  rw [hsame, htarget] at hpath hread
  refine ⟨_, _, code, Prod.mk.eta.symm, hpath, hbuild compiler _ rfl, hread, ?_⟩
  rw [hothers _ (by rw [← hlocation]; decide)]
  decide

end TemplateBundler.Stage
