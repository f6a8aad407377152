import TemplateBundler.Proofs.RelativePath
import TemplateBundler.Proofs.Target

/-! # What a bundle is named

A bundle is named after its directory, by the name that the directory's path ends in. As long as it
ends in one, this is the name of the directory itself, however the path is spelled before it. A path
that ends in a dot or in two has no such name, whatever directory it stands for, and then the bundle
is named as if the directory had the empty name.
-/

namespace TemplateBundler

open Bytes

/-! ## Patterns -/

/-- The pattern with a name in place of each question mark: what stands around the question marks,
with the name in between. -/
def fillPattern (pattern name : String) : String :=
  String.ofList (name.toList.intercalate (pattern.toList.splitOn '?'))

variable {name : String}

theorem flatMap_eq_intercalate_splitOn {α : Type} [DecidableEq α] (mark : α) (filling xs : List α) :
    xs.flatMap (fun x => if x = mark then filling else [x]) =
      filling.intercalate (xs.splitOn mark) := by
  induction xs with
  | nil => rfl
  | cons x xs ih =>
      obtain ⟨first, parts, hparts⟩ := List.exists_cons_of_ne_nil (List.splitOn_ne_nil mark xs)
      rw [List.flatMap_cons, ih, List.splitOn_cons_eq_if_modifyHead, hparts]
      by_cases hx : x = mark
      · rw [if_pos hx, if_pos (beq_iff_eq.mpr hx), List.intercalate_cons_cons, List.nil_append]
      · rw [if_neg hx, if_neg (mt beq_iff_eq.mp hx), List.modifyHead_cons]
        cases parts with
        | nil => simp
        | cons next parts => simp [List.intercalate_cons_cons]

theorem targetFileName_eq_fillPattern (pattern : String) (directory : Path) :
    targetFileName pattern directory =
      fillPattern pattern ((directory.fileName?.map Bytes.shown).getD "") :=
  congrArg String.ofList (flatMap_eq_intercalate_splitOn '?' _ _)

/-- Each question mark makes room for the whole name. -/
theorem length_fillPattern (pattern name : String) :
    (fillPattern pattern name).toList.length = (fillPattern pattern "").toList.length +
      pattern.toList.count '?' * name.toList.length := by
  simp only [fillPattern, String.toList_ofList, ← flatMap_eq_intercalate_splitOn]
  induction pattern.toList with
  | nil => simp
  | cons c cs ih =>
      rw [List.flatMap_cons, List.flatMap_cons, List.length_append, List.length_append, ih,
        List.count_cons]
      by_cases hc : c = '?'
      · rw [if_pos hc, if_pos hc, if_pos (beq_iff_eq.mpr hc), Nat.succ_mul, String.toList_empty,
          List.length_nil]
        omega
      · rw [if_neg hc, if_neg hc, if_neg (mt beq_iff_eq.mp hc), Nat.add_zero]
        omega

/-- A name is seen in every pattern that has a place for it. -/
theorem fillPattern_eq_empty_iff (pattern : String) (hname : name ≠ "") :
    fillPattern pattern name = fillPattern pattern "" ↔ '?' ∉ pattern.toList := by
  constructor
  · intro h
    have hlength := length_fillPattern pattern name
    rw [h, Nat.left_eq_add, Nat.mul_eq_zero] at hlength
    have hempty : name.toList.length ≠ 0 := by simpa using hname
    exact List.count_eq_zero.mp (hlength.resolve_right hempty)
  · intro h
    rw [fillPattern, fillPattern, List.splitOn_eq_singleton h, List.intercalate_singleton,
      List.intercalate_singleton]

/-! ## Names of directories -/

namespace Path

variable {path other cwd : Path} {name : Bytes}

theorem fileName?_eq_some_iff :
    path.fileName? = some name ↔ path.components.getLast? = some (.name name) := by
  unfold fileName?
  split
  next bytes h => simp [h]
  next h => simpa using h name

/-- The components of a path are its steps, with the place where it starts in front if that is
written. -/
theorem exists_components_eq (path : Path) : ∃ start,
    (start = [] ∨ start = [.root] ∨ start = [.here]) ∧ path.components = start ++ path.inner := by
  cases habsolute : path.isAbsolute with
  | true => exact ⟨[.root], .inr (.inl rfl), components_of_isAbsolute habsolute⟩
  | false =>
      rcases components_of_not_isAbsolute habsolute with h | h
      · exact ⟨[], .inl rfl, h⟩
      · exact ⟨[.here], .inr (.inr rfl), h⟩

/-- A name at the end of a path is a step of it. -/
theorem getLast?_components_eq_name_iff :
    path.components.getLast? = some (.name name) ↔ path.inner.getLast? = some (.name name) := by
  obtain ⟨start, hstart, hcomponents⟩ := exists_components_eq path
  rw [hcomponents, List.getLast?_append, Option.or_eq_some_iff, or_iff_left]
  rintro ⟨-, hlast⟩
  rcases hstart with rfl | rfl | rfl <;> cases hlast

theorem fileName?_normalize (h : path.fileName? = some name) :
    path.normalize.fileName? = some name := by
  rw [fileName?_eq_some_iff, getLast?_components_eq_name_iff, List.getLast?_eq_some_iff] at h
  obtain ⟨front, hinner⟩ := h
  rw [fileName?_eq_some_iff, components_normalize, normalComponents_eq, hinner, List.foldl_append,
    List.getLast?_reverse]
  rfl

theorem fileName?_join (path : Path) (h : other.fileName? = some name) :
    (path.join other).fileName? = some name := by
  cases habsolute : other.isAbsolute with
  | true => rwa [join, if_pos habsolute]
  | false =>
      rw [fileName?_eq_some_iff, getLast?_components_eq_name_iff] at h ⊢
      rw [inner_join path habsolute, List.getLast?_append, h, Option.some_or]

/-- The name at the end of a path is that of what the path stands for. -/
theorem fileName?_resolve (cwd : Path) (h : path.fileName? = some name) :
    (resolve cwd path).fileName? = some name := by
  unfold resolve
  split_ifs
  · exact h
  · exact fileName?_normalize (fileName?_join cwd h)

theorem isName_of_fileName? (h : path.fileName? = some name) : IsName name := by
  rw [fileName?_eq_some_iff, getLast?_components_eq_name_iff] at h
  exact (isStep_of_mem_inner (List.mem_of_getLast? h)).1

theorem components_ne_nil (h : path.bytes ≠ []) : path.components ≠ [] := by
  obtain ⟨bytes⟩ := path
  obtain ⟨b, rest, rfl⟩ := List.exists_cons_of_ne_nil h
  cases habsolute : isAbsolute ⟨b :: rest⟩ with
  | true =>
      rw [components_of_isAbsolute habsolute]
      exact List.cons_ne_nil _ _
  | false =>
      have hb : b ≠ slash := by simpa [isAbsolute] using habsolute
      obtain ⟨first, more, hpieces⟩ : ∃ first more, pieces ⟨b :: rest⟩ = (b :: first) :: more := by
        obtain ⟨first, more, hsplit⟩ := List.exists_cons_of_ne_nil (List.splitOn_ne_nil slash rest)
        refine ⟨first, more, ?_⟩
        rw [pieces, List.splitOn_cons_eq_if_modifyHead, if_neg (mt beq_iff_eq.mp hb), hsplit,
          List.modifyHead_cons]
      by_cases hdot : b :: first = [dot]
      · simp [components, habsolute, hpieces, hdot]
      · -- The first piece is a step by itself.
        have hstep : ∃ step, Component.ofPiece? (b :: first) = some step := by
          unfold Component.ofPiece?
          rw [if_neg (by simpa using hdot)]
          split_ifs
          · exact ⟨_, rfl⟩
          · exact ⟨_, rfl⟩
        obtain ⟨step, hstep⟩ := hstep
        simp [components, habsolute, hpieces, hdot, hstep]

theorem components_eq_root (h : path.components.getLast? = some .root) :
    path.components = [.root] := by
  obtain ⟨start, hstart, hcomponents⟩ := exists_components_eq path
  rw [hcomponents, List.getLast?_append, Option.or_eq_some_iff] at h
  rcases h with hlast | ⟨hlast, hroot⟩
  · exact absurd (isStep_of_mem_inner (List.mem_of_getLast? hlast)).1 id
  · rw [hcomponents, List.getLast?_eq_none_iff.mp hlast, List.append_nil]
    rcases hstart with rfl | rfl | rfl
    · cases hroot
    · rfl
    · cases hroot

theorem fileName?_resolve_of_root (cwd : Path) (h : path.components.getLast? = some .root) :
    (resolve cwd path).fileName? = none := by
  have hroot := components_eq_root h
  have habsolute : path.isAbsolute = true := by
    rw [isAbsolute_iff_head?, hroot]
    rfl
  have hne : path.bytes ≠ [] := by
    intro hempty
    rw [isAbsolute, hempty] at habsolute
    cases habsolute
  rw [resolve, if_neg hne, join, if_pos habsolute, fileName?, components_normalize,
    normalComponents, hroot]
  rfl

/-- A path without a name at its end that stands for something with a name ends in a dot or in
two. -/
theorem getLast?_components_of_fileName?_eq_none (h : (resolve cwd path).fileName? = some name)
    (hnone : path.fileName? = none) :
    path.components.getLast? = some .here ∨ path.components.getLast? = some .up := by
  cases hlast : path.components.getLast? with
  | none =>
      have hempty : path.bytes = [] := by
        by_contra hne
        exact components_ne_nil hne (List.getLast?_eq_none_iff.mp hlast)
      rw [resolve, if_pos hempty, hnone] at h
      cases h
  | some last =>
      cases last with
      | here => exact .inl rfl
      | up => exact .inr rfl
      | name bytes =>
          rw [fileName?_eq_some_iff.mpr hlast] at hnone
          cases hnone
      | root =>
          rw [fileName?_resolve_of_root cwd hlast] at h
          cases h

end Path

/-! ## Names of bundles -/

/-- Every path of a directory ends in the directory's name, or in none. -/
theorem targetFileName_of_resolve {cwd path : Path} {name : Bytes} (pattern : String)
    (h : (Path.resolve cwd path).fileName? = some name) :
    path.fileName? = some name ∧ targetFileName pattern path = fillPattern pattern name.shown ∨
      path.fileName? = none ∧ targetFileName pattern path = fillPattern pattern "" := by
  rw [targetFileName_eq_fillPattern]
  cases hlast : path.fileName? with
  | none => exact .inr ⟨rfl, rfl⟩
  | some last =>
      rw [Path.fileName?_resolve cwd hlast] at h
      exact .inl ⟨h, by rw [Option.some.inj h]; rfl⟩

namespace Stage

variable {stage : Stage} {compiler : Compiler} {tree : FileTree} {cwd : Location}
  {files : List Path} {directory : Path} {completion : Completion files.length} {code : String}

/-- A module is written to its place, or the error names this place. -/
theorem result_buildToTarget_of_build
    (h : (stage.build compiler tree cwd files directory completion).result = .ok code) :
    (stage.buildToTarget compiler tree cwd files directory completion).2.result =
        .ok (stage.targetPath directory) ∨
      ∃ cause, (stage.buildToTarget compiler tree cwd files directory completion).2.result =
        .error (.unwritable (stage.targetPath directory) cause) := by
  unfold buildToTarget
  dsimp only
  rw [h]
  dsimp only
  split
  next => exact .inl rfl
  next cause _ => exact .inr ⟨cause, rfl⟩

/-- A bundle is written under its pattern, filled with the name of the directory, exactly if the
directory's path ends in that name or the pattern has no place for it. Otherwise the path ends in a
dot or in two, and the places stay empty. Two paths of one directory give the bundle the same name
if both end in the directory's name, or neither does. -/
theorem buildToTarget_names_bundle (stage : Stage) (cwd : Location) (directory : Path)
    {name : Bytes}
    (h : (Path.resolve (Location.toPath cwd) directory).fileName? = some name) :
    let pattern := stage.options.targetPattern
    let bundle (path : Path) := targetFileName pattern path
    (∀ (compiler : Compiler) (tree : FileTree) (files : List Path)
      (completion : Completion files.length) (code : String),
      (stage.build compiler tree cwd files directory completion).result = .ok code →
      let target := directory.join (Path.ofText (bundle directory))
      let result := (stage.buildToTarget compiler tree cwd files directory completion).2.result
      result = .ok target ∨ ∃ cause, result = .error (.unwritable target cause)) ∧
    (directory.fileName? = some name ∧ bundle directory = fillPattern pattern name.shown ∨
      (directory.components.getLast? = some .here ∨ directory.components.getLast? = some .up) ∧
        bundle directory = fillPattern pattern "") ∧
    (bundle directory = fillPattern pattern name.shown ↔
      directory.fileName? = some name ∨ '?' ∉ pattern.toList) ∧
    ∀ other : Path,
      Path.resolve (Location.toPath cwd) other = Path.resolve (Location.toPath cwd) directory →
      (bundle other = bundle directory ↔
        other.fileName? = directory.fileName? ∨ '?' ∉ pattern.toList) := by
  intro pattern bundle
  have hshown : name.shown ≠ "" := fun hempty =>
    (Path.isName_of_fileName? h).ne_nil (shown_eq_empty_iff.mp hempty)
  have hfilled := fillPattern_eq_empty_iff pattern hshown
  have hempty : fillPattern pattern "" = fillPattern pattern name.shown ↔ '?' ∉ pattern.toList :=
    eq_comm.trans hfilled
  have hcases := targetFileName_of_resolve pattern h
  refine ⟨fun _ _ _ _ _ hbuild => result_buildToTarget_of_build hbuild, ?_, ?_, ?_⟩
  · refine hcases.imp_right fun ⟨hnone, hbundle⟩ => ⟨?_, hbundle⟩
    exact Path.getLast?_components_of_fileName?_eq_none h hnone
  · rcases hcases with ⟨hname, hbundle⟩ | ⟨hnone, hbundle⟩
    · simp [bundle, hname, hbundle]
    · simpa [bundle, hnone, hbundle] using hempty
  · intro other hother
    have hresolved : (Path.resolve (Location.toPath cwd) other).fileName? = some name := by
      rw [hother, h]
    have hcases' := targetFileName_of_resolve pattern hresolved
    rcases hcases with ⟨hname, hbundle⟩ | ⟨hnone, hbundle⟩
    · rcases hcases' with ⟨hname', hbundle'⟩ | ⟨hnone', hbundle'⟩
      · simp [bundle, hname, hname', hbundle, hbundle']
      · simpa [bundle, hname, hnone', hbundle, hbundle'] using hempty
    · rcases hcases' with ⟨hname', hbundle'⟩ | ⟨hnone', hbundle'⟩
      · simpa [bundle, hnone, hname', hbundle, hbundle'] using hfilled
      · simp [bundle, hnone, hnone', hbundle, hbundle']

/-- The directory is spelled with a detour and a dot that counts for nothing, and a question mark in
its own name is none of the pattern's. -/
theorem buildToTarget_names_bundle_behind_detour :
    let cwd : Location := [ofText "p"]
    let directory := Path.ofText "x/../q?/."
    let other := Path.ofText "/p/.//q?/"
    let stage : Stage := { options := { target := some "?-?.js" }, root := Path.ofText "/p" }
    let tree : FileTree := ⟨[(cwd, .directory), (cwd ++ [ofText "x"], .directory),
      (cwd ++ [ofText "q?"], .directory)]⟩
    let compiler : Compiler := fun _ => .ok "code"
    (Path.resolve (Location.toPath cwd) directory).fileName? = some (ofText "q?") ∧
      Path.resolve (Location.toPath cwd) other = Path.resolve (Location.toPath cwd) directory ∧
      targetFileName "?-?.js" directory = "q?-q?.js" ∧
      targetFileName "?-?.js" other = targetFileName "?-?.js" directory ∧
      (stage.buildToTarget compiler tree cwd [] directory).2.result =
        .ok (Path.ofText "x/../q?/./q?-q?.js") := by
  intro cwd directory other stage tree compiler
  have hname : (Path.resolve (Location.toPath cwd) directory).fileName? = some (ofText "q?") := by
    decide
  have hsame : Path.resolve (Location.toPath cwd) other =
      Path.resolve (Location.toPath cwd) directory := by decide
  obtain ⟨hwrite, -, hfilled, hother⟩ := buildToTarget_names_bundle stage cwd directory hname
  have hbundle : targetFileName "?-?.js" directory = "q?-q?.js" := by
    have hfill : fillPattern "?-?.js" (ofText "q?").shown = "q?-q?.js" := by
      rw [shown_ofText]
      decide
    exact (hfilled.mpr (.inl (by decide))).trans hfill
  refine ⟨hname, hsame, hbundle, (hother other hsame).mpr (.inl (by decide)), ?_⟩
  obtain ⟨code, hcode⟩ : ∃ code, (stage.build compiler tree cwd [] directory).result = .ok code :=
    ⟨_, rfl⟩
  have hplace : tree.locateTarget cwd (stage.targetPath directory) =
      .ok (cwd ++ [ofText "q?", ofText "q?-q?.js"]) := by decide
  obtain ⟨path, hpath⟩ : ∃ path,
      (stage.buildToTarget compiler tree cwd [] directory).2.result = .ok path :=
    exists_result_buildToTarget_iff.mpr ⟨⟨code, hcode⟩, _, hplace, by decide⟩
  rcases hwrite compiler tree [] (.inOrder _) code hcode with hok | ⟨cause, hcause⟩
  · rw [hok]
    decide
  · rw [hpath] at hcause
    cases hcause

/-- In the directory `p` the bundle has the name of a hidden file if the directory is spelled as a
dot. -/
theorem buildToTarget_drops_name_at_dot :
    let cwd : Location := [ofText "p"]
    let here := Path.ofText "."
    let directory := Path.ofText "/p"
    let stage : Stage := { options := {}, root := directory }
    let tree : FileTree := ⟨[(cwd, .directory)]⟩
    let run (directory : Path) := stage.buildToTarget (fun _ => .ok "code") tree cwd [] directory
    Path.resolve (Location.toPath cwd) here = directory ∧
      Path.resolve (Location.toPath cwd) directory = directory ∧
      directory.fileName? = some (ofText "p") ∧
      fillPattern stage.options.targetPattern "p" = "p.xjst.js" ∧
      (run directory).2.result = .ok (directory.join (Path.ofText "p.xjst.js")) ∧
      (run here).2.result = .ok (here.join (Path.ofText ".xjst.js")) ∧
      (run here).2.result ≠ .ok (here.join (Path.ofText "p.xjst.js")) ∧
      FileTree.entry? (run here).1 (cwd ++ [ofText "p.xjst.js"]) = none ∧
      (FileTree.entry? (run here).1 (cwd ++ [ofText ".xjst.js"])).isSome := by
  decide +kernel

end Stage

end TemplateBundler
