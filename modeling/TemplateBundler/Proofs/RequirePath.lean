import TemplateBundler.Bundle
import TemplateBundler.Proofs.Path

/-! # What a relative library's path stands for

A library whose name is a relative path is asked for by the normal form of that path, taken from
the directory of the bundle. This finds the library if the directory is absolute and there is no
backslash in the path. Where the directory is relative so is the path, and unless it climbs
nothing marks it as one: a module loader takes it for the name of a package.
-/

namespace TemplateBundler.Bundle

open Bytes

variable {dir name text : String} {dirname : Path}

/-- The file that a relative library's name stands for. -/
def libraryPath (dirname : Path) (name : String) : Path :=
  (dirname.join (Path.ofText name)).normalize

/-- A module loader that is asked for `path` by a module in this directory finds the library, either
by its absolute path or by one that is marked as relative to the module. -/
def Designates (dirname : Path) (name path : String) : Prop :=
  (Path.ofText path).isAbsolute = true ∧ Path.ofText path = libraryPath dirname name ∨
    isRelative path = true ∧ libraryPath dirname path = libraryPath dirname name

/-- The byte for which a slash is put. -/
def backslash : UInt8 := 0x5C

/-- The text with slashes only. -/
def slashed (text : String) : String := text.map fun c => if c = '\\' then '/' else c

/-! ## Slashes and backslashes -/

theorem slashed_toList (text : String) :
    (slashed text).toList = text.toList.map fun c => if c = '\\' then '/' else c :=
  String.toList_map

theorem backslash_notMem_slashed (text : String) : '\\' ∉ (slashed text).toList := by
  rw [slashed_toList, List.mem_map]
  rintro ⟨c, -, hc⟩
  split_ifs at hc with hback
  · cases hc
  · exact hback hc

theorem slashed_eq_self_iff : slashed text = text ↔ '\\' ∉ text.toList := by
  constructor
  · intro h
    rw [← h]
    exact backslash_notMem_slashed text
  · intro h
    rw [← String.toList_inj, slashed_toList]
    exact (List.map_congr_left fun c hc => if_neg (ne_of_mem_of_not_mem hc h)).trans (List.map_id _)

theorem isAbsolute_slashed (h : (Path.ofText text).isAbsolute) :
    (Path.ofText (slashed text)).isAbsolute := by
  rw [Path.isAbsolute_ofText_iff] at h ⊢
  rw [slashed_toList, List.head?_map, h]
  rfl

/-! ## Relative names -/

theorem isRelative_iff : isRelative text ↔
    ∃ rest, text.toList = '.' :: '/' :: rest ∨ text.toList = '.' :: '.' :: '/' :: rest := by
  unfold isRelative
  split
  next rest h => simp [h]
  next rest h => simp [h]
  next hdot hdots =>
    refine iff_of_false Bool.false_ne_true ?_
    rintro ⟨rest, h | h⟩
    · exact hdot rest h
    · exact hdots rest h

theorem isAbsolute_of_isRelative (h : isRelative name) : (Path.ofText name).isAbsolute = false := by
  obtain ⟨rest, hrest⟩ := isRelative_iff.mp h
  rw [Bool.eq_false_iff, ne_eq, Path.isAbsolute_ofText_iff]
  rcases hrest with hrest | hrest <;> simp [hrest]

/-- A relative path opens with the directory itself or with a step up. -/
theorem head?_components_of_isRelative (h : isRelative text) :
    (Path.ofText text).components.head? = some .here ∨
      (Path.ofText text).components.head? = some .up := by
  have habsolute := isAbsolute_of_isRelative h
  obtain ⟨rest, hrest | hrest⟩ := isRelative_iff.mp h
  · left
    have hpieces := Path.pieces_ofText (show text.toList = ['.'] ++ '/' :: rest from hrest)
      (by decide)
    have hdot : ofText (String.ofList ['.']) = [Path.dot] := by decide
    simp [Path.components, habsolute, hpieces, hdot]
  · right
    have hpieces := Path.pieces_ofText (show text.toList = ['.', '.'] ++ '/' :: rest from hrest)
      (by decide)
    have hdots : ofText (String.ofList ['.', '.']) = [Path.dot, Path.dot] := by decide
    simp [Path.components, habsolute, hpieces, hdots, Path.Component.ofPiece?]

/-! ## Paths of libraries -/

theorem isAbsolute_libraryPath (dirname : Path) (h : isRelative name) :
    (libraryPath dirname name).isAbsolute = dirname.isAbsolute := by
  rw [libraryPath, Path.isAbsolute_normalize, Path.isAbsolute_join _ (isAbsolute_of_isRelative h)]

theorem requirePath_eq_slashed (dirname : Path) (h : isRelative name) :
    requirePath dirname name = slashed (libraryPath dirname name).shown := by
  unfold requirePath
  rw [if_pos h]
  rfl

/-- The path of a relative library is a text, and it is asked for with slashes only. -/
theorem exists_requirePath_eq (dir : String) (h : isRelative name) :
    ∃ text, libraryPath (Path.ofText dir) name = Path.ofText text ∧
      requirePath (Path.ofText dir) name = slashed text := by
  obtain ⟨text, htext⟩ : IsText (libraryPath (Path.ofText dir) name).bytes :=
    Path.isText_normalize (Path.isText_join (isText_ofText dir) (isText_ofText name))
  have hlibrary : libraryPath (Path.ofText dir) name = Path.ofText text := congrArg Path.mk htext
  refine ⟨text, hlibrary, ?_⟩
  rw [requirePath_eq_slashed _ h, hlibrary]
  exact congrArg slashed (shown_ofText text)

theorem ofText_slashed_eq_iff :
    Path.ofText (slashed text) = Path.ofText text ↔ backslash ∉ (Path.ofText text).bytes := by
  have hbytes : Path.ofText (slashed text) = Path.ofText text ↔ slashed text = text := by
    rw [Path.ofText, Path.ofText, Path.mk.injEq, ofText_inj]
  rw [hbytes, slashed_eq_self_iff, not_iff_not]
  exact (mem_ofText_iff (c := '\\') (by decide)).symm

/-- A library's path that reads as a relative one climbs: it never opens with a single dot. -/
theorem head?_components_libraryPath (h : isRelative text)
    (htext : libraryPath dirname name = Path.ofText text) :
    (libraryPath dirname name).components.head? = some .up := by
  have hhere : (libraryPath dirname name).components.head? ≠ some .here := by
    intro hhead
    rw [libraryPath, Path.components_normalize] at hhead
    rcases Path.mem_of_mem_normalComponents (List.mem_of_head? hhead) with hroot | hinner
    · cases hroot
    · exact (Path.isStep_of_mem_inner hinner).1
  rw [htext] at hhere ⊢
  exact (head?_components_of_isRelative h).resolve_left hhere

/-- A relative library is asked for by its path, taken from the directory of the bundle. Where that
directory is absolute, the path leads to the library exactly if there is no backslash in it. Where
it is relative, the path is one from wherever the bundler ran: unless it climbs, nothing marks it
as relative, and the library is not found. -/
theorem requirePath_designates (dir name : String) (hrelative : isRelative name) :
    ((Path.ofText dir).isAbsolute = true →
      (Designates (Path.ofText dir) name (requirePath (Path.ofText dir) name) ↔
        backslash ∉ (libraryPath (Path.ofText dir) name).bytes)) ∧
    ((Path.ofText dir).isAbsolute = false →
      backslash ∉ (libraryPath (Path.ofText dir) name).bytes →
      Path.ofText (requirePath (Path.ofText dir) name) = libraryPath (Path.ofText dir) name ∧
      (libraryPath (Path.ofText dir) name).isAbsolute = false ∧
      ((libraryPath (Path.ofText dir) name).components.head? ≠ some .up →
        isRelative (requirePath (Path.ofText dir) name) = false ∧
        ¬ Designates (Path.ofText dir) name (requirePath (Path.ofText dir) name))) := by
  obtain ⟨text, htarget, hpath⟩ := exists_requirePath_eq dir hrelative
  have habsolute := isAbsolute_libraryPath (Path.ofText dir) hrelative
  rw [hpath]
  constructor
  · intro hdir
    rw [hdir] at habsolute
    rw [Designates, htarget, ← ofText_slashed_eq_iff]
    constructor
    · rintro (⟨-, heq⟩ | ⟨hrel, -⟩)
      · exact heq
      -- The path is absolute, and so it is none that is marked as relative.
      · rw [htarget] at habsolute
        have hslashed := isAbsolute_slashed habsolute
        rw [isAbsolute_of_isRelative hrel] at hslashed
        cases hslashed
    · intro heq
      exact .inl ⟨by rw [heq, ← htarget, habsolute], heq⟩
  · intro hdir hback
    rw [hdir] at habsolute
    have heq : Path.ofText (slashed text) = libraryPath (Path.ofText dir) name := by
      rw [htarget] at hback ⊢
      exact ofText_slashed_eq_iff.mpr hback
    refine ⟨heq, habsolute, fun hclimb => ?_⟩
    have hbare : isRelative (slashed text) = false := by
      by_contra hrel
      exact hclimb (head?_components_libraryPath (by simpa using hrel) heq.symm)
    refine ⟨hbare, ?_⟩
    rintro (⟨hslash, -⟩ | ⟨hrel, -⟩)
    · rw [heq, habsolute] at hslash
      cases hslash
    · rw [hbare] at hrel
      cases hrel

theorem requirePath_designates_beside_absolute :
    Designates (Path.ofText "/d/out") "../lib/x"
      (requirePath (Path.ofText "/d/out") "../lib/x") :=
  ((requirePath_designates "/d/out" "../lib/x" (by decide)).1 (by decide)).mpr (by decide)

theorem not_designates_in_relative :
    ¬ Designates (Path.ofText "out") "./x" (requirePath (Path.ofText "out") "./x") := by
  have hpath : requirePath (Path.ofText "out") "./x" = "out/x" := by
    have htarget : (libraryPath (Path.ofText "out") "./x").shown = "out/x" := by decide
    rw [requirePath_eq_slashed _ (by decide), htarget, slashed_eq_self_iff]
    decide
  rw [hpath]
  rintro (⟨habsolute, -⟩ | ⟨hrelative, -⟩)
  · exact absurd habsolute (by decide)
  · exact absurd hrelative (by decide)

end TemplateBundler.Bundle
