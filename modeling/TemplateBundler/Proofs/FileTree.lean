import TemplateBundler.FileTree
import TemplateBundler.Proofs.Except
import TemplateBundler.Proofs.Text.Decoding

/-! # Reading and writing files

A file is read as a text exactly if its bytes are UTF-8. Writing a file changes what stands at one
place and nothing else. No way that one could walk before is blocked by it, since a file is never
written over a directory, and so the path that was written can be read again and gives what was
written.
-/

namespace TemplateBundler.FileTree

open Bytes

variable {tree after : FileTree} {cwd location other origin : Location} {path : Path}
  {entry : Entry} {text : String} {content piece : Bytes} {pieces : List Bytes}

/-! ## Reading -/

theorem readText_eq_ok_iff :
    tree.readText cwd path = .ok text ↔ tree.read cwd path = .ok (ofText text) := by
  rw [readText, bind_eq_ok_iff]
  constructor
  · rintro ⟨bytes, hread, htext⟩
    cases hsome : bytes.text? with
    | none =>
        rw [hsome] at htext
        cases htext
    | some shown =>
        rw [hsome] at htext
        rw [hread, text?_eq_some_iff.mp hsome, Except.ok.inj htext]
  · intro hread
    refine ⟨ofText text, hread, ?_⟩
    rw [text?_eq_some_iff.mpr rfl]
    rfl

theorem bytes_ne_nil_of_checkPath (h : checkPath path = .ok ()) : path.bytes ≠ [] := by
  unfold checkPath at h
  split_ifs at h with _ hempty
  exact hempty

/-- There is no file without a path. -/
theorem bytes_ne_nil_of_read (h : tree.read cwd path = .ok content) : path.bytes ≠ [] := by
  obtain ⟨_, hfind, -⟩ := bind_eq_ok_iff.mp h
  obtain ⟨_, hlocate, -⟩ := bind_eq_ok_iff.mp hfind
  obtain ⟨_, hcheck, -⟩ := bind_eq_ok_iff.mp hlocate
  exact bytes_ne_nil_of_checkPath hcheck

/-! ## Entries -/

section Lookup

variable {entries : List (Location × Entry)}

theorem lookup_overwrite_self (h : entries.any (·.1 == location)) :
    (entries.map fun e => if e.1 = location then (location, entry) else e).lookup location =
      some entry := by
  induction entries with
  | nil => cases h
  | cons first entries ih =>
      rw [List.map_cons]
      by_cases hfirst : first.1 = location
      · rw [if_pos hfirst, List.lookup_cons_self]
      · have hrest : entries.any (·.1 == location) := by
          rwa [List.any_cons, beq_eq_false_iff_ne.mpr hfirst, Bool.false_or] at h
        rw [if_neg hfirst, List.lookup_cons, beq_eq_false_iff_ne.mpr (Ne.symm hfirst)]
        exact ih hrest

theorem lookup_overwrite_of_ne (hother : other ≠ location) :
    (entries.map fun e => if e.1 = location then (location, entry) else e).lookup other =
      entries.lookup other := by
  induction entries with
  | nil => rfl
  | cons first entries ih =>
      rw [List.map_cons, List.lookup_cons, List.lookup_cons, ih]
      by_cases hfirst : first.1 = location
      · rw [if_pos hfirst, hfirst, beq_eq_false_iff_ne.mpr hother]
      · rw [if_neg hfirst]

end Lookup

theorem entry?_insert_self (hne : location ≠ []) (entry : Entry) (tree : FileTree) :
    entry? (tree.insert location entry) location = some entry := by
  unfold entry? insert
  rw [if_neg hne]
  split_ifs with hlisted
  · exact lookup_overwrite_self hlisted
  · have hnone : tree.entries.lookup location = none := by
      rw [List.lookup_eq_none_iff]
      intro e he
      rw [Bool.not_eq_true, List.any_eq_false] at hlisted
      exact bne_iff_ne.mpr fun heq => hlisted e he (beq_iff_eq.mpr heq.symm)
    rw [List.lookup_append, hnone, List.lookup_cons_self, Option.none_or]

theorem entry?_insert_of_ne (hother : other ≠ location) (entry : Entry) (tree : FileTree) :
    entry? (tree.insert location entry) other = tree.entry? other := by
  unfold entry?
  split_ifs with hroot
  · rfl
  · unfold insert
    split_ifs with hlisted
    · exact lookup_overwrite_of_ne hother
    · rw [List.lookup_append, List.lookup_cons, beq_eq_false_iff_ne.mpr hother, List.lookup_nil,
        Option.or_none]

/-! ## Ways through a tree -/

theorem checkDirectory_eq_ok_iff :
    tree.checkDirectory location = .ok () ↔ tree.entry? location = some .directory := by
  unfold checkDirectory
  split
  next h => simp [h]
  next h => simp [h]
  next h => simp [h]

/-- One step that could be taken can still be taken when something is put where no directory
was. -/
theorem step_insert (hplace : tree.entry? location ≠ some .directory) (entry : Entry)
    (h : tree.step origin piece = .ok other) :
    (tree.insert location entry).step origin piece = .ok other := by
  obtain ⟨_, hcheck, hstep⟩ := bind_eq_ok_iff.mp h
  have horigin := checkDirectory_eq_ok_iff.mp hcheck
  have hne : origin ≠ location := fun heq => hplace (heq ▸ horigin)
  refine bind_eq_ok_iff.mpr ⟨(), ?_, hstep⟩
  rw [checkDirectory_eq_ok_iff, entry?_insert_of_ne hne, horigin]

theorem foldlM_step_insert (hplace : tree.entry? location ≠ some .directory) (entry : Entry)
    (h : pieces.foldlM tree.step origin = .ok other) :
    pieces.foldlM (tree.insert location entry).step origin = .ok other := by
  induction pieces generalizing origin with
  | nil => exact h
  | cons piece pieces ih =>
      rw [List.foldlM_cons, bind_eq_ok_iff] at h ⊢
      obtain ⟨next, hstep, hrest⟩ := h
      exact ⟨next, step_insert hplace entry hstep, ih hrest⟩

theorem locate_insert (hplace : tree.entry? location ≠ some .directory) (entry : Entry)
    (h : tree.locate cwd path = .ok other) :
    (tree.insert location entry).locate cwd path = .ok other := by
  obtain ⟨_, hcheck, hwalk⟩ := bind_eq_ok_iff.mp h
  exact bind_eq_ok_iff.mpr ⟨(), hcheck, foldlM_step_insert hplace entry hwalk⟩

/-! ## The place of a target -/

theorem getLast?_splitOn_eq_nil {b : UInt8} {bytes : Bytes}
    (h : (bytes.splitOn b).getLast? = some []) : bytes = [] ∨ bytes.getLast? = some b := by
  induction bytes with
  | nil => exact .inl rfl
  | cons a bytes ih =>
      right
      rw [List.splitOn_cons_eq_if_modifyHead] at h
      obtain ⟨first, pieces, hpieces⟩ := List.exists_cons_of_ne_nil (List.splitOn_ne_nil b bytes)
      rw [hpieces] at h ih
      split_ifs at h with hab
      · rw [List.getLast?_cons_cons] at h
        rcases ih h with rfl | hlast
        · rw [List.getLast?_singleton, beq_iff_eq.mp hab]
        · rw [List.getLast?_cons, hlast, Option.getD_some]
      · cases pieces with
        | nil => cases h
        | cons next pieces =>
            rcases ih h with rfl | hlast
            · cases hpieces
            · rw [List.getLast?_cons, hlast, Option.getD_some]

/-- Unless a path ends in a slash, its last piece is a name and none is trimmed. -/
theorem exists_trimPieces_eq (hne : path.bytes ≠ [])
    (hslash : path.bytes.getLast? ≠ some Path.slash) :
    ∃ front last, last ≠ [] ∧ path.pieces = front ++ [last] ∧
      trimPieces path = front ++ [last] := by
  obtain ⟨front, last, hpieces⟩ :=
    (List.eq_nil_or_concat path.pieces).resolve_left (List.splitOn_ne_nil _ _)
  rw [List.concat_eq_append] at hpieces
  have hlast : last ≠ [] := by
    rintro rfl
    have hend : path.pieces.getLast? = some [] := by rw [hpieces, List.getLast?_concat]
    exact (getLast?_splitOn_eq_nil hend).elim hne hslash
  refine ⟨front, last, hlast, hpieces, ?_⟩
  rw [trimPieces, hpieces, List.reverse_concat, List.dropWhile_cons_of_neg (by simpa using hlast),
    List.reverse_cons, List.reverse_reverse]

theorem ne_nil_of_enter {name : Bytes} (h : enter origin name = .ok location) :
    location ≠ [] := by
  unfold enter at h
  split_ifs at h
  rw [← Except.ok.inj h]
  exact List.append_ne_nil_of_right_ne_nil _ (List.cons_ne_nil _ _)

/-- A path that can be written leads to the same place when it is read. -/
theorem locate_of_locateTarget (h : tree.locateTarget cwd path = .ok location) :
    location ≠ [] ∧ tree.locate cwd path = .ok location := by
  obtain ⟨_, hcheck, h⟩ := bind_eq_ok_iff.mp h
  obtain ⟨directory, hwalk, h⟩ := bind_eq_ok_iff.mp h
  obtain ⟨_, hdirectory, h⟩ := bind_eq_ok_iff.mp h
  split at h
  next => cases h
  next name hname =>
    dsimp only at h
    split_ifs at h with hnot
    · cases h
    · simp only [Bool.or_eq_true, decide_eq_true_eq, not_or] at hnot
      obtain ⟨hslash, hdot, hdots⟩ := hnot
      obtain ⟨front, last, hlast, hpieces, htrim⟩ :=
        exists_trimPieces_eq (bytes_ne_nil_of_checkPath hcheck) hslash
      rw [htrim, List.dropLast_concat] at hwalk
      rw [htrim, List.getLast?_concat, Option.some_inj] at hname
      subst hname
      have hstep : tree.step directory last = .ok location := by
        refine bind_eq_ok_iff.mpr ⟨(), hdirectory, ?_⟩
        simpa [hlast, hdot, hdots] using h
      refine ⟨ne_nil_of_enter h, bind_eq_ok_iff.mpr ⟨(), hcheck, ?_⟩⟩
      rw [hpieces, List.foldlM_append]
      refine bind_eq_ok_iff.mpr ⟨directory, hwalk, ?_⟩
      rw [List.foldlM_cons]
      exact bind_eq_ok_iff.mpr ⟨location, hstep, rfl⟩

/-! ## Writing -/

/-- Whether a file can be written does not depend on what is to be written. -/
theorem exists_write_eq_ok_iff : (∃ after, tree.write cwd path content = .ok after) ↔
    ∃ location, tree.locateTarget cwd path = .ok location ∧
      tree.entry? location ≠ some .directory := by
  constructor
  · rintro ⟨after, h⟩
    obtain ⟨location, hlocation, hwrite⟩ := bind_eq_ok_iff.mp h
    refine ⟨location, hlocation, fun hplace => ?_⟩
    rw [hplace] at hwrite
    cases hwrite
  · rintro ⟨location, hlocation, hplace⟩
    cases hentry : tree.entry? location with
    | none => exact ⟨_, bind_eq_ok_iff.mpr ⟨location, hlocation, by rw [hentry]; rfl⟩⟩
    | some entry =>
        cases entry with
        | directory => exact absurd hentry hplace
        | file old executable =>
            exact ⟨_, bind_eq_ok_iff.mpr ⟨location, hlocation, by rw [hentry]; rfl⟩⟩

theorem exists_of_write (h : tree.write cwd path content = .ok after) :
    ∃ location executable, tree.locateTarget cwd path = .ok location ∧
      tree.entry? location ≠ some .directory ∧
      after = tree.insert location (.file content executable) := by
  obtain ⟨location, hlocation, hwrite⟩ := bind_eq_ok_iff.mp h
  split at hwrite
  next => cases hwrite
  next old executable hentry =>
    exact ⟨location, executable, hlocation, by simp [hentry], (Except.ok.inj hwrite).symm⟩
  next hentry =>
    exact ⟨location, none, hlocation, by simp [hentry], (Except.ok.inj hwrite).symm⟩

/-- What was written is read where it was written, and everywhere else stands what stood there
before. -/
theorem exists_place_of_write (h : tree.write cwd path content = .ok after) :
    ∃ location, tree.locateTarget cwd path = .ok location ∧
      after.read cwd path = .ok content ∧
      ∀ other, other ≠ location → after.entry? other = tree.entry? other := by
  obtain ⟨location, executable, htarget, hplace, rfl⟩ := exists_of_write h
  obtain ⟨hne, hlocate⟩ := locate_of_locateTarget htarget
  have hway := locate_insert hplace (.file content executable) hlocate
  refine ⟨location, htarget, ?_, fun other hother => entry?_insert_of_ne hother _ tree⟩
  have hfind : (tree.insert location (.file content executable)).find cwd path =
      .ok (.file content executable) := by
    refine bind_eq_ok_iff.mpr ⟨location, hway, ?_⟩
    rw [entry?_insert_self hne]
    rfl
  exact bind_eq_ok_iff.mpr ⟨_, hfind, rfl⟩

end TemplateBundler.FileTree
