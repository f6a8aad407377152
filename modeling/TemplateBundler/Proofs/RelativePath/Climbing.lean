import TemplateBundler.Proofs.RelativePath

/-! # Paths relative to a root that climbs

The normal form of a relative path may begin with steps up. No path undoes them once it is joined
on, so from a root that climbs further than the target no way leads there. From any other root
the way climbs by names only, as it does between absolute paths, and reaches the target.

Where no way leads, the target stands for itself, but only if something of it is left beyond what
it shares with the root. If nothing is, as for `.` seen from `..`, the way climbs out of the root
regardless and ends somewhere else.
-/

namespace TemplateBundler.Path

variable {root target other : Path} {common rest reduced up down : List Component} {height : Nat}

/-! ## Fronts of relative normal forms -/

/-- A relative normal form that is cut has a normal form in front of the cut, and only names behind
it unless the cut is among the steps up. -/
theorem IsNormal.cut (h : IsNormal false (common ++ rest)) : IsNormal false common ∧
    ((∃ names : List Bytes, rest = names.map .name) ∨
      rest.head? = some .up ∧ common = List.replicate common.length .up) := by
  obtain ⟨height, names, hnames, hcut⟩ := h
  rw [if_neg Bool.false_ne_true, List.append_eq_append_iff] at hcut
  rcases hcut with ⟨ups, hups, rfl⟩ | ⟨front, rfl, hfront⟩
  · obtain ⟨-, hcommon, hclimb⟩ := List.append_eq_replicate_iff.mp hups.symm
    refine ⟨⟨common.length, [], by simp, by simpa using hcommon⟩, ?_⟩
    cases ups with
    | nil => exact .inl ⟨names, rfl⟩
    | cons first ups =>
        rw [List.length_cons, List.replicate_succ, List.cons.injEq] at hclimb
        exact .inr ⟨by rw [hclimb.1]; rfl, hcommon⟩
  · obtain ⟨before, after, rfl, rfl, rfl⟩ := List.map_eq_append_iff.mp hfront
    exact ⟨⟨height, before, fun name hname => hnames name (by simp [hname]), rfl⟩,
      .inl ⟨after, rfl⟩⟩

/-! ## Steps up that stay -/

/-- Steps up at the front of a normal form are never undone. -/
theorem isPrefix_reduce (h : List.replicate height .up <+: reduced.reverse) (step : Component) :
    List.replicate height .up <+: (reduce reduced step).reverse := by
  have hpush : ∀ component, List.replicate height .up <+: (component :: reduced).reverse :=
    fun component => h.trans (by simp)
  cases step with
  | here => exact h
  | root | name => exact hpush _
  | up =>
      simp only [reduce]
      split
      next name rest =>
        rw [List.reverse_cons, List.prefix_concat_iff] at h
        refine h.resolve_left fun hup => ?_
        have hname : Component.name name ∈ List.replicate height .up := by simp [hup]
        cases List.eq_of_mem_replicate hname
      next => exact h
      next => exact hpush _

theorem isPrefix_foldl_reduce (h : List.replicate height .up <+: reduced.reverse)
    (steps : List Component) :
    List.replicate height .up <+: (steps.foldl reduce reduced).reverse := by
  induction steps generalizing reduced with
  | nil => exact h
  | cons step steps ih => exact ih (isPrefix_reduce h step)

/-- Whatever is joined to a path that climbs, the whole climbs as far. -/
theorem isPrefix_normalComponents_join (h : List.replicate height .up <+: root.normalComponents)
    (hother : other.isAbsolute = false) :
    List.replicate height .up <+: (root.join other).normalComponents := by
  rw [normalComponents_join root hother]
  exact isPrefix_foldl_reduce (by rwa [List.reverse_reverse]) other.inner

/-- A root that climbs where the target does not leads nowhere that the target leads. -/
theorem normalize_join_ne (htarget : target.isAbsolute = false)
    (hclimb : List.replicate height .up <+: root.normalComponents)
    (hstay : ¬ List.replicate height .up <+: target.normalComponents) (other : Path) :
    (root.join other).normalize ≠ target.normalize := by
  intro heq
  cases hother : other.isAbsolute with
  | true =>
      have habsolute := congrArg isAbsolute heq
      rw [join, if_pos hother, isAbsolute_normalize, isAbsolute_normalize, hother, htarget]
        at habsolute
      cases habsolute
  | false =>
      have hnormal := congrArg components heq
      rw [components_normalize, components_normalize] at hnormal
      exact hstay (hnormal ▸ isPrefix_normalComponents_join hclimb hother)

/-! ## The way from one relative path to another -/

/-- A way out of the steps up of the source is given only where nothing is left of the target. -/
theorem steps?_of_climb {source target : List Component}
    (hdrop : dropCommon source target = (up, down)) (hup : up.head? = some .up) :
    steps? source target = if down = [] then some (List.replicate up.length .up) else none := by
  obtain ⟨up, rfl⟩ := List.head?_eq_some_iff.mp hup
  rw [steps?, hdrop, ← List.map_const']
  cases down <;> rfl

/-- The normal forms of two relative paths share `common` and part behind it. -/
structure Parts (root target : Path) (common up down : List Component) : Prop where
  root_relative : root.isAbsolute = false
  target_relative : target.isAbsolute = false
  root_eq : root.normalComponents = common ++ up
  target_eq : target.normalComponents = common ++ down
  heads_ne : ∀ step, up.head? = some step → down.head? ≠ some step
  dropCommon_eq : dropCommon root.normalComponents target.normalComponents = (up, down)

theorem exists_parts (hroot : root.isAbsolute = false) (htarget : target.isAbsolute = false) :
    ∃ common up down, Parts root target common up down := by
  obtain ⟨common, up, down, hsource, hnormal, hheads, hdrop⟩ :=
    exists_dropCommon root.normalComponents target.normalComponents
  exact ⟨common, up, down, hroot, htarget, hsource, hnormal, hheads, hdrop⟩

namespace Parts

variable (h : Parts root target common up down)
include h

theorem isNormal_root : IsNormal false (common ++ up) := by
  rw [← h.root_eq, ← h.root_relative]
  exact isNormal_normalComponents root

theorem isNormal_target : IsNormal false (common ++ down) := by
  rw [← h.target_eq, ← h.target_relative]
  exact isNormal_normalComponents target

theorem relativeTo_eq : relativeTo root target =
    ((steps? root.normalComponents target.normalComponents).map ofComponents).getD target :=
  Path.relativeTo_eq (h.root_relative.trans h.target_relative.symm)

/-- A root that does not climb beyond the common front is left by names, and the target reached. -/
theorem leads_of_notMem (hclimb : .up ∉ up) :
    (relativeTo root target).components = List.replicate up.length .up ++ down ∧
      (root.join (relativeTo root target)).normalize = target.normalize := by
  obtain ⟨hcommon, ⟨names, rfl⟩ | ⟨hhead, -⟩⟩ := h.isNormal_root.cut
  · have hsteps : ∀ step ∈ List.replicate (names.map Component.name).length .up ++ down,
        step.IsStep := by
      intro step hstep
      rcases List.mem_append.mp hstep with hup | hdown
      · rw [List.eq_of_mem_replicate hup]
        trivial
      · obtain ⟨height, names, hnames, heq⟩ := h.isNormal_target
        exact isStep_of_mem_way hnames step (heq ▸ List.mem_append_right _ hdown)
    have hdown := h.isNormal_target.foldl_reduce
    rw [List.foldl_append, hcommon.foldl_reduce] at hdown
    rw [h.relativeTo_eq, steps?_eq_some h.dropCommon_eq (by simp)]
    refine ⟨components_written hsteps, (normalize_join_ofComponents hsteps ?_).2⟩
    rw [h.root_eq, h.target_eq, List.foldl_append, List.length_map, List.reverse_append,
      foldl_reduce_replicate_up, hdown]
  · exact absurd (List.mem_of_head? hhead) hclimb

/-- A root that climbs beyond the common front leads nowhere that the target leads. -/
theorem stays_of_mem (hclimb : .up ∈ up) :
    (∀ other : Path, (root.join other).normalize ≠ target.normalize) ∧
      relativeTo root target =
        if down = [] then ofComponents (List.replicate up.length .up) else target := by
  obtain ⟨-, ⟨names, rfl⟩ | ⟨hhead, hups⟩⟩ := h.isNormal_root.cut
  · simp at hclimb
  · -- One step up beyond the common front, the root has climbed further than the target.
    have hfront : List.replicate (common.length + 1) .up = common ++ [.up] := by
      rw [List.replicate_succ', ← hups]
    constructor
    · refine normalize_join_ne h.target_relative
        (?_ : List.replicate (common.length + 1) Component.up <+: _) ?_
      · rw [hfront, h.root_eq, List.prefix_append_right_inj]
        obtain ⟨rest, rfl⟩ := List.head?_eq_some_iff.mp hhead
        exact ⟨rest, rfl⟩
      · rw [hfront, h.target_eq, List.prefix_append_right_inj]
        rintro ⟨rest, rfl⟩
        exact h.heads_ne .up hhead rfl
    · rw [h.relativeTo_eq, steps?_of_climb h.dropCommon_eq hhead]
      split_ifs <;> rfl

end Parts

/-- Between relative paths the way leads to the target if what the root has beyond the longest
common front does not climb. If it does, nothing leads from the root to the target. The target then
stands for itself, except where all of it is in the common front: what is given there is one step
up for each component that the root has beyond it. -/
theorem relativeTo_between_relative (hroot : root.isAbsolute = false)
    (htarget : target.isAbsolute = false) :
    ∃ common up down, root.normalize.components = common ++ up ∧
      target.normalize.components = common ++ down ∧
      (∀ front, front <+: root.normalize.components → front <+: target.normalize.components →
        front <+: common) ∧
      (.up ∉ up →
        (relativeTo root target).components = List.replicate up.length .up ++ down ∧
        (root.join (relativeTo root target)).normalize = target.normalize) ∧
      (.up ∈ up →
        (∀ other : Path, (root.join other).normalize ≠ target.normalize) ∧
        relativeTo root target =
          if down = [] then ofComponents (List.replicate up.length .up) else target) := by
  obtain ⟨common, up, down, h⟩ := exists_parts hroot htarget
  rw [components_normalize, components_normalize]
  refine ⟨common, up, down, h.root_eq, h.target_eq, fun front hup hdown => ?_, h.leads_of_notMem,
    h.stays_of_mem⟩
  exact isPrefix_of_heads_ne h.heads_ne (h.root_eq ▸ hup) (h.target_eq ▸ hdown)

/-- A target below the parent of a root that climbs twice is given as it is spelled. -/
theorem relativeTo_between_relative_of_climb :
    let root := Path.ofText "../../x"
    let target := Path.ofText ".././/q"
    root.isAbsolute = false ∧ target.isAbsolute = false ∧ relativeTo root target = target ∧
      ∀ other : Path, (root.join other).normalize ≠ target.normalize := by
  intro root target
  have hroot : root.isAbsolute = false := by decide
  have htarget : target.isAbsolute = false := by decide
  obtain ⟨common, up, down, hsource, hnormal, -, -, hstays⟩ :=
    relativeTo_between_relative hroot htarget
  have hsource' : root.normalize.components = [.up, .up, .name (Bytes.ofText "x")] := by decide
  have hnormal' : target.normalize.components = [.up, .name (Bytes.ofText "q")] := by decide
  have hparts : .up ∈ up ∧ down ≠ [] := by
    rw [hsource'] at hsource
    rw [hnormal'] at hnormal
    rcases common with _ | ⟨first, _ | ⟨second, common⟩⟩
    · cases hsource
      cases hnormal
      simp
    · cases hsource
      cases hnormal
      simp
    · obtain ⟨-, rfl, -⟩ : _ ∧ _ ∧ _ := by simpa using hsource
      simp at hnormal
  obtain ⟨hnowhere, hsame⟩ := hstays hparts.1
  exact ⟨hroot, htarget, hsame.trans (if_neg hparts.2), hnowhere⟩

/-- Seen from its parent, the directory itself is neither led to nor given as it is spelled. -/
theorem not_relativeTo_eq_of_climb :
    let root := Path.ofText ".."
    let target := Path.ofText "."
    root.isAbsolute = false ∧ target.isAbsolute = false ∧
      root.normalize.components = [.up] ∧ target.normalize.components = [] ∧
      relativeTo root target = Path.ofText ".." ∧ relativeTo root target ≠ target ∧
      (root.join (relativeTo root target)).normalize ≠ target.normalize := by
  decide

end TemplateBundler.Path
