import Mathlib.Data.List.Induction
import TemplateBundler.Proofs.Path

/-! # Paths relative to a root

The steps from one absolute path to another climb out of all that the two do not share and then
go down. Joined to the first path they lead to the second, and they still do when they are
written as a text that starts with a dot.
-/

namespace TemplateBundler.Path

open Bytes

variable {root target path other other' : Path}

/-! ## Joining relative paths -/

theorem inner_append_slash (front rest : Bytes) :
    inner ⟨front ++ slash :: rest⟩ = inner ⟨front⟩ ++ inner ⟨rest⟩ := by
  simp only [inner, pieces]
  rw [List.splitOn_append_cons_self, List.filterMap_append]

theorem inner_join (path : Path) (hother : other.isAbsolute = false) :
    (path.join other).inner = path.inner ++ other.inner := by
  have hempty : inner ⟨[]⟩ = [] := rfl
  obtain ⟨bytes⟩ := path
  simp only [join, hother, Bool.false_eq_true, if_false, Bool.or_eq_true, decide_eq_true_eq]
  split_ifs with hopen
  · rcases hopen with rfl | hslash
    · rw [hempty, List.nil_append, List.nil_append]
    · obtain ⟨front, rfl⟩ := List.getLast?_eq_some_iff.mp hslash
      rw [List.append_assoc, List.singleton_append, inner_append_slash, inner_append_slash, hempty,
        List.append_nil]
  · exact inner_append_slash bytes other.bytes

/-- A relative path is walked from the normal form of the path that it is joined to. -/
theorem normalComponents_join (path : Path) (hother : other.isAbsolute = false) :
    (path.join other).normalComponents =
      (other.inner.foldl reduce path.normalComponents.reverse).reverse := by
  rw [normalComponents_eq, normalComponents_eq path, isAbsolute_join path hother,
    inner_join path hother, List.foldl_append, List.reverse_reverse]

theorem normalize_join_congr (path : Path) (hother : other.isAbsolute = false)
    (hother' : other'.isAbsolute = false) (hinner : other.inner = other'.inner) :
    (path.join other).normalize = (path.join other').normalize := by
  rw [normalize, normalize, normalComponents_join path hother, normalComponents_join path hother',
    hinner]

/-! ## The way from one path to another -/

/-- Climbing out of the last names of a normal form leaves what was before them. -/
theorem foldl_reduce_replicate_up (names : List Bytes) (reduced : List Component) :
    (List.replicate names.length .up).foldl reduce ((names.map .name).reverse ++ reduced) =
      reduced := by
  induction names using List.reverseRecOn with
  | nil => rfl
  | append_singleton names last ih =>
      rw [List.length_append, List.length_singleton, List.replicate_succ, List.foldl_cons,
        List.map_append, List.reverse_append]
      exact ih

/-- Where neither rest begins as the other does, every front that the lists share is a front of what
was dropped. -/
theorem isPrefix_of_heads_ne {α : Type} {common up down front : List α}
    (hheads : ∀ x, up.head? = some x → down.head? ≠ some x) (hup : front <+: common ++ up)
    (hdown : front <+: common ++ down) : front <+: common := by
  induction common generalizing front with
  | nil =>
      cases front with
      | nil => exact List.nil_prefix
      | cons x front =>
          obtain ⟨rest, rfl⟩ := hup
          obtain ⟨rest', rfl⟩ := hdown
          exact absurd rfl (hheads x rfl)
  | cons y common ih =>
      cases front with
      | nil => exact List.nil_prefix
      | cons x front =>
          rw [List.cons_append, List.cons_prefix_cons] at hup hdown
          exact List.cons_prefix_cons.mpr ⟨hup.1, ih hup.2 hdown.2⟩

/-- What is dropped is the longest front that two lists share. -/
theorem exists_dropCommon (source target : List Component) : ∃ common up down,
    source = common ++ up ∧ target = common ++ down ∧
      (∀ step, up.head? = some step → down.head? ≠ some step) ∧
      dropCommon source target = (up, down) := by
  induction source generalizing target with
  | nil => exact ⟨[], [], target, rfl, rfl, by simp, by cases target <;> rfl⟩
  | cons first source ih =>
      cases target with
      | nil => exact ⟨[], first :: source, [], rfl, rfl, by simp, rfl⟩
      | cons first' target =>
          by_cases hfirst : first = first'
          · subst hfirst
            obtain ⟨common, up, down, rfl, rfl, hheads, hdrop⟩ := ih target
            exact ⟨first :: common, up, down, rfl, rfl, hheads, by simpa [dropCommon] using hdrop⟩
          · refine ⟨[], first :: source, first' :: target, rfl, rfl, ?_, by
              simp [dropCommon, hfirst]⟩
            rintro step ⟨⟩ heq
            exact hfirst (Option.some.inj heq).symm

/-- The way is known if what is left of the source does not climb itself. -/
theorem steps?_eq_some {source target up down : List Component}
    (hdrop : dropCommon source target = (up, down)) (hup : up.head? ≠ some .up) :
    steps? source target = some (List.replicate up.length .up ++ down) := by
  rw [steps?, hdrop, ← List.map_const']
  cases down with
  | nil => simp
  | cons next down =>
      cases up with
      | nil => rfl
      | cons step up =>
          cases step with
          | up => exact absurd rfl hup
          | root | here | name => rfl

/-- The way between absolute paths is always known: it climbs by names only. -/
theorem exists_steps? (source target : List Bytes) : ∃ common up down,
    source = common ++ up ∧ target = common ++ down ∧
      (∀ name, up.head? = some name → down.head? ≠ some name) ∧
      steps? (.root :: source.map .name) (.root :: target.map .name) =
        some (List.replicate up.length .up ++ down.map .name) := by
  obtain ⟨front, climbed, descended, hsource, htarget, hheads, hdrop⟩ :=
    exists_dropCommon (source.map .name) (target.map .name)
  obtain ⟨common, up, rfl, rfl, rfl⟩ := List.map_eq_append_iff.mp hsource
  obtain ⟨common', down, rfl, hcommon, rfl⟩ := List.map_eq_append_iff.mp htarget
  obtain rfl : common' = common :=
    (List.map_inj_right fun _ _ => Component.name.inj).mp hcommon
  have hroot : dropCommon (.root :: (common' ++ up).map .name)
      (.root :: (common' ++ down).map .name) = (up.map .name, down.map .name) := by
    rw [dropCommon, if_pos rfl, hdrop]
  refine ⟨common', up, down, rfl, rfl, fun name hup hdown => ?_, ?_⟩
  · exact hheads (.name name) (by rw [List.head?_map, hup]; rfl)
      (by rw [List.head?_map, hdown]; rfl)
  · rw [steps?_eq_some hroot (by simp), List.length_map]

theorem relativeTo_eq (h : root.isAbsolute = target.isAbsolute) : relativeTo root target =
    ((steps? root.normalComponents target.normalComponents).map ofComponents).getD target := by
  rw [relativeTo, h, bne_self_eq_false, if_neg Bool.false_ne_true]
  cases steps? root.normalComponents target.normalComponents <;> rfl

theorem exists_normalComponents (h : path.isAbsolute = true) : ∃ names : List Bytes,
    (∀ name ∈ names, IsName name) ∧ path.normalComponents = .root :: names.map .name := by
  obtain ⟨height, names, hnames, hnormal⟩ := isNormal_normalComponents path
  rw [h] at hnormal
  exact ⟨names, hnames, hnormal⟩

/-- The way between absolute paths, by the names of their normal forms. -/
theorem exists_way (hroot : root.isAbsolute = true) (htarget : target.isAbsolute = true) :
    ∃ common up down : List Bytes,
      root.normalComponents = .root :: (common ++ up).map .name ∧
      target.normalComponents = .root :: (common ++ down).map .name ∧
      (∀ name ∈ down, IsName name) ∧
      (∀ name, up.head? = some name → down.head? ≠ some name) ∧
      relativeTo root target = ofComponents (List.replicate up.length .up ++ down.map .name) := by
  obtain ⟨source, -, hsource⟩ := exists_normalComponents hroot
  obtain ⟨names, hnames, hnormal⟩ := exists_normalComponents htarget
  obtain ⟨common, up, down, rfl, rfl, hheads, hsteps⟩ := exists_steps? source names
  refine ⟨common, up, down, hsource, hnormal,
    fun name hname => hnames name (List.mem_append_right _ hname), hheads, ?_⟩
  rw [relativeTo_eq (hroot.trans htarget.symm), hsource, hnormal, hsteps]
  rfl

theorem isStep_of_mem_way {height : Nat} {down : List Bytes} (hdown : ∀ name ∈ down, IsName name) :
    ∀ step ∈ List.replicate height .up ++ down.map .name, Component.IsStep step := by
  intro step hstep
  rcases List.mem_append.mp hstep with hup | hdowned
  · obtain rfl := List.eq_of_mem_replicate hup
    trivial
  · obtain ⟨name, hname, rfl⟩ := List.mem_map.mp hdowned
    exact hdown name hname

/-- The relative form of an absolute path consists of steps. From the root they reach the normal
form of the path. -/
theorem exists_relativeTo (hroot : root.isAbsolute = true) (htarget : target.isAbsolute = true) :
    ∃ steps, relativeTo root target = ofComponents steps ∧
      (∀ step ∈ steps, step.IsStep ∧ (step = .up ∨ step ∈ target.normalComponents)) ∧
      steps.foldl reduce root.normalComponents.reverse = target.normalComponents.reverse := by
  obtain ⟨common, up, down, hsource, hnormal, hdown, -, hrelative⟩ := exists_way hroot htarget
  refine ⟨_, hrelative, fun step hstep => ⟨isStep_of_mem_way hdown step hstep, ?_⟩, ?_⟩
  · rcases List.mem_append.mp hstep with hup | hdowned
    · exact .inl (List.eq_of_mem_replicate hup)
    · rw [hnormal, List.map_append]
      exact .inr (List.mem_cons_of_mem _ (List.mem_append_right _ hdowned))
  · rw [hsource, hnormal, List.foldl_append, List.map_append, List.map_append, List.reverse_cons,
      List.reverse_cons, List.reverse_append, List.reverse_append, List.append_assoc,
      foldl_reduce_replicate_up, foldl_reduce_names, List.append_assoc]

/-- Steps that reach the normal form of a path from that of the root lead to the path when they are
written and joined to the root. -/
theorem normalize_join_ofComponents {steps : List Component} (hsteps : ∀ step ∈ steps, step.IsStep)
    (hwalk : steps.foldl reduce root.normalComponents.reverse = target.normalComponents.reverse) :
    (ofComponents steps).isAbsolute = false ∧
      (root.join (ofComponents steps)).normalize = target.normalize := by
  have hinner : (ofComponents steps).inner = steps := filterMap_splitOn_written hsteps
  refine ⟨isAbsolute_written hsteps, ?_⟩
  rw [normalize, normalComponents_join root (isAbsolute_written hsteps), hinner, hwalk,
    List.reverse_reverse]
  rfl

/-- The relative form of an absolute path, joined to the root, leads to that path. -/
theorem normalize_join_relativeTo (hroot : root.isAbsolute = true)
    (htarget : target.isAbsolute = true) :
    (relativeTo root target).isAbsolute = false ∧
      (root.join (relativeTo root target)).normalize = target.normalize := by
  obtain ⟨steps, hrelative, hsteps, hwalk⟩ := exists_relativeTo hroot htarget
  rw [hrelative]
  exact normalize_join_ofComponents (fun step hstep => (hsteps step hstep).1) hwalk

theorem isText_relativeTo (hroot : root.isAbsolute = true) (htarget : target.isAbsolute = true)
    (htext : IsText target.bytes) : IsText (relativeTo root target).bytes := by
  obtain ⟨steps, hrelative, hsteps, -⟩ := exists_relativeTo hroot htarget
  rw [hrelative]
  refine isText_written fun step hstep => ?_
  rcases (hsteps step hstep).2 with rfl | hmem
  · exact ⟨"..", rfl⟩
  · exact isText_of_mem_normalComponents htext hmem

/-! ## Paths as they are shown -/

/-- A path is shown with the steps that it has, and never as an absolute one. -/
theorem display_spec (htext : IsText (relativeTo root target).bytes) :
    (Path.ofText (display root target)).isAbsolute = false ∧
      (Path.ofText (display root target)).inner = (relativeTo root target).inner := by
  obtain ⟨text, htext⟩ := htext
  have hrelative : relativeTo root target = Path.ofText text := congrArg Path.mk htext
  have hshown : (relativeTo root target).shown = text := by
    rw [hrelative]
    exact shown_ofText text
  rw [display, hshown, hrelative, Bool.eq_false_iff, ne_eq, isAbsolute_ofText_iff]
  split_ifs with hdot
  · exact ⟨by simp [hdot], rfl⟩
  · have hpieces : (Path.ofText ("./" ++ text)).pieces = [dot] :: (Path.ofText text).pieces := by
      have hsplit : ("./" ++ text).toList = ['.'] ++ '/' :: text.toList := by simp
      rw [pieces_ofText hsplit (by decide), String.ofList_toList]
      rfl
    refine ⟨by simp, ?_⟩
    rw [inner, hpieces, List.filterMap_cons_none (by decide)]
    rfl

/-- A path that is shown relative to a root leads from there to what it shows. -/
theorem normalize_join_display (hroot : root.isAbsolute = true)
    (htarget : target.isAbsolute = true) (htext : IsText target.bytes) :
    (root.join (Path.ofText (display root target))).normalize = target.normalize := by
  obtain ⟨hshown, hinner⟩ := display_spec (isText_relativeTo hroot htarget htext)
  obtain ⟨hrelative, hwalk⟩ := normalize_join_relativeTo hroot htarget
  rw [normalize_join_congr root hshown hrelative hinner, hwalk]

theorem head?_display (root target : Path) : (display root target).toList.head? = some '.' := by
  rw [display]
  split_ifs with hdot
  · exact hdot
  · simp

/-- What is shown of a target is shown of all that have the same normal form. -/
theorem display_congr (hroot : root.isAbsolute = true) (htarget : target.isAbsolute = true)
    (hother : other.isAbsolute = true) (hsame : target.normalize = other.normalize) :
    display root target = display root other := by
  have hnormal : target.normalComponents = other.normalComponents := by
    rw [← components_normalize, hsame, components_normalize]
  obtain ⟨source, -, hsource⟩ := exists_normalComponents hroot
  obtain ⟨names, -, hnames⟩ := exists_normalComponents hother
  obtain ⟨_, _, _, -, -, -, hsteps⟩ := exists_steps? source names
  have hrelative : relativeTo root target = relativeTo root other := by
    rw [relativeTo_eq (hroot.trans htarget.symm), relativeTo_eq (hroot.trans hother.symm), hnormal,
      hsource, hnames, hsteps]
    rfl
  rw [display, display, hrelative]

/-- The way between absolute paths climbs out of what the root has beyond the longest common front
of the two, and goes down by names. From the root it leads to the target, also as it is shown,
which is with a dot in front; so no two targets are shown alike. -/
theorem relativeTo_leads_from_root (hroot : root.isAbsolute = true)
    (htarget : target.isAbsolute = true) :
    (∃ common up down, root.normalize.components = common ++ up ∧
      target.normalize.components = common ++ down ∧
      (∀ front, front <+: root.normalize.components → front <+: target.normalize.components →
        front <+: common) ∧
      (relativeTo root target).components = List.replicate up.length .up ++ down ∧
      ∀ step ∈ down, ∃ name, step = .name name) ∧
    (root.join (relativeTo root target)).normalize = target.normalize ∧
    (display root target).toList.head? = some '.' ∧
    (IsText target.bytes →
      (root.join (Path.ofText (display root target))).normalize = target.normalize ∧
      ∀ other : Path, other.isAbsolute = true → IsText other.bytes →
        (display root target = display root other ↔ target.normalize = other.normalize)) := by
  refine ⟨?_, (normalize_join_relativeTo hroot htarget).2, head?_display root target, ?_⟩
  · obtain ⟨common, up, down, hsource, hnormal, hdown, hheads, hrelative⟩ :=
      exists_way hroot htarget
    have hsplit : root.normalize.components = (.root :: common.map .name) ++ up.map .name := by
      rw [components_normalize, hsource, List.map_append, List.cons_append]
    have hsplit' : target.normalize.components = (.root :: common.map .name) ++ down.map .name := by
      rw [components_normalize, hnormal, List.map_append, List.cons_append]
    refine ⟨.root :: common.map .name, up.map .name, down.map .name, hsplit, hsplit', ?_, ?_, ?_⟩
    · intro front hup hdown
      refine isPrefix_of_heads_ne ?_ (hsplit ▸ hup) (hsplit' ▸ hdown)
      intro step hstep hstep'
      rw [List.head?_map, Option.map_eq_some_iff] at hstep hstep'
      obtain ⟨name, hname, rfl⟩ := hstep
      obtain ⟨name', hname', heq⟩ := hstep'
      exact hheads name hname (Component.name.inj heq ▸ hname')
    · rw [hrelative, components_written (isStep_of_mem_way hdown), List.length_map]
    · intro step hstep
      obtain ⟨name, -, rfl⟩ := List.mem_map.mp hstep
      exact ⟨name, rfl⟩
  · intro htext
    have hjoin := normalize_join_display hroot htarget htext
    refine ⟨hjoin, fun other hother hothertext => ⟨fun hshown => ?_, ?_⟩⟩
    · rw [← hjoin, hshown, normalize_join_display hroot hother hothertext]
    · exact display_congr hroot htarget hother

/-- A hidden file beside the root, which is spelled with a step up. -/
theorem relativeTo_leads_to_hidden_file :
    let root := Path.ofText "/a/x/../b/c"
    let target := Path.ofText "/a//b/.d"
    let other := Path.ofText "/a/b/./.d"
    root.isAbsolute = true ∧ target.isAbsolute = true ∧ other.isAbsolute = true ∧
      IsText target.bytes ∧ IsText other.bytes ∧ display root target = "../.d" ∧
      (root.join (Path.ofText "../.d")).normalize = target.normalize ∧
      (display root target = display root other ↔ target.normalize = other.normalize) := by
  intro root target other
  have hroot : root.isAbsolute = true := by decide
  have htarget : target.isAbsolute = true := by decide
  have hother : other.isAbsolute = true := by decide
  have htext : IsText target.bytes := isText_ofText _
  have hothertext : IsText other.bytes := isText_ofText _
  have hdisplay : display root target = "../.d" := by decide
  obtain ⟨-, -, -, hshown⟩ := relativeTo_leads_from_root hroot htarget
  obtain ⟨hjoin, halike⟩ := hshown htext
  exact ⟨hroot, htarget, hother, htext, hothertext, hdisplay, hdisplay ▸ hjoin,
    halike other hother hothertext⟩

end TemplateBundler.Path
