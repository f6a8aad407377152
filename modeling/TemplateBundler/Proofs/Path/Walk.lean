import TemplateBundler.Proofs.FileTree
import TemplateBundler.Proofs.RelativePath

/-! # Where paths lead

A path is walked from a place, one component after the other; this is also how a file tree finds
what a path names. Normalizing a path changes no walk, and it leaves nothing that walks could not
tell apart: two paths that start alike and lead to the same place from everywhere have the same
normal form. What holds of normal forms of joined paths follows from this.
-/

namespace TemplateBundler.Path

variable {path other : Path} {place : Location} {names names' : List Bytes} {height height' : Nat}

/-- The place that a component leads to. There is no way up from the root. -/
def Component.walk (place : Location) : Component → Location
  | .root => []
  | .here => place
  | .up => place.dropLast
  | .name bytes => place ++ [bytes]

/-- The place that a path leads to from another one. -/
def walk (path : Path) (place : Location) : Location := path.components.foldl Component.walk place

theorem walk_eq (path : Path) (place : Location) :
    path.walk place = path.inner.foldl Component.walk (if path.isAbsolute then [] else place) := by
  unfold walk
  cases habsolute : path.isAbsolute with
  | true => rw [components_of_isAbsolute habsolute]; rfl
  | false => rcases components_of_not_isAbsolute habsolute with h | h <;> rw [h] <;> rfl

/-- Where a file tree lets a path be walked, this is the place that it finds. -/
theorem walk_of_locate {tree : FileTree} {cwd : Location} (h : tree.locate cwd path = .ok place) :
    path.walk cwd = place := by
  have hfold : ∀ (pieces : List Bytes) (start : Location),
      pieces.foldlM tree.step start = .ok place →
      (pieces.filterMap Component.ofPiece?).foldl Component.walk start = place := by
    intro pieces
    induction pieces with
    | nil => exact fun start h => Except.ok.inj h
    | cons piece pieces ih =>
        intro start h
        rw [List.foldlM_cons] at h
        obtain ⟨next, hstep, hrest⟩ := bind_eq_ok_iff.mp h
        obtain ⟨_, -, hstep⟩ := bind_eq_ok_iff.mp hstep
        rw [← ih next hrest, List.filterMap_cons, Component.ofPiece?]
        split_ifs at hstep ⊢ with hnothing hup
        · rw [Except.ok.inj hstep]
        · rw [← Except.ok.inj hstep]
          rfl
        · unfold FileTree.enter at hstep
          split_ifs at hstep
          rw [← Except.ok.inj hstep]
          rfl
  obtain ⟨_, -, hwalk⟩ := bind_eq_ok_iff.mp h
  rw [walk_eq]
  exact hfold _ _ hwalk

/-- A joined path leads on from where the first one leads. -/
theorem walk_join (path other : Path) (place : Location) :
    (path.join other).walk place = other.walk (path.walk place) := by
  cases hother : other.isAbsolute with
  | true => rw [join, if_pos hother, walk_eq, walk_eq other, hother]; rfl
  | false =>
      rw [walk_eq, inner_join path hother, isAbsolute_join path hother, List.foldl_append,
        ← walk_eq, walk_eq other, hother]
      rfl

/-! ## Walking normal forms -/

/-- One more component of a normal form leads one component further. -/
theorem foldl_walk_reduce (place : Location) (reduced : List Component) (component : Component) :
    (reduce reduced component).reverse.foldl Component.walk place =
      Component.walk (reduced.reverse.foldl Component.walk place) component := by
  cases component with
  | here => rfl
  | root | name => simp [reduce]
  | up =>
      simp only [reduce]
      split <;> simp [Component.walk]

theorem foldl_walk_foldl_reduce (place : Location) (steps reduced : List Component) :
    (steps.foldl reduce reduced).reverse.foldl Component.walk place =
      steps.foldl Component.walk (reduced.reverse.foldl Component.walk place) := by
  induction steps generalizing reduced with
  | nil => rfl
  | cons step steps ih => rw [List.foldl_cons, List.foldl_cons, ih, foldl_walk_reduce]

theorem foldl_walk_normalComponents (path : Path) (place : Location) :
    path.normalComponents.foldl Component.walk place = path.walk place :=
  foldl_walk_foldl_reduce place path.components []

/-- A path leads where its normal form leads. -/
theorem walk_normalize (path : Path) (place : Location) :
    path.normalize.walk place = path.walk place := by
  rw [walk, components_normalize, foldl_walk_normalComponents]

theorem foldl_walk_names (names : List Bytes) (place : Location) :
    (names.map .name).foldl Component.walk place = place ++ names := by
  induction names generalizing place with
  | nil => exact (List.append_nil place).symm
  | cons name names ih => simp [ih, Component.walk]

theorem foldl_walk_replicate_up (height depth : Nat) (name : Bytes) :
    (List.replicate height .up).foldl Component.walk (List.replicate (depth + height) name) =
      List.replicate depth name := by
  induction height with
  | zero => rfl
  | succ height ih => simpa [List.replicate_succ, Component.walk] using ih

/-! ## What walks tell apart -/

theorem isName_singleton {b : UInt8} (hslash : b ≠ slash) (hdot : b ≠ dot) : IsName [b] :=
  ⟨by simpa using hslash.symm, by simp, by simpa using hdot, by simp⟩

/-- Names that follow on a run of any one name tell how long the run is: a shorter run would have to
be made up for by names, and these cannot be all names at once. -/
theorem le_of_runs_alike
    (h : ∀ name, IsName name → List.replicate height name ++ names =
      List.replicate height' name ++ names') : height' ≤ height := by
  by_contra hlt
  obtain ⟨more, rfl⟩ : ∃ more, height' = height + (more + 1) := ⟨height' - height - 1, by omega⟩
  have hhead : ∀ name, IsName name → names.head? = some name := by
    intro name hname
    have hrest := h name hname
    rw [← List.replicate_append_replicate, List.append_assoc] at hrest
    rw [List.append_cancel_left hrest, List.replicate_succ, List.cons_append, List.head?_cons]
  have hone := hhead [1] (isName_singleton (by decide) (by decide))
  have htwo := hhead [2] (isName_singleton (by decide) (by decide))
  exact absurd (hone.symm.trans htwo) (by decide)

theorem normalComponents_eq_of_walks {absolute : Bool} {components components' : List Component}
    (h : IsNormal absolute components) (h' : IsNormal absolute components')
    (hwalks : ∀ place : Location, (∀ name ∈ place, IsName name) →
      components.foldl Component.walk place = components'.foldl Component.walk place) :
    components = components' := by
  obtain ⟨height, names, -, rfl⟩ := h
  obtain ⟨height', names', -, rfl⟩ := h'
  simp only [List.foldl_append, foldl_walk_names] at hwalks
  cases absolute with
  | true =>
      have hnames : names = names' := hwalks [] (by simp)
      rw [hnames]
      rfl
  | false =>
      simp only [Bool.false_eq_true, if_false] at hwalks ⊢
      -- From far below the root the steps up leave runs, each by as much shorter as they climb.
      have hruns : ∀ name, IsName name → List.replicate height' name ++ names =
          List.replicate height name ++ names' := by
        intro name hname
        have hwalk := hwalks (List.replicate (height' + height) name)
          fun _ hmem => List.eq_of_mem_replicate hmem ▸ hname
        rwa [foldl_walk_replicate_up, Nat.add_comm, foldl_walk_replicate_up] at hwalk
      obtain rfl : height = height' := Nat.le_antisymm
        (le_of_runs_alike hruns) (le_of_runs_alike fun name hname => (hruns name hname).symm)
      have hname := isName_singleton (b := 1) (by decide) (by decide)
      rw [List.append_cancel_left (hruns _ hname)]

/-- Paths have the same normal form if they start alike and lead to the same place from
everywhere. -/
theorem normalize_eq_iff : path.normalize = other.normalize ↔
    path.isAbsolute = other.isAbsolute ∧
      ∀ place : Location, (∀ name ∈ place, IsName name) → path.walk place = other.walk place := by
  constructor
  · intro h
    refine ⟨?_, fun place _ => ?_⟩
    · rw [← isAbsolute_normalize, h, isAbsolute_normalize]
    · rw [← walk_normalize, h, walk_normalize]
  · rintro ⟨habsolute, hwalks⟩
    have hnormal := isNormal_normalComponents path
    rw [habsolute] at hnormal
    refine congrArg ofComponents (normalComponents_eq_of_walks hnormal
      (isNormal_normalComponents other) fun place hplace => ?_)
    rw [foldl_walk_normalComponents, foldl_walk_normalComponents, hwalks place hplace]

theorem isAbsolute_join_eq (path other : Path) :
    (path.join other).isAbsolute = (path.isAbsolute || other.isAbsolute) := by
  cases hother : other.isAbsolute with
  | true => rw [join, if_pos hother, hother, Bool.or_true]
  | false => rw [isAbsolute_join path hother, Bool.or_false]

/-- The normal form of a joined path is that of its joined normal forms. -/
theorem normalize_join_normalize (path other : Path) :
    (path.join other).normalize = (path.normalize.join other.normalize).normalize := by
  rw [normalize_eq_iff]
  refine ⟨?_, fun place _ => ?_⟩
  · rw [isAbsolute_join_eq, isAbsolute_join_eq, isAbsolute_normalize, isAbsolute_normalize]
  · rw [walk_join, walk_join, walk_normalize, walk_normalize]

/-- The normal form stands for all paths that start as this one does and lead where it leads. It is
the root or some steps up, and then names; it starts as the path does, leads where it leads, and
is shared by no path that starts or leads elsewhere. Taking it once more, or before joining,
changes nothing. -/
theorem normalize_is_canonical (path other : Path) :
    .here ∉ path.normalize.components ∧
    IsNormal path.isAbsolute path.normalize.components ∧
    path.normalize.isAbsolute = path.isAbsolute ∧
    (∀ place, path.normalize.walk place = path.walk place) ∧
    (path.normalize = other.normalize ↔
      path.isAbsolute = other.isAbsolute ∧
        ∀ place : Location, (∀ name ∈ place, IsName name) →
          path.walk place = other.walk place) ∧
    path.normalize.normalize = path.normalize ∧
    (path.join other).normalize = (path.normalize.join other.normalize).normalize := by
  have hnormal := isNormal_normalComponents path
  rw [← components_normalize] at hnormal
  refine ⟨?_, hnormal, isAbsolute_normalize path, walk_normalize path, normalize_eq_iff,
    normalize_normalize path, normalize_join_normalize path other⟩
  obtain ⟨height, names, -, hcomponents⟩ := hnormal
  rw [hcomponents]
  cases path.isAbsolute <;> simp

end TemplateBundler.Path
