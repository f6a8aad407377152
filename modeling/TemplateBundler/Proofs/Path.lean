import TemplateBundler.Path
import TemplateBundler.Proofs.Text.Bytes

/-! # Normal forms of paths

The normal form of a path is the root or a number of steps up, and then names. Written down
it is read as the same components again, it starts at the root exactly if the path does, and it
is a text if the path is one.
-/

namespace TemplateBundler.Path

open Bytes

/-! ## Components -/

/-- A piece between slashes that is the name of something. -/
structure IsName (piece : Bytes) : Prop where
  slash_notMem : slash ∉ piece
  ne_nil : piece ≠ []
  ne_dot : piece ≠ [dot]
  ne_dots : piece ≠ [dot, dot]

/-- Whether the component is a step up or down. -/
def Component.IsStep : Component → Prop
  | .up => True
  | .name bytes => IsName bytes
  | .root | .here => False

variable {path : Path} {component step : Component} {components reduced : List Component}
  {piece : Bytes} {absolute : Bool}

theorem Component.IsStep.bytes_ne_nil (h : component.IsStep) : component.bytes ≠ [] := by
  cases component with
  | up => exact List.cons_ne_nil _ _
  | name bytes => exact h.ne_nil
  | root | here => cases h

theorem Component.IsStep.bytes_ne_dot (h : component.IsStep) : component.bytes ≠ [dot] := by
  cases component with
  | up => decide
  | name bytes => exact h.ne_dot
  | root | here => cases h

theorem Component.IsStep.slash_notMem (h : component.IsStep) : slash ∉ component.bytes := by
  cases component with
  | up => decide
  | name bytes => exact h.slash_notMem
  | root | here => cases h

theorem Component.IsStep.ofPiece?_bytes (h : component.IsStep) :
    ofPiece? component.bytes = some component := by
  cases component with
  | up => decide
  | name bytes => simp [ofPiece?, Component.bytes, h.ne_nil, h.ne_dot, h.ne_dots]
  | root | here => cases h

theorem Component.isStep_of_ofPiece? (hpiece : slash ∉ piece)
    (h : ofPiece? piece = some component) : component.IsStep ∧ component.bytes = piece := by
  simp only [ofPiece?, Bool.or_eq_true, decide_eq_true_eq] at h
  split_ifs at h with hnothing hup
  · obtain rfl := Option.some.inj h
    exact ⟨trivial, hup.symm⟩
  · obtain rfl := Option.some.inj h
    rw [not_or] at hnothing
    exact ⟨⟨hpiece, hnothing.1, hnothing.2, hup⟩, rfl⟩

theorem slash_notMem_of_mem_pieces (h : piece ∈ path.pieces) : slash ∉ piece :=
  notMem_of_mem_splitOn h

/-- The steps of a path, wherever it starts. -/
def inner (path : Path) : List Component := path.pieces.filterMap Component.ofPiece?

theorem isStep_of_mem_inner (h : component ∈ path.inner) :
    component.IsStep ∧ component.bytes ∈ path.pieces := by
  obtain ⟨piece, hpiece, hcomponent⟩ := List.mem_filterMap.mp h
  obtain ⟨hstep, rfl⟩ :=
    Component.isStep_of_ofPiece? (slash_notMem_of_mem_pieces hpiece) hcomponent
  exact ⟨hstep, hpiece⟩

theorem components_of_isAbsolute (h : path.isAbsolute = true) :
    path.components = .root :: path.inner := by
  simp [Path.components, h, inner]

theorem components_of_not_isAbsolute (h : path.isAbsolute = false) :
    path.components = path.inner ∨ path.components = .here :: path.inner := by
  simp only [Path.components, h, inner, Bool.false_eq_true, if_false]
  split_ifs
  · exact .inr rfl
  · exact .inl rfl

theorem isAbsolute_iff_head? : path.isAbsolute ↔ path.components.head? = some .root := by
  cases habsolute : path.isAbsolute with
  | true => simp [components_of_isAbsolute habsolute]
  | false =>
      have hinner : path.inner.head? ≠ some .root := fun hroot =>
        (isStep_of_mem_inner (List.mem_of_head? hroot)).1
      rcases components_of_not_isAbsolute habsolute with h | h <;> simp [h, hinner]

/-! ## Normal forms -/

/-- The root or some steps up, and then names. -/
def IsNormal (absolute : Bool) (components : List Component) : Prop :=
  ∃ (height : Nat) (names : List Bytes), (∀ name ∈ names, IsName name) ∧
    components = (if absolute then [.root] else List.replicate height .up) ++ names.map .name

theorem IsNormal.start (absolute : Bool) : IsNormal absolute (if absolute then [.root] else []) :=
  ⟨0, [], by simp, by simp⟩

theorem reduce_replicate_up (height : Nat) :
    Path.reduce (List.replicate height .up) .up = List.replicate (height + 1) .up := by
  cases height <;> rfl

/-- One more step leads from a normal form to a normal form. -/
theorem IsNormal.reduce (h : IsNormal absolute reduced.reverse) (hstep : component.IsStep) :
    IsNormal absolute (Path.reduce reduced component).reverse := by
  obtain ⟨height, names, hnames, hreduced⟩ := h
  rw [List.reverse_eq_iff] at hreduced
  subst hreduced
  cases component with
  | name bytes =>
      refine ⟨height, names ++ [bytes], ?_, by simp [Path.reduce]⟩
      simpa [or_imp, forall_and] using ⟨hnames, hstep⟩
  | up =>
      rcases List.eq_nil_or_concat names with rfl | ⟨names, last, rfl⟩
      · cases absolute with
        | true => exact ⟨height, [], hnames, by simp [Path.reduce]⟩
        | false =>
            refine ⟨height + 1, [], hnames, ?_⟩
            simp [reduce_replicate_up]
      · exact ⟨height, names, fun name hname => hnames name (by simp [hname]),
          by simp [Path.reduce]⟩
  | root | here => cases hstep

theorem mem_of_mem_reduce (h : component ∈ Path.reduce reduced step) :
    component ∈ reduced ∨ component = step := by
  unfold Path.reduce at h
  split at h
  · exact .inl h
  · split at h
    · exact .inl (List.mem_cons_of_mem _ h)
    · exact .inl h
    · exact (List.mem_cons.mp h).symm
  · exact (List.mem_cons.mp h).symm

/-- Where taking on the components of a path starts. -/
theorem normalComponents_eq (path : Path) : path.normalComponents =
    (path.inner.foldl Path.reduce (if path.isAbsolute then [.root] else [])).reverse := by
  unfold normalComponents
  cases habsolute : path.isAbsolute with
  | true => rw [components_of_isAbsolute habsolute]; rfl
  | false => rcases components_of_not_isAbsolute habsolute with h | h <;> rw [h] <;> rfl

theorem isNormal_normalComponents (path : Path) :
    IsNormal path.isAbsolute path.normalComponents := by
  -- Whatever was taken on so far is in normal form, last component first.
  have hfold : ∀ (steps reduced : List Component), (∀ step ∈ steps, step.IsStep) →
      IsNormal path.isAbsolute reduced.reverse →
      IsNormal path.isAbsolute (steps.foldl Path.reduce reduced).reverse := by
    intro steps
    induction steps with
    | nil => exact fun reduced _ h => h
    | cons step steps ih =>
        intro reduced hsteps h
        obtain ⟨hstep, hsteps⟩ := List.forall_mem_cons.mp hsteps
        exact ih _ hsteps (h.reduce hstep)
  rw [normalComponents_eq]
  refine hfold _ _ (fun step hstep => (isStep_of_mem_inner hstep).1) ?_
  convert IsNormal.start path.isAbsolute using 1
  split_ifs <;> rfl

theorem foldl_reduce_names (names : List Bytes) (reduced : List Component) :
    (names.map .name).foldl Path.reduce reduced = (names.map .name).reverse ++ reduced := by
  induction names generalizing reduced with
  | nil => rfl
  | cons name names ih =>
      rw [List.map_cons, List.foldl_cons, List.reverse_cons, List.append_assoc]
      exact ih (.name name :: reduced)

/-- A normal form has nothing left to undo. -/
theorem IsNormal.foldl_reduce (h : IsNormal absolute components) :
    components.foldl Path.reduce [] = components.reverse := by
  obtain ⟨height, names, -, rfl⟩ := h
  have hfront : (if absolute then [.root] else List.replicate height .up).foldl Path.reduce [] =
      (if absolute then [.root] else List.replicate height .up).reverse := by
    cases absolute with
    | true => rfl
    | false =>
        simp only [Bool.false_eq_true, if_false, List.reverse_replicate]
        induction height with
        | zero => rfl
        | succ height ih =>
            rw [List.replicate_succ', List.foldl_append, ih, List.foldl_cons, List.foldl_nil,
              reduce_replicate_up, ← List.replicate_succ']
  rw [List.foldl_append, hfront, foldl_reduce_names, List.reverse_append]

theorem mem_of_mem_normalComponents (h : component ∈ path.normalComponents) :
    component = .root ∨ component ∈ path.inner := by
  have hfold : ∀ steps reduced : List Component, component ∈ steps.foldl Path.reduce reduced →
      component ∈ reduced ∨ component ∈ steps := by
    intro steps
    induction steps with
    | nil => exact fun reduced h => .inl h
    | cons step steps ih =>
        intro reduced hmem
        rcases ih _ hmem with hreduced | hsteps
        · rcases mem_of_mem_reduce hreduced with hold | rfl
          · exact .inl hold
          · exact .inr List.mem_cons_self
        · exact .inr (List.mem_cons_of_mem _ hsteps)
  rw [normalComponents_eq, List.mem_reverse] at h
  refine (hfold _ _ h).imp_left fun hroot => ?_
  split_ifs at hroot
  · exact List.mem_singleton.mp hroot
  · cases hroot

/-! ## Writing normal forms -/

theorem written_eq_intercalate (h : ∀ component ∈ components, component.IsStep) :
    written components = [slash].intercalate (components.map Component.bytes) := by
  cases components with
  | nil => rfl
  | cons component components =>
      cases component with
      | root => cases h _ List.mem_cons_self
      | here | up | name => rfl

theorem splitOn_written (h : ∀ component ∈ components, component.IsStep) (hne : components ≠ []) :
    (written components).splitOn slash = components.map Component.bytes := by
  rw [written_eq_intercalate h]
  refine List.splitOn_intercalate slash ?_ (by simpa using hne)
  intro piece hpiece
  obtain ⟨component, hmem, rfl⟩ := List.mem_map.mp hpiece
  exact (h component hmem).slash_notMem

theorem filterMap_bytes (h : ∀ component ∈ components, component.IsStep) :
    (components.map Component.bytes).filterMap Component.ofPiece? = components := by
  induction components with
  | nil => rfl
  | cons component components ih =>
      obtain ⟨hfirst, hothers⟩ := List.forall_mem_cons.mp h
      rw [List.map_cons, List.filterMap_cons_some hfirst.ofPiece?_bytes, ih hothers]

/-- Steps that were written down are read again. -/
theorem filterMap_splitOn_written (h : ∀ component ∈ components, component.IsStep) :
    ((written components).splitOn slash).filterMap Component.ofPiece? = components := by
  by_cases hne : components = []
  · subst hne
    rfl
  · rw [splitOn_written h hne, filterMap_bytes h]

theorem head?_splitOn_written (h : ∀ component ∈ components, component.IsStep) :
    ((written components).splitOn slash).head? = some [] ∧ components = [] ∨
      ∃ component ∈ components,
        ((written components).splitOn slash).head? = some component.bytes := by
  cases components with
  | nil => exact .inl ⟨rfl, rfl⟩
  | cons component components =>
      refine .inr ⟨component, List.mem_cons_self, ?_⟩
      rw [splitOn_written h (List.cons_ne_nil _ _), List.map_cons, List.head?_cons]

theorem isAbsolute_written (h : ∀ component ∈ components, component.IsStep) :
    (ofComponents components).isAbsolute = false := by
  by_contra habsolute
  obtain ⟨rest, hrest⟩ : ∃ rest, written components = slash :: rest := by
    simpa [isAbsolute, ofComponents, List.head?_eq_some_iff] using habsolute
  have hhead : ((written components).splitOn slash).head? = some [] := by
    rw [hrest, List.splitOn_cons_eq_if_modifyHead, if_pos (beq_self_eq_true _), List.head?_cons]
  rcases head?_splitOn_written h with ⟨-, rfl⟩ | ⟨component, hmem, hcomponent⟩
  · cases hrest
  · rw [hhead] at hcomponent
    exact (h component hmem).bytes_ne_nil (Option.some.inj hcomponent).symm

theorem components_written (h : ∀ component ∈ components, component.IsStep) :
    (ofComponents components).components = components := by
  have hinner : (ofComponents components).inner = components := filterMap_splitOn_written h
  have hhead : (ofComponents components).pieces.head? ≠ some [dot] := by
    intro hdot
    rcases head?_splitOn_written h with ⟨hnil, -⟩ | ⟨component, hmem, hcomponent⟩
    · cases hnil.symm.trans hdot
    · exact (h component hmem).bytes_ne_dot (Option.some.inj (hcomponent.symm.trans hdot))
  simp only [Path.components, isAbsolute_written h, hhead, Bool.false_eq_true, if_false]
  exact hinner

/-- A normal form that was written down is read again. -/
theorem components_ofComponents (h : IsNormal absolute components) :
    (ofComponents components).components = components := by
  obtain ⟨height, names, hnames, rfl⟩ := h
  have hsteps : ∀ component ∈ names.map Component.name, component.IsStep := by
    intro component hmem
    obtain ⟨name, hname, rfl⟩ := List.mem_map.mp hmem
    exact hnames name hname
  cases absolute with
  | true =>
      -- The slash of the root has an empty piece before it, which counts for nothing.
      have habsolute : (ofComponents ([.root] ++ names.map .name)).isAbsolute = true := rfl
      have hpieces : (ofComponents ([.root] ++ names.map .name)).pieces =
          [] :: (written (names.map .name)).splitOn slash := by
        change (slash :: written (names.map .name)).splitOn slash = _
        rw [List.splitOn_cons_eq_if_modifyHead, if_pos (beq_self_eq_true _)]
      rw [if_pos rfl, components_of_isAbsolute habsolute, inner, hpieces,
        List.filterMap_cons_none rfl, filterMap_splitOn_written hsteps]
      rfl
  | false =>
      refine components_written fun component hmem => ?_
      rcases List.mem_append.mp hmem with hup | hname
      · rw [List.eq_of_mem_replicate hup]
        trivial
      · exact hsteps component hname

theorem components_normalize (path : Path) :
    path.normalize.components = path.normalComponents :=
  components_ofComponents (isNormal_normalComponents path)

/-- Normalizing keeps a path absolute or relative. -/
theorem isAbsolute_normalize (path : Path) : path.normalize.isAbsolute = path.isAbsolute := by
  obtain ⟨height, names, -, hnormal⟩ := isNormal_normalComponents path
  rw [Bool.eq_iff_iff, isAbsolute_iff_head?, components_normalize, hnormal]
  cases path.isAbsolute with
  | true => simp
  | false =>
      cases height with
      | zero => cases names <;> simp
      | succ height => simp [List.replicate_succ]

theorem normalize_normalize (path : Path) : path.normalize.normalize = path.normalize := by
  have hnormal := isNormal_normalComponents path
  rw [normalize, normalComponents, components_normalize, hnormal.foldl_reduce, List.reverse_reverse]
  rfl

/-- A relative path that is joined on does not change where a path starts. -/
theorem isAbsolute_join (path : Path) {other : Path} (hother : other.isAbsolute = false) :
    (path.join other).isAbsolute = path.isAbsolute := by
  obtain ⟨bytes⟩ := path
  cases bytes with
  | nil => simpa [join, isAbsolute] using hother
  | cons b bytes =>
      simp only [join, hother, Bool.false_eq_true, if_false]
      split_ifs <;> simp [isAbsolute]

theorem isAbsolute_join_of_isAbsolute (h : path.isAbsolute = true) (other : Path) :
    (path.join other).isAbsolute = true := by
  cases hother : other.isAbsolute with
  | true => rw [join, if_pos hother, hother]
  | false => rw [isAbsolute_join path hother, h]

/-! ## Paths that are texts -/

theorem isText_written (h : ∀ component ∈ components, IsText component.bytes) :
    IsText (written components) := by
  have hslash : IsText [slash] := isText_toUInt8 (c := '/') (by decide)
  induction components with
  | nil => exact isText_nil
  | cons component components ih =>
      obtain ⟨hfirst, hothers⟩ := List.forall_mem_cons.mp h
      cases component with
      | root => exact hslash.append (ih hothers)
      | here | up | name =>
          refine isText_intercalate hslash fun part hpart => ?_
          obtain ⟨component, hmem, rfl⟩ := List.mem_map.mp hpart
          exact h component hmem

theorem isText_of_mem_normalComponents (h : IsText path.bytes)
    (hmem : component ∈ path.normalComponents) : IsText component.bytes := by
  rcases mem_of_mem_normalComponents hmem with rfl | hinner
  · exact isText_toUInt8 (c := '/') (by decide)
  · exact h.of_mem_splitOn (c := '/') (by decide) (isStep_of_mem_inner hinner).2

theorem isText_normalize (h : IsText path.bytes) : IsText path.normalize.bytes :=
  isText_written fun _ hmem => isText_of_mem_normalComponents h hmem

theorem isText_join (h : IsText path.bytes) {other : Path} (hother : IsText other.bytes) :
    IsText (path.join other).bytes := by
  have hslash : IsText [slash] := isText_toUInt8 (c := '/') (by decide)
  unfold join
  split_ifs
  · exact hother
  · exact h.append hother
  · exact h.append (hslash.append hother)

theorem isAbsolute_ofText_iff {text : String} :
    (Path.ofText text).isAbsolute ↔ text.toList.head? = some '/' := by
  simp only [isAbsolute, Path.ofText, Bytes.ofText, beq_iff_eq]
  cases text.toList with
  | nil => simp
  | cons c cs =>
      rw [List.flatMap_cons, List.head?_cons, Option.some.injEq]
      constructor
      · intro h
        obtain ⟨b, bytes, hbytes⟩ :=
          List.exists_cons_of_ne_nil (String.utf8EncodeChar_ne_nil (c := c))
        rw [hbytes, List.cons_append, List.head?_cons, Option.some.injEq] at h
        refine (mem_utf8EncodeChar_iff (c := '/') (by decide)).mp ?_
        rw [hbytes, h]
        exact List.mem_cons_self
      · rintro rfl
        rfl

theorem pieces_ofText {text : String} {front rest : List Char}
    (h : text.toList = front ++ '/' :: rest) (hfront : '/' ∉ front) :
    (Path.ofText text).pieces =
      Bytes.ofText (String.ofList front) :: (Path.ofText (String.ofList rest)).pieces := by
  have hsplit (text : String) : (Path.ofText text).pieces = _ :=
    splitOn_ofText (c := '/') (by decide) text
  rw [hsplit, hsplit, h, List.splitOn_append_cons_self_of_not_mem hfront, List.map_cons,
    String.toList_ofList]

end TemplateBundler.Path
