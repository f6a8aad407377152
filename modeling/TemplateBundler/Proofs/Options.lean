import TemplateBundler.Options

/-! # Layers of options

Laying options over others is associative and has the default options as its unit, so a chain
of layers has one result. In it every option has the value of the last layer that sets it, and
the libraries are those of all layers.
-/

namespace TemplateBundler.Options

variable {α : Type} {field : Options → Option α}

theorem overlay_assoc (low middle high : Options) :
    (low.overlay middle).overlay high = low.overlay (middle.overlay high) := by
  simp [overlay, Option.or_assoc]

theorem default_overlay (options : Options) : overlay {} options = options := by
  simp [overlay]

theorem overlay_default (options : Options) : options.overlay {} = options := by
  simp [overlay]

/-- An option that is taken from above where it is set there is taken from the last layer that
sets it. -/
theorem field_foldl_overlay
    (hfield : ∀ low high : Options, field (low.overlay high) = (field high <|> field low))
    (lowest : Options) (layers : List Options) :
    field (layers.foldl overlay lowest) = (layers.reverse.findSome? field <|> field lowest) := by
  induction layers generalizing lowest with
  | nil => simp
  | cons layer layers ih =>
      rw [List.foldl_cons, ih, hfield, List.reverse_cons, List.findSome?_append]
      simp [Option.or_assoc]

theorem field_foldl_default
    (hfield : ∀ low high : Options, field (low.overlay high) = (field high <|> field low))
    (hdefault : field {} = none) (layers : List Options) :
    field (layers.foldl overlay {}) = layers.reverse.findSome? field := by
  rw [field_foldl_overlay hfield, hdefault]
  simp

theorem requires_foldl_overlay (lowest : Options) (layers : List Options) :
    (layers.foldl overlay lowest).requires = lowest.requires ++ layers.flatMap (·.requires) := by
  induction layers generalizing lowest with
  | nil => simp
  | cons layer layers ih =>
      rw [List.foldl_cons, ih, List.flatMap_cons, ← List.append_assoc]
      rfl

end TemplateBundler.Options
