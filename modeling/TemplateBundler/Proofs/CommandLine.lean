import TemplateBundler.CommandLine.Command
import TemplateBundler.Proofs.FileTree
import TemplateBundler.Proofs.Options

/-! # Options of the command line

A build starts from a preset, a configuration file is laid over it, and the options of the
command line are laid over both.
-/

namespace TemplateBundler.CommandLine

variable {arguments next : BuildArguments} {form : OptionForm} {value : String}

/-! ## Options that exclude each other -/

/-- What is said about the promise library changes only with the option that says so. -/
theorem vow_of_set (h : arguments.set form value = .ok next) :
    next.includeVow = (arguments.includeVow || form.name == .includeVow) ∧
      next.noIncludeVow = (arguments.noIncludeVow || form.name == .noIncludeVow) := by
  rw [BuildArguments.set] at h
  cases hname : form.name with
  | root | outDir | preset | config | processor =>
      rw [hname] at h
      obtain ⟨_, -, hset⟩ := bind_eq_ok_iff.mp h
      cases hset
      exact ⟨(Bool.or_false _).symm, (Bool.or_false _).symm⟩
  | target | exportName | applyFuncName | require | devMode | cache | stdout | help =>
      rw [hname] at h
      cases h
      exact ⟨(Bool.or_false _).symm, (Bool.or_false _).symm⟩
  | includeVow =>
      rw [hname] at h
      cases h
      exact ⟨(Bool.or_true _).symm, (Bool.or_false _).symm⟩
  | noIncludeVow =>
      rw [hname] at h
      cases h
      exact ⟨(Bool.or_false _).symm, (Bool.or_true _).symm⟩
  | jobs =>
      rw [hname] at h
      dsimp only at h
      split at h
      next =>
        cases h
        exact ⟨(Bool.or_false _).symm, (Bool.or_false _).symm⟩
      next => cases h

namespace BuildReading

variable {reading next : BuildReading} {value? : Option String}

/-- The option is among those that were given. -/
def Given (given : List OptionForm) (name : OptionName) : Prop := ∃ form ∈ given, form.name = name

theorem given_append {said : Bool} {given : List OptionForm} {name : OptionName}
    (h : said → Given given name) (hsaid : said || form.name == name) :
    Given (given ++ [form]) name := by
  rw [Bool.or_eq_true, beq_iff_eq] at hsaid
  cases hsaid with
  | inl hbefore =>
      obtain ⟨other, hmem, hname⟩ := h hbefore
      exact ⟨other, List.mem_append_left _ hmem, hname⟩
  | inr hname => exact ⟨form, List.mem_append_right _ (List.mem_singleton_self form), hname⟩

/-- What the arguments say about the promise library was given as an option. -/
structure Records (reading : BuildReading) : Prop where
  includeVow : reading.arguments.includeVow → Given reading.given .includeVow
  noIncludeVow : reading.arguments.noIncludeVow → Given reading.given .noIncludeVow

/-- An option that is taken is set and noted. -/
theorem exists_of_store (h : reading.store form value? = .ok next) :
    ∃ arguments, reading.arguments.set form (value?.getD "") = .ok arguments ∧
      next = { reading with arguments, given := reading.given ++ [form] } := by
  rw [BuildReading.store] at h
  split at h
  next => cases h
  next =>
    dsimp only at h
    split at h
    next => cases h
    next =>
      obtain ⟨arguments, hset, hnext⟩ := bind_eq_ok_iff.mp h
      exact ⟨arguments, hset, (Except.ok.inj hnext).symm⟩

theorem Records.store (h : reading.Records) (hstore : reading.store form value? = .ok next) :
    next.Records := by
  obtain ⟨arguments, hset, rfl⟩ := exists_of_store hstore
  obtain ⟨hincludeVow, hnoIncludeVow⟩ := vow_of_set hset
  exact ⟨fun hsaid => given_append h.includeVow (hincludeVow ▸ hsaid),
    fun hsaid => given_append h.noIncludeVow (hnoIncludeVow ▸ hsaid)⟩

theorem Records.settle (h : reading.Records) (hsettle : reading.settle = .ok next) :
    next.Records := by
  rw [BuildReading.settle] at hsettle
  split at hsettle
  next => cases hsettle; exact ⟨h.includeVow, h.noIncludeVow⟩
  next =>
    have hsettled : Records { reading with pending := .nothing } := ⟨h.includeVow, h.noIncludeVow⟩
    exact hsettled.store hsettle
  next =>
    obtain ⟨_, -, hnext⟩ := bind_eq_ok_iff.mp hsettle
    cases hnext
    exact ⟨h.includeVow, h.noIncludeVow⟩

theorem Records.addFile (h : reading.Records) {argument : String}
    (hadd : reading.addFile argument = .ok next) : next.Records := by
  rw [BuildReading.addFile] at hadd
  split at hadd
  next => cases hadd; exact ⟨h.includeVow, h.noIncludeVow⟩
  next =>
    obtain ⟨settled, hsettle, hnext⟩ := bind_eq_ok_iff.mp hadd
    have hsettled := h.settle hsettle
    cases hnext
    exact ⟨hsettled.includeVow, hsettled.noIncludeVow⟩

theorem Records.addOption (h : reading.Records) (hadd : reading.addOption form value? = .ok next) :
    next.Records := by
  obtain ⟨settled, hsettle, hnext⟩ := bind_eq_ok_iff.mp hadd
  have hsettled := h.settle hsettle
  split at hnext
  next => cases hnext; exact ⟨hsettled.includeVow, hsettled.noIncludeVow⟩
  next => exact hsettled.store hnext

theorem Records.addShort (h : reading.Records) {c : Char} {rest : List Char}
    (hadd : reading.addShort c rest = .ok (some next)) : next.Records := by
  rw [BuildReading.addShort] at hadd
  split at hadd
  next => cases hadd
  next =>
    split at hadd
    next =>
      obtain ⟨_, -, hnone⟩ := bind_eq_ok_iff.mp hadd
      cases hnone
    next =>
      obtain ⟨added, hadded, hsome⟩ := bind_eq_ok_iff.mp hadd
      cases hsome
      exact h.addOption hadded

theorem Records.addLong (h : reading.Records) {name : String}
    (hadd : reading.addLong name value? = .ok (some next)) : next.Records := by
  rw [BuildReading.addLong] at hadd
  split at hadd
  next => cases hadd
  next =>
    split at hadd
    next => cases hadd
    next =>
      split at hadd
      next =>
        obtain ⟨_, -, hnone⟩ := bind_eq_ok_iff.mp hadd
        cases hnone
      next =>
        obtain ⟨added, hadded, hsome⟩ := bind_eq_ok_iff.mp hadd
        cases hsome
        exact h.addOption hadded

theorem Records.addWord (h : reading.Records) {argument : String}
    (hadd : reading.addWord argument = .ok next) : next.Records := by
  rw [BuildReading.addWord] at hadd
  split at hadd
  next => cases hadd; exact ⟨h.includeVow, h.noIncludeVow⟩
  next => exact h.addFile hadd

/-- Of two options that exclude each other only one can be given. -/
theorem not_given_both (h : reading.conflict? = none) :
    ¬ (Given reading.given .includeVow ∧ Given reading.given .noIncludeVow) := by
  intro ⟨⟨form, hmem, hname⟩, ⟨other, hmem', hname'⟩⟩
  have hform : form ∈ reading.given.filter fun form =>
      form.name == .includeVow || form.name == .noIncludeVow := by
    simp [hmem, hname]
  have hother : other ∈ reading.given.filter fun form =>
      form.name == .includeVow || form.name == .noIncludeVow := by
    simp [hmem', hname']
  rw [conflict?] at h
  cases hlist : reading.given.filter fun form =>
      form.name == .includeVow || form.name == .noIncludeVow with
  | nil =>
      rw [hlist] at hform
      cases hform
  | cons first others =>
      rw [hlist] at hform hother h
      cases others with
      | nil =>
          obtain rfl := List.mem_singleton.mp hform
          obtain rfl := List.mem_singleton.mp hother
          rw [hname] at hname'
          cases hname'
      | cons second others => cases h

theorem Records.finish (h : reading.Records) {arguments : BuildArguments}
    (hfinish : reading.finish = .ok (.build arguments)) :
    ¬ (arguments.includeVow ∧ arguments.noIncludeVow) := by
  obtain ⟨settled, hsettle, hnext⟩ := bind_eq_ok_iff.mp hfinish
  have hsettled := h.settle hsettle
  cases hconflict : settled.conflict? with
  | some conflict =>
      rw [hconflict] at hnext
      cases hnext
  | none =>
      rw [hconflict] at hnext
      dsimp only at hnext
      split at hnext
      next => cases hnext
      next =>
        cases hnext
        intro ⟨hincludeVow, hnoIncludeVow⟩
        exact not_given_both hconflict
          ⟨hsettled.includeVow hincludeVow, hsettled.noIncludeVow hnoIncludeVow⟩

/-- No arguments of a build both ask for the promise library and refuse it. -/
theorem Records.read (h : reading.Records) {onlyFiles : Bool} {commandLine : List String}
    {arguments : BuildArguments}
    (hread : BuildReading.read onlyFiles commandLine reading = .ok (.build arguments)) :
    ¬ (arguments.includeVow ∧ arguments.noIncludeVow) := by
  induction commandLine generalizing reading onlyFiles with
  | nil => exact h.finish hread
  | cons argument commandLine ih =>
      rw [BuildReading.read] at hread
      split at hread
      next =>
        obtain ⟨next, hadd, hrest⟩ := bind_eq_ok_iff.mp hread
        exact ih (h.addFile hadd) hrest
      next =>
        split at hread
        next => exact ih h hread
        next =>
          obtain ⟨next?, hadd, hrest⟩ := bind_eq_ok_iff.mp hread
          cases next? with
          | none => cases hrest
          | some next => exact ih (h.addLong hadd) hrest
        next =>
          obtain ⟨next?, hadd, hrest⟩ := bind_eq_ok_iff.mp hread
          cases next? with
          | none => cases hrest
          | some next => exact ih (h.addShort hadd) hrest
        next =>
          obtain ⟨next, hadd, hrest⟩ := bind_eq_ok_iff.mp hread
          exact ih (h.addWord hadd) hrest

theorem records_start : Records {} := ⟨fun h => absurd h (by decide), fun h => absurd h (by decide)⟩

end BuildReading

theorem readHelp_ne_build (commandLine : List String) (arguments : BuildArguments) :
    readHelp commandLine ≠ .ok (.build arguments) := by
  intro h
  unfold readHelp at h
  split at h <;> cases h

/-- No command line makes a build that is to bundle the promise library and not to. -/
theorem read_excludes {afterDashes : Bool} {commandLine : List String} {arguments : BuildArguments}
    (h : read afterDashes commandLine = .ok (.build arguments)) :
    ¬ (arguments.includeVow ∧ arguments.noIncludeVow) := by
  induction commandLine generalizing afterDashes with
  | nil => cases h
  | cons argument commandLine ih =>
      rw [read] at h
      split at h
      next => cases h
      next =>
        split at h
        next => exact BuildReading.records_start.read h
        next =>
          split at h
          next => exact absurd h (readHelp_ne_build commandLine arguments)
          next =>
            split at h
            next => exact ih h
            all_goals cases h

/-! ## Layers -/

/-- The options that the command line itself sets. -/
def BuildArguments.flags (arguments : BuildArguments) : Options where
  target := arguments.target
  devMode := if arguments.devMode then some true else none
  cache := if arguments.cache then some true else none
  exportName := arguments.exportName
  applyFuncName := arguments.applyFuncName
  includeVow :=
    if arguments.noIncludeVow then some false
    else if arguments.includeVow then some true
    else none
  requires := arguments.requires

/-- The options of the configuration file. -/
def BuildArguments.configured (arguments : BuildArguments) (tree : FileTree) (cwd : Location) :
    Except ConfigError Options :=
  match arguments.config with
  | none => .ok {}
  | some path => Options.ofFile tree cwd path

/-- What a switch sets wins over what is below it. -/
theorem switch_eq (said : Bool) (value : Bool) (below : Option Bool) :
    (if said then some value else below) = ((if said then some value else none) <|> below) := by
  cases said <;> rfl

theorem refine_eq_overlay (arguments : BuildArguments) (options : Options) :
    arguments.refine options = options.overlay arguments.flags := by
  have hdevMode : (arguments.refine options).devMode =
      (arguments.flags.devMode <|> options.devMode) := switch_eq _ _ _
  have hcache : (arguments.refine options).cache =
      (arguments.flags.cache <|> options.cache) := switch_eq _ _ _
  have hincludeVow : (arguments.refine options).includeVow =
      (arguments.flags.includeVow <|> options.includeVow) := by
    simp only [BuildArguments.refine, BuildArguments.flags]
    split
    next => rfl
    next => exact switch_eq _ _ _
  rw [Options.overlay, ← hdevMode, ← hcache, ← hincludeVow]
  rfl

theorem resolveOptions_eq (tree : FileTree) (cwd : Location) (arguments : BuildArguments) :
    resolveOptions tree cwd arguments =
      (arguments.configured tree cwd).map fun configured =>
        (arguments.presetOptions.overlay configured).overlay arguments.flags := by
  rw [resolveOptions, BuildArguments.configured]
  cases arguments.config with
  | none =>
      simp only [refine_eq_overlay, Except.map, Options.overlay_default]
  | some path =>
      simp only [refine_eq_overlay]
      cases Options.ofFile tree cwd path <;> rfl

/-- The options of a build are those of the preset, with those of the configuration file laid over
them and those of the command line over both; if the file cannot be read there are none. Layers
can be laid over each other in any grouping, of all that set an option the last one counts, and
the libraries of all of them follow each other. A command line that asks for the promise library
and refuses it makes no build. -/
theorem resolveOptions_lays_over :
    (∀ (tree : FileTree) (cwd : Location) (arguments : BuildArguments),
      resolveOptions tree cwd arguments =
        (arguments.configured tree cwd).map fun configured =>
          (arguments.presetOptions.overlay configured).overlay arguments.flags) ∧
    (∀ low middle high : Options,
      (low.overlay middle).overlay high = low.overlay (middle.overlay high)) ∧
    (∀ options : Options, Options.overlay {} options = options ∧ options.overlay {} = options) ∧
    (∀ layers : List Options,
      (layers.foldl Options.overlay {}).target = layers.reverse.findSome? (·.target) ∧
      (layers.foldl Options.overlay {}).devMode = layers.reverse.findSome? (·.devMode) ∧
      (layers.foldl Options.overlay {}).cache = layers.reverse.findSome? (·.cache) ∧
      (layers.foldl Options.overlay {}).exportName = layers.reverse.findSome? (·.exportName) ∧
      (layers.foldl Options.overlay {}).applyFuncName =
        layers.reverse.findSome? (·.applyFuncName) ∧
      (layers.foldl Options.overlay {}).includeVow = layers.reverse.findSome? (·.includeVow) ∧
      (layers.foldl Options.overlay {}).requires = layers.flatMap (·.requires)) ∧
    ∀ (commandLine : List String) (arguments : BuildArguments),
      parse commandLine = .ok (.build arguments) →
        ¬ (arguments.includeVow ∧ arguments.noIncludeVow) := by
  refine ⟨resolveOptions_eq, Options.overlay_assoc,
    fun options => ⟨options.default_overlay, options.overlay_default⟩, ?_,
    fun _ _ => read_excludes⟩
  intro layers
  refine ⟨?_, ?_, ?_, ?_, ?_, ?_, Options.requires_foldl_overlay {} layers⟩
  all_goals exact Options.field_foldl_default (fun _ _ => rfl) rfl layers

/-- A build of templates that return promises, which are to come from the host. -/
theorem resolveOptions_lays_over_preset :
    ∃ arguments : BuildArguments,
      parse ["build", "--preset", "bemtree", "--no-include-vow", "a.xjst"] =
        .ok (.build arguments) ∧
      ¬ (arguments.includeVow ∧ arguments.noIncludeVow) ∧
      resolveOptions {} [] arguments = .ok { Options.bemtree with includeVow := some false } := by
  have hparse : parse ["build", "--preset", "bemtree", "--no-include-vow", "a.xjst"] =
      .ok (.build { files := [Path.ofText "a.xjst"], preset := some .bemtree,
                    noIncludeVow := true }) := by
    rfl
  refine ⟨_, hparse, resolveOptions_lays_over.2.2.2.2 _ _ hparse, ?_⟩
  rw [resolveOptions_lays_over.1]
  rfl

end TemplateBundler.CommandLine
