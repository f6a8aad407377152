import TemplateBundler.Processor.Script
import TemplateBundler.Proofs.Processor.Request
import TemplateBundler.Proofs.Text.Bytes

/-! # What reaches the compiler

What the bundled script calls the compiler with when it gets the request of a job. Names reach
the compiler just as they are set. Truth values do not: the script makes one of each of the two
options that are one, so that one which is not set cannot be told from one which is set to false.
-/

namespace TemplateBundler.Processor.Script

/-! ## Reading the request -/

theorem reverse_memberOf (name : String) (value? : Option Json) :
    (memberOf name value?).reverse = memberOf name value? := by
  cases value? <;> rfl

theorem readMember?_writtenOptions (config : CompileConfig) :
    readMember? "devMode" (.object (writtenOptions config)) = config.devMode.map .flag ∧
    readMember? "cache" (.object (writtenOptions config)) = config.cache.map .flag ∧
    readMember? "exportName" (.object (writtenOptions config)) = config.exportName.map .text ∧
    readMember? "applyFuncName" (.object (writtenOptions config)) =
      config.applyFuncName.map .text := by
  simp [readMember?, writtenOptions, reverse_memberOf, List.lookup_append, lookup_memberOf]

/-- What the compiler gets for the options of a job. -/
def handed (config : CompileConfig) : List (String × Json) :=
  [("no-opt", .flag (config.devMode.getD false)), ("cache", .flag (config.cache.getD false))] ++
    memberOf "exportName" (config.exportName.map .text) ++
    memberOf "applyFuncName" (config.applyFuncName.map .text)

theorem any_isTruthy_flag (value? : Option Bool) :
    (value?.map Json.flag).any isTruthy = value?.getD false := by
  cases value? <;> rfl

theorem handedOptions_writtenOptions (config : CompileConfig) :
    handedOptions (.object (writtenOptions config)) = handed config := by
  obtain ⟨hdevMode, hcache, hexportName, happlyFuncName⟩ := readMember?_writtenOptions config
  simp only [handedOptions, hdevMode, hcache, hexportName, happlyFuncName, any_isTruthy_flag]
  rfl

/-- The call that the request of a job leads to. -/
theorem call?_request (job : CompileJob) :
    call? (Bytes.ofText (request.write job)) =
      some { source := some (.text job.payload), options := handed job.config } := by
  rw [← handedOptions_writtenOptions, call?, Bytes.shown_ofText, parse_request]
  rfl

/-! ## What is handed over -/

/-- The call has the options that are set, each with its value, and has none that is not. -/
structure Call.HandsOver (call : Call) (options : Options) : Prop where
  devMode : call.options.lookup "no-opt" = options.devMode.map .flag
  cache : call.options.lookup "cache" = options.cache.map .flag
  exportName : call.options.lookup "exportName" = options.exportName.map .text
  applyFuncName : call.options.lookup "applyFuncName" = options.applyFuncName.map .text

theorem lookup_handed (config : CompileConfig) :
    (handed config).lookup "no-opt" = some (.flag (config.devMode.getD false)) ∧
    (handed config).lookup "cache" = some (.flag (config.cache.getD false)) ∧
    (handed config).lookup "exportName" = config.exportName.map .text ∧
    (handed config).lookup "applyFuncName" = config.applyFuncName.map .text := by
  simp [handed, List.lookup_append, List.lookup_cons, lookup_memberOf]

theorem keys_handed (config : CompileConfig) :
    ((handed config).map Prod.fst).Sublist ["no-opt", "cache", "exportName", "applyFuncName"] := by
  simp only [handed, List.map_append]
  have htruths := List.Sublist.refl ["no-opt", "cache"]
  exact (htruths.append (keys_memberOf _ _)).append (keys_memberOf _ _)

theorem some_flag_eq_map_iff (value? : Option Bool) :
    some (Json.flag (value?.getD false)) = value?.map .flag ↔ value?.isSome := by
  cases value? <;> simp

/-- Names are always handed over as they are set, truth values only if they are set. -/
theorem handsOver_handed_iff (options : Options) (source : Option Json) :
    Call.HandsOver ⟨source, handed options.compileConfig⟩ options ↔
      options.devMode.isSome ∧ options.cache.isSome := by
  obtain ⟨hdevMode, hcache, hexportName, happlyFuncName⟩ := lookup_handed options.compileConfig
  constructor
  · intro h
    exact ⟨(some_flag_eq_map_iff _).mp (hdevMode.symm.trans h.devMode),
      (some_flag_eq_map_iff _).mp (hcache.symm.trans h.cache)⟩
  · intro ⟨hsetDevMode, hsetCache⟩
    exact ⟨hdevMode.trans ((some_flag_eq_map_iff _).mpr hsetDevMode),
      hcache.trans ((some_flag_eq_map_iff _).mpr hsetCache), hexportName, happlyFuncName⟩

theorem handed_eq_iff (config config' : CompileConfig) :
    handed config = handed config' ↔
      config.devMode.getD false = config'.devMode.getD false ∧
      config.cache.getD false = config'.cache.getD false ∧
      config.exportName = config'.exportName ∧ config.applyFuncName = config'.applyFuncName := by
  constructor
  · intro h
    obtain ⟨hdevMode, hcache, hexportName, happlyFuncName⟩ := lookup_handed config
    obtain ⟨hdevMode', hcache', hexportName', happlyFuncName'⟩ := lookup_handed config'
    rw [h] at hdevMode hcache hexportName happlyFuncName
    have htext : Function.Injective Json.text := fun _ _ => Json.text.inj
    refine ⟨?_, ?_, ?_, ?_⟩
    · exact Json.flag.inj (Option.some.inj (hdevMode.symm.trans hdevMode'))
    · exact Json.flag.inj (Option.some.inj (hcache.symm.trans hcache'))
    · exact Option.map_injective htext (hexportName.symm.trans hexportName')
    · exact Option.map_injective htext (happlyFuncName.symm.trans happlyFuncName')
  · intro ⟨hdevMode, hcache, hexportName, happlyFuncName⟩
    rw [handed, hdevMode, hcache, hexportName, happlyFuncName]
    rfl

/-- The compiler gets the text to compile, the names that are set, and two truth values, which
are false where nothing is set: so it gets just the options that are set only if both truth
values are. Options that differ only in whether a false one is set reach it alike. -/
theorem call_hands_over_options (options : Options) (payload : String) :
    ∃ call, call? (Bytes.ofText (request.write ⟨payload, options.compileConfig⟩)) = some call ∧
      call.source = some (.text payload) ∧
      (call.options.map Prod.fst).Sublist ["no-opt", "cache", "exportName", "applyFuncName"] ∧
      call.options.lookup "no-opt" = some (.flag (options.devMode.getD false)) ∧
      call.options.lookup "cache" = some (.flag (options.cache.getD false)) ∧
      call.options.lookup "exportName" = options.exportName.map .text ∧
      call.options.lookup "applyFuncName" = options.applyFuncName.map .text ∧
      (call.HandsOver options ↔ options.devMode.isSome ∧ options.cache.isSome) ∧
      ∀ (options' : Options) (payload' : String) (call' : Call),
        call? (Bytes.ofText (request.write ⟨payload', options'.compileConfig⟩)) = some call' →
        (call.options = call'.options ↔
          options.devMode.getD false = options'.devMode.getD false ∧
          options.cache.getD false = options'.cache.getD false ∧
          options.exportName = options'.exportName ∧
          options.applyFuncName = options'.applyFuncName) := by
  obtain ⟨hdevMode, hcache, hexportName, happlyFuncName⟩ := lookup_handed options.compileConfig
  refine ⟨_, call?_request _, rfl, keys_handed _, hdevMode, hcache, hexportName, happlyFuncName,
    handsOver_handed_iff options _, ?_⟩
  intro options' payload' call' hcall
  obtain rfl := Option.some.inj ((call?_request _).symm.trans hcall)
  exact handed_eq_iff options.compileConfig options'.compileConfig

/-- Where no option is set, two reach the compiler all the same, and a cache that is switched off
reaches it as one that nothing was said about. -/
theorem unset_options_reach_compiler :
    ∃ call, call? (Bytes.ofText (request.write ⟨"", ({} : Options).compileConfig⟩)) = some call ∧
      ¬ call.HandsOver {} ∧
      call? (Bytes.ofText (request.write ⟨"", ({ cache := some false } : Options).compileConfig⟩)) =
        some call ∧
      ({} : Options).compileConfig ≠ ({ cache := some false } : Options).compileConfig := by
  refine ⟨_, call?_request _, ?_, call?_request _, by decide⟩
  rw [handsOver_handed_iff]
  decide

end TemplateBundler.Processor.Script
