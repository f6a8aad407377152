import TemplateBundler.Processor.Message
import TemplateBundler.Proofs.Json.RoundTrip

/-! # Requests read back

What a processor reads in a request. Every option that is set is a member of its own, and every
other is left out, so that no two jobs have the same request.
-/

namespace TemplateBundler.Processor

/-! ## Members that may be absent -/

/-- The members that a value makes which may be absent. -/
def memberOf (name : String) (value? : Option Json) : List (String × Json) :=
  (value?.map fun value => (name, value)).toList

theorem lookup_memberOf (wanted name : String) (value? : Option Json) :
    (memberOf name value?).lookup wanted = if wanted = name then value? else none := by
  cases value? with
  | none => exact (ite_self none).symm
  | some value =>
      by_cases h : wanted = name
      · simp [memberOf, h]
      · have htest : (wanted == name) = false := beq_false_of_ne h
        simp [memberOf, List.lookup_cons, htest, h]

theorem keys_memberOf (name : String) (value? : Option Json) :
    ((memberOf name value?).map Prod.fst).Sublist [name] := by
  cases value? with
  | none => exact List.nil_sublist _
  | some value => exact List.Sublist.refl _

/-! ## Requests -/

/-- The members that the options of a job are written as. -/
def writtenOptions (config : CompileConfig) : List (String × Json) :=
  memberOf "devMode" (config.devMode.map .flag) ++ memberOf "cache" (config.cache.map .flag) ++
    memberOf "exportName" (config.exportName.map .text) ++
    memberOf "applyFuncName" (config.applyFuncName.map .text)

theorem toJson_config (config : CompileConfig) :
    CompileConfig.exchange.toJson config = .object (writtenOptions config) := by
  obtain ⟨devMode, cache, exportName, applyFuncName⟩ := config
  cases devMode <;> cases cache <;> cases exportName <;> cases applyFuncName <;> rfl

theorem ofJson_writtenOptions (config : CompileConfig) :
    CompileConfig.exchange.ofJson (.object (writtenOptions config)) = .ok config := by
  obtain ⟨devMode, cache, exportName, applyFuncName⟩ := config
  cases devMode <;> cases cache <;> cases exportName <;> cases applyFuncName <;> rfl

theorem writtenOptions_injective : Function.Injective writtenOptions := by
  intro config config' h
  have hback := ofJson_writtenOptions config
  rw [h, ofJson_writtenOptions] at hback
  exact (Except.ok.inj hback).symm

theorem keys_writtenOptions (config : CompileConfig) :
    ((writtenOptions config).map Prod.fst).Sublist
      ["devMode", "cache", "exportName", "applyFuncName"] := by
  simp only [writtenOptions, List.map_append]
  exact (((keys_memberOf _ _).append (keys_memberOf _ _)).append (keys_memberOf _ _)).append
    (keys_memberOf _ _)

theorem isPlain_memberOf {α : Type} {json : α → Json} (hplain : ∀ value, (json value).IsPlain)
    (name : String) (value? : Option α) :
    ∀ member ∈ memberOf name (value?.map json), member.2.IsPlain := by
  intro member hmember
  cases value? with
  | none => cases hmember
  | some value =>
      obtain rfl := List.mem_singleton.mp hmember
      exact hplain value

theorem isPlain_writtenOptions (config : CompileConfig) :
    (Json.object (writtenOptions config)).IsPlain := by
  constructor
  intro member hmember
  simp only [writtenOptions, List.mem_append] at hmember
  obtain ((hmember | hmember) | hmember) | hmember := hmember
  · exact isPlain_memberOf .flag _ _ member hmember
  · exact isPlain_memberOf .flag _ _ member hmember
  · exact isPlain_memberOf .text _ _ member hmember
  · exact isPlain_memberOf .text _ _ member hmember

theorem toJson_request (job : CompileJob) :
    request.toJson job =
      .object [("source", .text job.payload),
        ("options", .object (writtenOptions job.config))] := by
  rw [← toJson_config]
  rfl

theorem parse_request (job : CompileJob) :
    Json.parse (request.write job) =
      .ok (.object [("source", .text job.payload),
        ("options", .object (writtenOptions job.config))]) := by
  have hplain : (request.toJson job).IsPlain := by
    rw [toJson_request]
    refine .object (List.forall_mem_cons.mpr ⟨.text job.payload, ?_⟩)
    exact List.forall_mem_singleton.mpr (isPlain_writtenOptions job.config)
  rw [← toJson_request]
  exact Json.parse_render hplain

/-- A request is one object with the text to compile as it is, whatever its characters, and with
those options that are set, each with its value. So it says everything about its job. -/
theorem request_write_reads_back :
    (∀ job : CompileJob, ∃ options : List (String × Json),
      Json.parse (request.write job) =
        .ok (.object [("source", .text job.payload), ("options", .object options)]) ∧
      (options.map Prod.fst).Sublist ["devMode", "cache", "exportName", "applyFuncName"] ∧
      options.lookup "devMode" = job.config.devMode.map .flag ∧
      options.lookup "cache" = job.config.cache.map .flag ∧
      options.lookup "exportName" = job.config.exportName.map .text ∧
      options.lookup "applyFuncName" = job.config.applyFuncName.map .text ∧
      CompileConfig.exchange.ofJson (.object options) = .ok job.config) ∧
    Function.Injective request.write := by
  constructor
  · intro job
    refine ⟨writtenOptions job.config, parse_request job, keys_writtenOptions job.config,
      ?_, ?_, ?_, ?_, ofJson_writtenOptions job.config⟩
    all_goals simp [writtenOptions, List.lookup_append, lookup_memberOf]
  · intro job job' hwrite
    have hparse := parse_request job
    rw [hwrite, parse_request job'] at hparse
    simp only [Except.ok.injEq, Json.object.injEq, List.cons.injEq, Prod.mk.injEq, Json.text.injEq,
      true_and, and_true] at hparse
    obtain ⟨hpayload, hoptions⟩ := hparse
    cases job
    cases job'
    cases hpayload
    cases writtenOptions_injective hoptions
    rfl

end TemplateBundler.Processor
