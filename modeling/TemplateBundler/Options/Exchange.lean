import TemplateBundler.Options
import TemplateBundler.Schema.Exchange

/-! # Exchanging options

Options are configured under hyphenated names. The compiler gets its part under names
of its own.
-/

namespace TemplateBundler

/-- The layout of the options of a target. -/
@[reducible] def Options.schema : Schema :=
  .record "XjstOptions"
    (.cons "target" (.optional .text) false
    (.cons "dev-mode" (.optional .flag) false
    (.cons "cache" (.optional .flag) false
    (.cons "export-name" (.optional .text) false
    (.cons "apply-func-name" (.optional .text) false
    (.cons "include-vow" (.optional .flag) false
    (.cons "requires" (.list .text) false
    .nil)))))))

/-- The layout of the compiler's options. -/
@[reducible] def CompileConfig.schema : Schema :=
  .record "CompileConfig"
    (.cons "devMode" (.optional .flag) false
    (.cons "cache" (.optional .flag) false
    (.cons "exportName" (.optional .text) false
    (.cons "applyFuncName" (.optional .text) false
    .nil))))

def Options.exchange : Exchange Options where
  schema := Options.schema
  lay options :=
    (options.target, options.devMode, options.cache, options.exportName, options.applyFuncName,
      options.includeVow, options.requires, ())
  lift := fun (target, devMode, cache, exportName, applyFuncName, includeVow, requires, ()) =>
    { target, devMode, cache, exportName, applyFuncName, includeVow, requires }

/-- How the compiler's options are exchanged. -/
def CompileConfig.exchange : Exchange CompileConfig where
  schema := CompileConfig.schema
  lay config := (config.devMode, config.cache, config.exportName, config.applyFuncName, ())
  lift := fun (devMode, cache, exportName, applyFuncName, ()) =>
    { devMode, cache, exportName, applyFuncName }

end TemplateBundler
