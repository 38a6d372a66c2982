import TypstFences.Number.Binary64

/-!
# Settings

The settings of a run, one value that never changes once it is made. Each setting is a field with a
name and a type; a settings value is the same as a value for every field.
-/

set_option autoImplicit false

namespace TypstFences

/-- All that can be set. -/
structure Settings where
  hidelines : Text
  preamble : Text
  render : Bool
  warnNotSpecified : Bool
  engineExecutable : Text
  engineArgs : List Text
  engineRoot : Option Text
  fontPath : Option Text
  engineTimeout : Binary64
  timeoutRetries : Nat
  outputFormat : Text
  maxWorkers : Option Nat
  failFast : Bool
  cacheDir : Option Text
  imageDir : Text
  embedTemplate : Text
  showSource : Bool
  highlightLanguage : Text
  highlightStyle : Text
  deriving DecidableEq, Inhabited

/-- What values a field may have. -/
inductive FieldType where
  | text
  | optionalText
  | flag
  | texts
  | seconds
  | count
  | optionalCount
  deriving DecidableEq, Inhabited

/-- The values of a field type. Seconds are to be positive, an optional count is to be at least one. -/
abbrev FieldType.Carrier : FieldType → Type
  | .text => Text
  | .optionalText => Option Text
  | .flag => Bool
  | .texts => List Text
  | .seconds => Binary64
  | .count => Nat
  | .optionalCount => Option Nat

/-- The names of the settings. -/
inductive Field where
  | hidelines
  | preamble
  | render
  | warnNotSpecified
  | engineExecutable
  | engineArgs
  | engineRoot
  | fontPath
  | engineTimeout
  | timeoutRetries
  | outputFormat
  | maxWorkers
  | failFast
  | cacheDir
  | imageDir
  | embedTemplate
  | showSource
  | highlightLanguage
  | highlightStyle
  deriving DecidableEq, Inhabited

namespace Field

/-- Every field, in the order in which problems are told. -/
def all : List Field :=
  [hidelines, preamble, render, warnNotSpecified, engineExecutable, engineArgs, engineRoot, fontPath,
    engineTimeout, timeoutRetries, outputFormat, maxWorkers, failFast, cacheDir, imageDir,
    embedTemplate, showSource, highlightLanguage, highlightStyle]

/-- The name of a field as it is written in configurations. -/
def name : Field → Text
  | hidelines => "hidelines".toList
  | preamble => "preamble".toList
  | render => "render".toList
  | warnNotSpecified => "warn_not_specified".toList
  | engineExecutable => "engine_executable".toList
  | engineArgs => "engine_args".toList
  | engineRoot => "engine_root".toList
  | fontPath => "font_path".toList
  | engineTimeout => "engine_timeout".toList
  | timeoutRetries => "timeout_retries".toList
  | outputFormat => "output_format".toList
  | maxWorkers => "max_workers".toList
  | failFast => "fail_fast".toList
  | cacheDir => "cache_dir".toList
  | imageDir => "image_dir".toList
  | embedTemplate => "embed_template".toList
  | showSource => "show_source".toList
  | highlightLanguage => "highlight_language".toList
  | highlightStyle => "pygments_style".toList

/-- The field with a name. -/
def ofName? (name : Text) : Option Field := all.find? fun field => field.name == name

/-- The type of a field. -/
abbrev type : Field → FieldType
  | hidelines | preamble | engineExecutable | outputFormat | imageDir | embedTemplate => .text
  | highlightLanguage | highlightStyle => .text
  | render | warnNotSpecified | failFast | showSource => .flag
  | engineArgs => .texts
  | engineRoot | fontPath | cacheDir => .optionalText
  | engineTimeout => .seconds
  | timeoutRetries => .count
  | maxWorkers => .optionalCount

end Field

namespace Settings

/-- The value of a field. -/
def get (settings : Settings) : (field : Field) → field.type.Carrier
  | .hidelines => settings.hidelines
  | .preamble => settings.preamble
  | .render => settings.render
  | .warnNotSpecified => settings.warnNotSpecified
  | .engineExecutable => settings.engineExecutable
  | .engineArgs => settings.engineArgs
  | .engineRoot => settings.engineRoot
  | .fontPath => settings.fontPath
  | .engineTimeout => settings.engineTimeout
  | .timeoutRetries => settings.timeoutRetries
  | .outputFormat => settings.outputFormat
  | .maxWorkers => settings.maxWorkers
  | .failFast => settings.failFast
  | .cacheDir => settings.cacheDir
  | .imageDir => settings.imageDir
  | .embedTemplate => settings.embedTemplate
  | .showSource => settings.showSource
  | .highlightLanguage => settings.highlightLanguage
  | .highlightStyle => settings.highlightStyle

/-- The settings with a value for every field. -/
def ofFields (value : (field : Field) → field.type.Carrier) : Settings where
  hidelines := value .hidelines
  preamble := value .preamble
  render := value .render
  warnNotSpecified := value .warnNotSpecified
  engineExecutable := value .engineExecutable
  engineArgs := value .engineArgs
  engineRoot := value .engineRoot
  fontPath := value .fontPath
  engineTimeout := value .engineTimeout
  timeoutRetries := value .timeoutRetries
  outputFormat := value .outputFormat
  maxWorkers := value .maxWorkers
  failFast := value .failFast
  cacheDir := value .cacheDir
  imageDir := value .imageDir
  embedTemplate := value .embedTemplate
  showSource := value .showSource
  highlightLanguage := value .highlightLanguage
  highlightStyle := value .highlightStyle

/-- The settings made from the values of the fields have these values. -/
theorem get_ofFields (value : (field : Field) → field.type.Carrier) (field : Field) :
    (ofFields value).get field = value field := by
  cases field <;> rfl

/-- Settings are determined by the values of their fields. -/
theorem ofFields_get (settings : Settings) : ofFields settings.get = settings := rfl

/-- The template of the element that shows a rendered page. -/
def defaultTemplate : Text :=
  ("<div style=\"text-align: center; padding: 0.5em; background: var(--quote-bg);\">" ++
    "<img align=\"middle\" src=\"\x7bsrc\x7d\" alt=\"Rendered image\" " ++
    "style=\"background: white; max-width: 500pt; width: 100%;\">" ++
    "</div>").toList

/-- The settings of a run in which nothing is set. -/
def default : Settings where
  hidelines := []
  preamble := "#set page(height: auto, width: 400pt, margin: 0.5cm)\n".toList
  render := true
  warnNotSpecified := false
  engineExecutable := "typst".toList
  engineArgs := []
  engineRoot := none
  fontPath := none
  engineTimeout := Binary64.ofInt 60
  timeoutRetries := 1
  outputFormat := "svg".toList
  maxWorkers := none
  failFast := false
  cacheDir := none
  imageDir := "typst-img".toList
  embedTemplate := defaultTemplate
  showSource := true
  highlightLanguage := "typst".toList
  highlightStyle := "solarized-dark".toList

end Settings

end TypstFences
