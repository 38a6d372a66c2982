import TypstFences.Json.Value
import TypstFences.Settings.Candidate
import TypstFences.Settings.Field
import TypstFences.Yaml.Cursor

/-!
# Changing settings

Settings are made by packages that read several sources, one before the other: explicit values, environment
variables, a dotenv file, a configuration file and a directory of secrets. What the packages make of their
sources is their own affair (`Ambient`); what they are asked for is the order of the sources and the explicit
values. A change to existing settings makes them anew, with the values of all fields explicit.
-/

set_option autoImplicit false

namespace TypstFences

/-- A source of values for settings. -/
inductive Source where
  | explicit
  | environment
  | dotenv
  | file
  | secrets
  deriving DecidableEq, Inhabited

/-- Why a file of settings cannot be read: bytes that are no text, a text without a value, a value that is no
table though it has parts, one that has none, or a name that is no text. -/
inductive EntryFault where
  | undecodable
  | unreadable (fault : Yaml.Fault)
  | noTable
  | noParts
  | strangeName
  deriving DecidableEq, Inhabited

/-- A value that is refused: where it was given, and why it is refused. -/
structure Problem where
  location : List Text
  message : Text
  deriving DecidableEq, Inhabited

namespace Problem

/-- The problem in words. -/
def text (problem : Problem) : Text :=
  Text.joinWith ['.'] problem.location ++ ": ".toList ++ problem.message

/-- Several problems on one line. -/
def summary (problems : List Problem) : Text := Text.joinWith [';', ' '] (problems.map text)

end Problem

/-- Why settings cannot be made: a file of settings cannot be read, a list of texts in a variable is
unreadable or nested too deeply, or values are refused. -/
inductive SettingsError where
  | unreadableFile (fault : EntryFault)
  | unreadable (field : Field) (source : Text)
  | tooDeep
  | invalid (problems : List Problem)
  deriving DecidableEq, Inhabited

namespace SettingsError

/-- The error in words, on one line. -/
def message : SettingsError → Text
  | unreadableFile _ => "a file of settings cannot be read".toList
  | unreadable field source =>
    "error parsing value for field \"".toList ++ field.name ++ "\" from source \"".toList ++ source ++
      "\"".toList
  | tooDeep => "a value is nested too deeply".toList
  | invalid problems => Problem.summary problems

/-- Whether an error is about values, and so is told to the reader. -/
def isAboutValues : SettingsError → Bool
  | unreadableFile fault => fault ∈ [.undecodable, .unreadable .impossible, .noTable]
  | tooDeep => false
  | _ => true

end SettingsError

namespace FieldType

/-- A value of a field type as a JSON value. -/
def dump : (type : FieldType) → type.Carrier → Json
  | .text, value => .string value
  | .optionalText, some value => .string value
  | .optionalText, none => .null
  | .flag, value => .bool value
  | .texts, values => .list (values.map .string)
  | .seconds, number => .real number
  | .count, number => .int number
  | .optionalCount, some number => .int number
  | .optionalCount, none => .null

end FieldType

/-- The packages that make settings, in what surrounds them at some moment: the settings for an order of the
sources and explicit values, and what the reader is warned of meanwhile. -/
structure Ambient where
  make : List Source → List (Text × Candidate) → Except SettingsError Settings
  warnings : List Text
  deriving Inhabited

namespace Settings

/-- The sources, each in front of those that it wins over. -/
def sources : List Source := [.explicit, .environment, .dotenv, .file, .secrets]

/-- The settings that explicit values give in their surroundings. -/
def build (ambient : Ambient) (explicit : List (Text × Candidate)) : Except SettingsError Settings :=
  ambient.make sources explicit

/-- The changes that entries ask for: a hyphen in a key counts as an underscore, and entries without a
value or under an unknown key are passed over. -/
def changes (entries : List (Text × Json)) : List (Field × Candidate) :=
  entries.filterMap fun (key, value) =>
    match Field.ofName? (key.map fun c => if c = '-' then '_' else c), value with
    | some _, .null => none
    | some field, value => some (field, .ofJson value)
    | none, _ => none

/-- What changes make of a field: the last of them that is for the field counts. -/
def changed? (changes : List (Field × Candidate)) (field : Field) : Option Candidate :=
  changes.reverse.lookup field

/-- The settings as explicit values, with some of them changed. -/
def dumpWith (settings : Settings) (changes : List (Field × Candidate)) : List (Text × Candidate) :=
  Field.all.map fun field =>
    (field.name, (changed? changes field).getD (.ofJson (field.type.dump (settings.get field))))

/-- The settings with the changes that entries ask for. Without changes they stay what they are. -/
def override (ambient : Ambient) (settings : Settings) (entries : List (Text × Json)) :
    Except SettingsError Settings :=
  if (changes entries).isEmpty then .ok settings
  else build ambient (settings.dumpWith (changes entries))

/-- What the reader is warned of when entries change settings. -/
def warnings (ambient : Ambient) (entries : List (Text × Json)) : List Text :=
  if (changes entries).isEmpty then [] else ambient.warnings

/-- Settings never change: giving a value to one is refused. -/
def assign (name : Text) : SettingsError := .invalid [⟨[name], "Instance is frozen".toList⟩]

end Settings

end TypstFences
