import TypstFences.Json.Reader
import TypstFences.Settings.Check
import TypstFences.Settings.Entries
import TypstFences.Settings.Variables
import TypstFences.Text.Lower
import TypstFences.Text.Utf8

/-!
# Surroundings

Packages that make settings from what surrounds a run (`Surroundings.ambient`): environment variables and the
contents of a dotenv file and of a configuration file are read, the values of the sources are put in the order
that is asked for, and what is given nowhere has its default. The case of letters in names does not count.
There are no secrets.
-/

set_option autoImplicit false

namespace TypstFences

/-- What surrounds a run: the environment variables, what the dotenv file says, and the entries of the
configuration file, if these files can be read. -/
structure Surroundings where
  environment : List (Text × Text)
  dotenv : Except EntryFault Variables.File
  entries : Except EntryFault (List (Text × Candidate))
  deriving Inhabited

namespace Settings

/-- What the name of every variable begins with. -/
def variableStart : Text := "typfence_".toList

/-- The variable that sets a field. -/
def variableName (field : Field) : Text := variableStart ++ field.name

/-- The variables with their names in lower case; of names that become equal, the last one counts. -/
def lowerNames (assigned : List (Text × Option Text)) : List (Text × Option Text) :=
  assigned.foldl (fun kept entry => Named.put (Text.lower entry.1) entry.2 kept) []

/-- The value that a variable gives to a field. A list of texts is written as JSON, where the null value
gives nothing. -/
def variableValue (source : Text) (field : Field) (text : Text) :
    Except SettingsError (Option Candidate) :=
  match field.type with
  | .texts =>
    match Json.read text with
    | .ok .null => .ok none
    | .ok value => .ok (some (.ofJson value))
    | .error .tooDeep => .error .tooDeep
    | .error _ => .error (.unreadable field source)
  | _ => .ok (some (.text text))

/-- The values that variables with lower-case names give to the fields. -/
def variableValues (source : Text) (assigned : List (Text × Option Text)) :
    List Field → Except SettingsError (List (Text × Candidate))
  | [] => .ok []
  | field :: fields =>
    let given :=
      match assigned.lookup (variableName field) with
      | some (some text) => variableValue source field text
      | _ => .ok none
    match given, variableValues source assigned fields with
    | .error error, _ => .error error
    | .ok _, .error error => .error error
    | .ok none, .ok values => .ok values
    | .ok (some value), .ok values => .ok ((field.name, value) :: values)

/-- The names in a dotenv file that set nothing and are therefore refused. Variables without a text and
names of fields without the start of variables pass. -/
def strayNames (assigned : List (Text × Option Text)) : List Text :=
  (assigned.filter fun entry =>
    entry.2.any (!·.isEmpty) && (Field.ofName? entry.1).isNone &&
      Field.all.all fun field => variableName field != entry.1).map (·.1)

/-- The field that a key names, whatever the case of its letters. -/
def fieldOfKey? (key : Text) : Option Field := Field.ofName? (Text.lower key)

/-- What entries give to the fields that their keys name. -/
def fieldValues (entries : List (Text × Candidate)) : List (Text × Candidate) :=
  entries.filterMap fun (key, value) => (fieldOfKey? key).map fun field => (field.name, value)

/-- The keys of entries that name no field. -/
def unknownKeys (entries : List (Text × Candidate)) : List Text :=
  (entries.map (·.1)).filter fun key => (fieldOfKey? key).isNone

/-- What is given for the fields, each source in front of the ones it wins over and within a source the
first in front, and the names that are refused, the weakest source first. -/
structure Given where
  values : List (Text × Candidate)
  refused : List Text

/-- What the sources give for the fields. -/
def sourceValues (explicit environment dotenv entries : List (Text × Candidate)) :
    Source → List (Text × Candidate)
  | .explicit => fieldValues explicit
  | .environment => environment
  | .dotenv => dotenv
  | .file => fieldValues entries
  | .secrets => []

/-- What explicit values and their surroundings give, with the sources in some order. -/
def gather (surroundings : Surroundings) (order : List Source) (explicit : List (Text × Candidate)) :
    Except SettingsError Given :=
  let environment := surroundings.environment.map fun (name, text) => (name, some text)
  match surroundings.dotenv, surroundings.entries with
  | .error fault, _ => .error (.unreadableFile fault)
  | .ok _, .error fault => .error (.unreadableFile fault)
  | .ok file, .ok entries =>
    let dotenv := lowerNames file.values
    match variableValues "EnvSettingsSource".toList (lowerNames environment) Field.all with
    | .error error => .error error
    | .ok fromVariables =>
      match variableValues "DotEnvSettingsSource".toList dotenv Field.all with
      | .error error => .error error
      | .ok fromDotenv =>
        .ok
          { values := order.flatMap (sourceValues explicit fromVariables fromDotenv entries)
            refused := (unknownKeys entries ++ strayNames dotenv ++ unknownKeys explicit).eraseDups }

/-- The value of a field among given values, or what is wrong with it; a field that is not given has its
default. -/
def fieldValue (values : List (Text × Candidate)) (field : Field) :
    Except (List Problem) field.type.Carrier :=
  match values.lookup field.name with
  | none => .ok (default.get field)
  | some candidate =>
    match field.type.check candidate with
    | .ok value => .ok value
    | .error faults => .error (faults.map fun (index, fault) => fault.problem field.name index)

/-- All that is wrong with given values, field by field. -/
def fieldProblems (values : List (Text × Candidate)) : List Problem :=
  Field.all.flatMap fun field =>
    match fieldValue values field with
    | .ok _ => []
    | .error problems => problems

/-- The settings with given values. -/
def ofGiven (given : Given) : Except SettingsError Settings :=
  let problems := fieldProblems given.values ++ given.refused.map (SettingFault.unknownField.problem · none)
  if problems.isEmpty then
    .ok <| ofFields fun field =>
      match fieldValue given.values field with
      | .ok value => value
      | .error _ => default.get field
  else .error (.invalid problems)

end Settings

namespace Surroundings

/-- The packages in their surroundings. -/
def ambient (surroundings : Surroundings) : Ambient where
  make order explicit :=
    match Settings.gather surroundings order explicit with
    | .ok given => Settings.ofGiven given
    | .error error => .error error
  warnings := match surroundings.dotenv with
    | .ok file => file.skipped.map Variables.skippedText
    | .error _ => []

/-- Surroundings in which nothing is set. -/
def none : Surroundings := ⟨[], .ok ⟨[], []⟩, .ok []⟩

/-- The text of a file's content. -/
def decode (content : Bytes) : Except EntryFault Text :=
  match Text.decodeUtf8? content with
  | some text => .ok text
  | .none => .error .undecodable

/-- The surroundings with some environment variables and the contents of the two files. -/
def read (environment : List (Text × Text)) (dotenv entries : Bytes) : Surroundings where
  environment := environment
  dotenv := (decode dotenv).map fun text => Variables.read environment (Text.unifyLineEndings text)
  entries := (decode entries).bind Entries.read

end Surroundings

/-- The packages where nothing is set. -/
def Ambient.none : Ambient := Surroundings.none.ambient

end TypstFences
