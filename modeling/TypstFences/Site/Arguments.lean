import TypstFences.Files.Path
import TypstFences.Json.Value
import TypstFences.Number.Numeral
import TypstFences.Text.Quoted

/-!
# Arguments

The words after the name of the program: switches, some with a value, and the two directories. A
long switch may be shortened as long as it stays unique; a value stands after an equals sign or in the
next word; switches with a single hyphen may be run together; two hyphens end the switches, and in the
place of a value or of a directory they are void.
-/

set_option autoImplicit false

namespace TypstFences.Site

/-- The switches. -/
inductive Switch where
  | help
  | pattern
  | hidelines
  | noRender
  | failFast
  | cacheDir
  | jobs
  | verbosity
  | version
  | saveInput
  | saveOutput
  deriving DecidableEq, Inhabited

namespace Switch

/-- The spellings of the switches, in the order in which messages name them. -/
def spellings : List (Text × Switch) :=
  [("-h".toList, help), ("--help".toList, help), ("--pattern".toList, pattern),
    ("--hidelines".toList, hidelines), ("--noRender".toList, noRender),
    ("--failFast".toList, failFast), ("--cacheDir".toList, cacheDir), ("--jobs".toList, jobs),
    ("-v".toList, verbosity), ("--verbosity".toList, verbosity), ("-V".toList, version),
    ("--version".toList, version), ("--saveinputmeta".toList, saveInput),
    ("--saveoutputmeta".toList, saveOutput)]

/-- Whether a switch has a value. -/
def takesValue : Switch → Bool
  | pattern | hidelines | cacheDir | jobs => true
  | _ => false

/-- A switch as messages name it: all its spellings. -/
def name (switch : Switch) : Text :=
  Text.joinWith ['/'] ((spellings.filter fun entry => entry.2 == switch).map (·.1))

end Switch

/-- Why the words cannot be understood. -/
inductive UsageFault where
  | ambiguous (word : Text) (candidates : List Text)
  | noValue (switch : Switch)
  | notWhole (switch : Switch) (value : Text)
  | needlessValue (switch : Switch) (value : Text)
  | missing (names : List Text)
  | unknown (words : List Text)
  deriving DecidableEq, Inhabited

namespace UsageFault

/-- What is said about a switch. -/
def about (switch : Switch) (text : Text) : Text :=
  "argument ".toList ++ switch.name ++ ": ".toList ++ text

/-- The fault in words. -/
def message : UsageFault → Text
  | ambiguous word candidates =>
    "ambiguous option: ".toList ++ word ++ " could match ".toList ++
      Text.joinWith [',', ' '] candidates
  | noValue switch => about switch "expected one argument".toList
  | notWhole switch value => about switch ("invalid int value: ".toList ++ Text.quoted value)
  | needlessValue switch value =>
    about switch ("ignored explicit argument ".toList ++ Text.quoted value)
  | missing names =>
    "the following arguments are required: ".toList ++ Text.joinWith [',', ' '] names
  | unknown words => "unrecognized arguments: ".toList ++ Text.joinWith [' '] words

end UsageFault

/-- The word that ends the switches. -/
def dividerText : Text := ['-', '-']

/-- What a word is: an operand, the end of the switches, a switch with the value that is part of the
word, where `isCluster` says that the value may be more switches, or nothing that is known. -/
inductive Word where
  | operand (text : Text)
  | divider
  | switch (switch : Switch) (isCluster : Bool) (value : Option Text)
  | unknown (text : Text)
  deriving DecidableEq, Inhabited

namespace Word

/-- Whether a word is a negative number, which is an operand. A line feed at its end does not count. -/
def isNegative (word : Text) : Bool :=
  match if word.getLast? = some '\n' then word.dropLast else word with
  | '-' :: rest =>
    let whole := rest.takeWhile Text.isDigit
    match rest.dropWhile Text.isDigit with
    | [] => !whole.isEmpty
    | '.' :: fraction => !fraction.isEmpty && fraction.all Text.isDigit
    | _ => false
  | _ => false

/-- A switch with a spelling; what follows a short one may be more switches. -/
def ofSpelling? (spelling : Text) (value : Option Text) : Option Word :=
  (Switch.spellings.lookup spelling).map fun found =>
    .switch found (spelling.length == 2) value

/-- The spellings that a word may stand for, with the words they would make. A word with two hyphens is
the start of a spelling; a word with one is a short switch with a value. -/
def candidates (word : Text) : List (Text × Word) :=
  if word.take 2 = dividerText then
    let (start, value) := match Text.cut? '=' word with
      | some (start, value) => (start, some value)
      | none => (word, none)
    (Switch.spellings.filter fun entry => start.isPrefixOf entry.1).map fun entry =>
      (entry.1, .switch entry.2 false value)
  else
    Switch.spellings.filterMap fun entry =>
      if entry.1 = word.take 2 then some (entry.1, .switch entry.2 true (some (word.drop 2)))
      else if word.isPrefixOf entry.1 then some (entry.1, .switch entry.2 false none)
      else none

/-- What a word is, before the switches have ended. -/
def read (word : Text) : Except UsageFault Word :=
  if word.take 1 ≠ ['-'] ∨ word = ['-'] then .ok (.operand word)
  else
    let whole := ofSpelling? word none
    let cut := match Text.cut? '=' word with
      | some (spelling, value) => ofSpelling? spelling (some value)
      | none => none
    match whole.or cut, candidates word with
    | some found, _ => .ok found
    | none, [candidate] => .ok candidate.2
    | none, [] => .ok (if isNegative word ∨ ' ' ∈ word then .operand word else .unknown word)
    | none, several => .error (.ambiguous word (several.map (·.1)))

/-- What words are; after two hyphens all are operands. -/
def readAll : List Text → Except UsageFault (List Word)
  | [] => .ok []
  | word :: words =>
    if word = dividerText then .ok (.divider :: words.map .operand)
    else
      match read word, readAll words with
      | .error fault, _ => .error fault
      | .ok _, .error fault => .error fault
      | .ok first, .ok rest => .ok (first :: rest)

end Word

/-- What the words ask for. Of the directories some may be void; the other values are given as they go
into a configuration, where the empty list is void. -/
structure Options where
  directories : List (Option Text) := []
  pattern : Json := .string "**/*.md".toList
  hidelines : Json := .null
  noRender : Bool := false
  failFast : Bool := false
  cacheDir : Json := .null
  jobs : Json := .null
  verbosity : Int := 1
  deriving Inhabited

/-- What the words ask the program to do. -/
inductive Task where
  | run (options : Options)
  | showVersion
  | showHelp
  deriving Inhabited

namespace Options

/-- The whole number that a value is. -/
def readWhole? (value : Text) : Option Int := do
  let (negative, rest) := Numeral.cutSign (Numeral.strip value)
  let digits ← Numeral.dropUnderscores? rest
  if digits.all Text.isDigit then
    let n ← Text.numeralValue? digits
    some (if negative then -(n : Int) else n)
  else none

/-- The value of a switch as it goes into a configuration. -/
def valueFor (switch : Switch) (value : Text) : Except UsageFault Json :=
  if value = dividerText then .ok (.list [])
  else if switch = .jobs then
    match readWhole? value with
    | some jobs => .ok (.int jobs)
    | none => .error (.notWhole switch value)
  else .ok (.string value)

/-- The options with the value of a switch that has one. -/
def withValue (options : Options) (switch : Switch) (value : Text) : Except UsageFault Options :=
  match switch, valueFor switch value with
  | _, .error fault => .error fault
  | .pattern, .ok value => .ok { options with pattern := value }
  | .hidelines, .ok value => .ok { options with hidelines := value }
  | .cacheDir, .ok value => .ok { options with cacheDir := value }
  | .jobs, .ok value => .ok { options with jobs := value }
  | switch, .ok _ => .error (.needlessValue switch value)

/-- The switches that are run together in one word: each letter must be one. -/
def cluster (switch : Switch) : Text → Except UsageFault (List Switch)
  | [] => .ok [switch]
  | c :: rest =>
    match Switch.spellings.lookup ['-', c] with
    | none => .error (.needlessValue switch (c :: rest))
    | some next =>
      match cluster next rest with
      | .ok switches => .ok (switch :: switches)
      | .error fault => .error fault

/-- The options after switches without a value, or the task that one of them is. -/
def withSwitches : List Switch → Options → Sum Options Task
  | [], options => .inl options
  | .help :: _, _ => .inr .showHelp
  | .version :: _, _ => .inr .showVersion
  | .noRender :: rest, options => withSwitches rest { options with noRender := true }
  | .failFast :: rest, options => withSwitches rest { options with failFast := true }
  | .verbosity :: rest, options =>
    withSwitches rest { options with verbosity := options.verbosity + 1 }
  | _ :: rest, options => withSwitches rest options

/-- The names of the directories, in order. -/
def directoryNames : List Text := ["inputdir".toList, "outputdir".toList]

/-- The task when all words are read: the directories must be there, and nothing else. -/
def finish (options : Options) (extra : List Text) : Except UsageFault Task :=
  match directoryNames.drop options.directories.length with
  | [] => if extra.isEmpty then .ok (.run options) else .error (.unknown extra)
  | names => .error (.missing names)

/-- Whether there is a directory still to be named. -/
def wantsDirectory (options : Options) : Bool :=
  decide (options.directories.length < directoryNames.length)

/-- What the word before was: the name of a directory, to which a divider after it belongs; a divider
that belongs to the directory after it; or another word. -/
inductive Before where
  | directory
  | divider
  | other
  deriving DecidableEq, Inhabited

/-- The directory that an operand names. -/
def directoryOf (text : Text) (before : Before) : Option Text :=
  if text = dividerText ∧ before ≠ .divider then none else some text

/-- The task of the rest of the words. `extra` holds the words without a use so far. -/
def readFrom : List Word → Options → List Text → Before → Except UsageFault Task
  | [], options, extra, _ => options.finish extra
  | .operand text :: rest, options, extra, before =>
    if options.wantsDirectory then
      let directories := options.directories ++ [directoryOf text before]
      readFrom rest { options with directories := directories } extra .directory
    else readFrom rest options (extra ++ [text]) .other
  | .divider :: rest, options, extra, before =>
    if before = .directory then readFrom rest options extra .other
    else if options.wantsDirectory ∧ !rest.isEmpty then readFrom rest options extra .divider
    else readFrom rest options (extra ++ [dividerText]) .other
  | .unknown text :: rest, options, extra, _ => readFrom rest options (extra ++ [text]) .other
  | .switch switch isCluster (some value) :: rest, options, extra, _ =>
    if switch.takesValue then
      match options.withValue switch value with
      | .ok options => readFrom rest options extra .other
      | .error fault => .error fault
    else if isCluster ∧ !value.isEmpty then
      match cluster switch value with
      | .error fault => .error fault
      | .ok switches =>
        match withSwitches switches options with
        | .inl options => readFrom rest options extra .other
        | .inr task => .ok task
    else .error (.needlessValue switch value)
  | .switch switch _ none :: .operand value :: rest, options, extra, _ =>
    if switch.takesValue then
      match options.withValue switch value with
      | .ok options => readFrom rest options extra .other
      | .error fault => .error fault
    else
      match withSwitches [switch] options with
      | .inl options => readFrom (.operand value :: rest) options extra .other
      | .inr task => .ok task
  | .switch switch _ none :: rest, options, extra, _ =>
    if switch.takesValue then .error (.noValue switch)
    else
      match withSwitches [switch] options with
      | .inl options => readFrom rest options extra .other
      | .inr task => .ok task
termination_by words => words.length

/-- The task that words set. -/
def read (words : List Text) : Except UsageFault Task :=
  match Word.readAll words with
  | .ok words => readFrom words {} [] .other
  | .error fault => .error fault

end Options

end TypstFences.Site
