import TypstFences.Book.Chapters
import TypstFences.Json.Reader

/-!
# The book preprocessor

A call either asks whether an output is supported, or hands over a context and a book as one JSON text.
The book is printed back when every block of every chapter was typeset; otherwise the reader is told
what failed, and nothing is printed.
-/

set_option autoImplicit false

namespace TypstFences.Book

variable {ε : Type}

/-- The outputs that are supported. -/
def supported : List Text := ["html".toList]

/-- The word that asks whether an output is supported. -/
def supportsWord : Text := "supports".toList

/-- The output that the words of a call ask about. -/
def askedOutput? : List Text → Option Text
  | first :: output :: _ => if first = supportsWord then some output else none
  | _ => none

/-- The context and the book that a value is. -/
def cutPair : Json → Except ShapeFault (Json × Json)
  | .list [context, book] => .ok (context, book)
  | .list _ => .error .notPair
  | .object [(first, _), (second, _)] => .ok (.string first, .string second)
  | .object _ => .error .notPair
  | .string [first, second] => .ok (.string [first], .string [second])
  | .string _ => .error .notPair
  | _ => .error .unusable

/-- What a call leaves: its status or the fault that ended it, the book if it is printed, what is said
to the reader, and the world. -/
structure Report (ε : Type) where
  ending : Except Fault Nat
  printed : Option Text
  complaints : Text
  world : World ε

/-- What the reader was warned of, line by line. -/
def warningText (world : World ε) : Text := world.warnings.flatMap fun text => text ++ ['\n']

/-- A report that a fault ended the call. -/
def broken (fault : Fault) (world : World ε) : Report ε :=
  ⟨.error fault, none, warningText world, world⟩

/-- A report on a call that ended with a status. -/
def ended (status : Nat) (printed : Option Text) (complaint : Text) (world : World ε) : Report ε :=
  ⟨.ok status, printed, warningText world ++ complaint, world⟩

/-- What is said about settings that are refused. -/
def settingsText (error : SettingsError) : Text :=
  "Error: Invalid [preprocessor.".toList ++ tableKey ++ "] configuration: ".toList ++
    error.message ++ ['\n']

/-- What is said about failures. -/
def failuresText (failures : List BlockFailure) : Text :=
  "Errors occurred during preprocessing:\n".toList ++
    failures.flatMap fun failure => failure.text ++ ['\n', '\n']

/-- The settings with the directory of fonts that lies beside the sources, unless one is set. -/
def withFonts (ambient : Ambient) (settings : Settings) (source : Path) (world : World ε) :
    Except Fault Settings × World ε :=
  let fonts := source.child "fonts".toList
  match settings.fontPath, world.host.probeDirectory fonts with
  | some _, _ => (.ok settings, world)
  | none, .error error => (.error (.pass (.refusedFile error)), world)
  | none, .ok false => (.ok settings, world)
  | none, .ok true =>
    match world.override ambient settings [(Field.name .fontPath, .string fonts.text)] with
    | (.ok settings, world) => (.ok settings, world)
    | (.error error, world) => (.error (.settings error), world)

/-- The book is visited, and the report tells what came of it. -/
def process (shop : Shop ε) (book : Json) (world : World ε) : Report ε :=
  match visitBook shop book world with
  | (.error (.pass error), world) =>
    if error.isDocumentError then
      ended 1 none ("Error: ".toList ++ error.message ++ ['\n']) world
    else broken (.pass error) world
  | (.error fault, world) => broken fault world
  | (.ok visited, world) =>
    if world.failures.isEmpty then
      let done := "Rendered book from ".toList ++ shop.source.text
      ended 0 (some (visited.write Json.spaced)) []
        { world with host := world.host.note 2 done }
    else ended 1 none (failuresText world.failures) world

/-- The world before anything is known. -/
def startWorld (host : Host) : World ε := ⟨[], Cache.new none, host, [], []⟩

/-- The report on a context and a book. -/
def runPair (ambient : Ambient) (base : Settings) (presses : Presses) (maker : Maker ε)
    (context book : Json) (host : Host) : Report ε :=
  let world : World ε := startWorld host
  match tableOf context with
  | .error fault => broken (.shape fault) world
  | .ok entries =>
    match world.override ambient base entries with
    | (.error (.invalid problems), world) => ended 1 none (settingsText (.invalid problems)) world
    | (.error error, world) => broken (.settings error) world
    | (.ok settings, world) =>
      match sourceDirectory context with
      | .error fault => broken (.shape fault) world
      | .ok source =>
        match withFonts ambient settings source world with
        | (.error fault, world) => broken fault world
        | (.ok settings, world) =>
          process ⟨ambient, settings, source, presses, maker⟩ book
            { world with cache := Cache.new settings.cacheDir }

/-- A call with words and with a text as its input. -/
def run (ambient : Ambient) (base : Settings) (presses : Presses) (maker : Maker ε) (words : List Text)
    (input : Text) (host : Host) : Report ε :=
  let world : World ε := startWorld host
  match askedOutput? words with
  | some output => ended (if supported.contains output then 0 else 1) none [] world
  | none =>
    match Json.read input with
    | .error fault => broken (.unreadable fault) world
    | .ok value =>
      match cutPair value with
      | .error fault => broken (.shape fault) world
      | .ok (context, book) => runPair ambient base presses maker context book host

end TypstFences.Book
