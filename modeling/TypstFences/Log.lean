import TypstFences.Template.Basic

/-!
# Log

Work writes messages of a level into a log; the reader's verbosity decides which of them are shown.
-/

set_option autoImplicit false

namespace TypstFences

/-- A message with its level: one for progress, two for details, three for traces. -/
structure LogEntry where
  level : Int
  message : Text
  deriving DecidableEq, Inhabited

/-- Messages in the order in which they were written. -/
abbrev Log := List LogEntry

namespace LogEntry

/-- The name of the level of a message. -/
def levelName (entry : LogEntry) : Text :=
  if entry.level = 1 then "INFO".toList
  else if entry.level = 2 then "DEBUG".toList
  else "TRACE".toList

/-- A message is shown when the verbosity reaches its level. -/
def isShown (verbosity : Int) (entry : LogEntry) : Bool := decide (entry.level ≤ verbosity)

/-- The names that a message and its level have where they are written. -/
def ownNames : List Text := ["message".toList, "level".toList]

/-- The names that a message, its level and the log have where the message is shown. -/
def loggerNames : List Text :=
  ["_Logger__self".toList, "_Logger__level".toList, "_Logger__message".toList]

/-- The message that a template gives with named values; without values it is the template itself. -/
def messageOf (address : Template.Address) (values : List (Text × Json)) (template : Text) :
    Except TemplateFault Text :=
  if values.isEmpty then .ok template else Template.fill address values template

/-- What a message with named values adds to what is shown at a verbosity. A template is filled only if it
is shown. Its values never have names that are taken. -/
def shownWith (address : Template.Address) (values : List (Text × Json)) (verbosity : Int)
    (entry : LogEntry) :
    Except TemplateFault (Option LogEntry) :=
  if values.any (ownNames.contains ·.1) then .error .unfit
  else if !entry.isShown verbosity then .ok none
  else if values.any (loggerNames.contains ·.1) then .error .unfit
  else
    match messageOf address values entry.message with
    | .ok message => .ok (some { entry with message := message })
    | .error fault => .error fault

end LogEntry

/-- The messages shown at a verbosity. -/
def Log.shown (log : Log) (verbosity : Int) : Log := log.filter (LogEntry.isShown verbosity)

end TypstFences
