import TypstFences.Book.Context
import TypstFences.Json.Reader
import TypstFences.Json.Writer
import TypstFences.Pass.Basic

/-!
# The chapters of a book

The chapters are compiled in the order of the book, a chapter before its sub-items. Each is compiled
with its directory as the root of the engine, unless the settings name a root; chapters of one
directory share an engine, and all share the cache. Nothing in the book changes but the contents of
the chapters.
-/

set_option autoImplicit false

namespace TypstFences.Book

/-- Why the work on a book ends: a text that cannot be read, a value of the wrong shape, settings that are
refused, or a pass without a result. -/
inductive Fault where
  | unreadable (fault : Json.Fault)
  | shape (fault : ShapeFault)
  | settings (error : SettingsError)
  | pass (error : PassError)
  deriving DecidableEq, Inhabited

/-- How engines are made: for settings, in a directory, with a state of their own. -/
structure Maker (ε : Type) where
  make : Settings → Place → Engine ε
  state : ε

/-- The engine for the chapters of a directory: its settings, its state, and what was submitted to
it. -/
structure Bench (ε : Type) where
  directory : Path
  settings : Settings
  state : ε
  submitted : List Text

/-- What does not change while the chapters are compiled. -/
structure Shop (ε : Type) where
  ambient : Ambient
  settings : Settings
  source : Path
  presses : Presses
  maker : Maker ε

/-- What changes while the chapters are compiled: the engines in the order in which they were made, the
cache, the host, the failures of the chapters so far, and what the reader was warned of. -/
structure World (ε : Type) where
  benches : List (Bench ε)
  cache : Cache
  host : Host
  failures : List BlockFailure
  warnings : List Text

variable {ε : Type}

/-- The world after an operation on its host; a refused one is a fault. -/
def World.change (world : World ε) (operation : Host → Except FileError Unit × Host) :
    Except Fault Unit × World ε :=
  match operation world.host with
  | (.ok (), host) => (.ok (), { world with host := host })
  | (.error error, host) => (.error (.pass (.refusedFile error)), { world with host := host })

/-- What the settings for the chapters of a directory differ in: it is the root, unless there is one. -/
def rootEntries (shop : Shop ε) (directory : Path) : List (Text × Json) :=
  match shop.settings.engineRoot with
  | some _ => []
  | none => [(Field.name .engineRoot, .string directory.text)]

/-- Settings changed in a world. -/
def World.override (world : World ε) (ambient : Ambient) (settings : Settings)
    (entries : List (Text × Json)) : Except SettingsError Settings × World ε :=
  (Settings.override ambient settings entries,
    { world with warnings := world.warnings ++ Settings.warnings ambient entries })

/-- The bench for the chapters of a directory, which is set up for the first of them. -/
def benchFor (shop : Shop ε) (directory : Path) (world : World ε) :
    Except Fault (Bench ε) × World ε :=
  match world.benches.find? fun bench => bench.directory == directory with
  | some bench => (.ok bench, world)
  | none =>
    match world.override shop.ambient shop.settings (rootEntries shop directory) with
    | (.error error, world) => (.error (.settings error), world)
    | (.ok settings, world) =>
      let bench : Bench ε := ⟨directory, settings, shop.maker.state, []⟩
      (.ok bench, { world with benches := world.benches ++ [bench] })

/-- The benches with another bench for its directory. -/
def replaceBench (bench : Bench ε) (benches : List (Bench ε)) : List (Bench ε) :=
  benches.map fun old => if old.directory = bench.directory then bench else old

/-- A pass at a bench. -/
def passAt (shop : Shop ε) (bench : Bench ε) (name content : Text) (world : World ε) :
    Except PassError PassResult × World ε :=
  let engine := shop.maker.make bench.settings world.host.here
  let session : Session ε := ⟨world.cache, ⟨bench.state, bench.submitted, world.host⟩⟩
  let press := shop.presses.at world.host
  let (outcome, session) := Pass.run press bench.settings engine Registry.typst name content session
  let rig := session.rig
  let bench := { bench with state := rig.state, submitted := rig.submitted }
  (outcome,
    { world with
      benches := replaceBench bench world.benches
      cache := session.cache
      host := rig.host })

/-- The key of the path of a chapter. -/
def pathKey : Text := "path".toList

/-- The key of the content of a chapter. -/
def contentKey : Text := "content".toList

/-- The name of a chapter in messages: its path, or else its title. -/
def chapterName (chapter : Json) : Text :=
  match firstField chapter [pathKey, "name".toList] with
  | some value => value.shown
  | none => "<chapter>".toList

/-- The directory of a chapter; a chapter without a path belongs to the source directory. -/
def chapterDirectory (source : Path) (chapter : Json) : Except ShapeFault Path :=
  match firstField chapter [pathKey] with
  | none => .ok source
  | some value =>
    match pathOf value with
    | .ok path => .ok (source.join path.parent)
    | .error fault => .error fault

/-- The content of a chapter; it may be missing, but it may not be anything but a text. -/
def chapterContent (chapter : Json) : Except ShapeFault Text :=
  match chapter.field? contentKey with
  | none => .ok []
  | some (.string text) => .ok text
  | some _ => .error .noFields

/-- The images of a chapter are written into the image directory beside it. -/
def writeImages (shop : Shop ε) (directory : Path) (result : PassResult) (world : World ε) :
    Except Fault Unit × World ε :=
  if result.artifacts.isEmpty then (.ok (), world)
  else
    world.change fun host =>
      host.fillDirectory (directory.child shop.settings.imageDir) result.artifacts

/-- A chapter is compiled; what it is to contain is returned. -/
def compileChapter (shop : Shop ε) (chapter : Json) (world : World ε) :
    Except Fault Text × World ε :=
  match chapterDirectory shop.source chapter with
  | .error fault => (.error (.shape fault), world)
  | .ok directory =>
    match world.change fun host => host.ensureDirectories directory with
    | (.error fault, world) => (.error fault, world)
    | (.ok (), world) =>
      match benchFor shop directory world with
      | (.error fault, world) => (.error fault, world)
      | (.ok bench, world) =>
        match chapterContent chapter with
        | .error fault => (.error (.shape fault), world)
        | .ok content =>
          match passAt shop bench (chapterName chapter) content world with
          | (.error error, world) => (.error (.pass error), world)
          | (.ok result, world) =>
            let world := { world with failures := world.failures ++ result.failures }
            match writeImages shop directory result world with
            | (.ok (), world) => (.ok result.output, world)
            | (.error fault, world) => (.error fault, world)

/-- The key of a chapter in a section. -/
def chapterKey : Text := "Chapter".toList

/-- The key of the title of a part in a section. -/
def partKey : Text := "PartTitle".toList

/-- The key of the sections below a chapter or a part. -/
def childrenKey : Text := "sub_items".toList

/-- Whether a text occurs in another. -/
def occursIn (part : Text) : Text → Bool
  | [] => part.isEmpty
  | c :: rest => part.isPrefixOf (c :: rest) || occursIn part rest

/-- Whether a section that is no object is one that can be passed over: a text or a list that does not
hold the name of a key. -/
def isPassedOver : Json → Bool
  | .string text => !occursIn chapterKey text && !occursIn partKey text
  | .list items => items.all fun part => part.text? != some chapterKey && part.text? != some partKey
  | _ => false

/-- Whether a value that stands where sections should can be passed over. -/
def isPassedOverGroup : Json → Bool
  | .string _ => true
  | .object fields => fields.all fun field => isPassedOver (.string field.1)
  | _ => false

mutual

/-- A section is visited: a chapter is compiled and the sections below it are visited, and so are those
below a part. The section is returned with the new contents in it. -/
def visit (shop : Shop ε) (item : Json) (world : World ε) : Except Fault Json × World ε :=
  match item with
  | .object fields =>
    match _h : Json.lookup chapterKey fields with
    | some (.object chapterFields) =>
      match compileChapter shop (.object chapterFields) world with
      | (.error fault, world) => (.error fault, world)
      | (.ok content, world) =>
        match visitBelow shop chapterFields world with
        | (.error fault, world) => (.error fault, world)
        | (.ok visited, world) =>
          let chapter := Json.object (Json.assign contentKey (.string content) visited)
          (.ok (.object (Json.assign chapterKey chapter fields)), world)
    | some _ => (.error (.shape .noFields), world)
    | none =>
      match _h : Json.lookup partKey fields with
      | some (.object partFields) =>
        match visitBelow shop partFields world with
        | (.error fault, world) => (.error fault, world)
        | (.ok visited, world) =>
          (.ok (.object (Json.assign partKey (.object visited) fields)), world)
      | _ => (.ok (.object fields), world)
  | other =>
    if isPassedOver other then (.ok other, world) else (.error (.shape .unusable), world)
termination_by sizeOf item
decreasing_by
  · have := Json.sizeOf_lt_of_lookup _h
    simp at this ⊢
    omega
  · have := Json.sizeOf_lt_of_lookup _h
    simp at this ⊢
    omega

/-- The sections below a chapter or a part with some fields are visited. -/
def visitBelow (shop : Shop ε) (fields : List (Text × Json)) (world : World ε) :
    Except Fault (List (Text × Json)) × World ε :=
  match _h : Json.lookup childrenKey fields with
  | none => (.ok fields, world)
  | some (.list children) =>
    match visitAll shop children world with
    | (.error fault, world) => (.error fault, world)
    | (.ok visited, world) => (.ok (Json.assign childrenKey (.list visited) fields), world)
  | some other =>
    if isPassedOverGroup other then (.ok fields, world) else (.error (.shape .unusable), world)
termination_by sizeOf fields
decreasing_by
  have := Json.sizeOf_lt_of_lookup _h
  simp at this
  omega

/-- Sections are visited one after the other. -/
def visitAll (shop : Shop ε) (sections : List Json) (world : World ε) :
    Except Fault (List Json) × World ε :=
  match sections with
  | [] => (.ok [], world)
  | first :: rest =>
    match visit shop first world with
    | (.error fault, world) => (.error fault, world)
    | (.ok visited, world) =>
      match visitAll shop rest world with
      | (.error fault, world) => (.error fault, world)
      | (.ok others, world) => (.ok (visited :: others), world)
termination_by sizeOf sections

end

/-- The keys under which a book may have its sections; the first with any counts. -/
def sectionKeys : List Text := ["sections".toList, "items".toList]

/-- The sections of a book are visited. -/
def visitUnder (shop : Shop ε) (fields : List (Text × Json)) (world : World ε) :
    List Text → Except Fault Json × World ε
  | [] => (.ok (.object fields), world)
  | key :: keys =>
    match (Json.lookup key fields).filter fun value => !value.isNothing with
    | none => visitUnder shop fields world keys
    | some (.list sections) =>
      match visitAll shop sections world with
      | (.error fault, world) => (.error fault, world)
      | (.ok visited, world) => (.ok (.object (Json.assign key (.list visited) fields)), world)
    | some other =>
      if isPassedOverGroup other then (.ok (.object fields), world)
      else (.error (.shape .unusable), world)

/-- A book is visited. -/
def visitBook (shop : Shop ε) (book : Json) (world : World ε) : Except Fault Json × World ε :=
  match book with
  | .object fields => visitUnder shop fields world sectionKeys
  | _ => (.error (.shape .noFields), world)

end TypstFences.Book
