import TypstFences.Proofs.Cache.Layers
import TypstFences.Proofs.Render.Identity
import TypstFences.Proofs.Render.Invocation
import TypstFences.Proofs.Render.Truth

/-!
# Caches that outlive their configuration

A key tells the source that is compiled, the format of the pages and the root, so two configurations that
give requests the same key have the program run alike but for the options besides the root
(`compiles_of_requestDigest`). These are not part of the key. As long as they stay the same, whatever else
changes, a cache that is kept serves what would be made afresh (`serveAll_eq`). When they change, it serves
what was made with the old ones (`fontUses_share_artifact`).
-/

set_option autoImplicit false

namespace TypstFences

/-! ## One key, two configurations -/

section Key

variable {ρ ρ' : Type} {settings settings' : Settings} {fonts fonts' : Option Text} {here here' : Place}
variable {request request' : Request}

/-- The engine that runs the program as settings want it, and lists the runs. -/
def loggedEngine (settings : Settings) (fonts : Option Text) (here : Place) (run : Typst.Runner ρ) :
    Engine (Typst.State (List Typst.Invocation × ρ)) :=
  Typst.engine (Typst.Config.ofSettings settings fonts) here (Typst.logged run)

/-- The options besides the root that settings want. -/
def otherOptions (settings : Settings) (fonts : Option Text) : List Text :=
  (Typst.Config.ofSettings settings fonts).otherOptions

/-- With one key, one source is compiled to pages of one format below one root. -/
theorem compiles_of_requestDigest {run : Typst.Runner ρ} {run' : Typst.Runner ρ'}
    {rig : Rig (Typst.State (List Typst.Invocation × ρ))}
    {rig' : Rig (Typst.State (List Typst.Invocation × ρ'))}
    (here_eq : rig.host.here = here) (here_eq' : rig'.host.here = here') {version version' : Text}
    (told : ((loggedEngine settings fonts here run).version rig).1 = .ok version)
    (told' : ((loggedEngine settings' fonts' here' run').version rig').1 = .ok version')
    (same : (requestDigest settings (loggedEngine settings fonts here run) request rig).1 =
      (requestDigest settings' (loggedEngine settings' fonts' here' run') request' rig').1)
    (noCollision : (requestDigest settings (loggedEngine settings fonts here run) request rig).1 =
        (requestDigest settings' (loggedEngine settings' fonts' here' run') request' rig').1 →
      (DigestInput.ofEngine settings (loggedEngine settings fonts here run) version request).text =
        (DigestInput.ofEngine settings' (loggedEngine settings' fonts' here' run') version' request').text) :
    ∃ source format root,
      Typst.Runs (Typst.Invocation.Compiles settings.engineExecutable source format
          (Typst.Config.rootOption root ++ otherOptions settings fonts))
        rig.state (submit settings (loggedEngine settings fonts here run) request rig).2.state ∧
      Typst.Runs (Typst.Invocation.Compiles settings'.engineExecutable source format
          (Typst.Config.rootOption root ++ otherOptions settings' fonts'))
        rig'.state (submit settings' (loggedEngine settings' fonts' here' run') request' rig').2.state := by
  simp only [DigestInput.requestDigest_fst, told, told', Except.map, Except.ok.injEq] at same noCollision
  have render := (DigestInput.digest_eq_iff noCollision).mp same
  have assembled : request'.assembled settings'.preamble = request.assembled settings.preamble := by
    obtain rfl : request = request' := render.request
    apply Request.assembled_eq
    unfold Request.preambleText
    split
    · exact (render.preamble ‹_›).symm
    · rfl
  have format : settings.outputFormat = settings'.outputFormat := render.format
  have root : (loggedEngine settings fonts here run).root =
      (loggedEngine settings' fonts' here' run').root := render.root
  refine ⟨request.assembled settings.preamble, settings.outputFormat,
    (loggedEngine settings fonts here run).root, ?_, ?_⟩
  · exact Typst.submit_logged _ run settings request here_eq
  · have runs := Typst.submit_logged (Typst.Config.ofSettings settings' fonts') run' settings' request'
      here_eq'
    rw [assembled] at runs
    rw [format, root]
    exact runs

end Key

/-! ## Many uses of one cache -/

variable {ε : Type}

/-- What the program makes: of a version, below a root, to pages of a format, with other options, of a
source. -/
abbrev Compilation := Text → Option Text → Text → List Text → Text → RenderResult

/-- One use of a pipeline: the settings with a font directory beside them, the engine in a state, the version
that it tells, the request, and whether the cache is opened anew for it. -/
structure PipelineUse (ε : Type) where
  settings : Settings
  fonts : Option Text
  engine : Engine ε
  state : ε
  version : Text
  request : Request
  reopens : Bool

namespace PipelineUse

/-- The options besides the root. -/
def options (use : PipelineUse ε) : List Text := otherOptions use.settings use.fonts

/-- All that the key is made of. -/
def input (use : PipelineUse ε) : DigestInput where
  request := use.request
  preamble := use.settings.preamble
  version := use.version
  format := use.settings.outputFormat
  root := use.engine.root

/-- What the program makes of sources for a use. -/
def answer (compiled : Compilation) (use : PipelineUse ε) : Text → RenderResult :=
  compiled use.version use.engine.root use.settings.outputFormat use.options

/-- The result that is made afresh. -/
def fresh (compiled : Compilation) (use : PipelineUse ε) : RenderResult :=
  use.request.answer (use.answer compiled) use.settings.preamble

/-- The use in a session that a cache in a directory is kept from. -/
def serve (directory : Text) (use : PipelineUse ε) (session : Session ε) :
    Except PassError RenderResult × Session ε :=
  renderRequest use.settings use.engine use.request
    ⟨if use.reopens then Cache.new (some directory) else session.cache, ⟨use.state, [], session.rig.host⟩⟩

/-- The results of uses one after the other. -/
def serveAll (directory : Text) : List (PipelineUse ε) → Session ε → List (Except PassError RenderResult)
  | [], _ => []
  | use :: uses, session =>
    (use.serve directory session).1 :: serveAll directory uses (use.serve directory session).2

/-- Whether the engine of a use runs the program, leaves the directory of the cache alone, and makes artifacts
that can be kept there. -/
structure Sound (compiled : Compilation) (directory : Path) (tag : Text) (use : PipelineUse ε) : Prop where
  answers : use.engine.Answers use.version (use.answer compiled)
  leaves : use.engine.LeavesAlone directory
  keepable : ∀ artifact, use.fresh compiled = .artifact artifact →
    artifact.IsPlain ∧ Store.refusal? directory tag use.input.digest artifact = none

/-- Whether keys of uses stand for one text each, and the options besides the root stay the same. -/
structure Compatible (uses : List (PipelineUse ε)) : Prop where
  noCollision : ∀ first ∈ uses, ∀ second ∈ uses,
    first.input.digest = second.input.digest → first.input.text = second.input.text
  options : ∀ first ∈ uses, ∀ second ∈ uses, first.options = second.options

variable {compiled : Compilation} {uses : List (PipelineUse ε)} {first second use : PipelineUse ε}
variable {directory tag : Text} {session : Session ε}

/-- With the same options, what is made afresh is told by the key. -/
theorem fresh_eq (compatible : Compatible uses) (mem : first ∈ uses) (mem' : second ∈ uses)
    (same : first.input.digest = second.input.digest) : first.fresh compiled = second.fresh compiled := by
  have render := DigestInput.sameRender_of_text (compatible.noCollision first mem second mem' same)
  have version : first.version = second.version := render.version
  have root : first.engine.root = second.engine.root := render.root
  have format : first.settings.outputFormat = second.settings.outputFormat := render.format
  have request : first.request = second.request := render.request
  have preamble : second.request.preambleText first.settings.preamble =
      second.request.preambleText second.settings.preamble := by
    unfold Request.preambleText
    split
    · rename_i used
      rw [← request] at used
      exact render.preamble used
    · rfl
  rw [fresh, fresh, answer, answer, version, root, format, compatible.options first mem second mem', request,
    Request.answer, Request.answer, Request.assembled_eq preamble, Request.preambleLines_eq preamble]

/-- The results of uses by their keys. -/
def value (compiled : Compilation) (uses : List (PipelineUse ε)) (key : Text) : Option RenderResult :=
  (uses.find? fun use => use.input.digest == key).map (fresh compiled)

/-- The value of the digest of a use is what it compiles to. -/
theorem value_eq (compatible : Compatible uses) (mem : use ∈ uses) :
    value compiled uses use.input.digest = some (use.fresh compiled) := by
  unfold value
  cases found : uses.find? fun other => other.input.digest == use.input.digest with
  | none => exact absurd (List.find?_eq_none.mp found use mem) (by simp)
  | some other =>
    have same : other.input.digest = use.input.digest := by simpa using List.find?_some found
    have listed : other ∈ uses := List.mem_of_find?_eq_some found
    rw [Option.map_some, fresh_eq compatible listed mem same]

/-- The artifacts that are values can be stored, if the uses are sound. -/
theorem storing_value (sound : ∀ use ∈ uses, use.Sound compiled (Path.ofText directory) tag) :
    Storing (value compiled uses) tag (some (Path.ofText directory)) := by
  intro path path_eq key artifact known
  obtain rfl := Option.some.inj path_eq
  obtain ⟨use, found, made⟩ := Option.map_eq_some_iff.mp known
  obtain rfl : use.input.digest = key := by simpa using List.find?_some found
  exact (sound use (List.mem_of_find?_eq_some found)).keepable artifact made

/-- A new cache uses the directory that it is given. -/
theorem uses_new (directory : Text) (path : Path)
    (used : (Cache.new (some directory)).directory = some path) : some
    (Path.ofText directory) = some path := by
  by_cases named : directory = []
  · exact absurd used (by simp [Cache.new, Option.filter, named])
  · rw [← used]
    simp [Cache.new, Option.filter, named]

/-- A use in a session that knows nothing false serves what is made afresh, and leaves such a session. -/
theorem serve_eq (compatible : Compatible uses)
    (sound : ∀ use ∈ uses, use.Sound compiled (Path.ofText directory) tag) (mem : use ∈ uses)
    (truthful : session.Truthful (value compiled uses) tag (some (Path.ofText directory))) :
    (use.serve directory session).1 = .ok (use.fresh compiled) ∧
      (use.serve directory session).2.Truthful (value compiled uses) tag (some (Path.ofText directory)) := by
  have opened : Session.Truthful (value compiled uses) tag (some (Path.ofText directory))
      (⟨if use.reopens then Cache.new (some directory) else session.cache,
        ⟨use.state, [], session.rig.host⟩⟩ : Session ε) := by
    cases use.reopens with
    | false => exact ⟨truthful.memory, truthful.uses, truthful.disk⟩
    | true => exact Session.truthful_new rfl (uses_new directory) truthful.disk
  refine opened.renderRequest (sound use mem).answers ?_ (storing_value sound) (value_eq compatible mem)
  intro path path_eq
  exact Option.some.inj path_eq ▸ (sound use mem).leaves

/-- All uses serve what is made afresh. -/
theorem serveAll_eq (compatible : Compatible uses)
    (sound : ∀ use ∈ uses, use.Sound compiled (Path.ofText directory) tag) :
    ∀ {session : Session ε} {later : List (PipelineUse ε)}, later ⊆ uses →
      session.Truthful (value compiled uses) tag (some (Path.ofText directory)) →
        serveAll directory later session = later.map fun use => .ok (use.fresh compiled) := by
  intro session later
  induction later generalizing session with
  | nil => exact fun _ _ => rfl
  | cons use later ih =>
    intro among truthful
    obtain ⟨served, after⟩ := serve_eq compatible sound (among List.mem_cons_self) truthful
    have others : later ⊆ uses := fun other mem => among (List.mem_cons_of_mem use mem)
    rw [serveAll, served, ih others after, List.map_cons]

end PipelineUse

/-- With one key, two configurations whose engines tell versions have one source compiled to pages of one
format below one root, and the runs differ in the other options only. So in a directory that holds nothing at
first, a cache that is used with one configuration after the other, and opened anew or not, serves for each
request what would be made afresh, as long as the other options stay the same. -/
theorem kept_cache_serves_one_compilation {ρ ρ' ε : Type} :
    (∀ (run : Typst.Runner ρ) (run' : Typst.Runner ρ') (settings settings' : Settings)
      (fonts fonts' : Option Text) (request request' : Request)
      (rig : Rig (Typst.State (List Typst.Invocation × ρ)))
      (rig' : Rig (Typst.State (List Typst.Invocation × ρ'))) (version version' : Text),
      let engine := loggedEngine settings fonts rig.host.here run
      let engine' := loggedEngine settings' fonts' rig'.host.here run'
      (engine.version rig).1 = .ok version → (engine'.version rig').1 = .ok version' →
      (requestDigest settings engine request rig).1 = (requestDigest settings' engine' request' rig').1 →
      ((requestDigest settings engine request rig).1 = (requestDigest settings' engine' request' rig').1 →
        (DigestInput.ofEngine settings engine version request).text =
          (DigestInput.ofEngine settings' engine' version' request').text) →
      ∃ source format root,
        Typst.Runs (Typst.Invocation.Compiles settings.engineExecutable source format
            (Typst.Config.rootOption root ++ otherOptions settings fonts))
          rig.state (submit settings engine request rig).2.state ∧
        Typst.Runs (Typst.Invocation.Compiles settings'.engineExecutable source format
            (Typst.Config.rootOption root ++ otherOptions settings' fonts'))
          rig'.state (submit settings' engine' request' rig').2.state) ∧
    ∀ (compiled : Compilation) (directory : Text) (uses : List (PipelineUse ε)) (rig : Rig ε),
      PipelineUse.Compatible uses →
      (∀ use ∈ uses, use.Sound compiled (Path.ofText directory) rig.host.tag) →
      Store.Holds (Path.ofText directory) Store.emptyDisk rig.host →
        PipelineUse.serveAll directory uses ⟨Cache.new (some directory), rig⟩ =
          uses.map fun use => .ok (use.fresh compiled) := by
  constructor
  · intro run run' settings settings' fonts fonts' request request' rig rig' version version' engine engine'
      told
      told' same noCollision
    exact compiles_of_requestDigest rfl rfl told told' same noCollision
  · intro compiled directory uses rig compatible sound empty
    apply PipelineUse.serveAll_eq compatible sound (List.Subset.refl uses)
    refine Session.truthful_new rfl (PipelineUse.uses_new directory) ?_
    intro path path_eq
    obtain rfl := Option.some.inj path_eq
    exact ⟨rfl, _, empty, fun key artifact _ found => absurd found (by simp [Store.emptyDisk])⟩

/-! ## A program that shows its options -/

/-- The default settings with a font directory. -/
def fontSettings (fonts : Text) : Settings := { Settings.default with fontPath := some fonts }

/-- A block without the preamble. -/
def bareRequest : Request := ⟨"x\n".toList, false⟩

/-- A program that writes one page, which has its options. -/
def optionRunner : Typst.Runner Unit := fun invocation state =>
  (⟨if invocation.arguments.length = 2 then []
    else [(Path.ofText "/w/page-1.svg".toList, Text.encodeUtf8 (invocation.arguments.drop 4).flatten)],
    .exited 0 [] []⟩, state)

/-- A new cache for the engine that runs this program with a font directory. -/
def fontUse (fonts : Text) : PipelineUse (Typst.State (List Typst.Invocation × Unit)) where
  settings := fontSettings fonts
  fonts := none
  engine := loggedEngine (fontSettings fonts) none [] optionRunner
  state := ⟨none, [], ()⟩
  version := Typst.unknownVersion
  request := bareRequest
  reopens := true

/-- A rig on a host without files. -/
def fontRig : Rig (Typst.State (List Typst.Invocation × Unit)) :=
  ⟨⟨none, [], ()⟩, [], ⟨FileTree.empty, [], [['w']], ['1'], []⟩⟩

/-- A program that writes one page, which has its options besides the root and the source. -/
def echo : Compilation := fun _ _ format options source =>
  .artifact ⟨[Text.encodeUtf8 (options.flatten ++ source)], format⟩

/-- A new cache for an engine that runs this program. -/
def echoUse (settings : Settings) : PipelineUse Unit where
  settings := settings
  fonts := none
  engine := Engine.pure "1".toList settings.engineRoot
    (echo "1".toList settings.engineRoot settings.outputFormat (otherOptions settings none))
  state := ()
  version := "1".toList
  request := bareRequest
  reopens := true

/-- The page that it writes for the block with a font directory. -/
def echoPage : Artifact := ⟨[Text.encodeUtf8 "--font-pathfx\n".toList], "svg".toList⟩

/-- Three configurations with one font directory, of which two have one key. -/
def echoUses : List (PipelineUse Unit) :=
  [echoUse (fontSettings ['f']), echoUse { fontSettings ['f'] with preamble := ['#'] },
    echoUse { fontSettings ['f'] with engineRoot := some "/r".toList }]

/-- The uses of the echoing engine are compatible. -/
theorem echoUses_compatible : PipelineUse.Compatible echoUses where
  noCollision := by decide +kernel
  options := by decide

/-- Each of them is sound. -/
theorem echoUse_sound {use : PipelineUse Unit} (mem : use ∈ echoUses) :
    use.Sound echo (Path.ofText cacheName) bareRig.host.tag := by
  have leaves (settings : Settings) : (echoUse settings).engine.LeavesAlone (Path.ofText cacheName) :=
    ⟨fun _ => ⟨fun _ h => h, rfl⟩, fun _ _ => ⟨fun _ h => h, rfl⟩⟩
  have made : ∀ use ∈ echoUses, use.fresh echo = .artifact echoPage ∧
      Store.refusal? (Path.ofText cacheName) bareRig.host.tag use.input.digest echoPage = none := by
    decide +kernel
  obtain ⟨fresh_eq, accepted⟩ := made use mem
  simp only [echoUses, List.mem_cons, List.not_mem_nil, or_false] at mem
  refine ⟨?_, ?_, ?_⟩
  · rcases mem with rfl | rfl | rfl <;> exact ⟨fun _ => rfl, fun _ _ => rfl⟩
  · rcases mem with rfl | rfl | rfl <;> exact leaves _
  · intro artifact fresh
    rw [fresh_eq] at fresh
    obtain rfl := RenderResult.artifact.inj fresh
    exact ⟨⟨by decide, by decide, by decide, by decide⟩, accepted⟩

/-- With one font directory the three configurations are served what each would make. -/
theorem echoUses_served :
    (∃ source format root,
      Typst.Runs (Typst.Invocation.Compiles "typst".toList source format
          (Typst.Config.rootOption root ++ ["--font-path".toList, ['f']]))
        fontRig.state (submit (fontSettings ['f']) (loggedEngine (fontSettings ['f']) none [] optionRunner)
          bareRequest fontRig).2.state ∧
      Typst.Runs (Typst.Invocation.Compiles "typst".toList source format
          (Typst.Config.rootOption root ++ ["--font-path".toList, ['f']]))
        fontRig.state (submit { fontSettings ['f'] with preamble := ['#'] }
          (loggedEngine { fontSettings ['f'] with preamble := ['#'] } none [] optionRunner)
          bareRequest fontRig).2.state) ∧
    PipelineUse.serveAll cacheName echoUses ⟨Cache.new (some cacheName), bareRig⟩ =
      [.ok (.artifact echoPage), .ok (.artifact echoPage), .ok (.artifact echoPage)] := by
  obtain ⟨runs, serves⟩ := @kept_cache_serves_one_compilation Unit Unit Unit
  constructor
  · exact runs optionRunner optionRunner (fontSettings ['f']) { fontSettings ['f'] with preamble := ['#'] }
      none none bareRequest bareRequest fontRig fontRig Typst.unknownVersion Typst.unknownVersion
      (by decide +kernel) (by decide +kernel) (by decide +kernel) (by decide +kernel)
  · rw [serves echo cacheName echoUses bareRig echoUses_compatible (fun _ => echoUse_sound) bareRig_holds]
    decide +kernel

/-- The options that the program is run with for a request. -/
def optionsRun (fonts : Text) : List (List Text) :=
  (submit (fontSettings fonts) (loggedEngine (fontSettings fonts) none [] optionRunner) bareRequest
    fontRig).2.state.runner.1.map fun invocation => invocation.arguments.drop 4

/-- The page that is made with a font directory. -/
def fontPage (fonts : Text) : RenderResult :=
  .artifact ⟨[Text.encodeUtf8 ("--font-path".toList ++ fonts)], "svg".toList⟩

/-- With another font directory the same request has the same key and other options, and a cache that is kept
serves the page that was made with the first directory, where a new one has the page that is made with the
second. -/
theorem fontUses_share_artifact :
    (requestDigest (fontSettings ['a']) (fontUse ['a']).engine bareRequest fontRig).1 =
      (requestDigest (fontSettings ['b']) (fontUse ['b']).engine bareRequest fontRig).1 ∧
    optionsRun ['a'] = [["--font-path".toList, ['a']]] ∧
    optionsRun ['b'] = [["--font-path".toList, ['b']]] ∧
    PipelineUse.serveAll cacheName [fontUse ['a'], fontUse ['b']] ⟨Cache.new (some cacheName), fontRig⟩ =
      [.ok (fontPage ['a']), .ok (fontPage ['a'])] ∧
    PipelineUse.serveAll cacheName [fontUse ['b']] ⟨Cache.new (some cacheName), fontRig⟩ =
      [.ok (fontPage ['b'])] ∧
    fontPage ['a'] ≠ fontPage ['b'] := by
  refine ⟨?_, ?_, ?_, ?_, ?_, ?_⟩
  · decide +kernel
  · decide +kernel
  · decide +kernel
  · decide +kernel
  · decide +kernel
  · decide +kernel

end TypstFences
