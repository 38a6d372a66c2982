import TypstFences.Proofs.Pass.Untouched
import TypstFences.Proofs.Site.Writing

/-!
# Foreign documents

A document is foreign if no fence of it is left open and none has a registered tag. A run writes the text of
such a document as it was read, with nothing beside it, whatever the run has come to before and whatever comes
after (`foreign_documents_are_written_as_read`). As line endings are unified when a document is read, these
are the bytes of its file if and only if there are no carriage returns in it.
-/

set_option autoImplicit false

namespace TypstFences.Site

variable {ε : Type} {input output : Path} {state : State} {world : World ε} {source : Source}

/-- Whether a document is foreign: as it is read, no fence is left open, and no tag is registered. -/
structure Source.Foreign (source : Source) : Prop where
  closed : (scan source.text).unclosed = none
  unregistered : ∀ fence, .fence fence ∈ (scan source.text).segments →
    Registry.typst.isRegistered (Directive.tagOf fence.info) = false

/-- The result of a pass that changes nothing in a document. -/
def Source.asRead (source : Source) : PassResult := ⟨source.text, [], []⟩

/-- The state after documents that nothing was changed in. -/
def State.withAsRead (state : State) (sources : List Source) : State :=
  sources.foldl (fun state source => state.withResult source.relative.text source.asRead) state

/-- Whether no document of a run is written in the place of another one that comes after it, be it where that
is read or where it is written. -/
def Apart (output : Path) (here : Place) (first second : Source) : Prop :=
  (output.join first.relative).resolve here ≠ second.path.resolve here ∧
    (output.join first.relative).resolve here ≠ (output.join second.relative).resolve here

/-- The edits that foreign documents are written by. -/
def AsReadEdits (settings : Settings) (output : Path) (sources : List Source) (here : Place) (edit : Edit) :
    Prop :=
  ∃ source ∈ sources, WriteEdits settings (output.join source.relative) source.asRead here edit

/-- A document that nothing was changed in is written to one file. -/
theorem WriteEdits.place_of_asRead {settings : Settings} {target : Path} {here : Place} {edit : Edit}
    (h : WriteEdits settings target source.asRead here edit) :
    edit = .directory edit.place ∨ edit.place = target.resolve here := by
  cases edit with
  | directory place => exact .inl rfl
  | file place content =>
    obtain ⟨file, mem, same⟩ := h
    obtain rfl := List.mem_singleton.mp mem
    exact .inr (congrArg Edit.place same)
  | removal place => exact absurd h not_false

/-- A foreign document is written as it was read, unless the file system refuses it, and the run goes on with
the cache as it was. -/
theorem compileAll_foreign (presses : Presses) (settings : Settings) (engine : Engine ε)
    (foreign : source.Foreign)
    (directory : state.output = some output) (found : source.Found input world.host) (paths : List Path)
    (cache : Cache) :
    (∃ fault changed, compileAll presses settings engine input (source.path :: paths) state cache world =
        (.error (.broken (.refusedFile fault)), changed)) ∨
      ∃ after, compileAll presses settings engine input (source.path :: paths) state cache world =
          compileAll presses settings engine input paths
            (state.withResult source.relative.text source.asRead) cache after ∧
        Host.Edited (WriteEdits settings (output.join source.relative) source.asRead world.host.here)
          world.host after.host ∧
        after.host.files.HasFile world.host.here (output.join source.relative)
          (Text.encodeUtf8 source.text) := by
  have rests : AtRest settings Registry.typst source.text :=
    atRest_of_unregistered foreign.closed foreign.unregistered
  obtain ⟨host, ⟨log, rfl⟩, ran⟩ := Pass.runWith_atRest rests Schedule.inOrder
    (presses.at (world.processing source).host) engine source.relative.text
    ⟨cache, (world.processing source).rig⟩
  let session : Session ε := ⟨cache, { (world.processing source).rig with
    host := { (world.processing source).rig.host with log := log } }⟩
  have passed : Pass.run (presses.at (world.processing source).host) settings engine Registry.typst
      source.relative.text source.text
      ⟨cache, (world.processing source).rig⟩ = (.ok source.asRead, session) := ran
  rw [compileAll_cons presses settings engine paths state cache found, passed, directory]
  have single : Host.Single world.host.here
      (filesOf settings (output.join source.relative) source.asRead) := by
    intro file mem other mem' _
    rw [List.mem_singleton.mp mem, List.mem_singleton.mp mem']
  -- the files of the world are still the same
  have cases : (∃ fault changed, writeResult settings (output.join source.relative) source.asRead
      (world.withSession session) = (.error (.broken (.refusedFile fault)), changed) ∧
        WriteRefused settings (output.join source.relative) source.asRead (world.withSession session).host
          fault) ∨
      ∃ host, _ ∧ Host.Edited _ _ host ∧ _ := writeResult_cases single
  simp only
  rcases cases with ⟨fault, changed, refused, -⟩ | ⟨after, written, edited, there⟩
  · exact .inl ⟨fault, changed, by rw [refused]⟩
  · rw [written]
    exact .inr ⟨_, rfl, ⟨edited.files, edited.here, edited.tag⟩, there _ List.mem_cons_self⟩

/-- Foreign documents are written as they were read, one after the other. -/
theorem compileAll_foreigns (presses : Presses) (settings : Settings) (engine : Engine ε)
    (input output : Path) (cache : Cache)
    (paths : List Path) {sources : List Source} (foreign : ∀ source ∈ sources, source.Foreign) :
    ∀ {state : State} {world : World ε}, state.output = some output →
      (∀ source ∈ sources, source.Found input world.host) →
      sources.Pairwise (Apart output world.host.here) →
      (∃ fault changed, compileAll presses settings engine input (sources.map Source.path ++ paths) state
          cache world =
          (.error (.broken (.refusedFile fault)), changed)) ∨
        ∃ after, compileAll presses settings engine input (sources.map Source.path ++ paths) state cache
            world =
            compileAll presses settings engine input paths (state.withAsRead sources) cache after ∧
          Host.Edited (AsReadEdits settings output sources world.host.here) world.host after.host ∧
          ∀ source ∈ sources, after.host.files.HasFile world.host.here (output.join source.relative)
            (Text.encodeUtf8 source.text) := by
  induction sources with
  | nil =>
    intro state world _ _ _
    exact .inr ⟨world, rfl, .refl _, fun _ mem => absurd mem List.not_mem_nil⟩
  | cons source sources ih =>
    intro state world directory found apart
    rw [List.pairwise_cons] at apart
    obtain ⟨apart, rest⟩ := apart
    rw [List.map_cons, List.cons_append]
    rcases compileAll_foreign presses settings engine (foreign source List.mem_cons_self) directory
        (found source List.mem_cons_self) (sources.map Source.path ++ paths) cache with
      ⟨fault, changed, refused⟩ | ⟨between, run, edited, file⟩
    · exact .inl ⟨fault, changed, refused⟩
    rw [run]
    have found' : ∀ other ∈ sources, other.Found input between.host := by
      intro other mem
      refine (found other (List.mem_cons_of_mem _ mem)).edited edited fun edit writes same => ?_
      rcases writes.place_of_asRead with directory | place
      · exact .inl (same ▸ directory)
      · exact absurd (place.symm.trans same) (apart other mem).1
    have directory' : (state.withResult source.relative.text source.asRead).output = some output := directory
    rw [← edited.here] at rest
    rcases ih (fun other mem => foreign other (List.mem_cons_of_mem _ mem)) directory' found' rest with
      refused | ⟨after, run', edited', files⟩
    · exact .inl refused
    · rw [edited.here] at edited' files
      refine .inr ⟨after, run', ?_, ?_⟩
      · exact (edited.mono fun edit writes => ⟨source, List.mem_cons_self, writes⟩).trans
          (edited'.mono fun edit ⟨other, mem, writes⟩ => ⟨other, List.mem_cons_of_mem _ mem, writes⟩)
      · intro other mem
        rcases List.mem_cons.mp mem with rfl | later
        · -- the file of the first one stays while the others are written
          refine edited'.files.hasFile file fun edit ⟨another, mem, writes⟩ same => ?_
          rcases writes.place_of_asRead with directory | place
          · exact .inl (same ▸ directory)
          · exact absurd (same.symm.trans place) (apart another mem).2
        · exact files other later

/-- Whatever a run has come to, foreign documents that it comes to next are written as they were read, and
stay so while the others of them are written: either the file system refuses one, or the run goes on behind
them from a world with all their files. The bytes of such a file are those of the document if and only if
there are no carriage returns in it. -/
theorem foreign_documents_are_written_as_read (presses : Presses) (settings : Settings) (engine : Engine ε)
    (input output : Path) {sources : List Source} (foreign : ∀ source ∈ sources, source.Foreign)
    {state : State}
    (directory : state.output = some output) {world : World ε}
    (found : ∀ source ∈ sources, source.Found input world.host)
    (apart : sources.Pairwise (Apart output world.host.here)) (paths : List Path) (cache : Cache) :
    ((∃ fault changed, compileAll presses settings engine input (sources.map Source.path ++ paths) state
        cache world =
        (.error (.broken (.refusedFile fault)), changed)) ∨
      ∃ after, compileAll presses settings engine input (sources.map Source.path ++ paths) state cache world =
          compileAll presses settings engine input paths (state.withAsRead sources) cache after ∧
        ∀ source ∈ sources, after.host.files.HasFile world.host.here (output.join source.relative)
          (Text.encodeUtf8 source.text)) ∧
      ∀ source ∈ sources, Text.encodeUtf8 source.text = source.content ↔ '\r' ∉ source.raw := by
  refine ⟨?_, fun source _ => Text.encodeUtf8_unifyLineEndings source.raw⟩
  rcases compileAll_foreigns presses settings engine input output cache paths foreign directory found
    apart with
    refused | ⟨after, run, -, files⟩
  · exact .inl refused
  · exact .inr ⟨after, run, files⟩

/-- A document with a foreign fence and no line feed at its end. -/
def foreignPage : Source :=
  ⟨Path.ofText "in/a.md".toList, Path.ofText "a.md".toList, "a\n```rust,=\nx\n```".toList⟩

/-- A document whose first line ends with a carriage return and a line feed. -/
def returnPage : Source :=
  ⟨Path.ofText "in/b.md".toList, Path.ofText "b.md".toList, "a\r\nb\n".toList⟩

/-- A host with documents, and with a directory for what is made of them. -/
def hostOf (sources : List Source) : Host where
  files := sources.foldl (fun tree source => tree.put (source.path.resolve []) (.file source.content))
    ((FileTree.empty.put ["in".toList] .directory).put ["out".toList] .directory)
  here := []
  scratch := []
  tag := ['1']
  log := []

/-- The state of a run over such a host. -/
def siteState : State := State.ofOptions default (Path.ofText "in".toList) (Path.ofText "out".toList)

/-- The world on such a host. -/
def siteWorld (sources : List Source) : World Unit := ⟨{ bareRig with host := hostOf sources }, []⟩

/-- The run over the documents of such a host, with the default settings. -/
def siteRun (sources : List Source) : Except End State × World Unit :=
  compileAll barePresses Settings.default (bareCall onePage []).engine (Path.ofText "in".toList)
    (sources.map Source.path) siteState (Cache.new none) (siteWorld sources)

/-- The first document is foreign. -/
theorem foreignPage_foreign : foreignPage.Foreign := by
  refine ⟨by decide, ?_⟩
  have segments : (scan foreignPage.text).segments =
      [.text "a\n".toList, .fence ⟨"```rust,=\n".toList, "x\n".toList, "```".toList,
        ⟨[], 3, "rust,=".toList⟩, 2⟩] := by decide
  intro fence mem
  rw [segments] at mem
  obtain rfl : fence = _ := by simpa using mem
  decide

/-- The second one is, too. -/
theorem returnPage_foreign : returnPage.Foreign := by
  refine ⟨by decide, ?_⟩
  have segments : (scan returnPage.text).segments = [.text "a\nb\n".toList] := by decide
  intro fence mem
  rw [segments] at mem
  exact absurd mem (by simp)

/-- A document is found where its content is. -/
theorem found_of_content {source : Source} {host : Host}
    (relative : Path.relativeTo? input source.path = some source.relative)
    (content : host.content source.path = .ok source.content) : source.Found input host :=
  ⟨relative, FileTree.content_eq_ok.mp content⟩

/-- Both documents are written as they were read, and the first one keeps its bytes. -/
theorem pages_written_as_read :
    ∃ after, siteRun [foreignPage, returnPage] =
        (.ok (siteState.withAsRead [foreignPage, returnPage]), after) ∧
      after.host.files.HasFile [] (Path.ofText "out/a.md".toList) foreignPage.content ∧
      after.host.files.HasFile [] (Path.ofText "out/b.md".toList) (Text.encodeUtf8 "a\nb\n".toList) := by
  have found : ∀ source ∈ [foreignPage, returnPage],
      source.Found (Path.ofText "in".toList) (siteWorld [foreignPage, returnPage]).host := by
    simp only [List.forall_mem_cons, List.not_mem_nil, false_imp_iff, implies_true, and_true]
    exact ⟨found_of_content (by decide +kernel) (by decide +kernel),
      found_of_content (by decide +kernel) (by decide +kernel)⟩
  have foreign : ∀ source ∈ [foreignPage, returnPage], source.Foreign := by
    simp only [List.forall_mem_cons, List.not_mem_nil, false_imp_iff, implies_true, and_true]
    exact ⟨foreignPage_foreign, returnPage_foreign⟩
  have directory : siteState.output = some (Path.ofText "out".toList) := rfl
  have apart : [foreignPage, returnPage].Pairwise
      (Apart (Path.ofText "out".toList) (siteWorld [foreignPage, returnPage]).host.here) := by
    simp only [List.pairwise_cons, List.mem_singleton, forall_eq, List.not_mem_nil, false_imp_iff,
      implies_true, List.Pairwise.nil, and_true]
    exact ⟨by decide +kernel, by decide +kernel⟩
  obtain ⟨⟨fault, changed, refused⟩ | ⟨after, run, files⟩, bytes⟩ :=
    foreign_documents_are_written_as_read barePresses Settings.default (bareCall onePage []).engine
      (Path.ofText "in".toList) (Path.ofText "out".toList) foreign directory found apart [] (Cache.new none)
  · have ran : (siteRun [foreignPage, returnPage]).1.toBool = true := by decide +kernel
    have same : siteRun [foreignPage, returnPage] = _ := refused
    rw [same] at ran
    exact absurd ran (by simp [Except.toBool])
  · refine ⟨after, run, ?_, files returnPage (by simp)⟩
    have written := files foreignPage List.mem_cons_self
    rw [(bytes foreignPage List.mem_cons_self).mpr (by decide)] at written
    exact written

/-- The other one does not keep them: its first line ends with a line feed alone in what is written. -/
theorem returnPage_not_kept :
    returnPage.Foreign ∧ (siteRun [returnPage]).1.toBool = true ∧
      (siteRun [returnPage]).2.host.content (Path.ofText "out/b.md".toList) =
        .ok (Text.encodeUtf8 "a\nb\n".toList) ∧
      Text.encodeUtf8 "a\nb\n".toList ≠ returnPage.content :=
  ⟨returnPage_foreign, by decide +kernel, by decide +kernel, by decide +kernel⟩

end TypstFences.Site
