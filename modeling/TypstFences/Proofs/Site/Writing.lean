import TypstFences.Proofs.Files.Edits
import TypstFences.Proofs.Text.Bytes
import TypstFences.Site.Stages

/-!
# Documents are read and written

A document of a run is found at a path and has a path of its own in the input directory (`Source`). It is read
with its line endings unified (`Source.Found.read`). What a pass makes of it is written to the same path in
the output directory, with the images in a directory beside it (`filesOf`), and no other files are touched:
either the file system refuses one of them, or they are all there (`writeResult_cases`).
-/

set_option autoImplicit false

namespace TypstFences.Site

variable {ε : Type} {host after : Host} {input : Path}

/-! ## Reading -/

/-- A document of a run: the path it is found at, its path in the input directory, and its text as it is in
the file. -/
structure Source where
  path : Path
  relative : Path
  raw : Text
  deriving DecidableEq

namespace Source

variable {source : Source} {edits : Edit → Prop}

/-- The bytes of the file of a document. -/
def content (source : Source) : Bytes := Text.encodeUtf8 source.raw

/-- The text of a document as it is read. -/
def text (source : Source) : Text := Text.unifyLineEndings source.raw

/-- Whether a document is where it is said to be. -/
structure Found (source : Source) (input : Path) (host : Host) : Prop where
  relative : Path.relativeTo? input source.path = some source.relative
  file : host.files.HasFile host.here source.path source.content

/-- A document that is found is read. -/
theorem Found.read (found : source.Found input host) :
    readSource host source.path = .ok source.text := by
  have content_eq : host.content source.path = .ok source.content :=
    FileTree.content_eq_ok.mpr found.file
  have decoded : Text.decodeUtf8? source.content = some source.raw := Text.decodeUtf8?_eq_some.mpr rfl
  unfold readSource
  rw [content_eq]
  simp only [decoded]
  rfl

/-- A document stays where it is, if no other file is written in its place and it is not removed. -/
theorem Found.edited (found : source.Found input host) (edited : Host.Edited edits host after)
    (same : ∀ edit, edits edit → edit.place = source.path.resolve host.here →
      edit = .directory (source.path.resolve host.here) ∨
        edit = .file (source.path.resolve host.here) source.content) : source.Found input after := by
  refine ⟨found.relative, ?_⟩
  rw [edited.here]
  exact edited.files.hasFile found.file same

end Source

/-! ## Writing -/

/-- The directory of the images beside a document. -/
def imageDirectory (settings : Settings) (target : Path) : Path := target.parent.child settings.imageDir

/-- The files that a result is written to. -/
def filesOf (settings : Settings) (target : Path) (result : PassResult) : List (Path × Bytes) :=
  (target, Text.encodeUtf8 result.output) ::
    Host.filesIn (imageDirectory settings target) result.artifacts

/-- The edits that a result is written by: its files, and directories on the way to them. -/
def WriteEdits (settings : Settings) (target : Path) (result : PassResult) (here : Place) : Edit → Prop
  | .directory place => target.parent.Passes here place ∨
      (result.artifacts ≠ [] ∧ (imageDirectory settings target).Passes here place)
  | .file place content => Host.Writes here (filesOf settings target result) (.file place content)
  | .removal _ => False

variable {settings : Settings} {target : Path} {result : PassResult} {world : World ε}

/-- Whether the file system refuses a file of a result: after some of the edits that it is written by, the
directory of the document cannot be made, or the document or its images cannot be written. -/
inductive WriteRefused (settings : Settings) (target : Path) (result : PassResult) (host : Host)
    (fault : FileError) : Prop
  | directory (refused : (host.ensureDirectories target.parent).1 = .error fault) :
      WriteRefused settings target result host fault
  | document {between : Host}
      (edited : Host.Edited (WriteEdits settings target result host.here) host between)
      (refused : (between.write target (Text.encodeUtf8 result.output)).1 = .error fault) :
      WriteRefused settings target result host fault
  | images {between : Host}
      (edited : Host.Edited (WriteEdits settings target result host.here) host between)
      (refused : (between.fillDirectory (imageDirectory settings target) result.artifacts).1 =
        .error fault) : WriteRefused settings target result host fault

/-- An operation on the files of a world is refused, or done. -/
theorem World.change_cases (world : World ε) (operation : Host → Except FileError Unit × Host) :
    (∃ fault changed, world.change operation = (.error (.broken (.refusedFile fault)), changed) ∧
        (operation world.host).1 = .error fault) ∨
      ∃ host, operation world.host = (.ok (), host) ∧
        world.change operation = (.ok (), world.withHost host) := by
  unfold World.change
  generalize operation world.host = done
  obtain ⟨outcome, host⟩ := done
  cases outcome with
  | error fault => exact .inl ⟨fault, _, rfl, rfl⟩
  | ok => exact .inr ⟨host, rfl, rfl⟩

/-- The document is written, after the directories on the way to it are made. -/
theorem edited_writeDocument (settings : Settings) {between : Host}
    (made : host.ensureDirectories target.parent = (.ok (), between))
    (written : between.write target (Text.encodeUtf8 result.output) = (.ok (), after)) :
    Host.Edited (WriteEdits settings target result host.here) host after ∧
      after.files.HasFile host.here target (Text.encodeUtf8 result.output) := by
  have first : Host.Edited (WriteEdits settings target result host.here) host
      (host.ensureDirectories target.parent).2 := host.edited_ensureDirectories fun _ passes => .inl passes
  rw [made] at first
  have second : Host.Edited (WriteEdits settings target result host.here) between
      (between.write target (Text.encodeUtf8 result.output)).2 := by
    refine between.edited_write ⟨_, List.mem_cons_self, ?_⟩
    rw [first.here]
  rw [written] at second
  refine ⟨first.trans second, ?_⟩
  rcases Host.change_cases between (FileTree.write · between.here target (Text.encodeUtf8 result.output))
    with ⟨fault, refused⟩ | ⟨files, done, changed⟩
  · exact absurd (written.symm.trans refused) (by simp)
  · obtain rfl : after = between.withFiles files := (Prod.mk.inj (written.symm.trans changed)).2
    rw [← first.here]
    exact FileTree.hasFile_of_write done

/-- The images are written beside the document, which stays. -/
theorem edited_writeImages (single : Host.Single host.here (filesOf settings target result))
    (nonempty : result.artifacts ≠ [])
    (there : host.files.HasFile host.here target (Text.encodeUtf8 result.output))
    (filled : host.fillDirectory (imageDirectory settings target) result.artifacts = (.ok (), after)) :
    Host.Edited (WriteEdits settings target result host.here) host after ∧
      ∀ file ∈ filesOf settings target result, after.files.HasFile host.here file.1 file.2 := by
  have edited : Host.Edited (WriteEdits settings target result host.here) host
      (host.fillDirectory (imageDirectory settings target) result.artifacts).2 :=
    host.edited_fillDirectory (fun _ passes => .inr ⟨nonempty, passes⟩) fun _ mem =>
      ⟨_, List.mem_cons_of_mem _ (Host.mem_filesIn mem), rfl⟩
  have images : ∀ file ∈ Host.filesIn (imageDirectory settings target) result.artifacts,
      (host.fillDirectory (imageDirectory settings target) result.artifacts).2.files.HasFile host.here
        file.1 file.2 :=
    Host.hasFile_fillDirectory (fun image mem other mem' => single image (List.mem_cons_of_mem _ mem)
      other (List.mem_cons_of_mem _ mem')) (by rw [filled])
  rw [filled] at edited images
  refine ⟨edited, fun file mem => ?_⟩
  rcases List.mem_cons.mp mem with rfl | image
  · refine edited.files.hasFile there fun edit mem' same => ?_
    cases edit with
    | directory place => exact .inl (congrArg Edit.directory same)
    | file place content => exact .inr (single.file_of_place List.mem_cons_self mem' same)
    | removal place => exact absurd mem' not_false
  · exact images file image

/-- A result is written with all its files, if those in the same place have the same content, or the file
system refuses one. -/
theorem writeResult_cases (single : Host.Single world.host.here (filesOf settings target result)) :
    (∃ fault changed, writeResult settings target result world =
        (.error (.broken (.refusedFile fault)), changed) ∧
          WriteRefused settings target result world.host fault) ∨
      ∃ host, writeResult settings target result world = (.ok (), world.withHost host) ∧
        Host.Edited (WriteEdits settings target result world.host.here) world.host host ∧
        ∀ file ∈ filesOf settings target result, host.files.HasFile world.host.here file.1 file.2 := by
  unfold writeResult
  rcases world.change_cases (fun host => host.ensureDirectories target.parent) with
    ⟨fault, changed, ended, refused⟩ | ⟨parents, made, changed⟩
  · exact .inl ⟨fault, changed, by rw [ended], .directory refused⟩
  rw [changed]
  simp only
  have first : Host.Edited (WriteEdits settings target result world.host.here) world.host parents := by
    have edited : Host.Edited (WriteEdits settings target result world.host.here) world.host
        (world.host.ensureDirectories target.parent).2 :=
      world.host.edited_ensureDirectories fun _ passes => .inl passes
    rwa [made] at edited
  rcases (world.withHost parents).change_cases
      (fun host => host.write target (Text.encodeUtf8 result.output)) with
    ⟨fault, changed, ended, refused⟩ | ⟨between, written, changed⟩
  · exact .inl ⟨fault, changed, by rw [ended], .document first refused⟩
  rw [changed]
  simp only
  obtain ⟨edited, file⟩ := edited_writeDocument settings made written
  by_cases nonempty : result.artifacts = []
  · rw [nonempty]
    refine .inr ⟨between, rfl, edited, fun other mem => ?_⟩
    rw [filesOf, nonempty] at mem
    obtain rfl := List.mem_singleton.mp mem
    exact file
  · rw [if_neg (by rwa [List.isEmpty_iff])]
    rcases ((world.withHost parents).withHost between).change_cases
        (fun host => host.fillDirectory (target.parent.child settings.imageDir) result.artifacts) with
      ⟨fault, changed, ended, refused⟩ | ⟨filled, done, changed⟩
    · exact .inl ⟨fault, changed, by rw [ended], .images edited refused⟩
    · rw [← edited.here] at single file
      obtain ⟨last, files⟩ := edited_writeImages single nonempty file done
      rw [edited.here] at last files
      simp only [changed]
      exact .inr ⟨filled.note 2 _, rfl, edited.trans ⟨last.files, last.here, last.tag⟩, files⟩

/-! ## One document of a run -/

section Step

variable {engine : Engine ε} {output : Path} {source : Source} {paths : List Path} {state : State}
variable {cache : Cache} {session : Session ε} {error : PassError}

/-- The world in which a document is passed over. -/
def World.processing (world : World ε) (source : Source) : World ε :=
  world.note 1 ("Processing ".toList ++ source.relative.text)

/-- The world with the rig of a session. -/
def World.withSession (world : World ε) (session : Session ε) : World ε := { world with rig := session.rig }

/-- A run comes to a document by a pass over its text. -/
theorem compileAll_cons (presses : Presses) (settings : Settings) (engine : Engine ε)
    (paths : List Path) (state : State)
    (cache : Cache) (found : source.Found input world.host) :
    compileAll presses settings engine input (source.path :: paths) state cache world =
      match Pass.run (presses.at (world.processing source).host) settings engine Registry.typst
          source.relative.text source.text
          ⟨cache, (world.processing source).rig⟩ with
      | (.error error, session) =>
        if !error.isDocumentError then (.error (.broken error), world.withSession session)
        else if settings.failFast then (.ok (state.withError error), world.withSession session)
        else compileAll presses settings engine input paths (state.withError error) session.cache
          (world.withSession session)
      | (.ok result, session) =>
        match state.output with
        | none => (.error .unusable, world.withSession session)
        | some output =>
          match writeResult settings (output.join source.relative) result (world.withSession session) with
          | (.error ending, world) => (.error ending, world)
          | (.ok (), world) =>
            compileAll presses settings engine input paths (state.withResult source.relative.text result)
              session.cache world := by
  rw [compileAll]
  have read : readSource (world.processing source).host source.path = .ok source.text := found.read
  unfold World.processing at read ⊢
  simp only [found.relative, read]
  generalize Pass.run _ _ _ _ _ _ _ = done
  obtain ⟨outcome, session⟩ := done
  cases outcome <;> rfl

end Step

end TypstFences.Site
