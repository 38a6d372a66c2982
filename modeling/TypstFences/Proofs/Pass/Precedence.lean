import TypstFences.Engine.Typst
import TypstFences.Proofs.Cache.Layers
import TypstFences.Proofs.Pass.Call
import TypstFences.Proofs.Pass.Told

/-!
# Errors of the structure of a document

Two errors are about the structure of a document: a fence stays open, or attributes are refused. A pass
looks for both before it renders anything, for the open fence first (`structural_errors_come_first`), and it
tells the first refused attributes in the order of the document. What comes later ends in no such error of
its own (`Pass.renderPieces_error`): it ends with a failure, a template or a style, with the files of the
cache, or with an error that the engine gives, and the engine of the program gives no error about a document
(`Typst.engine_sparesStructure`).
-/

set_option autoImplicit false

namespace TypstFences

variable {ε σ : Type} {press : Press} {settings : Settings} {registry : Registry} {engine : Engine ε}

/-- Whether an error is about the structure of a document. -/
def PassError.isStructural : PassError → Bool
  | unterminatedFence .. => true
  | invalidDirective .. => true
  | _ => false

/-! ## Attributes that are refused -/

/-- Whether the attributes of a fence are refused for a fault: they stand behind a registered tag and
cannot be read. -/
def Fence.RefusedFor (registry : Registry) (fence : Fence) (fault : AttributeFault) : Prop :=
  ∃ tag attributes, Text.cut? ',' (Text.trim fence.info) = some (tag, attributes) ∧
    registry.isRegistered (Text.trim tag) = true ∧
    Directive.readAttributes attributes = .error fault

/-- A fence is refused for what is wrong with its info string. -/
theorem Fence.refusedFor_iff {fence : Fence} {fault : AttributeFault} :
    fence.RefusedFor registry fault ↔ Directive.read registry fence.info = .error fault := by
  unfold Fence.RefusedFor Directive.read
  cases cut : Text.cut? ',' (Text.trim fence.info) with
  | none => simp [cut]
  | some parts =>
    obtain ⟨tag, attributes⟩ := parts
    cases known : registry.isRegistered (Text.trim tag) with
    | false => simp [cut, known]
    | true => cases read : Directive.readAttributes attributes <;> simp [cut, known, read]

namespace Pass

variable {name : Text}

/-- A segment whose info string is not refused is a piece. -/
theorem ofSegment_readable {segment : Segment}
    (readable : ∀ fence, segment = .fence fence → ∀ fault, ¬ fence.RefusedFor registry fault) :
    ∃ piece, Piece.ofSegment settings registry name segment = .ok piece := by
  cases segment with
  | text raw => exact ⟨.text raw, rfl⟩
  | fence fence =>
    cases read : Directive.read registry fence.info with
    | error fault => exact absurd (Fence.refusedFor_iff.mpr read) (readable fence rfl fault)
    | ok directive =>
      rw [Piece.ofSegment, read]
      exact ⟨_, rfl⟩

/-- The first fence whose attributes are refused decides the error of planning. -/
theorem pieces_of_refused (settings : Settings) (name : Text) {fence : Fence}
    {fault : AttributeFault} (after : List Segment)
    (refused : fence.RefusedFor registry fault) {before : List Segment}
    (readable : ∀ other, .fence other ∈ before → ∀ fault, ¬ other.RefusedFor registry fault) :
    pieces settings registry name (before ++ .fence fence :: after) =
      .error (.invalidDirective ⟨name, fence.line⟩ (Text.trim fence.info) fault) := by
  induction before with
  | nil =>
    apply pieces_cons_error.mpr
    left
    rw [Piece.ofSegment, Fence.refusedFor_iff.mp refused]
  | cons segment before ih =>
    apply pieces_cons_error.mpr
    right
    refine ⟨ofSegment_readable ?_, ih fun other mem => readable other (List.mem_cons_of_mem _ mem)⟩
    rintro other rfl
    exact readable other List.mem_cons_self

/-- A document has pieces if and only if none of its info strings is refused. -/
theorem pieces_ok_iff {segments : List Segment} :
    (∃ found, pieces settings registry name segments = .ok found) ↔
      ∀ fence, .fence fence ∈ segments → ∀ fault, ¬ fence.RefusedFor registry fault := by
  constructor
  · rintro ⟨found, made⟩ fence mem fault refused
    induction segments generalizing found with
    | nil => exact absurd mem List.not_mem_nil
    | cons segment segments ih =>
      obtain ⟨piece, rest, first, others, -⟩ := pieces_cons_ok.mp made
      rcases List.mem_cons.mp mem with rfl | later
      · rw [Piece.ofSegment, Fence.refusedFor_iff.mp refused] at first
        exact absurd first (by simp)
      · exact ih rest others later
  · intro readable
    induction segments with
    | nil => exact ⟨[], rfl⟩
    | cons segment segments ih =>
      obtain ⟨rest, others⟩ := ih fun fence mem => readable fence (List.mem_cons_of_mem _ mem)
      obtain ⟨piece, first⟩ : ∃ piece, Piece.ofSegment settings registry name segment = .ok piece := by
        apply ofSegment_readable
        rintro fence rfl
        exact readable fence List.mem_cons_self
      exact ⟨piece :: rest, pieces_cons_ok.mpr ⟨piece, rest, first, others, rfl⟩⟩

/-! ## Errors of rendering -/

/-- A delivery raises an error that breaks the rendering of its block, or the failure of its block. -/
theorem error_of_deliver {requests : List (Nat × Request)} {origin : Text → Failure → Prop}
    {document : Document} {collection : Collection ε Failures} {block : Nat} {error : PassError}
    (inv : collection.Traced settings engine requests origin)
    (ended : (collection.deliver (onFailure settings document) block).1 = .error error) :
    engine.Breaks error ∨ ∃ failures, error = .renderFailure failures := by
  rcases Collection.deliver_cases (onFailure settings document) collection block with ⟨-, done⟩ |
    ⟨_, -, -, done⟩ | ⟨failure, outcome, noted, host, -, -, raised, done⟩ | ⟨other, executed, -, done⟩
  · exact absurd ((congrArg Prod.fst done).symm.trans ended) (by simp)
  · exact absurd ((congrArg Prod.fst done).symm.trans ended) (by simp)
  · obtain rfl : outcome = .error error := (congrArg Prod.fst done).symm.trans ended
    unfold onFailure at raised
    split at raised
    · exact .inr ⟨_, (Except.error.inj (Prod.mk.inj raised).1).symm⟩
    · exact absurd (Prod.mk.inj raised).1 (by simp)
  · obtain rfl := Except.error.inj ((congrArg Prod.fst done).symm.trans ended)
    exact .inl (inv.breaks block _ executed)

/-- After planning a pass ends in an error of a block, with a failure, or for the template or the style.
Nothing is looked for that is not there. -/
theorem renderPieces_error {schedule : List Nat → Schedule} {found : List Piece} {session : Session ε}
    {error : PassError}
    (ended : (renderPieces schedule press settings engine name found session).1 = .error error) :
    engine.Breaks error ∨ (∃ failures, error = .renderFailure failures) ∨
      (∃ fault, error = .badTemplate fault) ∨ error = .unknownStyle := by
  -- where failures come from does not matter here
  have covers : Collection.Covers settings engine (Plan.requests (plansFrom 0 found))
      fun _ _ => True := fun _ _ _ _ _ _ _ => trivial
  have anywhere (session : Session ε) : session.Traced fun _ _ => True := fun _ _ _ => trivial
  obtain ⟨collection, -, -, -, errors⟩ := renderRequests_keeps
    (onFailure settings ⟨name, found.map Piece.segment⟩)
    (schedule ((Plan.requests (plansFrom 0 found)).map (·.1)))
    (fun collection block inv => inv.execute covers block)
    (fun collection block inv => inv.deliver block) (Collection.traced_start [] (anywhere session))
    (Collection.traced_start [] (anywhere _))
  unfold renderPieces at ended
  cases rendered : renderRequests settings engine (Plan.requests (plansFrom 0 found))
      (onFailure settings ⟨name, found.map Piece.segment⟩)
      (schedule ((Plan.requests (plansFrom 0 found)).map (·.1))) [] session with
  | mk outcome after =>
    rw [rendered] at errors
    simp only [rendered] at ended
    cases outcome with
    | error other =>
      obtain rfl := Except.error.inj ended
      obtain ⟨before, block, inv, raised⟩ := errors _ rfl
      exact (error_of_deliver inv raised).imp_right .inl
    | ok both =>
      rcases conclude_error ended with raises | unwritten
      · exact .inl (.inr (.inr (.inr raises)))
      · exact .inr (.inr unwritten)

end Pass

/-- Whether an engine gives no error about the structure of a document. -/
def Engine.SparesStructure (engine : Engine ε) : Prop :=
  ∀ error, engine.Raises error → error.isStructural = false

namespace Typst

variable {config : Config} {host : Host} {error : PassError}

/-- A refused file is no structural error. -/
theorem refused_spares {fault : FileError} (crashed : refused config fault = .crashed error) :
    error.isStructural = false := by
  unfold refused at crashed
  split at crashed
  · rw [← Reply.crashed.inj crashed]
    rfl
  · exact absurd crashed (by simp)

/-- Pages that cannot be collected are no structural error. -/
theorem collect_spares (crashed : collect config host = .crashed error) :
    error.isStructural = false := by
  unfold collect at crashed
  split at crashed
  · exact absurd crashed (by simp)
  · exact absurd crashed (by simp)
  · rw [← Reply.crashed.inj crashed]
    rfl

/-- A line that cannot be read is no structural error. -/
theorem readLine_spares {file diagnostic : Text}
    (unread : Diagnostic.readLine file diagnostic = .error error) : error.isStructural = false := by
  unfold Diagnostic.readLine at unread
  split at unread
  · exact absurd unread (by simp)
  · split at unread
    · exact absurd unread (by simp)
    · rw [← Except.error.inj unread]
      rfl

/-- A reply ends the pass with no structural error. -/
theorem replyOf_spares {file : Text} {ending : Ending}
    (crashed : (replyOf config file ending host).1 = .crashed error) : error.isStructural = false := by
  unfold replyOf at crashed
  split at crashed
  · exact absurd crashed (by simp)
  · exact absurd crashed (by simp)
  · simp only at crashed
    split at crashed
    · exact collect_spares crashed
    · split at crashed
      · exact absurd crashed (by simp)
      · rename_i unread
        rw [← Reply.crashed.inj crashed]
        exact readLine_spares unread

/-- A faulty argument is no structural error. -/
theorem argumentFault_spares {arguments : List Text} (faulty : argumentFault? arguments = some error) :
    error.isStructural = false := by
  obtain ⟨argument, -, rfl⟩ := Option.map_eq_some_iff.mp faulty
  rfl

/-- A version that is not told is no structural error. -/
theorem versionOf_spares {ending : Ending} (untold : versionOf config ending = .error error) :
    error.isStructural = false := by
  unfold versionOf at untold
  split at untold
  · split at untold
    · exact absurd untold (by simp)
    · rw [← Except.error.inj untold]
      rfl
  · exact absurd untold (by simp)
  · exact absurd untold (by simp)

/-- The engine that runs the program gives errors for its files and arguments only, for a line number that it
cannot read, or for a version that is no text. -/
theorem engine_sparesStructure {ρ : Type} (config : Config) (here : Place) (run : Runner ρ) :
    (Typst.engine config here run).SparesStructure := by
  rintro error (⟨source, rig, crashed⟩ | ⟨rig, untold⟩)
  · unfold Typst.engine compile at crashed
    simp only at crashed
    split at crashed
    · exact refused_spares crashed
    · split at crashed
      · rename_i faulty
        rw [← Reply.crashed.inj crashed]
        exact argumentFault_spares faulty
      · unfold replyAfter at crashed
        simp only at crashed
        split at crashed
        · exact refused_spares crashed
        · exact replyOf_spares crashed
  · unfold Typst.engine Typst.version at untold
    simp only at untold
    split at untold
    · exact absurd untold (by simp)
    · split at untold
      · rename_i faulty
        rw [← Except.error.inj untold]
        exact argumentFault_spares faulty
      · split at untold
        · rename_i unread
          rw [← Except.error.inj untold]
          exact versionOf_spares unread
        · split at untold
          · exact absurd untold (by simp)
          · exact absurd untold (by simp)

end Typst

/-! ## Which error comes first -/

namespace Pass

variable {name source : Text}

/-- In a document that is planned an error about the structure is one that the engine gives. -/
theorem raised_of_structural {schedule : List Nat → Schedule} {session : Session ε}
    {error : PassError} {found : List Piece}
    (closed : (scan source).unclosed = none)
    (made : pieces settings registry name (scan source).segments = .ok found)
    (structural : error.isStructural = true)
    (ended : (runWith schedule press settings engine registry name source session).1 = .error error) :
    engine.Raises error := by
  obtain ⟨host, -, run⟩ := runWith_of_planned closed made schedule press engine session
  rw [run] at ended
  rcases renderPieces_error ended with (⟨fault, rfl⟩ | ⟨fault, rfl⟩ | raises) | ⟨failures, rfl⟩ |
    ⟨fault, rfl⟩ | rfl
  · exact absurd structural (by simp [PassError.isStructural])
  · exact absurd structural (by simp [PassError.isStructural])
  · exact raises
  all_goals exact absurd structural (by simp [PassError.isStructural])

end Pass

/-- The structure of a document is faulty for an open fence, or else for attributes, of which the first
that are refused decide the error of planning, or it is planned. -/
theorem structure_cases (settings : Settings) (registry : Registry) (name source : Text) :
    (∃ openFence, (scan source).unclosed = some openFence) ∨
    (scan source).unclosed = none ∧
      ((∃ fence, .fence fence ∈ (scan source).segments ∧ ∃ fault, fence.RefusedFor registry fault) ∧
          (∃ location info fault, Pass.pieces settings registry name (scan source).segments =
            .error (.invalidDirective location info fault)) ∨
        (∀ fence, .fence fence ∈ (scan source).segments → ∀ fault, ¬ fence.RefusedFor registry fault) ∧
          ∃ found, Pass.pieces settings registry name (scan source).segments = .ok found) := by
  cases closed : (scan source).unclosed with
  | some openFence => exact .inl ⟨openFence, rfl⟩
  | none =>
    refine .inr ⟨rfl, ?_⟩
    have planned : (∃ found, Pass.pieces settings registry name (scan source).segments = .ok found) ↔
        ∀ fence, .fence fence ∈ (scan source).segments → ∀ fault, ¬ fence.RefusedFor registry fault :=
      Pass.pieces_ok_iff
    cases made : Pass.pieces settings registry name (scan source).segments with
    | ok found => exact .inr ⟨planned.mp ⟨found, made⟩, found, rfl⟩
    | error error =>
      obtain ⟨location, info, fault, rfl⟩ := Pass.pieces_error made
      refine .inl ⟨?_, location, info, fault, rfl⟩
      by_contra none_refused
      obtain ⟨found, others⟩ := planned.mpr
        fun fence mem fault refused => none_refused ⟨fence, mem, fault, refused⟩
      exact absurd (made.symm.trans others) (by simp)

/-- Errors of the structure of a document end a pass before anything else happens, the open fence before
the attributes. A pass over a document with an open fence ends in the error that tells it, whatever the
document asks for; else, if attributes are refused, it ends in the error that tells the document, the line,
the info string and the fault of the first fence of which they are. In both cases nothing but the log has
changed. A pass over any other document ends in an error of this kind only if the engine gives it,
and if the engine does not do that, the error tells which of the cases it is. -/
theorem structural_errors_come_first (schedule : List Nat → Schedule) (press : Press) (settings : Settings)
    (engine : Engine ε) (registry : Registry) (name source : Text) (session : Session ε) :
    (∀ openFence, (scan source).unclosed = some openFence →
      ∃ host, Pass.SameButLog session.rig.host host ∧
        Pass.runWith schedule press settings engine registry name source session =
          (.error (.unterminatedFence ⟨name, openFence.line⟩ openFence.shown),
            session.withHost host)) ∧
    ((scan source).unclosed = none → ∀ before fence after fault,
      (scan source).segments = before ++ .fence fence :: after →
      (∀ other, .fence other ∈ before → ∀ fault, ¬ other.RefusedFor registry fault) →
      fence.RefusedFor registry fault →
        fence.line = Text.lineFeeds (before.flatMap Segment.raw) + 1 ∧
        ∃ host, Pass.SameButLog session.rig.host host ∧
          Pass.runWith schedule press settings engine registry name source session =
            (.error (.invalidDirective ⟨name, fence.line⟩ fence.info fault),
              session.withHost host)) ∧
    ((scan source).unclosed = none →
      (∀ fence, .fence fence ∈ (scan source).segments → ∀ fault, ¬ fence.RefusedFor registry fault) →
      ∀ error, error.isStructural = true →
        (Pass.runWith schedule press settings engine registry name source session).1 = .error error →
        engine.Raises error) ∧
    (engine.SparesStructure →
      ((∃ location shown,
          (Pass.runWith schedule press settings engine registry name source session).1 =
            .error (.unterminatedFence location shown)) ↔
        ∃ openFence, (scan source).unclosed = some openFence) ∧
      ((∃ location info fault,
          (Pass.runWith schedule press settings engine registry name source session).1 =
            .error (.invalidDirective location info fault)) ↔
        (scan source).unclosed = none ∧ ∃ fence, .fence fence ∈ (scan source).segments ∧
          ∃ fault, fence.RefusedFor registry fault) ∧
      ∀ error, error.isStructural = true →
        (Pass.runWith schedule press settings engine registry name source session).1 = .error error →
        ∃ host, Pass.SameButLog session.rig.host host ∧
          (Pass.runWith schedule press settings engine registry name source session).2 =
            session.withHost host) := by
  refine ⟨?_, ?_, ?_, ?_⟩
  · intro openFence found
    exact Pass.runWith_of_unclosed found schedule press settings engine registry name session
  · intro closed before fence after fault split readable refused
    have grammar := (scan_eq_iff source (scan source).segments).mp (by rw [← closed])
    have at_line := grammar.numbered before fence after split
    have trimmed := (grammar.marked fence (by rw [split]; simp)).2.2
    have first := Pass.pieces_of_refused settings name after refused readable
    rw [← split, trimmed] at first
    exact ⟨at_line.trans (Nat.add_comm 1 _),
      Pass.runWith_of_refused closed first schedule press engine session⟩
  · intro closed readable error structural ended
    obtain ⟨found, made⟩ : ∃ found, Pass.pieces settings registry name (scan source).segments =
        .ok found := Pass.pieces_ok_iff.mpr readable
    exact Pass.raised_of_structural closed made structural ended
  · intro spares
    rcases structure_cases settings registry name source with ⟨openFence, found⟩ |
      ⟨closed, ⟨refused, location, info, fault, made⟩ | ⟨readable, found, made⟩⟩
    · obtain ⟨host, log, run⟩ := Pass.runWith_of_unclosed found schedule press settings engine registry name
        session
      rw [run, found]
      refine ⟨?_, ?_, fun error _ _ => ⟨host, log, rfl⟩⟩
      · exact ⟨fun _ => ⟨openFence, rfl⟩, fun _ => ⟨_, _, rfl⟩⟩
      · simp
    · obtain ⟨host, log, run⟩ := Pass.runWith_of_refused closed made schedule press engine session
      rw [run, closed]
      refine ⟨?_, ?_, fun error _ _ => ⟨host, log, rfl⟩⟩
      · simp
      · exact ⟨fun _ => ⟨rfl, refused⟩, fun _ => ⟨_, _, _, rfl⟩⟩
    · have never {error : PassError} (structural : error.isStructural = true) :
          (Pass.runWith schedule press settings engine registry name source session).1 ≠ .error error := by
        intro ended
        rw [spares error (Pass.raised_of_structural closed made structural ended)] at structural
        exact absurd structural (by simp)
      refine ⟨?_, ?_, fun error structural ended => absurd ended (never structural)⟩
      · constructor
        · rintro ⟨location, shown, ended⟩
          exact absurd ended (never rfl)
        · rw [closed]
          simp
      · constructor
        · rintro ⟨location, info, fault, ended⟩
          exact absurd ended (never rfl)
        · rintro ⟨-, fence, mem, fault, refused⟩
          exact absurd refused (readable fence mem fault)

/-- A block to be typeset above two fences with attributes that are refused. -/
def refusedAttributes : Text := "```typ\nx\n```\n```typ,bad=1\n```\n```typ,=\n```\n".toList

/-- Attributes that are refused above a fence that stays open. -/
def refusedAboveOpen : Text := "```typ,bad=1\n```\n````typ\n```\n".toList

/-- The first fence with refused attributes is told, and the open fence before it; and with an engine that
crashes with nothing the error of a pass over the first document is of the first kind. -/
theorem refused_and_open_told :
    (∃ host, Pass.SameButLog bareRig.host host ∧
      (bareCall onePage refusedAttributes).run ⟨Cache.new none, bareRig⟩ =
        (.error (.invalidDirective ⟨"d.md".toList, 4⟩ "typ,bad=1".toList (.unknown "bad".toList)),
          Session.withHost ⟨Cache.new none, bareRig⟩ host)) ∧
    (∃ host, Pass.SameButLog bareRig.host host ∧
      (bareCall onePage refusedAboveOpen).run ⟨Cache.new none, bareRig⟩ =
        (.error (.unterminatedFence ⟨"d.md".toList, 3⟩ "````typ".toList),
          Session.withHost ⟨Cache.new none, bareRig⟩ host)) ∧
    (bareCall onePage []).engine.SparesStructure ∧
    ∃ location info fault, ((bareCall onePage refusedAttributes).run ⟨Cache.new none, bareRig⟩).1 =
      .error (.invalidDirective location info fault) := by
  have told (source : Text) := structural_errors_come_first Schedule.inOrder barePress Settings.default
    (bareCall onePage []).engine Registry.typst "d.md".toList source ⟨Cache.new none, bareRig⟩
  have spares : (bareCall onePage []).engine.SparesStructure :=
    fun error raises => absurd raises (by simp [Engine.Raises, bareCall, Engine.pure])
  have closed : (scan refusedAttributes).unclosed = none := by decide +kernel
  have split : (scan refusedAttributes).segments =
      [.fence ⟨"```typ\n".toList, "x\n".toList, "```\n".toList, ⟨[], 3, "typ".toList⟩, 1⟩] ++
        .fence ⟨"```typ,bad=1\n".toList, [], "```\n".toList, ⟨[], 3, "typ,bad=1".toList⟩, 4⟩ ::
        [.fence ⟨"```typ,=\n".toList, [], "```\n".toList, ⟨[], 3, "typ,=".toList⟩, 6⟩] := by
    decide +kernel
  have refused : Fence.RefusedFor Registry.typst
      ⟨"```typ,bad=1\n".toList, [], "```\n".toList, ⟨[], 3, "typ,bad=1".toList⟩, 4⟩
      (.unknown "bad".toList) :=
    ⟨"typ".toList, "bad=1".toList, by decide, by decide, by decide⟩
  refine ⟨?_, ?_, spares, ?_⟩
  · refine ((told refusedAttributes).2.1 closed _ _ _ _ split ?_ refused).2
    intro other mem fault bad
    obtain rfl : other = _ := by simpa using mem
    obtain ⟨tag, attributes, cut, -⟩ := bad
    have uncut : Text.cut? ',' (Text.trim "typ".toList) = none := by decide
    exact absurd (uncut.symm.trans cut) (by simp)
  · have left_open : (scan refusedAboveOpen).unclosed =
        some ⟨"````typ\n".toList, ⟨[], 4, "typ".toList⟩, "```\n".toList, 3⟩ := by decide +kernel
    exact (told refusedAboveOpen).1 _ left_open
  · refine ((told refusedAttributes).2.2.2 spares).2.1.mpr ⟨closed, _, ?_, _, refused⟩
    rw [split]
    simp

end TypstFences
