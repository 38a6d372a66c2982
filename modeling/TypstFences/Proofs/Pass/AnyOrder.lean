import TypstFences.Proofs.Pass.Stages
import TypstFences.Proofs.Pass.Transparency
import TypstFences.Proofs.Render.Independence

/-!
# Blocks in any order

A pass gives the same result, whichever order its blocks are rendered in and their results delivered
(`pass_any_order`). What the cache and its directory hold at first may be anything: they are asked for
the same in every order, and the results that they give instead of the engine are the same. When the
file system refuses a file of the cache, the pass ends in an error in every order, though which file
that is may depend on the order. Where objects stand in memory may differ, too, if the template of the
settings does not show it.

The directory of the cache must not be one that is made by a way through a missing directory and back:
then what it holds is found after the first artifact was kept, and not before
(`roundabout_depends_on_order`).
-/

set_option autoImplicit false

namespace TypstFences

variable {ε : Type}

/-- Whether two passes had the same result or ended in the same error, or both ended in an error of the
file system. -/
inductive SameOrRefused : Except PassError PassResult → Except PassError PassResult → Prop
  | same {first second : Except PassError PassResult} (h : SameOutcome first second) :
      SameOrRefused first second
  | refused (first second : FileError) :
      SameOrRefused (.error (.refusedFile first)) (.error (.refusedFile second))

namespace Pass

variable {press : Press} {settings : Settings} {engine : Engine ε} {rendering : Rendering}
variable {found : List Piece} {start session : Session ε}

/-- Hosts that differ in what they have logged have the same files. -/
theorem SameButLog.sameFiles {host other : Host} (h : SameButLog host other) :
    Store.SameFiles host other := by
  obtain ⟨log, rfl⟩ := h
  exact ⟨rfl, rfl, rfl⟩

/-- The requests of pieces. -/
theorem requests_map_snd (pieces : List Piece) :
    (Plan.requests (plansFrom 0 pieces)).map Prod.snd = pieces.filterMap Piece.request? := by
  rw [requests_plansFrom, List.map_filterMap]
  conv_rhs => rw [← List.zipIdx_map_fst 0 pieces, List.filterMap_map]
  refine List.filterMap_congr fun entry _ => ?_
  rw [Option.map_map, Function.comp_apply]
  exact Option.map_id'

/-- The results that are foreseen in a session, with the digests of their requests. -/
def foreseenOf (rendering : Rendering) (start : Session ε) : Rendering where
  answer request :=
    (start.foreseen? (rendering.digest request) (rendering.answer request)).getD default
  digest := rendering.digest

/-- No two images have the same name when the foreseen results of requests are shown. -/
theorem singleImages_foreseen (keys : ∀ request, Store.IsKey (rendering.digest request))
    (single : SingleAnswers rendering.digest rendering.answer (found.filterMap Piece.request?))
    (start : Session ε) :
    SingleImages (found.flatMap (Piece.images (foreseenOf rendering start))) := by
  let asked := found.filterMap Piece.request?
  let value (key : Text) : Option RenderResult :=
    (asked.find? fun request => rendering.digest request == key).map
      (foreseenOf rendering start).answer
  have known : ∀ request ∈ asked, value (rendering.digest request) =
      some ((foreseenOf rendering start).answer request) := by
    intro request mem
    cases first : asked.find? fun other => rendering.digest other == rendering.digest request with
    | none => exact absurd (List.find?_eq_none.mp first request mem) (by simp)
    | some other =>
      have matched := List.find?_some first
      have same : rendering.digest other = rendering.digest request := eq_of_beq matched
      have answers := single other (List.mem_of_find?_eq_some first) request mem same
      show (asked.find? fun other => rendering.digest other == rendering.digest request).map _ = _
      rw [first, Option.map_some]
      simp only [foreseenOf, same, answers]
  exact singleImages_of_value keys known

/-- If a result is foreseen for every request, rendering pieces comes to what they mean with these
results, and else to an error of the file system. -/
theorem renderPieces_foreseen (press : Press) (name : Text) {schedule : List Nat → Schedule}
    (complete : Schedule.Complete schedule) (noFailFast : settings.failFast = false)
    (gives : GivesForeseen settings engine rendering.digest rendering.answer)
    (digests : DigestsAs settings engine rendering.digest fun _ => True)
    (single : SingleAnswers rendering.digest rendering.answer (found.filterMap Piece.request?))
    (agrees : start.Agrees rendering.digest rendering.answer (found.filterMap Piece.request?)
      session) :
    ((∀ request ∈ found.filterMap Piece.request?,
        start.foreseen? (rendering.digest request) (rendering.answer request) ≠ none) →
      SameOutcome (renderPieces schedule press settings engine name found session).1
        (piecesMeaning press settings (foreseenOf rendering start) name found)) ∧
    (∀ request ∈ found.filterMap Piece.request?,
        start.foreseen? (rendering.digest request) (rendering.answer request) = none →
      ∃ refused, (renderPieces schedule press settings engine name found session).1 =
        .error (.refusedFile refused)) := by
  have quiet := onFailure_quiet noFailFast ⟨name, found.map Piece.segment⟩
  have all_delivered : ∀ block ∈ (Plan.requests (plansFrom 0 found)).map Prod.fst,
      [Event.execute block, .deliver block].Sublist
        (schedule ((Plan.requests (plansFrom 0 found)).map Prod.fst)) :=
    complete _
  rw [← requests_map_snd found] at single agrees
  constructor
  · intro all
    rw [← requests_map_snd found] at all
    obtain ⟨results, rendered, noted, run, delivered, -⟩ := renderRequests_eq
      (rendersAs_foreseen gives single all) quiet all_delivered agrees []
    have images := singleImages_foreseen gives.isKey (by rwa [requests_map_snd found] at single) start
    have digests' : DigestsAs settings engine (foreseenOf rendering start).digest fun _ => True :=
      digests
    obtain ⟨outcome, after, concluded, same, -⟩ :=
      conclude_eq press name rendered.rig (fun rig request _ => digests'.digest rig request)
        digests'.stays trivial delivered images
    unfold renderPieces
    simp only [run, concluded]
    exact same
  · intro request mem nothing
    obtain ⟨i, asked⟩ := exists_lookup_requests mem
    unfold renderPieces
    cases run : renderRequests settings engine (Plan.requests (plansFrom 0 found))
        (onFailure settings ⟨name, found.map Piece.segment⟩)
        (schedule ((Plan.requests (plansFrom 0 found)).map Prod.fst)) [] session with
    | mk outcome after =>
      cases outcome with
      | ok told =>
        obtain ⟨results, noted⟩ := told
        exact absurd nothing (foreseen_of_renderRequests gives single quiet all_delivered agrees
          (by rw [run]) asked)
      | error error =>
        obtain ⟨refused, rfl⟩ := refused_of_renderRequests gives.endsRefused quiet (congrArg Prod.fst run)
        refine ⟨refused, ?_⟩
        simp only [run]

end Pass

namespace PassCall

variable {call : PassCall ε} {answer : Text → RenderResult}

/-- The digests of the requests of a pass. -/
def keys (call : PassCall ε) (key : Text) : Prop :=
  ∃ request ∈ call.requests, Sha256.hexDigest (call.payload request) = key

/-- Without collisions there is one result for the requests of a pass with the same digest. -/
theorem singleAnswers (noCollision : call.NoCollision call) (answer : Answer) :
    SingleAnswers (call.rendering answer).digest (call.rendering answer).answer call.requests :=
  fun request mem other mem' same =>
    answer_eq_of_payload (noCollision request mem other mem' same)

end PassCall

/-- Two passes over a text that render its blocks and deliver their results in different orders have the
same result, or end in the same error, or both in one of the file system. The engine answers each
source in one way, the template shows no places in memory, the cache may remember and its directory may
hold anything, if the directory is there or has no page of a block of the text when it is made, and the
payloads of the blocks have different digests. -/
theorem pass_any_order (call : PassCall ε) (answer : Text → RenderResult)
    (noFailFast : call.settings.failFast = false) (steady : call.settings.Steady)
    (answers : call.engine.Answers call.version answer) (spares : call.engine.SparesFiles)
    (noCollision : call.NoCollision call) {order other : List Nat → Schedule}
    (complete : Schedule.Complete order) (complete' : Schedule.Complete other)
    (address address' : Nat → Nat → Template.Address) (session : Session ε)
    (tidy : session.Tidy call.keys) :
    SameOrRefused ((call.again order address).run session).1
      ((call.again other address').run session).1 := by
  rw [call.run_again steady other address' address]
  let rendering := call.rendering fun _ _ _ => answer
  have gives : GivesForeseen call.settings call.engine rendering.digest rendering.answer :=
    givesForeseen_of_answers call.settings answers spares
  have digests : Pass.DigestsAs call.settings call.engine rendering.digest fun _ => True :=
    ⟨fun rig request => Pass.requestDigest_eq answers request rig, fun _ _ _ => trivial⟩
  have single := PassCall.singleAnswers noCollision fun _ _ _ => answer
  let press : Press := ⟨call.press.highlighter, address⟩
  obtain ⟨host, log, run⟩ := Pass.runWith_eq order press call.settings call.engine call.registry
    call.name call.source session
  obtain ⟨host', log', run'⟩ := Pass.runWith_eq other press call.settings call.engine call.registry
    call.name call.source session
  show SameOrRefused
    (Pass.runWith order press call.settings call.engine call.registry call.name call.source session).1
    (Pass.runWith other press call.settings call.engine call.registry call.name call.source session).1
  rw [run, run']
  cases (scan call.source).unclosed with
  | some openFence => exact .same (.error _)
  | none =>
    cases found : Pass.pieces call.settings call.registry call.name (scan call.source).segments with
    | error error => exact .same (.error error)
    | ok pieces =>
      have requests_eq : call.requests = pieces.filterMap Piece.request? := by
        unfold PassCall.requests Pass.requestsOf
        rw [found]
      rw [requests_eq] at single
      have start : session.Agrees rendering.digest rendering.answer
          (pieces.filterMap Piece.request?) session := by
        rw [← requests_eq]
        exact ⟨tidy, fun _ _ => rfl⟩
      -- reading and planning the document changes the log only
      have noted {host : Host} (log : Pass.SameButLog session.rig.host host) :
          session.Agrees rendering.digest rendering.answer (pieces.filterMap Piece.request?)
            (session.withHost host) :=
        start.sameFiles rfl rfl log.sameFiles
      have first := Pass.renderPieces_foreseen press call.name complete noFailFast gives digests single
        (noted log)
      have second := Pass.renderPieces_foreseen press call.name complete' noFailFast gives digests single
        (noted log')
      by_cases all : ∀ request ∈ pieces.filterMap Piece.request?,
          session.foreseen? (rendering.digest request) (rendering.answer request) ≠ none
      · exact .same ((first.1 all).trans (second.1 all).symm)
      · simp only [not_forall, not_not] at all
        obtain ⟨request, mem, nothing⟩ := all
        obtain ⟨refused, ends⟩ := first.2 request mem nothing
        obtain ⟨refused', ends'⟩ := second.2 request mem nothing
        simp only [ends, ends']
        exact .refused refused refused'

/-! ## Two blocks on a bare host -/

/-- The last block first. -/
def Schedule.lastFirst (blocks : List Nat) : Schedule := Schedule.inOrder blocks.reverse

/-- This order delivers every block. -/
theorem Schedule.lastFirst_complete : Schedule.Complete Schedule.lastFirst :=
  fun blocks block mem => Schedule.inOrder_complete blocks.reverse block (List.mem_reverse.mpr mem)

/-- What an engine answers that fails at sources which end in a certain line. -/
def failsAtBad (source : Text) : RenderResult :=
  if "bad\n".toList.isSuffixOf source then .failure ⟨"no".toList, compileKind, none⟩
  else .artifact onePage

/-- A pass over two blocks, the second of which fails. -/
def twoBlocks : PassCall Unit where
  schedule := Schedule.inOrder
  press := barePress
  settings := Settings.default
  engine := Engine.pure "1".toList none failsAtBad
  version := "1".toList
  registry := Registry.typst
  name := "d.md".toList
  source := "```typ\nx\n```\n```typ\nbad\n```\n".toList

/-- The two blocks ask for two sources. -/
theorem twoBlocks_requests : twoBlocks.requests = [⟨"x\n".toList, true⟩, ⟨"bad\n".toList, true⟩] := by
  show Pass.requestsOf Settings.default Registry.typst "d.md".toList twoBlocks.source = _
  decide +kernel

/-- The sources have different digests. -/
theorem twoBlocks_noCollision : twoBlocks.NoCollision twoBlocks := by
  apply PassCall.noCollision_of_pair twoBlocks_requests
  decide +kernel

/-- The engine answers each source in one way. -/
theorem twoBlocks_answers : twoBlocks.engine.Answers twoBlocks.version failsAtBad :=
  ⟨fun _ => rfl, fun _ _ => rfl⟩

/-- The engine touches no files. -/
theorem twoBlocks_spares : twoBlocks.engine.SparesFiles :=
  ⟨fun rig => .refl rig.host, fun _ rig => .refl rig.host⟩

/-- A directory at the root that is missing is empty when it is made. -/
theorem tidy_cacheName (keys : Text → Prop) :
    (⟨Cache.new (some cacheName), bareRig⟩ : Session Unit).Tidy keys := by
  intro path used
  obtain rfl : Path.ofText cacheName = path := Option.some.inj used
  refine .inr ⟨by decide, fun made place ensured way => ?_⟩
  obtain rfl : ⟨[([cacheName], .directory)]⟩ = made := by
    have made_eq : bareRig.host.files.ensureDirectories bareRig.host.here (Path.ofText cacheName) =
        .ok ⟨[([cacheName], .directory)]⟩ := by decide
    exact Except.ok.inj (made_eq.symm.trans ensured)
  obtain rfl : [cacheName] = place := by
    have place_eq : FileTree.walk ⟨[([cacheName], .directory)]⟩ bareRig.host.here
        (Path.ofText cacheName) = .ok [cacheName] := by decide
    exact Except.ok.inj (place_eq.symm.trans way)
  have nothing (name : Text) :
      FileTree.node? ⟨[([cacheName], .directory)]⟩ ([cacheName] ++ [name]) = none := by
    simp [FileTree.node?]
  exact ⟨fun name present => absurd (nothing name) present, fun key _ format => nothing _⟩

/-- With a new cache the two blocks have the same result in both orders. -/
theorem twoBlocks_in_both_orders : ∃ first second,
    ((twoBlocks.again Schedule.inOrder barePress.address).run
      ⟨Cache.new (some cacheName), bareRig⟩).1 = .ok first ∧
    ((twoBlocks.again Schedule.lastFirst barePress.address).run
      ⟨Cache.new (some cacheName), bareRig⟩).1 = .ok second ∧ first.Same second := by
  have both := pass_any_order twoBlocks failsAtBad rfl Settings.steady_default twoBlocks_answers
    twoBlocks_spares twoBlocks_noCollision Schedule.inOrder_complete Schedule.lastFirst_complete
    barePress.address barePress.address ⟨Cache.new (some cacheName), bareRig⟩
    (tidy_cacheName twoBlocks.keys)
  have returned : hasResult ((twoBlocks.again Schedule.inOrder barePress.address).run
      ⟨Cache.new (some cacheName), bareRig⟩).1 = true := by
    decide +kernel
  obtain ⟨first, ran⟩ := ok_of_hasResult returned
  rw [ran] at both
  generalize ran' : ((twoBlocks.again Schedule.lastFirst barePress.address).run
    ⟨Cache.new (some cacheName), bareRig⟩).1 = second at both
  cases both with
  | same h =>
    cases h with
    | ok same => exact ⟨first, _, ran, rfl, same⟩

/-- A way to the working directory through a missing directory that has the name of the first page of
the block that fails. -/
def roundabout : Text :=
  "X/".toList ++
    Store.pageName (Sha256.hexDigest (twoBlocks.payload ⟨"bad\n".toList, true⟩)) 1 "svg".toList ++
      "/..".toList

/-- With this way for the directory of a new cache the two blocks have a result if the last is rendered
first, and none if the first is. -/
theorem roundabout_depends_on_order :
    twoBlocks.settings.failFast = false ∧ twoBlocks.settings.Steady ∧
      twoBlocks.engine.Answers twoBlocks.version failsAtBad ∧ twoBlocks.engine.SparesFiles ∧
      twoBlocks.NoCollision twoBlocks ∧ Schedule.Complete Schedule.inOrder ∧
      Schedule.Complete Schedule.lastFirst ∧
      hasResult ((twoBlocks.again Schedule.inOrder barePress.address).run
        ⟨Cache.new (some roundabout), bareRig⟩).1 = false ∧
      hasResult ((twoBlocks.again Schedule.lastFirst barePress.address).run
        ⟨Cache.new (some roundabout), bareRig⟩).1 = true :=
  ⟨rfl, Settings.steady_default, twoBlocks_answers, twoBlocks_spares, twoBlocks_noCollision,
    Schedule.inOrder_complete,
    Schedule.lastFirst_complete, by decide +kernel, by decide +kernel⟩

end TypstFences
