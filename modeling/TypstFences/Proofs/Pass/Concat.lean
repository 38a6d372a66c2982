import TypstFences.Proofs.Cache.Layers
import TypstFences.Proofs.Pass.Call
import TypstFences.Proofs.Pass.Pieces

/-!
# Passes over one text after another

When a text ends where a line does and a pass over it has a result, a pass over it and what follows
it comes to what the two come to on their own: an error of the second text is met as many lines
further down as the first has, and otherwise the failures of both follow each other, the images are
those of both, and without failures in the second text the documents do, too (`Continues`). This
holds of what texts mean (`meaning_append`), and so of passes in sessions that know nothing false
(`pass_append`), in any order of the blocks, and whether what both texts ask for is rendered once or
twice.

In other sessions it need not hold: a cache whose directory is made on the way can find a page of the
second text that is none, once it has kept one of the first (`detour_not_compositional`).
-/

set_option autoImplicit false

namespace TypstFences

variable {ε : Type}

/-- Whether a result is that of two texts, one after the other, the second `n` lines further down. -/
structure PassResult.Joins (n : Nat) (first second whole : PassResult) : Prop where
  output : second.failures = [] → whole.output = first.output ++ second.output
  artifacts : ∀ image, whole.artifacts.lookup image =
    (first.artifacts.lookup image).or (second.artifacts.lookup image)
  agree : ∀ image content other, first.artifacts.lookup image = some content →
    second.artifacts.lookup image = some other → content = other
  failures : whole.failures = first.failures ++ second.failures.map (BlockFailure.below n)

/-- Whether a pass over two texts comes to what follows from that over the second, when the first of
them has `n` lines and a result. -/
inductive Continues (n : Nat) (first : PassResult) :
    Except PassError PassResult → Except PassError PassResult → Prop
  | ok {second whole : PassResult} (joins : PassResult.Joins n first second whole) :
      Continues n first (.ok second) (.ok whole)
  | error (error : PassError) : Continues n first (.error error) (.error (error.below n))

/-- The same results continue each other in the same way. -/
theorem Continues.of_same {n : Nat} {first first' : PassResult}
    {second second' whole whole' : Except PassError PassResult} (h : Continues n first' second' whole')
    (same₁ : first.Same first') (same₂ : SameOutcome second second') (same : SameOutcome whole whole') :
    Continues n first second whole := by
  cases h with
  | error error =>
    cases same₂ with
    | error =>
      cases same with
      | error => exact .error error
  | ok joins =>
    cases same₂ with
    | ok same₂ =>
      cases same with
      | ok same =>
        refine .ok ⟨fun quiet => ?_, fun image => ?_, fun image content other found found' => ?_, ?_⟩
        · rw [same.output, same₁.output, same₂.output]
          exact joins.output (same₂.failures ▸ quiet)
        · rw [same.artifacts, same₁.artifacts, same₂.artifacts]
          exact joins.artifacts image
        · rw [same₁.artifacts] at found
          rw [same₂.artifacts] at found'
          exact joins.agree image content other found found'
        · rw [same.failures, same₁.failures, same₂.failures]
          exact joins.failures

/-! ## What texts mean -/

namespace Pass

variable {press : Press} {settings : Settings} {registry : Registry} {name : Text} {rendering : Rendering}
variable {upper lower : Text} {n : Nat}

/-- What pieces come to, from the text that is written for them. -/
theorem piecesMeaning_eq (pieces : List Piece) :
    piecesMeaning press settings rendering name pieces =
      (Piece.writtenAll press settings rendering name pieces).map fun text =>
        ⟨text, pieces.flatMap (Piece.images rendering),
          pieces.flatMap (Piece.failures rendering name)⟩ := by
  unfold piecesMeaning
  rw [Piece.writtenAll]
  cases pieces.mapM (Piece.written press settings rendering name) <;> rfl

/-- What pieces come to below others that come to something. -/
theorem piecesMeaning_beside (steady : settings.Steady) {above below : List Piece} {first : PassResult}
    (single : SingleImages ((Piece.beside above (below.map (Piece.below n))).flatMap
      (Piece.images rendering)))
    (ok : piecesMeaning press settings rendering name above = .ok first) :
    Continues n first (piecesMeaning press settings rendering name below)
      (piecesMeaning press settings rendering name (Piece.beside above (below.map (Piece.below n)))) := by
  have images_eq := Piece.flatMap_beside (f := Piece.images rendering) (fun _ => rfl) above
    (below.map (Piece.below n))
  have failures_eq := Piece.flatMap_beside (f := Piece.failures rendering name) (fun _ => rfl) above
    (below.map (Piece.below n))
  rw [Piece.flatMap_images_below] at images_eq
  rw [Piece.flatMap_failures_below] at failures_eq
  rw [images_eq] at single
  rw [piecesMeaning_eq] at ok
  cases written : Piece.writtenAll press settings rendering name above with
  | error error => exact absurd ok (by simp [written, Except.map])
  | ok text =>
    rw [written] at ok
    obtain rfl := Except.ok.inj ok
    rw [piecesMeaning_eq, piecesMeaning_eq, Piece.writtenAll_beside _ written, images_eq, failures_eq]
    rcases Piece.writtenAll_below_cases press steady rendering name n below with
      ⟨second, moved, h, h'⟩ | ⟨error, h, h', same⟩
    · rw [h, h']
      refine .ok ⟨fun quiet => ?_, fun image => List.lookup_append, ?_, rfl⟩
      · have kept := Piece.writtenAll_below press steady n below quiet
        rw [h, h'] at kept
        rw [Except.ok.inj kept]
      · intro image content other found found'
        exact single image content other (List.mem_append_left _ (mem_of_lookup found))
          (List.mem_append_right _ (mem_of_lookup found'))
    · rw [h, h']
      show Continues n _ (.error error) (.error error)
      nth_rewrite 2 [← same]
      exact .error error

/-- The pieces of a text that means something. -/
theorem of_meaning_ok {first : PassResult}
    (ok : meaning press settings registry rendering name upper = .ok first) :
    (scan upper).unclosed = none ∧ ∃ found,
      pieces settings registry name (scan upper).segments = .ok found ∧
        piecesMeaning press settings rendering name found = .ok first := by
  unfold meaning at ok
  cases closed : (scan upper).unclosed with
  | some openFence => exact absurd ok (by simp [closed])
  | none =>
    cases found : pieces settings registry name (scan upper).segments with
    | error error => exact absurd ok (by simp [closed, found])
    | ok above => exact ⟨rfl, above, rfl, by simpa [closed, found] using ok⟩

/-- The pieces of a text and what follows it. -/
theorem pieces_append {above : List Piece} (lower : Text) (ends : Text.EndsLine upper)
    (closed : (scan upper).unclosed = none)
    (found : pieces settings registry name (scan upper).segments = .ok above) :
    pieces settings registry name (scan (upper ++ lower)).segments =
      (((pieces settings registry name (scan lower).segments).map
        (List.map (Piece.below (Text.lineFeeds upper)))).mapError
          (PassError.below (Text.lineFeeds upper))).map (Piece.beside above) := by
  rw [scan_append lower ends closed, pieces_beside _ found, pieces_below]

/-- A request of a text and what follows it is one of the first text or of the second. -/
theorem mem_requestsOf_append {first : PassResult} (ends : Text.EndsLine upper)
    (ok : meaning press settings registry rendering name upper = .ok first) {request : Request}
    (asked : request ∈ requestsOf settings registry name (upper ++ lower)) :
    request ∈ requestsOf settings registry name upper ∨
      request ∈ requestsOf settings registry name lower := by
  obtain ⟨closed, above, found, -⟩ := of_meaning_ok ok
  unfold requestsOf at asked
  rw [pieces_append lower ends closed found] at asked
  rw [requestsOf, found, requestsOf]
  cases below : pieces settings registry name (scan lower).segments with
  | error error => exact absurd asked (by simp [below, Except.map, Except.mapError])
  | ok below' =>
    simp only [below, Except.map, Except.mapError, List.filterMap_eq_flatMap_toList] at asked
    rw [Piece.flatMap_beside fun _ => rfl, List.flatMap_map, List.mem_append] at asked
    simp only [List.filterMap_eq_flatMap_toList]
    refine asked.imp_right fun mem => ?_
    obtain ⟨piece, piece_mem, request_eq⟩ := List.mem_flatMap.mp mem
    refine List.mem_flatMap.mpr ⟨piece, piece_mem, ?_⟩
    cases piece <;> exact request_eq

/-- What a text and what follows it mean. -/
theorem meaning_append (steady : settings.Steady) {first : PassResult} (ends : Text.EndsLine upper)
    (single : ∀ found, pieces settings registry name (scan (upper ++ lower)).segments = .ok found →
      SingleImages (found.flatMap (Piece.images rendering)))
    (ok : meaning press settings registry rendering name upper = .ok first) :
    Continues (Text.lineFeeds upper) first (meaning press settings registry rendering name lower)
      (meaning press settings registry rendering name (upper ++ lower)) := by
  obtain ⟨closed, above, found, above_ok⟩ := of_meaning_ok ok
  have together := pieces_append lower ends closed found
  have unclosed : (scan (upper ++ lower)).unclosed =
      (scan lower).unclosed.map (OpenFence.below (Text.lineFeeds upper)) := by
    rw [scan_append lower ends closed]
  rw [meaning, meaning, unclosed]
  cases (scan lower).unclosed with
  | some openFence => exact .error (.unterminatedFence ⟨name, openFence.line⟩ openFence.shown)
  | none =>
    cases below : pieces settings registry name (scan lower).segments with
    | error error =>
      rw [below] at together
      simp only [Option.map_none, together]
      exact .error error
    | ok others =>
      rw [below] at together
      simp only [Option.map_none, together]
      exact piecesMeaning_beside steady (single _ together) above_ok

end Pass

/-! ## Passes -/

/-- The pass over another text, with its events in another order and objects in other places. -/
def PassCall.on (call : PassCall ε) (order : List Nat → Schedule) (address : Nat → Nat → Template.Address)
    (source : Text) : PassCall ε :=
  { call.again order address with source := source }

/-- What two texts ask for together does not collide, as it is asked for by one of them. -/
theorem PassCall.noCollision_append {answer : Answer} {call : PassCall ε} {upper lower : Text}
    {order : List Nat → Schedule} {address : Nat → Nat → Template.Address} {first : PassResult}
    (ends : Text.EndsLine upper) (ok : (call.on order address upper).meaning answer = .ok first)
    (noCollision : ∀ first ∈ [upper, lower], ∀ second ∈ [upper, lower],
      (call.on order address first).NoCollision (call.on order address second)) :
    (call.on order address (upper ++ lower)).NoCollision
      (call.on order address (upper ++ lower)) := by
  have asked : ∀ request ∈ (call.on order address (upper ++ lower)).requests,
      ∃ text ∈ [upper, lower], request ∈ (call.on order address text).requests := by
    intro request mem
    rcases Pass.mem_requestsOf_append ends ok mem with mem | mem
    · exact ⟨upper, by simp, mem⟩
    · exact ⟨lower, by simp, mem⟩
  intro request mem request' mem'
  obtain ⟨text, listed, mem⟩ := asked request mem
  obtain ⟨text', listed', mem'⟩ := asked request' mem'
  exact noCollision text listed text' listed' request mem request' mem'

/-- When a text ends where a line does and a pass over it has a result, the pass over it and what
follows it comes to what the two come to on their own, with what is told of the second text moved
down by the lines of the first: the same error, or the failures of both, the images of both, and,
without failures in the second text, both documents. The sessions may be different ones, and know
nothing false; the template shows no places in memory, and the payloads that occur have different
digests. -/
theorem pass_append (answer : Answer) (call : PassCall ε)
    (noFailFast : call.settings.failFast = false) (steady : call.settings.Steady)
    (answers : call.engine.Answers call.version (call.answerTo answer)) {upper lower : Text}
    (ends : Text.EndsLine upper) {order₁ order₂ order₃ : List Nat → Schedule}
    {address₁ address₂ address₃ : Nat → Nat → Template.Address}
    (complete₁ : Schedule.Complete order₁) (complete₂ : Schedule.Complete order₂)
    (complete₃ : Schedule.Complete order₃)
    (noCollision : ∀ first ∈ [upper, lower], ∀ second ∈ [upper, lower],
      (call.on order₃ address₃ first).NoCollision (call.on order₃ address₃ second))
    {session₁ session₂ session₃ : Session ε}
    (true₁ : session₁.TrueTo answer [call.on order₁ address₁ upper])
    (true₂ : session₂.TrueTo answer [call.on order₂ address₂ lower])
    (true₃ : session₃.TrueTo answer [call.on order₃ address₃ (upper ++ lower)]) {first : PassResult}
    (ran : ((call.on order₁ address₁ upper).run session₁).1 = .ok first) :
    Continues (Text.lineFeeds upper) first ((call.on order₂ address₂ lower).run session₂).1
      ((call.on order₃ address₃ (upper ++ lower)).run session₃).1 := by
  -- what the texts mean is the same wherever objects stand
  have moved (order : List Nat → Schedule) (address : Nat → Nat → Template.Address) (text : Text) :
      (call.on order address text).meaning answer = (call.on order₃ address₃ text).meaning answer :=
    (call.on order₃ address₃ text).meaning_again steady answer order address
  have same₁ := true₁.run_same_meaning ⟨complete₁, noFailFast, answers⟩
    (noCollision upper (by simp) upper (by simp))
  have same₂ := true₂.run_same_meaning ⟨complete₂, noFailFast, answers⟩
    (noCollision lower (by simp) lower (by simp))
  rw [ran] at same₁
  rw [moved order₂ address₂] at same₂
  generalize meant : (call.on order₁ address₁ upper).meaning answer = meaning at same₁
  cases same₁ with
  | @ok _ expected same₁ =>
    have ok : (call.on order₃ address₃ upper).meaning answer = .ok expected :=
      (moved order₁ address₁ upper).symm.trans meant
    have together := PassCall.noCollision_append ends ok noCollision
    have single := PassCall.singleImages answer together
    have same₃ := true₃.run_same_meaning ⟨complete₃, noFailFast, answers⟩ together
    have continued : Continues (Text.lineFeeds upper) expected
        ((call.on order₃ address₃ lower).meaning answer)
        ((call.on order₃ address₃ (upper ++ lower)).meaning answer) :=
      Pass.meaning_append steady ends single ok
    exact continued.of_same same₁ same₂ same₃

/-! ## One block after the other on a bare host -/

/-- A block. -/
def upperBlock : Text := "```typ\nx\n```\n".toList

/-- The block ends where a line does. -/
theorem upperBlock_endsLine : Text.EndsLine upperBlock := by
  have last : upperBlock.getLast? = some '\n' := by decide
  intro c found
  exact (Option.some.inj (last.symm.trans found)).symm

/-- The same block, below a line of text. -/
def lowerBlock : Text := "y\n```typ\nx\n```\n".toList

/-- All objects in one place. -/
def nowhere : Nat → Nat → Template.Address := barePress.address

/-- A pass with an engine that makes one page of everything. -/
def onePageCall : PassCall Unit := bareCall onePage []

/-- The session of a new cache on the bare host. -/
def newSession : Session Unit := ⟨Cache.new none, bareRig⟩

/-- Both texts ask for the same, and together they ask for nothing else. -/
theorem onePageCall_requests (text : Text)
    (listed : text ∈ [upperBlock, lowerBlock, upperBlock ++ lowerBlock]) {request : Request}
    (asked : request ∈ (onePageCall.on Schedule.inOrder nowhere text).requests) :
    request = ⟨"x\n".toList, true⟩ := by
  have all : ∀ text ∈ [upperBlock, lowerBlock, upperBlock ++ lowerBlock],
      ∀ request ∈ Pass.requestsOf Settings.default Registry.typst "d.md".toList text,
        request = ⟨"x\n".toList, true⟩ := by
    decide +kernel
  exact all text listed request asked

/-- The pass over the upper block has a result. -/
theorem upperBlock_ok :
    ∃ first, ((onePageCall.on Schedule.inOrder nowhere upperBlock).run newSession).1 = .ok first := by
  have returned : hasResult ((onePageCall.on Schedule.inOrder nowhere upperBlock).run newSession).1 =
      true := by
    decide +kernel
  exact ok_of_hasResult returned

/-- A block and the same block below it come to what both come to on their own, when the cache
remembers the block from passes over both. -/
theorem blocks_one_after_the_other : ∃ first,
    ((onePageCall.on Schedule.inOrder nowhere upperBlock).run newSession).1 = .ok first ∧
      Continues (Text.lineFeeds upperBlock) first
        ((onePageCall.on Schedule.inOrder nowhere lowerBlock).run
          ((onePageCall.on Schedule.inOrder nowhere upperBlock).run newSession).2).1
        ((onePageCall.on Schedule.inOrder nowhere (upperBlock ++ lowerBlock)).run
          ((onePageCall.on Schedule.inOrder nowhere lowerBlock).run
            ((onePageCall.on Schedule.inOrder nowhere upperBlock).run newSession).2).2).1 := by
  let answer : Answer := fun _ _ _ _ => .artifact onePage
  let texts := [upperBlock, lowerBlock, upperBlock ++ lowerBlock]
  have answers : onePageCall.engine.Answers onePageCall.version (onePageCall.answerTo answer) :=
    (bareCall_proper onePage []).answers
  have proper (text : Text) : (onePageCall.on Schedule.inOrder nowhere text).Proper answer :=
    ⟨Schedule.inOrder_complete, rfl, answers⟩
  have noCollision : ∀ first ∈ texts, ∀ second ∈ texts,
      (onePageCall.on Schedule.inOrder nowhere first).NoCollision
        (onePageCall.on Schedule.inOrder nowhere second) := by
    intro first listed second listed' request mem request' mem' _
    rw [onePageCall_requests first listed mem, onePageCall_requests second listed' mem']
    rfl
  -- all three passes share the cache
  have shared : ∀ first ∈ texts.map (onePageCall.on Schedule.inOrder nowhere),
      ∀ second ∈ texts.map (onePageCall.on Schedule.inOrder nowhere), first.NoCollision second := by
    simpa using noCollision
  have true₁ : newSession.TrueTo answer (texts.map (onePageCall.on Schedule.inOrder nowhere)) :=
    .new _ _ bareRig
  obtain ⟨-, true₂⟩ := true₁.run (List.mem_map_of_mem (a := upperBlock) (by simp [texts]))
    (proper upperBlock) shared
  obtain ⟨-, true₃⟩ := true₂.run (List.mem_map_of_mem (a := lowerBlock) (by simp [texts]))
    (proper lowerBlock) shared
  have both : [upperBlock, lowerBlock] ⊆ texts := by simp [texts]
  obtain ⟨first, ran⟩ := upperBlock_ok
  refine ⟨first, ran, ?_⟩
  exact pass_append answer onePageCall rfl Settings.steady_default answers upperBlock_endsLine
    Schedule.inOrder_complete Schedule.inOrder_complete Schedule.inOrder_complete
    (fun first listed second listed' => noCollision first (both listed) second (both listed'))
    (true₁.mono (by simp [texts])) (true₂.mono (by simp [texts])) (true₃.mono (by simp [texts])) ran

/-- A page in another format than the default one. -/
def pngPage : Artifact := ⟨[[7]], "png".toList⟩

/-- A pass with an engine that makes this page of everything. -/
def pngCall : PassCall Unit := bareCall pngPage []

/-- Another block. -/
def otherBlock : Text := "```typ\ny\n```\n".toList

/-- A way to a missing directory, through another that has the name of a page of the other block. -/
def detour : Text :=
  "X/".toList ++
    Store.pageName (Sha256.hexDigest (pngCall.payload ⟨"y\n".toList, true⟩)) 1 "svg".toList ++
      "/..".toList

/-- The two blocks ask for two sources with different digests. -/
theorem detour_noCollision :
    (pngCall.on Schedule.inOrder nowhere (upperBlock ++ otherBlock)).NoCollision
      (pngCall.on Schedule.inOrder nowhere (upperBlock ++ otherBlock)) := by
  have requests_eq : (pngCall.on Schedule.inOrder nowhere (upperBlock ++ otherBlock)).requests =
      [⟨"x\n".toList, true⟩, ⟨"y\n".toList, true⟩] := by
    show Pass.requestsOf Settings.default Registry.typst "d.md".toList (upperBlock ++ otherBlock) = _
    decide +kernel
  apply PassCall.noCollision_of_pair requests_eq
  decide +kernel

/-- With this way for the directory of new caches, passes over each of two blocks have results, and the
pass over both has none: the files of the first block make the directory that is found under the name
of a page of the second. -/
theorem detour_not_compositional :
    pngCall.settings.failFast = false ∧ pngCall.settings.Steady ∧
      pngCall.engine.Answers pngCall.version (pngCall.answerTo fun _ _ _ _ => .artifact pngPage) ∧
      Text.EndsLine upperBlock ∧ Schedule.Complete Schedule.inOrder ∧
      (pngCall.on Schedule.inOrder nowhere (upperBlock ++ otherBlock)).NoCollision
        (pngCall.on Schedule.inOrder nowhere (upperBlock ++ otherBlock)) ∧
      hasResult ((pngCall.on Schedule.inOrder nowhere upperBlock).run
        ⟨Cache.new (some detour), bareRig⟩).1 = true ∧
      hasResult ((pngCall.on Schedule.inOrder nowhere otherBlock).run
        ⟨Cache.new (some detour), bareRig⟩).1 = true ∧
      hasResult ((pngCall.on Schedule.inOrder nowhere (upperBlock ++ otherBlock)).run
        ⟨Cache.new (some detour), bareRig⟩).1 = false :=
  ⟨rfl, Settings.steady_default, (bareCall_proper pngPage []).answers, upperBlock_endsLine,
    Schedule.inOrder_complete, detour_noCollision, by decide +kernel, by decide +kernel,
    by decide +kernel⟩

end TypstFences
