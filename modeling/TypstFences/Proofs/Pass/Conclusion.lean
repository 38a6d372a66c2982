import Mathlib.Data.List.Sort
import TypstFences.Pass.Basic
import TypstFences.Proofs.Render.Progress

/-!
# What a pass concludes from its results

While results are delivered, a pass notes failures, and afterwards it changes what became of one fence after
the other and puts the failures in order. What it returns is told by the results alone: the failures that it
noted are those among the results (`noted_of_renderRequests`), so nothing is looked for in vain, and each
fence and each failure can be found by its position (`finish_eq_conclude`).
-/

set_option autoImplicit false

namespace TypstFences.Pass

variable {ε : Type} {settings : Settings} {engine : Engine ε} {document : Document}

/-! ## Failures -/

/-- The failures among results, with their places in the document. -/
def failuresOf (document : Document) (results : List (Nat × RenderResult)) : Failures :=
  results.filterMap fun (index, result) =>
    result.failure?.map fun failure => (index, locateAt document index failure)

/-- The failures of results are told one after the other. -/
theorem failuresOf_append (results more : List (Nat × RenderResult)) :
    failuresOf document (results ++ more) = failuresOf document results ++ failuresOf document more :=
  List.filterMap_append

/-- The positions of failures are those of results. -/
theorem failuresOf_keys (document : Document) (results : List (Nat × RenderResult)) :
    (failuresOf document results).map Prod.fst ⊆ results.map Prod.fst := by
  intro index mem
  obtain ⟨⟨_, located⟩, listed, rfl⟩ := List.mem_map.mp mem
  obtain ⟨⟨block, result⟩, delivered, made⟩ := List.mem_filterMap.mp listed
  obtain ⟨failure, -, same⟩ := Option.map_eq_some_iff.mp made
  rw [← same]
  exact List.mem_map_of_mem delivered

/-- The failure at a position. -/
theorem lookup_failuresOf {results : List (Nat × RenderResult)} (document : Document)
    (distinct : (results.map Prod.fst).Nodup) (i : Nat) :
    (failuresOf document results).lookup i =
      (results.lookup i).bind fun result => result.failure?.map (locateAt document i) := by
  rw [← lookup_filterMap (f := fun i (result : RenderResult) =>
    result.failure?.map (locateAt document i)) i distinct, failuresOf]
  refine congrArg _ (List.filterMap_congr fun entry _ => ?_)
  rw [Option.map_map]
  rfl

/-- No position has two failures. -/
theorem nodup_failuresOf {results : List (Nat × RenderResult)} (document : Document)
    (distinct : (results.map Prod.fst).Nodup) : ((failuresOf document results).map Prod.fst).Nodup := by
  refine distinct.sublist ?_
  induction results with
  | nil => exact .slnil
  | cons entry results ih =>
    obtain ⟨index, result⟩ := entry
    have rest := ih (List.nodup_cons.mp distinct).2
    cases result with
    | artifact artifact => exact rest.cons index
    | failure failure => exact rest.cons_cons index

variable {collection : Collection ε Failures}

/-- Whether the failures that were noted are those among the results that were delivered. -/
def NotesFailures (document : Document) (collection : Collection ε Failures) : Prop :=
  collection.noted = failuresOf document collection.delivered

/-- A failure that is delivered is noted behind those before it. -/
theorem NotesFailures.deliver (h : NotesFailures document collection) (settings : Settings) (block : Nat) :
    NotesFailures document (collection.deliver (onFailure settings document) block).2 := by
  rcases Collection.deliver_cases (onFailure settings document) collection block with ⟨-, done⟩ |
    ⟨artifact, -, -, done⟩ | ⟨failure, outcome, noted, host, -, absent, told, done⟩ | ⟨error, -, -, done⟩
  · rwa [done]
  · rw [done]
    have rest : failuresOf document [(block, .artifact artifact)] = [] := rfl
    show collection.noted = failuresOf document (collection.delivered ++ _)
    rw [failuresOf_append, rest, List.append_nil, h]
  · have fresh : block ∉ collection.noted.map Prod.fst := by
      rw [h]
      exact fun mem => notMem_of_lookup_eq_none absent (failuresOf_keys document _ mem)
    have noted_eq : noted = collection.noted ++ [(block, locateAt document block failure)] := by
      rw [← Named.put_of_absent _ fresh]
      unfold onFailure at told
      split at told
      · exact (Prod.mk.inj (Prod.mk.inj told).2).1.symm
      · exact (Prod.mk.inj (Prod.mk.inj told).2).1.symm
    have rest : failuresOf document [(block, .failure failure)] =
        [(block, locateAt document block failure)] := rfl
    rw [done]
    show noted = failuresOf document (collection.delivered ++ _)
    rw [failuresOf_append, rest, noted_eq, h]
  · rwa [done]

/-- The failures that a rendering noted are those among its results. -/
theorem noted_of_renderRequests {requests : List (Nat × Request)} {schedule : Schedule}
    {session : Session ε} {results : List (Nat × RenderResult)} {noted : Failures}
    (done : (renderRequests settings engine requests (onFailure settings document) schedule [] session).1 =
      .ok (results, noted)) : noted = failuresOf document results := by
  obtain ⟨collection, notes, -, same, -⟩ := renderRequests_keeps (onFailure settings document) schedule
    (fun (collection : Collection ε Failures) block (inv : NotesFailures document collection) => by
      show (collection.execute settings engine requests block).noted = _
      rw [Collection.delivered_execute, Collection.noted_execute]
      exact inv)
    (fun collection block inv => inv.deliver settings block) rfl rfl
  obtain ⟨rfl, rfl⟩ := same results noted done
  exact notes

/-- Failures in order are those found by the positions of plans, if the plans stand in order and all failures
are at positions of theirs. -/
theorem inOrder_eq {plans : List (Nat × Plan)} {failures : Failures}
    (ordered : plans.Pairwise fun first second => first.1 < second.1)
    (distinct : (failures.map Prod.fst).Nodup)
    (planned : failures.map Prod.fst ⊆ plans.map Prod.fst) :
    inOrder failures = plans.filterMap fun entry => failures.lookup entry.1 := by
  let found := plans.filterMap fun entry => (failures.lookup entry.1).map (entry.1, ·)
  have sorted : (failures.mergeSort fun first second => first.1 ≤ second.1).Pairwise
      fun first second => first.1 < second.1 := by
    have weakly : (failures.mergeSort fun first second => first.1 ≤ second.1).Pairwise
        fun first second => decide (first.1 ≤ second.1) := by
      refine List.pairwise_mergeSort (fun first second third => ?_) (fun first second => ?_) failures
      · simpa using Nat.le_trans
      · simpa using Nat.le_total first.1 second.1
    have differ : (failures.mergeSort fun first second => first.1 ≤ second.1).Pairwise
        fun first second => first.1 ≠ second.1 := by
      have permuted := (List.mergeSort_perm failures fun first second => first.1 ≤ second.1).map Prod.fst
      exact List.pairwise_map.mp (permuted.nodup_iff.mpr distinct)
    exact (weakly.and differ).imp fun both => Nat.lt_of_le_of_ne (by simpa using both.1) both.2
  have found_sorted : found.Pairwise fun first second => first.1 < second.1 := by
    refine List.pairwise_filterMap.mpr (ordered.imp fun {first second} less => ?_)
    intro early early_eq late late_eq
    obtain ⟨_, -, rfl⟩ := Option.map_eq_some_iff.mp early_eq
    obtain ⟨_, -, rfl⟩ := Option.map_eq_some_iff.mp late_eq
    exact less
  have mem_found (entry : Nat × BlockFailure) : entry ∈ found ↔ entry ∈ failures := by
    constructor
    · intro mem
      obtain ⟨plan, -, made⟩ := List.mem_filterMap.mp mem
      obtain ⟨failure, listed, rfl⟩ := Option.map_eq_some_iff.mp made
      exact mem_of_lookup listed
    · intro mem
      obtain ⟨plan, listed, same⟩ := List.mem_map.mp (planned (List.mem_map_of_mem mem))
      refine List.mem_filterMap.mpr ⟨plan, listed, ?_⟩
      rw [same, lookup_of_mem distinct mem]
      rfl
  have irreflexive : Std.Irrefl fun first second : Nat × BlockFailure => first.1 < second.1 :=
    ⟨fun first => Nat.lt_irrefl first.1⟩
  have antisymmetric : Std.Antisymm fun first second : Nat × BlockFailure => first.1 < second.1 :=
    ⟨fun first second less more => absurd (Nat.lt_trans less more) (Nat.lt_irrefl first.1)⟩
  have same : (failures.mergeSort fun first second => first.1 ≤ second.1) = found :=
    sorted.eq_of_mem_iff found_sorted fun entry => by rw [List.mem_mergeSort, mem_found]
  rw [inOrder, same, List.map_filterMap]
  refine List.filterMap_congr fun entry _ => ?_
  cases failures.lookup entry.1 <;> rfl

/-! ## Images and outcomes -/

/-- The names of the pages for each result that is an artifact, and the images of all. -/
def gatherImages (settings : Settings) (engine : Engine ε) (requests : List (Nat × Request)) :
    List (Nat × RenderResult) → List (Text × Bytes) → Rig ε →
      Except PassError (List (Nat × List Text) × List (Text × Bytes)) × Rig ε
  | [], images, rig => (.ok ([], images), rig)
  | (index, .artifact artifact) :: results, images, rig =>
    match requestDigest settings engine ((requests.lookup index).getD default) rig with
    | (.error error, rig) => (.error error, rig)
    | (.ok digest, rig) =>
      let names := pageNames digest artifact
      match gatherImages settings engine requests results
          (addImages images (names.zip artifact.pages)) rig with
      | (.error error, rig) => (.error error, rig)
      | (.ok (rest, images), rig) => (.ok ((index, names) :: rest, images), rig)
  | (_, .failure _) :: results, images, rig => gatherImages settings engine requests results images rig

/-- What became of a fence with a plan: its request failed, or its pages have names. -/
def outcomeOf (failures : Failures) (names : List (Nat × List Text)) (index : Nat) : Plan → Outcome
  | .literal display => .literal display
  | .render _ display =>
    match failures.lookup index with
    | some failure => .failed failure
    | none => .rendered display ((names.lookup index).getD [])

/-- What became of the fences with plans. -/
def outcomesOf (failures : Failures) (names : List (Nat × List Text)) (plans : List (Nat × Plan)) :
    List (Nat × Outcome) :=
  plans.map fun entry => (entry.1, outcomeOf failures names entry.1 entry.2)

/-- At first nothing has failed, and nothing has pages. -/
theorem planned_eq (plans : List (Nat × Plan)) : planned plans = outcomesOf [] [] plans :=
  List.map_congr_left fun (_, plan) _ => by cases plan <;> rfl

section Outcome

variable {failures : Failures} {names : List (Nat × List Text)} {index : Nat}

/-- Pages get names at one position. -/
theorem outcomeOf_names (pages : List Text) (unfailed : failures.lookup index = none)
    (absent : names.lookup index = none) (position : Nat) (plan : Plan) :
    outcomeOf failures (names ++ [(index, pages)]) position plan =
      if position = index then withPages pages (outcomeOf failures names position plan)
      else outcomeOf failures names position plan := by
  cases plan with
  | literal display => simp [outcomeOf, withPages]
  | render request display =>
    unfold outcomeOf
    rw [lookup_concat _ absent]
    by_cases same : position = index
    · rw [if_pos same, if_pos same, same, unfailed]
      rfl
    · rw [if_neg same, if_neg same]

/-- A failure is told at one position. -/
theorem outcomeOf_failures (failure : BlockFailure) (unfailed : failures.lookup index = none)
    (position : Nat) (plan : Plan) :
    outcomeOf (failures ++ [(index, failure)]) names position plan =
      if position = index then withFailure failure (outcomeOf failures names position plan)
      else outcomeOf failures names position plan := by
  cases plan with
  | literal display => simp [outcomeOf, withFailure]
  | render request display =>
    unfold outcomeOf
    rw [lookup_concat _ unfailed]
    by_cases same : position = index
    · rw [if_pos same, if_pos same, same, unfailed]
      rfl
    · rw [if_neg same, if_neg same]

/-- What became of the fence at a position is told by its plan. -/
theorem lookup_outcomesOf (failures : Failures) (names : List (Nat × List Text)) (plans : List (Nat × Plan))
    (index : Nat) :
    (outcomesOf failures names plans).lookup index =
      (plans.lookup index).map (outcomeOf failures names index) :=
  lookup_map (f := outcomeOf failures names) index plans

/-- What became of the fence at a position is put in its place when it is changed. -/
theorem put_outcomesOf {plans : List (Nat × Plan)} (distinct : (plans.map Prod.fst).Nodup) {plan : Plan}
    (at_index : plans.lookup index = some plan) {failures' : Failures} {names' : List (Nat × List Text)}
    {change : Outcome → Outcome}
    (changed : ∀ position plan, outcomeOf failures' names' position plan =
      if position = index then change (outcomeOf failures names position plan)
      else outcomeOf failures names position plan) :
    Named.put index (change (outcomeOf failures names index plan)) (outcomesOf failures names plans) =
      outcomesOf failures' names' plans := by
  have keys : (outcomesOf failures names plans).map Prod.fst = plans.map Prod.fst := by
    rw [outcomesOf, List.map_map]
    rfl
  rw [Named.put_of_mem _ (keys ▸ distinct) (keys ▸ List.mem_map_of_mem (mem_of_lookup at_index)),
    outcomesOf, List.map_map]
  refine List.map_congr_left fun entry listed => ?_
  show (entry.1, _) = (entry.1, _)
  rw [changed]
  by_cases same : entry.1 = index
  · have plan_eq : entry.2 = plan := by
      have there := lookup_of_mem distinct listed
      rw [same, at_index] at there
      exact (Option.some.inj there).symm
    rw [if_pos same, if_pos same, same, plan_eq]
  · rw [if_neg same, if_neg same]

end Outcome

/-! ## The conclusion -/

/-- The result of a pass, told by the results of its requests alone. -/
def conclude (press : Press) (settings : Settings) (engine : Engine ε) (document : Document)
    (plans : List (Nat × Plan)) (results : List (Nat × RenderResult)) (rig : Rig ε) :
    Except PassError PassResult × Rig ε :=
  match gatherImages settings engine (Plan.requests plans) results [] rig with
  | (.error error, rig) => (.error error, rig)
  | (.ok (names, images), rig) =>
    match Replacement.ofDocument press settings (outcomesOf (failuresOf document results) names plans)
        document with
    | .error error => (.error error, rig)
    | .ok output =>
      (.ok ⟨output, images, plans.filterMap fun entry => (failuresOf document results).lookup entry.1⟩, rig)

/-- A position with a request has a plan. -/
theorem planned_of_request {plans : List (Nat × Plan)} {index : Nat}
    (asked : (Plan.requests plans).lookup index ≠ none) : index ∈ plans.map Prod.fst := by
  obtain ⟨request, found⟩ := Option.ne_none_iff_exists'.mp asked
  obtain ⟨⟨_, plan⟩, listed, made⟩ := List.mem_filterMap.mp (mem_of_lookup found)
  obtain ⟨_, -, same⟩ := Option.map_eq_some_iff.mp made
  rw [← (Prod.mk.inj same).1]
  exact List.mem_map_of_mem listed

/-- A position with a request is that of a plan. -/
theorem plan_of_request {plans : List (Nat × Plan)} {index : Nat}
    (asked : (Plan.requests plans).lookup index ≠ none) : plans.lookup index ≠ none := fun unplanned =>
  notMem_of_lookup_eq_none unplanned (planned_of_request asked)

section Collect

variable {plans : List (Nat × Plan)} {index : Nat} {plan : Plan} {noted failures : Failures}
variable {names : List (Nat × List Text)}

/-- An artifact names its pages in the place of its fence, and adds its images. -/
theorem collect_artifact (settings : Settings) (engine : Engine ε) (distinct : (plans.map Prod.fst).Nodup)
    (at_index : plans.lookup index = some plan) {request : Request}
    (asked : (Plan.requests plans).lookup index = some request) (unfailed : failures.lookup index = none)
    (unnamed : names.lookup index = none) (artifact : Artifact) (results : List (Nat × RenderResult))
    (images : List (Text × Bytes)) (rig : Rig ε) :
    collect settings engine (Plan.requests plans) noted ((index, .artifact artifact) :: results)
        (outcomesOf failures names plans) images rig =
      match requestDigest settings engine request rig with
      | (.error error, rig) => (.error error, rig)
      | (.ok digest, rig) =>
        collect settings engine (Plan.requests plans) noted results
          (outcomesOf failures (names ++ [(index, pageNames digest artifact)]) plans)
          (addImages images ((pageNames digest artifact).zip artifact.pages)) rig := by
  rw [collect, asked, lookup_outcomesOf, at_index, Option.map_some]
  dsimp only
  rcases requestDigest settings engine request rig with ⟨error | digest, rig⟩
  · rfl
  · simp only [put_outcomesOf distinct at_index
      (outcomeOf_names (pageNames digest artifact) unfailed unnamed)]

/-- A failure that was noted is told in the place of its fence. -/
theorem collect_failure (settings : Settings) (engine : Engine ε) (distinct : (plans.map Prod.fst).Nodup)
    (at_index : plans.lookup index = some plan) {told : BlockFailure}
    (known : noted.lookup index = some told) (unfailed : failures.lookup index = none) (failure : Failure)
    (results : List (Nat × RenderResult)) (images : List (Text × Bytes)) (rig : Rig ε) :
    collect settings engine (Plan.requests plans) noted ((index, .failure failure) :: results)
        (outcomesOf failures names plans) images rig =
      collect settings engine (Plan.requests plans) noted results
        (outcomesOf (failures ++ [(index, told)]) names plans) images rig := by
  rw [collect, known, lookup_outcomesOf, at_index]
  simp only [Option.map_some, put_outcomesOf distinct at_index (outcomeOf_failures told unfailed)]

end Collect

/-- What became of the fences is changed with each result, until it is what the results tell. -/
theorem collect_eq (settings : Settings) (engine : Engine ε) (document : Document)
    {plans : List (Nat × Plan)} (distinct : (plans.map Prod.fst).Nodup)
    {all : List (Nat × RenderResult)} (single : (all.map Prod.fst).Nodup)
    (asked : ∀ entry ∈ all, (Plan.requests plans).lookup entry.1 ≠ none)
    (results : List (Nat × RenderResult)) :
    ∀ done names images rig, all = done ++ results → names.map Prod.fst ⊆ done.map Prod.fst →
      collect settings engine (Plan.requests plans) (failuresOf document all) results
          (outcomesOf (failuresOf document done) names plans) images rig =
        match gatherImages settings engine (Plan.requests plans) results images rig with
        | (.error error, rig) => (.error error, rig)
        | (.ok (rest, images), rig) =>
          (.ok (outcomesOf (failuresOf document all) (names ++ rest) plans, images), rig) := by
  induction results with
  | nil =>
    intro done names images rig all_eq _
    rw [all_eq, List.append_nil, collect, gatherImages]
    simp only [List.append_nil]
  | cons entry results ih =>
    intro done names images rig all_eq among
    obtain ⟨index, result⟩ := entry
    have listed : (index, result) ∈ all := by
      rw [all_eq]
      exact List.mem_append_right _ List.mem_cons_self
    have more : all = (done ++ [(index, result)]) ++ results := by
      rw [all_eq, List.append_assoc]
      rfl
    -- the position is new, and there is a plan for it
    have fresh : index ∉ done.map Prod.fst := by
      rw [all_eq, List.map_append] at single
      exact fun mem => (List.disjoint_of_nodup_append single) mem List.mem_cons_self
    have unfailed : (failuresOf document done).lookup index = none :=
      lookup_eq_none_of_notMem fun mem => fresh (failuresOf_keys document done mem)
    obtain ⟨request, request_eq⟩ := Option.ne_none_iff_exists'.mp (asked _ listed)
    obtain ⟨plan, plan_eq⟩ := Option.ne_none_iff_exists'.mp (plan_of_request (asked _ listed))
    have among' : names.map Prod.fst ⊆ (done ++ [(index, result)]).map Prod.fst := by
      rw [List.map_append]
      exact fun _ mem => List.mem_append_left _ (among mem)
    cases result with
    | artifact artifact =>
      have unnamed : names.lookup index = none := lookup_eq_none_of_notMem fun mem => fresh (among mem)
      have same : failuresOf document (done ++ [(index, .artifact artifact)]) =
          failuresOf document done := by
        rw [failuresOf_append]
        exact List.append_nil _
      rw [collect_artifact settings engine distinct plan_eq request_eq unfailed unnamed, gatherImages,
        request_eq]
      simp only [Option.getD_some]
      rcases requestDigest settings engine request rig with ⟨error | digest, rig⟩
      · rfl
      · have rest := ih (done ++ [(index, .artifact artifact)])
          (names ++ [(index, pageNames digest artifact)])
          (addImages images ((pageNames digest artifact).zip artifact.pages)) rig more (by
            rw [List.map_append]
            exact List.append_subset.mpr ⟨among', by simp⟩)
        rw [same] at rest
        simp only [rest]
        rcases gatherImages settings engine (Plan.requests plans) results
          (addImages images ((pageNames digest artifact).zip artifact.pages)) rig with ⟨error | gathered, rig⟩
        · rfl
        · simp only [List.append_assoc, List.singleton_append]
    | failure failure =>
      have known : (failuresOf document all).lookup index = some (locateAt document index failure) := by
        rw [lookup_failuresOf document single, lookup_of_mem single listed]
        rfl
      have same : failuresOf document (done ++ [(index, .failure failure)]) =
          failuresOf document done ++ [(index, locateAt document index failure)] :=
        failuresOf_append _ _
      rw [collect_failure settings engine distinct plan_eq known unfailed, gatherImages, ← same]
      exact ih (done ++ [(index, .failure failure)]) names images rig more among'

/-- What a pass returns is told by its results alone, if these are the results of different blocks with
requests, and the failures among them were noted. No position is looked for in vain. -/
theorem finish_eq_conclude {plans : List (Nat × Plan)} {results : List (Nat × RenderResult)}
    (ordered : plans.Pairwise fun first second => first.1 < second.1)
    (distinct : (results.map Prod.fst).Nodup)
    (asked : ∀ entry ∈ results, (Plan.requests plans).lookup entry.1 ≠ none)
    (press : Press) (settings : Settings) (engine : Engine ε) (document : Document) (rig : Rig ε) :
    finish press settings engine document plans results (failuresOf document results) rig =
      conclude press settings engine document plans results rig := by
  have plans_distinct : (plans.map Prod.fst).Nodup :=
    List.pairwise_map.mpr (ordered.imp fun less => Nat.ne_of_lt less)
  have planned : (failuresOf document results).map Prod.fst ⊆ plans.map Prod.fst := by
    intro index mem
    obtain ⟨entry, listed, rfl⟩ := List.mem_map.mp (failuresOf_keys document results mem)
    exact planned_of_request (asked entry listed)
  have collected := collect_eq settings engine document plans_distinct distinct asked results [] [] [] rig
    rfl (List.Subset.refl _)
  have nothing : failuresOf document [] = [] := rfl
  rw [nothing] at collected
  unfold finish conclude
  rw [planned_eq, collected, inOrder_eq ordered (nodup_failuresOf document distinct) planned]
  rcases gatherImages settings engine (Plan.requests plans) results [] rig with ⟨error | gathered, rig⟩
  · rfl
  · rfl

/-- What a pass returns after a rendering is told by the results of the rendering. -/
theorem finish_of_renderRequests {plans : List (Nat × Plan)} {schedule : Schedule} {session : Session ε}
    {results : List (Nat × RenderResult)} {noted : Failures}
    (ordered : plans.Pairwise fun first second => first.1 < second.1)
    (done : (renderRequests settings engine (Plan.requests plans) (onFailure settings document) schedule []
      session).1 = .ok (results, noted)) (press : Press) (rig : Rig ε) :
    finish press settings engine document plans results noted rig =
      conclude press settings engine document plans results rig := by
  obtain ⟨distinct, asked⟩ := orderly_of_renderRequests done
  rw [noted_of_renderRequests done]
  refine finish_eq_conclude ordered distinct (fun entry listed => ?_) press settings engine document rig
  obtain ⟨request, found⟩ := asked entry.1 entry.2 (lookup_of_mem distinct listed)
  rw [found]
  simp

end TypstFences.Pass
