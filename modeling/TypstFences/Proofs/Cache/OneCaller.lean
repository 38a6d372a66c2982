import TypstFences.Proofs.Cache.SingleFlight

/-!
# One caller alone

A caller that moves while nobody else does, and for whose key no one is at work, comes to what the
session gives for this key, and leaves the cache as the session leaves it (`run_alone`). So asking one
after the other is one of the runs of callers that ask at the same time.
-/

set_option autoImplicit false

namespace TypstFences

variable {ε κ : Type} [DecidableEq κ] {keys : κ → Text} {shared now after : SharedCache ε κ}
variable {caller : κ} {stage : Stage κ}

namespace SharedCache

/-- The results of entries that are not the caller's do not depend on where the caller is. -/
theorem results_update (stages : κ → Stage κ) (stage : Stage κ) {owners : List (Text × κ)}
    (fresh : caller ∉ owners.map Prod.snd) :
    (owners.filterMap fun entry =>
        (Function.update stages caller stage entry.2).published?.map (entry.1, ·)) =
      owners.filterMap fun entry => (stages entry.2).published?.map (entry.1, ·) := by
  refine List.filterMap_congr ?_
  intro entry mem
  have differ : entry.2 ≠ caller := fun same => fresh (List.mem_map.mpr ⟨entry, mem, same⟩)
  rw [Function.update_of_ne differ]

/-- A new caller changes no entries by moving. -/
theorem entries_of_stage (fresh : caller ∉ shared.owners.map Prod.snd)
    (stage_eq : now.stage = Function.update shared.stage caller stage)
    (owners_eq : now.owners = shared.owners) : now.entries = shared.entries := by
  rw [entries, entries, owners_eq, stage_eq]
  exact results_update shared.stage stage fresh

/-- An entry that was made last has its result last. -/
theorem entries_of_entered (fresh : caller ∉ shared.owners.map Prod.snd) {key : Text}
    (stage_eq : now.stage = Function.update shared.stage caller stage)
    (owners_eq : now.owners = shared.owners ++ [(key, caller)]) :
    now.entries = shared.entries ++ (stage.published?.map (key, ·)).toList := by
  rw [entries, entries, owners_eq, stage_eq, List.filterMap_append, results_update _ stage fresh]
  cases published : stage.published? with
  | none => simp [published]
  | some result => simp [published]

end SharedCache

/-- The session of callers with the counts and the rig of a later time. -/
def SharedCache.since (shared now : SharedCache ε κ) : Session ε :=
  ⟨⟨shared.directory, shared.entries, now.hits, now.misses⟩, now.rig⟩

/-- Whether a caller has come to an answer, with the cache as the answer leaves it, and nobody else has
moved. -/
structure Answered (caller : κ) (shared after : SharedCache ε κ)
    (answer : Except PassError RenderResult × Session ε) : Prop where
  outcome : (after.stage caller).outcome? = some answer.1
  session : after.session = answer.2
  others : ∀ other, other ≠ caller → after.stage other = shared.stage other

/-- Whether a caller has made its entry and come to a stage, and nobody else has moved. -/
structure AtWork (keys : κ → Text) (caller : κ) (shared : SharedCache ε κ) (stage : Stage κ)
    (now : SharedCache ε κ) : Prop where
  stage : now.stage = Function.update shared.stage caller stage
  owners : now.owners = shared.owners ++ [(keys caller, caller)]
  directory : now.directory = shared.directory

namespace AtWork

/-- A caller at work is in its stage. -/
theorem here (h : AtWork keys caller shared stage now) : now.stage caller = stage := by
  rw [h.stage, Function.update_self]

/-- A caller at work can move on. -/
theorem move (h : AtWork keys caller shared stage now) (next : Stage κ) :
    AtWork keys caller shared next (now.move caller next) where
  stage := by rw [SharedCache.stage_move, h.stage, Function.update_idem]
  owners := h.owners
  directory := h.directory

/-- A caller is still at work when a hit is counted. -/
theorem countHit (h : AtWork keys caller shared stage now) :
    AtWork keys caller shared stage now.countHit := ⟨h.stage, h.owners, h.directory⟩

/-- A caller is still at work when a miss is counted. -/
theorem countMiss (h : AtWork keys caller shared stage now) :
    AtWork keys caller shared stage now.countMiss := ⟨h.stage, h.owners, h.directory⟩

/-- A caller is still at work when the rig changes. -/
theorem withRig (h : AtWork keys caller shared stage now) (rig : Rig ε) :
    AtWork keys caller shared stage (now.withRig rig) := ⟨h.stage, h.owners, h.directory⟩

/-- A caller is still at work when the host changes. -/
theorem withHost (h : AtWork keys caller shared stage now) (host : Host) :
    AtWork keys caller shared stage (now.withHost host) := ⟨h.stage, h.owners, h.directory⟩

/-- A result is published, and remembered last. -/
theorem publishes {result : RenderResult} (h : AtWork keys caller shared (.publishing result) now)
    (fresh : caller ∉ shared.owners.map Prod.snd) :
    ∃ after, Run keys now after ∧
      Answered caller shared after (.ok result, (shared.since now).remember (keys caller) result) := by
  have ended := h.move (.finished (.ok result))
  have entries_eq := SharedCache.entries_of_entered fresh ended.stage ended.owners
  refine ⟨_, .single ⟨caller, .publish h.here⟩, ?_, ?_, ?_⟩
  · rw [ended.here]
    rfl
  · rw [SharedCache.session, entries_eq, ended.directory]
    rfl
  · intro other differ
    rw [ended.stage, Function.update_of_ne differ]

/-- An error leaves nothing remembered. -/
theorem raises {error : PassError} (h : AtWork keys caller shared (.failing error) now)
    (fresh : caller ∉ shared.owners.map Prod.snd)
    (absent : shared.owners.lookup (keys caller) = none) :
    ∃ after, Run keys now after ∧ Answered caller shared after (.error error, shared.since now) := by
  have removed : Step keys now caller ((now.leave (keys caller)).move caller (.removed error)) :=
    .remove h.here
  have raised : Step keys ((now.leave (keys caller)).move caller (.removed error)) caller
      (((now.leave (keys caller)).move caller (.removed error)).move caller
        (.finished (.error error))) :=
    .raise (Function.update_self ..)
  have stage_eq : (((now.leave (keys caller)).move caller (.removed error)).move caller
      (.finished (.error error))).stage =
        Function.update shared.stage caller (.finished (.error error)) := by
    simp [h.stage]
  have owners_eq : (((now.leave (keys caller)).move caller (.removed error)).move caller
      (.finished (.error error))).owners = shared.owners := by
    have others : ∀ entry ∈ shared.owners, (entry.1 != keys caller) = true := by
      intro entry mem
      have differ := List.lookup_eq_none_iff.mp absent entry mem
      rw [bne_iff_ne]
      rintro same
      exact absurd differ (by simp [same])
    rw [SharedCache.owners_move, SharedCache.owners_move, SharedCache.leave, h.owners,
      List.filter_append, List.filter_eq_self.mpr others]
    simp
  refine ⟨_, .tail (.single ⟨caller, removed⟩) ⟨caller, raised⟩, ?_, ?_, ?_⟩
  · rw [stage_eq, Function.update_self]
    rfl
  · rw [SharedCache.session, SharedCache.entries_of_stage fresh stage_eq owners_eq]
    exact congrArg (fun directory => Session.mk ⟨directory, _, _, _⟩ _) h.directory
  · intro other differ
    rw [stage_eq, Function.update_of_ne differ]

/-- A computed result is kept as a session keeps it. -/
theorem keeps {result : RenderResult}
    (h : AtWork keys caller shared (.ofComputed (.ok result)) now)
    (fresh : caller ∉ shared.owners.map Prod.snd)
    (absent : shared.owners.lookup (keys caller) = none) :
    ∃ after, Run keys now after ∧
      Answered caller shared after (Session.keep (keys caller) result (shared.since now)) := by
  cases result with
  | failure failure => exact h.publishes fresh
  | artifact artifact =>
    have store : Step keys now caller _ := .store h.here
    have directory_eq : now.session.cache.directory = (shared.since now).cache.directory := h.directory
    have save_eq : now.session.cache.save (keys caller) artifact =
        (shared.since now).cache.save (keys caller) artifact := by
      unfold Cache.save
      rw [directory_eq]
    rw [save_eq] at store
    simp only [Session.keep]
    cases saved : (shared.since now).cache.save (keys caller) artifact (shared.since now).rig.host with
    | mk kept host =>
      have saved' : (shared.since now).cache.save (keys caller) artifact now.rig.host = (kept, host) :=
        saved
      rw [saved'] at store
      have stored := (h.withHost host).move (.ofSave artifact kept)
      cases kept with
      | error error =>
        obtain ⟨after, run, answered⟩ := stored.raises fresh absent
        exact ⟨after, .head ⟨caller, store⟩ run, answered⟩
      | ok =>
        obtain ⟨after, run, answered⟩ := stored.publishes fresh
        exact ⟨after, .head ⟨caller, store⟩ run, answered⟩

/-- What is neither remembered nor in the directory is computed as in a session. -/
theorem computes (h : AtWork keys caller shared .absent now)
    (fresh : caller ∉ shared.owners.map Prod.snd)
    (absent : shared.owners.lookup (keys caller) = none)
    (computation : Rig ε → Except PassError RenderResult × Rig ε) :
    ∃ after, Run keys now after ∧
      Answered caller shared after (Session.compute (keys caller) computation (shared.since now)) := by
  have counted : Step keys now caller _ := .countMiss h.here
  have computing := h.countMiss.move .computing
  unfold Session.compute
  cases computed : computation (shared.since now).rig with
  | mk outcome rig =>
    have ran : Step keys _ caller _ := .compute outcome rig computing.here
    have done := (computing.withRig rig).move (.ofComputed outcome)
    cases outcome with
    | error error =>
      obtain ⟨after, run, answered⟩ := done.raises fresh absent
      exact ⟨after, .head ⟨caller, counted⟩ (.head ⟨caller, ran⟩ run), answered⟩
    | ok result =>
      obtain ⟨after, run, answered⟩ := done.keeps fresh absent
      exact ⟨after, .head ⟨caller, counted⟩ (.head ⟨caller, ran⟩ run), answered⟩

end AtWork

/-- Who finds the entry of an owner that is done receives its result. -/
theorem answered_of_found {owner : κ} {result : RenderResult} (asks : shared.stage caller = .asking)
    (fresh : caller ∉ shared.owners.map Prod.snd)
    (found : shared.owners.lookup (keys caller) = some owner)
    (finished : shared.stage owner = .finished (.ok result)) :
    ∃ after, Run keys shared after ∧
      Answered caller shared after (.ok result, shared.since shared.countHit) := by
  have differ : owner ≠ caller := by
    rintro rfl
    exact absurd (finished.symm.trans asks) (by simp)
  have joined : Step keys shared caller (shared.countHit.move caller (.waiting owner)) :=
    .join asks found
  have received : Step keys (shared.countHit.move caller (.waiting owner)) caller
      ((shared.countHit.move caller (.waiting owner)).move caller (.received owner (.ok result))) :=
    .receive (Function.update_self ..) ((Function.update_of_ne differ ..).trans finished)
  have stage_eq : ((shared.countHit.move caller (.waiting owner)).move caller
      (.received owner (.ok result))).stage =
        Function.update shared.stage caller (.received owner (.ok result)) :=
    Function.update_idem ..
  refine ⟨_, .tail (.single ⟨caller, joined⟩) ⟨caller, received⟩, ?_, ?_, ?_⟩
  · rw [stage_eq, Function.update_self]
    rfl
  · rw [SharedCache.session, SharedCache.entries_of_stage fresh stage_eq rfl]
    rfl
  · intro other differ
    rw [stage_eq, Function.update_of_ne differ]

/-- A caller alone, for whose key nobody is at work, comes to what the session gives. -/
theorem run_alone (h : Consistent keys shared) (asks : shared.stage caller = .asking)
    (idle : ∀ owner, shared.owners.lookup (keys caller) = some owner →
      (shared.stage owner).works = false)
    (computation : Rig ε → Except PassError RenderResult × Rig ε) :
    ∃ after, Run keys shared after ∧
      Answered caller shared after (shared.session.result (keys caller) computation) := by
  have fresh : caller ∉ shared.owners.map Prod.snd := by
    intro listed
    obtain ⟨⟨key, _⟩, mem, rfl⟩ := List.mem_map.mp listed
    have holds := ((h.entry key _).mp (lookup_of_mem h.distinct mem)).2
    exact absurd holds (by simp [asks, Stage.holds, Stage.works, Stage.published?])
  have entry_eq : shared.session.cache.entry? (keys caller) =
      (shared.owners.lookup (keys caller)).bind fun owner => (shared.stage owner).published? :=
    lookup_filterMap (f := fun _ owner => (shared.stage owner).published?) (keys caller) h.distinct
  cases found : shared.owners.lookup (keys caller) with
  | some owner =>
    have holds := ((h.entry (keys caller) owner).mp found).2
    obtain ⟨result, finished⟩ := Stage.finished_of_holds holds (idle owner found)
    have known : shared.session.cache.entry? (keys caller) = some result := by
      rw [entry_eq, found, Option.bind_some, finished]
      rfl
    simp only [Session.result, known]
    exact answered_of_found asks fresh found finished
  | none =>
    rw [found, Option.bind_none] at entry_eq
    simp only [Session.result, entry_eq]
    have installed : Step keys shared caller _ := .install asks found
    have loading : AtWork keys caller shared .loading
        ((shared.enter (keys caller) caller).move caller .loading) := ⟨rfl, rfl, rfl⟩
    have load : Step keys _ caller _ := .load loading.here
    cases loaded : shared.session.cache.load (keys caller) shared.session.rig.host with
    | mk outcome host =>
      have load_eq : ((shared.enter (keys caller) caller).move caller .loading).session.cache.load
          (keys caller) ((shared.enter (keys caller) caller).move caller .loading).rig.host =
            (outcome, host) := loaded
      rw [load_eq] at load
      have looked := (loading.withHost host).move (.ofLoad outcome)
      have begun : Run keys shared _ := .tail (.single ⟨caller, installed⟩) ⟨caller, load⟩
      rcases outcome with error | (- | artifact)
      · obtain ⟨after, run, answered⟩ := looked.raises fresh found
        exact ⟨after, begun.trans run, answered⟩
      · obtain ⟨after, run, answered⟩ := looked.computes fresh found computation
        exact ⟨after, begun.trans run, answered⟩
      · have counted := begun.tail ⟨caller, .countHit looked.here⟩
        have publishing := looked.countHit.move (.publishing (.artifact artifact))
        obtain ⟨after, run, answered⟩ := publishing.publishes fresh
        exact ⟨after, counted.trans run, answered⟩

end TypstFences
