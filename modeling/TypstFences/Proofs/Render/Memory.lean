import TypstFences.Engine.Typst
import TypstFences.Proofs.Render.Independence
import TypstFences.Proofs.Render.Origin

/-!
# What a cache remembers of a rendering

A cache forgets nothing that it remembers and changes none of it (`Cache.Grows`), whatever the engines do
that are asked in between. The results of a rendering are those that the cache remembers in the end under
the digests of the requests (`renderRequests_remembered`), if the engine tells one version throughout. It
may find out its version when it is first asked for it (`Engine.Ready`), and is of this version from then
on (`Engine.Steady`). The engine that runs the program does so (`Typst.engine_ofVersion`).
-/

set_option autoImplicit false

namespace TypstFences

variable {ε σ : Type} {settings : Settings} {engine : Engine ε} {version : Text} {steady : ε → Prop}

/-! ## Engines of one version -/

namespace Engine

/-- Whether an engine tells one version in some states, and leaves these for none of the others. -/
structure Steady (engine : Engine ε) (version : Text) (steady : ε → Prop) : Prop where
  told : ∀ rig, steady rig.state → (engine.version rig).1 = .ok version
  asked : ∀ rig, steady rig.state → steady (engine.version rig).2.state
  compiled : ∀ source rig, steady rig.state → steady (engine.compile source rig).2.state

/-- Whether an engine that is asked for its version on a rig tells one, and is in a steady state then,
whatever is in the log. -/
def Ready (engine : Engine ε) (version : Text) (steady : ε → Prop) (rig : Rig ε) : Prop :=
  ∀ host, Store.SameFiles rig.host host →
    (engine.version { rig with host := host }).1 = .ok version ∧
      steady (engine.version { rig with host := host }).2.state

/-- Whether an engine on a rig is of one version, from when it is first asked for it. -/
def OfVersion (engine : Engine ε) (version : Text) (rig : Rig ε) : Prop :=
  ∃ steady, engine.Steady version steady ∧ engine.Ready version steady rig

/-- An engine stays ready when the host changes and its files stay the same. -/
theorem Ready.sameFiles {rig : Rig ε} {host : Host} (ready : engine.Ready version steady rig)
    (same : Store.SameFiles rig.host host) :
    engine.Ready version steady { rig with host := host } :=
  fun other same' => ready other (same.trans same')

/-- A ready engine tells its version for a digest and stays steady. -/
theorem Ready.requestDigest {rig : Rig ε} (ready : engine.Ready version steady rig)
    (settings : Settings) (request : Request) :
    (TypstFences.requestDigest settings engine request rig).1 =
        .ok (digestUnder settings version engine.root request) ∧
      steady (TypstFences.requestDigest settings engine request rig).2.state := by
  obtain ⟨told, state⟩ := ready rig.host (.refl rig.host)
  rw [requestDigest_eq_map]
  exact ⟨congrArg (Except.map (requestKey settings engine request)) told, state⟩

namespace Steady

/-- A steady engine is ready in every rig with a steady state. -/
theorem ready (stays : engine.Steady version steady) {rig : Rig ε} (state : steady rig.state) :
    engine.Ready version steady rig :=
  fun _ _ => ⟨stays.told _ state, stays.asked _ state⟩

/-- A steady engine stays so in all attempts of a submission, by induction on how many are left. -/
theorem attempts (stays : engine.Steady version steady) (source : Text) (above more : Nat) :
    ∀ attempt rig, steady rig.state →
      steady (Submission.attempts engine source above more attempt rig).2.state := by
  induction more with
  | zero =>
    intro attempt rig state
    have compiled := stays.compiled source (rig.submit source) state
    unfold Submission.attempts
    generalize engine.compile source (rig.submit source) = done at compiled ⊢
    obtain ⟨result | timeout | error, after⟩ := done <;> exact compiled
  | succ more ih =>
    intro attempt rig state
    have compiled := stays.compiled source (rig.submit source) state
    unfold Submission.attempts
    generalize engine.compile source (rig.submit source) = done at compiled ⊢
    obtain ⟨result | timeout | error, after⟩ := done
    · exact compiled
    · -- the source is submitted again
      exact ih (attempt + 1) _ compiled
    · exact compiled

end Steady

end Engine

namespace Typst

variable {ρ : Type} (config : Config) (run : Runner ρ)

/-- A version that is known is told without a run. -/
theorem version_of_known {rig : Rig (State ρ)} {known : Text} (h : rig.state.version = some known) :
    Typst.version config run rig = (.ok known, rig) := by
  unfold Typst.version
  rw [h]

/-- A compilation changes nothing about the version that is known. -/
theorem compile_version (source : Text) (rig : Rig (State ρ)) :
    (compile config run source rig).2.state.version = rig.state.version := by
  unfold compile
  simp only
  split
  · rfl
  · split <;> rfl

variable {version : Text}

/-- A version that is told depends on the files only, and it is known then. -/
theorem version_sameFiles (rig : Rig (State ρ)) {host : Host} (same : Store.SameFiles rig.host host)
    (tells : (Typst.version config run rig).1 = .ok version) :
    (Typst.version config run { rig with host := host }).1 = .ok version ∧
      (Typst.version config run { rig with host := host }).2.state.version = some version := by
  cases known : rig.state.version with
  | some told =>
    have known' : ({ rig with host := host } : Rig (State ρ)).state.version = some told := known
    rw [version_of_known config run known] at tells
    obtain rfl := Except.ok.inj tells
    rw [version_of_known config run known']
    exact ⟨rfl, known⟩
  | none =>
    unfold Typst.version at tells ⊢
    simp only [known, same.files] at tells ⊢
    generalize argumentFault? [config.executable, "--version".toList] = fault at tells ⊢
    cases fault with
    | some error => exact absurd tells (by simp)
    | none =>
      simp only at tells ⊢
      generalize versionOf config _ = told at tells ⊢
      rcases told with error | ⟨found, fault⟩
      · exact absurd tells (by simp)
      · -- what is noted is no part of what is known then
        cases fault with
        | none => exact ⟨tells, congrArg some (Except.ok.inj tells)⟩
        | some message => exact ⟨tells, congrArg some (Except.ok.inj tells)⟩

/-- The engine that runs the program is of the version that it tells when it is first asked for it, if it
tells one. -/
theorem engine_ofVersion (here : Place) (rig : Rig (State ρ))
    (tells : (Typst.version config run rig).1 = .ok version) :
    (Typst.engine config here run).OfVersion version rig := by
  refine ⟨fun state => state.version = some version, ?_,
    fun host same => version_sameFiles config run rig same tells⟩
  have told (other : Rig (State ρ)) (known : other.state.version = some version) :
      (Typst.engine config here run).version other = (.ok version, other) :=
    version_of_known config run known
  refine ⟨fun other known => ?_, fun other known => ?_, fun source other known => ?_⟩
  · rw [told other known]
  · rw [told other known]
    exact known
  · exact (compile_version config run source other).trans known

end Typst

/-! ## Memory that grows -/

/-- Whether a cache remembers all that another one does. -/
def Cache.Grows (before after : Cache) : Prop :=
  ∀ key result, before.entry? key = some result → after.entry? key = some result

/-- A cache grows to itself. -/
theorem Cache.Grows.refl (cache : Cache) : cache.Grows cache := fun _ _ known => known

/-- A cache grows by steps. -/
theorem Cache.Grows.trans {first second third : Cache} (h : first.Grows second)
    (h' : second.Grows third) : first.Grows third :=
  fun key result known => h' key result (h key result known)

/-- What a cache remembers of a request. -/
def Cache.recalled (digest : Request → Text) (cache : Cache) (request : Request) : RenderResult :=
  (cache.entry? (digest request)).getD default

/-- What is remembered for a request is recalled. -/
theorem Cache.recalled_eq {digest : Request → Text} {cache : Cache} {request : Request}
    {result : RenderResult} (known : cache.entry? (digest request) = some result) :
    cache.recalled digest request = result := by
  rw [Cache.recalled, known, Option.getD_some]

namespace Session

/-- Keeping a result does not touch the state of the engine. -/
theorem keep_state (key : Text) (result : RenderResult) (session : Session ε) :
    (keep key result session).2.rig.state = session.rig.state := by
  cases result with
  | failure failure => rfl
  | artifact artifact =>
    rw [keep]
    cases session.cache.save key artifact session.rig.host with
    | mk outcome host => cases outcome <;> rfl

/-- Asking for a result leaves the engine in its state, or in the one that computing it leads to. -/
theorem result_state (session : Session ε) (key : Text)
    (computation : Rig ε → Except PassError RenderResult × Rig ε) :
    (session.result key computation).2.rig.state = session.rig.state ∨
      ∃ host, (session.result key computation).2.rig.state =
        (computation (session.withHost host).rig).2.state := by
  have retrieval := result_retrieval session key computation
  generalize session.result key computation = done at retrieval ⊢
  cases retrieval with
  | remembered => exact .inl rfl
  | failed => exact .inl rfl
  | found => exact .inl rfl
  | @computed host absent loaded =>
    refine .inr ⟨host, ?_⟩
    unfold compute
    cases computation (session.withHost host).rig with
    | mk outcome rig =>
      cases outcome with
      | error error => rfl
      | ok result => exact keep_state key result _

/-- An engine is steady after a request is rendered. -/
theorem renderRequest_steady (stays : engine.Steady version steady) (settings : Settings)
    (request : Request) {session : Session ε} (ready : engine.Ready version steady session.rig) :
    steady (renderRequest settings engine request session).2.rig.state := by
  obtain ⟨told, told_state⟩ := ready session.rig.host (.refl session.rig.host)
  rcases renderRequest_cases settings engine request session with
    ⟨error, rig, untold, rendered⟩ | ⟨version, rig, told, rendered⟩
  · rw [rendered]
    rwa [untold] at told_state
  have asked_state : steady rig.state := by rwa [told] at told_state
  rw [rendered]
  rcases result_state { session with rig := rig } (requestKey settings engine request version)
    (submit settings engine request) with same | ⟨host, computed⟩
  · rw [same]
    exact asked_state
  · rw [computed]
    exact stays.attempts _ _ _ 1 _ asked_state

end Session

/-! ## Renderings -/

namespace Collection

variable {digest : Request → Text} {requests : List (Nat × Request)} {onFailure : OnFailure σ}
variable {start : Cache} {collection : Collection ε σ} {noted : σ}

/-- Whether a collection is orderly, its results are remembered under the digests of their requests, and so
is all that was remembered at the start, and the engine is of one version. -/
structure Remembering (engine : Engine ε) (version : Text) (steady : ε → Prop) (digest : Request → Text)
    (requests : List (Nat × Request)) (start : Cache) (collection : Collection ε σ) : Prop where
  orderly : Orderly requests collection
  remembered : ∀ block request result, requests.lookup block = some request →
    collection.executed.lookup block = some (.ok result) →
      collection.session.cache.entry? (digest request) = some result
  grows : start.Grows collection.session.cache
  ready : engine.Ready version steady collection.session.rig

/-- A new collection remembers what its cache does. -/
theorem remembering_start {session : Session ε} (known : session.cache = start)
    (ready : engine.Ready version steady session.rig) :
    Remembering engine version steady digest requests start (Collection.start noted session) :=
  ⟨orderly_start noted session, fun _ _ _ _ found => absurd found (by simp [Collection.start]),
    by rw [← known]; exact .refl session.cache, ready⟩

/-- A collection still remembers when a block is executed. -/
theorem Remembering.execute (stays : engine.Steady version steady)
    (h : Remembering engine version steady (digestUnder settings version engine.root) requests start
      collection) (block : Nat) :
    Remembering engine version steady (digestUnder settings version engine.root) requests start
      (collection.execute settings engine requests block) := by
  have orderly := h.orderly.execute settings engine block
  rcases execute_cases settings engine requests collection block with ⟨-, done⟩ |
    ⟨request, asked, absent, done⟩
  · rwa [done]
  · rw [done] at orderly ⊢
    have remembers := Session.renderRequest_remembers settings engine request collection.session
    refine ⟨orderly, ?_, h.grows.trans remembers.grows,
      stays.ready (Session.renderRequest_steady stays settings request h.ready)⟩
    intro other asking result asked' found
    rw [lookup_addOutcome absent] at found
    split at found
    · -- the engine has told its version for the key under which the new result is remembered
      rename_i same
      obtain rfl : request = asking := Option.some.inj (asked.symm.trans (same ▸ asked'))
      obtain ⟨told, told_eq, given⟩ := remembers.given result (Option.some.inj found)
      obtain ⟨tells, -⟩ := h.ready collection.session.rig.host (.refl collection.session.rig.host)
      obtain rfl : version = told := Except.ok.inj (tells.symm.trans told_eq)
      exact given
    · exact remembers.grows _ _ (h.remembered other asking result asked' found)

/-- A collection still remembers when a block is delivered. -/
theorem Remembering.deliver
    (h : Remembering engine version steady digest requests start collection)
    (spares : onFailure.SparesFiles) (block : Nat) :
    Remembering engine version steady digest requests start
      (collection.deliver onFailure block).2 := by
  have orderly := h.orderly.deliver onFailure block
  obtain ⟨host, same, session_eq⟩ := session_deliver spares collection block
  refine ⟨orderly, ?_, ?_, ?_⟩
  · rw [executed_deliver, session_eq]
    exact h.remembered
  · rw [session_eq]
    exact h.grows
  · rw [session_eq]
    exact h.ready.sameFiles same

end Collection

/-- After a rendering the cache remembers what it remembered before, and the results are what it remembers of
the requests, each of which has one. -/
theorem renderRequests_remembered (stays : engine.Steady version steady)
    {requests : List (Nat × Request)} {onFailure : OnFailure σ} (spares : onFailure.SparesFiles)
    {schedule : Schedule}
    (complete : ∀ block ∈ requests.map Prod.fst,
      [Event.execute block, .deliver block].Sublist schedule)
    {noted : σ} {session after : Session ε} (ready : engine.Ready version steady session.rig)
    {outcome : Except PassError (List (Nat × RenderResult) × σ)}
    (run : renderRequests settings engine requests onFailure schedule noted session = (outcome, after)) :
    session.cache.Grows after.cache ∧ engine.Ready version steady after.rig ∧
    ∀ results told, outcome = .ok (results, told) →
      DeliveredAll (after.cache.recalled (digestUnder settings version engine.root)) requests results ∧
      ∀ block request, requests.lookup block = some request →
        after.cache.entry? (digestUnder settings version engine.root request) ≠ none := by
  let digest := digestUnder settings version engine.root
  have executes (collection : Collection ε σ) (block : Nat)
      (inv : collection.Remembering engine version steady digest requests session.cache) :
      Collection.Remembering engine version steady digest requests session.cache
        (collection.execute settings engine requests block) := inv.execute stays block
  have delivers (collection : Collection ε σ) (block : Nat)
      (inv : collection.Remembering engine version steady digest requests session.cache) :
      Collection.Remembering engine version steady digest requests session.cache
        (collection.deliver onFailure block).2 := inv.deliver spares block
  obtain ⟨collection, inv, session_eq, results_eq, -⟩ := renderRequests_keeps onFailure schedule executes
    delivers (Collection.remembering_start rfl ready)
    (Collection.remembering_start rfl (ready.sameFiles (.note _ _ _)))
  rw [run] at session_eq results_eq
  obtain rfl : after = collection.session := session_eq
  refine ⟨inv.grows, inv.ready, ?_⟩
  rintro results told rfl
  obtain ⟨rfl, -⟩ := results_eq results told rfl
  -- every block is delivered in the end, and only what was executed is
  have known (block : Nat) (request : Request) (asked : requests.lookup block = some request) :
      ∃ result, collection.delivered.lookup block = some result ∧
        collection.session.cache.entry? (digest request) = some result := by
    have listed : block ∈ requests.map Prod.fst := List.mem_map_of_mem (mem_of_lookup asked)
    obtain ⟨result, delivered⟩ := Option.ne_none_iff_exists'.mp (renderRequests_delivers settings engine
      requests onFailure schedule noted told session _ block (congrArg Prod.fst run) (by simp [asked])
      (complete block listed))
    exact ⟨result, delivered,
      inv.remembered block request result asked (inv.orderly.executed block result delivered)⟩
  refine ⟨⟨fun block => ?_, inv.orderly.distinct⟩, fun block request asked => ?_⟩
  · cases asked : requests.lookup block with
    | none =>
      refine Option.eq_none_iff_forall_ne_some.mpr fun result delivered => ?_
      obtain ⟨request, asked'⟩ := inv.orderly.asked block _ (inv.orderly.executed block result delivered)
      exact absurd (asked.symm.trans asked') (by simp)
    | some request =>
      obtain ⟨result, delivered, remembered⟩ := known block request asked
      rw [delivered, Option.map_some, Cache.recalled_eq remembered]
  · obtain ⟨result, -, remembered⟩ := known block request asked
    exact Option.ne_none_iff_exists'.mpr ⟨result, remembered⟩

end TypstFences
