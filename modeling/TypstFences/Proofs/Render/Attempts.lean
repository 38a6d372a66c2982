import Mathlib.Data.ENat.Lattice
import TypstFences.Render.Submission

/-!
# Attempts

A source that the engine gives up is submitted again, until the engine replies otherwise or the attempts are
used up. What an engine would reply if it was asked again and again (`Submission.replies`) tells what happens:
the attempts end with the first reply that is no timeout, or with the last one that there may be
(`Submission.attempts_eq`), and what the engine is asked up to then is always the same source
(`Submission.attempts_listed`).
-/

set_option autoImplicit false

namespace TypstFences

variable {ε : Type}

/-! ## Engines that list what they are asked -/

/-- The rig of an engine that has listed what it was asked, and its replies. -/
def Rig.withCalls (rig : Rig ε) (calls : List (Text × Reply)) : Rig (ε × List (Text × Reply)) where
  state := (rig.state, calls)
  submitted := rig.submitted
  host := rig.host

/-- The rig without the list. -/
def Rig.withoutCalls (rig : Rig (ε × List (Text × Reply))) : Rig ε where
  state := rig.state.1
  submitted := rig.submitted
  host := rig.host

/-- The engine, listing each source that it is asked to compile and its reply. -/
def Engine.listed (engine : Engine ε) : Engine (ε × List (Text × Reply)) where
  root := engine.root
  version := fun rig =>
    let (version, after) := engine.version rig.withoutCalls
    (version, after.withCalls rig.state.2)
  compile := fun source rig =>
    let (reply, after) := engine.compile source rig.withoutCalls
    (reply, after.withCalls (rig.state.2 ++ [(source, reply)]))

/-- An engine that has its replies ready, one for each time it is asked; its state counts them. -/
def Engine.scripted (replies : Nat → Reply) : Engine Nat where
  root := none
  version := fun rig => (.ok [], rig)
  compile := fun _ rig => (replies rig.state, { rig with state := rig.state + 1 })

/-! ## Replies -/

/-- Whether a reply says that the source was given up. -/
def Reply.IsTimeout (reply : Reply) : Prop := ∃ timeout, reply = .timedOut timeout

/-- Whether a number is that of the timeouts in front of the first other reply, if there is one. -/
def LeadingTimeouts (replies : Nat → Reply) (count : ℕ∞) : Prop :=
  ∀ n : Nat, (n : ℕ∞) < count ↔ ∀ m ≤ n, (replies m).IsTimeout

/-- What is answered for a reply that is no timeout: an artifact as it is, a failure with its line told in the
block, which has a number of lines above it, and a crash. -/
inductive Reply.Answers (above : Nat) : Reply → Except PassError RenderResult → Prop
  | artifact (artifact : Artifact) : Answers above (.finished (.artifact artifact)) (.ok (.artifact artifact))
  | failure (failure : Failure) : Answers above (.finished (.failure failure))
      (.ok (.failure ⟨failure.diagnostic, failure.kind,
        failure.line.map fun line => max (line - above) 1⟩))
  | crash (error : PassError) : Answers above (.crashed error) (.error error)

/-- Any replies begin with some number of timeouts. -/
theorem exists_leadingTimeouts (replies : Nat → Reply) : ∃ count, LeadingTimeouts replies count := by
  classical
  by_cases other : ∃ n, ¬(replies n).IsTimeout
  · refine ⟨(Nat.find other : Nat), fun n => ?_⟩
    rw [Nat.cast_lt, Nat.lt_find_iff]
    simp only [not_not]
  · refine ⟨⊤, fun n => ⟨fun _ m _ => ?_, fun _ => ENat.natCast_lt_top n⟩⟩
    by_contra answered
    exact other ⟨m, answered⟩

/-- The reply behind the timeouts is none. -/
theorem LeadingTimeouts.notTimeout {replies : Nat → Reply} {n : Nat} (h : LeadingTimeouts replies n) :
    ¬(replies n).IsTimeout := by
  intro timeout
  have before : ∀ m < n, (replies m).IsTimeout := fun m less =>
    (h m).mp (Nat.cast_lt.mpr less) m (Nat.le_refl m)
  have more : (n : ℕ∞) < n := (h n).mpr fun m le =>
    (Nat.lt_or_eq_of_le le).elim (before m) fun same => same ▸ timeout
  exact absurd more (lt_irrefl _)

/-- There is one such number. -/
theorem LeadingTimeouts.eq {replies : Nat → Reply} {count : ℕ∞} {n : Nat} (h : LeadingTimeouts replies count)
    (late : ∀ m < n, (replies m).IsTimeout) (other : ¬(replies n).IsTimeout) : count = n := by
  apply le_antisymm
  · by_contra more
    exact other ((h n).mp (lt_of_not_ge more) n (Nat.le_refl n))
  · cases n with
    | zero => exact zero_le
    | succ n =>
      have less : (n : ℕ∞) < count := (h n).mpr fun m le => late m (Nat.lt_succ_of_le le)
      rw [Nat.cast_add, Nat.cast_one]
      exact Order.add_one_le_of_lt less

namespace Submission

variable (engine : Engine ε) (source : Text)

/-- The rig after an attempt that was given up. -/
def next (attempts attempt : Nat) (rig : Rig ε) : Rig ε :=
  (engine.compile source (rig.submit source)).2.note 2 (retryText attempt attempts)

/-- The rig after some attempts that were given up, the first of which has number `attempt`. -/
def rigAfter (attempts : Nat) : Nat → Nat → Rig ε → Rig ε
  | 0, _, rig => rig
  | n + 1, attempt, rig => rigAfter attempts n (attempt + 1) (next engine source attempts attempt rig)

/-- The reply of the engine when it is asked after `n` attempts. -/
def replyAfter (attempts n attempt : Nat) (rig : Rig ε) : Reply :=
  (engine.compile source ((rigAfter engine source attempts n attempt rig).submit source)).1

/-- The replies of the engine to a source that it is asked to compile again and again. -/
def replies (attempts : Nat) (rig : Rig ε) (n : Nat) : Reply :=
  replyAfter engine source attempts n 1 rig

/-- What the last attempt comes to. -/
def conclusion (above : Nat) : Reply → Except PassError RenderResult
  | .finished result => .ok (relocate above result)
  | .crashed error => .error error
  | .timedOut timeout => .ok (exhausted timeout)

/-- A reply that is no timeout is answered by what is concluded from it. -/
theorem answers_conclusion (above : Nat) {reply : Reply} (other : ¬reply.IsTimeout) :
    reply.Answers above (conclusion above reply) := by
  cases reply with
  | finished result =>
    cases result with
    | artifact artifact => exact .artifact artifact
    | failure failure => exact .failure failure
  | crashed error => exact .crash error
  | timedOut timeout => exact absurd ⟨timeout, rfl⟩ other

variable {engine source} {above more attempt total n : Nat} {rig : Rig ε}

/-! ## One attempt -/

/-- An attempt that was given up and is not the last is followed by another. -/
theorem attempts_of_timeout (late : (replyAfter engine source total 0 attempt rig).IsTimeout)
    (total_eq : attempt + (more + 1) = total) :
    attempts engine source above (more + 1) attempt rig =
      attempts engine source above more (attempt + 1) (next engine source total attempt rig) := by
  obtain ⟨timeout, given⟩ : ((engine.compile source (rig.submit source)).1).IsTimeout := late
  subst total_eq
  unfold next
  rw [attempts]
  generalize engine.compile source (rig.submit source) = done at given ⊢
  obtain ⟨reply, after⟩ := done
  obtain rfl : reply = .timedOut timeout := given
  rfl

/-- An attempt that was not given up, or cannot be repeated, is the last. -/
theorem attempts_of_last (last : more = 0 ∨ ¬(replyAfter engine source total 0 attempt rig).IsTimeout) :
    (attempts engine source above more attempt rig).1 =
      conclusion above (replyAfter engine source total 0 attempt rig) := by
  have here : replyAfter engine source total 0 attempt rig =
      (engine.compile source (rig.submit source)).1 := rfl
  rw [here] at last ⊢
  unfold attempts
  generalize engine.compile source (rig.submit source) = done at last ⊢
  obtain ⟨result | timeout | error, after⟩ := done
  · rfl
  · rcases last with rfl | other
    · rfl
    · exact absurd ⟨timeout, rfl⟩ other
  · rfl

/-! ## All attempts -/

/-- After attempts that were given up, the others are left. -/
theorem attempts_after (n : Nat) : ∀ {attempt : Nat} {rig : Rig ε}, attempt + (n + more) = total →
    (∀ m < n, (replyAfter engine source total m attempt rig).IsTimeout) →
      attempts engine source above (n + more) attempt rig =
        attempts engine source above more (attempt + n)
          (rigAfter engine source total n attempt rig) := by
  induction n with
  | zero =>
    intro attempt rig _ _
    rw [Nat.zero_add]
    rfl
  | succ n ih =>
    intro attempt rig total_eq late
    have others : ∀ m < n, (replyAfter engine source total m (attempt + 1)
        (next engine source total attempt rig)).IsTimeout :=
      fun m less => late (m + 1) (Nat.succ_lt_succ less)
    rw [Nat.add_right_comm n 1 more, attempts_of_timeout (late 0 (Nat.succ_pos n)) (by omega),
      ih (by omega) others, Nat.add_right_comm attempt 1 n]
    rfl

/-- The attempts come to what the first that is not given up comes to, or else the last. -/
theorem attempts_eq (within : n ≤ more) (total_eq : attempt + more = total)
    (late : ∀ m < n, (replyAfter engine source total m attempt rig).IsTimeout)
    (last : n = more ∨ ¬(replyAfter engine source total n attempt rig).IsTimeout) :
    (attempts engine source above more attempt rig).1 =
      conclusion above (replyAfter engine source total n attempt rig) := by
  obtain ⟨left, rfl⟩ := Nat.exists_eq_add_of_le within
  have last' : left = 0 ∨ ¬(replyAfter engine source total 0 (attempt + n)
      (rigAfter engine source total n attempt rig)).IsTimeout :=
    last.imp_left fun same => by omega
  rw [attempts_after n total_eq late, attempts_of_last last']
  rfl

/-! ## What is listed -/

/-- After some attempts the list has the source with each reply, by induction on the attempts. -/
theorem rigAfter_listed (n : Nat) : ∀ (attempt : Nat) (rig : Rig ε) (calls : List (Text × Reply)),
    rigAfter engine.listed source total n attempt (rig.withCalls calls) =
      (rigAfter engine source total n attempt rig).withCalls (calls ++ (List.range n).map fun m =>
        (source, replyAfter engine source total m attempt rig)) := by
  induction n with
  | zero =>
    intro attempt rig calls
    simp only [List.range_zero, List.map_nil, List.append_nil]
    rfl
  | succ n ih =>
    intro attempt rig calls
    have first : next engine.listed source total attempt (rig.withCalls calls) =
        (next engine source total attempt rig).withCalls
          (calls ++ [(source, replyAfter engine source total 0 attempt rig)]) := rfl
    rw [rigAfter, first, ih, List.range_succ_eq_map, List.map_cons, List.map_map, List.append_assoc]
    rfl

/-- The list makes no difference to the attempts but that the last of them is listed too. -/
theorem attempts_listed_of_last (calls : List (Text × Reply))
    (last : more = 0 ∨ ¬(replyAfter engine source total 0 attempt rig).IsTimeout) :
    attempts engine.listed source above more attempt (rig.withCalls calls) =
      ((attempts engine source above more attempt rig).1,
        (attempts engine source above more attempt rig).2.withCalls
          (calls ++ [(source, replyAfter engine source total 0 attempt rig)])) := by
  have here : replyAfter engine source total 0 attempt rig =
      (engine.compile source (rig.submit source)).1 := rfl
  have listed : engine.listed.compile source ((rig.withCalls calls).submit source) =
      ((engine.compile source (rig.submit source)).1,
        (engine.compile source (rig.submit source)).2.withCalls
          (calls ++ [(source, (engine.compile source (rig.submit source)).1)])) := rfl
  rw [here] at last ⊢
  unfold attempts
  rw [listed]
  generalize engine.compile source (rig.submit source) = done at last ⊢
  obtain ⟨result | timeout | error, after⟩ := done
  · rfl
  · rcases last with rfl | other
    · rfl
    · exact absurd ⟨timeout, rfl⟩ other
  · rfl

/-- What is listed is the source, once for each attempt up to the last. -/
theorem attempts_listed (within : n ≤ more) (total_eq : attempt + more = total)
    (late : ∀ m < n, (replyAfter engine source total m attempt rig).IsTimeout)
    (last : n = more ∨ ¬(replyAfter engine source total n attempt rig).IsTimeout) :
    attempts engine.listed source above more attempt (rig.withCalls []) =
      ((attempts engine source above more attempt rig).1,
        (attempts engine source above more attempt rig).2.withCalls ((List.range (n + 1)).map fun m =>
          (source, replyAfter engine source total m attempt rig))) := by
  obtain ⟨left, rfl⟩ := Nat.exists_eq_add_of_le within
  have late' : ∀ m < n,
      (replyAfter engine.listed source total m attempt (rig.withCalls [])).IsTimeout := by
    intro m less
    unfold replyAfter
    rw [rigAfter_listed]
    exact late m less
  have last' : left = 0 ∨ ¬(replyAfter engine source total 0 (attempt + n)
      (rigAfter engine source total n attempt rig)).IsTimeout :=
    last.imp_left fun same => by omega
  rw [attempts_after n total_eq late, attempts_after n total_eq late', rigAfter_listed, List.nil_append,
    attempts_listed_of_last _ last', List.range_succ, List.map_append]
  rfl

end Submission

/-- An engine with replies ready gives them. -/
theorem Submission.replies_scripted (script : Nat → Reply) (source : Text) (attempts : Nat) (host : Host)
    (submitted : List Text) :
    replies (Engine.scripted script) source attempts ⟨0, submitted, host⟩ = script := by
  have counted : ∀ n attempt (rig : Rig Nat),
      (rigAfter (Engine.scripted script) source attempts n attempt rig).state = rig.state + n := by
    intro n
    induction n with
    | zero => exact fun _ _ => rfl
    | succ n ih =>
      intro attempt rig
      rw [rigAfter, ih, Nat.add_comm n 1, ← Nat.add_assoc]
      rfl
  funext n
  have state := counted n 1 ⟨0, submitted, host⟩
  rw [Nat.zero_add] at state
  exact congrArg script state

/-- The replies of an engine to a request that it is asked for again and again. -/
def Submission.repliesTo (settings : Settings) (engine : Engine ε) (request : Request) (rig : Rig ε) :
    Nat → Reply :=
  replies engine (request.assembled settings.preamble) (1 + settings.timeoutRetries) rig

/-- The engine is asked for the assembled source as often as there are timeouts in front of its first other
reply, and once more, but only once more than there may be retries. If the timeouts are no more than the
retries, that reply is answered; else the last timeout is told. Nothing but a timeout is followed by another
attempt. -/
theorem timeouts_are_retried (settings : Settings) (engine : Engine ε) (request : Request) (rig : Rig ε) :
    ∃ timeouts : ℕ∞,
      LeadingTimeouts (Submission.repliesTo settings engine request rig) timeouts ∧
      (∃ calls : Nat, (calls : ℕ∞) = min timeouts settings.timeoutRetries + 1 ∧
        submit settings engine.listed request (rig.withCalls []) =
          ((submit settings engine request rig).1,
            (submit settings engine request rig).2.withCalls ((List.range calls).map fun n =>
              (request.assembled settings.preamble,
                Submission.repliesTo settings engine request rig n))) ∧
        ∀ n, n + 1 < calls → (Submission.repliesTo settings engine request rig n).IsTimeout) ∧
      (∀ n : Nat, timeouts = n → n ≤ settings.timeoutRetries →
        (Submission.repliesTo settings engine request rig n).Answers
          (if request.usesPreamble then settings.preamble.count '\n' + 1 else 0)
          (submit settings engine request rig).1) ∧
      (settings.timeoutRetries < timeouts → ∃ timeout,
        Submission.repliesTo settings engine request rig settings.timeoutRetries = .timedOut timeout ∧
        (submit settings engine request rig).1 =
          .ok (.failure ⟨timeout.message, timeoutKind, none⟩)) := by
  set replies := Submission.repliesTo settings engine request rig
  obtain ⟨timeouts, leading⟩ := exists_leadingTimeouts replies
  refine ⟨timeouts, leading, ?_⟩
  -- the number of the last attempt, counted from zero
  obtain ⟨n, n_eq⟩ : ∃ n : Nat, (n : ℕ∞) = min timeouts settings.timeoutRetries := by
    refine ⟨(min timeouts settings.timeoutRetries).toNat, ENat.natCast_toNat ?_⟩
    exact ne_top_of_le_ne_top (ENat.natCast_ne_top _) (min_le_right _ _)
  have within : n ≤ settings.timeoutRetries := by
    rw [← Nat.cast_le (α := ℕ∞), n_eq]
    exact min_le_right _ _
  have late : ∀ m < n, (replies m).IsTimeout := by
    intro m less
    have before : (m : ℕ∞) < timeouts :=
      lt_of_lt_of_le (Nat.cast_lt.mpr less) (n_eq ▸ min_le_left _ _)
    exact (leading m).mp before m (Nat.le_refl m)
  have last : n = settings.timeoutRetries ∨ ¬(replies n).IsTimeout := by
    by_cases all : (settings.timeoutRetries : ℕ∞) ≤ timeouts
    · rw [min_eq_right all] at n_eq
      exact .inl (Nat.cast_inj.mp n_eq)
    · rw [min_eq_left (le_of_not_ge all)] at n_eq
      exact .inr (n_eq ▸ leading).notTimeout
  have answered : (submit settings engine request rig).1 =
      Submission.conclusion (request.preambleLines settings.preamble) (replies n) :=
    Submission.attempts_eq within rfl late last
  refine ⟨⟨n + 1, ?_, Submission.attempts_listed within rfl late last, ?_⟩, ?_, ?_⟩
  · rw [Nat.cast_add, n_eq, Nat.cast_one]
  · exact fun m less => late m (Nat.lt_of_succ_lt_succ less)
  · rintro count rfl few
    rw [min_eq_left (Nat.cast_le.mpr few), Nat.cast_inj] at n_eq
    rw [answered, n_eq]
    have answers := Submission.answers_conclusion (request.preambleLines settings.preamble) leading.notTimeout
    rwa [request.preambleLines_eq_lineFeeds] at answers ⊢
  · intro many
    rw [min_eq_right many.le, Nat.cast_inj] at n_eq
    obtain ⟨timeout, told⟩ := (leading settings.timeoutRetries).mp many _ (Nat.le_refl _)
    refine ⟨timeout, told, ?_⟩
    rw [answered, n_eq, told]
    rfl

/-- Two timeouts, and then a failure in the fifth line. -/
def lateFailure (n : Nat) : Reply :=
  if n < 2 then .timedOut ⟨default, []⟩
  else .finished (.failure ⟨"bad".toList, compileKind, some 5⟩)

/-- The default settings with a preamble of two lines and two retries. -/
def patientSettings : Settings := { Settings.default with preamble := "a\nb".toList, timeoutRetries := 2 }

/-- A rig with nothing in it for an engine with replies ready. -/
def scriptedRig : Rig Nat := ⟨0, [], ⟨FileTree.empty, [], [], [], []⟩⟩

/-- A failure after two timeouts is told, and the source was submitted three times. -/
theorem lateFailure_answered :
    (submit patientSettings (Engine.scripted lateFailure) ⟨['x'], true⟩ scriptedRig).1 =
        .ok (.failure ⟨"bad".toList, compileKind, some 3⟩) ∧
      (submit patientSettings (Engine.scripted lateFailure).listed ⟨['x'], true⟩
        (scriptedRig.withCalls [])).2.state.2 =
          [("a\nb\nx".toList, lateFailure 0), ("a\nb\nx".toList, lateFailure 1),
            ("a\nb\nx".toList, lateFailure 2)] := by
  obtain ⟨timeouts, leading, ⟨calls, calls_eq, listed, -⟩, answer, -⟩ :=
    timeouts_are_retried patientSettings (Engine.scripted lateFailure) ⟨['x'], true⟩ scriptedRig
  have given : Submission.repliesTo patientSettings (Engine.scripted lateFailure) ⟨['x'], true⟩
      scriptedRig = lateFailure := Submission.replies_scripted _ _ _ _ _
  rw [given] at leading answer listed
  have third : lateFailure 2 = .finished (.failure ⟨"bad".toList, compileKind, some 5⟩) := rfl
  have two : timeouts = (2 : Nat) := by
    refine leading.eq (fun m less => ⟨⟨default, []⟩, if_pos less⟩) ?_
    rintro ⟨timeout, late⟩
    rw [third] at late
    exact absurd late (by simp)
  have three : calls = 3 := by
    rw [two] at calls_eq
    exact Nat.cast_inj.mp (calls_eq.trans (by decide))
  refine ⟨?_, ?_⟩
  · generalize (submit patientSettings (Engine.scripted lateFailure) ⟨['x'], true⟩ scriptedRig).1 =
      result at answer ⊢
    have answers := answer 2 two (by decide)
    rw [third] at answers
    cases answers
    decide
  · rw [listed, three]
    rfl

end TypstFences
