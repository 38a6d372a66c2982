import TypstFences.Proofs.Pass.Foretold

/-!
# Passes one after the other

Of a sequence of passes the first comes to what is foretold, and leaves a session in which the others come to
what was foretold for them at the start (`PassCall.run_first`). This stays so when files are written after the
pass, as long as they keep out of the names that the results of the others are to be kept under
(`Session.Follows.written`).
-/

set_option autoImplicit false

namespace TypstFences

variable {ε : Type} {answer : Answer} {calls fewer : List (PassCall ε)} {call : PassCall ε} {key : Text}
variable {result : RenderResult} {start session after : Session ε} {edits : Edit → Prop}

/-- Whether no two different payloads in some passes have the same digest. -/
def NoCollisions (calls : List (PassCall ε)) : Prop :=
  ∀ first ∈ calls, ∀ second ∈ calls, first.NoCollision second

/-- Nor have they in the later passes. -/
theorem NoCollisions.tail (h : NoCollisions (call :: calls)) : NoCollisions calls :=
  fun first mem second mem' => h first (List.mem_cons_of_mem _ mem) second (List.mem_cons_of_mem _ mem')

/-- The digests of the requests of some passes. -/
def keysOf (calls : List (PassCall ε)) (key : Text) : Prop := ∃ call ∈ calls, call.keys key

/-- The values of digests in some passes are those in more passes. -/
theorem valueOf_mono (noCollisions : NoCollisions calls) (among : fewer ⊆ calls)
    (known : valueOf answer fewer key = some result) : valueOf answer calls key = some result := by
  obtain ⟨call, mem, request, asked, digest, answered⟩ := expected_of_valueOf known
  exact valueOf_eq noCollisions ⟨call, among mem, request, asked, digest, answered⟩

/-- A digest with a value is one of a request. -/
theorem keysOf_of_valueOf (known : valueOf answer calls key ≠ none) : keysOf calls key := by
  obtain ⟨result, known⟩ := Option.ne_none_iff_exists'.mp known
  obtain ⟨call, mem, request, asked, digest, -⟩ := expected_of_valueOf known
  exact ⟨call, mem, request, asked, digest⟩

/-- A digest with a value is a key. -/
theorem isKey_of_valueOf (known : valueOf answer calls key ≠ none) : Store.IsKey key := by
  obtain ⟨_, _, _, _, rfl⟩ := keysOf_of_valueOf known
  exact Store.isKey_hexDigest _

/-- The value of a digest of a pass is the same among more passes. -/
theorem valueOf_single (noCollisions : NoCollisions calls) (mem : call ∈ calls) (asked : call.keys key)
    (known : valueOf answer calls key = some result) : valueOf answer [call] key = some result := by
  obtain ⟨request, listed, digest⟩ := asked
  have single : NoCollisions [call] := fun first among second among' =>
    noCollisions first (List.mem_singleton.mp among ▸ mem) second (List.mem_singleton.mp among' ▸ mem)
  rw [valueOf_eq noCollisions ⟨call, mem, request, listed, digest, rfl⟩] at known
  rw [valueOf_eq single ⟨call, List.mem_cons_self, request, listed, digest, rfl⟩, known]

/-- Whether a session comes of another one by the first pass of a sequence: the others are expected to come to
what was foretold at the start, and if the first one has a result, all it asked for is remembered. -/
structure Session.Follows (answer : Answer) (calls : List (PassCall ε)) (call : PassCall ε)
    (start session after : Session ε) : Prop where
  expects : Expects (valueOf answer calls) start after
  advances : Advances (valueOf answer [call]) call.keys session after
  remembered : (∃ result, call.foretold answer start = .ok result) →
    ∀ key, call.keys key → after.cache.entry? key ≠ none

/-- If the template shows no places in memory, it does not matter to what is foretold where objects stand. -/
theorem PassCall.foretold_again (call : PassCall ε) (steady : call.settings.Steady) (start : Session ε)
    (order : List Nat → Schedule) (address : Nat → Nat → Template.Address) :
    (call.again order address).foretold answer start = call.foretold answer start := by
  have same : (call.again order address).press.highlighter = call.press.highlighter := rfl
  exact congrArg (·.bind (Pass.settle call.settings)) (Pass.meaning_steady steady same call.registry
    (call.expected answer start) call.name call.source)

/-- The first pass comes to what is foretold, wherever objects stand, unless the file system refuses a file of
the cache. -/
theorem PassCall.run_first (inOrder : call.InOrder answer) (steady : call.settings.Steady)
    (noCollisions : NoCollisions (call :: calls))
    (h : Session.Expects (valueOf answer (call :: calls)) start session)
    (address : Nat → Nat → Template.Address) :
    (∃ fault, ((call.again call.schedule address).run session).1 = .error (.refusedFile fault) ∧
        session.Refuses (valueOf answer [call]) call.keys fault) ∨
      ((call.again call.schedule address).run session).1 = call.foretold answer start ∧
        Session.Follows answer calls call start session
          ((call.again call.schedule address).run session).2 := by
  have values : call.Values answer (valueOf answer (call :: calls)) call.requests :=
    fun request asked => valueOf_eq noCollisions ⟨call, List.mem_cons_self, request, asked, rfl, rfl⟩
  have inOrder' : (call.again call.schedule address).InOrder answer :=
    ⟨inOrder.schedule, inOrder.answers, inOrder.spares, inOrder.embeds⟩
  have foretold_eq : (call.again call.schedule address).foretold answer start = call.foretold answer start :=
    call.foretold_again steady start call.schedule address
  rcases PassCall.run_foretold inOrder' (fun key => isKey_of_valueOf) h values with
    ⟨fault, refused, refuses⟩ | ⟨outcome, goes, remembered⟩
  · exact .inl ⟨fault, refused, refuses.mono
      (fun _ _ => valueOf_single noCollisions List.mem_cons_self) fun _ asked => asked⟩
  · rw [foretold_eq] at outcome remembered
    exact .inr ⟨outcome, goes.expects.mono fun _ _ => valueOf_mono noCollisions (List.subset_cons_self _ _),
      goes.advances.mono (fun _ _ => valueOf_single noCollisions List.mem_cons_self) fun _ asked => asked,
      remembered⟩

/-- Files that are written after the first pass change nothing for the others, if none of them gives the
directory of the cache a name with a slash or a name of a key that the others are the first to ask for. -/
theorem Session.Follows.written (h : Session.Follows answer calls call start session after) {host : Host}
    (returned : ∃ result, call.foretold answer start = .ok result)
    (edited : Host.Edited edits after.rig.host host)
    (apart : ∀ path, start.cache.directory = some path → ∀ edit, edits edit → ∀ name,
      edit.place = path.resolve start.rig.host.here ++ [name] →
        '/' ∉ name ∧ ∀ key, keysOf calls key → ¬call.keys key → ¬Store.Concerns key name) :
    Session.Expects (valueOf answer calls) start (after.withHost host) := by
  refine h.expects.edited (fun key => isKey_of_valueOf) edited fun path used edit mem name place_eq => ?_
  rw [h.expects.directory] at used
  rw [h.expects.here] at place_eq
  obtain ⟨clean, free⟩ := apart path used edit mem name place_eq
  refine ⟨clean, fun key opened => free key (keysOf_of_valueOf opened.1) fun asked => ?_⟩
  exact h.remembered returned key asked opened.2

end TypstFences
