import TypstFences.Pass.Plan
import TypstFences.Proofs.Text.Blank
import TypstFences.Proofs.Text.Parts

/-!
# The language of info strings

What an info string says is told without reading it part by part. Behind a registered tag there is nothing,
or one part that sets the marker of hidden lines (`Directive.Says`), for there is only one key, and no key
may be set twice. Every other info string has a first part that offends, and what offends in it is told
(`Directive.Blames`). Behind a tag that is not registered there may be anything. The main result is
`read_decides_language`.
-/

set_option autoImplicit false

namespace TypstFences

variable {registry : Registry}

namespace Directive

variable {info : Text} {directive : Directive}

/-- The tag of an info string: what stands in front of its first comma. -/
def tagOf (info : Text) : Text := Text.trim ((Text.trim info).takeWhile (· != ','))

/-- Whether a part sets the marker of hidden lines to a value: the key that is understood stands in front of
its first equals sign, and the value behind it. -/
def Sets (part value : Text) : Prop :=
  ∃ key rest, part = key ++ '=' :: rest ∧ '=' ∉ key ∧ Text.trim key = hideLinesKey ∧
    Text.trim rest = value

/-- What a trimmed info string says if its tag is registered: the tag alone, or the tag and a marker. -/
inductive Says : Text → Directive → Prop
  | tag {text : Text} (plain : ',' ∉ text) : Says text ⟨text, []⟩
  | marker {tag part value : Text} (plain : ',' ∉ tag) (only : ',' ∉ part) (sets : Sets part value) :
      Says (tag ++ ',' :: part) ⟨Text.trim tag, [(hideLinesKey, value)]⟩

/-- What is wrong with a part behind earlier ones. The first of these that applies is told. -/
inductive Offends (earlier : List Text) (part : Text) : AttributeFault → Prop
  | empty (blank : Text.trim part = []) : Offends earlier part .empty
  | noEquals (given : Text.trim part ≠ []) (plain : '=' ∉ part) :
      Offends earlier part (.noEquals (Text.trim part))
  | noKey {key rest : Text} (shape : part = key ++ '=' :: rest) (first : '=' ∉ key)
      (blank : Text.trim key = []) : Offends earlier part (.noKey (Text.trim part))
  | unknown {key rest : Text} (shape : part = key ++ '=' :: rest) (first : '=' ∉ key)
      (given : Text.trim key ≠ []) (strange : Text.trim key ≠ hideLinesKey) :
      Offends earlier part (.unknown (Text.trim key))
  | repeated {value : Text} (sets : Sets part value) (again : ∃ other ∈ earlier, ∃ value, Sets other value) :
      Offends earlier part (.repeated hideLinesKey)

/-- Whether no part offends behind earlier ones and those of the parts that come before it. -/
def Quiet (earlier parts : List Text) : Prop :=
  ∀ front other back, parts = front ++ other :: back → ∀ fault, ¬ Offends (earlier ++ front) other fault

/-- Whether a fault is that of the first part of an info string that offends. -/
def Blames (text : Text) (fault : AttributeFault) : Prop :=
  ∃ tag before part after, text = Text.joinWith [','] (tag :: (before ++ part :: after)) ∧
    (∀ other ∈ tag :: (before ++ part :: after), ',' ∉ other) ∧ Quiet [] before ∧ Offends before part fault

/-! ## Tags -/

/-- Without a comma the tag is the whole info string. -/
theorem tagOf_of_no_comma (none : ',' ∉ Text.trim info) : tagOf info = Text.trim info := by
  have whole : (Text.trim info).takeWhile (· != ',') = Text.trim info := by
    apply List.takeWhile_eq_self_iff.mpr
    intro c mem
    have differ : c ≠ ',' := fun same => none (same ▸ mem)
    exact bne_iff_ne.mpr differ
  rw [tagOf, whole, Text.trim_trim]

/-- With a comma the tag is what stands in front of the first one. -/
theorem tagOf_of_comma {tag after : Text} (shape : Text.trim info = tag ++ ',' :: after)
    (plain : ',' ∉ tag) : tagOf info = Text.trim tag := by
  have inside : ∀ c ∈ tag, (c != ',') = true := by
    intro c mem
    have differ : c ≠ ',' := fun same => plain (same ▸ mem)
    exact bne_iff_ne.mpr differ
  rw [tagOf, shape, List.takeWhile_append_of_pos inside, List.takeWhile_cons_of_neg (by simp),
    List.append_nil]

/-- What is read of an info string has its tag. -/
theorem tag_of_read (h : read registry info = .ok directive) : directive.tag = tagOf info := by
  unfold read Text.cut? at h
  by_cases comma : ',' ∈ Text.trim info
  · simp only [if_pos comma] at h
    split at h
    · split at h
      · rw [← Except.ok.inj h]
        rfl
      · exact absurd h (by simp)
    · rw [← Except.ok.inj h]
      rfl
  · simp only [if_neg comma] at h
    rw [← Except.ok.inj h, tagOf_of_no_comma comma]

/-- The attributes behind a tag that is not registered are not read. -/
theorem read_of_unregistered (unknown : registry.isRegistered (tagOf info) = false) :
    read registry info = .ok ⟨tagOf info, []⟩ := by
  unfold read Text.cut?
  by_cases comma : ',' ∈ Text.trim info
  · have tag_eq : Text.trim ((Text.trim info).takeWhile (· != ',')) = tagOf info := rfl
    simp only [if_pos comma, tag_eq, unknown]
    rfl
  · simp only [if_neg comma, tagOf_of_no_comma comma]

/-- Without a comma there are no attributes. -/
theorem read_of_no_comma (none : ',' ∉ Text.trim info) :
    read registry info = .ok ⟨Text.trim info, []⟩ := by
  simp only [read, Text.cut?_eq_none.mpr none]

/-- With a comma what follows the first one is read as attributes. -/
theorem read_of_comma {tag after : Text} (shape : Text.trim info = tag ++ ',' :: after)
    (plain : ',' ∉ tag) (known : registry.isRegistered (tagOf info) = true) :
    read registry info =
      (readAttributes after).map fun attributes => ⟨Text.trim tag, attributes⟩ := by
  rw [tagOf_of_comma shape plain] at known
  simp only [read, shape, Text.cut?_append after plain, known, if_true]
  cases readAttributes after <;> rfl

/-! ## One part -/

/-- A part sets one value at most. -/
theorem Sets.unique {part value other : Text} (h : Sets part value) (h' : Sets part other) :
    value = other := by
  obtain ⟨key, rest, rfl, first, -, rfl⟩ := h
  obtain ⟨key', rest', shape, first', -, rfl⟩ := h'
  rw [(Text.append_cons_inj first first' shape).2]

/-- A part without an equals sign is refused. -/
theorem readAttribute_of_plain (given : List (Text × Text)) {part : Text} (plain : '=' ∉ part) :
    readAttribute given part =
      if Text.trim part = [] then .error .empty else .error (.noEquals (Text.trim part)) := by
  have none : '=' ∉ Text.trim part := fun mem => plain (Text.trim_subset part mem)
  simp only [readAttribute, Text.cut?_eq_none.mpr none, List.isEmpty_iff]

/-- A part with an equals sign is read as a key and a value, cut at the first sign. -/
theorem readAttribute_of_equals (given : List (Text × Text)) {key : Text} (rest : Text)
    (first : '=' ∉ key) :
    readAttribute given (key ++ '=' :: rest) =
      if Text.trim key = [] then .error (.noKey (Text.trim (key ++ '=' :: rest)))
      else if Text.trim key ≠ hideLinesKey then .error (.unknown (Text.trim key))
      else if given.any (·.1 == hideLinesKey) then .error (.repeated hideLinesKey)
      else .ok (hideLinesKey, Text.trim rest) := by
  have trimmed : Text.trim (key ++ '=' :: rest) = Text.trimStart key ++ '=' :: Text.trimEnd rest :=
    Text.trim_append_cons (by decide) key rest
  have first' : '=' ∉ Text.trimStart key := fun mem => first ((List.dropWhile_suffix _).subset mem)
  have nonempty : Text.trimStart key ++ '=' :: Text.trimEnd rest ≠ [] := by simp
  simp only [readAttribute, trimmed, Text.cut?_append _ first', Text.trim_trimStart, Text.trim_trimEnd,
    List.isEmpty_iff, nonempty, if_false]
  by_cases known : Text.trim key = hideLinesKey
  · rw [known]
    simp [isReservedKey]
  · simp [isReservedKey, known]

/-- Whether attributes tell which of the parts before have set the marker. -/
def Tells (given : List (Text × Text)) (earlier : List Text) : Prop :=
  given.any (·.1 == hideLinesKey) = true ↔ ∃ other ∈ earlier, ∃ value, Sets other value

variable {given : List (Text × Text)} {earlier : List Text}

/-- A part without an equals sign is refused for what is wrong with it. -/
theorem readAttribute_error_of_plain {part : Text} {fault : AttributeFault} (plain : '=' ∉ part) :
    readAttribute given part = .error fault ↔ Offends earlier part fault := by
  rw [readAttribute_of_plain given plain]
  constructor
  · intro refused
    split at refused
    · rename_i blank
      rw [← Except.error.inj refused]
      exact .empty blank
    · rename_i present
      rw [← Except.error.inj refused]
      exact .noEquals present plain
  · intro offends
    cases offends with
    | empty blank => rw [if_pos blank]
    | noEquals present _ => rw [if_neg present]
    | noKey shape => exact absurd (by simp [shape]) plain
    | unknown shape => exact absurd (by simp [shape]) plain
    | repeated sets =>
      obtain ⟨key, rest, shape, -⟩ := sets
      exact absurd (by simp [shape]) plain

/-- A part with an equals sign is refused for what is wrong with it. -/
theorem readAttribute_error_of_equals (tells : Tells given earlier) {key rest : Text}
    {fault : AttributeFault} (first : '=' ∉ key) :
    readAttribute given (key ++ '=' :: rest) = .error fault ↔
      Offends earlier (key ++ '=' :: rest) fault := by
  rw [readAttribute_of_equals given rest first]
  constructor
  · intro refused
    split at refused
    · rename_i blank
      rw [← Except.error.inj refused]
      exact .noKey rfl first blank
    · rename_i present
      split at refused
      · rename_i strange
        rw [← Except.error.inj refused]
        exact .unknown rfl first present strange
      · rename_i known
        split at refused
        · rename_i again
          rw [← Except.error.inj refused]
          exact .repeated ⟨key, rest, rfl, first, not_not.mp known, rfl⟩ (tells.mp again)
        · exact absurd refused (by simp)
  · intro offends
    cases offends with
    | empty blank =>
      rw [Text.trim_append_cons (by decide)] at blank
      exact absurd blank (by simp)
    | noEquals _ plain => exact absurd (by simp) plain
    | noKey shape first' blank =>
      obtain ⟨rfl, -⟩ := Text.append_cons_inj first first' shape
      rw [if_pos blank]
    | unknown shape first' present strange =>
      obtain ⟨rfl, -⟩ := Text.append_cons_inj first first' shape
      rw [if_neg present, if_pos strange]
    | repeated sets again =>
      obtain ⟨key', rest', shape, first', known, -⟩ := sets
      obtain ⟨rfl, -⟩ := Text.append_cons_inj first first' shape
      have present : Text.trim key ≠ [] := by
        rw [known]
        decide
      rw [if_neg present, if_neg (not_not.mpr known), if_pos (tells.mpr again)]

/-- A part is refused for what it offends against. -/
theorem readAttribute_error (tells : Tells given earlier) {part : Text} {fault : AttributeFault} :
    readAttribute given part = .error fault ↔ Offends earlier part fault := by
  by_cases equals : '=' ∈ part
  · obtain ⟨key, rest, rfl, first⟩ := List.eq_append_cons_of_mem equals
    exact readAttribute_error_of_equals tells first
  · exact readAttribute_error_of_plain equals

/-- A part that is read sets the one attribute that there is. -/
theorem readAttribute_ok {part : Text} {entry : Text × Text} (read : readAttribute given part = .ok entry) :
    entry.1 = hideLinesKey ∧ Sets part entry.2 := by
  by_cases equals : '=' ∈ part
  · obtain ⟨key, rest, rfl, first⟩ := List.eq_append_cons_of_mem equals
    rw [readAttribute_of_equals given rest first] at read
    split at read
    · exact absurd read (by simp)
    · split at read
      · exact absurd read (by simp)
      · rename_i known
        split at read
        · exact absurd read (by simp)
        · rw [← Except.ok.inj read]
          exact ⟨rfl, key, rest, rfl, first, not_not.mp known, rfl⟩
  · rw [readAttribute_of_plain given equals] at read
    split at read <;> exact absurd read (by simp)

/-- A part that is read sets the marker, and the attributes after it tell so. -/
theorem tells_concat (earlier : List Text) {part : Text} {entry : Text × Text}
    (read : readAttribute given part = .ok entry) : Tells (given ++ [entry]) (earlier ++ [part]) := by
  obtain ⟨key, sets⟩ := readAttribute_ok read
  have added : (given ++ [entry]).any (·.1 == hideLinesKey) = true := by simp [key]
  exact ⟨fun _ => ⟨part, by simp, entry.2, sets⟩, fun _ => added⟩

/-! ## All parts -/

/-- Parts are quiet if the first of them does not offend, and the others do not behind it. -/
theorem quiet_cons {first : Text} {others : List Text} :
    Quiet earlier (first :: others) ↔
      (∀ fault, ¬ Offends earlier first fault) ∧ Quiet (earlier ++ [first]) others := by
  constructor
  · intro quiet
    constructor
    · intro fault offends
      exact quiet [] first others rfl fault (by rwa [List.append_nil])
    · rintro front other back rfl fault offends
      apply quiet (first :: front) other back rfl fault
      rwa [List.append_assoc] at offends
  · rintro ⟨quietFirst, quietOthers⟩ front other back split fault offends
    cases front with
    | nil =>
      obtain ⟨rfl, -⟩ := List.cons.inj split
      rw [List.append_nil] at offends
      exact quietFirst fault offends
    | cons head front =>
      obtain ⟨rfl, others_eq⟩ := List.cons.inj split
      apply quietOthers front other back others_eq fault
      rwa [List.append_assoc, List.singleton_append]

/-- Parts are refused for the first that offends. -/
theorem readParts_error {parts : List Text} {fault : AttributeFault} :
    ∀ {given : List (Text × Text)} {earlier : List Text}, Tells given earlier →
      (readParts given parts = .error fault ↔
        ∃ before part after, parts = before ++ part :: after ∧ Quiet earlier before ∧
          Offends (earlier ++ before) part fault) := by
  induction parts with
  | nil =>
    intro given earlier tells
    simp [readParts]
  | cons first others ih =>
    intro given earlier tells
    cases read : readAttribute given first with
    | error told =>
      have offends : Offends earlier first told := (readAttribute_error tells).mp read
      simp only [readParts, read]
      constructor
      · intro same
        rw [← Except.error.inj same]
        refine ⟨[], first, others, rfl, ?_, by rwa [List.append_nil]⟩
        intro front other back split
        exact absurd split (by simp)
      · rintro ⟨before, part, after, split, quiet, blamed⟩
        cases before with
        | nil =>
          obtain ⟨rfl, rfl⟩ := List.cons.inj split
          rw [List.append_nil] at blamed
          have refused := (readAttribute_error tells).mpr blamed
          rw [Except.error.inj (read.symm.trans refused)]
        | cons other before =>
          obtain ⟨rfl, -⟩ := List.cons.inj split
          exact absurd offends ((quiet_cons.mp quiet).1 told)
    | ok entry =>
      have quietFirst : ∀ told, ¬ Offends earlier first told := by
        intro told offends
        rw [(readAttribute_error tells).mpr offends] at read
        exact absurd read (by simp)
      have moved (before : List Text) : earlier ++ [first] ++ before = earlier ++ first :: before :=
        (List.append_cons earlier first before).symm
      simp only [readParts, read]
      rw [ih (tells_concat earlier read)]
      constructor
      · rintro ⟨before, part, after, rfl, quiet, blamed⟩
        rw [moved] at blamed
        exact ⟨first :: before, part, after, rfl, quiet_cons.mpr ⟨quietFirst, quiet⟩, blamed⟩
      · rintro ⟨before, part, after, split, quiet, blamed⟩
        cases before with
        | nil =>
          obtain ⟨rfl, -⟩ := List.cons.inj split
          rw [List.append_nil] at blamed
          exact absurd blamed (quietFirst fault)
        | cons head before =>
          obtain ⟨rfl, rfl⟩ := List.cons.inj split
          rw [← moved] at blamed
          exact ⟨before, part, after, rfl, (quiet_cons.mp quiet).2, blamed⟩

/-- Parts are read if there is only one, which sets the marker: there is no other key. -/
theorem readParts_ok {parts : List Text} {attributes : List (Text × Text)} (nonempty : parts ≠ []) :
    readParts [] parts = .ok attributes ↔
      ∃ part value, parts = [part] ∧ Sets part value ∧ attributes = [(hideLinesKey, value)] := by
  have none : Tells [] [] := by simp [Tells]
  obtain ⟨first, others, rfl⟩ := List.exists_cons_of_ne_nil nonempty
  constructor
  · intro read
    cases begun : readAttribute [] first with
    | error fault =>
      rw [readParts, begun] at read
      exact absurd read (by simp)
    | ok entry =>
      obtain ⟨key, sets⟩ := readAttribute_ok begun
      simp only [readParts, begun, List.nil_append] at read
      cases others with
      | nil =>
        refine ⟨first, entry.2, rfl, sets, ?_⟩
        rw [← Except.ok.inj read, ← key]
      | cons second others =>
        -- the second part would have to set the marker again
        cases next : readAttribute [entry] second with
        | error fault =>
          rw [readParts, next] at read
          exact absurd read (by simp)
        | ok other =>
          obtain ⟨-, setsAgain⟩ := readAttribute_ok next
          have tells : Tells [entry] [first] := tells_concat [] begun
          have offends : Offends [first] second (.repeated hideLinesKey) :=
            .repeated setsAgain ⟨first, List.mem_singleton_self first, entry.2, sets⟩
          rw [(readAttribute_error tells).mpr offends] at next
          exact absurd next (by simp)
  · rintro ⟨part, value, single, sets, rfl⟩
    obtain ⟨rfl, rfl⟩ := List.cons.inj single
    obtain ⟨key, rest, rfl, plain, known, rfl⟩ := sets
    have present : Text.trim key ≠ [] := by
      rw [known]
      decide
    rw [readParts, readAttribute_of_equals [] rest plain, if_neg present, if_neg (not_not.mpr known)]
    rfl

/-! ## The whole info string -/

/-- Under a registered tag an info string is read as what it says. -/
theorem read_eq_ok (known : registry.isRegistered (tagOf info) = true) :
    read registry info = .ok directive ↔ Says (Text.trim info) directive := by
  by_cases comma : ',' ∈ Text.trim info
  · obtain ⟨tag, after, shape, plain⟩ := List.eq_append_cons_of_mem comma
    obtain ⟨more, clean, joined⟩ := Text.splitOn_parts ',' after
    rw [read_of_comma shape plain known, shape]
    constructor
    · intro read
      cases found : readAttributes after with
      | error fault =>
        rw [found] at read
        exact absurd read (by simp [Except.map])
      | ok attributes =>
        obtain ⟨part, value, single, sets, rfl⟩ := (readParts_ok more).mp found
        rw [single] at clean joined
        obtain rfl : part = after := joined
        rw [found] at read
        rw [← Except.ok.inj read]
        exact .marker plain (clean part (List.mem_singleton_self part)) sets
    · intro spoken
      generalize whole : tag ++ ',' :: after = text at spoken
      cases spoken with
      | tag none => exact absurd (by simp [← whole]) none
      | @marker tag' part value plain' only sets =>
        obtain ⟨rfl, rfl⟩ := Text.append_cons_inj plain plain' whole
        have found : readAttributes after = .ok [(hideLinesKey, value)] :=
          (readParts_ok more).mpr ⟨after, value, Text.splitOn_of_notMem only, sets, rfl⟩
        rw [found]
        rfl
  · rw [read_of_no_comma comma]
    constructor
    · intro read
      rw [← Except.ok.inj read]
      exact .tag comma
    · intro spoken
      generalize Text.trim info = text at spoken comma
      cases spoken with
      | tag => rfl
      | marker => exact absurd (by simp) comma

/-- Under a registered tag an info string is refused for the first part that is to blame. -/
theorem read_eq_error (known : registry.isRegistered (tagOf info) = true) {fault : AttributeFault} :
    read registry info = .error fault ↔ Blames (Text.trim info) fault := by
  have none : Tells [] [] := by simp [Tells]
  by_cases comma : ',' ∈ Text.trim info
  · obtain ⟨tag, after, shape, plain⟩ := List.eq_append_cons_of_mem comma
    obtain ⟨more, clean, joined⟩ := Text.splitOn_parts ',' after
    have told : read registry info = .error fault ↔
        readParts [] (Text.splitOn ',' after) = .error fault := by
      rw [read_of_comma shape plain known, ← readAttributes]
      cases readAttributes after <;> simp [Except.map]
    rw [told, readParts_error none, shape]
    constructor
    · rintro ⟨before, part, after', split, quiet, blamed⟩
      rw [split] at clean joined
      refine ⟨tag, before, part, after', ?_, ?_, quiet, blamed⟩
      · rw [Text.joinWith_cons tag (by simp), joined]
      · intro other mem
        rcases List.mem_cons.mp mem with rfl | later
        · exact plain
        · exact clean other later
    · rintro ⟨tag', before, part, after', whole, clean', quiet, blamed⟩
      rw [Text.joinWith_cons tag' (by simp)] at whole
      obtain ⟨rfl, rfl⟩ := Text.append_cons_inj plain (clean' tag' List.mem_cons_self) whole
      refine ⟨before, part, after', ?_, quiet, blamed⟩
      exact Text.splitOn_joinWith (by simp) fun other mem => clean' other (List.mem_cons_of_mem tag mem)
  · rw [read_of_no_comma comma]
    constructor
    · intro refused
      exact absurd refused (by simp)
    · rintro ⟨tag, before, part, after, whole, -⟩
      rw [Text.joinWith_cons tag (by simp)] at whole
      exact absurd (by simp [whole]) comma

/-- The marker that is read of an info string is part of it, or the default. -/
theorem marker_of_read (h : read registry info = .ok directive) (default : Option Text) :
    directive.marker default ⊆ info ∨ directive.marker default = default.getD [] := by
  cases known : registry.isRegistered (tagOf info) with
  | false =>
    rw [read_of_unregistered known] at h
    obtain rfl := Except.ok.inj h
    exact .inr rfl
  | true =>
    have spoken := (read_eq_ok known).mp h
    have within := Text.trim_subset info
    generalize Text.trim info = text at spoken within
    cases spoken with
    | tag => exact .inr rfl
    | @marker tag part value plain only sets =>
      obtain ⟨key, rest, rfl, -, -, rfl⟩ := sets
      left
      intro c mem
      exact within (by simp [Text.trim_subset rest mem])

/-! ## Info strings with blanks -/

/-- Whether a text is trimmed and without a comma. -/
def Tidy (text : Text) : Prop := Text.trim text = text ∧ ',' ∉ text

/-- Whether a text is written out with blanks around it. -/
def Padded (text written : Text) : Prop :=
  ∃ before after, written = before ++ text ++ after ∧ (∀ c ∈ before, Text.isBlank c = true) ∧
    ∀ c ∈ after, Text.isBlank c = true

/-- Whether an info string writes out a tag and a marker, with blanks around the tag, around the key that
is understood and around the marker. -/
def Writes (info tag value : Text) : Prop :=
  ∃ writtenTag writtenKey writtenValue, info = writtenTag ++ ',' :: (writtenKey ++ '=' :: writtenValue) ∧
    Padded tag writtenTag ∧ Padded hideLinesKey writtenKey ∧ Padded value writtenValue

/-- Padding is trimmed away. -/
theorem Padded.trim {text written : Text} (h : Padded text written) :
    Text.trim written = Text.trim text := by
  obtain ⟨before, after, rfl, blankBefore, blankAfter⟩ := h
  exact Text.trim_padded text blankBefore blankAfter

/-- Padding brings in blanks alone. -/
theorem Padded.notMem {text written : Text} {c : Char} (h : Padded text written) (absent : c ∉ text)
    (notBlank : Text.isBlank c = false) : c ∉ written := by
  obtain ⟨before, after, rfl, blankBefore, blankAfter⟩ := h
  intro mem
  rcases List.mem_append.mp mem with front | back
  · rcases List.mem_append.mp front with start | inside
    · exact absurd (blankBefore c start) (by simp [notBlank])
    · exact absent inside
  · exact absurd (blankAfter c back) (by simp [notBlank])

/-- What is written out is what is said. -/
theorem Writes.spoken {tag value : Text} (writes : Writes info tag value) (tidyTag : Tidy tag)
    (tidyValue : Tidy value) :
    tagOf info = tag ∧ Says (Text.trim info) ⟨tag, [(hideLinesKey, value)]⟩ := by
  obtain ⟨writtenTag, writtenKey, writtenValue, rfl, aroundTag, aroundKey, aroundValue⟩ := writes
  have plainTag : ',' ∉ Text.trimStart writtenTag := fun mem =>
    aroundTag.notMem tidyTag.2 (by decide) ((List.dropWhile_suffix _).subset mem)
  have plainKey : ',' ∉ writtenKey := aroundKey.notMem (by decide) (by decide)
  have plainValue : ',' ∉ Text.trimEnd writtenValue := fun mem =>
    aroundValue.notMem tidyValue.2 (by decide) ((List.rdropWhile_prefix _ _).subset mem)
  have tag_eq : Text.trim (Text.trimStart writtenTag) = tag := by
    rw [Text.trim_trimStart, aroundTag.trim, tidyTag.1]
  have trimmed : Text.trim (writtenTag ++ ',' :: (writtenKey ++ '=' :: writtenValue)) =
      Text.trimStart writtenTag ++ ',' :: (writtenKey ++ '=' :: Text.trimEnd writtenValue) := by
    rw [Text.trim_append_cons (by decide), Text.trimEnd_append_cons (by decide)]
  have sets : Sets (writtenKey ++ '=' :: Text.trimEnd writtenValue) value := by
    refine ⟨writtenKey, _, rfl, aroundKey.notMem (by decide) (by decide), ?_, ?_⟩
    · rw [aroundKey.trim]
      decide
    · rw [Text.trim_trimEnd, aroundValue.trim, tidyValue.1]
  constructor
  · rw [tagOf_of_comma trimmed plainTag, tag_eq]
  · rw [trimmed, ← tag_eq]
    refine .marker plainTag ?_ sets
    simp [plainKey, plainValue]

/-- No value of an attribute has a comma in it. -/
theorem Says.plain {text : Text} (spoken : Says text directive) :
    ∀ entry ∈ directive.attributes, ',' ∉ entry.2 := by
  cases spoken with
  | tag => exact fun _ mem => absurd mem (by simp)
  | marker _ only sets =>
    obtain ⟨key, rest, rfl, -, -, rfl⟩ := sets
    intro entry mem
    rw [List.mem_singleton.mp mem]
    intro comma
    exact only (by simp [Text.trim_subset rest comma])

/-! ## The language -/

/-- An empty info string has the empty tag, and of one whose tag is not registered only the tag is read. If
the tag is registered, what is read is what is said, and of every other info string the first part that
offends is blamed, which is the error of a pass that comes to a fence with it. A registered tag and a marker
are read from every way to write them out. -/
theorem read_decides_language (registry : Registry) (info : Text) :
    (Text.trim info = [] → read registry info = .ok ⟨[], []⟩) ∧
    (registry.isRegistered (tagOf info) = false → read registry info = .ok ⟨tagOf info, []⟩) ∧
    (registry.isRegistered (tagOf info) = true →
      (∀ directive, read registry info = .ok directive ↔ Says (Text.trim info) directive) ∧
      (∀ directive, Says (Text.trim info) directive → ∀ entry ∈ directive.attributes, ',' ∉ entry.2) ∧
      ∀ fault, read registry info = .error fault ↔ Blames (Text.trim info) fault) ∧
    (∀ fault, read registry info = .error fault → ∀ settings name index fence fences host,
      Fence.info fence = info →
        (Plan.ofFences settings registry name ((index, fence) :: fences) host).1 =
          .error (.invalidDirective ⟨name, fence.line⟩ (Text.trim info) fault)) ∧
    ∀ tag value, registry.isRegistered tag = true → Tidy tag → Tidy value → Writes info tag value →
      read registry info = .ok ⟨tag, [(hideLinesKey, value)]⟩ := by
  refine ⟨?_, read_of_unregistered, ?_, ?_, ?_⟩
  · intro empty
    have none : ',' ∉ Text.trim info := by simp [empty]
    rw [read_of_no_comma none, empty]
  · intro known
    exact ⟨fun _ => read_eq_ok known, fun _ => Says.plain, fun _ => read_eq_error known⟩
  · rintro fault refused settings name index fence fences host rfl
    simp only [Plan.ofFences, refused]
  · intro tag value known tidyTag tidyValue writes
    obtain ⟨tag_eq, spoken⟩ := writes.spoken tidyTag tidyValue
    rw [← tag_eq] at known
    exact (read_eq_ok known).mpr spoken

/-- A marker with an equals sign in it is read, with blanks of several kinds around it, and of two parts
that offend the first is blamed. -/
theorem read_of_typst_tags :
    read Registry.typst "\ttyp , hidelines\n=#=%\u3000".toList =
      .ok ⟨"typ".toList, [(hideLinesKey, "#=%".toList)]⟩ ∧
    Blames "typ,hidelines=%,hidelines=#,a=1".toList (.repeated hideLinesKey) ∧
    read Registry.typst "rust,,=".toList = .ok ⟨"rust".toList, []⟩ := by
  refine ⟨?_, ?_, ?_⟩
  · obtain ⟨-, -, -, -, written⟩ :=
      read_decides_language Registry.typst "\ttyp , hidelines\n=#=%\u3000".toList
    apply written "typ".toList "#=%".toList (by decide) ⟨by decide, by decide⟩ ⟨by decide, by decide⟩
    have blank {text : Text} (each : text.all Text.isBlank = true) : ∀ c ∈ text, Text.isBlank c = true :=
      List.all_eq_true.mp each
    exact ⟨"\ttyp ".toList, " hidelines\n".toList, "#=%\u3000".toList, by decide,
      ⟨['\t'], [' '], by decide, blank (by decide), blank (by decide)⟩,
      ⟨[' '], ['\n'], by decide, blank (by decide), blank (by decide)⟩,
      ⟨[], ['\u3000'], by decide, blank (by decide), blank (by decide)⟩⟩
  · obtain ⟨-, -, registered, -⟩ :=
      read_decides_language Registry.typst "typ,hidelines=%,hidelines=#,a=1".toList
    have told := (registered (by decide)).2.2 (.repeated hideLinesKey)
    have trimmed : Text.trim "typ,hidelines=%,hidelines=#,a=1".toList =
        "typ,hidelines=%,hidelines=#,a=1".toList := by decide
    rw [← trimmed]
    exact told.mp (by decide)
  · obtain ⟨-, foreign, -⟩ := read_decides_language Registry.typst "rust,,=".toList
    exact foreign (by decide)

end Directive

end TypstFences
