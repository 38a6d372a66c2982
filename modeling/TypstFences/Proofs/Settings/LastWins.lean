import TypstFences.Proofs.Association
import TypstFences.Proofs.Settings.Surroundings

/-!
# The last change wins

What entries ask of a field is the value of the last of them that is for the field and has one (`given?`), and
this is all that a change depends on. So two changes one after the other are the one change that asks of
each field what the second asks, or else what the first does (`override_override`), and a run of changes,
refused ones among them, is one change with the entries of the accepted ones (`override_of_run`). The
surroundings are read anew each time and do not show through (`override_elsewhere`). All of this is for any
packages that validate each field on its own and accept unchanged what they have produced.
-/

set_option autoImplicit false

namespace TypstFences

/-- A name is that of one field at most. -/
theorem Field.ofName?_eq_some_iff {name : Text} {field : Field} :
    ofName? name = some field ↔ name = field.name := by
  unfold ofName?
  constructor
  · intro found
    have same := List.find?_some found
    exact (eq_of_beq same).symm
  · rintro rfl
    cases field <;> rfl

namespace Settings

variable {validator : Validator} {ambient later other : Ambient} {settings changed : Settings} {field : Field}
variable {entries first second merged : List (Text × Json)}

/-! ## What entries ask of a field -/

/-- A key with underscores for its hyphens. -/
def spelled (key : Text) : Text := key.map fun c => if c = '-' then '_' else c

/-- Whether an entry is for a field and has a value. -/
def gives (field : Field) : Text × Json → Bool
  | (_, .null) => false
  | (key, _) => spelled key == field.name

/-- The value that entries give to a field: that of the last one that is for the field and has a value. -/
def given? (entries : List (Text × Json)) (field : Field) : Option Json :=
  (entries.reverse.find? (gives field)).map (·.2)

/-- An entry with a value is for the field that its key spells. -/
theorem gives_of_value {key : Text} {value : Json} (present : value ≠ .null) :
    gives field (key, value) = (spelled key == field.name) := by
  cases value with
  | null => exact absurd rfl present
  | _ => rfl

/-- An entry without a value asks for nothing. -/
theorem changes_cons_null (key : Text) (entries : List (Text × Json)) :
    changes ((key, .null) :: entries) = changes entries := by
  unfold changes
  rw [List.filterMap_cons_none]
  dsimp only
  cases Field.ofName? (key.map fun c => if c = '-' then '_' else c) <;> rfl

/-- An entry with a value asks for a change of the field that its key spells, if there is one. -/
theorem changes_cons_of_value {key : Text} {value : Json} (present : value ≠ .null)
    (entries : List (Text × Json)) :
    changes ((key, value) :: entries) =
      ((Field.ofName? (spelled key)).map fun field => (field, Candidate.ofJson value)).toList ++
        changes entries := by
  unfold changes spelled
  rw [List.filterMap_cons]
  dsimp only
  cases Field.ofName? (key.map fun c => if c = '-' then '_' else c) with
  | none => rfl
  | some field =>
    cases value with
    | null => exact absurd rfl present
    | _ => rfl

/-- The first change that is for a field is made of the first entry that gives it a value. -/
theorem lookup_changes (entries : List (Text × Json)) (field : Field) :
    (changes entries).lookup field = (entries.find? (gives field)).map (Candidate.ofJson ·.2) := by
  induction entries with
  | nil => rfl
  | cons entry entries ih =>
    obtain ⟨key, value⟩ := entry
    by_cases absent : value = .null
    · subst absent
      rw [changes_cons_null, List.find?_cons_of_neg (by simp [gives]), ih]
    · rw [changes_cons_of_value absent, List.find?_cons, gives_of_value absent]
      by_cases named : spelled key = field.name
      · rw [Field.ofName?_eq_some_iff.mpr named, named]
        simp
      · rw [beq_eq_false_iff_ne.mpr named, ← ih]
        cases known : Field.ofName? (spelled key) with
        | none => rfl
        | some old =>
          refine lookup_cons_of_ne _ _ ?_
          rintro rfl
          exact named (Field.ofName?_eq_some_iff.mp known)

/-- What changes make of a field is the value that the entries give to it. -/
theorem changed?_changes (entries : List (Text × Json)) (field : Field) :
    changed? (changes entries) field = (given? entries field).map Candidate.ofJson := by
  have turned : (changes entries).reverse = changes entries.reverse := List.filterMap_reverse.symm
  rw [changed?, turned, lookup_changes, given?, Option.map_map]
  rfl

/-- Of entries behind one another the later ones count. -/
theorem given?_append (first second : List (Text × Json)) (field : Field) :
    given? (first ++ second) field = (given? second field).or (given? first field) := by
  unfold given?
  rw [List.reverse_append, List.find?_append, Option.map_or]

/-- The null value is given to no field. -/
theorem ne_null_of_given {value : Json} (asked : given? entries field = some value) : value ≠ .null := by
  obtain ⟨⟨key, value⟩, found, rfl⟩ := Option.map_eq_some_iff.mp asked
  have gives_it : gives field (key, value) = true := List.find?_some found
  rintro rfl
  exact absurd gives_it (by simp [gives])

/-- One entry for each field that one of two changes gives a value, with that of the second one if there is
one. -/
def joinEntries (first second : List (Text × Json)) : List (Text × Json) :=
  Field.all.filterMap fun field => ((given? second field).or (given? first field)).map (field.name, ·)

/-- An entry under the name of a field is for this field alone. -/
theorem gives_name {field other : Field} {value : Json} (present : value ≠ .null) :
    gives field (other.name, value) = (other == field) := by
  have same : spelled other.name = other.name := by cases other <;> rfl
  rw [gives_of_value present, same, Bool.eq_iff_iff, beq_iff_eq, beq_iff_eq]
  refine ⟨fun named => ?_, congrArg Field.name⟩
  have found := Field.ofName?_eq_some_iff.mpr named
  exact Option.some.inj ((Field.ofName?_eq_some_iff.mpr rfl).symm.trans found)

/-- Among entries with different fields that of a field is found. -/
theorem find?_gives {value : Field → Option Json} (present : ∀ field, value field ≠ some .null)
    (field : Field) (fields : List Field) :
    ((fields.filterMap fun other => (value other).map (other.name, ·)).find? (gives field)).map (·.2) =
      if field ∈ fields then value field else none := by
  induction fields with
  | nil => rfl
  | cons other fields ih =>
    rw [List.filterMap_cons]
    by_cases same : field = other
    · subst same
      rw [if_pos List.mem_cons_self]
      cases asked : value field with
      | none =>
        dsimp only [Option.map_none]
        rw [ih, asked]
        exact ite_self _
      | some json =>
        have ne_null : json ≠ .null := fun absent => present field (absent ▸ asked)
        simp [gives_name ne_null]
    · have listed : field ∈ other :: fields ↔ field ∈ fields := by simp [same]
      simp only [listed]
      rw [← ih]
      cases asked : value other with
      | none => rfl
      | some json =>
        have ne_null : json ≠ .null := fun absent => present other (absent ▸ asked)
        simp [gives_name ne_null, Ne.symm same]

/-- What joined entries give to a field is what the second ones give, or else what the first ones do. -/
theorem given?_joinEntries (first second : List (Text × Json)) (field : Field) :
    given? (joinEntries first second) field = (given? second field).or (given? first field) := by
  have present (field : Field) : (given? second field).or (given? first field) ≠ some .null := by
    intro asked
    rcases Option.or_eq_some_iff.mp asked with asked | ⟨-, asked⟩
    · exact ne_null_of_given asked rfl
    · exact ne_null_of_given asked rfl
  have listed : field ∈ Field.all.reverse := by cases field <;> decide
  unfold given? joinEntries
  rw [← List.filterMap_reverse, find?_gives present, if_pos listed]
  rfl

/-- Nothing is changed if and only if no field is given a value. -/
theorem changes_eq_nil_iff : changes entries = [] ↔ ∀ field, given? entries field = none := by
  constructor
  · intro unchanged field
    have absent := changed?_changes entries field
    rw [unchanged] at absent
    exact Option.map_eq_none_iff.mp absent.symm
  · intro unasked
    cases asked : (changes entries).reverse with
    | nil => exact List.reverse_eq_nil_iff.mp asked
    | cons change rest =>
      have found := changed?_changes entries change.1
      rw [unasked, changed?, asked, List.lookup_cons_self] at found
      exact absurd found (by simp)

/-- What changes make of a field of settings is the value given, or else the one that it has. -/
theorem candidate_eq (settings : Settings) (entries : List (Text × Json)) (field : Field) :
    settings.candidate entries field =
      .ofJson ((given? entries field).getD (field.type.dump (settings.get field))) := by
  rw [candidate, changed?_changes, Option.getD_map]

/-- What is dumped of a field that is given no value is accepted as the value that it has. -/
theorem accepts_candidate_of_unasked (faithful : validator.Faithful) (valid : settings.Valid validator)
    (unasked : given? entries field = none) :
    validator.accepts field (settings.candidate entries field) = some (settings.get field) := by
  rw [candidate_eq, unasked]
  exact valid.accepts_dump faithful field

/-- What is given to a field is all that is validated of it. -/
theorem candidate_of_asked {value : Json} (asked : given? entries field = some value) :
    settings.candidate entries field = .ofJson value := by
  rw [candidate_eq, asked, Option.getD_some]

/-! ## What a change depends on -/

/-- Two changes that come to the same settings, if to any, are both refused or come to the same. -/
theorem toOption_eq_of_iff {made made' : Except SettingsError Settings}
    (same : ∀ changed, made = .ok changed ↔ made' = .ok changed) : made.toOption = made'.toOption := by
  cases made with
  | ok changed => rw [(same changed).mp rfl]
  | error error =>
    cases made' with
    | ok changed => exact absurd ((same changed).mpr rfl) (by simp)
    | error error' => rfl

/-- In surroundings that load, changes of valid settings come to the same if the same is accepted and refused
for each field. -/
theorem override_congr {settings' : Settings} {entries' : List (Text × Json)} (faithful : validator.Faithful)
    (loads : ambient.Loads validator) (loads' : other.Loads validator) (valid : settings.Valid validator)
    (valid' : settings'.Valid validator)
    (same : ∀ field : Field, validator.accepts field (settings.candidate entries field) =
      validator.accepts field (settings'.candidate entries' field)) :
    (override ambient settings entries).toOption = (override other settings' entries').toOption := by
  refine toOption_eq_of_iff fun changed => ?_
  rw [override_eq_ok loads faithful valid, override_eq_ok loads' faithful valid']
  exact forall_congr' fun field => by rw [same]

/-- A change depends on what its entries ask of each field. -/
theorem override_eq_of_given (ambient : Ambient) (settings : Settings)
    (same : ∀ field, given? first field = given? second field) :
    override ambient settings first = override ambient settings second := by
  have unchanged_iff : changes first = [] ↔ changes second = [] := by
    simp only [changes_eq_nil_iff, same]
  have dumped : settings.dumpWith (changes first) = settings.dumpWith (changes second) := by
    simp only [dumpWith_eq, candidate_eq, same]
  unfold override
  simp only [List.isEmpty_iff, unchanged_iff, dumped]

/-- Entries that give no field a value leave settings what they are. -/
theorem override_of_unasked (ambient : Ambient) (settings : Settings)
    (unasked : ∀ field, given? entries field = none) : override ambient settings entries = .ok settings := by
  rw [override, changes_eq_nil_iff.mpr unasked]
  rfl

/-- What surroundings that load say does not show through. -/
theorem override_elsewhere (faithful : validator.Faithful) (loads : ambient.Loads validator)
    (loads' : other.Loads validator) (valid : settings.Valid validator) :
    (override ambient settings entries).toOption = (override other settings entries).toOption :=
  override_congr faithful loads loads' valid valid fun _ => rfl

/-! ## What an accepted change comes to -/

/-- What an accepted change found where it was asked for: either it asks for nothing and the settings are
what they were, or the surroundings load. -/
theorem unasked_or_loads (lawful : ambient.Lawful validator)
    (done : override ambient settings entries = .ok changed) :
    ((∀ field, given? entries field = none) ∧ changed = settings) ∨ ambient.Loads validator := by
  unfold override at done
  split at done
  · rename_i unchanged
    exact .inl ⟨changes_eq_nil_iff.mp (List.isEmpty_iff.mp unchanged), (Except.ok.inj done).symm⟩
  · exact .inr (loads_of_build lawful done)

/-- The settings that a change comes to have the accepted values. -/
theorem accepts_candidate_of_override (faithful : validator.Faithful) (lawful : ambient.Lawful validator)
    (valid : settings.Valid validator) (done : override ambient settings entries = .ok changed)
    (field : Field) :
    validator.accepts field (settings.candidate entries field) = some (changed.get field) := by
  rcases unasked_or_loads lawful done with ⟨unasked, rfl⟩ | loads
  · exact accepts_candidate_of_unasked faithful valid (unasked field)
  · exact (override_eq_ok loads faithful valid).mp done field

/-- A field that is given no value keeps the one that it has. -/
theorem get_of_unasked (faithful : validator.Faithful) (lawful : ambient.Lawful validator)
    (valid : settings.Valid validator) (done : override ambient settings entries = .ok changed)
    (unasked : given? entries field = none) : changed.get field = settings.get field := by
  have accepted := accepts_candidate_of_override faithful lawful valid done field
  rw [accepts_candidate_of_unasked faithful valid unasked] at accepted
  exact (Option.some.inj accepted).symm

/-- A field that is given a value takes what this value is read as. -/
theorem accepts_of_asked {value : Json} (faithful : validator.Faithful) (lawful : ambient.Lawful validator)
    (valid : settings.Valid validator) (done : override ambient settings entries = .ok changed)
    (asked : given? entries field = some value) :
    validator.accepts field (.ofJson value) = some (changed.get field) := by
  have same : settings.candidate entries field = .ofJson value := candidate_of_asked asked
  rw [← same, accepts_candidate_of_override faithful lawful valid done]

/-- A change is accepted if and only if the value for each field is, and the surroundings load if there is
one. -/
theorem override_accepts_iff (faithful : validator.Faithful) (lawful : ambient.Lawful validator)
    (valid : settings.Valid validator) :
    (∃ changed, override ambient settings entries = .ok changed) ↔
      ((∃ field value, given? entries field = some value) → ambient.Loads validator) ∧
        ∀ field value, given? entries field = some value →
          ∃ taken, validator.accepts field (.ofJson value) = some taken := by
  constructor
  · rintro ⟨changed, done⟩
    refine ⟨fun ⟨field, value, asked⟩ => ?_,
      fun field value asked => ⟨_, accepts_of_asked faithful lawful valid done asked⟩⟩
    rcases unasked_or_loads lawful done with ⟨unasked, -⟩ | loads
    · exact absurd asked (by simp [unasked field])
    · exact loads
  · rintro ⟨loads, accepted⟩
    by_cases unasked : ∀ field, given? entries field = none
    · exact ⟨_, override_of_unasked ambient settings unasked⟩
    · have asked : ∃ field value, given? entries field = some value := by
        simpa [Option.eq_none_iff_forall_ne_some] using unasked
      have taken (field : Field) :
          ∃ value, validator.accepts field (settings.candidate entries field) = some value := by
        cases asked : given? entries field with
        | none => exact ⟨_, accepts_candidate_of_unasked faithful valid asked⟩
        | some value =>
          rw [candidate_of_asked asked]
          exact accepted field value asked
      obtain ⟨value, accepted⟩ := Classical.skolem.mp taken
      refine ⟨ofFields value, (override_eq_ok (loads asked) faithful valid).mpr fun field => ?_⟩
      rw [get_ofFields, accepted]

/-- In surroundings that load a change to valid settings comes to those that take what each value given is
read as, and keep all else. -/
theorem override_eq_ok_iff (faithful : validator.Faithful) (loads : ambient.Loads validator)
    (valid : settings.Valid validator) :
    override ambient settings entries = .ok changed ↔
      ∀ field : Field, match given? entries field with
        | some value => validator.accepts field (.ofJson value) = some (changed.get field)
        | none => changed.get field = settings.get field := by
  rw [override_eq_ok loads faithful valid]
  refine forall_congr' fun field => ?_
  cases asked : given? entries field with
  | some value => rw [candidate_of_asked asked]
  | none => rw [accepts_candidate_of_unasked faithful valid asked, Option.some.injEq, eq_comm]

/-! ## One change after another -/

/-- What a second change asks of a field, after a first one, is what the joined one asks. -/
theorem accepts_candidate_of_joined (faithful : validator.Faithful) (lawful : ambient.Lawful validator)
    (valid : settings.Valid validator) (done : override ambient settings first = .ok changed)
    (joined : given? merged field = (given? second field).or (given? first field)) :
    validator.accepts field (changed.candidate second field) =
      validator.accepts field (settings.candidate merged field) := by
  have accepted := accepts_candidate_of_override faithful lawful valid done field
  cases asked : given? second field with
  | some value =>
    rw [asked, Option.some_or] at joined
    rw [candidate_of_asked asked, candidate_of_asked joined]
  | none =>
    -- the value that the first change left is accepted as it is dumped
    rw [asked, Option.none_or] at joined
    rw [accepts_candidate_of_unasked faithful (valid_of_override lawful valid done) asked, ← accepted,
      candidate_eq, candidate_eq, joined]

/-- Two changes one after the other are the one that asks of each field what the second one asks, or else
what the first one does, wherever the two changes and the one are asked for. -/
theorem override_override (faithful : validator.Faithful) (lawful : ambient.Lawful validator)
    (valid : settings.Valid validator) (done : override ambient settings first = .ok changed)
    (loads : later.Loads validator) (loads' : other.Loads validator)
    (joined : ∀ field, given? merged field = (given? second field).or (given? first field)) :
    (override later changed second).toOption = (override other settings merged).toOption :=
  override_congr faithful loads loads' (valid_of_override lawful valid done) valid fun field =>
    accepts_candidate_of_joined faithful lawful valid done (joined field)

/-- In the same surroundings nothing is asked of these: if they do not load, then a change that was accepted
asked for nothing. -/
theorem override_override_here (faithful : validator.Faithful) (lawful : ambient.Lawful validator)
    (valid : settings.Valid validator) (done : override ambient settings first = .ok changed)
    (joined : ∀ field, given? merged field = (given? second field).or (given? first field)) :
    (override ambient changed second).toOption = (override ambient settings merged).toOption := by
  rcases unasked_or_loads lawful done with ⟨unasked, rfl⟩ | loads
  · have same : override ambient changed second = override ambient changed merged :=
      override_eq_of_given ambient changed fun field => by rw [joined, unasked, Option.or_none]
    rw [same]
  · exact override_override faithful lawful valid done loads loads joined

/-- What comes to the same settings as an accepted change is accepted. -/
theorem eq_ok_of_toOption_eq {made made' : Except SettingsError Settings}
    (same : made.toOption = made'.toOption) (done : made' = .ok changed) : made = .ok changed := by
  subst done
  cases made with
  | ok settings => exact congrArg Except.ok (Option.some.inj same)
  | error error => exact absurd same (by simp [Except.toOption])

/-! ## Runs of changes -/

/-- The settings that stand after a change was asked for in some surroundings: those that it comes to, and
the ones before if it is refused. -/
def after (settings : Settings) (asked : Ambient × List (Text × Json)) : Settings :=
  match override asked.1 settings asked.2 with
  | .ok changed => changed
  | .error _ => settings

/-- Whether settings take a change. -/
def takes (settings : Settings) (asked : Ambient × List (Text × Json)) : Bool :=
  (override asked.1 settings asked.2).isOk

/-- A change is taken if it comes to any settings. -/
theorem takes_iff {asked : Ambient × List (Text × Json)} :
    settings.takes asked = true ↔ ∃ changed, override asked.1 settings asked.2 = .ok changed := by
  unfold takes
  cases override asked.1 settings asked.2 <;> simp [Except.isOk, Except.toBool]

/-- All valid settings take the same changes. -/
theorem takes_eq {settings' : Settings} {asked : Ambient × List (Text × Json)}
    (faithful : validator.Faithful) (lawful : asked.1.Lawful validator) (valid : settings.Valid validator)
    (valid' : settings'.Valid validator) : settings.takes asked = settings'.takes asked := by
  rw [Bool.eq_iff_iff, takes_iff, takes_iff, override_accepts_iff faithful lawful valid,
    override_accepts_iff faithful lawful valid']

/-- After a run of changes those settings stand that the entries of the accepted ones come to together. -/
theorem override_of_run (faithful : validator.Faithful) (loads : ambient.Loads validator)
    (run : List (Ambient × List (Text × Json))) (lawful : ∀ asked ∈ run, asked.1.Lawful validator) :
    ∀ {settings : Settings}, settings.Valid validator →
      override ambient settings ((run.filter settings.takes).flatMap (·.2)) =
        .ok (run.foldl after settings) := by
  induction run with
  | nil => exact fun _ => rfl
  | cons asked run ih =>
    intro settings valid
    have first : asked.1.Lawful validator := lawful asked List.mem_cons_self
    have others (other) (mem : other ∈ run) := lawful other (List.mem_cons_of_mem _ mem)
    rw [List.foldl_cons, List.filter_cons]
    cases done : override asked.1 settings asked.2 with
    | error error =>
      have refused : ¬settings.takes asked = true := by simp [takes_iff, done]
      have stays : settings.after asked = settings := by rw [after, done]
      rw [if_neg refused, stays]
      exact ih others valid
    | ok changed =>
      have valid' := valid_of_override first valid done
      have taken : settings.takes asked = true := takes_iff.mpr ⟨changed, done⟩
      have becomes : settings.after asked = changed := by rw [after, done]
      have same : run.filter settings.takes = run.filter changed.takes :=
        List.filter_congr fun other mem => takes_eq faithful (others other mem) valid valid'
      rw [if_pos taken, becomes, same, List.flatMap_cons]
      exact eq_ok_of_toOption_eq
        (override_override faithful first valid done loads loads (given?_append _ _)).symm (ih others valid')

/-! ## The action -/

/-- Changes act on settings with the last one winning. -/
structure LastWins (validator : Validator) (settings : Settings) : Prop where
  /-- What is asked for and accepted is taken, all else is kept, and nothing else counts. -/
  taken : ∀ ambient entries changed, ambient.Loads validator →
    (override ambient settings entries = .ok changed ↔
      ∀ field : Field, match given? entries field with
        | some value => validator.accepts field (.ofJson value) = some (changed.get field)
        | none => changed.get field = settings.get field)
  /-- What surroundings that load say does not show through. -/
  elsewhere : ∀ ambient other entries, ambient.Loads validator → other.Loads validator →
    (override ambient settings entries).toOption = (override other settings entries).toOption
  /-- Fields that are given no value keep the one that they have. -/
  kept : ∀ ambient entries changed field, ambient.Lawful validator →
    override ambient settings entries = .ok changed → given? entries field = none →
      changed.get field = settings.get field
  /-- Entries that give no field a value leave the settings what they are. -/
  unasked : ∀ ambient entries, (∀ field, given? entries field = none) →
    override ambient settings entries = .ok settings
  /-- Two changes come to what the one comes to that asks of each field what the second asks, or else what the
  first does, and are refused where it is. -/
  joined : ∀ ambient first changed second merged, ambient.Lawful validator →
    override ambient settings first = .ok changed →
    (∀ field, given? merged field = (given? second field).or (given? first field)) →
      (override ambient changed second).toOption = (override ambient settings merged).toOption ∧
        ∀ later other : Ambient, later.Loads validator → other.Loads validator →
          (override later changed second).toOption = (override other settings merged).toOption
  /-- Asking for the same again changes nothing. -/
  again : ∀ ambient entries changed, ambient.Lawful validator →
    override ambient settings entries = .ok changed →
      override ambient changed entries = .ok changed ∧
        ∀ later : Ambient, later.Loads validator → override later changed entries = .ok changed
  /-- Refused changes leave no trace in a run. -/
  run : ∀ (ambient : Ambient) (run : List (Ambient × List (Text × Json))), ambient.Loads validator →
    (∀ asked ∈ run, asked.1.Lawful validator) →
      override ambient settings ((run.filter settings.takes).flatMap (·.2)) = .ok (run.foldl after settings)

/-- Changes to valid settings act with the last one winning, whatever packages make the settings, if these
accept unchanged what they have produced. -/
theorem lastWins_of_valid (faithful : validator.Faithful) (valid : settings.Valid validator) :
    settings.LastWins validator where
  taken _ _ _ loads := override_eq_ok_iff faithful loads valid
  elsewhere _ _ _ loads loads' := override_elsewhere faithful loads loads' valid
  kept _ _ _ _ lawful done unasked := get_of_unasked faithful lawful valid done unasked
  unasked ambient _ unasked := override_of_unasked ambient settings unasked
  joined _ _ _ _ _ lawful done joined :=
    ⟨override_override_here faithful lawful valid done joined,
      fun _ _ loads loads' => override_override faithful lawful valid done loads loads' joined⟩
  again ambient entries changed lawful done := by
    have same (field : Field) : given? entries field = (given? entries field).or (given? entries field) :=
      (Option.or_self ..).symm
    refine ⟨eq_ok_of_toOption_eq (override_override_here faithful lawful valid done same) done,
      fun later loads => ?_⟩
    rcases unasked_or_loads lawful done with ⟨unasked, rfl⟩ | here
    · exact override_of_unasked later changed unasked
    · exact eq_ok_of_toOption_eq (override_override faithful lawful valid done loads here same) done
  run _ run loads lawful := override_of_run faithful loads run lawful valid

/-- Surroundings in which a variable gives a number of workers. -/
def threeWorkers : Ambient :=
  { Surroundings.none with environment := [("TYPFENCE_MAX_WORKERS".toList, "3".toList)] }.ambient

/-- These surroundings load. -/
theorem threeWorkers_loads : threeWorkers.Loads .checks :=
  @Surroundings.ambient_loads _ [(Field.name .maxWorkers, .text "3".toList)] [] [] fun _ _ => rfl

/-- Entries with two spellings of a field, no value for another one, and an unknown key. -/
def eightWorkers : List (Text × Json) :=
  [("max-workers".toList, .int 4), ("max_workers".toList, .string "8".toList),
    ("preamble".toList, .null), ("colour".toList, .string "red".toList)]

/-- The last spelling of the number of workers is the one that is taken. -/
theorem override_eightWorkers (loads : ambient.Loads .checks) (valid : settings.Valid .checks) :
    override ambient settings eightWorkers = .ok { settings with maxWorkers := some 8 } := by
  rw [override_eq_ok_iff Validator.checks_faithful loads valid]
  intro field
  cases field <;> rfl

/-- The default settings with what these entries ask for. -/
def eightWorkersSettings : Settings := { default with maxWorkers := some 8 }

/-- Entries with a value for a field and none for one that was changed before. -/
def abortEarly : List (Text × Json) :=
  [("fail-fast".toList, .bool true), ("max-workers".toList, .null)]

/-- An entry without a value leaves the number of workers alone. -/
theorem override_abortEarly (loads : ambient.Loads .checks) (valid : settings.Valid .checks) :
    override ambient settings abortEarly = .ok { settings with failFast := true } := by
  rw [override_eq_ok_iff Validator.checks_faithful loads valid]
  intro field
  cases field <;> rfl

/-- The number of workers that was asked for first stands, though a variable gives another one when more is
asked for. -/
theorem eightWorkers_stand :
    Validator.checks.Faithful ∧ default.Valid .checks ∧ Ambient.none.Loads .checks ∧
      threeWorkers.Loads .checks ∧
      override Ambient.none default eightWorkers = .ok eightWorkersSettings ∧
      override threeWorkers eightWorkersSettings abortEarly =
        .ok { eightWorkersSettings with failFast := true } ∧
      override Ambient.none default (joinEntries eightWorkers abortEarly) =
        .ok { eightWorkersSettings with failFast := true } := by
  have loads : Ambient.none.Loads .checks := Surroundings.none_loads
  have first : override Ambient.none default eightWorkers = .ok eightWorkersSettings :=
    override_eightWorkers loads default_valid
  have second := override_abortEarly threeWorkers_loads (valid_of_override loads.lawful default_valid first)
  have joined := (lastWins_of_valid Validator.checks_faithful default_valid).joined _ _ _ _ _ loads.lawful
    first (given?_joinEntries eightWorkers abortEarly)
  exact ⟨Validator.checks_faithful, default_valid, loads, threeWorkers_loads, first, second,
    eq_ok_of_toOption_eq (joined.2 _ _ threeWorkers_loads loads).symm second⟩

end Settings

end TypstFences
