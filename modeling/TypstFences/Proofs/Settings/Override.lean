import TypstFences.Settings.Override

/-!
# Changes to settings

Settings are made by packages of which little is taken for granted. Each field is validated on its own
(`Validator`), and a value that was produced for a field is accepted unchanged (`Validator.Faithful`). In
surroundings that load, a field takes the value of the first source that gives one, and values are all that is
refused (`Ambient.Loads`); where the sources cannot be read, everything is refused (`Ambient.Lawful`).

So a change to valid settings comes to the settings with the new values, where these are accepted
(`override_eq_ok`), and is refused for values alone (`invalid_of_override`). The sources are read again with
every change, but what they give does not matter, as the settings that are made anew give all fields
explicitly (`make_dumpWith`).
-/

set_option autoImplicit false

namespace TypstFences

/-- How single values are validated: what a field takes a candidate for, if it accepts it. -/
structure Validator where
  accepts : (field : Field) → Candidate → Option field.type.Carrier

/-- Whether a value that was produced is accepted unchanged when it is given again. -/
def Validator.Faithful (validator : Validator) : Prop :=
  ∀ (field : Field) (candidate : Candidate) (value : field.type.Carrier),
    validator.accepts field candidate = some value →
      validator.accepts field (.ofJson (field.type.dump value)) = some value

/-- Whether the value of each field was produced for it. -/
def Settings.Valid (validator : Validator) (settings : Settings) : Prop :=
  ∀ field : Field, ∃ candidate, validator.accepts field candidate = some (settings.get field)

/-! ## Settings in surroundings -/

/-- What the sources give when some values are explicit. -/
def Source.given (beneath : Source → List (Text × Candidate)) (explicit : List (Text × Candidate)) :
    Source → List (Text × Candidate)
  | .explicit => explicit
  | source => beneath source

/-- The candidate for a field: what the first source that has one gives, or else the default value. -/
def Field.candidate (given : Source → List (Text × Candidate)) (order : List Source) (field : Field) :
    Candidate :=
  ((order.flatMap given).lookup field.name).getD (.ofJson (field.type.dump (Settings.default.get field)))

/-- Whether the sources can be read and name nothing unknown, be the values that they give accepted or not.
Settings are then made field by field, and refused for values alone. -/
def Ambient.Loads (validator : Validator) (ambient : Ambient) : Prop :=
  ∃ beneath : Source → List (Text × Candidate), ∀ order explicit,
    (∀ entry ∈ explicit, ∃ field : Field, entry.1 = field.name) →
      (∀ settings, ambient.make order explicit = .ok settings ↔
        ∀ field : Field, validator.accepts field (field.candidate (Source.given beneath explicit) order) =
          some (settings.get field)) ∧
      ∀ error, ambient.make order explicit = .error error → ∃ problems, error = .invalid problems

/-- Whether the sources are read whatever is explicit: either they load, or everything is refused. -/
def Ambient.Lawful (validator : Validator) (ambient : Ambient) : Prop :=
  ambient.Loads validator ∨ ∀ order explicit, ∃ error, ambient.make order explicit = .error error

/-- Surroundings that load are lawful. -/
theorem Ambient.Loads.lawful {validator : Validator} {ambient : Ambient} (loads : ambient.Loads validator) :
    ambient.Lawful validator := .inl loads

namespace Settings

variable {validator : Validator} {ambient : Ambient} {settings changed : Settings}
variable {entries : List (Text × Json)} {field : Field}

/-- Lawful surroundings in which any settings can be built load. -/
theorem loads_of_build {explicit : List (Text × Candidate)} (lawful : ambient.Lawful validator)
    (built : build ambient explicit = .ok settings) : ambient.Loads validator := by
  rcases lawful with loads | unreadable
  · exact loads
  · obtain ⟨error, refused⟩ := unreadable sources explicit
    exact absurd (built.symm.trans refused) (by simp)

/-- Values that are valid are accepted as they are dumped. -/
theorem Valid.accepts_dump (faithful : validator.Faithful) (valid : settings.Valid validator)
    (field : Field) :
    validator.accepts field (.ofJson (field.type.dump (settings.get field))) = some (settings.get field) := by
  obtain ⟨candidate, accepted⟩ := valid field
  exact faithful field candidate _ accepted

/-! ## Changes -/

/-- What changes make of a field of settings. -/
def candidate (settings : Settings) (entries : List (Text × Json)) (field : Field) : Candidate :=
  (changed? (changes entries) field).getD (.ofJson (field.type.dump (settings.get field)))

/-- Settings that are dumped with changes have what the changes make of each field. -/
theorem dumpWith_eq (settings : Settings) (entries : List (Text × Json)) :
    settings.dumpWith (changes entries) =
      Field.all.map fun field => (field.name, settings.candidate entries field) := rfl

/-- Only fields are named where each of them is given. -/
theorem name_of_mem_all {value : Field → Candidate} :
    ∀ entry ∈ Field.all.map fun field => (field.name, value field),
      ∃ field : Field, entry.1 = field.name := by
  intro entry mem
  obtain ⟨field, -, rfl⟩ := List.mem_map.mp mem
  exact ⟨field, rfl⟩

/-- What is given for a field in front of all else is found. -/
theorem lookup_all (value : Field → Candidate) (beneath : List (Text × Candidate)) (field : Field) :
    ((Field.all.map fun field => (field.name, value field)) ++ beneath).lookup field.name =
      some (value field) := by
  cases field <;> rfl

/-- Explicit values for all fields win over what the other sources give. -/
theorem candidate_of_explicit (value : Field → Candidate) (beneath : Source → List (Text × Candidate))
    (field : Field) :
    field.candidate (Source.given beneath (Field.all.map fun field => (field.name, value field))) sources =
      value field := by
  rw [Field.candidate, sources, List.flatMap_cons, Source.given, lookup_all, Option.getD_some]

/-- A field that no change is for keeps the value that it has. -/
theorem candidate_of_unchanged (unchanged : changed? (changes entries) field = none) :
    settings.candidate entries field = .ofJson (field.type.dump (settings.get field)) := by
  rw [candidate, unchanged, Option.getD_none]

/-- Settings are made anew of what the changes make of the fields, whatever the other sources give. -/
theorem make_dumpWith (loads : ambient.Loads validator) :
    build ambient (settings.dumpWith (changes entries)) = .ok changed ↔
      ∀ field : Field, validator.accepts field (settings.candidate entries field) =
        some (changed.get field) := by
  obtain ⟨beneath, made⟩ := loads
  rw [build, dumpWith_eq, (made sources _ name_of_mem_all).1]
  exact forall_congr' fun field => by rw [candidate_of_explicit]

/-- In surroundings that load a change to valid settings builds them anew, be there anything to change or
not. -/
theorem override_eq_build (loads : ambient.Loads validator) (faithful : validator.Faithful)
    (valid : settings.Valid validator) :
    override ambient settings entries = build ambient (settings.dumpWith (changes entries)) := by
  unfold override
  split
  · rename_i unchanged
    refine ((make_dumpWith loads).mpr fun field => ?_).symm
    rw [candidate_of_unchanged (by rw [List.isEmpty_iff.mp unchanged]; rfl)]
    exact valid.accepts_dump faithful field
  · rfl

/-- In surroundings that load a change to valid settings comes to those with the accepted values. -/
theorem override_eq_ok (loads : ambient.Loads validator) (faithful : validator.Faithful)
    (valid : settings.Valid validator) :
    override ambient settings entries = .ok changed ↔
      ∀ field : Field, validator.accepts field (settings.candidate entries field) =
        some (changed.get field) := by
  rw [override_eq_build loads faithful valid, make_dumpWith loads]

/-- What a change to valid settings comes to is valid. -/
theorem valid_of_override (lawful : ambient.Lawful validator) (valid : settings.Valid validator)
    (done : override ambient settings entries = .ok changed) : changed.Valid validator := by
  unfold override at done
  split at done
  · exact Except.ok.inj done ▸ valid
  · exact fun field => ⟨_, (make_dumpWith (loads_of_build lawful done)).mp done field⟩

/-- In surroundings that load a change is refused for values alone. -/
theorem invalid_of_override {error : SettingsError} (loads : ambient.Loads validator)
    (refused : override ambient settings entries = .error error) : ∃ problems, error = .invalid problems := by
  obtain ⟨beneath, made⟩ := loads
  unfold override at refused
  split at refused
  · exact absurd refused (by simp)
  · exact (made sources _ (dumpWith_eq settings entries ▸ name_of_mem_all)).2 error refused

end Settings

/-! ## Paths -/

/-- Whether packages are sound in their surroundings: these load, what was produced is accepted unchanged, and
every text is taken for the root of the engine and for the directory of fonts. -/
structure Ambient.Sound (validator : Validator) (ambient : Ambient) : Prop where
  faithful : validator.Faithful
  loads : ambient.Loads validator
  roots : ∀ path, validator.accepts .engineRoot (.text path) = some (some path)
  fonts : ∀ path, validator.accepts .fontPath (.text path) = some (some path)

namespace Settings

variable {validator : Validator} {ambient : Ambient} {settings : Settings}

/-- Valid settings take every root of the engine. -/
theorem override_engineRoot (sound : ambient.Sound validator) (valid : settings.Valid validator)
    (root : Text) : override ambient settings [(Field.name .engineRoot, .string root)] =
      .ok { settings with engineRoot := some root } := by
  rw [override_eq_ok sound.loads sound.faithful valid]
  intro field
  cases field with
  | engineRoot => exact sound.roots root
  | _ => exact valid.accepts_dump sound.faithful _

/-- Valid settings take every path of fonts. -/
theorem override_fontPath (sound : ambient.Sound validator) (valid : settings.Valid validator)
    (fonts : Text) : override ambient settings [(Field.name .fontPath, .string fonts)] =
      .ok { settings with fontPath := some fonts } := by
  rw [override_eq_ok sound.loads sound.faithful valid]
  intro field
  cases field with
  | fontPath => exact sound.fonts fonts
  | _ => exact valid.accepts_dump sound.faithful _

end Settings

end TypstFences
