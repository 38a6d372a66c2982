import TypstFences.Proofs.Settings.Override
import TypstFences.Settings.Surroundings

/-!
# Lawful surroundings

What is assumed of the packages that make settings holds of those here (`Surroundings.ambient`). A value that
was accepted for a field is accepted again as it is dumped (`FieldType.check_dump`), and the first source that
names a field decides on it. Surroundings are lawful whatever they hold (`Surroundings.ambient_lawful`).
-/

set_option autoImplicit false

namespace TypstFences

/-! ## Names in lower case -/

namespace Text

/-- The characters of names that are in lower case as they are. -/
def nameLetters : Text := "abcdefghijklmnopqrstuvwxyz_".toList

/-- The characters of names are small letters already. -/
theorem smallLetter_eq_self : ∀ c ∈ nameLetters, smallLetter c = c := by
  have each : (nameLetters.all fun c => smallLetter c == c) = true := by decide +kernel
  exact fun c mem => eq_of_beq (List.all_eq_true.mp each c mem)

/-- Names are in lower case as they are. -/
theorem lower_eq_self {text : Text} (small : ∀ c ∈ text, c ∈ nameLetters) : lower text = text := by
  have after : ∀ before, lowerAfter before text = text := by
    induction text with
    | nil => exact fun _ => rfl
    | cons c rest ih =>
      intro before
      have mem : c ∈ nameLetters := small c List.mem_cons_self
      have special : c ≠ '\u0130' ∧ c ≠ 'Σ' := by
        constructor
        · rintro rfl
          exact absurd mem (by decide)
        · rintro rfl
          exact absurd mem (by decide)
      rw [lowerAfter, if_neg special.1, if_neg special.2, smallLetter_eq_self c mem,
        ih fun other later => small other (List.mem_cons_of_mem _ later)]
      rfl
  exact after []

end Text

/-! ## Accepted values -/

namespace FieldType

/-- Whether a value may be given to a field of a type. -/
def Fits : (type : FieldType) → type.Carrier → Prop
  | .seconds, number => number.isPositive = true
  | .optionalCount, value => ∀ count, value = some count → 1 ≤ count
  | _, _ => True

/-- Accepted seconds are positive. -/
theorem isPositive_of_checkSeconds {candidate : Candidate} {number : Binary64}
    (accepted : checkSeconds candidate = .ok number) : number.isPositive = true := by
  unfold checkSeconds at accepted
  split at accepted
  · split at accepted
    · rename_i positive
      exact Except.ok.inj accepted ▸ positive
    · exact absurd accepted (by simp)
  · exact absurd accepted (by simp)

/-- Accepted counts are not below the least one. -/
theorem le_of_checkCount {candidate : Candidate} {least number : Nat}
    (accepted : checkCount least candidate = .ok number) : least ≤ number := by
  unfold checkCount at accepted
  split at accepted
  · split at accepted
    · exact absurd accepted (by simp)
    · have := Except.ok.inj accepted
      omega
  · exact absurd accepted (by simp)

/-- A number that is not below the least one is accepted as a count. -/
theorem checkCount_int {least number : Nat} (enough : least ≤ number) :
    checkCount least (.int number) = .ok number := by
  have checked : checkInt (.int number) = .ok (number : Int) := rfl
  have enough' : ¬(number : Int) < least := by omega
  simp only [checkCount, checked, if_neg enough', Int.toNat_natCast]

/-- Texts in a list are accepted. -/
theorem checkItems_map_text (values : List Text) :
    ∀ index, checkItems index (values.map Candidate.text) = .ok values := by
  induction values with
  | nil => exact fun _ => rfl
  | cons value values ih =>
    intro index
    rw [List.map_cons, checkItems, ih]
    rfl

/-- An optional count that is given is checked as a count. -/
theorem check_optionalCount {candidate : Candidate} (given : candidate ≠ .null) :
    check .optionalCount candidate =
      match checkCount 1 candidate with
      | .ok number => .ok (some number)
      | .error fault => .error [(none, fault)] := by
  cases candidate with
  | null => exact absurd rfl given
  | _ => rfl

/-- An optional text that is given is checked as a text. -/
theorem check_optionalText {candidate : Candidate} (given : candidate ≠ .null) :
    check .optionalText candidate =
      match checkText candidate with
      | .ok value => .ok (some value)
      | .error fault => .error [(none, fault)] := by
  cases candidate with
  | null => exact absurd rfl given
  | _ => rfl

/-- A whole value that is refused has a fault. -/
theorem ne_nil_of_atWhole {α : Type} {checked : Except SettingFault α}
    {faults : List (Option Nat × SettingFault)} (refused : atWhole checked = .error faults) :
    faults ≠ [] := by
  cases checked with
  | ok value => exact absurd refused (by simp [atWhole])
  | error fault => exact Except.error.inj refused ▸ List.cons_ne_nil _ _

/-- A list that is refused has a faulty item. -/
theorem ne_nil_of_checkItems {items : List Candidate} : ∀ {index : Nat}
    {faults : List (Option Nat × SettingFault)}, checkItems index items = .error faults → faults ≠ [] := by
  induction items with
  | nil => exact fun refused => absurd refused (by simp [checkItems])
  | cons item items ih =>
    intro index faults refused
    unfold checkItems at refused
    split at refused
    · exact absurd refused (by simp)
    · rename_i rest
      exact Except.error.inj refused ▸ ih rest
    · exact Except.error.inj refused ▸ List.cons_ne_nil _ _
    · exact Except.error.inj refused ▸ List.cons_ne_nil _ _

/-- Something is wrong with a value that is refused. -/
theorem ne_nil_of_check {candidate : Candidate} {faults : List (Option Nat × SettingFault)} :
    ∀ {type : FieldType}, type.check candidate = .error faults → faults ≠ []
  | .text, refused => ne_nil_of_atWhole refused
  | .flag, refused => ne_nil_of_atWhole refused
  | .seconds, refused => ne_nil_of_atWhole refused
  | .count, refused => ne_nil_of_atWhole refused
  | .optionalText, refused => by
    by_cases given : candidate = .null
    · subst given
      exact absurd refused (by simp [check])
    · rw [check_optionalText given] at refused
      split at refused
      · exact absurd refused (by simp)
      · exact Except.error.inj refused ▸ List.cons_ne_nil _ _
  | .optionalCount, refused => by
    by_cases given : candidate = .null
    · subst given
      exact absurd refused (by simp [check])
    · rw [check_optionalCount given] at refused
      split at refused
      · exact absurd refused (by simp)
      · exact Except.error.inj refused ▸ List.cons_ne_nil _ _
  | .texts, refused => by
    cases candidate with
    | list items => exact ne_nil_of_checkItems refused
    | _ => exact Except.error.inj refused ▸ List.cons_ne_nil _ _

/-- A value that is accepted is valid. -/
theorem fits_of_check {candidate : Candidate} : ∀ {type : FieldType} {value : type.Carrier},
    type.check candidate = .ok value → type.Fits value
  | .text, _, _ => trivial
  | .optionalText, _, _ => trivial
  | .flag, _, _ => trivial
  | .texts, _, _ => trivial
  | .seconds, number, accepted => by
    have accepted' : atWhole (checkSeconds candidate) = .ok number := accepted
    cases checked : checkSeconds candidate with
    | ok value =>
      rw [checked] at accepted'
      exact Except.ok.inj accepted' ▸ isPositive_of_checkSeconds checked
    | error fault =>
      rw [checked] at accepted'
      exact absurd accepted' (by simp [atWhole])
  | .count, _, _ => trivial
  | .optionalCount, value, accepted => by
    rintro count rfl
    by_cases given : candidate = .null
    · subst given
      exact absurd (Except.ok.inj accepted) (by simp)
    · rw [check_optionalCount given] at accepted
      split at accepted
      · rename_i number checked
        obtain rfl : number = count := Option.some.inj (Except.ok.inj accepted)
        exact le_of_checkCount checked
      · exact absurd accepted (by simp)

/-- A valid value is accepted as it is dumped. -/
theorem check_dump : ∀ {type : FieldType} {value : type.Carrier}, type.Fits value →
    type.check (.ofJson (type.dump value)) = .ok value
  | .text, _, _ => rfl
  | .optionalText, some _, _ => rfl
  | .optionalText, none, _ => rfl
  | .flag, _, _ => rfl
  | .texts, values, _ => by
    have items : (values.map Json.string).map Candidate.ofItem = values.map Candidate.text := by
      rw [List.map_map]
      rfl
    show checkItems 0 ((values.map Json.string).map Candidate.ofItem) = .ok values
    rw [items, checkItems_map_text]
  | .seconds, number, valid => by
    have checked : checkSeconds (.real number) = .ok number := if_pos valid
    show atWhole (checkSeconds (.real number)) = .ok number
    rw [checked, atWhole]
  | .count, number, _ => by
    show atWhole (checkCount 0 (.int number)) = .ok number
    rw [checkCount_int (Nat.zero_le number), atWhole]
  | .optionalCount, some number, valid => by
    have checked : checkCount 1 (.int number) = .ok number := checkCount_int (valid number rfl)
    show check .optionalCount (.int number) = .ok (some number)
    rw [check_optionalCount (by simp), checked]
  | .optionalCount, none, _ => rfl

end FieldType

namespace Settings

variable {settings : Settings} {given : Given}

/-! ## Settings with given values -/

/-- The default values fit. -/
theorem default_fits (field : Field) : field.type.Fits (default.get field) := by
  cases field with
  | engineTimeout => show (Binary64.ofInt 60).isPositive = true; decide +kernel
  | maxWorkers => exact fun _ absent => absurd absent (by simp [default, get])
  | _ => trivial

/-- Something is wrong with a value of a field that is refused. -/
theorem ne_nil_of_fieldValue {values : List (Text × Candidate)} {field : Field} {problems : List Problem}
    (refused : fieldValue values field = .error problems) : problems ≠ [] := by
  unfold fieldValue at refused
  split at refused
  · exact absurd refused (by simp)
  · split at refused
    · exact absurd refused (by simp)
    · rename_i faults checked
      rw [← Except.error.inj refused]
      exact fun none_wrong => FieldType.ne_nil_of_check checked (List.map_eq_nil_iff.mp none_wrong)

/-- Nothing is wrong with given values if and only if all of them are accepted. -/
theorem fieldProblems_eq_nil {values : List (Text × Candidate)} :
    fieldProblems values = [] ↔ ∀ field, ∃ value, fieldValue values field = .ok value := by
  unfold fieldProblems
  rw [List.flatMap_eq_nil_iff]
  refine ⟨fun none_wrong field => ?_, fun accepted field _ => ?_⟩
  · have listed : field ∈ Field.all := by cases field <;> decide
    have here := none_wrong field listed
    cases known : fieldValue values field with
    | ok value => exact ⟨value, rfl⟩
    | error problems =>
      rw [known] at here
      exact absurd here (ne_nil_of_fieldValue known)
  · obtain ⟨value, known⟩ := accepted field
    rw [known]

/-- Settings are made of given values if all are accepted and no name is refused, and have the accepted
values. -/
theorem ofGiven_eq_ok : ofGiven given = .ok settings ↔
    given.refused = [] ∧ ∀ field, fieldValue given.values field = .ok (settings.get field) := by
  unfold ofGiven
  simp only
  split
  · rename_i none_wrong
    rw [List.isEmpty_iff, List.append_eq_nil_iff, List.map_eq_nil_iff, fieldProblems_eq_nil] at none_wrong
    rw [Except.ok.injEq]
    refine ⟨fun same => ⟨none_wrong.2, fun field => ?_⟩, fun ⟨_, accepted⟩ => ?_⟩
    · obtain ⟨value, known⟩ := none_wrong.1 field
      rw [← same, get_ofFields, known]
    · rw [← ofFields_get settings]
      refine congrArg ofFields (funext fun field => ?_)
      rw [accepted field]
  · rename_i wrong
    refine ⟨fun made => absurd made (by simp), fun ⟨none_refused, accepted⟩ => absurd ?_ wrong⟩
    rw [List.isEmpty_iff, List.append_eq_nil_iff, List.map_eq_nil_iff, fieldProblems_eq_nil]
    exact ⟨fun field => ⟨_, accepted field⟩, none_refused⟩

/-- Given values are refused for values alone. -/
theorem invalid_of_ofGiven {error : SettingsError} (refused : ofGiven given = .error error) :
    ∃ problems, error = .invalid problems := by
  unfold ofGiven at refused
  simp only at refused
  split at refused
  · exact absurd refused (by simp)
  · exact ⟨_, (Except.error.inj refused).symm⟩

/-- A field of settings takes what is accepted of the candidate that is found for it, or else of its
default. -/
theorem fieldValue_eq_ok {values : List (Text × Candidate)} {field : Field} {value : field.type.Carrier} :
    fieldValue values field = .ok value ↔
      field.type.check ((values.lookup field.name).getD (.ofJson (field.type.dump (default.get field)))) =
        .ok value := by
  unfold fieldValue
  cases found : values.lookup field.name with
  | none =>
    rw [Option.getD_none, FieldType.check_dump (default_fits field)]
    simp only [Except.ok.injEq]
  | some candidate =>
    rw [Option.getD_some]
    dsimp only
    cases field.type.check candidate with
    | ok taken => simp only [Except.ok.injEq]
    | error faults => simp

/-! ## Sources -/

/-- The name of a field is a key for it. -/
theorem fieldOfKey?_name (field : Field) : fieldOfKey? field.name = some field := by
  have each : (field.name.all fun c => Text.nameLetters.contains c) = true := by
    cases field <;> decide +kernel
  have small : ∀ c ∈ field.name, c ∈ Text.nameLetters := fun c mem =>
    List.contains_iff_mem.mp (List.all_eq_true.mp each c mem)
  unfold fieldOfKey?
  rw [Text.lower_eq_self small]
  cases field <;> rfl

/-- Values under the names of fields are given to these. -/
theorem fieldValues_of_names {entries : List (Text × Candidate)}
    (named : ∀ entry ∈ entries, ∃ field : Field, entry.1 = field.name) : fieldValues entries = entries := by
  induction entries with
  | nil => rfl
  | cons entry entries ih =>
    obtain ⟨field, same⟩ := named entry List.mem_cons_self
    have rest := ih fun other mem => named other (List.mem_cons_of_mem _ mem)
    obtain ⟨key, value⟩ := entry
    obtain rfl : key = field.name := same
    rw [fieldValues, List.filterMap_cons]
    dsimp only
    rw [fieldOfKey?_name]
    exact congrArg ((field.name, value) :: ·) rest

/-- No name of a field is unknown. -/
theorem unknownKeys_of_names {entries : List (Text × Candidate)}
    (named : ∀ entry ∈ entries, ∃ field : Field, entry.1 = field.name) : unknownKeys entries = [] := by
  rw [unknownKeys, List.filter_eq_nil_iff]
  intro key mem
  obtain ⟨entry, listed, rfl⟩ := List.mem_map.mp mem
  obtain ⟨field, same⟩ := named entry listed
  simp [same, fieldOfKey?_name]

/-- Sources are unreadable whatever is explicit, or give something beside the explicit values and names that
are refused beside those that these refuse. -/
theorem gather_cases (surroundings : Surroundings) :
    (∃ error, ∀ order explicit, gather surroundings order explicit = .error error) ∨
      ∃ environment dotenv entries refused, ∀ order explicit, gather surroundings order explicit =
        .ok ⟨order.flatMap (sourceValues explicit environment dotenv entries),
          (refused ++ unknownKeys explicit).eraseDups⟩ := by
  unfold gather
  cases surroundings.dotenv with
  | error fault => exact .inl ⟨_, fun _ _ => rfl⟩
  | ok file =>
    cases surroundings.entries with
    | error fault => exact .inl ⟨_, fun _ _ => rfl⟩
    | ok entries =>
      simp only
      split
      · exact .inl ⟨_, fun _ _ => rfl⟩
      · split
        · exact .inl ⟨_, fun _ _ => rfl⟩
        · exact .inr ⟨_, _, _, _, fun _ _ => rfl⟩

/-- Names are left when copies are dropped. -/
theorem eraseDups_ne_nil {names : List Text} (some_name : names ≠ []) : names.eraseDups ≠ [] := by
  cases names with
  | nil => exact absurd rfl some_name
  | cons name names => simp [List.eraseDups_cons]

/-- Sources give the explicit values under the names of fields, and beside these what they give anyway. -/
theorem sourceValues_eq_given {explicit : List (Text × Candidate)}
    (named : ∀ entry ∈ explicit, ∃ field : Field, entry.1 = field.name)
    (environment dotenv entries : List (Text × Candidate)) :
    sourceValues explicit environment dotenv entries =
      Source.given (sourceValues [] environment dotenv entries) explicit := by
  funext source
  cases source with
  | explicit => exact fieldValues_of_names named
  | _ => rfl

end Settings

/-! ## Surroundings -/

/-- The checks of the fields of settings. -/
def Validator.checks : Validator where
  accepts field candidate := (field.type.check candidate).toOption

/-- What a field is checked to be is what it takes. -/
theorem Validator.checks_accepts {field : Field} {candidate : Candidate} {value : field.type.Carrier} :
    checks.accepts field candidate = some value ↔ field.type.check candidate = .ok value := by
  unfold checks
  cases checked : field.type.check candidate <;> simp [Except.toOption, checked]

/-- A value that was produced is accepted unchanged. -/
theorem Validator.checks_faithful : checks.Faithful := by
  intro field candidate value accepted
  rw [checks_accepts] at accepted ⊢
  exact FieldType.check_dump (FieldType.fits_of_check accepted)

/-- The default settings are valid. -/
theorem Settings.default_valid : Settings.default.Valid .checks := fun field =>
  ⟨_, Validator.checks_accepts.mpr (FieldType.check_dump (Settings.default_fits field))⟩

namespace Surroundings

/-- Settings are made of what the sources give, if they can be read. -/
theorem ambient_make (surroundings : Surroundings) (order : List Source)
    (explicit : List (Text × Candidate)) :
    surroundings.ambient.make order explicit =
      match Settings.gather surroundings order explicit with
      | .ok given => Settings.ofGiven given
      | .error error => .error error := rfl

/-- Surroundings load if their sources can be read and no name in them is refused. -/
theorem ambient_loads {surroundings : Surroundings} {environment dotenv entries : List (Text × Candidate)}
    (gathered : ∀ order explicit, Settings.gather surroundings order explicit =
      .ok ⟨order.flatMap (Settings.sourceValues explicit environment dotenv entries),
        (Settings.unknownKeys explicit).eraseDups⟩) :
    surroundings.ambient.Loads .checks := by
  refine ⟨Settings.sourceValues [] environment dotenv entries, fun order explicit named => ?_⟩
  have made : surroundings.ambient.make order explicit = Settings.ofGiven
      ⟨order.flatMap (Source.given (Settings.sourceValues [] environment dotenv entries) explicit), []⟩ := by
    rw [ambient_make, gathered, Settings.unknownKeys_of_names named, Settings.sourceValues_eq_given named]
    rfl
  rw [made]
  refine ⟨fun settings => ?_, fun error refused => Settings.invalid_of_ofGiven refused⟩
  rw [Settings.ofGiven_eq_ok, and_iff_right rfl]
  refine forall_congr' fun field => ?_
  rw [Settings.fieldValue_eq_ok, Validator.checks_accepts, Field.candidate]

/-- Surroundings are lawful whatever they hold. -/
theorem ambient_lawful (surroundings : Surroundings) : surroundings.ambient.Lawful .checks := by
  rcases Settings.gather_cases surroundings with
    ⟨error, unreadable⟩ | ⟨environment, dotenv, entries, refused, gathered⟩
  · exact .inr fun order explicit => ⟨error, by rw [ambient_make, unreadable]⟩
  · by_cases known : refused = []
    · subst known
      exact .inl (ambient_loads gathered)
    · refine .inr fun order explicit => ?_
      rw [ambient_make, gathered]
      dsimp only
      cases made : Settings.ofGiven _ with
      | error error => exact ⟨error, rfl⟩
      | ok settings =>
        have none_refused := (Settings.ofGiven_eq_ok.mp made).1
        exact absurd none_refused (Settings.eraseDups_ne_nil (by simp [known]))

/-- Surroundings in which nothing is set load. -/
theorem none_loads : Ambient.none.Loads .checks :=
  @ambient_loads none [] [] [] fun _ _ => rfl

/-- There the packages are sound. -/
theorem none_sound : Ambient.none.Sound .checks :=
  ⟨Validator.checks_faithful, none_loads, fun _ => rfl, fun _ => rfl⟩

end Surroundings

end TypstFences
