import TypstFences.Text.Basic

/-!
# Association lists

Looking values up by their keys in a list of pairs, the first of which counts. Where no key occurs
twice, what is found is what is listed (`mem_of_lookup`, `lookup_of_mem`).
-/

set_option autoImplicit false

namespace TypstFences

variable {κ α β : Type} [BEq κ] [LawfulBEq κ]

/-- A pair with another key is passed over. -/
theorem lookup_cons_of_ne {key other : κ} (value : α) (pairs : List (κ × α)) (h : key ≠ other) :
    ((other, value) :: pairs).lookup key = pairs.lookup key := by
  have differ : (key == other) = false := beq_eq_false_iff_ne.mpr h
  rw [List.lookup_cons, differ]

/-- A pair at the end is found if its key is not found before. -/
theorem lookup_concat [DecidableEq κ] {key other : κ} {pairs : List (κ × α)} (value : α)
    (absent : pairs.lookup key = none) :
    (pairs ++ [(key, value)]).lookup other =
      if other = key then some value else pairs.lookup other := by
  rw [List.lookup_append]
  by_cases same : other = key
  · subst same
    rw [absent, List.lookup_cons_self, if_pos rfl]
    rfl
  · rw [lookup_cons_of_ne _ _ same, if_neg same]
    simp

/-- The pairs whose keys satisfy a condition. -/
theorem lookup_filter_key (accepts : κ → Bool) (key : κ) (pairs : List (κ × α)) :
    (pairs.filter fun pair => accepts pair.1).lookup key =
      if accepts key then pairs.lookup key else none := by
  induction pairs with
  | nil => simp
  | cons pair pairs ih =>
    obtain ⟨old, value⟩ := pair
    by_cases same : key = old
    · subst same
      cases accepted : accepts key with
      | true =>
        rw [List.filter_cons_of_pos (by simpa using accepted), List.lookup_cons_self, if_pos rfl,
          List.lookup_cons_self]
      | false =>
        rw [List.filter_cons_of_neg (by simp [accepted]), ih, accepted]
        rfl
    · rw [lookup_cons_of_ne _ _ same, ← ih]
      cases accepted : accepts old with
      | true => rw [List.filter_cons_of_pos (by simpa using accepted), lookup_cons_of_ne _ _ same]
      | false => rw [List.filter_cons_of_neg (by simp [accepted])]

/-- The pairs without those of a key. -/
theorem lookup_filter_ne [DecidableEq κ] (key other : κ) (pairs : List (κ × α)) :
    (pairs.filter fun pair => pair.1 != key).lookup other =
      if other = key then none else pairs.lookup other := by
  rw [lookup_filter_key (· != key)]
  by_cases same : other = key <;> simp [same]

/-- A key that is not found is not listed. -/
theorem notMem_of_lookup_eq_none {key : κ} {pairs : List (κ × α)} (absent : pairs.lookup key = none) :
    key ∉ pairs.map Prod.fst := by
  rintro mem
  obtain ⟨pair, listed, rfl⟩ := List.mem_map.mp mem
  exact absurd (List.lookup_eq_none_iff.mp absent pair listed) (by simp)

/-- A key that is not listed is not found. -/
theorem lookup_eq_none_of_notMem {key : κ} {pairs : List (κ × α)} (absent : key ∉ pairs.map Prod.fst) :
    pairs.lookup key = none :=
  List.lookup_eq_none_iff.mpr fun pair listed => bne_iff_ne.mpr fun same =>
    absent (List.mem_map.mpr ⟨pair, listed, same.symm⟩)

/-- Keys stay different when a new one is added. -/
theorem nodup_concat {key : κ} {pairs : List (κ × α)} (value : α)
    (distinct : (pairs.map Prod.fst).Nodup) (absent : pairs.lookup key = none) :
    ((pairs ++ [(key, value)]).map Prod.fst).Nodup := by
  rw [List.map_append, List.map_singleton]
  refine List.nodup_append.mpr ⟨distinct, by simp, fun other listed last mem => ?_⟩
  obtain rfl := List.mem_singleton.mp mem
  rintro rfl
  exact notMem_of_lookup_eq_none absent listed

/-- What is found is listed. -/
theorem mem_of_lookup {key : κ} {value : α} {pairs : List (κ × α)}
    (h : pairs.lookup key = some value) : (key, value) ∈ pairs := by
  obtain ⟨before, after, rfl, -⟩ := List.lookup_eq_some_iff.mp h
  simp

/-- Where no key occurs twice, what is listed is found. -/
theorem lookup_of_mem {key : κ} {value : α} {pairs : List (κ × α)}
    (distinct : (pairs.map Prod.fst).Nodup) (h : (key, value) ∈ pairs) :
    pairs.lookup key = some value := by
  induction pairs with
  | nil => simp at h
  | cons pair pairs ih =>
    obtain ⟨other, old⟩ := pair
    rw [List.map_cons, List.nodup_cons] at distinct
    rcases List.mem_cons.mp h with same | later
    · obtain ⟨rfl, rfl⟩ := Prod.mk.inj same
      exact List.lookup_cons_self
    · have differ : key ≠ other := by
        rintro rfl
        exact distinct.1 (List.mem_map.mpr ⟨_, later, rfl⟩)
      rw [lookup_cons_of_ne _ _ differ]
      exact ih distinct.2 later

/-- Values that are made of the pairs of a list are found by the same keys. -/
theorem lookup_map {f : κ → α → β} (key : κ) (pairs : List (κ × α)) :
    (pairs.map fun pair => (pair.1, f pair.1 pair.2)).lookup key = (pairs.lookup key).map (f key) := by
  induction pairs with
  | nil => rfl
  | cons pair pairs ih =>
    obtain ⟨other, value⟩ := pair
    by_cases same : key = other
    · subst same
      simp
    · rw [List.map_cons, lookup_cons_of_ne _ _ same, lookup_cons_of_ne _ _ same, ih]

/-- Values that are made of some pairs of a list are found by the same keys, if no key occurs
twice. -/
theorem lookup_filterMap {f : κ → α → Option β} (key : κ) {pairs : List (κ × α)}
    (distinct : (pairs.map Prod.fst).Nodup) :
    (pairs.filterMap fun pair => (f pair.1 pair.2).map (pair.1, ·)).lookup key =
      (pairs.lookup key).bind (f key) := by
  induction pairs with
  | nil => rfl
  | cons pair pairs ih =>
    obtain ⟨other, value⟩ := pair
    rw [List.map_cons, List.nodup_cons] at distinct
    have rest := ih distinct.2
    by_cases same : key = other
    · subst same
      rw [List.filterMap_cons, List.lookup_cons_self, Option.bind_some]
      cases made : f key value with
      | some result => simp
      | none =>
        have absent : pairs.lookup key = none := by
          refine Option.eq_none_iff_forall_ne_some.mpr fun result found => distinct.1 ?_
          exact List.mem_map.mpr ⟨_, mem_of_lookup found, rfl⟩
        rw [absent] at rest
        exact rest
    · rw [lookup_cons_of_ne _ _ same, ← rest, List.filterMap_cons]
      cases f other value with
      | none => rfl
      | some result => exact lookup_cons_of_ne _ _ same

/-- What is found for a key with one value is what is listed. -/
theorem lookup_eq_some_iff {key : κ} {value : α} {pairs : List (κ × α)}
    (single : ∀ value other, (key, value) ∈ pairs → (key, other) ∈ pairs → value = other) :
    pairs.lookup key = some value ↔ (key, value) ∈ pairs := by
  refine ⟨mem_of_lookup, fun mem => ?_⟩
  cases found : pairs.lookup key with
  | none => exact absurd (List.mem_map_of_mem mem) (notMem_of_lookup_eq_none found)
  | some other => rw [single other value (mem_of_lookup found) mem]

/-- Lists that have the same pairs, and one value for each key, find the same values. -/
theorem lookup_eq_of_mem_iff {first second : List (κ × α)}
    (mem_iff : ∀ pair, pair ∈ first ↔ pair ∈ second)
    (single : ∀ key value other, (key, value) ∈ first → (key, other) ∈ first → value = other)
    (key : κ) : first.lookup key = second.lookup key := by
  refine Option.ext fun value => ?_
  rw [lookup_eq_some_iff (single key), lookup_eq_some_iff, mem_iff]
  exact fun value other mem mem' => single key value other ((mem_iff _).mpr mem) ((mem_iff _).mpr mem')

/-- A value under a new key is put at the end. -/
theorem Named.put_of_absent {ν : Type} [DecidableEq ν] {key : ν} (value : α) {pairs : List (ν × α)}
    (absent : key ∉ pairs.map Prod.fst) : Named.put key value pairs = pairs ++ [(key, value)] := by
  induction pairs with
  | nil => rfl
  | cons pair pairs ih =>
    obtain ⟨other, old⟩ := pair
    rw [List.map_cons, List.mem_cons, not_or] at absent
    rw [put, if_neg (Ne.symm absent.1), ih absent.2]
    rfl

/-- A value under a key that occurs once is put in the place of the value there. -/
theorem Named.put_of_mem {ν : Type} [DecidableEq ν] {key : ν} (value : α) {pairs : List (ν × α)}
    (distinct : (pairs.map Prod.fst).Nodup) (mem : key ∈ pairs.map Prod.fst) :
    Named.put key value pairs = pairs.map fun pair => (pair.1, if pair.1 = key then value else pair.2) := by
  induction pairs with
  | nil => exact absurd mem (by simp)
  | cons pair pairs ih =>
    obtain ⟨other, old⟩ := pair
    rw [List.map_cons, List.nodup_cons] at distinct
    rw [put, List.map_cons]
    by_cases same : other = key
    · subst same
      -- the keys behind are other ones
      have others : (pairs.map fun pair => (pair.1, if pair.1 = other then value else pair.2)) = pairs := by
        refine (List.map_congr_left fun pair listed => ?_).trans (List.map_id pairs)
        have differ : pair.1 ≠ other := by
          rintro rfl
          exact distinct.1 (List.mem_map.mpr ⟨pair, listed, rfl⟩)
        rw [if_neg differ, id]
      rw [if_pos rfl, if_pos rfl, others]
    · have later : key ∈ pairs.map Prod.fst :=
        (List.mem_cons.mp mem).resolve_left fun first => same first.symm
      rw [if_neg same, if_neg same, ih distinct.2 later]

/-- Values found by their positions in a list. -/
theorem lookup_filterMap_zipIdx {f : α → Option β} (list : List α) :
    ∀ start i, ((list.zipIdx start).filterMap fun entry => (f entry.1).map (entry.2, ·)).lookup
      (start + i) = list[i]?.bind f := by
  induction list with
  | nil => exact fun _ _ => rfl
  | cons a list ih =>
    intro start i
    rw [List.zipIdx_cons, List.filterMap_cons]
    cases i with
    | zero =>
      have absent : ((list.zipIdx (start + 1)).filterMap fun entry =>
          (f entry.1).map (entry.2, ·)).lookup start = none := by
        refine List.lookup_eq_none_iff.mpr fun pair mem => ?_
        obtain ⟨⟨b, position⟩, listed, made⟩ := List.mem_filterMap.mp mem
        obtain ⟨value, -, rfl⟩ := Option.map_eq_some_iff.mp made
        have later : start + 1 ≤ position := List.le_snd_of_mem_zipIdx listed
        exact bne_iff_ne.mpr (by show start ≠ position; omega)
      cases made : f a with
      | none => simpa [made] using absent
      | some value => simp [made]
    | succ i =>
      have rest := ih (start + 1) i
      rw [Nat.add_right_comm, Nat.add_assoc] at rest
      rw [List.getElem?_cons_succ, ← rest]
      cases f a with
      | none => rfl
      | some value => exact lookup_cons_of_ne _ _ (by omega)

end TypstFences
