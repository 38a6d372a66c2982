import TypstFences.Files.Path

/-!
# The order of texts

Texts are ordered by the first character in which they differ, lists of texts by the first text, and paths by
their names. All these orders are total.
-/

set_option autoImplicit false

namespace TypstFences

namespace Text

/-- Of two texts one is not behind the other. -/
theorem le_total (first second : Text) : (le first second || le second first) = true := by
  induction first generalizing second with
  | nil => rfl
  | cons c first ih =>
    cases second with
    | nil => rfl
    | cons d second =>
      rw [le, le]
      by_cases same : c = d
      · rw [if_pos same, if_pos same.symm]
        exact ih second
      · rw [if_neg same, if_neg (Ne.symm same)]
        have differ : c.toNat ≠ d.toNat := fun eq => same (Char.toNat_inj.mp eq)
        simp only [Bool.or_eq_true, decide_eq_true_eq]
        omega

/-- Texts of which neither is behind the other are the same. -/
theorem le_antisymm {first second : Text} (h : le first second = true) (h' : le second first = true) :
    first = second := by
  induction first generalizing second with
  | nil =>
    cases second with
    | nil => rfl
    | cons d second => exact absurd h' (by simp [le])
  | cons c first ih =>
    cases second with
    | nil => exact absurd h (by simp [le])
    | cons d second =>
      rw [le] at h h'
      by_cases same : c = d
      · rw [if_pos same] at h
        rw [if_pos same.symm] at h'
        rw [same, ih h h']
      · rw [if_neg same, decide_eq_true_eq] at h
        rw [if_neg (Ne.symm same), decide_eq_true_eq] at h'
        omega

/-- The order of texts is transitive. -/
theorem le_trans {first second third : Text} (h : le first second = true) (h' : le second third = true) :
    le first third = true := by
  induction first generalizing second third with
  | nil => rfl
  | cons c first ih =>
    cases second with
    | nil => exact absurd h (by simp [le])
    | cons d second =>
      cases third with
      | nil => exact absurd h' (by simp [le])
      | cons e third =>
        rw [le] at h h' ⊢
        by_cases same : c = d
        · subst same
          rw [if_pos rfl] at h
          by_cases same : c = e
          · rw [if_pos same] at h' ⊢
            exact ih h h'
          · rw [if_neg same] at h' ⊢
            exact h'
        · rw [if_neg same, decide_eq_true_eq] at h
          have less : c.toNat < e.toNat := by
            by_cases same : d = e
            · rwa [← same]
            · rw [if_neg same, decide_eq_true_eq] at h'
              omega
          have differ : c ≠ e := fun eq => absurd less (by simp [eq])
          rw [if_neg differ, decide_eq_true_eq]
          exact less

/-- Of two lists of texts one is not behind the other. -/
theorem leAll_total (first second : List Text) : (leAll first second || leAll second first) = true := by
  induction first generalizing second with
  | nil => rfl
  | cons s first ih =>
    cases second with
    | nil => rfl
    | cons t second =>
      rw [leAll, leAll]
      by_cases same : s = t
      · rw [if_pos same, if_pos same.symm]
        exact ih second
      · rw [if_neg same, if_neg (Ne.symm same)]
        exact le_total s t

/-- The order of lists of texts is transitive. -/
theorem leAll_trans {first second third : List Text} (h : leAll first second = true)
    (h' : leAll second third = true) : leAll first third = true := by
  induction first generalizing second third with
  | nil => rfl
  | cons s first ih =>
    cases second with
    | nil => exact absurd h (by simp [leAll])
    | cons t second =>
      cases third with
      | nil => exact absurd h' (by simp [leAll])
      | cons u third =>
        rw [leAll] at h h' ⊢
        by_cases same : s = t
        · subst same
          rw [if_pos rfl] at h
          by_cases same : s = u
          · rw [if_pos same] at h' ⊢
            exact ih h h'
          · rw [if_neg same] at h' ⊢
            exact h'
        · rw [if_neg same] at h
          by_cases same' : t = u
          · subst same'
            rw [if_neg same]
            exact h
          · rw [if_neg same'] at h'
            -- otherwise the texts in between would be the same
            have differ : s ≠ u := fun eq => same (le_antisymm h (eq ▸ h'))
            rw [if_neg differ]
            exact le_trans h h'

end Text

namespace Path

/-- Of two paths one is not behind the other. -/
theorem le_total (first second : Path) : (first.le second || second.le first) = true :=
  Text.leAll_total first.names second.names

/-- The order of paths is transitive. -/
theorem le_trans (first second third : Path) (h : first.le second = true) (h' : second.le third = true) :
    first.le third = true :=
  Text.leAll_trans h h'

end Path

end TypstFences
