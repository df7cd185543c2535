/-
# Who has what is open

Numbered things, such as descriptors, that are open or closed.  Some of the open ones are
in the custody of an owner, at most one each, and the rest belong to others.  `Custody` says
that nothing is open that nobody has, and that nobody has what somebody else has.

An owner takes a number that was closed (`take`) and gives it back (`give`); the others open
and close numbers that are no owner's (`open_other`, `close_other`).
-/
import Mathlib.Logic.Function.Basic
import Mathlib.Tactic.Common

namespace Library

/-- What is open is the others' or one owner's. -/
structure Custody {ι κ : Type*} (isOpen others : ι → Bool) (owned : κ → Option ι) : Prop where
  open_iff : ∀ i, isOpen i = true ↔ others i = true ∨ ∃ k, owned k = some i
  apart : ∀ k i, owned k = some i → others i = false
  injective : ∀ k k' i, owned k = some i → owned k' = some i → k = k'

namespace Custody

variable {ι κ : Type*} {isOpen others : ι → Bool} {owned : κ → Option ι} {i : ι} {k : κ}

/-- Everything belongs to the others. -/
theorem start (isOpen : ι → Bool) : Custody isOpen isOpen (fun _ : κ => none) where
  open_iff _ := by simp
  apart _ _ hk := absurd hk (by simp)
  injective _ _ _ hk := absurd hk (by simp)

/-- What is closed is nobody's. -/
theorem of_closed (h : Custody isOpen others owned) (hi : isOpen i = false) :
    others i = false ∧ ∀ k, owned k ≠ some i := by
  have hnot : ¬(others i = true ∨ ∃ k, owned k = some i) := fun hor =>
    Bool.false_ne_true (hi.symm.trans ((h.open_iff i).2 hor))
  rw [not_or, Bool.not_eq_true] at hnot
  exact ⟨hnot.1, fun k hk => hnot.2 ⟨k, hk⟩⟩

variable [DecidableEq ι]

/-- The others open a number. -/
theorem open_other (h : Custody isOpen others owned) (hi : isOpen i = false) :
    Custody (Function.update isOpen i true) (Function.update others i true) owned where
  open_iff j := by
    rcases eq_or_ne j i with rfl | hne
    · simp
    · rw [Function.update_of_ne hne, Function.update_of_ne hne, h.open_iff]
  apart k j hk := by
    have hne : j ≠ i := by
      rintro rfl
      exact (h.of_closed hi).2 k hk
    rw [Function.update_of_ne hne]
    exact h.apart k j hk
  injective := h.injective

/-- The others close a number of theirs. -/
theorem close_other (h : Custody isOpen others owned) (hi : others i = true) :
    Custody (Function.update isOpen i false) (Function.update others i false) owned where
  open_iff j := by
    rcases eq_or_ne j i with rfl | hne
    · have hno : ∀ k, owned k ≠ some j := fun k hk =>
        Bool.false_ne_true ((h.apart k j hk).symm.trans hi)
      simp [hno]
    · rw [Function.update_of_ne hne, Function.update_of_ne hne, h.open_iff]
  apart k j hk := by
    have hne : j ≠ i := by
      rintro rfl
      exact Bool.false_ne_true ((h.apart k j hk).symm.trans hi)
    rw [Function.update_of_ne hne]
    exact h.apart k j hk
  injective := h.injective

variable [DecidableEq κ]

/-- An owner that has nothing takes a number. -/
theorem take (h : Custody isOpen others owned) (hi : isOpen i = false) (hk : owned k = none) :
    Custody (Function.update isOpen i true) others (Function.update owned k (some i)) where
  open_iff j := by
    rcases eq_or_ne j i with rfl | hne
    · rw [Function.update_self]
      exact iff_of_true rfl (.inr ⟨k, Function.update_self ..⟩)
    · rw [Function.update_of_ne hne, h.open_iff]
      refine or_congr_right (exists_congr fun k' => ?_)
      rcases eq_or_ne k' k with rfl | hne'
      · rw [Function.update_self, hk]
        exact iff_of_false (by simp) fun heq => hne (Option.some.inj heq).symm
      · rw [Function.update_of_ne hne']
  apart k' j hk' := by
    rcases eq_or_ne k' k with rfl | hne
    · rw [Function.update_self] at hk'
      obtain rfl := Option.some.inj hk'
      exact (h.of_closed hi).1
    · rw [Function.update_of_ne hne] at hk'
      exact h.apart k' j hk'
  injective k₁ k₂ j h₁ h₂ := by
    have hold : ∀ k', k' ≠ k → Function.update owned k (some i) k' = some j → j ≠ i := by
      rintro k' hne hk' rfl
      rw [Function.update_of_ne hne] at hk'
      exact (h.of_closed hi).2 k' hk'
    have hself : ∀ k', k' = k → Function.update owned k (some i) k' = some j → j = i := by
      rintro k' rfl hk'
      rw [Function.update_self] at hk'
      exact (Option.some.inj hk').symm
    rcases eq_or_ne k₁ k with rfl | hne₁
    · rcases eq_or_ne k₂ k₁ with rfl | hne₂
      · rfl
      · exact absurd (hself _ rfl h₁) (hold _ hne₂ h₂)
    · rcases eq_or_ne k₂ k with rfl | hne₂
      · exact absurd (hself _ rfl h₂) (hold _ hne₁ h₁)
      · rw [Function.update_of_ne hne₁] at h₁
        rw [Function.update_of_ne hne₂] at h₂
        exact h.injective k₁ k₂ j h₁ h₂

/-- An owner gives its number back. -/
theorem give (h : Custody isOpen others owned) (hk : owned k = some i) :
    Custody (Function.update isOpen i false) others (Function.update owned k none) where
  open_iff j := by
    rcases eq_or_ne j i with rfl | hne
    · rw [Function.update_self]
      refine iff_of_false Bool.false_ne_true ?_
      rintro (hj | ⟨k', hk'⟩)
      · exact Bool.false_ne_true ((h.apart k j hk).symm.trans hj)
      · rcases eq_or_ne k' k with rfl | hne'
        · rw [Function.update_self] at hk'
          exact absurd hk' (by simp)
        · rw [Function.update_of_ne hne'] at hk'
          exact hne' (h.injective k' k j hk' hk)
    · rw [Function.update_of_ne hne, h.open_iff]
      refine or_congr_right (exists_congr fun k' => ?_)
      rcases eq_or_ne k' k with rfl | hne'
      · rw [Function.update_self, hk]
        exact iff_of_false (fun heq => hne (Option.some.inj heq).symm) (by simp)
      · rw [Function.update_of_ne hne']
  apart k' j hk' := by
    rcases eq_or_ne k' k with rfl | hne
    · rw [Function.update_self] at hk'
      exact absurd hk' (by simp)
    · rw [Function.update_of_ne hne] at hk'
      exact h.apart k' j hk'
  injective k₁ k₂ j h₁ h₂ := by
    have hold : ∀ k', Function.update owned k none k' = some j → owned k' = some j := by
      intro k' hk'
      rcases eq_or_ne k' k with rfl | hne
      · rw [Function.update_self] at hk'
        exact absurd hk' (by simp)
      · rwa [Function.update_of_ne hne] at hk'
    exact h.injective k₁ k₂ j (hold k₁ h₁) (hold k₂ h₂)

end Custody
end Library
