/-
# Infinite runs and weak fairness

An infinite run of a machine, in which nothing may happen for a while, and one rule for
what it must come to: if some kind of step is fair, can be taken as long as `P` holds, and
brings a rank down that no other step brings up, then `P` leads to `Q`
(`Run.leadsTo_of_rank`).
-/
import Mathlib.Algebra.Group.Nat.Defs
import Mathlib.Order.Defs.PartialOrder
import Mathlib.Order.RelClasses
import Mathlib.Order.WellFounded
import PollDancer.Library.Machine

namespace Library
namespace Machine

variable {σ α : Type*} {M : Machine σ α}

/-- An infinite run.  Where there is no label nothing happens. -/
structure Run (M : Machine σ α) where
  state : ℕ → σ
  label : ℕ → Option α
  init : M.init (state 0)
  stay : ∀ n, label n = none → state (n + 1) = state n
  next : ∀ n a, label n = some a → M.next (state n) a (state (n + 1))

namespace Run

variable (ρ : Run M)

theorem reachable (n : ℕ) : M.Reachable (ρ.state n) := by
  induction n with
  | zero => exact .init ρ.init
  | succ n ih =>
      cases hl : ρ.label n with
      | none => rwa [ρ.stay n hl]
      | some a => exact .step ih trivial (ρ.next n a hl)

/-- Steps of the kind `act` are not put off for ever: if one can be taken from some time on,
one is taken. -/
def Fair (act : α → Prop) : Prop :=
  ∀ n, (∀ m ≥ n, ∃ a s', act a ∧ M.next (ρ.state m) a s') →
    ∃ m ≥ n, ∃ a, act a ∧ ρ.label m = some a

/-- Whenever `P` holds, `Q` holds then or later. -/
def LeadsTo (P Q : σ → Prop) : Prop := ∀ n, P (ρ.state n) → ∃ m ≥ n, Q (ρ.state m)

/-- The states of the run in which a scheduler says what is to happen, where that can
happen. -/
def scheduled (f : σ → α → Option σ) (s₀ : σ) (schedule : ℕ → σ → α) : ℕ → σ
  | 0 => s₀
  | n + 1 =>
      let s := scheduled f s₀ schedule n
      (f s (schedule n s)).getD s

/-- The run of a scheduler. -/
def ofSchedule {init : σ → Prop} {f : σ → α → Option σ} (s₀ : σ) (h₀ : init s₀)
    (schedule : ℕ → σ → α) : Run (ofFun init f) where
  state := scheduled f s₀ schedule
  label n :=
    let s := scheduled f s₀ schedule n
    if (f s (schedule n s)).isSome then some (schedule n s) else none
  init := h₀
  stay n h := by
    dsimp only at h
    split_ifs at h with hsome
    rw [scheduled, Option.not_isSome_iff_eq_none.1 hsome]
    rfl
  next n a h := by
    obtain ⟨hsome, h⟩ := Option.ite_none_right_eq_some.1 h
    obtain rfl := Option.some.inj h
    obtain ⟨s', hs'⟩ := Option.isSome_iff_exists.1 hsome
    show f _ _ = some (scheduled f s₀ schedule (n + 1))
    rw [scheduled, hs']
    rfl

variable {ρ} {act : α → Prop} {P Q : σ → Prop} {β : Type*} [Preorder β] [WellFoundedLT β]

/-- **The rule of ranks.** -/
theorem leadsTo_of_rank (hfair : ρ.Fair act) (rank : σ → β)
    (hact : ∀ s, M.Reachable s → P s → ¬Q s → ∃ a s', act a ∧ M.next s a s')
    (hdown : ∀ s a s', M.Reachable s → P s → ¬Q s → act a → M.next s a s' →
      Q s' ∨ P s' ∧ rank s' < rank s)
    (hkeep : ∀ s a s', M.Reachable s → P s → ¬Q s → ¬act a → M.next s a s' →
      Q s' ∨ P s' ∧ rank s' ≤ rank s) : ρ.LeadsTo P Q := by
  intro n hP
  induction hr : rank (ρ.state n) using WellFoundedLT.induction generalizing n with
  | ind r ih =>
      by_contra hnone
      have hnot : ∀ m ≥ n, ¬Q (ρ.state m) := fun m hm hQ => hnone ⟨m, hm, hQ⟩
      -- as long as `Q` fails, `P` stays and the rank does not grow
      have hstay : ∀ m ≥ n, P (ρ.state m) ∧ rank (ρ.state m) ≤ r := by
        intro m hm
        induction m, hm using Nat.le_induction with
        | base => exact ⟨hP, hr.le⟩
        | succ m hm ihm =>
            obtain ⟨hPm, hle⟩ := ihm
            cases hl : ρ.label m with
            | none =>
                rw [ρ.stay m hl]
                exact ⟨hPm, hle⟩
            | some a =>
                have hnext := ρ.next m a hl
                have hQ := hnot (m + 1) (Nat.le_succ_of_le hm)
                by_cases ha : act a
                · obtain hQ' | ⟨hP', hlt⟩ :=
                    hdown _ a _ (ρ.reachable m) hPm (hnot m hm) ha hnext
                  · exact absurd hQ' hQ
                  · exact ⟨hP', hlt.le.trans hle⟩
                · obtain hQ' | ⟨hP', hle'⟩ :=
                    hkeep _ a _ (ρ.reachable m) hPm (hnot m hm) ha hnext
                  · exact absurd hQ' hQ
                  · exact ⟨hP', hle'.trans hle⟩
      obtain ⟨m, hm, a, ha, hl⟩ := hfair n fun m hm =>
        hact _ (ρ.reachable m) (hstay m hm).1 (hnot m hm)
      obtain hQ | ⟨hP', hlt⟩ :=
        hdown _ a _ (ρ.reachable m) (hstay m hm).1 (hnot m hm) ha (ρ.next m a hl)
      · exact hnot (m + 1) (Nat.le_succ_of_le hm) hQ
      · obtain ⟨k, hk, hQ⟩ := ih _ (hlt.trans_le (hstay m hm).2) (m + 1) hP' rfl
        exact hnone ⟨k, Nat.le_trans (Nat.le_succ_of_le hm) hk, hQ⟩

end Run
end Machine
end Library
