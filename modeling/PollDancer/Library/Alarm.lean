/-
# Alarms and their signals

An alarm is set and cancelled by its owner.  While it is set it goes off, and every time
it sends a signal, which may be delivered much later: after the alarm has been cancelled,
or set anew.  Every setting has a number, larger than those before it, and a signal is
known by the setting it comes from.

`live` are the settings from which a signal may still be delivered, `Phase` is what the
owner may rely on: after a cancel no signal at all, and after the next setting none from
before it.  When a cancel leaves nothing live, and only a setting makes something live, no
signal is ever delivered out of its phase: `Log.timely_of_moves`.
-/
import Mathlib.Data.Set.Insert
import PollDancer.Library.Machine

namespace Library
namespace Alarm

variable {ι : Type*}

/-- What the owner has done last, from its first cancel on. -/
inductive Phase (ι : Type*)
  /-- The alarm has not been cancelled yet. -/
  | fresh
  | cancelled
  /-- It has been set again, and this is the number of the setting. -/
  | set (n : ι)
  deriving DecidableEq, Repr

namespace Phase

/-- The alarm is set. -/
def onSet (n : ι) : Phase ι → Phase ι
  | fresh => fresh
  | cancelled => set n
  | set m => set m

/-- May a signal of the `n`-th setting be delivered? -/
def timely [LE ι] [DecidableLE ι] (n : ι) : Phase ι → Bool
  | fresh => true
  | cancelled => false
  | set m => decide (m ≤ n)

end Phase

/-- What the owner sees in a step. -/
inductive Signal (ι : Type*)
  | quiet
  /-- The alarm is set, for the `n`-th time. -/
  | set (n : ι)
  /-- The alarm is cancelled. -/
  | cancel
  /-- A signal of the `n`-th setting is delivered. -/
  | deliver (n : ι)
  deriving DecidableEq, Repr

/-- The phase after a step. -/
def Phase.after (e : Signal ι) (p : Phase ι) : Phase ι :=
  match e with
  | .quiet => p
  | .set n => p.onSet n
  | .cancel => .cancelled
  | .deliver _ => p

/-- The phase of an alarm, and the signals that have been delivered, each with the phase
at the time. -/
structure Log (ι : Type*) where
  phase : Phase ι
  delivered : List (Phase ι × ι)
  deriving DecidableEq, Repr

namespace Log

/-- The log of an alarm that has not been set. -/
def empty : Log ι := ⟨.fresh, []⟩

/-- The log after a step. -/
def note (e : Signal ι) (g : Log ι) : Log ι where
  phase := g.phase.after e
  delivered :=
    match e with
    | .deliver n => g.delivered ++ [(g.phase, n)]
    | _ => g.delivered

variable [LE ι] [DecidableLE ι]

/-- No signal has been delivered out of its phase. -/
def Timely (g : Log ι) : Prop := ∀ d ∈ g.delivered, d.1.timely d.2 = true

end Log

/-- How a step may change what is live.  Only a setting makes something live, and it is the
latest; a cancel leaves nothing; what is delivered was live. -/
inductive Moves [LE ι] (p : Phase ι) (live live' : Set ι) : Signal ι → Prop
  | quiet : live' ⊆ live → Moves p live live' .quiet
  | set {n : ι} : live' ⊆ insert n live → (∀ m, p = .set m → m ≤ n) → Moves p live live' (.set n)
  | cancel : live' = ∅ → Moves p live live' .cancel
  | deliver {n : ι} : n ∈ live → live' ⊆ live → Moves p live live' (.deliver n)

section

variable [Preorder ι] [DecidableLE ι] {p : Phase ι} {live live' : Set ι} {e : Signal ι}

/-- Everything live is in its phase. -/
def Settled (p : Phase ι) (live : Set ι) : Prop := ∀ n ∈ live, p.timely n = true

theorem Settled.mono (h : Settled p live) (hsub : live' ⊆ live) : Settled p live' :=
  fun n hn => h n (hsub hn)

/-- What is in its phase before a step is so after it. -/
theorem Moves.settled (hm : Moves p live live' e) (h : Settled p live) :
    Settled (p.after e) live' := by
  cases hm with
  | quiet hsub => exact h.mono hsub
  | deliver _ hsub => exact h.mono hsub
  | cancel hnone =>
      rintro n hn
      rw [hnone] at hn
      exact absurd hn (Set.notMem_empty n)
  | @set n hsub hlast =>
      intro k hk
      cases p with
      | fresh => rfl
      | cancelled =>
          -- nothing was live, so it is the new setting
          rcases hsub hk with rfl | hk
          · exact decide_eq_true (le_refl k)
          · exact nomatch h k hk
      | set m =>
          rcases hsub hk with rfl | hk
          · exact decide_eq_true (hlast m rfl)
          · exact h k hk

/-- A signal that is delivered is in its phase. -/
theorem Moves.note_timely {g : Log ι} (hm : Moves g.phase live live' e)
    (h : Settled g.phase live) (hg : g.Timely) : (g.note e).Timely := by
  cases hm with
  | quiet _ => exact hg
  | set _ _ => exact hg
  | cancel _ => exact hg
  | @deliver n hn _ =>
      intro d hd
      rcases List.mem_append.1 hd with hd | hd
      · exact hg d hd
      · obtain rfl := List.mem_singleton.1 hd
        exact h n hn

/-! ### Alarms in a machine -/

variable {σ α : Type*} {init : σ → Prop} {f : σ → α → Option σ} {signal : σ → α → Signal ι}
  {ok : σ × Log ι → α → Prop} {I : σ → Phase ι → Prop} {A : σ → Set ι}

/-- The simulation rule: when every step of a machine moves what is live in one of the ways
above, no signal is delivered out of its phase in any of its runs.  `I` is what the steps
keep besides. -/
theorem Log.timely_of_moves (hinit : ∀ s, init s → I s .fresh)
    (hstep : ∀ s g l s', I s g.phase → Settled g.phase (A s) → ok (s, g) l →
      f s l = some s' → I s' (g.phase.after (signal s l)) ∧
        Moves g.phase (A s) (A s') (signal s l))
    {s : σ} {g : Log ι}
    (hr : (Machine.recorded init f .empty fun s l g => g.note (signal s l)).Reach ok (s, g)) :
    I s g.phase ∧ Settled g.phase (A s) ∧ g.Timely := by
  refine Machine.Reach.recorded_invariant
    (I := fun s g => I s g.phase ∧ Settled g.phase (A s) ∧ g.Timely) ?_ ?_ hr
  · intro s hs
    exact ⟨hinit s hs, fun _ _ => rfl, fun _ hd => absurd hd List.not_mem_nil⟩
  · rintro s g l s' ⟨hi, hset, hg⟩ hok hnext
    obtain ⟨hi', hm⟩ := hstep s g l s' hi hset hok hnext
    exact ⟨hi', hm.settled hset, hm.note_timely hset hg⟩

end

end Alarm
end Library
