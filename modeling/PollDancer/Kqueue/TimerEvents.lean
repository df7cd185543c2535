/-
# A timer of kqueue in the loop

The filter of a timer counts expirations until the wait reports them, and an expiration
that has not been reported goes with the filter: when it is deleted, or added anew.
`kqueue_loop_run` reads an `EVFILT_TIMER` event without a look at `active`.  A timer that is
in its one-shot phase is set up again there, and no other bookkeeping is done.
-/
import PollDancer.Kqueue.Timer
import PollDancer.TimerLoop

namespace PollDancer
namespace Kqueue

/-- A loop with the expiration of the timer that has not been reported. -/
structure Watched where
  world : KqueueWorld
  fired : Option ℕ

/-- The state of the loop changes. -/
def Watched.move (k : Watched) (t : Addr) (s : KqueueWorld) : Watched where
  world := s
  fired := if s.sys.kernel.timers t = k.world.sys.kernel.timers t then k.fired else none

/-- The wait reports the expiration.  A one-shot filter goes. -/
def Watched.report (k : Watched) (t : Addr) : Option (Watched × ℕ) := do
  let n ← k.fired
  let filter ← k.world.sys.kernel.timers t
  let world := if filter.oneshot then setTimerKnote k.world t none else k.world
  some (⟨world, none⟩, n)

/-- What kqueue does for the timer `t`. -/
def kqueueTimers (t : Addr) : TimerBackend Watched (Option Errno) where
  start k refused :=
    let r := pdTimerStart k.world t refused
    (k.move t r.1, r.2)
  stop k _ :=
    let r := pdTimerStop k.world t
    (k.move t r.1, r.2)
  expire k n :=
    if (k.world.sys.kernel.timers t).isSome then some { k with fired := some n } else none
  report k := k.report t
  invokes k := (k.world.sys.timers t).isSome
  acknowledge k refused := k.move t (k.world.setSys (rearm k.world.sys t refused))

/-- `pd_timer_create` has just returned the timer, on a loop with no filter of an earlier
timer at the same address. -/
def TimerCreated (t : Addr) (k : Watched) : Prop :=
  k.fired = none ∧ ∃ s timeoutMs intervalMs callback userData env,
    s.sys.kernel.timers t = none ∧
      pdTimerCreate s timeoutMs intervalMs callback userData env = (k.world, some t)

/-- What the calls keep: the timer fits its filter, and only a filter expires. -/
structure Watched.Inv (t : Addr) (k : Watched) : Prop where
  fits : Fits k.world t
  filter : k.fired.isSome → (k.world.sys.kernel.timers t).isSome

/-- The expiration that has not been reported. -/
def Watched.pending (k : Watched) : Set ℕ := {n | k.fired = some n}

variable {t : Addr} {k : Watched} {s : KqueueWorld}

theorem Watched.Inv.move (h : k.Inv t) (hs : Fits s t) :
    (k.move t s).Inv t ∧ (k.move t s).pending ⊆ k.pending := by
  unfold Watched.move
  split_ifs with heq
  · exact ⟨⟨hs, fun hf => heq ▸ h.filter hf⟩, subset_rfl⟩
  · exact ⟨⟨hs, fun hf => nomatch hf⟩, fun _ hn => nomatch hn⟩

theorem Watched.Inv.inactive (h : k.Inv t) (hact : active k.world t = false) : k.pending = ∅ := by
  have hnone : k.fired = none := by
    have hf := h.filter
    rw [h.fits.filter hact] at hf
    exact Option.not_isSome_iff_eq_none.1 fun hsome => nomatch hf hsome
  rw [pending, hnone]
  exact Set.eq_empty_of_forall_notMem fun _ hn => nomatch hn

theorem Watched.Inv.report (h : k.Inv t) {k' : Watched} {n : ℕ} (hr : k.report t = some (k', n)) :
    k'.Inv t ∧ active k'.world t = active k.world t ∧ n ∈ k.pending ∧ k'.pending ⊆ k.pending := by
  obtain ⟨m, hm, hr⟩ := Option.bind_eq_some_iff.1 hr
  obtain ⟨filter, -, hr⟩ := Option.bind_eq_some_iff.1 hr
  obtain ⟨rfl, rfl⟩ := Prod.mk.inj (Option.some.inj hr)
  have hfits : Fits (if filter.oneshot then setTimerKnote k.world t none else k.world) t := by
    split_ifs
    · exact ⟨h.fits.registered, fun _ => setTimerKnote_knote_self ..⟩
    · exact h.fits
  refine ⟨⟨hfits, fun hf => nomatch hf⟩, ?_, hm, fun _ hn => nomatch hn⟩
  split_ifs
  · rfl
  · rfl

/-- kqueue keeps its timers. -/
theorem kqueueTimers_keeps (t : Addr) :
    (kqueueTimers t).Keeps (Watched.Inv t) (fun k => active k.world t) Watched.pending where
  inactive k h hact := h.inactive hact
  start k refused h := by
    obtain ⟨hfits, hcases⟩ := start_cases h.fits refused
    obtain ⟨hinv, hpending⟩ := h.move hfits
    refine ⟨hinv, hpending, fun hne => ?_⟩
    rcases hcases with ⟨-, heq⟩ | ⟨-, hok, -⟩ | ⟨hact, -, hact'⟩
    · exact absurd (congrArg Prod.snd heq) hne
    · exact absurd hok hne
    · exact hact'.trans hact.symm
  start_ok k refused h hok := by
    obtain ⟨-, ⟨hact, heq⟩ | ⟨-, -, hact⟩ | ⟨-, hne, -⟩⟩ := start_cases h.fits refused
    · exact (congrArg (active · t) (congrArg Prod.fst heq)).trans hact
    · exact hact
    · exact absurd hok hne
  stop k _ h := by
    obtain ⟨hfits, hcases⟩ := stop_cases h.fits
    obtain ⟨hinv, hpending⟩ := h.move hfits
    refine ⟨hinv, fun hne => ⟨?_, hpending⟩⟩
    rcases hcases with ⟨hok, -⟩ | ⟨-, heq⟩
    · exact absurd hok hne
    · exact congrArg (active · t) heq
  stop_ok k _ h hok := by
    obtain ⟨-, ⟨-, hact⟩ | ⟨hne, -⟩⟩ := stop_cases h.fits
    · exact hact
    · exact absurd hok hne
  expire k n k' h hk := by
    obtain ⟨hfilter, hk⟩ := Option.ite_none_right_eq_some.1 hk
    obtain rfl := Option.some.inj hk
    exact ⟨⟨h.fits, fun _ => hfilter⟩, rfl, fun m hm => Or.inl (Option.some.inj hm).symm⟩
  report k k' n h hr := h.report hr
  acknowledge k refused h hact := by
    obtain ⟨hfits, hact'⟩ := h.fits.rearm hact refused
    obtain ⟨hinv, hpending⟩ := h.move hfits
    exact ⟨hinv, hact', hpending⟩

theorem TimerCreated.inv (h : TimerCreated t k) : k.Inv t := by
  obtain ⟨hfired, s, _, _, _, _, _, hfilter, hcreate⟩ := h
  exact ⟨(Fits.create hfilter hcreate).1, fun hf => nomatch hfired ▸ hf⟩

end Kqueue
end PollDancer
