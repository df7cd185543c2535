/-
# Kqueue waits for what is asked

A kqueue loop refines the same specification as an epoll loop (`watching`), in prompt and
orderly runs with timers (`refines_watching`), and its kernel waits for exactly what is asked
(`Awaits`): an active watcher has the filters of the mask that its user has asked for last,
edge-triggered if the mask says so, and every filter is that of such a watcher.  Filters are
for reading and writing only: the other bits of a mask have no effect on kqueue.

The rules that the user keeps to (`Tame`) are those of `Orderly` and `Prompt`, on live watchers.
They are more than on epoll: an update of an active watcher asks for the filters that are
there, as it would not change them; no registration is refused half way, as it would leave a
filter behind; and a timer with a report on its way is neither destroyed nor refused a start.
-/
import PollDancer.Kqueue.Agreement
import PollDancer.Readiness

namespace PollDancer
namespace Kqueue

open Library

/-- What the user has asked for, as the watchers remember it. -/
noncomputable def asked (s : KqueueWorld) : Interests := s.seen (hidden s)

/-- The user sees the watcher calls and the replies to them. -/
def shown (s : TimerWorld) : TimerAction → Option Exchange
  | .call c => some (c.request, (s.world.exec kqueueOps c).2)
  | _ => none

/-- The user keeps to the rules, and makes calls on live watchers. -/
structure Tame (s : TimerWorld) (act : TimerAction) : Prop where
  prompt : Prompt s act
  orderly : Orderly s act
  live : ∀ c a, act = .call c → c.target = some a → (s.world.heap a).isSome = true

/-- The kernel waits for what is asked. -/
structure Awaits (s : KqueueWorld) : Prop where
  active : ∀ a i, asked s a = some i → i.active = true →
    ∀ f, s.sys.kernel.knotes i.fd f = filterOf a i.events f
  filter : ∀ fd f n, s.sys.kernel.knotes fd f = some n →
    ∃ i, asked s n.udata = some i ∧ i.active = true ∧ i.fd = fd ∧
      filterOf n.udata i.events f = some n

section

variable {s s' : KqueueWorld} {t a : Addr} {tm : PdTimer KqueueTimerData}

theorem Retimed.asked_eq (hr : Retimed s s' t) : asked s' = asked s := by
  funext b
  exact seen_congr (by rw [hr.hidden_eq]) (by rw [hr.heap_eq])

/-- A timer that is created brings a placeholder that nobody sees. -/
theorem asked_timerCreate (s : KqueueWorld) (timeoutMs intervalMs : UInt64)
    (callback : Option Callback) (userData : Addr) (env : TimerEnv) :
    asked (pdTimerCreate s timeoutMs intervalMs callback userData env).1 = asked s := by
  obtain ⟨-, -, hcases⟩ := timerCreate_spec s timeoutMs intervalMs callback userData env
  generalize (pdTimerCreate s timeoutMs intervalMs callback userData env).1 = s' at hcases ⊢
  funext b
  rcases hcases with ⟨hheap, -, htimers⟩ |
    ⟨t, a, tm, hnew, hdead, -, hw, -, -, hheap, -, htimers⟩
  · exact seen_congr (by rw [hidden, hidden, htimers]) (congrFun hheap b)
  · have hself : s'.sys.timers t = some tm := by rw [htimers, Function.update_self]
    have hother : ∀ u, u ≠ t → s'.sys.timers u = s.sys.timers u :=
      fun u hu => (congrFun htimers u).trans (Function.update_of_ne hu ..)
    have hmem : a ∈ hidden s' := ⟨t, tm, hself, hw⟩
    rcases eq_or_ne b a with rfl | hb
    · exact (seen_of_mem hmem).trans (seen_of_none hdead).symm
    · have hsame : s'.heap b = s.heap b := by rw [hheap, Function.update_of_ne hb]
      refine seen_congr ?_ hsame
      constructor
      · rintro ⟨u, x, hx, hub⟩
        have hu : u ≠ t := by
          rintro rfl
          obtain rfl := Option.some.inj (hself.symm.trans hx)
          exact hb (Option.some.inj (hub.symm.trans hw))
        exact ⟨u, x, (hother u hu).symm.trans hx, hub⟩
      · rintro ⟨u, x, hx, hub⟩
        have hu : u ≠ t := by
          rintro rfl
          exact absurd (hnew.symm.trans hx).symm (Option.some_ne_none x)
        exact ⟨u, x, (hother u hu).trans hx, hub⟩

/-- A timer that is destroyed takes its placeholder with it. -/
theorem asked_timerDestroy (hp : Placed s) (hl : Listed s) (t : Addr) :
    asked (pdTimerDestroy s t) = asked s := by
  cases htm : s.sys.timers t with
  | none =>
      have hsame : pdTimerDestroy s t = s := by rw [pdTimerDestroy, htm]
      rw [hsame]
  | some tm =>
      obtain ⟨a, ha, hx⟩ := hp t tm htm
      have hgone := timerDestroy_spec htm ha (hl.ne_null a (by rw [hx]; rfl))
      generalize pdTimerDestroy s t = s' at hgone ⊢
      have hmem : a ∈ hidden s := ⟨t, tm, htm, ha⟩
      funext b
      rcases eq_or_ne b a with rfl | hb
      · have hnone : s'.heap b = none := by rw [hgone.heap_eq, Function.update_self]
        exact (seen_of_none hnone).trans (seen_of_mem hmem).symm
      · have hsame : s'.heap b = s.heap b := by rw [hgone.heap_eq, Function.update_of_ne hb]
        refine seen_congr ?_ hsame
        constructor
        · rintro ⟨u, y, hy, hub⟩
          have hu : u ≠ t := by
            rintro rfl
            exact absurd (hgone.timer_self.symm.trans hy).symm (Option.some_ne_none y)
          exact ⟨u, y, (hgone.timer_ne u hu).symm.trans hy, hub⟩
        · rintro ⟨u, y, hy, hub⟩
          have hu : u ≠ t := by
            rintro rfl
            obtain rfl := Option.some.inj (htm.symm.trans hy)
            exact hb (Option.some.inj (hub.symm.trans ha))
          exact ⟨u, y, (hgone.timer_ne u hu).trans hy, hub⟩

/-- The timers do not show. -/
theorem asked_quiet {s s' : TimerWorld} (h : Kept s) {act : TimerAction}
    (hs' : performTimer s act = some s') (hl : shown s act = none) :
    asked s'.world = asked s.world := by
  cases act with
  | call c => exact absurd hl (Option.some_ne_none _)
  | timerCreate timeoutMs intervalMs callback userData env =>
      obtain rfl := Option.some.inj hs'
      exact asked_timerCreate s.world timeoutMs intervalMs callback userData env
  | timerStart t refused =>
      obtain rfl := Option.some.inj hs'
      exact (retimed_start ..).asked_eq
  | timerStop t =>
      obtain rfl := Option.some.inj hs'
      exact (retimed_stop ..).asked_eq
  | timerDestroy t =>
      obtain rfl := Option.some.inj hs'
      exact asked_timerDestroy h.placed h.listed t
  | report t =>
      obtain ⟨n, -, rfl⟩ := Option.map_eq_some_iff.1 hs'
      exact (retimed_report ..).asked_eq
  | fire t refused =>
      obtain ⟨-, hs'⟩ := Option.ite_none_right_eq_some.1 hs'
      obtain rfl := Option.some.inj hs'
      exact (retimed_rearm ..).asked_eq
  | closeFd fd =>
      obtain rfl := Option.some.inj hs'
      rfl
  | openFd fd =>
      obtain rfl := Option.some.inj hs'
      rfl

/-- What a run has brought about in which the user keeps to the rules. -/
theorem Tame.sound {s : TimerWorld} (h : timerRuns.Reach Tame s) : Kept s ∧ Sound s.world :=
  sound_of_reach (h.mono fun _ _ hok => ⟨hok.prompt, hok.orderly⟩)

/-- A kqueue loop does what its replies say. -/
theorem refines_watching :
    timerRuns.Refines Tame shown watching fun s => asked s.world where
  init := by
    rintro s ⟨⟨isOpen, hs⟩, -⟩
    funext a
    rw [hs]
    exact seen_of_none rfl
  quiet := fun _ _ _ hr _ hnext hl => asked_quiet (Tame.sound hr).1 hnext hl
  visible := by
    intro s act s' l hr hok hnext hl
    obtain ⟨hkept, -⟩ := Tame.sound hr
    cases act with
    | call c =>
        obtain rfl := Option.some.inj hnext
        obtain rfl := Option.some.inj hl
        have hH := hidden_exec hkept.attached c
        show Settles (s.world.seen (hidden s.world)) _ ((s.world.exec kqueueOps c).1.seen
          (hidden (s.world.exec kqueueOps c).1))
        rw [hH]
        refine seen_settles kqueueOps (hok.live c · rfl) hok.prompt fun a ha => ?_
        obtain ⟨t, ht⟩ := hkept.placed.live_of_hidden ha
        rw [ht]
        rfl
    | _ => exact absurd hl.symm (Option.some_ne_none l)

/-- The agreement of filters and masks, in terms of what is asked. -/
theorem Sound.awaits (h : Sound s) (hp : Placed s) : Awaits s where
  active := by
    intro a i hi hact
    obtain ⟨-, w, hw, rfl⟩ := seen_eq_some.1 hi
    exact (h.filtered.registered a w hw hact).2
  filter := by
    intro fd f n hn
    obtain ⟨w, hw, hact, rfl⟩ := h.attended.owner fd f n hn
    have hf := (h.filtered.registered n.udata w hw hact).2 f
    exact ⟨w.interest, seen_eq_some.2 ⟨active_notMem hp hw hact, w, hw, rfl⟩, hact, rfl,
      hf.symm.trans hn⟩

theorem Tame.awaits {s : TimerWorld} (h : timerRuns.Reach Tame s) : Awaits s.world := by
  obtain ⟨hkept, hs⟩ := Tame.sound h
  exact hs.awaits hkept.placed

/-- **Every tame run of a kqueue loop shows what the specification of its watchers allows, and
after it the kernel waits for what is asked.** -/
theorem kqueue_shows_watching {s : TimerWorld} {os : List Exchange}
    (h : timerRuns.Shows Tame shown os s) :
    watching.Traces os (asked s.world) ∧ Awaits s.world :=
  ⟨refines_watching.shows h, Tame.awaits h.reach⟩

/-- `pd_watcher_create` for reads on descriptor 5, which nothing refuses. -/
def createReader : Call KqueueEnv := .create 5 .read (some (.user 1)) NULL ⟨some 100, true, answers⟩

/-- A watcher on descriptor 5, and a started timer of 50 ms that repeats every 20 ms. -/
def watcherAndTicker : KqueueWorld :=
  (pdTimerStart (pdTimerCreate (fiveOpen.exec kqueueOps createReader).1 50 20
    (some (.user 2)) NULL ⟨some 300, true, some 200, true⟩).1 300 none).1

/-- The same, with the first expiration on its way. -/
def watcherAndReport : TimerWorld := ⟨reportTimer watcherAndTicker 300 ⟨true, 50⟩, [300]⟩

/-- The creation of the watcher is all that has shown. -/
theorem watcherAndTicker_shown :
    timerRuns.Shows Tame shown [(.create 5 .read, .handle (some 100))] ⟨watcherAndTicker, []⟩ := by
  have h₀ : timerRuns.Shows Tame shown [] ⟨fiveOpen, []⟩ := .init ⟨⟨_, rfl⟩, rfl⟩
  have hcreate : Tame ⟨fiveOpen, []⟩ (.call createReader) :=
    { prompt := fun a ha => absurd ha.symm (Option.some_ne_none a)
      orderly := ⟨fun _ w _ hw => absurd hw.symm (Option.some_ne_none w), fun _ _ => rfl⟩
      live := by
        intro c a hc ha
        obtain rfl := TimerAction.call.inj hc
        exact absurd ha.symm (Option.some_ne_none a) }
  have h₁ := h₀.step hcreate rfl
  have h₂ := h₁.step (a := TimerAction.timerCreate 50 20 (some (.user 2)) NULL
    ⟨some 300, true, some 200, true⟩)
      ⟨trivial, trivial, fun _ _ hc => TimerAction.noConfusion hc⟩ rfl
  exact h₂.step (a := TimerAction.timerStart 300 none)
    ⟨Or.inl rfl, trivial, fun _ _ hc => TimerAction.noConfusion hc⟩ rfl

theorem watcherAndReport_shown :
    timerRuns.Shows Tame shown [(.create 5 .read, .handle (some 100))] watcherAndReport := by
  have hknote : watcherAndTicker.sys.kernel.timers 300 = some ⟨true, 50⟩ := by decide
  have hreport : performTimer ⟨watcherAndTicker, []⟩ (.report 300) = some watcherAndReport := by
    rw [performTimer, hknote]
    rfl
  exact watcherAndTicker_shown.step (a := TimerAction.report 300)
    ⟨trivial, trivial, fun _ _ hc => TimerAction.noConfusion hc⟩ hreport

theorem watcherAndReport_shows :
    watching.Traces [(.create 5 .read, .handle (some 100))] (asked watcherAndReport.world) ∧
      Awaits watcherAndReport.world :=
  kqueue_shows_watching watcherAndReport_shown

end
end Kqueue
end PollDancer
