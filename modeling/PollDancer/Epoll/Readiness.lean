/-
# Epoll waits for what is asked

An epoll loop refines the specification of its watchers (`watching`), in orderly runs with
timers: what the user's watchers remember changes as the replies say, and the timers, which
have watchers of their own, do not show (`refines_watching`).  And the kernel waits for
exactly what is asked (`Awaits`): the members of the interest set are the eventfd, the
timerfds of the timers that are active, and the descriptors of the active watchers, each with
the mask that its user has asked for last.  So what an `epoll_wait` may report is a function of
the requests and replies so far, and of which timers are active.

The rules that the user keeps to (`Tame`) are those of `Orderly`: no watcher is created on a
descriptor that another one names, a descriptor is closed only when no watcher names it, and
the watchers inside the timers are left alone; and calls are made on live watchers.  `Polite`
adds that the eventfd, which is the loop's, is not closed.
-/
import PollDancer.Epoll.Members

namespace PollDancer
namespace Epoll

open Library

/-- The watchers inside the timers. -/
def hidden (s : EpollWorld) : Set Addr :=
  {a | ∃ t tm, s.sys.timers t = some tm ∧ tm.watcher = some a}

/-- What the user has asked for, as the watchers remember it. -/
noncomputable def asked (s : EpollWorld) : Interests := s.seen (hidden s)

/-- The user sees the watcher calls and the replies to them. -/
def shown (s : EpollWorld) : TimerAction → Option Exchange
  | .watcher c => some (c.request, (s.exec epollOps c).2)
  | _ => none

/-- The user keeps to the rules, and makes calls on live watchers. -/
def Tame (s : EpollWorld) (act : TimerAction) : Prop :=
  Orderly s act ∧ ∀ c a, act = .watcher c → c.target = some a → (s.heap a).isSome

/-- The user keeps to the rules, and does not close the eventfd. -/
def Polite (eventfd : ℤ) (s : EpollWorld) (act : TimerAction) : Prop :=
  Tame s act ∧ act ≠ .closeFd eventfd

/-- The kernel waits for what is asked, on the eventfd, and for the active timers, and for
nothing else. -/
structure Awaits (eventfd : ℤ) (s : EpollWorld) : Prop where
  listens : s.sys.kernel.interest eventfd = some ⟨EPOLLIN, NULL⟩
  active : ∀ a i, asked s a = some i → i.active = true →
    s.sys.kernel.interest i.fd = some ⟨eventsToEpoll i.events, a⟩
  timer : ∀ t tm, s.sys.timers t = some tm → ∃ a, tm.watcher = some a ∧
    s.sys.kernel.interest (timerfd s t) = if tm.active then some ⟨EPOLLIN, a⟩ else none
  member : ∀ fd ev, s.sys.kernel.interest fd = some ev →
    (fd = eventfd ∧ ev.ptr = NULL) ∨
    (∃ t tm, s.sys.timers t = some tm ∧ tm.active = true ∧ tm.watcher = some ev.ptr ∧
      timerfd s t = fd) ∨
    ∃ i, asked s ev.ptr = some i ∧ i.active = true ∧ i.fd = fd ∧ ev.events = eventsToEpoll i.events

section

variable {eventfd : ℤ} {s s' : EpollWorld} {t a : Addr} {tm : PdTimer ℤ}
  {w : PdWatcher EpollWatcherData}

theorem hidden_congr (h : s'.sys.timers = s.sys.timers) : hidden s' = hidden s := by
  rw [hidden, h]
  rfl

/-- A timer that starts or stops keeps its watcher. -/
theorem Keeps.hidden_eq (k : Keeps eventfd s s' t a tm) (htm : s.sys.timers t = some tm) :
    hidden s' = hidden s := by
  obtain ⟨tm', htm', hsame⟩ := k.timer
  ext b
  constructor
  · rintro ⟨u, x, hx, hb⟩
    rcases eq_or_ne u t with rfl | hne
    · obtain rfl := Option.some.inj (htm'.symm.trans hx)
      exact ⟨u, tm, htm, hsame.watcher_eq.symm.trans hb⟩
    · exact ⟨u, x, (k.timer_ne u hne).symm.trans hx, hb⟩
  · rintro ⟨u, x, hx, hb⟩
    rcases eq_or_ne u t with rfl | hne
    · obtain rfl := Option.some.inj (htm.symm.trans hx)
      exact ⟨u, tm', htm', hsame.watcher_eq.trans hb⟩
    · exact ⟨u, x, (k.timer_ne u hne).trans hx, hb⟩

theorem Keeps.asked_eq (k : Keeps eventfd s s' t a tm) (htm : s.sys.timers t = some tm)
    (ha : tm.watcher = some a) : asked s' = asked s := by
  have hH := k.hidden_eq htm
  funext b
  rcases eq_or_ne b a with rfl | hb
  · have hmem : b ∈ hidden s := ⟨t, tm, htm, ha⟩
    exact (seen_of_mem (hH ▸ hmem)).trans (seen_of_mem hmem).symm
  · exact seen_congr (by rw [hH]) (k.heap_ne b hb)

/-- A timer that is destroyed takes its watcher with it. -/
theorem asked_timerDestroy (h : Sound eventfd s) (ht : TimersOwn s)
    (htm : s.sys.timers t = some tm) (refused : Option Errno) :
    asked (pdTimerDestroy s t refused) = asked s := by
  obtain ⟨a, w, ha, -⟩ := ht.owns t tm htm
  obtain ⟨-, -, hheap⟩ := timerDestroy_sound h ht htm ha refused
  obtain ⟨hdead, hself, htimers⟩ := timerDestroy_timers h ht htm ha refused
  funext b
  rcases eq_or_ne b a with rfl | hb
  · have hmem : b ∈ hidden s := ⟨t, tm, htm, ha⟩
    exact (seen_of_none hdead).trans (seen_of_mem hmem).symm
  · refine seen_congr ?_ (hheap b hb)
    constructor
    · rintro ⟨u, x, hx, hub⟩
      have hu : u ≠ t := by
        rintro rfl
        exact nomatch hself.symm.trans hx
      exact ⟨u, x, (htimers u hu).symm.trans hx, hub⟩
    · rintro ⟨u, x, hx, hub⟩
      have hu : u ≠ t := by
        rintro rfl
        obtain rfl := Option.some.inj (htm.symm.trans hx)
        exact hb (Option.some.inj (hub.symm.trans ha))
      exact ⟨u, x, (htimers u hu).trans hx, hub⟩

/-- A timer that is created brings a watcher that nobody sees. -/
theorem asked_timerCreate (h : Sound eventfd s) (timeoutMs intervalMs : UInt64)
    (callback : Option Callback) (userData : Addr) (env : TimerEnv) :
    asked (pdTimerCreate s timeoutMs intervalMs callback userData env).1 = asked s := by
  have hspec := timerCreate_spec h timeoutMs intervalMs callback userData env
  generalize (pdTimerCreate s timeoutMs intervalMs callback userData env).1 = s' at hspec ⊢
  funext b
  rcases hspec with ⟨htimers, hheap⟩ | ⟨t, a, tm, x, hm⟩
  · exact seen_congr (by rw [hidden_congr htimers]) (congrFun hheap b)
  · have hnew : a ∈ hidden s' := ⟨t, tm, hm.timer_self, hm.watcher_eq⟩
    rcases eq_or_ne b a with rfl | hb
    · exact (seen_of_mem hnew).trans (seen_of_none hm.watcher_new).symm
    · refine seen_congr ?_ (hm.heap_ne hb)
      constructor
      · rintro ⟨u, y, hy, hub⟩
        have hu : u ≠ t := by
          rintro rfl
          obtain rfl := Option.some.inj (hm.timer_self.symm.trans hy)
          exact hb (Option.some.inj (hub.symm.trans hm.watcher_eq))
        exact ⟨u, y, (hm.timer_ne hu).symm.trans hy, hub⟩
      · rintro ⟨u, y, hy, hub⟩
        have hu : u ≠ t := by
          rintro rfl
          exact absurd (hm.timer_new.symm.trans hy).symm (Option.some_ne_none y)
        exact ⟨u, y, (hm.timer_ne hu).trans hy, hub⟩

/-- The timers do not show. -/
theorem asked_timerCall (act : TimerAction) (hact : act.IsTimerCall) (h : Sound eventfd s)
    (ht : TimersOwn s) : asked (performTimer s act) = asked s := by
  cases act with
  | watcher => exact hact.elim
  | closeFd => exact hact.elim
  | openFd => exact hact.elim
  | timerCreate timeoutMs intervalMs callback userData env =>
      exact asked_timerCreate h timeoutMs intervalMs callback userData env
  | timerStart t refused env =>
      cases htm : s.sys.timers t with
      | none => rw [performTimer, pdTimerStart, htm]
      | some tm =>
          obtain ⟨a, w, ha, -⟩ := ht.owns t tm htm
          exact (keeps_timerStart h ht htm ha refused env).asked_eq htm ha
  | timerStop t refused =>
      cases htm : s.sys.timers t with
      | none => rw [performTimer, pdTimerStop, htm]
      | some tm =>
          obtain ⟨a, w, ha, -⟩ := ht.owns t tm htm
          exact (keeps_timerStop h ht htm ha refused).asked_eq htm ha
  | timerDestroy t refused =>
      cases htm : s.sys.timers t with
      | none => rw [performTimer, pdTimerDestroy, htm]
      | some tm => exact asked_timerDestroy h ht htm refused

/-- The watchers inside the timers are live. -/
theorem TimersOwn.live_of_hidden (ht : TimersOwn s) (ha : a ∈ hidden s) : (s.heap a).isSome := by
  obtain ⟨t, tm, htm, hb⟩ := ha
  obtain ⟨b, w, hb', -, hw, -⟩ := ht.owns t tm htm
  obtain rfl := Option.some.inj (hb.symm.trans hb')
  rw [hw]
  rfl

/-- The calls on watchers leave the timers alone. -/
theorem exec_timers (s : EpollWorld) (c : Call EpollEnv) :
    (s.exec epollOps c).1.sys.timers = s.sys.timers :=
  (World.exec_keeps (epollOps_sameTimers s.sys) c ⟨rfl, rfl, rfl⟩).timers

/-- A user's call changes what is asked for as its reply says. -/
theorem settles_call {c : Call EpollEnv} (ht : TimersOwn s) (hok : Tame s (.watcher c)) :
    Settles (asked s) (c.request, (s.exec epollOps c).2) (asked (s.exec epollOps c).1) := by
  obtain ⟨hord, hlive⟩ := hok
  have hH : hidden (s.exec epollOps c).1 = hidden s := hidden_congr (exec_timers s c)
  rw [asked, asked, hH]
  refine seen_settles epollOps (hlive c · rfl) (fun a ha => ?_) fun a ha => ht.live_of_hidden ha
  rintro ⟨t, tm, htm, hown⟩
  -- an orderly call is not on a timer's watcher
  cases c with
  | create => exact nomatch ha
  | createForHandle => exact nomatch ha
  | update => exact hord a ha t tm htm hown
  | stop => exact hord a ha t tm htm hown
  | start => exact hord a ha t tm htm hown
  | destroy => exact hord a ha t tm htm hown

/-- What an orderly run has brought about, when its calls are on live watchers. -/
theorem Tame.sound (h : (timerRuns eventfd).Reach Tame s) : Sound eventfd s ∧ TimersOwn s :=
  sound_of_reach (h.mono fun _ _ hok => hok.1)

/-- An epoll loop does what its replies say. -/
theorem refines_watching (eventfd : ℤ) :
    (timerRuns eventfd).Refines Tame shown watching asked where
  init := by
    rintro s ⟨isOpen, rfl⟩
    funext a
    exact seen_of_none rfl
  quiet := by
    intro s act s' hr hok hnext hl
    obtain rfl := Option.some.inj hnext
    obtain ⟨h, ht⟩ := Tame.sound hr
    cases act with
    | watcher c => exact nomatch hl
    | closeFd fd => rfl
    | openFd fd => rfl
    | timerCreate timeoutMs intervalMs callback userData env =>
        exact asked_timerCall (.timerCreate ..) trivial h ht
    | timerStart t refused env => exact asked_timerCall (.timerStart ..) trivial h ht
    | timerStop t refused => exact asked_timerCall (.timerStop ..) trivial h ht
    | timerDestroy t refused => exact asked_timerCall (.timerDestroy ..) trivial h ht
  visible := by
    intro s act s' l hr hok hnext hl
    obtain rfl := Option.some.inj hnext
    obtain ⟨h, ht⟩ := Tame.sound hr
    cases act with
    | watcher c =>
        obtain rfl := Option.some.inj hl
        exact settles_call ht hok
    | _ => exact nomatch hl

/-- An active watcher of the user is a member with its mask. -/
theorem Sound.interest_of_asked (h : Sound eventfd s) {i : Interest} (hi : asked s a = some i)
    (hact : i.active = true) : s.sys.kernel.interest i.fd = some ⟨eventsToEpoll i.events, a⟩ := by
  obtain ⟨-, w, hw, rfl⟩ := seen_eq_some.1 hi
  exact (h.agree.registered a w hw hact).2.1

/-- A member that is neither the eventfd nor a timer's is an active watcher's of the user. -/
theorem Sound.asked_of_interest (h : Sound eventfd s) {fd : ℤ} {ev : EpollEvent}
    (hev : s.sys.kernel.interest fd = some ev) (hnull : ev.ptr ≠ NULL) (hH : ev.ptr ∉ hidden s) :
    ∃ i, asked s ev.ptr = some i ∧ i.active = true ∧ i.fd = fd ∧
      ev.events = eventsToEpoll i.events := by
  obtain ⟨w, hw, hact, hfd, hmask⟩ := (h.agreement.kernel_iff fd ev).1 ⟨hev, hnull⟩
  exact ⟨w.interest, seen_eq_some.2 ⟨hH, w, hw, rfl⟩, hact, hfd, hmask⟩

/-- What a polite run has brought about besides. -/
theorem Polite.members (h : (timerRuns eventfd).Reach (Polite eventfd) s) :
    Listens eventfd (view s) ∧ InStep s := by
  have hall : (Sound eventfd s ∧ TimersOwn s) ∧ Listens eventfd (view s) ∧ InStep s := by
    refine h.invariant
      (I := fun s => (Sound eventfd s ∧ TimersOwn s) ∧ Listens eventfd (view s) ∧ InStep s) ?_ ?_
    · rintro s ⟨isOpen, rfl⟩
      refine ⟨sound_of_reach (.init ⟨isOpen, rfl⟩), ⟨?_, ?_, ?_⟩, ?_⟩
      · exact (create_isOpen eventfd isOpen eventfd).trans (if_pos rfl)
      · exact (create_interest eventfd isOpen eventfd).trans (if_pos rfl)
      · exact fun a w hw => absurd hw.symm (Option.some_ne_none w)
      · exact fun t tm a htm => absurd htm.symm (Option.some_ne_none tm)
    · rintro s act s' ⟨⟨hs, ht⟩, hl, hi⟩ ⟨⟨hord, -⟩, hne⟩ hnext
      obtain rfl := Option.some.inj hnext
      exact ⟨sound_perform hs ht hord, hl.perform hs ht hne, hi.perform hs ht hord⟩
  exact hall.2

/-- The agreement of the three tables, in terms of what is asked and of the timers. -/
theorem Sound.awaits (h : Sound eventfd s) (ht : TimersOwn s) (hl : Listens eventfd (view s))
    (hi : InStep s) : Awaits eventfd s where
  listens := hl.member
  active := fun _ _ hasked hact => h.interest_of_asked hasked hact
  timer := by
    intro t tm htm
    obtain ⟨a, w, ha, -, hw, hp⟩ := ht.owns t tm htm
    refine ⟨a, ha, ?_⟩
    obtain ⟨i, hwi, hact, hread⟩ := hi t tm a htm ha
    obtain rfl := Option.some.inj ((interests_eq_some hw).symm.trans hwi)
    have hfd : timerfd s t = w.fd := by rw [timerfd_of_some htm, hp, Option.getD_some]
    have hevents : w.events = .read := hread
    rw [hfd]
    cases hyes : tm.active with
    | true =>
        refine (h.agree.registered a w hw (hact.trans hyes)).2.1.trans ?_
        rw [if_pos rfl, membership, hevents]
        rfl
    | false =>
        rw [if_neg Bool.false_ne_true]
        cases hev : s.sys.kernel.interest w.fd with
        | none => rfl
        | some ev =>
            -- a member would be the eventfd's, or an active watcher's
            by_cases hnull : ev.ptr = NULL
            · exact absurd (h.agree.null_only w.fd ev hev hnull) (hl.unnamed a w hw)
            · exact absurd ⟨ev, hev, hnull⟩ (h.not_taken_of_inactive hw (hact.trans hyes))
  member := by
    intro fd ev hev
    by_cases hnull : ev.ptr = NULL
    · exact .inl ⟨h.agree.null_only fd ev hev hnull, hnull⟩
    · by_cases hH : ev.ptr ∈ hidden s
      · obtain ⟨t, tm, htm, hwatch⟩ := hH
        obtain ⟨w, hw, hact, hfd, -⟩ := (h.agreement.kernel_iff fd ev).1 ⟨hev, hnull⟩
        obtain ⟨b, x, hb, -, hx, hp⟩ := ht.owns t tm htm
        obtain rfl := Option.some.inj (hwatch.symm.trans hb)
        obtain rfl := Option.some.inj (hw.symm.trans hx)
        obtain ⟨i, hwi, hsame, -⟩ := hi t tm ev.ptr htm hwatch
        obtain rfl := Option.some.inj ((interests_eq_some hw).symm.trans hwi)
        refine .inr (.inl ⟨t, tm, htm, hsame.symm.trans hact, hwatch, ?_⟩)
        rw [timerfd_of_some htm, hp, Option.getD_some, hfd]
      · exact .inr (.inr (h.asked_of_interest hev hnull hH))

/-- **Every polite run of an epoll loop shows what the specification of its watchers allows,
and after it the kernel waits for what is asked, on the eventfd, and for the active timers.** -/
theorem epoll_shows_watching {os : List Exchange}
    (h : (timerRuns eventfd).Shows (Polite eventfd) shown os s) :
    watching.Traces os (asked s) ∧ Awaits eventfd s := by
  obtain ⟨hl, hi⟩ := Polite.members h.reach
  have htame := h.mono fun _ _ hok => hok.1
  obtain ⟨hs, ht⟩ := Tame.sound htame.reach
  exact ⟨(refines_watching eventfd).shows htame, hs.awaits ht hl hi⟩

/-- After a watcher and a timer are created and the timer is started, the creation of the
watcher is all that has shown. -/
theorem watcherAndTimer_shown : (timerRuns 3).Shows (Polite 3) shown
    [(.create 5 .read, .handle (some 100))] watcherAndTimer := by
  have h₀ : (timerRuns 3).Shows (Polite 3) shown [] (epollLoopCreate 3 fun fd => fd == 5) :=
    .init ⟨_, rfl⟩
  have hcreate : Tame (epollLoopCreate 3 fun fd => fd == 5) (.watcher (createCall 100 5)) := by
    refine ⟨fun _ w hw => absurd hw.symm (Option.some_ne_none w), fun c a hc ha => ?_⟩
    obtain rfl := TimerAction.watcher.inj hc
    exact absurd ha.symm (Option.some_ne_none a)
  have h₁ := h₀.step ⟨hcreate, fun hc => nomatch hc⟩ rfl
  have h₂ := h₁.step (a := TimerAction.timerCreate 50 0 (some (.user 2)) NULL
    ⟨some 300, some 7, true, granted 200⟩)
    ⟨⟨trivial, fun _ _ hc => nomatch hc⟩, fun hc => nomatch hc⟩ rfl
  exact h₂.step (a := TimerAction.timerStart 300 none (granted 200).backend)
    ⟨⟨trivial, fun _ _ hc => nomatch hc⟩, fun hc => nomatch hc⟩ rfl

theorem watcherAndTimer_shows :
    watching.Traces [(.create 5 .read, .handle (some 100))] (asked watcherAndTimer) ∧
      Awaits 3 watcherAndTimer :=
  epoll_shows_watching watcherAndTimer_shown

end
end Epoll
end PollDancer
