/-
# What an `epoll_wait` delivers

The runs of an epoll loop with its rounds: between calls of the program and of its timers the
loop waits, and dispatches what `epoll_wait` returns, which are events of different members,
within their masks (`Reported`).  What a callback does is a list of watcher calls, answers of
the system included; timer calls are made between rounds only.  When the callbacks stop and
destroy no watcher but their own, and the program keeps to the rules of `Tame` in them and
elsewhere, every round of every run is as it should be (`epoll_rounds_deliver`): nothing is
read that is gone, the callbacks of the reported watchers are invoked once each and in order,
and each is told only what its user has asked for, errors and hang-ups apart.
-/
import PollDancer.Delivery
import PollDancer.Epoll.Masks
import PollDancer.Epoll.Readiness
import PollDancer.LoopRun

namespace PollDancer
namespace Epoll

open Library

/-- The events are of different descriptors, and each is for a member, with events of its mask
or the errors that are always reported. -/
structure Reported {β : Type} (s : EpollWorld) (reports : List (ℤ × EpollEvent × β)) : Prop where
  distinct : (reports.map Prod.fst).Nodup
  member : ∀ r ∈ reports, ∃ m, s.sys.kernel.interest r.1 = some m ∧ m.ptr = r.2.1.ptr ∧
    r.2.1.events &&& (m.events ||| EPOLLERR ||| EPOLLHUP) = r.2.1.events

/-- What happens to a loop: actions of the program, and rounds of `epoll_loop_run`. -/
inductive LoopAction
  | act (a : TimerAction)
  | round (reports : List (ℤ × EpollEvent × List (Call EpollEnv)))

/-- The state after an action or a round. -/
def performLoop (s : EpollWorld) : LoopAction → EpollWorld
  | .act a => performTimer s a
  | .round reports => (epollLoopRun s (.ok (reports.map Prod.snd))).world

/-- The runs of an epoll loop with timers and rounds. -/
def loopRuns (eventfd : ℤ) : Machine EpollWorld LoopAction :=
  Machine.ofFun (fun s => ∃ isOpen, s = epollLoopCreate eventfd isOpen)
    fun s a => some (performLoop s a)

/-- The rules for the program, and what the kernel reports.  The calls of the program keep to
`Tame`, in callbacks too, and a callback ends no watcher but its own. -/
def Rules (s : EpollWorld) : LoopAction → Prop
  | .act a => Tame s a
  | .round reports => Reported s reports ∧ OwnOnly epollDispatcher (reports.map Prod.snd) ∧
      BatchKeeps epollOps epollDispatcher (fun s c => Tame s (.watcher c)) s
        (reports.map Prod.snd)

section

variable {eventfd : ℤ} {s : EpollWorld} {reports : List (ℤ × EpollEvent × List (Call EpollEnv))}

theorem decode_watcher {e : EpollEvent} {w : Addr} {events : PdEvent}
    (h : epollDispatcher.decode e = .watcher w events) :
    e.ptr ≠ NULL ∧ e.ptr = w ∧ epollToEvents e.events = events := by
  unfold epollDispatcher at h
  dsimp only at h
  split_ifs at h with hnull
  obtain ⟨hw, hevents⟩ := Ready.watcher.inj h
  exact ⟨hnull, hw, hevents⟩

/-- A reported watcher is active, and on the descriptor that is reported. -/
theorem Sound.reported (h : Sound eventfd s) (hr : Reported s reports)
    {r : ℤ × EpollEvent × List (Call EpollEnv)} (hmem : r ∈ reports) {w : Addr} {events : PdEvent}
    (hw : epollDispatcher.decode r.2.1 = .watcher w events) :
    ∃ x, s.heap w = some x ∧ x.active = true ∧ x.fd = r.1 ∧
      r.2.1.events &&& (eventsToEpoll x.events ||| EPOLLERR ||| EPOLLHUP) = r.2.1.events := by
  obtain ⟨hnull, hptr, -⟩ := decode_watcher hw
  obtain ⟨m, hm, hmptr, hcover⟩ := hr.member r hmem
  obtain ⟨x, hx, hact, hfd, hmask⟩ :=
    (h.agreement.kernel_iff r.1 m).1 ⟨hm, fun heq => hnull (hmptr.symm.trans heq)⟩
  rw [hmptr, hptr] at hx
  exact ⟨x, hx, hact, hfd, hmask ▸ hcover⟩

theorem Sound.allActive (h : Sound eventfd s) (hr : Reported s reports) :
    AllActive epollDispatcher s (reports.map Prod.snd) := by
  intro p hp w events hw
  obtain ⟨r, hmem, rfl⟩ := List.mem_map.1 hp
  obtain ⟨x, hx, hact, -⟩ := h.reported hr hmem hw
  exact ⟨x, hx, hact⟩

/-- One watcher has one descriptor, and a descriptor has one event. -/
theorem Sound.considerate (h : Sound eventfd s) (hr : Reported s reports)
    (hown : OwnOnly epollDispatcher (reports.map Prod.snd)) :
    Considerate epollDispatcher (reports.map Prod.snd) := by
  refine hown.considerate ?_
  rw [List.pairwise_map]
  refine (List.pairwise_map.1 hr.distinct).imp_of_mem ?_
  intro r r' hmem hmem' hne w events events' hw hw'
  obtain ⟨x, hx, -, hfd, -⟩ := h.reported hr hmem hw
  obtain ⟨y, hy, -, hfd', -⟩ := h.reported hr hmem' hw'
  obtain rfl := Option.some.inj (hx.symm.trans hy)
  exact absurd (hfd.symm.trans hfd') hne

/-- A run without rounds. -/
theorem reach_acts (h : (timerRuns eventfd).Reach Tame s) : (loopRuns eventfd).Reach Rules s := by
  induction h with
  | init hs => exact .init hs
  | @step s s' a _ hok hnext ih =>
      exact ih.step (a := LoopAction.act a) hok (congrArg some (Option.some.inj hnext))

/-- A run with rounds is a run without, whose calls were made in callbacks. -/
theorem reach_loopRuns (h : (loopRuns eventfd).Reach Rules s) :
    (timerRuns eventfd).Reach Tame s := by
  induction h with
  | init hs => exact .init hs
  | @step s s' a _ hok hnext ih =>
      obtain rfl := Option.some.inj hnext
      cases a with
      | act a => exact ih.step hok rfl
      | round reports =>
          obtain ⟨hr, hown, ht⟩ := hok
          obtain ⟨hsound, -⟩ := Tame.sound ih
          exact ht.invariant epollOps (I := fun s _ => (timerRuns eventfd).Reach Tame s)
            (hsound.considerate hr hown) (hsound.allActive hr) ih (fun s _ _ hs => hs)
            fun s _ c hs hc => hs.step (a := TimerAction.watcher c) hc rfl

/-- **Every round of every run that keeps to the rules is safe, invokes the callbacks of the
reported watchers once each and in order, and tells each only what its user has asked for.** -/
theorem epoll_rounds_deliver (h : (loopRuns eventfd).Reach Rules s)
    (hok : Rules s (.round reports)) :
    let trace := (epollLoopRun s (.ok (reports.map Prod.snd))).trace
    Safe s [] trace ∧
      invoked trace = reports.filterMap (fun r => delivery epollDispatcher s r.2.1) ∧
      ∀ w events, (w, events) ∈ invoked trace → w ∉ hidden s → Asks (asked s) w events := by
  obtain ⟨hr, hown, -⟩ := hok
  obtain ⟨hsound, -⟩ := Tame.sound (reach_loopRuns h)
  obtain ⟨hsafe, hinvoked⟩ := dispatchBatch_delivers epollOps (hsound.considerate hr hown)
    (hsound.allActive hr)
  rw [List.filterMap_map] at hinvoked
  refine ⟨hsafe, hinvoked, fun w events hmem hseen => ?_⟩
  rw [show invoked (epollLoopRun s (.ok (reports.map Prod.snd))).trace = _ from hinvoked] at hmem
  obtain ⟨r, hr', hdel⟩ := List.mem_filterMap.1 hmem
  have hdec := decode_of_delivery hdel
  obtain ⟨x, hx, hact, -, hcover⟩ := hsound.reported hr hr' hdec
  obtain ⟨-, -, hevents⟩ := decode_watcher hdec
  refine ⟨x.interest, seen_eq_some.2 ⟨hseen, x, hx, rfl⟩, hact, fun bit hbit hhas => ?_⟩
  exact reported_asked hcover hbit (hevents ▸ hhas)

/-- A loop with a watcher for reads on descriptor 5. -/
def readerOnFive : EpollWorld :=
  ((epollLoopCreate 3 fun fd => fd == 5).exec epollOps (createCall 100 5)).1

/-- The descriptor is readable, and the callback of the watcher destroys it. -/
def fiveReadable : List (ℤ × EpollEvent × List (Call EpollEnv)) :=
  [(5, ⟨EPOLLIN, 100⟩, [.destroy 100])]

theorem fiveReadable_delivered :
    Safe readerOnFive [] (epollLoopRun readerOnFive (.ok (fiveReadable.map Prod.snd))).trace ∧
      Asks (asked readerOnFive) 100 .read := by
  have h₀ : (loopRuns 3).Reach Rules (epollLoopCreate 3 fun fd => fd == 5) := .init ⟨_, rfl⟩
  have hcreate : Tame (epollLoopCreate 3 fun fd => fd == 5) (.watcher (createCall 100 5)) := by
    refine ⟨fun _ w hw => absurd hw.symm (Option.some_ne_none w), fun c a hc ha => ?_⟩
    obtain rfl := TimerAction.watcher.inj hc
    exact absurd ha.symm (Option.some_ne_none a)
  have h₁ : (loopRuns 3).Reach Rules readerOnFive :=
    h₀.step (a := LoopAction.act (.watcher (createCall 100 5))) hcreate rfl
  have hnone : ∀ t tm, readerOnFive.sys.timers t ≠ some tm :=
    fun t tm htm => Option.some_ne_none tm htm.symm
  have hdestroy : Tame readerOnFive (.watcher (.destroy 100)) := by
    refine ⟨fun _ _ t tm htm => absurd htm (hnone t tm), fun c a hc ha => ?_⟩
    obtain rfl := TimerAction.watcher.inj hc
    obtain rfl := Option.some.inj ha
    rfl
  have hreported : Reported readerOnFive fiveReadable := by
    refine ⟨List.nodup_singleton 5, fun r hr => ?_⟩
    obtain rfl := List.mem_singleton.1 hr
    exact ⟨⟨EPOLLIN, 100⟩, by decide, rfl, by decide⟩
  have hown : OwnOnly epollDispatcher (fiveReadable.map Prod.snd) := by
    intro p hp c hc w hend
    obtain rfl := List.mem_singleton.1 hp
    obtain rfl := List.mem_singleton.1 hc
    rcases hend with hend | hend
    · exact nomatch hend
    · obtain rfl := Call.destroy.inj hend
      exact ⟨_, rfl⟩
  have hrules : Rules readerOnFive (.round fiveReadable) :=
    ⟨hreported, hown, ⟨hdestroy, trivial⟩, trivial⟩
  obtain ⟨hsafe, hinvoked, hasks⟩ := epoll_rounds_deliver h₁ hrules
  refine ⟨hsafe, hasks 100 .read (by rw [hinvoked]; decide) ?_⟩
  rintro ⟨t, tm, htm, -⟩
  exact hnone t tm htm

end
end Epoll
end PollDancer
