/-
# What a wait on a kqueue delivers

The runs of a kqueue loop with timers and rounds, as on epoll.  A `kevent` returns events of
different filters (`Reported`), so a watcher for reads and writes can have two in one batch: a
callback that ends such a watcher leaves the loop with an event of a watcher that is stopped
or freed.  With that exception (`EndsSingle`) the rules are those of an epoll loop, watcher
calls only in callbacks and timer calls between rounds, and so is what every round of every
run does (`kqueue_rounds_deliver`).

A round takes the one-shot filters of the timers that it reports away, and reads the reports
one after the other, so it is a run of `timerRuns` in which the calls were made in callbacks.
-/
import PollDancer.Delivery
import PollDancer.Kqueue.Readiness

namespace PollDancer
namespace Kqueue

open Library

/-- The timers that a batch reports, in order. -/
def timersOf (events : List Kevent) : List Addr :=
  (events.filter fun e => e.filter = .timer).map Kevent.udata

/-- The wait has reported the timer. -/
def expire (s : KqueueWorld) (t : Addr) : KqueueWorld :=
  match s.sys.kernel.timers t with
  | some n => reportTimer s t n
  | none => s

/-- The state in which the wait leaves the loop. -/
def waited (s : KqueueWorld) (events : List Kevent) : KqueueWorld :=
  (timersOf events).foldl expire s

/-- The events are of different filters, which are there and enabled. -/
structure Reported (s : KqueueWorld) (events : List Kevent) : Prop where
  distinct : events.Pairwise fun e e' => ¬(e.ident = e'.ident ∧ e.filter = e'.filter)
  user : ∀ e ∈ events, e.filter = .user → e.ident = pdAsyncIdent
  timer : ∀ e ∈ events, e.filter = .timer →
    e.ident = e.udata ∧ (s.sys.kernel.timers e.udata).isSome = true
  filter : ∀ e ∈ events, e.filter = .read ∨ e.filter = .write → MayReport s e

/-- A callback that ends its own watcher ends one that asks for reads or for writes, not for
both. -/
def EndsSingle (s : KqueueWorld) (batch : List (Kevent × List (Call KqueueEnv))) : Prop :=
  ∀ p ∈ batch, ∀ c ∈ p.2, ∀ w x, c.Ends w → s.heap w = some x →
    ¬(x.events.has .read = true ∧ x.events.has .write = true)

/-- What happens to a loop: actions of the program and its timers, and rounds of
`kqueue_loop_run`. -/
inductive LoopAction
  | act (a : TimerAction)
  | round (batch : List (Kevent × List (Call KqueueEnv)))

/-- A round begins with a wait, and reads all reports. -/
def performLoop (s : TimerWorld) : LoopAction → Option TimerWorld
  | .act a => performTimer s a
  | .round batch =>
      if s.reported = [] then
        some ⟨(kqueueLoopRun (waited s.world (batch.map Prod.fst)) (.ok batch)).world, []⟩
      else none

/-- The runs of a kqueue loop with timers and rounds. -/
def loopRuns : Machine TimerWorld LoopAction :=
  Machine.ofFun (fun s => Created s.world ∧ s.reported = []) performLoop

/-- The rules for the program, and what the kernel reports.  The calls of the program keep to
`Tame`, in callbacks too; a callback ends no watcher but its own, and that one only if it asks
for reads or for writes alone. -/
def Rules (s : TimerWorld) : LoopAction → Prop
  | .act a => Tame s a
  | .round batch => Reported s.world (batch.map Prod.fst) ∧
      OwnOnly kqueueDispatcher batch ∧ EndsSingle s.world batch ∧
      BatchKeeps kqueueOps kqueueDispatcher (fun s c => Tame ⟨s, []⟩ (.call c))
        (waited s.world (batch.map Prod.fst)) batch

section

variable {s : KqueueWorld} {events : List Kevent} {batch : List (Kevent × List (Call KqueueEnv))}
  {e : Kevent} {w : Addr} {mask : PdEvent} {ts : List Addr}

theorem decode_watcher (h : kqueueDispatcher.decode e = .watcher w mask)
    (huser : e.filter = .user → e.ident = pdAsyncIdent) :
    (e.filter = .read ∨ e.filter = .write) ∧ e.udata = w ∧ kqueueToEvents e = mask := by
  unfold kqueueDispatcher at h
  dsimp only at h
  split_ifs at h with hasync htimer hnull hnull'
  obtain ⟨hw, hmask⟩ := Ready.watcher.inj h
  refine ⟨?_, hw, hmask⟩
  cases hf : e.filter with
  | read => exact Or.inl rfl
  | write => exact Or.inr rfl
  | timer => exact absurd hf htimer
  | user => exact absurd ⟨hf, huser hf⟩ hasync

/-- A timer call does not depend on the reports that are on their way. -/
theorem Tame.call_reported {c : Call KqueueEnv} (h : Tame ⟨s, []⟩ (.call c)) (ts : List Addr) :
    Tame ⟨s, ts⟩ (.call c) where
  prompt := h.prompt
  orderly := by
    have hord := h.orderly
    cases c with
    | create => exact hord
    | update => exact hord
    | start => exact hord
    | _ => trivial
  live := h.live

theorem expire_heap (s : KqueueWorld) (t : Addr) : (expire s t).heap = s.heap := by
  unfold expire
  cases s.sys.kernel.timers t with
  | none => rfl
  | some n => exact (retimed_report s t n).heap_eq

/-- The wait leaves the watchers alone. -/
theorem foldl_expire_heap (l : List Addr) (s : KqueueWorld) : (l.foldl expire s).heap = s.heap := by
  induction l generalizing s with
  | nil => rfl
  | cons t l ih => exact (ih _).trans (expire_heap s t)

theorem expire_timer_ne (s : KqueueWorld) {t u : Addr} (hu : u ≠ t) :
    (expire s t).sys.kernel.timers u = s.sys.kernel.timers u := by
  unfold expire
  cases s.sys.kernel.timers t with
  | none => rfl
  | some n => exact (retimed_report s t n).filter_ne u hu

/-- The reports of a wait, one after the other. -/
theorem reach_expire (l : List Addr) (hnd : l.Nodup)
    (hl : ∀ t ∈ l, (s.sys.kernel.timers t).isSome = true)
    (h : timerRuns.Reach Tame ⟨s, ts⟩) :
    timerRuns.Reach Tame ⟨l.foldl expire s, l.reverse ++ ts⟩ := by
  induction l generalizing s ts with
  | nil => exact h
  | cons t l ih =>
      obtain ⟨hnot, hnd⟩ := List.nodup_cons.1 hnd
      obtain ⟨n, hn⟩ := Option.isSome_iff_exists.1 (hl t List.mem_cons_self)
      have hreport : performTimer ⟨s, ts⟩ (.report t) = some ⟨expire s t, t :: ts⟩ := by
        rw [performTimer, expire, hn]
        rfl
      have hstep := h.step (a := TimerAction.report t)
        ⟨trivial, trivial, fun _ _ hact => TimerAction.noConfusion hact⟩ hreport
      have hrest := ih hnd (fun u hu => ?_) hstep
      · rw [List.reverse_cons, List.append_assoc]
        exact hrest
      · have hne : u ≠ t := fun heq => hnot (heq ▸ hu)
        rw [expire_timer_ne s hne]
        exact hl u (List.mem_cons_of_mem t hu)

/-- The timers of a wait are different. -/
theorem Reported.nodup (h : Reported s events) : (timersOf events).Nodup := by
  unfold timersOf
  refine List.pairwise_map.2 ((h.distinct.filter _).imp_of_mem ?_)
  intro e e' he he' hne heq
  obtain ⟨hmem, hf⟩ := List.mem_filter.1 he
  obtain ⟨hmem', hf'⟩ := List.mem_filter.1 he'
  have ht : e.filter = .timer := of_decide_eq_true hf
  have ht' : e'.filter = .timer := of_decide_eq_true hf'
  obtain ⟨hid, -⟩ := h.timer e hmem ht
  obtain ⟨hid', -⟩ := h.timer e' hmem' ht'
  exact hne ⟨by rw [hid, hid', heq], ht.trans ht'.symm⟩

/-- The wait is a sequence of reports. -/
theorem Reported.reach (hr : Reported s events) (h : timerRuns.Reach Tame ⟨s, []⟩) :
    timerRuns.Reach Tame ⟨waited s events, (timersOf events).reverse⟩ := by
  have hexpire := reach_expire (timersOf events) hr.nodup (fun t ht => ?_) h
  · rw [List.append_nil] at hexpire
    exact hexpire
  · obtain ⟨e, he, rfl⟩ := List.mem_map.1 ht
    obtain ⟨hmem, hf⟩ := List.mem_filter.1 he
    exact (hr.timer e hmem (of_decide_eq_true hf)).2

/-- A reported watcher is active, and the filter is one that its mask asks for. -/
theorem Sound.reported (h : Sound s) (hr : Reported s events) (hmem : e ∈ events)
    (hw : kqueueDispatcher.decode e = .watcher w mask) :
    ∃ x, s.heap w = some x ∧ x.active = true ∧ x.fd = e.ident ∧ asks x.events e.filter = true := by
  obtain ⟨hf, hudata, -⟩ := decode_watcher hw (hr.user e hmem)
  obtain ⟨n, hn, -, hptr⟩ := hr.filter e hmem hf
  obtain ⟨x, hx, hact, hfd⟩ := h.attended.owner e.ident e.filter n hn
  have hfilter := (h.filtered.registered n.udata x hx hact).2 e.filter
  rw [hfd, hn, filterOf] at hfilter
  rw [hptr, hudata] at hx
  refine ⟨x, hx, hact, hfd, ?_⟩
  by_contra hasks
  rw [if_neg hasks] at hfilter
  exact Option.some_ne_none n hfilter

theorem Sound.allActive (h : Sound s) (hr : Reported s (batch.map Prod.fst)) :
    AllActive kqueueDispatcher (waited s (batch.map Prod.fst)) batch := by
  intro p hp w mask hw
  obtain ⟨x, hx, hact, -⟩ := h.reported hr (List.mem_map_of_mem hp) hw
  exact ⟨x, (congrFun (foldl_expire_heap _ s) w).trans hx, hact⟩

/-- Two events of one watcher are for reads and for writes. -/
theorem Sound.considerate (h : Sound s) (hr : Reported s (batch.map Prod.fst))
    (hown : OwnOnly kqueueDispatcher batch) (hends : EndsSingle s batch) :
    Considerate kqueueDispatcher batch := by
  refine hown.considerate ((List.pairwise_map.1 hr.distinct).imp_of_mem ?_)
  intro p q hp hq hne w mask mask' hw hw' c hc hend
  have hmem := List.mem_map_of_mem (f := Prod.fst) hp
  have hmem' := List.mem_map_of_mem (f := Prod.fst) hq
  obtain ⟨x, hx, -, hid, hasks⟩ := h.reported hr hmem hw
  obtain ⟨y, hy, -, hid', hasks'⟩ := h.reported hr hmem' hw'
  obtain rfl := Option.some.inj (hx.symm.trans hy)
  obtain ⟨hf, -⟩ := decode_watcher hw (hr.user p.1 hmem)
  obtain ⟨hf', -⟩ := decode_watcher hw' (hr.user q.1 hmem')
  refine hends p hp c hc w x hend hx ?_
  rcases hf with hf | hf <;> rcases hf' with hf' | hf'
  · exact absurd ⟨hid.symm.trans hid', hf.trans hf'.symm⟩ hne
  · rw [hf] at hasks
    rw [hf'] at hasks'
    exact ⟨hasks, hasks'⟩
  · rw [hf] at hasks
    rw [hf'] at hasks'
    exact ⟨hasks', hasks⟩
  · exact absurd ⟨hid.symm.trans hid', hf.trans hf'.symm⟩ hne

/-- The four bits of an event that are not errors. -/
theorem kqueueToEvents_bits (e : Kevent) :
    (kqueueToEvents e).has .read = decide (e.filter = .read) ∧
    (kqueueToEvents e).has .write = decide (e.filter = .write) ∧
    (kqueueToEvents e).has .pri = false ∧ (kqueueToEvents e).has .edge = false := by
  unfold kqueueToEvents
  generalize (e.flags &&& EV_ERROR != 0) = x
  generalize (e.flags &&& EV_EOF != 0) = h
  generalize e.filter = f
  cases f <;> cases x <;> cases h <;> decide

/-- What is reported of a filter is what the filter is for. -/
theorem asks_of_reported {x : PdWatcher KqueueWatcherData} (hasks : asks x.events e.filter = true)
    (hmask : kqueueToEvents e = mask) {bit : PdEvent}
    (hbit : bit = .read ∨ bit = .write ∨ bit = .pri ∨ bit = .edge) (hhas : mask.has bit = true) :
    x.events.has bit = true := by
  obtain ⟨hr, hw, hp, ht⟩ := kqueueToEvents_bits e
  rw [hmask] at hr hw hp ht
  rcases hbit with rfl | rfl | rfl | rfl
  · rw [of_decide_eq_true (hr.symm.trans hhas)] at hasks
    exact hasks
  · rw [of_decide_eq_true (hw.symm.trans hhas)] at hasks
    exact hasks
  · exact absurd (hp.symm.trans hhas) Bool.false_ne_true
  · exact absurd (ht.symm.trans hhas) Bool.false_ne_true

/-- A report is read, or there is none to read. -/
theorem reach_prepare {events : List Kevent} (hperm : ts.Perm (timersOf (e :: events)))
    (h : timerRuns.Reach Tame ⟨s, ts⟩) :
    ∃ ts', ts'.Perm (timersOf events) ∧
      timerRuns.Reach Tame ⟨s.setSys (kqueueDispatcher.prepare s.sys e), ts'⟩ := by
  by_cases hf : e.filter = .timer
  · have hsplit : timersOf (e :: events) = e.udata :: timersOf events := by
      rw [timersOf, List.filter_cons, if_pos (decide_eq_true hf)]
      rfl
    have hprepare : kqueueDispatcher.prepare s.sys e = rearm s.sys e.udata false := if_pos hf
    rw [hsplit] at hperm
    have hmem : e.udata ∈ ts := hperm.mem_iff.2 List.mem_cons_self
    have hfire : performTimer ⟨s, ts⟩ (.fire e.udata false) =
        some ⟨s.setSys (rearm s.sys e.udata false), ts.erase e.udata⟩ := if_pos hmem
    refine ⟨ts.erase e.udata, ?_, ?_⟩
    · have herase := hperm.erase e.udata
      rwa [List.erase_cons_head] at herase
    · rw [hprepare]
      exact h.step (a := TimerAction.fire e.udata false)
        ⟨trivial, trivial, fun _ _ hact => TimerAction.noConfusion hact⟩ hfire
  · have hsplit : timersOf (e :: events) = timersOf events := by
      rw [timersOf, List.filter_cons, if_neg (fun heq => hf (of_decide_eq_true heq))]
      rfl
    have hprepare : kqueueDispatcher.prepare s.sys e = s.sys := if_neg hf
    rw [hsplit] at hperm
    rw [hprepare]
    exact ⟨ts, hperm, h⟩

/-- A run without rounds. -/
theorem reach_acts {s : TimerWorld} (h : timerRuns.Reach Tame s) : loopRuns.Reach Rules s := by
  induction h with
  | init hs => exact .init hs
  | @step s s' a _ hok hnext ih => exact ih.step (a := LoopAction.act a) hok hnext

/-- A run with rounds is a run without, whose calls were made in callbacks. -/
theorem reach_loopRuns {s : TimerWorld} (h : loopRuns.Reach Rules s) :
    timerRuns.Reach Tame s := by
  induction h with
  | init hs => exact .init hs
  | @step s s' a _ hok hnext ih =>
      cases a with
      | act a => exact ih.step hok hnext
      | round batch =>
          obtain ⟨hidle, hs'⟩ := Option.ite_none_right_eq_some.1 hnext
          obtain rfl := Option.some.inj hs'
          obtain ⟨s, reported⟩ := s
          obtain rfl : reported = [] := hidle
          obtain ⟨hr, hown, hends, hkeeps⟩ := hok
          obtain ⟨-, hsound⟩ := Tame.sound ih
          have hround := hkeeps.invariant kqueueOps
            (I := fun s events => ∃ ts, ts.Perm (timersOf events) ∧ timerRuns.Reach Tame ⟨s, ts⟩)
            (hsound.considerate hr hown hends) (hsound.allActive hr)
            ⟨_, List.reverse_perm _, hr.reach ih⟩ ?_ ?_
          · obtain ⟨ts, hperm, hreach⟩ := hround
            obtain rfl := hperm.eq_nil
            exact hreach
          · rintro s e events ⟨ts, hperm, hs⟩
            exact reach_prepare hperm hs
          · rintro s events c ⟨ts, hperm, hs⟩ hc
            exact ⟨ts, hperm, hs.step (a := TimerAction.call c) (hc.call_reported ts) rfl⟩

/-- **Every round of every run that keeps to the rules is safe, invokes the callbacks that its
events are for once each and in order, and tells each only what its user has asked for.** -/
theorem kqueue_rounds_deliver {s : TimerWorld} (h : loopRuns.Reach Rules s)
    (hok : Rules s (.round batch)) :
    let s' := waited s.world (batch.map Prod.fst)
    let trace := (kqueueLoopRun s' (.ok batch)).trace
    Safe s' [] trace ∧
      invoked trace = batch.filterMap (fun p => delivery kqueueDispatcher s.world p.1) ∧
      ∀ w mask, (w, mask) ∈ invoked trace → Asks (asked s.world) w mask := by
  obtain ⟨hr, hown, hends, -⟩ := hok
  obtain ⟨hkept, hsound⟩ := Tame.sound (reach_loopRuns h)
  obtain ⟨hsafe, hinvoked⟩ := dispatchBatch_delivers kqueueOps
    (hsound.considerate hr hown hends) (hsound.allActive hr)
  -- the wait has left the watchers as they were
  have hsame : ∀ e, delivery kqueueDispatcher (waited s.world (batch.map Prod.fst)) e =
      delivery kqueueDispatcher s.world e := by
    intro e
    have hheap := foldl_expire_heap (timersOf (batch.map Prod.fst)) s.world
    rw [delivery, delivery, waited, hheap]
  rw [List.filterMap_congr fun p _ => hsame p.1] at hinvoked
  refine ⟨hsafe, hinvoked, fun w mask hmem => ?_⟩
  rw [show invoked (kqueueLoopRun _ (.ok batch)).trace = _ from hinvoked] at hmem
  obtain ⟨p, hp, hdel⟩ := List.mem_filterMap.1 hmem
  have hdec := decode_of_delivery hdel
  have hp' := List.mem_map_of_mem (f := Prod.fst) hp
  obtain ⟨x, hx, hact, -, hasks⟩ := hsound.reported hr hp' hdec
  obtain ⟨-, -, hmask⟩ := decode_watcher hdec (hr.user p.1 hp')
  exact ⟨x.interest, seen_eq_some.2 ⟨Sound.active_notMem hkept.placed hx hact, x, hx, rfl⟩, hact,
    fun bit hbit hhas => asks_of_reported hasks hmask hbit hhas⟩

/-- The ticker has expired and descriptor 5 is readable; the callback of the watcher destroys
it. -/
def tickerAndFive : List (Kevent × List (Call KqueueEnv)) :=
  [(⟨300, .timer, 0, 300⟩, []), (⟨5, .read, 0, 100⟩, [.destroy 100])]

theorem tickerAndFive_delivered :
    Safe (waited watcherAndTicker (tickerAndFive.map Prod.fst)) []
        (kqueueLoopRun (waited watcherAndTicker (tickerAndFive.map Prod.fst))
          (.ok tickerAndFive)).trace ∧
      Asks (asked watcherAndTicker) 100 .read := by
  have hreach : loopRuns.Reach Rules ⟨watcherAndTicker, []⟩ :=
    reach_acts watcherAndTicker_shown.reach
  have hreported : Reported watcherAndTicker (tickerAndFive.map Prod.fst) := by
    constructor
    · decide
    · decide
    · decide
    · intro e he hf
      rcases List.mem_pair.1 he with rfl | rfl
      · rcases hf with hf | hf <;> exact Filter.noConfusion hf
      · exact ⟨⟨100, true, false⟩, by decide, rfl, rfl⟩
  have hmem : ∀ p ∈ tickerAndFive, ∀ c ∈ p.2, p = (⟨5, .read, 0, 100⟩, [.destroy 100]) ∧
      c = .destroy 100 := by
    intro p hp c hc
    rcases List.mem_pair.1 hp with rfl | rfl
    · exact absurd hc List.not_mem_nil
    · exact ⟨rfl, List.mem_singleton.1 hc⟩
  have hends : ∀ w, (Call.destroy 100 : Call KqueueEnv).Ends w → w = 100 := by
    rintro w (hend | hend)
    · exact nomatch hend
    · exact (Call.destroy.inj hend).symm
  have hown : OwnOnly kqueueDispatcher tickerAndFive := by
    intro p hp c hc w hend
    obtain ⟨rfl, rfl⟩ := hmem p hp c hc
    obtain rfl := hends w hend
    exact ⟨_, rfl⟩
  have hsingle : EndsSingle watcherAndTicker tickerAndFive := by
    intro p hp c hc w x hend hx
    obtain ⟨rfl, rfl⟩ := hmem p hp c hc
    obtain rfl := hends w hend
    obtain rfl := Option.some.inj hx
    decide
  have hrules : Rules ⟨watcherAndTicker, []⟩ (.round tickerAndFive) := by
    refine ⟨hreported, hown, hsingle, trivial, ⟨?_, trivial⟩, trivial⟩
    -- the placeholder of the timer is another watcher
    obtain ⟨ts, -, hread⟩ := reach_prepare (e := ⟨300, .timer, 0, 300⟩)
      (List.reverse_perm (timersOf (tickerAndFive.map Prod.fst)))
      (hreported.reach watcherAndTicker_shown.reach)
    obtain ⟨hkept, -⟩ := Tame.sound hread
    refine ⟨fun a ha => ?_, trivial, fun c a hc ha => ?_⟩
    · obtain rfl := Option.some.inj ha
      exact Sound.active_notMem hkept.placed rfl rfl
    · obtain rfl := TimerAction.call.inj hc
      obtain rfl := Option.some.inj ha
      rfl
  obtain ⟨hsafe, hinvoked, hasks⟩ := kqueue_rounds_deliver hreach hrules
  exact ⟨hsafe, hasks 100 .read (by rw [hinvoked]; decide)⟩

end
end Kqueue
end PollDancer
