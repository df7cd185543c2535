/-
# Destroying a timer on IOCP

`pd_timer_destroy` is called while the timer may expire, and while the loop may come to a
packet of it.  It marks the timer, deletes the queue timer and waits for its callback,
and frees the timer only if a packet of its own has come through the port, behind every
packet of the timer.

`iocp_timer_stop`, which it calls first, forgets the queue timer after five seconds,
whether its callback has returned or not; then nobody waits for the callback:
`not_teardown_safe`.  And when the drain gives up, the loop may already have found the
timer unmarked, and invokes its callback later.

If the wait of `iocp_timer_stop` ends only when the callback has returned, and the drain
does not give up at that point of the loop, no thread touches freed memory, and the
callback of the user is not invoked after `pd_timer_destroy` has returned:
`teardown_safe`.
-/
import PollDancer.Iocp.Timer

namespace PollDancer
namespace Iocp
namespace Timer

open Library

/-! ### What the threads touch -/

/-- Is the next access of the loop thread one to the timer? -/
def LoopPc.touchesTimer : LoopPc → Bool
  | .readCallback _ => true
  | .readData _ => true
  | .start _ => true
  | _ => false

/-- Is the next access of the loop thread one to the data? -/
def LoopPc.touchesData : LoopPc → Bool
  | .readDestroyed _ => true
  | _ => false

/-- Is the next access of `iocp_timer_callback` one to the timer? -/
def PoolPc.touchesTimer : PoolPc → Bool
  | .readTimer => true
  | _ => false

/-- Is the next access of `iocp_timer_callback` one to the data? -/
def PoolPc.touchesData : PoolPc → Bool
  | .readDestroyed => true
  | .post => true
  | _ => false

/-- Does the next access of the call read or write the timer? -/
def ApiPc.touchesTimer : ApiPc → Bool
  | .stop _ => true
  | .checkStarted _ => true
  | .restore _ => true
  | .destroy => true
  | .mark => true
  | .createEvent => true
  | .freeData => true
  | .clearData => true
  | .freeWatcher _ => true
  | _ => false

/-- Does the next access of the call read or write the data? -/
def ApiPc.touchesData : ApiPc → Bool
  | .checkStarted _ => true
  | .deleteTimer _ => true
  | .clearTimer _ => true
  | .mark => true
  | .checkDelete => true
  | .deleteAndWait => true
  | .clearDelete => true
  | .closeStopEvent => true
  | _ => false

/-- Is the timer among what some thread touches next? -/
def State.touchesTimer (s : State) : Bool :=
  s.loop.touchesTimer || s.pool.any (·.2.touchesTimer) || s.api.touchesTimer

/-- Is the data among what some thread touches next? -/
def State.touchesData (s : State) : Bool :=
  s.loop.touchesData || s.pool.any (·.2.touchesData) || s.api.touchesData

/-- No thread is about to touch freed memory, and the loop is not about to invoke the
callback when `pd_timer_destroy` has returned. -/
structure Safe (s : State) : Prop where
  timer : s.touchesTimer = true → s.timer.isSome = true
  data : s.touchesData = true → s.data.isSome = true
  late : s.api = .destroyed → ∀ n, s.loop ≠ .start n

/-! ### What the waits have to see to -/

/-- Is the loop about to invoke the callback? -/
def LoopPc.starting : LoopPc → Bool
  | .start _ => true
  | _ => false

/-- The wait of `iocp_timer_stop` does not give up while `iocp_timer_callback` is running;
the `DeleteTimerQueueTimer` that waits is not refused; and the drain does not fail while
the loop has found the timer unmarked and not yet invoked the callback. -/
def Step.patient (s : State) : Step → Bool
  | .expire =>
      match s.api with
      | .waitStop _ => s.pool.isNone
      | .waitEvent => !s.loop.starting
      | _ => true
  | .api ok =>
      match s.api with
      | .deleteAndWait => ok
      | .createEvent => ok || !s.loop.starting
      | _ => true
  | _ => true

/-- The step is patient. -/
def Step.Patient (s : State) (l : Step) : Prop := l.patient s = true

instance (s : State) (l : Step) : Decidable (l.Patient s) :=
  inferInstanceAs (Decidable (l.patient s = true))

/-! ### The invariant -/

/-- Does the loop thread have the timer in its locals, before it invokes the callback? -/
def LoopPc.holds : LoopPc → Bool
  | .readCallback _ => true
  | .readData _ => true
  | .readDestroyed _ => true
  | .start _ => true
  | _ => false

/-- Is it a packet of the timer? -/
def Packet.isTimer : Packet → Bool
  | .timer _ => true
  | _ => false

/-- Is the call past the deletion of the queue timer, and its callback? -/
def ApiPc.quiet : ApiPc → Bool
  | .clearTimer _ => true
  | .clearDelete => true
  | .closeStopEvent => true
  | .createEvent => true
  | .postSync => true
  | .waitEvent => true
  | .freeData => true
  | .clearData => true
  | .freeWatcher _ => true
  | .freeTimer _ => true
  | .destroyed => true
  | _ => false

/-- Is the call past the deletion of the queue timer? -/
def ApiPc.deleted : ApiPc → Bool
  | .waitStop _ => true
  | .waitCallback => true
  | pc => pc.quiet

/-- Has the call set `destroyed`? -/
def ApiPc.marked : ApiPc → Bool
  | .checkDelete => true
  | .deleteAndWait => true
  | .waitCallback => true
  | .clearTimer _ => false
  | pc => pc.quiet

/-- Has the call posted the packet of the drain? -/
def ApiPc.posted : ApiPc → Bool
  | .waitEvent => true
  | .freeData => true
  | .clearData => true
  | .freeWatcher _ => true
  | .freeTimer _ => true
  | .destroyed => true
  | _ => false

/-- Has the drain succeeded? -/
def ApiPc.drained : ApiPc → Bool
  | .freeData => true
  | .clearData => true
  | .freeWatcher drained => drained
  | .freeTimer drained => drained
  | _ => false

/-- May the data be freed? -/
def ApiPc.freed : ApiPc → Bool
  | .clearData => true
  | .destroyed => true
  | .freeWatcher drained => drained
  | .freeTimer drained => drained
  | _ => false

/-- Is the call past the drain, and its data? -/
def ApiPc.torn : ApiPc → Bool
  | .freeWatcher _ => true
  | .freeTimer _ => true
  | .destroyed => true
  | _ => false

/-- No packet of the timer is on its way, and the loop does not hold it. -/
structure Drained (s : State) : Prop where
  port : ∀ p ∈ s.port.arrived, p.isTimer = false
  loop : s.loop.holds = false

/-- What holds at every point of a patient run. -/
structure Inv (s : State) : Prop where
  pointer : ∀ t, s.timer = some t → s.api.torn = false → t.platformData = true
  timer : s.timer = none → s.api = .destroyed
  data : s.data = none → s.api.freed = true
  deleted : s.api.deleted = true → s.queueTimer = none
  quiet : s.api.quiet = true → s.pool = none
  /-- A timer that is not started does not expire. -/
  unstarted : ∀ d, s.data = some d → (d.started && d.queueTimer) = false →
    s.queueTimer = none ∧ s.pool = none
  marked : s.api.marked = true → ∀ d, s.data = some d → d.destroyed = true
  posted : .drain ∈ s.port.arrived ∨ s.signalled = true → s.api.posted = true
  /-- What is posted for the timer is ahead of the packet of the drain. -/
  order : s.port.arrived.Pairwise fun p q => p = .drain → q.isTimer = false
  signalled : s.signalled = true → Drained s
  drained : s.api.drained = true ∨ s.timer = none ∨ s.data = none → s.signalled = true
  late : s.api.torn = true → ∀ n, s.loop ≠ .start n

section

variable {s s' : State}

theorem ApiPc.quiet_of_posted {pc : ApiPc} (h : pc.posted = true) : pc.quiet = true := by
  cases pc <;> first | rfl | exact nomatch h

theorem ApiPc.deleted_of_quiet {pc : ApiPc} (h : pc.quiet = true) : pc.deleted = true := by
  cases pc <;> first | rfl | exact nomatch h

theorem ApiPc.marked_of_posted {pc : ApiPc} (h : pc.posted = true) : pc.marked = true := by
  cases pc <;> first | rfl | exact nomatch h

theorem ApiPc.posted_of_freed {pc : ApiPc} (h : pc.freed = true) : pc.posted = true := by
  cases pc <;> first | rfl | exact nomatch h

theorem ApiPc.posted_of_drained {pc : ApiPc} (h : pc.drained = true) : pc.posted = true := by
  cases pc <;> first | rfl | exact nomatch h

theorem ApiPc.posted_of_torn {pc : ApiPc} (h : pc.torn = true) : pc.posted = true := by
  cases pc <;> first | rfl | exact nomatch h

theorem ApiPc.quiet_of_freed {pc : ApiPc} (h : pc.freed = true) : pc.quiet = true := by
  cases pc <;> first | rfl | exact nomatch h

theorem ApiPc.not_touchesData_of_freed {pc : ApiPc} (h : pc.freed = true) :
    pc.touchesData = false := by
  cases pc <;> first | rfl | exact nomatch h

theorem LoopPc.holds_of_touchesTimer {pc : LoopPc} (h : pc.touchesTimer = true) :
    pc.holds = true := by
  cases pc <;> first | rfl | exact nomatch h

theorem LoopPc.holds_of_touchesData {pc : LoopPc} (h : pc.touchesData = true) :
    pc.holds = true := by
  cases pc <;> first | rfl | exact nomatch h

theorem Inv.safe (h : Inv s) : Safe s where
  timer ht := by
    rw [Option.isSome_iff_ne_none]
    intro hnone
    have hapi := h.timer hnone
    have hpool := h.quiet (by rw [hapi]; rfl)
    have hloop := (h.signalled (h.drained (Or.inr (Or.inl hnone)))).loop
    rw [State.touchesTimer, hapi, hpool] at ht
    have htouch : s.loop.touchesTimer = true := by simpa [ApiPc.touchesTimer] using ht
    exact nomatch hloop.symm.trans (LoopPc.holds_of_touchesTimer htouch)
  data hd := by
    rw [Option.isSome_iff_ne_none]
    intro hnone
    have hapi := h.data hnone
    have hpool := h.quiet (ApiPc.quiet_of_freed hapi)
    have hloop := (h.signalled (h.drained (Or.inr (Or.inr hnone)))).loop
    rw [State.touchesData, hpool, ApiPc.not_touchesData_of_freed hapi] at hd
    have htouch : s.loop.touchesData = true := by simpa using hd
    exact nomatch hloop.symm.trans (LoopPc.holds_of_touchesData htouch)
  late hapi := h.late (by rw [hapi]; rfl)

/-- The call moves on; the drain has been posted before or is not being posted. -/
theorem Inv.api (h : Inv s) {t : Option TimerFields} {d : Option IocpTimerData} {q : Option ℕ}
    {pc : ApiPc} (hpointer : ∀ x, t = some x → pc.torn = false → x.platformData = true)
    (htimer : t = none → pc = .destroyed) (hdata : d = none → pc.freed = true)
    (hdeleted : pc.deleted = true → q = none) (hquiet : pc.quiet = true → s.pool = none)
    (hunstarted : ∀ x, d = some x → (x.started && x.queueTimer) = false →
      q = none ∧ s.pool = none)
    (hmarked : pc.marked = true → ∀ x, d = some x → x.destroyed = true)
    (hposted : s.api.posted = true → pc.posted = true)
    (hdrained : pc.drained = true ∨ t = none ∨ d = none → s.signalled = true)
    (hlate : pc.torn = true → ∀ n, s.loop ≠ .start n) :
    Inv { s with timer := t, data := d, queueTimer := q, api := pc } :=
  ⟨hpointer, htimer, hdata, hdeleted, hquiet, hunstarted, hmarked, fun hp => hposted (h.posted hp),
    h.order, fun hs => ⟨(h.signalled hs).port, (h.signalled hs).loop⟩, hdrained, hlate⟩

/-- Before the drain neither the timer nor the data has been freed. -/
theorem Inv.live (h : Inv s) (hat : s.api.posted = false) :
    ∃ t d, s.timer = some t ∧ s.data = some d ∧ t.platformData = true := by
  have hno : ∀ b, (b = true → s.api.posted = true) → b = false := by
    intro b hb
    rw [← Bool.not_eq_true]
    exact fun hyes => nomatch hat.symm.trans (hb hyes)
  cases ht : s.timer with
  | none =>
      rw [h.timer ht] at hat
      exact nomatch hat
  | some t =>
      cases hd : s.data with
      | none => exact nomatch (hno _ ApiPc.posted_of_freed).symm.trans (h.data hd)
      | some d => exact ⟨t, d, rfl, rfl, h.pointer t ht (hno _ ApiPc.posted_of_torn)⟩

/-- The call moves on before the drain, and writes to the timer or its data. -/
theorem Inv.write (h : Inv s) {x : TimerFields} {y : IocpTimerData} {q : Option ℕ} {pc : ApiPc}
    (hat : s.api.posted = false) (hpc : pc.posted = false) (hx : x.platformData = true)
    (hdeleted : pc.deleted = true → q = none) (hquiet : pc.quiet = true → s.pool = none)
    (hunstarted : (y.started && y.queueTimer) = false → q = none ∧ s.pool = none)
    (hmarked : pc.marked = true → y.destroyed = true) :
    Inv { s with timer := some x, data := some y, queueTimer := q, api := pc } := by
  have hno : ∀ b, (b = true → pc.posted = true) → ¬b = true :=
    fun b hb hyes => nomatch hpc.symm.trans (hb hyes)
  refine h.api (fun z hz _ => ?_) nofun nofun hdeleted hquiet (fun z hz => ?_) (fun hm z hz => ?_)
    (fun hp => nomatch hat.symm.trans hp) ?_ (fun ht => absurd ht (hno _ ApiPc.posted_of_torn))
  · obtain rfl := Option.some.inj hz
    exact hx
  · obtain rfl := Option.some.inj hz
    exact hunstarted
  · obtain rfl := Option.some.inj hz
    exact hmarked hm
  · rintro (hd | hd | hd)
    · exact absurd hd (hno _ ApiPc.posted_of_drained)
    · exact nomatch hd
    · exact nomatch hd

/-- The call moves on before the drain, and writes nothing. -/
theorem Inv.walk (h : Inv s) {pc : ApiPc} (hat : s.api.posted = false) (hpc : pc.posted = false)
    (hdeleted : pc.deleted = true → s.queueTimer = none) (hquiet : pc.quiet = true → s.pool = none)
    (hmarked : pc.marked = true → ∀ d, s.data = some d → d.destroyed = true) :
    Inv { s with api := pc } := by
  obtain ⟨t, d, ht, hd, hp⟩ := h.live hat
  have hunstarted := h.unstarted d hd
  have hwrite := @Inv.write s h
  obtain ⟨timer, data, made, queue, pool, port, signalled, loop, api, onLoop⟩ := s
  obtain rfl : timer = some t := ht
  obtain rfl : data = some d := hd
  exact hwrite hat hpc hp hdeleted hquiet hunstarted fun hm => hmarked hm d rfl

/-- What one access of `pd_timer_stop`, or of `pd_timer_destroy` before the drain,
preserves. -/
theorem inv_api_before (h : Inv s) {ok : Bool} (hok : Step.Patient s (.api ok))
    (hat : s.api.posted = false) (hcreate : s.api ≠ .createEvent) (hpost : s.api ≠ .postSync)
    (hstep : apiStep s ok = some s') : Inv s' := by
  obtain ⟨t, d, ht, hd, hp⟩ := h.live hat
  have hunstarted := h.unstarted d hd
  have hdeleted := h.deleted
  have hquiet := h.quiet
  have hmarked := fun hm => h.marked hm d hd
  have hwrite := @Inv.write s h
  obtain ⟨timer, data, made, queue, pool, port, signalled, loop, api, onLoop⟩ := s
  obtain rfl : timer = some t := ht
  obtain rfl : data = some d := hd
  cases api with
  | stop c =>
      simp only [apiStep, Option.bind_eq_bind, Option.bind_some] at hstep
      split_ifs at hstep
      · obtain rfl := Option.some.inj hstep
        exact hwrite hat rfl hp nofun nofun hunstarted nofun
      · obtain rfl := Option.some.inj hstep
        cases c <;> exact hwrite hat rfl hp nofun nofun hunstarted nofun
  | checkStarted c =>
      simp only [apiStep, Option.bind_eq_bind, Option.bind_some, hp] at hstep
      obtain rfl := Option.some.inj hstep
      cases c <;> cases d.started <;> exact hwrite hat rfl hp nofun nofun hunstarted nofun
  | deleteTimer c =>
      simp only [apiStep, Option.bind_eq_bind, Option.bind_some] at hstep
      split_ifs at hstep
      · obtain rfl := Option.some.inj hstep
        exact hwrite hat rfl hp (fun _ => rfl) nofun (fun hn => ⟨rfl, (hunstarted hn).2⟩) nofun
      · obtain rfl := Option.some.inj hstep
        exact hwrite hat rfl hp nofun nofun hunstarted nofun
  | clearTimer c =>
      simp only [apiStep, Option.bind_eq_bind, Option.bind_some] at hstep
      obtain rfl := Option.some.inj hstep
      have hnone := hdeleted rfl
      have hidle := hquiet rfl
      cases c <;> exact hwrite hat rfl hp nofun nofun (fun _ => ⟨hnone, hidle⟩) nofun
  | restore c =>
      simp only [apiStep, Option.bind_eq_bind, Option.bind_some] at hstep
      obtain rfl := Option.some.inj hstep
      cases c <;> exact hwrite hat rfl hp nofun nofun hunstarted nofun
  | destroy =>
      simp only [apiStep, Option.bind_eq_bind, Option.bind_some] at hstep
      obtain rfl := Option.some.inj hstep
      cases t.active <;> exact hwrite hat rfl hp nofun nofun hunstarted nofun
  | mark =>
      simp only [apiStep, Option.bind_eq_bind, Option.bind_some, hp] at hstep
      obtain rfl := Option.some.inj hstep
      exact hwrite hat rfl hp nofun nofun hunstarted fun _ => rfl
  | checkDelete =>
      simp only [apiStep, Option.bind_eq_bind, Option.bind_some] at hstep
      obtain rfl := Option.some.inj hstep
      cases hboth : d.started && d.queueTimer with
      | true => exact hwrite hat rfl hp nofun nofun hunstarted fun _ => hmarked rfl
      | false =>
          obtain ⟨hnone, hidle⟩ := hunstarted hboth
          exact hwrite hat rfl hp (fun _ => hnone) (fun _ => hidle) hunstarted fun _ => hmarked rfl
  | deleteAndWait =>
      simp only [apiStep, Option.bind_eq_bind, Option.bind_some] at hstep
      have hok : ok = true := hok
      rw [if_pos hok] at hstep
      obtain rfl := Option.some.inj hstep
      exact hwrite hat rfl hp (fun _ => rfl) nofun (fun hn => ⟨rfl, (hunstarted hn).2⟩)
        fun _ => hmarked rfl
  | clearDelete =>
      simp only [apiStep, Option.bind_eq_bind, Option.bind_some] at hstep
      obtain rfl := Option.some.inj hstep
      have hnone := hdeleted rfl
      have hidle := hquiet rfl
      exact hwrite hat rfl hp (fun _ => hnone) (fun _ => hidle) (fun _ => ⟨hnone, hidle⟩)
        fun _ => hmarked rfl
  | closeStopEvent =>
      simp only [apiStep, Option.bind_eq_bind, Option.bind_some] at hstep
      obtain rfl := Option.some.inj hstep
      exact hwrite hat rfl hp hdeleted hquiet hunstarted hmarked
  | createEvent => exact absurd rfl hcreate
  | postSync => exact absurd rfl hpost
  | idle => exact nomatch hstep
  | waitStop c => exact nomatch hstep
  | waitCallback => exact nomatch hstep
  | _ => exact nomatch hat

/-- `iocp_drain_sync` sets its event up, or fails. -/
theorem inv_createEvent (h : Inv s) {ok : Bool} (hok : Step.Patient s (.api ok))
    (hpc : s.api = .createEvent) (hstep : apiStep s ok = some s') : Inv s' := by
  have hat : s.api.posted = false := by rw [hpc]; rfl
  obtain ⟨t, d, ht, hd, hp⟩ := h.live hat
  have hsignalled : s.signalled = false := by
    rw [← Bool.not_eq_true]
    exact fun hs => nomatch hat.symm.trans (h.posted (Or.inr hs))
  have hnone := h.deleted (by rw [hpc]; rfl)
  have hidle := h.quiet (by rw [hpc]; rfl)
  have hmarked := h.marked (by rw [hpc]; rfl)
  obtain ⟨timer, data, made, queue, pool, port, signalled, loop, api, onLoop⟩ := s
  obtain rfl : timer = some t := ht
  obtain rfl : data = some d := hd
  obtain rfl : api = .createEvent := hpc
  obtain rfl : signalled = false := hsignalled
  cases ok with
  | true =>
      obtain rfl := Option.some.inj hstep
      exact h.write rfl rfl hp (fun _ => hnone) (fun _ => hidle) (fun _ => ⟨hnone, hidle⟩)
        fun _ => hmarked d rfl
  | false =>
      obtain rfl := Option.some.inj hstep
      -- the loop has not found the timer unmarked, and will find it marked
      have hloop : loop.starting = false := by simpa [Step.Patient, Step.patient] using hok
      refine h.api (fun _ _ => nofun) nofun nofun (fun _ => hnone) (fun _ => hidle)
        (fun _ _ _ => ⟨hnone, hidle⟩) (fun _ => hmarked) (fun _ => rfl) ?_ ?_
      · rintro (hd | hd | hd)
        · exact nomatch hd
        · exact nomatch hd
        · exact nomatch hd
      · rintro - n rfl
        exact nomatch hloop

/-- The packet of the drain is behind every packet of the timer. -/
theorem inv_postSync (h : Inv s) {ok : Bool} (hpc : s.api = .postSync)
    (hstep : apiStep s ok = some s') : Inv s' := by
  have hat : s.api.posted = false := by rw [hpc]; rfl
  obtain ⟨t, d, ht, hd, hp⟩ := h.live hat
  have hnone := h.deleted (by rw [hpc]; rfl)
  have hidle := h.quiet (by rw [hpc]; rfl)
  have hmarked := h.marked (by rw [hpc]; rfl)
  have hsignalled : s.signalled = false := by
    rw [← Bool.not_eq_true]
    exact fun hs => nomatch hat.symm.trans (h.posted (Or.inr hs))
  have horder : (if ok then s.port.post .drain else s.port).arrived.Pairwise
      fun p q => p = .drain → q.isTimer = false := by
    cases ok with
    | false => exact h.order
    | true =>
        rw [if_pos rfl, Port.arrived_post, List.pairwise_append]
        refine ⟨h.order, List.pairwise_singleton .., fun p _ q hq _ => ?_⟩
        obtain rfl := List.mem_singleton.1 hq
        rfl
  simp only [apiStep, hpc] at hstep
  obtain rfl := Option.some.inj hstep
  have htimer : s.timer ≠ none := fun hn => nomatch ht.symm.trans hn
  have hdata : s.data ≠ none := fun hn => nomatch hd.symm.trans hn
  refine ⟨fun x hx _ => h.pointer x hx (by rw [hpc]; rfl), fun hn => absurd hn htimer,
    fun hn => absurd hn hdata, fun _ => hnone, fun _ => hidle, fun _ _ _ => ⟨hnone, hidle⟩,
    fun _ => hmarked, fun _ => rfl, horder, fun hs => ?_, ?_, nofun⟩
  · exact nomatch hsignalled.symm.trans hs
  · rintro (hn | hn | hn)
    · exact nomatch hn
    · exact absurd hn htimer
    · exact absurd hn hdata

/-- What one access of `pd_timer_destroy` after the drain preserves. -/
theorem inv_api_after (h : Inv s) {ok : Bool} (hat : s.api.posted = true)
    (hstep : apiStep s ok = some s') : Inv s' := by
  have hnone := h.deleted (ApiPc.deleted_of_quiet (ApiPc.quiet_of_posted hat))
  have hidle := h.quiet (ApiPc.quiet_of_posted hat)
  have hmarked := h.marked (ApiPc.marked_of_posted hat)
  have hunstarted : ∀ x, s.data = some x → (x.started && x.queueTimer) = false →
      s.queueTimer = none ∧ s.pool = none := fun _ _ _ => ⟨hnone, hidle⟩
  have hdrained := h.drained
  have hlate := h.late
  have htimer := h.timer
  have hpointer := h.pointer
  have hdata := h.data
  have hnotstart : s.signalled = true → ∀ n, s.loop ≠ .start n := by
    intro hs n hn
    have hloop := (h.signalled hs).loop
    rw [hn] at hloop
    exact nomatch hloop
  have hapi := @Inv.api s h
  obtain ⟨timer, data, made, queue, pool, port, signalled, loop, api, onLoop⟩ := s
  cases api with
  | freeData =>
      obtain ⟨t, ht, hstep⟩ := Option.bind_eq_some_iff.1 hstep
      obtain rfl : timer = some t := ht
      rw [if_pos (hpointer t rfl rfl)] at hstep
      obtain rfl := Option.some.inj hstep
      exact hapi (fun x hx _ => hpointer x hx rfl) nofun (fun _ => rfl) (fun _ => hnone)
        (fun _ => hidle) nofun (fun _ _ => nofun) (fun _ => rfl) (fun _ => hdrained (Or.inl rfl))
        nofun
  | clearData =>
      obtain ⟨t, ht, hstep⟩ := Option.bind_eq_some_iff.1 hstep
      obtain rfl := Option.some.inj hstep
      exact hapi (fun _ _ => nofun) nofun (fun _ => rfl) (fun _ => hnone) (fun _ => hidle)
        hunstarted (fun _ => hmarked) (fun _ => rfl) (fun _ => hdrained (Or.inl rfl))
        (fun _ => hnotstart (hdrained (Or.inl rfl)))
  | freeWatcher drained =>
      obtain ⟨t, ht, hstep⟩ := Option.bind_eq_some_iff.1 hstep
      obtain rfl : timer = some t := ht
      obtain rfl := Option.some.inj hstep
      exact hapi (fun _ _ => nofun) nofun hdata (fun _ => hnone) (fun _ => hidle) hunstarted
        (fun _ => hmarked) (fun _ => rfl) hdrained (fun _ => hlate rfl)
  | freeTimer drained =>
      obtain rfl := Option.some.inj hstep
      refine hapi (fun _ _ => nofun) (fun _ => rfl) (fun _ => rfl) (fun _ => hnone) (fun _ => hidle)
        hunstarted (fun _ => hmarked) (fun _ => rfl) (fun hn => hdrained ?_) (fun _ => hlate rfl)
      cases drained with
      | true => exact Or.inl rfl
      | false =>
          rcases hn with hn | hn | hn
          · exact nomatch hn
          · exact Or.inr (Or.inl hn)
          · exact Or.inr (Or.inr hn)
  | waitEvent => exact nomatch hstep
  | destroyed => exact nomatch hstep
  | _ => exact nomatch hat

/-- A step of the timer queue or of the loop thread.  A packet of the timer is posted by
`iocp_timer_callback` only, so not behind the packet of the drain. -/
theorem Inv.keep (h : Inv s) {q : Option ℕ} {p : Option (ℕ × PoolPc)} {port : Port Packet}
    {pc : LoopPc} (hq : s.queueTimer = none → q = none)
    (hp : s.queueTimer = none → s.pool = none → p = none)
    (harr : port.arrived = s.port.arrived ∨ ∃ x, port.arrived = s.port.arrived ++ [x] ∧
      x ≠ .drain ∧ (x.isTimer = true → s.pool ≠ none))
    (hholds : pc.holds = true → s.loop.holds = true)
    (hlate : s.api.torn = true → ∀ n, pc ≠ .start n) :
    Inv { s with queueTimer := q, pool := p, port := port, loop := pc } := by
  have hidle : s.api.quiet = true → s.queueTimer = none ∧ s.pool = none :=
    fun hquiet => ⟨h.deleted (ApiPc.deleted_of_quiet hquiet), h.quiet hquiet⟩
  have hpool : .drain ∈ s.port.arrived ∨ s.signalled = true → s.pool = none :=
    fun hd => (hidle (ApiPc.quiet_of_posted (h.posted hd))).2
  refine ⟨h.pointer, h.timer, h.data, fun hd => hq (h.deleted hd),
    fun hquiet => hp (hidle hquiet).1 (hidle hquiet).2, fun d hd hn => ?_, h.marked, fun hd => ?_,
    ?_, fun hs => ?_, h.drained, hlate⟩
  · obtain ⟨hnone, hnopool⟩ := h.unstarted d hd hn
    exact ⟨hq hnone, hp hnone hnopool⟩
  · refine h.posted (hd.imp_left fun hm => ?_)
    rcases harr with harr | ⟨x, harr, hx, -⟩
    · exact harr ▸ hm
    · rw [harr, List.mem_append, List.mem_singleton] at hm
      exact hm.resolve_right fun heq => hx heq.symm
  · show port.arrived.Pairwise _
    rcases harr with harr | ⟨x, harr, -, hx⟩
    · exact harr ▸ h.order
    · rw [harr, List.pairwise_append]
      refine ⟨h.order, List.pairwise_singleton .., fun y hy z hz hdrain => ?_⟩
      obtain rfl := List.mem_singleton.1 hz
      rw [← Bool.not_eq_true]
      exact fun htimer => hx htimer (hpool (Or.inl (hdrain ▸ hy)))
  · have hdrained := h.signalled hs
    refine ⟨?_, ?_⟩
    · show ∀ y ∈ port.arrived, y.isTimer = false
      rcases harr with harr | ⟨x, harr, -, hx⟩
      · exact harr ▸ hdrained.port
      · intro y hy
        rw [harr, List.mem_append, List.mem_singleton] at hy
        rcases hy with hy | rfl
        · exact hdrained.port y hy
        · rw [← Bool.not_eq_true]
          exact fun htimer => hx htimer (hpool (Or.inr hs))
    · rw [← Bool.not_eq_true]
      exact fun hh => nomatch hdrained.loop.symm.trans (hholds hh)

theorem inv_fire (h : Inv s) {again : Bool} (hstep : fireStep s again = some s') : Inv s' := by
  obtain ⟨n, hn, hstep⟩ := Option.bind_eq_some_iff.1 hstep
  rw [Option.ite_none_right_eq_some] at hstep
  obtain rfl := Option.some.inj hstep.2
  refine h.keep (fun hnone => ?_) (fun hnone => ?_) (Or.inl rfl) id h.late
  · exact nomatch hn.symm.trans hnone
  · exact nomatch hn.symm.trans hnone

theorem inv_pool (h : Inv s) {ok : Bool} (hstep : poolStep s ok = some s') : Inv s' := by
  obtain ⟨⟨n, pc⟩, hn, hstep⟩ := Option.bind_eq_some_iff.1 hstep
  have hrun : s.pool ≠ none := fun hnone => nomatch hn.symm.trans hnone
  have hmove : ∀ p port, (port.arrived = s.port.arrived ∨
      ∃ x, port.arrived = s.port.arrived ++ [x] ∧ x ≠ .drain ∧
        (x.isTimer = true → s.pool ≠ none)) →
      Inv { s with pool := p, port := port } := by
    intro p port harr
    exact h.keep id (fun _ hnone => absurd hnone hrun) harr id h.late
  cases pc with
  | readTimer =>
      obtain ⟨t, -, hstep⟩ := Option.bind_eq_some_iff.1 hstep
      obtain rfl := Option.some.inj hstep
      exact hmove _ _ (Or.inl rfl)
  | readDestroyed =>
      obtain ⟨d, -, hstep⟩ := Option.bind_eq_some_iff.1 hstep
      obtain rfl := Option.some.inj hstep
      exact hmove _ _ (Or.inl rfl)
  | post =>
      obtain ⟨d, -, hstep⟩ := Option.bind_eq_some_iff.1 hstep
      obtain rfl := Option.some.inj hstep
      refine hmove _ _ ?_
      cases ok with
      | false => exact Or.inl rfl
      | true => exact Or.inr ⟨.timer n, Port.arrived_post, nofun, fun _ => hrun⟩

/-- What one access of the loop thread in its timer branch preserves. -/
theorem inv_loop (h : Inv s) (hstep : loopStep s = some s') : Inv s' := by
  have hmove : ∀ pc, (pc.holds = true → s.loop.holds = true) →
      (s.api.torn = true → ∀ n, pc ≠ .start n) → Inv { s with loop := pc } :=
    fun pc hholds hlate => h.keep id (fun _ => id) (Or.inl rfl) hholds hlate
  cases hl : s.loop with
  | readCallback n =>
      simp only [loopStep, hl] at hstep
      obtain ⟨t, -, hstep⟩ := Option.bind_eq_some_iff.1 hstep
      obtain rfl := Option.some.inj hstep
      exact hmove _ (fun _ => by rw [hl]; rfl) fun _ _ => nofun
  | readData n =>
      simp only [loopStep, hl] at hstep
      obtain ⟨t, -, hstep⟩ := Option.bind_eq_some_iff.1 hstep
      obtain rfl := Option.some.inj hstep
      refine hmove _ (fun _ => by rw [hl]; rfl) fun _ m => ?_
      split <;> exact nofun
  | readDestroyed n =>
      simp only [loopStep, hl] at hstep
      obtain ⟨d, hd, hstep⟩ := Option.bind_eq_some_iff.1 hstep
      obtain rfl := Option.some.inj hstep
      refine hmove _ (fun _ => by rw [hl]; rfl) fun htorn m => ?_
      -- once the drain has been given up, the timer is marked
      rw [h.marked (ApiPc.marked_of_posted (ApiPc.posted_of_torn htorn)) d hd]
      exact nofun
  | start n =>
      simp only [loopStep, hl] at hstep
      obtain ⟨t, -, hstep⟩ := Option.bind_eq_some_iff.1 hstep
      obtain rfl := Option.some.inj hstep
      exact hmove _ nofun fun _ _ => nofun
  | idle => simp [loopStep, hl] at hstep
  | waiting => simp [loopStep, hl] at hstep
  | dispatch => simp [loopStep, hl] at hstep
  | other => simp [loopStep, hl] at hstep
  | callback => simp [loopStep, hl] at hstep

/-- The loop takes a packet from the front of its batch. -/
theorem Inv.next (h : Inv s) {x : Packet} {port : Port Packet} {pc : LoopPc} {signalled : Bool}
    (harr : s.port.arrived = x :: port.arrived)
    (hholds : pc.holds = true → x.isTimer = true) (hstart : ∀ n, pc ≠ .start n)
    (hsig : signalled = true → s.signalled = true ∨ x = .drain)
    (hkeep : s.signalled = true → signalled = true) :
    Inv { s with port := port, signalled := signalled, loop := pc } := by
  have horder := h.order
  rw [harr, List.pairwise_cons] at horder
  have hmem : ∀ y ∈ port.arrived, y ∈ s.port.arrived := by
    intro y hy
    rw [harr]
    exact List.mem_cons_of_mem x hy
  refine ⟨h.pointer, h.timer, h.data, h.deleted, h.quiet, h.unstarted, h.marked, fun hd => ?_,
    horder.2, fun hs => ?_, fun hd => hkeep (h.drained hd), fun _ => hstart⟩
  · refine h.posted ?_
    rcases hd with hd | hd
    · exact Or.inl (hmem _ hd)
    · rcases hsig hd with hs | rfl
      · exact Or.inr hs
      · exact Or.inl (harr ▸ List.mem_cons_self)
  · rcases hsig hs with hs | rfl
    · have hdrained := h.signalled hs
      refine ⟨fun y hy => hdrained.port y (hmem y hy), ?_⟩
      rw [← Bool.not_eq_true]
      intro hh
      have hx := hdrained.port x (harr ▸ List.mem_cons_self)
      exact nomatch hx.symm.trans (hholds hh)
    · refine ⟨fun y hy => horder.1 y hy rfl, ?_⟩
      rw [← Bool.not_eq_true]
      exact fun hh => nomatch hholds hh

theorem inv_next (h : Inv s) (hstep : loopNext s = some s') : Inv s' := by
  unfold loopNext at hstep
  split_ifs at hstep with hdispatch
  cases hp : s.port.next with
  | none =>
      rw [hp] at hstep
      obtain rfl := Option.some.inj hstep
      exact h.keep id (fun _ => id) (Or.inl rfl) nofun fun _ _ => nofun
  | some r =>
      obtain ⟨x, port⟩ := r
      have harr := Port.arrived_of_next hp
      rw [hp] at hstep
      cases x with
      | timer n =>
          obtain rfl := Option.some.inj hstep
          exact h.next harr (fun _ => rfl) nofun Or.inl id
      | drain =>
          obtain rfl := Option.some.inj hstep
          have hno : s.loop.holds = false := by rw [hdispatch]; rfl
          refine h.next harr (fun hh => nomatch hno.symm.trans hh) (fun n hn => ?_)
            (fun _ => Or.inr rfl) (fun _ => rfl)
          exact nomatch hdispatch.symm.trans hn
      | other =>
          obtain rfl := Option.some.inj hstep
          exact h.next harr nofun nofun Or.inl id

/-- Neither the number of queue timers nor the thread of the call plays a part. -/
theorem Inv.relabel (h : Inv s) (made : ℕ) (onLoop : Bool) :
    Inv { s with made := made, onLoop := onLoop } :=
  ⟨h.pointer, h.timer, h.data, h.deleted, h.quiet, h.unstarted, h.marked, h.posted, h.order,
    fun hs => ⟨(h.signalled hs).port, (h.signalled hs).loop⟩, h.drained, h.late⟩

/-- `pd_timer_stop` or `pd_timer_destroy` is called. -/
theorem inv_call (h : Inv s) {pc : ApiPc} {onLoop : Bool}
    (hpc : pc = .stop .user ∨ pc = .destroy) (hstep : callStep s pc onLoop = some s') :
    Inv s' := by
  unfold callStep at hstep
  rw [Option.ite_none_right_eq_some] at hstep
  obtain ⟨⟨hidle, -⟩, hstep⟩ := hstep
  obtain rfl := Option.some.inj hstep
  have hat : s.api.posted = false := by rw [hidle]; rfl
  have hw : Inv { s with api := pc } := by
    rcases hpc with rfl | rfl
    · exact h.walk hat rfl nofun nofun nofun
    · exact h.walk hat rfl nofun nofun nofun
  exact hw.relabel s.made onLoop

theorem inv_start (h : Inv s) {ok : Bool} (hidle : s.api = .idle)
    (hstep : startStep s ok = some s') : Inv s' := by
  have hat : s.api.posted = false := by rw [hidle]; rfl
  obtain ⟨⟨active, pointer⟩, d, ht, hd, hp⟩ := h.live hat
  obtain rfl : pointer = true := hp
  simp only [startStep, ht, hd, Option.bind_eq_bind, Option.bind_some, Bool.not_true,
    Bool.false_eq_true, if_false] at hstep
  split_ifs at hstep
  · obtain rfl := Option.some.inj hstep
    exact h
  · obtain rfl := Option.some.inj hstep
    have hw : Inv { s with
        timer := some ⟨true, true⟩
        data := some { d with queueTimer := true, started := true }
        queueTimer := some s.made
        api := s.api } := by
      refine h.write hat hat rfl ?_ ?_ nofun ?_ <;> rw [hidle] <;> exact nofun
    exact hw.relabel (s.made + 1) s.onLoop
  · obtain rfl := Option.some.inj hstep
    exact h

/-- While the drain waits nothing has been freed. -/
theorem Inv.live_of_waitEvent (h : Inv s) (hpc : s.api = .waitEvent) :
    s.timer ≠ none ∧ s.data ≠ none := by
  constructor
  · intro hn
    exact nomatch hpc.symm.trans (h.timer hn)
  · intro hn
    have hfreed := h.data hn
    rw [hpc] at hfreed
    exact nomatch hfreed

/-- A wait ends with what it waits for. -/
theorem inv_wake (h : Inv s) (hstep : wakeStep s = some s') : Inv s' := by
  cases hpc : s.api with
  | waitStop c =>
      simp only [wakeStep, hpc, Option.ite_none_right_eq_some, Option.some.injEq] at hstep
      obtain ⟨hidle, rfl⟩ := hstep
      exact h.walk (by rw [hpc]; rfl) rfl (fun _ => h.deleted (by rw [hpc]; rfl)) (fun _ => hidle)
        nofun
  | waitCallback =>
      simp only [wakeStep, hpc, Option.ite_none_right_eq_some, Option.some.injEq] at hstep
      obtain ⟨hidle, rfl⟩ := hstep
      exact h.walk (by rw [hpc]; rfl) rfl (fun _ => h.deleted (by rw [hpc]; rfl)) (fun _ => hidle)
        (fun _ => h.marked (by rw [hpc]; rfl))
  | waitEvent =>
      simp only [wakeStep, hpc, Option.ite_none_right_eq_some, Option.some.injEq] at hstep
      obtain ⟨hs, rfl⟩ := hstep
      have hnone := h.deleted (by rw [hpc]; rfl)
      have hidle := h.quiet (by rw [hpc]; rfl)
      obtain ⟨htimer, hdata⟩ := h.live_of_waitEvent hpc
      exact h.api (fun t ht _ => h.pointer t ht (by rw [hpc]; rfl)) (fun hn => absurd hn htimer)
        (fun hn => absurd hn hdata) (fun _ => hnone) (fun _ => hidle)
        (fun _ _ _ => ⟨hnone, hidle⟩) (fun _ => h.marked (by rw [hpc]; rfl)) (fun _ => rfl)
        (fun _ => hs) nofun
  | _ => simp [wakeStep, hpc] at hstep

/-- A wait gives up. -/
theorem inv_expire (h : Inv s) (hok : Step.Patient s .expire) (hstep : expireStep s = some s') :
    Inv s' := by
  cases hpc : s.api with
  | waitStop c =>
      simp only [expireStep, hpc] at hstep
      obtain rfl := Option.some.inj hstep
      have hidle : s.pool = none := by simpa [Step.Patient, Step.patient, hpc] using hok
      exact h.walk (by rw [hpc]; rfl) rfl (fun _ => h.deleted (by rw [hpc]; rfl)) (fun _ => hidle)
        nofun
  | waitEvent =>
      simp only [expireStep, hpc] at hstep
      obtain rfl := Option.some.inj hstep
      have hloop : s.loop.starting = false := by simpa [Step.Patient, Step.patient, hpc] using hok
      have hnone := h.deleted (by rw [hpc]; rfl)
      have hidle := h.quiet (by rw [hpc]; rfl)
      obtain ⟨htimer, hdata⟩ := h.live_of_waitEvent hpc
      refine h.api (fun _ _ => nofun) (fun hn => absurd hn htimer) (fun hn => absurd hn hdata)
        (fun _ => hnone) (fun _ => hidle) (fun _ _ _ => ⟨hnone, hidle⟩)
        (fun _ => h.marked (by rw [hpc]; rfl)) (fun _ => rfl) (fun hn => ?_) fun _ n hn => ?_
      · rcases hn with hn | hn | hn
        · exact nomatch hn
        · exact absurd hn htimer
        · exact absurd hn hdata
      · rw [hn] at hloop
        exact nomatch hloop
  | _ => simp [expireStep, hpc] at hstep

theorem inv_step (h : Inv s) {l : Step} (hok : l.Patient s) (hstep : step s l = some s') :
    Inv s' := by
  cases l with
  | start ok =>
      simp only [step, Option.ite_none_right_eq_some] at hstep
      exact inv_start h hstep.1 hstep.2
  | stop onLoop => exact inv_call h (Or.inl rfl) hstep
  | destroy onLoop => exact inv_call h (Or.inr rfl) hstep
  | api ok =>
      cases hat : s.api.posted with
      | true => exact inv_api_after h hat hstep
      | false =>
          by_cases hcreate : s.api = .createEvent
          · exact inv_createEvent h hok hcreate hstep
          · by_cases hpost : s.api = .postSync
            · exact inv_postSync h hpost hstep
            · exact inv_api_before h hok hat hcreate hpost hstep
  | wake => exact inv_wake h hstep
  | expire => exact inv_expire h hok hstep
  | fire again => exact inv_fire h hstep
  | pool ok => exact inv_pool h hstep
  | next => exact inv_next h hstep
  | loop => exact inv_loop h hstep
  | enter =>
      simp only [step, Option.ite_none_right_eq_some, Option.some.injEq] at hstep
      obtain ⟨-, rfl⟩ := hstep
      exact h.keep id (fun _ => id) (Or.inl rfl) nofun fun _ _ => nofun
  | take k =>
      simp only [step, Option.ite_none_right_eq_some, Option.some.injEq] at hstep
      obtain ⟨-, rfl⟩ := hstep
      exact h.keep id (fun _ => id) (Or.inl Port.arrived_take) nofun fun _ _ => nofun
  | ret =>
      simp only [step, Option.ite_none_right_eq_some, Option.some.injEq] at hstep
      obtain ⟨-, rfl⟩ := hstep
      exact h.keep id (fun _ => id) (Or.inl rfl) nofun fun _ _ => nofun
  | post =>
      obtain rfl := Option.some.inj hstep
      exact h.keep id (fun _ => id) (Or.inr ⟨.other, Port.arrived_post, nofun, nofun⟩) id h.late

theorem inv_created : Inv created where
  pointer t ht _ := by
    obtain rfl := Option.some.inj ht
    rfl
  timer ht := nomatch ht
  data hd := nomatch hd
  deleted hd := nomatch hd
  quiet hq := nomatch hq
  unstarted _ _ _ := ⟨rfl, rfl⟩
  marked hm := nomatch hm
  posted hp := by
    rcases hp with hp | hp
    · exact nomatch hp
    · exact nomatch hp
  order := List.Pairwise.nil
  signalled hs := nomatch hs
  drained hd := by
    rcases hd with hd | hd | hd
    · exact nomatch hd
    · exact nomatch hd
    · exact nomatch hd
  late ht := nomatch ht

end

/-- If the waits see to it, no thread touches the timer or its data after they have been
freed, and the callback is not invoked after `pd_timer_destroy` has returned. -/
theorem teardown_safe {s : State} (h : timerRuns.Reach Step.Patient s) : Safe s := by
  have hinv : Inv s := by
    refine h.invariant (I := Inv) ?_ ?_
    · rintro _ rfl
      exact inv_created
    · exact fun s l s' hi hok hnext => inv_step hi hok hnext
  exact hinv.safe

/-- A timer expires and is destroyed; the loop comes to its packet while it is. -/
def destroyExpired : List Step :=
  [.start true, .fire false, .pool true, .pool true, .pool true, .destroy false, .api true,
    .api true, .api true, .api true, .wake, .api true, .api true, .api true, .api true, .api true,
    .api true, .enter, .take 2, .next, .loop, .loop, .loop, .next, .wake, .api true, .api true,
    .api true, .api true]

theorem destroyExpired_safe : ∃ s,
    Machine.runGuarded Step.Patient step created destroyExpired = some s ∧ s.timer = none ∧
      s.api = .destroyed ∧ Safe s := by
  have hrun : ∃ s, Machine.runGuarded Step.Patient step created destroyExpired = some s ∧
      s.timer = none ∧ s.api = .destroyed := ⟨_, rfl, rfl, rfl⟩
  obtain ⟨s, hrun, hfree, hret⟩ := hrun
  exact ⟨s, hrun, hfree, hret, teardown_safe (.runGuarded (.init rfl) hrun)⟩

/-- The thread of the timer queue is held up for five seconds in `iocp_timer_callback`,
before it has read anything. -/
def destroyExpiring : List Step :=
  [.start true, .fire false, .destroy false, .api true, .api true, .api true, .api true, .expire,
    .api true, .api true, .api true, .api true, .api true, .api true, .enter, .take 1, .next,
    .wake, .api true, .api true, .api true, .api true]

/-- It goes on when the timer has been freed. -/
theorem not_teardown_safe : ¬∀ s, timerRuns.Reachable s → Safe s := by
  intro hall
  have hrun : ∃ s, Machine.run step created destroyExpiring = some s ∧ s.timer = none ∧
      s.touchesTimer = true := ⟨_, rfl, rfl, rfl⟩
  obtain ⟨s, hrun, hfree, htouch⟩ := hrun
  have hlive := (hall s (.run (.init rfl) hrun)).timer htouch
  rw [hfree] at hlive
  exact nomatch hlive

/-- The loop thread is held up before it invokes the callback, and the drain gives up. -/
def destroyStarting : List Step :=
  [.start true, .fire false, .pool true, .pool true, .pool true, .enter, .take 1, .next, .loop,
    .loop, .loop, .destroy false, .api true, .api true, .api true, .api true, .wake, .api true,
    .api true, .api true, .api true, .api true, .api true, .expire, .api true, .api true]

example : (Machine.run step created destroyStarting).map (fun s => (s.api, s.loop)) =
    some (.destroyed, .start 0) := rfl

end Timer
end Iocp
end PollDancer
