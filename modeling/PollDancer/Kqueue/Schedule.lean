/-
# The schedule of a timer of kqueue

An `EVFILT_TIMER` filter expires every `data` milliseconds from its `EV_ADD` on, until it is
deleted; an `EV_ONESHOT` filter is deleted when its first expiration is reported.
`pd_timer_create` promises a first call after `timeout_ms`, where 0 stands for at once, and
further ones every `interval_ms`, where 0 stands for none.

`kqueue_timer_start` adds a filter for the first delay only where it is neither zero nor the
interval.  Elsewhere one filter without `EV_ONESHOT` serves both: a timer without an interval
repeats its delay for ever, and a timer without a first delay waits for its interval.
`fires_promised_iff` says which timers keep their promise.
-/
import Mathlib.Algebra.Group.Nat.Defs
import PollDancer.Kqueue.TimerArmed

namespace PollDancer
namespace Kqueue

/-- The delay of a filter.  Its `data` is signed. -/
def TimerKnote.delay (n : TimerKnote) : ℕ := n.period.toInt64.toInt.toNat

/-- A loop with the time at which the filter of the timer was added, and the number of its
expirations since. -/
structure Clocked where
  world : KqueueWorld
  added : ℕ
  expired : ℕ

/-- The time of the next expiration. -/
def Clocked.due (t : Addr) (c : Clocked) : Option ℕ :=
  (c.world.sys.kernel.timers t).map fun n => c.added + (c.expired + 1) * n.delay

/-- The filter expires, and `kqueue_loop_run` comes to the event at once: the time at which it
invokes the callback, and the loop then.  An `EV_ADD` starts a new count. -/
def Clocked.fire (t : Addr) (refused : Bool) (c : Clocked) : Option (ℕ × Clocked) := do
  let now ← c.due t
  let (k, _) ← (kqueueTimers t).report ⟨c.world, some 1⟩
  let world := ((kqueueTimers t).acknowledge k refused).world
  if !(kqueueTimers t).invokes k then none
  else if pendingInitial k.world t && !refused then some (now, ⟨world, now, 0⟩)
  else some (now, ⟨world, c.added, c.expired + 1⟩)

/-- What is around the timer: whether the kernel refuses an `EV_ADD` of the loop, and what
the program does from the `j`-th callback to the next expiration. -/
structure Course where
  refused : ℕ → Bool
  program : ℕ → KqueueWorld → KqueueWorld

/-- The program neither stops nor destroys the timer. -/
def Course.Spares (e : Course) (t : Addr) : Prop :=
  ∀ j s, (e.program j s).sys.timers t = s.sys.timers t ∧
    (e.program j s).sys.kernel.timers t = s.sys.kernel.timers t

/-- The loop after `j` calls of the callback, `none` if there are not so many. -/
def Clocked.after (t : Addr) (e : Course) (c : Clocked) : ℕ → Option Clocked
  | 0 => some c
  | j + 1 => do
      let c ← c.after t e j
      let (_, c) ← c.fire t (e.refused j)
      some { c with world := e.program j c.world }

/-- The time of the `j`-th call of the callback, counted from 0. -/
def Clocked.fires (t : Addr) (e : Course) (c : Clocked) (j : ℕ) : Option ℕ := do
  let c ← c.after t e j
  let (now, _) ← c.fire t (e.refused j)
  some now

/-- The time of the `j`-th call that `pd_timer_create` promises, for a timer started at `t₀`. -/
def promised (t₀ : ℕ) (timeoutMs intervalMs : UInt64) : ℕ → Option ℕ
  | 0 => some (t₀ + max 1 timeoutMs.toNat)
  | j + 1 =>
    if intervalMs > 0 then some (t₀ + max 1 timeoutMs.toNat + (j + 1) * intervalMs.toNat) else none

/-- The loop right after `pd_timer_start` at the time `t₀`. -/
def startedAt (s : KqueueWorld) (t : Addr) (refused : Option Errno) (t₀ : ℕ) : Clocked where
  world := (pdTimerStart s t refused).1
  added := t₀
  expired := 0

variable {s : KqueueWorld} {t : Addr} {e : Course} {c : Clocked} {n : TimerKnote}
  {tm : PdTimer KqueueTimerData} {td : KqueueTimerData}

theorem TimerKnote.delay_of_lt (h : n.period.toNat < 2 ^ 63) : n.delay = n.period.toNat := by
  have hint : n.period.toInt64.toInt = n.period.toNat :=
    BitVec.toInt_eq_toNat_of_lt (by
      change 2 * n.period.toNat < 2 ^ 64
      omega)
  rw [delay, hint, Int.toNat_natCast]

/-- What the loop reports for a filter. -/
theorem report_of_filter (h : s.sys.kernel.timers t = some n) :
    (kqueueTimers t).report ⟨s, some 1⟩ =
      some (⟨if n.oneshot then setTimerKnote s t none else s, none⟩, 1) := by
  change Watched.report ⟨s, some 1⟩ t = _
  simp only [Watched.report, h]
  rfl

theorem due_of_filter (h : c.world.sys.kernel.timers t = some n) :
    c.due t = some (c.added + (c.expired + 1) * n.delay) := by
  rw [Clocked.due, h, Option.map_some]

theorem Clocked.fires_zero {c' : Clocked} {now : ℕ} (h : c.fire t (e.refused 0) = some (now, c')) :
    c.fires t e 0 = some now := by
  rw [Clocked.fires, Clocked.after]
  simp [h]

theorem Clocked.after_one {c' : Clocked} {now : ℕ} (h : c.fire t (e.refused 0) = some (now, c')) :
    c.after t e 1 = some { c' with world := e.program 0 c'.world } := by
  rw [Clocked.after, Clocked.after]
  simp [h]

/-! ### A filter that repeats -/

/-- The timer has a filter that repeats, and the loop is not to replace it. -/
structure Repeating (t : Addr) (n : TimerKnote) (s : KqueueWorld) : Prop where
  filter : s.sys.kernel.timers t = some n
  repeats : n.oneshot = false
  settled : ∃ tm td, s.sys.timers t = some tm ∧ tm.platformData = some td ∧
    td.pendingInitial = false

/-- The loop leaves a filter that repeats alone. -/
theorem Repeating.fire (h : Repeating t n c.world) (refused : Bool) :
    c.fire t refused =
      some (c.added + (c.expired + 1) * n.delay, { c with expired := c.expired + 1 }) := by
  obtain ⟨tm, td, htm, hp, hfirst⟩ := h.settled
  have hpending : pendingInitial c.world t = false :=
    (pendingInitial_of_some htm hp).trans hfirst
  have hinvokes : (kqueueTimers t).invokes ⟨c.world, none⟩ = true := congrArg Option.isSome htm
  have hack : ((kqueueTimers t).acknowledge ⟨c.world, none⟩ refused).world = c.world := by
    change c.world.setSys (rearm c.world.sys t refused) = c.world
    rw [rearm_of_not_pending htm hp hfirst]
    rfl
  simp only [Clocked.fire, due_of_filter h.filter, report_of_filter h.filter, h.repeats]
  simp [hinvokes, hpending, hack]

/-- Nor does a program that spares the timer touch it. -/
theorem Repeating.spared (h : Repeating t n s) (he : e.Spares t) (j : ℕ) :
    Repeating t n (e.program j s) where
  filter := (he j s).2.trans h.filter
  repeats := h.repeats
  settled := by
    obtain ⟨tm, td, htm, hrest⟩ := h.settled
    exact ⟨tm, td, (he j s).1.trans htm, hrest⟩

/-- Once a filter repeats, it stays in place, and every expiration counts. -/
theorem Repeating.after {c₀ : Clocked} {i : ℕ} (h : Repeating t n c.world) (he : e.Spares t)
    (hi : c₀.after t e i = some c) (j : ℕ) :
    ∃ c', c₀.after t e (i + j) = some c' ∧ Repeating t n c'.world ∧ c'.added = c.added ∧
      c'.expired = c.expired + j := by
  induction j with
  | zero => exact ⟨c, hi, h, rfl, rfl⟩
  | succ j ih =>
      obtain ⟨c', hafter, hrep, hadded, hexpired⟩ := ih
      refine ⟨{ c' with world := e.program (i + j) c'.world, expired := c'.expired + 1 }, ?_,
        hrep.spared he (i + j), hadded, ?_⟩
      · rw [← Nat.add_assoc, Clocked.after, hafter]
        simp [hrep.fire]
      · change c'.expired + 1 = c.expired + (j + 1)
        omega

/-- From then on the callback is invoked once in each period. -/
theorem Repeating.fires {c₀ : Clocked} {i : ℕ} (h : Repeating t n c.world) (he : e.Spares t)
    (hi : c₀.after t e i = some c) (j : ℕ) :
    c₀.fires t e (i + j) = some (c.added + (c.expired + j + 1) * n.delay) := by
  obtain ⟨c', hafter, hrep, hadded, hexpired⟩ := h.after he hi j
  rw [Clocked.fires, hafter, ← hadded, ← hexpired]
  simp [hrep.fire]

/-! ### A filter for the first delay -/

/-- The timer has a one-shot filter, and the loop is to replace it. -/
structure Leading (t : Addr) (n : TimerKnote) (tm : PdTimer KqueueTimerData) (s : KqueueWorld) :
    Prop where
  filter : s.sys.kernel.timers t = some n
  oneshot : n.oneshot = true
  timer : s.sys.timers t = some tm
  pending : ∃ td, tm.platformData = some td ∧ td.pendingInitial = true

/-- The first filter goes with its event.  The loop adds one that repeats every `interval_ms`,
or, where the kernel refuses it, nothing. -/
theorem Leading.fire (h : Leading t n tm c.world) (refused : Bool) :
    ∃ c', c.fire t refused = some (c.added + (c.expired + 1) * n.delay, c') ∧
      (refused = false → Repeating t ⟨false, tm.intervalMs⟩ c'.world ∧
        c'.added = c.added + (c.expired + 1) * n.delay ∧ c'.expired = 0) ∧
      (refused = true → c'.world.sys.kernel.timers t = none) := by
  obtain ⟨td, hp, hfirst⟩ := h.pending
  have htm : (setTimerKnote c.world t none).sys.timers t = some tm := h.timer
  have hpending : pendingInitial (setTimerKnote c.world t none) t = true :=
    (pendingInitial_of_some htm hp).trans hfirst
  have hinvokes : (kqueueTimers t).invokes ⟨setTimerKnote c.world t none, none⟩ = true :=
    congrArg Option.isSome htm
  have hsys : ∀ r, ((kqueueTimers t).acknowledge ⟨setTimerKnote c.world t none, none⟩ r).world =
      (setTimerKnote c.world t none).setSys (rearm (setTimerKnote c.world t none).sys t r) :=
    fun r => rfl
  simp only [Clocked.fire, due_of_filter h.filter, report_of_filter h.filter, h.oneshot]
  simp only [if_true, Option.bind_eq_bind, Option.bind_some, hinvokes, hpending, hsys, rearm, htm,
    hp, hfirst, Bool.not_true, Bool.false_eq_true, if_false, Bool.true_and]
  cases refused with
  | false =>
      refine ⟨_, rfl, fun _ => ⟨⟨Function.update_self .., rfl, _, _, Function.update_self .., rfl,
        rfl⟩, rfl, rfl⟩, fun h => absurd h Bool.false_ne_true⟩
  | true =>
      refine ⟨_, rfl, fun h => absurd h.symm Bool.false_ne_true, fun _ => ?_⟩
      exact setTimerKnote_knote_self ..

/-- The first call comes when the one-shot filter expires. -/
theorem Leading.fires_zero (h : Leading t n tm c.world) :
    c.fires t e 0 = some (c.added + (c.expired + 1) * n.delay) := by
  obtain ⟨c', hfire, -⟩ := h.fire (e.refused 0)
  exact c.fires_zero hfire

/-- Where the kernel refuses the second filter, there is no second call. -/
theorem Leading.fires_refused (h : Leading t n tm c.world) (he : e.Spares t)
    (hrefused : e.refused 0 = true) : c.fires t e 1 = none := by
  obtain ⟨c', hfire, -, hgone⟩ := h.fire (e.refused 0)
  have hnone := (he 0 c'.world).2.trans (hgone hrefused)
  rw [Clocked.fires, c.after_one hfire]
  simp [Clocked.fire, Clocked.due, hnone]

/-- Where the kernel takes it, the later calls are an interval apart. -/
theorem Leading.fires_succ (h : Leading t n tm c.world) (he : e.Spares t)
    (haccepted : e.refused 0 = false) (hi : tm.intervalMs.toNat < 2 ^ 63) (j : ℕ) :
    c.fires t e (j + 1) =
      some (c.added + (c.expired + 1) * n.delay + (j + 1) * tm.intervalMs.toNat) := by
  obtain ⟨c', hfire, hrepeats, -⟩ := h.fire (e.refused 0)
  obtain ⟨hrep, hadded, hexpired⟩ := hrepeats haccepted
  have hinterval : (⟨false, tm.intervalMs⟩ : TimerKnote).delay = tm.intervalMs.toNat :=
    TimerKnote.delay_of_lt hi
  have hfires := (hrep.spared he 0).fires (c := { c' with world := _ }) he (c.after_one hfire) j
  refine (congrArg (c.fires t e) (Nat.add_comm j 1)).trans (hfires.trans ?_)
  simp only [hadded, hexpired, hinterval, Nat.zero_add]

/-! ### The two schedules -/

/-- A timer without its data cannot be started. -/
theorem platformData_of_start {refused : Option Errno} (htm : s.sys.timers t = some tm)
    (hact : tm.active = false) (hok : (pdTimerStart s t refused).2 = .ok) :
    ∃ td, tm.platformData = some td := by
  cases hp : tm.platformData with
  | some td => exact ⟨td, rfl⟩
  | none =>
      have hfail : (kqueueTimerStart (setActive s t true) t { tm with active := true }
          refused).2 ≠ .ok := by
        rw [kqueueTimerStart]
        cases (setActive s t true).sys.data <;> simp [hp]
      simp [pdTimerStart, htm, hact, hfail] at hok

/-- What `pd_timer_start` leaves behind. -/
theorem startedAt_cases {refused : Option Errno} (htm : s.sys.timers t = some tm)
    (hact : tm.active = false) (hok : (pdTimerStart s t refused).2 = .ok) (t₀ : ℕ) :
    (twoPhase tm = false → Repeating t (timerKnote tm) (startedAt s t refused t₀).world) ∧
    (twoPhase tm = true → ∃ tm', tm'.intervalMs = tm.intervalMs ∧
      Leading t (timerKnote tm) tm' (startedAt s t refused t₀).world) := by
  obtain ⟨td, hp⟩ := platformData_of_start htm hact hok
  have hworld : (startedAt s t refused t₀).world = _ := timerStart_of_ok htm hact hp hok
  have hfilter : (startedAt s t refused t₀).world.sys.kernel.timers t = some (timerKnote tm) := by
    rw [hworld]
    exact setTimerKnote_knote_self ..
  have htimer : (startedAt s t refused t₀).world.sys.timers t =
      some { tm with active := true, platformData := some ⟨true, twoPhase tm⟩ } := by
    rw [hworld]
    exact setTimer_timers_self ..
  constructor
  · intro htwo
    exact ⟨hfilter, timerKnote_oneshot.trans htwo, _, _, htimer, rfl, htwo⟩
  · intro htwo
    exact ⟨{ tm with active := true, platformData := some ⟨true, twoPhase tm⟩ }, rfl, hfilter,
      timerKnote_oneshot.trans htwo, htimer, _, rfl, htwo⟩

/-- When `kqueue_timer_start` adds a one-shot filter, in numbers. -/
theorem twoPhase_iff : twoPhase tm = true ↔ 0 < tm.intervalMs.toNat ∧
    tm.timeoutMs.toNat ≠ tm.intervalMs.toNat ∧ tm.timeoutMs.toNat ≠ 0 := by
  have htimeout : tm.timeoutMs = 0 ↔ tm.timeoutMs.toNat = 0 := UInt64.toNat_inj.symm
  have hsame : tm.timeoutMs = tm.intervalMs ↔ tm.timeoutMs.toNat = tm.intervalMs.toNat :=
    UInt64.toNat_inj.symm
  have hpos : tm.intervalMs > 0 ↔ 0 < tm.intervalMs.toNat := UInt64.lt_iff_toNat_lt
  simp only [twoPhase, Bool.and_eq_true, decide_eq_true_eq, bne_iff_ne, ne_eq, htimeout, hsame,
    hpos, and_assoc]

/-- The delay of the filter that `kqueue_timer_start` adds. -/
theorem timerKnote_delay (ht : tm.timeoutMs.toNat < 2 ^ 63) (hi : tm.intervalMs.toNat < 2 ^ 63) :
    (timerKnote tm).delay =
      if twoPhase tm then tm.timeoutMs.toNat
      else if 0 < tm.intervalMs.toNat then tm.intervalMs.toNat
      else max 1 tm.timeoutMs.toNat := by
  have hpos : tm.intervalMs > 0 ↔ 0 < tm.intervalMs.toNat := UInt64.lt_iff_toNat_lt
  have hzero : ∀ v : UInt64, v = 0 ↔ v.toNat = 0 := fun v => UInt64.toNat_inj.symm
  unfold timerKnote
  simp only [hpos]
  split_ifs with htwo hinterval hvalue hvalue
  · exact TimerKnote.delay_of_lt ht
  · rw [hzero] at hvalue
    omega
  · exact TimerKnote.delay_of_lt hi
  · rw [hzero] at hvalue
    rw [hvalue]
    rfl
  · rw [hzero] at hvalue
    rw [TimerKnote.delay_of_lt ht]
    change tm.timeoutMs.toNat = _
    omega

/-- One filter keeps the promise exactly if it is for the interval, and that is the first
delay. -/
theorem promised_of_repeating {t₀ d : ℕ} :
    (∀ j, some (t₀ + (0 + j + 1) * d) = promised t₀ tm.timeoutMs tm.intervalMs j) ↔
      tm.intervalMs > 0 ∧ d = max 1 tm.timeoutMs.toNat ∧ d = tm.intervalMs.toNat := by
  constructor
  · intro h
    have hfirst := Option.some.inj (h 0)
    have hsecond := h 1
    rw [promised] at hsecond
    split_ifs at hsecond with hpos
    have hsecond := Option.some.inj hsecond
    refine ⟨hpos, ?_, ?_⟩ <;> omega
  · rintro ⟨hpos, hfirst, hinterval⟩ j
    cases j with
    | zero => rw [promised, ← hfirst]; simp
    | succ j =>
        rw [promised, if_pos hpos, ← hfirst, ← hinterval]
        congr 1
        rw [Nat.zero_add, Nat.add_mul (j + 1) 1 d]
        omega

/-- What a timer needs to keep its promise: an interval, of 1 ms if it is to call at once,
and, after a first delay of its own, a kernel that takes the filter for the interval. -/
structure KeepsSchedule (tm : PdTimer KqueueTimerData) (e : Course) : Prop where
  repeats : tm.intervalMs > 0
  immediate : tm.timeoutMs = 0 → tm.intervalMs = 1
  accepted : twoPhase tm = true → e.refused 0 = false

/-- One filter that is there for good: the first delay has to be the interval. -/
theorem Repeating.promised_iff (h : Repeating t (timerKnote tm) c.world) (he : e.Spares t)
    (hnew : c.expired = 0) (hphase : twoPhase tm = false) (ht : tm.timeoutMs.toNat < 2 ^ 63)
    (hi : tm.intervalMs.toNat < 2 ^ 63) :
    (∀ j, c.fires t e j = promised c.added tm.timeoutMs tm.intervalMs j) ↔ KeepsSchedule tm e := by
  have hfires : ∀ j, c.fires t e (0 + j) = some (c.added + (c.expired + j + 1) * _) :=
    fun j => h.fires he rfl j
  simp only [Nat.zero_add, hnew] at hfires
  have hfires' : (∀ j, c.fires t e j = promised c.added tm.timeoutMs tm.intervalMs j) ↔
      ∀ j, some (c.added + (0 + j + 1) * (timerKnote tm).delay) =
        promised c.added tm.timeoutMs tm.intervalMs j := by
    simp only [hfires, Nat.zero_add]
  have hpos : tm.intervalMs > 0 ↔ 0 < tm.intervalMs.toNat := UInt64.lt_iff_toNat_lt
  have hzero : tm.timeoutMs = 0 ↔ tm.timeoutMs.toNat = 0 := UInt64.toNat_inj.symm
  have hone : tm.intervalMs = 1 ↔ tm.intervalMs.toNat = 1 := UInt64.toNat_inj.symm
  have hdelay := timerKnote_delay ht hi
  rw [hphase, if_neg Bool.false_ne_true] at hdelay
  have hnot := mt twoPhase_iff.2 (Bool.eq_false_iff.1 hphase)
  refine hfires'.trans (promised_of_repeating.trans ⟨?_, fun hkeeps => ?_⟩)
  · rintro ⟨hrepeats, hfirst, hinterval⟩
    refine ⟨hrepeats, fun h => ?_, fun h => absurd (hphase.symm.trans h) Bool.false_ne_true⟩
    rw [hone]
    rw [hzero] at h
    omega
  · have hrepeats := hpos.1 hkeeps.repeats
    have himmediate := hkeeps.immediate
    rw [hzero, hone] at himmediate
    rw [if_pos hrepeats] at hdelay
    refine ⟨hkeeps.repeats, ?_, hdelay⟩
    omega

/-- A one-shot filter for the first delay: the kernel has to take the one for the interval. -/
theorem Leading.promised_iff {tm' : PdTimer KqueueTimerData}
    (h : Leading t (timerKnote tm) tm' c.world) (he : e.Spares t)
    (hsame : tm'.intervalMs = tm.intervalMs) (hnew : c.expired = 0) (hphase : twoPhase tm = true)
    (ht : tm.timeoutMs.toNat < 2 ^ 63) (hi : tm.intervalMs.toNat < 2 ^ 63) :
    (∀ j, c.fires t e j = promised c.added tm.timeoutMs tm.intervalMs j) ↔ KeepsSchedule tm e := by
  have hpos : tm.intervalMs > 0 ↔ 0 < tm.intervalMs.toNat := UInt64.lt_iff_toNat_lt
  have hzero : tm.timeoutMs = 0 ↔ tm.timeoutMs.toNat = 0 := UInt64.toNat_inj.symm
  obtain ⟨hrepeats, -, hdelayed⟩ := twoPhase_iff.1 hphase
  have hfirst : c.added + (c.expired + 1) * (timerKnote tm).delay =
      c.added + max 1 tm.timeoutMs.toNat := by
    rw [hnew, timerKnote_delay ht hi, hphase, if_pos rfl]
    omega
  constructor
  · intro hall
    refine ⟨hpos.2 hrepeats, fun hz => absurd (hzero.1 hz) hdelayed, fun _ => ?_⟩
    by_contra hyes
    have hsecond := hall 1
    rw [h.fires_refused he (Bool.of_not_eq_false hyes)] at hsecond
    simp only [promised, hpos, hrepeats] at hsecond
    exact absurd hsecond.symm (Option.some_ne_none _)
  · intro hkeeps j
    cases j with
    | zero => exact h.fires_zero.trans (congrArg some hfirst)
    | succ j =>
        rw [h.fires_succ he (hkeeps.accepted hphase) (hsame ▸ hi), hsame]
        simp only [promised, hpos, hrepeats]
        exact congrArg (fun a => some (a + (j + 1) * tm.intervalMs.toNat)) hfirst

/-- **A timer of kqueue that is not stopped calls back at the promised times exactly if it has
an interval, of 1 ms where the first call is to come at once, and the kernel does not refuse
the filter that replaces a first, one-shot one.** -/
theorem fires_promised_iff {refused : Option Errno} {t₀ : ℕ} (htm : s.sys.timers t = some tm)
    (hact : tm.active = false) (hok : (pdTimerStart s t refused).2 = .ok) (he : e.Spares t)
    (ht : tm.timeoutMs.toNat < 2 ^ 63) (hi : tm.intervalMs.toNat < 2 ^ 63) :
    (∀ j, (startedAt s t refused t₀).fires t e j =
      promised t₀ tm.timeoutMs tm.intervalMs j) ↔ KeepsSchedule tm e := by
  obtain ⟨hone, htwo⟩ := startedAt_cases htm hact hok t₀
  cases hphase : twoPhase tm with
  | false => exact (hone hphase).promised_iff he rfl hphase ht hi
  | true =>
      obtain ⟨tm', hsame, hlead⟩ := htwo hphase
      exact hlead.promised_iff he hsame rfl hphase ht hi

/-- A timer with these delays has just been created, on a loop of its own. -/
def createdWith (timeoutMs intervalMs : UInt64) : KqueueWorld :=
  (pdTimerCreate (kqueueLoopCreate fun _ => false) timeoutMs intervalMs (some (.user 2)) NULL
    ⟨some 300, true, some 200, true⟩).1

/-- The kernel refuses nothing, and the program leaves the loop alone. -/
def Course.quiet : Course := ⟨fun _ => false, fun _ s => s⟩

/-- A timer of 50 ms that repeats every 20 ms, started at 1000, keeps its promise, and its
second call comes at 1070. -/
theorem ticker_fires_promised :
    (∀ j, (startedAt (createdWith 50 20) 300 none 1000).fires 300 .quiet j =
      promised 1000 50 20 j) ∧ promised 1000 50 20 1 = some 1070 :=
  ⟨(fires_promised_iff (s := createdWith 50 20) (t := 300) rfl rfl rfl (fun _ _ => ⟨rfl, rfl⟩)
    (by decide) (by decide)).2 ⟨by decide, by decide, fun _ => rfl⟩, rfl⟩

/-- A timer of 50 ms without an interval, started at 1000, calls at 1050 and again at 1100. -/
theorem not_fires_promised :
    ¬∀ s t tm refused e t₀, s.sys.timers t = some tm → tm.active = false →
      (pdTimerStart s t refused).2 = .ok → Course.Spares e t → tm.timeoutMs.toNat < 2 ^ 63 →
      tm.intervalMs.toNat < 2 ^ 63 → ∀ j, (startedAt s t refused t₀).fires t e j =
        promised t₀ tm.timeoutMs tm.intervalMs j := by
  intro h
  have hpromised := h (createdWith 50 0) 300 _ none .quiet 1000 rfl rfl rfl
    (fun _ _ => ⟨rfl, rfl⟩) (by decide) (by decide) 1
  have hfires : (startedAt (createdWith 50 0) 300 none 1000).fires 300 .quiet 1 = some 1100 := rfl
  exact nomatch hfires.symm.trans hpromised

end Kqueue
end PollDancer
