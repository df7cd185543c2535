/-
# The filters of the timers

Which timers of a kqueue loop have a filter, and which filter.  In a prompt run every filter
is that of an active timer, with the delay of its first phase or with its interval.  The
converse has two exceptions, both for timers that repeat after a different first delay.  Such
a timer has a one-shot filter first, which goes with the report, so it has none until the loop
has read the report and has set it up again.  And the kernel may refuse that: the result is
ignored, and the timer stays active without a filter until somebody stops it and starts it
anew.

The refusals are no part of the state; they are recorded beside it (`noteRefusal`).
-/
import PollDancer.Kqueue.TimerArmed
import PollDancer.Kqueue.TimerRuns

namespace PollDancer
namespace Kqueue

open Library

/-- Has the kernel refused to set the timer up for its second phase, since it was started? -/
abbrev Refusals := Addr → Bool

/-- What an action says about that.  A start of an active timer does nothing, and a report
that is read has the filter added in the first phase only. -/
def noteRefusal (s : TimerWorld) (act : TimerAction) (refusals : Refusals) : Refusals :=
  match act with
  | .timerStart t _ =>
      if active s.world t then refusals else Function.update refusals t false
  | .fire t refused =>
      if pendingInitial s.world t then Function.update refusals t refused else refusals
  | _ => refusals

/-- The runs of a kqueue loop with timers, with a record of the refusals. -/
def refusalRuns : Machine (TimerWorld × Refusals) TimerAction :=
  Machine.recorded (fun s => Created s.world ∧ s.reported = []) performTimer (fun _ => false)
    noteRefusal

/-- The filter that the loop adds for the second phase. -/
def intervalKnote (tm : PdTimer KqueueTimerData) : TimerKnote := ⟨false, tm.intervalMs⟩

/-- The filters are those of the active timers, except where a timer waits for its second
phase; the reports are of timers that are there; and every timer has its placeholder. -/
structure TimersAttended (s : TimerWorld) (refusals : Refusals) : Prop where
  filter : ∀ t n, s.world.sys.kernel.timers t = some n →
    ∃ tm, s.world.sys.timers t = some tm ∧ tm.active = true ∧
      (n = timerKnote tm ∨ twoPhase tm = true ∧ n = intervalKnote tm)
  armed : ∀ t tm, s.world.sys.timers t = some tm → tm.active = true →
    (s.world.sys.kernel.timers t).isSome = true ∨
    twoPhase tm = true ∧
      (pendingInitial s.world t = true ∧ t ∈ s.reported ∨ refusals t = true)
  report : ∀ t ∈ s.reported, (s.world.sys.timers t).isSome = true
  placed : ∀ t tm, s.world.sys.timers t = some tm →
    ∃ a ∈ s.world.loop.occupied, tm.watcher = some a ∧ s.world.heap a = some (placeholder t)

/-! ### What a run keeps for a timer -/

/-- The filter of the timer `t`, and when an active timer has none. -/
structure InPhase (s : TimerWorld) (refusals : Refusals) (t : Addr) : Prop where
  filter : ∀ tm n, s.world.sys.timers t = some tm → s.world.sys.kernel.timers t = some n →
    n = timerKnote tm ∨ twoPhase tm = true ∧ n = intervalKnote tm
  armed : active s.world t = true → (s.world.sys.kernel.timers t).isSome = true ∨
    pendingInitial s.world t = true ∧ t ∈ s.reported ∨ refusals t = true
  oneshot : ∀ n, s.world.sys.kernel.timers t = some n → n.oneshot = true →
    pendingInitial s.world t = true ∨ refusals t = true
  phases : ∀ tm, s.world.sys.timers t = some tm → tm.active = true →
    pendingInitial s.world t = true ∨ refusals t = true → twoPhase tm = true

section

variable {s s' : TimerWorld} {w : KqueueWorld} {refusals refusals' : Refusals} {t u : Addr}

theorem noteRefusal_start_ne {refused : Option Errno} (h : u ≠ t) :
    noteRefusal s (.timerStart t refused) refusals u = refusals u := by
  rw [noteRefusal]
  split_ifs
  · rfl
  · exact Function.update_of_ne h ..

theorem noteRefusal_fire_ne {refused : Bool} (h : u ≠ t) :
    noteRefusal s (.fire t refused) refusals u = refusals u := by
  rw [noteRefusal]
  split_ifs
  · exact Function.update_of_ne h ..
  · rfl

/-- A timer that is not active has no filter, so nothing is said about it. -/
theorem InPhase.of_inactive (h : Fits s.world t) (hact : active s.world t = false) :
    InPhase s refusals t where
  filter _ n _ hn := absurd ((h.filter hact).symm.trans hn).symm (Option.some_ne_none n)
  armed hyes := absurd (hact.symm.trans hyes) Bool.false_ne_true
  oneshot n hn := absurd ((h.filter hact).symm.trans hn).symm (Option.some_ne_none n)
  phases _ htm hyes :=
    absurd (hact.symm.trans ((active_of_some htm).trans hyes)) Bool.false_ne_true

/-- The rest of the world may change, and more reports may be on their way. -/
theorem InPhase.congr (h : InPhase s refusals t)
    (htimer : s'.world.sys.timers t = s.world.sys.timers t)
    (hfilter : s'.world.sys.kernel.timers t = s.world.sys.kernel.timers t)
    (hreported : t ∈ s.reported → t ∈ s'.reported) (hrefusals : refusals' t = refusals t) :
    InPhase s' refusals' t := by
  have hact : active s'.world t = active s.world t := by rw [active, active, htimer]
  have hpending : pendingInitial s'.world t = pendingInitial s.world t := by
    rw [pendingInitial, pendingInitial, htimer]
  refine ⟨?_, ?_, ?_, ?_⟩
  · rw [htimer, hfilter]
    exact h.filter
  · rw [hact, hfilter, hpending, hrefusals]
    intro hyes
    rcases h.armed hyes with hsome | ⟨hfirst, hmem⟩ | href
    · exact .inl hsome
    · exact .inr (.inl ⟨hfirst, hreported hmem⟩)
    · exact .inr (.inr href)
  · rw [hfilter, hpending, hrefusals]
    exact h.oneshot
  · rw [htimer, hpending, hrefusals]
    exact h.phases

/-- A start adds the filter of the first phase, and forgets the refusals. -/
theorem InPhase.start (h : InPhase s refusals t) (hfits : Fits s.world t)
    (refused : Option Errno) :
    InPhase { s with world := (pdTimerStart s.world t refused).1 }
      (noteRefusal s (.timerStart t refused) refusals) t := by
  obtain ⟨hfits', ⟨hact, heq⟩ | ⟨hact, hok, -⟩ | ⟨-, -, hact'⟩⟩ := start_cases hfits refused
  · rw [heq, noteRefusal, if_pos hact]
    exact h
  · cases htm : s.world.sys.timers t with
    | none => simp [pdTimerStart, htm] at hok
    | some tm =>
        obtain ⟨td, hp, -⟩ := hfits.registered tm htm
        have hnote : noteRefusal s (.timerStart t refused) refusals t = false := by
          rw [noteRefusal, if_neg (Bool.eq_false_iff.1 hact), Function.update_self]
        have hstart := timerStart_of_ok htm ((active_of_some htm).symm.trans hact) hp hok
        generalize (pdTimerStart s.world t refused).1 = w at hstart
        generalize noteRefusal s (.timerStart t refused) refusals = refusals' at hnote
        have htimer : w.sys.timers t = some { tm with
            active := true, platformData := some ⟨true, twoPhase tm⟩ } := by
          rw [hstart, setTimer_timers_self]
        have hfilter : w.sys.kernel.timers t = some (timerKnote { tm with active := true }) := by
          rw [hstart]
          exact setTimerKnote_knote_self ..
        have hpending : pendingInitial w t = twoPhase tm := pendingInitial_of_some htimer rfl
        refine ⟨fun x n hx hn => .inl ?_, fun _ => .inl ?_, fun n hn hone => .inl ?_,
          fun x hx _ hfirst => ?_⟩
        · obtain rfl := Option.some.inj (htimer.symm.trans hx)
          obtain rfl := Option.some.inj (hfilter.symm.trans hn)
          rfl
        · exact congrArg Option.isSome hfilter
        · obtain rfl := Option.some.inj (hfilter.symm.trans hn)
          rw [timerKnote_oneshot] at hone
          exact hpending.trans hone
        · obtain rfl := Option.some.inj (htimer.symm.trans hx)
          rw [hnote] at hfirst
          exact hpending.symm.trans (hfirst.resolve_right Bool.false_ne_true)
  · exact .of_inactive hfits' hact'

theorem InPhase.stop (h : InPhase s refusals t) (hfits : Fits s.world t) :
    InPhase { s with world := (pdTimerStop s.world t).1 } refusals t := by
  obtain ⟨hfits', ⟨-, hact⟩ | ⟨-, heq⟩⟩ := stop_cases hfits
  · exact .of_inactive hfits' hact
  · rw [heq]
    exact h

/-- A report takes a one-shot filter away; the loop is to set the timer up again. -/
theorem InPhase.report (h : InPhase s refusals t) {n : TimerKnote}
    (hn : s.world.sys.kernel.timers t = some n) :
    InPhase ⟨reportTimer s.world t n, t :: s.reported⟩ refusals t := by
  unfold reportTimer
  split_ifs with hone
  · have hnone : (setTimerKnote s.world t none).sys.kernel.timers t = none :=
      setTimerKnote_knote_self ..
    refine ⟨fun _ m _ hm => ?_, fun _ => .inr ?_, fun m hm => ?_, h.phases⟩
    · exact absurd (hnone.symm.trans hm).symm (Option.some_ne_none m)
    · exact (h.oneshot n hn hone).imp_left fun hfirst => ⟨hfirst, List.mem_cons_self⟩
    · exact absurd (hnone.symm.trans hm).symm (Option.some_ne_none m)
  · exact h.congr rfl rfl (List.mem_cons_of_mem t) rfl

/-- The loop reads a report, and sets a timer in its first phase up again. -/
theorem InPhase.fire (h : InPhase s refusals t) (hset : Settled s.world t) (refused : Bool) :
    InPhase ⟨s.world.setSys (rearm s.world.sys t refused), s.reported.erase t⟩
      (noteRefusal s (.fire t refused) refusals) t := by
  obtain ⟨tm, td, htm, hp, hsettled⟩ := hset
  have hpending := pendingInitial_of_some htm hp
  cases hfirst : td.pendingInitial with
  | false =>
      -- nothing is set up, and no report of a first phase is on its way
      rw [hfirst] at hpending
      rw [rearm_of_not_pending htm hp hfirst, noteRefusal, hpending, if_neg Bool.false_ne_true]
      refine ⟨h.filter, fun hyes => ?_, h.oneshot, h.phases⟩
      rcases h.armed hyes with hsome | ⟨hbad, -⟩ | href
      · exact .inl hsome
      · exact absurd (hpending.symm.trans hbad) Bool.false_ne_true
      · exact .inr (.inr href)
  | true =>
      rw [hfirst] at hpending
      have hact : tm.active = true := by
        rcases hsettled with hact | hno
        · exact hact
        · exact absurd (hno.symm.trans hfirst) Bool.false_ne_true
      have htwo := h.phases tm htm hact (.inl hpending)
      have hnote : noteRefusal s (.fire t refused) refusals t = refused := by
        rw [noteRefusal, if_pos hpending, Function.update_self]
      obtain ⟨htimer, hfilter⟩ := rearm_of_pending htm hp hfirst refused
      generalize rearm s.world.sys t refused = k at htimer hfilter
      generalize noteRefusal s (.fire t refused) refusals = refusals' at hnote
      cases refused with
      | true =>
          -- the old filter stays, if there is one
          refine ⟨fun x n hx hn => ?_, fun _ => .inr (.inr hnote), fun _ _ _ => .inr hnote,
            fun x hx _ _ => ?_⟩
          · obtain rfl := Option.some.inj (htimer.symm.trans hx)
            exact h.filter tm n htm (hfilter.symm.trans hn)
          · obtain rfl := Option.some.inj (htimer.symm.trans hx)
            exact htwo
      | false =>
          refine ⟨fun x n hx hn => .inr ⟨?_, ?_⟩, fun _ => .inl ?_, fun n hn hone => ?_,
            fun x hx _ _ => ?_⟩
          · obtain rfl := Option.some.inj (htimer.symm.trans hx)
            exact htwo
          · obtain rfl := Option.some.inj (htimer.symm.trans hx)
            obtain rfl := Option.some.inj (hfilter.symm.trans hn)
            rfl
          · exact congrArg Option.isSome hfilter
          · obtain rfl := Option.some.inj (hfilter.symm.trans hn)
            exact absurd hone Bool.false_ne_true
          · obtain rfl := Option.some.inj (htimer.symm.trans hx)
            exact htwo

/-- A call on another timer. -/
theorem InPhase.retime (h : InPhase s refusals u) (hr : Retimed s.world w t) (hu : u ≠ t)
    {reported : List Addr} (hreported : u ∈ s.reported → u ∈ reported)
    (hrefusals : refusals' u = refusals u) : InPhase ⟨w, reported⟩ refusals' u :=
  h.congr (hr.timer_ne u hu) (hr.filter_ne u hu) hreported hrefusals

/-- What a prompt step preserves for each timer. -/
theorem InPhase.step (hkept : Kept s) (h : ∀ u, InPhase s refusals u) {act : TimerAction}
    (hok : Prompt s act) (hs' : performTimer s act = some s') (u : Addr) :
    InPhase s' (noteRefusal s act refusals) u := by
  have hkept' := hkept.step hok hs'
  cases act with
  | call c =>
      obtain rfl := Option.some.inj hs'
      have hsame := exec_sameTimers hkept.attached c
      exact (h u).congr (congrFun hsame.timers_eq u) (congrFun hsame.filters_eq u) id rfl
  | timerCreate timeoutMs intervalMs callback userData env =>
      obtain rfl := Option.some.inj hs'
      obtain ⟨-, hk, ⟨-, -, htimers⟩ | ⟨t, -, tm, -, -, -, -, hact, -, -, -, htimers⟩⟩ :=
        timerCreate_spec s.world timeoutMs intervalMs callback userData env
      · exact (h u).congr (congrFun htimers u) (congrFun (congrArg Kernel.timers hk) u) id rfl
      · rcases eq_or_ne u t with rfl | hu
        · refine .of_inactive (hkept'.fits u) (Eq.trans (active_of_some ?_) hact)
          exact (congrFun htimers u).trans (Function.update_self ..)
        · exact (h u).congr ((congrFun htimers u).trans (Function.update_of_ne hu ..))
            (congrFun (congrArg Kernel.timers hk) u) id rfl
  | timerStart t refused =>
      obtain rfl := Option.some.inj hs'
      rcases eq_or_ne u t with rfl | hu
      · exact (h u).start (hkept.fits u) refused
      · exact (h u).retime (retimed_start ..) hu id (noteRefusal_start_ne hu)
  | timerStop t =>
      obtain rfl := Option.some.inj hs'
      rcases eq_or_ne u t with rfl | hu
      · exact (h u).stop (hkept.fits u)
      · exact (h u).retime (retimed_stop ..) hu id rfl
  | timerDestroy t =>
      obtain rfl := Option.some.inj hs'
      cases htm : s.world.sys.timers t with
      | none =>
          have hsame : pdTimerDestroy s.world t = s.world := by rw [pdTimerDestroy, htm]
          exact (h u).congr (by rw [hsame]) (by rw [hsame]) id rfl
      | some tm =>
          obtain ⟨a, ha, hx⟩ := hkept.placed t tm htm
          have hgone := timerDestroy_spec htm ha (hkept.listed.ne_null a (by rw [hx]; rfl))
          rcases eq_or_ne u t with rfl | hu
          · exact .of_inactive (hkept'.fits u) (active_of_none hgone.timer_self)
          · exact (h u).congr (hgone.timer_ne u hu) (hgone.filter_ne u hu) id rfl
  | report t =>
      obtain ⟨n, hn, rfl⟩ := Option.map_eq_some_iff.1 hs'
      rcases eq_or_ne u t with rfl | hu
      · exact (h u).report hn
      · exact (h u).retime (retimed_report ..) hu (List.mem_cons_of_mem t) rfl
  | fire t refused =>
      obtain ⟨ht, hs'⟩ := Option.ite_none_right_eq_some.1 hs'
      obtain rfl := Option.some.inj hs'
      rcases eq_or_ne u t with rfl | hu
      · exact (h u).fire (hkept.settled u ht) refused
      · exact (h u).retime (retimed_rearm ..) hu (List.mem_erase_of_ne hu).2
          (noteRefusal_fire_ne hu)
  | closeFd fd =>
      obtain rfl := Option.some.inj hs'
      exact (h u).congr rfl rfl id rfl
  | openFd fd =>
      obtain rfl := Option.some.inj hs'
      exact (h u).congr rfl rfl id rfl

/-- What a prompt run has brought about. -/
theorem InPhase.of_reach (h : refusalRuns.Reach (fun s act => Prompt s.1 act) (s, refusals)) :
    Kept s ∧ ∀ t, InPhase s refusals t := by
  refine h.recorded_invariant (I := fun s refusals => Kept s ∧ ∀ t, InPhase s refusals t) ?_ ?_
  · rintro s ⟨hs, hr⟩
    have hkept := Kept.init hs hr
    obtain ⟨world, reported⟩ := s
    obtain ⟨isOpen, rfl⟩ := hs
    exact ⟨hkept, fun t => .of_inactive (hkept.fits t) rfl⟩
  · rintro s refusals act s' ⟨hkept, hphase⟩ hok hs'
    exact ⟨hkept.step hok hs', InPhase.step hkept hphase hok hs'⟩

/-- **In every prompt run, with any number of timers, every filter is that of an active timer,
with the delay of its first phase or with its interval; every active timer has its filter,
unless its first phase is over and the loop has not read the report, or the kernel has refused
to set it up again since it was started; every report on its way is of a timer that exists;
and every timer has a placeholder of its own in the list of the loop.** -/
theorem timers_attended (h : refusalRuns.Reach (fun s act => Prompt s.1 act) (s, refusals)) :
    TimersAttended s refusals := by
  obtain ⟨hkept, hphase⟩ := InPhase.of_reach h
  refine ⟨fun t n hn => ?_, fun t tm htm hact => ?_, fun t ht => ?_, fun t tm htm => ?_⟩
  · cases hact : active s.world t with
    | false =>
        exact absurd (((hkept.fits t).filter hact).symm.trans hn).symm (Option.some_ne_none n)
    | true =>
        obtain ⟨tm, td, htm, -⟩ := Settled.of_active (hkept.fits t) hact
        exact ⟨tm, htm, (active_of_some htm).symm.trans hact, (hphase t).filter tm n htm hn⟩
  · rcases (hphase t).armed ((active_of_some htm).trans hact) with hsome | ⟨hfirst, hmem⟩ | href
    · exact .inl hsome
    · exact .inr ⟨(hphase t).phases tm htm hact (.inl hfirst), .inl ⟨hfirst, hmem⟩⟩
    · exact .inr ⟨(hphase t).phases tm htm hact (.inr href), .inr href⟩
  · obtain ⟨tm, td, htm, -⟩ := hkept.settled t ht
    rw [htm]
    rfl
  · obtain ⟨a, ha, hx⟩ := hkept.placed t tm htm
    refine ⟨a, (hkept.listed.mem_occupied a).2 ?_, ha, hx⟩
    rw [hx]
    rfl

/-- A timer of 50 ms that repeats every 20 ms is started, on a loop of its own. -/
def tickerStarted : KqueueWorld :=
  (pdTimerStart (pdTimerCreate (kqueueLoopCreate fun _ => false) 50 20 (some (.user 2)) NULL
    ⟨some 300, true, some 200, true⟩).1 300 none).1

/-- Its first expiration is reported, and the kernel refuses to set it up again. -/
def tickerRefused : KqueueWorld :=
  let s := reportTimer tickerStarted 300 ⟨true, 50⟩
  s.setSys (rearm s.sys 300 true)

/-- The run is prompt.  The timer is active, and has no filter and no report. -/
theorem tickerRefused_attended :
    TimersAttended ⟨tickerRefused, []⟩
      (Function.update (Function.update (fun _ => false) 300 false) 300 true) ∧
    active tickerRefused 300 = true ∧ tickerRefused.sys.kernel.timers 300 = none := by
  have h₀ : refusalRuns.Reach (fun s act => Prompt s.1 act)
      (⟨kqueueLoopCreate fun _ => false, []⟩, fun _ => false) := .init ⟨⟨⟨_, rfl⟩, rfl⟩, rfl⟩
  have h₁ := h₀.step (a := TimerAction.timerCreate 50 20 (some (.user 2)) NULL
    ⟨some 300, true, some 200, true⟩) trivial rfl
  have h₂ : refusalRuns.Reach (fun s act => Prompt s.1 act)
      (⟨tickerStarted, []⟩, Function.update (fun _ => false) 300 false) :=
    h₁.step (a := TimerAction.timerStart 300 none) (Or.inl rfl) rfl
  have hknote : tickerStarted.sys.kernel.timers 300 = some ⟨true, 50⟩ := by decide
  have hreport : performTimer ⟨tickerStarted, []⟩ (.report 300) =
      some ⟨reportTimer tickerStarted 300 ⟨true, 50⟩, [300]⟩ := by
    rw [performTimer, hknote]
    rfl
  have h₃ := h₂.step (a := TimerAction.report 300) trivial
    (Option.map_eq_some_iff.2 ⟨_, hreport, rfl⟩)
  have h₄ : refusalRuns.Reach (fun s act => Prompt s.1 act) (⟨tickerRefused, []⟩,
      Function.update (Function.update (fun _ => false) 300 false) 300 true) :=
    h₃.step (a := TimerAction.fire 300 true) trivial rfl
  exact ⟨timers_attended h₄, by decide, by decide⟩

end
end Kqueue
end PollDancer
