/-
# Active timers of kqueue

An active timer has its filter, or had a one-shot filter for its first delay whose event is
in the batch: `pending_initial` then has the loop add the filter that repeats.  So `active`
is right as long as no timer is stopped while its event is in the batch.  A timer without an
interval is no exception: its filter is not added with `EV_ONESHOT`, and repeats.
-/
import PollDancer.Kqueue.TimerEvents

namespace PollDancer
namespace Kqueue

open Library TimerBackend

/-- Will the loop add the filter that repeats? -/
def pendingInitial (s : KqueueWorld) (t : Addr) : Bool :=
  (s.sys.timers t).any fun tm => tm.platformData.any (·.pendingInitial)

/-- What kqueue can tell of the timer `t`.  Its loop may be closed, and then
`kqueue_timer_stop` fails. -/
def timerGauge (t : Addr) : Gauge Watched (Option Errno) where
  active k := active k.world t
  armed k := (k.world.sys.kernel.timers t).isSome
  rearms k := pendingInitial k.world t
  pending k := k.pending
  startable _ _ := true
  stoppable k _ := k.world.sys.data.isSome
  repeats _ := true

/-- A filter of the kernel, and `pending_initial`, agree on the phase of an active timer. -/
structure Phased (s : KqueueWorld) (t : Addr) : Prop where
  fits : Fits s t
  filter : active s t = true → (s.sys.kernel.timers t).isSome = true ∨ pendingInitial s t = true
  oneshot : ∀ n, s.sys.kernel.timers t = some n → n.oneshot = true → pendingInitial s t = true

/-- What the calls keep. -/
structure Watched.Armed (t : Addr) (k : Watched) : Prop where
  inv : k.Inv t
  phased : Phased k.world t

variable {t : Addr} {k : Watched} {s : KqueueWorld} {tm : PdTimer KqueueTimerData}
  {td : KqueueTimerData}

theorem pendingInitial_of_some (h : s.sys.timers t = some tm) (hp : tm.platformData = some td) :
    pendingInitial s t = td.pendingInitial := by
  rw [pendingInitial, h]
  simp [hp]

@[simp]
theorem timerKnote_oneshot : (timerKnote tm).oneshot = twoPhase tm := by
  cases h : twoPhase tm <;> simp [timerKnote, h]

/-- A timer that is not active has no filter. -/
theorem Phased.of_inactive (h : Fits s t) (hact : active s t = false) : Phased s t where
  fits := h
  filter hyes := nomatch hact.symm.trans hyes
  oneshot _ hn := nomatch (h.filter hact).symm.trans hn

/-- `pd_timer_start` of a timer that is not active, where it succeeds. -/
theorem timerStart_of_ok {refused : Option Errno} (htm : s.sys.timers t = some tm)
    (hact : tm.active = false) (hp : tm.platformData = some td)
    (hok : (pdTimerStart s t refused).2 = .ok) :
    (pdTimerStart s t refused).1 =
      setTimer (setTimerKnote (setActive s t true) t (some (timerKnote { tm with active := true })))
        t (some { tm with active := true, platformData := some ⟨true, twoPhase tm⟩ }) := by
  cases hd : s.sys.data with
  | none =>
      have hclosed : kqueueTimerStart (setActive s t true) t { tm with active := true } refused =
          (setActive s t true, .loopClosed) := by
        rw [kqueueTimerStart, show (setActive s t true).sys.data = none from hd]
      simp [pdTimerStart, htm, hact, hclosed] at hok
  | some d =>
      cases refused with
      | some e =>
          have hfail : (kqueueTimerStart (setActive s t true) t { tm with active := true }
              (some e)).2 = .system := by
            rw [kqueueTimerStart, show (setActive s t true).sys.data = some d from hd]
            simp [hp]
          simp [pdTimerStart, htm, hact, hfail] at hok
      | none =>
          have hset : kqueueTimerStart (setActive s t true) t { tm with active := true } none =
              (setTimer (setTimerKnote (setActive s t true) t
                (some (timerKnote { tm with active := true }))) t
                (some { tm with active := true, platformData := some ⟨true, twoPhase tm⟩ }),
                .ok) := by
            rw [kqueueTimerStart, show (setActive s t true).sys.data = some d from hd]
            simp [hp, twoPhase]
          simp [pdTimerStart, htm, hact, hset]

/-- A start of the timer. -/
theorem Phased.start (h : Phased s t) (refused : Option Errno) :
    Phased (pdTimerStart s t refused).1 t ∧
    ((active s t = true ∧ pdTimerStart s t refused = (s, .ok)) ∨
    (active s t = false ∧ (pdTimerStart s t refused).2 = .ok ∧
      active (pdTimerStart s t refused).1 t = true ∧
      ((pdTimerStart s t refused).1.sys.kernel.timers t).isSome = true) ∨
    (active s t = false ∧ (pdTimerStart s t refused).2 ≠ .ok ∧
      active (pdTimerStart s t refused).1 t = false)) := by
  obtain ⟨hfits, ⟨hact, heq⟩ | ⟨hact, hok, hact'⟩ | ⟨hact, hne, hact'⟩⟩ :=
    start_cases h.fits refused
  · rw [heq]
    exact ⟨h, .inl ⟨hact, rfl⟩⟩
  · cases htm : s.sys.timers t with
    | none => simp [pdTimerStart, htm] at hok
    | some tm =>
        obtain ⟨td, hp, -⟩ := h.fits.registered tm htm
        have hstart := timerStart_of_ok htm ((active_of_some htm).symm.trans hact) hp hok
        have hfilter : (pdTimerStart s t refused).1.sys.kernel.timers t =
            some (timerKnote { tm with active := true }) := by
          rw [hstart]
          exact setTimerKnote_knote_self ..
        refine ⟨⟨hfits, fun _ => .inl (by rw [hfilter]; rfl), fun n hn hone => ?_⟩,
          .inr (.inl ⟨hact, hok, hact', by rw [hfilter]; rfl⟩)⟩
        obtain rfl := Option.some.inj (hfilter.symm.trans hn)
        rw [timerKnote_oneshot] at hone
        rw [hstart, pendingInitial_of_some (setTimer_timers_self ..) rfl]
        exact hone
  · exact ⟨.of_inactive hfits hact', .inr (.inr ⟨hact, hne, hact'⟩)⟩

/-- The loop comes to the event of an active timer. -/
theorem Phased.rearm (h : Phased s t) (hact : active s t = true) {refused : Bool}
    (hok : pendingInitial s t = true → refused = false) :
    Phased (s.setSys (Kqueue.rearm s.sys t refused)) t ∧
      ((s.setSys (Kqueue.rearm s.sys t refused)).sys.kernel.timers t).isSome = true := by
  obtain ⟨hfits, -⟩ := h.fits.rearm hact refused
  have hfilter := h.filter hact
  cases htm : s.sys.timers t with
  | none => exact nomatch (active_of_none htm).symm.trans hact
  | some tm =>
      obtain ⟨td, hp, -⟩ := h.fits.registered tm htm
      rw [pendingInitial_of_some htm hp] at hfilter hok
      cases hfirst : td.pendingInitial with
      | false =>
          rw [rearm_of_not_pending htm hp hfirst]
          exact ⟨h, hfilter.resolve_right (Bool.eq_false_iff.1 hfirst)⟩
      | true =>
          obtain rfl := hok hfirst
          obtain ⟨-, hself⟩ := rearm_of_pending htm hp hfirst false
          refine ⟨⟨hfits, fun _ => .inl (congrArg Option.isSome hself), fun n hn hone => ?_⟩,
            congrArg Option.isSome hself⟩
          obtain rfl := Option.some.inj (hself.symm.trans hn)
          exact nomatch hone

/-- The wait reports the expiration of an active timer, and a one-shot filter goes. -/
theorem Phased.report (h : Phased s t) {n : TimerKnote} (hn : s.sys.kernel.timers t = some n) :
    Phased (if n.oneshot then setTimerKnote s t none else s) t := by
  split_ifs with hone
  · have hfirst := h.oneshot n hn hone
    exact ⟨⟨h.fits.registered, fun _ => setTimerKnote_knote_self ..⟩, fun _ => .inr hfirst,
      fun m hm => nomatch (setTimerKnote_knote_self ..).symm.trans hm⟩
  · exact h

theorem isSome_of_active (hact : active s t = true) : (s.sys.timers t).isSome = true := by
  cases htm : s.sys.timers t with
  | none => exact nomatch (active_of_none htm).symm.trans hact
  | some tm => rfl

/-- A stop that does not stop the timer changes nothing; otherwise the loop is open. -/
theorem stop_reaches (h : Fits s t) :
    ((pdTimerStop s t).1 = s) ∨
      (s.sys.data.isSome = true ∧ active (pdTimerStop s t).1 t = false) := by
  obtain ⟨-, ⟨hok, hact⟩ | ⟨-, heq⟩⟩ := stop_cases h
  · cases hd : s.sys.data with
    | some d => exact .inr ⟨rfl, hact⟩
    | none =>
        refine .inl ?_
        cases htm : s.sys.timers t with
        | none => rw [pdTimerStop, htm]
        | some tm =>
            cases htact : tm.active with
            | false => simp [pdTimerStop, htm, htact]
            | true =>
                have hclosed : kqueueTimerStop (setActive s t false) t { tm with active := false } =
                    (setActive s t false, .loopClosed) := by
                  rw [kqueueTimerStop, show (setActive s t false).sys.data = none from hd]
                simp [pdTimerStop, htm, htact, hclosed] at hok
  · exact .inl heq

/-- kqueue fits its gauge. -/
theorem timerGauge_fits (t : Addr) : (timerGauge t).Fits (kqueueTimers t) (Watched.Armed t) where
  inactive k h hact := by
    refine ⟨?_, h.inv.inactive hact⟩
    exact congrArg Option.isSome (h.inv.fits.filter hact)
  active k h hact := h.phased.filter hact
  start k refused h := by
    obtain ⟨hph, hcases⟩ := h.phased.start refused
    have hinv := (h.inv.move hph.fits).1
    rcases hcases with ⟨hact, heq⟩ | ⟨hact, hok, hact', hfilter⟩ | ⟨hact, hne, hact'⟩
    · refine .inl ⟨hact, ?_⟩
      simp [kqueueTimers, heq, Watched.move]
    · exact .inr (.inl ⟨hact, hok, ⟨hinv, hph⟩, hact', hfilter⟩)
    · exact .inr (.inr ⟨hact, hne, fun _ => ⟨⟨hinv, hph⟩, hact'⟩⟩)
  stop k _ h := by
    obtain ⟨hfits, -⟩ := stop_cases h.inv.fits
    have hinv := (h.inv.move hfits).1
    rcases stop_reaches h.inv.fits with heq | ⟨hopen, hact⟩
    · have hph : Phased (pdTimerStop k.world t).1 t := by
        rw [heq]
        exact h.phased
      refine ⟨⟨hinv, hph⟩, .inl ⟨?_, ?_⟩⟩
      · exact congrArg (active · t) heq
      · exact congrArg (fun s : KqueueWorld => (s.sys.kernel.timers t).isSome) heq
    · exact ⟨⟨hinv, .of_inactive hfits hact⟩, .inr ⟨hopen, hact⟩⟩
  expire k n k' h _ hk := by
    obtain ⟨hfilter, hk⟩ := Option.ite_none_right_eq_some.1 hk
    obtain rfl := Option.some.inj hk
    exact ⟨⟨⟨h.inv.fits, fun _ => hfilter⟩, h.phased⟩, rfl, rfl⟩
  report k k' n h hr := by
    obtain ⟨hinv, hact', hn, -⟩ := h.inv.report hr
    have hact : active k.world t = true :=
      (kqueueTimers_keeps t).active_of_mem h.inv hn
    obtain ⟨m, -, hr⟩ := Option.bind_eq_some_iff.1 hr
    obtain ⟨filter, hfilter, hr⟩ := Option.bind_eq_some_iff.1 hr
    obtain ⟨rfl, -⟩ := Prod.mk.inj (Option.some.inj hr)
    exact ⟨⟨hinv, h.phased.report hfilter⟩, hact, hact'.trans hact⟩
  invokes k _ hact := isSome_of_active hact
  acknowledge k refused h hact hok := by
    obtain ⟨hfits, hact'⟩ := h.inv.fits.rearm hact refused
    obtain ⟨hph, hfilter⟩ := h.phased.rearm hact hok
    exact ⟨⟨(h.inv.move hfits).1, hph⟩, hact', hfilter⟩

theorem TimerCreated.armed (h : TimerCreated t k) : k.Armed t ∧ active k.world t = false := by
  have hinv := h.inv
  obtain ⟨-, s, _, _, _, _, _, hfilter, hcreate⟩ := h
  have hact := (Fits.create hfilter hcreate).2
  exact ⟨⟨hinv, .of_inactive hinv.fits hact⟩, hact⟩

end Kqueue
end PollDancer
