/-
# Active timers of IOCP

A queue timer with a period of zero expires once, and `active` stays set: `pd_timer_start`
then returns `PD_OK` and makes no queue timer.  So between the calls `active` is right as
long as the queue timer repeats, and `pd_timer_stop` is done only when nothing that it has
posted is on its way to the loop.
-/
import PollDancer.Iocp.TimerEvents

namespace PollDancer
namespace Iocp
namespace Timer

open Library Alarm

/-- What `pd_timer_start` returns. -/
def startCode (s : State) (ok : Bool) : PdError :=
  match s.timer with
  | none => .invalidArg
  | some t =>
    if t.active then .ok
    else if !t.platformData then .invalidArg
    else if ok then .ok else .system

/-- Between the calls, the timer is active exactly while it will expire or an expiration is
on its way. -/
def Truthful (s : State) : Prop :=
  s.api = .idle → ∀ t, s.timer = some t → (t.active = true ↔ (alive s).Nonempty)

/-- Where `pd_timer_start` returns `PD_OK`, there is a queue timer that will expire. -/
def Starts (s : State) : Prop :=
  ∀ ok s', step s (.start ok) = some s' → startCode s ok = .ok → s'.queueTimer.isSome = true

/-- Between the calls the queue timer repeats; `pd_timer_stop` is done when no expiration is
on its way; and if it could not delete the queue timer, that will expire. -/
def Sustained (s : State) : Step → Prop
  | .fire again => s.api = .idle → again = true
  | .api _ =>
      (s.api = .clearTimer .user → s.pool = none ∧ (∀ p ∈ s.port.arrived, p.isTimer = false) ∧
        s.loop.expiration = none) ∧
      (s.api = .restore .user → s.queueTimer.isSome = true)
  | _ => True

instance (s : State) : (l : Step) → Decidable (Sustained s l)
  | .fire again => inferInstanceAs (Decidable (s.api = .idle → again = true))
  | .api _ => inferInstanceAs (Decidable ((_ → _) ∧ (_ → _)))
  | .start _ => isTrue trivial
  | .stop _ => isTrue trivial
  | .destroy _ => isTrue trivial
  | .wake => isTrue trivial
  | .expire => isTrue trivial
  | .pool _ => isTrue trivial
  | .enter => isTrue trivial
  | .take _ => isTrue trivial
  | .next => isTrue trivial
  | .loop => isTrue trivial
  | .ret => isTrue trivial
  | .post => isTrue trivial

/-- Has `pd_timer_stop` of the user not cleared `active`? -/
def ApiPc.ready : ApiPc → Bool
  | .idle => true
  | .stop .user => true
  | _ => false

/-- Has it cleared `active`? -/
def ApiPc.halting : ApiPc → Bool
  | .checkStarted .user => true
  | .deleteTimer .user => true
  | .waitStop .user => true
  | .clearTimer .user => true
  | _ => false

/-- Has it found an active timer, and not deleted its queue timer? -/
def ApiPc.holding : ApiPc → Bool
  | .checkStarted .user => true
  | .deleteTimer .user => true
  | .restore .user => true
  | _ => false

/-- Is it another call, that of the destruction? -/
def ApiPc.away (pc : ApiPc) : Bool := !pc.ready && !pc.halting && !pc.holding

/-- What the runs keep of a timer: without `active` nothing is to come, with it there is a
queue timer, and `started` follows. -/
structure Fair (s : State) : Prop where
  kept : Kept s
  inactive : s.api.ready = true → ∀ t, s.timer = some t → t.active = false → alive s = ∅
  active : s.api = .idle → ∀ t, s.timer = some t → t.active = true → s.queueTimer.isSome = true
  started : s.api.ready = true → ∀ t d, s.timer = some t → s.data = some d → t.active = true →
    d.started = true
  halting : s.api.halting = true → ∀ t, s.timer = some t → t.active = false
  holding : s.api.holding = true → ∀ d, s.data = some d → d.started = true

section

variable {s s' : State}

/-- A step of the timer queue or of the loop thread: it leaves the timer and the call alone. -/
theorem Fair.of_frame (h : Fair s) (hkept : Kept s') (htimer : s'.timer = s.timer)
    (hdata : s'.data = s.data) (hapi : s'.api = s.api) (halive : alive s' ⊆ alive s)
    (hqueue : s.api = .idle → s.queueTimer.isSome = true → s'.queueTimer.isSome = true) :
    Fair s' where
  kept := hkept
  inactive hready t ht hact := by
    rw [htimer] at ht
    exact Set.subset_eq_empty halive (h.inactive (hapi ▸ hready) t ht hact)
  active hidle t ht hact := by
    rw [htimer] at ht
    rw [hapi] at hidle
    exact hqueue hidle (h.active hidle t ht hact)
  started hready t d ht hd hact := by
    rw [htimer] at ht
    rw [hdata] at hd
    exact h.started (hapi ▸ hready) t d ht hd hact
  halting hhalt t ht := h.halting (hapi ▸ hhalt) t (htimer ▸ ht)
  holding hhold d hd := h.holding (hapi ▸ hhold) d (hdata ▸ hd)

/-- `pd_timer_start`. -/
theorem fair_start (h : Fair s) {ok : Bool} (hidle : s.api = .idle)
    (hstep : startStep s ok = some s') : Fair s' := by
  have hkept := (start_moves (p := .fresh) ⟨h.kept, nofun⟩ hidle hstep).1.kept
  obtain ⟨⟨active, pointer⟩, d, ht, hd, hp, -, -⟩ := h.kept.serves (by rw [hidle]; rfl)
  obtain rfl : pointer = true := hp
  unfold startStep at hstep
  simp only [ht, hd, Option.bind_eq_bind, Option.bind_some, Bool.not_true,
    Bool.false_eq_true, if_false] at hstep
  split_ifs at hstep with hact hok
  · obtain rfl := Option.some.inj hstep
    exact h
  · obtain rfl := Option.some.inj hstep
    refine ⟨hkept, fun _ t ht hno => ?_, fun _ _ _ _ => rfl, fun _ t d _ hd _ => ?_,
      fun hhalt => ?_, fun hhold => ?_⟩
    · obtain rfl := Option.some.inj ht
      exact nomatch hno
    · obtain rfl := Option.some.inj hd
      rfl
    · exact nomatch (show ApiPc.halting .idle = true from hidle ▸ hhalt)
    · exact nomatch (show ApiPc.holding .idle = true from hidle ▸ hhold)
  · obtain rfl := Option.some.inj hstep
    exact h

/-- A call begins. -/
theorem fair_call (h : Fair s) {pc : ApiPc} {onLoop : Bool} (hpc : pc.cleared = false)
    (hready : pc.halting = false ∧ pc.holding = false ∧ pc ≠ .idle)
    (hstep : callStep s pc onLoop = some s') : Fair s' := by
  obtain ⟨hkept, halive, -⟩ := kept_call h.kept hpc hstep
  obtain ⟨⟨hidle, -⟩, hstep⟩ := Option.ite_none_right_eq_some.1 hstep
  obtain rfl := Option.some.inj hstep
  have hwas : s.api.ready = true := by
    rw [hidle]
    rfl
  refine ⟨hkept, fun _ t ht hno => ?_, fun hyes => absurd hyes hready.2.2,
    fun _ => h.started hwas, fun hyes => ?_, fun hyes => ?_⟩
  · rw [halive]
    exact h.inactive hwas t ht hno
  · exact nomatch hready.1.symm.trans hyes
  · exact nomatch hready.2.1.symm.trans hyes

theorem Fair.of_away (hkept : Kept s') (haway : s'.api.away = true) : Fair s' := by
  simp only [ApiPc.away, Bool.and_eq_true, Bool.not_eq_true'] at haway
  obtain ⟨⟨hready, hhalt⟩, hhold⟩ := haway
  refine ⟨hkept, fun hyes => ?_, fun hidle => ?_, fun hyes => ?_, fun hyes => ?_, fun hyes => ?_⟩
  · exact nomatch hready.symm.trans hyes
  · rw [hidle] at hready
    exact nomatch hready
  · exact nomatch hready.symm.trans hyes
  · exact nomatch hhalt.symm.trans hyes
  · exact nomatch hhold.symm.trans hyes

theorem away_stop (c : Caller) : (ApiPc.stop c).away = (c == .destroy) := by
  cases c <;> rfl

theorem away_checkStarted (c : Caller) : (ApiPc.checkStarted c).away = (c == .destroy) := by
  cases c <;> rfl

theorem away_deleteTimer (c : Caller) : (ApiPc.deleteTimer c).away = (c == .destroy) := by
  cases c <;> rfl

theorem away_waitStop (c : Caller) : (ApiPc.waitStop c).away = (c == .destroy) := by
  cases c <;> rfl

theorem away_clearTimer (c : Caller) : (ApiPc.clearTimer c).away = (c == .destroy) := by
  cases c <;> rfl

theorem away_restore (c : Caller) : (ApiPc.restore c).away = (c == .destroy) := by
  cases c <;> rfl

theorem away_after (c : Caller) : c.after.away = (c == .destroy) := by
  cases c <;> rfl

/-- A destruction does not turn into anything else. -/
theorem away_api {ok : Bool} (h : apiStep s ok = some s') (haway : s.api.away = true) :
    s'.api.away = true := by
  simp only [apiStep, Option.bind_eq_bind] at h
  split at h <;>
    grind [Option.bind_eq_some_iff, away_stop, away_checkStarted, away_deleteTimer, away_waitStop,
      away_clearTimer, away_restore, away_after, ApiPc.away, ApiPc.ready, ApiPc.halting,
      ApiPc.holding]

/-- A wait of the call ends, or is given up. -/
theorem fair_wait (h : Fair s) (hstep : wakeStep s = some s' ∨ expireStep s = some s') :
    Fair s' := by
  have hkept : Kept s' := by
    rcases hstep with hstep | hstep
    · exact (kept_wake h.kept hstep).1
    · exact (kept_expire h.kept hstep).1
  have hhalting := h.halting
  obtain ⟨timer, data, made, queue, pool, port, signalled, loop, api, onLoop⟩ := s
  have hcall : s' = ⟨timer, data, made, queue, pool, port, signalled, loop, .clearTimer .user,
      onLoop⟩ ∧ api = .waitStop .user ∨
      s'.api.away = true := by
    rcases hstep with hstep | hstep
    · cases api with
      | waitStop c =>
          obtain ⟨-, hstep⟩ := Option.ite_none_right_eq_some.1 hstep
          obtain rfl := Option.some.inj hstep
          cases c with
          | user => exact .inl ⟨rfl, rfl⟩
          | destroy => exact .inr rfl
      | waitCallback =>
          obtain ⟨-, hstep⟩ := Option.ite_none_right_eq_some.1 hstep
          obtain rfl := Option.some.inj hstep
          exact .inr rfl
      | waitEvent =>
          obtain ⟨-, hstep⟩ := Option.ite_none_right_eq_some.1 hstep
          obtain rfl := Option.some.inj hstep
          exact .inr rfl
      | _ => exact nomatch hstep
    · cases api with
      | waitStop c =>
          obtain rfl := Option.some.inj hstep
          cases c with
          | user => exact .inl ⟨rfl, rfl⟩
          | destroy => exact .inr rfl
      | waitEvent =>
          obtain rfl := Option.some.inj hstep
          exact .inr rfl
      | _ => exact nomatch hstep
  rcases hcall with ⟨rfl, rfl⟩ | haway
  · exact ⟨hkept, nofun, nofun, nofun, fun _ => hhalting rfl, nofun⟩
  · exact .of_away hkept haway

/-- An access of `pd_timer_stop`. -/
theorem fair_stop (h : Fair s) {ok : Bool} (hok : Sustained s (.api ok))
    (hstep : apiStep s ok = some s') (hnear : s.api.away = false) : Fair s' := by
  have hkept := kept_api h.kept hstep
  obtain ⟨hdone, hback⟩ := hok
  obtain ⟨⟨hserves, hcleared, -⟩, hinactive, -, hstarted, hhalting, hholding⟩ := h
  obtain ⟨timer, data, made, queue, pool, port, signalled, loop, api, onLoop⟩ := s
  cases api with
  | stop c =>
      obtain rfl : c = .user := by cases c <;> first | rfl | exact nomatch hnear
      obtain ⟨t, ht, hstep⟩ := Option.bind_eq_some_iff.1 hstep
      obtain rfl : timer = some t := ht
      split_ifs at hstep with hact
      · obtain rfl := Option.some.inj hstep
        refine ⟨hkept, nofun, nofun, nofun, fun _ u hu => ?_, fun _ d hd => ?_⟩
        · obtain rfl := Option.some.inj hu
          rfl
        · exact hstarted rfl t d rfl hd hact
      · obtain rfl := Option.some.inj hstep
        refine ⟨hkept, fun _ => hinactive rfl, fun _ u hu hyes => ?_, fun _ => hstarted rfl,
          nofun, nofun⟩
        obtain rfl := Option.some.inj hu
        exact absurd hyes hact
  | checkStarted c =>
      obtain rfl : c = .user := by cases c <;> first | rfl | exact nomatch hnear
      obtain ⟨t, d, ht, hd, hp, -, -⟩ := hserves rfl
      obtain rfl : timer = some t := ht
      obtain rfl : data = some d := hd
      unfold apiStep at hstep
      simp only [Option.bind_eq_bind, Option.bind_some, hp, hholding rfl d rfl] at hstep
      obtain rfl := Option.some.inj hstep
      exact ⟨hkept, nofun, nofun, nofun, fun _ => hhalting rfl, fun _ => hholding rfl⟩
  | deleteTimer c =>
      obtain rfl : c = .user := by cases c <;> first | rfl | exact nomatch hnear
      obtain ⟨d, -, hstep⟩ := Option.bind_eq_some_iff.1 hstep
      split_ifs at hstep
      · obtain rfl := Option.some.inj hstep
        exact ⟨hkept, nofun, nofun, nofun, fun _ => hhalting rfl, nofun⟩
      · obtain rfl := Option.some.inj hstep
        exact ⟨hkept, nofun, nofun, nofun, nofun, fun _ => hholding rfl⟩
  | clearTimer c =>
      obtain rfl : c = .user := by cases c <;> first | rfl | exact nomatch hnear
      obtain ⟨hpool, hport, hloop⟩ := hdone rfl
      obtain ⟨d, -, hstep⟩ := Option.bind_eq_some_iff.1 hstep
      obtain rfl := Option.some.inj hstep
      have hoff := hhalting rfl
      refine ⟨hkept, fun _ t ht _ => ?_, fun _ t ht hyes => ?_, fun _ t _ ht _ hyes => ?_, nofun,
        nofun⟩
      · refine Set.eq_empty_of_forall_notMem ?_
        rintro n (hn | hn | hn | hn)
        · exact nomatch (hcleared rfl).symm.trans hn
        · exact nomatch (congrArg (Option.map Prod.fst) hpool).symm.trans hn
        · exact nomatch hport _ hn
        · exact nomatch hloop.symm.trans hn
      · exact nomatch (hoff t ht).symm.trans hyes
      · exact nomatch (hoff t ht).symm.trans hyes
  | restore c =>
      obtain rfl : c = .user := by cases c <;> first | rfl | exact nomatch hnear
      obtain ⟨t, -, hstep⟩ := Option.bind_eq_some_iff.1 hstep
      obtain rfl := Option.some.inj hstep
      refine ⟨hkept, fun _ u hu hno => ?_, fun _ _ _ _ => hback rfl,
        fun _ _ d _ hd _ => hholding rfl d hd, nofun, nofun⟩
      obtain rfl := Option.some.inj hu
      exact nomatch hno
  | idle => exact nomatch hstep
  | waitStop c => exact nomatch hstep
  | _ => exact nomatch hnear

theorem fire_frame {again : Bool} (h : fireStep s again = some s') :
    s'.timer = s.timer ∧ s'.data = s.data ∧ s'.api = s.api ∧
      (again = true → s'.queueTimer = s.queueTimer) := by
  obtain ⟨n, hn, h⟩ := Option.bind_eq_some_iff.1 h
  obtain ⟨-, h⟩ := Option.ite_none_right_eq_some.1 h
  obtain rfl := Option.some.inj h
  refine ⟨rfl, rfl, rfl, fun hagain => ?_⟩
  rw [hn]
  exact if_pos hagain

theorem pool_frame {ok : Bool} (h : poolStep s ok = some s') :
    s'.timer = s.timer ∧ s'.data = s.data ∧ s'.api = s.api ∧ s'.queueTimer = s.queueTimer := by
  simp only [poolStep, Option.bind_eq_bind] at h
  grind [Option.bind_eq_some_iff]

theorem loop_frame (h : loopStep s = some s') :
    s'.timer = s.timer ∧ s'.data = s.data ∧ s'.api = s.api ∧ s'.queueTimer = s.queueTimer := by
  simp only [loopStep, Option.bind_eq_bind] at h
  grind [Option.bind_eq_some_iff]

theorem next_frame (h : loopNext s = some s') :
    s'.timer = s.timer ∧ s'.data = s.data ∧ s'.api = s.api ∧ s'.queueTimer = s.queueTimer := by
  unfold loopNext at h
  grind

/-- What one step keeps. -/
theorem fair_step (h : Fair s) {l : Step} (hok : Sustained s l) (hstep : step s l = some s') :
    Fair s' := by
  have htimed : Timed s .fresh := ⟨h.kept, nofun⟩
  have hquiet : ∀ {s'}, Kept s' → alive s' ⊆ alive s →
      s'.timer = s.timer ∧ s'.data = s.data ∧ s'.api = s.api ∧ s'.queueTimer = s.queueTimer →
      Fair s' := by
    rintro s' hkept halive ⟨htimer, hdata, hapi, hqueue⟩
    exact h.of_frame hkept htimer hdata hapi halive fun _ hyes => hqueue ▸ hyes
  -- a step of which the user sees nothing
  have hmoved : Moves .fresh (alive s) (alive s') .quiet → alive s' ⊆ alive s := by
    rintro (hsub | _ | _ | _)
    exact hsub
  have hclear : ∀ {l}, signal s l = .quiet → Clear (s, .empty) l := fun hl hc =>
    nomatch hl.symm.trans hc
  cases l with
  | start ok =>
      obtain ⟨hidle, hstep⟩ := Option.ite_none_right_eq_some.1 hstep
      exact fair_start h hidle hstep
  | stop onLoop => exact fair_call h rfl ⟨rfl, rfl, show ApiPc.stop .user ≠ .idle from nofun⟩ hstep
  | destroy onLoop => exact fair_call h rfl ⟨rfl, rfl, show ApiPc.destroy ≠ .idle from nofun⟩ hstep
  | wake => exact fair_wait h (.inl hstep)
  | expire => exact fair_wait h (.inr hstep)
  | api ok =>
      cases haway : s.api.away with
      | true => exact .of_away (kept_api h.kept hstep) (away_api hstep haway)
      | false => exact fair_stop h hok hstep haway
  | fire again =>
      obtain ⟨htimed', halive⟩ := fire_moves htimed hstep
      obtain ⟨htimer, hdata, hapi, hqueue⟩ := fire_frame hstep
      exact h.of_frame htimed'.kept htimer hdata hapi halive fun hidle hyes =>
        hqueue (hok hidle) ▸ hyes
  | pool ok =>
      obtain ⟨htimed', halive⟩ := pool_moves htimed hstep
      exact hquiet htimed'.kept halive (pool_frame hstep)
  | next =>
      obtain ⟨htimed', halive⟩ := next_moves htimed hstep
      exact hquiet htimed'.kept halive (next_frame hstep)
  | loop =>
      obtain ⟨htimed', hmove⟩ := loop_moves htimed hstep
      refine hquiet htimed'.kept ?_ (loop_frame hstep)
      unfold signal at hmove
      cases hl : s.loop with
      | start n =>
          simp only [hl] at hmove
          obtain _ | _ | _ | ⟨-, hsub⟩ := hmove
          exact hsub
      | _ =>
          simp only [hl] at hmove
          exact hmoved hmove
  | enter =>
      have hmove := step_moves htimed (hclear rfl) hstep
      obtain ⟨-, hstep⟩ := Option.ite_none_right_eq_some.1 hstep
      obtain rfl := Option.some.inj hstep
      exact hquiet hmove.1.kept (hmoved hmove.2) ⟨rfl, rfl, rfl, rfl⟩
  | take k =>
      have hmove := step_moves htimed (hclear rfl) hstep
      obtain ⟨-, hstep⟩ := Option.ite_none_right_eq_some.1 hstep
      obtain rfl := Option.some.inj hstep
      exact hquiet hmove.1.kept (hmoved hmove.2) ⟨rfl, rfl, rfl, rfl⟩
  | ret =>
      have hmove := step_moves htimed (hclear rfl) hstep
      obtain ⟨-, hstep⟩ := Option.ite_none_right_eq_some.1 hstep
      obtain rfl := Option.some.inj hstep
      exact hquiet hmove.1.kept (hmoved hmove.2) ⟨rfl, rfl, rfl, rfl⟩
  | post =>
      have hmove := step_moves htimed (hclear rfl) hstep
      obtain rfl := Option.some.inj hstep
      exact hquiet hmove.1.kept (hmoved hmove.2) ⟨rfl, rfl, rfl, rfl⟩

theorem fair_created : Fair created where
  kept := ⟨fun _ => ⟨_, _, rfl, rfl, rfl, fun _ => rfl, fun _ _ => rfl⟩, nofun, nofun⟩
  inactive _ _ _ _ := by
    refine Set.eq_empty_of_forall_notMem ?_
    rintro n (hn | hn | hn | hn)
    · exact nomatch hn
    · exact nomatch hn
    · exact nomatch hn
    · exact nomatch hn
  active _ t ht hyes := by
    obtain rfl := Option.some.inj ht
    exact nomatch hyes
  started _ t _ ht _ hyes := by
    obtain rfl := Option.some.inj ht
    exact nomatch hyes
  halting := nofun
  holding := nofun

theorem Fair.truthful (h : Fair s) : Truthful s := by
  intro hidle t ht
  constructor
  · intro hyes
    obtain ⟨n, hn⟩ := Option.isSome_iff_exists.1 (h.active hidle t ht hyes)
    exact ⟨n, .inl hn⟩
  · intro hsome
    by_contra hno
    refine hsome.ne_empty (h.inactive ?_ t ht (Bool.eq_false_iff.2 hno))
    rw [hidle]
    rfl

theorem Fair.starts (h : Fair s) : Starts s := by
  intro ok s' hstep hcode
  obtain ⟨hidle, hstep⟩ := Option.ite_none_right_eq_some.1 hstep
  obtain ⟨t, d, ht, hd, -, -, -⟩ := h.kept.serves (by rw [hidle]; rfl)
  simp only [startCode, ht] at hcode
  simp only [startStep, ht, hd, Option.bind_eq_bind, Option.bind_some] at hstep
  split_ifs at hstep hcode with hact hp hok
  · obtain rfl := Option.some.inj hstep
    exact h.active hidle t ht hact
  · obtain rfl := Option.some.inj hstep
    rfl

/-- In the sustained runs `active` tells between the calls whether an expiration is to come
or on its way, and a start that returns `PD_OK` leaves a queue timer. -/
theorem truthful_of_reach (hr : timerRuns.Reach Sustained s) : Truthful s ∧ Starts s := by
  have hfair : Fair s := by
    refine hr.invariant ?_ ?_
    · rintro s rfl
      exact fair_created
    · intro s l s' h hok hnext
      exact fair_step h hok hnext
  exact ⟨hfair.truthful, hfair.starts⟩

end

end Timer
end Iocp
end PollDancer
