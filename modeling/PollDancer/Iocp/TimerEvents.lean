/-
# The callback of a timer on IOCP

`pd_timer_stop` deletes the queue timer, and lets what it has posted be.  The loop comes to
the packet of a timer without a look at `active`; it passes over the packet only if the
timer is being destroyed.  So a packet that is in the port when the timer is stopped leads
to a callback all the same, and so does one that `iocp_timer_callback` posts after the wait
for it has given up.

If there is neither whenever `pd_timer_stop` returns `PD_OK` on the loop thread (`Clear`),
the callback is invoked for expirations of the latest start only: `timely_of_clear`.
-/
import PollDancer.Iocp.TimerTeardown
import PollDancer.Library.Alarm

namespace PollDancer
namespace Iocp
namespace Timer

open Library Alarm

/-! ### What the user sees -/

/-- Is the call a `pd_timer_stop` of the user that may return `PD_OK` here? -/
def ApiPc.stopping : ApiPc → Bool
  | .stop .user => true
  | .checkStarted .user => true
  | .clearTimer .user => true
  | _ => false

/-- Does a start make a queue timer? -/
def State.startable (s : State) : Bool := s.timer.any fun t => !t.active && t.platformData

/-- What the user sees of a step.  Of the calls of `pd_timer_stop`, those on the loop thread
count. -/
def signal (s : State) : Step → Signal ℕ
  | .start ok => if ok && s.startable then .set s.made else .quiet
  | .api ok =>
      if s.onLoop && s.api.stopping && (apiStep s ok).any (·.api == .idle) then .cancel else .quiet
  | .loop =>
      match s.loop with
      | .start n => .deliver n
      | _ => .quiet
  | _ => .quiet

/-- The runs of the timer, with a record of its callbacks. -/
def recordedRuns : Machine (State × Log ℕ) Step :=
  Machine.recorded (· = created) step .empty fun s l g => g.note (signal s l)

/-- When `pd_timer_stop` returns `PD_OK` on the loop thread, `iocp_timer_callback` is not
running and no packet of the timer is in the port. -/
def Clear (s : State × Log ℕ) (l : Step) : Prop :=
  signal s.1 l = .cancel → s.1.pool = none ∧ ∀ p ∈ s.1.port.arrived, p.isTimer = false

instance (s : State × Log ℕ) (l : Step) : Decidable (Clear s l) :=
  inferInstanceAs (Decidable (_ = _ → _ ∧ _))

/-! ### What the calls keep -/

/-- Is the timer not being destroyed? -/
def ApiPc.serving : ApiPc → Bool
  | .idle => true
  | .stop _ => true
  | .checkStarted _ => true
  | .deleteTimer _ => true
  | .waitStop _ => true
  | .clearTimer _ => true
  | .restore _ => true
  | .destroy => true
  | _ => false

/-- Does `active` tell whether there is a queue timer at this point of the call? -/
def ApiPc.telling : ApiPc → Bool
  | .idle => true
  | .stop _ => true
  | .destroy => true
  | _ => false

/-- Has `pd_timer_stop` deleted the queue timer? -/
def ApiPc.cleared : ApiPc → Bool
  | .waitStop _ => true
  | .clearTimer _ => true
  | _ => false

/-- The timer is there, and without `started` there is no queue timer; nor is there one
without `active`, between the calls. -/
structure Serves (s : State) (t : TimerFields) (d : IocpTimerData) : Prop where
  timer : s.timer = some t
  data : s.data = some d
  pointer : t.platformData = true
  started : d.started = false → s.queueTimer = none
  active : s.api.telling = true → t.active = false → s.queueTimer = none

/-- What the calls keep. -/
structure Kept (s : State) : Prop where
  serves : s.api.serving = true → ∃ t d, Serves s t d
  cleared : s.api.cleared = true → s.queueTimer = none
  onLoop : s.busy = true → s.loop.userRuns = true

/-- The expiration that the loop thread has in its locals. -/
def LoopPc.expiration : LoopPc → Option ℕ
  | .readCallback n => some n
  | .readData n => some n
  | .readDestroyed n => some n
  | .start n => some n
  | _ => none

/-- The expirations that may still lead to a callback: those to come, and those on their
way. -/
def alive (s : State) : Set ℕ :=
  {n | s.queueTimer = some n ∨ s.pool.map Prod.fst = some n ∨ .timer n ∈ s.port.arrived ∨
    s.loop.expiration = some n}

section

variable {s s' : State} {p : Phase ℕ} {g : Log ℕ}

/-- What an access of a call leaves alone. -/
theorem api_frame {ok : Bool} (h : apiStep s ok = some s') :
    s'.made = s.made ∧ s'.onLoop = s.onLoop ∧ s'.loop = s.loop ∧ s'.pool = s.pool ∧
      (s'.queueTimer = s.queueTimer ∨ s'.queueTimer = none) ∧
      (s'.port = s.port ∨ s'.port = s.port.post .drain) ∧ s.api ≠ .idle ∧ s.api ≠ .destroyed := by
  simp only [apiStep, Option.bind_eq_bind] at h
  split at h <;> grind [Option.bind_eq_some_iff]

@[simp]
theorem Caller.after_cleared (c : Caller) : c.after.cleared = false := by
  cases c <;> rfl

/-- The call comes to the wait for `iocp_timer_callback` from the deletion only. -/
theorem cleared_api {ok : Bool} (h : apiStep s ok = some s') (hc : s'.api.cleared = true) :
    s'.queueTimer = none := by
  simp only [apiStep, Option.bind_eq_bind] at h
  split at h <;> grind [Option.bind_eq_some_iff, ApiPc.cleared, Caller.after_cleared]

/-- A timer that is being destroyed does not come back. -/
theorem serving_of_api {ok : Bool} (h : apiStep s ok = some s') (hs : s'.api.serving = true) :
    s.api.serving = true := by
  simp only [apiStep, Option.bind_eq_bind] at h
  split at h <;> grind [Option.bind_eq_some_iff, ApiPc.serving, Caller.after]

/-- What one access of a call does to a timer that is not being destroyed. -/
theorem serves_api (h : Kept s) {ok : Bool} (hstep : apiStep s ok = some s')
    (hs : s'.api.serving = true) : ∃ t d, Serves s' t d := by
  obtain ⟨t, d, ht, hd, hp, hstarted, hactive⟩ := h.serves (serving_of_api hstep hs)
  have hserving := serving_of_api hstep hs
  have hcleared := h.cleared
  obtain ⟨timer, data, made, queue, pool, port, signalled, loop, api, onLoop⟩ := s
  obtain rfl : timer = some t := ht
  obtain rfl : data = some d := hd
  cases api with
  | stop c =>
      unfold apiStep at hstep
      simp only [Option.bind_eq_bind, Option.bind_some] at hstep
      split_ifs at hstep
      · obtain rfl := Option.some.inj hstep
        exact ⟨_, d, rfl, rfl, hp, hstarted, nofun⟩
      · obtain rfl := Option.some.inj hstep
        exact ⟨t, d, rfl, rfl, hp, hstarted, fun _ => hactive rfl⟩
  | checkStarted c =>
      unfold apiStep at hstep
      simp only [Option.bind_eq_bind, Option.bind_some, hp] at hstep
      obtain rfl := Option.some.inj hstep
      refine ⟨t, d, rfl, rfl, hp, hstarted, fun htell _ => hstarted ?_⟩
      cases hd : d.started with
      | true => simp [hd, ApiPc.telling] at htell
      | false => rfl
  | deleteTimer c =>
      unfold apiStep at hstep
      simp only [Option.bind_eq_bind, Option.bind_some] at hstep
      split_ifs at hstep
      · obtain rfl := Option.some.inj hstep
        exact ⟨t, d, rfl, rfl, hp, fun _ => rfl, fun _ _ => rfl⟩
      · obtain rfl := Option.some.inj hstep
        exact ⟨t, d, rfl, rfl, hp, hstarted, nofun⟩
  | clearTimer c =>
      obtain rfl := Option.some.inj hstep
      exact ⟨t, _, rfl, rfl, hp, fun _ => hcleared rfl, fun _ _ => hcleared rfl⟩
  | restore c =>
      obtain rfl := Option.some.inj hstep
      exact ⟨_, d, rfl, rfl, hp, hstarted, fun _ hno => nomatch hno⟩
  | destroy =>
      obtain rfl := Option.some.inj hstep
      exact ⟨t, d, rfl, rfl, hp, hstarted, fun _ => hactive rfl⟩
  | idle => exact nomatch hstep
  | waitStop c => exact nomatch hstep
  | _ => exact nomatch hserving

theorem kept_api (h : Kept s) {ok : Bool} (hstep : apiStep s ok = some s') : Kept s' where
  serves := serves_api h hstep
  cleared := cleared_api hstep
  onLoop := by
    intro hbusy
    obtain ⟨-, honLoop, hloop, -, -, -, hidle, hdestroyed⟩ := api_frame hstep
    rw [State.busy, honLoop, Bool.and_eq_true, Bool.and_eq_true] at hbusy
    rw [hloop]
    refine h.onLoop ?_
    rw [State.busy, hbusy.1.1]
    simpa using ⟨hidle, hdestroyed⟩

/-- When `pd_timer_stop` returns `PD_OK`, the timer queue knows nothing of the timer. -/
theorem queueTimer_of_stopping (h : Kept s) {ok : Bool} (hpc : s.api.stopping = true)
    (hstep : apiStep s ok = some s') (hidle : s'.api = .idle) : s'.queueTimer = none := by
  have hserving : s.api.serving = true := serving_of_api hstep (by rw [hidle]; rfl)
  obtain ⟨t, d, ht, hd, hp, hstarted, hactive⟩ := h.serves hserving
  have hcleared := h.cleared
  obtain ⟨timer, data, made, queue, pool, port, signalled, loop, api, onLoop⟩ := s
  obtain rfl : timer = some t := ht
  obtain rfl : data = some d := hd
  cases api with
  | stop c =>
      unfold apiStep at hstep
      simp only [Option.bind_eq_bind, Option.bind_some] at hstep
      split_ifs at hstep with hact
      · obtain rfl := Option.some.inj hstep
        exact nomatch hidle
      · obtain rfl := Option.some.inj hstep
        exact hactive rfl (Bool.eq_false_iff.2 hact)
  | checkStarted c =>
      unfold apiStep at hstep
      simp only [Option.bind_eq_bind, Option.bind_some, hp] at hstep
      obtain rfl := Option.some.inj hstep
      refine hstarted ?_
      cases hd : d.started with
      | true => simp [hd] at hidle
      | false => rfl
  | clearTimer c =>
      obtain rfl := Option.some.inj hstep
      exact hcleared rfl
  | _ => exact nomatch hpc

theorem LoopPc.expiration_of_userRuns {pc : LoopPc} (h : pc.userRuns = true) :
    pc.expiration = none := by
  cases pc <;> first | rfl | exact nomatch h

theorem alive_subset (hq : ∀ n, s'.queueTimer = some n → n ∈ alive s)
    (hp : ∀ n, s'.pool.map Prod.fst = some n → n ∈ alive s)
    (harr : ∀ n, .timer n ∈ s'.port.arrived → n ∈ alive s)
    (hl : ∀ n, s'.loop.expiration = some n → n ∈ alive s) : alive s' ⊆ alive s := by
  rintro n (hn | hn | hn | hn)
  · exact hq n hn
  · exact hp n hn
  · exact harr n hn
  · exact hl n hn

/-- The packet of the drain is none of the timer. -/
theorem timer_mem_of_post {n : ℕ} {x : Packet} {port : Port Packet} (hx : x.isTimer = false)
    (h : .timer n ∈ (port.post x).arrived) : .timer n ∈ port.arrived := by
  rw [Port.arrived_post, List.mem_append, List.mem_singleton] at h
  refine h.resolve_right ?_
  rintro rfl
  exact nomatch hx

/-- What the record relies on. -/
structure Timed (s : State) (p : Phase ℕ) : Prop where
  kept : Kept s
  phase : ∀ m, p = .set m → m ≤ s.made

/-- An access of a call. -/
theorem api_moves (h : Timed s p) {ok : Bool} (hclear : Clear (s, g) (.api ok))
    (hstep : apiStep s ok = some s') :
    Timed s' (p.after (signal s (.api ok))) ∧
      Moves p (alive s) (alive s') (signal s (.api ok)) := by
  obtain ⟨hmade, -, hloop, hpool, hqueue, hport, hidle, hdestroyed⟩ := api_frame hstep
  have harr : ∀ n, .timer n ∈ s'.port.arrived → .timer n ∈ s.port.arrived := by
    intro n hn
    rcases hport with heq | heq
    · exact heq ▸ hn
    · exact timer_mem_of_post rfl (heq ▸ hn)
  unfold Clear at hclear
  unfold signal at hclear ⊢
  dsimp only at hclear ⊢
  split_ifs at hclear ⊢ with hstop
  · obtain ⟨hnopool, hnopacket⟩ := hclear rfl
    rw [Bool.and_eq_true, Bool.and_eq_true, hstep] at hstop
    obtain ⟨⟨honLoop, hpc⟩, hreturn⟩ := hstop
    refine ⟨⟨kept_api h.kept hstep, nofun⟩, .cancel ?_⟩
    have hruns : s.loop.userRuns = true := by
      refine h.kept.onLoop ?_
      rw [State.busy, honLoop]
      simpa using ⟨hidle, hdestroyed⟩
    have hnone : s'.queueTimer = none :=
      queueTimer_of_stopping h.kept hpc hstep (eq_of_beq hreturn)
    refine Set.eq_empty_of_forall_notMem ?_
    rintro n (hn | hn | hn | hn)
    · exact nomatch hnone.symm.trans hn
    · rw [hpool, hnopool] at hn
      exact nomatch hn
    · exact nomatch hnopacket _ (harr n hn)
    · rw [hloop] at hn
      -- user code is running on the loop thread
      exact nomatch (LoopPc.expiration_of_userRuns hruns).symm.trans hn
  · refine ⟨⟨kept_api h.kept hstep, fun m hm => hmade ▸ h.phase m hm⟩, .quiet ?_⟩
    refine alive_subset (fun n hn => ?_) (fun n hn => ?_) (fun n hn => ?_) (fun n hn => ?_)
    · rcases hqueue with heq | heq
      · exact Or.inl (heq ▸ hn)
      · exact nomatch heq.symm.trans hn
    · exact Or.inr (Or.inl (hpool ▸ hn))
    · exact Or.inr (Or.inr (Or.inl (harr n hn)))
    · exact Or.inr (Or.inr (Or.inr (hloop ▸ hn)))

/-- A step of the timer queue or of the loop thread. -/
theorem Kept.keep (h : Kept s) {q : Option ℕ} {pool : Option (ℕ × PoolPc)} {port : Port Packet}
    {signalled : Bool} {pc : LoopPc} (hq : s.queueTimer = none → q = none)
    (hloop : s.busy = true → pc.userRuns = true) :
    Kept { s with
      queueTimer := q, pool := pool, port := port, signalled := signalled, loop := pc } where
  serves hs := by
    obtain ⟨t, d, ht, hd, hp, hstarted, hactive⟩ := h.serves hs
    exact ⟨t, d, ht, hd, hp, fun hno => hq (hstarted hno), fun htell hno => hq (hactive htell hno)⟩
  cleared hc := hq (h.cleared hc)
  onLoop := hloop

/-- The loop thread is not held up while it goes through its batch. -/
theorem Kept.not_busy (h : Kept s) (hl : s.loop.userRuns = false) {pc : LoopPc} :
    s.busy = true → pc.userRuns = true :=
  fun hbusy => nomatch hl.symm.trans (h.onLoop hbusy)

/-- The call moves on, and tells less of the timer than before. -/
theorem Kept.goto (h : Kept s) {pc : ApiPc} (hidle : s.api ≠ .idle)
    (hdestroyed : s.api ≠ .destroyed)
    (hserving : pc.serving = true → s.api.serving = true ∧ pc.telling = false)
    (hcleared : pc.cleared = true → s.api.cleared = true) : Kept { s with api := pc } where
  serves hs := by
    obtain ⟨hs', htell⟩ := hserving hs
    obtain ⟨t, d, ht, hd, hp, hstarted, -⟩ := h.serves hs'
    exact ⟨t, d, ht, hd, hp, hstarted, fun hyes => nomatch htell.symm.trans hyes⟩
  cleared hc := h.cleared (hcleared hc)
  onLoop hbusy := by
    rw [State.busy, Bool.and_eq_true, Bool.and_eq_true] at hbusy
    refine h.onLoop ?_
    rw [State.busy, hbusy.1.1]
    simpa using ⟨hidle, hdestroyed⟩

/-- A wait ends. -/
theorem kept_wake (h : Kept s) (hstep : wakeStep s = some s') :
    Kept s' ∧ alive s' = alive s ∧ s'.made = s.made := by
  obtain ⟨timer, data, made, queue, pool, port, signalled, loop, api, onLoop⟩ := s
  cases api with
  | waitStop c =>
      obtain ⟨-, hstep⟩ := Option.ite_none_right_eq_some.1 hstep
      obtain rfl := Option.some.inj hstep
      exact ⟨h.goto nofun nofun (fun _ => ⟨rfl, rfl⟩) fun _ => rfl, rfl, rfl⟩
  | waitCallback =>
      obtain ⟨-, hstep⟩ := Option.ite_none_right_eq_some.1 hstep
      obtain rfl := Option.some.inj hstep
      exact ⟨h.goto nofun nofun nofun nofun, rfl, rfl⟩
  | waitEvent =>
      obtain ⟨-, hstep⟩ := Option.ite_none_right_eq_some.1 hstep
      obtain rfl := Option.some.inj hstep
      exact ⟨h.goto nofun nofun nofun nofun, rfl, rfl⟩
  | _ => exact nomatch hstep

/-- A wait is given up. -/
theorem kept_expire (h : Kept s) (hstep : expireStep s = some s') :
    Kept s' ∧ alive s' = alive s ∧ s'.made = s.made := by
  obtain ⟨timer, data, made, queue, pool, port, signalled, loop, api, onLoop⟩ := s
  cases api with
  | waitStop c =>
      obtain rfl := Option.some.inj hstep
      exact ⟨h.goto nofun nofun (fun _ => ⟨rfl, rfl⟩) fun _ => rfl, rfl, rfl⟩
  | waitEvent =>
      obtain rfl := Option.some.inj hstep
      exact ⟨h.goto nofun nofun nofun nofun, rfl, rfl⟩
  | _ => exact nomatch hstep

/-- A call begins. -/
theorem kept_call (h : Kept s) {pc : ApiPc} {onLoop : Bool}
    (hcleared : pc.cleared = false) (hstep : callStep s pc onLoop = some s') :
    Kept s' ∧ alive s' = alive s ∧ s'.made = s.made := by
  obtain ⟨⟨hidle, hruns⟩, hstep⟩ := Option.ite_none_right_eq_some.1 hstep
  obtain rfl := Option.some.inj hstep
  refine ⟨⟨fun _ => ?_, fun hc => (nomatch hcleared.symm.trans hc), fun hbusy => ?_⟩, rfl, rfl⟩
  · obtain ⟨t, d, ht, hd, hp, hstarted, hactive⟩ := h.serves (by rw [hidle]; rfl)
    exact ⟨t, d, ht, hd, hp, hstarted, fun _ => hactive (by rw [hidle]; rfl)⟩
  · rw [State.busy, Bool.and_eq_true, Bool.and_eq_true] at hbusy
    exact hruns hbusy.1.1

/-- `pd_timer_start`. -/
theorem start_moves (h : Timed s p) {ok : Bool} (hidle : s.api = .idle)
    (hstep : startStep s ok = some s') :
    Timed s' (p.after (signal s (.start ok))) ∧
      Moves p (alive s) (alive s') (signal s (.start ok)) := by
  obtain ⟨⟨active, pointer⟩, d, ht, hd, hp, hstarted, -⟩ := h.kept.serves (by rw [hidle]; rfl)
  obtain rfl : pointer = true := hp
  unfold startStep at hstep
  simp only [ht, hd, Option.bind_eq_bind, Option.bind_some, Bool.not_true,
    Bool.false_eq_true, if_false] at hstep
  simp only [signal, State.startable, ht, Option.any_some, Bool.and_true, Bool.and_eq_true,
    Bool.not_eq_true']
  split_ifs at hstep with hact hok
  · obtain rfl := Option.some.inj hstep
    rw [if_neg (by simp [hact])]
    exact ⟨h, .quiet subset_rfl⟩
  · obtain rfl := Option.some.inj hstep
    rw [if_pos ⟨hok, by simpa using hact⟩]
    refine ⟨⟨⟨fun _ => ?_, fun hc => ?_, fun hbusy => ?_⟩, fun m hm => ?_⟩, .set ?_ h.phase⟩
    · exact ⟨_, _, rfl, rfl, rfl, nofun, nofun⟩
    · exact nomatch (show ApiPc.cleared .idle = true from hidle ▸ hc)
    · exact h.kept.onLoop hbusy
    · cases p with
      | fresh => exact nomatch hm
      | cancelled =>
          obtain rfl := Phase.set.inj hm
          exact Nat.le_succ _
      | set k =>
          obtain rfl := Phase.set.inj hm
          exact Nat.le_succ_of_le (h.phase k rfl)
    · rintro n (hn | hn | hn | hn)
      · exact Or.inl (Option.some.inj hn).symm
      · exact Or.inr (Or.inr (Or.inl hn))
      · exact Or.inr (Or.inr (Or.inr (Or.inl hn)))
      · exact Or.inr (Or.inr (Or.inr (Or.inr hn)))
  · obtain rfl := Option.some.inj hstep
    rw [if_neg (by simp [hok])]
    exact ⟨h, .quiet subset_rfl⟩

/-- The queue timer expires. -/
theorem fire_moves (h : Timed s p) {again : Bool} (hstep : fireStep s again = some s') :
    Timed s' p ∧ alive s' ⊆ alive s := by
  obtain ⟨n, hn, hstep⟩ := Option.bind_eq_some_iff.1 hstep
  obtain ⟨-, hstep⟩ := Option.ite_none_right_eq_some.1 hstep
  obtain rfl := Option.some.inj hstep
  refine ⟨⟨h.kept.keep (fun hnone => nomatch hn.symm.trans hnone) h.kept.onLoop, h.phase⟩, ?_⟩
  refine alive_subset (fun m hm => Or.inl ?_) (fun m hm => Or.inl ?_)
    (fun m hm => Or.inr (Or.inr (Or.inl hm))) (fun m hm => Or.inr (Or.inr (Or.inr hm)))
  · cases again with
    | true => exact hn.trans hm
    | false => exact nomatch hm
  · exact hn.trans hm

/-- `iocp_timer_callback`. -/
theorem pool_moves (h : Timed s p) {ok : Bool} (hstep : poolStep s ok = some s') :
    Timed s' p ∧ alive s' ⊆ alive s := by
  obtain ⟨⟨n, pc⟩, hn, hstep⟩ := Option.bind_eq_some_iff.1 hstep
  have hrun : n ∈ alive s := Or.inr (Or.inl (by rw [hn]; rfl))
  -- it goes on, posts its packet, or returns
  have hmove : ∀ pool port, (∀ m, pool.map Prod.fst = some m → m = n) →
      (∀ m, .timer m ∈ port.arrived → .timer m ∈ s.port.arrived ∨ m = n) →
      Timed { s with pool := pool, port := port } p ∧
        alive { s with pool := pool, port := port } ⊆ alive s := by
    intro pool port hpool hport
    refine ⟨⟨h.kept.keep id h.kept.onLoop, h.phase⟩, alive_subset (fun m hm => Or.inl hm)
      (fun m hm => hpool m hm ▸ hrun) (fun m hm => ?_) fun m hm => Or.inr (Or.inr (Or.inr hm))⟩
    rcases hport m hm with hm | rfl
    · exact Or.inr (Or.inr (Or.inl hm))
    · exact hrun
  cases pc with
  | readTimer =>
      obtain ⟨t, -, hstep⟩ := Option.bind_eq_some_iff.1 hstep
      obtain rfl := Option.some.inj hstep
      refine hmove _ _ (fun m hm => ?_) fun m => Or.inl
      split at hm
      · exact (Option.some.inj hm).symm
      · exact nomatch hm
  | readDestroyed =>
      obtain ⟨d, -, hstep⟩ := Option.bind_eq_some_iff.1 hstep
      obtain rfl := Option.some.inj hstep
      refine hmove _ _ (fun m hm => ?_) fun m => Or.inl
      split at hm
      · exact nomatch hm
      · exact (Option.some.inj hm).symm
  | post =>
      obtain ⟨d, -, hstep⟩ := Option.bind_eq_some_iff.1 hstep
      obtain rfl := Option.some.inj hstep
      refine hmove _ _ (fun m hm => nomatch hm) fun m hm => ?_
      cases ok with
      | false => exact Or.inl hm
      | true =>
          rw [if_pos rfl, Port.arrived_post, List.mem_append, List.mem_singleton] at hm
          exact hm.imp_right Packet.timer.inj

/-- An access of the loop thread in its timer branch. -/
theorem loop_moves (h : Timed s p) (hstep : loopStep s = some s') :
    Timed s' (p.after (signal s .loop)) ∧ Moves p (alive s) (alive s') (signal s .loop) := by
  have hmove : ∀ pc, s.loop.userRuns = false →
      (∀ n, pc.expiration = some n → s.loop.expiration = some n) →
      Timed { s with loop := pc } p ∧ alive { s with loop := pc } ⊆ alive s := by
    intro pc hl hpc
    exact ⟨⟨h.kept.keep id (h.kept.not_busy hl), h.phase⟩, alive_subset (fun m hm => Or.inl hm)
      (fun m hm => Or.inr (Or.inl hm)) (fun m hm => Or.inr (Or.inr (Or.inl hm)))
      fun m hm => Or.inr (Or.inr (Or.inr (hpc m hm)))⟩
  unfold loopStep at hstep
  unfold signal
  cases hl : s.loop with
  | readCallback n =>
      simp only [hl] at hstep
      obtain ⟨t, -, hstep⟩ := Option.bind_eq_some_iff.1 hstep
      obtain rfl := Option.some.inj hstep
      obtain ⟨htimed, hsub⟩ := hmove (.readData n) (by rw [hl]; rfl) fun m hm => by
        rw [hl]
        exact hm
      exact ⟨htimed, .quiet hsub⟩
  | readData n =>
      simp only [hl] at hstep
      obtain ⟨t, -, hstep⟩ := Option.bind_eq_some_iff.1 hstep
      obtain rfl := Option.some.inj hstep
      obtain ⟨htimed, hsub⟩ := hmove (if t.platformData then .readDestroyed n else .dispatch)
        (by rw [hl]; rfl) fun m hm => by
          rw [hl]
          split at hm
          · exact hm
          · exact nomatch hm
      exact ⟨htimed, .quiet hsub⟩
  | readDestroyed n =>
      simp only [hl] at hstep
      obtain ⟨d, -, hstep⟩ := Option.bind_eq_some_iff.1 hstep
      obtain rfl := Option.some.inj hstep
      obtain ⟨htimed, hsub⟩ := hmove (if d.destroyed then .dispatch else .start n)
        (by rw [hl]; rfl) fun m hm => by
          rw [hl]
          split at hm
          · exact nomatch hm
          · exact hm
      exact ⟨htimed, .quiet hsub⟩
  | start n =>
      simp only [hl] at hstep
      obtain ⟨t, -, hstep⟩ := Option.bind_eq_some_iff.1 hstep
      obtain rfl := Option.some.inj hstep
      obtain ⟨htimed, hsub⟩ := hmove .callback (by rw [hl]; rfl) nofun
      exact ⟨htimed, .deliver (Or.inr (Or.inr (Or.inr (by rw [hl]; rfl)))) hsub⟩
  | _ => simp [hl] at hstep

/-- The loop turns to the next packet. -/
theorem next_moves (h : Timed s p) (hstep : loopNext s = some s') :
    Timed s' p ∧ alive s' ⊆ alive s := by
  obtain ⟨hdispatch, hstep⟩ := Option.ite_none_right_eq_some.1 hstep
  have hl : s.loop.userRuns = false := by rw [hdispatch]; rfl
  cases hp : s.port.next with
  | none =>
      rw [hp] at hstep
      obtain rfl := Option.some.inj hstep
      exact ⟨⟨h.kept.keep id (h.kept.not_busy hl), h.phase⟩, alive_subset (fun m hm => Or.inl hm)
        (fun m hm => Or.inr (Or.inl hm)) (fun m hm => Or.inr (Or.inr (Or.inl hm))) nofun⟩
  | some r =>
      obtain ⟨x, port⟩ := r
      have harr := Port.arrived_of_next hp
      have hmem : ∀ y ∈ port.arrived, y ∈ s.port.arrived := by
        intro y hy
        rw [harr]
        exact List.mem_cons_of_mem x hy
      have hmove : ∀ signalled pc, (∀ n, pc.expiration = some n → n ∈ alive s) →
          Timed { s with port := port, signalled := signalled, loop := pc } p ∧
            alive { s with port := port, signalled := signalled, loop := pc } ⊆ alive s := by
        intro signalled pc hpc
        exact ⟨⟨h.kept.keep id (h.kept.not_busy hl), h.phase⟩, alive_subset (fun m hm => Or.inl hm)
          (fun m hm => Or.inr (Or.inl hm)) (fun m hm => Or.inr (Or.inr (Or.inl (hmem _ hm)))) hpc⟩
      rw [hp] at hstep
      cases x with
      | timer n =>
          obtain rfl := Option.some.inj hstep
          refine hmove s.signalled (.readCallback n) fun m hm => Or.inr (Or.inr (Or.inl ?_))
          obtain rfl := Option.some.inj hm
          rw [harr]
          exact List.mem_cons_self
      | drain =>
          obtain rfl := Option.some.inj hstep
          exact hmove true s.loop fun m hm => Or.inr (Or.inr (Or.inr hm))
      | other =>
          obtain rfl := Option.some.inj hstep
          exact hmove s.signalled .other nofun

/-- What one step does. -/
theorem step_moves (h : Timed s p) {l : Step} (hclear : Clear (s, g) l)
    (hstep : step s l = some s') :
    Timed s' (p.after (signal s l)) ∧ Moves p (alive s) (alive s') (signal s l) := by
  -- the steps of which the user sees nothing
  have hquiet : Timed s' p ∧ alive s' ⊆ alive s →
      Timed s' p ∧ Moves p (alive s) (alive s') .quiet :=
    fun hq => ⟨hq.1, .quiet hq.2⟩
  have hsame : Kept s' ∧ alive s' = alive s ∧ s'.made = s.made →
      Timed s' p ∧ Moves p (alive s) (alive s') .quiet :=
    fun hs => ⟨⟨hs.1, fun m hm => hs.2.2 ▸ h.phase m hm⟩, .quiet hs.2.1.subset⟩
  have hloop : ∀ port pc, (∀ x ∈ port.arrived, x ∈ s.port.arrived ∨ x.isTimer = false) →
      pc.expiration = none → (s.busy = true → pc.userRuns = true) →
      Timed { s with port := port, loop := pc } p ∧
        Moves p (alive s) (alive { s with port := port, loop := pc }) .quiet := by
    intro port pc hport hpc hbusy
    refine ⟨⟨h.kept.keep id hbusy, h.phase⟩, .quiet (alive_subset (fun m hm => Or.inl hm)
      (fun m hm => Or.inr (Or.inl hm)) (fun m hm => Or.inr (Or.inr (Or.inl ?_)))
      fun m hm => nomatch hpc.symm.trans hm)⟩
    exact (hport _ hm).resolve_right nofun
  cases l with
  | start ok =>
      obtain ⟨hidle, hstep⟩ := Option.ite_none_right_eq_some.1 hstep
      exact start_moves h hidle hstep
  | stop onLoop => exact hsame (kept_call h.kept rfl hstep)
  | destroy onLoop => exact hsame (kept_call h.kept rfl hstep)
  | api ok => exact api_moves h hclear hstep
  | wake => exact hsame (kept_wake h.kept hstep)
  | expire => exact hsame (kept_expire h.kept hstep)
  | fire again => exact hquiet (fire_moves h hstep)
  | pool ok => exact hquiet (pool_moves h hstep)
  | enter =>
      obtain ⟨⟨-, hbusy⟩, hstep⟩ := Option.ite_none_right_eq_some.1 hstep
      obtain rfl := Option.some.inj hstep
      exact hloop s.port .waiting (fun _ => Or.inl) rfl fun hb => nomatch hbusy.symm.trans hb
  | take k =>
      obtain ⟨⟨hl, -⟩, hstep⟩ := Option.ite_none_right_eq_some.1 hstep
      obtain rfl := Option.some.inj hstep
      refine hloop (s.port.take k) .dispatch (fun x hx => ?_) rfl
        (h.kept.not_busy (by rw [hl]; rfl))
      rw [Port.arrived_take] at hx
      exact Or.inl hx
  | next => exact hquiet (next_moves h hstep)
  | loop => exact loop_moves h hstep
  | ret =>
      obtain ⟨⟨-, hbusy⟩, hstep⟩ := Option.ite_none_right_eq_some.1 hstep
      obtain rfl := Option.some.inj hstep
      exact hloop s.port .dispatch (fun _ => Or.inl) rfl fun hb => nomatch hbusy.symm.trans hb
  | post =>
      obtain rfl := Option.some.inj hstep
      refine ⟨⟨h.kept.keep id h.kept.onLoop, h.phase⟩, .quiet (alive_subset (fun m hm => Or.inl hm)
        (fun m hm => Or.inr (Or.inl hm)) (fun m hm => Or.inr (Or.inr (Or.inl ?_)))
        fun m hm => Or.inr (Or.inr (Or.inr hm)))⟩
      exact timer_mem_of_post rfl hm

/-- No callback is invoked out of its phase in a run whose stops are clear. -/
theorem timely_of_clear (hr : recordedRuns.Reach Clear (s, g)) : g.Timely := by
  have hall := Log.timely_of_moves (I := Timed) (A := alive) ?_ ?_ hr
  · exact hall.2.2
  · rintro s rfl
    refine ⟨⟨fun _ => ?_, nofun, nofun⟩, nofun⟩
    exact ⟨_, _, rfl, rfl, rfl, fun _ => rfl, fun _ _ => rfl⟩
  · intro s g l s' hi _ hok hnext
    exact step_moves hi hok hnext

end

end Timer
end Iocp
end PollDancer
