/-
# The loops of epoll and kqueue, as a timer sees them

A timer of the two readiness backends expires in the kernel.  The wait reports it as one
event of a batch, and the loop comes to this event after the callbacks of the events before
it, which may start and stop the timer.  `TimerBackend` is what the two backends do for a
timer; the loop around it is the same.

One timer is followed.  An expiration carries the number of calls of `pd_timer_start` that
have succeeded before it, which the code does not have.

Neither loop looks at `active` before it invokes the callback of a timer, so an expiration
in the batch is delivered even if the timer has been stopped in between.  If there is none
whenever `pd_timer_stop` returns `PD_OK` (`Clear`), the callback is invoked for expirations
of the latest start only: `TimerBackend.timely_of_clear`.
-/
import PollDancer.Library.Alarm
import PollDancer.Types

namespace PollDancer

open Library Alarm

/-- An event of the batch, as far as the timer is concerned. -/
inductive TimerEvent
  /-- The timer has expired, after `n` starts. -/
  | expired (n : ℕ)
  | other
  deriving DecidableEq, Repr

/-- Where the loop thread is. -/
inductive LoopMode
  /-- Outside the loop function. -/
  | idle
  /-- In the wait. -/
  | waiting
  /-- At the head of the `for` over the batch. -/
  | dispatch
  /-- In the callback of an event. -/
  | callback
  deriving DecidableEq, Repr

/-- Is user code running on the loop thread? -/
def LoopMode.userRuns : LoopMode → Bool
  | .idle => true
  | .callback => true
  | _ => false

/-- What a readiness backend does for one timer: `ω` is the state of the loop with the
expirations that the kernel has not reported, `ε` are the answers of the environment to a
call. -/
structure TimerBackend (ω ε : Type) where
  /-- `pd_timer_start`. -/
  start : ω → ε → ω × PdError
  /-- `pd_timer_stop`. -/
  stop : ω → ε → ω × PdError
  /-- The kernel's timer expires after `n` starts, if it can. -/
  expire : ω → ℕ → Option ω
  /-- The wait reports an expiration, if there is one to report. -/
  report : ω → Option (ω × ℕ)
  /-- Does the event of the timer lead to its callback? -/
  invokes : ω → Bool
  /-- What the loop does before it invokes the callback.  The kernel may refuse it. -/
  acknowledge : ω → Bool → ω

/-- The loop thread, its batch, and how many calls of `pd_timer_start` have succeeded. -/
structure TimerLoop (ω : Type) where
  sys : ω
  batch : List TimerEvent
  starts : ℕ
  mode : LoopMode

/-- The timer has just been created, by user code on the loop thread. -/
def TimerLoop.Created {ω : Type} (created : ω → Prop) (s : TimerLoop ω) : Prop :=
  created s.sys ∧ (∀ e ∈ s.batch, e = .other) ∧ s.starts = 0 ∧ s.mode.userRuns = true

/-- The steps of the loop and of the user's calls on the timer. -/
inductive TimerStep (ε : Type)
  /-- `pd_timer_start` is called on the loop thread. -/
  | start (env : ε)
  /-- `pd_timer_stop` is called on the loop thread. -/
  | stop (env : ε)
  | expire
  /-- The loop thread calls the loop function. -/
  | enter
  /-- The wait returns a batch: `before` events, and the event of the timer with `after`
  more behind it, if it is among them. -/
  | report (before : ℕ) (after : Option ℕ)
  /-- The loop turns to the next event of its batch, and the kernel may refuse what it then
  asks of it. -/
  | next (refused : Bool)
  /-- The running callback returns. -/
  | ret
  deriving DecidableEq, Repr

namespace TimerBackend

variable {ω ε : Type} (B : TimerBackend ω ε)

/-- The batch with the event of the timer at the given place. -/
def batchOf (before n after : ℕ) : List TimerEvent :=
  List.replicate before .other ++ .expired n :: List.replicate after .other

/-- The wait returns. -/
def reportStep (s : TimerLoop ω) (before : ℕ) : Option ℕ → Option (TimerLoop ω)
  | none => some { s with batch := List.replicate before .other, mode := .dispatch }
  | some after => do
      let (sys, n) ← B.report s.sys
      some { s with sys, batch := batchOf before n after, mode := .dispatch }

/-- The loop turns to the next event. -/
def nextStep (s : TimerLoop ω) (refused : Bool) : TimerLoop ω :=
  match s.batch with
  | [] => { s with mode := .idle }
  | .other :: batch => { s with batch, mode := .callback }
  | .expired _ :: batch =>
    if B.invokes s.sys then
      { s with sys := B.acknowledge s.sys refused, batch, mode := .callback }
    else { s with batch }

/-- The state after a step, `none` where the step cannot be taken. -/
def step (s : TimerLoop ω) : TimerStep ε → Option (TimerLoop ω)
  | .start env =>
      if s.mode.userRuns then
        let r := B.start s.sys env
        some { s with sys := r.1, starts := if r.2 = .ok then s.starts + 1 else s.starts }
      else none
  | .stop env => if s.mode.userRuns then some { s with sys := (B.stop s.sys env).1 } else none
  | .expire => do
      let sys ← B.expire s.sys s.starts
      some { s with sys }
  | .enter => if s.mode = .idle then some { s with mode := .waiting } else none
  | .report before after => if s.mode = .waiting then B.reportStep s before after else none
  | .next refused => if s.mode = .dispatch then some (B.nextStep s refused) else none
  | .ret => if s.mode = .callback then some { s with mode := .dispatch } else none

/-- What the user sees of a step. -/
def signal (s : TimerLoop ω) : TimerStep ε → Signal ℕ
  | .start env => if (B.start s.sys env).2 = .ok then .set (s.starts + 1) else .quiet
  | .stop env => if (B.stop s.sys env).2 = .ok then .cancel else .quiet
  | .next _ =>
      match s.batch with
      | .expired n :: _ => if B.invokes s.sys then .deliver n else .quiet
      | _ => .quiet
  | _ => .quiet

/-- The runs of the loop, with a record of the callbacks. -/
def runs (created : ω → Prop) : Machine (TimerLoop ω × Log ℕ) (TimerStep ε) :=
  Machine.recorded (TimerLoop.Created created) B.step .empty fun s l g => g.note (B.signal s l)

/-- When `pd_timer_stop` returns `PD_OK`, no expiration of the timer is left in the batch. -/
def Clear (s : TimerLoop ω × Log ℕ) : TimerStep ε → Prop
  | .stop env => (B.stop s.1.sys env).2 = .ok → ∀ e ∈ s.1.batch, e = .other
  | _ => True

instance (s : TimerLoop ω × Log ℕ) : (l : TimerStep ε) → Decidable (B.Clear s l)
  | .stop env =>
      inferInstanceAs (Decidable ((B.stop s.1.sys env).2 = .ok → ∀ e ∈ s.1.batch, e = .other))
  | .start _ => isTrue trivial
  | .expire => isTrue trivial
  | .enter => isTrue trivial
  | .report _ _ => isTrue trivial
  | .next _ => isTrue trivial
  | .ret => isTrue trivial

/-! ### What a backend has to see to -/

/-- What the operations of a backend keep: `inv` is its invariant, `active` says whether
the timer is active, and `pending` are the expirations that the kernel may still report.
None is pending while the timer is not active, and only an expiration adds one. -/
structure Keeps (inv : ω → Prop) (active : ω → Bool) (pending : ω → Set ℕ) : Prop where
  inactive : ∀ k, inv k → active k = false → pending k = ∅
  start : ∀ k env, inv k → inv (B.start k env).1 ∧
    pending (B.start k env).1 ⊆ pending k ∧
    ((B.start k env).2 ≠ .ok → active (B.start k env).1 = active k)
  start_ok : ∀ k env, inv k → (B.start k env).2 = .ok → active (B.start k env).1 = true
  stop : ∀ k env, inv k → inv (B.stop k env).1 ∧
    ((B.stop k env).2 ≠ .ok → active (B.stop k env).1 = active k ∧
      pending (B.stop k env).1 ⊆ pending k)
  stop_ok : ∀ k env, inv k → (B.stop k env).2 = .ok → active (B.stop k env).1 = false
  expire : ∀ k n k', inv k → B.expire k n = some k' → inv k' ∧ active k' = active k ∧
    pending k' ⊆ insert n (pending k)
  report : ∀ k k' n, inv k → B.report k = some (k', n) → inv k' ∧ active k' = active k ∧
    n ∈ pending k ∧ pending k' ⊆ pending k
  acknowledge : ∀ k refused, inv k → active k = true → inv (B.acknowledge k refused) ∧
    active (B.acknowledge k refused) = true ∧ pending (B.acknowledge k refused) ⊆ pending k

/-- The expirations that may still be delivered: those in the batch and those that are
pending, and if the timer is active, those to come. -/
def alive (active : ω → Bool) (pending : ω → Set ℕ) (s : TimerLoop ω) : Set ℕ :=
  {n | .expired n ∈ s.batch ∨ n ∈ pending s.sys ∨ active s.sys = true ∧ n = s.starts}

/-- What the loop keeps, in runs whose stops are clear. -/
structure Inv (inv : ω → Prop) (active : ω → Bool) (s : TimerLoop ω) (p : Phase ℕ) :
    Prop where
  sys : inv s.sys
  batch : ∀ n, .expired n ∈ s.batch → active s.sys = true
  phase : ∀ m, p = .set m → m ≤ s.starts

theorem mem_batchOf {before n after m : ℕ} : .expired m ∈ batchOf before n after ↔ m = n := by
  simp [batchOf]

theorem expired_notMem_others {k n : ℕ} : TimerEvent.expired n ∉ List.replicate k .other := by
  simp

variable {B} {inv : ω → Prop} {active : ω → Bool} {pending : ω → Set ℕ} {s s' : TimerLoop ω}
  {p : Phase ℕ}

/-- An expiration is pending only while the timer is active. -/
theorem Keeps.active_of_mem (hB : B.Keeps inv active pending) {k : ω} (hk : inv k) {n : ℕ}
    (hn : n ∈ pending k) : active k = true := by
  cases hact : active k with
  | true => rfl
  | false =>
      rw [hB.inactive k hk hact] at hn
      exact absurd hn (Set.notMem_empty n)

/-- A step that leaves the batch and `active` alone adds nothing that is alive. -/
theorem alive_subset (hbatch : ∀ n, .expired n ∈ s'.batch → .expired n ∈ s.batch)
    (hpending : pending s'.sys ⊆ pending s.sys) (hact : active s'.sys = active s.sys)
    (hstarts : s'.starts = s.starts) : alive active pending s' ⊆ alive active pending s := by
  rintro n (hn | hn | ⟨hn, rfl⟩)
  · exact Or.inl (hbatch n hn)
  · exact Or.inr (Or.inl (hpending hn))
  · exact Or.inr (Or.inr ⟨hact.symm.trans hn, hstarts⟩)

/-- The same for the invariant. -/
theorem Inv.of_same (h : Inv inv active s p) (hsys : inv s'.sys)
    (hbatch : ∀ n, .expired n ∈ s'.batch → .expired n ∈ s.batch)
    (hact : active s'.sys = active s.sys) (hstarts : s'.starts = s.starts) :
    Inv inv active s' p where
  sys := hsys
  batch := fun n hn => hact.trans (h.batch n (hbatch n hn))
  phase := fun m hm => hstarts ▸ h.phase m hm

/-- `pd_timer_start`. -/
theorem start_moves (hB : B.Keeps inv active pending) (h : Inv inv active s p) {env : ε}
    (hnext : B.step s (.start env) = some s') :
    Inv inv active s' (p.after (B.signal s (.start env))) ∧
      Moves p (alive active pending s) (alive active pending s') (B.signal s (.start env)) := by
  obtain ⟨-, hs⟩ := Option.ite_none_right_eq_some.1 hnext
  obtain rfl := Option.some.inj hs
  obtain ⟨hinv, hpending, hne⟩ := hB.start s.sys env h.sys
  rw [signal]
  by_cases hok : (B.start s.sys env).2 = .ok
  · have hact := hB.start_ok s.sys env h.sys hok
    simp only [hok, if_true]
    refine ⟨⟨hinv, fun n _ => hact, fun m hm => ?_⟩, .set ?_ fun m hm => ?_⟩
    · cases p with
      | fresh => exact nomatch hm
      | cancelled =>
          obtain rfl := Phase.set.inj hm
          exact Nat.le_refl _
      | set k =>
          obtain rfl := Phase.set.inj hm
          exact Nat.le_succ_of_le (h.phase k rfl)
    · rintro n (hn | hn | ⟨-, rfl⟩)
      · exact Or.inr (Or.inl hn)
      · exact Or.inr (Or.inr (Or.inl (hpending hn)))
      · exact Or.inl rfl
    · exact Nat.le_succ_of_le (h.phase m hm)
  · simp only [hok, if_false]
    exact ⟨h.of_same hinv (fun _ hn => hn) (hne hok) rfl,
      .quiet (alive_subset (fun _ hn => hn) hpending (hne hok) rfl)⟩

/-- `pd_timer_stop`. -/
theorem stop_moves (hB : B.Keeps inv active pending) (h : Inv inv active s p) {env : ε}
    (hclear : (B.stop s.sys env).2 = .ok → ∀ e ∈ s.batch, e = .other)
    (hnext : B.step s (.stop env) = some s') :
    Inv inv active s' (p.after (B.signal s (.stop env))) ∧
      Moves p (alive active pending s) (alive active pending s') (B.signal s (.stop env)) := by
  obtain ⟨-, hs⟩ := Option.ite_none_right_eq_some.1 hnext
  obtain rfl := Option.some.inj hs
  obtain ⟨hinv, hne⟩ := hB.stop s.sys env h.sys
  rw [signal]
  by_cases hok : (B.stop s.sys env).2 = .ok
  · have hact := hB.stop_ok s.sys env h.sys hok
    have hnone : ∀ n, .expired n ∉ s.batch := fun n hn => nomatch hclear hok _ hn
    simp only [hok, if_true]
    refine ⟨⟨hinv, fun n hn => absurd hn (hnone n), fun m hm => nomatch hm⟩, .cancel ?_⟩
    refine Set.eq_empty_iff_forall_notMem.2 ?_
    rintro n (hn | hn | ⟨hn, -⟩)
    · exact hnone n hn
    · exact nomatch hact.symm.trans (hB.active_of_mem hinv hn)
    · exact nomatch hact.symm.trans hn
  · obtain ⟨hact, hpending⟩ := hne hok
    simp only [hok, if_false]
    exact ⟨h.of_same hinv (fun _ hn => hn) hact rfl,
      .quiet (alive_subset (fun _ hn => hn) hpending hact rfl)⟩

/-- The timer expires. -/
theorem expire_moves (hB : B.Keeps inv active pending) (h : Inv inv active s p)
    (hnext : B.step s (.expire : TimerStep ε) = some s') :
    Inv inv active s' p ∧ alive active pending s' ⊆ alive active pending s := by
  obtain ⟨k, hk, hs⟩ := Option.bind_eq_some_iff.1 hnext
  obtain rfl := Option.some.inj hs
  obtain ⟨hinv, hact, hpending⟩ := hB.expire s.sys s.starts k h.sys hk
  refine ⟨h.of_same hinv (fun _ hn => hn) hact rfl, ?_⟩
  rintro n (hn | hn | hn)
  · exact Or.inl hn
  · rcases hpending hn with rfl | hold
    · -- it is the latest start, and the timer is active
      exact Or.inr (Or.inr ⟨hact.symm.trans (hB.active_of_mem hinv hn), rfl⟩)
    · exact Or.inr (Or.inl hold)
  · exact Or.inr (Or.inr ⟨hact.symm.trans hn.1, hn.2⟩)

/-- The wait returns. -/
theorem report_moves (hB : B.Keeps inv active pending) (h : Inv inv active s p) {before : ℕ}
    {after : Option ℕ} (hnext : B.reportStep s before after = some s') :
    Inv inv active s' p ∧ alive active pending s' ⊆ alive active pending s := by
  cases after with
  | none =>
      obtain rfl := Option.some.inj hnext
      have hbatch : ∀ n, .expired n ∈ List.replicate before TimerEvent.other →
          .expired n ∈ s.batch := fun n hn => absurd hn expired_notMem_others
      exact ⟨h.of_same h.sys hbatch rfl rfl, alive_subset hbatch subset_rfl rfl rfl⟩
  | some after =>
      obtain ⟨⟨k, n⟩, hk, hs⟩ := Option.bind_eq_some_iff.1 hnext
      obtain rfl := Option.some.inj hs
      obtain ⟨hinv, hact, hn, hpending⟩ := hB.report s.sys k n h.sys hk
      refine ⟨⟨hinv, fun _ _ => ?_, h.phase⟩, ?_⟩
      · exact hact.trans (hB.active_of_mem h.sys hn)
      · rintro m (hm | hm | hm)
        · obtain rfl := mem_batchOf.1 hm
          exact Or.inr (Or.inl hn)
        · exact Or.inr (Or.inl (hpending hm))
        · exact Or.inr (Or.inr ⟨hact.symm.trans hm.1, hm.2⟩)

/-- The loop turns to the next event. -/
theorem next_moves (hB : B.Keeps inv active pending) (h : Inv inv active s p) (refused : Bool) :
    Inv inv active (B.nextStep s refused) (p.after (B.signal s (.next refused))) ∧
      Moves p (alive active pending s) (alive active pending (B.nextStep s refused))
        (B.signal s (.next refused)) := by
  have hbatch : ∀ {e batch}, s.batch = e :: batch → ∀ n, .expired n ∈ batch →
      .expired n ∈ s.batch := by
    intro e batch heq n hn
    rw [heq]
    exact List.mem_cons_of_mem _ hn
  unfold nextStep signal
  cases heq : s.batch with
  | nil =>
      have hnil : ∀ n, .expired n ∈ ([] : List TimerEvent) → .expired n ∈ s.batch :=
        fun n hn => nomatch hn
      exact ⟨h.of_same h.sys hnil rfl rfl, .quiet (alive_subset hnil subset_rfl rfl rfl)⟩
  | cons e batch =>
      cases e with
      | other =>
          exact ⟨h.of_same h.sys (hbatch heq) rfl rfl,
            .quiet (alive_subset (hbatch heq) subset_rfl rfl rfl)⟩
      | expired n =>
          have hmem : .expired n ∈ s.batch := heq ▸ List.mem_cons_self
          dsimp only
          split_ifs
          · obtain ⟨hinv, hact, hpending⟩ := hB.acknowledge s.sys refused h.sys (h.batch n hmem)
            have hact' := hact.trans (h.batch n hmem).symm
            exact ⟨h.of_same hinv (hbatch heq) hact' rfl,
              .deliver (Or.inl hmem) (alive_subset (hbatch heq) hpending hact' rfl)⟩
          · exact ⟨h.of_same h.sys (hbatch heq) rfl rfl,
              .quiet (alive_subset (hbatch heq) subset_rfl rfl rfl)⟩

/-- What one step does. -/
theorem step_moves (hB : B.Keeps inv active pending) (h : Inv inv active s p) {g : Log ℕ}
    {l : TimerStep ε} (hclear : B.Clear (s, g) l) (hnext : B.step s l = some s') :
    Inv inv active s' (p.after (B.signal s l)) ∧
      Moves p (alive active pending s) (alive active pending s') (B.signal s l) := by
  cases l with
  | start env => exact start_moves hB h hnext
  | stop env => exact stop_moves hB h hclear hnext
  | expire =>
      obtain ⟨hinv, hsub⟩ := expire_moves hB h hnext
      exact ⟨hinv, .quiet hsub⟩
  | enter =>
      obtain ⟨-, hs⟩ := Option.ite_none_right_eq_some.1 hnext
      obtain rfl := Option.some.inj hs
      exact ⟨⟨h.sys, h.batch, h.phase⟩, .quiet subset_rfl⟩
  | report before after =>
      obtain ⟨-, hrep⟩ := Option.ite_none_right_eq_some.1 hnext
      obtain ⟨hinv, hsub⟩ := report_moves hB h hrep
      exact ⟨hinv, .quiet hsub⟩
  | next refused =>
      obtain ⟨-, hs⟩ := Option.ite_none_right_eq_some.1 hnext
      obtain rfl := Option.some.inj hs
      exact next_moves hB h refused
  | ret =>
      obtain ⟨-, hs⟩ := Option.ite_none_right_eq_some.1 hnext
      obtain rfl := Option.some.inj hs
      exact ⟨⟨h.sys, h.batch, h.phase⟩, .quiet subset_rfl⟩

/-- On a backend that keeps its timers, no callback is invoked out of its phase in a run
whose stops are clear. -/
theorem timely_of_clear {created : ω → Prop} (hB : B.Keeps inv active pending)
    (hinit : ∀ k, created k → inv k) {g : Log ℕ} (hr : (B.runs created).Reach B.Clear (s, g)) :
    g.Timely := by
  have hall := Log.timely_of_moves (I := Inv inv active) (A := alive active pending) ?_ ?_ hr
  · exact hall.2.2
  · rintro s ⟨hs, hbatch, -, -⟩
    exact ⟨hinit s.sys hs, fun n hn => (nomatch hbatch _ hn), fun m hm => (nomatch hm)⟩
  · intro s g l s' hi _ hok hnext
    exact step_moves hB hi hok hnext

/-! ### Active, and due to expire -/

/-- What a backend can tell of its timer, where the question is whether `active` is right. -/
structure Gauge (ω ε : Type) where
  active : ω → Bool
  /-- Is the timer of the kernel set? -/
  armed : ω → Bool
  /-- Will the loop set it anew when it comes to the event in its batch? -/
  rearms : ω → Bool
  /-- The expirations that the kernel has not reported. -/
  pending : ω → Set ℕ
  /-- Does `pd_timer_start` not fail once the timer of the kernel is set? -/
  startable : ω → ε → Bool
  /-- Does `pd_timer_stop` reach the timer of the kernel? -/
  stoppable : ω → ε → Bool
  /-- Does the timer of the kernel stay set when it expires? -/
  repeats : ω → Bool

variable {G : Gauge ω ε}

/-- The timer is active exactly while an expiration is to come, or is on its way. -/
def Gauge.Truthful (G : Gauge ω ε) (s : TimerLoop ω) : Prop :=
  G.active s.sys = true ↔
    G.armed s.sys = true ∨ (G.pending s.sys).Nonempty ∨ ∃ n, .expired n ∈ s.batch

/-- The timer repeats where it expires, no start fails after it has set the timer of the
kernel, a stop finds no expiration in the batch, nor does a start if the loop is to set the
timer anew, and the kernel lets the loop do so. -/
def Gauge.Sustained (G : Gauge ω ε) (s : TimerLoop ω) : TimerStep ε → Prop
  | .start env =>
      G.startable s.sys env = true ∧ (G.rearms s.sys = true → ∀ e ∈ s.batch, e = .other)
  | .stop env => G.stoppable s.sys env = true → ∀ e ∈ s.batch, e = .other
  | .expire => G.repeats s.sys = true
  | .next refused => G.rearms s.sys = true → refused = false
  | _ => True

instance (s : TimerLoop ω) : (l : TimerStep ε) → Decidable (G.Sustained s l)
  | .start env =>
      inferInstanceAs (Decidable (G.startable s.sys env = true ∧
        (G.rearms s.sys = true → ∀ e ∈ s.batch, e = .other)))
  | .stop env =>
      inferInstanceAs (Decidable (G.stoppable s.sys env = true → ∀ e ∈ s.batch, e = .other))
  | .expire => inferInstanceAs (Decidable (G.repeats s.sys = true))
  | .enter => isTrue trivial
  | .report _ _ => isTrue trivial
  | .next refused => inferInstanceAs (Decidable (G.rearms s.sys = true → refused = false))
  | .ret => isTrue trivial

/-- Where `pd_timer_start` returns `PD_OK`, the timer of the kernel is set. -/
def Gauge.Starts (B : TimerBackend ω ε) (G : Gauge ω ε) (s : TimerLoop ω) : Prop :=
  ∀ env s', G.Sustained s (.start env) → B.step s (.start env) = some s' →
    (B.start s.sys env).2 = .ok → G.armed s'.sys = true

/-- What the operations of a backend keep: without `active` there is nothing to expire, and
with it the timer of the kernel is set, or was a one-shot timer for the first delay. -/
structure Gauge.Fits (B : TimerBackend ω ε) (G : Gauge ω ε) (inv : ω → Prop) : Prop where
  inactive : ∀ k, inv k → G.active k = false → G.armed k = false ∧ G.pending k = ∅
  active : ∀ k, inv k → G.active k = true → G.armed k = true ∨ G.rearms k = true
  start : ∀ k env, inv k → (G.active k = true ∧ B.start k env = (k, .ok)) ∨
    (G.active k = false ∧ (B.start k env).2 = .ok ∧ inv (B.start k env).1 ∧
      G.active (B.start k env).1 = true ∧ G.armed (B.start k env).1 = true) ∨
    (G.active k = false ∧ (B.start k env).2 ≠ .ok ∧ (G.startable k env = true →
      inv (B.start k env).1 ∧ G.active (B.start k env).1 = false))
  stop : ∀ k env, inv k → inv (B.stop k env).1 ∧
    ((G.active (B.stop k env).1 = G.active k ∧ G.armed (B.stop k env).1 = G.armed k) ∨
      (G.stoppable k env = true ∧ G.active (B.stop k env).1 = false))
  expire : ∀ k n k', inv k → G.repeats k = true → B.expire k n = some k' →
    inv k' ∧ G.active k' = G.active k ∧ G.armed k' = G.armed k
  report : ∀ k k' n, inv k → B.report k = some (k', n) →
    inv k' ∧ G.active k = true ∧ G.active k' = true
  invokes : ∀ k, inv k → G.active k = true → B.invokes k = true
  acknowledge : ∀ k refused, inv k → G.active k = true → (G.rearms k = true → refused = false) →
    inv (B.acknowledge k refused) ∧ G.active (B.acknowledge k refused) = true ∧
      G.armed (B.acknowledge k refused) = true

/-- What the loop keeps: an expiration is in the batch only while the timer is active, one
is there if the timer of the kernel is not set, and there is none outside the `for`. -/
structure Gauge.Held (G : Gauge ω ε) (inv : ω → Prop) (s : TimerLoop ω) : Prop where
  sys : inv s.sys
  batch : ∀ n, .expired n ∈ s.batch → G.active s.sys = true
  armed : G.active s.sys = true → G.armed s.sys = false → ∃ n, .expired n ∈ s.batch
  clear : s.mode = .idle ∨ s.mode = .waiting → ∀ n, .expired n ∉ s.batch

namespace Gauge

/-- The state of the kernel changes, and neither `active` nor whether its timer is set. -/
theorem Held.of_same (h : G.Held inv s) (hsys : inv s'.sys)
    (hact : G.active s'.sys = G.active s.sys) (harmed : G.armed s'.sys = G.armed s.sys)
    (hbatch : s'.batch = s.batch) (hmode : s'.mode = s.mode) : G.Held inv s' where
  sys := hsys
  batch n hn := hact.trans (h.batch n (hbatch ▸ hn))
  armed hyes hno := hbatch ▸ h.armed (hact.symm.trans hyes) (harmed.symm.trans hno)
  clear hm := hbatch ▸ h.clear (hmode ▸ hm)

/-- An active timer without an expiration in the batch is set. -/
theorem Held.armed_of_clear (h : G.Held inv s) (hact : G.active s.sys = true)
    (hclear : ∀ n, .expired n ∉ s.batch) : G.armed s.sys = true := by
  by_contra hno
  obtain ⟨n, hn⟩ := h.armed hact (Bool.eq_false_iff.2 hno)
  exact hclear n hn

theorem held_start (hG : G.Fits B inv) (h : G.Held inv s) {env : ε}
    (hok : G.startable s.sys env = true) (hnext : B.step s (.start env) = some s') :
    G.Held inv s' := by
  obtain ⟨-, hs⟩ := Option.ite_none_right_eq_some.1 hnext
  obtain rfl := Option.some.inj hs
  rcases hG.start s.sys env h.sys with
    ⟨-, heq⟩ | ⟨-, -, hinv, hact, harmed⟩ | ⟨hinact, -, hfail⟩
  · rw [heq]
    exact h.of_same h.sys rfl rfl rfl rfl
  · exact ⟨hinv, fun _ _ => hact, fun _ hno => (nomatch harmed.symm.trans hno), h.clear⟩
  · obtain ⟨hinv, hact⟩ := hfail hok
    exact ⟨hinv, fun n hn => (nomatch hinact.symm.trans (h.batch n hn)),
      fun hyes => (nomatch hact.symm.trans hyes), h.clear⟩

theorem held_stop (hG : G.Fits B inv) (h : G.Held inv s) {env : ε}
    (hok : G.stoppable s.sys env = true → ∀ e ∈ s.batch, e = .other)
    (hnext : B.step s (.stop env) = some s') : G.Held inv s' := by
  obtain ⟨-, hs⟩ := Option.ite_none_right_eq_some.1 hnext
  obtain rfl := Option.some.inj hs
  obtain ⟨hinv, ⟨hact, harmed⟩ | ⟨hstop, hact⟩⟩ := hG.stop s.sys env h.sys
  · exact h.of_same hinv hact harmed rfl rfl
  · have hclear : ∀ n, .expired n ∉ s.batch := fun n hn => nomatch hok hstop _ hn
    exact ⟨hinv, fun n hn => absurd hn (hclear n), fun hyes => (nomatch hact.symm.trans hyes),
      h.clear⟩

theorem held_expire (hG : G.Fits B inv) (h : G.Held inv s) (hok : G.repeats s.sys = true)
    (hnext : B.step s (.expire : TimerStep ε) = some s') : G.Held inv s' := by
  obtain ⟨k, hk, hs⟩ := Option.bind_eq_some_iff.1 hnext
  obtain rfl := Option.some.inj hs
  obtain ⟨hinv, hact, harmed⟩ := hG.expire s.sys s.starts k h.sys hok hk
  exact h.of_same hinv hact harmed rfl rfl

/-- The wait returns. -/
theorem held_report (hG : G.Fits B inv) (h : G.Held inv s) (hmode : s.mode = .waiting)
    {before : ℕ} {after : Option ℕ} (hnext : B.reportStep s before after = some s') :
    G.Held inv s' := by
  have hnone := h.clear (.inr hmode)
  cases after with
  | none =>
      obtain rfl := Option.some.inj hnext
      refine ⟨h.sys, fun n hn => absurd hn expired_notMem_others, fun hact hno => ?_, ?_⟩
      · exact nomatch (h.armed_of_clear hact hnone).symm.trans hno
      · exact fun _ n => expired_notMem_others
  | some after =>
      obtain ⟨⟨k, n⟩, hk, hs⟩ := Option.bind_eq_some_iff.1 hnext
      obtain rfl := Option.some.inj hs
      obtain ⟨hinv, -, hact⟩ := hG.report s.sys k n h.sys hk
      refine ⟨hinv, fun _ _ => hact, fun _ _ => ⟨n, mem_batchOf.2 rfl⟩, ?_⟩
      rintro (hm | hm) <;> exact nomatch hm

/-- The loop turns to the next event. -/
theorem held_next (hG : G.Fits B inv) (h : G.Held inv s) {refused : Bool}
    (hok : G.rearms s.sys = true → refused = false) : G.Held inv (B.nextStep s refused) := by
  unfold nextStep
  cases heq : s.batch with
  | nil =>
      have hnone : ∀ n, .expired n ∉ s.batch := by simp [heq]
      refine ⟨h.sys, fun n hn => (nomatch hn), fun hact hno => ?_, fun _ n hn => nomatch hn⟩
      exact nomatch (h.armed_of_clear hact hnone).symm.trans hno
  | cons e batch =>
      cases e with
      | other =>
          have hmem : ∀ n, .expired n ∈ batch ↔ .expired n ∈ s.batch := by simp [heq]
          refine ⟨h.sys, fun n hn => h.batch n ((hmem n).1 hn), fun hact hno => ?_, ?_⟩
          · obtain ⟨n, hn⟩ := h.armed hact hno
            exact ⟨n, (hmem n).2 hn⟩
          · rintro (hm | hm) <;> exact nomatch hm
      | expired n =>
          have hact := h.batch n (heq ▸ List.mem_cons_self)
          dsimp only
          rw [if_pos (hG.invokes s.sys h.sys hact)]
          obtain ⟨hinv, hact', harmed⟩ := hG.acknowledge s.sys refused h.sys hact hok
          refine ⟨hinv, fun _ _ => hact', fun _ hno => (nomatch harmed.symm.trans hno), ?_⟩
          rintro (hm | hm) <;> exact nomatch hm

/-- What one step keeps. -/
theorem held_step (hG : G.Fits B inv) (h : G.Held inv s) {l : TimerStep ε}
    (hok : G.Sustained s l) (hnext : B.step s l = some s') : G.Held inv s' := by
  cases l with
  | start env => exact held_start hG h hok.1 hnext
  | stop env => exact held_stop hG h hok hnext
  | expire => exact held_expire hG h hok hnext
  | enter =>
      obtain ⟨hmode, hs⟩ := Option.ite_none_right_eq_some.1 hnext
      obtain rfl := Option.some.inj hs
      exact ⟨h.sys, h.batch, h.armed, fun _ => h.clear (.inl hmode)⟩
  | report before after =>
      obtain ⟨hmode, hrep⟩ := Option.ite_none_right_eq_some.1 hnext
      exact held_report hG h hmode hrep
  | next refused =>
      obtain ⟨-, hs⟩ := Option.ite_none_right_eq_some.1 hnext
      obtain rfl := Option.some.inj hs
      exact held_next hG h hok
  | ret =>
      obtain ⟨-, hs⟩ := Option.ite_none_right_eq_some.1 hnext
      obtain rfl := Option.some.inj hs
      refine ⟨h.sys, h.batch, h.armed, ?_⟩
      rintro (hm | hm) <;> exact nomatch hm

theorem Held.truthful (hG : G.Fits B inv) (h : G.Held inv s) : G.Truthful s := by
  constructor
  · intro hact
    cases harmed : G.armed s.sys with
    | true => exact .inl rfl
    | false => exact .inr (.inr (h.armed hact harmed))
  · rintro (harmed | ⟨n, hn⟩ | ⟨n, hn⟩)
    · by_contra hno
      have hoff := (hG.inactive s.sys h.sys (Bool.eq_false_iff.2 hno)).1
      exact nomatch harmed.symm.trans hoff
    · by_contra hno
      rw [(hG.inactive s.sys h.sys (Bool.eq_false_iff.2 hno)).2] at hn
      exact absurd hn (Set.notMem_empty n)
    · exact h.batch n hn

theorem Held.starts (hG : G.Fits B inv) (h : G.Held inv s) : G.Starts B s := by
  intro env s' hsus hnext hok
  obtain ⟨-, hs⟩ := Option.ite_none_right_eq_some.1 hnext
  obtain rfl := Option.some.inj hs
  rcases hG.start s.sys env h.sys with ⟨hact, heq⟩ | ⟨-, -, -, -, harmed⟩ | ⟨-, hne, -⟩
  · rw [heq]
    rcases hG.active s.sys h.sys hact with harmed | hrearms
    · exact harmed
    · refine h.armed_of_clear hact fun n hn => ?_
      exact nomatch hsus.2 hrearms _ hn
  · exact harmed
  · exact absurd hok hne

/-- On a backend that fits its gauge, `active` is right in every state of a sustained run,
and a start leaves the timer set. -/
theorem truthful_of_reach {created : ω → Prop} (hG : G.Fits B inv)
    (hinit : ∀ k, created k → inv k ∧ G.active k = false)
    (hr : (Machine.ofFun (TimerLoop.Created created) B.step).Reach G.Sustained s) :
    G.Truthful s ∧ G.Starts B s := by
  have hheld : G.Held inv s := by
    refine hr.invariant ?_ fun _ _ _ hi hok hnext => held_step hG hi hok hnext
    rintro s ⟨hs, hbatch, -, -⟩
    obtain ⟨hinv, hact⟩ := hinit s.sys hs
    have hnone : ∀ n, .expired n ∉ s.batch := fun n hn => nomatch hbatch _ hn
    exact ⟨hinv, fun n hn => absurd hn (hnone n), fun hyes => (nomatch hact.symm.trans hyes),
      fun _ => hnone⟩
  exact ⟨hheld.truthful hG, hheld.starts hG⟩

end Gauge

end TimerBackend
end PollDancer
