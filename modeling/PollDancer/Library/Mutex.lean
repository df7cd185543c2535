/-
# Operations under a mutex

Any number of threads share a state.  An operation is a piece of `Code`, one access
after another; a thread that performs it takes the mutex, makes its accesses in turn
with those of the other threads, gives the mutex back and returns.  The mutex can be
left out, with the flag `locks`: then nothing keeps the accesses of two operations apart.

With the mutex every run is linearizable (`Linearizes.of_reach`): the operations that have
given the mutex back, in that order, have done and returned what they do one after the
other, and the one that holds it is on its way to what it would do next.  So an
invariant of the sequential operations holds whenever the mutex is free, and where the
sequential operations make no forbidden access, none is made in any run (`not_faulty`).
-/
import Mathlib.Logic.Function.Basic
import PollDancer.Library.Machine

namespace Library

variable {ι κ σ α : Type*}

/-- What a thread does on the shared state.  The code after an access depends on what the
access has read, and an access that the state does not allow has no result. -/
inductive Code (σ α : Type*)
  | ret (a : α)
  | access (effect : σ → Option σ) (rest : σ → Code σ α)

namespace Code

/-- An access that only reads. -/
def read (rest : σ → Code σ α) : Code σ α := .access some rest

/-- An access that only writes. -/
def write (f : σ → σ) (rest : Code σ α) : Code σ α := .access (fun s => some (f s)) fun _ => rest

/-- The code from beginning to end, with nobody else on the state. -/
def run : Code σ α → σ → Option (σ × α)
  | .ret a, s => some (s, a)
  | .access f rest, s => (f s).bind fun s' => (rest s).run s'

@[simp]
theorem run_ret (a : α) (s : σ) : (Code.ret a).run s = some (s, a) := rfl

@[simp]
theorem run_access (f : σ → Option σ) (rest : σ → Code σ α) (s : σ) :
    (Code.access f rest).run s = (f s).bind fun s' => (rest s).run s' := rfl

@[simp]
theorem run_read (rest : σ → Code σ α) (s : σ) : (Code.read rest).run s = (rest s).run s := rfl

@[simp]
theorem run_write (f : σ → σ) (rest : Code σ α) (s : σ) :
    (Code.write f rest).run s = rest.run (f s) := rfl

end Code

/-- Where a thread is in an operation. -/
inductive Phase (κ σ α : Type*)
  | idle
  /-- Called, and before the mutex. -/
  | waiting (op : κ)
  /-- Past the mutex, with this code still to run. -/
  | inside (op : κ) (rest : Code σ α)
  /-- The mutex is given back, the call has not returned. -/
  | leaving (op : κ) (a : α)

/-- Is the thread in no operation? -/
def Phase.isIdle : Phase κ σ α → Bool
  | .idle => true
  | .waiting _ | .inside _ _ | .leaving _ _ => false

theorem Phase.isIdle_iff {p : Phase κ σ α} : p.isIdle = true ↔ p = .idle := by
  cases p <;> simp [Phase.isIdle]

/-- The shared state, the mutex, the threads, and a record of the operations that have
given the mutex back. -/
structure Threads (ι κ σ α : Type*) where
  shared : σ
  owner : Option ι
  phase : ι → Phase κ σ α
  log : List (ι × κ × α)

/-- A thread's steps. -/
inductive ThreadStep (ι κ : Type*)
  | invoke (i : ι) (op : κ)
  | enter (i : ι)
  | access (i : ι)
  | exit (i : ι)
  | finish (i : ι)
  deriving DecidableEq

/-- The thread that makes a step. -/
def ThreadStep.thread : ThreadStep ι κ → ι
  | .invoke i _ | .enter i | .access i | .exit i | .finish i => i

namespace Threads

/-- The threads before the first call. -/
def start (ι κ α : Type*) (s₀ : σ) : Threads ι κ σ α where
  shared := s₀
  owner := none
  phase _ := .idle
  log := []

variable [DecidableEq ι]

/-- The thread `i` moves. -/
def move (s : Threads ι κ σ α) (i : ι) (p : Phase κ σ α) : Threads ι κ σ α :=
  { s with phase := Function.update s.phase i p }

/-- The state after a step, `none` where the step cannot be taken. -/
def step (locks : Bool) (body : κ → Code σ α) (s : Threads ι κ σ α) :
    ThreadStep ι κ → Option (Threads ι κ σ α)
  | .invoke i op =>
      match s.phase i with
      | .idle => some (s.move i (.waiting op))
      | _ => none
  | .enter i =>
      match s.phase i with
      | .waiting op =>
          if locks then
            if s.owner.isNone then
              some { s.move i (.inside op (body op)) with owner := some i }
            else none
          else some (s.move i (.inside op (body op)))
      | _ => none
  | .access i =>
      match s.phase i with
      | .inside op (.access f rest) =>
          (f s.shared).map fun t => { s.move i (.inside op (rest s.shared)) with shared := t }
      | _ => none
  | .exit i =>
      match s.phase i with
      | .inside op (.ret a) =>
          some { s.move i (.leaving op a) with owner := none, log := s.log ++ [(i, op, a)] }
      | _ => none
  | .finish i =>
      match s.phase i with
      | .leaving _ _ => some (s.move i .idle)
      | _ => none

/-- The runs of the threads from a shared state. -/
def runs (locks : Bool) (body : κ → Code σ α) (s₀ : σ) :
    Machine (Threads ι κ σ α) (ThreadStep ι κ) :=
  Machine.ofFun (· = start ι κ α s₀) (step locks body)

/-- A thread is about to make an access that the state does not allow. -/
def Faulty (s : Threads ι κ σ α) : Prop :=
  ∃ i op f rest, s.phase i = .inside op (.access f rest) ∧ f s.shared = none

variable {locks : Bool} {body : κ → Code σ α} {s s' : Threads ι κ σ α} {s₀ base : σ} {i j : ι}

@[simp]
theorem move_phase_self {p : Phase κ σ α} : (s.move i p).phase i = p :=
  Function.update_self ..

theorem move_phase_of_ne {p : Phase κ σ α} (h : j ≠ i) : (s.move i p).phase j = s.phase j :=
  Function.update_of_ne h ..

/-- A thread that is where the moving thread does not go is another one, and was there. -/
theorem of_move {p q : Phase κ σ α} (hpq : p ≠ q) (h : (s.move i p).phase j = q) :
    j ≠ i ∧ s.phase j = q := by
  rcases eq_or_ne j i with rfl | hne
  · exact absurd (move_phase_self.symm.trans h) hpq
  · exact ⟨hne, (move_phase_of_ne hne).symm.trans h⟩

/-! ### What a step does -/

theorem step_invoke {op : κ} (h : step locks body s (.invoke i op) = some s') :
    s.phase i = .idle ∧ s' = s.move i (.waiting op) := by
  simp only [step] at h
  split at h
  · rename_i hp
    exact ⟨hp, (Option.some.inj h).symm⟩
  · exact absurd h (by simp)

theorem step_enter (h : step locks body s (.enter i) = some s') :
    ∃ op, s.phase i = .waiting op ∧ (locks = true → s.owner = none) ∧
      s' = { s.move i (.inside op (body op)) with owner := if locks then some i else s.owner } := by
  simp only [step] at h
  split at h
  · rename_i op hp
    refine ⟨op, hp, ?_⟩
    cases locks with
    | false => exact ⟨fun hl => absurd hl (by simp), (Option.some.inj h).symm⟩
    | true =>
        rw [if_pos rfl] at h
        obtain ⟨hfree, h⟩ := Option.ite_none_right_eq_some.1 h
        exact ⟨fun _ => Option.isNone_iff_eq_none.1 hfree, (Option.some.inj h).symm⟩
  · exact absurd h (by simp)

theorem step_access (h : step locks body s (.access i) = some s') :
    ∃ op f rest t, s.phase i = .inside op (.access f rest) ∧ f s.shared = some t ∧
      s' = { s.move i (.inside op (rest s.shared)) with shared := t } := by
  simp only [step] at h
  split at h
  · rename_i op f rest hp
    obtain ⟨t, ht, rfl⟩ := Option.map_eq_some_iff.1 h
    exact ⟨op, f, rest, t, hp, ht, rfl⟩
  · exact absurd h (by simp)

theorem step_exit (h : step locks body s (.exit i) = some s') :
    ∃ op a, s.phase i = .inside op (.ret a) ∧
      s' = { s.move i (.leaving op a) with owner := none, log := s.log ++ [(i, op, a)] } := by
  simp only [step] at h
  split at h
  · rename_i op a hp
    exact ⟨op, a, hp, (Option.some.inj h).symm⟩
  · exact absurd h (by simp)

theorem step_finish (h : step locks body s (.finish i) = some s') :
    (∃ op a, s.phase i = .leaving op a) ∧ s' = s.move i .idle := by
  simp only [step] at h
  split at h
  · rename_i op a hp
    exact ⟨⟨op, a, hp⟩, (Option.some.inj h).symm⟩
  · exact absurd h (by simp)

/-- A step moves one thread. -/
theorem phase_of_step {l : ThreadStep ι κ} (h : step locks body s l = some s')
    (hj : j ≠ l.thread) : s'.phase j = s.phase j := by
  cases l with
  | invoke i op =>
      obtain ⟨-, rfl⟩ := step_invoke h
      exact move_phase_of_ne hj
  | enter i =>
      obtain ⟨op, -, -, rfl⟩ := step_enter h
      exact move_phase_of_ne hj
  | access i =>
      obtain ⟨op, f, rest, t, -, -, rfl⟩ := step_access h
      exact move_phase_of_ne hj
  | exit i =>
      obtain ⟨op, a, -, rfl⟩ := step_exit h
      exact move_phase_of_ne hj
  | finish i =>
      obtain ⟨-, rfl⟩ := step_finish h
      exact move_phase_of_ne hj

/-- A thread that makes no step of a run is where it was. -/
theorem phase_of_run {ls : List (ThreadStep ι κ)}
    (h : Machine.run (step locks body) s ls = some s') (hj : ∀ l ∈ ls, j ≠ l.thread) :
    s'.phase j = s.phase j := by
  induction ls generalizing s with
  | nil =>
      obtain rfl := Option.some.inj h
      rfl
  | cons l ls ih =>
      obtain ⟨t, ht, h⟩ := Option.bind_eq_some_iff.1 h
      rw [ih h fun m hm => hj m (List.mem_cons_of_mem l hm),
        phase_of_step ht (hj l (List.mem_cons_self ..))]

/-! ### Linearizability -/

/-- One after the other, the operations of the record take `s₀` to a state and return what
the record says. -/
inductive Sequential (body : κ → Code σ α) (s₀ : σ) : List (ι × κ × α) → σ → Prop
  | nil : Sequential body s₀ [] s₀
  | snoc {log : List (ι × κ × α)} {s s' : σ} {i : ι} {op : κ} {a : α} :
      Sequential body s₀ log s → (body op).run s = some (s', a) →
      Sequential body s₀ (log ++ [(i, op, a)]) s'

/-- The record explains the state: `base` is what its operations come to.  While the mutex
is free that is the shared state, and nobody is past the mutex; while it is held, only its
owner is past it, and has yet to do what takes its operation from `base` to its end.  A
call that is about to return returns what the record says of the thread's last
operation. -/
structure Linearizes (body : κ → Code σ α) (s₀ : σ) (s : Threads ι κ σ α) (base : σ) : Prop where
  sequential : Sequential body s₀ s.log base
  free : s.owner = none → s.shared = base
  inside : ∀ i op rest, s.phase i = .inside op rest →
    s.owner = some i ∧ (body op).run base = rest.run s.shared
  held : ∀ i, s.owner = some i → ∃ op rest, s.phase i = .inside op rest
  told : ∀ i op a, s.phase i = .leaving op a →
    (s.log.filter fun e => e.1 = i).getLast? = some (i, op, a)

theorem linearizes_start : Linearizes body s₀ (start ι κ α s₀) s₀ where
  sequential := .nil
  free _ := rfl
  inside _ _ _ h := absurd h (by simp [start])
  held _ h := absurd h (by simp [start])
  told _ _ _ h := absurd h (by simp [start])

/-- A thread moves outside the mutex. -/
theorem Linearizes.move {p : Phase κ σ α} (h : Linearizes body s₀ s base)
    (hout : ∀ op rest, s.phase i ≠ .inside op rest) (hin : ∀ op rest, p ≠ .inside op rest)
    (hleave : ∀ op a, p ≠ .leaving op a) : Linearizes body s₀ (s.move i p) base where
  sequential := h.sequential
  free := h.free
  inside j op rest hj := h.inside j op rest (of_move (hin op rest) hj).2
  held j hj := by
    obtain ⟨op, rest, hr⟩ := h.held j hj
    have hne : j ≠ i := by
      rintro rfl
      exact hout op rest hr
    exact ⟨op, rest, (move_phase_of_ne hne).trans hr⟩
  told j op a hj := h.told j op a (of_move (hleave op a) hj).2

/-- A step other than giving the mutex back is no operation of its own. -/
theorem Linearizes.quiet {l : ThreadStep ι κ} (h : Linearizes body s₀ s base)
    (hl : ∀ i, l ≠ .exit i) (hstep : step true body s l = some s') :
    Linearizes body s₀ s' base ∧ s'.log = s.log := by
  cases l with
  | invoke i op =>
      obtain ⟨hp, rfl⟩ := step_invoke hstep
      exact ⟨h.move (fun _ _ hr => absurd (hp.symm.trans hr) (by simp)) (by simp) (by simp), rfl⟩
  | enter i =>
      obtain ⟨op, hp, hfree, rfl⟩ := step_enter hstep
      have hfree := hfree rfl
      refine ⟨⟨h.sequential, fun hn => absurd hn (by simp), fun j op' rest hj => ?_,
        fun j hj => ?_, fun j op' a hj => h.told j op' a (of_move (by simp) hj).2⟩, rfl⟩
      · rcases eq_or_ne j i with rfl | hne
        · obtain ⟨rfl, rfl⟩ := Phase.inside.inj (hj.symm.trans move_phase_self)
          exact ⟨rfl, by rw [← h.free hfree]; rfl⟩
        · -- the mutex was free: nobody else is past it
          have ho := (h.inside j op' rest ((move_phase_of_ne hne).symm.trans hj)).1
          exact absurd (hfree.symm.trans ho) (by simp)
      · obtain rfl : i = j := by simpa using hj
        exact ⟨op, body op, move_phase_self⟩
  | access i =>
      obtain ⟨op, f, rest, t, hp, ht, rfl⟩ := step_access hstep
      obtain ⟨hown, hrun⟩ := h.inside i op _ hp
      refine ⟨⟨h.sequential, fun hn => absurd (hown.symm.trans hn) (by simp),
        fun j op' rest' hj => ?_, fun j hj => ?_,
        fun j op' a hj => h.told j op' a (of_move (by simp) hj).2⟩, rfl⟩
      · rcases eq_or_ne j i with rfl | hne
        · obtain ⟨rfl, rfl⟩ := Phase.inside.inj (hj.symm.trans move_phase_self)
          refine ⟨hown, ?_⟩
          rw [hrun, Code.run_access, ht]
          rfl
        · have ho := (h.inside j op' rest' ((move_phase_of_ne hne).symm.trans hj)).1
          exact absurd (Option.some.inj (ho.symm.trans hown)) hne
      · obtain rfl : i = j := Option.some.inj (hown.symm.trans hj)
        exact ⟨op, rest s.shared, move_phase_self⟩
  | exit i => exact absurd rfl (hl i)
  | finish i =>
      obtain ⟨⟨op, a, hp⟩, rfl⟩ := step_finish hstep
      exact ⟨h.move (fun _ _ hr => absurd (hp.symm.trans hr) (by simp)) (by simp) (by simp), rfl⟩

/-- Giving the mutex back is the operation: the record gets its next entry, which is what
the operation does after those before it. -/
theorem Linearizes.exit (h : Linearizes body s₀ s base)
    (hstep : step true body s (.exit i) = some s') :
    ∃ op a, s.phase i = .inside op (.ret a) ∧ (body op).run base = some (s'.shared, a) ∧
      s'.log = s.log ++ [(i, op, a)] ∧ s'.phase = Function.update s.phase i (.leaving op a) ∧
      Linearizes body s₀ s' s'.shared := by
  obtain ⟨op, a, hp, rfl⟩ := step_exit hstep
  obtain ⟨hown, hrun⟩ := h.inside i op _ hp
  have hout : ∀ j op' rest, (s.move i (.leaving op a)).phase j ≠ .inside op' rest := by
    intro j op' rest hj
    obtain ⟨hne, hj⟩ := of_move (by simp) hj
    exact hne (Option.some.inj ((h.inside j op' rest hj).1.symm.trans hown))
  refine ⟨op, a, hp, hrun, rfl, rfl, .snoc h.sequential hrun, fun _ => rfl,
    fun j op' rest hj => absurd hj (hout j op' rest), fun j hj => absurd hj (by simp),
    fun j op' a' hj => ?_⟩
  show ((s.log ++ [(i, op, a)]).filter fun e => e.1 = j).getLast? = some (j, op', a')
  rw [List.filter_append]
  rcases eq_or_ne j i with rfl | hne
  · obtain ⟨rfl, rfl⟩ := Phase.leaving.inj (hj.symm.trans move_phase_self)
    simp
  · have hnot : ([(i, op, a)].filter fun e => e.1 = j) = [] := by
      simp [Ne.symm hne]
    rw [hnot, List.append_nil]
    exact h.told j op' a' ((move_phase_of_ne hne).symm.trans hj)

/-- What one step preserves. -/
theorem Linearizes.step {l : ThreadStep ι κ} (h : Linearizes body s₀ s base)
    (hstep : step true body s l = some s') : ∃ base', Linearizes body s₀ s' base' := by
  by_cases hl : ∀ i, l ≠ .exit i
  · exact ⟨base, (h.quiet hl hstep).1⟩
  · push Not at hl
    obtain ⟨i, rfl⟩ := hl
    obtain ⟨-, -, -, -, -, -, h'⟩ := h.exit hstep
    exact ⟨_, h'⟩

/-- **Runs under the mutex are linearizable.** -/
theorem Linearizes.of_reach {ok : Threads ι κ σ α → ThreadStep ι κ → Prop}
    (h : (runs true body s₀).Reach ok s) : ∃ base, Linearizes body s₀ s base := by
  refine h.invariant (I := fun s => ∃ base, Linearizes body s₀ s base) ?_ ?_
  · rintro s rfl
    exact ⟨s₀, linearizes_start⟩
  · rintro s l s' ⟨base, hi⟩ - hstep
    exact hi.step hstep

omit [DecidableEq ι] in
/-- An invariant of the sequential operations holds after those of the record. -/
theorem Sequential.invariant {I : List (ι × κ × α) → σ → Prop} {log : List (ι × κ × α)}
    (h₀ : I [] s₀) (hop : ∀ log s i op a s', I log s → (body op).run s = some (s', a) →
      I (log ++ [(i, op, a)]) s') (h : Sequential body s₀ log base) : I log base := by
  induction h with
  | nil => exact h₀
  | snoc _ hrun ih => exact hop _ _ _ _ _ _ ih hrun

/-- Where no operation makes a forbidden access by itself, none is made in a run under the
mutex. -/
theorem Linearizes.not_faulty (h : Linearizes body s₀ s base)
    (hrun : ∀ op, ((body op).run base).isSome) : ¬s.Faulty := by
  rintro ⟨i, op, f, rest, hp, hf⟩
  obtain ⟨-, heq⟩ := h.inside i op _ hp
  have hsome := hrun op
  rw [heq, Code.run_access, hf] at hsome
  exact absurd hsome (by simp)

/-- The record only grows: an operation that has returned before another is called comes
before it. -/
theorem log_prefix {ls : List (ThreadStep ι κ)} (h : Machine.run (step locks body) s ls = some s') :
    s.log <+: s'.log := by
  induction ls generalizing s with
  | nil =>
      obtain rfl := Option.some.inj h
      exact List.prefix_refl _
  | cons l ls ih =>
      obtain ⟨t, ht, h⟩ := Option.bind_eq_some_iff.1 h
      refine List.IsPrefix.trans ?_ (ih h)
      cases l with
      | invoke i op =>
          obtain ⟨-, rfl⟩ := step_invoke ht
          exact List.prefix_refl _
      | enter i =>
          obtain ⟨op, -, -, rfl⟩ := step_enter ht
          exact List.prefix_refl _
      | access i =>
          obtain ⟨op, f, rest, u, -, -, rfl⟩ := step_access ht
          exact List.prefix_refl _
      | exit i =>
          obtain ⟨op, a, -, rfl⟩ := step_exit ht
          exact List.prefix_append ..
      | finish i =>
          obtain ⟨-, rfl⟩ := step_finish ht
          exact List.prefix_refl _

end Threads
end Library
