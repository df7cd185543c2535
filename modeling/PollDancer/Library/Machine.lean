/-
# Labelled machines and their guarded runs

A machine is an initial condition and a labelled step relation.  `Machine.Reach`
collects the states reached by runs all of whose steps satisfy a guard: with the
guard `fun _ _ => True` these are the reachable states, with a stronger guard
they are the states of the runs that keep to a discipline.  `Reach.invariant` is
the one induction every development over a machine needs, and `run` executes a
list of labels of a machine whose steps are given by a partial function.
-/
import Mathlib.Data.List.Basic

namespace Library

variable {σ α : Type*}

/-- A labelled transition system: which states a run may start in, and which
steps it may take. -/
structure Machine (σ α : Type*) where
  /-- The initial states. -/
  init : σ → Prop
  /-- The steps: `next s a s'` when the label `a` may lead from `s` to `s'`. -/
  next : σ → α → σ → Prop

namespace Machine

variable {M : Machine σ α} {ok : σ → α → Prop}

/-- The states reached by runs whose every step satisfies the guard `ok`, which
sees the state before the step and the label. -/
inductive Reach (M : Machine σ α) (ok : σ → α → Prop) : σ → Prop
  | init {s : σ} : M.init s → Reach M ok s
  | step {s s' : σ} {a : α} : Reach M ok s → ok s a → M.next s a s' → Reach M ok s'

/-- Every state of an unguarded run. -/
abbrev Reachable (M : Machine σ α) : σ → Prop := M.Reach fun _ _ => True

/-- The invariant rule: what holds initially and survives every guarded step
holds in every state a guarded run reaches. -/
theorem Reach.invariant {I : σ → Prop} (h₀ : ∀ s, M.init s → I s)
    (hstep : ∀ s a s', I s → ok s a → M.next s a s' → I s') {s : σ} (h : M.Reach ok s) :
    I s := by
  induction h with
  | init hs => exact h₀ _ hs
  | step _ hok hnext ih => exact hstep _ _ _ ih hok hnext

/-- The machine of a partial step function. -/
def ofFun (init : σ → Prop) (f : σ → α → Option σ) : Machine σ α where
  init := init
  next s a s' := f s a = some s'

/-- Execute a list of labels from a state; `none` once a label is not enabled. -/
def run (f : σ → α → Option σ) (s : σ) : List α → Option σ
  | [] => some s
  | a :: as => (f s a).bind fun s' => run f s' as

/-- Execute a list of labels while a decidable guard holds; `none` as soon as the
guard fails or the label is not enabled. -/
def runGuarded (ok : σ → α → Prop) [∀ s a, Decidable (ok s a)] (f : σ → α → Option σ) (s : σ) :
    List α → Option σ
  | [] => some s
  | a :: as => if ok s a then (f s a).bind fun s' => runGuarded ok f s' as else none

/-- An execution extends a guarded run by unguarded steps. -/
theorem Reach.run {init : σ → Prop} {f : σ → α → Option σ} {s s' : σ} {as : List α}
    (h : (ofFun init f).Reachable s) (hr : Machine.run f s as = some s') :
    (ofFun init f).Reachable s' := by
  induction as generalizing s with
  | nil =>
      obtain rfl := Option.some.inj hr
      exact h
  | cons a as ih =>
      obtain ⟨t, ht, hr⟩ := Option.bind_eq_some_iff.1 hr
      exact ih (.step h trivial ht) hr

/-- A guarded execution reaches a state of a guarded run. -/
theorem Reach.runGuarded {init : σ → Prop} {f : σ → α → Option σ} {ok : σ → α → Prop}
    [∀ s a, Decidable (ok s a)] {s s' : σ} {as : List α} (h : (ofFun init f).Reach ok s)
    (hr : Machine.runGuarded ok f s as = some s') : (ofFun init f).Reach ok s' := by
  induction as generalizing s with
  | nil =>
      obtain rfl := Option.some.inj hr
      exact h
  | cons a as ih =>
      rw [Machine.runGuarded] at hr
      split at hr
      · rename_i ha
        obtain ⟨t, ht, hr⟩ := Option.bind_eq_some_iff.1 hr
        exact ih (.step h ha ht) hr
      · exact absurd hr (by simp)

/-! ### Runs of two machines -/

section

variable {τ β : Type*} {f : σ → α → Option σ} {g : τ → β → Option τ} {tr : σ → α → List β}
  {ok : σ → α → Prop} [∀ s a, Decidable (ok s a)] {R : σ → τ → Prop}

/-- Two lists of labels are executed one after the other. -/
theorem run_append (g : τ → β → Option τ) (t : τ) (as bs : List β) :
    run g t (as ++ bs) = (run g t as).bind fun t' => run g t' bs := by
  induction as generalizing t with
  | nil => rfl
  | cons a as ih => simp only [List.cons_append, run, ih, Option.bind_assoc]

/-- The labels of another machine that stand for those of an execution; what stands for one
depends on the state in which it is taken. -/
def translate (f : σ → α → Option σ) (tr : σ → α → List β) (s : σ) : List α → List β
  | [] => []
  | a :: as => tr s a ++ ((f s a).map fun s' => translate f tr s' as).getD []

/-- The simulation rule: when every guarded step is matched by the labels that stand for it,
so is every guarded execution. -/
theorem run_translate
    (hstep : ∀ s t a s', R s t → ok s a → f s a = some s' →
      ∃ t', run g t (tr s a) = some t' ∧ R s' t')
    {s s' : σ} {t : τ} {as : List α} (h : R s t) (hr : runGuarded ok f s as = some s') :
    ∃ t', run g t (translate f tr s as) = some t' ∧ R s' t' := by
  induction as generalizing s t with
  | nil =>
      obtain rfl := Option.some.inj hr
      exact ⟨t, rfl, h⟩
  | cons a as ih =>
      obtain ⟨ha, hr⟩ := Option.ite_none_right_eq_some.1 hr
      obtain ⟨s₁, hs₁, hr⟩ := Option.bind_eq_some_iff.1 hr
      obtain ⟨t₁, ht₁, h₁⟩ := hstep s t a s₁ h ha hs₁
      obtain ⟨t', ht', h'⟩ := ih h₁ hr
      refine ⟨t', ?_, h'⟩
      rw [translate, hs₁, run_append, ht₁]
      exact ht'

end

/-! ### Runs with a record -/

variable {η : Type*} {init : σ → Prop} {f : σ → α → Option σ} {note : σ → α → η → η} {h₀ h : η}

/-- A step that also keeps a record of the run: `note` adds to the record what a step from
a state under a label is worth. -/
def recordStep (f : σ → α → Option σ) (note : σ → α → η → η) (s : σ × η) (a : α) :
    Option (σ × η) :=
  (f s.1 a).map fun s' => (s', note s.1 a s.2)

/-- The machine of a partial step function, with a record of its run beside the state. -/
def recorded (init : σ → Prop) (f : σ → α → Option σ) (h₀ : η) (note : σ → α → η → η) :
    Machine (σ × η) α :=
  ofFun (fun s => init s.1 ∧ s.2 = h₀) (recordStep f note)

/-- The invariant rule for recorded runs. -/
theorem Reach.recorded_invariant {I : σ → η → Prop} {ok : σ × η → α → Prop}
    (hinit : ∀ s, init s → I s h₀)
    (hstep : ∀ s h a s', I s h → ok (s, h) a → f s a = some s' → I s' (note s a h))
    {s : σ} (hr : (recorded init f h₀ note).Reach ok (s, h)) : I s h := by
  refine hr.invariant (I := fun s => I s.1 s.2) ?_ ?_
  · rintro ⟨s, h⟩ ⟨hs, rfl⟩
    exact hinit s hs
  · rintro ⟨s, h⟩ a s' hi hok hnext
    obtain ⟨t, ht, rfl⟩ := Option.map_eq_some_iff.1 hnext
    exact hstep s h a t hi hok ht

/-- Every run can be recorded: the record never disables a step. -/
theorem Reach.exists_recorded {s : σ} (hr : (ofFun init f).Reach ok s) :
    ∃ h, (recorded init f h₀ note).Reach (fun s => ok s.1) (s, h) := by
  induction hr with
  | init hs => exact ⟨h₀, .init ⟨hs, rfl⟩⟩
  | @step s s' a _ hok hnext ih =>
      obtain ⟨h, hr⟩ := ih
      refine ⟨note s a h, .step hr hok ?_⟩
      exact Option.map_eq_some_iff.2 ⟨s', hnext, rfl⟩

end Machine
end Library
