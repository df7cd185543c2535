/-
# Refinement of a specification by what runs show

A step of a machine shows something to its surroundings, or nothing.  `Shows` is a guarded
run together with the list of what it has shown so far; `Refines` compares a machine with
a specification through a map of its states: a step that shows nothing keeps the state of
the specification, and one that shows a label takes the step of the specification with
that label.  So every run of the machine shows what some run of the specification shows
(`Refines.shows`), and two machines that refine a specification whose steps are determined
by their labels are in the same state of it whenever they have shown the same
(`agree_of_shows`).
-/
import PollDancer.Library.Machine

namespace Library
namespace Machine

variable {σ σ' α α' τ ρ : Type*}

/-- The guarded runs of a machine, with what they have shown. -/
inductive Shows (M : Machine σ α) (ok : σ → α → Prop) (sh : σ → α → Option ρ) :
    List ρ → σ → Prop
  | init {s : σ} : M.init s → Shows M ok sh [] s
  | step {os : List ρ} {s s' : σ} {a : α} : Shows M ok sh os s → ok s a → M.next s a s' →
      Shows M ok sh (os ++ (sh s a).toList) s'

/-- The runs of a specification, which shows every label. -/
abbrev Traces (S : Machine τ ρ) : List ρ → τ → Prop :=
  S.Shows (fun _ _ => True) fun _ l => some l

variable {M : Machine σ α} {ok ok' : σ → α → Prop} {sh : σ → α → Option ρ} {S : Machine τ ρ}
  {os : List ρ} {s : σ} {t t' : τ}

/-- A stronger guard reaches fewer states. -/
theorem Reach.mono (h : M.Reach ok s) (hok : ∀ s a, ok s a → ok' s a) : M.Reach ok' s := by
  induction h with
  | init hs => exact .init hs
  | step _ ha hnext ih => exact .step ih (hok _ _ ha) hnext

/-- What a run shows plays no part in where it leads. -/
theorem Shows.reach (h : M.Shows ok sh os s) : M.Reach ok s := by
  induction h with
  | init hs => exact .init hs
  | step _ ha hnext ih => exact .step ih ha hnext

/-- A run that keeps to a stronger guard keeps to a weaker one. -/
theorem Shows.mono (h : M.Shows ok sh os s) (hok : ∀ s a, ok s a → ok' s a) :
    M.Shows ok' sh os s := by
  induction h with
  | init hs => exact .init hs
  | step _ ha hnext ih => exact .step ih (hok _ _ ha) hnext

/-- The machine does what the specification allows, in the states its runs reach. -/
structure Refines (M : Machine σ α) (ok : σ → α → Prop) (sh : σ → α → Option ρ)
    (S : Machine τ ρ) (abs : σ → τ) : Prop where
  init : ∀ s, M.init s → S.init (abs s)
  quiet : ∀ s a s', M.Reach ok s → ok s a → M.next s a s' → sh s a = none → abs s' = abs s
  visible : ∀ s a s' l, M.Reach ok s → ok s a → M.next s a s' → sh s a = some l →
    S.next (abs s) l (abs s')

/-- What a run shows, a run of the specification shows, and leads to the state that the
machine's state stands for. -/
theorem Refines.shows {abs : σ → τ} (hr : M.Refines ok sh S abs) (h : M.Shows ok sh os s) :
    S.Traces os (abs s) := by
  induction h with
  | init hs => exact .init (hr.init _ hs)
  | @step os s s' a h ha hnext ih =>
      cases hl : sh s a with
      | none =>
          rw [Option.toList_none, List.append_nil, hr.quiet s a s' h.reach ha hnext hl]
          exact ih
      | some l => exact ih.step trivial (hr.visible s a s' l h.reach ha hnext hl)

/-- The runs of the specification start in one state, and what a step shows determines it. -/
structure Determined (S : Machine τ ρ) : Prop where
  init : ∀ t t', S.init t → S.init t' → t = t'
  next : ∀ t l t₁ t₂, S.next t l t₁ → S.next t l t₂ → t₁ = t₂

/-- A run of a specification has not started, or its last label is that of its last step. -/
theorem Traces.last (h : S.Traces os t) :
    (os = [] ∧ S.init t) ∨ ∃ os' l s, os = os' ++ [l] ∧ S.Traces os' s ∧ S.next s l t := by
  cases h with
  | init hs => exact Or.inl ⟨rfl, hs⟩
  | @step os' s _ l h _ hnext => exact Or.inr ⟨os', l, s, rfl, h, hnext⟩

/-- The state of a determined specification is a function of what has been shown. -/
theorem Determined.unique (hS : S.Determined) (h : S.Traces os t) (h' : S.Traces os t') :
    t = t' := by
  induction h generalizing t' with
  | init hs =>
      obtain ⟨-, hs'⟩ | ⟨os', l, s, hos, -⟩ := Traces.last h'
      · exact hS.init _ _ hs hs'
      · exact absurd hos (by simp)
  | @step os s s' a h ha hnext ih =>
      obtain ⟨hos, -⟩ | ⟨os', l, s₁, hos, h₁, hnext₁⟩ := Traces.last h'
      · exact absurd hos (by simp)
      · obtain ⟨rfl, hl⟩ := List.append_inj' hos rfl
        obtain rfl := List.singleton_inj.1 hl
        obtain rfl := ih h₁
        exact hS.next _ _ _ _ hnext hnext₁

/-- **Two refinements of a determined specification that have shown the same are in the
same state of it.** -/
theorem agree_of_shows {M' : Machine σ' α'} {ok' : σ' → α' → Prop} {sh' : σ' → α' → Option ρ}
    {abs : σ → τ} {abs' : σ' → τ} {s' : σ'} (hS : S.Determined) (hr : M.Refines ok sh S abs)
    (hr' : M'.Refines ok' sh' S abs') (h : M.Shows ok sh os s) (h' : M'.Shows ok' sh' os s') :
    abs s = abs' s' :=
  hS.unique (hr.shows h) (hr'.shows h')

end Machine
end Library
