/-
# References to a loop that several threads use

`pd_loop_ref` and `pd_loop_unref` of `src/loop.c` by threads that keep to the rule of
reference counting: a thread calls into the loop only while it holds a reference, a
reference it holds may be given to another thread, `pd_loop_ref` makes one more, and
`pd_loop_unref` gives one up.  The thread whose `pd_loop_unref` finds the count at zero
destroys the loop after it has given the mutex back.

If the loop takes its mutex, the count is the number of references in every run, so the
loop is destroyed when the last one is given up, once, by a thread that is alone with it,
and nobody looks at it afterwards (`references_safe_iff`).  If it does not, two threads
that give up the last two references can both find the count at zero.
-/
import PollDancer.SharedLoop

namespace PollDancer
namespace SharedLoop

open Library

/-- The threads, the holders of the references, and whether the loop has been freed. -/
structure Shared where
  users : Users
  /-- Each thread stands here once for each reference it holds. -/
  owners : List ℕ
  freed : Bool

/-- What happens: a thread goes on with its call, or gives a reference away. -/
inductive RefStep
  | call (l : ThreadStep ℕ LoopCall)
  | give (i j : ℕ)

namespace Shared

/-- The references after a call of the thread `i`. -/
def holders (owners : List ℕ) (i : ℕ) : LoopCall → List ℕ
  | .ref => i :: owners
  | .unref => owners.erase i
  | _ => owners

/-- The references after a step of a call: it has made or given up what it does when the
mutex is given back. -/
def ownersAfter (s : Shared) : ThreadStep ℕ LoopCall → List ℕ
  | .exit i =>
      match s.users.phase i with
      | .inside op _ => holders s.owners i op
      | _ => s.owners
  | _ => s.owners

/-- The thread destroys the loop: `should_destroy` is set, and `pd_loop_unref` has not yet
returned. -/
def Destroys (s : Shared) (i : ℕ) : Prop := s.users.phase i = .leaving .unref (.flag true)

/-- Is the loop freed after the step?  It is when the thread that destroys it returns. -/
def freedAfter (s : Shared) : ThreadStep ℕ LoopCall → Bool
  | .finish i =>
      match s.users.phase i with
      | .leaving .unref (.flag true) => true
      | _ => s.freed
  | _ => s.freed

/-- The state after a step. -/
def step (locks : Bool) (s : Shared) : RefStep → Option Shared
  | .call l =>
      (s.users.step locks body l).map fun u => ⟨u, s.ownersAfter l, s.freedAfter l⟩
  | .give i j => some { s with owners := j :: s.owners.erase i }

/-- The rule: who calls into the loop holds a reference, and only a thread that holds one, and
is in no call, gives one away. -/
def Entitled (s : Shared) : RefStep → Prop
  | .call (.invoke i _) => i ∈ s.owners
  | .call _ => True
  | .give i _ => i ∈ s.owners ∧ (s.users.phase i).isIdle = true

instance (s : Shared) (l : RefStep) : Decidable (s.Entitled l) :=
  match l with
  | .call (.invoke i _) => inferInstanceAs (Decidable (i ∈ s.owners))
  | .call (.enter _) | .call (.access _) | .call (.exit _) | .call (.finish _) =>
      inferInstanceAs (Decidable True)
  | .give i _ => inferInstanceAs (Decidable (i ∈ s.owners ∧ (s.users.phase i).isIdle = true))

/-- The thread may still look at the loop: it is in a call, and not at the end of a
`pd_loop_unref` that has left the loop to the others. -/
def Touches (s : Shared) (i : ℕ) : Prop :=
  s.users.phase i ≠ .idle ∧ s.users.phase i ≠ .leaving .unref (.flag false)

/-- The loop is destroyed when nobody holds a reference any more and not before, by one thread
that is alone with it, and when it is freed nobody looks at it. -/
structure Safe (s : Shared) : Prop where
  alone : ∀ i, s.Destroys i → s.owners = [] ∧ s.freed = false ∧ ∀ j, s.Touches j → j = i
  unused : s.freed = true → s.owners = [] ∧ ∀ j, ¬s.Touches j
  collected : s.owners = [] → s.freed = true ∨ ∃ i, s.Destroys i

/-- The creator of the loop has the first reference. -/
def start (junk : ℕ → Addr) : Shared where
  users := Threads.start ℕ LoopCall Outcome (.create junk)
  owners := [0]
  freed := false

end Shared

open Shared

/-- The runs of the threads that share a loop of `pd_loop_create`. -/
def sharing (pdThreadSafe : Bool) (config : Option PdLoopConfig) (junk : ℕ → Addr) :
    Machine Shared RefStep :=
  Machine.ofFun (· = start junk) (step (locks pdThreadSafe config))

/-! ### With the mutex -/

/-- What keeps the references safe: the count is their number, and a thread that may look at
the loop holds one, or destroys it. -/
structure Counted (junk : ℕ → Addr) (s : Shared) : Prop where
  count : ∃ base, Threads.Linearizes body (.create junk) s.users base ∧
    base.refCount = s.owners.length
  entitled : ∀ i, s.Touches i → s.Destroys i ∨ i ∈ s.owners
  safe : s.Safe

section

variable {junk : ℕ → Addr} {s : Shared} {u : Users} {i j : ℕ}

/-- While there are references, nobody destroys the loop and it is not freed. -/
theorem Shared.Safe.of_mem (h : s.Safe) (hi : i ∈ s.owners) :
    s.freed = false ∧ ∀ j, ¬s.Destroys j := by
  have hne : s.owners ≠ [] := List.ne_nil_of_mem hi
  refine ⟨Bool.eq_false_iff.2 fun hf => hne (h.unused hf).1, fun j hj => hne (h.alone j hj).1⟩

/-- A thread that is in a call, and does not destroy the loop, holds a reference. -/
theorem Counted.mem (h : Counted junk s) (ht : s.Touches i) (hd : ¬s.Destroys i) :
    i ∈ s.owners := by
  rcases h.entitled i ht with hd' | hm
  · exact absurd hd' hd
  · exact hm

/-- A thread with a reference moves, and afterwards may look at the loop only if it holds a
reference. -/
theorem Counted.move {owners : List ℕ} (h : Counted junk s) (hi : i ∈ s.owners)
    (hothers : ∀ j, j ≠ i → u.phase j = s.users.phase j)
    (hkeep : ∀ j, j ≠ i → j ∈ s.owners → j ∈ owners)
    (hself : u.phase i ≠ .leaving .unref (.flag true) ∧
      ((u.phase i ≠ .idle ∧ u.phase i ≠ .leaving .unref (.flag false)) → i ∈ owners))
    (hsome : owners ≠ [])
    (hcount : ∃ base, Threads.Linearizes body (.create junk) u base ∧
      base.refCount = owners.length) : Counted junk ⟨u, owners, false⟩ := by
  obtain ⟨-, hnone⟩ := h.safe.of_mem hi
  have hnone' : ∀ j, ¬Shared.Destroys ⟨u, owners, false⟩ j := by
    intro j hj
    rcases eq_or_ne j i with rfl | hne
    · exact hself.1 hj
    · exact hnone j ((hothers j hne).symm.trans hj)
  refine ⟨hcount, fun j hj => .inr ?_, fun j hj => absurd hj (hnone' j),
    fun hf => absurd hf (by simp), fun ho => absurd ho hsome⟩
  rcases eq_or_ne j i with rfl | hne
  · exact hself.2 hj
  · have ht : s.Touches j := by
      rw [Shared.Touches, ← hothers j hne]
      exact hj
    exact hkeep j hne (h.mem ht (hnone j))

/-- A thread that holds a reference takes a step of a call that leaves the references as they
are. -/
theorem Counted.quiet {l : ThreadStep ℕ LoopCall} (h : Counted junk s) (hi : l.thread ∈ s.owners)
    (hl : ∀ i, l ≠ .exit i) (hstep : s.users.step true body l = some u)
    (hnot : u.phase l.thread ≠ .leaving .unref (.flag true)) :
    Counted junk ⟨u, s.owners, s.freed⟩ := by
  obtain ⟨base, hlin, hcount⟩ := h.count
  obtain ⟨hlin', -⟩ := hlin.quiet hl hstep
  rw [(h.safe.of_mem hi).1]
  exact h.move hi (fun j hj => Threads.phase_of_step hstep hj) (fun _ _ hj => hj)
    ⟨hnot, fun _ => hi⟩ (List.ne_nil_of_mem hi) ⟨base, hlin', hcount⟩

/-- A call that is not about the references leaves their number alone. -/
theorem refCount_of_run {op : LoopCall} {s s' : LoopFields} {a : Outcome}
    (hrun : (body op).run s = some (s', a)) (hacc : ∃ log, Accounts log s) :
    s'.refCount = s.refCount + netRefs [(0, op, a)] := by
  obtain ⟨log, hacc⟩ := hacc
  obtain ⟨t, b, hrun', hacc'⟩ := hacc.run 0 op
  obtain ⟨rfl, rfl⟩ := Prod.mk.inj (Option.some.inj (hrun.symm.trans hrun'))
  have hcount := hacc'.refCount
  rw [netRefs_append] at hcount
  rw [hcount, hacc.refCount]
  omega

/-- The last reference is given up. -/
theorem Counted.last (h : Counted junk s) (hi : s.owners = [i])
    (hothers : ∀ j, j ≠ i → u.phase j = s.users.phase j)
    (hself : u.phase i = .leaving .unref (.flag true))
    (hcount : ∃ base, Threads.Linearizes body (.create junk) u base ∧
      base.refCount = ([] : List ℕ).length) : Counted junk ⟨u, [], false⟩ := by
  obtain ⟨-, hnone⟩ := h.safe.of_mem (by rw [hi]; exact List.mem_singleton.2 rfl)
  have honly : ∀ j, Shared.Touches ⟨u, [], false⟩ j → j = i := by
    intro j hj
    by_contra hne
    have ht : s.Touches j := by
      rw [Shared.Touches, ← hothers j hne]
      exact hj
    have hm := h.mem ht (hnone j)
    rw [hi] at hm
    exact hne (List.mem_singleton.1 hm)
  have hdestroys : ∀ j, Shared.Destroys ⟨u, [], false⟩ j → j = i := fun j hj =>
    honly j ⟨by rw [show u.phase j = _ from hj]; simp, by rw [show u.phase j = _ from hj]; simp⟩
  refine ⟨hcount, fun j hj => .inl ?_, fun j hj => ⟨rfl, rfl, fun k hk => ?_⟩,
    fun hf => absurd hf (by simp), fun _ => .inr ⟨i, hself⟩⟩
  · obtain rfl := honly j hj
    exact hself
  · rw [honly k hk, hdestroys j hj]

theorem ownersAfter_exit {op : LoopCall} {rest : Code LoopFields Outcome}
    (hp : s.users.phase i = .inside op rest) :
    s.ownersAfter (.exit i) = holders s.owners i op := by
  rw [Shared.ownersAfter, hp]

/-- A thread gives the mutex back. -/
theorem Counted.exit (h : Counted junk s) (hstep : s.users.step true body (.exit i) = some u) :
    Counted junk ⟨u, s.ownersAfter (.exit i), s.freed⟩ := by
  obtain ⟨base, hlin, hcount⟩ := h.count
  obtain ⟨op, a, hp, hrun, -, hphase, hlin'⟩ := hlin.exit hstep
  have hi : i ∈ s.owners := h.mem (by simp [Shared.Touches, hp]) (by simp [Shared.Destroys, hp])
  have hself : u.phase i = .leaving op a := by rw [hphase, Function.update_self]
  have hothers : ∀ j, j ≠ i → u.phase j = s.users.phase j := fun j hj =>
    Threads.phase_of_step hstep hj
  have hnew := refCount_of_run hrun ⟨_, .of_sequential hlin.sequential⟩
  rw [hcount] at hnew
  rw [(h.safe.of_mem hi).1, ownersAfter_exit hp]
  have hsame : op ≠ .ref → op ≠ .unref → Counted junk ⟨u, s.owners, false⟩ := by
    intro href hunref
    refine h.move hi hothers (fun _ _ hj => hj) ⟨?_, fun _ => hi⟩ (List.ne_nil_of_mem hi)
      ⟨_, hlin', ?_⟩
    · rw [hself]
      simp [hunref]
    · rw [hnew]
      cases op <;> first | exact absurd rfl href | exact absurd rfl hunref | exact Int.add_zero _
  cases op with
  | ref =>
      show Counted junk ⟨u, i :: s.owners, false⟩
      refine h.move hi hothers (fun _ _ hj => List.mem_cons_of_mem _ hj)
        ⟨by rw [hself]; simp, fun _ => List.mem_cons_self ..⟩ (List.cons_ne_nil _ _) ⟨_, hlin', ?_⟩
      rw [hnew, List.length_cons]
      simp [netRefs]
  | unref =>
      show Counted junk ⟨u, s.owners.erase i, false⟩
      -- the count is one less, and the flag says whether it is zero
      obtain ⟨-, hflag⟩ := Prod.mk.inj (Option.some.inj hrun)
      have hlen : (s.owners.erase i).length + 1 = s.owners.length := by
        rw [List.length_erase_of_mem hi]
        have := List.length_pos_of_mem hi
        omega
      have hnew' : u.shared.refCount = (s.owners.erase i).length := by
        rw [hnew]
        simp only [netRefs]
        omega
      have hzero : a = .flag ((s.owners.erase i).length == 0) := by
        have hint : base.refCount - 1 = ((s.owners.erase i).length : ℤ) := by omega
        rw [← hflag, hint]
        congr 1
        rw [Bool.eq_iff_iff, beq_iff_eq, beq_iff_eq, Int.natCast_eq_zero]
      by_cases hlast : s.owners.erase i = []
      · rw [hlast] at hlen hzero hnew' ⊢
        obtain ⟨j, hj⟩ := List.length_eq_one_iff.1 hlen.symm
        obtain rfl : i = j := by
          rw [hj] at hi
          exact List.mem_singleton.1 hi
        exact h.last hj hothers (by rw [hself, hzero]; rfl) ⟨_, hlin', hnew'⟩
      · have hfalse : ((s.owners.erase i).length == 0) = false := by
          simpa using hlast
        rw [hfalse] at hzero
        refine h.move hi hothers (fun j hj hm => (List.mem_erase_of_ne hj).2 hm)
          ⟨by rw [hself, hzero]; simp, fun ht => absurd (by rw [hself, hzero]) ht.2⟩ hlast
          ⟨_, hlin', hnew'⟩
  | runOnce => exact hsame (by simp) (by simp)
  | stop => exact hsame (by simp) (by simp)
  | asyncSend data => exact hsame (by simp) (by simp)
  | getAsyncData => exact hsame (by simp) (by simp)
  | addWatcher w answer => exact hsame (by simp) (by simp)
  | removeWatcher w => exact hsame (by simp) (by simp)

/-- A call returns. -/
theorem Counted.finish (h : Counted junk s)
    (hstep : s.users.step true body (.finish i) = some u) :
    Counted junk ⟨u, s.owners, s.freedAfter (.finish i)⟩ := by
  obtain ⟨base, hlin, hcount⟩ := h.count
  obtain ⟨hlin', -⟩ := hlin.quiet (by simp) hstep
  obtain ⟨⟨op, a, hp⟩, hu⟩ := Threads.step_finish hstep
  have hidle : u.phase i = .idle := by rw [hu, Threads.move_phase_self]
  have hothers : ∀ j, j ≠ i → u.phase j = s.users.phase j := fun j hj =>
    Threads.phase_of_step hstep hj
  -- who looks at the loop now did so before, and is another thread
  have htouch : ∀ {b j}, Shared.Touches ⟨u, s.owners, b⟩ j → j ≠ i ∧ s.Touches j := by
    intro b j hj
    have hne : j ≠ i := by
      rintro rfl
      exact hj.1 hidle
    refine ⟨hne, ?_⟩
    rw [Shared.Touches, ← hothers j hne]
    exact hj
  have hdestroys : ∀ {b j}, Shared.Destroys ⟨u, s.owners, b⟩ j ↔ j ≠ i ∧ s.Destroys j := by
    intro b j
    constructor
    · intro hj
      have hne : j ≠ i := by
        rintro rfl
        exact absurd (hidle.symm.trans hj) (by simp)
      exact ⟨hne, (hothers j hne).symm.trans hj⟩
    · rintro ⟨hne, hj⟩
      exact (hothers j hne).trans hj
  by_cases hd : s.Destroys i
  · -- the thread has destroyed the loop, which it was alone with
    obtain ⟨hempty, -, halone⟩ := h.safe.alone i hd
    have hfreed : s.freedAfter (.finish i) = true := by
      have hd : s.users.phase i = .leaving .unref (.flag true) := hd
      simp only [Shared.freedAfter, hd]
    have hnone : ∀ j, ¬Shared.Touches ⟨u, s.owners, true⟩ j := fun j hj =>
      (htouch hj).1 (halone j (htouch hj).2)
    rw [hfreed]
    exact ⟨⟨base, hlin', hcount⟩, fun j hj => absurd hj (hnone j),
      fun j hj => absurd (halone j ⟨by simp [show s.users.phase j = _ from (hdestroys.1 hj).2],
        by simp [show s.users.phase j = _ from (hdestroys.1 hj).2]⟩) (hdestroys.1 hj).1,
      fun _ => ⟨hempty, hnone⟩, fun _ => .inl rfl⟩
  · have hfreed : s.freedAfter (.finish i) = s.freed := by
      simp only [Shared.freedAfter]
      split
      · rename_i hd'
        exact absurd hd' hd
      · rfl
    rw [hfreed]
    refine ⟨⟨base, hlin', hcount⟩, fun j hj => ?_, fun j hj => ?_, fun hf => ?_, fun ho => ?_⟩
    · obtain ⟨hne, ht⟩ := htouch hj
      exact (h.entitled j ht).imp_left fun hd' => hdestroys.2 ⟨hne, hd'⟩
    · obtain ⟨hempty, hlive, halone⟩ := h.safe.alone j (hdestroys.1 hj).2
      exact ⟨hempty, hlive, fun k hk => halone k (htouch hk).2⟩
    · obtain ⟨hempty, hnone⟩ := h.safe.unused hf
      exact ⟨hempty, fun j hj => hnone j (htouch hj).2⟩
    · refine (h.safe.collected ho).imp_right ?_
      rintro ⟨j, hj⟩
      refine ⟨j, hdestroys.2 ⟨?_, hj⟩⟩
      rintro rfl
      exact hd hj

/-- A reference changes hands. -/
theorem Counted.give (h : Counted junk s) (hi : i ∈ s.owners) (hidle : s.users.phase i = .idle) :
    Counted junk { s with owners := j :: s.owners.erase i } := by
  obtain ⟨base, hlin, hcount⟩ := h.count
  have hlen : (j :: s.owners.erase i).length = s.owners.length := by
    rw [List.length_cons, List.length_erase_of_mem hi]
    have := List.length_pos_of_mem hi
    omega
  have hmoved : Counted junk ⟨s.users, j :: s.owners.erase i, false⟩ :=
    h.move hi (fun _ _ => rfl)
      (fun k hk hm => List.mem_cons_of_mem _ ((List.mem_erase_of_ne hk).2 hm))
      ⟨by rw [hidle]; simp, fun ht => absurd hidle ht.1⟩ (List.cons_ne_nil _ _)
      ⟨base, hlin, by rw [hlen]; exact hcount⟩
  rw [← (h.safe.of_mem hi).1] at hmoved
  exact hmoved

/-- What one step preserves. -/
theorem Counted.step {s' : Shared} {l : RefStep} (h : Counted junk s) (hok : s.Entitled l)
    (hstep : s.step true l = some s') : Counted junk s' := by
  cases l with
  | give i j =>
      obtain rfl := Option.some.inj hstep
      exact h.give hok.1 (Phase.isIdle_iff.1 hok.2)
  | call l =>
      obtain ⟨u, hu, rfl⟩ := Option.map_eq_some_iff.1 hstep
      cases l with
      | invoke i op =>
          refine h.quiet (l := .invoke i op) hok (by simp) hu ?_
          obtain ⟨-, rfl⟩ := Threads.step_invoke hu
          simp [ThreadStep.thread]
      | enter i =>
          have hu' := hu
          obtain ⟨op, hp, -, rfl⟩ := Threads.step_enter hu'
          have hi := h.mem (i := i) (by simp [Shared.Touches, hp]) (by simp [Shared.Destroys, hp])
          exact h.quiet (l := .enter i) hi (by simp) hu (by simp [ThreadStep.thread])
      | access i =>
          have hu' := hu
          obtain ⟨op, f, rest, t, hp, -, rfl⟩ := Threads.step_access hu'
          have hi := h.mem (i := i) (by simp [Shared.Touches, hp]) (by simp [Shared.Destroys, hp])
          exact h.quiet (l := .access i) hi (by simp) hu (by simp [ThreadStep.thread])
      | exit i => exact h.exit hu
      | finish i => exact h.finish hu

theorem counted_start (junk : ℕ → Addr) : Counted junk (start junk) where
  count := ⟨_, Threads.linearizes_start, rfl⟩
  entitled i hi := absurd rfl hi.1
  safe := ⟨fun i hi => absurd hi (by simp [Shared.Destroys, start, Threads.start]),
    fun hf => absurd hf (by simp [start]), fun ho => absurd ho (by simp [start])⟩

end

/-! ### Without it -/

/-- A thread makes a second reference and gives it to another thread; then both give theirs
up, and the second writes the count between the first's write and its look at the result. -/
def bothUnref : List RefStep :=
  [.call (.invoke 0 .ref), .call (.enter 0), .call (.access 0), .call (.access 0), .call (.exit 0),
    .call (.finish 0), .give 0 1, .call (.invoke 0 .unref), .call (.invoke 1 .unref),
    .call (.enter 0), .call (.enter 1), .call (.access 0), .call (.access 0), .call (.access 1),
    .call (.access 1), .call (.access 0), .call (.access 1), .call (.exit 0), .call (.exit 1)]

/-- Both of them destroy the loop. -/
theorem bothUnref_destroys (junk : ℕ → Addr) :
    ∃ s, Machine.runGuarded Entitled (step false) (start junk) bothUnref = some s ∧
      s.Destroys 0 ∧ s.Destroys 1 :=
  ⟨_, rfl, rfl, rfl⟩

/-- **References are safe in every run of any number of threads that hold them exactly if the
loop takes its mutex.** -/
theorem references_safe_iff (pdThreadSafe : Bool) (config : Option PdLoopConfig)
    (junk : ℕ → Addr) :
    (∀ s, (sharing pdThreadSafe config junk).Reach Entitled s → s.Safe) ↔
      pdThreadSafe = true ∧ ∃ c, config = some c ∧ c.enableThreadSafety ≠ 0 := by
  rw [← locks_iff, sharing]
  constructor
  · intro h
    by_contra hoff
    rw [Bool.not_eq_true] at hoff
    rw [hoff] at h
    obtain ⟨s, hrun, h0, h1⟩ := bothUnref_destroys junk
    obtain ⟨-, -, honly⟩ := (h s (Machine.Reach.runGuarded (.init rfl) hrun)).alone 0 h0
    have htouch : s.Touches 1 := by
      rw [Shared.Touches, show s.users.phase 1 = _ from h1]
      simp
    exact absurd (honly 1 htouch) Nat.one_ne_zero
  · intro hon s h
    rw [hon] at h
    refine (h.invariant (I := Counted junk) ?_ ?_).safe
    · rintro s rfl
      exact counted_start junk
    · intro s l s' hi hok hstep
      exact hi.step hok hstep

end SharedLoop
end PollDancer
