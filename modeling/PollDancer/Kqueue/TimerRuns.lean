/-
# Runs of a kqueue loop with timers

A loop with any number of watchers and timers.  A wait reports an expiration, and takes a
one-shot filter away; the loop reads the report later, after callbacks that may have stopped,
started or destroyed any timer, and sets a timer that is in its first phase up again.

`kqueue_timer_start` writes `pending_initial` before the kernel has accepted the filter, so a
start that is refused while a report is on its way makes the loop add a filter for a timer
that is not active; and a report outlives its timer.  Runs in which neither happens to a timer
whose report is on its way are `Prompt`.  In these a timer that is not active has no filter,
and every timer has a placeholder of its own in the list of the loop (`Kept`).
-/
import PollDancer.Kqueue.Filters
import PollDancer.Kqueue.Timer

namespace PollDancer
namespace Kqueue

open Library

/-- A loop, with the timers whose expiration the last waits have reported and the loop has
not read. -/
structure TimerWorld where
  world : KqueueWorld
  reported : List Addr

/-- What can happen to a kqueue loop with timers. -/
inductive TimerAction
  | call (c : Call KqueueEnv)
  | timerCreate (timeoutMs intervalMs : UInt64) (callback : Option Callback) (userData : Addr)
      (env : TimerEnv)
  | timerStart (t : Addr) (refused : Option Errno)
  | timerStop (t : Addr)
  | timerDestroy (t : Addr)
  /-- The wait reports that the timer has expired. -/
  | report (t : Addr)
  /-- The loop reads a report. -/
  | fire (t : Addr) (refused : Bool)
  | closeFd (fd : ℤ)
  | openFd (fd : ℤ)
  deriving DecidableEq

/-- The wait has reported an expiration of the filter.  A one-shot filter is gone. -/
def reportTimer (s : KqueueWorld) (t : Addr) (n : TimerKnote) : KqueueWorld :=
  if n.oneshot then setTimerKnote s t none else s

/-- The state after an action; only a filter expires, and only reports are read. -/
def performTimer (s : TimerWorld) : TimerAction → Option TimerWorld
  | .call c => some { s with world := (s.world.exec kqueueOps c).1 }
  | .timerCreate timeoutMs intervalMs callback userData env =>
      some { s with world := (pdTimerCreate s.world timeoutMs intervalMs callback userData env).1 }
  | .timerStart t refused => some { s with world := (pdTimerStart s.world t refused).1 }
  | .timerStop t => some { s with world := (pdTimerStop s.world t).1 }
  | .timerDestroy t => some { s with world := pdTimerDestroy s.world t }
  | .report t =>
      (s.world.sys.kernel.timers t).map fun n => ⟨reportTimer s.world t n, t :: s.reported⟩
  | .fire t refused =>
      if t ∈ s.reported then
        some ⟨s.world.setSys (rearm s.world.sys t refused), s.reported.erase t⟩
      else none
  | .closeFd fd => some { s with world := closeFd s.world fd }
  | .openFd fd => some { s with world := openFd s.world fd }

/-- The runs of a kqueue loop with timers. -/
def timerRuns : Machine TimerWorld TimerAction :=
  Machine.ofFun (fun s => Created s.world ∧ s.reported = []) performTimer

/-- The placeholders of the timers. -/
def hidden (s : KqueueWorld) : Set Addr :=
  {a | ∃ t tm, s.sys.timers t = some tm ∧ tm.watcher = some a}

/-- No timer is destroyed, and no start of one is refused, while a report of it is on its way;
and the user makes no calls on the placeholders. -/
def Prompt (s : TimerWorld) : TimerAction → Prop
  | .timerStart t refused => refused = none ∨ t ∉ s.reported
  | .timerDestroy t => t ∉ s.reported
  | .call c => ∀ a, c.target = some a → a ∉ hidden s.world
  | _ => True

/-! ### What the timer calls change -/

/-- Only the timer `t` and its filter have changed, and the timer has the same placeholder. -/
structure Retimed (s s' : KqueueWorld) (t : Addr) : Prop where
  heap_eq : s'.heap = s.heap
  loop_eq : s'.loop = s.loop
  data_eq : s'.sys.data = s.sys.data
  knotes_eq : s'.sys.kernel.knotes = s.sys.kernel.knotes
  isOpen_eq : s'.sys.kernel.isOpen = s.sys.kernel.isOpen
  timer_ne : ∀ u, u ≠ t → s'.sys.timers u = s.sys.timers u
  filter_ne : ∀ u, u ≠ t → s'.sys.kernel.timers u = s.sys.kernel.timers u
  watcher_eq : (s'.sys.timers t).map PdTimer.watcher = (s.sys.timers t).map PdTimer.watcher

section

variable {s s' s₁ s₂ : KqueueWorld} {t u a : Addr} {tm : PdTimer KqueueTimerData}

theorem setTimer_timers_ne (s : KqueueWorld) (tm : Option (PdTimer KqueueTimerData)) (h : u ≠ t) :
    (setTimer s t tm).sys.timers u = s.sys.timers u :=
  Function.update_of_ne h ..

theorem setTimerKnote_knote_ne (s : KqueueWorld) (n : Option TimerKnote) (h : u ≠ t) :
    (setTimerKnote s t n).sys.kernel.timers u = s.sys.kernel.timers u :=
  Function.update_of_ne h ..

theorem Retimed.refl (s : KqueueWorld) (t : Addr) : Retimed s s t :=
  ⟨rfl, rfl, rfl, rfl, rfl, fun _ _ => rfl, fun _ _ => rfl, rfl⟩

theorem Retimed.trans (h : Retimed s s₁ t) (h' : Retimed s₁ s₂ t) : Retimed s s₂ t where
  heap_eq := h'.heap_eq.trans h.heap_eq
  loop_eq := h'.loop_eq.trans h.loop_eq
  data_eq := h'.data_eq.trans h.data_eq
  knotes_eq := h'.knotes_eq.trans h.knotes_eq
  isOpen_eq := h'.isOpen_eq.trans h.isOpen_eq
  timer_ne := fun u hu => (h'.timer_ne u hu).trans (h.timer_ne u hu)
  filter_ne := fun u hu => (h'.filter_ne u hu).trans (h.filter_ne u hu)
  watcher_eq := h'.watcher_eq.trans h.watcher_eq

/-- The timer is overwritten. -/
theorem Retimed.setTimer (htm : s.sys.timers t = some tm) {x : PdTimer KqueueTimerData}
    (hw : x.watcher = tm.watcher) : Retimed s (setTimer s t (some x)) t where
  heap_eq := rfl
  loop_eq := rfl
  data_eq := rfl
  knotes_eq := rfl
  isOpen_eq := rfl
  timer_ne := fun _ hu => setTimer_timers_ne s _ hu
  filter_ne := fun _ _ => rfl
  watcher_eq := by
    rw [setTimer_timers_self, htm]
    exact congrArg some hw

/-- The filter of the timer is set. -/
theorem Retimed.setTimerKnote (s : KqueueWorld) (t : Addr) (n : Option TimerKnote) :
    Retimed s (setTimerKnote s t n) t where
  heap_eq := rfl
  loop_eq := rfl
  data_eq := rfl
  knotes_eq := rfl
  isOpen_eq := rfl
  timer_ne := fun _ _ => rfl
  filter_ne := fun _ hu => setTimerKnote_knote_ne s n hu
  watcher_eq := rfl

theorem Retimed.setError (s : KqueueWorld) (t : Addr) (e : Errno) :
    Retimed s (s.setSys (s.sys.setError e)) t :=
  ⟨rfl, rfl, rfl, rfl, rfl, fun _ _ => rfl, fun _ _ => rfl, rfl⟩

theorem Retimed.setActive (s : KqueueWorld) (t : Addr) (b : Bool) :
    Retimed s (setActive s t b) t := by
  unfold Kqueue.setActive
  cases htm : s.sys.timers t with
  | none =>
      refine ⟨rfl, rfl, rfl, rfl, rfl, fun _ hu => setTimer_timers_ne s _ hu, fun _ _ => rfl, ?_⟩
      rw [setTimer_timers_self, htm]
      rfl
  | some tm => exact Retimed.setTimer htm rfl

theorem retimed_timerStart (htm : s.sys.timers t = some tm) {x : PdTimer KqueueTimerData}
    (hw : x.watcher = tm.watcher) (refused : Option Errno) :
    Retimed s (kqueueTimerStart s t x refused).1 t := by
  unfold kqueueTimerStart
  cases s.sys.data with
  | none => exact .refl s t
  | some d =>
      cases x.platformData with
      | none => exact .refl s t
      | some td =>
          cases refused with
          | some e =>
              have hset : Retimed s (setTimer s t (some { x with
                  platformData := some { td with pendingInitial := twoPhase x } })) t :=
                Retimed.setTimer htm hw
              exact hset.trans (.setError _ t e)
          | none =>
              exact (Retimed.setTimerKnote s t _).trans
                (Retimed.setTimer (s := Kqueue.setTimerKnote ..) htm hw)

theorem retimed_timerStop (htm : s.sys.timers t = some tm) {x : PdTimer KqueueTimerData}
    (hw : x.watcher = tm.watcher) : Retimed s (kqueueTimerStop s t x).1 t := by
  unfold kqueueTimerStop
  cases s.sys.data with
  | none => exact .refl s t
  | some d =>
      cases x.platformData with
      | none => exact .refl s t
      | some td =>
          dsimp only
          split_ifs
          · exact .refl s t
          · exact (Retimed.setTimerKnote s t none).trans
              (Retimed.setTimer (s := Kqueue.setTimerKnote ..) htm hw)

/-- `pd_timer_start` changes its timer only. -/
theorem retimed_start (s : KqueueWorld) (t : Addr) (refused : Option Errno) :
    Retimed s (pdTimerStart s t refused).1 t := by
  unfold pdTimerStart
  cases htm : s.sys.timers t with
  | none => exact .refl s t
  | some tm =>
      have hact := Retimed.setActive s t true
      have hstart := hact.trans (retimed_timerStart (setActive_timers htm true)
        (x := { tm with active := true }) rfl refused)
      dsimp only
      split_ifs
      · exact .refl s t
      · exact hstart.trans (.setActive _ t false)
      · exact hstart

/-- `pd_timer_stop` changes its timer only. -/
theorem retimed_stop (s : KqueueWorld) (t : Addr) : Retimed s (pdTimerStop s t).1 t := by
  unfold pdTimerStop
  cases htm : s.sys.timers t with
  | none => exact .refl s t
  | some tm =>
      have hact := Retimed.setActive s t false
      have hstop := hact.trans (retimed_timerStop (setActive_timers htm false)
        (x := { tm with active := false }) rfl)
      dsimp only
      split_ifs
      · exact .refl s t
      · exact hstop.trans (.setActive _ t true)
      · exact hstop

/-- A report that is read changes its timer only. -/
theorem retimed_rearm (s : KqueueWorld) (t : Addr) (refused : Bool) :
    Retimed s (s.setSys (rearm s.sys t refused)) t := by
  unfold rearm
  cases htm : s.sys.timers t with
  | none => exact .refl s t
  | some tm =>
      dsimp only
      cases tm.platformData with
      | none => exact .refl s t
      | some td =>
          have hset := Retimed.setTimer htm
            (x := { tm with platformData := some { td with pendingInitial := false } }) rfl
          dsimp only
          split_ifs
          · exact hset
          · exact hset.trans (.setTimerKnote _ t _)
          · exact .refl s t

theorem retimed_report (s : KqueueWorld) (t : Addr) (n : TimerKnote) :
    Retimed s (reportTimer s t n) t := by
  unfold reportTimer
  split_ifs
  · exact .setTimerKnote s t none
  · exact .refl s t

/-- The placeholders are those of before. -/
theorem Retimed.hidden_eq (h : Retimed s s' t) : hidden s' = hidden s := by
  have hsub : ∀ {s s' : KqueueWorld}, (∀ u, u ≠ t → s'.sys.timers u = s.sys.timers u) →
      (s'.sys.timers t).map PdTimer.watcher = (s.sys.timers t).map PdTimer.watcher →
      hidden s ⊆ hidden s' := by
    rintro s s' hne hw a ⟨u, x, hx, ha⟩
    rcases eq_or_ne u t with rfl | hu
    · rw [hx] at hw
      obtain ⟨y, hy, hyw⟩ := Option.map_eq_some_iff.1 hw
      exact ⟨u, y, hy, hyw.trans ha⟩
    · exact ⟨u, x, (hne u hu).trans hx, ha⟩
  ext a
  exact ⟨fun ha => hsub (fun u hu => (h.timer_ne u hu).symm) h.watcher_eq.symm ha,
    fun ha => hsub h.timer_ne h.watcher_eq ha⟩

/-- `pd_timer_create` fails, and touches neither a watcher nor a timer; or it makes a timer
with a placeholder of its own. -/
theorem timerCreate_spec (s : KqueueWorld) (timeoutMs intervalMs : UInt64)
    (callback : Option Callback) (userData : Addr) (env : TimerEnv) :
    (pdTimerCreate s timeoutMs intervalMs callback userData env).1.sys.data = s.sys.data ∧
    (pdTimerCreate s timeoutMs intervalMs callback userData env).1.sys.kernel = s.sys.kernel ∧
    (((pdTimerCreate s timeoutMs intervalMs callback userData env).1.heap = s.heap ∧
      (pdTimerCreate s timeoutMs intervalMs callback userData env).1.loop = s.loop ∧
      (pdTimerCreate s timeoutMs intervalMs callback userData env).1.sys.timers = s.sys.timers) ∨
    ∃ t a tm, s.sys.timers t = none ∧ s.heap a = none ∧ a ≠ NULL ∧ tm.watcher = some a ∧
      tm.active = false ∧ tm.platformData = some ⟨false, false⟩ ∧
      (pdTimerCreate s timeoutMs intervalMs callback userData env).1.heap =
        Function.update s.heap a (some (placeholder t)) ∧
      (pdTimerCreate s timeoutMs intervalMs callback userData env).1.loop.occupied =
        s.loop.occupied ++ [a] ∧
      (pdTimerCreate s timeoutMs intervalMs callback userData env).1.sys.timers =
        Function.update s.sys.timers t (some tm)) := by
  unfold pdTimerCreate
  cases callback with
  | none => exact ⟨rfl, rfl, Or.inl ⟨rfl, rfl, rfl⟩⟩
  | some callback =>
      cases hc : callocTimer s env.calloc with
      | none => exact ⟨rfl, rfl, Or.inl ⟨rfl, rfl, rfl⟩⟩
      | some t =>
          have hfresh : s.sys.timers t = none := by
            rw [callocTimer, Option.filter_eq_some_iff] at hc
            exact Option.isNone_iff_eq_none.1 (of_decide_eq_true hc.2).2
          dsimp only
          unfold kqueueTimerCreate
          cases env.dataAlloc with
          | false => exact ⟨rfl, rfl, Or.inl ⟨rfl, rfl, rfl⟩⟩
          | true =>
              cases ha : s.calloc env.watcher with
              | none => exact ⟨rfl, rfl, Or.inl ⟨rfl, rfl, rfl⟩⟩
              | some a =>
                  obtain ⟨-, hnull, hdead⟩ := World.calloc_eq_some.1 ha
                  simp only [Bool.not_true, Bool.false_eq_true, if_false]
                  by_cases hadd : (pdLoopAddWatcher s.loop a env.growList).2 = .ok
                  · simp only [hadd, ne_eq, not_true_eq_false, if_false]
                    exact ⟨rfl, rfl, Or.inr ⟨t, a, _, hfresh, hdead, hnull, rfl, rfl, rfl, rfl,
                      PdLoop.occupied_add hadd, rfl⟩⟩
                  · simp only [hadd, ne_eq, not_false_eq_true, if_true]
                    exact ⟨rfl, rfl, Or.inl ⟨rfl, PdLoop.add_of_ne_ok hadd, rfl⟩⟩

/-- The timer `t` is gone, with its placeholder at `a`. -/
structure TimerGone (s s' : KqueueWorld) (t a : Addr) : Prop where
  data_eq : s'.sys.data = s.sys.data
  knotes_eq : s'.sys.kernel.knotes = s.sys.kernel.knotes
  isOpen_eq : s'.sys.kernel.isOpen = s.sys.kernel.isOpen
  heap_eq : s'.heap = Function.update s.heap a none
  occupied_eq : s'.loop.occupied = s.loop.occupied.erase a
  timer_self : s'.sys.timers t = none
  timer_ne : ∀ u, u ≠ t → s'.sys.timers u = s.sys.timers u
  filter_ne : ∀ u, u ≠ t → s'.sys.kernel.timers u = s.sys.kernel.timers u

theorem timerDestroy_spec (htm : s.sys.timers t = some tm) (ha : tm.watcher = some a)
    (hnull : a ≠ NULL) : TimerGone s (pdTimerDestroy s t) t a := by
  -- after the stop, if there is one
  have hstop : Retimed s (if tm.active then (pdTimerStop s t).1 else s) t := by
    split_ifs
    · exact retimed_stop s t
    · exact .refl s t
  have hdes : pdTimerDestroy s t = setTimer ((World.setLoop
      (if tm.active then (pdTimerStop s t).1 else s) (pdLoopRemoveWatcher
        (if tm.active then (pdTimerStop s t).1 else s).loop a).1).free a) t none := by
    unfold pdTimerDestroy kqueueTimerDestroy
    rw [htm]
    dsimp only
    rw [ha]
  generalize (if tm.active then (pdTimerStop s t).1 else s) = s₁ at hstop hdes
  rw [hdes]
  exact
    { data_eq := hstop.data_eq
      knotes_eq := hstop.knotes_eq
      isOpen_eq := hstop.isOpen_eq
      heap_eq := by
        rw [← hstop.heap_eq]
        rfl
      occupied_eq := by
        rw [← hstop.loop_eq]
        exact PdLoop.occupied_remove hnull
      timer_self := setTimer_timers_self ..
      timer_ne := fun u hu => (setTimer_timers_ne _ _ hu).trans (hstop.timer_ne u hu)
      filter_ne := hstop.filter_ne }

/-! ### What the watcher calls leave alone -/

/-- The part of the kernel that the filters of the watchers are not in. -/
def Kernel.rest (k : Kernel) : (Addr → Option TimerKnote) × (ℤ → Bool) := (k.timers, k.isOpen)

/-- The loop is open, and the timers, their filters and the open descriptors are those of
`k₀`. -/
structure SameTimers (k₀ k : KqueueSys) : Prop where
  attached : k.data.isSome = true
  timers_eq : k.timers = k₀.timers
  rest_eq : k.kernel.rest = k₀.kernel.rest

theorem SameTimers.filters_eq {k₀ k : KqueueSys} (h : SameTimers k₀ k) :
    k.kernel.timers = k₀.kernel.timers :=
  congrArg Prod.fst h.rest_eq

theorem SameTimers.isOpen_eq {k₀ k : KqueueSys} (h : SameTimers k₀ k) :
    k.kernel.isOpen = k₀.kernel.isOpen :=
  congrArg Prod.snd h.rest_eq

theorem kevent_rest (k : Kernel) (refused : Change → Option Errno) (cs : List Change) :
    (k.kevent refused cs).1.rest = k.rest := by
  have hchange : ∀ (k k' : Kernel) e c, k.change e c = .ok k' → k'.rest = k.rest := by
    intro k k' e c hk
    unfold Kernel.change at hk
    cases c with
    | add fd filter clear udata =>
        dsimp only at hk
        split_ifs at hk
        cases e with
        | some e => exact absurd hk (by simp)
        | none =>
            obtain rfl := Except.ok.inj hk
            rfl
    | disable fd filter =>
        dsimp only at hk
        split_ifs at hk
        cases hn : k.knotes fd filter with
        | none =>
            rw [hn] at hk
            exact absurd hk (by simp)
        | some n =>
            rw [hn] at hk
            obtain rfl := Except.ok.inj hk
            rfl
    | delete fd filter =>
        dsimp only at hk
        split_ifs at hk
        cases hn : k.knotes fd filter with
        | none =>
            rw [hn] at hk
            exact absurd hk (by simp)
        | some n =>
            rw [hn] at hk
            obtain rfl := Except.ok.inj hk
            rfl
  induction cs generalizing k with
  | nil => rfl
  | cons c cs ih =>
      rw [Kernel.kevent]
      cases hc : k.change (refused c) c with
      | error e => rfl
      | ok k' => exact (ih k').trans (hchange k k' _ c hc)

/-- The watcher part of the backend leaves the timers and the descriptors alone. -/
theorem kqueueOps_sameTimers (k₀ : KqueueSys) : kqueueOps.Keeps (SameTimers k₀) where
  register k a w env h := by
    refine ⟨(register_cases h.attached rfl).1, ?_, ?_⟩
    · refine Eq.trans ?_ h.timers_eq
      show (kqueueWatcherRegister k a w env).sys.timers = k.timers
      unfold kqueueWatcherRegister
      cases k.data with
      | none => rfl
      | some d =>
          cases env.dataAlloc with
          | false => rfl
          | true =>
              simp only [Bool.not_true, Bool.false_eq_true, if_false]
              split
              · rfl
              · split
                · split <;> rfl
                · rfl
    · refine Eq.trans ?_ h.rest_eq
      show (kqueueWatcherRegister k a w env).sys.kernel.rest = k.kernel.rest
      rcases registers k a w env with ⟨-, -, hk, -⟩ | ⟨-, -, -, -, hk, -⟩ | ⟨-, -, -, -, hk, -⟩ |
        ⟨-, -, -, hk, -⟩ | ⟨-, -, -, hk, -⟩
      all_goals exact (congrArg Kernel.rest hk).trans rfl
  registerHandle _ _ _ _ h := ⟨h.attached, h.timers_eq, h.rest_eq⟩
  update k a w events env h := by
    refine ⟨(update_cases h.attached rfl).1, ?_, ?_⟩
    · refine Eq.trans ?_ h.timers_eq
      show (kqueueWatcherUpdate k a w events env).sys.timers = k.timers
      unfold kqueueWatcherUpdate
      cases k.data with
      | none => rfl
      | some d =>
          cases w.platformData with
          | none => rfl
          | some wd =>
              dsimp only
              split <;> rfl
    · refine Eq.trans ?_ h.rest_eq
      show (kqueueWatcherUpdate k a w events env).sys.kernel.rest = k.kernel.rest
      unfold kqueueWatcherUpdate
      cases k.data with
      | none => rfl
      | some d =>
          cases w.platformData with
          | none => rfl
          | some wd =>
              dsimp only
              split
              · rename_i hk
                exact (congrArg (Kernel.rest ∘ Prod.fst) hk).symm.trans (kevent_rest ..)
              · rename_i hk
                exact (congrArg (Kernel.rest ∘ Prod.fst) hk).symm.trans (kevent_rest ..)
  unregister k a w h := by
    refine ⟨(unregister_cases h.attached rfl).1, ?_, ?_⟩
    · refine Eq.trans ?_ h.timers_eq
      show (kqueueWatcherUnregister k a w).sys.timers = k.timers
      unfold kqueueWatcherUnregister
      cases k.data with
      | none => rfl
      | some d =>
          cases w.platformData with
          | none => rfl
          | some wd =>
              dsimp only
              split <;> rfl
    · refine Eq.trans ?_ h.rest_eq
      show (kqueueWatcherUnregister k a w).sys.kernel.rest = k.kernel.rest
      rw [unregister_disarms]
      split_ifs <;> rfl

/-! ### The list of the loop -/

/-- A placeholder enters the list. -/
theorem listed_append (h : Listed s) {x : PdWatcher KqueueWatcherData} (hdead : s.heap a = none)
    (hnull : a ≠ NULL) (hocc : s'.loop.occupied = s.loop.occupied ++ [a])
    (hheap : s'.heap = Function.update s.heap a (some x)) : Listed s' where
  nodup := by
    have hnot : a ∉ s.loop.occupied := by
      rw [h.mem_occupied, hdead]
      exact Bool.false_ne_true
    rw [hocc, ← List.concat_eq_append]
    exact h.nodup.concat hnot
  mem_occupied := by
    intro b
    rw [hocc, hheap, List.mem_append, List.mem_singleton, h.mem_occupied]
    rcases eq_or_ne b a with rfl | hb
    · rw [Function.update_self]
      exact iff_of_true (Or.inr rfl) rfl
    · rw [Function.update_of_ne hb]
      exact or_iff_left hb
  ne_null := by
    intro b hb
    rcases eq_or_ne b a with rfl | hne
    · exact hnull
    · rw [hheap, Function.update_of_ne hne] at hb
      exact h.ne_null b hb

/-- A placeholder leaves the list. -/
theorem listed_erase (h : Listed s) (hocc : s'.loop.occupied = s.loop.occupied.erase a)
    (hheap : s'.heap = Function.update s.heap a none) : Listed s' where
  nodup := by
    rw [hocc]
    exact h.nodup.erase a
  mem_occupied := by
    intro b
    rw [hocc, hheap, h.nodup.mem_erase_iff, h.mem_occupied]
    rcases eq_or_ne b a with rfl | hb
    · rw [Function.update_self]
      exact iff_of_false (fun hl => hl.1 rfl) Bool.false_ne_true
    · rw [Function.update_of_ne hb]
      exact and_iff_right hb
  ne_null := by
    intro b hb
    rcases eq_or_ne b a with rfl | hne
    · rw [hheap, Function.update_self] at hb
      exact absurd hb Bool.false_ne_true
    · rw [hheap, Function.update_of_ne hne] at hb
      exact h.ne_null b hb

/-! ### The invariant of prompt runs -/

theorem Fits.congr (h : Fits s u) (htimer : s'.sys.timers u = s.sys.timers u)
    (hfilter : s'.sys.kernel.timers u = s.sys.kernel.timers u) : Fits s' u where
  registered := by
    rw [htimer]
    exact h.registered
  filter := by
    rw [active, htimer, hfilter]
    exact h.filter

/-- Every timer has a placeholder of its own. -/
def Placed (s : KqueueWorld) : Prop :=
  ∀ t tm, s.sys.timers t = some tm → ∃ a, tm.watcher = some a ∧ s.heap a = some (placeholder t)

/-- The timer exists, and is not set up for its first phase while it is not active. -/
def Settled (s : KqueueWorld) (t : Addr) : Prop :=
  ∃ tm td, s.sys.timers t = some tm ∧ tm.platformData = some td ∧
    (tm.active = true ∨ td.pendingInitial = false)

/-- The invariant of prompt runs. -/
structure Kept (s : TimerWorld) : Prop where
  attached : s.world.sys.data.isSome = true
  listed : Listed s.world
  fits : ∀ t, Fits s.world t
  placed : Placed s.world
  settled : ∀ t ∈ s.reported, Settled s.world t

/-- A placeholder says whose it is. -/
theorem placeholder_inj (h : placeholder t = placeholder u) : t = u := congrArg PdWatcher.userData h

/-- Two timers have two placeholders. -/
theorem Placed.injective (h : Placed s) {tm' : PdTimer KqueueTimerData}
    (htm : s.sys.timers t = some tm) (htm' : s.sys.timers u = some tm')
    (hw : tm.watcher = tm'.watcher) : t = u := by
  obtain ⟨a, ha, hx⟩ := h t tm htm
  obtain ⟨b, hb, hy⟩ := h u tm' htm'
  obtain rfl := Option.some.inj (ha.symm.trans (hw.trans hb))
  exact placeholder_inj (Option.some.inj (hx.symm.trans hy))

theorem Placed.live_of_hidden (h : Placed s) (ha : a ∈ hidden s) :
    ∃ t, s.heap a = some (placeholder t) := by
  obtain ⟨t, tm, htm, hw⟩ := ha
  obtain ⟨b, hb, hx⟩ := h t tm htm
  obtain rfl := Option.some.inj (hw.symm.trans hb)
  exact ⟨t, hx⟩

/-- The calls on watchers leave the timers alone. -/
theorem exec_sameTimers (hd : s.sys.data.isSome = true) (c : Call KqueueEnv) :
    SameTimers s.sys (s.exec kqueueOps c).1.sys :=
  World.exec_keeps (kqueueOps_sameTimers s.sys) c ⟨hd, rfl, rfl⟩

theorem hidden_exec (hd : s.sys.data.isSome = true) (c : Call KqueueEnv) :
    hidden (s.exec kqueueOps c).1 = hidden s := by
  rw [hidden, hidden, (exec_sameTimers hd c).timers_eq]

/-- A call that is not made on a placeholder leaves the placeholders alone. -/
theorem Placed.exec (h : Placed s) (c : Call KqueueEnv) (hd : s.sys.data.isSome = true)
    (hseen : ∀ a, c.target = some a → a ∉ hidden s) : Placed (s.exec kqueueOps c).1 := by
  intro u tm htm
  have htm' : s.sys.timers u = some tm :=
    (congrFun (exec_sameTimers hd c).timers_eq u).symm.trans htm
  obtain ⟨a, ha, hx⟩ := h u tm htm'
  exact ⟨a, ha, World.exec_heap_ne hx fun heq => hseen a heq ⟨u, tm, htm', ha⟩⟩

/-- A timer call that leaves its timer fitting keeps the invariant. -/
theorem Retimed.placed (h : Retimed s s' t) (hp : Placed s) : Placed s' := by
  intro u x hx
  rw [h.heap_eq]
  rcases eq_or_ne u t with rfl | hu
  · have hw := h.watcher_eq
    rw [hx, Option.map_some] at hw
    obtain ⟨y, hy, hyw⟩ := Option.map_eq_some_iff.1 hw.symm
    obtain ⟨a, ha, hxa⟩ := hp u y hy
    exact ⟨a, hyw.symm.trans ha, hxa⟩
  · exact hp u x ((h.timer_ne u hu).symm.trans hx)

theorem Retimed.listed (h : Retimed s s' t) (hl : Listed s) : Listed s' := by
  refine ⟨?_, ?_, ?_⟩
  · rw [h.loop_eq]
    exact hl.nodup
  · rw [h.loop_eq, h.heap_eq]
    exact hl.mem_occupied
  · rw [h.heap_eq]
    exact hl.ne_null

theorem Settled.congr (h : Settled s u) (htimer : s'.sys.timers u = s.sys.timers u) :
    Settled s' u := by
  obtain ⟨tm, td, htm, hrest⟩ := h
  exact ⟨tm, td, htimer.trans htm, hrest⟩

end

section

variable {s : TimerWorld} {t a : Addr}

/-- A call that changes one timer only. -/
theorem Kept.retime (h : Kept s) {s' : KqueueWorld} {reported : List Addr}
    (hr : Retimed s.world s' t) (hfits : Fits s' t)
    (hsettled : ∀ u ∈ reported, (u ≠ t ∧ u ∈ s.reported) ∨ Settled s' u) :
    Kept ⟨s', reported⟩ where
  attached := by
    rw [hr.data_eq]
    exact h.attached
  listed := hr.listed h.listed
  fits := by
    intro u
    rcases eq_or_ne u t with rfl | hu
    · exact hfits
    · exact (h.fits u).congr (hr.timer_ne u hu) (hr.filter_ne u hu)
  placed := hr.placed h.placed
  settled := by
    intro u hu
    rcases hsettled u hu with ⟨hne, hu⟩ | hset
    · exact (h.settled u hu).congr (hr.timer_ne u hne)
    · exact hset

end

section

variable {s : KqueueWorld} {t a : Addr}

theorem Settled.of_active (h : Fits s t) (hact : active s t = true) : Settled s t := by
  cases htm : s.sys.timers t with
  | none => exact absurd ((active_of_none htm).symm.trans hact) Bool.false_ne_true
  | some tm =>
      obtain ⟨td, hp, -⟩ := h.registered tm htm
      exact ⟨tm, td, htm, hp, Or.inl ((active_of_some htm).symm.trans hact)⟩

/-- On a loop that is open a start that the kernel accepts succeeds. -/
theorem start_ok {tm : PdTimer KqueueTimerData} {td : KqueueTimerData}
    (htm : s.sys.timers t = some tm) (hp : tm.platformData = some td)
    (hopen : s.sys.data.isSome = true) : (pdTimerStart s t none).2 = .ok := by
  have hstart : (kqueueTimerStart (setActive s t true) t { tm with active := true } none).2 =
      .ok := by
    obtain ⟨d, hd⟩ := Option.isSome_iff_exists.1 hopen
    rw [kqueueTimerStart, show (setActive s t true).sys.data = some d from hd]
    dsimp only
    rw [hp]
  unfold pdTimerStart
  rw [htm]
  dsimp only
  split_ifs with hact hcode
  · rfl
  · exact absurd hstart hcode
  · rfl

/-- A start that is not refused leaves the timer active. -/
theorem Settled.start (hset : Settled s t) (h : Fits s t) (hopen : s.sys.data.isSome = true) :
    Settled (pdTimerStart s t none).1 t := by
  obtain ⟨tm, td, htm, hp, -⟩ := hset
  obtain ⟨hfits, ⟨hact, heq⟩ | ⟨-, -, hact⟩ | ⟨-, hne, -⟩⟩ := start_cases h none
  · rw [heq]
    exact .of_active h hact
  · exact .of_active hfits hact
  · exact absurd (start_ok htm hp hopen) hne

/-- A stop ends the first phase. -/
theorem Settled.stop (hset : Settled s t) (h : Fits s t) (hopen : s.sys.data.isSome = true) :
    Settled (pdTimerStop s t).1 t := by
  obtain ⟨tm, td, htm, hp, -⟩ := id hset
  cases hact : tm.active with
  | false =>
      have hr : pdTimerStop s t = (s, .ok) := by simp [pdTimerStop, htm, hact]
      rw [hr]
      exact hset
  | true =>
      obtain ⟨d, hd⟩ := Option.isSome_iff_exists.1 hopen
      obtain ⟨td', hp', hreg⟩ := h.registered tm htm
      obtain rfl := Option.some.inj (hp.symm.trans hp')
      have hstop : kqueueTimerStop (setActive s t false) t { tm with active := false } =
          (setTimer (setTimerKnote (setActive s t false) t none) t
            (some { tm with active := false, platformData := some ⟨false, false⟩ }), .ok) := by
        rw [kqueueTimerStop, show (setActive s t false).sys.data = some d from hd]
        simp [hp, hreg, hact]
      have hr : pdTimerStop s t = (setTimer (setTimerKnote (setActive s t false) t none) t
          (some { tm with active := false, platformData := some ⟨false, false⟩ }), .ok) := by
        simp [pdTimerStop, htm, hact, hstop]
      rw [hr]
      exact ⟨_, _, setTimer_timers_self .., rfl, Or.inr rfl⟩

/-- A report that is read: a timer that is not active is left alone. -/
theorem Settled.fire (hset : Settled s t) (h : Fits s t) (refused : Bool) :
    Fits (s.setSys (rearm s.sys t refused)) t ∧
      Settled (s.setSys (rearm s.sys t refused)) t := by
  obtain ⟨tm, td, htm, hp, hact | hpending⟩ := id hset
  · obtain ⟨hfits, hact'⟩ := h.rearm ((active_of_some htm).trans hact) refused
    exact ⟨hfits, .of_active hfits hact'⟩
  · rw [rearm_of_not_pending htm hp hpending]
    exact ⟨h, hset⟩

theorem Fits.report (h : Fits s t) (n : TimerKnote) : Fits (reportTimer s t n) t := by
  unfold reportTimer
  split_ifs
  · exact ⟨h.registered, fun _ => setTimerKnote_knote_self ..⟩
  · exact h

end

section

variable {s : TimerWorld} {t a : Addr}

/-- A call on a watcher of the user. -/
theorem Kept.call (h : Kept s) (c : Call KqueueEnv)
    (hseen : ∀ a, c.target = some a → a ∉ hidden s.world) :
    Kept { s with world := (s.world.exec kqueueOps c).1 } := by
  have hsame := exec_sameTimers h.attached c
  exact ⟨hsame.attached, h.listed.exec c,
    fun u => (h.fits u).congr (congrFun hsame.timers_eq u) (congrFun hsame.filters_eq u),
    h.placed.exec c h.attached hseen,
    fun u hu => (h.settled u hu).congr (congrFun hsame.timers_eq u)⟩

theorem Kept.timerCreate (h : Kept s) (timeoutMs intervalMs : UInt64)
    (callback : Option Callback) (userData : Addr) (env : TimerEnv) :
    Kept { s with
      world := (pdTimerCreate s.world timeoutMs intervalMs callback userData env).1 } := by
  obtain ⟨hd, hk, hcases⟩ :=
    timerCreate_spec s.world timeoutMs intervalMs callback userData env
  generalize (pdTimerCreate s.world timeoutMs intervalMs callback userData env).1 = s'
    at hd hk hcases ⊢
  have hfilters : s'.sys.kernel.timers = s.world.sys.kernel.timers := congrArg Kernel.timers hk
  have hattached : s'.sys.data.isSome = true := hd ▸ h.attached
  rcases hcases with ⟨hheap, hloop, htimers⟩ |
    ⟨t, a, tm, hnew, hdead, hnull, hw, hact, hp, hheap, hocc, htimers⟩
  · refine ⟨hattached, ⟨?_, ?_, ?_⟩, fun u => ?_, fun u tm htm => ?_, fun u hu => ?_⟩
    · rw [hloop]
      exact h.listed.nodup
    · rw [hloop, hheap]
      exact h.listed.mem_occupied
    · rw [hheap]
      exact h.listed.ne_null
    · exact (h.fits u).congr (congrFun htimers u) (congrFun hfilters u)
    · rw [hheap]
      exact h.placed u tm ((congrFun htimers u).symm.trans htm)
    · exact (h.settled u hu).congr (congrFun htimers u)
  · have hself : s'.sys.timers t = some tm := by rw [htimers, Function.update_self]
    have hother : ∀ u, u ≠ t → s'.sys.timers u = s.world.sys.timers u :=
      fun u hu => (congrFun htimers u).trans (Function.update_of_ne hu ..)
    refine ⟨hattached, listed_append h.listed hdead hnull hocc hheap, fun u => ?_,
      fun u x hx => ?_, fun u hu => ?_⟩
    · rcases eq_or_ne u t with rfl | hu
      · refine .of_some hself hp hact.symm fun _ => ?_
        exact (congrFun hfilters u).trans ((h.fits u).filter (active_of_none hnew))
      · exact (h.fits u).congr (hother u hu) (congrFun hfilters u)
    · rw [hheap]
      rcases eq_or_ne u t with rfl | hu
      · obtain rfl := Option.some.inj (hself.symm.trans hx)
        exact ⟨a, hw, Function.update_self ..⟩
      · obtain ⟨b, hb, hy⟩ := h.placed u x ((hother u hu).symm.trans hx)
        refine ⟨b, hb, (Function.update_of_ne ?_ ..).trans hy⟩
        rintro rfl
        exact nomatch hdead.symm.trans hy
    · obtain ⟨tm', td', htm', hrest⟩ := h.settled u hu
      have hne : u ≠ t := by
        rintro rfl
        exact nomatch hnew.symm.trans htm'
      exact ⟨tm', td', (hother u hne).trans htm', hrest⟩

/-- The timer and its placeholder go; no report of it is on its way. -/
theorem Kept.timerDestroy (h : Kept s) (hno : t ∉ s.reported) :
    Kept { s with world := pdTimerDestroy s.world t } := by
  cases htm : s.world.sys.timers t with
  | none =>
      have hsame : pdTimerDestroy s.world t = s.world := by rw [pdTimerDestroy, htm]
      rw [hsame]
      exact h
  | some tm =>
      obtain ⟨a, ha, hx⟩ := h.placed t tm htm
      have hnull : a ≠ NULL := h.listed.ne_null a (by rw [hx]; rfl)
      obtain ⟨-, hfilter⟩ := (h.fits t).destroy h.attached
      have hgone := timerDestroy_spec htm ha hnull
      generalize pdTimerDestroy s.world t = s' at hgone hfilter ⊢
      refine ⟨hgone.data_eq ▸ h.attached, listed_erase h.listed hgone.occupied_eq hgone.heap_eq,
        fun u => ?_, fun u x hux => ?_, fun u hu => ?_⟩
      · rcases eq_or_ne u t with rfl | hu
        · exact ⟨fun y hy => absurd (hgone.timer_self.symm.trans hy).symm (Option.some_ne_none y),
            fun _ => hfilter⟩
        · exact (h.fits u).congr (hgone.timer_ne u hu) (hgone.filter_ne u hu)
      · have hu : u ≠ t := by
          rintro rfl
          exact absurd (hgone.timer_self.symm.trans hux).symm (Option.some_ne_none x)
        have hux' := (hgone.timer_ne u hu).symm.trans hux
        obtain ⟨b, hb, hy⟩ := h.placed u x hux'
        have hba : b ≠ a := by
          rintro rfl
          exact hu (h.placed.injective hux' htm (hb.trans ha.symm))
        exact ⟨b, hb, (congrFun hgone.heap_eq b).trans ((Function.update_of_ne hba ..).trans hy)⟩
      · have hne : u ≠ t := fun heq => hno (heq ▸ hu)
        exact (h.settled u hu).congr (hgone.timer_ne u hne)

/-- What a prompt step preserves. -/
theorem Kept.step (h : Kept s) {act : TimerAction} (hok : Prompt s act) {s' : TimerWorld}
    (hs' : performTimer s act = some s') : Kept s' := by
  -- the reports on their way are the same, and at most `t` has changed
  have hsame : ∀ {t : Addr} {w : KqueueWorld}, (t ∈ s.reported → Settled w t) →
      ∀ u ∈ s.reported, (u ≠ t ∧ u ∈ s.reported) ∨ Settled w u := by
    intro t w hset u hu
    rcases eq_or_ne u t with rfl | hne
    · exact Or.inr (hset hu)
    · exact Or.inl ⟨hne, hu⟩
  cases act with
  | call c =>
      obtain rfl := Option.some.inj hs'
      exact h.call c hok
  | timerCreate timeoutMs intervalMs callback userData env =>
      obtain rfl := Option.some.inj hs'
      exact h.timerCreate timeoutMs intervalMs callback userData env
  | timerStart t refused =>
      obtain rfl := Option.some.inj hs'
      refine h.retime (retimed_start ..) (start_cases (h.fits t) refused).1 (hsame fun ht => ?_)
      rcases hok with rfl | hno
      · exact (h.settled t ht).start (h.fits t) h.attached
      · exact absurd ht hno
  | timerStop t =>
      obtain rfl := Option.some.inj hs'
      exact h.retime (retimed_stop ..) (stop_cases (h.fits t)).1
        (hsame fun ht => (h.settled t ht).stop (h.fits t) h.attached)
  | timerDestroy t =>
      obtain rfl := Option.some.inj hs'
      exact h.timerDestroy hok
  | report t =>
      obtain ⟨n, hn, rfl⟩ := Option.map_eq_some_iff.1 hs'
      refine h.retime (retimed_report ..) ((h.fits t).report n) fun u hu => ?_
      rcases eq_or_ne u t with rfl | hne
      · have hact : active s.world u = true := by
          by_contra hact
          have hnone := (h.fits u).filter (Bool.eq_false_iff.2 hact)
          exact absurd (hnone.symm.trans hn).symm (Option.some_ne_none n)
        refine Or.inr ((Settled.of_active (h.fits u) hact).congr ?_)
        unfold reportTimer
        split_ifs <;> rfl
      · exact Or.inl ⟨hne, (List.mem_cons.1 hu).resolve_left hne⟩
  | fire t refused =>
      obtain ⟨ht, hs'⟩ := Option.ite_none_right_eq_some.1 hs'
      obtain rfl := Option.some.inj hs'
      obtain ⟨hfits, hset⟩ := (h.settled t ht).fire (h.fits t) refused
      refine h.retime (retimed_rearm ..) hfits fun u hu => ?_
      exact hsame (fun _ => hset) u (List.mem_of_mem_erase hu)
  | closeFd fd =>
      obtain rfl := Option.some.inj hs'
      exact ⟨h.attached, ⟨h.listed.nodup, h.listed.mem_occupied, h.listed.ne_null⟩,
        fun u => (h.fits u).congr rfl rfl, h.placed, h.settled⟩
  | openFd fd =>
      obtain rfl := Option.some.inj hs'
      exact ⟨h.attached, ⟨h.listed.nodup, h.listed.mem_occupied, h.listed.ne_null⟩,
        fun u => (h.fits u).congr rfl rfl, h.placed, h.settled⟩

theorem Kept.init (hs : Created s.world) (hr : s.reported = []) : Kept s := by
  obtain ⟨world, reported⟩ := s
  obtain ⟨isOpen, rfl⟩ := hs
  obtain rfl := hr
  refine ⟨rfl, ⟨.nil, fun a => ?_, fun a ha => ?_⟩, fun u => ⟨fun tm htm => ?_, fun _ => rfl⟩,
    fun u tm htm => ?_, fun u hu => absurd hu List.not_mem_nil⟩
  · exact iff_of_false List.not_mem_nil Bool.false_ne_true
  · exact absurd ha Bool.false_ne_true
  · exact absurd htm.symm (Option.some_ne_none tm)
  · exact absurd htm.symm (Option.some_ne_none tm)

theorem Kept.of_reach (h : timerRuns.Reach Prompt s) : Kept s :=
  h.invariant (fun _ hs => .init hs.1 hs.2) fun _ _ _ hkept hok hnext => hkept.step hok hnext

end
end Kqueue
end PollDancer
