/-
# Dispatching a batch of events

The loops of `epoll_loop_run` and `kqueue_loop_run` over the events of one kernel
wait.  The events hold the watcher pointers of the moment of the wait; each callback
that runs may stop, start, update, create or destroy any watcher before the next
event is looked at.  What the loop does is recorded as a trace of observations: the
watchers it reads, the callbacks it invokes, and the calls these make with their
replies.

A trace is `Safe` when the loop reads no watcher that is gone and invokes no watcher
that is stopped.  The loop checks neither, so it is safe exactly when the callbacks
see to it: `Undisturbed`, and `dispatchBatch_safe_iff`.  The backend is arbitrary.
-/
import PollDancer.Lifecycle

namespace PollDancer

variable {κ δ ω ε : Type}

/-- What one event is about. -/
inductive Ready
  /-- The wake-up of `pd_loop_async_send`, or an event without a target. -/
  | skip
  /-- A timer that the backend dispatches without a watcher. -/
  | timer (t : Addr)
  | watcher (w : Addr) (events : PdEvent)
  deriving DecidableEq, Repr

/-- How a backend reads its events: what an event is about, and what the loop does to
the backend's state before it invokes the callback. -/
structure Dispatcher (κ ε : Type) where
  decode : ε → Ready
  prepare : κ → ε → κ

/-- What can be observed of the dispatch. -/
inductive Obs (ω : Type)
  | read (w : Addr)
  | invoke (w : Addr) (events : PdEvent)
  | called (c : Call ω) (reply : Reply)
  deriving DecidableEq

/-- A callback makes its calls. -/
def runCalls (ops : PlatformOps κ δ ω) (s : World κ δ) :
    List (Call ω) → World κ δ × List (Obs ω)
  | [] => (s, [])
  | c :: cs =>
    let r := s.exec ops c
    let q := runCalls ops r.1 cs
    (q.1, .called c r.2 :: q.2)

/-- The dispatch loop.  Each event comes with the calls its callback makes if it is
invoked.  Reading a watcher that is gone ends the run: nothing can be said about what
follows. -/
def dispatchBatch (ops : PlatformOps κ δ ω) (d : Dispatcher κ ε) (s : World κ δ) :
    List (ε × List (Call ω)) → World κ δ × List (Obs ω)
  | [] => (s, [])
  | (e, script) :: batch =>
    let s := s.setSys (d.prepare s.sys e)
    match d.decode e with
    | .skip => dispatchBatch ops d s batch
    | .timer _ =>
      let r := runCalls ops s script
      let q := dispatchBatch ops d r.1 batch
      (q.1, r.2 ++ q.2)
    | .watcher w events =>
      match s.heap w with
      | none => (s, [.read w])
      | some x =>
        match x.callback with
        | none =>
          let q := dispatchBatch ops d s batch
          (q.1, .read w :: q.2)
        | some _ =>
          let r := runCalls ops s script
          let q := dispatchBatch ops d r.1 batch
          (q.1, .read w :: .invoke w events :: (r.2 ++ q.2))

/-! ### Safe traces -/

/-- Has the watcher been destroyed in the trace? -/
def destroyedIn (trace : List (Obs ω)) (w : Addr) : Bool :=
  trace.any fun
    | .called (.destroy v) _ => v == w
    | _ => false

/-- Whether `w` counts as stopped after an observation, given whether it did before: a
`pd_watcher_stop` that returned `PD_OK` stops it, a `pd_watcher_start` that returned
`PD_OK` starts it, and a new watcher is not stopped. -/
def trackStop (w : Addr) (stopped : Bool) : Obs ω → Bool
  | .called (.stop v) (.code .ok) => v == w || stopped
  | .called (.start v _) (.code .ok) => v != w && stopped
  | .called (.create ..) (.handle (some v)) => v != w && stopped
  | .called (.createForHandle ..) (.handle (some v)) => v != w && stopped
  | _ => stopped

/-- Was the watcher stopped at the wait? -/
def stoppedAt (s₀ : World κ δ) (w : Addr) : Bool :=
  match s₀.heap w with
  | none => false
  | some x => !x.active

/-- Did the latest `pd_watcher_stop` of the watcher return `PD_OK`, with no start
since? -/
def stoppedIn (s₀ : World κ δ) (trace : List (Obs ω)) (w : Addr) : Bool :=
  trace.foldl (trackStop w) (stoppedAt s₀ w)

/-- May the loop do this after `past`?  `s₀` is the state at the wait. -/
def Allowed (s₀ : World κ δ) (past : List (Obs ω)) : Obs ω → Prop
  | .read w => (s₀.heap w).isSome = true ∧ destroyedIn past w = false
  | .invoke w _ => stoppedIn s₀ past w = false
  | .called _ _ => True

/-- Every observation of the trace is allowed after the ones before it. -/
def Safe (s₀ : World κ δ) (past : List (Obs ω)) : List (Obs ω) → Prop
  | [] => True
  | o :: trace => Allowed s₀ past o ∧ Safe s₀ (past ++ [o]) trace

/-! ### What the callbacks have to see to -/

/-- Does the event make the loop invoke a callback?  Callback pointers never change. -/
def invokes (d : Dispatcher κ ε) (s₀ : World κ δ) (e : ε) : Bool :=
  match d.decode e with
  | .skip => false
  | .timer _ => true
  | .watcher w _ => (s₀.heap w).any fun x => x.callback.isSome

/-- The calls that the callbacks of a batch make. -/
def callsOf (d : Dispatcher κ ε) (s₀ : World κ δ) (batch : List (ε × List (Call ω))) :
    List (Call ω) :=
  batch.flatMap fun p => if invokes d s₀ p.1 then p.2 else []

/-- The state those calls lead to. -/
def afterCalls (ops : PlatformOps κ δ ω) (d : Dispatcher κ ε) (s₀ : World κ δ)
    (batch : List (ε × List (Call ω))) : World κ δ :=
  batch.foldl (fun s p =>
    let s := s.setSys (d.prepare s.sys p.1)
    if invokes d s₀ p.1 then (runCalls ops s p.2).1 else s) s₀

/-- The watcher is live and active. -/
def ActiveIn (s : World κ δ) (w : Addr) : Prop := ∃ x, s.heap w = some x ∧ x.active = true

/-- The event of `w` may be dispatched after `pre`: the watcher is live at the wait, no
callback before it destroys it, and if it has a callback, it is active after the
calls of those before it. -/
def Undisturbed₁ (ops : PlatformOps κ δ ω) (d : Dispatcher κ ε) (s₀ : World κ δ)
    (pre : List (ε × List (Call ω))) (w : Addr) : Prop :=
  ∃ x, s₀.heap w = some x ∧ Call.destroy w ∉ callsOf d s₀ pre ∧
    (x.callback.isSome → ActiveIn (afterCalls ops d s₀ pre) w)

/-- Every event of a watcher in the batch may be dispatched after the events before
it. -/
def Undisturbed (ops : PlatformOps κ δ ω) (d : Dispatcher κ ε) (s₀ : World κ δ)
    (batch : List (ε × List (Call ω))) : Prop :=
  ∀ pre e script post w events, batch = pre ++ (e, script) :: post →
    d.decode e = .watcher w events → Undisturbed₁ ops d s₀ pre w

/-! ### Calls and the watchers they are not about -/

section Exec

variable {ops : PlatformOps κ δ ω} {s : World κ δ} {a b : Addr} {x : PdWatcher δ}

theorem trackStop_stop (w v : Addr) (b : Bool) (r : PdError) :
    trackStop (ω := ω) w b (.called (.stop v) (.code r)) = if r = .ok then v == w || b else b := by
  cases r <;> rfl

theorem trackStop_start (w v : Addr) (b : Bool) (env : ω) (r : PdError) :
    trackStop w b (.called (.start v env) (.code r)) = if r = .ok then v != w && b else b := by
  cases r <;> rfl

/-- A call that is not the watcher's destruction keeps the watcher and its callback,
and its reply tells whether the watcher is stopped afterwards. -/
theorem exec_kept {c : Call ω} (hx : s.heap b = some x) (hc : c ≠ .destroy b) :
    ∃ y, (s.exec ops c).1.heap b = some y ∧ y.callback = x.callback ∧
      (!y.active) = trackStop b (!x.active) (.called c (s.exec ops c).2) := by
  cases c with
  | create fd events callback userData env =>
      have hcr : Creates s (pdWatcherCreate ops s fd events callback userData env) := creates_create
      rcases hcr with ⟨hnone, sys, heq⟩ | ⟨a, w, sys, grow, ha, -, -, -, heq⟩
      · refine ⟨x, ?_, rfl, ?_⟩
        · rw [World.exec, heq]
          exact hx
        · simp only [World.exec, hnone, trackStop]
      · have hne : b ≠ a := by
          rintro rfl
          rw [ha] at hx
          cases hx
        refine ⟨x, ?_, rfl, ?_⟩
        · rw [World.exec, heq]
          exact (World.setWatcher_heap_ne _ _ hne).trans hx
        · simp only [World.exec, heq, trackStop]
          simp [hne.symm]
  | createForHandle handle events callback userData env =>
      have hcr : Creates s (pdWatcherCreateForHandle ops s handle events callback userData env) :=
        creates_createForHandle
      rcases hcr with ⟨hnone, sys, heq⟩ | ⟨a, w, sys, grow, ha, -, -, -, heq⟩
      · refine ⟨x, ?_, rfl, ?_⟩
        · rw [World.exec, heq]
          exact hx
        · simp only [World.exec, hnone, trackStop]
      · have hne : b ≠ a := by
          rintro rfl
          rw [ha] at hx
          cases hx
        refine ⟨x, ?_, rfl, ?_⟩
        · rw [World.exec, heq]
          exact (World.setWatcher_heap_ne _ _ hne).trans hx
        · simp only [World.exec, heq, trackStop]
          simp [hne.symm]
  | update v events env =>
      rcases eq_or_ne b v with rfl | hne
      · cases hact : x.active with
        | false =>
            rw [World.exec, update_of_inactive hx hact]
            exact ⟨x, hx, rfl, by rw [hact]; rfl⟩
        | true =>
            rw [World.exec, update_of_active hx hact rfl]
            exact ⟨_, World.setWatcher_heap_self .., rfl, congrArg (!·) hact⟩
      · exact ⟨x, (update_heap_ne hne).trans hx, rfl, rfl⟩
  | stop v =>
      rw [World.exec, trackStop_stop]
      rcases eq_or_ne b v with rfl | hne
      · cases hact : x.active with
        | false =>
            rw [stop_of_inactive hx hact]
            exact ⟨x, hx, rfl, by simp [hact]⟩
        | true =>
            by_cases hok : (ops.watcherUnregister s.sys b { x with active := false }).code = .ok
            · rw [stop_of_ok hx hact rfl hok]
              exact ⟨_, World.setWatcher_heap_self .., rfl, by simp⟩
            · rw [stop_of_ne_ok hx hact rfl hok]
              exact ⟨_, World.setWatcher_heap_self .., rfl, by simp [hok]⟩
      · refine ⟨x, (stop_heap_ne hne).trans hx, rfl, ?_⟩
        simp [hne.symm]
  | start v env =>
      rw [World.exec, trackStop_start]
      rcases eq_or_ne b v with rfl | hne
      · cases hact : x.active with
        | true =>
            rw [start_of_active env hx hact]
            exact ⟨x, hx, rfl, by simp [hact]⟩
        | false =>
            by_cases hok : (ops.watcherRegister s.sys b { x with active := true } env).code = .ok
            · rw [start_of_ok hx hact rfl hok]
              exact ⟨_, World.setWatcher_heap_self .., rfl, by simp⟩
            · rw [start_of_ne_ok hx hact rfl hok]
              exact ⟨_, World.setWatcher_heap_self .., rfl, by simp [hok]⟩
      · refine ⟨x, (start_heap_ne hne).trans hx, rfl, ?_⟩
        simp [hne.symm]
  | destroy v =>
      have hne : b ≠ v := by
        rintro rfl
        exact hc rfl
      exact ⟨x, (destroy_heap_ne hne).trans hx, rfl, rfl⟩

/-- A watcher that a call has made live is new: active, and not stopped. -/
theorem exec_new {c : Call ω} (hb : s.heap b = none) (hx : (s.exec ops c).1.heap b = some x)
    (stopped : Bool) :
    x.active = true ∧ trackStop b stopped (.called c (s.exec ops c).2) = false := by
  have hnone : s.heap b ≠ some x := by
    rw [hb]
    simp
  have hsame : ∀ {s' : World κ δ}, SameWatchers s s' → s'.heap b ≠ some x := by
    intro s' hsame heq
    have hlive := hsame.live_eq b
    rw [heq, hb] at hlive
    simp at hlive
  cases c with
  | create fd events callback userData env =>
      have hcr : Creates s (pdWatcherCreate ops s fd events callback userData env) := creates_create
      rcases hcr with ⟨-, sys, heq⟩ | ⟨a, w, sys, grow, -, -, hact, -, heq⟩
      · rw [World.exec, heq] at hx
        exact absurd hx hnone
      · rw [World.exec, heq] at hx
        rcases eq_or_ne b a with rfl | hne
        · obtain rfl := Option.some.inj ((World.setWatcher_heap_self ..).symm.trans hx)
          refine ⟨hact, ?_⟩
          simp only [World.exec, heq, trackStop]
          simp
        · exact absurd ((World.setWatcher_heap_ne _ _ hne).symm.trans hx) hnone
  | createForHandle handle events callback userData env =>
      have hcr : Creates s (pdWatcherCreateForHandle ops s handle events callback userData env) :=
        creates_createForHandle
      rcases hcr with ⟨-, sys, heq⟩ | ⟨a, w, sys, grow, -, -, hact, -, heq⟩
      · rw [World.exec, heq] at hx
        exact absurd hx hnone
      · rw [World.exec, heq] at hx
        rcases eq_or_ne b a with rfl | hne
        · obtain rfl := Option.some.inj ((World.setWatcher_heap_self ..).symm.trans hx)
          refine ⟨hact, ?_⟩
          simp only [World.exec, heq, trackStop]
          simp
        · exact absurd ((World.setWatcher_heap_ne _ _ hne).symm.trans hx) hnone
  | update v events env => exact absurd hx (hsame sameWatchers_update)
  | stop v => exact absurd hx (hsame sameWatchers_stop)
  | start v env => exact absurd hx (hsame sameWatchers_start)
  | destroy v =>
      rcases eq_or_ne b v with rfl | hne
      · rw [World.exec, pdWatcherDestroy, hb] at hx
        exact absurd hx hnone
      · exact absurd ((destroy_heap_ne hne).symm.trans hx) hnone

end Exec

/-! ### What the trace says about the state -/

section Trace

variable {ops : PlatformOps κ δ ω} {d : Dispatcher κ ε} {s₀ s : World κ δ} {past : List (Obs ω)}

theorem destroyedIn_append (l₁ l₂ : List (Obs ω)) (w : Addr) :
    destroyedIn (l₁ ++ l₂) w = (destroyedIn l₁ w || destroyedIn l₂ w) :=
  List.any_append

theorem stoppedIn_append (l : List (Obs ω)) (o : Obs ω) (w : Addr) :
    stoppedIn s₀ (l ++ [o]) w = trackStop w (stoppedIn s₀ l w) o := by
  rw [stoppedIn, List.foldl_append]
  rfl

/-- The state after the calls of a trace: the watchers of the wait that were not
destroyed are there with their callbacks, and a live watcher is inactive exactly when
the trace says that it is stopped. -/
structure Tracks (s₀ : World κ δ) (past : List (Obs ω)) (s : World κ δ) : Prop where
  kept : ∀ w x, s₀.heap w = some x → destroyedIn past w = false →
    ∃ y, s.heap w = some y ∧ y.callback = x.callback
  inactive_eq : ∀ w y, s.heap w = some y → (!y.active) = stoppedIn s₀ past w

theorem Tracks.init (s₀ : World κ δ) : Tracks s₀ ([] : List (Obs ω)) s₀ where
  kept := fun _ x hx _ => ⟨x, hx, rfl⟩
  inactive_eq := by
    intro w y hy
    rw [stoppedIn, List.foldl_nil, stoppedAt, hy]

/-- The loop's own steps do not touch the watchers. -/
theorem Tracks.setSys (h : Tracks s₀ past s) (k : κ) : Tracks s₀ past (s.setSys k) :=
  ⟨h.kept, h.inactive_eq⟩

theorem Tracks.read (h : Tracks s₀ past s) (w : Addr) : Tracks s₀ (past ++ [.read w]) s where
  kept := by
    intro v x hx hd
    rw [destroyedIn_append, Bool.or_eq_false_iff] at hd
    exact h.kept v x hx hd.1
  inactive_eq := by
    intro v y hy
    rw [stoppedIn_append]
    exact h.inactive_eq v y hy

theorem Tracks.invoke (h : Tracks s₀ past s) (w : Addr) (events : PdEvent) :
    Tracks s₀ (past ++ [.invoke w events]) s where
  kept := by
    intro v x hx hd
    rw [destroyedIn_append, Bool.or_eq_false_iff] at hd
    exact h.kept v x hx hd.1
  inactive_eq := by
    intro v y hy
    rw [stoppedIn_append]
    exact h.inactive_eq v y hy

/-- One call. -/
theorem Tracks.exec (ops : PlatformOps κ δ ω) (h : Tracks s₀ past s) (c : Call ω) :
    Tracks s₀ (past ++ [.called c (s.exec ops c).2]) (s.exec ops c).1 where
  kept := by
    intro w x hx hd
    rw [destroyedIn_append, Bool.or_eq_false_iff] at hd
    have hc : c ≠ .destroy w := by
      rintro rfl
      exact absurd hd.2 (by simp [destroyedIn])
    obtain ⟨y, hy, hcb⟩ := h.kept w x hx hd.1
    obtain ⟨z, hz, hcb', -⟩ := exec_kept hy hc
    exact ⟨z, hz, hcb'.trans hcb⟩
  inactive_eq := by
    intro w z hz
    rw [stoppedIn_append]
    cases hw : s.heap w with
    | none =>
        obtain ⟨hact, htrack⟩ := exec_new hw hz (stoppedIn s₀ past w)
        rw [htrack, hact]
        rfl
    | some y =>
        have hc : c ≠ .destroy w := by
          rintro rfl
          exact nomatch destroy_heap_self.symm.trans hz
        obtain ⟨z', hz', -, htrack⟩ := exec_kept hw hc
        obtain rfl := Option.some.inj (hz'.symm.trans hz)
        rw [htrack, h.inactive_eq w y hw]

/-- The calls of a callback. -/
theorem Tracks.runCalls (ops : PlatformOps κ δ ω) (h : Tracks s₀ past s) (cs : List (Call ω)) :
    Tracks s₀ (past ++ (runCalls ops s cs).2) (runCalls ops s cs).1 := by
  induction cs generalizing past s with
  | nil =>
      rw [PollDancer.runCalls, List.append_nil]
      exact h
  | cons c cs ih =>
      have hstep := ih (h.exec ops c)
      rw [List.append_assoc] at hstep
      exact hstep

theorem destroyedIn_runCalls (cs : List (Call ω)) (w : Addr) :
    destroyedIn (runCalls ops s cs).2 w = true ↔ Call.destroy w ∈ cs := by
  induction cs generalizing s with
  | nil => simp [runCalls, destroyedIn]
  | cons c cs ih =>
      rw [List.mem_cons, ← ih, runCalls, ← List.singleton_append,
        destroyedIn_append, Bool.or_eq_true]
      refine or_congr ?_ Iff.rfl
      cases c with
      | destroy v =>
          simp only [destroyedIn, List.any_cons, List.any_nil, Bool.or_false, beq_iff_eq,
            Call.destroy.injEq]
          exact eq_comm
      | _ => simp [destroyedIn]

theorem safe_append {l₁ l₂ : List (Obs ω)} :
    Safe s₀ past (l₁ ++ l₂) ↔ Safe s₀ past l₁ ∧ Safe s₀ (past ++ l₁) l₂ := by
  induction l₁ generalizing past with
  | nil => simp [Safe]
  | cons o l ih =>
      rw [List.cons_append, Safe, Safe, ih, List.append_assoc, and_assoc]
      rfl

/-- The calls themselves are always allowed. -/
theorem safe_runCalls (cs : List (Call ω)) : Safe s₀ past (runCalls ops s cs).2 := by
  induction cs generalizing past s with
  | nil => trivial
  | cons c cs ih => exact ⟨trivial, ih⟩

/-! ### The theorem -/

theorem invokes_watcher {e : ε} {w : Addr} {events : PdEvent} {x : PdWatcher δ}
    (hd : d.decode e = .watcher w events) (hx : s₀.heap w = some x) :
    invokes d s₀ e = x.callback.isSome := by
  simp [invokes, hd, hx]

theorem callsOf_concat (pre : List (ε × List (Call ω))) (e : ε) (script : List (Call ω)) :
    callsOf d s₀ (pre ++ [(e, script)]) =
      callsOf d s₀ pre ++ if invokes d s₀ e then script else [] := by
  simp [callsOf, List.flatMap_append]

theorem afterCalls_concat (pre : List (ε × List (Call ω))) (e : ε) (script : List (Call ω)) :
    afterCalls ops d s₀ (pre ++ [(e, script)]) =
      (let s := (afterCalls ops d s₀ pre).setSys (d.prepare (afterCalls ops d s₀ pre).sys e)
      if invokes d s₀ e then (runCalls ops s script).1 else s) := by
  simp [afterCalls, List.foldl_append]

/-- What is required of the events of `batch` when `pre` has been dispatched. -/
def UndisturbedAfter (ops : PlatformOps κ δ ω) (d : Dispatcher κ ε) (s₀ : World κ δ)
    (pre batch : List (ε × List (Call ω))) : Prop :=
  ∀ mid e script post w events, batch = mid ++ (e, script) :: post →
    d.decode e = .watcher w events → Undisturbed₁ ops d s₀ (pre ++ mid) w

/-- The requirement on a batch is that on its first event and that on the others. -/
theorem undisturbedAfter_cons {pre batch : List (ε × List (Call ω))} {e : ε}
    {script : List (Call ω)} :
    UndisturbedAfter ops d s₀ pre ((e, script) :: batch) ↔
      (∀ w events, d.decode e = .watcher w events → Undisturbed₁ ops d s₀ pre w) ∧
        UndisturbedAfter ops d s₀ (pre ++ [(e, script)]) batch := by
  constructor
  · intro h
    refine ⟨fun w events hd => ?_, fun mid e' script' post w events heq hd => ?_⟩
    · have hfirst := h [] e script batch w events rfl hd
      rwa [List.append_nil] at hfirst
    · rw [List.append_assoc]
      exact h ((e, script) :: mid) e' script' post w events (by rw [heq]; rfl) hd
  · rintro ⟨hfirst, hrest⟩ mid e' script' post w events heq hd
    cases mid with
    | nil =>
        obtain ⟨heq₁, -⟩ := List.cons.inj heq
        obtain rfl := (Prod.mk.inj heq₁).1
        rw [List.append_nil]
        exact hfirst w events hd
    | cons p mid =>
        obtain ⟨rfl, heq₂⟩ := List.cons.inj heq
        have hmid := hrest mid e' script' post w events heq₂ hd
        rwa [List.append_assoc] at hmid

/-- The dispatch so far: the state, the trace, and the calls agree. -/
structure Dispatched (ops : PlatformOps κ δ ω) (d : Dispatcher κ ε) (s₀ : World κ δ)
    (pre : List (ε × List (Call ω))) (past : List (Obs ω)) (s : World κ δ) : Prop where
  tracks : Tracks s₀ past s
  state_eq : s = afterCalls ops d s₀ pre
  destroyed_iff : ∀ w, destroyedIn past w = true ↔ Call.destroy w ∈ callsOf d s₀ pre

/-- An event that invokes no callback, with at most a read in the trace. -/
theorem Dispatched.skip {pre : List (ε × List (Call ω))} {e : ε}
    (h : Dispatched ops d s₀ pre past s) (hno : invokes d s₀ e = false) (script : List (Call ω)) :
    Dispatched ops d s₀ (pre ++ [(e, script)]) past (s.setSys (d.prepare s.sys e)) where
  tracks := h.tracks.setSys _
  state_eq := by rw [afterCalls_concat, hno, ← h.state_eq]; rfl
  destroyed_iff := by
    intro w
    rw [callsOf_concat, hno]
    simpa using h.destroyed_iff w

theorem Dispatched.read {pre : List (ε × List (Call ω))} (h : Dispatched ops d s₀ pre past s)
    (w : Addr) : Dispatched ops d s₀ pre (past ++ [.read w]) s where
  tracks := h.tracks.read w
  state_eq := h.state_eq
  destroyed_iff := by
    intro v
    rw [destroyedIn_append, show destroyedIn [(.read w : Obs ω)] v = false from rfl, Bool.or_false]
    exact h.destroyed_iff v

theorem Dispatched.invoke {pre : List (ε × List (Call ω))} (h : Dispatched ops d s₀ pre past s)
    (w : Addr) (events : PdEvent) : Dispatched ops d s₀ pre (past ++ [.invoke w events]) s where
  tracks := h.tracks.invoke w events
  state_eq := h.state_eq
  destroyed_iff := by
    intro v
    rw [destroyedIn_append, show destroyedIn [(.invoke w events : Obs ω)] v = false from rfl,
      Bool.or_false]
    exact h.destroyed_iff v

/-- An event that invokes a callback, which makes its calls. -/
theorem Dispatched.run {pre : List (ε × List (Call ω))} {e : ε}
    (h : Dispatched ops d s₀ pre past s) (hyes : invokes d s₀ e = true)
    (script : List (Call ω)) :
    Dispatched ops d s₀ (pre ++ [(e, script)])
      (past ++ (runCalls ops (s.setSys (d.prepare s.sys e)) script).2)
      (runCalls ops (s.setSys (d.prepare s.sys e)) script).1 where
  tracks := (h.tracks.setSys _).runCalls ops script
  state_eq := by rw [afterCalls_concat, hyes, ← h.state_eq]; rfl
  destroyed_iff := by
    intro w
    rw [callsOf_concat, hyes, destroyedIn_append, Bool.or_eq_true, List.mem_append,
      h.destroyed_iff, destroyedIn_runCalls]
    rfl

/-- The loop may read the watcher exactly when it was live at the wait and no callback
has destroyed it; it is then still there, with its callback. -/
theorem Dispatched.allowed_read {pre : List (ε × List (Call ω))} {w : Addr}
    (h : Dispatched ops d s₀ pre past s) :
    Allowed s₀ past (.read w) ↔ ∃ x, s₀.heap w = some x ∧ Call.destroy w ∉ callsOf d s₀ pre ∧
      ∃ y, s.heap w = some y ∧ y.callback = x.callback := by
  have hfree : destroyedIn past w = false ↔ Call.destroy w ∉ callsOf d s₀ pre := by
    rw [← h.destroyed_iff, Bool.not_eq_true]
  constructor
  · rintro ⟨hlive, hd⟩
    obtain ⟨x, hx⟩ := Option.isSome_iff_exists.1 hlive
    exact ⟨x, hx, hfree.1 hd, h.tracks.kept w x hx hd⟩
  · rintro ⟨x, hx, hd, -⟩
    exact ⟨by rw [hx]; rfl, hfree.2 hd⟩

theorem safe_dispatch_iff (batch : List (ε × List (Call ω))) {pre : List (ε × List (Call ω))}
    (h : Dispatched ops d s₀ pre past s) :
    Safe s₀ past (dispatchBatch ops d s batch).2 ↔ UndisturbedAfter ops d s₀ pre batch := by
  induction batch generalizing pre past s with
  | nil =>
      refine iff_of_true trivial fun mid e script post w events heq _ => ?_
      exact absurd heq (by simp)
  | cons p batch ih =>
      obtain ⟨e, script⟩ := p
      rw [undisturbedAfter_cons, dispatchBatch]
      cases hdec : d.decode e with
      | skip =>
          have hno : invokes d s₀ e = false := by rw [invokes, hdec]
          rw [ih (h.skip hno script)]
          exact ⟨fun hrest => ⟨fun _ _ heq => (nomatch heq), hrest⟩, fun hboth => hboth.2⟩
      | timer t =>
          have hyes : invokes d s₀ e = true := by rw [invokes, hdec]
          dsimp only
          rw [safe_append, ih (h.run hyes script)]
          exact ⟨fun hboth => ⟨fun _ _ heq => (nomatch heq), hboth.2⟩,
            fun hboth => ⟨safe_runCalls script, hboth.2⟩⟩
      | watcher w events =>
          -- the first event's requirement, as a statement about this watcher
          have hfirst : (∀ v events', Ready.watcher w events = .watcher v events' →
              Undisturbed₁ ops d s₀ pre v) ↔ Undisturbed₁ ops d s₀ pre w := by
            constructor
            · exact fun hv => hv w events rfl
            · rintro hw v events' heq
              obtain ⟨rfl, -⟩ := Ready.watcher.inj heq
              exact hw
          rw [hfirst]
          have hread := h.allowed_read (w := w)
          cases hw : s.heap w with
          | none =>
              have hnot : ¬Allowed s₀ past (.read w) := by
                rw [hread]
                rintro ⟨_, _, _, y, hy, _⟩
                exact nomatch hw.symm.trans hy
              simp only [World.setSys_heap, hw]
              refine iff_of_false (fun hsafe => hnot hsafe.1) fun hboth => hnot ?_
              obtain ⟨x, hx, hd, -⟩ := hboth.1
              refine ⟨by rw [hx]; rfl, ?_⟩
              rw [← Bool.not_eq_true, h.destroyed_iff]
              exact hd
          | some y =>
              by_cases hallow : Allowed s₀ past (.read w)
              · obtain ⟨x, hx, hd, y', hy', hcb⟩ := hread.1 hallow
                obtain rfl := Option.some.inj (hw.symm.trans hy')
                simp only [World.setSys_heap, hw]
                cases hcall : y.callback with
                | none =>
                    have hno : invokes d s₀ e = false := by
                      rw [invokes_watcher hdec hx, ← hcb, hcall]
                      rfl
                    have hun : Undisturbed₁ ops d s₀ pre w := by
                      refine ⟨x, hx, hd, fun hsome => ?_⟩
                      rw [← hcb, hcall] at hsome
                      exact nomatch hsome
                    dsimp only
                    rw [Safe, ih ((h.read w).skip hno script)]
                    exact ⟨fun hboth => ⟨hun, hboth.2⟩, fun hboth => ⟨hallow, hboth.2⟩⟩
                | some f =>
                    have hyes : invokes d s₀ e = true := by
                      rw [invokes_watcher hdec hx, ← hcb, hcall]
                      rfl
                    -- the loop may invoke the watcher exactly when it is active
                    have hinvoke : Allowed s₀ (past ++ [.read w]) (.invoke w events) ↔
                        Undisturbed₁ ops d s₀ pre w := by
                      rw [Allowed, ← (h.read w).tracks.inactive_eq w y hw]
                      constructor
                      · intro hact
                        refine ⟨x, hx, hd, fun _ => ⟨y, ?_, by simpa using hact⟩⟩
                        rw [← h.state_eq]
                        exact hw
                      · rintro ⟨x', hx', -, hact⟩
                        obtain rfl := Option.some.inj (hx.symm.trans hx')
                        obtain ⟨z, hz, hzact⟩ := hact (by rw [← hcb, hcall]; rfl)
                        rw [← h.state_eq] at hz
                        obtain rfl := Option.some.inj (hw.symm.trans hz)
                        rw [hzact]
                        rfl
                    dsimp only
                    rw [Safe, Safe, hinvoke, safe_append,
                      ih (((h.read w).invoke w events).run hyes script)]
                    exact ⟨fun hall => ⟨hall.2.1, hall.2.2.2⟩,
                      fun hboth => ⟨hallow, hboth.1, safe_runCalls script, hboth.2⟩⟩
              · refine iff_of_false (fun hsafe => hallow ?_) fun hboth => hallow ?_
                · simp only [World.setSys_heap, hw] at hsafe
                  cases hcall : y.callback with
                  | none =>
                      rw [hcall] at hsafe
                      exact hsafe.1
                  | some f =>
                      rw [hcall] at hsafe
                      exact hsafe.1
                · obtain ⟨x, hx, hd, -⟩ := hboth.1
                  refine ⟨by rw [hx]; rfl, ?_⟩
                  rw [← Bool.not_eq_true, h.destroyed_iff]
                  exact hd

/-- **The dispatch of a batch is safe exactly when the callbacks leave its events
undisturbed.** -/
theorem dispatchBatch_safe_iff (ops : PlatformOps κ δ ω) (d : Dispatcher κ ε) (s₀ : World κ δ)
    (batch : List (ε × List (Call ω))) :
    Safe s₀ [] (dispatchBatch ops d s₀ batch).2 ↔ Undisturbed ops d s₀ batch := by
  have h : Dispatched ops d s₀ [] ([] : List (Obs ω)) s₀ :=
    ⟨.init s₀, rfl, fun w => by simp [destroyedIn, callsOf]⟩
  exact safe_dispatch_iff batch h

end Trace
end PollDancer
