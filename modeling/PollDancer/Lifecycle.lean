/-
# The set of watchers

What the calls of `src/watcher.c` do to the heap and to the watcher list, whatever
the backend: `pd_watcher_stop`, `pd_watcher_start` and `pd_watcher_update` write to
their own watcher only (`SameWatchers`), `pd_watcher_destroy` takes one watcher away
(`destroy_spec`), and a creation adds one or does nothing (`Creates`).  So the list
of the loop always names the live watchers, each of them once: `Listed`.
-/
import PollDancer.Library.Machine
import PollDancer.Watcher

namespace PollDancer

open Library

variable {κ δ ω : Type}

/-- The watcher list holds every live watcher once, and nothing else. -/
structure Listed (s : World κ δ) : Prop where
  nodup : s.loop.occupied.Nodup
  mem_occupied : ∀ a, a ∈ s.loop.occupied ↔ (s.heap a).isSome
  ne_null : ∀ a, (s.heap a).isSome → a ≠ NULL

/-- What a call does that neither creates nor destroys: the list stays, and so does
the set of live watchers. -/
structure SameWatchers (s s' : World κ δ) : Prop where
  loop_eq : s'.loop = s.loop
  live_eq : ∀ a, (s'.heap a).isSome = (s.heap a).isSome

section Calls

variable {ops : PlatformOps κ δ ω} {s s' : World κ δ} {a b : Addr} {w : PdWatcher δ}

theorem SameWatchers.refl (s : World κ δ) : SameWatchers s s := ⟨rfl, fun _ => rfl⟩

/-- A live watcher is overwritten. -/
theorem SameWatchers.overwrite (hw : s.heap a = some w) (x : PdWatcher δ) (sys : κ) :
    SameWatchers s ((s.setWatcher a x).setSys sys) := by
  refine ⟨rfl, fun b => ?_⟩
  rcases eq_or_ne b a with rfl | hb
  · rw [World.setSys_heap, World.setWatcher_heap_self, hw]
    rfl
  · rw [World.setSys_heap, World.setWatcher_heap_ne _ _ hb]

theorem sameWatchers_stop : SameWatchers s (pdWatcherStop ops s a).1 := by
  unfold pdWatcherStop
  cases hw : s.heap a with
  | none => exact .refl s
  | some w =>
      dsimp only
      split_ifs
      · exact .refl s
      · exact .overwrite hw _ _
      · exact .overwrite hw _ _

/-- `pd_watcher_stop` keeps descriptor and mask, and leaves the watcher inactive if it
returns `PD_OK`. -/
theorem stop_keeps (hw : s.heap a = some w) (hok : (pdWatcherStop ops s a).2 = .ok) :
    ∃ x, (pdWatcherStop ops s a).1.heap a = some x ∧ x.active = false ∧ x.fd = w.fd ∧
      x.events = w.events ∧ x.isHandle = w.isHandle := by
  cases hact : w.active with
  | false =>
      rw [stop_of_inactive hw hact]
      exact ⟨w, hw, hact, rfl, rfl, rfl⟩
  | true =>
      by_cases hr : (ops.watcherUnregister s.sys a { w with active := false }).code = .ok
      · rw [stop_of_ok hw hact rfl hr]
        exact ⟨_, World.setWatcher_heap_self .., rfl, rfl, rfl, rfl⟩
      · rw [stop_of_ne_ok hw hact rfl hr] at hok
        exact absurd hok hr

/-- The callback of a watcher, and what it is called with. -/
def PdWatcher.handler (w : PdWatcher δ) : Option Callback × Addr := (w.callback, w.userData)

theorem stop_handler (hw : s.heap a = some w) :
    ∃ x, (pdWatcherStop ops s a).1.heap a = some x ∧ x.handler = w.handler := by
  unfold pdWatcherStop
  rw [hw]
  dsimp only
  split_ifs
  · exact ⟨w, hw, rfl⟩
  · exact ⟨_, World.setWatcher_heap_self .., rfl⟩
  · exact ⟨_, World.setWatcher_heap_self .., rfl⟩

theorem start_handler {env : ω} (hw : s.heap a = some w) :
    ∃ x, (pdWatcherStart ops s a env).1.heap a = some x ∧ x.handler = w.handler := by
  unfold pdWatcherStart
  rw [hw]
  dsimp only
  split_ifs
  · exact ⟨w, hw, rfl⟩
  · exact ⟨_, World.setWatcher_heap_self .., rfl⟩
  · exact ⟨_, World.setWatcher_heap_self .., rfl⟩

theorem create_handler {fd : ℤ} {events : PdEvent} {callback : Option Callback} {userData : Addr}
    {env : CallEnv ω} (h : (pdWatcherCreate ops s fd events callback userData env).2 = some a) :
    ∃ x, (pdWatcherCreate ops s fd events callback userData env).1.heap a = some x ∧
      x.handler = (callback, userData) := by
  cases hc : s.calloc env.calloc with
  | none =>
      rw [create_of_calloc_none hc] at h
      exact nomatch h
  | some b =>
      by_cases hok : (ops.watcherRegister s.sys b
          (newWatcher fd events callback userData) env.backend).code = .ok
      · by_cases hadd : (pdLoopAddWatcher s.loop b env.growList).2 = .ok
        · rw [create_of_ok hc rfl hok hadd] at h ⊢
          obtain rfl := Option.some.inj h
          exact ⟨_, World.setWatcher_heap_self .., rfl⟩
        · rw [create_of_list_full hc rfl hok hadd rfl] at h
          exact nomatch h
      · rw [create_of_ne_ok hc rfl hok] at h
        exact nomatch h

theorem sameWatchers_start {env : ω} : SameWatchers s (pdWatcherStart ops s a env).1 := by
  unfold pdWatcherStart
  cases hw : s.heap a with
  | none => exact .refl s
  | some w =>
      dsimp only
      split_ifs
      · exact .refl s
      · exact .overwrite hw _ _
      · exact .overwrite hw _ _

theorem sameWatchers_update {events : PdEvent} {env : ω} :
    SameWatchers s (pdWatcherUpdate ops s a events env).1 := by
  unfold pdWatcherUpdate
  cases hw : s.heap a with
  | none => exact .refl s
  | some w =>
      dsimp only
      split_ifs
      · exact .refl s
      · exact .overwrite hw _ _

theorem stop_heap_ne (hb : b ≠ a) : (pdWatcherStop ops s a).1.heap b = s.heap b := by
  unfold pdWatcherStop
  cases s.heap a with
  | none => rfl
  | some w =>
      dsimp only
      split_ifs
      · rfl
      · exact World.setWatcher_heap_ne _ _ hb
      · exact World.setWatcher_heap_ne _ _ hb

theorem start_heap_ne {env : ω} (hb : b ≠ a) :
    (pdWatcherStart ops s a env).1.heap b = s.heap b := by
  unfold pdWatcherStart
  cases s.heap a with
  | none => rfl
  | some w =>
      dsimp only
      split_ifs
      · rfl
      · exact World.setWatcher_heap_ne _ _ hb
      · exact World.setWatcher_heap_ne _ _ hb

theorem update_heap_ne {events : PdEvent} {env : ω} (hb : b ≠ a) :
    (pdWatcherUpdate ops s a events env).1.heap b = s.heap b := by
  unfold pdWatcherUpdate
  cases s.heap a with
  | none => rfl
  | some w =>
      dsimp only
      split_ifs
      · rfl
      · exact World.setWatcher_heap_ne _ _ hb

theorem destroy_heap_ne (hb : b ≠ a) : (pdWatcherDestroy ops s a).heap b = s.heap b := by
  unfold pdWatcherDestroy
  cases s.heap a with
  | none => rfl
  | some w =>
      have hstop : (pdWatcherStop ops s a).1.heap b = s.heap b := stop_heap_ne hb
      refine (Function.update_of_ne hb ..).trans (Eq.trans ?_ hstop)
      unfold pdWatcherCleanup
      cases (pdWatcherStop ops s a).1.heap a with
      | none => rfl
      | some w' => exact World.setWatcher_heap_ne _ _ hb

/-- The destroyed watcher is gone. -/
theorem destroy_heap_self : (pdWatcherDestroy ops s a).heap a = none := by
  unfold pdWatcherDestroy
  cases hw : s.heap a with
  | none => exact hw
  | some w => exact Function.update_self ..

theorem Listed.of_same (h : Listed s) (hsame : SameWatchers s s') : Listed s' := by
  refine ⟨hsame.loop_eq ▸ h.nodup, fun b => ?_, fun b hb => ?_⟩
  · rw [hsame.loop_eq, hsame.live_eq]
    exact h.mem_occupied b
  · rw [hsame.live_eq] at hb
    exact h.ne_null b hb

/-- What `pd_watcher_destroy` does to a live watcher, whatever the backend: it is
freed and taken off the list, and nothing else on the list or the heap changes. -/
theorem destroy_spec (ops : PlatformOps κ δ ω) (h : Listed s) (hw : (s.heap a).isSome) :
    (pdWatcherDestroy ops s a).loop.occupied = s.loop.occupied.erase a ∧
    (pdWatcherDestroy ops s a).loop.refCount = s.loop.refCount ∧
    ∀ b, ((pdWatcherDestroy ops s a).heap b).isSome ↔ b ≠ a ∧ (s.heap b).isSome := by
  have hsame : SameWatchers s (pdWatcherStop ops s a).1 := sameWatchers_stop
  have hw' : ((pdWatcherStop ops s a).1.heap a).isSome := (hsame.live_eq a).trans hw
  obtain ⟨w', hw'⟩ := Option.isSome_iff_exists.1 hw'
  obtain ⟨w, hw₀⟩ := Option.isSome_iff_exists.1 hw
  rw [pdWatcherDestroy, hw₀]
  dsimp only
  rw [cleanup_of_some hw' rfl]
  refine ⟨?_, ?_, fun b => ?_⟩
  · exact (PdLoop.occupied_remove (h.ne_null a hw)).trans (by rw [hsame.loop_eq])
  · exact (PdLoop.refCount_remove _ _).trans (by rw [hsame.loop_eq])
  · rw [← hsame.live_eq b]
    rcases eq_or_ne b a with rfl | hb
    · simp [World.free]
    · simp [World.free, World.setWatcher, hb]

theorem Listed.destroy (ops : PlatformOps κ δ ω) (h : Listed s) (hw : (s.heap a).isSome) :
    Listed (pdWatcherDestroy ops s a) := by
  obtain ⟨hocc, -, hheap⟩ := destroy_spec ops h hw
  refine ⟨hocc ▸ h.nodup.erase a, fun b => ?_, fun b hb => ?_⟩
  · rw [hocc, h.nodup.mem_erase_iff, h.mem_occupied, hheap]
  · exact h.ne_null b ((hheap b).1 hb).2

/-- A creation leaves heap and list alone, or adds the watcher to both. -/
def Creates (s : World κ δ) (r : World κ δ × Option Addr) : Prop :=
  (r.2 = none ∧ ∃ sys, r.1 = s.setSys sys) ∨
  ∃ a w sys grow, s.heap a = none ∧ a ≠ NULL ∧ w.active = true ∧
    (pdLoopAddWatcher s.loop a grow).2 = .ok ∧
    r = (((s.setSys sys).setLoop (pdLoopAddWatcher s.loop a grow).1).setWatcher a w, some a)

theorem creates_enlist {w : PdWatcher δ} {sys : κ} {grow : Bool} (hw : s.heap a = none)
    (ha : a ≠ NULL) (hact : w.active = true) :
    Creates s (if (pdWatcherEnlist ops (s.setSys sys) a w grow).code ≠ .ok then
      ((pdWatcherEnlist ops (s.setSys sys) a w grow).world, none)
      else ((pdWatcherEnlist ops (s.setSys sys) a w grow).world.setWatcher a
        (pdWatcherEnlist ops (s.setSys sys) a w grow).watcher, some a)) := by
  by_cases hadd : (pdLoopAddWatcher s.loop a grow).2 = .ok
  · refine Or.inr ⟨a, w, sys, grow, hw, ha, hact, hadd, ?_⟩
    simp [pdWatcherEnlist, hadd]
  · refine Or.inl ?_
    have hl : (pdLoopAddWatcher s.loop a grow).1 = s.loop := PdLoop.add_of_ne_ok hadd
    simp only [pdWatcherEnlist, World.setSys_loop, ne_eq, hadd, not_false_eq_true, if_true, hl]
    exact ⟨trivial, _, rfl⟩

theorem creates_create {fd : ℤ} {events : PdEvent} {callback : Option Callback} {userData : Addr}
    {env : CallEnv ω} : Creates s (pdWatcherCreate ops s fd events callback userData env) := by
  unfold pdWatcherCreate
  cases hc : s.calloc env.calloc with
  | none => exact Or.inl ⟨rfl, s.sys, rfl⟩
  | some a =>
      obtain ⟨-, ha, hw⟩ := World.calloc_eq_some.1 hc
      dsimp only [pdWatcherInit]
      by_cases hreg : (ops.watcherRegister s.sys a
          (newWatcher fd events callback userData) env.backend).code = .ok
      · simp only [hreg, ne_eq, not_true_eq_false, if_false]
        exact creates_enlist hw ha rfl
      · simp only [hreg, ne_eq, not_false_eq_true, if_true]
        exact Or.inl ⟨rfl, _, rfl⟩

theorem creates_createForHandle {handle : Handle} {events : PdEvent}
    {callback : Option Callback} {userData : Addr} {env : CallEnv ω} :
    Creates s (pdWatcherCreateForHandle ops s handle events callback userData env) := by
  unfold pdWatcherCreateForHandle
  cases hc : s.calloc env.calloc with
  | none => exact Or.inl ⟨rfl, s.sys, rfl⟩
  | some a =>
      obtain ⟨-, ha, hw⟩ := World.calloc_eq_some.1 hc
      dsimp only
      split
      · exact Or.inl ⟨rfl, _, rfl⟩
      · exact creates_enlist hw ha rfl

theorem Listed.creates {r : World κ δ × Option Addr} (h : Listed s) (hr : Creates s r) :
    Listed r.1 := by
  rcases hr with ⟨-, sys, heq⟩ | ⟨a, w, sys, grow, hw, ha, -, hadd, rfl⟩
  · rw [heq]
    exact ⟨h.nodup, h.mem_occupied, h.ne_null⟩
  · have hocc := PdLoop.occupied_add hadd
    have hnot : a ∉ s.loop.occupied := by
      rw [h.mem_occupied, hw]
      simp
    refine ⟨?_, fun b => ?_, fun b hb => ?_⟩
    · rw [World.setWatcher_loop, World.setLoop_loop, hocc]
      exact List.concat_eq_append ▸ h.nodup.concat hnot
    · rw [World.setWatcher_loop, World.setLoop_loop, hocc, List.mem_append, List.mem_singleton,
        h.mem_occupied]
      rcases eq_or_ne b a with rfl | hb
      · simp
      · simp [World.setWatcher, hb]
    · rcases eq_or_ne b a with rfl | hne
      · exact ha
      · rw [World.setWatcher_heap_ne _ _ hne] at hb
        exact h.ne_null b hb

/-- What any call preserves. -/
theorem Listed.exec (h : Listed s) (c : Call ω) : Listed (s.exec ops c).1 := by
  cases c with
  | create fd events callback userData env => exact h.creates creates_create
  | createForHandle handle events callback userData env => exact h.creates creates_createForHandle
  | update a events env => exact h.of_same sameWatchers_update
  | stop a => exact h.of_same sameWatchers_stop
  | start a env => exact h.of_same sameWatchers_start
  | destroy a =>
      cases hw : s.heap a with
      | none =>
          rw [World.exec, pdWatcherDestroy, hw]
          exact h
      | some w => exact h.destroy ops (by rw [hw]; rfl)

theorem Creates.refCount {r : World κ δ × Option Addr} (h : Creates s r) :
    r.1.loop.refCount = s.loop.refCount := by
  rcases h with ⟨-, sys, heq⟩ | ⟨a, w, sys, grow, -, -, -, -, rfl⟩
  · rw [heq]
    rfl
  · exact PdLoop.refCount_add ..

/-- No call on a watcher changes the reference count of the loop. -/
theorem World.exec_refCount (ops : PlatformOps κ δ ω) (s : World κ δ) (c : Call ω) :
    (s.exec ops c).1.loop.refCount = s.loop.refCount := by
  cases c with
  | create fd events callback userData env => exact Creates.refCount creates_create
  | createForHandle handle events callback userData env =>
      exact Creates.refCount creates_createForHandle
  | update a events env => exact congrArg PdLoop.refCount sameWatchers_update.loop_eq
  | stop a => exact congrArg PdLoop.refCount sameWatchers_stop.loop_eq
  | start a env => exact congrArg PdLoop.refCount sameWatchers_start.loop_eq
  | destroy a =>
      have hstop : (pdWatcherStop ops s a).1.loop = s.loop := sameWatchers_stop.loop_eq
      rw [World.exec, pdWatcherDestroy]
      cases s.heap a with
      | none => rfl
      | some w =>
          refine Eq.trans ?_ (congrArg PdLoop.refCount hstop)
          change (pdWatcherCleanup ops (pdWatcherStop ops s a).1 a).loop.refCount = _
          unfold pdWatcherCleanup
          cases (pdWatcherStop ops s a).1.heap a with
          | none => rfl
          | some w' => exact PdLoop.refCount_remove ..

end Calls

/-! ### What a call does to the backend -/

section Backend

variable {ops : PlatformOps κ δ ω} {s : World κ δ}

/-- The call asks the backend to register the watcher at `a`, if it gets that far. -/
def Call.Registers (s : World κ δ) : Call ω → Addr → ω → Prop
  | .create _ _ _ _ env, a, e => s.calloc env.calloc = some a ∧ e = env.backend
  | .createForHandle _ _ _ _ env, a, e => s.calloc env.calloc = some a ∧ e = env.backend
  | .start w env, a, e => a = w ∧ (s.heap w).isSome ∧ e = env
  | _, _, _ => False

/-- A property of the backend's state survives a call if unregistering keeps it and the
registration or update that the call asks for establishes it. -/
theorem World.exec_sys {P : κ → Prop} (c : Call ω) (h : P s.sys)
    (hunreg : ∀ k a w, P k → P (ops.watcherUnregister k a w).sys)
    (hreg : ∀ a w e, c.Registers s a e → P (ops.watcherRegister s.sys a w e).sys)
    (hregh : ∀ a w e, c.Registers s a e → P (ops.watcherRegisterHandle s.sys a w e).sys)
    (hupd : ∀ a w events e, c = .update a events e → s.heap a = some w →
      P (ops.watcherUpdate s.sys a { w with events } events e).sys) :
    P (s.exec ops c).1.sys := by
  have hstop : ∀ a, P (pdWatcherStop ops s a).1.sys := by
    intro a
    unfold pdWatcherStop
    cases s.heap a with
    | none => exact h
    | some w =>
        dsimp only
        split_ifs
        · exact h
        · exact hunreg _ _ _ h
        · exact hunreg _ _ _ h
  have henlist : ∀ (k : κ) (a : Addr) (w : PdWatcher δ) (grow : Bool), P k →
      P (pdWatcherEnlist ops (s.setSys k) a w grow).world.sys := by
    intro k a w grow hk
    unfold pdWatcherEnlist
    dsimp only
    split_ifs
    · exact hunreg _ _ _ hk
    · exact hk
  cases c with
  | create fd events callback userData env =>
      rw [World.exec, pdWatcherCreate]
      cases hc : s.calloc env.calloc with
      | none => exact h
      | some a =>
          have hr := hreg a (newWatcher fd events callback userData) env.backend ⟨hc, rfl⟩
          dsimp only [pdWatcherInit]
          by_cases hok : (ops.watcherRegister s.sys a
              (newWatcher fd events callback userData) env.backend).code = .ok
          · simp only [hok, ne_eq, not_true_eq_false, if_false]
            split_ifs
            · exact henlist _ _ _ _ hr
            · exact henlist _ _ _ _ hr
          · simp only [hok, ne_eq, not_false_eq_true, if_true]
            exact hr
  | createForHandle handle events callback userData env =>
      rw [World.exec, pdWatcherCreateForHandle]
      cases hc : s.calloc env.calloc with
      | none => exact h
      | some a =>
          have hr := fun w => hregh a w env.backend ⟨hc, rfl⟩
          dsimp only
          split_ifs
          · exact hr _
          · exact henlist _ _ _ _ (hr _)
          · exact henlist _ _ _ _ (hr _)
  | update a events env =>
      rw [World.exec, pdWatcherUpdate]
      cases hw : s.heap a with
      | none => exact h
      | some w =>
          dsimp only
          split_ifs
          · exact h
          · exact hupd a w events env rfl hw
  | stop a => exact hstop a
  | start a env =>
      rw [World.exec, pdWatcherStart]
      cases hw : s.heap a with
      | none => exact h
      | some w =>
          have hr := fun w => hreg a w env ⟨rfl, by rw [hw]; rfl, rfl⟩
          dsimp only
          split_ifs
          · exact h
          · exact hr _
          · exact hr _
  | destroy a =>
      rw [World.exec, pdWatcherDestroy]
      cases hw : s.heap a with
      | none => exact h
      | some w =>
          have hs := hstop a
          dsimp only [World.free]
          unfold pdWatcherCleanup
          cases (pdWatcherStop ops s a).1.heap a with
          | none => exact hs
          | some w' => exact hunreg _ _ _ hs

/-- The backend functions keep a property of the backend's state. -/
structure PlatformOps.Keeps (ops : PlatformOps κ δ ω) (P : κ → Prop) : Prop where
  register : ∀ k a w env, P k → P (ops.watcherRegister k a w env).sys
  registerHandle : ∀ k a w env, P k → P (ops.watcherRegisterHandle k a w env).sys
  update : ∀ k a w events env, P k → P (ops.watcherUpdate k a w events env).sys
  unregister : ∀ k a w, P k → P (ops.watcherUnregister k a w).sys

/-- What the backend functions keep, every call keeps. -/
theorem World.exec_keeps {P : κ → Prop} (hops : ops.Keeps P) (c : Call ω) (h : P s.sys) :
    P (s.exec ops c).1.sys :=
  World.exec_sys c h hops.unregister (fun a w e _ => hops.register _ a w e h)
    (fun a w e _ => hops.registerHandle _ a w e h) fun a _ events e _ _ =>
      hops.update _ a _ events e h

theorem stop_destroyed (ops : PlatformOps κ δ ω) (s : World κ δ) (a : Addr) :
    (pdWatcherStop ops s a).1.destroyed = s.destroyed := by
  unfold pdWatcherStop
  cases s.heap a with
  | none => rfl
  | some w =>
      dsimp only
      split_ifs <;> rfl

/-- Only `pd_watcher_destroy` frees a watcher, and only the one it is called on. -/
theorem World.exec_destroyed (ops : PlatformOps κ δ ω) (s : World κ δ) (c : Call ω) :
    (s.exec ops c).1.destroyed = s.destroyed ∨
      ∃ a, c = .destroy a ∧ (s.exec ops c).1.destroyed = a :: s.destroyed := by
  cases c with
  | create fd events callback userData env =>
      have hcr : Creates s (pdWatcherCreate ops s fd events callback userData env) := creates_create
      rcases hcr with ⟨-, sys, heq⟩ | ⟨a, w, sys, grow, -, -, -, -, heq⟩ <;>
        exact Or.inl (by rw [World.exec, heq]; rfl)
  | createForHandle handle events callback userData env =>
      have hcr : Creates s (pdWatcherCreateForHandle ops s handle events callback userData env) :=
        creates_createForHandle
      rcases hcr with ⟨-, sys, heq⟩ | ⟨a, w, sys, grow, -, -, -, -, heq⟩ <;>
        exact Or.inl (by rw [World.exec, heq]; rfl)
  | update a events env =>
      refine Or.inl ?_
      rw [World.exec, pdWatcherUpdate]
      cases s.heap a with
      | none => rfl
      | some w =>
          dsimp only
          split_ifs <;> rfl
  | stop a => exact Or.inl (stop_destroyed ops s a)
  | start a env =>
      refine Or.inl ?_
      rw [World.exec, pdWatcherStart]
      cases s.heap a with
      | none => rfl
      | some w =>
          dsimp only
          split_ifs <;> rfl
  | destroy a =>
      rw [World.exec, pdWatcherDestroy]
      cases s.heap a with
      | none => exact Or.inl rfl
      | some w =>
          refine Or.inr ⟨a, rfl, congrArg (a :: ·) (Eq.trans ?_ (stop_destroyed ops s a))⟩
          unfold pdWatcherCleanup
          cases (pdWatcherStop ops s a).1.heap a with
          | none => rfl
          | some w' => rfl

/-- The address at which the call wants to allocate a watcher. -/
def Call.callocs : Call ω → Option Addr
  | .create _ _ _ _ env => env.calloc
  | .createForHandle _ _ _ _ env => env.calloc
  | _ => none

theorem create_at {fd : ℤ} {events : PdEvent} {callback : Option Callback} {userData a : Addr}
    {env : CallEnv ω} (h : (pdWatcherCreate ops s fd events callback userData env).2 = some a) :
    env.calloc = some a := by
  unfold pdWatcherCreate at h
  cases hc : s.calloc env.calloc with
  | none =>
      rw [hc] at h
      exact nomatch h
  | some b =>
      rw [hc] at h
      dsimp only at h
      split_ifs at h
      obtain rfl := Option.some.inj h
      exact (World.calloc_eq_some.1 hc).1

theorem createForHandle_at {handle : Handle} {events : PdEvent} {callback : Option Callback}
    {userData a : Addr} {env : CallEnv ω}
    (h : (pdWatcherCreateForHandle ops s handle events callback userData env).2 = some a) :
    env.calloc = some a := by
  unfold pdWatcherCreateForHandle at h
  cases hc : s.calloc env.calloc with
  | none =>
      rw [hc] at h
      exact nomatch h
  | some b =>
      rw [hc] at h
      dsimp only at h
      split_ifs at h
      obtain rfl := Option.some.inj h
      exact (World.calloc_eq_some.1 hc).1

/-- A creation makes at most the watcher live whose handle it returns. -/
theorem Creates.live {r : World κ δ × Option Addr} {b : Addr} (h : Creates s r)
    (hb : (r.1.heap b).isSome) : (s.heap b).isSome ∨ r.2 = some b := by
  rcases h with ⟨-, sys, heq⟩ | ⟨a, w, sys, grow, -, -, -, -, rfl⟩
  · rw [heq] at hb
    exact Or.inl hb
  · rcases eq_or_ne b a with rfl | hne
    · exact Or.inr rfl
    · rw [World.setWatcher_heap_ne _ _ hne] at hb
      exact Or.inl hb

/-- A call leaves every watcher alone that it is not made on. -/
theorem World.exec_heap_ne {c : Call ω} {b : Addr} {x : PdWatcher δ} (hx : s.heap b = some x)
    (hb : c.target ≠ some b) : (s.exec ops c).1.heap b = some x := by
  have hcreates : ∀ r : World κ δ × Option Addr, Creates s r → r.1.heap b = some x := by
    rintro ⟨s', o⟩ (⟨-, sys, heq⟩ | ⟨a, w, sys, grow, ha, -, -, -, heq⟩)
    · rw [heq]
      exact hx
    · have hne : b ≠ a := by
        rintro rfl
        rw [ha] at hx
        cases hx
      rw [heq]
      exact (World.setWatcher_heap_ne _ _ hne).trans hx
  have hne : ∀ a, c.target = some a → b ≠ a := by
    rintro a ha rfl
    exact hb ha
  cases c with
  | create fd events callback userData env => exact hcreates _ creates_create
  | createForHandle handle events callback userData env =>
      exact hcreates _ creates_createForHandle
  | update a events env => exact (update_heap_ne (hne a rfl)).trans hx
  | stop a => exact (stop_heap_ne (hne a rfl)).trans hx
  | start a env => exact (start_heap_ne (hne a rfl)).trans hx
  | destroy a => exact (destroy_heap_ne (hne a rfl)).trans hx

/-- A watcher that is live after a call was live before and not destroyed by it, or is
new. -/
theorem World.live_of_exec {c : Call ω} {b : Addr} (hb : ((s.exec ops c).1.heap b).isSome) :
    ((s.heap b).isSome ∧ c ≠ .destroy b) ∨ c.callocs = some b := by
  have hsame : ∀ s', SameWatchers s s' → (s'.heap b).isSome → (s.heap b).isSome :=
    fun s' hs hl => (hs.live_eq b).symm.trans hl
  cases c with
  | create fd events callback userData env =>
      rcases Creates.live creates_create hb with hl | hl
      · exact Or.inl ⟨hl, nofun⟩
      · exact Or.inr (create_at hl)
  | createForHandle handle events callback userData env =>
      rcases Creates.live creates_createForHandle hb with hl | hl
      · exact Or.inl ⟨hl, nofun⟩
      · exact Or.inr (createForHandle_at hl)
  | update a events env => exact Or.inl ⟨hsame _ sameWatchers_update hb, nofun⟩
  | stop a => exact Or.inl ⟨hsame _ sameWatchers_stop hb, nofun⟩
  | start a env => exact Or.inl ⟨hsame _ sameWatchers_start hb, nofun⟩
  | destroy a =>
      refine Or.inl ?_
      rcases eq_or_ne b a with rfl | hne
      · rw [World.exec, destroy_heap_self] at hb
        simp at hb
      · refine ⟨?_, fun h => hne (by cases h; rfl)⟩
        rw [World.exec, destroy_heap_ne hne] at hb
        exact hb

/-- The structure that a creation fills in. -/
def Call.structure : Call ω → Option (PdWatcher δ)
  | .create fd events callback userData _ => some (newWatcher fd events callback userData)
  | .createForHandle handle events callback userData _ =>
      some (newHandleWatcher handle events callback userData)
  | _ => none

/-- Can the watcher list grow for the watcher that the call creates? -/
def Call.growList : Call ω → Bool
  | .create _ _ _ _ env => env.growList
  | .createForHandle _ _ _ _ env => env.growList
  | _ => false

/-- The backend function that a creation calls. -/
def Call.register (ops : PlatformOps κ δ ω) : Call ω → κ → Addr → PdWatcher δ → ω → OpResult κ δ
  | .createForHandle .. => ops.watcherRegisterHandle
  | _ => ops.watcherRegister

/-- The call ends before it reaches the backend: no memory for a watcher, no live watcher,
or one that is stopped or started already. -/
def Call.Skips (s : World κ δ) : Call ω → Prop
  | .create _ _ _ _ env => s.calloc env.calloc = none
  | .createForHandle _ _ _ _ env => s.calloc env.calloc = none
  | .update a _ _ => ∀ w, s.heap a = some w → w.active = false
  | .stop a => ∀ w, s.heap a = some w → w.active = false
  | .start a _ => ∀ w, s.heap a = some w → w.active = true
  | .destroy a => s.heap a = none

/-- The invariant rule for `pd_watcher_stop`. -/
theorem World.stop_invariant {P : World κ δ → Prop} {a : Addr}
    (hskip : (∀ w, s.heap a = some w → w.active = false) → P s)
    (hstop : ∀ w r, s.heap a = some w → w.active = true →
      ops.watcherUnregister s.sys a { w with active := false } = r →
      P ((s.setWatcher a { w with active := r.code != .ok, platformData := r.platformData }).setSys
        r.sys)) : P (pdWatcherStop ops s a).1 := by
  cases hw : s.heap a with
  | none =>
      rw [pdWatcherStop, hw]
      exact hskip fun w hx => absurd (hx.symm.trans hw) (Option.some_ne_none w)
  | some w =>
      cases hact : w.active with
      | false =>
          rw [stop_of_inactive hw hact]
          refine hskip fun x hx => ?_
          obtain rfl := Option.some.inj (hw.symm.trans hx)
          exact hact
      | true =>
          have hkept := hstop w _ hw hact rfl
          by_cases hok : (ops.watcherUnregister s.sys a { w with active := false }).code = .ok
          · rw [stop_of_ok hw hact rfl hok]
            simpa [hok] using hkept
          · rw [stop_of_ne_ok hw hact rfl hok]
            rwa [bne_iff_ne.2 hok] at hkept

/-- **The invariant rule for calls.**  A property holds after a call if it holds where the
call does nothing, and after what the backend functions answer: for a new watcher, which
is entered only if it is registered and the list can take it; for a restarted, an updated
and a stopped one; and for one that is stopped, cleaned up and freed. -/
theorem World.exec_invariant {P : World κ δ → Prop} (c : Call ω) (hskip : c.Skips s → P s)
    (hrefused : ∀ a w env r, c.Registers s a env → c.structure = some w → s.heap a = none →
      a ≠ NULL → c.register ops s.sys a w env = r → r.code ≠ .ok → P (s.setSys r.sys))
    (hunlisted : ∀ a w env r u, c.Registers s a env → c.structure = some w → s.heap a = none →
      a ≠ NULL → c.register ops s.sys a w env = r → r.code = .ok → (s.exec ops c).2 = .handle none →
      (pdLoopAddWatcher s.loop a c.growList).2 ≠ .ok →
      ops.watcherUnregister r.sys a { w with platformData := r.platformData } = u →
      P (s.setSys u.sys))
    (hnew : ∀ a w env r loop, c.Registers s a env → c.structure = some w → s.heap a = none →
      a ≠ NULL → c.register ops s.sys a w env = r → r.code = .ok →
      (s.exec ops c).2 = .handle (some a) →
      P (((s.setSys r.sys).setLoop loop).setWatcher a { w with platformData := r.platformData }))
    (hstart : ∀ a w env r, c = .start a env → s.heap a = some w → w.active = false →
      ops.watcherRegister s.sys a { w with active := true } env = r →
      P ((s.setWatcher a { w with active := r.code == .ok, platformData := r.platformData }).setSys
        r.sys))
    (hupdate : ∀ a w events env r, c = .update a events env → s.heap a = some w →
      w.active = true → ops.watcherUpdate s.sys a { w with events } events env = r →
      P ((s.setWatcher a { w with events, platformData := r.platformData }).setSys r.sys))
    (hstop : ∀ a w r, c = .stop a → s.heap a = some w → w.active = true →
      ops.watcherUnregister s.sys a { w with active := false } = r →
      P ((s.setWatcher a { w with active := r.code != .ok, platformData := r.platformData }).setSys
        r.sys))
    (hdestroy : ∀ a w, c = .destroy a → s.heap a = some w →
      P ((pdWatcherCleanup ops (pdWatcherStop ops s a).1 a).free a)) :
    P (s.exec ops c).1 := by
  cases c with
  | create fd events callback userData env =>
      cases hc : s.calloc env.calloc with
      | none =>
          rw [World.exec, create_of_calloc_none hc]
          exact hskip hc
      | some a =>
          obtain ⟨-, hnull, ha⟩ := World.calloc_eq_some.1 hc
          have hreg : (Call.create fd events callback userData env).Registers s a env.backend :=
            ⟨hc, rfl⟩
          by_cases hok : (ops.watcherRegister s.sys a
              (newWatcher fd events callback userData) env.backend).code = .ok
          · by_cases hadd : (pdLoopAddWatcher s.loop a env.growList).2 = .ok
            · have heq := create_of_ok hc rfl hok hadd
              rw [World.exec, heq]
              exact hnew a _ _ _ _ hreg rfl ha hnull rfl hok (by rw [World.exec, heq])
            · have heq := create_of_list_full hc rfl hok hadd rfl
              rw [World.exec, heq]
              exact hunlisted a _ _ _ _ hreg rfl ha hnull rfl hok (by rw [World.exec, heq]) hadd rfl
          · rw [World.exec, create_of_ne_ok hc rfl hok]
            exact hrefused a _ _ _ hreg rfl ha hnull rfl hok
  | createForHandle handle events callback userData env =>
      cases hc : s.calloc env.calloc with
      | none =>
          rw [World.exec, pdWatcherCreateForHandle, hc]
          exact hskip hc
      | some a =>
          obtain ⟨-, hnull, ha⟩ := World.calloc_eq_some.1 hc
          have hreg : (Call.createForHandle handle events callback userData env).Registers s a
            env.backend := ⟨hc, rfl⟩
          by_cases hok : (ops.watcherRegisterHandle s.sys a
              (newHandleWatcher handle events callback userData) env.backend).code = .ok
          · by_cases hadd : (pdLoopAddWatcher s.loop a env.growList).2 = .ok
            · have heq := createForHandle_of_ok hc rfl hok hadd
              rw [World.exec, heq]
              exact hnew a _ _ _ _ hreg rfl ha hnull rfl hok (by rw [World.exec, heq])
            · have heq := createForHandle_of_list_full hc rfl hok hadd rfl
              rw [World.exec, heq]
              exact hunlisted a _ _ _ _ hreg rfl ha hnull rfl hok (by rw [World.exec, heq]) hadd rfl
          · rw [World.exec, createForHandle_of_refused hc rfl hok]
            exact hrefused a _ _ _ hreg rfl ha hnull rfl hok
  | update a events env =>
      cases hw : s.heap a with
      | none =>
          rw [World.exec, pdWatcherUpdate, hw]
          exact hskip fun w hx => absurd (hx.symm.trans hw) (Option.some_ne_none w)
      | some w =>
          cases hact : w.active with
          | false =>
              rw [World.exec, update_of_inactive hw hact]
              refine hskip fun x hx => ?_
              obtain rfl := Option.some.inj (hw.symm.trans hx)
              exact hact
          | true =>
              rw [World.exec, update_of_active hw hact rfl]
              exact hupdate a w events env _ rfl hw hact rfl
  | stop a => exact World.stop_invariant hskip fun w r => hstop a w r rfl
  | start a env =>
      cases hw : s.heap a with
      | none =>
          rw [World.exec, pdWatcherStart, hw]
          exact hskip fun w hx => absurd (hx.symm.trans hw) (Option.some_ne_none w)
      | some w =>
          cases hact : w.active with
          | true =>
              rw [World.exec, start_of_active env hw hact]
              refine hskip fun x hx => ?_
              obtain rfl := Option.some.inj (hw.symm.trans hx)
              exact hact
          | false =>
              have hkept := hstart a w env _ rfl hw hact rfl
              by_cases hok : (ops.watcherRegister s.sys a { w with active := true } env).code = .ok
              · rw [World.exec, start_of_ok hw hact rfl hok]
                simpa [hok] using hkept
              · rw [World.exec, start_of_ne_ok hw hact rfl hok]
                rwa [beq_eq_false_iff_ne.2 hok] at hkept
  | destroy a =>
      rw [World.exec, pdWatcherDestroy]
      cases hw : s.heap a with
      | none => exact hskip hw
      | some w => exact hdestroy a w rfl hw

end Backend

/-- The runs of calls on a fresh loop over some backend state. -/
def calls (ops : PlatformOps κ δ ω) : Machine (World κ δ) (Call ω) :=
  Machine.ofFun (fun s => s.loop = .create ∧ ∀ a, s.heap a = none)
    fun s c => some (s.exec ops c).1

theorem listed_of_reachable {ops : PlatformOps κ δ ω} {s : World κ δ}
    (h : (calls ops).Reachable s) : Listed s := by
  refine h.invariant ?_ ?_
  · rintro s ⟨hl, hh⟩
    have hocc : s.loop.occupied = [] := by rw [hl]; rfl
    exact ⟨hocc ▸ .nil, fun a => by simp [hocc, hh], fun a ha => by simp [hh] at ha⟩
  · intro s c s' h _ hnext
    obtain rfl := Option.some.inj hnext
    exact h.exec c

end PollDancer
