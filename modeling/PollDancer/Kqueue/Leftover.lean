/-
# What a stopped watcher leaves on kqueue

`kqueue_watcher_unregister` deletes the filters that `watcher->events` asks for, and only if
the watcher has a record.  The filters that are there are those that the last registration
has added.  A watcher that has been updated to another mask, or whose record was evicted
while its descriptor stayed open, keeps filters after it was stopped; so does one whose
mask asks for `EVFILT_READ` first and has only `EVFILT_WRITE`, since `kevent` stops at the
deletion that fails.

In runs in which a watcher that is stopped or destroyed has no such filter, and no
registration is refused half way, every filter is that of an active watcher
(`Attended`): a watcher that has been stopped has none (`stopped_unfiltered`).
-/
import PollDancer.Kqueue.Refusal
import PollDancer.Kqueue.Update

namespace PollDancer
namespace Kqueue

open Library

/-- A watcher that is stopped, destroyed or was never there has no filter. -/
def Unfiltered (s : KqueueWorld) : Prop :=
  ∀ a, (∀ w, s.heap a = some w → w.active = false) → NoFilters s.sys.kernel a

/-- The unregistration of the watcher gets to all its filters. -/
def Deletable (s : KqueueWorld) (a : Addr) (w : PdWatcher KqueueWatcherData) : Prop :=
  ∀ f n, s.sys.kernel.knotes w.fd f = some n → n.udata = a →
    (∃ r ∈ s.sys.table, r.watcher = a) ∧ s.sys.kernel.reached w.fd w.events f = true

/-- The step leaves no filter behind: a watcher that is stopped or destroyed has no filter
that its unregistration misses, and no registration is refused half way. -/
def Tidy (s : KqueueWorld) : Action → Prop
  | .call (.stop a) => ∀ w, s.heap a = some w → w.active = true → Deletable s a w
  | .call (.destroy a) => ∀ w, s.heap a = some w → w.active = true → Deletable s a w
  | .call (.create fd events _ _ env) => (s.calloc env.calloc).isSome = true →
      env.backend.dataAlloc = true → s.sys.kernel.halfway fd events env.backend = false
  | .call (.start a env) => ∀ w, s.heap a = some w → w.active = false → env.dataAlloc = true →
      s.sys.kernel.halfway w.fd w.events env = false
  | _ => True

/-- Every filter is that of an active watcher, on its descriptor. -/
structure Attended (s : KqueueWorld) : Prop where
  attached : s.sys.data.isSome = true
  equipped : ∀ a w, s.heap a = some w → w.active = true → w.platformData.isSome = true
  closed : ∀ fd f, s.sys.kernel.isOpen fd = false → s.sys.kernel.knotes fd f = none
  owner : ∀ fd f n, s.sys.kernel.knotes fd f = some n →
    ∃ w, s.heap n.udata = some w ∧ w.active = true ∧ w.fd = fd

namespace Attended

variable {s s' : KqueueWorld} {a : Addr} {w : PdWatcher KqueueWatcherData}

/-- Without an active watcher at `a` there is no filter of it. -/
theorem noFilters (h : Attended s) (ha : ∀ w, s.heap a = some w → w.active = false) :
    NoFilters s.sys.kernel a := by
  rintro fd f n hn rfl
  obtain ⟨w, hw, hact, -⟩ := h.owner fd f n hn
  exact nomatch (ha w hw).symm.trans hact

theorem unfiltered (h : Attended s) : Unfiltered s := fun _ ha => h.noFilters ha

/-- A step that changes the watcher at `a` only: the filters of others stay or go, and those
of `a` are on its descriptor if there are any. -/
theorem change (h : Attended s) (hd : s'.sys.data.isSome = true)
    (hheap : ∀ b, b ≠ a → s'.heap b = s.heap b)
    (hequipped : ∀ w, s'.heap a = some w → w.active = true → w.platformData.isSome = true)
    (hclosed : ∀ fd f, s'.sys.kernel.isOpen fd = false → s'.sys.kernel.knotes fd f = none)
    (hothers : ∀ fd f n, s'.sys.kernel.knotes fd f = some n → n.udata ≠ a →
      s.sys.kernel.knotes fd f = some n)
    (hown : ∀ fd f n, s'.sys.kernel.knotes fd f = some n → n.udata = a →
      ∃ w, s'.heap a = some w ∧ w.active = true ∧ w.fd = fd) : Attended s' where
  attached := hd
  equipped := by
    intro b w hw hact
    rcases eq_or_ne b a with rfl | hne
    · exact hequipped w hw hact
    · exact h.equipped b w (by rwa [← hheap b hne]) hact
  closed := hclosed
  owner := by
    intro fd f n hn
    rcases eq_or_ne n.udata a with heq | hne
    · rw [heq]
      exact hown fd f n hn heq
    · rw [hheap _ hne]
      exact h.owner fd f n (hothers fd f n hn hne)

/-- A watcher whose unregistration gets to all its filters has none afterwards. -/
theorem unregister_noFilters (h : Attended s) (hw : s.heap a = some w) (hact : w.active = true)
    (hdel : Deletable s a w) :
    NoFilters (kqueueWatcherUnregister s.sys a { w with active := false }).sys.kernel a := by
  rintro fd f n hn rfl
  have hold := (unregister_subset s.sys n.udata { w with active := false }).2 fd f n hn
  obtain ⟨x, hx, -, rfl⟩ := h.owner fd f n hold
  obtain rfl := Option.some.inj (hw.symm.trans hx)
  obtain ⟨hrec, hreached⟩ := hdel f n hold rfl
  rw [unregister_disarms, if_pos ⟨h.equipped n.udata w hw hact, hrec⟩, Kernel.disarm_self,
    hreached] at hn
  exact nomatch hn

/-- `pd_watcher_stop` of a watcher whose filters can all be deleted. -/
theorem stop (h : Attended s) (hdel : ∀ w, s.heap a = some w → w.active = true → Deletable s a w) :
    Attended (pdWatcherStop kqueueOps s a).1 := by
  refine World.stop_invariant (fun _ => h) fun w r hw hact hr => ?_
  have hno := h.unregister_noFilters hw hact (hdel w hw hact)
  obtain ⟨hopen, hsub⟩ := unregister_subset s.sys a { w with active := false }
  obtain ⟨hd, -, -, hsome⟩ := unregister_cases h.attached hr
  obtain ⟨-, hok⟩ := hsome (h.equipped a w hw hact)
  subst hr
  refine h.change (a := a) hd (fun b hb => World.setWatcher_heap_ne _ _ hb) (fun x hx hxact => ?_)
    (fun fd f hclosed => ?_) (fun fd f n hn _ => hsub fd f n hn)
    fun fd f n hn hu => absurd hu (hno fd f n hn)
  · rw [World.setSys_heap, World.setWatcher_heap_self] at hx
    obtain rfl := Option.some.inj hx
    change (_ != PdError.ok) = true at hxact
    rw [hok] at hxact
    exact nomatch hxact
  · cases hn : (kqueueWatcherUnregister s.sys a { w with active := false }).sys.kernel.knotes fd f
      with
    | none => exact hn
    | some n =>
        have hclosed' : s.sys.kernel.isOpen fd = false := hopen ▸ hclosed
        exact nomatch (h.closed fd f hclosed').symm.trans (hsub fd f n hn)

/-- `pd_watcher_cleanup` and `free` of a watcher that has no filter. -/
theorem cleanup_free (h : Attended s) (ha : ∀ w, s.heap a = some w → w.active = false)
    (hw : s.heap a = some w) : Attended ((pdWatcherCleanup kqueueOps s a).free a) := by
  have hno := h.noFilters ha
  obtain ⟨hopen, hsub⟩ := unregister_subset s.sys a w
  obtain ⟨hd, -⟩ := unregister_cases (a := a) (w := w) h.attached rfl
  rw [cleanup_of_some hw rfl]
  refine h.change (a := a) hd (fun b hb => ?_) (fun x hx => ?_) (fun fd f hclosed => ?_)
    (fun fd f n hn _ => hsub fd f n hn) fun fd f n hn hu => absurd hu (hno fd f n (hsub fd f n hn))
  · exact (Function.update_of_ne hb ..).trans (World.setWatcher_heap_ne _ _ hb)
  · simp [World.free] at hx
  · cases hn : (kqueueWatcherUnregister s.sys a w).sys.kernel.knotes fd f with
    | none => exact hn
    | some n =>
        have hclosed' : s.sys.kernel.isOpen fd = false := hopen ▸ hclosed
        exact absurd ((hsub fd f n hn).symm.trans (h.closed fd f hclosed')) (Option.some_ne_none n)

/-- The descriptors without filters after a registration. -/
theorem closed_arm (h : Attended s) {fd : ℤ} {events : PdEvent} {env : KqueueEnv}
    (hrej : s.sys.kernel.rejects fd events env = false) (fd' : ℤ) (f : Filter)
    (hclosed : s.sys.kernel.isOpen fd' = false) :
    (s.sys.kernel.arm fd events a).knotes fd' f = none := by
  rcases eq_or_ne fd' fd with rfl | hne
  · rw [Kernel.arm_self, if_neg]
    · exact h.closed fd' f hclosed
    · intro hf
      exact nomatch hclosed.symm.trans (Kernel.isOpen_of_not_rejects hrej hf)
  · rw [Kernel.arm_ne _ _ _ hne]
    exact h.closed fd' f hclosed

/-- A watcher that has no filter is registered and becomes active. -/
theorem arm (h : Attended s) {x : PdWatcher KqueueWatcherData} {fd : ℤ} {events : PdEvent}
    {env : KqueueEnv} (hno : NoFilters s.sys.kernel a)
    (hrej : s.sys.kernel.rejects fd events env = false) (hd : s'.sys.data.isSome = true)
    (hk : s'.sys.kernel = s.sys.kernel.arm fd events a) (hx : s'.heap a = some x)
    (hact : x.active = true) (hfd : x.fd = fd) (hpd : x.platformData.isSome = true)
    (hheap : ∀ b, b ≠ a → s'.heap b = s.heap b) : Attended s' := by
  refine h.change hd hheap (fun y hy _ => ?_) (fun fd' f hclosed => ?_) (fun fd' f n hn hu => ?_)
    fun fd' f n hn hu => ⟨x, hx, hact, ?_⟩
  · obtain rfl := Option.some.inj (hx.symm.trans hy)
    exact hpd
  · rw [hk] at hclosed ⊢
    exact h.closed_arm hrej fd' f hclosed
  · rw [hk] at hn
    rcases eq_or_ne fd' fd with rfl | hne
    · rw [Kernel.arm_self] at hn
      split_ifs at hn
      · obtain rfl := Option.some.inj hn
        exact absurd rfl hu
      · exact hn
    · rwa [Kernel.arm_ne _ _ _ hne] at hn
  · rw [hk] at hn
    rcases eq_or_ne fd' fd with rfl | hne
    · exact hfd
    · rw [Kernel.arm_ne _ _ _ hne] at hn
      exact absurd hu (hno fd' f n hn)

/-- The filters of a registration are added and deleted again. -/
theorem undo (h : Attended s) {fd : ℤ} {events : PdEvent} {env : KqueueEnv}
    (hno : NoFilters s.sys.kernel a) (hrej : s.sys.kernel.rejects fd events env = false)
    (hd : s'.sys.data.isSome = true)
    (hk : s'.sys.kernel = (s.sys.kernel.arm fd events a).disarm fd events)
    (hheap : ∀ b, b ≠ a → s'.heap b = s.heap b)
    (hequipped : ∀ w, s'.heap a = some w → w.active = true → w.platformData.isSome = true) :
    Attended s' := by
  have hsub : ∀ fd' f n, s'.sys.kernel.knotes fd' f = some n →
      s.sys.kernel.knotes fd' f = some n := by
    intro fd' f n hn
    rw [hk] at hn
    rcases eq_or_ne fd' fd with rfl | hne
    · rw [Kernel.disarm_arm_self a hrej] at hn
      split_ifs at hn
      exact hn
    · rwa [Kernel.disarm_ne _ _ hne, Kernel.arm_ne _ _ _ hne] at hn
  refine h.change hd hheap hequipped (fun fd' f hclosed => ?_)
    (fun fd' f n hn _ => hsub fd' f n hn) fun fd' f n hn hu =>
      absurd hu (hno fd' f n (hsub fd' f n hn))
  rw [hk] at hclosed
  cases hn : s'.sys.kernel.knotes fd' f with
  | none => rfl
  | some n => exact nomatch (h.closed fd' f hclosed).symm.trans (hsub fd' f n hn)

/-- The kernel is as it was, and a watcher without filters may have changed. -/
theorem same (h : Attended s) (hno : NoFilters s.sys.kernel a) (hd : s'.sys.data.isSome = true)
    (hk : s'.sys.kernel = s.sys.kernel) (hheap : ∀ b, b ≠ a → s'.heap b = s.heap b)
    (hequipped : ∀ w, s'.heap a = some w → w.active = true → w.platformData.isSome = true) :
    Attended s' := by
  refine h.change hd hheap hequipped (fun fd f hclosed => ?_) (fun fd f n hn _ => ?_)
    fun fd f n hn hu => ?_
  · rw [hk] at hclosed ⊢
    exact h.closed fd f hclosed
  · rwa [← hk]
  · rw [hk] at hn
    exact absurd hu (hno fd f n hn)

/-- A registration that fails, and not half way. -/
theorem refused (h : Attended s) {x : PdWatcher KqueueWatcherData} {env : KqueueEnv}
    {r : OpResult KqueueSys KqueueWatcherData} (hno : NoFilters s.sys.kernel a)
    (htidy : env.dataAlloc = true → s.sys.kernel.halfway x.fd x.events env = false)
    (hr : kqueueWatcherRegister s.sys a x env = r) (hsys : s'.sys = r.sys) (hfail : r.code ≠ .ok)
    (hheap : ∀ b, b ≠ a → s'.heap b = s.heap b)
    (hequipped : ∀ w, s'.heap a = some w → w.active = true → w.platformData.isSome = true) :
    Attended s' := by
  have hd : s'.sys.data.isSome = true := by
    rw [hsys]
    exact (register_cases h.attached hr).1
  subst hr
  rcases registers s.sys a x env with
    ⟨-, -, hk, -⟩ | ⟨-, -, -, -, hk, -⟩ | ⟨hatt, -, hhalf, -⟩ | ⟨-, hrej, -, hk, -⟩ | ⟨-, -, hok, -⟩
  · exact h.same hno hd (by rw [hsys, hk]) hheap hequipped
  · exact h.same hno hd (by rw [hsys, hk]) hheap hequipped
  · exact nomatch (htidy hatt.2).symm.trans hhalf
  · exact h.undo hno hrej hd (by rw [hsys, hk]) hheap hequipped
  · exact absurd hok hfail

/-- A registration that succeeds. -/
theorem registered (h : Attended s) {x : PdWatcher KqueueWatcherData} {env : KqueueEnv}
    {r : OpResult KqueueSys KqueueWatcherData} (hno : NoFilters s.sys.kernel a)
    (hr : kqueueWatcherRegister s.sys a x env = r) (hok : r.code = .ok) (hsys : s'.sys = r.sys)
    (hact : x.active = true) (hx : s'.heap a = some { x with platformData := r.platformData })
    (hheap : ∀ b, b ≠ a → s'.heap b = s.heap b) : Attended s' := by
  obtain ⟨hd, -, hcases⟩ := register_cases h.attached hr
  obtain ⟨hpd, -⟩ := hcases hok
  subst hr
  rcases registers s.sys a x env with
    ⟨-, hne, -⟩ | ⟨-, -, -, hne, -⟩ | ⟨-, -, -, hne, -⟩ | ⟨-, -, hne, -⟩ | ⟨-, hrej, -, hk, -⟩
  · exact absurd hok hne
  · exact absurd hok hne
  · exact absurd hok hne
  · exact absurd hok hne
  · exact h.arm hno hrej (hsys ▸ hd) (by rw [hsys, hk]) hx hact rfl hpd hheap

/-- A registration that succeeds, and is undone because the watcher list is full. -/
theorem unlisted (h : Attended s) {x : PdWatcher KqueueWatcherData} {env : KqueueEnv}
    {r u : OpResult KqueueSys KqueueWatcherData} (hno : NoFilters s.sys.kernel a)
    (hr : kqueueWatcherRegister s.sys a x env = r) (hok : r.code = .ok)
    (hu : kqueueWatcherUnregister r.sys a { x with platformData := r.platformData } = u)
    (hsys : s'.sys = u.sys) (hheap : ∀ b, s'.heap b = s.heap b) (ha : s.heap a = none) :
    Attended s' := by
  obtain ⟨hd, -, hcases⟩ := register_cases h.attached hr
  obtain ⟨hpd, ht⟩ := hcases hok
  obtain ⟨hd', -⟩ := unregister_cases hd hu
  -- the record is there, and the unregistration deletes what was added
  have hrec : r.platformData.isSome = true ∧ ∃ y ∈ r.sys.table, y.watcher = a :=
    ⟨hpd, ⟨x.fd, a⟩, by rw [ht]; exact List.mem_append_right _ List.mem_cons_self, rfl⟩
  have hku : u.sys.kernel = r.sys.kernel.disarm x.fd x.events := by
    rw [← hu, unregister_disarms]
    exact if_pos hrec
  subst hr
  rcases registers s.sys a x env with
    ⟨-, hne, -⟩ | ⟨-, -, -, hne, -⟩ | ⟨-, -, -, hne, -⟩ | ⟨-, -, hne, -⟩ | ⟨-, hrej, -, hk, -⟩
  · exact absurd hok hne
  · exact absurd hok hne
  · exact absurd hok hne
  · exact absurd hok hne
  · exact h.undo hno hrej (hsys ▸ hd') (by rw [hsys, hku, hk]) (fun b _ => hheap b)
      fun y hy => nomatch (hheap a ▸ ha).symm.trans hy

/-- `pd_watcher_destroy` of a watcher whose filters can all be deleted. -/
theorem destroy (h : Attended s) (hw : s.heap a = some w)
    (hdel : ∀ w, s.heap a = some w → w.active = true → Deletable s a w) :
    Attended ((pdWatcherCleanup kqueueOps (pdWatcherStop kqueueOps s a).1 a).free a) := by
  have hstop := h.stop hdel
  have hlive : ((pdWatcherStop kqueueOps s a).1.heap a).isSome = true := by
    rw [sameWatchers_stop.live_eq, hw]
    rfl
  obtain ⟨x, hx⟩ := Option.isSome_iff_exists.1 hlive
  refine hstop.cleanup_free (fun y hy => ?_) hx
  -- it is inactive: the stop has succeeded, or it was before
  cases hact : w.active with
  | false =>
      rw [stop_of_inactive hw hact] at hy
      obtain rfl := Option.some.inj (hw.symm.trans hy)
      exact hact
  | true =>
      obtain ⟨-, -, -, hsome⟩ := unregister_cases (a := a) (w := { w with active := false })
        h.attached rfl
      obtain ⟨-, hok⟩ := hsome (h.equipped a w hw hact)
      rw [stop_of_ok hw hact rfl hok, World.setSys_heap, World.setWatcher_heap_self] at hy
      obtain rfl := Option.some.inj hy
      rfl

/-- What a tidy call preserves. -/
theorem exec (h : Attended s) (c : Call KqueueEnv) (htidy : Tidy s (.call c)) :
    Attended (s.exec kqueueOps c).1 := by
  refine exec_invariant (P := Attended) c (fun _ => h) (fun _ _ _ _ _ _ => h) ?_ ?_ ?_ ?_ ?_ ?_ ?_
  · rintro fd events callback userData env a w r rfl hc ha rfl hr hfail
    exact h.refused (x := newWatcher fd events callback userData)
      (h.noFilters fun x hx => nomatch ha.symm.trans hx) (htidy (by rw [hc]; rfl)) hr rfl hfail
      (fun _ _ => rfl) fun x hx => nomatch ha.symm.trans hx
  · rintro fd events callback userData env a w r u rfl - ha rfl hr hok - hu
    exact h.unlisted (h.noFilters fun x hx => nomatch ha.symm.trans hx) hr hok hu rfl
      (fun _ => rfl) ha
  · rintro fd events callback userData env a w r loop rfl - ha rfl hr hok -
    exact h.registered (h.noFilters fun x hx => nomatch ha.symm.trans hx) hr hok rfl rfl
      (World.setWatcher_heap_self ..) fun b hb => World.setWatcher_heap_ne _ _ hb
  · rintro a w env r rfl hw hact hr
    have hno := h.noFilters (a := a) fun x hx => by
      obtain rfl := Option.some.inj (hw.symm.trans hx)
      exact hact
    by_cases hok : r.code = .ok
    · rw [hok]
      exact h.registered hno hr hok rfl rfl (World.setWatcher_heap_self ..)
        fun b hb => World.setWatcher_heap_ne _ _ hb
    · refine h.refused (x := { w with active := true }) hno (htidy w hw hact) hr rfl hok
        (fun b hb => World.setWatcher_heap_ne _ _ hb) fun x hx hxact => ?_
      rw [World.setSys_heap, World.setWatcher_heap_self] at hx
      obtain rfl := Option.some.inj hx
      exact absurd (eq_of_beq hxact) hok
  · -- an update changes no filter
    rintro a w events env r rfl hw hact rfl
    obtain ⟨hsys, hpd, -⟩ := update_of_events a events env h.attached (h.equipped a w hw hact)
    refine ⟨?_, fun b x hx hxact => ?_, ?_, fun fd f n hn => ?_⟩
    · rw [World.setSys_sys, hsys]
      exact h.attached
    · rcases eq_or_ne b a with rfl | hne
      · rw [World.setSys_heap, World.setWatcher_heap_self] at hx
        obtain rfl := Option.some.inj hx
        exact hpd
      · rw [World.setSys_heap, World.setWatcher_heap_ne _ _ hne] at hx
        exact h.equipped b x hx hxact
    · rw [World.setSys_sys, hsys]
      exact h.closed
    · rw [World.setSys_sys, hsys] at hn
      obtain ⟨x, hx, hxact, hfd⟩ := h.owner fd f n hn
      rcases eq_or_ne n.udata a with heq | hne
      · rw [heq] at hx ⊢
        obtain rfl := Option.some.inj (hw.symm.trans hx)
        exact ⟨_, World.setWatcher_heap_self .., hxact, hfd⟩
      · exact ⟨x, (World.setWatcher_heap_ne _ _ hne).trans hx, hxact, hfd⟩
  · rintro a rfl
    exact h.stop htidy
  · rintro a w rfl hw
    exact h.destroy hw htidy

/-- What one tidy step preserves. -/
theorem perform (h : Attended s) (act : Action) (htidy : Tidy s act) :
    Attended (Kqueue.perform s act) := by
  cases act with
  | call c => exact h.exec c htidy
  | closeFd fd =>
      have hne : ∀ fd' f, fd' ≠ fd → (closeFd s fd).sys.kernel.knotes fd' f =
          s.sys.kernel.knotes fd' f := fun fd' f hfd => by
        exact congrFun (Function.update_of_ne hfd ..) f
      have hself : ∀ f, (closeFd s fd).sys.kernel.knotes fd f = none := fun f => by
        change Function.update s.sys.kernel.knotes fd (fun _ => none) fd f = none
        rw [Function.update_self]
      refine ⟨h.attached, h.equipped, fun fd' f hclosed => ?_, fun fd' f n hn => ?_⟩
      · rcases eq_or_ne fd' fd with rfl | hfd
        · exact hself f
        · have hclosed' : s.sys.kernel.isOpen fd' = false :=
            (Function.update_of_ne hfd ..).symm.trans hclosed
          rw [Kqueue.perform, hne fd' f hfd]
          exact h.closed fd' f hclosed'
      · rcases eq_or_ne fd' fd with rfl | hfd
        · exact nomatch (hself f).symm.trans hn
        · exact h.owner fd' f n ((hne fd' f hfd).symm.trans hn)
  | openFd fd =>
      refine ⟨h.attached, h.equipped, fun fd' f hclosed => ?_, h.owner⟩
      change Function.update s.sys.kernel.isOpen fd true fd' = false at hclosed
      rcases eq_or_ne fd' fd with rfl | hfd
      · rw [Function.update_self] at hclosed
        exact nomatch hclosed
      · rw [Function.update_of_ne hfd] at hclosed
        exact h.closed fd' f hclosed

theorem of_reach (hr : runs.Reach Tidy s) : Attended s := by
  refine hr.invariant ?_ ?_
  · rintro s ⟨isOpen, rfl⟩
    exact ⟨rfl, fun _ _ hw => (nomatch hw), fun _ _ _ => rfl, fun _ _ _ hn => (nomatch hn)⟩
  · intro s act s' h htidy hnext
    obtain rfl := Option.some.inj hnext
    exact h.perform act htidy

end Attended

/-- **A watcher that has been stopped or destroyed has no filter in the kernel queue**, in
every state that a run of tidy steps reaches. -/
theorem stopped_unfiltered {s : KqueueWorld} (hr : runs.Reach Tidy s) : Unfiltered s :=
  (Attended.of_reach hr).unfiltered

/-- `pd_watcher_create` on descriptor 5. -/
def createFive (events : PdEvent) : Action :=
  .call (.create 5 events none NULL ⟨some 100, true, answers⟩)

/-- A watcher for reads is updated to writes and stopped.  The deletion is of the filter for
writing, which is not there, and the filter for reading stays. -/
theorem not_stopped_unfiltered : ¬∀ s, runs.Reachable s → Unfiltered s := by
  intro hall
  obtain ⟨s, hrun, hw, hn⟩ : ∃ s, Machine.run (fun s act => some (perform s act)) fiveOpen
      [createFive .read, .call (.update 100 .write answers), .call (.stop 100)] = some s ∧
        (∀ w, s.heap 100 = some w → w.active = false) ∧
        s.sys.kernel.knotes 5 .read = some ⟨100, true, false⟩ :=
    ⟨_, rfl, fun w hw => Option.some.inj hw ▸ rfl, rfl⟩
  exact hall s (Machine.Reach.run fiveOpen_reachable hrun) 100 hw 5 .read _ hn rfl

/-- A watcher for reads and writes. -/
def createBoth : Action := createFive (.read ||| .write)

/-- The state of a loop with that watcher. -/
def readerWriter : KqueueWorld := perform fiveOpen createBoth

theorem readerWriter_deletable (w : PdWatcher KqueueWatcherData)
    (hw : readerWriter.heap 100 = some w) : Deletable readerWriter 100 w := by
  obtain rfl := Option.some.inj hw
  intro f n hn _
  refine ⟨⟨⟨5, 100⟩, List.mem_cons_self, rfl⟩, ?_⟩
  cases f with
  | read => rfl
  | write => rfl
  | timer => exact nomatch hn
  | user => exact nomatch hn

/-- A watcher for reads and writes is stopped with both its filters. -/
theorem readerWriter_unfiltered : ∃ s, runs.Reach Tidy s ∧
    s.heap 100 = some ⟨5, NULL, false, .read ||| .write, none, NULL, false, none⟩ ∧
      Unfiltered s := by
  have hinit : runs.Reach Tidy fiveOpen := .init ⟨_, rfl⟩
  have hcreate : runs.Reach Tidy readerWriter :=
    .step (a := createBoth) hinit (fun _ _ => rfl) rfl
  have hstop : runs.Reach Tidy (perform readerWriter (.call (.stop 100))) :=
    .step (a := .call (.stop 100)) hcreate (fun w hw _ => readerWriter_deletable w hw) rfl
  exact ⟨_, hstop, rfl, stopped_unfiltered hstop⟩

end Kqueue
end PollDancer
