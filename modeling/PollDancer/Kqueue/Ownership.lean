/-
# Who holds an ident on kqueue

`kqueue_watcher_unregister` searches the table by watcher and deletes by ident.  On
kqueue a watcher that is unregistered always gives up its record, whatever the kernel
says to the deletion, so the table names live watchers only, and the record of an ident
is that of the last watcher whose registration on it has succeeded: `Owned`.  Neither
recycled descriptors nor reused addresses break this.

Which registration was the last to succeed is no part of the state; it is recorded
beside it (`noteRegistration`).
-/
import PollDancer.Kqueue.Backend
import PollDancer.Lifecycle

namespace PollDancer
namespace Kqueue

open Library

/-- The registration records; none once the backend's data is freed. -/
def KqueueSys.table (k : KqueueSys) : List Registration :=
  match k.data with
  | none => []
  | some d => d.registrations

/-- The table without another watcher's record of the descriptor. -/
abbrev evicted (t : List Registration) (fd : ℤ) (a : Addr) : List Registration :=
  evictOther Registration.ident Registration.watcher fd a t

/-- The table without the watcher's record. -/
abbrev dropped (t : List Registration) (a : Addr) : List Registration :=
  dropOwner Registration.watcher a t

/-- A descriptor is closed, by any part of the process. -/
def closeFd (s : KqueueWorld) (fd : ℤ) : KqueueWorld :=
  s.setSys (s.sys.setKernel (s.sys.kernel.close fd))

/-- A descriptor number is handed out for a new file. -/
def openFd (s : KqueueWorld) (fd : ℤ) : KqueueWorld :=
  s.setSys (s.sys.setKernel (s.sys.kernel.openFd fd))

/-- What happens to a kqueue loop and its descriptors. -/
inductive Action
  | call (c : Call KqueueEnv)
  | closeFd (fd : ℤ)
  | openFd (fd : ℤ)
  deriving DecidableEq

/-- The state after an action. -/
def perform (s : KqueueWorld) : Action → KqueueWorld
  | .call c => (s.exec kqueueOps c).1
  | .closeFd fd => closeFd s fd
  | .openFd fd => openFd s fd

/-- As `pd_loop_create` leaves a loop. -/
def Created (s : KqueueWorld) : Prop := ∃ isOpen, s = kqueueLoopCreate isOpen

/-- The runs of a kqueue loop. -/
def runs : Machine KqueueWorld Action := Machine.ofFun Created fun s act => some (perform s act)

/-- For each descriptor the watcher whose registration on it was the last to succeed, as
long as that watcher is not destroyed. -/
abbrev Holders := ℤ → Option Addr

/-- What an action says about the holders.  A creation that fails after its registration
leaves no holder: its watcher is gone. -/
def noteRegistration (s : KqueueWorld) : Action → Holders → Holders
  | .call (.create fd events callback userData env), h =>
    match s.calloc env.calloc with
    | none => h
    | some a =>
      if (kqueueWatcherRegister s.sys a (newWatcher fd events callback userData)
          env.backend).code = .ok then
        Function.update h fd
          (pdWatcherCreate kqueueOps s fd events callback userData env).2
      else h
  | .call (.start a env), h =>
    match s.heap a with
    | none => h
    | some w =>
      if w.active = false ∧
          (kqueueWatcherRegister s.sys a { w with active := true } env).code = .ok then
        Function.update h w.fd (some a)
      else h
  | .call (.destroy a), h => fun fd => if h fd = some a then none else h fd
  | _, h => h

/-- The runs of a kqueue loop, with a record of the holders. -/
def holderRuns : Machine (KqueueWorld × Holders) Action :=
  Machine.recorded Created (fun s act => some (perform s act)) (fun _ => none) noteRegistration

/-- The changes that `kqueue_watcher_unregister` submits. -/
def unregisterChanges (k : KqueueSys) (a : Addr) (w : PdWatcher KqueueWatcherData) :
    List Change :=
  if w.platformData.isSome ∧ ∃ r ∈ k.table, r.watcher = a then
    (if w.events.has .read then [.delete w.fd .read] else []) ++
      (if w.events.has .write then [.delete w.fd .write] else [])
  else []

/-- The changes that `pd_watcher_stop` submits. -/
def stopChanges (s : KqueueWorld) (a : Addr) : List Change :=
  match s.heap a with
  | none => []
  | some w => if w.active then unregisterChanges s.sys a { w with active := false } else []

/-- The changes that `pd_watcher_cleanup` submits. -/
def cleanupChanges (s : KqueueWorld) (a : Addr) : List Change :=
  match s.heap a with
  | none => []
  | some w => unregisterChanges s.sys a w

/-- The changes that `pd_watcher_destroy` submits. -/
def destroyChanges (s : KqueueWorld) (a : Addr) : List Change :=
  stopChanges s a ++ cleanupChanges (pdWatcherStop kqueueOps s a).1 a

section Outcomes

variable {k : KqueueSys} {a : Addr} {w : PdWatcher KqueueWatcherData}
  {r : OpResult KqueueSys KqueueWatcherData}

/-- The search for the watcher's record finds one exactly if there is one. -/
theorem findIdx_eq_none {t : List Registration} :
    t.findIdx? (fun r => r.watcher == a) = none ↔ ¬∃ r ∈ t, r.watcher = a := by
  simp [List.findIdx?_eq_none_iff]

/-- `unregisterChanges` is what the kernel is asked to do. -/
theorem unregister_kernel (k : KqueueSys) (a : Addr) (w : PdWatcher KqueueWatcherData) :
    (kqueueWatcherUnregister k a w).sys.kernel =
      (k.kernel.kevent (fun _ => none) (unregisterChanges k a w)).1 := by
  unfold kqueueWatcherUnregister unregisterChanges KqueueSys.table
  cases k.data with
  | none => simp [Kernel.kevent]
  | some d =>
      cases w.platformData with
      | none => simp [Kernel.kevent]
      | some wd =>
          dsimp only
          cases hi : d.registrations.findIdx? (fun r => r.watcher == a) with
          | none =>
              have hno : ¬((some wd).isSome = true ∧ ∃ r ∈ d.registrations, r.watcher = a) :=
                fun hrec => findIdx_eq_none.1 hi hrec.2
              rw [if_neg hno]
              rfl
          | some i =>
              have hrec : (some wd).isSome = true ∧ ∃ r ∈ d.registrations, r.watcher = a := by
                refine ⟨rfl, ?_⟩
                by_contra hno
                exact nomatch hi.symm.trans (findIdx_eq_none.2 hno)
              rw [if_pos hrec]
              rfl

/-- `stopChanges` is what `pd_watcher_stop` asks of the kernel. -/
theorem stop_submits (s : KqueueWorld) (a : Addr) :
    (pdWatcherStop kqueueOps s a).1.sys.kernel =
      (s.sys.kernel.kevent (fun _ => none) (stopChanges s a)).1 := by
  unfold pdWatcherStop stopChanges
  cases s.heap a with
  | none => rfl
  | some w =>
      dsimp only
      cases w.active with
      | false => rfl
      | true =>
          have hkernel := unregister_kernel s.sys a { w with active := false }
          simp only [Bool.not_true, Bool.false_eq_true, if_false, if_true]
          split
          · exact hkernel
          · exact hkernel

/-- `cleanupChanges` is what `pd_watcher_cleanup` asks of the kernel. -/
theorem cleanup_submits (s : KqueueWorld) (a : Addr) :
    (pdWatcherCleanup kqueueOps s a).sys.kernel =
      (s.sys.kernel.kevent (fun _ => none) (cleanupChanges s a)).1 := by
  unfold pdWatcherCleanup cleanupChanges
  cases s.heap a with
  | none => rfl
  | some w => exact unregister_kernel s.sys a w

/-- `pd_watcher_destroy` makes both requests, that of the stop first. -/
theorem destroy_submits (s : KqueueWorld) (a : Addr) :
    (pdWatcherDestroy kqueueOps s a).sys.kernel =
      ((s.sys.kernel.kevent (fun _ => none) (stopChanges s a)).1.kevent (fun _ => none)
        (cleanupChanges (pdWatcherStop kqueueOps s a).1 a)).1 := by
  rw [← stop_submits, ← cleanup_submits]
  unfold pdWatcherDestroy
  cases hw : s.heap a with
  | none =>
      rw [show pdWatcherStop kqueueOps s a = (s, .invalidArg) by simp only [pdWatcherStop, hw]]
      simp only [pdWatcherCleanup, hw]
  | some w => rfl

/-- What a registration does to the records: nothing, an eviction, or an eviction and a
new record if it succeeds. -/
theorem register_cases {env : KqueueEnv} (hk : k.data.isSome = true)
    (hr : kqueueWatcherRegister k a w env = r) :
    r.sys.data.isSome = true ∧
    (r.code ≠ .ok → r.platformData = w.platformData ∧
      (r.sys.table = k.table ∨ r.sys.table = evicted k.table w.fd a)) ∧
    (r.code = .ok → r.platformData.isSome = true ∧
      r.sys.table = evicted k.table w.fd a ++ [⟨w.fd, a⟩]) := by
  obtain ⟨d, hd⟩ := Option.isSome_iff_exists.1 hk
  have ht : k.table = d.registrations := by rw [KqueueSys.table, hd]
  subst hr
  rw [ht]
  unfold kqueueWatcherRegister
  rw [hd]
  dsimp only
  cases env.dataAlloc with
  | false => exact ⟨hk, fun _ => ⟨rfl, Or.inl ht⟩, nofun⟩
  | true =>
      simp only [Bool.not_true, Bool.false_eq_true, if_false]
      split
      · exact ⟨rfl, fun _ => ⟨rfl, Or.inr rfl⟩, nofun⟩
      · split
        · split
          · exact ⟨rfl, fun hne => absurd rfl hne, fun _ => ⟨rfl, rfl⟩⟩
          · exact ⟨rfl, fun _ => ⟨rfl, Or.inr rfl⟩, nofun⟩
        · exact ⟨rfl, fun hne => absurd rfl hne, fun _ => ⟨rfl, rfl⟩⟩

/-- Unregistering a watcher that has platform data drops its record. -/
theorem unregister_cases (hk : k.data.isSome = true) (hr : kqueueWatcherUnregister k a w = r) :
    r.sys.data.isSome = true ∧ r.platformData = none ∧
    (w.platformData = none → r.sys.table = k.table ∧ r.code ≠ .ok) ∧
    (w.platformData.isSome = true → r.sys.table = dropped k.table a ∧ r.code = .ok) := by
  obtain ⟨d, hd⟩ := Option.isSome_iff_exists.1 hk
  have ht : k.table = d.registrations := by rw [KqueueSys.table, hd]
  subst hr
  rw [ht]
  unfold kqueueWatcherUnregister
  rw [hd]
  dsimp only
  cases w.platformData with
  | none => exact ⟨hk, rfl, fun _ => ⟨ht, nofun⟩, nofun⟩
  | some wd =>
      dsimp only
      cases hi : d.registrations.findIdx? (fun r => r.watcher == a) with
      | none =>
          refine ⟨hk, rfl, nofun, fun _ => ⟨ht.trans ?_, rfl⟩⟩
          refine (dropOwner_of_forall_ne fun y hy hya => ?_).symm
          exact findIdx_eq_none.1 hi ⟨y, hy, hya⟩
      | some i =>
          refine ⟨rfl, rfl, nofun, fun _ => ⟨?_, rfl⟩⟩
          show swapRemove d.registrations i = _
          rw [dropped, dropOwner, removeFirst, hi]

theorem update_cases {events : PdEvent} {env : KqueueEnv} (hk : k.data.isSome = true)
    (hr : kqueueWatcherUpdate k a w events env = r) :
    r.sys.data.isSome = true ∧ r.sys.table = k.table ∧
      r.platformData.isSome = w.platformData.isSome := by
  subst hr
  obtain ⟨d, hd⟩ := Option.isSome_iff_exists.1 hk
  unfold kqueueWatcherUpdate
  rw [hd]
  dsimp only
  cases w.platformData with
  | none => exact ⟨hk, rfl, rfl⟩
  | some wd =>
      dsimp only
      split
      · exact ⟨hk, rfl, rfl⟩
      · exact ⟨hk, rfl, rfl⟩

end Outcomes

/-- The invariant rule for the calls of a kqueue loop, where only `pd_watcher_create` and
`pd_watcher_start` register: `pd_watcher_create_for_handle` is refused without a change. -/
theorem exec_invariant {s : KqueueWorld} {P : KqueueWorld → Prop} (c : Call KqueueEnv)
    (hskip : c.Skips s → P s)
    (hhandle : ∀ handle events callback userData env,
      c = .createForHandle handle events callback userData env → P s)
    (hrefused : ∀ fd events callback userData env a w r,
      c = .create fd events callback userData env → s.calloc env.calloc = some a →
      s.heap a = none → w = newWatcher fd events callback userData →
      kqueueWatcherRegister s.sys a w env.backend = r → r.code ≠ .ok → P (s.setSys r.sys))
    (hunlisted : ∀ fd events callback userData env a w r u,
      c = .create fd events callback userData env → s.calloc env.calloc = some a →
      s.heap a = none → w = newWatcher fd events callback userData →
      kqueueWatcherRegister s.sys a w env.backend = r → r.code = .ok →
      (s.exec kqueueOps c).2 = .handle none →
      kqueueWatcherUnregister r.sys a { w with platformData := r.platformData } = u →
      P (s.setSys u.sys))
    (hnew : ∀ fd events callback userData env a w r loop,
      c = .create fd events callback userData env → s.calloc env.calloc = some a →
      s.heap a = none → w = newWatcher fd events callback userData →
      kqueueWatcherRegister s.sys a w env.backend = r → r.code = .ok →
      (s.exec kqueueOps c).2 = .handle (some a) →
      P (((s.setSys r.sys).setLoop loop).setWatcher a { w with platformData := r.platformData }))
    (hstart : ∀ a w env r, c = .start a env → s.heap a = some w → w.active = false →
      kqueueWatcherRegister s.sys a { w with active := true } env = r →
      P ((s.setWatcher a { w with active := r.code == .ok, platformData := r.platformData }).setSys
        r.sys))
    (hupdate : ∀ a w events env r, c = .update a events env → s.heap a = some w →
      w.active = true → kqueueWatcherUpdate s.sys a { w with events } events env = r →
      P ((s.setWatcher a { w with events, platformData := r.platformData }).setSys r.sys))
    (hstop : ∀ a, c = .stop a → P (pdWatcherStop kqueueOps s a).1)
    (hdestroy : ∀ a w, c = .destroy a → s.heap a = some w →
      P ((pdWatcherCleanup kqueueOps (pdWatcherStop kqueueOps s a).1 a).free a)) :
    P (s.exec kqueueOps c).1 := by
  refine World.exec_invariant (P := P) c hskip ?_ ?_ ?_ hstart hupdate ?_ hdestroy
  · intro a w env r hreg hw ha _ hr hfail
    cases c with
    | create fd events callback userData env' =>
        obtain rfl := Option.some.inj hw
        obtain ⟨hc, rfl⟩ := hreg
        exact hrefused fd events callback userData env' a _ r rfl hc ha rfl hr hfail
    | createForHandle handle events callback userData env' =>
        have hr' : (⟨s.sys, w.platformData, .notImplemented⟩ :
          OpResult KqueueSys KqueueWatcherData) = r := hr
        subst hr'
        exact hhandle handle events callback userData env' rfl
    | update => exact hreg.elim
    | stop => exact hreg.elim
    | start => exact nomatch hw
    | destroy => exact hreg.elim
  · intro a w env r u hreg hw ha _ hr hok hreply _ hu
    cases c with
    | create fd events callback userData env' =>
        obtain rfl := Option.some.inj hw
        obtain ⟨hc, rfl⟩ := hreg
        exact hunlisted fd events callback userData env' a _ r u rfl hc ha rfl hr hok
          hreply hu
    | createForHandle handle events callback userData env' =>
        have hr' : (⟨s.sys, w.platformData, .notImplemented⟩ :
          OpResult KqueueSys KqueueWatcherData) = r := hr
        subst hr'
        exact nomatch hok
    | update => exact hreg.elim
    | stop => exact hreg.elim
    | start => exact nomatch hw
    | destroy => exact hreg.elim
  · intro a w env r loop hreg hw ha _ hr hok hreply
    cases c with
    | create fd events callback userData env' =>
        obtain rfl := Option.some.inj hw
        obtain ⟨hc, rfl⟩ := hreg
        exact hnew fd events callback userData env' a _ r loop rfl hc ha rfl hr hok
          hreply
    | createForHandle handle events callback userData env' =>
        have hr' : (⟨s.sys, w.platformData, .notImplemented⟩ :
          OpResult KqueueSys KqueueWatcherData) = r := hr
        subst hr'
        exact nomatch hok
    | update => exact hreg.elim
    | stop => exact hreg.elim
    | start => exact nomatch hw
    | destroy => exact hreg.elim
  · intro a w r hc hw hact hr
    have hstopped := hstop a hc
    by_cases hok : r.code = .ok
    · rw [stop_of_ok hw hact hr hok] at hstopped
      simpa [hok] using hstopped
    · rw [stop_of_ne_ok hw hact hr hok] at hstopped
      rwa [bne_iff_ne.2 hok]

/-- The table names live watchers, and with each descriptor its holder. -/
structure Owned (s : KqueueWorld) (h : Holders) : Prop where
  attached : s.sys.data.isSome = true
  unique : Unique Registration.ident Registration.watcher s.sys.table
  named : ∀ r ∈ s.sys.table, ∃ w, s.heap r.watcher = some w ∧ w.fd = r.ident ∧
    w.active = true ∧ w.platformData.isSome = true
  held : ∀ r ∈ s.sys.table, h r.ident = some r.watcher

namespace Owned

variable {s : KqueueWorld} {h : Holders} {a : Addr} {w : PdWatcher KqueueWatcherData}
  {sys : KqueueSys}

/-- A watcher without a record is free to change. -/
theorem no_record (hs : Owned s h) (hw : ∀ w, s.heap a = some w → w.active = false) :
    ∀ r ∈ s.sys.table, r.watcher ≠ a := by
  rintro r hr rfl
  obtain ⟨w, hwa, -, hact, -⟩ := hs.named r hr
  exact nomatch (hw w hwa).symm.trans hact

/-- Records may go, and a watcher that has none left may change or be freed. -/
theorem shrink (hs : Owned s h) {s' : KqueueWorld} (hd : s'.sys.data.isSome = true)
    (hu : Unique Registration.ident Registration.watcher s'.sys.table)
    (hsub : ∀ r ∈ s'.sys.table, r ∈ s.sys.table ∧ r.watcher ≠ a)
    (hheap : ∀ b, b ≠ a → s'.heap b = s.heap b) : Owned s' h where
  attached := hd
  unique := hu
  named := by
    intro r hr
    obtain ⟨hmem, hne⟩ := hsub r hr
    rw [hheap _ hne]
    exact hs.named r hmem
  held := fun r hr => hs.held r (hsub r hr).1

/-- A watcher without a record is registered: it becomes the holder of its descriptor. -/
theorem claim (hs : Owned s h) {s' : KqueueWorld} (hfree : ∀ r ∈ s.sys.table, r.watcher ≠ a)
    (hd : s'.sys.data.isSome = true)
    (ht : s'.sys.table = evicted s.sys.table w.fd a ++ [⟨w.fd, a⟩])
    (hw : s'.heap a = some w) (hact : w.active = true) (hpd : w.platformData.isSome = true)
    (hheap : ∀ b, b ≠ a → s'.heap b = s.heap b) :
    Owned s' (Function.update h w.fd (some a)) where
  attached := hd
  unique := by
    rw [ht]
    exact hs.unique.claim rfl rfl hfree
  named := by
    intro r hr
    rw [ht, List.mem_append, List.mem_singleton] at hr
    rcases hr with hr | rfl
    · have hmem := (hs.unique.mem_evictOther.1 hr).1
      rw [hheap _ (hfree r hmem)]
      exact hs.named r hmem
    · exact ⟨w, hw, rfl, hact, hpd⟩
  held := by
    intro r hr
    rw [ht, List.mem_append, List.mem_singleton] at hr
    rcases hr with hr | rfl
    · obtain ⟨hmem, howner⟩ := hs.unique.mem_evictOther.1 hr
      -- a record of the same descriptor would be the watcher's own
      have hne : r.ident ≠ w.fd := fun heq => hfree r hmem (howner heq)
      rw [Function.update_of_ne hne]
      exact hs.held r hmem
    · exact Function.update_self ..

/-- A registration that comes to nothing, whatever it has evicted. -/
theorem refused (hs : Owned s h) {s' : KqueueWorld} (fd : ℤ)
    (hfree : ∀ r ∈ s.sys.table, r.watcher ≠ a) (hd : s'.sys.data.isSome = true)
    (ht : s'.sys.table = s.sys.table ∨ s'.sys.table = evicted s.sys.table fd a)
    (hheap : ∀ b, b ≠ a → s'.heap b = s.heap b) : Owned s' h := by
  rcases ht with ht | ht
  · refine hs.shrink (a := a) hd ?_ (fun r hr => ?_) hheap
    · rw [ht]
      exact hs.unique
    · rw [ht] at hr
      exact ⟨hr, hfree r hr⟩
  · refine hs.shrink (a := a) hd ?_ (fun r hr => ?_) hheap
    · rw [ht]
      exact hs.unique.evictOther fd a
    · rw [ht] at hr
      have hmem := (hs.unique.mem_evictOther.1 hr).1
      exact ⟨hmem, hfree r hmem⟩

/-- A watcher is unregistered: if it holds a record it has platform data, and so gives the
record up. -/
theorem unregister (hs : Owned s h) (hw : s.heap a = some w) (x : PdWatcher KqueueWatcherData)
    {active : Bool} {r : OpResult KqueueSys KqueueWatcherData}
    (hr : kqueueWatcherUnregister s.sys a { w with active } = r) :
    Owned ((s.setWatcher a x).setSys r.sys) h := by
  obtain ⟨hd, -, hnone, hsome⟩ := unregister_cases hs.attached hr
  cases hpd : w.platformData with
  | none =>
      -- refused: nothing has changed
      obtain ⟨ht, hne⟩ := hnone hpd
      have hfree : ∀ y ∈ s.sys.table, y.watcher ≠ a := by
        rintro y hy rfl
        obtain ⟨x, hx, -, -, hxpd⟩ := hs.named y hy
        obtain rfl := Option.some.inj (hw.symm.trans hx)
        exact nomatch (congrArg Option.isSome hpd).symm.trans hxpd
      exact hs.refused 0 hfree hd (Or.inl ht)
        fun b hb => World.setWatcher_heap_ne _ _ hb
  | some wd =>
      obtain ⟨ht, -⟩ := hsome (congrArg Option.isSome hpd)
      refine hs.shrink (a := a) hd ?_ (fun x hx => ?_) fun b hb => World.setWatcher_heap_ne _ _ hb
      · rw [World.setSys_sys, ht]
        exact hs.unique.dropOwner a
      · rw [World.setSys_sys, ht] at hx
        exact hs.unique.mem_dropOwner.1 hx

/-- `pd_watcher_stop`. -/
theorem stop (hs : Owned s h) (a : Addr) : Owned (pdWatcherStop kqueueOps s a).1 h :=
  World.stop_invariant (P := fun s' => Owned s' h) (fun _ => hs)
    fun _ _ hw _ hr => hs.unregister hw _ hr

/-- `pd_watcher_cleanup` and the end of `pd_watcher_destroy`. -/
theorem cleanup_free (hs : Owned s h) (a : Addr) (hw : s.heap a = some w) :
    Owned ((pdWatcherCleanup kqueueOps s a).free a)
      (fun fd => if h fd = some a then none else h fd) := by
  -- the record goes, or there was none
  have hgone : ∀ s' : KqueueWorld, s'.sys.data.isSome = true →
      Unique Registration.ident Registration.watcher s'.sys.table →
      (∀ r ∈ s'.sys.table, r ∈ s.sys.table ∧ r.watcher ≠ a) → (∀ b, b ≠ a → s'.heap b = s.heap b) →
      Owned s' (fun fd => if h fd = some a then none else h fd) := by
    intro s' hd hu hsub hheap
    have hkept := hs.shrink hd hu hsub hheap
    refine ⟨hkept.attached, hkept.unique, hkept.named, fun r hr => ?_⟩
    have hheld := hkept.held r hr
    rw [hheld, if_neg (fun heq => (hsub r hr).2 (Option.some.inj heq))]
  rw [cleanup_of_some hw rfl]
  obtain ⟨hd, -, hnone, hsome⟩ := unregister_cases (w := w) (a := a) hs.attached rfl
  have hheap : ∀ x k loop b, b ≠ a →
      ((((s.setWatcher a x).setSys k).setLoop loop).free a).heap b = s.heap b := by
    intro x k loop b hb
    exact (Function.update_of_ne hb ..).trans (World.setWatcher_heap_ne _ _ hb)
  cases hpd : w.platformData with
  | none =>
      obtain ⟨ht, -⟩ := hnone hpd
      refine hgone _ hd (ht ▸ hs.unique) (fun r hr => ?_) (hheap _ _ _)
      have hmem : r ∈ s.sys.table := ht ▸ hr
      refine ⟨hmem, ?_⟩
      rintro rfl
      obtain ⟨x, hx, -, -, hxpd⟩ := hs.named r hmem
      obtain rfl := Option.some.inj (hw.symm.trans hx)
      exact nomatch (congrArg Option.isSome hpd).symm.trans hxpd
  | some wd =>
      obtain ⟨ht, -⟩ := hsome (congrArg Option.isSome hpd)
      refine hgone _ hd (ht ▸ hs.unique.dropOwner a) (fun r hr => ?_) (hheap _ _ _)
      have hmem : r ∈ dropped s.sys.table a := ht ▸ hr
      exact hs.unique.mem_dropOwner.1 hmem

/-- The list is full: the record is dropped again, and that of another watcher may have been
evicted. -/
theorem unlisted (hs : Owned s h) (hfree : ∀ r ∈ s.sys.table, r.watcher ≠ a)
    {r u : OpResult KqueueSys KqueueWatcherData} {env : KqueueEnv}
    (hr : kqueueWatcherRegister s.sys a w env = r) (hok : r.code = .ok)
    (hu : kqueueWatcherUnregister r.sys a { w with platformData := r.platformData } = u) :
    Owned (s.setSys u.sys) (Function.update h w.fd none) := by
  obtain ⟨hd, -, hcases⟩ := register_cases hs.attached hr
  obtain ⟨hpd, ht⟩ := hcases hok
  obtain ⟨hd', -, -, hsome⟩ := unregister_cases hd hu
  obtain ⟨ht', -⟩ := hsome hpd
  have hclaim : Unique Registration.ident Registration.watcher r.sys.table := by
    rw [ht]
    exact hs.unique.claim rfl rfl hfree
  have hmem : ∀ x ∈ u.sys.table, x ∈ s.sys.table ∧ x.ident ≠ w.fd := by
    intro x hx
    rw [ht'] at hx
    obtain ⟨hxr, hxa⟩ := hclaim.mem_dropOwner.1 hx
    rw [ht, List.mem_append, List.mem_singleton] at hxr
    rcases hxr with hxr | rfl
    · obtain ⟨hxs, howner⟩ := hs.unique.mem_evictOther.1 hxr
      exact ⟨hxs, fun heq => hxa (howner heq)⟩
    · exact absurd rfl hxa
  refine ⟨hd', ?_, fun x hx => hs.named x (hmem x hx).1, fun x hx => ?_⟩
  · rw [World.setSys_sys, ht']
    exact hclaim.dropOwner a
  · rw [Function.update_of_ne (hmem x hx).2]
    exact hs.held x (hmem x hx).1

/-- Where nothing is done, nothing is noted. -/
theorem skips (hs : Owned s h) {c : Call KqueueEnv} (hskip : c.Skips s) :
    Owned s (noteRegistration s (.call c) h) := by
  cases c with
  | create fd events callback userData env =>
      rw [noteRegistration, show s.calloc env.calloc = none from hskip]
      exact hs
  | createForHandle handle events callback userData env => exact hs
  | update a events env => exact hs
  | stop a => exact hs
  | start a env =>
      rw [noteRegistration]
      cases hw : s.heap a with
      | none => exact hs
      | some w =>
          dsimp only
          rw [if_neg]
          · exact hs
          · rintro ⟨hact, -⟩
            exact nomatch (hskip w hw).symm.trans hact
  | destroy a =>
      have hno : ∀ r ∈ s.sys.table, r.watcher ≠ a :=
        hs.no_record fun w hw => nomatch hskip.symm.trans hw
      refine ⟨hs.attached, hs.unique, hs.named, fun r hr => ?_⟩
      show (if h r.ident = some a then none else h r.ident) = some r.watcher
      rw [hs.held r hr, if_neg (fun heq => hno r hr (Option.some.inj heq))]

/-- What a call preserves. -/
theorem exec (hs : Owned s h) (c : Call KqueueEnv) :
    Owned (s.exec kqueueOps c).1 (noteRegistration s (.call c) h) := by
  have hnew : ∀ a, s.heap a = none → ∀ r ∈ s.sys.table, r.watcher ≠ a :=
    fun a ha => hs.no_record fun x hx => nomatch ha.symm.trans hx
  refine exec_invariant (P := fun s' => Owned s' (noteRegistration s (.call c) h)) c hs.skips ?_ ?_
    ?_ ?_ ?_ ?_ ?_ ?_
  · rintro handle events callback userData env rfl
    exact hs
  · -- a creation is refused by the backend
    rintro fd events callback userData env a w r rfl hc ha rfl hr hne
    obtain ⟨hd, hcases, -⟩ := register_cases hs.attached hr
    have hnote : noteRegistration s (.call (.create fd events callback userData env)) h = h := by
      simp only [noteRegistration, hc, hr, hne, if_false]
    rw [hnote]
    exact hs.refused _ (hnew a ha) hd (hcases hne).2 fun _ _ => rfl
  · -- the list is full
    rintro fd events callback userData env a w r u rfl hc ha rfl hr hok hreply hu
    have hnone : (pdWatcherCreate kqueueOps s fd events callback userData env).2 = none :=
      Reply.handle.inj hreply
    have hnote : noteRegistration s (.call (.create fd events callback userData env)) h =
        Function.update h fd none := by
      simp only [noteRegistration, hc, hr, hok, if_true, hnone]
    rw [hnote]
    exact hs.unlisted (hnew a ha) hr hok hu
  · -- a new watcher
    rintro fd events callback userData env a w r loop rfl hc ha rfl hr hok hreply
    have hsome : (pdWatcherCreate kqueueOps s fd events callback userData env).2 = some a :=
      Reply.handle.inj hreply
    have hnote : noteRegistration s (.call (.create fd events callback userData env)) h =
        Function.update h fd (some a) := by
      simp only [noteRegistration, hc, hr, hok, if_true, hsome]
    obtain ⟨hd, -, hcases⟩ := register_cases hs.attached hr
    obtain ⟨hpd, ht⟩ := hcases hok
    rw [hnote]
    exact hs.claim (hnew a ha) hd ht (World.setWatcher_heap_self ..) rfl hpd
      fun b hb => World.setWatcher_heap_ne _ _ hb
  · -- a stopped watcher is started
    rintro a w env r rfl hw hact hr
    have hfree := hs.no_record (a := a) fun x hx => by
      obtain rfl := Option.some.inj (hw.symm.trans hx)
      exact hact
    obtain ⟨hd, hrefused, hcases⟩ := register_cases hs.attached hr
    by_cases hok : r.code = .ok
    · obtain ⟨hpd, ht⟩ := hcases hok
      have hnote : noteRegistration s (.call (.start a env)) h =
          Function.update h w.fd (some a) := by
        simp only [noteRegistration, hw, hact, hr, hok, and_self, if_true]
      rw [hnote, hok]
      exact hs.claim (w := { w with active := true, platformData := r.platformData }) hfree hd ht
        (World.setWatcher_heap_self ..) rfl hpd fun b hb => World.setWatcher_heap_ne _ _ hb
    · have hnote : noteRegistration s (.call (.start a env)) h = h := by
        simp only [noteRegistration, hw, hr, hok, and_false, if_false]
      rw [hnote]
      exact hs.refused _ hfree hd (hrefused hok).2 fun b hb => World.setWatcher_heap_ne _ _ hb
  · -- an update writes no record
    rintro a w events env r rfl hw hact hr
    obtain ⟨hd, ht, hpd⟩ := update_cases hs.attached hr
    have ht' : ((s.setWatcher a { w with events, platformData := r.platformData }).setSys
        r.sys).sys.table = s.sys.table := ht
    refine ⟨hd, ht' ▸ hs.unique, fun x hx => ?_, fun x hx => hs.held x (ht' ▸ hx)⟩
    obtain ⟨y, hy, hfd, hyact, hypd⟩ := hs.named x (ht' ▸ hx)
    rcases eq_or_ne x.watcher a with heq | hne
    · rw [heq] at hy ⊢
      obtain rfl := Option.some.inj (hw.symm.trans hy)
      exact ⟨_, World.setWatcher_heap_self .., hfd, hyact, hpd.trans hypd⟩
    · exact ⟨y, (World.setWatcher_heap_ne _ _ hne).trans hy, hfd, hyact, hypd⟩
  · rintro a rfl
    exact hs.stop a
  · rintro a w rfl hw
    have hstop := hs.stop a
    have hlive : ((pdWatcherStop kqueueOps s a).1.heap a).isSome = true := by
      rw [sameWatchers_stop.live_eq, hw]
      rfl
    obtain ⟨w', hw'⟩ := Option.isSome_iff_exists.1 hlive
    exact hstop.cleanup_free a hw'

/-- What one action preserves. -/
theorem perform (hs : Owned s h) (act : Action) :
    Owned (Kqueue.perform s act) (noteRegistration s act h) := by
  cases act with
  | call c => exact hs.exec c
  | closeFd fd => exact ⟨hs.attached, hs.unique, hs.named, hs.held⟩
  | openFd fd => exact ⟨hs.attached, hs.unique, hs.named, hs.held⟩

/-- What unregistering a watcher asks of the kernel is about a descriptor it holds. -/
theorem of_mem_unregisterChanges (hs : Owned s h) (hw : s.heap a = some w) {active : Bool}
    {c : Change} (hc : c ∈ unregisterChanges s.sys a { w with active }) :
    ∃ fd filter, c = .delete fd filter ∧ h fd = some a := by
  unfold unregisterChanges at hc
  split at hc
  · rename_i hrec
    obtain ⟨-, r, hr, rfl⟩ := hrec
    obtain ⟨x, hx, hfd, -⟩ := hs.named r hr
    obtain rfl := Option.some.inj (hw.symm.trans hx)
    have hheld : h w.fd = some r.watcher := by
      rw [hfd]
      exact hs.held r hr
    rcases List.mem_append.1 hc with hc | hc
    · split at hc
      · exact ⟨w.fd, .read, List.mem_singleton.1 hc, hheld⟩
      · exact absurd hc List.not_mem_nil
    · split at hc
      · exact ⟨w.fd, .write, List.mem_singleton.1 hc, hheld⟩
      · exact absurd hc List.not_mem_nil
  · exact absurd hc List.not_mem_nil

end Owned

theorem owned_created {s : KqueueWorld} (hs : Created s) : Owned s fun _ => none := by
  obtain ⟨isOpen, rfl⟩ := hs
  exact ⟨rfl, .nil, fun _ hr => (nomatch hr), fun _ hr => (nomatch hr)⟩

theorem owned_of_reachable {s : KqueueWorld} {h : Holders} (hr : holderRuns.Reachable (s, h)) :
    Owned s h := by
  refine Machine.Reach.recorded_invariant (I := Owned) (fun _ hs => owned_created hs) ?_ hr
  intro s h act s' hs _ hnext
  obtain rfl := Option.some.inj hnext
  exact hs.perform act

/-- The table has one record at most for each descriptor and each watcher, and its records
name allocated watchers with their descriptors. -/
structure TableSound (s : KqueueWorld) : Prop where
  unique : Unique Registration.ident Registration.watcher s.sys.table
  named : ∀ r ∈ s.sys.table, ∃ w, s.heap r.watcher = some w ∧ w.fd = r.ident

/-- The changes that `pd_watcher_stop` and `pd_watcher_destroy` make in the kernel are
deletions on descriptors on which the last registration to succeed was the watcher's. -/
structure DeletesHeld (s : KqueueWorld) (h : Holders) (a : Addr) : Prop where
  stop : (pdWatcherStop kqueueOps s a).1.sys.kernel =
    (s.sys.kernel.kevent (fun _ => none) (stopChanges s a)).1
  destroy : (pdWatcherDestroy kqueueOps s a).sys.kernel =
    ((s.sys.kernel.kevent (fun _ => none) (stopChanges s a)).1.kevent (fun _ => none)
      (cleanupChanges (pdWatcherStop kqueueOps s a).1 a)).1
  held : ∀ c ∈ stopChanges s a ++ destroyChanges s a,
    ∃ fd filter, c = .delete fd filter ∧ h fd = some a

/-- In every state of every run the table is sound, and what `pd_watcher_stop` and
`pd_watcher_destroy` delete is on a descriptor on which the last registration to succeed
was the watcher's. -/
theorem table_sound_deletes_held {s : KqueueWorld} {h : Holders}
    (hr : holderRuns.Reachable (s, h)) : TableSound s ∧ ∀ a, DeletesHeld s h a := by
  have hs := owned_of_reachable hr
  have hstop : ∀ a, ∀ c ∈ stopChanges s a, ∃ fd filter, c = .delete fd filter ∧ h fd = some a := by
    intro a c hc
    unfold stopChanges at hc
    cases hw : s.heap a with
    | none =>
        rw [hw] at hc
        exact absurd hc List.not_mem_nil
    | some w =>
        rw [hw] at hc
        dsimp only at hc
        split_ifs at hc
        · exact hs.of_mem_unregisterChanges hw hc
        · exact absurd hc List.not_mem_nil
  refine ⟨⟨hs.unique, fun r hmem => ?_⟩, fun a => ⟨stop_submits s a, destroy_submits s a, ?_⟩⟩
  · obtain ⟨w, hw, hfd, -⟩ := hs.named r hmem
    exact ⟨w, hw, hfd⟩
  · intro c hc
    rw [destroyChanges, List.mem_append, List.mem_append] at hc
    rcases hc with hc | hc | hc
    · exact hstop a c hc
    · exact hstop a c hc
    · -- the cleanup comes after the stop
      unfold cleanupChanges at hc
      cases hw : (pdWatcherStop kqueueOps s a).1.heap a with
      | none =>
          rw [hw] at hc
          exact absurd hc List.not_mem_nil
      | some w =>
          rw [hw] at hc
          exact (hs.stop a).of_mem_unregisterChanges hw hc

/-- A watcher on descriptor 5 is destroyed; its address and its descriptor are used again by
different watchers. -/
def recycled : List Action :=
  [.call (.create 5 .read (some (.user 1)) NULL ⟨some 100, true, ⟨true, none, none, true⟩⟩),
    .call (.create 6 .read (some (.user 1)) NULL ⟨some 200, true, ⟨true, none, none, true⟩⟩),
    .closeFd 5, .call (.destroy 100), .openFd 5, .call (.stop 200),
    .call (.create 5 .read (some (.user 1)) NULL ⟨some 300, true, ⟨true, none, none, true⟩⟩),
    .call (.create 6 .read (some (.user 1)) NULL ⟨some 100, true, ⟨true, none, none, true⟩⟩)]

theorem recycled_table_sound : ∃ s h,
    Machine.run (Machine.recordStep (fun s act => some (perform s act)) noteRegistration)
      (kqueueLoopCreate fun fd => fd == 5 || fd == 6, fun _ => none) recycled = some (s, h) ∧
    s.sys.table = [⟨5, 300⟩, ⟨6, 100⟩] ∧ TableSound s ∧ ∀ a, DeletesHeld s h a := by
  have hrun : ∃ s h,
      Machine.run (Machine.recordStep (fun s act => some (perform s act)) noteRegistration)
        (kqueueLoopCreate fun fd => fd == 5 || fd == 6, fun _ => none) recycled = some (s, h) ∧
      s.sys.table = [⟨5, 300⟩, ⟨6, 100⟩] := ⟨_, _, rfl, rfl⟩
  obtain ⟨s, h, hrun, ht⟩ := hrun
  have hr : holderRuns.Reachable (s, h) := Machine.Reach.run (.init ⟨⟨_, rfl⟩, rfl⟩) hrun
  exact ⟨s, h, hrun, ht, table_sound_deletes_held hr⟩

end Kqueue
end PollDancer
