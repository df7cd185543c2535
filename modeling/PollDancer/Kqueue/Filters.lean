/-
# The filters of a descriptor

What the change lists of the backend do to the filters of a descriptor.  A registration
adds the filters of a mask, `EVFILT_READ` before `EVFILT_WRITE`; an unregistration, and the
undo of a registration, deletes them in the same order.  `kevent` stops at the first change
that fails, so a registration may add the first filter and be refused the second
(`kevent_adds`), and a deletion may not get to the second one because the first is not
there (`kevent_deletes`).
-/
import PollDancer.Kqueue.Ownership

namespace PollDancer
namespace Kqueue

open Library

/-- The bit of a mask that asks for the filter. -/
def Filter.bit : Filter → PdEvent
  | .read => .read
  | .write => .write
  | .timer => .none
  | .user => .none

/-- Does the mask ask for the filter? -/
def asks (events : PdEvent) (f : Filter) : Bool := events.has f.bit

@[simp]
theorem asks_read (events : PdEvent) : asks events .read = events.has .read := rfl

@[simp]
theorem asks_write (events : PdEvent) : asks events .write = events.has .write := rfl

/-- No mask asks for a timer. -/
@[simp]
theorem asks_timer (events : PdEvent) : asks events .timer = false := by
  simp [asks, Filter.bit, PdEvent.has, PdEvent.none]

/-- No mask asks for a wake-up. -/
@[simp]
theorem asks_user (events : PdEvent) : asks events .user = false := by
  simp [asks, Filter.bit, PdEvent.has, PdEvent.none]

/-- The changes of a registration. -/
def adds (fd : ℤ) (events : PdEvent) (a : Addr) : List Change :=
  (addFilter fd .read .read events a).toList ++ (addFilter fd .write .write events a).toList

/-- The changes of an unregistration. -/
def deletes (fd : ℤ) (events : PdEvent) : List Change :=
  (if events.has .read then [.delete fd .read] else []) ++
    (if events.has .write then [.delete fd .write] else [])

namespace Kernel

/-- The filters of a descriptor are replaced. -/
def setFilters (k : Kernel) (fd : ℤ) (n : Filter → Option Knote) : Kernel :=
  { k with knotes := Function.update k.knotes fd n }

/-- The filters that the mask asks for are there. -/
def arm (k : Kernel) (fd : ℤ) (events : PdEvent) (a : Addr) : Kernel :=
  k.setFilters fd fun f => if asks events f then some ⟨a, true, events.has .edge⟩ else k.knotes fd f

/-- Does an unregistration delete the filter?  The mask has to ask for it, and if it asks
for both, the deletion of `EVFILT_READ` comes first and has to succeed. -/
def reached (k : Kernel) (fd : ℤ) (events : PdEvent) (f : Filter) : Bool :=
  k.isOpen fd && asks events f && (f != .write || !events.has .read || (k.knotes fd .read).isSome)

/-- The filters that an unregistration gets to are gone. -/
def disarm (k : Kernel) (fd : ℤ) (events : PdEvent) : Kernel :=
  k.setFilters fd fun f => if k.reached fd events f then none else k.knotes fd f

/-- Is one of the changes of a registration refused? -/
def rejects (k : Kernel) (fd : ℤ) (events : PdEvent) (env : KqueueEnv) : Bool :=
  events.has .read && (!k.isOpen fd || env.refusedRead.isSome) ||
    events.has .write && (!k.isOpen fd || env.refusedWrite.isSome)

/-- Is `EVFILT_READ` added before `EVFILT_WRITE` is refused? -/
def halfway (k : Kernel) (fd : ℤ) (events : PdEvent) (env : KqueueEnv) : Bool :=
  events.has .read && events.has .write && k.isOpen fd && env.refusedRead.isNone &&
    env.refusedWrite.isSome

section

variable {k k' : Kernel} {fd fd' : ℤ} {f f' : Filter} {n : Option Knote}
  {refused : Change → Option Errno}

@[simp]
theorem setFilters_isOpen (n : Filter → Option Knote) : (k.setFilters fd n).isOpen = k.isOpen := rfl

@[simp]
theorem setFilters_self (n : Filter → Option Knote) : (k.setFilters fd n).knotes fd = n :=
  Function.update_self ..

theorem setFilters_ne (n : Filter → Option Knote) (h : fd' ≠ fd) :
    (k.setFilters fd n).knotes fd' = k.knotes fd' :=
  Function.update_of_ne h ..

theorem setKnote_eq_setFilters :
    k.setKnote fd f n = k.setFilters fd (Function.update (k.knotes fd) f n) := rfl

@[simp]
theorem setFilters_setFilters (m n : Filter → Option Knote) :
    (k.setFilters fd m).setFilters fd n = k.setFilters fd n := by
  simp [setFilters]

theorem setFilters_knotes : k.setFilters fd (k.knotes fd) = k := by
  simp [setFilters]

/-- A list that is cut in two. -/
theorem kevent_append (cs cs' : List Change) :
    k.kevent refused (cs ++ cs') =
      match k.kevent refused cs with
      | (k', none) => k'.kevent refused cs'
      | (k', some e) => (k', some e) := by
  induction cs generalizing k with
  | nil => rfl
  | cons c cs ih =>
      rw [List.cons_append, kevent, kevent]
      cases k.change (refused c) c with
      | error e => rfl
      | ok k₁ => exact ih

/-- A change of a registration, if the mask asks for it. -/
theorem kevent_addFilter (k : Kernel) (refused : Change → Option Errno) (fd : ℤ) (f : Filter)
    (bit events : PdEvent) (a : Addr) :
    (events.has bit = false ∧
      k.kevent refused (addFilter fd f bit events a).toList = (k, none)) ∨
    (events.has bit = true ∧ k.isOpen fd = true ∧
      refused (.add fd f (events.has .edge) a) = none ∧
      k.kevent refused (addFilter fd f bit events a).toList =
        (k.setKnote fd f (some ⟨a, true, events.has .edge⟩), none)) ∨
    (events.has bit = true ∧
      (k.isOpen fd = false ∨ (refused (.add fd f (events.has .edge) a)).isSome = true) ∧
      ∃ e, k.kevent refused (addFilter fd f bit events a).toList = (k, some e)) := by
  unfold addFilter
  cases hbit : events.has bit with
  | false => exact Or.inl ⟨rfl, rfl⟩
  | true =>
      refine Or.inr ?_
      cases hopen : k.isOpen fd with
      | false => exact Or.inr ⟨rfl, Or.inl rfl, .EBADF, by simp [kevent, change, hopen]⟩
      | true =>
          cases hr : refused (.add fd f (events.has .edge) a) with
          | none => exact Or.inl ⟨rfl, rfl, rfl, by simp [kevent, change, hopen, hr]⟩
          | some e => exact Or.inr ⟨rfl, Or.inr rfl, e, by simp [kevent, change, hopen, hr]⟩

/-- What a kernel has to be to be armed. -/
theorem setFilters_eq_arm {events : PdEvent} {a : Addr} {m : Filter → Option Knote}
    (hm : ∀ f, m f = if asks events f then some ⟨a, true, events.has .edge⟩ else k.knotes fd f) :
    k.setFilters fd m = k.arm fd events a := congrArg _ (funext hm)

/-- The changes of a registration: they are all made, or one is refused before anything has
changed, or `EVFILT_WRITE` is refused after `EVFILT_READ` has been added. -/
theorem kevent_adds (k : Kernel) (fd : ℤ) (events : PdEvent) (a : Addr) (env : KqueueEnv) :
    (k.rejects fd events env = false ∧
      k.kevent env.refused (adds fd events a) = (k.arm fd events a, none)) ∨
    (k.rejects fd events env = true ∧ k.halfway fd events env = false ∧
      ∃ e, k.kevent env.refused (adds fd events a) = (k, some e)) ∨
    (k.rejects fd events env = true ∧ k.halfway fd events env = true ∧
      ∃ e, k.kevent env.refused (adds fd events a) =
        (k.setKnote fd .read (some ⟨a, true, events.has .edge⟩), some e)) := by
  rw [adds, kevent_append]
  rcases kevent_addFilter k env.refused fd .read .read events a with
    ⟨hr, hk⟩ | ⟨hr, hopen, href, hk⟩ | ⟨hr, hno, e, hk⟩
  · -- only the filter for writing, if any
    rw [hk]
    dsimp only
    rcases kevent_addFilter k env.refused fd .write .write events a with
      ⟨hw, hk'⟩ | ⟨hw, hopen, href, hk'⟩ | ⟨hw, hno, e, hk'⟩
    · refine Or.inl ⟨by simp [rejects, hr, hw], ?_⟩
      rw [hk', ← setFilters_eq_arm (m := k.knotes fd), setFilters_knotes]
      intro f
      cases f <;> simp [hr, hw]
    · refine Or.inl ⟨?_, ?_⟩
      · have href' : env.refusedWrite = none := href
        simp [rejects, hr, hopen, href']
      · rw [hk', setKnote_eq_setFilters, setFilters_eq_arm]
        intro f
        cases f <;> simp [hr, hw]
    · refine Or.inr (Or.inl ⟨?_, by simp [halfway, hr], e, hk'⟩)
      rcases hno with hclosed | href
      · simp [rejects, hr, hw, hclosed]
      · have href' : env.refusedWrite.isSome = true := href
        simp [rejects, hr, hw, href']
  · rw [hk]
    dsimp only
    have href' : env.refusedRead = none := href
    rcases kevent_addFilter (k.setKnote fd .read (some ⟨a, true, events.has .edge⟩)) env.refused fd
      .write .write events a with ⟨hw, hk'⟩ | ⟨hw, -, hrefw, hk'⟩ | ⟨hw, hno, e, hk'⟩
    · refine Or.inl ⟨by simp [rejects, hw, hopen, href'], ?_⟩
      rw [hk', setKnote_eq_setFilters, setFilters_eq_arm]
      intro f
      cases f <;> simp [hr, hw]
    · have hrefw' : env.refusedWrite = none := hrefw
      refine Or.inl ⟨by simp [rejects, hopen, href', hrefw'], ?_⟩
      rw [hk', setKnote_eq_setFilters, setKnote_eq_setFilters, setFilters_setFilters,
        setFilters_eq_arm]
      intro f
      cases f <;> simp [hr, hw]
    · have hrefw : env.refusedWrite.isSome = true := by
        rcases hno with hclosed | hrefw
        · exact nomatch hopen.symm.trans hclosed
        · exact hrefw
      exact Or.inr (Or.inr ⟨by simp [rejects, hw, hrefw],
        by simp [halfway, hr, hw, hopen, href', hrefw], e, hk'⟩)
  · rw [hk]
    refine Or.inr (Or.inl ⟨?_, ?_, e, rfl⟩)
    · rcases hno with hclosed | href
      · simp [rejects, hr, hclosed]
      · have href' : env.refusedRead.isSome = true := href
        simp [rejects, hr, href']
    · rcases hno with hclosed | href
      · simp [halfway, hclosed]
      · obtain ⟨e', he'⟩ := Option.isSome_iff_exists.1 href
        have href' : env.refusedRead = some e' := he'
        simp [halfway, href']

/-- The deletion of a filter, if the mask asks for it. -/
theorem kevent_delete (k : Kernel) (fd : ℤ) (f : Filter) (b : Bool) :
    (b = false ∧ k.kevent (fun _ => none) (if b then [.delete fd f] else []) = (k, none)) ∨
    (b = true ∧ k.isOpen fd = true ∧ (k.knotes fd f).isSome = true ∧
      k.kevent (fun _ => none) (if b then [.delete fd f] else []) =
        (k.setKnote fd f none, none)) ∨
    (b = true ∧ (k.isOpen fd = false ∨ k.knotes fd f = none) ∧
      ∃ e, k.kevent (fun _ => none) (if b then [.delete fd f] else []) = (k, some e)) := by
  cases b with
  | false => exact Or.inl ⟨rfl, rfl⟩
  | true =>
      refine Or.inr ?_
      cases hopen : k.isOpen fd with
      | false => exact Or.inr ⟨rfl, Or.inl rfl, .EBADF, by simp [kevent, change, hopen]⟩
      | true =>
          cases hn : k.knotes fd f with
          | none => exact Or.inr ⟨rfl, Or.inr rfl, .ENOENT, by simp [kevent, change, hopen, hn]⟩
          | some n => exact Or.inl ⟨rfl, rfl, rfl, by simp [kevent, change, hopen, hn]⟩

/-- What a kernel has to be to be disarmed. -/
theorem setFilters_eq_disarm {events : PdEvent} {m : Filter → Option Knote}
    (hm : ∀ f, m f = if k.reached fd events f then none else k.knotes fd f) :
    k.setFilters fd m = k.disarm fd events := congrArg _ (funext hm)

/-- The changes of an unregistration, whatever comes of them. -/
theorem kevent_deletes (k : Kernel) (fd : ℤ) (events : PdEvent) :
    (k.kevent (fun _ => none) (deletes fd events)).1 = k.disarm fd events := by
  rw [deletes, kevent_append]
  rcases kevent_delete k fd .read (events.has .read) with
    ⟨hr, hk⟩ | ⟨hr, hopen, hn, hk⟩ | ⟨hr, hno, e, hk⟩
  · rw [hk]
    dsimp only
    rcases kevent_delete k fd .write (events.has .write) with
      ⟨hw, hk'⟩ | ⟨hw, hopen, hn, hk'⟩ | ⟨hw, hno, e, hk'⟩
    · rw [hk', ← setFilters_eq_disarm (m := k.knotes fd), setFilters_knotes]
      intro f
      cases f <;> simp [reached, hr, hw]
    · rw [hk', setKnote_eq_setFilters, setFilters_eq_disarm]
      intro f
      cases f <;> simp [reached, hr, hw, hopen]
    · rw [hk', ← setFilters_eq_disarm (m := k.knotes fd), setFilters_knotes]
      intro f
      rcases hno with hclosed | hnone
      · cases f <;> simp [reached, hclosed]
      · cases f <;> simp [reached, hr, hnone]
  · rw [hk]
    dsimp only
    have hne : Filter.write ≠ .read := by decide
    rcases kevent_delete (k.setKnote fd .read none) fd .write (events.has .write) with
      ⟨hw, hk'⟩ | ⟨hw, -, -, hk'⟩ | ⟨hw, hno, e, hk'⟩
    · rw [hk', setKnote_eq_setFilters, setFilters_eq_disarm]
      intro f
      cases f <;> simp [reached, hr, hw, hopen]
    · rw [hk', setKnote_eq_setFilters, setKnote_eq_setFilters, setFilters_setFilters,
        setFilters_eq_disarm]
      intro f
      cases f <;> simp [reached, hr, hw, hopen, hn]
    · rw [hk', setKnote_eq_setFilters, setFilters_eq_disarm]
      have hnone : k.knotes fd .write = none := by
        rcases hno with hclosed | hnone
        · exact nomatch hopen.symm.trans hclosed
        · rwa [setKnote_eq_setFilters, setFilters_self, Function.update_of_ne hne] at hnone
      intro f
      cases f <;> simp [reached, hr, hw, hopen, hn, hnone]
  · -- the first deletion fails: the second is not reached
    rw [hk]
    dsimp only
    rw [← setFilters_eq_disarm (m := k.knotes fd), setFilters_knotes]
    intro f
    rcases hno with hclosed | hnone
    · cases f <;> simp [reached, hclosed]
    · cases f <;> simp [reached, hr, hnone]

@[simp]
theorem arm_isOpen (k : Kernel) (fd : ℤ) (events : PdEvent) (a : Addr) :
    (k.arm fd events a).isOpen = k.isOpen := rfl

@[simp]
theorem disarm_isOpen (k : Kernel) (fd : ℤ) (events : PdEvent) :
    (k.disarm fd events).isOpen = k.isOpen := rfl

theorem arm_self (k : Kernel) (fd : ℤ) (events : PdEvent) (a : Addr) (f : Filter) :
    (k.arm fd events a).knotes fd f =
      if asks events f then some ⟨a, true, events.has .edge⟩ else k.knotes fd f :=
  congrFun (setFilters_self _) f

theorem arm_ne (k : Kernel) (events : PdEvent) (a : Addr) (h : fd' ≠ fd) :
    (k.arm fd events a).knotes fd' = k.knotes fd' := setFilters_ne _ h

theorem disarm_self (k : Kernel) (fd : ℤ) (events : PdEvent) (f : Filter) :
    (k.disarm fd events).knotes fd f = if k.reached fd events f then none else k.knotes fd f :=
  congrFun (setFilters_self _) f

theorem disarm_ne (k : Kernel) (events : PdEvent) (h : fd' ≠ fd) :
    (k.disarm fd events).knotes fd' = k.knotes fd' := setFilters_ne _ h

/-- The descriptor of a registration that asks for a filter and is not refused is open. -/
theorem isOpen_of_not_rejects {events : PdEvent} {env : KqueueEnv}
    (h : k.rejects fd events env = false) (hf : asks events f = true) : k.isOpen fd = true := by
  cases hopen : k.isOpen fd with
  | true => rfl
  | false => cases f <;> simp_all [rejects]

/-- The undo of a registration takes away all that the mask asks for. -/
theorem disarm_arm_self {events : PdEvent} {env : KqueueEnv} (a : Addr)
    (h : k.rejects fd events env = false) (f : Filter) :
    ((k.arm fd events a).disarm fd events).knotes fd f =
      if asks events f then none else k.knotes fd f := by
  rw [disarm_self, arm_self]
  cases hf : asks events f with
  | false => simp [reached, hf]
  | true =>
      have hread : events.has .read = true →
          ((k.arm fd events a).knotes fd .read).isSome = true := by
        intro hr
        rw [arm_self, asks_read, hr]
        rfl
      have hreached : (k.arm fd events a).reached fd events f = true := by
        unfold reached
        rw [arm_isOpen, isOpen_of_not_rejects h hf, hf]
        cases hr : events.has .read with
        | false => simp
        | true => simp [hread hr]
      rw [hreached]
      rfl

end
end Kernel

/-! ### Registrations -/

section

variable {k : KqueueSys} {a : Addr} {w : PdWatcher KqueueWatcherData} {env : KqueueEnv}

/-- A registration that is not refused memory goes on to the eviction. -/
def Attempts (k : KqueueSys) (env : KqueueEnv) : Prop :=
  k.data.isSome = true ∧ env.dataAlloc = true

/-- What a registration can come to. -/
inductive Registers (k : KqueueSys) (a : Addr) (w : PdWatcher KqueueWatcherData) (env : KqueueEnv)
    (r : OpResult KqueueSys KqueueWatcherData) : Prop
  /-- There is no loop, or no memory for the platform data. -/
  | skipped : ¬Attempts k env → r.code ≠ .ok → r.sys.kernel = k.kernel → r.sys.table = k.table →
      Registers k a w env r
  /-- The first change is refused. -/
  | rejected : Attempts k env → k.kernel.rejects w.fd w.events env = true →
      k.kernel.halfway w.fd w.events env = false → r.code ≠ .ok → r.sys.kernel = k.kernel →
      r.sys.table = evicted k.table w.fd a → Registers k a w env r
  /-- The second change is refused. -/
  | halfway : Attempts k env → k.kernel.rejects w.fd w.events env = true →
      k.kernel.halfway w.fd w.events env = true → r.code ≠ .ok →
      r.sys.kernel = k.kernel.setKnote w.fd .read (some ⟨a, true, w.events.has .edge⟩) →
      r.sys.table = evicted k.table w.fd a → Registers k a w env r
  /-- The table cannot grow, and the changes are undone. -/
  | full : Attempts k env → k.kernel.rejects w.fd w.events env = false → r.code ≠ .ok →
      r.sys.kernel = (k.kernel.arm w.fd w.events a).disarm w.fd w.events →
      r.sys.table = evicted k.table w.fd a → Registers k a w env r
  | done : Attempts k env → k.kernel.rejects w.fd w.events env = false → r.code = .ok →
      r.sys.kernel = k.kernel.arm w.fd w.events a →
      r.sys.table = evicted k.table w.fd a ++ [⟨w.fd, a⟩] → Registers k a w env r

/-- The undo deletes what has been added. -/
theorem undo_eq_deletes (fd : ℤ) (events : PdEvent) (a : Addr) :
    (if (addFilter fd .read .read events a).isSome then [Change.delete fd .read] else []) ++
      (if (addFilter fd .write .write events a).isSome then [Change.delete fd .write] else []) =
      deletes fd events := by
  unfold addFilter deletes
  cases events.has .read <;> cases events.has .write <;> rfl

theorem registers (k : KqueueSys) (a : Addr) (w : PdWatcher KqueueWatcherData) (env : KqueueEnv) :
    Registers k a w env (kqueueWatcherRegister k a w env) := by
  have hsystem : PdError.system ≠ .ok := by decide
  have hmemory : PdError.noMemory ≠ .ok := by decide
  have hclosed : PdError.loopClosed ≠ .ok := by decide
  unfold kqueueWatcherRegister
  cases hd : k.data with
  | none => exact .skipped (fun h => by simp [Attempts, hd] at h) hclosed rfl rfl
  | some d =>
      have ht : k.table = d.registrations := by rw [KqueueSys.table, hd]
      dsimp only
      cases hm : env.dataAlloc with
      | false =>
          exact .skipped (fun h => Bool.false_ne_true (hm.symm.trans h.2)) hmemory rfl rfl
      | true =>
          have hatt : Attempts k env := ⟨by rw [hd]; rfl, hm⟩
          simp only [Bool.not_true, Bool.false_eq_true, if_false]
          rcases k.kernel.kevent_adds w.fd w.events a env with
            ⟨hrej, hk⟩ | ⟨hrej, hhalf, e, hk⟩ | ⟨hrej, hhalf, e, hk⟩
          · rw [adds] at hk
            rw [hk]
            dsimp only
            split
            · split
              · exact .done hatt hrej rfl rfl (by rw [ht]; rfl)
              · refine .full hatt hrej hmemory ?_ (by rw [ht]; rfl)
                rw [undo_eq_deletes]
                exact Kernel.kevent_deletes ..
            · exact .done hatt hrej rfl rfl (by rw [ht]; rfl)
          · rw [adds] at hk
            rw [hk]
            exact .rejected hatt hrej hhalf hsystem rfl (by rw [ht]; rfl)
          · rw [adds] at hk
            rw [hk]
            exact .halfway hatt hrej hhalf hsystem rfl (by rw [ht]; rfl)

/-- The kernel after an unregistration. -/
theorem unregister_disarms (k : KqueueSys) (a : Addr) (w : PdWatcher KqueueWatcherData) :
    (kqueueWatcherUnregister k a w).sys.kernel =
      if w.platformData.isSome = true ∧ ∃ r ∈ k.table, r.watcher = a then
        k.kernel.disarm w.fd w.events
      else k.kernel := by
  rw [unregister_kernel, unregisterChanges]
  by_cases hrec : w.platformData.isSome = true ∧ ∃ r ∈ k.table, r.watcher = a
  · rw [if_pos hrec, if_pos hrec]
    exact Kernel.kevent_deletes ..
  · rw [if_neg hrec, if_neg hrec]
    rfl

/-- An unregistration takes filters away, and opens or closes nothing. -/
theorem unregister_subset (k : KqueueSys) (a : Addr) (w : PdWatcher KqueueWatcherData) :
    (kqueueWatcherUnregister k a w).sys.kernel.isOpen = k.kernel.isOpen ∧
    ∀ fd f n, (kqueueWatcherUnregister k a w).sys.kernel.knotes fd f = some n →
      k.kernel.knotes fd f = some n := by
  rw [unregister_disarms]
  split_ifs
  · refine ⟨rfl, fun fd f n hn => ?_⟩
    rcases eq_or_ne fd w.fd with rfl | hne
    · rw [Kernel.disarm_self] at hn
      split_ifs at hn
      exact hn
    · rwa [Kernel.disarm_ne _ _ hne] at hn
  · exact ⟨rfl, fun _ _ _ hn => hn⟩

end
end Kqueue
end PollDancer
