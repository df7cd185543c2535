/-
# The epoll backend: registration

`events_to_epoll`, `epoll_watcher_register`, `epoll_watcher_update` and
`epoll_watcher_unregister` of `src/platform/epoll.c`.

The backend keeps a table of registrations `(fd, watcher)` beside the kernel's
interest set.  Registering evicts another watcher's record of the same
descriptor number before it asks the kernel; unregistering searches the table by
watcher and deletes by descriptor number.  `register_cases` and
`unregister_cases` list everything the two can do to the table and the kernel;
the invariants of the backend are proved from them alone.
-/
import PollDancer.Epoll.Kernel
import PollDancer.Library.Registry
import PollDancer.Watcher

namespace PollDancer
namespace Epoll

open Library

/-- `EPOLLIN`. -/
def EPOLLIN : UInt32 := 0x001
/-- `EPOLLPRI`. -/
def EPOLLPRI : UInt32 := 0x002
/-- `EPOLLOUT`. -/
def EPOLLOUT : UInt32 := 0x004
/-- `EPOLLERR`. -/
def EPOLLERR : UInt32 := 0x008
/-- `EPOLLHUP`. -/
def EPOLLHUP : UInt32 := 0x010
/-- `EPOLLRDHUP`. -/
def EPOLLRDHUP : UInt32 := 0x2000
/-- `EPOLLET`. -/
def EPOLLET : UInt32 := 0x80000000

/-- `events_to_epoll`. -/
def eventsToEpoll (events : PdEvent) : UInt32 :=
  (if events.has .read then EPOLLIN else 0) |||
  (if events.has .write then EPOLLOUT else 0) |||
  (if events.has .error then EPOLLERR else 0) |||
  (if events.has .hangup then EPOLLHUP ||| EPOLLRDHUP else 0) |||
  (if events.has .pri then EPOLLPRI else 0) |||
  (if events.has .edge then EPOLLET else 0)

/-- `epoll_to_events`. -/
def epollToEvents (epollEvents : UInt32) : PdEvent :=
  (if epollEvents &&& EPOLLIN != 0 then PdEvent.read else 0) |||
  (if epollEvents &&& EPOLLOUT != 0 then PdEvent.write else 0) |||
  (if epollEvents &&& EPOLLERR != 0 then PdEvent.error else 0) |||
  (if epollEvents &&& (EPOLLHUP ||| EPOLLRDHUP) != 0 then PdEvent.hangup else 0) |||
  (if epollEvents &&& EPOLLPRI != 0 then PdEvent.pri else 0)

/-- `pd_epoll_registration_t`. -/
structure Registration where
  fd : ℤ
  watcher : Addr
  deriving DecidableEq, Repr

/-- The part of `pd_epoll_data_t` that registration uses.  The array of records
is the list of its first `registration_count` entries. -/
structure EpollData where
  eventfdFd : ℤ
  registrations : List Registration
  registrationCapacity : ℕ
  deriving DecidableEq, Repr

/-- `pd_epoll_watcher_data_t`. -/
structure EpollWatcherData where
  epollEvent : EpollEvent
  deriving DecidableEq, Repr

/-- What the backend reaches from the loop: `loop->platform_data` (`none` once
`epoll_loop_destroy` has run), the kernel, `loop->system_error`, and the timers
allocated on the loop, whose platform data is the timerfd. -/
structure EpollSys where
  data : Option EpollData
  kernel : Kernel
  systemError : Option Errno
  timers : Addr → Option (PdTimer ℤ)

/-- The answers of the environment during a registration: whether `calloc` finds
memory, why the kernel would refuse an admissible `ADD`, and whether `realloc`
can grow the table. -/
structure EpollEnv where
  dataAlloc : Bool
  refused : Option Errno
  growTable : Bool
  deriving DecidableEq, Repr

namespace EpollSys

/-- The live records; none once the loop's data is gone. -/
def table (k : EpollSys) : List Registration :=
  match k.data with
  | none => []
  | some d => d.registrations

/-- `pd_set_system_error`. -/
def setError (k : EpollSys) (e : Errno) : EpollSys :=
  { k with systemError := some e }

/-- The records are replaced. -/
def setData (k : EpollSys) (d : EpollData) : EpollSys :=
  { k with data := some d }

end EpollSys

/-- `_epoll_evict_stale_registration`: the first record that names the descriptor
for a different watcher is removed. -/
def epollEvictStaleRegistration (d : EpollData) (fd : ℤ) (w : Addr) : EpollData :=
  { d with
    registrations := evictOther Registration.fd Registration.watcher fd w d.registrations }

/-- `epoll_watcher_register`. -/
def epollWatcherRegister (k : EpollSys) (a : Addr) (w : PdWatcher EpollWatcherData)
    (env : EpollEnv) : OpResult EpollSys EpollWatcherData :=
  match k.data with
  | none => ⟨k, w.platformData, .loopClosed⟩
  | some d =>
    if !env.dataAlloc then ⟨k.setError .ENOMEM, w.platformData, .noMemory⟩
    else
      let ev : EpollEvent := { events := eventsToEpoll w.events, ptr := a }
      -- the eviction comes before the kernel has accepted the new membership
      let d := epollEvictStaleRegistration d w.fd a
      match k.kernel.ctlAdd w.fd ev env.refused with
      | .error e => ⟨(k.setData d).setError e, w.platformData, .system⟩
      | .ok kernel =>
        let recorded : List Registration := d.registrations ++ [⟨w.fd, a⟩]
        if d.registrations.length ≥ d.registrationCapacity then
          if env.growTable then
            let newCap := if d.registrationCapacity = 0 then 8 else d.registrationCapacity * 2
            ⟨{ k with
                data := some { d with registrations := recorded, registrationCapacity := newCap },
                kernel },
              some ⟨ev⟩, .ok⟩
          else
            -- untracked: undo the membership; the result of this `DEL` is ignored
            let kernel := (kernel.ctlDel w.fd).toOption.getD kernel
            ⟨({ k with kernel }.setData d).setError .ENOMEM, w.platformData, .noMemory⟩
        else
          ⟨{ k with data := some { d with registrations := recorded }, kernel }, some ⟨ev⟩, .ok⟩

/-- `epoll_watcher_register_handle_unused`. -/
def epollWatcherRegisterHandleUnused (k : EpollSys) (_ : Addr) (w : PdWatcher EpollWatcherData)
    (_ : EpollEnv) : OpResult EpollSys EpollWatcherData :=
  ⟨k, w.platformData, .notImplemented⟩

/-- `epoll_watcher_update`. -/
def epollWatcherUpdate (k : EpollSys) (_ : Addr) (w : PdWatcher EpollWatcherData)
    (events : PdEvent) (_ : EpollEnv) : OpResult EpollSys EpollWatcherData :=
  match k.data with
  | none => ⟨k, w.platformData, .loopClosed⟩
  | some _ =>
    match w.platformData with
    | none => ⟨k, none, .invalidArg⟩
    | some wd =>
      let ev : EpollEvent := { wd.epollEvent with events := eventsToEpoll events }
      match k.kernel.ctlMod w.fd ev with
      | .error e => ⟨k.setError e, some ⟨ev⟩, .system⟩
      | .ok kernel => ⟨{ k with kernel }, some ⟨ev⟩, .ok⟩

/-- `epoll_watcher_unregister`. -/
def epollWatcherUnregister (k : EpollSys) (a : Addr) (w : PdWatcher EpollWatcherData) :
    OpResult EpollSys EpollWatcherData :=
  match k.data with
  | none => ⟨k, none, .loopClosed⟩
  | some d =>
    match d.registrations.findIdx? (fun r => r.watcher == a) with
    | none => ⟨k, none, .ok⟩
    | some i =>
      let released := k.setData { d with registrations := swapRemove d.registrations i }
      match k.kernel.ctlDel w.fd with
      | .ok kernel => ⟨{ released with kernel }, none, .ok⟩
      | .error e =>
        if e ≠ .EBADF then ⟨k.setError e, w.platformData, .system⟩
        else ⟨released, none, .ok⟩

/-- `epoll_loop_destroy`: the eventfd and the epoll instance are closed, and the
interest set goes with the instance. -/
def epollLoopDestroy (k : EpollSys) : EpollSys :=
  match k.data with
  | none => k
  | some d =>
    let kernel := if d.eventfdFd ≥ 0 then k.kernel.close d.eventfdFd else k.kernel
    { k with data := none, kernel := { kernel with interest := fun _ => none } }

/-- The watcher part of `pd_platform_epoll`. -/
def epollOps : PlatformOps EpollSys EpollWatcherData EpollEnv where
  watcherRegister := epollWatcherRegister
  watcherRegisterHandle := epollWatcherRegisterHandleUnused
  watcherUpdate := epollWatcherUpdate
  watcherUnregister := epollWatcherUnregister

/-! ### What the operations can do -/

variable {k : EpollSys} {d : EpollData} {a : Addr} {w : PdWatcher EpollWatcherData}

namespace EpollSys

@[simp]
theorem setError_data (k : EpollSys) (e : Errno) : (k.setError e).data = k.data := rfl

@[simp]
theorem setError_kernel (k : EpollSys) (e : Errno) : (k.setError e).kernel = k.kernel := rfl

@[simp]
theorem setError_table (k : EpollSys) (e : Errno) : (k.setError e).table = k.table := rfl

@[simp]
theorem setError_timers (k : EpollSys) (e : Errno) : (k.setError e).timers = k.timers := rfl

theorem table_of_data (h : k.data = some d) : k.table = d.registrations := by
  rw [table, h]

end EpollSys

/-- The result of an operation in the terms the invariants are stated in: the
loop's data is still there, and the watcher's platform data, the table, the kernel
and the timers are as given. -/
structure Yields (r : OpResult EpollSys EpollWatcherData) (pd : Option EpollWatcherData)
    (table : List Registration) (kernel : Kernel) (timers : Addr → Option (PdTimer ℤ)) :
    Prop where
  data_isSome : r.sys.data.isSome
  platformData_eq : r.platformData = pd
  table_eq : r.sys.table = table
  kernel_eq : r.sys.kernel = kernel
  timers_eq : r.sys.timers = timers

/-- The table after the eviction for descriptor `fd` and watcher `a`. -/
abbrev evicted (t : List Registration) (fd : ℤ) (a : Addr) : List Registration :=
  evictOther Registration.fd Registration.watcher fd a t

/-- The table after the watcher `a` has given up its record. -/
abbrev dropped (t : List Registration) (a : Addr) : List Registration :=
  dropOwner Registration.watcher a t

/-- The membership that registering the watcher `a` creates. -/
abbrev membership (a : Addr) (w : PdWatcher EpollWatcherData) : EpollEvent :=
  ⟨eventsToEpoll w.events, a⟩

/-- Everything `epoll_watcher_register` can do on an open loop: fail before it
touches anything; fail after the eviction, with the kernel as it was; or record
the new registration beside the new membership. -/
theorem register_cases (hd : k.data = some d) (a : Addr) (w : PdWatcher EpollWatcherData)
    (env : EpollEnv) :
    (env.dataAlloc = false ∧ (epollWatcherRegister k a w env).code ≠ .ok ∧
      Yields (epollWatcherRegister k a w env) w.platformData k.table k.kernel k.timers) ∨
    (env.dataAlloc = true ∧ (epollWatcherRegister k a w env).code ≠ .ok ∧
      Yields (epollWatcherRegister k a w env) w.platformData (evicted k.table w.fd a) k.kernel
        k.timers) ∨
    (env.dataAlloc = true ∧ (epollWatcherRegister k a w env).code = .ok ∧
      k.kernel.isOpen w.fd = true ∧ k.kernel.interest w.fd = none ∧
      Yields (epollWatcherRegister k a w env) (some ⟨membership a w⟩)
        (evicted k.table w.fd a ++ [⟨w.fd, a⟩])
        (k.kernel.setInterest w.fd (some (membership a w))) k.timers) := by
  have ht := EpollSys.table_of_data hd
  cases halloc : env.dataAlloc with
  | false =>
      have hr : epollWatcherRegister k a w env
          = ⟨k.setError .ENOMEM, w.platformData, .noMemory⟩ := by
        simp [epollWatcherRegister, hd, halloc]
      rw [hr]
      exact Or.inl ⟨rfl, by simp, by simp [hd], rfl, rfl, rfl, rfl⟩
  | true =>
      refine Or.inr ?_
      cases hadd : k.kernel.ctlAdd w.fd ⟨eventsToEpoll w.events, a⟩ env.refused with
      | error e =>
          have hr : epollWatcherRegister k a w env
              = ⟨(k.setData (epollEvictStaleRegistration d w.fd a)).setError e,
                w.platformData, .system⟩ := by
            simp [epollWatcherRegister, hd, halloc, hadd]
          rw [hr, ht]
          exact Or.inl ⟨rfl, by simp, rfl, rfl, rfl, rfl, rfl⟩
      | ok kernel =>
          obtain ⟨hopen, hnone, rfl⟩ := Kernel.ctlAdd_eq_ok hadd
          unfold epollWatcherRegister
          simp only [hd, halloc, hadd, Bool.not_true, Bool.false_eq_true, if_false]
          split
          · cases hgrow : env.growTable with
            | true => exact Or.inr ⟨trivial, rfl, hopen, hnone, rfl, rfl, ht ▸ rfl, rfl, rfl⟩
            | false =>
                refine Or.inl ⟨trivial, by simp, rfl, rfl, ht ▸ rfl, ?_, rfl⟩
                have hdel : (k.kernel.setInterest w.fd (some (membership a w))).ctlDel w.fd
                    = .ok k.kernel := by
                  rcases Kernel.ctlDel_cases (k.kernel.setInterest w.fd (some (membership a w)))
                    w.fd with h | h | h
                  · simp [hopen] at h
                  · simp at h
                  · rw [h.2.2, ← hnone, Kernel.setInterest_setInterest]
                simp only [Bool.false_eq_true, if_false, hdel]
                rfl
          · exact Or.inr ⟨trivial, rfl, hopen, hnone, rfl, rfl, ht ▸ rfl, rfl, rfl⟩

/-- A registration that has its memory, and that the kernel accepts, succeeds. -/
theorem register_of_room {env : EpollEnv} (hd : k.data = some d) (halloc : env.dataAlloc = true)
    (hrefused : env.refused = none) (hopen : k.kernel.isOpen w.fd = true)
    (hnone : k.kernel.interest w.fd = none)
    (hroom : env.growTable = true ∨ (epollEvictStaleRegistration d w.fd a).registrations.length <
      d.registrationCapacity) : (epollWatcherRegister k a w env).code = .ok := by
  have hadd : k.kernel.ctlAdd w.fd ⟨eventsToEpoll w.events, a⟩ env.refused =
      .ok (k.kernel.setInterest w.fd (some ⟨eventsToEpoll w.events, a⟩)) := by
    simp [Kernel.ctlAdd, hopen, hnone, hrefused]
  have hcap : (epollEvictStaleRegistration d w.fd a).registrationCapacity =
      d.registrationCapacity := rfl
  unfold epollWatcherRegister
  rw [hd]
  simp only [halloc, hadd, Bool.not_true, Bool.false_eq_true, if_false, hcap]
  rcases hroom with hgrow | hlt
  · rw [hgrow]
    split <;> rfl
  · rw [if_neg (Nat.not_le.2 hlt)]

/-- Everything `epoll_watcher_unregister` can do on an open loop: find no record
and touch nothing; keep the record because the kernel refused to delete a
non-member; or drop the record, together with the membership of the watcher's
descriptor where there is one. -/
theorem unregister_cases (hd : k.data = some d) (a : Addr) (w : PdWatcher EpollWatcherData) :
    ((∀ r ∈ k.table, r.watcher ≠ a) ∧ (epollWatcherUnregister k a w).code = .ok ∧
      Yields (epollWatcherUnregister k a w) none k.table k.kernel k.timers) ∨
    ((∃ r ∈ k.table, r.watcher = a) ∧ k.kernel.isOpen w.fd = true ∧
      k.kernel.interest w.fd = none ∧ (epollWatcherUnregister k a w).code = .system ∧
      Yields (epollWatcherUnregister k a w) w.platformData k.table k.kernel k.timers) ∨
    ((∃ r ∈ k.table, r.watcher = a) ∧ (epollWatcherUnregister k a w).code = .ok ∧
      (k.kernel.isOpen w.fd = true → (k.kernel.interest w.fd).isSome) ∧
      Yields (epollWatcherUnregister k a w) none (dropped k.table a)
        (k.kernel.release w.fd) k.timers) := by
  have ht := EpollSys.table_of_data hd
  rw [ht]
  cases hi : d.registrations.findIdx? (fun r => r.watcher == a) with
  | none =>
      have hr : epollWatcherUnregister k a w = ⟨k, none, .ok⟩ := by
        simp only [epollWatcherUnregister, hd, hi]
      rw [hr]
      rw [List.findIdx?_eq_none_iff] at hi
      refine Or.inl ⟨fun r hr hra => ?_, rfl, hd ▸ rfl, rfl, ht, rfl, rfl⟩
      simpa [hra] using hi r hr
  | some i =>
      obtain ⟨hlt, hp, -⟩ := List.findIdx?_eq_some_iff_getElem.1 hi
      have hmem : ∃ r ∈ d.registrations, r.watcher = a :=
        ⟨_, List.getElem_mem hlt, eq_of_beq hp⟩
      have hdrop : dropped d.registrations a = swapRemove d.registrations i := by
        rw [dropped, dropOwner, removeFirst, hi]
      refine Or.inr ?_
      rcases Kernel.ctlDel_cases k.kernel w.fd with ⟨hc, hdel⟩ | ⟨ho, hn, hdel⟩ | ⟨ho, hs, hdel⟩
      · have hr : epollWatcherUnregister k a w
            = ⟨k.setData { d with registrations := swapRemove d.registrations i }, none, .ok⟩ := by
          simp [epollWatcherUnregister, hd, hi, hdel]
        rw [hr, hdrop, Kernel.release_of_closed hc]
        exact Or.inr ⟨hmem, rfl, by simp [hc], rfl, rfl, rfl, rfl, rfl⟩
      · have hr : epollWatcherUnregister k a w
            = ⟨k.setError .ENOENT, w.platformData, .system⟩ := by
          simp [epollWatcherUnregister, hd, hi, hdel]
        rw [hr]
        exact Or.inl ⟨hmem, ho, hn, rfl, by simp [hd], rfl, ht, rfl, rfl⟩
      · have hr : (epollWatcherUnregister k a w) = ⟨{ k.setData { d with
            registrations := swapRemove d.registrations i } with
            kernel := k.kernel.setInterest w.fd none }, none, .ok⟩ := by
          simp [epollWatcherUnregister, hd, hi, hdel]
        rw [hr, hdrop, Kernel.release_of_open ho]
        exact Or.inr ⟨hmem, rfl, fun _ => hs, rfl, rfl, rfl, rfl, rfl⟩

/-- Everything `epoll_watcher_update` can do on an open loop: leave table and
kernel alone, or replace the membership of the watcher's descriptor. -/
theorem update_cases (hd : k.data = some d) (a : Addr) (w : PdWatcher EpollWatcherData)
    (events : PdEvent) (env : EpollEnv) :
    (w.platformData = none ∧ (epollWatcherUpdate k a w events env).code ≠ .ok ∧
      Yields (epollWatcherUpdate k a w events env) none k.table k.kernel k.timers) ∨
    (∃ wd, w.platformData = some wd ∧ (epollWatcherUpdate k a w events env).code ≠ .ok ∧
      (k.kernel.isOpen w.fd = false ∨ k.kernel.interest w.fd = none) ∧
      Yields (epollWatcherUpdate k a w events env)
        (some ⟨⟨eventsToEpoll events, wd.epollEvent.ptr⟩⟩) k.table k.kernel k.timers) ∨
    (∃ wd, w.platformData = some wd ∧ (epollWatcherUpdate k a w events env).code = .ok ∧
      k.kernel.isOpen w.fd = true ∧ (k.kernel.interest w.fd).isSome ∧
      Yields (epollWatcherUpdate k a w events env)
        (some ⟨⟨eventsToEpoll events, wd.epollEvent.ptr⟩⟩) k.table
        (k.kernel.setInterest w.fd (some ⟨eventsToEpoll events, wd.epollEvent.ptr⟩))
        k.timers) := by
  have ht := EpollSys.table_of_data hd
  unfold epollWatcherUpdate
  cases hp : w.platformData with
  | none =>
      simp only [hd]
      exact Or.inl ⟨trivial, by simp, hd ▸ rfl, rfl, rfl, rfl, rfl⟩
  | some wd =>
      refine Or.inr ?_
      cases hmod : k.kernel.ctlMod w.fd ⟨eventsToEpoll events, wd.epollEvent.ptr⟩ with
      | error e =>
          simp only [hd, hmod]
          exact Or.inl ⟨wd, rfl, by simp, Kernel.ctlMod_eq_error hmod, hd ▸ rfl, rfl, rfl, rfl, rfl⟩
      | ok kernel =>
          obtain ⟨ho, hs, rfl⟩ := Kernel.ctlMod_eq_ok hmod
          simp only [hd, hmod]
          exact Or.inr ⟨wd, rfl, trivial, ho, hs, rfl, rfl, ht.symm, rfl, rfl⟩

end Epoll
end PollDancer
