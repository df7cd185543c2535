/-
# Watcher calls on an epoll loop

The generic watcher layer over the epoll backend.  A state of the loop is looked
at through its `View`: the watchers allocated, the watcher list, the table, the
kernel and the timers.  `stop_cases`, `start_cases`, `create_cases`,
`update_cases'` and `destroy_cases` list what each call of the API can do to the
view, with the condition of each outcome; nothing after this module unfolds a
call again.

A watcher is `Stuck` when the table still holds its record but its descriptor
number belongs to an open file outside the interest set: the file it watched was
closed and the number recycled.  `EPOLL_CTL_DEL` then fails with `ENOENT`, and
the record stays.
-/
import PollDancer.Epoll.Backend
import PollDancer.Library.Machine

namespace PollDancer
namespace Epoll

open Library

/-- The state of an epoll loop. -/
abbrev EpollWorld := World EpollSys EpollWatcherData

/-- What the invariants of an epoll loop are about. -/
structure View where
  heap : Addr → Option (PdWatcher EpollWatcherData)
  occupied : List Addr
  table : List Registration
  kernel : Kernel
  timers : Addr → Option (PdTimer ℤ)

/-- The view of a state. -/
def view (s : EpollWorld) : View where
  heap := s.heap
  occupied := s.loop.occupied
  table := s.sys.table
  kernel := s.sys.kernel
  timers := s.sys.timers

/-- The loop's platform data exists: the loop has not been torn down. -/
def Attached (s : EpollWorld) : Prop := s.sys.data.isSome

/-- `pd_loop_create` with `epoll_loop_create`: no watchers, an empty table, and the
eventfd as the only member, with a null `data.ptr`.  `isOpen` are the descriptors
open in the process. -/
def epollLoopCreate (eventfd : ℤ) (isOpen : ℤ → Bool) : EpollWorld where
  heap := fun _ => none
  loop := PdLoop.create
  sys :=
    { data := some { eventfdFd := eventfd, registrations := [], registrationCapacity := 0 }
      kernel :=
        { isOpen := Function.update isOpen eventfd true
          interest := Function.update (fun _ => none) eventfd (some ⟨EPOLLIN, NULL⟩)
          timers := fun _ => none }
      systemError := none
      timers := fun _ => none }
  destroyed := []

/-- A fresh loop watches its eventfd. -/
theorem create_interest (eventfd : ℤ) (isOpen : ℤ → Bool) (fd : ℤ) :
    (epollLoopCreate eventfd isOpen).sys.kernel.interest fd =
      if fd = eventfd then some ⟨EPOLLIN, NULL⟩ else none := by
  simp [epollLoopCreate, Function.update_apply]

theorem create_isOpen (eventfd : ℤ) (isOpen : ℤ → Bool) (fd : ℤ) :
    (epollLoopCreate eventfd isOpen).sys.kernel.isOpen fd =
      if fd = eventfd then true else isOpen fd := by
  simp [epollLoopCreate, Function.update_apply]

/-- A descriptor is closed, by any part of the process. -/
def closeFd (s : EpollWorld) (fd : ℤ) : EpollWorld :=
  { s with sys := { s.sys with kernel := s.sys.kernel.close fd } }

/-- A descriptor number is handed out for a new file. -/
def openFd (s : EpollWorld) (fd : ℤ) : EpollWorld :=
  { s with sys := { s.sys with kernel := s.sys.kernel.openFd fd } }

namespace View

/-- The watcher structure at `a` is replaced, or freed. -/
def setHeap (v : View) (a : Addr) (w : Option (PdWatcher EpollWatcherData)) : View :=
  { v with heap := Function.update v.heap a w }

/-- The table and the kernel are replaced. -/
def setReg (v : View) (table : List Registration) (kernel : Kernel) : View :=
  { v with table, kernel }

/-- The watcher list is replaced. -/
def setOccupied (v : View) (occupied : List Addr) : View :=
  { v with occupied }

/-- Does the table hold a record of the watcher? -/
def HasRecord (v : View) (a : Addr) : Prop := ∃ r ∈ v.table, r.watcher = a

/-- The record of the watcher is there, but its descriptor number belongs to an
open file that is not a member. -/
def Stuck (v : View) (a : Addr) (fd : ℤ) : Prop :=
  v.HasRecord a ∧ v.kernel.isOpen fd = true ∧ v.kernel.interest fd = none

section Fields

variable (v : View) (a : Addr) (x : Option (PdWatcher EpollWatcherData))
  (table : List Registration) (kernel : Kernel) (l : List Addr)

@[simp]
theorem setHeap_heap_self : (v.setHeap a x).heap a = x := Function.update_self ..

variable {a} in
theorem setHeap_heap_ne {b : Addr} (h : b ≠ a) : (v.setHeap a x).heap b = v.heap b :=
  Function.update_of_ne h ..

variable {a x} in
/-- A watcher of the heap after a write was written or was there before. -/
theorem heap_of_setHeap {b : Addr} {y : PdWatcher EpollWatcherData}
    (h : (v.setHeap a x).heap b = some y) : (b = a ∧ x = some y) ∨ (b ≠ a ∧ v.heap b = some y) := by
  rcases eq_or_ne b a with rfl | hb
  · exact Or.inl ⟨rfl, (v.setHeap_heap_self b x).symm.trans h⟩
  · exact Or.inr ⟨hb, (v.setHeap_heap_ne x hb).symm.trans h⟩

@[simp]
theorem setReg_kernel : (v.setReg table kernel).kernel = kernel := rfl

@[simp]
theorem setOccupied_heap : (v.setOccupied l).heap = v.heap := rfl

@[simp]
theorem setOccupied_occupied : (v.setOccupied l).occupied = l := rfl

end Fields

end View

variable {s : EpollWorld} {a : Addr} {w : PdWatcher EpollWatcherData}

/-- A stopped watcher: not active, and its platform data freed. -/
def stopped (w : PdWatcher EpollWatcherData) : PdWatcher EpollWatcherData :=
  { w with active := false, platformData := none }

/-- A started watcher: active, with its membership as platform data. -/
def started (a : Addr) (w : PdWatcher EpollWatcherData) : PdWatcher EpollWatcherData :=
  { w with active := true, platformData := some ⟨membership a w⟩ }

/-- A watcher after `pd_watcher_update` has reached its platform data. -/
def updated (w : PdWatcher EpollWatcherData) (events : PdEvent) (ev : EpollEvent) :
    PdWatcher EpollWatcherData :=
  { w with events, platformData := some ⟨ev⟩ }

theorem attached_iff : Attached s ↔ ∃ d, s.sys.data = some d :=
  Option.isSome_iff_exists

theorem view_put {s : EpollWorld} {a : Addr} {w : PdWatcher EpollWatcherData}
    {r : OpResult EpollSys EpollWatcherData} {pd : Option EpollWatcherData}
    {table : List Registration} {kernel : Kernel} (h : Yields r pd table kernel s.sys.timers) :
    view ((s.setWatcher a w).setSys r.sys) =
      ((view s).setHeap a (some w)).setReg table kernel := by
  simp only [view, View.setHeap, View.setReg, World.setWatcher, World.setSys, h.timers_eq,
    h.table_eq, h.kernel_eq]

theorem view_setSys {s : EpollWorld} {r : OpResult EpollSys EpollWatcherData}
    {pd : Option EpollWatcherData} {table : List Registration} {kernel : Kernel}
    (h : Yields r pd table kernel s.sys.timers) :
    view (s.setSys r.sys) = (view s).setReg table kernel := by
  simp only [view, View.setReg, World.setSys, h.timers_eq, h.table_eq, h.kernel_eq]

theorem view_closeFd (s : EpollWorld) (fd : ℤ) :
    view (closeFd s fd) = (view s).setReg s.sys.table (s.sys.kernel.close fd) := rfl

theorem view_openFd (s : EpollWorld) (fd : ℤ) :
    view (openFd s fd) = (view s).setReg s.sys.table (s.sys.kernel.openFd fd) := rfl

/-- Writing back the watcher that is there changes nothing. -/
theorem View.setHeap_self {v : View} (h : v.heap a = some w) : v.setHeap a (some w) = v := by
  rw [View.setHeap, ← h, Function.update_eq_self]

/-- What `pd_watcher_stop` can do to a watcher: nothing when it is stopped; stop it
when no record names it; refuse when it is stuck; give up its record. -/
theorem stop_cases (hs : Attached s) (hw : s.heap a = some w) :
    Attached (pdWatcherStop epollOps s a).1 ∧
    ((w.active = false ∧ pdWatcherStop epollOps s a = (s, .ok)) ∨
    (w.active = true ∧ ¬(view s).HasRecord a ∧ (pdWatcherStop epollOps s a).2 = .ok ∧
      view (pdWatcherStop epollOps s a).1 = (view s).setHeap a (some (stopped w))) ∨
    (w.active = true ∧ (view s).Stuck a w.fd ∧ (pdWatcherStop epollOps s a).2 = .system ∧
      view (pdWatcherStop epollOps s a).1 = view s) ∨
    (w.active = true ∧ (view s).HasRecord a ∧ ¬(view s).Stuck a w.fd ∧
      (pdWatcherStop epollOps s a).2 = .ok ∧
      view (pdWatcherStop epollOps s a).1 = ((view s).setHeap a (some (stopped w))).setReg
        (dropped s.sys.table a) (s.sys.kernel.release w.fd))) := by
  obtain ⟨d, hd⟩ := attached_iff.1 hs
  cases hact : w.active with
  | false =>
      have hr : pdWatcherStop epollOps s a = (s, .ok) := by
        simp [pdWatcherStop, hw, hact]
      rw [hr]
      exact ⟨hs, Or.inl ⟨rfl, rfl⟩⟩
  | true =>
      rcases unregister_cases hd a { w with active := false } with
        ⟨hno, hcode, hy⟩ | ⟨hrec, ho, hn, hcode, hy⟩ | ⟨hrec, hcode, hm, hy⟩
      · rw [stop_of_ok hw hact rfl hcode]
        refine ⟨hy.data_isSome, Or.inr (Or.inl ⟨rfl, ?_, rfl, ?_⟩)⟩
        · rintro ⟨r, hr, hra⟩
          exact hno r hr hra
        · rw [show epollOps.watcherUnregister = epollWatcherUnregister from rfl, view_put hy,
            hy.platformData_eq]
          rfl
      · have hne : (epollOps.watcherUnregister s.sys a { w with active := false }).code ≠ .ok := by
          rw [show epollOps.watcherUnregister = epollWatcherUnregister from rfl, hcode]
          simp
        rw [stop_of_ne_ok hw hact rfl hne]
        refine ⟨hy.data_isSome, Or.inr (Or.inr (Or.inl ⟨rfl, ⟨hrec, ho, hn⟩, hcode, ?_⟩))⟩
        rw [show epollOps.watcherUnregister = epollWatcherUnregister from rfl, view_put hy,
          hy.platformData_eq]
        have hself : ({ w with active := true } : PdWatcher EpollWatcherData) = w := by
          rw [← hact]
        exact congrArg (fun v => View.setReg v s.sys.table s.sys.kernel)
          (hself ▸ View.setHeap_self (v := view s) hw)
      · rw [stop_of_ok hw hact rfl hcode]
        refine ⟨hy.data_isSome, Or.inr (Or.inr (Or.inr ⟨rfl, hrec, ?_, rfl, ?_⟩))⟩
        · rintro ⟨-, ho, hn⟩
          have hsome := hm ho
          rw [show s.sys.kernel.interest w.fd = none from hn] at hsome
          exact absurd hsome (by simp)
        · rw [show epollOps.watcherUnregister = epollWatcherUnregister from rfl, view_put hy,
            hy.platformData_eq]
          rfl

/-- What `pd_watcher_start` can do to a watcher: nothing when it is active; fail
before the eviction; fail after it; register the watcher. -/
theorem start_cases (env : EpollEnv) (hs : Attached s) (hw : s.heap a = some w) :
    Attached (pdWatcherStart epollOps s a env).1 ∧
    ((w.active = true ∧ pdWatcherStart epollOps s a env = (s, .ok)) ∨
    (w.active = false ∧ env.dataAlloc = false ∧ (pdWatcherStart epollOps s a env).2 ≠ .ok ∧
      view (pdWatcherStart epollOps s a env).1 = view s) ∨
    (w.active = false ∧ env.dataAlloc = true ∧ (pdWatcherStart epollOps s a env).2 ≠ .ok ∧
      view (pdWatcherStart epollOps s a env).1 =
        (view s).setReg (evicted s.sys.table w.fd a) s.sys.kernel) ∨
    (w.active = false ∧ (pdWatcherStart epollOps s a env).2 = .ok ∧
      s.sys.kernel.isOpen w.fd = true ∧ s.sys.kernel.interest w.fd = none ∧
      view (pdWatcherStart epollOps s a env).1 =
        ((view s).setHeap a (some (started a w))).setReg
          (evicted s.sys.table w.fd a ++ [⟨w.fd, a⟩])
          (s.sys.kernel.setInterest w.fd (some (membership a w))))) := by
  obtain ⟨d, hd⟩ := attached_iff.1 hs
  cases hact : w.active with
  | true =>
      rw [start_of_active env hw hact]
      exact ⟨hs, Or.inl ⟨rfl, rfl⟩⟩
  | false =>
      have hself : ({ w with active := false } : PdWatcher EpollWatcherData) = w := by rw [← hact]
      have hback : (view s).setHeap a (some w) = view s := View.setHeap_self hw
      rcases register_cases hd a { w with active := true } env with
        ⟨halloc, hne, hy⟩ | ⟨halloc, hne, hy⟩ | ⟨halloc, hok, ho, hn, hy⟩
      · rw [start_of_ne_ok hw hact rfl hne]
        refine ⟨hy.data_isSome, Or.inr (Or.inl ⟨rfl, halloc, hne, ?_⟩)⟩
        rw [show epollOps.watcherRegister = epollWatcherRegister from rfl, view_put hy,
          hy.platformData_eq]
        exact congrArg (fun v => View.setReg v s.sys.table s.sys.kernel) (hself ▸ hback)
      · rw [start_of_ne_ok hw hact rfl hne]
        refine ⟨hy.data_isSome, Or.inr (Or.inr (Or.inl ⟨rfl, halloc, hne, ?_⟩))⟩
        rw [show epollOps.watcherRegister = epollWatcherRegister from rfl, view_put hy,
          hy.platformData_eq]
        exact congrArg (fun v => View.setReg v _ s.sys.kernel) (hself ▸ hback)
      · rw [start_of_ok hw hact rfl hok]
        refine ⟨hy.data_isSome, Or.inr (Or.inr (Or.inr ⟨rfl, rfl, ho, hn, ?_⟩))⟩
        rw [show epollOps.watcherRegister = epollWatcherRegister from rfl, view_put hy,
          hy.platformData_eq]
        rfl

/-- What `pd_watcher_update` can do to a watcher: nothing when it is stopped; only
remember the events; replace the membership of its descriptor as well. -/
theorem update_cases' (events : PdEvent) (env : EpollEnv) (hs : Attached s)
    (hw : s.heap a = some w) :
    Attached (pdWatcherUpdate epollOps s a events env).1 ∧
    ((w.active = false ∧ pdWatcherUpdate epollOps s a events env = (s, .watcherStopped)) ∨
    (w.active = true ∧ w.platformData = none ∧
      view (pdWatcherUpdate epollOps s a events env).1 =
        (view s).setHeap a (some { w with events })) ∨
    (∃ wd, w.active = true ∧ w.platformData = some wd ∧
      (s.sys.kernel.isOpen w.fd = false ∨ s.sys.kernel.interest w.fd = none) ∧
      view (pdWatcherUpdate epollOps s a events env).1 =
        (view s).setHeap a
          (some (updated w events ⟨eventsToEpoll events, wd.epollEvent.ptr⟩))) ∨
    (∃ wd, w.active = true ∧ w.platformData = some wd ∧
      s.sys.kernel.isOpen w.fd = true ∧ (s.sys.kernel.interest w.fd).isSome ∧
      view (pdWatcherUpdate epollOps s a events env).1 =
        ((view s).setHeap a
          (some (updated w events ⟨eventsToEpoll events, wd.epollEvent.ptr⟩))).setReg s.sys.table
          (s.sys.kernel.setInterest w.fd
            (some ⟨eventsToEpoll events, wd.epollEvent.ptr⟩)))) := by
  obtain ⟨d, hd⟩ := attached_iff.1 hs
  cases hact : w.active with
  | false =>
      rw [update_of_inactive hw hact]
      exact ⟨hs, Or.inl ⟨rfl, rfl⟩⟩
  | true =>
      rw [update_of_active hw hact rfl, show epollOps.watcherUpdate = epollWatcherUpdate from rfl]
      rcases update_cases hd a { w with events } events env with
        ⟨hpd, -, hy⟩ | ⟨wd, hpd, -, hno, hy⟩ | ⟨wd, hpd, -, ho, hsome, hy⟩
      · refine ⟨hy.data_isSome, Or.inr (Or.inl ⟨rfl, hpd, ?_⟩)⟩
        have hpd' : w.platformData = none := hpd
        rw [view_put hy, hy.platformData_eq, ← hpd', ← hact]
        rfl
      · refine ⟨hy.data_isSome, Or.inr (Or.inr (Or.inl ⟨wd, rfl, hpd, hno, ?_⟩))⟩
        rw [view_put hy, hy.platformData_eq]
        rfl
      · refine ⟨hy.data_isSome, Or.inr (Or.inr (Or.inr ⟨wd, rfl, hpd, ho, hsome, ?_⟩))⟩
        rw [view_put hy, hy.platformData_eq]
        rfl

/-- What `pd_watcher_create` can do: find no memory for the watcher; fail before the
eviction; fail after it; register the watcher and give it up again because the
loop's list cannot grow; create it. -/
theorem create_cases (fd : ℤ) (events : PdEvent) (callback : Option Callback) (userData : Addr)
    (env : CallEnv EpollEnv) (hs : Attached s) :
    Attached (pdWatcherCreate epollOps s fd events callback userData env).1 ∧
    ((s.calloc env.calloc = none ∧
      pdWatcherCreate epollOps s fd events callback userData env = (s, none)) ∨
    ∃ a, s.calloc env.calloc = some a ∧
      ((env.backend.dataAlloc = false ∧
        (pdWatcherCreate epollOps s fd events callback userData env).2 = none ∧
        view (pdWatcherCreate epollOps s fd events callback userData env).1 = view s) ∨
      (env.backend.dataAlloc = true ∧
        (pdWatcherCreate epollOps s fd events callback userData env).2 = none ∧
        view (pdWatcherCreate epollOps s fd events callback userData env).1 =
          (view s).setReg (evicted s.sys.table fd a) s.sys.kernel) ∨
      (env.backend.dataAlloc = true ∧
        (pdWatcherCreate epollOps s fd events callback userData env).2 = none ∧
        s.sys.kernel.interest fd = none ∧
        view (pdWatcherCreate epollOps s fd events callback userData env).1 =
          (view s).setReg (dropped (evicted s.sys.table fd a ++ [⟨fd, a⟩]) a) s.sys.kernel) ∨
      (env.backend.dataAlloc = true ∧
        (pdWatcherCreate epollOps s fd events callback userData env).2 = some a ∧
        s.sys.kernel.isOpen fd = true ∧ s.sys.kernel.interest fd = none ∧
        view (pdWatcherCreate epollOps s fd events callback userData env).1 =
          (((view s).setHeap a
            (some (started a (newWatcher fd events callback userData)))).setReg
            (evicted s.sys.table fd a ++ [⟨fd, a⟩])
            (s.sys.kernel.setInterest fd
              (some (membership a (newWatcher fd events callback userData))))).setOccupied
            (s.loop.occupied ++ [a])))) := by
  obtain ⟨d, hd⟩ := attached_iff.1 hs
  cases hc : s.calloc env.calloc with
  | none =>
      rw [create_of_calloc_none hc]
      exact ⟨hs, Or.inl ⟨rfl, rfl⟩⟩
  | some a =>
      have hreg := register_cases hd a (newWatcher fd events callback userData) env.backend
      rcases hreg with ⟨halloc, hne, hy⟩ | ⟨halloc, hne, hy⟩ | ⟨halloc, hok, ho, hn, hy⟩
      · rw [create_of_ne_ok hc rfl hne]
        refine ⟨hy.data_isSome, Or.inr ⟨a, rfl, Or.inl ⟨halloc, rfl, ?_⟩⟩⟩
        exact view_setSys hy
      · rw [create_of_ne_ok hc rfl hne]
        refine ⟨hy.data_isSome, Or.inr ⟨a, rfl, Or.inr (Or.inl ⟨halloc, rfl, ?_⟩)⟩⟩
        exact view_setSys hy
      · by_cases hadd : (pdLoopAddWatcher s.loop a env.growList).2 = .ok
        · rw [create_of_ok hc rfl hok hadd]
          refine ⟨hy.data_isSome, Or.inr ⟨a, rfl, Or.inr (Or.inr (Or.inr
            ⟨halloc, rfl, ho, hn, ?_⟩))⟩⟩
          rw [show epollOps.watcherRegister = epollWatcherRegister from rfl]
          simp only [view, View.setHeap, View.setReg, View.setOccupied, World.setWatcher,
            World.setLoop, World.setSys, hy.table_eq, hy.kernel_eq, hy.timers_eq,
            hy.platformData_eq, PdLoop.occupied_add hadd]
          rfl
        · rw [create_of_list_full hc rfl hok hadd rfl]
          obtain ⟨d', hd'⟩ := Option.isSome_iff_exists.1 hy.data_isSome
          have hu := unregister_cases hd' a
            { (newWatcher fd events callback userData : PdWatcher EpollWatcherData) with
              platformData := (epollWatcherRegister s.sys a
                (newWatcher fd events callback userData) env.backend).platformData }
          rw [hy.table_eq, hy.kernel_eq, hy.timers_eq] at hu
          rcases hu with ⟨hno, -, -⟩ | ⟨-, -, hn', -, -⟩ | ⟨-, -, -, hy'⟩
          · exact absurd rfl (hno ⟨fd, a⟩ (by simp [newWatcher]))
          · exact absurd hn' (by simp)
          · refine ⟨hy'.data_isSome, Or.inr ⟨a, rfl, Or.inr (Or.inr (Or.inl
              ⟨halloc, rfl, hn, ?_⟩))⟩⟩
            refine (view_setSys hy').trans (congrArg (View.setReg _ _) ?_)
            rw [Kernel.release_of_open (by exact ho)]
            have hk := Kernel.setInterest_setInterest s.sys.kernel fd
              (some (membership a (newWatcher fd events callback userData)))
            rw [show s.sys.kernel.interest fd = none from hn] at hk
            exact hk

/-- There are no handle watchers on epoll. -/
theorem epoll_createForHandle (handle : Handle) (events : PdEvent) (callback : Option Callback)
    (userData : Addr) (env : CallEnv EpollEnv) :
    pdWatcherCreateForHandle epollOps s handle events callback userData env = (s, none) :=
  createForHandle_of_ne_ok fun _ _ _ _ => ⟨by simp [epollOps, epollWatcherRegisterHandleUnused],
    rfl⟩

/-- The view after `pd_watcher_destroy` has freed the watcher and taken it off the
list, with the table and the kernel as given. -/
def View.without (v : View) (a : Addr) (table : List Registration) (kernel : Kernel) : View :=
  ((v.setHeap a none).setReg table kernel).setOccupied (v.occupied.erase a)

/-- Freeing a watcher forgets that it was stopped first. -/
theorem without_stopped {s' : EpollWorld} {x : Option (PdWatcher EpollWatcherData)} {v : View}
    {table : List Registration} {kernel : Kernel}
    (hv : view s' = (v.setHeap a x).setReg table kernel) :
    (view s').without a s'.sys.table s'.sys.kernel = v.without a table kernel := by
  have ht : s'.sys.table = table := congrArg View.table hv
  have hk : s'.sys.kernel = kernel := congrArg View.kernel hv
  rw [hv, ht, hk]
  simp [View.without, View.setHeap, View.setReg, View.setOccupied]

/-- The end of `pd_watcher_destroy`: unregister once more, leave the list, free. -/
theorem cleanup_cases (hs : Attached s) (hw : s.heap a = some w) (ha : a ≠ NULL) :
    Attached ((pdWatcherCleanup epollOps s a).free a) ∧
    ((¬(view s).HasRecord a ∧ view ((pdWatcherCleanup epollOps s a).free a) =
      (view s).without a s.sys.table s.sys.kernel) ∨
    ((view s).Stuck a w.fd ∧ view ((pdWatcherCleanup epollOps s a).free a) =
      (view s).without a s.sys.table s.sys.kernel) ∨
    ((view s).HasRecord a ∧ ¬(view s).Stuck a w.fd ∧
      view ((pdWatcherCleanup epollOps s a).free a) =
        (view s).without a (dropped s.sys.table a) (s.sys.kernel.release w.fd))) := by
  obtain ⟨d, hd⟩ := attached_iff.1 hs
  have hview : ∀ {pd table kernel},
      Yields (epollWatcherUnregister s.sys a w) pd table kernel s.sys.timers →
      Attached ((pdWatcherCleanup epollOps s a).free a) ∧
        view ((pdWatcherCleanup epollOps s a).free a) = (view s).without a table kernel := by
    intro pd table kernel hy
    rw [cleanup_of_some hw rfl, show epollOps.watcherUnregister = epollWatcherUnregister from rfl]
    refine ⟨hy.data_isSome, ?_⟩
    simp only [view, View.without, View.setHeap, View.setReg, View.setOccupied, World.free,
      World.setLoop, World.setSys, World.setWatcher, hy.table_eq, hy.kernel_eq, hy.timers_eq,
      PdLoop.occupied_remove ha, Function.update_idem]
  rcases unregister_cases hd a w with
    ⟨hno, -, hy⟩ | ⟨hrec, ho, hn, -, hy⟩ | ⟨hrec, -, hm, hy⟩
  · refine ⟨(hview hy).1, Or.inl ⟨?_, (hview hy).2⟩⟩
    rintro ⟨r, hr, hra⟩
    exact hno r hr hra
  · exact ⟨(hview hy).1, Or.inr (Or.inl ⟨⟨hrec, ho, hn⟩, (hview hy).2⟩)⟩
  · refine ⟨(hview hy).1, Or.inr (Or.inr ⟨hrec, ?_, (hview hy).2⟩)⟩
    rintro ⟨-, ho, hn⟩
    have hsome := hm ho
    rw [show s.sys.kernel.interest w.fd = none from hn] at hsome
    exact absurd hsome (by simp)

/-- What `pd_watcher_destroy` can do to a watcher while no watcher has two records:
free it without touching table or kernel, because it has no record or is stuck; or
free it and give up its record. -/
theorem destroy_cases (hs : Attached s) (hw : s.heap a = some w) (ha : a ≠ NULL)
    (huniq : Unique Registration.fd Registration.watcher s.sys.table) :
    Attached (pdWatcherDestroy epollOps s a) ∧
    ((¬(view s).HasRecord a ∧
      view (pdWatcherDestroy epollOps s a) = (view s).without a s.sys.table s.sys.kernel) ∨
    ((view s).Stuck a w.fd ∧
      view (pdWatcherDestroy epollOps s a) = (view s).without a s.sys.table s.sys.kernel) ∨
    ((view s).HasRecord a ∧ ¬(view s).Stuck a w.fd ∧
      view (pdWatcherDestroy epollOps s a) =
        (view s).without a (dropped s.sys.table a) (s.sys.kernel.release w.fd))) := by
  have hdes : pdWatcherDestroy epollOps s a =
      (pdWatcherCleanup epollOps (pdWatcherStop epollOps s a).1 a).free a := by
    rw [pdWatcherDestroy, hw]
  rw [hdes]
  obtain ⟨hs', hstop⟩ := stop_cases hs hw
  rcases hstop with ⟨-, heq⟩ | ⟨-, hno, -, hv⟩ | ⟨-, hstuck, -, hv⟩ | ⟨-, hrec, hns, -, hv⟩
  · rw [heq]
    exact cleanup_cases hs hw ha
  · -- no record: the second attempt finds none either
    have hw' : (pdWatcherStop epollOps s a).1.heap a = some (stopped w) :=
      (congrFun (congrArg View.heap hv) a).trans (Function.update_self ..)
    obtain ⟨hatt, hcases⟩ := cleanup_cases hs' hw' ha
    refine ⟨hatt, Or.inl ⟨hno, ?_⟩⟩
    have hno' : ¬(view (pdWatcherStop epollOps s a).1).HasRecord a := by rwa [hv]
    have hv' : view (pdWatcherStop epollOps s a).1 =
        ((view s).setHeap a (some (stopped w))).setReg s.sys.table s.sys.kernel := hv
    rcases hcases with ⟨-, h⟩ | ⟨⟨hrec, -⟩, -⟩ | ⟨hrec, -⟩
    · exact h.trans (without_stopped hv')
    · exact absurd hrec hno'
    · exact absurd hrec hno'
  · -- stuck: the second attempt fails like the first
    have hw' : (pdWatcherStop epollOps s a).1.heap a = some w :=
      (congrFun (congrArg View.heap hv) a).trans hw
    obtain ⟨hatt, hcases⟩ := cleanup_cases hs' hw' ha
    rw [hv] at hcases
    refine ⟨hatt, Or.inr (Or.inl ⟨hstuck, ?_⟩)⟩
    have ht : (pdWatcherStop epollOps s a).1.sys.table = s.sys.table := congrArg View.table hv
    have hk : (pdWatcherStop epollOps s a).1.sys.kernel = s.sys.kernel := congrArg View.kernel hv
    rcases hcases with ⟨hno, -⟩ | ⟨-, h⟩ | ⟨-, hns, -⟩
    · exact absurd hstuck.1 hno
    · rw [h, ht, hk]
    · exact absurd hstuck hns
  · -- the record was given up: the second attempt finds none
    have hw' : (pdWatcherStop epollOps s a).1.heap a = some (stopped w) :=
      (congrFun (congrArg View.heap hv) a).trans (Function.update_self ..)
    obtain ⟨hatt, hcases⟩ := cleanup_cases hs' hw' ha
    have hno' : ¬(view (pdWatcherStop epollOps s a).1).HasRecord a := by
      rw [hv]
      rintro ⟨r, hr, hra⟩
      exact (huniq.mem_dropOwner.1 hr).2 hra
    refine ⟨hatt, Or.inr (Or.inr ⟨hrec, hns, ?_⟩)⟩
    rcases hcases with ⟨-, h⟩ | ⟨⟨hrec', -⟩, -⟩ | ⟨hrec', -⟩
    · exact h.trans (without_stopped hv)
    · exact absurd hrec' hno'
    · exact absurd hrec' hno'

/-! ### Runs -/

/-- What can happen to an epoll loop: a call of the API, or a descriptor that is
closed or handed out by some other part of the process. -/
inductive Action
  | call (c : Call EpollEnv)
  | closeFd (fd : ℤ)
  | openFd (fd : ℤ)
  deriving DecidableEq

/-- The state after an action. -/
def perform (s : EpollWorld) : Action → EpollWorld
  | .call c => (s.exec epollOps c).1
  | .closeFd fd => closeFd s fd
  | .openFd fd => openFd s fd

/-- The runs of an epoll loop: it starts as `pd_loop_create` leaves it, and any
action may follow in any state. -/
def runs : Machine EpollWorld Action :=
  Machine.ofFun (fun s => ∃ eventfd isOpen, s = epollLoopCreate eventfd isOpen)
    fun s act => some (perform s act)

/-- The state a list of actions leads to. -/
def performAll (s : EpollWorld) (acts : List Action) : EpollWorld := acts.foldl perform s

/-- A list of actions that meet the guard one by one extends a guarded run. -/
theorem reach_performAll {ok : EpollWorld → Action → Prop} [∀ s act, Decidable (ok s act)]
    {s : EpollWorld} (h : runs.Reach ok s) (acts : List Action)
    (hok : (Machine.runGuarded ok (fun s act => some (perform s act)) s acts).isSome = true) :
    runs.Reach ok (performAll s acts) := by
  induction acts generalizing s with
  | nil => exact h
  | cons act acts ih =>
      rw [Machine.runGuarded] at hok
      split at hok
      · rename_i hact
        exact ih (.step h hact rfl) hok
      · simp at hok

theorem runs_next {s s' : EpollWorld} {act : Action} (h : runs.next s act s') :
    s' = perform s act :=
  (Option.some.inj h).symm

theorem attached_create (eventfd : ℤ) (isOpen : ℤ → Bool) :
    Attached (epollLoopCreate eventfd isOpen) := rfl

/-- The environment answers a creation at `a` with success throughout. -/
def granted (a : Addr) : CallEnv EpollEnv where
  calloc := some a
  growList := true
  backend := { dataAlloc := true, refused := none, growTable := true }

/-- A creation that succeeds, for the readable end of `fd`. -/
def createCall (a : Addr) (fd : ℤ) : Call EpollEnv :=
  .create fd .read (some (.user 1)) NULL (granted a)

/-- A creation that succeeds, as an action. -/
def createAt (a : Addr) (fd : ℤ) : Action := .call (createCall a fd)

end Epoll
end PollDancer
