/-
# Three tables in step

The interest set of the kernel, the table of registrations and the watchers with
`active = 1` are kept by three different pieces of code.  In runs where descriptors
outlive their watchers and no two watchers share one (`Orderly`), they agree exactly
after every call (`agreement_of_reach`), whatever fails, and with timers coming and
going: a timer's internal watcher is a watcher like the others, except that it is
the library that must close its descriptor last.

`Sound` is the invariant: `Owned` and `Tracked`, and the three facts that an orderly
run adds.  Each call has one lemma that says that it keeps `Sound` and whose
descriptors it may have touched (`Frame`); the timer calls are compositions of those.
-/
import PollDancer.Epoll.Teardown
import PollDancer.Epoll.Timer

namespace PollDancer
namespace Epoll

open Library

/-- What orderly runs add: active watchers are registered with their mask, and every
watcher has an open descriptor of its own. -/
structure Agree (eventfd : ℤ) (v : View) : Prop where
  registered : ∀ a w, v.heap a = some w → w.active = true →
    ⟨w.fd, a⟩ ∈ v.table ∧ v.kernel.interest w.fd = some (membership a w) ∧
      w.platformData = some ⟨membership a w⟩
  named : ∀ a w, v.heap a = some w → v.kernel.isOpen w.fd = true
  distinct : ∀ a b w x, v.heap a = some w → v.heap b = some x → w.fd = x.fd → a = b
  null_only : ∀ fd ev, v.kernel.interest fd = some ev → ev.ptr = NULL → fd = eventfd

/-- The invariant of orderly runs. -/
structure Sound (eventfd : ℤ) (s : EpollWorld) : Prop where
  attached : Attached s
  owned : Owned (view s)
  tracked : Tracked (view s)
  agree : Agree eventfd (view s)

/-- What a call on the watcher `a` leaves alone: the timers, the open descriptors, and
every other watcher; and `a` keeps its descriptor. -/
structure Frame (s s' : EpollWorld) (a : Addr) : Prop where
  timers_eq : s'.sys.timers = s.sys.timers
  isOpen_eq : s'.sys.kernel.isOpen = s.sys.kernel.isOpen
  heap_ne : ∀ b, b ≠ a → s'.heap b = s.heap b

section

variable {eventfd : ℤ} {s s' : EpollWorld} {a : Addr} {w : PdWatcher EpollWatcherData} {fd : ℤ}

/-- `Sound` looks at the watchers, the list, the table, and the kernel's descriptors and
members only. -/
theorem Sound.congr (h : Sound eventfd s) (hd : Attached s') (hheap : s'.heap = s.heap)
    (hocc : s'.loop.occupied = s.loop.occupied) (htable : s'.sys.table = s.sys.table)
    (hint : s'.sys.kernel.interest = s.sys.kernel.interest)
    (hopen : s'.sys.kernel.isOpen = s.sys.kernel.isOpen) : Sound eventfd s' := by
  obtain ⟨-, ho, ht, ha⟩ := h
  have h₁ : (view s').heap = (view s).heap := hheap
  have h₂ : (view s').occupied = (view s).occupied := hocc
  have h₃ : (view s').table = (view s).table := htable
  have h₄ : (view s').kernel.interest = (view s).kernel.interest := hint
  have h₅ : (view s').kernel.isOpen = (view s).kernel.isOpen := hopen
  refine ⟨hd, ⟨?_, ?_, ?_, ?_, ?_⟩, ⟨?_, ?_, ?_, ?_, ?_⟩, ⟨?_, ?_, ?_, ?_⟩⟩ <;>
    simp only [h₁, h₂, h₃, h₄, h₅]
  exacts [ho.unique, ho.holder, ho.member, ho.own, ho.ne_null, ht.live, ht.recorded, ht.closed,
    ht.listed, ht.mem_occupied, ha.registered, ha.named, ha.distinct, ha.null_only]

/-- An active watcher has a record. -/
theorem Sound.hasRecord (h : Sound eventfd s) (hw : s.heap a = some w) (hact : w.active = true) :
    (view s).HasRecord a :=
  ⟨_, (h.agree.registered a w hw hact).1, rfl⟩

/-- No watcher is stuck: a watcher with a record is active, and then a member. -/
theorem Sound.not_stuck (h : Sound eventfd s) (hw : s.heap a = some w) :
    ¬(view s).Stuck a w.fd := by
  rintro ⟨hrec, -, hnone⟩
  have hact := h.owned.active_of_hasRecord hw hrec
  exact nomatch (h.agree.registered a w hw hact).2.1.symm.trans hnone

/-- A descriptor is a member only for a watcher that names it. -/
theorem Sound.exists_of_taken (h : Sound eventfd s) (ht : (view s).Taken fd) :
    ∃ b x, s.heap b = some x ∧ x.active = true ∧ x.fd = fd := by
  obtain ⟨ev, hev, hne⟩ := ht
  have hr := h.tracked.recorded fd ev hev hne
  obtain ⟨x, hx⟩ := Option.isSome_iff_exists.1 (h.tracked.live _ hr)
  obtain ⟨hfd, hact⟩ := h.owned.holder _ hr x hx
  exact ⟨ev.ptr, x, hx, hact, hfd⟩

/-- The descriptor of a stopped watcher is not a member. -/
theorem Sound.not_taken_of_inactive (h : Sound eventfd s) (hw : s.heap a = some w)
    (hact : w.active = false) : ¬(view s).Taken w.fd := by
  intro ht
  obtain ⟨b, x, hx, hxact, hfd⟩ := h.exists_of_taken ht
  obtain rfl := h.agree.distinct b a x w hx hw hfd
  obtain rfl := Option.some.inj (hw.symm.trans hx)
  exact nomatch hact.symm.trans hxact

/-- A watcher with the descriptor of another is that watcher. -/
theorem Sound.fd_ne (h : Sound eventfd s) (hw : s.heap a = some w) {b : Addr}
    {x : PdWatcher EpollWatcherData} (hx : s.heap b = some x) (hb : b ≠ a) : x.fd ≠ w.fd :=
  fun hfd => hb (h.agree.distinct b a x w hx hw hfd)

/-- The record of an active watcher survives an eviction for another descriptor. -/
theorem Sound.mem_evicted (h : Sound eventfd s) {b : Addr} {fd' : ℤ}
    (hr : ⟨fd', b⟩ ∈ s.sys.table) (hfd : fd' ≠ fd) : ⟨fd', b⟩ ∈ evicted s.sys.table fd a :=
  h.owned.unique.mem_evictOther.2 ⟨hr, fun heq => absurd heq hfd⟩

/-- A watcher is written back with the same descriptor, and table and kernel change for
that descriptor only. -/
theorem Agree.replace {v : View} (h : Agree eventfd v) (hw : v.heap a = some w)
    (x : PdWatcher EpollWatcherData) (hfd : x.fd = w.fd) {table : List Registration}
    {kernel : Kernel}
    (hself : x.active = true → ⟨w.fd, a⟩ ∈ table ∧
      kernel.interest w.fd = some (membership a x) ∧ x.platformData = some ⟨membership a x⟩)
    (hothers : ∀ b fd, b ≠ a → fd ≠ w.fd → ⟨fd, b⟩ ∈ v.table → ⟨fd, b⟩ ∈ table)
    (hint : ∀ fd, fd ≠ w.fd → kernel.interest fd = v.kernel.interest fd)
    (hnull : ∀ ev, kernel.interest w.fd = some ev → ev.ptr = NULL →
      v.kernel.interest w.fd = some ev)
    (hopen : kernel.isOpen = v.kernel.isOpen) :
    Agree eventfd ((v.setHeap a (some x)).setReg table kernel) where
  registered := by
    intro b y hy hact
    rcases View.heap_of_setHeap _ hy with ⟨rfl, hxy⟩ | ⟨hb, hy'⟩
    · obtain rfl := Option.some.inj hxy
      rw [hfd]
      exact hself hact
    · obtain ⟨hr, hm, hpd⟩ := h.registered b y hy' hact
      have hne : y.fd ≠ w.fd := fun heq => hb (h.distinct b a y w hy' hw heq)
      exact ⟨hothers b y.fd hb hne hr, (hint y.fd hne).trans hm, hpd⟩
  named := by
    intro b y hy
    rw [View.setReg_kernel, hopen]
    rcases View.heap_of_setHeap _ hy with ⟨-, hxy⟩ | ⟨-, hy'⟩
    · obtain rfl := Option.some.inj hxy
      rw [hfd]
      exact h.named a w hw
    · exact h.named b y hy'
  distinct := by
    intro b c y z hy hz hyz
    rcases View.heap_of_setHeap _ hy with ⟨rfl, hxy⟩ | ⟨-, hy'⟩ <;>
      rcases View.heap_of_setHeap _ hz with ⟨rfl, hxz⟩ | ⟨-, hz'⟩
    · rfl
    · obtain rfl := Option.some.inj hxy
      exact h.distinct b c w z hw hz' (hfd.symm.trans hyz)
    · obtain rfl := Option.some.inj hxz
      exact h.distinct b c y w hy' hw (hyz.trans hfd)
    · exact h.distinct b c y z hy' hz' hyz
  null_only := by
    intro fd ev hev hptr
    rcases eq_or_ne fd w.fd with rfl | hne
    · exact h.null_only _ ev (hnull ev hev hptr) hptr
    · exact h.null_only fd ev ((hint fd hne).symm.trans hev) hptr

/-! ### The watcher calls -/

theorem Sound.stop (h : Sound eventfd s) (hw : s.heap a = some w) :
    Sound eventfd (pdWatcherStop epollOps s a).1 ∧ Frame s (pdWatcherStop epollOps s a).1 a ∧
      ∃ x, (pdWatcherStop epollOps s a).1.heap a = some x ∧ x.fd = w.fd ∧ x.active = false := by
  obtain ⟨hatt, howned⟩ := owned_stop h.attached h.owned hw
  have htracked := tracked_stop h.attached h.owned h.tracked hw
  rcases (stop_cases h.attached hw).2 with
    ⟨hact, heq⟩ | ⟨hact, hno, -, -⟩ | ⟨-, hstuck, -, -⟩ | ⟨-, -, -, -, hv⟩
  · rw [heq]
    exact ⟨h, ⟨rfl, rfl, fun _ _ => rfl⟩, w, hw, rfl, hact⟩
  · exact absurd (h.hasRecord hw hact) hno
  · exact absurd hstuck (h.not_stuck hw)
  · have hheap := congrArg View.heap hv
    have hopen := Kernel.release_isOpen s.sys.kernel w.fd
    refine ⟨⟨hatt, howned, htracked, ?_⟩, ⟨congrArg View.timers hv,
      (congrArg (fun v => v.kernel.isOpen) hv).trans hopen,
      fun b hb => (congrFun hheap b).trans (View.setHeap_heap_ne _ _ hb)⟩, stopped w,
      (congrFun hheap a).trans (Function.update_self ..), rfl, rfl⟩
    rw [hv]
    exact h.agree.replace hw (stopped w) rfl (fun hact => (nomatch hact))
      (fun b y hb _ hr => h.owned.unique.mem_dropOwner.2 ⟨hr, hb⟩)
      (fun fd hne => Kernel.release_interest_ne _ hne)
      (fun ev hev _ => Kernel.interest_of_release hev) hopen

theorem Sound.start (env : EpollEnv) (h : Sound eventfd s) (hw : s.heap a = some w) :
    Sound eventfd (pdWatcherStart epollOps s a env).1 ∧
      Frame s (pdWatcherStart epollOps s a env).1 a ∧
      ∃ x, (pdWatcherStart epollOps s a env).1.heap a = some x ∧ x.fd = w.fd := by
  obtain ⟨hatt, howned⟩ := owned_start env h.attached h.owned hw
  have htracked := tracked_start env h.attached h.owned h.tracked hw
    fun hact _ => h.not_taken_of_inactive hw hact
  have ha := h.owned.ne_null a w hw
  rcases (start_cases env h.attached hw).2 with
    ⟨-, heq⟩ | ⟨-, -, -, hv⟩ | ⟨hact, -, -, hv⟩ | ⟨-, -, -, -, hv⟩
  · rw [heq]
    exact ⟨h, ⟨rfl, rfl, fun _ _ => rfl⟩, w, hw, rfl⟩
  · have hheap := congrArg View.heap hv
    refine ⟨⟨hatt, howned, htracked, ?_⟩, ⟨congrArg View.timers hv,
      congrArg (fun v => v.kernel.isOpen) hv, fun b _ => congrFun hheap b⟩, w,
      (congrFun hheap a).trans hw, rfl⟩
    rw [hv]
    exact h.agree
  · have hheap := congrArg View.heap hv
    refine ⟨⟨hatt, howned, htracked, ?_⟩, ⟨congrArg View.timers hv,
      congrArg (fun v => v.kernel.isOpen) hv, fun b _ => congrFun hheap b⟩, w,
      (congrFun hheap a).trans hw, rfl⟩
    rw [hv, ← View.setHeap_self (v := view s) hw]
    exact h.agree.replace hw w rfl (fun hact' => (nomatch hact.symm.trans hact'))
      (fun b y _ hne hr => h.mem_evicted hr hne) (fun _ _ => rfl) (fun _ hev _ => hev) rfl
  · have hheap := congrArg View.heap hv
    refine ⟨⟨hatt, howned, htracked, ?_⟩, ⟨congrArg View.timers hv,
      congrArg (fun v => v.kernel.isOpen) hv,
      fun b hb => (congrFun hheap b).trans (View.setHeap_heap_ne _ _ hb)⟩, started a w,
      (congrFun hheap a).trans (Function.update_self ..), rfl⟩
    rw [hv]
    refine h.agree.replace hw (started a w) rfl
      (fun _ => ⟨?_, Kernel.setInterest_interest_self .., rfl⟩)
      (fun b y _ hne hr => List.mem_append_left _ (h.mem_evicted hr hne))
      (fun fd hne => Kernel.setInterest_interest_ne _ _ hne) (fun ev hev hptr => ?_) rfl
    · exact List.mem_append_right _ (List.mem_singleton_self _)
    · obtain rfl := Option.some.inj ((Kernel.setInterest_interest_self ..).symm.trans hev)
      exact absurd hptr ha

theorem Sound.update (events : PdEvent) (env : EpollEnv) (h : Sound eventfd s)
    (hw : s.heap a = some w) :
    Sound eventfd (pdWatcherUpdate epollOps s a events env).1 ∧
      Frame s (pdWatcherUpdate epollOps s a events env).1 a ∧
      ∃ x, (pdWatcherUpdate epollOps s a events env).1.heap a = some x ∧ x.fd = w.fd := by
  have hown : w.active = true → ∀ ev ∈ s.sys.kernel.interest w.fd, ev.ptr = a := by
    intro hact ev hev
    obtain rfl := Option.some.inj ((h.agree.registered a w hw hact).2.1.symm.trans hev)
    rfl
  obtain ⟨hatt, howned⟩ := owned_update events env h.attached h.owned hw hown
  have htracked := tracked_update events env h.attached h.owned h.tracked hw hown
  have ha := h.owned.ne_null a w hw
  rcases (update_cases' events env h.attached hw).2 with
    ⟨-, heq⟩ | ⟨hact, hpd, -⟩ | ⟨wd, hact, -, hno, -⟩ | ⟨wd, hact, hpd, -, -, hv⟩
  · rw [heq]
    exact ⟨h, ⟨rfl, rfl, fun _ _ => rfl⟩, w, hw, rfl⟩
  · exact nomatch hpd.symm.trans (h.agree.registered a w hw hact).2.2
  · rcases hno with hclosed | hnone
    · exact nomatch hclosed.symm.trans (h.agree.named a w hw)
    · exact nomatch hnone.symm.trans (h.agree.registered a w hw hact).2.1
  · have hptr := h.owned.own a w wd hw hpd
    have hheap := congrArg View.heap hv
    refine ⟨⟨hatt, howned, htracked, ?_⟩, ⟨congrArg View.timers hv,
      congrArg (fun v => v.kernel.isOpen) hv,
      fun b hb => (congrFun hheap b).trans (View.setHeap_heap_ne _ _ hb)⟩, _,
      (congrFun hheap a).trans (Function.update_self ..), rfl⟩
    rw [hv, hptr]
    refine h.agree.replace hw (updated w events ⟨eventsToEpoll events, a⟩) rfl
      (fun _ => ⟨(h.agree.registered a w hw hact).1, Kernel.setInterest_interest_self .., rfl⟩)
      (fun _ _ _ _ hr => hr) (fun fd hne => Kernel.setInterest_interest_ne _ _ hne)
      (fun ev hev hnull => ?_) rfl
    obtain rfl := Option.some.inj ((Kernel.setInterest_interest_self ..).symm.trans hev)
    exact absurd hnull ha

/-- The list of the loop plays no part. -/
theorem Agree.setOccupied {v : View} (h : Agree eventfd v) (l : List Addr) :
    Agree eventfd (v.setOccupied l) :=
  ⟨h.registered, h.named, h.distinct, h.null_only⟩

/-- A table that keeps all records serves as well. -/
theorem Agree.setTable {v : View} (h : Agree eventfd v) {table : List Registration}
    (hkeep : ∀ r ∈ v.table, r ∈ table) : Agree eventfd (v.setReg table v.kernel) where
  registered := by
    intro b y hy hact
    obtain ⟨hr, hm, hpd⟩ := h.registered b y hy hact
    exact ⟨hkeep _ hr, hm, hpd⟩
  named := h.named
  distinct := h.distinct
  null_only := h.null_only

/-- A watcher is freed, and table and kernel change for its descriptor only. -/
theorem Agree.free {v : View} (h : Agree eventfd v) (hw : v.heap a = some w)
    {table : List Registration} {kernel : Kernel}
    (hothers : ∀ b fd, b ≠ a → ⟨fd, b⟩ ∈ v.table → ⟨fd, b⟩ ∈ table)
    (hint : ∀ fd, fd ≠ w.fd → kernel.interest fd = v.kernel.interest fd)
    (hold : ∀ fd ev, kernel.interest fd = some ev → v.kernel.interest fd = some ev)
    (hopen : kernel.isOpen = v.kernel.isOpen) :
    Agree eventfd ((v.setHeap a none).setReg table kernel) := by
  have hne : ∀ {b y}, (v.setHeap a none).heap b = some y → b ≠ a ∧ v.heap b = some y := by
    intro b y hy
    rcases View.heap_of_setHeap _ hy with ⟨-, hxy⟩ | hy'
    · exact nomatch hxy
    · exact hy'
  refine ⟨fun b y hy hact => ?_, fun b y hy => ?_, fun b c y z hy hz hyz => ?_,
    fun fd ev hev => h.null_only fd ev (hold fd ev hev)⟩
  · obtain ⟨hb, hy'⟩ := hne hy
    obtain ⟨hr, hm, hpd⟩ := h.registered b y hy' hact
    exact ⟨hothers b y.fd hb hr,
      (hint y.fd fun heq => hb (h.distinct b a y w hy' hw heq)).trans hm, hpd⟩
  · rw [View.setReg_kernel, hopen]
    exact h.named b y (hne hy).2
  · exact h.distinct b c y z (hne hy).2 (hne hz).2 hyz

theorem Sound.destroy (h : Sound eventfd s) (hw : s.heap a = some w) :
    Sound eventfd (pdWatcherDestroy epollOps s a) ∧
      Frame s (pdWatcherDestroy epollOps s a) a ∧
        (pdWatcherDestroy epollOps s a).heap a = none := by
  obtain ⟨hatt, howned⟩ := owned_destroy h.attached h.owned hw
  have htracked := tracked_destroy h.attached h.owned h.tracked hw (h.not_stuck hw)
  have hframe : ∀ {table kernel},
      view (pdWatcherDestroy epollOps s a) = (view s).without a table kernel →
      kernel.isOpen = s.sys.kernel.isOpen → Frame s (pdWatcherDestroy epollOps s a) a ∧
        (pdWatcherDestroy epollOps s a).heap a = none := by
    intro table kernel hv hopen
    have hheap := congrArg View.heap hv
    refine ⟨⟨congrArg View.timers hv, (congrArg (fun v => v.kernel.isOpen) hv).trans hopen, ?_⟩, ?_⟩
    · exact fun b hb => (congrFun hheap b).trans (View.setHeap_heap_ne _ _ hb)
    · exact (congrFun hheap a).trans (Function.update_self ..)
  rcases (destroy_cases h.attached hw (h.owned.ne_null a w hw) h.owned.unique).2 with
    ⟨-, hv⟩ | ⟨hstuck, -⟩ | ⟨-, -, hv⟩
  · refine ⟨⟨hatt, howned, htracked, ?_⟩, hframe hv rfl⟩
    rw [hv]
    exact (h.agree.free hw (fun _ _ _ hr => hr) (fun _ _ => rfl) (fun _ _ hev => hev)
      rfl).setOccupied _
  · exact absurd hstuck (h.not_stuck hw)
  · refine ⟨⟨hatt, howned, htracked, ?_⟩, hframe hv (Kernel.release_isOpen ..)⟩
    rw [hv]
    exact (h.agree.free hw (fun b fd hb hr => h.owned.unique.mem_dropOwner.2 ⟨hr, hb⟩)
      (fun fd hne => Kernel.release_interest_ne _ hne)
      (fun fd ev hev => Kernel.interest_of_release hev) (Kernel.release_isOpen ..)).setOccupied _

/-- No watcher names the descriptor. -/
def Unnamed (s : EpollWorld) (fd : ℤ) : Prop := ∀ a w, s.heap a = some w → w.fd ≠ fd

/-- A record names a descriptor that its watcher names. -/
theorem Sound.record_fd_ne (h : Sound eventfd s) (hfd : Unnamed s fd) {r : Registration}
    (hr : r ∈ s.sys.table) : r.fd ≠ fd := by
  obtain ⟨x, hx⟩ := Option.isSome_iff_exists.1 (h.tracked.live r hr)
  rw [← (h.owned.holder r hr x hx).1]
  exact hfd _ x hx

/-- A new watcher with an open descriptor of its own. -/
theorem Agree.alloc {v : View} (h : Agree eventfd v) (x : PdWatcher EpollWatcherData)
    (ha : a ≠ NULL) (hdead : v.heap a = none) (hfd : ∀ b y, v.heap b = some y → y.fd ≠ x.fd)
    (hopen : v.kernel.isOpen x.fd = true) {table : List Registration}
    (hkeep : ∀ r ∈ v.table, r ∈ table) (hself : ⟨x.fd, a⟩ ∈ table)
    (hpd : x.platformData = some ⟨membership a x⟩) :
    Agree eventfd ((v.setHeap a (some x)).setReg table
      (v.kernel.setInterest x.fd (some (membership a x)))) where
  registered := by
    intro b y hy hact
    rcases View.heap_of_setHeap _ hy with ⟨rfl, hxy⟩ | ⟨-, hy'⟩
    · obtain rfl := Option.some.inj hxy
      exact ⟨hself, Kernel.setInterest_interest_self .., hpd⟩
    · obtain ⟨hr, hm, hpd'⟩ := h.registered b y hy' hact
      exact ⟨hkeep _ hr, (Kernel.setInterest_interest_ne _ _ (hfd b y hy')).trans hm, hpd'⟩
  named := by
    intro b y hy
    rcases View.heap_of_setHeap _ hy with ⟨-, hxy⟩ | ⟨-, hy'⟩
    · obtain rfl := Option.some.inj hxy
      exact hopen
    · exact h.named b y hy'
  distinct := by
    intro b c y z hy hz hyz
    rcases View.heap_of_setHeap _ hy with ⟨rfl, hxy⟩ | ⟨-, hy'⟩ <;>
      rcases View.heap_of_setHeap _ hz with ⟨rfl, hxz⟩ | ⟨-, hz'⟩
    · rfl
    · obtain rfl := Option.some.inj hxy
      exact absurd hyz.symm (hfd c z hz')
    · obtain rfl := Option.some.inj hxz
      exact absurd hyz (hfd b y hy')
    · exact h.distinct b c y z hy' hz' hyz
  null_only := by
    intro fd ev hev hptr
    rcases eq_or_ne fd x.fd with rfl | hne
    · obtain rfl := Option.some.inj ((Kernel.setInterest_interest_self ..).symm.trans hev)
      exact absurd hptr ha
    · exact h.null_only fd ev ((Kernel.setInterest_interest_ne _ _ hne).symm.trans hev) hptr

theorem Sound.create (events : PdEvent) (callback : Option Callback) (userData : Addr)
    (env : CallEnv EpollEnv) (h : Sound eventfd s) (hfd : Unnamed s fd) :
    Sound eventfd (pdWatcherCreate epollOps s fd events callback userData env).1 ∧
    (pdWatcherCreate epollOps s fd events callback userData env).1.sys.timers = s.sys.timers ∧
    (pdWatcherCreate epollOps s fd events callback userData env).1.sys.kernel.isOpen =
      s.sys.kernel.isOpen ∧
    (((pdWatcherCreate epollOps s fd events callback userData env).2 = none ∧
      (pdWatcherCreate epollOps s fd events callback userData env).1.heap = s.heap) ∨
    ∃ a x, (pdWatcherCreate epollOps s fd events callback userData env).2 = some a ∧
      s.heap a = none ∧ x.fd = fd ∧
      (pdWatcherCreate epollOps s fd events callback userData env).1.heap =
        Function.update s.heap a (some x)) := by
  have hfresh : ∀ a ∈ s.calloc env.calloc, ∀ r ∈ s.sys.table, r.watcher ≠ a := by
    intro a hc r hr ho
    exact h.tracked.noRecord (World.calloc_eq_some.1 hc).2.2 ⟨r, hr, ho⟩
  have hfree : ¬(view s).Taken fd := by
    intro ht
    obtain ⟨b, x, hx, -, hxfd⟩ := h.exists_of_taken ht
    exact hfd b x hx hxfd
  obtain ⟨hatt, howned⟩ := owned_createWatcher fd events callback userData env h.attached h.owned
    hfresh
  have htracked := tracked_createWatcher fd events callback userData env h.attached h.owned
    h.tracked fun _ _ => hfree
  have hkeep : ∀ a, ∀ r ∈ s.sys.table, r ∈ evicted s.sys.table fd a := fun a r hr =>
    h.owned.unique.mem_evictOther.2 ⟨hr, fun heq => absurd heq (h.record_fd_ne hfd hr)⟩
  rcases (create_cases fd events callback userData env h.attached).2 with
    ⟨-, heq⟩ | ⟨a, hc, ⟨-, hnone, hv⟩ | ⟨-, hnone, hv⟩ | ⟨-, hnone, -, hv⟩ |
      ⟨-, hsome, hopen, -, hv⟩⟩
  · rw [heq]
    exact ⟨h, rfl, rfl, Or.inl ⟨rfl, rfl⟩⟩
  · refine ⟨⟨hatt, howned, htracked, ?_⟩, congrArg View.timers hv,
      congrArg (fun v => v.kernel.isOpen) hv, Or.inl ⟨hnone, congrArg View.heap hv⟩⟩
    rw [hv]
    exact h.agree
  · refine ⟨⟨hatt, howned, htracked, ?_⟩, congrArg View.timers hv,
      congrArg (fun v => v.kernel.isOpen) hv, Or.inl ⟨hnone, congrArg View.heap hv⟩⟩
    rw [hv]
    exact h.agree.setTable (hkeep a)
  · refine ⟨⟨hatt, howned, htracked, ?_⟩, congrArg View.timers hv,
      congrArg (fun v => v.kernel.isOpen) hv, Or.inl ⟨hnone, congrArg View.heap hv⟩⟩
    rw [hv]
    refine h.agree.setTable fun r hr => ?_
    have hu : Unique Registration.fd Registration.watcher
        (evicted s.sys.table fd a ++ [⟨fd, a⟩]) :=
      h.owned.unique.claim rfl rfl fun y hy => hfresh a hc y hy
    exact hu.mem_dropOwner.2 ⟨List.mem_append_left _ (hkeep a r hr), hfresh a hc r hr⟩
  · obtain ⟨-, ha, hdead⟩ := World.calloc_eq_some.1 hc
    refine ⟨⟨hatt, howned, htracked, ?_⟩, congrArg View.timers hv,
      congrArg (fun v => v.kernel.isOpen) hv, Or.inr ⟨a, _, hsome, hdead, rfl,
        congrArg View.heap hv⟩⟩
    rw [hv]
    exact (h.agree.alloc (started a (newWatcher fd events callback userData)) ha hdead hfd hopen
      (fun r hr => List.mem_append_left _ (hkeep a r hr))
      (List.mem_append_right _ (List.mem_singleton_self _)) rfl).setOccupied _

theorem Sound.close (h : Sound eventfd s) (hfd : Unnamed s fd) : Sound eventfd (closeFd s fd) where
  attached := h.attached
  owned := owned_close h.owned fd
  tracked := tracked_close h.tracked fd
  agree := by
    refine ⟨fun b y hy hact => ?_, fun b y hy => ?_, h.agree.distinct, fun fd' ev hev => ?_⟩
    · obtain ⟨hr, hm, hpd⟩ := h.agree.registered b y hy hact
      exact ⟨hr, (Kernel.close_interest_ne _ (hfd b y hy)).trans hm, hpd⟩
    · exact (Function.update_of_ne (hfd b y hy) ..).trans (h.agree.named b y hy)
    · refine h.agree.null_only fd' ev ?_
      rcases eq_or_ne fd' fd with rfl | hne
      · exact nomatch (Kernel.close_interest_self ..).symm.trans hev
      · exact (Kernel.close_interest_ne _ hne).symm.trans hev

theorem Sound.openFd (h : Sound eventfd s) (fd : ℤ) : Sound eventfd (openFd s fd) where
  attached := h.attached
  owned := owned_open h.owned fd
  tracked := tracked_open h.tracked fd
  agree := by
    refine ⟨h.agree.registered, fun b y hy => ?_, h.agree.distinct, h.agree.null_only⟩
    rcases eq_or_ne y.fd fd with heq | hne
    · exact heq ▸ Function.update_self ..
    · exact (Function.update_of_ne hne ..).trans (h.agree.named b y hy)

theorem sound_create (isOpen : ℤ → Bool) : Sound eventfd (epollLoopCreate eventfd isOpen) where
  attached := attached_create eventfd isOpen
  owned := owned_create eventfd isOpen
  tracked := tracked_create eventfd isOpen
  agree := by
    refine ⟨fun _ _ hw => (nomatch hw), fun _ _ hw => (nomatch hw),
      fun _ _ _ _ hw => (nomatch hw), ?_⟩
    intro fd ev hev _
    by_contra hne
    rw [show (view (epollLoopCreate eventfd isOpen)).kernel.interest fd = _ from
      create_interest eventfd isOpen fd, if_neg hne] at hev
    exact nomatch hev

/-! ### The timer calls -/

/-- Every timer owns a live watcher on its timerfd, and no two timers the same one. -/
structure TimersOwn (s : EpollWorld) : Prop where
  owns : ∀ t tm, s.sys.timers t = some tm → ∃ a w, tm.watcher = some a ∧
    tm.ownsWatcher = true ∧ s.heap a = some w ∧ tm.platformData = some w.fd
  injective : ∀ t t' tm tm', s.sys.timers t = some tm → s.sys.timers t' = some tm' →
    tm.watcher = tm'.watcher → t = t'

/-- The two structures describe the same timerfd and the same internal watcher. -/
structure SameOwner (tm tm' : PdTimer ℤ) : Prop where
  watcher_eq : tm'.watcher = tm.watcher
  ownsWatcher_eq : tm'.ownsWatcher = tm.ownsWatcher
  platformData_eq : tm'.platformData = tm.platformData

/-- From `s₀` to `s` a timer call has kept the invariants, touched no watcher but `a`,
and `t` is still the timer with the watcher and timerfd of `tm`. -/
structure Keeps (eventfd : ℤ) (s₀ s : EpollWorld) (t a : Addr) (tm : PdTimer ℤ) : Prop where
  sound : Sound eventfd s
  timers : TimersOwn s
  heap_ne : ∀ b, b ≠ a → s.heap b = s₀.heap b
  timer_ne : ∀ t', t' ≠ t → s.sys.timers t' = s₀.sys.timers t'
  timer : ∃ tm', s.sys.timers t = some tm' ∧ SameOwner tm tm'

variable {s₀ : EpollWorld} {t : Addr} {tm : PdTimer ℤ}

theorem Keeps.refl (h : Sound eventfd s) (ht : TimersOwn s) (htm : s.sys.timers t = some tm)
    (a : Addr) : Keeps eventfd s s t a tm :=
  ⟨h, ht, fun _ _ => rfl, fun _ _ => rfl, tm, htm, rfl, rfl, rfl⟩

/-- The system error and the timers of the kernel play no part. -/
theorem Keeps.setError (k : Keeps eventfd s₀ s t a tm) (e : Errno) :
    Keeps eventfd s₀ (s.setSys (s.sys.setError e)) t a tm :=
  ⟨k.sound.congr k.sound.attached rfl rfl rfl rfl rfl, ⟨k.timers.owns, k.timers.injective⟩,
    k.heap_ne, k.timer_ne, k.timer⟩

theorem Keeps.settime (k : Keeps eventfd s₀ s t a tm) (fd : ℤ) (its : Itimerspec) :
    Keeps eventfd s₀ (setKernel s (s.sys.kernel.settime fd its)) t a tm :=
  ⟨k.sound.congr k.sound.attached rfl rfl rfl rfl rfl, ⟨k.timers.owns, k.timers.injective⟩,
    k.heap_ne, k.timer_ne, k.timer⟩

/-- The timer is marked active or inactive. -/
theorem Keeps.setTimer (k : Keeps eventfd s₀ s t a tm) {tm' : PdTimer ℤ}
    (hsame : SameOwner tm tm') : Keeps eventfd s₀ (setTimer s t (some tm')) t a tm where
  sound := k.sound.congr k.sound.attached rfl rfl rfl rfl rfl
  timers := by
    obtain ⟨tm₁, htm₁, hsame₁⟩ := k.timer
    -- every timer of the new state has the owner data of one of the old
    have hold : ∀ t' x, (Epoll.setTimer s t (some tm')).sys.timers t' = some x →
        ∃ y, s.sys.timers t' = some y ∧ SameOwner y x := by
      intro t' x hx
      rcases eq_or_ne t' t with rfl | hne
      · obtain rfl := Option.some.inj ((setTimer_timers_self ..).symm.trans hx)
        exact ⟨tm₁, htm₁, hsame.watcher_eq.trans hsame₁.watcher_eq.symm,
          hsame.ownsWatcher_eq.trans hsame₁.ownsWatcher_eq.symm,
          hsame.platformData_eq.trans hsame₁.platformData_eq.symm⟩
      · exact ⟨x, (setTimer_timers_ne _ _ hne).symm.trans hx, rfl, rfl, rfl⟩
    constructor
    · intro t' x hx
      obtain ⟨y, hy, hyx⟩ := hold t' x hx
      obtain ⟨b, w, hb, ho, hw, hp⟩ := k.timers.owns t' y hy
      exact ⟨b, w, hyx.watcher_eq.trans hb, hyx.ownsWatcher_eq.trans ho, hw,
        hyx.platformData_eq.trans hp⟩
    · intro t₁ t₂ x₁ x₂ hx₁ hx₂ heq
      obtain ⟨y₁, hy₁, hyx₁⟩ := hold t₁ x₁ hx₁
      obtain ⟨y₂, hy₂, hyx₂⟩ := hold t₂ x₂ hx₂
      exact k.timers.injective t₁ t₂ y₁ y₂ hy₁ hy₂
        (hyx₁.watcher_eq.symm.trans (heq.trans hyx₂.watcher_eq))
  heap_ne := k.heap_ne
  timer_ne := fun t' hne => (setTimer_timers_ne _ _ hne).trans (k.timer_ne t' hne)
  timer := ⟨tm', setTimer_timers_self .., hsame⟩

/-- A call on a watcher that stays alive keeps the timers' watchers. -/
theorem TimersOwn.frame (ht : TimersOwn s) (hf : Frame s s' a) (hw : s.heap a = some w)
    {x : PdWatcher EpollWatcherData} (hx : s'.heap a = some x) (hfd : x.fd = w.fd) :
    TimersOwn s' := by
  constructor
  · intro t tm htm
    rw [hf.timers_eq] at htm
    obtain ⟨b, y, hb, ho, hy, hp⟩ := ht.owns t tm htm
    rcases eq_or_ne b a with rfl | hne
    · obtain rfl := Option.some.inj (hw.symm.trans hy)
      exact ⟨b, x, hb, ho, hx, hp.trans (congrArg some hfd.symm)⟩
    · exact ⟨b, y, hb, ho, (hf.heap_ne b hne).trans hy, hp⟩
  · intro t t' tm tm' htm htm'
    rw [hf.timers_eq] at htm htm'
    exact ht.injective t t' tm tm' htm htm'

/-- The timer's own watcher is started or stopped. -/
theorem Keeps.call (k : Keeps eventfd s₀ s t a tm) (hw : s.heap a = some w)
    (hs : Sound eventfd s') (hf : Frame s s' a)
    {x : PdWatcher EpollWatcherData} (hx : s'.heap a = some x) (hfd : x.fd = w.fd) :
    Keeps eventfd s₀ s' t a tm where
  sound := hs
  timers := k.timers.frame hf hw hx hfd
  heap_ne := fun b hb => (hf.heap_ne b hb).trans (k.heap_ne b hb)
  timer_ne := fun t' hne => (congrFun hf.timers_eq t').trans (k.timer_ne t' hne)
  timer := by
    rw [hf.timers_eq]
    exact k.timer

/-- The timer's watcher is live. -/
theorem Keeps.live (k : Keeps eventfd s₀ s t a tm) (ha : tm.watcher = some a) :
    ∃ w, s.heap a = some w ∧ tm.platformData = some w.fd := by
  obtain ⟨tm', htm', hsame⟩ := k.timer
  obtain ⟨b, w, hb, -, hw, hp⟩ := k.timers.owns t tm' htm'
  obtain rfl := Option.some.inj (ha.symm.trans (hsame.watcher_eq.symm.trans hb))
  exact ⟨w, hw, hsame.platformData_eq.symm.trans hp⟩

theorem keeps_of_settime (k : Keeps eventfd s₀ s t a tm) {fd : ℤ} {its : Itimerspec}
    {refused : Option Errno} (h : timerfdSettime s fd its refused = .ok s') :
    Keeps eventfd s₀ s' t a tm := by
  unfold timerfdSettime at h
  split at h
  · exact nomatch h
  · split at h
    · obtain rfl := Except.ok.inj h
      exact k.settime fd its
    · exact nomatch h

theorem keeps_epollTimerStart (k : Keeps eventfd s₀ s t a tm) {tm' : PdTimer ℤ}
    (ha : tm.watcher = some a) (hsame : SameOwner tm tm') (refused : Option Errno)
    (env : EpollEnv) : Keeps eventfd s₀ (epollTimerStart s tm' refused env).1 t a tm := by
  unfold epollTimerStart
  dsimp only
  split
  · exact k
  · cases hset : timerfdSettime s (tm'.platformData.getD (-1)) (timerSpec tm') refused with
    | error e => exact k.setError e
    | ok s' =>
        have k' := keeps_of_settime k hset
        rw [hsame.watcher_eq, ha]
        obtain ⟨w, hw, -⟩ := k'.live ha
        obtain ⟨hs, hf, x, hx, hfd⟩ := k'.sound.start env hw
        exact k'.call hw hs hf hx hfd

theorem keeps_epollTimerStop (k : Keeps eventfd s₀ s t a tm) {tm' : PdTimer ℤ}
    (ha : tm.watcher = some a) (hsame : SameOwner tm tm') (refused : Option Errno) :
    Keeps eventfd s₀ (epollTimerStop s tm' refused).1 t a tm := by
  unfold epollTimerStop
  dsimp only
  split
  · exact k
  · cases hset : timerfdSettime s (tm'.platformData.getD (-1)) ⟨0, 0, 0, 0⟩ refused with
    | error e => exact k.setError e
    | ok s' =>
        have k' := keeps_of_settime k hset
        rw [hsame.watcher_eq, ha]
        obtain ⟨w, hw, -⟩ := k'.live ha
        obtain ⟨hs, hf, x, hx, hfd, -⟩ := k'.sound.stop hw
        exact k'.call hw hs hf hx hfd

theorem keeps_timerStart (h : Sound eventfd s) (ht : TimersOwn s)
    (htm : s.sys.timers t = some tm) (ha : tm.watcher = some a) (refused : Option Errno)
    (env : EpollEnv) : Keeps eventfd s (pdTimerStart s t refused env).1 t a tm := by
  have k := Keeps.refl h ht htm a
  unfold pdTimerStart
  rw [htm]
  dsimp only
  split
  · exact k
  · have hsame : SameOwner tm { tm with active := true } := ⟨rfl, rfl, rfl⟩
    have k' := keeps_epollTimerStart (k.setTimer hsame) ha hsame refused env
    split
    · exact k'.setTimer ⟨rfl, rfl, rfl⟩
    · exact k'

theorem keeps_timerStop (h : Sound eventfd s) (ht : TimersOwn s)
    (htm : s.sys.timers t = some tm) (ha : tm.watcher = some a) (refused : Option Errno) :
    Keeps eventfd s (pdTimerStop s t refused).1 t a tm := by
  have k := Keeps.refl h ht htm a
  unfold pdTimerStop
  rw [htm]
  dsimp only
  split
  · exact k
  · have hsame : SameOwner tm { tm with active := false } := ⟨rfl, rfl, rfl⟩
    have k' := keeps_epollTimerStop (k.setTimer hsame) ha hsame refused
    split
    · exact k'.setTimer ⟨rfl, rfl, rfl⟩
    · exact k'

/-- The timerfd is closed once no watcher names it. -/
theorem Sound.timerDestroy (h : Sound eventfd s) (hfd : Unnamed s fd)
    (hp : tm.platformData = some fd) :
    Sound eventfd (epollTimerDestroy s tm) ∧
      (epollTimerDestroy s tm).heap = s.heap ∧
      (epollTimerDestroy s tm).sys.timers = s.sys.timers := by
  unfold epollTimerDestroy
  rw [hp]
  dsimp only
  split
  · exact ⟨h.close hfd, rfl, rfl⟩
  · exact ⟨h, rfl, rfl⟩

/-- `pd_timer_destroy` stops the timer, if it is active, before it destroys the watcher, closes
the timerfd and frees the structure. -/
theorem exists_keeps_timerDestroy (h : Sound eventfd s) (ht : TimersOwn s)
    (htm : s.sys.timers t = some tm) (ha : tm.watcher = some a) (refused : Option Errno) :
    ∃ s₁, Keeps eventfd s s₁ t a tm ∧ (s₁ = s ∨ s₁ = (pdTimerStop s t refused).1) ∧
      pdTimerDestroy s t refused =
        setTimer (epollTimerDestroy (pdWatcherDestroy epollOps s₁ a) tm) t none := by
  obtain ⟨_, _, -, howns, -⟩ := ht.owns t tm htm
  have hdes : pdTimerDestroy s t refused = setTimer (epollTimerDestroy
      (pdWatcherDestroy epollOps (if tm.active then (pdTimerStop s t refused).1 else s) a) tm)
      t none := by
    unfold pdTimerDestroy
    rw [htm]
    dsimp only
    rw [ha, howns]
    rfl
  refine ⟨_, ?_, ?_, hdes⟩
  · split
    · exact keeps_timerStop h ht htm ha refused
    · exact Keeps.refl h ht htm a
  · split
    · exact .inr rfl
    · exact .inl rfl

theorem timerDestroy_sound (h : Sound eventfd s) (ht : TimersOwn s)
    (htm : s.sys.timers t = some tm) (ha : tm.watcher = some a) (refused : Option Errno) :
    Sound eventfd (pdTimerDestroy s t refused) ∧ TimersOwn (pdTimerDestroy s t refused) ∧
      ∀ b, b ≠ a → (pdTimerDestroy s t refused).heap b = s.heap b := by
  obtain ⟨s₁, hstop, -, hdes⟩ := exists_keeps_timerDestroy h ht htm ha refused
  rw [hdes]
  obtain ⟨w, hw, hp⟩ := hstop.live ha
  obtain ⟨hs₂, hf, hdead⟩ := hstop.sound.destroy hw
  have hunnamed : Unnamed (pdWatcherDestroy epollOps s₁ a) w.fd := by
    intro b x hx
    have hb : b ≠ a := by
      rintro rfl
      exact nomatch hdead.symm.trans hx
    rw [hf.heap_ne b hb] at hx
    exact hstop.sound.fd_ne hw hx hb
  obtain ⟨hs₃, hheap, htimers⟩ := hs₂.timerDestroy hunnamed hp
  have hmem : ∀ {t' x}, (setTimer (epollTimerDestroy (pdWatcherDestroy epollOps s₁ a) tm)
      t none).sys.timers t' = some x → t' ≠ t ∧ s₁.sys.timers t' = some x := by
    intro t' x hx
    rcases eq_or_ne t' t with rfl | hne
    · exact nomatch (setTimer_timers_self ..).symm.trans hx
    · rw [setTimer_timers_ne _ _ hne, htimers, hf.timers_eq] at hx
      exact ⟨hne, hx⟩
  refine ⟨hs₃.congr hs₃.attached rfl rfl rfl rfl rfl, ⟨fun t' x hx => ?_, ?_⟩, fun b hb => ?_⟩
  · obtain ⟨hne, hx'⟩ := hmem hx
    obtain ⟨b, y, hb, ho, hy, hpd⟩ := hstop.timers.owns t' x hx'
    -- another timer's watcher is another watcher
    have hba : b ≠ a := by
      rintro rfl
      obtain ⟨tm', htm', hsame⟩ := hstop.timer
      exact hne (hstop.timers.injective t' t x tm' hx' htm'
        (hb.trans (hsame.watcher_eq.trans ha).symm))
    exact ⟨b, y, hb, ho, (congrFun hheap b).trans ((hf.heap_ne b hba).trans hy), hpd⟩
  · intro t₁ t₂ x₁ x₂ hx₁ hx₂ heq
    exact hstop.timers.injective t₁ t₂ x₁ x₂ (hmem hx₁).2 (hmem hx₂).2 heq
  · exact (congrFun hheap b).trans ((hf.heap_ne b hb).trans (hstop.heap_ne b hb))

/-- The timer is gone, with its watcher, and the others are left alone. -/
theorem timerDestroy_timers (h : Sound eventfd s) (ht : TimersOwn s)
    (htm : s.sys.timers t = some tm) (ha : tm.watcher = some a) (refused : Option Errno) :
    (pdTimerDestroy s t refused).heap a = none ∧
    (pdTimerDestroy s t refused).sys.timers t = none ∧
    ∀ u, u ≠ t → (pdTimerDestroy s t refused).sys.timers u = s.sys.timers u := by
  obtain ⟨s₁, hstop, -, hdes⟩ := exists_keeps_timerDestroy h ht htm ha refused
  obtain ⟨w, hw, -⟩ := hstop.live ha
  obtain ⟨-, hf, hdead⟩ := hstop.sound.destroy hw
  -- `epoll_timer_destroy` touches the kernel only
  have hclosed : ∀ s₂ : EpollWorld, (epollTimerDestroy s₂ tm).heap = s₂.heap ∧
      (epollTimerDestroy s₂ tm).sys.timers = s₂.sys.timers := by
    intro s₂
    unfold epollTimerDestroy
    cases tm.platformData with
    | none => exact ⟨rfl, rfl⟩
    | some fd =>
        dsimp only
        split_ifs <;> exact ⟨rfl, rfl⟩
  rw [hdes]
  refine ⟨(congrFun (hclosed _).1 a).trans hdead, setTimer_timers_self .., fun u hu => ?_⟩
  rw [setTimer_timers_ne _ _ hu, (hclosed _).2, hf.timers_eq, hstop.timer_ne u hu]

/-- The numbers of open descriptors do not name a closed one. -/
theorem Sound.unnamed_of_closed (h : Sound eventfd s) (hc : s.sys.kernel.isOpen fd = false) :
    Unnamed s fd := by
  rintro b x hx rfl
  exact nomatch hc.symm.trans (h.agree.named b x hx)

/-- What `epoll_timer_create` leaves behind: nothing, or a stopped watcher on a new
timerfd. -/
theorem Sound.timerCreate (h : Sound eventfd s) (t : Addr) (tm : PdTimer ℤ) (env : TimerEnv) :
    Sound eventfd (epollTimerCreate s t tm env).1 ∧
    (epollTimerCreate s t tm env).1.sys.timers = s.sys.timers ∧
    (((epollTimerCreate s t tm env).2.2 ≠ .ok ∧ (epollTimerCreate s t tm env).1.heap = s.heap) ∨
    ∃ a x, (epollTimerCreate s t tm env).2.2 = .ok ∧ s.heap a = none ∧ x.active = false ∧
      (epollTimerCreate s t tm env).2.1.watcher = some a ∧
      (epollTimerCreate s t tm env).2.1.ownsWatcher = true ∧
      (epollTimerCreate s t tm env).2.1.platformData = some x.fd ∧
      (epollTimerCreate s t tm env).1.heap = Function.update s.heap a (some x)) := by
  unfold epollTimerCreate
  cases hfd : timerfdCreate s env.timerfd with
  | none =>
      exact ⟨h.congr h.attached rfl rfl rfl rfl rfl, rfl, Or.inl ⟨by simp, rfl⟩⟩
  | some fd =>
      have hclosed : s.sys.kernel.isOpen fd = false := by
        rw [timerfdCreate, Option.filter_eq_some_iff] at hfd
        exact (of_decide_eq_true hfd.2).2
      have hun : Unnamed (Epoll.openFd s fd) fd := h.unnamed_of_closed hclosed
      have hopen := h.openFd fd
      dsimp only
      split
      · exact ⟨hopen.close hun, rfl, Or.inl ⟨by simp, rfl⟩⟩
      · obtain ⟨hs, htimers, -, hcases⟩ :=
          hopen.create .read (some .timerfd) t env.watcher hun
        rcases hcases with ⟨hnone, hheap⟩ | ⟨a, x, hsome, hdead, hxfd, hheap⟩
        · rw [hnone]
          have hun' : Unnamed (pdWatcherCreate epollOps (Epoll.openFd s fd) fd .read (some .timerfd)
              t env.watcher).1 fd := by
            intro b y hy
            rw [hheap] at hy
            exact hun b y hy
          exact ⟨hs.close hun', htimers, Or.inl ⟨by simp, hheap⟩⟩
        · rw [hsome]
          have hx : (pdWatcherCreate epollOps (Epoll.openFd s fd) fd .read (some .timerfd)
              t env.watcher).1.heap a = some x := by
            rw [hheap]
            exact Function.update_self ..
          obtain ⟨hs', hf, y, hy, hyfd, hyact⟩ := hs.stop hx
          refine ⟨hs', hf.timers_eq.trans htimers, Or.inr ⟨a, y, rfl, hdead, hyact, rfl, rfl,
            congrArg some (hyfd.trans hxfd).symm, ?_⟩⟩
          funext b
          rcases eq_or_ne b a with rfl | hb
          · rw [Function.update_self]
            exact hy
          · rw [Function.update_of_ne hb, hf.heap_ne b hb, hheap, Function.update_of_ne hb]
            rfl

theorem timerCreate_sound (timeoutMs intervalMs : UInt64) (callback : Option Callback)
    (userData : Addr) (env : TimerEnv) (h : Sound eventfd s) (ht : TimersOwn s) :
    Sound eventfd (pdTimerCreate s timeoutMs intervalMs callback userData env).1 ∧
    TimersOwn (pdTimerCreate s timeoutMs intervalMs callback userData env).1 ∧
    ∀ b, (s.heap b).isSome →
      (pdTimerCreate s timeoutMs intervalMs callback userData env).1.heap b = s.heap b := by
  unfold pdTimerCreate
  cases callback with
  | none => exact ⟨h, ht, fun _ _ => rfl⟩
  | some callback =>
      cases hc : callocTimer s env.calloc with
      | none => exact ⟨h, ht, fun _ _ => rfl⟩
      | some t =>
          dsimp only
          obtain ⟨hs, htimers, hcases⟩ := h.timerCreate t
            { watcher := none, timeoutMs, intervalMs, callback, userData, active := false,
              ownsWatcher := false, platformData := none } env
          rcases hcases with ⟨hne, hheap⟩ | ⟨a, x, hok, hdead, -, hwatch, howns, hpd, hheap⟩
          · rw [if_pos hne]
            refine ⟨hs, ⟨?_, ?_⟩, fun b _ => congrFun hheap b⟩
            · rw [htimers, hheap]
              exact ht.owns
            · rw [htimers]
              exact ht.injective
          · rw [if_neg (by rw [hok]; simp)]
            -- a watcher that was live before is not the new one
            have hne : ∀ b y, s.heap b = some y → b ≠ a := by
              rintro b y hy rfl
              exact nomatch hdead.symm.trans hy
            have hold : ∀ b y, s.heap b = some y → (epollTimerCreate s t
                { watcher := none, timeoutMs, intervalMs, callback, userData, active := false,
                  ownsWatcher := false, platformData := none } env).1.heap b = some y := by
              intro b y hy
              rw [hheap, Function.update_of_ne (hne b y hy)]
              exact hy
            refine ⟨hs.congr hs.attached rfl rfl rfl rfl rfl, ⟨?_, ?_⟩, fun b hb => ?_⟩
            · intro t' tm htm
              rcases eq_or_ne t' t with rfl | hne'
              · obtain rfl := Option.some.inj ((setTimer_timers_self ..).symm.trans htm)
                refine ⟨a, x, hwatch, howns, ?_, hpd⟩
                exact (congrFun hheap a).trans (Function.update_self ..)
              · rw [setTimer_timers_ne _ _ hne', htimers] at htm
                obtain ⟨b, y, hb, ho, hy, hp⟩ := ht.owns t' tm htm
                exact ⟨b, y, hb, ho, hold b y hy, hp⟩
            · -- two timers with the new watcher are both the new timer
              have hwatcher : ∀ t' tm, t' ≠ t → s.sys.timers t' = some tm →
                  tm.watcher ≠ some a := by
                intro t' tm _ htm heq
                obtain ⟨b, y, hb, -, hy, -⟩ := ht.owns t' tm htm
                exact hne b y hy (Option.some.inj (hb.symm.trans heq))
              intro t₁ t₂ x₁ x₂ hx₁ hx₂ heq
              by_cases h₁ : t₁ = t <;> by_cases h₂ : t₂ = t
              · exact h₁.trans h₂.symm
              · subst h₁
                obtain rfl := Option.some.inj ((setTimer_timers_self ..).symm.trans hx₁)
                rw [setTimer_timers_ne _ _ h₂, htimers] at hx₂
                exact absurd (heq.symm.trans hwatch) (hwatcher t₂ x₂ h₂ hx₂)
              · subst h₂
                obtain rfl := Option.some.inj ((setTimer_timers_self ..).symm.trans hx₂)
                rw [setTimer_timers_ne _ _ h₁, htimers] at hx₁
                exact absurd (heq.trans hwatch) (hwatcher t₁ x₁ h₁ hx₁)
              · rw [setTimer_timers_ne _ _ h₁, htimers] at hx₁
                rw [setTimer_timers_ne _ _ h₂, htimers] at hx₂
                exact ht.injective t₁ t₂ x₁ x₂ hx₁ hx₂ heq
            · obtain ⟨y, hy⟩ := Option.isSome_iff_exists.1 hb
              exact (hold b y hy).trans hy.symm

/-! ### Orderly runs -/

/-- The timer a timer call is made on. -/
def TimerAction.timer : TimerAction → Option Addr
  | .timerStart t _ _ => some t
  | .timerStop t _ => some t
  | .timerDestroy t _ => some t
  | _ => none

/-- Is the action a timer call? -/
def TimerAction.IsTimerCall : TimerAction → Prop
  | .timerCreate .. => True
  | .timerStart .. => True
  | .timerStop .. => True
  | .timerDestroy .. => True
  | _ => False

/-- The user keeps to the rules: no watcher is created on a descriptor that a watcher
names, watcher calls are made on the user's own watchers and not on those inside the
timers, and a descriptor is closed only when no watcher names it. -/
def Orderly (s : EpollWorld) : TimerAction → Prop
  | .watcher (.create fd _ _ _ _) => Unnamed s fd
  | .watcher c => ∀ a, c.target = some a → ∀ t tm, s.sys.timers t = some tm → tm.watcher ≠ some a
  | .closeFd fd => Unnamed s fd
  | _ => True

/-- A watcher that no timer owns may go. -/
theorem TimersOwn.destroy (ht : TimersOwn s) (hf : Frame s s' a)
    (hfree : ∀ t tm, s.sys.timers t = some tm → tm.watcher ≠ some a) : TimersOwn s' := by
  constructor
  · intro t tm htm
    rw [hf.timers_eq] at htm
    obtain ⟨b, y, hb, ho, hy, hp⟩ := ht.owns t tm htm
    have hne : b ≠ a := by
      rintro rfl
      exact hfree t tm htm hb
    exact ⟨b, y, hb, ho, (hf.heap_ne b hne).trans hy, hp⟩
  · rw [hf.timers_eq]
    exact ht.injective

/-- What an orderly watcher call preserves. -/
theorem orderly_exec {c : Call EpollEnv} (h : Sound eventfd s) (ht : TimersOwn s)
    (hok : Orderly s (.watcher c)) :
    Sound eventfd (s.exec epollOps c).1 ∧ TimersOwn (s.exec epollOps c).1 := by
  have hdead : ∀ a, c.target = some a → s.heap a = none →
      Sound eventfd (s.exec epollOps c).1 ∧ TimersOwn (s.exec epollOps c).1 := by
    intro a ha hw
    rw [World.exec_of_not_live ha hw]
    exact ⟨h, ht⟩
  cases c with
  | create fd events callback userData env =>
      obtain ⟨hs, htimers, -, hcases⟩ := h.create events callback userData env hok
      refine ⟨hs, ?_⟩
      rcases hcases with ⟨-, hheap⟩ | ⟨a, x, -, hnone, -, hheap⟩
      · constructor
        · rw [World.exec, htimers, hheap]
          exact ht.owns
        · rw [World.exec, htimers]
          exact ht.injective
      · constructor
        · rw [World.exec, htimers, hheap]
          intro t tm htm
          obtain ⟨b, y, hb, ho, hy, hp⟩ := ht.owns t tm htm
          have hne : b ≠ a := by
            rintro rfl
            rw [hnone] at hy
            cases hy
          exact ⟨b, y, hb, ho, (Function.update_of_ne hne ..).trans hy, hp⟩
        · rw [World.exec, htimers]
          exact ht.injective
  | createForHandle handle events callback userData env =>
      rw [World.exec, epoll_createForHandle]
      exact ⟨h, ht⟩
  | update a events env =>
      cases hw : s.heap a with
      | none => exact hdead a rfl hw
      | some w =>
          obtain ⟨hs, hf, x, hx, hfd⟩ := h.update events env hw
          exact ⟨hs, ht.frame hf hw hx hfd⟩
  | stop a =>
      cases hw : s.heap a with
      | none => exact hdead a rfl hw
      | some w =>
          obtain ⟨hs, hf, x, hx, hfd, -⟩ := h.stop hw
          exact ⟨hs, ht.frame hf hw hx hfd⟩
  | start a env =>
      cases hw : s.heap a with
      | none => exact hdead a rfl hw
      | some w =>
          obtain ⟨hs, hf, x, hx, hfd⟩ := h.start env hw
          exact ⟨hs, ht.frame hf hw hx hfd⟩
  | destroy a =>
      cases hw : s.heap a with
      | none => exact hdead a rfl hw
      | some w =>
          obtain ⟨hs, hf, -⟩ := h.destroy hw
          exact ⟨hs, ht.destroy hf (hok a rfl)⟩

/-- What a timer call preserves, and whom it leaves alone. -/
theorem timerCall_sound (act : TimerAction) (hact : act.IsTimerCall) (h : Sound eventfd s)
    (ht : TimersOwn s) :
    Sound eventfd (performTimer s act) ∧ TimersOwn (performTimer s act) ∧
      ∀ b, (s.heap b).isSome →
        (∀ t tm, act.timer = some t → s.sys.timers t = some tm → tm.watcher ≠ some b) →
        (performTimer s act).heap b = s.heap b := by
  have hnone : ∀ t, act.timer = some t → s.sys.timers t = none → performTimer s act = s := by
    intro t hact' htm
    cases act with
    | watcher => exact nomatch hact'
    | timerCreate => exact nomatch hact'
    | closeFd => exact nomatch hact'
    | openFd => exact nomatch hact'
    | timerStart t' refused env =>
        obtain rfl := Option.some.inj hact'
        rw [performTimer, pdTimerStart, htm]
    | timerStop t' refused =>
        obtain rfl := Option.some.inj hact'
        rw [performTimer, pdTimerStop, htm]
    | timerDestroy t' refused =>
        obtain rfl := Option.some.inj hact'
        rw [performTimer, pdTimerDestroy, htm]
  have hgone : ∀ t, act.timer = some t → s.sys.timers t = none →
      Sound eventfd (performTimer s act) ∧ TimersOwn (performTimer s act) ∧
        ∀ b, (s.heap b).isSome →
          (∀ t tm, act.timer = some t → s.sys.timers t = some tm → tm.watcher ≠ some b) →
          (performTimer s act).heap b = s.heap b := by
    intro t hact' htm
    rw [hnone t hact' htm]
    exact ⟨h, ht, fun _ _ _ => rfl⟩
  cases act with
  | watcher => exact hact.elim
  | closeFd => exact hact.elim
  | openFd => exact hact.elim
  | timerCreate timeoutMs intervalMs callback userData env =>
      obtain ⟨hs, hto, hheap⟩ := timerCreate_sound timeoutMs intervalMs callback userData env h ht
      exact ⟨hs, hto, fun b hb _ => hheap b hb⟩
  | timerStart t refused env =>
      cases htm : s.sys.timers t with
      | none => exact hgone t rfl htm
      | some tm =>
          obtain ⟨a, w, ha, -⟩ := ht.owns t tm htm
          have k := keeps_timerStart h ht htm ha refused env
          refine ⟨k.sound, k.timers, fun b _ hb => k.heap_ne b ?_⟩
          rintro rfl
          exact hb t tm rfl htm ha
  | timerStop t refused =>
      cases htm : s.sys.timers t with
      | none => exact hgone t rfl htm
      | some tm =>
          obtain ⟨a, w, ha, -⟩ := ht.owns t tm htm
          have k := keeps_timerStop h ht htm ha refused
          refine ⟨k.sound, k.timers, fun b _ hb => k.heap_ne b ?_⟩
          rintro rfl
          exact hb t tm rfl htm ha
  | timerDestroy t refused =>
      cases htm : s.sys.timers t with
      | none => exact hgone t rfl htm
      | some tm =>
          obtain ⟨a, w, ha, -⟩ := ht.owns t tm htm
          obtain ⟨hs, hto, hheap⟩ := timerDestroy_sound h ht htm ha refused
          refine ⟨hs, hto, fun b _ hb => hheap b ?_⟩
          rintro rfl
          exact hb t tm rfl htm ha

/-- What an orderly action preserves. -/
theorem sound_perform {act : TimerAction} (h : Sound eventfd s) (ht : TimersOwn s)
    (hok : Orderly s act) :
    Sound eventfd (performTimer s act) ∧ TimersOwn (performTimer s act) := by
  have hcall : ∀ act : TimerAction, act.IsTimerCall →
      Sound eventfd (performTimer s act) ∧ TimersOwn (performTimer s act) := by
    intro act hact
    obtain ⟨hs, hto, -⟩ := timerCall_sound act hact h ht
    exact ⟨hs, hto⟩
  cases act with
  | watcher c => exact orderly_exec h ht hok
  | closeFd fd => exact ⟨h.close hok, ⟨ht.owns, ht.injective⟩⟩
  | openFd fd => exact ⟨h.openFd fd, ⟨ht.owns, ht.injective⟩⟩
  | timerCreate => exact hcall (.timerCreate ..) trivial
  | timerStart => exact hcall (.timerStart ..) trivial
  | timerStop => exact hcall (.timerStop ..) trivial
  | timerDestroy => exact hcall (.timerDestroy ..) trivial

/-- What an orderly run preserves. -/
theorem sound_of_reach (h : (timerRuns eventfd).Reach Orderly s) :
    Sound eventfd s ∧ TimersOwn s := by
  refine h.invariant (I := fun s => Sound eventfd s ∧ TimersOwn s) ?_ ?_
  · rintro s ⟨isOpen, rfl⟩
    exact ⟨sound_create isOpen, ⟨fun _ _ htm => (nomatch htm), fun _ _ _ _ htm => (nomatch htm)⟩⟩
  · rintro s act s' ⟨h, ht⟩ hok hnext
    obtain rfl := Option.some.inj hnext
    exact sound_perform h ht hok

theorem timerRuns_step {ok : EpollWorld → TimerAction → Prop}
    (h : (timerRuns eventfd).Reach ok s) (act : TimerAction) (hok : ok s act) :
    (timerRuns eventfd).Reach ok (performTimer s act) :=
  .step h hok rfl

/-! ### The agreement -/

/-- The interest set apart from the eventfd, the table and the active watchers are the
same set of pairs of a descriptor and a watcher, and the kernel's masks are those of
the watchers. -/
structure Agreement (eventfd : ℤ) (s : EpollWorld) : Prop where
  nodup : s.sys.table.Nodup
  table_iff : ∀ fd a, ⟨fd, a⟩ ∈ s.sys.table ↔
    ∃ w, s.heap a = some w ∧ w.active = true ∧ w.fd = fd
  kernel_iff : ∀ fd ev, (s.sys.kernel.interest fd = some ev ∧ ev.ptr ≠ NULL) ↔
    ∃ w, s.heap ev.ptr = some w ∧ w.active = true ∧ w.fd = fd ∧ ev.events = eventsToEpoll w.events
  eventfd_only : ∀ fd ev, s.sys.kernel.interest fd = some ev → ev.ptr = NULL → fd = eventfd

/-- Every membership of a watcher other than the timer's own is as it was. -/
def SparesWatchers (s : EpollWorld) (act : TimerAction) : Prop :=
  ∀ fd ev, s.sys.kernel.interest fd = some ev → ev.ptr ≠ NULL →
    (∀ t tm, act.timer = some t → s.sys.timers t = some tm → tm.watcher ≠ some ev.ptr) →
    (performTimer s act).sys.kernel.interest fd = some ev

theorem Sound.agreement (h : Sound eventfd s) : Agreement eventfd s where
  nodup := h.owned.unique.keys.of_map
  table_iff := by
    intro fd a
    constructor
    · intro hr
      obtain ⟨w, hw⟩ := Option.isSome_iff_exists.1 (h.tracked.live _ hr)
      obtain ⟨hfd, hact⟩ := h.owned.holder _ hr w hw
      exact ⟨w, hw, hact, hfd⟩
    · rintro ⟨w, hw, hact, rfl⟩
      exact (h.agree.registered a w hw hact).1
  kernel_iff := by
    intro fd ev
    constructor
    · rintro ⟨hev, hne⟩
      have hr := h.tracked.recorded fd ev hev hne
      obtain ⟨w, hw⟩ := Option.isSome_iff_exists.1 (h.tracked.live _ hr)
      obtain ⟨rfl, hact⟩ := h.owned.holder _ hr w hw
      have hm := (h.agree.registered ev.ptr w hw hact).2.1
      obtain heq := Option.some.inj (hm.symm.trans hev)
      exact ⟨w, hw, hact, rfl, congrArg EpollEvent.events heq.symm⟩
    · rintro ⟨w, hw, hact, rfl, hmask⟩
      refine ⟨(h.agree.registered ev.ptr w hw hact).2.1.trans ?_, h.owned.ne_null _ w hw⟩
      rw [membership, ← hmask]
  eventfd_only := h.agree.null_only

/-- **In an orderly run the interest set, the table and the active watchers agree after
every call**, and a timer call disturbs no watcher but the timer's own. -/
theorem agreement_of_reach (h : (timerRuns eventfd).Reach Orderly s) :
    Agreement eventfd s ∧ ∀ act : TimerAction, act.IsTimerCall → SparesWatchers s act := by
  obtain ⟨hs, ht⟩ := sound_of_reach h
  refine ⟨hs.agreement, fun act hact fd ev hev hne hother => ?_⟩
  obtain ⟨hs', -, hheap⟩ := timerCall_sound act hact hs ht
  obtain ⟨w, hw, hrest⟩ := (hs.agreement.kernel_iff fd ev).1 ⟨hev, hne⟩
  have hw' := (hheap ev.ptr (Option.isSome_iff_exists.2 ⟨w, hw⟩) hother).trans hw
  exact ((hs'.agreement.kernel_iff fd ev).2 ⟨w, hw', hrest⟩).1

end
/-- A watcher on descriptor 5, and a started timer whose timerfd is 7. -/
def watcherAndTimer : EpollWorld :=
  [TimerAction.watcher (createCall 100 5),
    .timerCreate 50 0 (some (.user 2)) NULL ⟨some 300, some 7, true, granted 200⟩,
    .timerStart 300 none (granted 200).backend].foldl performTimer
      (epollLoopCreate 3 fun fd => fd == 5)

/-- The run is orderly, and destroying the timer keeps the membership of the watcher. -/
theorem watcherAndTimer_agreement :
    Agreement 3 watcherAndTimer ∧ watcherAndTimer.sys.table = [⟨5, 100⟩, ⟨7, 200⟩] ∧
      (pdTimerDestroy watcherAndTimer 300 none).sys.kernel.interest 5 = some ⟨EPOLLIN, 100⟩ := by
  have h₀ : (timerRuns 3).Reach Orderly (epollLoopCreate 3 fun fd => fd == 5) := .init ⟨_, rfl⟩
  have hunnamed : Unnamed (epollLoopCreate 3 fun fd => fd == 5) 5 := fun _ _ hw => nomatch hw
  have h₁ := timerRuns_step h₀ (.watcher (createCall 100 5)) hunnamed
  have h₂ := timerRuns_step h₁ (.timerCreate 50 0 (some (.user 2)) NULL
    ⟨some 300, some 7, true, granted 200⟩) trivial
  have h₃ : (timerRuns 3).Reach Orderly watcherAndTimer :=
    timerRuns_step h₂ (.timerStart 300 none (granted 200).backend) trivial
  obtain ⟨hagree, hspares⟩ := agreement_of_reach h₃
  refine ⟨hagree, by decide, ?_⟩
  refine hspares (.timerDestroy 300 none) trivial 5 ⟨EPOLLIN, 100⟩ (by decide) (by decide) ?_
  intro t tm ht htm heq
  obtain rfl := Option.some.inj ht
  have hwatcher : (watcherAndTimer.sys.timers 300).bind PdTimer.watcher = some 200 := by decide
  rw [htm, Option.bind_some, heq] at hwatcher
  exact absurd hwatcher (by decide)

end Epoll
end PollDancer
