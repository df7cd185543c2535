/-
# What the kernel waits for besides the user's watchers

The eventfd of the loop and the timerfds are members of the interest set as well.  As long as
nobody closes the eventfd it stays a member, with `NULL` in its event, and no watcher gets its
number (`Listens`): an `ADD` of a member is refused.  The watcher inside a timer is active
exactly while its timer is, and asks for reads (`InStep`): the calls on the timer make the same
calls on the watcher, nobody else makes any, and where the backend fails both stay as they
were.
-/
import PollDancer.Epoll.TimerArmed
import PollDancer.Readiness

namespace PollDancer
namespace Epoll

open Library

/-! ### The eventfd -/

/-- The eventfd is open and a member, and no watcher names it. -/
structure Listens (eventfd : ℤ) (v : View) : Prop where
  isOpen : v.kernel.isOpen eventfd = true
  member : v.kernel.interest eventfd = some ⟨EPOLLIN, NULL⟩
  unnamed : ∀ a w, v.heap a = some w → w.fd ≠ eventfd

section

variable {eventfd : ℤ} {v : View} {s s' : EpollWorld} {t a : Addr} {tm : PdTimer ℤ}
  {w : PdWatcher EpollWatcherData}

theorem Listens.setHeap (h : Listens eventfd v) {x : Option (PdWatcher EpollWatcherData)}
    (hx : ∀ w, x = some w → w.fd ≠ eventfd) : Listens eventfd (v.setHeap a x) where
  isOpen := h.isOpen
  member := h.member
  unnamed b w hw := by
    rcases View.heap_of_setHeap v hw with ⟨-, hx'⟩ | ⟨-, hw'⟩
    · exact hx w hx'
    · exact h.unnamed b w hw'

theorem Listens.setReg (h : Listens eventfd v) {table : List Registration} {kernel : Kernel}
    (hopen : kernel.isOpen = v.kernel.isOpen)
    (hint : kernel.interest eventfd = v.kernel.interest eventfd) :
    Listens eventfd (v.setReg table kernel) :=
  ⟨(congrFun hopen eventfd).trans h.isOpen, hint.trans h.member, h.unnamed⟩

theorem Listens.setOccupied (h : Listens eventfd v) (l : List Addr) :
    Listens eventfd (v.setOccupied l) :=
  ⟨h.isOpen, h.member, h.unnamed⟩

/-- A watcher is written back on a descriptor that is not the eventfd, whose membership
changes. -/
theorem Listens.setInterest (h : Listens eventfd v) (x : PdWatcher EpollWatcherData) {fd : ℤ}
    (hx : x.fd = fd) (hfd : fd ≠ eventfd) {table : List Registration} (m : Option EpollEvent) :
    Listens eventfd ((v.setHeap a (some x)).setReg table (v.kernel.setInterest fd m)) := by
  refine (h.setHeap fun y hy => ?_).setReg rfl (Kernel.setInterest_interest_ne _ _ hfd.symm)
  obtain rfl := Option.some.inj hy
  rwa [hx]

theorem Listens.create (h : Listens eventfd (view s)) (hs : Attached s) (fd : ℤ)
    (events : PdEvent) (callback : Option Callback) (userData : Addr) (env : CallEnv EpollEnv) :
    Listens eventfd (view (pdWatcherCreate epollOps s fd events callback userData env).1) := by
  rcases (create_cases fd events callback userData env hs).2 with
    ⟨-, heq⟩ | ⟨a, -, ⟨-, -, hv⟩ | ⟨-, -, hv⟩ | ⟨-, -, -, hv⟩ | ⟨-, -, -, hnone, hv⟩⟩
  · rw [heq]
    exact h
  · rw [hv]
    exact h
  · rw [hv]
    exact h.setReg rfl rfl
  · rw [hv]
    exact h.setReg rfl rfl
  · -- an `ADD` of the eventfd would have been refused
    have hfd : fd ≠ eventfd := by
      rintro rfl
      exact absurd (hnone.symm.trans h.member).symm (Option.some_ne_none _)
    rw [hv]
    exact (h.setInterest _ rfl hfd _).setOccupied _

theorem Listens.start (h : Listens eventfd (view s)) (hs : Attached s) (a : Addr)
    (env : EpollEnv) : Listens eventfd (view (pdWatcherStart epollOps s a env).1) := by
  cases hw : s.heap a with
  | none =>
      rw [pdWatcherStart, hw]
      exact h
  | some w =>
      rcases (start_cases env hs hw).2 with
        ⟨-, heq⟩ | ⟨-, -, -, hv⟩ | ⟨-, -, -, hv⟩ | ⟨-, -, -, -, hv⟩
      · rw [heq]
        exact h
      · rw [hv]
        exact h
      · rw [hv]
        exact h.setReg rfl rfl
      · rw [hv]
        exact h.setInterest (started a w) rfl (h.unnamed a w hw) _

theorem Listens.update (h : Listens eventfd (view s)) (hs : Attached s) (a : Addr)
    (events : PdEvent) (env : EpollEnv) :
    Listens eventfd (view (pdWatcherUpdate epollOps s a events env).1) := by
  cases hw : s.heap a with
  | none =>
      rw [pdWatcherUpdate, hw]
      exact h
  | some w =>
      have hx : ∀ x : PdWatcher EpollWatcherData, x.fd = w.fd → ∀ y, some x = some y →
          y.fd ≠ eventfd := by
        rintro x hx y hy
        obtain rfl := Option.some.inj hy
        rw [hx]
        exact h.unnamed a w hw
      rcases (update_cases' events env hs hw).2 with
        ⟨-, heq⟩ | ⟨-, -, hv⟩ | ⟨wd, -, -, -, hv⟩ | ⟨wd, -, -, -, -, hv⟩
      · rw [heq]
        exact h
      · rw [hv]
        exact h.setHeap (hx _ rfl)
      · rw [hv]
        exact h.setHeap (hx _ rfl)
      · rw [hv]
        exact h.setInterest (updated w events _) rfl (h.unnamed a w hw) _

theorem Listens.release (h : Listens eventfd v) {fd : ℤ} (hfd : fd ≠ eventfd)
    {table : List Registration} : Listens eventfd (v.setReg table (v.kernel.release fd)) :=
  h.setReg (Kernel.release_isOpen ..) (Kernel.release_interest_ne _ hfd.symm)

theorem Listens.stop (h : Listens eventfd (view s)) (hs : Attached s) (a : Addr) :
    Listens eventfd (view (pdWatcherStop epollOps s a).1) := by
  cases hw : s.heap a with
  | none =>
      rw [pdWatcherStop, hw]
      exact h
  | some w =>
      have hstopped : Listens eventfd ((view s).setHeap a (some (stopped w))) := by
        refine h.setHeap fun y hy => ?_
        obtain rfl := Option.some.inj hy
        exact h.unnamed a w hw
      rcases (stop_cases hs hw).2 with
        ⟨-, heq⟩ | ⟨-, -, -, hv⟩ | ⟨-, -, -, hv⟩ | ⟨-, -, -, -, hv⟩
      · rw [heq]
        exact h
      · rw [hv]
        exact hstopped
      · rw [hv]
        exact h
      · rw [hv]
        exact hstopped.release (h.unnamed a w hw)

theorem Listens.destroy (h : Listens eventfd (view s)) (hs : Sound eventfd s) (a : Addr) :
    Listens eventfd (view (pdWatcherDestroy epollOps s a)) := by
  cases hw : s.heap a with
  | none =>
      rw [pdWatcherDestroy, hw]
      exact h
  | some w =>
      have hfreed : Listens eventfd ((view s).setHeap a none) :=
        h.setHeap fun y hy => absurd hy.symm (Option.some_ne_none y)
      rcases (destroy_cases hs.attached hw (hs.owned.ne_null a w hw) hs.owned.unique).2 with
        ⟨-, hv⟩ | ⟨-, hv⟩ | ⟨-, -, hv⟩
      · rw [hv]
        exact (hfreed.setReg rfl rfl).setOccupied _
      · rw [hv]
        exact (hfreed.setReg rfl rfl).setOccupied _
      · rw [hv]
        exact (hfreed.release (h.unnamed a w hw)).setOccupied _

theorem Listens.exec (h : Listens eventfd (view s)) (hs : Sound eventfd s) (c : Call EpollEnv) :
    Listens eventfd (view (s.exec epollOps c).1) := by
  cases c with
  | create fd events callback userData env =>
      exact h.create hs.attached fd events callback userData env
  | createForHandle handle events callback userData env =>
      rw [World.exec, epoll_createForHandle]
      exact h
  | update a events env => exact h.update hs.attached a events env
  | stop a => exact h.stop hs.attached a
  | start a env => exact h.start hs.attached a env
  | destroy a => exact h.destroy hs a

/-- Only another descriptor is closed. -/
theorem Listens.close (h : Listens eventfd (view s)) {fd : ℤ} (hfd : fd ≠ eventfd) :
    Listens eventfd (view (closeFd s fd)) where
  isOpen := (Function.update_of_ne hfd.symm ..).trans h.isOpen
  member := (Kernel.close_interest_ne _ hfd.symm).trans h.member
  unnamed := h.unnamed

theorem Listens.openFd (h : Listens eventfd (view s)) (fd : ℤ) :
    Listens eventfd (view (openFd s fd)) where
  isOpen := by
    rcases eq_or_ne eventfd fd with heq | hne
    · exact heq ▸ Function.update_self ..
    · exact (Function.update_of_ne hne ..).trans h.isOpen
  member := h.member
  unnamed := h.unnamed

/-- The timerfd is set, and a call is made on the watcher. -/
theorem Listens.setThenCall (h : Listens eventfd (view s)) (hs : Attached s) (tm : PdTimer ℤ)
    (its : Itimerspec) (refused : Option Errno) {call : EpollWorld → Addr → EpollWorld × PdError}
    (hcall : ∀ s a, Attached s → Listens eventfd (view s) → Listens eventfd (view (call s a).1)) :
    Listens eventfd (view (setThenCall s tm its refused call).1) := by
  unfold Epoll.setThenCall
  split_ifs
  · exact h
  · cases hset : timerfdSettime s (tm.platformData.getD (-1)) its refused with
    | error e => exact ⟨h.isOpen, h.member, h.unnamed⟩
    | ok s₁ =>
        obtain ⟨-, -, rfl⟩ := settime_eq_ok hset
        cases tm.watcher with
        | none => exact ⟨h.isOpen, h.member, h.unnamed⟩
        | some a => exact hcall _ a hs ⟨h.isOpen, h.member, h.unnamed⟩

theorem Listens.timerStart (h : Listens eventfd (view s)) (hs : Attached s) (t : Addr)
    (refused : Option Errno) (env : EpollEnv) :
    Listens eventfd (view (pdTimerStart s t refused env).1) := by
  unfold pdTimerStart
  cases s.sys.timers t with
  | none => exact h
  | some tm =>
      have hset : Listens eventfd (view (setTimer s t (some { tm with active := true }))) :=
        ⟨h.isOpen, h.member, h.unnamed⟩
      have hcall := hset.setThenCall hs { tm with active := true }
        (timerSpec { tm with active := true }) refused fun s a hs h => h.start hs a env
      dsimp only
      rw [epollTimerStart_eq]
      split_ifs
      · exact h
      · exact ⟨hcall.isOpen, hcall.member, hcall.unnamed⟩
      · exact hcall

theorem Listens.timerStop (h : Listens eventfd (view s)) (hs : Attached s) (t : Addr)
    (refused : Option Errno) : Listens eventfd (view (pdTimerStop s t refused).1) := by
  unfold pdTimerStop
  cases s.sys.timers t with
  | none => exact h
  | some tm =>
      have hset : Listens eventfd (view (setTimer s t (some { tm with active := false }))) :=
        ⟨h.isOpen, h.member, h.unnamed⟩
      have hcall := hset.setThenCall hs { tm with active := false } ⟨0, 0, 0, 0⟩ refused
        fun s a hs h => h.stop hs a
      dsimp only
      rw [epollTimerStop_eq]
      split_ifs
      · exact h
      · exact ⟨hcall.isOpen, hcall.member, hcall.unnamed⟩
      · exact hcall

/-- The number of the timerfd is not that of the eventfd, which is open. -/
theorem Listens.timerCreate (h : Listens eventfd (view s)) (hs : Attached s)
    (timeoutMs intervalMs : UInt64) (callback : Option Callback) (userData : Addr)
    (env : TimerEnv) :
    Listens eventfd (view (pdTimerCreate s timeoutMs intervalMs callback userData env).1) := by
  have hcall : ∀ t tm, Listens eventfd (view (epollTimerCreate s t tm env).1) := by
    intro t tm
    unfold epollTimerCreate
    cases hfd : timerfdCreate s env.timerfd with
    | none => exact ⟨h.isOpen, h.member, h.unnamed⟩
    | some fd =>
        obtain ⟨-, hfree⟩ := Option.filter_eq_some_iff.1 hfd
        have hne : fd ≠ eventfd := by
          rintro rfl
          exact absurd ((of_decide_eq_true hfree).2.symm.trans h.isOpen) Bool.false_ne_true
        have hopen := h.openFd fd
        dsimp only
        split_ifs
        · exact hopen.close hne
        · have hmade := hopen.create hs fd .read (some .timerfd) t env.watcher
          have hatt := (create_cases (s := Epoll.openFd s fd) fd .read (some .timerfd) t env.watcher
            hs).1
          split
          · exact hmade.close hne
          · exact hmade.stop hatt _
  unfold pdTimerCreate
  cases callback with
  | none => exact h
  | some callback =>
      cases callocTimer s env.calloc with
      | none => exact h
      | some t =>
          dsimp only
          split_ifs
          · exact hcall t _
          · exact ⟨(hcall t _).isOpen, (hcall t _).member, (hcall t _).unnamed⟩

theorem Listens.timerDestroy (h : Listens eventfd (view s)) (hs : Sound eventfd s)
    (ht : TimersOwn s) (t : Addr) (refused : Option Errno) :
    Listens eventfd (view (pdTimerDestroy s t refused)) := by
  cases htm : s.sys.timers t with
  | none =>
      rw [pdTimerDestroy, htm]
      exact h
  | some tm =>
      obtain ⟨a, w, ha, -⟩ := ht.owns t tm htm
      obtain ⟨s₁, hkeeps, hs₁, hdes⟩ := exists_keeps_timerDestroy hs ht htm ha refused
      have h₁ : Listens eventfd (view s₁) := by
        rcases hs₁ with rfl | rfl
        · exact h
        · exact h.timerStop hs.attached t refused
      obtain ⟨x, hx, hp⟩ := hkeeps.live ha
      have h₂ := h₁.destroy hkeeps.sound a
      have h₃ : Listens eventfd
          (view (epollTimerDestroy (pdWatcherDestroy epollOps s₁ a) tm)) := by
        rw [epollTimerDestroy, hp]
        dsimp only
        split_ifs
        · exact h₂.close (h₁.unnamed a x hx)
        · exact h₂
      rw [hdes]
      exact ⟨h₃.isOpen, h₃.member, h₃.unnamed⟩

/-- What one action keeps. -/
theorem Listens.perform (h : Listens eventfd (view s)) (hs : Sound eventfd s) (ht : TimersOwn s)
    {act : TimerAction} (hok : act ≠ .closeFd eventfd) :
    Listens eventfd (view (performTimer s act)) := by
  cases act with
  | watcher c => exact h.exec hs c
  | timerCreate timeoutMs intervalMs callback userData env =>
      exact h.timerCreate hs.attached timeoutMs intervalMs callback userData env
  | timerStart t refused env => exact h.timerStart hs.attached t refused env
  | timerStop t refused => exact h.timerStop hs.attached t refused
  | timerDestroy t refused => exact h.timerDestroy hs ht t refused
  | closeFd fd =>
      refine h.close ?_
      rintro rfl
      exact hok rfl
  | openFd fd => exact h.openFd fd

end

/-! ### The watchers inside the timers -/

/-- The watcher of a timer is active while the timer is, and asks for reads. -/
def InStep (s : EpollWorld) : Prop :=
  ∀ t tm a, s.sys.timers t = some tm → tm.watcher = some a →
    ∃ i, s.interests a = some i ∧ i.active = tm.active ∧ i.events = .read

section

variable {eventfd : ℤ} {s s' : EpollWorld} {t a : Addr} {tm tm' : PdTimer ℤ}

/-- The timerfd is set, and a call is made on the watcher: if the timerfd cannot be set the
call is not made, and the backend fails. -/
theorem setThenCall_interests (ha : tm.watcher = some a) (its : Itimerspec)
    (refused : Option Errno) (call : EpollWorld → Addr → EpollWorld × PdError) (req : Request)
    (hfail : ∀ I, settle I (req, .code .system) = I)
    (hcall : ∀ s', s'.heap = s.heap → (call s' a).1.interests =
      settle s'.interests (req, .code (call s' a).2)) :
    (setThenCall s tm its refused call).1.interests =
      settle s.interests (req, .code (setThenCall s tm its refused call).2) := by
  unfold setThenCall
  split_ifs
  · exact (hfail _).symm
  · cases hset : timerfdSettime s (tm.platformData.getD (-1)) its refused with
    | error e => exact (hfail _).symm
    | ok s₁ =>
        obtain ⟨-, -, rfl⟩ := settime_eq_ok hset
        rw [ha]
        exact hcall _ rfl

/-- `pd_timer_start` of a timer that is not active starts its watcher. -/
theorem timerStart_interests {w : PdWatcher EpollWatcherData} (htm : s.sys.timers t = some tm)
    (ha : tm.watcher = some a) (hw : s.heap a = some w) (hact : tm.active = false)
    (refused : Option Errno) (env : EpollEnv) :
    (pdTimerStart s t refused env).1.interests =
      settle s.interests (.start a, .code (pdTimerStart s t refused env).2) := by
  have ha' : PdTimer.watcher { tm with active := true } = some a := ha
  have hcall := setThenCall_interests (s := setTimer s t (some { tm with active := true })) ha'
    (timerSpec { tm with active := true }) refused
    (fun s a => pdWatcherStart epollOps s a env) (.start a) (fun _ => rfl)
    fun s' hheap => (settles_start epollOps ((congrFun hheap a).trans hw) env).eq_settle
  unfold pdTimerStart
  rw [htm]
  dsimp only
  rw [hact, if_neg Bool.false_ne_true, epollTimerStart_eq]
  split_ifs with hcode
  · exact hcall
  · exact hcall.trans (by rw [not_not.1 hcode]; rfl)

/-- `pd_timer_stop` of an active timer stops its watcher. -/
theorem timerStop_interests {w : PdWatcher EpollWatcherData} (htm : s.sys.timers t = some tm)
    (ha : tm.watcher = some a) (hw : s.heap a = some w) (hact : tm.active = true)
    (refused : Option Errno) :
    (pdTimerStop s t refused).1.interests =
      settle s.interests (.stop a, .code (pdTimerStop s t refused).2) := by
  have ha' : PdTimer.watcher { tm with active := false } = some a := ha
  have hcall := setThenCall_interests (s := setTimer s t (some { tm with active := false })) ha'
    ⟨0, 0, 0, 0⟩ refused
    (pdWatcherStop epollOps) (.stop a) (fun _ => rfl)
    fun s' hheap => (settles_stop epollOps ((congrFun hheap a).trans hw)).eq_settle
  unfold pdTimerStop
  rw [htm]
  dsimp only
  rw [hact, Bool.not_true, if_neg Bool.false_ne_true, epollTimerStop_eq]
  split_ifs with hcode
  · exact hcall
  · exact hcall.trans (by rw [not_not.1 hcode]; rfl)

theorem InStep.quiet (h : InStep s) (t : Addr) : Quiet s t := by
  intro tm a w htm ha hw hact
  obtain ⟨i, hi, hsame, -⟩ := h t tm a htm ha
  obtain rfl := Option.some.inj ((interests_eq_some hw).symm.trans hi)
  exact hsame.trans hact

/-- A call on the timer `t` has left the other timers and their watchers alone. -/
theorem InStep.keeps (h : InStep s) (ht : TimersOwn s) (htm : s.sys.timers t = some tm)
    (ha : tm.watcher = some a) (k : Keeps eventfd s s' t a tm)
    (hself : ∃ i, s'.interests a = some i ∧ i.active = active s' t ∧ i.events = .read) :
    InStep s' := by
  intro u x b hx hb
  rcases eq_or_ne u t with rfl | hne
  · obtain ⟨tm', htm', hsame⟩ := k.timer
    obtain rfl := Option.some.inj (htm'.symm.trans hx)
    obtain rfl := Option.some.inj ((hsame.watcher_eq.trans ha).symm.trans hb)
    rwa [active_of_some hx] at hself
  · have hx' := (k.timer_ne u hne).symm.trans hx
    have hba : b ≠ a := by
      rintro rfl
      exact hne (ht.injective u t x tm hx' htm (hb.trans ha.symm))
    obtain ⟨i, hi, hrest⟩ := h u x b hx' hb
    exact ⟨i, (interests_congr (k.heap_ne b hba)).trans hi, hrest⟩

theorem InStep.timerStart (h : InStep s) (hs : Sound eventfd s) (ht : TimersOwn s)
    (refused : Option Errno) (env : EpollEnv) : InStep (pdTimerStart s t refused env).1 := by
  cases htm : s.sys.timers t with
  | none =>
      rw [pdTimerStart, htm]
      exact h
  | some tm =>
      obtain ⟨a, w, ha, -, hw, -⟩ := ht.owns t tm htm
      obtain ⟨i, hi, hact, hread⟩ := h t tm a htm ha
      have k := keeps_timerStart hs ht htm ha refused env
      obtain ⟨-, hcases⟩ := timerStart_cases hs ht (h.quiet t) refused env
      rcases hcases with ⟨-, heq⟩ | ⟨hno, hok, hyes, -⟩ | ⟨hno, hne, hstill⟩
      · rw [heq]
        exact h
      · rw [active_of_some htm] at hno
        refine h.keeps ht htm ha k ⟨{ i with active := true }, ?_, hyes.symm, hread⟩
        rw [timerStart_interests htm ha hw hno, hok, settle, Function.update_self, hi]
        rfl
      · rw [active_of_some htm] at hno
        refine h.keeps ht htm ha k ⟨i, ?_, (hact.trans hno).trans hstill.symm, hread⟩
        rw [timerStart_interests htm ha hw hno, settle_start_of_ne_ok _ _ hne]
        exact hi

theorem InStep.timerStop (h : InStep s) (hs : Sound eventfd s) (ht : TimersOwn s)
    (refused : Option Errno) : InStep (pdTimerStop s t refused).1 := by
  cases htm : s.sys.timers t with
  | none =>
      rw [pdTimerStop, htm]
      exact h
  | some tm =>
      obtain ⟨a, w, ha, -, hw, -⟩ := ht.owns t tm htm
      obtain ⟨i, hi, hact, hread⟩ := h t tm a htm ha
      cases hyes : tm.active with
      | false =>
          have hsame : pdTimerStop s t refused = (s, .ok) := by simp [pdTimerStop, htm, hyes]
          rw [hsame]
          exact h
      | true =>
          have k := keeps_timerStop hs ht htm ha refused
          obtain ⟨-, ⟨hok, hno⟩ | ⟨hne, hstill⟩⟩ := timerStop_cases hs ht (h.quiet t) refused
          · refine h.keeps ht htm ha k ⟨{ i with active := false }, ?_, hno.symm, hread⟩
            rw [timerStop_interests htm ha hw hyes, hok, settle, Function.update_self, hi]
            rfl
          · rw [active_of_some htm] at hstill
            refine h.keeps ht htm ha k ⟨i, ?_, hact.trans hstill.symm, hread⟩
            rw [timerStop_interests htm ha hw hyes, settle_stop_of_ne_ok _ _ hne]
            exact hi

/-- The watcher that `epoll_timer_create` makes asks for reads. -/
theorem epollTimerCreate_reads (s : EpollWorld) (t : Addr) (tm : PdTimer ℤ) (env : TimerEnv)
    (hok : (epollTimerCreate s t tm env).2.2 = .ok) :
    (epollTimerCreate s t tm env).2.1.active = tm.active ∧
      ∀ a, (epollTimerCreate s t tm env).2.1.watcher = some a →
        ∃ i, (epollTimerCreate s t tm env).1.interests a = some i ∧ i.events = .read := by
  unfold epollTimerCreate at hok ⊢
  cases hfd : timerfdCreate s env.timerfd with
  | none =>
      rw [hfd] at hok
      exact absurd hok (by simp)
  | some fd =>
      rw [hfd] at hok
      dsimp only at hok ⊢
      split_ifs at hok ⊢
      have hmade := (settles_create epollOps (openFd s fd) fd .read (some .timerfd) t
        env.watcher).eq_settle
      generalize pdWatcherCreate epollOps (openFd s fd) fd .read (some .timerfd) t
        env.watcher = r at hok hmade ⊢
      obtain ⟨s₁, o⟩ := r
      cases o with
      | none => exact absurd hok (by simp)
      | some b =>
          refine ⟨rfl, fun a ha => ?_⟩
          obtain rfl := Option.some.inj ha
          have hi : s₁.interests b = some ⟨fd, NULL, .read, true⟩ := by
            rw [hmade, settle, Function.update_self]
          obtain ⟨w, hw, -⟩ := Option.map_eq_some_iff.1 hi
          have hstop := (settles_stop epollOps hw).eq_settle
          dsimp only
          by_cases hcode : (pdWatcherStop epollOps s₁ b).2 = .ok
          · refine ⟨⟨fd, NULL, .read, false⟩, ?_, rfl⟩
            rw [hstop, hcode, settle, Function.update_self, hi]
            rfl
          · refine ⟨⟨fd, NULL, .read, true⟩, ?_, rfl⟩
            rw [hstop, settle_stop_of_ne_ok _ _ hcode]
            exact hi

/-- The timer `t` is new, and so is its watcher at `a`; neither is active. -/
structure TimerMade (s s' : EpollWorld) (t a : Addr) (tm : PdTimer ℤ)
    (x : PdWatcher EpollWatcherData) : Prop where
  timer_new : s.sys.timers t = none
  watcher_new : s.heap a = none
  timers_eq : s'.sys.timers = Function.update s.sys.timers t (some tm)
  heap_eq : s'.heap = Function.update s.heap a (some x)
  watcher_eq : tm.watcher = some a
  inactive : tm.active = false
  stopped : x.active = false
  reads : x.events = .read

theorem TimerMade.timer_self {x : PdWatcher EpollWatcherData} (h : TimerMade s s' t a tm x) :
    s'.sys.timers t = some tm := by
  rw [h.timers_eq, Function.update_self]

theorem TimerMade.timer_ne {x : PdWatcher EpollWatcherData} (h : TimerMade s s' t a tm x)
    {u : Addr} (hu : u ≠ t) : s'.sys.timers u = s.sys.timers u := by
  rw [h.timers_eq, Function.update_of_ne hu]

theorem TimerMade.heap_ne {x : PdWatcher EpollWatcherData} (h : TimerMade s s' t a tm x)
    {b : Addr} (hb : b ≠ a) : s'.heap b = s.heap b := by
  rw [h.heap_eq, Function.update_of_ne hb]

/-- `pd_timer_create` fails, and touches neither a watcher nor a timer; or it makes a timer with
a watcher of its own. -/
theorem timerCreate_spec (hs : Sound eventfd s) (timeoutMs intervalMs : UInt64)
    (callback : Option Callback) (userData : Addr) (env : TimerEnv) :
    ((pdTimerCreate s timeoutMs intervalMs callback userData env).1.sys.timers = s.sys.timers ∧
      (pdTimerCreate s timeoutMs intervalMs callback userData env).1.heap = s.heap) ∨
    ∃ t a tm x,
      TimerMade s (pdTimerCreate s timeoutMs intervalMs callback userData env).1 t a tm x := by
  unfold pdTimerCreate
  cases callback with
  | none => exact .inl ⟨rfl, rfl⟩
  | some callback =>
      cases hc : callocTimer s env.calloc with
      | none => exact .inl ⟨rfl, rfl⟩
      | some t =>
          dsimp only
          rw [callocTimer, Option.filter_eq_some_iff] at hc
          have hfresh : s.sys.timers t = none :=
            Option.isNone_iff_eq_none.1 (of_decide_eq_true hc.2).2
          obtain ⟨-, htimers, hcases⟩ := hs.timerCreate t
            ⟨none, timeoutMs, intervalMs, callback, userData, false, false, none⟩ env
          have hreads := epollTimerCreate_reads s t
            ⟨none, timeoutMs, intervalMs, callback, userData, false, false, none⟩ env
          generalize epollTimerCreate s t
            ⟨none, timeoutMs, intervalMs, callback, userData, false, false, none⟩ env = r
            at htimers hcases hreads ⊢
          rcases hcases with ⟨hne, hheap⟩ | ⟨a, x, hok, hdead, hstopped, hwatch, -, -, hheap⟩
          · rw [if_pos hne]
            exact .inl ⟨htimers, hheap⟩
          · rw [if_neg (not_not_intro hok)]
            obtain ⟨hact, hread⟩ := hreads hok
            obtain ⟨i, hi, hevents⟩ := hread a hwatch
            have hx : r.1.interests a = some x.interest :=
              interests_eq_some (hheap ▸ Function.update_self ..)
            obtain rfl := Option.some.inj (hx.symm.trans hi)
            refine .inr ⟨t, a, r.2.1, x, hfresh, hdead, ?_, hheap, hwatch, hact, hstopped, hevents⟩
            rw [← htimers]
            rfl

/-- A timer that is created brings a stopped watcher for reads. -/
theorem InStep.timerCreate (h : InStep s) (hs : Sound eventfd s)
    (timeoutMs intervalMs : UInt64) (callback : Option Callback) (userData : Addr)
    (env : TimerEnv) :
    InStep (pdTimerCreate s timeoutMs intervalMs callback userData env).1 := by
  have hspec := timerCreate_spec hs timeoutMs intervalMs callback userData env
  generalize (pdTimerCreate s timeoutMs intervalMs callback userData env).1 = s' at hspec ⊢
  intro u y b hy hb
  rcases hspec with ⟨htimers, hheap⟩ | ⟨t, a, tm, x, hm⟩
  · rw [htimers] at hy
    obtain ⟨i, hi, hrest⟩ := h u y b hy hb
    exact ⟨i, (interests_congr (congrFun hheap b)).trans hi, hrest⟩
  · rcases eq_or_ne u t with rfl | hu
    · obtain rfl := Option.some.inj (hm.timer_self.symm.trans hy)
      obtain rfl := Option.some.inj (hm.watcher_eq.symm.trans hb)
      refine ⟨x.interest, interests_eq_some ?_, hm.stopped.trans hm.inactive.symm, hm.reads⟩
      rw [hm.heap_eq, Function.update_self]
    · rw [hm.timer_ne hu] at hy
      obtain ⟨i, hi, hrest⟩ := h u y b hy hb
      have hba : b ≠ a := by
        rintro rfl
        rw [World.interests, hm.watcher_new] at hi
        exact absurd hi.symm (Option.some_ne_none i)
      exact ⟨i, (interests_congr (hm.heap_ne hba)).trans hi, hrest⟩

theorem InStep.timerDestroy (h : InStep s) (hs : Sound eventfd s) (ht : TimersOwn s) (t : Addr)
    (refused : Option Errno) : InStep (pdTimerDestroy s t refused) := by
  cases htm : s.sys.timers t with
  | none =>
      rw [pdTimerDestroy, htm]
      exact h
  | some tm =>
      obtain ⟨a, w, ha, -⟩ := ht.owns t tm htm
      obtain ⟨-, -, hheap⟩ := timerDestroy_sound hs ht htm ha refused
      obtain ⟨-, hself, htimers⟩ := timerDestroy_timers hs ht htm ha refused
      intro u x b hx hb
      have hu : u ≠ t := by
        rintro rfl
        exact absurd (hself.symm.trans hx).symm (Option.some_ne_none x)
      rw [htimers u hu] at hx
      have hba : b ≠ a := by
        rintro rfl
        exact hu (ht.injective u t x tm hx htm (hb.trans ha.symm))
      obtain ⟨i, hi, hrest⟩ := h u x b hx hb
      exact ⟨i, (interests_congr (hheap b hba)).trans hi, hrest⟩

/-- A call that is not on a timer's watcher. -/
theorem InStep.exec (h : InStep s) (ht : TimersOwn s) {c : Call EpollEnv}
    (hok : Orderly s (.watcher c)) : InStep (s.exec epollOps c).1 := by
  intro t tm a htm ha
  rw [(exec_sameTimers s c).timers] at htm
  obtain ⟨b, w, hb, -, hw, -⟩ := ht.owns t tm htm
  obtain rfl := Option.some.inj (ha.symm.trans hb)
  have hne : c.target ≠ some a := by
    intro hc
    cases c with
    | create => exact nomatch hc
    | createForHandle => exact nomatch hc
    | update => exact hok a hc t tm htm ha
    | stop => exact hok a hc t tm htm ha
    | start => exact hok a hc t tm htm ha
    | destroy => exact hok a hc t tm htm ha
  obtain ⟨i, hi, hrest⟩ := h t tm a htm ha
  refine ⟨i, ?_, hrest⟩
  rw [interests_eq_some (World.exec_heap_ne hw hne), ← interests_eq_some hw]
  exact hi

/-- What one action keeps. -/
theorem InStep.perform (h : InStep s) (hs : Sound eventfd s) (ht : TimersOwn s)
    {act : TimerAction} (hok : Orderly s act) : InStep (performTimer s act) := by
  cases act with
  | watcher c => exact h.exec ht hok
  | timerCreate timeoutMs intervalMs callback userData env =>
      exact h.timerCreate hs timeoutMs intervalMs callback userData env
  | timerStart t refused env => exact h.timerStart hs ht refused env
  | timerStop t refused => exact h.timerStop hs ht refused
  | timerDestroy t refused => exact h.timerDestroy hs ht t refused
  | closeFd fd => exact h
  | openFd fd => exact h

end

end Epoll
end PollDancer
