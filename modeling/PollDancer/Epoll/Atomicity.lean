/-
# A registration that fails

`pd_watcher_create` and `pd_watcher_start` may fail at five points: `calloc` of the
watcher, `calloc` of the platform data, `EPOLL_CTL_ADD`, growth of the table, growth
of the watcher list.  A failed call should be `Atomic`: nobody else loses a
membership or the record of one, and the watcher of the call has neither.

The undo steps are right at every point but one.  The eviction comes before
`EPOLL_CTL_ADD`, and when the descriptor is a member already, the `EEXIST` that
follows leaves the member without its record.  `failed_call_atomic_iff` says that
this is the only way to fail that is not atomic.
-/
import PollDancer.Epoll.Teardown

namespace PollDancer
namespace Epoll

open Library

/-- The call that led from `s` to `s'` on behalf of the watcher `a` (`none` when no
memory was found for it) has had no effect on the others, and none is left of it. -/
structure Atomic (s s' : EpollWorld) (a : Option Addr) : Prop where
  members : ∀ fd ev, s.sys.kernel.interest fd = some ev → a ≠ some ev.ptr →
    s'.sys.kernel.interest fd = some ev
  records : ∀ fd ev, s.sys.kernel.interest fd = some ev → a ≠ some ev.ptr →
    ⟨fd, ev.ptr⟩ ∈ s.sys.table → ⟨fd, ev.ptr⟩ ∈ s'.sys.table
  noRecord : ∀ r ∈ s'.sys.table, a ≠ some r.watcher
  noMember : ∀ fd ev, s'.sys.kernel.interest fd = some ev → a ≠ some ev.ptr

section

variable {s s' : EpollWorld} {a : Addr} {fd : ℤ}

/-- A watcher without a record in a disciplined run has no membership either. -/
theorem Tracked.noMember (h : Tracked (view s)) (ha : a ≠ NULL) (hno : ¬(view s).HasRecord a) :
    ∀ fd ev, s.sys.kernel.interest fd = some ev → some a ≠ some ev.ptr := by
  rintro fd ev hev heq
  obtain rfl := Option.some.inj heq
  exact hno ⟨_, h.recorded fd ev hev ha, rfl⟩

/-- Losing records only is atomic as long as no member loses its own. -/
theorem atomic_of_records (h : Tracked (view s)) (ha : a ≠ NULL) (hno : ¬(view s).HasRecord a)
    (hk : s'.sys.kernel = s.sys.kernel) (hsub : ∀ r ∈ s'.sys.table, r ∈ s.sys.table)
    (hkeep : ∀ fd ev, s.sys.kernel.interest fd = some ev → ⟨fd, ev.ptr⟩ ∈ s.sys.table →
      ⟨fd, ev.ptr⟩ ∈ s'.sys.table) : Atomic s s' (some a) where
  members := fun fd ev hev _ => by rwa [hk]
  records := fun fd ev hev _ hr => hkeep fd ev hev hr
  noRecord := by
    rintro r hr heq
    exact hno ⟨r, hsub r hr, (Option.some.inj heq).symm⟩
  noMember := by
    rw [hk]
    exact h.noMember ha hno

/-- The eviction for a descriptor that is not a member for a watcher keeps the record
of every member. -/
theorem mem_evicted_of_member (ho : Owned (view s)) (h : Tracked (view s))
    (hfree : ¬(view s).Taken fd) {fd' : ℤ} {ev : EpollEvent}
    (hev : s.sys.kernel.interest fd' = some ev) (hr : ⟨fd', ev.ptr⟩ ∈ s.sys.table) :
    ⟨fd', ev.ptr⟩ ∈ evicted s.sys.table fd a := by
  refine ho.unique.mem_evictOther.2 ⟨hr, ?_⟩
  rintro rfl
  obtain ⟨w, hw⟩ := Option.isSome_iff_exists.1 (h.live _ hr)
  exact absurd ⟨ev, hev, ho.ne_null _ w hw⟩ hfree

/-- A registration that is refused after the eviction is atomic exactly when the
descriptor was not a member for a watcher. -/
theorem atomic_evicted_iff (ho : Owned (view s)) (h : Tracked (view s)) (ha : a ≠ NULL)
    (hno : ¬(view s).HasRecord a)
    (hv : view s' = (view s).setReg (evicted s.sys.table fd a) s.sys.kernel) :
    Atomic s s' (some a) ↔ ¬(view s).Taken fd := by
  have ht : s'.sys.table = evicted s.sys.table fd a := congrArg View.table hv
  have hk : s'.sys.kernel = s.sys.kernel := congrArg View.kernel hv
  constructor
  · rintro hat ⟨ev, hev, hne⟩
    have hother := h.noMember ha hno fd ev hev
    have hr := hat.records fd ev hev hother (h.recorded fd ev hev hne)
    rw [ht] at hr
    exact hother (congrArg some ((ho.unique.mem_evictOther.1 hr).2 rfl).symm)
  · intro hfree
    refine atomic_of_records h ha hno hk (fun r hr => ?_) fun fd' ev hev hr => ?_
    · rw [ht] at hr
      exact (ho.unique.mem_evictOther.1 hr).1
    · rw [ht]
      exact mem_evicted_of_member ho h hfree hev hr

/-- A call that changes neither table nor kernel is atomic. -/
theorem atomic_of_view_eq (h : Tracked (view s)) (ha : a ≠ NULL) (hno : ¬(view s).HasRecord a)
    (hv : view s' = view s) : Atomic s s' (some a) := by
  have ht : s'.sys.table = s.sys.table := congrArg View.table hv
  exact atomic_of_records h ha hno (congrArg View.kernel hv) (fun r hr => ht ▸ hr)
    fun fd ev _ hr => ht.symm ▸ hr

end

/-- **A failed `pd_watcher_create` or `pd_watcher_start` is atomic exactly when the
call is disciplined**: when it fails before the eviction, or its descriptor is not a
member for another watcher. -/
theorem failed_call_atomic_iff {s : EpollWorld} (h : runs.Reach Disciplined s) :
    (∀ fd events callback userData env,
      (pdWatcherCreate epollOps s fd events callback userData env).2 = none →
      (Atomic s (pdWatcherCreate epollOps s fd events callback userData env).1
        (s.calloc env.calloc) ↔
          (env.backend.dataAlloc = true → (s.calloc env.calloc).isSome → ¬(view s).Taken fd))) ∧
    (∀ a w env, s.heap a = some w → (pdWatcherStart epollOps s a env).2 ≠ .ok →
      (Atomic s (pdWatcherStart epollOps s a env).1 (some a) ↔
        (env.dataAlloc = true → ¬(view s).Taken w.fd))) := by
  obtain ⟨hs, ho, ht⟩ := tracked_of_reach h
  constructor
  · intro fd events callback userData env hfail
    rcases (create_cases fd events callback userData env hs).2 with ⟨hc, heq⟩ | ⟨a, hc, hcases⟩
    · rw [heq, hc]
      have hat : Atomic s s none :=
        ⟨fun _ _ hev _ => hev, fun _ _ _ _ hr => hr, fun _ _ heq => (nomatch heq),
          fun _ _ _ heq => (nomatch heq)⟩
      exact iff_of_true hat fun _ hsome => nomatch hsome
    · obtain ⟨-, ha, hdead⟩ := World.calloc_eq_some.1 hc
      have hno : ¬(view s).HasRecord a := ht.noRecord hdead
      rw [hc]
      rcases hcases with
        ⟨halloc, -, hv⟩ | ⟨halloc, -, hv⟩ | ⟨-, -, hnone, hv⟩ | ⟨-, hsome, -⟩
      · refine iff_of_true (atomic_of_view_eq ht ha hno hv) fun htrue => ?_
        exact nomatch halloc.symm.trans htrue
      · rw [atomic_evicted_iff ho ht ha hno hv]
        exact ⟨fun hfree _ _ => hfree, fun hfree => hfree halloc rfl⟩
      · have hfree : ¬(view s).Taken fd := by
          rintro ⟨ev, hev, -⟩
          exact nomatch hnone.symm.trans hev
        have hu : Unique Registration.fd Registration.watcher
            (evicted s.sys.table fd a ++ [⟨fd, a⟩]) :=
          ho.unique.claim rfl rfl fun y hy hya => hno ⟨y, hy, hya⟩
        have htab : (pdWatcherCreate epollOps s fd events callback userData env).1.sys.table =
            dropped (evicted s.sys.table fd a ++ [⟨fd, a⟩]) a := congrArg View.table hv
        refine iff_of_true (atomic_of_records ht ha hno (congrArg View.kernel hv) ?_ ?_)
          fun _ _ => hfree
        · intro r hr
          obtain ⟨hr, hra⟩ := hu.mem_dropOwner.1 (htab ▸ hr)
          rcases List.mem_append.1 hr with hr | hr
          · exact (ho.unique.mem_evictOther.1 hr).1
          · obtain rfl := List.mem_singleton.1 hr
            exact absurd rfl hra
        · intro fd' ev hev hr
          rw [htab]
          refine hu.mem_dropOwner.2 ⟨List.mem_append_left _
            (mem_evicted_of_member ho ht hfree hev hr), ?_⟩
          exact fun hra => hno ⟨_, hr, hra⟩
      · exact nomatch hfail.symm.trans hsome
  · intro a w env hw hfail
    have ha := ho.ne_null a w hw
    rcases (start_cases env hs hw).2 with
      ⟨-, heq⟩ | ⟨hact, halloc, -, hv⟩ | ⟨hact, halloc, -, hv⟩ | ⟨-, hok, -⟩
    · rw [heq] at hfail
      exact absurd rfl hfail
    · have hno := ho.not_hasRecord_of_inactive hw hact
      refine iff_of_true (atomic_of_view_eq ht ha hno hv) fun htrue => ?_
      exact nomatch halloc.symm.trans htrue
    · have hno := ho.not_hasRecord_of_inactive hw hact
      rw [atomic_evicted_iff ho ht ha hno hv]
      exact ⟨fun hfree _ => hfree, fun hfree => hfree halloc⟩
    · exact absurd hok hfail

/-- One watcher, on descriptor 5. -/
def oneWatcher : EpollWorld :=
  performAll (epollLoopCreate 3 fun fd => fd == 5) [createAt 100 5]

/-- A second creation on descriptor 5 is refused, and the first watcher has lost its
record. -/
theorem not_failed_call_atomic :
    ¬∀ s fd events callback userData env, runs.Reachable s →
      (pdWatcherCreate epollOps s fd events callback userData env).2 = none →
      Atomic s (pdWatcherCreate epollOps s fd events callback userData env).1
        (s.calloc env.calloc) := by
  intro h
  have hr : runs.Reachable oneWatcher := reach_performAll (.init ⟨3, _, rfl⟩) _ rfl
  have hat := h oneWatcher 5 .read (some (.user 1)) NULL (granted 200) hr (by decide)
  have hrec := hat.records 5 ⟨EPOLLIN, 100⟩ (by decide) (by decide) (by decide)
  revert hrec
  decide

/-- A creation on a closed descriptor fails without an effect; one on the descriptor
of the first watcher does not. -/
theorem oneWatcher_atomic :
    Atomic oneWatcher (pdWatcherCreate epollOps oneWatcher 6 .read none NULL (granted 200)).1
      (some 200) ∧
    ¬Atomic oneWatcher (pdWatcherCreate epollOps oneWatcher 5 .read none NULL (granted 200)).1
      (some 200) := by
  have hr : runs.Reach Disciplined oneWatcher := reach_performAll (.init ⟨3, _, rfl⟩) _ rfl
  have hiff := (failed_call_atomic_iff hr).1
  exact ⟨(hiff 6 .read none NULL (granted 200) (by decide)).2 (by decide),
    fun hat => (hiff 5 .read none NULL (granted 200) (by decide)).1 hat (by decide) (by decide)
      (by decide)⟩

end Epoll
end PollDancer
