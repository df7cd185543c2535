/-
# A registration that fails on kqueue

`kqueue_watcher_register` evicts the record of another watcher before it knows whether the
kernel takes the filters, it does not take back `EVFILT_READ` when `EVFILT_WRITE` is
refused, and the undo after the table could not grow deletes by descriptor.  A failed
registration should be `Spotless`: the watcher has no filter, and nobody else has lost a
filter or a record.  `failed_register_spotless_iff` says when it is.
-/
import PollDancer.Kqueue.Filters

namespace PollDancer
namespace Kqueue

open Library

/-- What a failed registration of the watcher `a` should leave. -/
structure Spotless (s s' : KqueueWorld) (a : Addr) : Prop where
  own : ∀ fd f n, s'.sys.kernel.knotes fd f = some n → n.udata ≠ a
  filters : ∀ fd f n, s.sys.kernel.knotes fd f = some n → n.udata ≠ a →
    (s.heap n.udata).isSome = true → s'.sys.kernel.knotes fd f = some n
  records : ∀ r ∈ s.sys.table, r.watcher ≠ a → (s.heap r.watcher).isSome = true →
    r ∈ s'.sys.table

/-- The watcher has no filter. -/
def NoFilters (k : Kernel) (a : Addr) : Prop :=
  ∀ fd f n, k.knotes fd f = some n → n.udata ≠ a

/-- The watcher's filters are among those that the undo of its registration deletes. -/
def UndoneOnly (k : Kernel) (a : Addr) (fd : ℤ) (events : PdEvent) : Prop :=
  ∀ fd' f n, k.knotes fd' f = some n → n.udata = a → fd' = fd ∧ asks events f = true

/-- No other watcher has one of the filters that the registration asks for. -/
def Unshared (s : KqueueWorld) (a : Addr) (fd : ℤ) (events : PdEvent) : Prop :=
  ∀ f n, asks events f = true → s.sys.kernel.knotes fd f = some n → n.udata ≠ a →
    s.heap n.udata = none

/-- When a registration that fails does no harm: it gets nowhere, or no record names the
descriptor and either the first change is refused, or the undo meets no other's filter. -/
def Harmless (s : KqueueWorld) (a : Addr) (fd : ℤ) (events : PdEvent) (env : KqueueEnv) : Prop :=
  if s.sys.data.isSome && env.dataAlloc then
    (∀ r ∈ s.sys.table, r.ident ≠ fd) ∧
      if s.sys.kernel.rejects fd events env then
        s.sys.kernel.halfway fd events env = false ∧ NoFilters s.sys.kernel a
      else UndoneOnly s.sys.kernel a fd events ∧ Unshared s a fd events
  else NoFilters s.sys.kernel a

section

variable {s s' : KqueueWorld} {h : Holders} {a : Addr} {fd : ℤ} {events : PdEvent}
  {w : PdWatcher KqueueWatcherData} {env : KqueueEnv}

/-- The reachable states have holders. -/
theorem owned_of_runs (hr : runs.Reachable s) : ∃ h, Owned s h := by
  have hrec : ∃ h, holderRuns.Reachable (s, h) := Machine.Reach.exists_recorded hr
  obtain ⟨h, hrec⟩ := hrec
  exact ⟨h, owned_of_reachable hrec⟩

/-- The eviction takes nobody's record exactly if no record names the descriptor. -/
theorem evicted_keeps_iff (hs : Owned s h) (hfree : ∀ r ∈ s.sys.table, r.watcher ≠ a)
    (ht : s'.sys.table = evicted s.sys.table fd a) :
    (∀ r ∈ s.sys.table, r.watcher ≠ a → (s.heap r.watcher).isSome = true → r ∈ s'.sys.table) ↔
      ∀ r ∈ s.sys.table, r.ident ≠ fd := by
  rw [ht]
  constructor
  · rintro hkeep r hr heq
    obtain ⟨w, hw, -⟩ := hs.named r hr
    have hmem := hkeep r hr (hfree r hr) (by rw [hw]; rfl)
    exact hfree r hr ((hs.unique.mem_evictOther.1 hmem).2 heq)
  · intro hno r hr _ _
    exact hs.unique.mem_evictOther.2 ⟨hr, fun heq => absurd heq (hno r hr)⟩

/-- Without a change of the kernel only the watcher's own filters matter, and the records. -/
theorem spotless_of_kernel_eq (hk : s'.sys.kernel = s.sys.kernel) :
    Spotless s s' a ↔ NoFilters s.sys.kernel a ∧
      ∀ r ∈ s.sys.table, r.watcher ≠ a → (s.heap r.watcher).isSome = true → r ∈ s'.sys.table := by
  constructor
  · intro hsp
    exact ⟨fun fd f n hn => hsp.own fd f n (by rwa [hk]), hsp.records⟩
  · rintro ⟨hno, hrec⟩
    exact ⟨fun fd f n hn => hno fd f n (by rwa [← hk]), fun fd f n hn _ _ => by rwa [hk], hrec⟩

/-- What is left after the undo. -/
theorem spotless_of_undone (hrej : s.sys.kernel.rejects fd events env = false)
    (hk : s'.sys.kernel = (s.sys.kernel.arm fd events a).disarm fd events) :
    Spotless s s' a ↔ (UndoneOnly s.sys.kernel a fd events ∧ Unshared s a fd events) ∧
      ∀ r ∈ s.sys.table, r.watcher ≠ a → (s.heap r.watcher).isSome = true → r ∈ s'.sys.table := by
  have hself : ∀ f, s'.sys.kernel.knotes fd f =
      if asks events f then none else s.sys.kernel.knotes fd f := by
    intro f
    rw [hk]
    exact Kernel.disarm_arm_self a hrej f
  have hne : ∀ fd' f, fd' ≠ fd → s'.sys.kernel.knotes fd' f = s.sys.kernel.knotes fd' f := by
    intro fd' f hfd
    rw [hk, Kernel.disarm_ne _ _ hfd, Kernel.arm_ne _ _ _ hfd]
  constructor
  · intro hsp
    refine ⟨⟨fun fd' f n hn hu => ?_, fun f n hf hn hu => ?_⟩, hsp.records⟩
    · by_contra hnot
      refine hsp.own fd' f n ?_ hu
      rcases eq_or_ne fd' fd with rfl | hfd
      · rwa [hself, if_neg fun hf => hnot ⟨rfl, hf⟩]
      · rwa [hne fd' f hfd]
    · cases hx : s.heap n.udata with
      | none => rfl
      | some x =>
          have hlost := hsp.filters fd f n hn hu (by rw [hx]; rfl)
          rw [hself, if_pos hf] at hlost
          exact nomatch hlost
  · rintro ⟨⟨hundone, hunshared⟩, hrec⟩
    refine ⟨fun fd' f n hn hu => ?_, fun fd' f n hn hu hlive => ?_, hrec⟩
    · rcases eq_or_ne fd' fd with rfl | hfd
      · rw [hself] at hn
        split_ifs at hn with hf
        exact hf (hundone fd' f n hn hu).2
      · rw [hne fd' f hfd] at hn
        exact hfd (hundone fd' f n hn hu).1
    · rcases eq_or_ne fd' fd with rfl | hfd
      · rw [hself, if_neg, hn]
        intro hf
        rw [hunshared f n hf hn hu] at hlive
        exact nomatch hlive
      · rwa [hne fd' f hfd]

/-- A registration that fails, whoever has asked for it. -/
theorem spotless_iff (hs : Owned s h) (hfree : ∀ r ∈ s.sys.table, r.watcher ≠ a)
    (hsys : s'.sys = (kqueueWatcherRegister s.sys a w env).sys)
    (hfail : (kqueueWatcherRegister s.sys a w env).code ≠ .ok) :
    Spotless s s' a ↔ Harmless s a w.fd w.events env := by
  unfold Harmless
  rcases registers s.sys a w env with
    ⟨hatt, -, hk, ht⟩ | ⟨hatt, hrej, hhalf, -, hk, ht⟩ | ⟨hatt, hrej, hhalf, -, hk, -⟩ |
    ⟨hatt, hrej, -, hk, ht⟩ | ⟨-, -, hok, -⟩
  · have hno : ¬(s.sys.data.isSome && env.dataAlloc) = true := by
      rwa [Bool.and_eq_true]
    rw [if_neg hno, spotless_of_kernel_eq (by rw [hsys, hk])]
    exact and_iff_left fun r hr _ _ => by rwa [hsys, ht]
  · have hyes : (s.sys.data.isSome && env.dataAlloc) = true := by rwa [Bool.and_eq_true]
    rw [if_pos hyes, if_pos hrej, spotless_of_kernel_eq (by rw [hsys, hk]),
      evicted_keeps_iff hs hfree (by rw [hsys, ht])]
    constructor
    · exact fun ⟨hno, hun⟩ => ⟨hun, hhalf, hno⟩
    · exact fun ⟨hun, _, hno⟩ => ⟨hno, hun⟩
  · -- the filter for reading has been added
    have hyes : (s.sys.data.isSome && env.dataAlloc) = true := by rwa [Bool.and_eq_true]
    rw [if_pos hyes, if_pos hrej]
    constructor
    · intro hsp
      refine absurd rfl (hsp.own w.fd .read ⟨a, true, w.events.has .edge⟩ ?_)
      rw [hsys, hk, Kernel.setKnote_eq_setFilters, Kernel.setFilters_self, Function.update_self]
    · rintro ⟨-, hno, -⟩
      exact nomatch hhalf.symm.trans hno
  · have hyes : (s.sys.data.isSome && env.dataAlloc) = true := by rwa [Bool.and_eq_true]
    rw [if_pos hyes, if_neg (by rw [hrej]; exact Bool.false_ne_true),
      spotless_of_undone hrej (by rw [hsys, hk]), evicted_keeps_iff hs hfree (by rw [hsys, ht])]
    exact and_comm
  · exact absurd hok hfail

end

/-- **A registration that fails, in `pd_watcher_create` or in `pd_watcher_start`, leaves no
trace exactly if it is harmless.** -/
theorem failed_register_spotless_iff {s : KqueueWorld} (hr : runs.Reachable s) :
    (∀ fd events callback userData env a, s.calloc env.calloc = some a →
      (kqueueWatcherRegister s.sys a (newWatcher fd events callback userData) env.backend).code ≠
        .ok →
      (Spotless s (pdWatcherCreate kqueueOps s fd events callback userData env).1 a ↔
        Harmless s a fd events env.backend)) ∧
    ∀ a w env, s.heap a = some w → w.active = false →
      (kqueueWatcherRegister s.sys a { w with active := true } env).code ≠ .ok →
      (Spotless s (pdWatcherStart kqueueOps s a env).1 a ↔ Harmless s a w.fd w.events env) := by
  obtain ⟨h, hs⟩ := owned_of_runs hr
  constructor
  · intro fd events callback userData env a hc hfail
    obtain ⟨-, -, ha⟩ := World.calloc_eq_some.1 hc
    have hfree := hs.no_record (a := a) fun x hx => nomatch ha.symm.trans hx
    refine spotless_iff (w := newWatcher fd events callback userData) hs hfree ?_ hfail
    rw [create_of_ne_ok hc rfl hfail]
    rfl
  · intro a w env hw hact hfail
    have hfree := hs.no_record (a := a) fun x hx => by
      obtain rfl := Option.some.inj (hw.symm.trans hx)
      exact hact
    refine spotless_iff (w := { w with active := true }) hs hfree ?_ hfail
    rw [start_of_ne_ok hw hact rfl hfail]
    rfl

/-- A loop on which descriptor 5 is open. -/
def fiveOpen : KqueueWorld := kqueueLoopCreate fun fd => fd == 5

/-- The kernel takes the filter for reading and refuses the one for writing. -/
def refusesWrite : CallEnv KqueueEnv := ⟨some 100, true, ⟨true, none, some .ENOMEM, true⟩⟩

theorem fiveOpen_reachable : runs.Reachable fiveOpen := .init ⟨_, rfl⟩

/-- `pd_watcher_create` for reads and writes fails, and the filter for reading stays with
the address of the freed watcher. -/
theorem not_failed_register_spotless :
    ¬∀ s fd events callback userData env a, runs.Reachable s → s.calloc env.calloc = some a →
      (kqueueWatcherRegister s.sys a (newWatcher fd events callback userData) env.backend).code ≠
        .ok →
      Spotless s (pdWatcherCreate kqueueOps s fd events callback userData env).1 a := by
  intro hall
  have hsp := hall fiveOpen 5 (.read ||| .write) none NULL refusesWrite 100 fiveOpen_reachable rfl
    (by decide)
  exact hsp.own 5 .read ⟨100, true, false⟩ rfl rfl

/-- The kernel refuses the filter for writing of a watcher that asks for no other. -/
theorem refusedWrite_spotless :
    Spotless fiveOpen (pdWatcherCreate kqueueOps fiveOpen 5 .write none NULL refusesWrite).1 100 :=
  ((failed_register_spotless_iff fiveOpen_reachable).1 5 .write none NULL refusesWrite 100 rfl
    (by decide)).2 ⟨fun r hr => absurd hr List.not_mem_nil, by decide, fun _ _ _ hn => nomatch hn⟩

end Kqueue
end PollDancer
