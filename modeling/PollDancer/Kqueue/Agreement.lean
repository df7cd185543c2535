/-
# Filters and masks in step

On kqueue the filters of the kernel, the table of registrations and the watchers with
`active = 1` are kept by different pieces of code, as on epoll.  They agree in runs with
timers in which descriptors outlive their watchers and no two watchers share one, in which an
update asks for the filters that are there, since `pd_watcher_update` changes none, and in
which no registration is refused half way (`Orderly`): an active watcher has exactly the
filters of its mask, and every filter is that of an active watcher (`Sound`).

`Filtered.change` is the step lemma: it says what a call on one watcher has to keep of the
others, and of the watcher itself.  The timers have no part in it but for their placeholders,
which are never active.
-/
import PollDancer.Kqueue.Leftover
import PollDancer.Kqueue.TimerRuns

namespace PollDancer
namespace Kqueue

open Library

/-- The filter that a mask asks for on behalf of the watcher. -/
def filterOf (a : Addr) (events : PdEvent) (f : Filter) : Option Knote :=
  if asks events f then some ⟨a, true, events.has .edge⟩ else none

/-- An active watcher has its record and the filters of its mask, and no two watchers share a
descriptor, those of `H` apart. -/
structure Filtered (H : Set Addr) (s : KqueueWorld) : Prop where
  registered : ∀ a w, s.heap a = some w → w.active = true →
    ⟨w.fd, a⟩ ∈ s.sys.table ∧ ∀ f, s.sys.kernel.knotes w.fd f = filterOf a w.events f
  distinct : ∀ a b w x, a ∉ H → b ∉ H → s.heap a = some w → s.heap b = some x → w.fd = x.fd → a = b

/-- The invariant of orderly runs. -/
structure Sound (s : KqueueWorld) : Prop where
  owned : ∃ h, Owned s h
  attended : Attended s
  filtered : Filtered (hidden s) s

/-- No watcher of the user names the descriptor. -/
def Unnamed (s : KqueueWorld) (fd : ℤ) : Prop :=
  ∀ a w, a ∉ hidden s → s.heap a = some w → w.fd ≠ fd

/-- The user keeps to the rules: no watcher is created on a descriptor that a watcher names,
a descriptor is closed only when no watcher names it, an update asks for the filters that
are there, and the kernel refuses no registration half way. -/
def Orderly (s : TimerWorld) : TimerAction → Prop
  | .call (.create fd events callback userData env) => Unnamed s.world fd ∧
      Tidy s.world (.call (.create fd events callback userData env))
  | .call (.update a events _) =>
      ∀ w, s.world.heap a = some w → w.active = true → SameFilters w.events events
  | .call (.start a env) => Tidy s.world (.call (.start a env))
  | .closeFd fd => Unnamed s.world fd
  | _ => True

section

variable {H : Set Addr} {s s' : KqueueWorld} {a : Addr} {w : PdWatcher KqueueWatcherData} {fd : ℤ}

theorem filterOf_eq (a : Addr) (events : PdEvent) (f : Filter) :
    filterOf a events f = (wanted events f.bit).map fun clear => ⟨a, true, clear⟩ := by
  unfold filterOf wanted asks
  split_ifs <;> rfl

/-- The two masks ask for the same filters. -/
theorem filterOf_congr {events events' : PdEvent} (h : SameFilters events events') (a : Addr)
    (f : Filter) : filterOf a events f = filterOf a events' f := by
  cases f with
  | read => rw [filterOf_eq, filterOf_eq, Filter.bit, h.read]
  | write => rw [filterOf_eq, filterOf_eq, Filter.bit, h.write]
  | timer => rw [filterOf, filterOf, asks_timer, asks_timer, if_neg Bool.false_ne_true,
        if_neg Bool.false_ne_true]
  | user => rw [filterOf, filterOf, asks_user, asks_user, if_neg Bool.false_ne_true,
        if_neg Bool.false_ne_true]

/-- A call on the watcher `a`, whose descriptor is `fd`: the other watchers stay, with their
records and filters, and `a` has its own if it is active. -/
theorem Filtered.change (h : Filtered H s) (a : Addr) (fd : ℤ)
    (hheap : ∀ b, b ≠ a → s'.heap b = s.heap b)
    (hactive : ∀ b x, s.heap b = some x → x.active = true → b ∉ H)
    (hfd : ∀ b x, b ∉ H → b ≠ a → s.heap b = some x → x.fd ≠ fd)
    (htable : ∀ r ∈ s.sys.table, r.watcher ≠ a → r.ident ≠ fd → r ∈ s'.sys.table)
    (hknotes : ∀ fd' f, fd' ≠ fd → s'.sys.kernel.knotes fd' f = s.sys.kernel.knotes fd' f)
    (hself : ∀ x, s'.heap a = some x → x.fd = fd ∧ (x.active = true →
      ⟨fd, a⟩ ∈ s'.sys.table ∧ ∀ f, s'.sys.kernel.knotes fd f = filterOf a x.events f)) :
    Filtered H s' where
  registered := by
    intro b x hx hact
    rcases eq_or_ne b a with rfl | hne
    · obtain ⟨rfl, hreg⟩ := hself x hx
      exact hreg hact
    · rw [hheap b hne] at hx
      obtain ⟨hr, hf⟩ := h.registered b x hx hact
      have hxfd := hfd b x (hactive b x hx hact) hne hx
      exact ⟨htable _ hr hne hxfd, fun f => (hknotes x.fd f hxfd).trans (hf f)⟩
  distinct := by
    intro b c x y hb hc hx hy heq
    rcases eq_or_ne b a with rfl | hba <;> rcases eq_or_ne c b with rfl | hcb
    · rfl
    · rw [hheap c hcb] at hy
      exact absurd (heq.symm.trans (hself x hx).1) (hfd c y hc hcb hy)
    · rfl
    · rcases eq_or_ne c a with rfl | hca
      · rw [hheap b hba] at hx
        exact absurd (heq.trans (hself y hy).1) (hfd b x hb hba hx)
      · rw [hheap b hba] at hx
        rw [hheap c hca] at hy
        exact h.distinct b c x y hb hc hx hy heq

/-- The list of the loop has no part in it. -/
theorem Filtered.setLoop (h : Filtered H s) (l : PdLoop) : Filtered H (s.setLoop l) :=
  ⟨h.registered, h.distinct⟩

/-- What is freed asks for nothing. -/
theorem Filtered.free (h : Filtered H s) (a : Addr) : Filtered H (s.free a) where
  registered := by
    intro b x hx hact
    rcases eq_or_ne b a with rfl | hne
    · exact absurd ((Function.update_self ..).symm.trans hx).symm (Option.some_ne_none x)
    · exact h.registered b x ((Function.update_of_ne hne ..).symm.trans hx) hact
  distinct := by
    intro b c x y hb hc hx hy heq
    have hold : ∀ {d z}, (s.free a).heap d = some z → s.heap d = some z := by
      intro d z hz
      rcases eq_or_ne d a with rfl | hne
      · exact absurd ((Function.update_self ..).symm.trans hz).symm (Option.some_ne_none z)
      · exact (Function.update_of_ne hne ..).symm.trans hz
    exact h.distinct b c x y hb hc (hold hx) (hold hy) heq

/-- The filters of a registration that succeeds, on a descriptor that had none. -/
theorem arm_filterOf {k : Kernel} {events : PdEvent} (hnone : ∀ f, k.knotes fd f = none)
    (f : Filter) : (k.arm fd events a).knotes fd f = filterOf a events f := by
  rw [Kernel.arm_self, hnone, filterOf]

/-- A registration that fails, and not half way, keeps the records and filters of the other
descriptors. -/
theorem register_refused_keeps (hu : Unique Registration.ident Registration.watcher s.sys.table)
    {env : KqueueEnv} {r : OpResult KqueueSys KqueueWatcherData}
    (htidy : s.sys.data.isSome = true → env.dataAlloc = true →
      s.sys.kernel.halfway w.fd w.events env = false)
    (hr : kqueueWatcherRegister s.sys a w env = r) (hfail : r.code ≠ .ok) :
    (∀ x ∈ s.sys.table, x.watcher ≠ a → x.ident ≠ w.fd → x ∈ r.sys.table) ∧
      ∀ fd' f, fd' ≠ w.fd → r.sys.kernel.knotes fd' f = s.sys.kernel.knotes fd' f := by
  have hevicted : ∀ x ∈ s.sys.table, x.watcher ≠ a → x.ident ≠ w.fd →
      x ∈ evicted s.sys.table w.fd a :=
    fun x hx _ hne => hu.mem_evictOther.2 ⟨hx, fun heq => absurd heq hne⟩
  subst hr
  rcases registers s.sys a w env with
    ⟨-, -, hk, ht⟩ | ⟨-, -, -, -, hk, ht⟩ | ⟨hatt, -, hhalf, -⟩ | ⟨-, -, -, hk, ht⟩ | ⟨-, -, hok, -⟩
  · rw [hk, ht]
    exact ⟨fun x hx _ _ => hx, fun _ _ _ => rfl⟩
  · rw [hk, ht]
    exact ⟨hevicted, fun _ _ _ => rfl⟩
  · rw [htidy hatt.1 hatt.2] at hhalf
    exact absurd hhalf Bool.false_ne_true
  · rw [hk, ht]
    exact ⟨hevicted, fun fd' f hne => by rw [Kernel.disarm_ne _ _ hne, Kernel.arm_ne _ _ _ hne]⟩
  · exact absurd hok hfail

/-- A registration that succeeds. -/
theorem register_done_spec {env : KqueueEnv} {r : OpResult KqueueSys KqueueWatcherData}
    (hr : kqueueWatcherRegister s.sys a w env = r) (hok : r.code = .ok) :
    r.sys.kernel = s.sys.kernel.arm w.fd w.events a ∧
      r.sys.table = evicted s.sys.table w.fd a ++ [⟨w.fd, a⟩] := by
  subst hr
  rcases registers s.sys a w env with
    ⟨-, hne, -⟩ | ⟨-, -, -, hne, -⟩ | ⟨-, -, -, hne, -⟩ | ⟨-, -, hne, -⟩ | ⟨-, -, -, hk, ht⟩
  · exact absurd hok hne
  · exact absurd hok hne
  · exact absurd hok hne
  · exact absurd hok hne
  · exact ⟨hk, ht⟩

/-- Unregistering keeps the records and filters of the other descriptors. -/
theorem unregister_keeps {k : KqueueSys} (hd : k.data.isSome = true)
    (hu : Unique Registration.ident Registration.watcher k.table)
    {r : OpResult KqueueSys KqueueWatcherData} (hr : kqueueWatcherUnregister k a w = r) :
    (∀ x ∈ k.table, x.watcher ≠ a → x ∈ r.sys.table) ∧
      ∀ fd' f, fd' ≠ w.fd → r.sys.kernel.knotes fd' f = k.kernel.knotes fd' f := by
  obtain ⟨-, -, hnone, hsome⟩ := unregister_cases hd hr
  constructor
  · intro x hx hne
    cases hpd : w.platformData with
    | none =>
        rw [(hnone hpd).1]
        exact hx
    | some wd =>
        rw [(hsome (congrArg Option.isSome hpd)).1]
        exact hu.mem_dropOwner.2 ⟨hx, hne⟩
  · intro fd' f hne
    rw [← hr, unregister_disarms]
    split_ifs
    · rw [Kernel.disarm_ne _ _ hne]
    · rfl

namespace Sound

/-- An active watcher is none of the placeholders. -/
theorem active_notMem (hp : Placed s) (hw : s.heap a = some w) (hact : w.active = true) :
    a ∉ hidden s := by
  intro ha
  obtain ⟨t, ht⟩ := hp.live_of_hidden ha
  obtain rfl := Option.some.inj (hw.symm.trans ht)
  exact Bool.false_ne_true hact

/-- A descriptor that no active watcher names has no filter. -/
theorem no_filter (h : Sound s) (fd : ℤ)
    (hfd : ∀ b x, s.heap b = some x → x.active = true → x.fd ≠ fd)
    (f : Filter) : s.sys.kernel.knotes fd f = none := by
  cases hn : s.sys.kernel.knotes fd f with
  | none => rfl
  | some n =>
      obtain ⟨x, hx, hact, heq⟩ := h.attended.owner fd f n hn
      exact absurd heq (hfd _ x hx hact)

/-- The unregistration of an active watcher gets to all its filters. -/
theorem deletable (h : Sound s) (hw : s.heap a = some w) (hact : w.active = true) :
    Deletable s a w := by
  intro f n hn _
  obtain ⟨hr, hfilters⟩ := h.filtered.registered a w hw hact
  refine ⟨⟨_, hr, rfl⟩, ?_⟩
  have hopen : s.sys.kernel.isOpen w.fd = true := by
    by_contra hclosed
    rw [h.attended.closed w.fd f (Bool.eq_false_iff.2 hclosed)] at hn
    exact absurd hn.symm (Option.some_ne_none n)
  have hasks : asks w.events f = true := by
    by_contra hno
    rw [hfilters, filterOf, if_neg hno] at hn
    exact absurd hn.symm (Option.some_ne_none n)
  rw [Kernel.reached, hopen, hasks]
  cases hread : w.events.has .read with
  | false => simp
  | true =>
      have hreadFilter : s.sys.kernel.knotes w.fd .read = some ⟨a, true, w.events.has .edge⟩ := by
        rw [hfilters, filterOf, asks_read, if_pos hread]
      rw [hreadFilter]
      simp

/-- An orderly call is tidy. -/
theorem tidy (h : Sound s) {c : Call KqueueEnv} {reported : List Addr}
    (hok : Orderly ⟨s, reported⟩ (.call c)) : Tidy s (.call c) := by
  cases c with
  | create fd events callback userData env => exact hok.2
  | createForHandle => trivial
  | update => trivial
  | stop a => exact fun w hw hact => h.deletable hw hact
  | start a env => exact hok
  | destroy a => exact fun w hw hact => h.deletable hw hact

/-- A watcher of the user is unregistered and is not active afterwards. -/
theorem unregistered (h : Sound s) (hp : Placed s) (ha : a ∉ hidden s) (hw : s.heap a = some w)
    {x : PdWatcher KqueueWatcherData} (hfd : x.fd = w.fd) (hact : x.active = false) {b : Bool}
    {r : OpResult KqueueSys KqueueWatcherData}
    (hr : kqueueWatcherUnregister s.sys a { w with active := b } = r) :
    Filtered (hidden s) ((s.setWatcher a x).setSys r.sys) := by
  obtain ⟨holders, howned⟩ := h.owned
  obtain ⟨htable, hknotes⟩ := unregister_keeps howned.attached howned.unique hr
  refine h.filtered.change a w.fd (fun b hb => World.setWatcher_heap_ne _ _ hb)
    (fun b y hy hyact => active_notMem hp hy hyact)
    (fun b y hb hne hy heq => hne (h.filtered.distinct b a y w hb ha hy hw heq))
    (fun y hy hne _ => htable y hy hne) hknotes fun y hy => ?_
  rw [World.setSys_heap, World.setWatcher_heap_self] at hy
  obtain rfl := Option.some.inj hy
  exact ⟨hfd, fun hyact => absurd (hact.symm.trans hyact) Bool.false_ne_true⟩

/-- `pd_watcher_stop` of a watcher of the user. -/
theorem filtered_stop (h : Sound s) (hp : Placed s) (ha : a ∉ hidden s) :
    Filtered (hidden s) (pdWatcherStop kqueueOps s a).1 := by
  refine World.stop_invariant (fun _ => h.filtered) fun w r hw hact hr => ?_
  have hok : r.code = .ok := by
    obtain ⟨-, -, -, hsome⟩ := unregister_cases h.attended.attached hr
    exact (hsome (h.attended.equipped a w hw hact)).2
  exact h.unregistered hp ha hw
    (x := { w with active := r.code != .ok, platformData := r.platformData }) rfl
    (by rw [hok]; rfl) hr

/-- Every watcher can be stopped. -/
theorem stop_ok (h : Sound s) (hw : s.heap a = some w) : (pdWatcherStop kqueueOps s a).2 = .ok := by
  cases hact : w.active with
  | false => rw [stop_of_inactive hw hact]
  | true =>
      obtain ⟨-, -, -, hsome⟩ := unregister_cases (a := a) (w := { w with active := false })
        h.attended.attached rfl
      rw [stop_of_ok hw hact rfl (hsome (h.attended.equipped a w hw hact)).2]

/-- `pd_watcher_stop` of a watcher of the user keeps the invariant. -/
theorem stop (h : Sound s) (hp : Placed s) (ha : a ∉ hidden s) :
    Sound (pdWatcherStop kqueueOps s a).1 := by
  obtain ⟨holders, howned⟩ := h.owned
  refine ⟨⟨holders, howned.stop a⟩, h.attended.stop fun w hw hact => h.deletable hw hact, ?_⟩
  have hH : hidden (pdWatcherStop kqueueOps s a).1 = hidden s :=
    hidden_exec h.attended.attached (.stop a)
  rw [hH]
  exact h.filtered_stop hp ha

/-- `pd_watcher_destroy` of a watcher of the user. -/
theorem filtered_destroy (h : Sound s) (hp : Placed s) (ha : a ∉ hidden s)
    (hw : s.heap a = some w) :
    Filtered (hidden s)
      ((pdWatcherCleanup kqueueOps (pdWatcherStop kqueueOps s a).1 a).free a) := by
  have hH : hidden (pdWatcherStop kqueueOps s a).1 = hidden s :=
    hidden_exec h.attended.attached (.stop a)
  have hstop := h.stop hp ha
  have hp' : Placed (pdWatcherStop kqueueOps s a).1 :=
    hp.exec (.stop a) h.attended.attached fun b hb => Option.some.inj hb ▸ ha
  obtain ⟨x, hx, hact, -⟩ := stop_keeps hw (h.stop_ok hw)
  rw [cleanup_of_some hx rfl]
  have hun := hstop.unregistered hp' (hH ▸ ha) hx
    (x := { x with platformData :=
      (kqueueWatcherUnregister (pdWatcherStop kqueueOps s a).1.sys a x).platformData }) rfl hact
    (b := x.active) rfl
  rw [hH] at hun
  exact (hun.setLoop _).free a

/-- What an orderly call preserves, the timers apart. -/
theorem filtered_exec (h : Sound s) (hp : Placed s) {c : Call KqueueEnv} {reported : List Addr}
    (hok : Orderly ⟨s, reported⟩ (.call c)) (hseen : ∀ a, c.target = some a → a ∉ hidden s) :
    Filtered (hidden s) (s.exec kqueueOps c).1 := by
  obtain ⟨holders, howned⟩ := h.owned
  have hactive : ∀ b x, s.heap b = some x → x.active = true → b ∉ hidden s :=
    fun b x hx hact => active_notMem hp hx hact
  -- the descriptor of a watcher of the user is no other watcher's
  have hdistinct : ∀ {a w}, a ∉ hidden s → s.heap a = some w →
      ∀ b x, b ∉ hidden s → b ≠ a → s.heap b = some x → x.fd ≠ w.fd :=
    fun ha hw b x hb hne hx heq => hne (h.filtered.distinct b _ x _ hb ha hx hw heq)
  refine exec_invariant (P := Filtered (hidden s)) c (fun _ => h.filtered)
    (fun _ _ _ _ _ _ => h.filtered) ?_ ?_ ?_ ?_ ?_ ?_ ?_
  · -- a creation is refused by the backend
    rintro fd events callback userData env a w r rfl hc ha rfl hr hfail
    obtain ⟨hunnamed, htidy⟩ := hok
    obtain ⟨htable, hknotes⟩ := register_refused_keeps
      (w := newWatcher fd events callback userData) howned.unique
      (fun _ halloc => htidy (by rw [hc]; rfl) halloc) hr hfail
    exact h.filtered.change a fd (fun _ _ => rfl) hactive
      (fun b x hb _ hx => hunnamed b x hb hx) htable hknotes
      fun x hx => absurd (ha.symm.trans hx).symm (Option.some_ne_none x)
  · -- the list is full
    rintro fd events callback userData env a w r u rfl hc ha rfl hr hok' - hu
    obtain ⟨hunnamed, -⟩ := hok
    obtain ⟨hk, ht⟩ := register_done_spec hr hok'
    obtain ⟨hd, -⟩ := register_cases howned.attached hr
    have hfree : ∀ y ∈ s.sys.table, y.watcher ≠ a :=
      howned.no_record fun x hx => absurd (ha.symm.trans hx).symm (Option.some_ne_none x)
    have hunique : Unique Registration.ident Registration.watcher r.sys.table := by
      rw [ht]
      exact howned.unique.claim rfl rfl hfree
    obtain ⟨htable, hknotes⟩ := unregister_keeps hd hunique hu
    refine h.filtered.change a fd (fun _ _ => rfl) hactive
      (fun b x hb _ hx => hunnamed b x hb hx) (fun y hy hne hfd => htable y ?_ hne)
      (fun fd' f hne => ?_) fun x hx => absurd (ha.symm.trans hx).symm (Option.some_ne_none x)
    · rw [ht]
      exact List.mem_append_left _ (howned.unique.mem_evictOther.2 ⟨hy, fun heq => absurd heq hfd⟩)
    · have hne' : fd' ≠ (newWatcher fd events callback userData : PdWatcher KqueueWatcherData).fd :=
        hne
      exact (hknotes fd' f hne).trans (by rw [hk, Kernel.arm_ne _ _ _ hne'])
  · -- a new watcher
    rintro fd events callback userData env a w r loop rfl hc ha rfl hr hok' -
    obtain ⟨hunnamed, -⟩ := hok
    obtain ⟨hk, ht⟩ := register_done_spec hr hok'
    have hnone := h.no_filter fd fun b x hx hact => hunnamed b x (hactive b x hx hact) hx
    refine h.filtered.change a fd (fun b hb => World.setWatcher_heap_ne _ _ hb)
      hactive (fun b x hb _ hx => hunnamed b x hb hx) (fun y hy hne hfd => ?_)
      (fun fd' f hne => ?_) fun x hx => ?_
    · rw [World.setWatcher_sys, World.setLoop_sys, World.setSys_sys, ht]
      exact List.mem_append_left _ (howned.unique.mem_evictOther.2 ⟨hy, fun heq => absurd heq hfd⟩)
    · rw [World.setWatcher_sys, World.setLoop_sys, World.setSys_sys, hk]
      exact congrFun (Kernel.arm_ne _ _ _ hne) f
    · obtain rfl := Option.some.inj ((World.setWatcher_heap_self ..).symm.trans hx)
      refine ⟨rfl, fun _ => ⟨?_, fun f => ?_⟩⟩
      · rw [World.setWatcher_sys, World.setLoop_sys, World.setSys_sys, ht]
        exact List.mem_append_right _ List.mem_cons_self
      · rw [World.setWatcher_sys, World.setLoop_sys, World.setSys_sys, hk]
        exact arm_filterOf hnone f
  · -- a stopped watcher is started
    rintro a w env r rfl hw hact hr
    have ha : a ∉ hidden s := hseen a rfl
    by_cases hok' : r.code = .ok
    · obtain ⟨hk, ht⟩ := register_done_spec hr hok'
      have hnone := h.no_filter w.fd fun b x hx hxact heq => by
        obtain rfl := h.filtered.distinct b a x w (hactive b x hx hxact) ha hx hw heq
        obtain rfl := Option.some.inj (hw.symm.trans hx)
        exact Bool.false_ne_true (hact.symm.trans hxact)
      refine h.filtered.change a w.fd (fun b hb => World.setWatcher_heap_ne _ _ hb)
        hactive (hdistinct ha hw) (fun y hy hne hfd => ?_) (fun fd' f hne => ?_) fun x hx => ?_
      · rw [World.setSys_sys, ht]
        exact List.mem_append_left _
          (howned.unique.mem_evictOther.2 ⟨hy, fun heq => absurd heq hfd⟩)
      · rw [World.setSys_sys, hk]
        exact congrFun (Kernel.arm_ne _ _ _ hne) f
      · rw [World.setSys_heap, World.setWatcher_heap_self] at hx
        obtain rfl := Option.some.inj hx
        refine ⟨rfl, fun _ => ⟨?_, fun f => ?_⟩⟩
        · rw [World.setSys_sys, ht]
          exact List.mem_append_right _ List.mem_cons_self
        · rw [World.setSys_sys, hk]
          exact arm_filterOf hnone f
    · obtain ⟨htable, hknotes⟩ := register_refused_keeps (w := { w with active := true })
        howned.unique (fun _ halloc => hok w hw hact halloc) hr hok'
      refine h.filtered.change a w.fd (fun b hb => World.setWatcher_heap_ne _ _ hb)
        hactive (hdistinct ha hw) htable hknotes fun x hx => ?_
      rw [World.setSys_heap, World.setWatcher_heap_self] at hx
      obtain rfl := Option.some.inj hx
      exact ⟨rfl, fun hxact => absurd (eq_of_beq hxact) hok'⟩
  · -- an update stores the mask, and changes no filter
    rintro a w events env r rfl hw hact rfl
    obtain ⟨hsys, -⟩ := update_of_events a events env h.attended.attached
      (h.attended.equipped a w hw hact)
    obtain ⟨hr, hf⟩ := h.filtered.registered a w hw hact
    refine h.filtered.change a w.fd (fun b hb => World.setWatcher_heap_ne _ _ hb)
      hactive (hdistinct (hseen a rfl) hw) (fun y hy _ _ => ?_) (fun fd' f _ => ?_) fun x hx => ?_
    · rw [World.setSys_sys, hsys]
      exact hy
    · rw [World.setSys_sys, hsys]
    · rw [World.setSys_heap, World.setWatcher_heap_self] at hx
      obtain rfl := Option.some.inj hx
      refine ⟨rfl, fun _ => ⟨?_, fun f => ?_⟩⟩
      · rw [World.setSys_sys, hsys]
        exact hr
      · rw [World.setSys_sys, hsys, hf, filterOf_congr (hok w hw hact)]
  · rintro a rfl
    exact filtered_stop h hp (hseen a rfl)
  · rintro a w rfl hw
    exact filtered_destroy h hp (hseen a rfl) hw

/-- What an orderly call preserves. -/
theorem exec (h : Sound s) (hp : Placed s) {c : Call KqueueEnv} {reported : List Addr}
    (hok : Orderly ⟨s, reported⟩ (.call c)) (hseen : ∀ a, c.target = some a → a ∉ hidden s) :
    Sound (s.exec kqueueOps c).1 := by
  obtain ⟨holders, howned⟩ := h.owned
  refine ⟨⟨_, howned.exec c⟩, h.attended.exec c (h.tidy hok), ?_⟩
  rw [hidden_exec h.attended.attached c]
  exact h.filtered_exec hp hok hseen

/-- The active watchers, the table and the filters are the same. -/
theorem congr (h : Sound s) (hd : s'.sys.data = s.sys.data)
    (hknotes : s'.sys.kernel.knotes = s.sys.kernel.knotes)
    (hopen : s'.sys.kernel.isOpen = s.sys.kernel.isOpen)
    (hactive : ∀ b x, x.active = true → (s'.heap b = some x ↔ s.heap b = some x))
    (hdistinct : ∀ a b w x, a ∉ hidden s' → b ∉ hidden s' → s'.heap a = some w →
      s'.heap b = some x → w.fd = x.fd → a = b) : Sound s' := by
  obtain ⟨⟨holders, ho⟩, ha, hf⟩ := h
  have ht : s'.sys.table = s.sys.table := by rw [KqueueSys.table, KqueueSys.table, hd]
  refine ⟨⟨holders, hd ▸ ho.attached, ht ▸ ho.unique, fun r hr => ?_, fun r hr => ?_⟩,
    ⟨hd ▸ ha.attached, fun b x hx hact => ?_, fun fd f hclosed => ?_, fun fd f n hn => ?_⟩,
    ⟨fun b x hx hact => ?_, hdistinct⟩⟩
  · obtain ⟨x, hx, hfd, hact, hpd⟩ := ho.named r (ht ▸ hr)
    exact ⟨x, (hactive _ x hact).2 hx, hfd, hact, hpd⟩
  · exact ho.held r (ht ▸ hr)
  · exact ha.equipped b x ((hactive b x hact).1 hx) hact
  · rw [hknotes]
    exact ha.closed fd f (hopen ▸ hclosed)
  · obtain ⟨x, hx, hact, hfd⟩ := ha.owner fd f n (hknotes ▸ hn)
    exact ⟨x, (hactive _ x hact).2 hx, hact, hfd⟩
  · rw [ht, hknotes]
    exact hf.registered b x ((hactive b x hact).1 hx) hact

/-- A timer call that creates and destroys nothing. -/
theorem retime (h : Sound s) {t : Addr} (hr : Retimed s s' t) : Sound s' := by
  refine h.congr hr.data_eq hr.knotes_eq hr.isOpen_eq (fun b x _ => by rw [hr.heap_eq]) ?_
  rw [hr.hidden_eq, hr.heap_eq]
  exact h.filtered.distinct

theorem timerCreate (h : Sound s) (timeoutMs intervalMs : UInt64) (callback : Option Callback)
    (userData : Addr) (env : TimerEnv) :
    Sound (pdTimerCreate s timeoutMs intervalMs callback userData env).1 := by
  obtain ⟨hd, hk, hcases⟩ := timerCreate_spec s timeoutMs intervalMs callback userData env
  generalize (pdTimerCreate s timeoutMs intervalMs callback userData env).1 = s' at hd hk hcases ⊢
  have hknotes := congrArg Kernel.knotes hk
  have hopen := congrArg Kernel.isOpen hk
  rcases hcases with ⟨hheap, -, htimers⟩ |
    ⟨t, a, tm, hnew, hdead, hnull, hw, -, -, hheap, -, htimers⟩
  · refine h.congr hd hknotes hopen (fun b x _ => by rw [hheap]) ?_
    have hH : hidden s' = hidden s := by rw [hidden, hidden, htimers]
    rw [hH, hheap]
    exact h.filtered.distinct
  · have hself : s'.sys.timers t = some tm := by rw [htimers, Function.update_self]
    have hmem : a ∈ hidden s' := ⟨t, tm, hself, hw⟩
    have hother : ∀ b, b ≠ a → s'.heap b = s.heap b :=
      fun b hb => (congrFun hheap b).trans (Function.update_of_ne hb ..)
    have hsub : ∀ b, b ∉ hidden s' → b ∉ hidden s := by
      rintro b hb ⟨u, x, hx, hub⟩
      have hu : u ≠ t := by
        rintro rfl
        exact absurd (hnew.symm.trans hx).symm (Option.some_ne_none x)
      exact hb ⟨u, x, (congrFun htimers u).trans ((Function.update_of_ne hu ..).trans hx), hub⟩
    refine h.congr hd hknotes hopen (fun b x hact => ?_) fun b c x y hb hc hx hy => ?_
    · rcases eq_or_ne b a with rfl | hne
      · rw [hheap, Function.update_self, hdead]
        refine iff_of_false (fun heq => ?_) fun heq => absurd heq.symm (Option.some_ne_none x)
        obtain rfl := Option.some.inj heq
        exact Bool.false_ne_true hact
      · rw [hother b hne]
    · have hba : b ≠ a := fun heq => hb (heq ▸ hmem)
      have hca : c ≠ a := fun heq => hc (heq ▸ hmem)
      exact h.filtered.distinct b c x y (hsub b hb) (hsub c hc) ((hother b hba).symm.trans hx)
        ((hother c hca).symm.trans hy)

/-- The timer's placeholder goes, which was never active. -/
theorem timerDestroy (h : Sound s) (hp : Placed s) (hl : Listed s) (t : Addr) :
    Sound (pdTimerDestroy s t) := by
  cases htm : s.sys.timers t with
  | none =>
      have hsame : pdTimerDestroy s t = s := by rw [pdTimerDestroy, htm]
      rw [hsame]
      exact h
  | some tm =>
      obtain ⟨a, ha, hx⟩ := hp t tm htm
      have hgone := timerDestroy_spec htm ha (hl.ne_null a (by rw [hx]; rfl))
      generalize pdTimerDestroy s t = s' at hgone ⊢
      have hself : s'.heap a = none := by rw [hgone.heap_eq, Function.update_self]
      have hother : ∀ b, b ≠ a → s'.heap b = s.heap b :=
        fun b hb => (congrFun hgone.heap_eq b).trans (Function.update_of_ne hb ..)
      have hsub : ∀ b, b ≠ a → b ∉ hidden s' → b ∉ hidden s := by
        rintro b hne hb ⟨u, y, hy, hub⟩
        have hu : u ≠ t := by
          rintro rfl
          obtain rfl := Option.some.inj (htm.symm.trans hy)
          exact hne (Option.some.inj (hub.symm.trans ha))
        exact hb ⟨u, y, (hgone.timer_ne u hu).trans hy, hub⟩
      refine h.congr hgone.data_eq hgone.knotes_eq hgone.isOpen_eq (fun b x hact => ?_)
        fun b c x y hb hc hbx hcy => ?_
      · rcases eq_or_ne b a with rfl | hne
        · rw [hself, hx]
          refine iff_of_false (fun heq => absurd heq.symm (Option.some_ne_none x)) fun heq => ?_
          obtain rfl := Option.some.inj heq
          exact Bool.false_ne_true hact
        · rw [hother b hne]
      · have hba : b ≠ a := by
          rintro rfl
          exact absurd (hself.symm.trans hbx).symm (Option.some_ne_none x)
        have hca : c ≠ a := by
          rintro rfl
          exact absurd (hself.symm.trans hcy).symm (Option.some_ne_none y)
        exact h.filtered.distinct b c x y (hsub b hba hb) (hsub c hca hc)
          ((hother b hba).symm.trans hbx) ((hother c hca).symm.trans hcy)

/-- A descriptor that no watcher of the user names is closed. -/
theorem close (h : Sound s) (hp : Placed s) (hfd : Unnamed s fd) : Sound (closeFd s fd) := by
  obtain ⟨⟨holders, howned⟩, hattended, hfiltered⟩ := h
  refine ⟨⟨holders, howned.attached, howned.unique, howned.named, howned.held⟩,
    hattended.perform (.closeFd fd) trivial, fun b x hx hact => ?_, hfiltered.distinct⟩
  obtain ⟨hr, hf⟩ := hfiltered.registered b x hx hact
  exact ⟨hr, fun f => (congrFun (Function.update_of_ne
    (hfd b x (active_notMem hp hx hact) hx) ..) f).trans (hf f)⟩

theorem openFd (h : Sound s) (fd : ℤ) : Sound (openFd s fd) := by
  obtain ⟨⟨holders, howned⟩, hattended, hfiltered⟩ := h
  exact ⟨⟨holders, howned.attached, howned.unique, howned.named, howned.held⟩,
    hattended.perform (.openFd fd) trivial, hfiltered.registered, hfiltered.distinct⟩

theorem created (hs : Created s) : Sound s := by
  refine ⟨⟨_, owned_created hs⟩, ?_, ?_⟩
  · exact Attended.of_reach (.init hs)
  · obtain ⟨isOpen, rfl⟩ := hs
    exact ⟨fun a w hw => absurd hw.symm (Option.some_ne_none w),
      fun a b w x _ _ hw => absurd hw.symm (Option.some_ne_none w)⟩

/-- What a step preserves that is prompt and orderly. -/
theorem step {s s' : TimerWorld} (h : Sound s.world) (hkept : Kept s) {act : TimerAction}
    (hprompt : Prompt s act) (hok : Orderly s act) (hs' : performTimer s act = some s') :
    Sound s'.world := by
  cases act with
  | call c =>
      obtain rfl := Option.some.inj hs'
      exact h.exec hkept.placed hok hprompt
  | timerCreate timeoutMs intervalMs callback userData env =>
      obtain rfl := Option.some.inj hs'
      exact h.timerCreate timeoutMs intervalMs callback userData env
  | timerStart t refused =>
      obtain rfl := Option.some.inj hs'
      exact h.retime (retimed_start ..)
  | timerStop t =>
      obtain rfl := Option.some.inj hs'
      exact h.retime (retimed_stop ..)
  | timerDestroy t =>
      obtain rfl := Option.some.inj hs'
      exact h.timerDestroy hkept.placed hkept.listed t
  | report t =>
      obtain ⟨n, -, rfl⟩ := Option.map_eq_some_iff.1 hs'
      exact h.retime (retimed_report ..)
  | fire t refused =>
      obtain ⟨-, hs'⟩ := Option.ite_none_right_eq_some.1 hs'
      obtain rfl := Option.some.inj hs'
      exact h.retime (retimed_rearm ..)
  | closeFd fd =>
      obtain rfl := Option.some.inj hs'
      exact h.close hkept.placed hok
  | openFd fd =>
      obtain rfl := Option.some.inj hs'
      exact h.openFd fd

end Sound

/-- **In every prompt and orderly run with timers the filters of the kernel, the table and the
active watchers agree.** -/
theorem sound_of_reach {s : TimerWorld}
    (h : timerRuns.Reach (fun s act => Prompt s act ∧ Orderly s act) s) :
    Kept s ∧ Sound s.world := by
  refine h.invariant (I := fun s => Kept s ∧ Sound s.world) ?_ ?_
  · rintro s ⟨hs, hr⟩
    exact ⟨.init hs hr, .created hs⟩
  · rintro s act s' ⟨hkept, h⟩ ⟨hprompt, hok⟩ hnext
    exact ⟨hkept.step hprompt hnext, h.step hkept hprompt hok hnext⟩

end
end Kqueue
end PollDancer
