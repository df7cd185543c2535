/-
# Updates on kqueue

`kqueue_watcher_update` computes what to change from `watcher->events` and the new mask.
`pd_watcher_update` has written the new mask to `watcher->events` by then, so there is
never anything to change: an update succeeds and leaves the filters as the registration
has set them.  The kernel stays in step with the mask exactly as long as the masks ask
for these same filters: `updates_in_step_iff`.
-/
import PollDancer.Kqueue.Filters

namespace PollDancer
namespace Kqueue

open Library

/-- The filter of a descriptor if it is enabled: is it cleared after retrieval? -/
def Kernel.enabled (k : Kernel) (fd : ℤ) (filter : Filter) : Option Bool :=
  match k.knotes fd filter with
  | none => none
  | some n => if n.enabled then some n.clear else none

/-- The filter that a mask asks for: is it to be edge-triggered? -/
def wanted (events bit : PdEvent) : Option Bool :=
  if events.has bit then some (events.has .edge) else none

/-- The enabled filters of the descriptor are those that the mask asks for. -/
structure Agrees (k : Kernel) (fd : ℤ) (events : PdEvent) : Prop where
  read : k.enabled fd .read = wanted events .read
  write : k.enabled fd .write = wanted events .write

/-- The two masks ask for the same filters. -/
structure SameFilters (events events' : PdEvent) : Prop where
  read : wanted events .read = wanted events' .read
  write : wanted events .write = wanted events' .write

instance (k : Kernel) (fd : ℤ) (events : PdEvent) : Decidable (Agrees k fd events) :=
  decidable_of_iff (k.enabled fd .read = wanted events .read ∧
    k.enabled fd .write = wanted events .write) ⟨fun h => ⟨h.1, h.2⟩, fun h => ⟨h.1, h.2⟩⟩

/-- The kernel agrees with `pd_watcher_get_events`. -/
def InStep (s : KqueueWorld) (a : Addr) : Prop :=
  ∃ w, s.heap a = some w ∧ Agrees s.sys.kernel w.fd w.events

/-- The state after a sequence of updates. -/
def updateAll (s : KqueueWorld) (a : Addr) (ms : List (PdEvent × KqueueEnv)) : KqueueWorld :=
  ms.foldl (fun s m => (pdWatcherUpdate kqueueOps s a m.1 m.2).1) s

/-- The watcher is started on a loop that is there. -/
structure Started (s : KqueueWorld) (a : Addr) (w : PdWatcher KqueueWatcherData) : Prop where
  live : s.heap a = some w
  active : w.active = true
  platformData : w.platformData.isSome = true
  data : s.sys.data.isSome = true

section

variable {k : KqueueSys} {s : KqueueWorld} {a : Addr} {w : PdWatcher KqueueWatcherData}

/-- With the new mask in `watcher->events` there is nothing to change. -/
theorem changes_eq_nil (fd : ℤ) (events : PdEvent) (a : Addr) :
    disableFilter fd .read .read events events ++ disableFilter fd .write .write events events ++
      enableFilter fd .read .read events events a ++
      enableFilter fd .write .write events events a = [] := by
  have hno : ∀ bit, (events.has bit && !events.has bit) = false := fun bit => Bool.and_not_self _
  simp only [disableFilter, enableFilter, hno]
  rfl

theorem update_of_events (a : Addr) (events : PdEvent) (env : KqueueEnv) (hd : k.data.isSome = true)
    (hpd : w.platformData.isSome = true) :
    (kqueueWatcherUpdate k a { w with events } events env).sys = k ∧
    (kqueueWatcherUpdate k a { w with events } events env).platformData.isSome = true ∧
    (kqueueWatcherUpdate k a { w with events } events env).code = .ok := by
  obtain ⟨d, hd⟩ := Option.isSome_iff_exists.1 hd
  obtain ⟨wd, hpd⟩ := Option.isSome_iff_exists.1 hpd
  unfold kqueueWatcherUpdate
  rw [hd]
  dsimp only
  rw [hpd]
  dsimp only
  rw [changes_eq_nil]
  exact ⟨rfl, rfl, rfl⟩

/-- An update of a started watcher stores the mask, and does nothing else. -/
theorem Started.update (h : Started s a w) (events : PdEvent) (env : KqueueEnv) :
    ∃ w', Started (pdWatcherUpdate kqueueOps s a events env).1 a w' ∧ w'.fd = w.fd ∧
      w'.events = events ∧
      (pdWatcherUpdate kqueueOps s a events env).1.sys.kernel = s.sys.kernel ∧
      (pdWatcherUpdate kqueueOps s a events env).2 = .ok := by
  obtain ⟨hsys, hpd, hok⟩ := update_of_events a events env h.data h.platformData
  -- what the backend answers is opaque from here on
  generalize hr : kqueueWatcherUpdate s.sys a { w with events } events env = r at hsys hpd hok
  rw [update_of_active h.live h.active hr]
  refine ⟨_, ⟨World.setWatcher_heap_self .., h.active, hpd, ?_⟩, rfl, rfl, ?_, hok⟩
  · rw [World.setSys_sys, hsys]
    exact h.data
  · rw [World.setSys_sys, hsys]

/-- A sequence of updates stores its masks, and does nothing else. -/
theorem Started.updateAll (h : Started s a w) (ms : List (PdEvent × KqueueEnv)) :
    ∃ w', Started (updateAll s a ms) a w' ∧ w'.fd = w.fd ∧
      (Kqueue.updateAll s a ms).sys.kernel = s.sys.kernel := by
  induction ms generalizing s w with
  | nil => exact ⟨w, h, rfl, rfl⟩
  | cons m ms ih =>
      obtain ⟨w₁, h₁, hfd₁, -, hk₁, -⟩ := h.update m.1 m.2
      obtain ⟨w₂, h₂, hfd₂, hk₂⟩ := ih h₁
      exact ⟨w₂, h₂, hfd₂.trans hfd₁, hk₂.trans hk₁⟩

theorem updateAll_concat (ms : List (PdEvent × KqueueEnv)) (m : PdEvent × KqueueEnv) :
    updateAll s a (ms ++ [m]) = (pdWatcherUpdate kqueueOps (updateAll s a ms) a m.1 m.2).1 := by
  simp [updateAll, List.foldl_append]

/-- After one more update the kernel is in step exactly if the mask asks for the filters
that were there all along. -/
theorem Started.inStep_concat (h : Started s a w) (ms : List (PdEvent × KqueueEnv))
    (m : PdEvent × KqueueEnv) :
    InStep (Kqueue.updateAll s a (ms ++ [m])) a ↔ Agrees s.sys.kernel w.fd m.1 := by
  obtain ⟨w₁, h₁, hfd₁, hk₁⟩ := h.updateAll ms
  obtain ⟨w₂, h₂, hfd₂, hev, hk₂, -⟩ := h₁.update m.1 m.2
  rw [updateAll_concat]
  constructor
  · rintro ⟨x, hx, hagree⟩
    obtain rfl := Option.some.inj (h₂.live.symm.trans hx)
    rwa [hk₂, hk₁, hfd₂, hfd₁, hev] at hagree
  · intro hagree
    refine ⟨w₂, h₂.live, ?_⟩
    rwa [hk₂, hk₁, hfd₂, hfd₁, hev]

/-- No update of the sequence is refused. -/
theorem Started.updateAll_ok (h : Started s a w) (ms : List (PdEvent × KqueueEnv))
    (m : PdEvent × KqueueEnv) :
    (pdWatcherUpdate kqueueOps (Kqueue.updateAll s a ms) a m.1 m.2).2 = .ok := by
  obtain ⟨w₁, h₁, -⟩ := h.updateAll ms
  obtain ⟨-, -, -, -, -, hok⟩ := h₁.update m.1 m.2
  exact hok

/-- Where the kernel is in step to begin with, these are the masks that ask for the same
filters as the first. -/
theorem agrees_iff_sameFilters {k : Kernel} {fd : ℤ} {events events' : PdEvent}
    (h : Agrees k fd events) : Agrees k fd events' ↔ SameFilters events events' :=
  ⟨fun h' => ⟨h.read.symm.trans h'.read, h.write.symm.trans h'.write⟩,
    fun h' => ⟨h.read.trans h'.read, h.write.trans h'.write⟩⟩

end

/-! ### The filters of a new watcher -/

section

variable {k : Kernel} {fd : ℤ} {events : PdEvent} {a : Addr}

/-- A kernel that is armed is in step, where the descriptor had no filters. -/
theorem agrees_arm (hread : k.knotes fd .read = none) (hwrite : k.knotes fd .write = none) :
    Agrees (k.arm fd events a) fd events := by
  constructor
  · rw [Kernel.enabled, Kernel.arm, Kernel.setFilters_self, asks_read, wanted, hread]
    cases events.has .read <;> rfl
  · rw [Kernel.enabled, Kernel.arm, Kernel.setFilters_self, asks_write, wanted, hwrite]
    cases events.has .write <;> rfl

/-- A registration that succeeds on a descriptor without filters sets those that the mask
asks for. -/
theorem register_agrees {k : KqueueSys} {w : PdWatcher KqueueWatcherData} {env : KqueueEnv}
    (hread : k.kernel.knotes w.fd .read = none) (hwrite : k.kernel.knotes w.fd .write = none)
    (hok : (kqueueWatcherRegister k a w env).code = .ok) :
    Agrees (kqueueWatcherRegister k a w env).sys.kernel w.fd w.events := by
  rcases registers k a w env with
    ⟨-, hne, -⟩ | ⟨-, -, -, hne, -⟩ | ⟨-, -, -, hne, -⟩ | ⟨-, -, hne, -⟩ | ⟨-, -, -, hk, -⟩
  · exact absurd hok hne
  · exact absurd hok hne
  · exact absurd hok hne
  · exact absurd hok hne
  · rw [hk]
    exact agrees_arm hread hwrite

/-- A watcher that is created on a descriptor without filters is started and in step. -/
theorem started_of_create {s s' : KqueueWorld} {callback : Option Callback} {userData : Addr}
    {env : CallEnv KqueueEnv} (hd : s.sys.data.isSome = true)
    (hread : s.sys.kernel.knotes fd .read = none) (hwrite : s.sys.kernel.knotes fd .write = none)
    (h : pdWatcherCreate kqueueOps s fd events callback userData env = (s', some a)) :
    ∃ w, Started s' a w ∧ w.fd = fd ∧ w.events = events ∧ Agrees s'.sys.kernel fd events := by
  have hc : env.calloc = some a := create_at (congrArg Prod.snd h)
  cases hcalloc : s.calloc env.calloc with
  | none => exact nomatch congrArg Prod.snd ((create_of_calloc_none hcalloc).symm.trans h)
  | some b =>
      obtain rfl := Option.some.inj (hc.symm.trans (World.calloc_eq_some.1 hcalloc).1)
      by_cases hok : (kqueueOps.watcherRegister s.sys a (newWatcher fd events callback userData)
          env.backend).code = .ok
      · by_cases hadd : (pdLoopAddWatcher s.loop a env.growList).2 = .ok
        · have hr : kqueueWatcherRegister s.sys a (newWatcher fd events callback userData)
              env.backend = _ := rfl
          obtain ⟨hsys, -, hcases⟩ := register_cases hd hr
          obtain rfl := congrArg Prod.fst ((create_of_ok hcalloc rfl hok hadd).symm.trans h)
          exact ⟨_, ⟨World.setWatcher_heap_self .., rfl, (hcases hok).1, hsys⟩, rfl, rfl,
            register_agrees (w := newWatcher fd events callback userData) hread hwrite hok⟩
        · exact nomatch congrArg Prod.snd
            ((create_of_list_full hcalloc rfl hok hadd rfl).symm.trans h)
      · exact nomatch congrArg Prod.snd ((create_of_ne_ok hcalloc rfl hok).symm.trans h)

end

/-- Every update of a started watcher returns `PD_OK`, and the kernel is in step with the
mask after each of them exactly if every mask asks for the filters that the kernel had
before the first. -/
theorem updates_in_step_iff {s : KqueueWorld} {a : Addr} {w : PdWatcher KqueueWatcherData}
    (h : Started s a w) (ms : List (PdEvent × KqueueEnv)) :
    (∀ pre m post, ms = pre ++ m :: post →
      (pdWatcherUpdate kqueueOps (updateAll s a pre) a m.1 m.2).2 = .ok) ∧
    ((∀ pre m post, ms = pre ++ m :: post → InStep (updateAll s a (pre ++ [m])) a) ↔
      ∀ m ∈ ms, Agrees s.sys.kernel w.fd m.1) := by
  refine ⟨fun pre m _ _ => h.updateAll_ok pre m, fun hstep m hm => ?_,
    fun hall pre m post hms => ?_⟩
  · obtain ⟨pre, post, hms⟩ := List.append_of_mem hm
    exact (h.inStep_concat pre m).1 (hstep pre m post hms)
  · refine (h.inStep_concat pre m).2 (hall m ?_)
    rw [hms]
    exact List.mem_append_right _ List.mem_cons_self

/-- The kernel refuses nothing. -/
def answers : KqueueEnv := ⟨true, none, none, true⟩

/-- A watcher for reads on descriptor 5. -/
def reader : KqueueWorld :=
  (pdWatcherCreate kqueueOps (kqueueLoopCreate fun fd => fd == 5) 5 .read (some (.user 1)) NULL
    ⟨some 100, true, answers⟩).1

theorem reader_started : ∃ w, Started reader 100 w ∧ w.fd = 5 ∧ w.events = .read ∧
    Agrees reader.sys.kernel 5 .read := by
  have hcreate : pdWatcherCreate kqueueOps (kqueueLoopCreate fun fd => fd == 5) 5 .read
      (some (.user 1)) NULL ⟨some 100, true, answers⟩ = (reader, some 100) := rfl
  exact started_of_create rfl rfl rfl hcreate

theorem reader_reachable : runs.Reachable reader :=
  .step (s := kqueueLoopCreate fun fd => fd == 5)
    (a := .call (.create 5 .read (some (.user 1)) NULL ⟨some 100, true, answers⟩))
    (.init ⟨_, rfl⟩) trivial rfl

/-- The watcher for reads is updated to reads and writes, and then to reads again. -/
theorem reader_updates :
    (∀ pre m post, [(PdEvent.read ||| .write, answers), (.read, answers)] = pre ++ m :: post →
      (pdWatcherUpdate kqueueOps (updateAll reader 100 pre) 100 m.1 m.2).2 = .ok) ∧
    ¬∀ pre m post, [(PdEvent.read ||| .write, answers), (.read, answers)] = pre ++ m :: post →
      InStep (updateAll reader 100 (pre ++ [m])) 100 := by
  obtain ⟨w, hw, hfd, -, hagree⟩ := reader_started
  obtain ⟨hok, hiff⟩ := updates_in_step_iff hw [(PdEvent.read ||| .write, answers),
    (.read, answers)]
  refine ⟨hok, fun hstep => ?_⟩
  have hboth := hiff.1 hstep (PdEvent.read ||| .write, answers) List.mem_cons_self
  rw [hfd] at hboth
  exact absurd ((agrees_iff_sameFilters hagree).1 hboth).write (by decide)

/-- The kernel does not follow `pd_watcher_update`: a watcher for reads on descriptor 5 is
updated to reads and writes, and gets no filter for writes. -/
theorem not_updates_in_step :
    ¬∀ (s : KqueueWorld) (a : Addr) (w : PdWatcher KqueueWatcherData)
      (ms : List (PdEvent × KqueueEnv)), runs.Reachable s → Started s a w →
      Agrees s.sys.kernel w.fd w.events →
      (∀ pre m post, ms = pre ++ m :: post →
        (pdWatcherUpdate kqueueOps (updateAll s a pre) a m.1 m.2).2 = .ok) →
      ∀ pre m post, ms = pre ++ m :: post → InStep (updateAll s a (pre ++ [m])) a := by
  intro hall
  obtain ⟨w, hw, hfd, hev, hagree⟩ := reader_started
  have hstep : ∀ m, InStep (updateAll reader 100 ([] ++ [m])) 100 := fun m =>
    hall reader 100 w [m] reader_reachable hw (by rwa [hfd, hev])
      (fun pre m _ _ => hw.updateAll_ok pre m) [] m [] rfl
  have hboth := (hw.inStep_concat [] (PdEvent.read ||| .write, answers)).1 (hstep _)
  rw [hfd] at hboth
  exact absurd ((agrees_iff_sameFilters hagree).1 hboth).write (by decide)

end Kqueue
end PollDancer
