/-
# Watchers and their platform data

What a call, a packet and the end of a callback do to the watchers and to the blocks of
platform data.  Each concerns one watcher and the block it names: the other watchers, the
other blocks, and what is in flight or queued stay as they were (`OnlyAt`), and what
happens to the one is one of a few things (`CallAt`, `TakenUp`, `Rearmed`).

Two watchers name different blocks (`Distinct`) as long as `calloc` does not return for
new platform data the address of a block that a watcher still names: a restart whose read
is refused leaves such an address behind.
-/
import PollDancer.Iocp.Lifetime
import PollDancer.Iocp.SingleRead

namespace PollDancer
namespace Iocp

open Library

/-- The platform data of the live watcher is the block `d`. -/
def Names (s : IocpWorld) (a d : Addr) : Prop := ∃ x, s.heap a = some x ∧ x.platformData = some d

/-- No two live watchers name the same block. -/
def Distinct (s : IocpWorld) : Prop := ∀ a a' d, Names s a d → Names s a' d → a = a'

/-- A read of the watcher on the block is in flight, or its packet is still to be taken up. -/
def Reading (k : IocpSys) (a d : Addr) : Prop := ∃ n, Packet.io a (.data d) n ∈ k.port.items

/-- The platform data of the watcher, with its address. -/
def blockOf (s : IocpWorld) (a : Addr) : Option (Addr × IocpWatcherData) := do
  let x ← s.heap a
  let d ← x.platformData
  let b ← s.sys.blocks d
  return (d, b)

/-- A new block with its first read in flight. -/
def readingData (events : PdEvent) : IocpWatcherData :=
  { newData events with internal := STATUS_PENDING, pendingOperation := true }

section Backend

variable {k : IocpSys} {a : Addr} {w : PdWatcher Addr} {env : IocpEnv}
  {r : OpResult IocpSys Addr}

namespace IocpSys

@[simp]
theorem touch_blocks {d : Addr} : (k.touch d).blocks = k.blocks := by
  unfold touch
  split <;> rfl

@[simp]
theorem touch_isOpen {d : Addr} : (k.touch d).isOpen = k.isOpen := by
  unfold touch
  split <;> rfl

theorem calloc_eq_some {p : Option Addr} {d : Addr} (h : k.calloc p = some d) :
    p = some d ∧ k.blocks d = none := by
  have hp := Option.filter_eq_some_iff.1 h
  simp only [decide_eq_true_eq, Option.isNone_iff_eq_none] at hp
  exact ⟨hp.1, hp.2.2⟩

/-- A block that was not there is freed again. -/
theorem update_none {d : Addr} (h : k.blocks d = none) (p : Option IocpWatcherData) :
    Function.update (Function.update k.blocks d p) d none = k.blocks := by
  rw [Function.update_idem, ← h, Function.update_eq_self]

end IocpSys

/-- What a registration does. -/
inductive Registered (k : IocpSys) (a : Addr) (w : PdWatcher Addr) (env : IocpEnv)
    (r : OpResult IocpSys Addr) : Prop
  | refused : r.code ≠ .ok → r.sys.blocks = k.blocks → r.sys.port = k.port →
      (∀ d, r.platformData = some d → w.platformData = some d ∨ k.calloc env.dataAlloc = some d) →
      Registered k a w env r
  | unread {d : Addr} : k.calloc env.dataAlloc = some d → w.events.has .read = false →
      r.code = .ok → r.platformData = some d →
      r.sys.blocks = Function.update k.blocks d (some (newData w.events)) →
      r.sys.port = k.port → Registered k a w env r
  | reading {d : Addr} : k.calloc env.dataAlloc = some d → w.events.has .read = true →
      r.code = .ok → r.platformData = some d →
      r.sys.blocks = Function.update k.blocks d (some (readingData w.events)) →
      r.sys.port = k.port.issue (.io a (.data d) 0) → Registered k a w env r

theorem registered_registerOn {h : Handle} {u : Option Addr} {v : Addr → Option Addr}
    (hu : ∀ d, u = some d → w.platformData = some d)
    (hv : ∀ d e, v d = some e → w.platformData = some e ∨ d = e) :
    Registered k a w env (registerOn k a w h env u v) := by
  have hsystem : PdError.system ≠ .ok := by decide
  have hmemory : PdError.noMemory ≠ .ok := by decide
  unfold registerOn
  cases hd : k.calloc env.dataAlloc with
  | none => exact .refused hmemory rfl rfl fun _ hp => Or.inl hp
  | some d =>
      obtain ⟨-, hnone⟩ := IocpSys.calloc_eq_some hd
      have hback : ∀ p, Function.update (Function.update k.blocks d p) d none = k.blocks :=
        IocpSys.update_none hnone
      dsimp only
      split
      · refine .refused hsystem ?_ (by simp) fun e he => Or.inl (hu e he)
        simp only [IocpSys.freeBlock, IocpSys.setError, IocpSys.setBlock, IocpSys.touch_blocks]
        exact hback _
      · rename_i k₁ hassoc
        have hk₁ := IocpSys.associate_ok hassoc
        split_ifs with hread
        · split
          · refine .refused hsystem ?_ (by simp [hk₁]) fun e he => (hv d e he).imp_right fun h => ?_
            · simp only [IocpSys.freeBlock, IocpSys.setError, IocpSys.setBlock, hk₁,
                IocpSys.touch_blocks]
              exact hback _
            · rw [hd, h]
          · rename_i k₂ hissue
            refine .reading hd hread rfl rfl ?_ ?_
            · rw [IocpSys.issueRead_ok hissue]
              simp [IocpSys.setBlock, IocpSys.setPort, hk₁, readingData]
            · rw [IocpSys.issueRead_ok hissue]
              simp [hk₁]
        · refine .unread hd (Bool.not_eq_true _ ▸ hread) rfl rfl ?_ (by simp [hk₁])
          simp [hk₁, IocpSys.setBlock]

theorem registered_register : Registered k a w env (iocpWatcherRegister k a w env) :=
  registered_registerOn (fun _ h => nomatch h) fun _ _ h => Or.inr (Option.some.inj h)

theorem registered_registerHandle : Registered k a w env (iocpWatcherRegisterHandle k a w env) := by
  unfold iocpWatcherRegisterHandle
  split_ifs
  · exact .refused nofun rfl rfl fun _ hp => Or.inl hp
  · exact registered_registerOn (fun _ h => h) fun _ _ h => Or.inl h

/-- What unregistering does. -/
inductive Unregistered (k : IocpSys) (w : PdWatcher Addr) (r : OpResult IocpSys Addr) : Prop
  | absent : w.platformData = none → r.sys = k → r.platformData = none → r.code = .invalidArg →
      Unregistered k w r
  | dangling {d : Addr} : w.platformData = some d → k.blocks d = none → r.sys.blocks = k.blocks →
      r.sys.port = k.port → r.platformData = some d → r.code = .ok → Unregistered k w r
  /-- The block is left to the loop; so it may have been before. -/
  | deferred {d : Addr} {b : IocpWatcherData} : w.platformData = some d → k.blocks d = some b →
      b.stopping = true ∨ b.pendingOperation = true →
      r.sys.blocks = Function.update k.blocks d (some { b with stopping := true }) →
      r.sys.port = k.port → r.platformData = some d → r.code = .ok → Unregistered k w r
  | freed {d : Addr} {b : IocpWatcherData} : w.platformData = some d → k.blocks d = some b →
      b.stopping = false → b.pendingOperation = false →
      r.sys.blocks = Function.update k.blocks d none → r.sys.port = k.port →
      r.platformData = none → r.code = .ok → Unregistered k w r

theorem unregistered_unregister : Unregistered k w (iocpWatcherUnregister k a w) := by
  unfold iocpWatcherUnregister
  cases hpd : w.platformData with
  | none => exact .absent hpd rfl rfl rfl
  | some d =>
      dsimp only
      cases hb : k.blocks d with
      | none => exact .dangling hpd hb rfl rfl rfl rfl
      | some b =>
          dsimp only
          split_ifs with hstop hpend
          · refine .deferred hpd hb (Or.inl hstop) ?_ rfl rfl rfl
            have heq : ({ b with stopping := true } : IocpWatcherData) = b := by rw [← hstop]
            rw [heq, ← hb, Function.update_eq_self]
          · exact .freed hpd hb (Bool.not_eq_true _ ▸ hstop) (by simpa using hpend) rfl rfl rfl rfl
          · exact .deferred hpd hb (Or.inr (by simpa using hpend)) rfl rfl rfl rfl

/-- What an update does. -/
inductive Updated (k : IocpSys) (w : PdWatcher Addr) (events : PdEvent) (env : IocpEnv)
    (r : OpResult IocpSys Addr) : Prop
  | absent : w.platformData = none → r.sys = k → r.code = .invalidArg → Updated k w events env r
  | dangling {d : Addr} : w.platformData = some d → k.blocks d = none → r.sys.blocks = k.blocks →
      r.sys.port = k.port → r.code = .ok → Updated k w events env r
  /-- No read is asked for, or one is pending. -/
  | noted {d : Addr} {b : IocpWatcherData} : w.platformData = some d → k.blocks d = some b →
      (events.has .read = true → b.pendingOperation = true) →
      r.sys.blocks = Function.update k.blocks d (some { b with events }) →
      r.sys.port = k.port → r.code = .ok → Updated k w events env r
  | issued {d : Addr} {b : IocpWatcherData} : w.platformData = some d → k.blocks d = some b →
      events.has .read = true → b.pendingOperation = false → k.isOpen (readHandle w) = true →
      r.sys.blocks = Function.update k.blocks d
        (some { b with events, internal := STATUS_PENDING, pendingOperation := true }) →
      r.sys.port = k.port.issue (.io ((k.assoc (readHandle w)).getD NULL) (.data d) 0) →
      r.code = .ok → Updated k w events env r
  /-- The read is refused. -/
  | unissued {d : Addr} {b : IocpWatcherData} : w.platformData = some d → k.blocks d = some b →
      events.has .read = true → b.pendingOperation = false →
      k.isOpen (readHandle w) = false ∨ env.refusedRead.isSome = true →
      r.sys.blocks = Function.update k.blocks d
        (some { b with events, internal := STATUS_SUCCESS, pendingOperation := true }) →
      r.sys.port = k.port → r.code = .system → Updated k w events env r

/-- The mask that the watcher has during the call does not matter. -/
theorem Updated.of_events {events e : PdEvent} (h : Updated k { w with events := e } events env r) :
    Updated k w events env r := by
  cases h with
  | absent hpd hk hcode => exact .absent hpd hk hcode
  | dangling hpd hb hblocks hport hcode => exact .dangling hpd hb hblocks hport hcode
  | noted hpd hb hev hblocks hport hcode => exact .noted hpd hb hev hblocks hport hcode
  | issued hpd hb hev hpend hopen hblocks hport hcode =>
      exact .issued hpd hb hev hpend hopen hblocks hport hcode
  | unissued hpd hb hev hpend href hblocks hport hcode =>
      exact .unissued hpd hb hev hpend href hblocks hport hcode

/-- A read is refused for a reason. -/
theorem issueRead_error {h : Handle} {d : Addr} {b : IocpWatcherData} {refused : Option WinError}
    {e : WinError} (hr : k.issueRead h d b refused = .error e) :
    k.isOpen h = false ∨ refused.isSome = true := by
  unfold IocpSys.issueRead at hr
  split_ifs at hr with hopen
  · exact Or.inl (by simpa using hopen)
  · cases refused with
    | some e => exact Or.inr rfl
    | none => exact nomatch hr

/-- A read is issued on an open handle only. -/
theorem issueRead_isOpen {h : Handle} {d : Addr} {b : IocpWatcherData} {refused : Option WinError}
    {k' : IocpSys} (hr : k.issueRead h d b refused = .ok k') : k.isOpen h = true := by
  unfold IocpSys.issueRead at hr
  split_ifs at hr with hopen
  simpa using hopen

theorem updated_update {events : PdEvent} :
    Updated k w events env (iocpWatcherUpdate k a w events env) ∧
      (iocpWatcherUpdate k a w events env).platformData = w.platformData := by
  unfold iocpWatcherUpdate
  cases hpd : w.platformData with
  | none => exact ⟨.absent hpd rfl rfl, rfl⟩
  | some d =>
      dsimp only
      cases hb : k.blocks d with
      | none => exact ⟨.dangling hpd hb rfl rfl rfl, rfl⟩
      | some b =>
          dsimp only
          split_ifs with hread
          · rw [Bool.and_eq_true, Bool.not_eq_true'] at hread
            split
            · rename_i e hissue
              refine ⟨.unissued hpd hb hread.1 hread.2 ?_ (by simp [IocpSys.setError,
                IocpSys.setBlock]) (by simp) rfl, rfl⟩
              simpa [IocpSys.setBlock] using issueRead_error hissue
            · rename_i k₁ hissue
              rw [IocpSys.issueRead_ok hissue]
              refine ⟨.issued hpd hb hread.1 hread.2 ?_ (by simp [IocpSys.setPort,
                IocpSys.setBlock]) ?_ rfl, rfl⟩
              · simpa [IocpSys.setBlock] using issueRead_isOpen hissue
              · simp [IocpSys.setBlock]
          · refine ⟨.noted hpd hb (fun he => ?_) rfl rfl rfl, rfl⟩
            simpa [he] using hread

end Backend

/-! ### Calls -/

/-- Apart from the watcher `a`, the block it names and the one that is allocated for it,
nothing changes, and no operation or packet is lost. -/
structure OnlyAt (s s' : IocpWorld) (c : Call IocpEnv) (a : Addr) : Prop where
  heap : ∀ b, b ≠ a → s'.heap b = s.heap b
  blocks : ∀ d b, s.sys.blocks d = some b → ¬Names s a d → s'.sys.blocks d = some b
  unallocated : ∀ d, s.sys.blocks d = none → dataAllocFor c ≠ some d → s'.sys.blocks d = none
  items : ∀ p ∈ s.sys.port.items, p ∈ s'.sys.port.items

/-- The watcher is registered on a new block, and its first read issued if it asks for
reads. -/
structure Begins (s s' : IocpWorld) (a : Addr) (x : PdWatcher Addr) (d : Addr) : Prop where
  new : s.sys.blocks d = none
  live : s'.heap a = some x
  active : x.active = true
  data : x.platformData = some d
  block : x.events.has .read = false ∧ s'.sys.blocks d = some (newData x.events) ∧
      s'.sys.port = s.sys.port ∨
    x.events.has .read = true ∧ s'.sys.blocks d = some (readingData x.events) ∧
      s'.sys.port = s.sys.port.issue (.io a (.data d) 0)

/-- What a call does to the watcher it is about. -/
inductive CallAt (s s' : IocpWorld) (c : Call IocpEnv) (a : Addr) : Prop
  | kept : s'.heap a = s.heap a → (∀ d, Names s a d → s'.sys.blocks d = s.sys.blocks d) →
      s'.sys.port = s.sys.port →
      (∀ b events env x, c = .update b events env → s.heap b = some x → x.active = false) →
      CallAt s s' c a
  | destroyed : c = .destroy a → s'.heap a = none → s'.sys.port = s.sys.port → CallAt s s' c a
  /-- A creation that fails when its registration has succeeded. -/
  | unlisted {w : PdWatcher Addr} {d : Addr} : c.structure = some w → dataAllocFor c = some d →
      s.heap a = none → s'.heap a = none → s.sys.blocks d = none →
      (pdLoopAddWatcher s.loop a c.growList).2 ≠ .ok →
      w.events.has .read = false ∧ s'.sys.port = s.sys.port ∧ s'.sys.blocks d = none ∨
        w.events.has .read = true ∧ s'.sys.port = s.sys.port.issue (.io a (.data d) 0) →
      c.callocs = some a → CallAt s s' c a
  | created {x : PdWatcher Addr} {d : Addr} : dataAllocFor c = some d → s.heap a = none →
      Begins s s' a x d → c.callocs = some a → CallAt s s' c a
  | started {x : PdWatcher Addr} {d : Addr} {env : IocpEnv} : c = .start a env →
      dataAllocFor c = some d → s.heap a = some x → x.active = false →
      Begins s s' a { x with active := true, platformData := some d } d → CallAt s s' c a
  /-- What `platform_data` then holds may be freed memory. -/
  | unstarted {x : PdWatcher Addr} {p : Option Addr} {env : IocpEnv} : c = .start a env →
      s.heap a = some x → x.active = false →
      s'.heap a = some { x with active := false, platformData := p } →
      (∀ d, p = some d →
        x.platformData = some d ∨ dataAllocFor c = some d ∧ s.sys.blocks d = none) →
      s'.sys.blocks = s.sys.blocks → s'.sys.port = s.sys.port → CallAt s s' c a
  | stoppedDangling {x : PdWatcher Addr} {d : Addr} : c = .stop a → s.heap a = some x →
      x.active = true → x.platformData = some d → s.sys.blocks d = none →
      s'.heap a = some { x with active := false } → s'.sys.blocks = s.sys.blocks →
      s'.sys.port = s.sys.port → CallAt s s' c a
  | deferred {x : PdWatcher Addr} {d : Addr} {b : IocpWatcherData} : c = .stop a →
      s.heap a = some x → x.active = true → x.platformData = some d → s.sys.blocks d = some b →
      b.stopping = true ∨ b.pendingOperation = true → s'.heap a = some { x with active := false } →
      s'.sys.blocks = Function.update s.sys.blocks d (some { b with stopping := true }) →
      s'.sys.port = s.sys.port → CallAt s s' c a
  | freed {x : PdWatcher Addr} {d : Addr} {b : IocpWatcherData} : c = .stop a →
      s.heap a = some x → x.active = true → x.platformData = some d → s.sys.blocks d = some b →
      b.stopping = false → b.pendingOperation = false →
      s'.heap a = some { x with active := false, platformData := none } →
      s'.sys.blocks = Function.update s.sys.blocks d none → s'.sys.port = s.sys.port →
      CallAt s s' c a
  | updated {x : PdWatcher Addr} {events : PdEvent} {env : IocpEnv}
      {r : OpResult IocpSys Addr} : c = .update a events env → s.heap a = some x →
      x.active = true → s'.heap a = some { x with events } →
      Updated s.sys x events env r → s'.sys = r.sys →
      (s.exec iocpOps c).2 = .code r.code → CallAt s s' c a

section Calls

variable {s s' : IocpWorld} {c : Call IocpEnv} {a : Addr} {x : PdWatcher Addr}
  {r : OpResult IocpSys Addr}

theorem names_iff (hx : s.heap a = some x) {d : Addr} :
    Names s a d ↔ x.platformData = some d := by
  constructor
  · rintro ⟨y, hy, hd⟩
    obtain rfl := Option.some.inj (hx.symm.trans hy)
    exact hd
  · exact fun hd => ⟨x, hx, hd⟩

theorem names_congr (h : s'.heap a = s.heap a) {d : Addr} : Names s' a d ↔ Names s a d := by
  rw [Names, h, Names]

theorem blockOf_eq {d : Addr} {b : IocpWatcherData} (hx : s.heap a = some x)
    (hpd : x.platformData = some d) (hb : s.sys.blocks d = some b) : blockOf s a = some (d, b) := by
  simp [blockOf, hx, hpd, hb]

/-- What changes is a block that the watcher names or one that is new, and at most one
operation comes in. -/
theorem OnlyAt.of_blocks (hheap : ∀ b, b ≠ a → s'.heap b = s.heap b)
    (hblocks : s'.sys.blocks = s.sys.blocks ∨ ∃ d p, (Names s a d ∧ s.sys.blocks d ≠ none ∨
      dataAllocFor c = some d ∧ s.sys.blocks d = none) ∧
      s'.sys.blocks = Function.update s.sys.blocks d p)
    (hport : s'.sys.port = s.sys.port ∨ ∃ p, s'.sys.port = s.sys.port.issue p) :
    OnlyAt s s' c a := by
  refine ⟨hheap, fun e b hb hne => ?_, fun e he hc => ?_, fun p hp => ?_⟩
  · rcases hblocks with heq | ⟨d, q, hd, heq⟩
    · rw [heq, hb]
    · rw [heq, Function.update_of_ne, hb]
      rintro rfl
      rcases hd with ⟨hd, -⟩ | ⟨-, hd⟩
      · exact hne hd
      · exact nomatch hb.symm.trans hd
  · rcases hblocks with heq | ⟨d, q, hd, heq⟩
    · rw [heq, he]
    · rw [heq, Function.update_of_ne, he]
      rintro rfl
      rcases hd with ⟨-, hd⟩ | ⟨hd, -⟩
      · exact hd he
      · exact hc hd
  · rcases hport with heq | ⟨q, heq⟩
    · rwa [heq]
    · rw [heq]
      exact Port.mem_issue.2 (Or.inr hp)

/-- What is not changed by unregistering a watcher. -/
theorem Unregistered.blocks_cases {k : IocpSys} {w : PdWatcher Addr} (hr : Unregistered k w r) :
    r.sys.port = k.port ∧ (r.sys.blocks = k.blocks ∨ ∃ d p, w.platformData = some d ∧
      k.blocks d ≠ none ∧ r.sys.blocks = Function.update k.blocks d p) ∧
    (∀ d, r.platformData = some d → w.platformData = some d) := by
  cases hr with
  | absent hpd hk hnone _ =>
      exact ⟨hk ▸ rfl, Or.inl (hk ▸ rfl), fun d hd => nomatch hnone.symm.trans hd⟩
  | dangling hpd _ hblocks hport hsome _ =>
      exact ⟨hport, Or.inl hblocks, fun e he => hpd.trans (hsome.symm.trans he)⟩
  | @deferred d b hpd hb _ hblocks hport hsome _ =>
      exact ⟨hport, Or.inr ⟨d, _, hpd, by simp [hb], hblocks⟩,
        fun e he => hpd.trans (hsome.symm.trans he)⟩
  | @freed d b hpd hb _ _ hblocks hport hnone _ =>
      exact ⟨hport, Or.inr ⟨d, _, hpd, by simp [hb], hblocks⟩,
        fun e he => nomatch hnone.symm.trans he⟩

/-- Unregistering a watcher concerns only its own block. -/
theorem Unregistered.onlyAt {w : PdWatcher Addr} (hr : Unregistered s.sys w r)
    (hx : s.heap a = some x) (hw : w.platformData = x.platformData)
    (hheap : ∀ b, b ≠ a → s'.heap b = s.heap b) (hsys : s'.sys = r.sys) : OnlyAt s s' c a := by
  obtain ⟨hport, hblocks, -⟩ := hr.blocks_cases
  rw [← hsys] at hport hblocks
  refine .of_blocks hheap (hblocks.imp_right ?_) (Or.inl hport)
  rintro ⟨d, p, hd, hb, heq⟩
  exact ⟨d, p, Or.inl ⟨(names_iff hx).2 (hw ▸ hd), hb⟩, heq⟩

/-- Updating a watcher concerns only its own block. -/
theorem Updated.onlyAt {w : PdWatcher Addr} {events : PdEvent} {env : IocpEnv}
    (hr : Updated s.sys w events env r) (hx : s.heap a = some x)
    (hw : w.platformData = x.platformData) (hheap : ∀ b, b ≠ a → s'.heap b = s.heap b)
    (hsys : s'.sys = r.sys) : OnlyAt s s' c a := by
  have hnames : ∀ d b, w.platformData = some d → s.sys.blocks d = some b →
      Names s a d ∧ s.sys.blocks d ≠ none ∨ dataAllocFor c = some d ∧ s.sys.blocks d = none :=
    fun d b hd hb => Or.inl ⟨(names_iff hx).2 (hw ▸ hd), by simp [hb]⟩
  cases hr with
  | absent _ hk _ =>
      rw [← hsys] at hk
      exact .of_blocks hheap (Or.inl (by rw [hk])) (Or.inl (by rw [hk]))
  | dangling _ _ hblocks hport _ =>
      rw [← hsys] at hblocks hport
      exact .of_blocks hheap (Or.inl hblocks) (Or.inl hport)
  | noted hd hb _ hblocks hport _ =>
      rw [← hsys] at hblocks hport
      exact .of_blocks hheap (Or.inr ⟨_, _, hnames _ _ hd hb, hblocks⟩) (Or.inl hport)
  | issued hd hb _ _ _ hblocks hport _ =>
      rw [← hsys] at hblocks hport
      exact .of_blocks hheap (Or.inr ⟨_, _, hnames _ _ hd hb, hblocks⟩) (Or.inr ⟨_, hport⟩)
  | unissued hd hb _ _ _ hblocks hport _ =>
      rw [← hsys] at hblocks hport
      exact .of_blocks hheap (Or.inr ⟨_, _, hnames _ _ hd hb, hblocks⟩) (Or.inl hport)

/-- Registering a watcher concerns only its new block. -/
theorem Registered.onlyAt {w : PdWatcher Addr} {env : IocpEnv}
    (hr : Registered s.sys a w env r) (hc : dataAllocFor c = env.dataAlloc)
    (hheap : ∀ b, b ≠ a → s'.heap b = s.heap b) (hsys : s'.sys = r.sys) : OnlyAt s s' c a := by
  have hnew : ∀ d, s.sys.calloc env.dataAlloc = some d →
      Names s a d ∧ s.sys.blocks d ≠ none ∨ dataAllocFor c = some d ∧ s.sys.blocks d = none :=
    fun d hd => Or.inr ⟨hc.trans (IocpSys.calloc_eq_some hd).1, (IocpSys.calloc_eq_some hd).2⟩
  cases hr with
  | refused _ hblocks hport _ =>
      rw [← hsys] at hblocks hport
      exact .of_blocks hheap (Or.inl hblocks) (Or.inl hport)
  | unread hd _ _ _ hblocks hport =>
      rw [← hsys] at hblocks hport
      exact .of_blocks hheap (Or.inr ⟨_, _, hnew _ hd, hblocks⟩) (Or.inl hport)
  | reading hd _ _ _ hblocks hport =>
      rw [← hsys] at hblocks hport
      exact .of_blocks hheap (Or.inr ⟨_, _, hnew _ hd, hblocks⟩) (Or.inr ⟨_, hport⟩)

/-- A registration that succeeds. -/
theorem Registered.begins {w : PdWatcher Addr} {env : IocpEnv}
    (hr : Registered s.sys a w env r) (s' : IocpWorld) (hok : r.code = .ok) (hact : w.active = true)
    (hw : s'.heap a = some { w with platformData := r.platformData }) (hsys : s'.sys = r.sys) :
    ∃ d, env.dataAlloc = some d ∧ r.platformData = some d ∧
      Begins s s' a { w with platformData := some d } d := by
  cases hr with
  | refused hne => exact absurd hok hne
  | @unread d hd hread _ hpd hblocks hport =>
      rw [← hsys] at hblocks hport
      obtain ⟨halloc, hnone⟩ := IocpSys.calloc_eq_some hd
      rw [hpd] at hw
      refine ⟨d, halloc, hpd, hnone, hw, hact, rfl, Or.inl ⟨hread, ?_, hport⟩⟩
      rw [hblocks, Function.update_self]
  | @reading d hd hread _ hpd hblocks hport =>
      rw [← hsys] at hblocks hport
      obtain ⟨halloc, hnone⟩ := IocpSys.calloc_eq_some hd
      rw [hpd] at hw
      refine ⟨d, halloc, hpd, hnone, hw, hact, rfl, Or.inr ⟨hread, ?_, hport⟩⟩
      rw [hblocks, Function.update_self]

/-- A creation registers the watcher that it allocates. -/
theorem callocs_of_registers {w : PdWatcher Addr} {env : IocpEnv} (h : c.Registers s a env)
    (hw : c.structure = some w) : c.callocs = some a := by
  cases c with
  | create => exact (World.calloc_eq_some.1 h.1).1
  | createForHandle => exact (World.calloc_eq_some.1 h.1).1
  | start => exact nomatch hw
  | update => exact nomatch hw
  | stop => exact nomatch hw
  | destroy => exact nomatch hw

theorem registered_of_register {w : PdWatcher Addr} {env : IocpEnv} (h : c.Registers s a env)
    (hr : c.register iocpOps s.sys a w env = r) : Registered s.sys a w env r := by
  subst hr
  cases c with
  | create => exact registered_register
  | createForHandle => exact registered_registerHandle
  | start => exact registered_register
  | update => exact h.elim
  | stop => exact h.elim
  | destroy => exact h.elim

theorem active_of_structure {w : PdWatcher Addr} (h : c.structure = some w) :
    w.active = true := by
  cases c with
  | create => obtain rfl := Option.some.inj h; rfl
  | createForHandle => obtain rfl := Option.some.inj h; rfl
  | start => exact nomatch h
  | update => exact nomatch h
  | stop => exact nomatch h
  | destroy => exact nomatch h

theorem Registered.of_ne_ok {k : IocpSys} {w : PdWatcher Addr} {env : IocpEnv}
    (hr : Registered k a w env r) (hne : r.code ≠ .ok) :
    r.sys.port = k.port ∧ r.sys.blocks = k.blocks ∧
      ∀ d, r.platformData = some d → w.platformData = some d ∨ k.calloc env.dataAlloc = some d := by
  cases hr with
  | refused _ hblocks hport hpd => exact ⟨hport, hblocks, hpd⟩
  | unread _ _ hok => exact absurd hok hne
  | reading _ _ hok => exact absurd hok hne

/-- A registration that is undone at once: a first read stays in flight, and its block with
it. -/
theorem Registered.unlisted {w : PdWatcher Addr} {env : IocpEnv} {u : OpResult IocpSys Addr}
    (hr : Registered s.sys a w env r) (s' : IocpWorld) (hok : r.code = .ok)
    (hc : dataAllocFor c = env.dataAlloc)
    (hu : Unregistered r.sys { w with platformData := r.platformData } u)
    (hheap : ∀ b, b ≠ a → s'.heap b = s.heap b) (hsys : s'.sys = u.sys) :
    ∃ d, env.dataAlloc = some d ∧ s.sys.blocks d = none ∧ OnlyAt s s' c a ∧
      (w.events.has .read = false ∧ s'.sys.port = s.sys.port ∧ s'.sys.blocks d = none ∨
        w.events.has .read = true ∧ s'.sys.port = s.sys.port.issue (.io a (.data d) 0)) := by
  obtain ⟨hport', hblocks', -⟩ := hu.blocks_cases
  -- the block that is registered is the one that is unregistered
  have hown : ∀ d, r.platformData = some d → ∀ p, s.sys.calloc env.dataAlloc = some d →
      r.sys.blocks = Function.update s.sys.blocks d p →
      r.sys.port = s.sys.port ∨ r.sys.port = s.sys.port.issue (.io a (.data d) 0) →
      OnlyAt s s' c a := by
    intro d hpd p hd hblocks hport
    obtain ⟨halloc, hnone⟩ := IocpSys.calloc_eq_some hd
    have hupd : ∃ q, s'.sys.blocks = Function.update s.sys.blocks d q := by
      rw [hsys]
      rcases hblocks' with heq | ⟨e, q, he, -, heq⟩
      · exact ⟨p, heq.trans hblocks⟩
      · obtain rfl := Option.some.inj (hpd.symm.trans he)
        exact ⟨q, by rw [heq, hblocks, Function.update_idem]⟩
    obtain ⟨q, hupd⟩ := hupd
    refine .of_blocks hheap (Or.inr ⟨d, q, Or.inr ⟨hc.trans halloc, hnone⟩, hupd⟩) ?_
    rw [hsys, hport']
    exact hport.imp_right fun h => ⟨_, h⟩
  cases hr with
  | refused hne => exact absurd hok hne
  | @unread d hd hread _ hpd hblocks hport =>
      obtain ⟨halloc, hnone⟩ := IocpSys.calloc_eq_some hd
      refine ⟨d, halloc, hnone, hown d hpd _ hd hblocks (Or.inl hport),
        Or.inl ⟨hread, ?_, ?_⟩⟩
      · rw [hsys, hport', hport]
      · have hb : r.sys.blocks d = some (newData w.events) := by rw [hblocks, Function.update_self]
        rw [hsys]
        cases hu with
        | absent he => exact nomatch hpd.symm.trans he
        | dangling he hn =>
            obtain rfl := Option.some.inj (hpd.symm.trans he)
            exact nomatch hb.symm.trans hn
        | deferred he hb' hor =>
            obtain rfl := Option.some.inj (hpd.symm.trans he)
            obtain rfl := Option.some.inj (hb.symm.trans hb')
            rcases hor with h | h <;> exact nomatch h
        | freed he _ _ _ heq =>
            obtain rfl := Option.some.inj (hpd.symm.trans he)
            rw [heq, Function.update_self]
  | @reading d hd hread _ hpd hblocks hport =>
      obtain ⟨halloc, hnone⟩ := IocpSys.calloc_eq_some hd
      refine ⟨d, halloc, hnone, hown d hpd _ hd hblocks (Or.inr hport),
        Or.inr ⟨hread, ?_⟩⟩
      rw [hsys, hport', hport]

theorem OnlyAt.trans {t : IocpWorld} (h : OnlyAt s t c a) (hn : ∀ d, Names t a d → Names s a d)
    (h' : OnlyAt t s' c a) : OnlyAt s s' c a where
  heap b hb := (h'.heap b hb).trans (h.heap b hb)
  blocks d b hb hne := h'.blocks d b (h.blocks d b hb hne) fun hd => hne (hn d hd)
  unallocated d hd hc := h'.unallocated d (h.unallocated d hd hc) hc
  items p hp := h'.items p (h.items p hp)

/-- `pd_watcher_stop` concerns only the block of its watcher. -/
theorem onlyAt_stop (s : IocpWorld) (c : Call IocpEnv) (a : Addr) :
    OnlyAt s (pdWatcherStop iocpOps s a).1 c a ∧
    (∀ d, Names (pdWatcherStop iocpOps s a).1 a d → Names s a d) ∧
    (pdWatcherStop iocpOps s a).1.sys.port = s.sys.port := by
  refine World.stop_invariant (P := fun t => OnlyAt s t c a ∧ (∀ d, Names t a d → Names s a d) ∧
    t.sys.port = s.sys.port) (fun _ => ?_) fun x r hx hact hr => ?_
  · exact ⟨⟨fun _ _ => rfl, fun _ _ hb _ => hb, fun _ h _ => h, fun _ h => h⟩, fun _ h => h, rfl⟩
  · have hunreg : Unregistered s.sys { x with active := false } r :=
      hr ▸ unregistered_unregister (a := a)
    obtain ⟨hport, -, hpd⟩ := hunreg.blocks_cases
    refine ⟨hunreg.onlyAt hx rfl (fun b hb => World.setWatcher_heap_ne _ _ hb) rfl, ?_, hport⟩
    rintro d ⟨y, hy, hd⟩
    obtain rfl := Option.some.inj ((World.setWatcher_heap_self ..).symm.trans hy)
    exact (names_iff hx).2 (hpd d hd)

/-- An update of an active watcher is about that watcher. -/
theorem callAt_update {events : PdEvent} {env : IocpEnv} (hc : c = .update a events env)
    (hx : s.heap a = some x) (hact : x.active = true)
    (hr : iocpWatcherUpdate s.sys a { x with events } events env = r) :
    OnlyAt s ((s.setWatcher a { x with events, platformData := r.platformData }).setSys r.sys) c a ∧
    CallAt s ((s.setWatcher a { x with events, platformData := r.platformData }).setSys r.sys) c
      a := by
  obtain ⟨hupd', hpd⟩ : Updated s.sys { x with events } events env r ∧
    r.platformData = x.platformData := hr ▸ updated_update (a := a)
  have hupd := hupd'.of_events
  refine ⟨hupd.onlyAt hx rfl (fun b hb => World.setWatcher_heap_ne _ _ hb) rfl, ?_⟩
  refine .updated hc hx hact ?_ hupd rfl ?_
  · rw [hpd]
    exact World.setWatcher_heap_self ..
  · rw [hc, World.exec, update_of_active hx hact hr]

/-- `pd_watcher_update` of an active watcher. -/
theorem update_eq (hx : s.heap a = some x) (hact : x.active = true) (events : PdEvent)
    (env : IocpEnv) :
    (pdWatcherUpdate iocpOps s a events env).1 =
      (s.setWatcher a { x with events }).setSys
        (iocpWatcherUpdate s.sys a { x with events } events env).sys := by
  obtain ⟨-, hpd⟩ : Updated s.sys { x with events } events env
    (iocpWatcherUpdate s.sys a { x with events } events env) ∧ _ := updated_update
  rw [update_of_active hx hact rfl]
  exact congrArg (fun p => (s.setWatcher a { x with events, platformData := p }).setSys _) hpd

/-- What a call does is about one watcher. -/
theorem callAt_exec (s : IocpWorld) (c : Call IocpEnv) :
    ∃ a, OnlyAt s (s.exec iocpOps c).1 c a ∧ CallAt s (s.exec iocpOps c).1 c a := by
  refine World.exec_invariant (P := fun s' => ∃ a, OnlyAt s s' c a ∧ CallAt s s' c a) c ?_ ?_ ?_
    ?_ ?_ ?_ ?_ ?_
  · intro hskip
    refine ⟨NULL, ⟨fun _ _ => rfl, fun _ _ hb _ => hb, fun _ h _ => h, fun _ h => h⟩,
      .kept rfl (fun _ _ => rfl) rfl fun b events env x hc hx => ?_⟩
    rw [hc] at hskip
    exact hskip x hx
  · -- a creation is refused by the backend
    intro a w env r hreg hw ha hnull hr hne
    have hreg' := registered_of_register hreg hr
    refine ⟨a, hreg'.onlyAt (dataAllocFor_of_registers hreg) (fun _ _ => rfl) rfl, ?_⟩
    refine .kept rfl (fun d hd => ?_) (hreg'.of_ne_ok hne).1 fun b events env' x hc => ?_
    · obtain ⟨x, hx, -⟩ := hd
      exact nomatch ha.symm.trans hx
    · rw [hc] at hw
      exact nomatch hw
  · -- the list cannot grow
    intro a w env r u hreg hw ha hnull hr hok _ hfull hu
    have hreg' := registered_of_register hreg hr
    obtain ⟨d, halloc, hnone, honly, hunlisted⟩ := hreg'.unlisted (s.setSys u.sys) hok
      (dataAllocFor_of_registers hreg) (hu ▸ unregistered_unregister (a := a)) (fun _ _ => rfl) rfl
    exact ⟨a, honly, .unlisted hw ((dataAllocFor_of_registers hreg).trans halloc) ha ha hnone hfull
      hunlisted (callocs_of_registers hreg hw)⟩
  · -- a new watcher
    intro a w env r loop hreg hw ha hnull hr hok hreply
    have hreg' := registered_of_register hreg hr
    obtain ⟨d, halloc, -, hbegins⟩ := hreg'.begins
      (((s.setSys r.sys).setLoop loop).setWatcher a { w with platformData := r.platformData }) hok
      (active_of_structure hw) (World.setWatcher_heap_self ..) rfl
    refine ⟨a, hreg'.onlyAt (dataAllocFor_of_registers hreg)
      (fun b hb => World.setWatcher_heap_ne _ _ hb) rfl, ?_⟩
    exact .created ((dataAllocFor_of_registers hreg).trans halloc) ha hbegins
      (callocs_of_registers hreg hw)
  · -- a stopped watcher is started
    intro a x env r hc hx hact hr
    have hreg : c.Registers s a env := by
      rw [hc]
      exact ⟨rfl, by rw [hx]; rfl, rfl⟩
    have hreg' : Registered s.sys a { x with active := true } env r := hr ▸ registered_register
    have hcalloc := dataAllocFor_of_registers hreg
    refine ⟨a, hreg'.onlyAt hcalloc (fun b hb => World.setWatcher_heap_ne _ _ hb) rfl, ?_⟩
    by_cases hok : r.code = .ok
    · rw [hok]
      obtain ⟨d, halloc, -, hbegins⟩ := hreg'.begins
        ((s.setWatcher a { x with active := true, platformData := r.platformData }).setSys r.sys)
        hok rfl (World.setWatcher_heap_self ..) rfl
      exact .started hc (hcalloc.trans halloc) hx hact hbegins
    · obtain ⟨hport, hblocks, hpd⟩ := hreg'.of_ne_ok hok
      rw [beq_eq_false_iff_ne.2 hok]
      refine .unstarted hc hx hact (World.setWatcher_heap_self ..) (fun d hd => ?_) hblocks hport
      refine (hpd d hd).imp_right fun h => ?_
      obtain ⟨halloc, hnone⟩ := IocpSys.calloc_eq_some h
      exact ⟨hcalloc.trans halloc, hnone⟩
  · -- an update
    exact fun a x events env r hc hx hact hr => ⟨a, callAt_update hc hx hact hr⟩
  · -- a watcher is stopped
    intro a x r hc hx hact hr
    have hunreg : Unregistered s.sys { x with active := false } r :=
      hr ▸ unregistered_unregister (a := a)
    refine ⟨a, hunreg.onlyAt hx rfl (fun b hb => World.setWatcher_heap_ne _ _ hb) rfl, ?_⟩
    cases hunreg with
    | absent hpd hk hnone hcode =>
        have hpd' : r.platformData = x.platformData := hnone.trans hpd.symm
        have hactive : (r.code != .ok) = x.active := by
          rw [hcode, hact]
          rfl
        refine .kept ?_ (fun d _ => ?_) (congrArg IocpSys.port hk) fun b _ _ _ hc' => ?_
        · rw [hpd', hactive]
          exact (World.setWatcher_heap_self ..).trans hx.symm
        · exact congrArg (fun k => IocpSys.blocks k d) hk
        · exact nomatch hc.symm.trans hc'
    | dangling hpd hb hblocks hport hsome hcode =>
        rw [hcode, hsome, ← hpd]
        exact .stoppedDangling hc hx hact hpd hb (World.setWatcher_heap_self ..) hblocks hport
    | deferred hpd hb hor hblocks hport hsome hcode =>
        rw [hcode, hsome, ← hpd]
        exact .deferred hc hx hact hpd hb hor (World.setWatcher_heap_self ..) hblocks hport
    | freed hpd hb hstop hpend hblocks hport hnone hcode =>
        rw [hcode, hnone]
        exact .freed hc hx hact hpd hb hstop hpend (World.setWatcher_heap_self ..) hblocks hport
  · -- a watcher is stopped, cleaned up and freed
    intro a x hc hx
    obtain ⟨honly, hnames, hport⟩ := onlyAt_stop s c a
    have hlive : ((pdWatcherStop iocpOps s a).1.heap a).isSome = true := by
      rw [sameWatchers_stop.live_eq, hx]
      rfl
    obtain ⟨y, hy⟩ := Option.isSome_iff_exists.1 hlive
    rw [cleanup_of_some hy rfl]
    have hunreg : Unregistered (pdWatcherStop iocpOps s a).1.sys y _ :=
      unregistered_unregister (a := a)
    refine ⟨a, honly.trans hnames (hunreg.onlyAt hy rfl (fun b hb => ?_) rfl),
      .destroyed hc (Function.update_self ..) (hunreg.blocks_cases.1.trans hport)⟩
    exact (Function.update_of_ne hb ..).trans (World.setWatcher_heap_ne _ _ hb)

/-- An update of an active watcher is about that watcher. -/
theorem CallAt.eq_of_update {b : Addr} {events : PdEvent} {env : IocpEnv} (h : CallAt s s' c a)
    (hc : c = .update b events env) (hx : s.heap b = some x) (hact : x.active = true) : b = a := by
  subst hc
  cases h with
  | kept _ _ _ hno => exact nomatch hact.symm.trans (hno b events env x rfl hx)
  | destroyed hc => exact nomatch hc
  | unlisted _ halloc => exact nomatch halloc
  | created halloc => exact nomatch halloc
  | started hc => exact nomatch hc
  | unstarted hc => exact nomatch hc
  | stoppedDangling hc => exact nomatch hc
  | deferred hc => exact nomatch hc
  | freed hc => exact nomatch hc
  | updated hc =>
      cases hc
      rfl

end Calls

/-! ### Packets and callbacks -/

/-- What taking up a packet does to the watcher that it names. -/
inductive TakenUp (s : IocpWorld) (p : Packet) (r : IocpWorld × Mode) : Prop
  /-- The packet is dropped, or the loop is told of a write or a timer. -/
  | ignored : r.1.heap = s.heap → r.1.sys.blocks = s.sys.blocks →
      (∀ a d n x b, p = .io a (.data d) n → a ≠ NULL → s.heap a = some x →
        x.platformData = some d → s.sys.blocks d = some b → x.callback = none) →
      (∀ a events n, r.2 ≠ .callback (.read a events n)) → TakenUp s p r
  | released {a d : Addr} {o : Overlapped} {n : ℕ} {x : PdWatcher Addr} {b : IocpWatcherData} :
      p = .io a o n → a ≠ NULL → s.heap a = some x → x.callback.isSome = true →
      x.platformData = some d →
      s.sys.blocks d = some b → b.stopping = true →
      r.1.heap = Function.update s.heap a (some { x with platformData := none }) →
      r.1.sys.blocks = Function.update s.sys.blocks d none → r.2 = .dispatch → TakenUp s p r
  | cancelled {a d : Addr} {n : ℕ} {x : PdWatcher Addr} {b : IocpWatcherData} :
      p = .io a (.data d) n → a ≠ NULL → s.heap a = some x → x.callback.isSome = true →
      x.platformData = some d →
      s.sys.blocks d = some b → b.stopping = false → isCancelled b = true → r.1.heap = s.heap →
      r.1.sys.blocks = Function.update s.sys.blocks d (some { b with pendingOperation := false }) →
      r.2 = .dispatch → TakenUp s p r
  | completed {a d : Addr} {n : ℕ} {x : PdWatcher Addr} {b : IocpWatcherData} :
      p = .io a (.data d) n → a ≠ NULL → s.heap a = some x → x.callback.isSome = true →
      x.platformData = some d →
      s.sys.blocks d = some b → b.stopping = false → isCancelled b = false → r.1.heap = s.heap →
      r.1.sys.blocks = Function.update s.sys.blocks d (some { b with
        bytesAvailable := if (readEvents b n).has .read then n else b.bytesAvailable
        pendingOperation := false }) →
      r.2 = .callback (.read a (readEvents b n) n) → TakenUp s p r

theorem takenUp_takeUp (s : IocpWorld) (p : Packet) :
    TakenUp s p (takeUp s p) ∧ (takeUp s p).1.sys.port = s.sys.port := by
  refine ⟨?_, (takesUp_takeUp s p).port_eq⟩
  cases p with
  | sync => exact .ignored rfl rfl (fun _ _ _ _ _ hp => nomatch hp) fun _ _ _ hm => nomatch hm
  | timer fires =>
      refine .ignored rfl rfl (fun _ _ _ _ _ hp => nomatch hp) fun _ _ _ hm => ?_
      cases fires <;> exact nomatch hm
  | wake => exact .ignored rfl rfl (fun _ _ _ _ _ hp => nomatch hp) fun _ _ _ hm => nomatch hm
  | io a o n =>
      unfold takeUp
      dsimp only
      split_ifs with ha
      · exact .ignored rfl rfl (fun _ _ _ _ _ hp hne => absurd (by cases hp; exact ha) hne) nofun
      · cases hx : s.heap a with
        | none =>
            refine .ignored rfl rfl (fun _ _ _ _ _ hp _ hy => ?_) nofun
            cases hp
            exact nomatch hx.symm.trans hy
        | some x =>
            dsimp only
            split_ifs with hcb
            · refine .ignored rfl rfl (fun _ _ _ _ _ hp _ hy _ _ => ?_) nofun
              cases hp
              obtain rfl := Option.some.inj (hx.symm.trans hy)
              simpa using hcb
            · have hcb' : x.callback.isSome = true := by
                simpa [Option.isSome_iff_ne_none] using hcb
              cases hpd : x.platformData with
              | none =>
                  refine .ignored rfl rfl (fun _ _ _ _ _ hp _ hy hd => ?_) nofun
                  cases hp
                  obtain rfl := Option.some.inj (hx.symm.trans hy)
                  exact nomatch hpd.symm.trans hd
              | some d =>
                  dsimp only
                  cases hb : s.sys.blocks d with
                  | none =>
                      refine .ignored rfl rfl (fun _ _ _ _ _ hp _ hy hd hb' => ?_) nofun
                      cases hp
                      obtain rfl := Option.some.inj (hx.symm.trans hy)
                      obtain rfl := Option.some.inj (hpd.symm.trans hd)
                      exact nomatch hb.symm.trans hb'
                  | some b =>
                      dsimp only
                      split_ifs with hstop ho hcancel hread
                      · exact .released rfl ha hx hcb' hpd hb hstop rfl rfl rfl
                      · refine .ignored rfl rfl (fun _ _ _ _ _ hp _ hy hd _ => ?_) nofun
                        cases hp
                        obtain rfl := Option.some.inj (hx.symm.trans hy)
                        obtain rfl := Option.some.inj (hpd.symm.trans hd)
                        exact absurd rfl ho
                      · obtain rfl := not_not.1 ho
                        exact .cancelled rfl ha hx hcb' hpd hb (by simpa using hstop) hcancel rfl
                          rfl rfl
                      · obtain rfl := not_not.1 ho
                        refine .completed rfl ha hx hcb' hpd hb (by simpa using hstop)
                          (by simpa using hcancel) rfl ?_ rfl
                        rw [if_pos hread]
                        rfl
                      · obtain rfl := not_not.1 ho
                        refine .completed rfl ha hx hcb' hpd hb (by simpa using hstop)
                          (by simpa using hcancel) rfl ?_ rfl
                        rw [if_neg hread]
                        rfl

/-- What the end of a callback does. -/
inductive Rearmed (s : IocpWorld) (f : Frame) (refused : Option WinError) (k : IocpSys) : Prop
  /-- Nothing is re-issued. -/
  | nothing : k.blocks = s.sys.blocks → k.port = s.sys.port →
      (∀ a events n x d b, f = .read a events n → events.has .read = true → 0 < n →
        s.heap a = some x → x.platformData = some d → s.sys.blocks d = some b →
        b.stopping = true) → Rearmed s f refused k
  | issued {a d : Addr} {events : PdEvent} {n : ℕ} {x : PdWatcher Addr} {b : IocpWatcherData} :
      f = .read a events n → events.has .read = true → 0 < n → s.heap a = some x →
      x.platformData = some d → s.sys.blocks d = some b → b.stopping = false →
      s.sys.isOpen (rearmHandle x) = true →
      k.blocks = Function.update s.sys.blocks d
        (some { b with internal := STATUS_PENDING, pendingOperation := true }) →
      k.port = s.sys.port.issue (.io ((s.sys.assoc (rearmHandle x)).getD NULL) (.data d) 0) →
      Rearmed s f refused k
  | unissued {a d : Addr} {events : PdEvent} {n : ℕ} {x : PdWatcher Addr} {b : IocpWatcherData} :
      f = .read a events n → events.has .read = true → 0 < n → s.heap a = some x →
      x.platformData = some d → s.sys.blocks d = some b → b.stopping = false →
      s.sys.isOpen (rearmHandle x) = false ∨ refused.isSome = true →
      k.blocks = Function.update s.sys.blocks d
        (some { b with internal := STATUS_SUCCESS, pendingOperation := false }) →
      k.port = s.sys.port → Rearmed s f refused k

theorem rearmed_rearm (s : IocpWorld) (refused : Option WinError) (f : Frame) :
    Rearmed s f refused (rearm s refused f).1.sys ∧ (rearm s refused f).1.heap = s.heap := by
  refine ⟨?_, (rearms_rearm s refused f).heap_eq⟩
  cases f with
  | timer => exact .nothing rfl rfl fun _ _ _ _ _ _ hf => nomatch hf
  | write a => exact .nothing rfl rfl fun _ _ _ _ _ _ hf => nomatch hf
  | read a events n =>
      unfold rearm
      dsimp only
      cases hx : s.heap a with
      | none =>
          refine .nothing rfl rfl fun _ _ _ _ _ _ hf _ _ hy => ?_
          cases hf
          exact nomatch hx.symm.trans hy
      | some x =>
          dsimp only
          cases hpd : x.platformData with
          | none =>
              refine .nothing rfl rfl fun _ _ _ _ _ _ hf _ _ hy hd => ?_
              cases hf
              obtain rfl := Option.some.inj (hx.symm.trans hy)
              exact nomatch hpd.symm.trans hd
          | some d =>
              dsimp only
              split_ifs with hread
              · rw [Bool.and_eq_true, decide_eq_true_eq] at hread
                cases hb : s.sys.blocks d with
                | none =>
                    refine .nothing rfl rfl fun _ _ _ _ _ _ hf _ _ hy hd hb' => ?_
                    cases hf
                    obtain rfl := Option.some.inj (hx.symm.trans hy)
                    obtain rfl := Option.some.inj (hpd.symm.trans hd)
                    exact nomatch hb.symm.trans hb'
                | some b =>
                    dsimp only
                    split_ifs with hstop
                    · refine .nothing rfl rfl fun _ _ _ _ _ _ hf _ _ hy hd hb' => ?_
                      cases hf
                      obtain rfl := Option.some.inj (hx.symm.trans hy)
                      obtain rfl := Option.some.inj (hpd.symm.trans hd)
                      obtain rfl := Option.some.inj (hb.symm.trans hb')
                      exact hstop
                    · have hgo : b.stopping = false := by simpa using hstop
                      split
                      · rename_i e hissue
                        refine .unissued rfl hread.1 hread.2 hx hpd hb hgo ?_ ?_ (by simp)
                        · simpa [IocpSys.setBlock] using issueRead_error hissue
                        · simp [IocpSys.setBlock]
                      · rename_i k hissue
                        rw [IocpSys.issueRead_ok hissue]
                        refine .issued rfl hread.1 hread.2 hx hpd hb hgo ?_ ?_ ?_
                        · simpa [IocpSys.setBlock] using issueRead_isOpen hissue
                        · simp [IocpSys.setBlock, IocpSys.setPort]
                        · simp [IocpSys.setBlock]
              · refine .nothing rfl rfl fun _ _ _ _ _ _ hf he hn => ?_
                cases hf
                exact absurd (by simp [he, hn]) hread

/-! ### The kernel, and draining -/

theorem complete_blocks (k : IocpSys) (p : Packet) (key : Addr) (o : Overlapped)
    (status : NtStatus) (data : List UInt8) (d : Addr) :
    (k.complete p key o status data).blocks d = (k.blocks d).map fun b =>
      if o = .data d then { b with internal := status, buffer := data ++ b.buffer.drop data.length }
      else b := by
  have hport : ∀ port, (k.setPort port).blocks d = k.blocks d := fun _ => rfl
  unfold IocpSys.complete
  cases o with
  | client =>
      dsimp only
      rw [hport]
      cases k.blocks d <;> rfl
  | data e =>
      dsimp only
      rcases eq_or_ne d e with rfl | hne
      · rw [hport]
        cases hb : k.blocks d with
        | none => exact (hport _).trans hb
        | some b => simp
      · have hother : ∀ b : IocpWatcherData, (if Overlapped.data e = .data d then
            { b with internal := status, buffer := data ++ b.buffer.drop data.length }
              else b) = b :=
          fun b => if_neg fun h => hne (Overlapped.data.inj h).symm
        simp only [hother, Option.map_id']
        split
        · rfl
        · exact IocpSys.setBlock_blocks_ne hne

theorem outstanding_of_port {k k' : IocpSys} (hp : k'.port = k.port) (d : Addr) :
    k'.outstanding d = k.outstanding d := congrArg (Port.count (Packet.reads d)) hp

theorem outstanding_of_issue {k k' : IocpSys} {a e : Addr} {n : ℕ}
    (hp : k'.port = k.port.issue (.io a (.data e) n)) (d : Addr) :
    k'.outstanding d = k.outstanding d + if e = d then 1 else 0 := by
  rw [IocpSys.outstanding, hp]
  refine Port.count_issue.trans ?_
  simp [Packet.reads, IocpSys.outstanding]

theorem outstanding_of_next {k k' : IocpSys} {p : Packet} {port : Port Packet}
    (hp : k.port.next = some (p, port)) (hport : k'.port = port) (d : Addr) :
    k.outstanding d = k'.outstanding d + if p.reads d then 1 else 0 := by
  rw [IocpSys.outstanding, IocpSys.outstanding, hport]
  exact Port.count_of_next hp

theorem outstanding_complete_le {k : IocpSys} {key : Addr} {o : Overlapped} {n : ℕ}
    {status : NtStatus} {data : List UInt8} (hp : .io key o n ∈ k.port.inflight) (d : Addr) :
    (k.complete (.io key o n) key o status data).outstanding d ≤ k.outstanding d := by
  rw [IocpSys.outstanding, complete_port]
  exact count_complete_reads hp

/-- What is left after `len` bytes have been drained. -/
def drained (len : ℕ) (b : IocpWatcherData) : IocpWatcherData :=
  { b with
    buffer := if len < b.bytesAvailable then moveDown b.buffer len (b.bytesAvailable - len)
      else b.buffer
    bytesAvailable := b.bytesAvailable - len }

theorem drained_zero (b : IocpWatcherData) : drained 0 b = b := by
  simp [drained, moveDown]

theorem drained_of_empty {b : IocpWatcherData} {len : ℕ} (h : b.bytesAvailable = 0) :
    drained len b = b := by
  rw [drained, h, if_neg (Nat.not_lt_zero _), Nat.zero_sub, ← h]

theorem drainRead_blocks (k : IocpSys) (x : PdWatcher Addr) (len : ℕ) (d : Addr) :
    (iocpWatcherDrainRead k x len).1.blocks d =
      (k.blocks d).map fun b => if x.platformData = some d then drained len b else b := by
  unfold iocpWatcherDrainRead
  cases hpd : x.platformData with
  | none => simp
  | some e =>
      dsimp only
      rcases eq_or_ne d e with rfl | hne
      · have hself : (fun b => if some d = some d then drained len b else b) = drained len :=
          funext fun _ => if_pos rfl
        rw [hself]
        rcases Nat.eq_zero_or_pos len with rfl | hlen
        · have hid : drained 0 = id := funext drained_zero
          rw [if_pos rfl, hid, Option.map_id_fun, id]
        · rw [if_neg (by omega)]
          cases hb : k.blocks d with
          | none => exact hb
          | some b =>
              dsimp only
              split_ifs with hz hrest
              · rw [Option.map_some, drained_of_empty hz]
                exact hb
              · have hlt : len < b.bytesAvailable := by omega
                rw [IocpSys.setBlock_blocks_self, Option.map_some, drained, if_pos hlt,
                  Nat.min_eq_right (Nat.le_of_lt hlt)]
              · have hge : ¬len < b.bytesAvailable := by omega
                rw [IocpSys.setBlock_blocks_self, Option.map_some, drained, if_neg hge,
                  Nat.min_eq_left (by omega), Nat.sub_self, Nat.sub_eq_zero_of_le (by omega)]
      · have hother : ∀ b : IocpWatcherData, (if some e = some d then drained len b else b) = b :=
          fun b => if_neg fun h => hne (Option.some.inj h).symm
        simp only [hother, Option.map_id']
        split_ifs
        · rfl
        · cases k.blocks e with
          | none => rfl
          | some b =>
              dsimp only
              split_ifs <;> simp [IocpSys.setBlock_blocks_ne hne]

section Runs

variable {s s' : IocpWorld} {c : Call IocpEnv} {a d : Addr} {k : IocpSys}

/-- A read of a watcher that is there stays, whatever the kernel completes. -/
theorem Reading.complete {p : Packet} {key : Addr} {o : Overlapped} {n : ℕ} {status : NtStatus}
    {data : List UInt8} (h : Reading k a d) (ha : a ≠ NULL) (hp : p = .io key o n) :
    Reading (k.complete p key o status data) a d := by
  obtain ⟨m, hm⟩ := h
  rw [Reading, complete_port]
  by_cases heq : Packet.io a (.data d) m = p
  · rw [hp] at heq
    cases heq
    rw [if_neg ha]
    exact ⟨data.length, Port.mem_complete_self⟩
  · exact ⟨m, Port.mem_complete_of_ne hm heq⟩

/-- The watchers of the list name the live ones, and no two of them the same block. -/
structure Apart (s : IocpWorld) : Prop where
  listed : Listed s
  distinct : Distinct s

/-- The address at which the call wants to allocate platform data is not one that a watcher
of the loop still names. -/
def freshData (s : IocpWorld) (c : Call IocpEnv) : Bool :=
  (dataAllocFor c).all fun d => s.loop.occupied.all fun a =>
    (s.heap a).all fun x => x.platformData != some d

theorem not_names_of_fresh (h : Listed s) (hc : freshData s c = true)
    (hd : dataAllocFor c = some d) : ¬Names s a d := by
  rintro ⟨x, hx, hpd⟩
  have hmem : a ∈ s.loop.occupied := (h.mem_occupied a).2 (by rw [hx]; rfl)
  simp only [freshData, hd, Option.all_some, List.all_eq_true] at hc
  have hne := hc a hmem
  rw [hx, Option.all_some, hpd] at hne
  simp at hne

/-- The blocks of the other watchers stay as they were. -/
theorem OnlyAt.block_eq (h : OnlyAt s s' c a) (hs : Apart s) (hc : freshData s c = true)
    {b : Addr} (hb : b ≠ a) (hd : Names s b d) : s'.sys.blocks d = s.sys.blocks d := by
  cases hblk : s.sys.blocks d with
  | none => exact h.unallocated d hblk fun halloc => not_names_of_fresh hs.listed hc halloc hd
  | some x => exact h.blocks d x hblk fun hn => hb (hs.distinct _ _ d hd hn)

/-- The watcher names after a call what it named before, or what was allocated for it. -/
theorem CallAt.names (h : CallAt s s' c a) (hd : Names s' a d) :
    Names s a d ∨ dataAllocFor c = some d ∧ s.sys.blocks d = none := by
  obtain ⟨x', hx', hpd'⟩ := hd
  cases h with
  | kept hheap =>
      exact Or.inl ⟨x', hheap.symm.trans hx', hpd'⟩
  | destroyed _ hgone => exact nomatch hgone.symm.trans hx'
  | unlisted _ _ _ hgone => exact nomatch hgone.symm.trans hx'
  | created halloc _ hb =>
      obtain rfl := Option.some.inj (hb.live.symm.trans hx')
      obtain rfl := Option.some.inj (hb.data.symm.trans hpd')
      exact Or.inr ⟨halloc, hb.new⟩
  | started _ halloc _ _ hb =>
      obtain rfl := Option.some.inj (hb.live.symm.trans hx')
      obtain rfl := Option.some.inj (hb.data.symm.trans hpd')
      exact Or.inr ⟨halloc, hb.new⟩
  | unstarted _ hx _ hheap hp =>
      obtain rfl := Option.some.inj (hheap.symm.trans hx')
      exact (hp d hpd').imp_left fun h => ⟨_, hx, h⟩
  | stoppedDangling _ hx _ _ _ hheap =>
      obtain rfl := Option.some.inj (hheap.symm.trans hx')
      exact Or.inl ⟨_, hx, hpd'⟩
  | deferred _ hx _ _ _ _ hheap =>
      obtain rfl := Option.some.inj (hheap.symm.trans hx')
      exact Or.inl ⟨_, hx, hpd'⟩
  | freed _ _ _ _ _ _ _ hheap =>
      obtain rfl := Option.some.inj (hheap.symm.trans hx')
      exact nomatch hpd'
  | updated _ hx _ hheap =>
      obtain rfl := Option.some.inj (hheap.symm.trans hx')
      exact Or.inl ⟨_, hx, hpd'⟩

/-- A call issues at most one read, on a block that its watcher names or that is new. -/
theorem CallAt.port_cases (h : CallAt s s' c a) : s'.sys.port = s.sys.port ∨
    ∃ key d, (Names s a d ∨ dataAllocFor c = some d ∧ s.sys.blocks d = none) ∧
      s'.sys.port = s.sys.port.issue (.io key (.data d) 0) := by
  have hnew : ∀ x d, dataAllocFor c = some d → Begins s s' a x d → s'.sys.port = s.sys.port ∨
      ∃ key d, (Names s a d ∨ dataAllocFor c = some d ∧ s.sys.blocks d = none) ∧
        s'.sys.port = s.sys.port.issue (.io key (.data d) 0) := by
    intro x d halloc hb
    rcases hb.block with ⟨-, -, hport⟩ | ⟨-, -, hport⟩
    · exact Or.inl hport
    · exact Or.inr ⟨a, d, Or.inr ⟨halloc, hb.new⟩, hport⟩
  cases h with
  | kept _ _ hport => exact Or.inl hport
  | destroyed _ _ hport => exact Or.inl hport
  | unlisted _ halloc _ _ hnone _ hor =>
      rcases hor with ⟨-, hport, -⟩ | ⟨-, hport⟩
      · exact Or.inl hport
      · exact Or.inr ⟨a, _, Or.inr ⟨halloc, hnone⟩, hport⟩
  | created halloc _ hb => exact hnew _ _ halloc hb
  | started _ halloc _ _ hb => exact hnew _ _ halloc hb
  | unstarted _ _ _ _ _ _ hport => exact Or.inl hport
  | stoppedDangling _ _ _ _ _ _ _ hport => exact Or.inl hport
  | deferred _ _ _ _ _ _ _ _ hport => exact Or.inl hport
  | freed _ _ _ _ _ _ _ _ _ hport => exact Or.inl hport
  | updated _ hx _ _ hupd hsys =>
      rw [hsys]
      cases hupd with
      | absent _ hk => exact Or.inl (by rw [hk])
      | dangling _ _ _ hport => exact Or.inl hport
      | noted _ _ _ _ hport => exact Or.inl hport
      | issued hpd _ _ _ _ _ hport => exact Or.inr ⟨_, _, Or.inl ⟨_, hx, hpd⟩, hport⟩
      | unissued _ _ _ _ _ _ hport => exact Or.inl hport

/-- What a call keeps, if new platform data is at an address that no watcher names. -/
theorem Apart.exec_of_new (h : Apart s)
    (hnew : ∀ b d, dataAllocFor c = some d → s.sys.blocks d = none → ¬Names s b d) :
    Apart (s.exec iocpOps c).1 := by
  obtain ⟨a₀, honly, hat⟩ := callAt_exec s c
  refine ⟨h.listed.exec c, fun a a' d hd hd' => ?_⟩
  -- a watcher other than that of the call names what it named
  have hother : ∀ b, b ≠ a₀ → Names (s.exec iocpOps c).1 b d → Names s b d := by
    rintro b hb ⟨x, hx, hpd⟩
    exact ⟨x, (honly.heap b hb).symm.trans hx, hpd⟩
  have hclash : ∀ b, b ≠ a₀ → Names (s.exec iocpOps c).1 b d → Names (s.exec iocpOps c).1 a₀ d →
      False := by
    intro b hb hbd had
    rcases hat.names had with hold | ⟨halloc, hnone⟩
    · exact hb (h.distinct _ _ d (hother b hb hbd) hold)
    · exact hnew b d halloc hnone (hother b hb hbd)
  rcases eq_or_ne a a₀ with rfl | ha
  · rcases eq_or_ne a' a with rfl | ha'
    · rfl
    · exact (hclash a' ha' hd' hd).elim
  · rcases eq_or_ne a' a₀ with rfl | ha'
    · exact (hclash a ha hd hd').elim
    · exact h.distinct _ _ d (hother a ha hd) (hother a' ha' hd')

theorem Apart.exec (h : Apart s) (hc : freshData s c = true) : Apart (s.exec iocpOps c).1 :=
  h.exec_of_new fun _ _ halloc _ => not_names_of_fresh h.listed hc halloc

/-- A step that leaves the list alone and makes no watcher name a new block. -/
theorem Apart.of_names (h : Apart s) (hsame : SameWatchers s s')
    (hn : ∀ a d, Names s' a d → Names s a d) : Apart s' :=
  ⟨h.listed.of_same hsame, fun _ _ d hd hd' => h.distinct _ _ d (hn _ _ hd) (hn _ _ hd')⟩

theorem apart_init {s : State} (h : Init s) : Apart s.world := by
  obtain ⟨-, hl, hheap, -⟩ := h
  have hocc : s.world.loop.occupied = [] := by
    rw [hl]
    rfl
  refine ⟨⟨hocc ▸ .nil, fun a => by simp [hocc, hheap], fun a ha => ?_⟩, fun a _ d hd => ?_⟩
  · rw [hheap] at ha
    exact nomatch ha
  · obtain ⟨x, hx, -⟩ := hd
    exact nomatch (hheap a).symm.trans hx

/-- The backend's state changes, and the watchers do not. -/
theorem Apart.setSys (h : Apart s) (k : IocpSys) : Apart (s.setSys k) :=
  h.of_names ⟨rfl, fun _ => rfl⟩ fun _ _ hd => hd

theorem takeUp_loop (s : IocpWorld) (p : Packet) : (takeUp s p).1.loop = s.loop := by
  cases p with
  | sync => rfl
  | timer fires => rfl
  | wake => rfl
  | io a o n =>
      unfold takeUp
      dsimp only
      split_ifs
      · rfl
      · cases s.heap a with
        | none => rfl
        | some x =>
            dsimp only
            split_ifs
            · rfl
            · cases x.platformData with
              | none => rfl
              | some d =>
                  dsimp only
                  cases s.sys.blocks d with
                  | none => rfl
                  | some b =>
                      dsimp only
                      split_ifs <;> rfl

theorem rearm_loop (s : IocpWorld) (refused : Option WinError) (f : Frame) :
    (rearm s refused f).1.loop = s.loop := by
  cases f with
  | timer => rfl
  | write a => rfl
  | read a events n =>
      unfold rearm
      dsimp only
      cases s.heap a with
      | none => rfl
      | some x =>
          dsimp only
          cases x.platformData with
          | none => rfl
          | some d =>
              dsimp only
              split_ifs
              · cases s.sys.blocks d with
                | none => rfl
                | some b =>
                    dsimp only
                    split_ifs
                    · rfl
                    · split <;> rfl
              · rfl

/-- The watchers stay, except that one may give up its block. -/
theorem Apart.takeUp (h : Apart s) (p : Packet) : Apart (takeUp s p).1 := by
  have hsame : SameWatchers s (Iocp.takeUp s p).1 :=
    ⟨takeUp_loop s p, (takesUp_takeUp s p).live_eq⟩
  have hkept : (Iocp.takeUp s p).1.heap = s.heap → Apart (Iocp.takeUp s p).1 :=
    fun hheap => h.of_names hsame fun a d hd => (names_congr (congrFun hheap a)).1 hd
  cases (takenUp_takeUp s p).1 with
  | ignored hheap => exact hkept hheap
  | cancelled _ _ _ _ _ _ _ _ hheap => exact hkept hheap
  | completed _ _ _ _ _ _ _ _ hheap => exact hkept hheap
  | @released a₀ d₀ o n x b _ _ _ _ _ _ _ hheap =>
      refine h.of_names hsame fun a d hd => ?_
      obtain ⟨y, hy, hpd⟩ := hd
      rw [hheap] at hy
      by_cases ha : a = a₀
      · rw [ha, Function.update_self] at hy
        obtain rfl := Option.some.inj hy
        exact nomatch hpd
      · rw [Function.update_of_ne ha] at hy
        exact ⟨y, hy, hpd⟩

theorem Apart.rearm (h : Apart s) (refused : Option WinError) (f : Frame) :
    Apart (rearm s refused f).1 := by
  have hheap := (rearmed_rearm s refused f).2
  refine h.of_names ⟨rearm_loop _ _ _, fun a => by rw [hheap]⟩ fun a d hd => ?_
  exact (names_congr (congrFun hheap a)).1 hd

theorem listed_step {s s' : State} {l : Step} (h : Listed s.world) (hstep : step s l = some s') :
    Listed s'.world := by
  have hsys : ∀ k, Listed (s.world.setSys k) := fun k => h.of_same ⟨rfl, fun _ => rfl⟩
  cases stepped_of_step hstep with
  | call => exact h.exec _
  | drainRead => exact hsys _
  | openHandle => exact hsys _
  | closeHandle => exact hsys _
  | clientWrite => exact hsys _
  | complete => exact hsys _
  | post => exact hsys _
  | wait => exact hsys _
  | waitFailed => exact hsys _
  | done => exact h
  | next => exact (hsys _).of_same ⟨takeUp_loop _ _, (takesUp_takeUp _ _).live_eq⟩
  | ret => exact h.of_same ⟨rearm_loop _ _ _, fun a => by rw [(rearmed_rearm _ _ _).2]⟩

/-- What one step preserves, if the call of the step has a new block. -/
theorem apart_step {s s' : State} {l : Step} (h : Apart s.world)
    (hok : ∀ c, l = .call c → freshData s.world c = true) (hstep : step s l = some s') :
    Apart s'.world := by
  cases stepped_of_step hstep with
  | call => exact h.exec (hok _ rfl)
  | drainRead => exact h.setSys _
  | openHandle => exact h.setSys _
  | closeHandle => exact h.setSys _
  | clientWrite => exact h.setSys _
  | complete => exact h.setSys _
  | post => exact h.setSys _
  | wait => exact h.setSys _
  | waitFailed => exact h.setSys _
  | done => exact h
  | next => exact (h.setSys _).takeUp _
  | ret => exact h.rearm _ _

end Runs
end Iocp
end PollDancer
