/-
# The flag of a pending read

`pending_operation` is set before a read is issued, and is to say that a read is in flight
or completed and not yet taken up.  `iocp_watcher_update` returns at once when its read is
refused, and leaves the flag set: from then on no update issues a read, and a stop leaves
the block to a completion that will never come.  `not_pending_accurate`

Otherwise the flag is right (`Flagged`): `pending_accurate`.
-/
import PollDancer.Iocp.Ownership

namespace PollDancer
namespace Iocp

open Library

/-- `pending_operation` tells of an outstanding read, and what relies on it goes well. -/
structure PendingAccurate (s : IocpWorld) : Prop where
  outstanding : ∀ a x d b, s.heap a = some x → x.platformData = some d →
    s.sys.blocks d = some b → b.pendingOperation = true → Reading s.sys a d
  /-- Without an outstanding read an update for reads issues one, if the kernel takes it. -/
  retried : ∀ a x d b events env, s.heap a = some x → x.active = true →
    x.platformData = some d → s.sys.blocks d = some b → ¬Reading s.sys a d →
    events.has .read = true → s.sys.isOpen (readHandle x) = true → env.refusedRead = none →
    (pdWatcherUpdate iocpOps s a events env).2 = .ok ∧ ∃ key,
      (pdWatcherUpdate iocpOps s a events env).1.sys.port =
        s.sys.port.issue (.io key (.data d) 0)
  /-- Unregistering leaves a block only to a read that is still to be taken up. -/
  deferred : ∀ a x d b, s.heap a = some x → s.sys.blocks d = some b →
    (iocpWatcherUnregister s.sys a x).platformData = some d → Reading s.sys a d

/-- The handle, as long as it is open, is associated with the watcher. -/
def ownHandle (s : IocpWorld) (a : Addr) (h : Handle) : Bool :=
  !s.sys.isOpen h || s.sys.assoc h == some a

/-- Does the update issue a read? -/
def issues (s : IocpWorld) (a : Addr) (events : PdEvent) : Bool :=
  match s.heap a with
  | none => false
  | some x =>
    match x.platformData with
    | none => false
    | some d =>
      match s.sys.blocks d with
      | none => false
      | some b => x.active && events.has .read && !b.pendingOperation

/-- The kernel takes the read that the update issues. -/
def takesRead (s : IocpWorld) (a : Addr) (env : IocpEnv) : Bool :=
  (s.heap a).all fun x => s.sys.isOpen (readHandle x) && env.refusedRead.isNone

/-- New platform data is at a new address, a read is issued on a handle that is still
associated with its watcher, and the watcher of a packet has a callback. -/
def Step.sound (s : State) : Step → Bool
  | .call (.update a events env) =>
      freshData s.world (.update a events env) && (!issues s.world a events ||
        (s.world.heap a).all fun x => ownHandle s.world a (readHandle x))
  | .call c => freshData s.world c
  | .next =>
      match s.world.sys.port.next with
      | some (.io a _ _, _) => (s.world.heap a).all fun x => x.callback.isSome
      | _ => true
  | .ret _ =>
      match s.mode with
      | .callback (.read a _ _) => (s.world.heap a).all fun x => ownHandle s.world a (rearmHandle x)
      | _ => true
  | _ => true

/-- Besides, no read that an update issues is refused. -/
def Step.answered (s : State) (l : Step) : Bool :=
  l.sound s && match l with
    | .call (.update a events env) => !issues s.world a events || takesRead s.world a env
    | _ => true

/-- The step is sound, and its read is not refused. -/
def Step.Answered (s : State) (l : Step) : Prop := l.answered s = true

instance (s : State) (l : Step) : Decidable (Step.Answered s l) :=
  inferInstanceAs (Decidable (l.answered s = true))

/-- A set flag tells of an outstanding read, and a block that is being torn down has it
set. -/
def Flagged (s : IocpWorld) : Prop :=
  ∀ a x d b, s.heap a = some x → x.platformData = some d → s.sys.blocks d = some b →
    (b.pendingOperation = true → Reading s.sys a d) ∧
      (b.stopping = true → b.pendingOperation = true)

section

variable {s s' : State} {w w' : IocpWorld} {a d : Addr} {k k' : IocpSys}

theorem Reading.mono (h : Reading k a d) (hp : ∀ p ∈ k.port.items, p ∈ k'.port.items) :
    Reading k' a d := h.imp fun _ hm => hp _ hm

theorem Reading.issued {n : ℕ} (hp : k'.port = k.port.issue (.io a (.data d) n)) :
    Reading k' a d := ⟨n, by rw [hp]; exact Port.mem_issue.2 (Or.inl rfl)⟩

theorem issues_eq {x : PdWatcher Addr} {b : IocpWatcherData} {events : PdEvent}
    (hx : w.heap a = some x) (hact : x.active = true) (hpd : x.platformData = some d)
    (hb : w.sys.blocks d = some b) (hev : events.has .read = true)
    (hpend : b.pendingOperation = false) : issues w a events = true := by
  simp [issues, hx, hpd, hb, hact, hev, hpend]

theorem takesRead_iff {x : PdWatcher Addr} {env : IocpEnv} (hx : w.heap a = some x)
    (h : takesRead w a env = true) :
    w.sys.isOpen (readHandle x) = true ∧ env.refusedRead = none := by
  simpa [takesRead, hx] using h

/-- The key of a read on the watcher's own handle. -/
theorem getD_of_own {hd : Handle} (h : ownHandle w a hd = true) (hopen : w.sys.isOpen hd = true) :
    (w.sys.assoc hd).getD NULL = a := by
  have hassoc : w.sys.assoc hd = some a := by simpa [ownHandle, hopen] using h
  rw [hassoc, Option.getD_some]

/-- A new block is right. -/
theorem Begins.flagged {x : PdWatcher Addr} {b : IocpWatcherData} (h : Begins w w' a x d)
    (hb : w'.sys.blocks d = some b) :
    (b.pendingOperation = true → Reading w'.sys a d) ∧
      (b.stopping = true → b.pendingOperation = true) := by
  rcases h.block with ⟨-, hnew, -⟩ | ⟨-, hnew, hport⟩
  · obtain rfl := Option.some.inj (hnew.symm.trans hb)
    exact ⟨nofun, nofun⟩
  · obtain rfl := Option.some.inj (hnew.symm.trans hb)
    exact ⟨fun _ => .issued hport, nofun⟩

/-- What a call preserves. -/
theorem Flagged.exec {c : Call IocpEnv} (h : Flagged w) (hw : Apart w)
    (hfresh : freshData w c = true)
    (hread : ∀ a events env, c = .update a events env → issues w a events = true →
      takesRead w a env = true ∧
        ∀ x, w.heap a = some x → ownHandle w a (readHandle x) = true) :
    Flagged (w.exec iocpOps c).1 := by
  obtain ⟨a₀, honly, hat⟩ := callAt_exec w c
  intro a x d b hx hpd hb
  rcases eq_or_ne a a₀ with rfl | ha
  · -- the watcher of the call
    have hold : ∀ y, w.heap a = some y → y.platformData = some d → ∀ b₀, w.sys.blocks d = some b₀ →
        (b₀.pendingOperation = true → Reading (w.exec iocpOps c).1.sys a d) ∧
          (b₀.stopping = true → b₀.pendingOperation = true) :=
      fun y hy hd b₀ hb₀ => (h a y d b₀ hy hd hb₀).imp_left fun hr hp => (hr hp).mono honly.items
    cases hat with
    | kept hheap hblocks =>
        rw [hheap] at hx
        exact hold x hx hpd b ((hblocks d ⟨x, hx, hpd⟩).symm.trans hb)
    | destroyed _ hgone => exact nomatch hgone.symm.trans hx
    | unlisted _ _ _ hgone => exact nomatch hgone.symm.trans hx
    | created _ _ hbeg =>
        obtain rfl := Option.some.inj (hbeg.live.symm.trans hx)
        obtain rfl := Option.some.inj (hbeg.data.symm.trans hpd)
        exact hbeg.flagged hb
    | started _ _ _ _ hbeg =>
        obtain rfl := Option.some.inj (hbeg.live.symm.trans hx)
        obtain rfl := Option.some.inj (hbeg.data.symm.trans hpd)
        exact hbeg.flagged hb
    | unstarted _ hy _ hheap hp hblocks =>
        obtain rfl := Option.some.inj (hheap.symm.trans hx)
        rw [hblocks] at hb
        rcases hp d hpd with hyd | ⟨-, hnone⟩
        · exact hold _ hy hyd b hb
        · exact nomatch hnone.symm.trans hb
    | stoppedDangling _ hy _ _ _ hheap hblocks =>
        obtain rfl := Option.some.inj (hheap.symm.trans hx)
        exact hold _ hy hpd b (hblocks ▸ hb)
    | deferred _ hy _ hyd hb₀ hor hheap hblocks =>
        obtain rfl := Option.some.inj (hheap.symm.trans hx)
        obtain rfl := Option.some.inj (hyd.symm.trans hpd)
        rw [hblocks, Function.update_self] at hb
        obtain rfl := Option.some.inj hb
        obtain ⟨hreading, hpending⟩ := hold _ hy hyd _ hb₀
        exact ⟨hreading, fun _ => hor.elim hpending id⟩
    | freed _ _ _ _ _ _ _ hheap =>
        obtain rfl := Option.some.inj (hheap.symm.trans hx)
        exact nomatch hpd
    | updated hc hy hact hheap hupd hsys =>
        obtain rfl := Option.some.inj (hheap.symm.trans hx)
        rw [hsys] at hb hold ⊢
        cases hupd with
        | absent hnone => exact nomatch hnone.symm.trans hpd
        | dangling hyd hnone hblocks =>
            obtain rfl := Option.some.inj (hyd.symm.trans hpd)
            rw [hblocks, hnone] at hb
            exact nomatch hb
        | @noted e b₀ hyd hb₀ _ hblocks =>
            obtain rfl := Option.some.inj (hyd.symm.trans hpd)
            rw [hblocks, Function.update_self] at hb
            obtain rfl := Option.some.inj hb
            exact hold _ hy hyd b₀ hb₀
        | @issued e b₀ hyd hb₀ hev hpend hopen hblocks hport =>
            obtain rfl := Option.some.inj (hyd.symm.trans hpd)
            rw [hblocks, Function.update_self] at hb
            obtain rfl := Option.some.inj hb
            obtain ⟨-, hown⟩ := hread a _ _ hc (issues_eq hy hact hyd hb₀ hev hpend)
            rw [getD_of_own (hown _ hy) hopen] at hport
            exact ⟨fun _ => .issued hport, fun _ => rfl⟩
        | unissued hyd hb₀ hev hpend href =>
            obtain ⟨htakes, -⟩ := hread a _ _ hc (issues_eq hy hact hyd hb₀ hev hpend)
            obtain ⟨hopen, hnone⟩ := takesRead_iff hy htakes
            rcases href with href | href
            · exact nomatch href.symm.trans hopen
            · rw [hnone] at href
              exact nomatch href
  · rw [honly.heap a ha] at hx
    rw [honly.block_eq hw hfresh ha ⟨x, hx, hpd⟩] at hb
    exact (h a x d b hx hpd hb).imp_left fun hr hp => (hr hp).mono honly.items

/-- The loop turns to another packet. -/
theorem Reading.next {p : Packet} {port : Port Packet} (h : Reading k a d)
    (hp : k.port.next = some (p, port)) (hne : ∀ n, p ≠ .io a (.data d) n)
    (hport : k'.port = port) : Reading k' a d := by
  obtain ⟨n, hm⟩ := h
  refine ⟨n, hport ▸ ?_⟩
  rcases (Port.mem_of_next hp).1 hm with heq | hm
  · exact absurd heq.symm (hne n)
  · exact hm

/-- Taking up a packet preserves it: the flag of the block goes with the packet. -/
theorem Flagged.takeUp {p : Packet} {port : Port Packet} (h : Flagged w) (hw : Apart w)
    (hp : w.sys.port.next = some (p, port))
    (hcb : ∀ a o n x, p = .io a o n → w.heap a = some x → x.callback.isSome = true) :
    Flagged (takeUp (w.setSys (w.sys.setPort port)) p).1 := by
  obtain ⟨htaken, hport⟩ := takenUp_takeUp (w.setSys (w.sys.setPort port)) p
  generalize Iocp.takeUp (w.setSys (w.sys.setPort port)) p = r at htaken hport ⊢
  -- a watcher that the packet does not name
  have hother : ∀ a d x b, w.heap a = some x → x.platformData = some d →
      w.sys.blocks d = some b → (∀ n, p ≠ .io a (.data d) n) →
      (b.pendingOperation = true → Reading r.1.sys a d) ∧
        (b.stopping = true → b.pendingOperation = true) :=
    fun a d x b hx hpd hb hne => (h a x d b hx hpd hb).imp_left fun hr hpend =>
      (hr hpend).next hp hne hport
  -- it names another block, too
  have hrest : ∀ a₀ d₀ o n q, p = .io a₀ o n → Names w a₀ d₀ →
      r.1.sys.blocks = Function.update w.sys.blocks d₀ q → ∀ a x d b, a ≠ a₀ →
      w.heap a = some x → x.platformData = some d → r.1.sys.blocks d = some b →
      (b.pendingOperation = true → Reading r.1.sys a d) ∧
        (b.stopping = true → b.pendingOperation = true) := by
    intro a₀ d₀ o n q heq hn hblocks a x d b hne hx hpd hb
    have hd : d ≠ d₀ := by
      rintro rfl
      exact hne (hw.distinct a a₀ d ⟨x, hx, hpd⟩ hn)
    rw [hblocks, Function.update_of_ne hd] at hb
    refine hother a d x b hx hpd hb fun m hm => ?_
    rw [heq] at hm
    cases hm
    exact hne rfl
  intro a x d b hx hpd hb
  cases htaken with
  | ignored hheap hblocks hnone =>
      have hx' : w.heap a = some x := (congrFun hheap a).symm.trans hx
      rw [hblocks] at hb
      refine hother a d x b hx' hpd hb fun n heq => ?_
      have hnull : a ≠ NULL := hw.listed.ne_null a (by rw [hx']; rfl)
      have hsome := hcb a _ n x heq hx'
      rw [hnone a d n x b heq hnull hx' hpd hb] at hsome
      exact nomatch hsome
  | @released a₀ d₀ o n y b₀ heq _ hy _ hyd _ _ hheap hblocks =>
      rw [hheap] at hx
      rcases eq_or_ne a a₀ with rfl | hne
      · rw [Function.update_self] at hx
        obtain rfl := Option.some.inj hx
        exact nomatch hpd
      · rw [Function.update_of_ne hne] at hx
        exact hrest a₀ d₀ o n _ heq ⟨y, hy, hyd⟩ hblocks a x d b hne hx hpd hb
  | @cancelled a₀ d₀ n y b₀ heq _ hy _ hyd _ hstop _ hheap hblocks =>
      have hx' : w.heap a = some x := (congrFun hheap a).symm.trans hx
      rcases eq_or_ne a a₀ with rfl | hne
      · obtain rfl := Option.some.inj (hy.symm.trans hx')
        obtain rfl := Option.some.inj (hyd.symm.trans hpd)
        rw [hblocks, Function.update_self] at hb
        obtain rfl := Option.some.inj hb
        exact ⟨nofun, fun h => nomatch hstop.symm.trans h⟩
      · exact hrest a₀ d₀ _ n _ heq ⟨y, hy, hyd⟩ hblocks a x d b hne hx' hpd hb
  | @completed a₀ d₀ n y b₀ heq _ hy _ hyd _ hstop _ hheap hblocks =>
      have hx' : w.heap a = some x := (congrFun hheap a).symm.trans hx
      rcases eq_or_ne a a₀ with rfl | hne
      · obtain rfl := Option.some.inj (hy.symm.trans hx')
        obtain rfl := Option.some.inj (hyd.symm.trans hpd)
        rw [hblocks, Function.update_self] at hb
        obtain rfl := Option.some.inj hb
        exact ⟨nofun, fun h => nomatch hstop.symm.trans h⟩
      · exact hrest a₀ d₀ _ n _ heq ⟨y, hy, hyd⟩ hblocks a x d b hne hx' hpd hb

/-- So does the end of a callback: the flag is set with the read, or taken back. -/
theorem Flagged.rearm {f : Frame} {refused : Option WinError} (h : Flagged w) (hw : Apart w)
    (hown : ∀ a events n x, f = .read a events n → w.heap a = some x →
      ownHandle w a (rearmHandle x) = true) : Flagged (rearm w refused f).1 := by
  obtain ⟨hrearmed, hheap⟩ := rearmed_rearm w refused f
  generalize Iocp.rearm w refused f = r at hrearmed hheap ⊢
  -- of the blocks at most one is written
  have hrest : ∀ a₀ d₀ q, Names w a₀ d₀ → r.1.sys.blocks = Function.update w.sys.blocks d₀ q →
      (∀ p ∈ w.sys.port.items, p ∈ r.1.sys.port.items) →
      ∀ a x d b, a ≠ a₀ → w.heap a = some x → x.platformData = some d →
      r.1.sys.blocks d = some b → (b.pendingOperation = true → Reading r.1.sys a d) ∧
        (b.stopping = true → b.pendingOperation = true) := by
    intro a₀ d₀ q hn hblocks hitems a x d b hne hx hpd hb
    have hd : d ≠ d₀ := by
      rintro rfl
      exact hne (hw.distinct a a₀ d ⟨x, hx, hpd⟩ hn)
    rw [hblocks, Function.update_of_ne hd] at hb
    exact (h a x d b hx hpd hb).imp_left fun hr hp => (hr hp).mono hitems
  intro a x d b hx hpd hb
  rw [hheap] at hx
  cases hrearmed with
  | nothing hblocks hport =>
      rw [hblocks] at hb
      refine (h a x d b hx hpd hb).imp_left fun hr hp => (hr hp).mono fun q hq => ?_
      rwa [hport]
  | @issued a₀ d₀ events n y b₀ hf _ _ hy hyd _ hstop hopen hblocks hport =>
      rw [getD_of_own (hown a₀ events n y hf hy) hopen] at hport
      have hitems : ∀ p ∈ w.sys.port.items, p ∈ r.1.sys.port.items := by
        intro p hp
        rw [hport]
        exact Port.mem_issue.2 (Or.inr hp)
      rcases eq_or_ne a a₀ with rfl | hne
      · obtain rfl := Option.some.inj (hy.symm.trans hx)
        obtain rfl := Option.some.inj (hyd.symm.trans hpd)
        rw [hblocks, Function.update_self] at hb
        obtain rfl := Option.some.inj hb
        exact ⟨fun _ => .issued hport, fun _ => rfl⟩
      · exact hrest a₀ d₀ _ ⟨y, hy, hyd⟩ hblocks hitems a x d b hne hx hpd hb
  | @unissued a₀ d₀ events n y b₀ hf _ _ hy hyd _ hstop _ hblocks hport =>
      rcases eq_or_ne a a₀ with rfl | hne
      · obtain rfl := Option.some.inj (hy.symm.trans hx)
        obtain rfl := Option.some.inj (hyd.symm.trans hpd)
        rw [hblocks, Function.update_self] at hb
        obtain rfl := Option.some.inj hb
        exact ⟨nofun, fun h => nomatch hstop.symm.trans h⟩
      · exact hrest a₀ d₀ _ ⟨y, hy, hyd⟩ hblocks (fun p hp => by rwa [hport]) a x d b hne hx hpd hb

/-- The blocks are written in a way that keeps their flags. -/
theorem Flagged.of_map (h : Flagged w) (hheap : w'.heap = w.heap)
    (f : Addr → IocpWatcherData → IocpWatcherData)
    (hf : ∀ d b, (f d b).pendingOperation = b.pendingOperation ∧ (f d b).stopping = b.stopping)
    (hblocks : ∀ d, w'.sys.blocks d = (w.sys.blocks d).map (f d))
    (hreading : ∀ a d, (w.heap a).isSome → Reading w.sys a d → Reading w'.sys a d) :
    Flagged w' := by
  intro a x d b hx hpd hb
  rw [hheap] at hx
  rw [hblocks] at hb
  obtain ⟨b₀, hb₀, rfl⟩ := Option.map_eq_some_iff.1 hb
  rw [(hf d b₀).1, (hf d b₀).2]
  exact (h a x d b₀ hx hpd hb₀).imp_left fun hr hp => hreading a d (by rw [hx]; rfl) (hr hp)

/-- Nothing is written, and nothing of a watcher is taken from the port. -/
theorem Flagged.of_port (h : Flagged w) (hheap : w'.heap = w.heap)
    (hblocks : w'.sys.blocks = w.sys.blocks)
    (hitems : ∀ p ∈ w.sys.port.items, p ∈ w'.sys.port.items) : Flagged w' :=
  h.of_map hheap (fun _ b => b) (fun _ _ => ⟨rfl, rfl⟩) (fun d => by rw [hblocks, Option.map_id'])
    fun _ _ _ hr => hr.mono hitems

theorem flagged_init (h : Init s) : Flagged s.world := by
  obtain ⟨-, -, hheap, -⟩ := h
  intro a x d b hx
  exact nomatch (hheap a).symm.trans hx

theorem freshData_of_sound {l : Step} (hsound : l.sound s = true) :
    ∀ c, l = .call c → freshData s.world c = true := by
  rintro c rfl
  cases c with
  | update =>
      simp only [Step.sound, Bool.and_eq_true] at hsound
      exact hsound.1
  | create => exact hsound
  | createForHandle => exact hsound
  | stop => exact hsound
  | start => exact hsound
  | destroy => exact hsound

/-- What one step preserves. -/
theorem flagged_step {l : Step} (h : Apart s.world ∧ Flagged s.world) (hok : Step.Answered s l)
    (hstep : step s l = some s') : Apart s'.world ∧ Flagged s'.world := by
  obtain ⟨hw, hf⟩ := h
  have hsound : l.sound s = true := (Bool.and_eq_true_iff.1 hok).1
  have hfresh := freshData_of_sound hsound
  refine ⟨apart_step hw hfresh hstep, ?_⟩
  cases stepped_of_step hstep with
  | @call c =>
      refine hf.exec hw (hfresh c rfl) fun a events env hc hissues => ?_
      subst hc
      simp only [Step.Answered, Step.answered, Step.sound, hissues, Bool.not_true, Bool.false_or,
        Bool.and_eq_true, Option.all_eq_true] at hok
      exact ⟨hok.2, hok.1.2⟩
  | @drainRead a len y _ =>
      refine hf.of_map rfl (fun d b => if y.platformData = some d then drained len b else b)
        (fun d b => ?_) (drainRead_blocks s.world.sys y len) fun b d _ hr => ?_
      · split <;> exact ⟨rfl, rfl⟩
      · refine hr.mono fun p hp => ?_
        show p ∈ (iocpWatcherDrainRead s.world.sys y len).1.port.items
        rwa [drainRead_port]
  | openHandle => exact hf.of_port rfl rfl fun _ hp => hp
  | closeHandle => exact hf.of_port rfl rfl fun _ hp => hp
  | clientWrite => exact hf.of_port rfl rfl fun _ hp => Port.mem_issue.2 (Or.inr hp)
  | @complete key o n status data hp =>
      refine hf.of_map rfl (fun d b => if o = .data d then
        { b with internal := status, buffer := data ++ b.buffer.drop data.length } else b)
        (fun d b => ?_) (complete_blocks s.world.sys _ key o status data) fun a d hl hr => ?_
      · split <;> exact ⟨rfl, rfl⟩
      · exact hr.complete (hw.listed.ne_null a hl) rfl
  | post => exact hf.of_port rfl rfl fun _ hp => Port.mem_post.2 (Or.inr hp)
  | wait => exact hf.of_port rfl rfl fun _ hp => Port.mem_take.2 hp
  | waitFailed => exact hf.of_port rfl rfl fun _ hp => hp
  | done => exact hf
  | next hp =>
      refine hf.takeUp hw hp fun a o n x heq hx => ?_
      have hcb := hsound
      simp only [Step.sound, hp, heq, hx, Option.all_some] at hcb
      exact hcb
  | ret hmode =>
      refine hf.rearm hw fun a events n x heq hx => ?_
      have hown := hsound
      simp only [Step.sound, hmode, heq, hx, Option.all_some] at hown
      exact hown

/-- A right flag is all that the retries and the teardown need. -/
theorem Flagged.accurate (h : Flagged w) : PendingAccurate w where
  outstanding a x d b hx hpd hb := (h a x d b hx hpd hb).1
  retried := by
    intro a x d b events env hx hact hpd hb hno hev hopen hnone
    have hpend : b.pendingOperation = false := by
      rw [← Bool.not_eq_true]
      exact fun hp => hno ((h a x d b hx hpd hb).1 hp)
    rw [update_of_active hx hact rfl]
    have hupd : Updated w.sys { x with events } events env
        (iocpWatcherUpdate w.sys a { x with events } events env) := (updated_update (a := a)).1
    cases hupd.of_events with
    | absent h => exact nomatch h.symm.trans hpd
    | dangling h hnone' =>
        obtain rfl := Option.some.inj (h.symm.trans hpd)
        exact nomatch hnone'.symm.trans hb
    | noted h hb' hread =>
        obtain rfl := Option.some.inj (h.symm.trans hpd)
        obtain rfl := Option.some.inj (hb'.symm.trans hb)
        exact nomatch hpend.symm.trans (hread hev)
    | issued h hb' _ _ _ _ hport hcode =>
        obtain rfl := Option.some.inj (h.symm.trans hpd)
        exact ⟨hcode, _, hport⟩
    | unissued _ _ _ _ href =>
        rcases href with href | href
        · exact nomatch href.symm.trans hopen
        · rw [hnone] at href
          exact nomatch href
  deferred := by
    intro a x d b hx hb hkept
    have hunreg : Unregistered w.sys x (iocpWatcherUnregister w.sys a x) := unregistered_unregister
    cases hunreg with
    | absent _ _ hnone => exact nomatch hnone.symm.trans hkept
    | dangling _ hnone _ _ hsome =>
        obtain rfl := Option.some.inj (hsome.symm.trans hkept)
        exact nomatch hnone.symm.trans hb
    | deferred hpd hb' hor _ _ hsome =>
        obtain rfl := Option.some.inj (hsome.symm.trans hkept)
        obtain rfl := Option.some.inj (hb'.symm.trans hb)
        obtain ⟨hreading, hpending⟩ := h a x _ _ hx hpd hb
        exact hreading (hor.elim hpending id)
    | freed _ _ _ _ _ _ hnone => exact nomatch hnone.symm.trans hkept

/-- If every read that an update issues is taken by the kernel, a set flag tells of a read
that is in flight or still to be taken up. -/
theorem pending_accurate (h : iocpRuns.Reach Step.Answered s) : PendingAccurate s.world := by
  have hflagged : Apart s.world ∧ Flagged s.world :=
    h.invariant (I := fun s => Apart s.world ∧ Flagged s.world)
      (fun _ hs => ⟨apart_init hs, flagged_init hs⟩)
      fun _ _ _ hi hok hnext => flagged_step hi hok hnext
  exact hflagged.2.accurate

end

/-- The callback asks for writes only, the cancelled read is taken up, and reads are asked
for again. -/
def pauseAndResume : List Step :=
  [.openHandle 4, createReader, .call (.update 100 .write ⟨none, none, none, 0⟩),
    .complete (.io 100 (.data 200) 0) STATUS_CANCELLED [], .wait 1, .next, .next,
    .call (.update 100 .read ⟨none, none, none, 0⟩)]

theorem pauseAndResume_accurate : ∃ s, Machine.runGuarded Step.Answered step iocpLoopCreate
    pauseAndResume = some s ∧ s.world.sys.outstanding 200 = 1 ∧ PendingAccurate s.world := by
  have hrun : ∃ s, Machine.runGuarded Step.Answered step iocpLoopCreate pauseAndResume = some s ∧
      s.world.sys.outstanding 200 = 1 := ⟨_, rfl, rfl⟩
  obtain ⟨s, hrun, hone⟩ := hrun
  exact ⟨s, hrun, hone, pending_accurate (.runGuarded (.init init_iocpLoopCreate) hrun)⟩

/-- A watcher for writes asks for reads, and the kernel refuses. -/
def refusedUpdate : List Step :=
  [.openHandle 4,
    .call (.create 4 .write (some (.user 1)) 0 ⟨some 100, true, some 200, none, none, 0⟩),
    .call (.update 100 .read ⟨none, none, some ERROR_INVALID_HANDLE, 0⟩)]

/-- After a refused update the flag is set, and no read is outstanding. -/
theorem not_pending_accurate : ¬∀ s, iocpRuns.Reachable s → PendingAccurate s.world := by
  intro h
  have hrun : ∃ s x b, Machine.run step iocpLoopCreate refusedUpdate = some s ∧
      s.world.heap 100 = some x ∧ x.platformData = some 200 ∧ s.world.sys.blocks 200 = some b ∧
      b.pendingOperation = true ∧ s.world.sys.port.items = [] :=
    ⟨_, _, _, rfl, rfl, rfl, rfl, rfl, rfl⟩
  obtain ⟨s, x, b, hrun, hx, hpd, hb, hpend, hitems⟩ := hrun
  obtain ⟨n, hn⟩ := (h s (Machine.Reach.run (.init init_iocpLoopCreate) hrun)).outstanding 100 x 200
    b hx hpd hb hpend
  rw [hitems] at hn
  exact absurd hn List.not_mem_nil

end Iocp
end PollDancer
