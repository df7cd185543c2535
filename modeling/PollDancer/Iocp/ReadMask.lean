/-
# Reads that are no longer asked for

An update without `PD_EVENT_READ` cancels the read in flight, and issues none.  The loop does
not look at the mask: after a callback for `PD_EVENT_READ` it re-issues the read.  So a read
follows where the callback itself has dropped `PD_EVENT_READ`, and where a completion has
overtaken the cancellation.  And on a socket the update cancels what the client has in flight
as well.  `not_reads_masked`

If the loop re-issues no read that is not asked for, and the update finds nothing but the read
on the socket (`Action.Heeds`), there is no read any more until it is asked for again, and one
callback at most for the read that was outstanding: `reads_masked`.
-/
import PollDancer.Iocp.Cancel

namespace PollDancer
namespace Iocp

open Library

/-- The reads that have been issued for a watcher, and its callbacks with `PD_EVENT_READ`. -/
structure Reads where
  issued : ℕ
  reported : ℕ
  deriving DecidableEq, Repr

/-- Nothing has happened. -/
def Reads.none : Reads := ⟨0, 0⟩

/-- The reads outstanding on the watcher's `OVERLAPPED`. -/
def outstandingOf (w : IocpWorld) (a : Addr) : ℕ :=
  ((w.heap a).bind (·.platformData)).elim 0 w.sys.outstanding

/-- How many reads on the watcher's `OVERLAPPED` are outstanding that were not before. -/
def issuedFor (a : Addr) (w w' : IocpWorld) : ℕ :=
  ((w'.heap a).bind (·.platformData)).elim 0 fun d => w'.sys.outstanding d - w.sys.outstanding d

/-- How many callbacks of the watcher with `PD_EVENT_READ` the step begins. -/
def reported (a : Addr) (l : Step) (t : State) : ℕ :=
  match l, t.mode with
  | .next, .callback (.read b events _) => if b = a ∧ events.has .read = true then 1 else 0
  | _, _ => 0

/-- What a step does for the watcher. -/
def noteReads (a : Addr) (s : IoState) (e : Action) (g : Reads) : Reads :=
  match act s.loop e.step with
  | none => g
  | some t =>
    { issued := g.issued + issuedFor a s.loop.world t.world
      reported := g.reported + reported a e.step t }

/-- Does the action ask for reads again? -/
def Action.asksFor (a : Addr) : Action → Bool
  | .loop (.call (.update b events _)) => b == a && events.has .read
  | _ => false

/-- Does the mask of the watcher ask for reads? -/
def wantsRead (w : IocpWorld) (a : Addr) : Bool := (w.heap a).any fun x => x.events.has .read

/-- Does the loop issue a read for the watcher when the callback returns? -/
def reissues (w : IocpWorld) (refused : Option WinError) (a : Addr) (events : PdEvent)
    (bytes : ℕ) : Bool :=
  (rearmed w (.read a events bytes)).isSome && refused.isNone &&
    (w.heap a).any fun x => w.sys.isOpen (rearmHandle x)

/-- If the update cancels a read, one read at most is in flight on the watcher's `OVERLAPPED`,
and the loop's thread has nothing else in flight on its socket. -/
def soleRead (s : IoState) (a : Addr) (events : PdEvent) : Bool :=
  (s.loop.world.heap a).all fun x => (blockOf s.loop.world a).all fun r =>
    !x.active || !r.2.pendingOperation || events.has .read ||
      (s.loop.world.sys.port.inflight.countP (Packet.reads r.1) ≤ 1 &&
        (x.isHandle || (cancelHandle x).all fun h =>
          s.ops.all fun op => op.packet.reads r.1 || !(CancelRequest.ofThread h).cancels op))

/-- New platform data is at a new address, an update that cancels a read finds it alone, and
the loop re-issues a read only where the mask asks for it. -/
def Action.heeds (s : IoState) : Action → Bool
  | .loop (.call (.update a events _)) => soleRead s a events
  | .loop (.call c) => freshData s.loop.world c
  | .loop (.ret refused) =>
      match s.loop.mode with
      | .callback (.read a events bytes) =>
          !reissues s.loop.world refused a events bytes || wantsRead s.loop.world a
      | _ => true
  | _ => true

/-- What is no longer asked for is let go. -/
def Action.Heeds (s : IoState) (e : Action) : Prop := e.heeds s = true

instance (s : IoState) (e : Action) : Decidable (e.Heeds s) :=
  inferInstanceAs (Decidable (e.heeds s = true))

/-- The flag of the watcher's block is set. -/
def Pending (w : IocpWorld) (a d : Addr) : Prop :=
  ∃ x b, w.heap a = some x ∧ x.platformData = some d ∧ w.sys.blocks d = some b ∧
    b.pendingOperation = true

/-- The watcher does not ask for reads, and once it is gone it does not come back. -/
structure Unasked (a : Addr) (w : IocpWorld) : Prop where
  apart : Apart w
  gone : w.heap a = none → a ∈ w.destroyed
  mask : ∀ x, w.heap a = some x → x.events.has .read = false

/-- No read of the watcher comes in, and its flag is not set. -/
structure Calm (a : Addr) (w w' : IocpWorld) : Prop where
  pending : ∀ d, Pending w' a d → Pending w a d
  outstanding : ∀ d, Names w' a d → w'.sys.outstanding d ≤ w.sys.outstanding d

section

variable {s s' : State} {w w' : IocpWorld} {a d : Addr} {c : Call IocpEnv}

/-- A call about another watcher. -/
theorem Calm.of_ne {a₀ : Addr} (hw : Apart w) (hfresh : freshData w c = true)
    (honly : OnlyAt w w' c a₀) (hat : CallAt w w' c a₀) (ha : a ≠ a₀) : Calm a w w' := by
  have hnames : ∀ d, Names w' a d → Names w a d := by
    rintro d ⟨x, hx, hpd⟩
    exact ⟨x, (honly.heap a ha).symm.trans hx, hpd⟩
  refine ⟨?_, fun d hd => ?_⟩
  · rintro d ⟨x, b, hx, hpd, hb, hpend⟩
    have hd := hnames d ⟨x, hx, hpd⟩
    exact ⟨x, b, (honly.heap a ha).symm.trans hx, hpd,
      (honly.block_eq hw hfresh ha hd).symm.trans hb, hpend⟩
  · rcases hat.port_cases with hport | ⟨key, e, hor, hport⟩
    · exact Nat.le_of_eq (outstanding_of_port hport d)
    · have hne : e ≠ d := by
        rintro rfl
        rcases hor with hn | ⟨halloc, -⟩
        · exact ha (hw.distinct _ _ e (hnames e hd) hn)
        · exact not_names_of_fresh hw.listed hfresh halloc (hnames e hd)
      exact Nat.le_of_eq (by rw [outstanding_of_issue hport, if_neg hne, Nat.add_zero])

/-- A call about the watcher, which does not ask for reads. -/
theorem calm_own (h : Unasked a w) (hnew : ∀ b, c.callocs = some b → b ∉ w.destroyed)
    (hno : ∀ events env, c = .update a events env → events.has .read = false)
    (hat : CallAt w w' c a) :
    (∀ x, w'.heap a = some x → x.events.has .read = false) ∧ Calm a w w' := by
  have hquiet : w'.sys.port = w.sys.port → (∀ d, Pending w' a d → Pending w a d) →
      Calm a w w' := by
    exact fun hport hpending => ⟨hpending, fun d _ => Nat.le_of_eq (outstanding_of_port hport d)⟩
  have hmask : ∀ x y, w.heap a = some x → w'.heap a = some y → y.events = x.events →
      ∀ z, w'.heap a = some z → z.events.has .read = false := by
    intro x y hx hy heq z hz
    obtain rfl := Option.some.inj (hy.symm.trans hz)
    exact heq ▸ h.mask x hx
  -- the watcher begins anew, without a read
  have hbegin : ∀ x d, Begins w w' a x d → x.events.has .read = false →
      (∀ y, w'.heap a = some y → y.events.has .read = false) ∧ Calm a w w' := by
    intro x d hb hx
    have hblock : w'.sys.blocks d = some (newData x.events) ∧ w'.sys.port = w.sys.port := by
      rcases hb.block with ⟨-, hblock, hport⟩ | ⟨hread, -, -⟩
      · exact ⟨hblock, hport⟩
      · exact nomatch hx.symm.trans hread
    refine ⟨fun y hy => Option.some.inj (hb.live.symm.trans hy) ▸ hx, hquiet hblock.2 ?_⟩
    rintro e ⟨y, b, hy, hpd, hblk, hpend⟩
    obtain rfl := Option.some.inj (hb.live.symm.trans hy)
    obtain rfl := Option.some.inj (hb.data.symm.trans hpd)
    obtain rfl := Option.some.inj (hblock.1.symm.trans hblk)
    exact nomatch hpend
  cases hat with
  | kept hheap hblocks hport =>
      refine ⟨fun x hx => h.mask x (hheap ▸ hx), hquiet hport ?_⟩
      rintro d ⟨x, b, hx, hpd, hb, hpend⟩
      have hx' : w.heap a = some x := hheap.symm.trans hx
      exact ⟨x, b, hx', hpd, (hblocks d ⟨x, hx', hpd⟩).symm.trans hb, hpend⟩
  | destroyed _ hgone hport =>
      refine ⟨fun x hx => absurd (hgone.symm.trans hx) nofun, hquiet hport ?_⟩
      rintro d ⟨x, -, hx, -⟩
      exact nomatch hgone.symm.trans hx
  | unlisted _ _ hnone _ _ _ _ halloc => exact absurd (h.gone hnone) (hnew a halloc)
  | created _ hnone _ halloc => exact absurd (h.gone hnone) (hnew a halloc)
  | started _ _ hx _ hbeg =>
      have hread := h.mask _ hx
      exact hbegin _ _ hbeg hread
  | unstarted _ hy _ hheap hp hblocks hport =>
      refine ⟨hmask _ _ hy hheap rfl, hquiet hport ?_⟩
      rintro d ⟨x, b, hx, hpd, hb, hpend⟩
      obtain rfl := Option.some.inj (hheap.symm.trans hx)
      rw [hblocks] at hb
      rcases hp d hpd with hyd | ⟨-, hnone⟩
      · exact ⟨_, b, hy, hyd, hb, hpend⟩
      · exact nomatch hnone.symm.trans hb
  | stoppedDangling _ hy _ hyd hnone hheap hblocks hport =>
      refine ⟨hmask _ _ hy hheap rfl, hquiet hport ?_⟩
      rintro d ⟨x, b, hx, hpd, hb, hpend⟩
      obtain rfl := Option.some.inj (hheap.symm.trans hx)
      exact ⟨_, b, hy, hpd, hblocks ▸ hb, hpend⟩
  | deferred _ hy _ hyd hb₀ _ hheap hblocks hport =>
      refine ⟨hmask _ _ hy hheap rfl, hquiet hport ?_⟩
      rintro d ⟨x, b, hx, hpd, hb, hpend⟩
      obtain rfl := Option.some.inj (hheap.symm.trans hx)
      obtain rfl := Option.some.inj (hyd.symm.trans hpd)
      rw [hblocks, Function.update_self] at hb
      obtain rfl := Option.some.inj hb
      exact ⟨_, _, hy, hyd, hb₀, hpend⟩
  | freed _ hy _ _ _ _ _ hheap _ hport =>
      refine ⟨hmask _ _ hy hheap rfl, hquiet hport ?_⟩
      rintro d ⟨x, b, hx, hpd, -⟩
      obtain rfl := Option.some.inj (hheap.symm.trans hx)
      exact nomatch hpd
  | updated hc hy _ hheap hupd hsys =>
      have hev := hno _ _ hc
      refine ⟨fun x hx => Option.some.inj (hheap.symm.trans hx) ▸ hev, ?_⟩
      rw [hsys] at hquiet
      cases hupd with
      | absent hnone hk =>
          refine hquiet (by rw [hk]) ?_
          rintro d ⟨x, b, hx, hpd, -⟩
          obtain rfl := Option.some.inj (hheap.symm.trans hx)
          exact nomatch hnone.symm.trans hpd
      | dangling hyd hnone hblocks hport =>
          refine hquiet hport ?_
          rintro d ⟨x, b, hx, hpd, hb, -⟩
          obtain rfl := Option.some.inj (hheap.symm.trans hx)
          obtain rfl := Option.some.inj (hyd.symm.trans hpd)
          rw [hsys, hblocks, hnone] at hb
          exact nomatch hb
      | noted hyd hb₀ _ hblocks hport =>
          refine hquiet hport ?_
          rintro d ⟨x, b, hx, hpd, hb, hpend⟩
          obtain rfl := Option.some.inj (hheap.symm.trans hx)
          obtain rfl := Option.some.inj (hyd.symm.trans hpd)
          rw [hsys, hblocks, Function.update_self] at hb
          obtain rfl := Option.some.inj hb
          exact ⟨_, _, hy, hyd, hb₀, hpend⟩
      | issued _ _ hread => exact nomatch hev.symm.trans hread
      | unissued _ _ hread => exact nomatch hev.symm.trans hread

/-- Only `pd_watcher_destroy` makes a watcher go away. -/
theorem CallAt.live {x : PdWatcher Addr} (hat : CallAt w w' c a) (hx : w.heap a = some x)
    (hnone : w'.heap a = none) : c = .destroy a := by
  cases hat with
  | kept hheap => exact nomatch hx.symm.trans (hheap.symm.trans hnone)
  | destroyed hc => exact hc
  | unlisted _ _ hgone => exact nomatch hx.symm.trans hgone
  | created _ hgone => exact nomatch hx.symm.trans hgone
  | started _ _ _ _ hbeg => exact nomatch hbeg.live.symm.trans hnone
  | unstarted _ _ _ hheap => exact nomatch hheap.symm.trans hnone
  | stoppedDangling _ _ _ _ _ hheap => exact nomatch hheap.symm.trans hnone
  | deferred _ _ _ _ _ _ hheap => exact nomatch hheap.symm.trans hnone
  | freed _ _ _ _ _ _ _ hheap => exact nomatch hheap.symm.trans hnone
  | updated _ _ _ hheap => exact nomatch hheap.symm.trans hnone

/-- A watcher that a call has freed counts as destroyed. -/
theorem gone_exec (h : Unasked a w) (hnone : (w.exec iocpOps c).1.heap a = none) :
    a ∈ (w.exec iocpOps c).1.destroyed := by
  cases hx : w.heap a with
  | none =>
      rcases World.exec_destroyed iocpOps w c with hd | ⟨b, -, hd⟩
      · exact hd ▸ h.gone hx
      · exact hd ▸ List.mem_cons_of_mem b (h.gone hx)
  | some x =>
      have hc : c = .destroy a := by
        obtain ⟨a₀, honly, hat⟩ := callAt_exec w c
        rcases eq_or_ne a a₀ with rfl | ha
        · exact hat.live hx hnone
        · exact nomatch hx.symm.trans ((honly.heap a ha).symm.trans hnone)
      rw [hc, World.exec, pdWatcherDestroy, hx]
      exact List.mem_cons_self

/-- What a call preserves. -/
theorem unasked_exec (h : Unasked a w) (hfresh : freshData w c = true)
    (hnew : ∀ b, c.callocs = some b → b ∉ w.destroyed)
    (hno : ∀ events env, c = .update a events env → events.has .read = false) :
    Unasked a (w.exec iocpOps c).1 ∧ Calm a w (w.exec iocpOps c).1 := by
  obtain ⟨a₀, honly, hat⟩ := callAt_exec w c
  have happart := h.apart.exec hfresh
  rcases eq_or_ne a a₀ with rfl | ha
  · obtain ⟨hmask, hcalm⟩ := calm_own h hnew hno hat
    exact ⟨⟨happart, gone_exec h, hmask⟩, hcalm⟩
  · refine ⟨⟨happart, gone_exec h, fun x hx => ?_⟩, .of_ne h.apart hfresh honly hat ha⟩
    exact h.mask x ((honly.heap a ha).symm.trans hx)

/-- The watchers stay as they are, the flags too, and no read comes in. -/
theorem Unasked.of_map (h : Unasked a w) (hw : Apart w') (hheap : w'.heap = w.heap)
    (hd : w'.destroyed = w.destroyed) (f : Addr → IocpWatcherData → IocpWatcherData)
    (hf : ∀ d b, (f d b).pendingOperation = b.pendingOperation)
    (hblocks : ∀ d, w'.sys.blocks d = (w.sys.blocks d).map (f d))
    (hle : ∀ d, w'.sys.outstanding d ≤ w.sys.outstanding d) : Unasked a w' ∧ Calm a w w' := by
  refine ⟨⟨hw, fun hnone => hd ▸ h.gone (hheap ▸ hnone), fun x hx => h.mask x (hheap ▸ hx)⟩,
    ?_, fun d _ => hle d⟩
  rintro d ⟨x, b, hx, hpd, hb, hpend⟩
  rw [hblocks] at hb
  obtain ⟨b₀, hb₀, rfl⟩ := Option.map_eq_some_iff.1 hb
  exact ⟨x, b₀, hheap ▸ hx, hpd, hb₀, (hf d b₀).symm.trans hpend⟩

/-- Only the port changes. -/
theorem Unasked.of_port (h : Unasked a w) (hheap : w'.heap = w.heap) (hloop : w'.loop = w.loop)
    (hd : w'.destroyed = w.destroyed) (hblocks : w'.sys.blocks = w.sys.blocks)
    (hle : ∀ d, w'.sys.outstanding d ≤ w.sys.outstanding d) : Unasked a w' ∧ Calm a w w' := by
  have hw : Apart w' := h.apart.of_names ⟨hloop, fun b => by rw [hheap]⟩ fun b d hn =>
    (names_congr (congrFun hheap b)).1 hn
  exact h.of_map hw hheap hd (fun _ b => b) (fun _ _ => rfl)
    (fun d => by rw [hblocks, Option.map_id']) hle

/-- The blocks that change have no flag set after it, and the watchers keep their masks. -/
theorem Unasked.of_cleared (h : Unasked a w) (hw : Apart w') (hd : w'.destroyed = w.destroyed)
    (hlive : (w'.heap a).isSome = (w.heap a).isSome)
    (hheap : ∀ x', w'.heap a = some x' → ∃ x, w.heap a = some x ∧ x'.events = x.events ∧
      ∀ d, x'.platformData = some d → x.platformData = some d)
    (hblocks : ∀ d b, w'.sys.blocks d = some b → b.pendingOperation = true →
      w.sys.blocks d = some b)
    (hle : ∀ d, w'.sys.outstanding d ≤ w.sys.outstanding d) : Unasked a w' ∧ Calm a w w' := by
  refine ⟨⟨hw, fun hnone => ?_, fun x' hx' => ?_⟩, ?_, fun d _ => hle d⟩
  · rw [hnone] at hlive
    exact hd ▸ h.gone (Option.not_isSome_iff_eq_none.1 (by rw [← hlive]; exact nofun))
  · obtain ⟨x, hx, heq, -⟩ := hheap x' hx'
    exact heq ▸ h.mask x hx
  · rintro d ⟨x', b, hx', hpd, hb, hpend⟩
    obtain ⟨x, hx, -, hnamed⟩ := hheap x' hx'
    exact ⟨x, b, hx, hnamed d hpd, hblocks d b hb hpend, hpend⟩

/-- A block is written without the flag, or freed. -/
theorem pending_of_update {k k' : IocpSys} {d₀ : Addr} {q : Option IocpWatcherData}
    (hq : ∀ b, q = some b → b.pendingOperation = false)
    (hblocks : k'.blocks = Function.update k.blocks d₀ q) (d : Addr) (b : IocpWatcherData)
    (hb : k'.blocks d = some b) (hpend : b.pendingOperation = true) : k.blocks d = some b := by
  rw [hblocks] at hb
  rcases eq_or_ne d d₀ with rfl | hne
  · rw [Function.update_self] at hb
    exact nomatch (hq b hb).symm.trans hpend
  · rwa [Function.update_of_ne hne] at hb

/-- The loop takes up a packet. -/
theorem unasked_takeUp {p : Packet} {port : Port Packet} (h : Unasked a w)
    (hp : w.sys.port.next = some (p, port)) :
    Unasked a (takeUp (w.setSys (w.sys.setPort port)) p).1 ∧
      Calm a w (takeUp (w.setSys (w.sys.setPort port)) p).1 := by
  have happart : Apart (takeUp (w.setSys (w.sys.setPort port)) p).1 := (h.apart.setSys _).takeUp p
  have hto := takesUp_takeUp (w.setSys (w.sys.setPort port)) p
  obtain ⟨htaken, hport⟩ := takenUp_takeUp (w.setSys (w.sys.setPort port)) p
  generalize takeUp (w.setSys (w.sys.setPort port)) p = r at happart hto htaken hport ⊢
  have hle : ∀ d, r.1.sys.outstanding d ≤ w.sys.outstanding d := by
    intro d
    rw [outstanding_of_next hp hport]
    exact Nat.le_add_right ..
  have hkept : r.1.heap = w.heap → ∀ x', r.1.heap a = some x' → ∃ x, w.heap a = some x ∧
      x'.events = x.events ∧ ∀ d, x'.platformData = some d → x.platformData = some d :=
    fun heq x' hx' => ⟨x', heq ▸ hx', rfl, fun _ hpd => hpd⟩
  have hcleared : ∀ {d₀ : Addr} {q : Option IocpWatcherData},
      (∀ b, q = some b → b.pendingOperation = false) →
      r.1.sys.blocks = Function.update w.sys.blocks d₀ q → ∀ d b, r.1.sys.blocks d = some b →
      b.pendingOperation = true → w.sys.blocks d = some b :=
    fun hq hblocks => pending_of_update hq hblocks
  cases htaken with
  | ignored hheap hblocks =>
      exact h.of_cleared happart hto.destroyed_eq (hto.live_eq a) (hkept hheap)
        (fun d b hb _ => (congrFun hblocks d).symm.trans hb) hle
  | @released a₀ d₀ o n x b _ _ hx _ _ _ _ hheap hblocks =>
      have hnone : ∀ b : IocpWatcherData, none = some b → b.pendingOperation = false := nofun
      refine h.of_cleared happart hto.destroyed_eq (hto.live_eq a) (fun x' hx' => ?_)
        (hcleared hnone hblocks) hle
      rw [hheap] at hx'
      rcases eq_or_ne a a₀ with rfl | hne
      · rw [Function.update_self] at hx'
        obtain rfl := Option.some.inj hx'
        exact ⟨x, hx, rfl, nofun⟩
      · rw [Function.update_of_ne hne] at hx'
        exact ⟨x', hx', rfl, fun _ hpd => hpd⟩
  | cancelled _ _ _ _ _ _ _ _ hheap hblocks =>
      refine h.of_cleared happart hto.destroyed_eq (hto.live_eq a) (hkept hheap)
        (hcleared (fun b hb => ?_) hblocks) hle
      obtain rfl := Option.some.inj hb
      rfl
  | completed _ _ _ _ _ _ _ _ hheap hblocks =>
      refine h.of_cleared happart hto.destroyed_eq (hto.live_eq a) (hkept hheap)
        (hcleared (fun b hb => ?_) hblocks) hle
      obtain rfl := Option.some.inj hb
      rfl

/-- A read that the kernel refuses does not come in. -/
theorem rearm_port_of_refused (w : IocpWorld) (e : WinError) (f : Frame) :
    (rearm w (some e) f).1.sys.port = w.sys.port := by
  cases f with
  | timer => rfl
  | write => rfl
  | read a events n =>
      unfold rearm
      dsimp only
      split
      · rfl
      · split
        · rfl
        · split_ifs
          · split
            · rfl
            · split_ifs
              · rfl
              · split
                · exact IocpSys.touch_port
                · rename_i hissue
                  unfold IocpSys.issueRead at hissue
                  split_ifs at hissue
          · rfl

/-- The callback returns. -/
theorem unasked_rearm {f : Frame} {refused : Option WinError} (h : Unasked a w)
    (hno : ∀ events n, f = .read a events n → reissues w refused a events n = false) :
    Unasked a (rearm w refused f).1 ∧ Calm a w (rearm w refused f).1 := by
  have happart : Apart (rearm w refused f).1 := h.apart.rearm refused f
  have hre := rearms_rearm w refused f
  have hrefused : refused.isSome = true → (rearm w refused f).1.sys.port = w.sys.port := by
    intro hsome
    obtain ⟨e, rfl⟩ := Option.isSome_iff_exists.1 hsome
    exact rearm_port_of_refused w e f
  obtain ⟨hrearmed, hheap⟩ := rearmed_rearm w refused f
  generalize rearm w refused f = r at happart hre hrefused hrearmed hheap ⊢
  have hlive : (r.1.heap a).isSome = (w.heap a).isSome := by rw [hheap]
  have hkept : ∀ x', r.1.heap a = some x' → ∃ x, w.heap a = some x ∧
      x'.events = x.events ∧ ∀ d, x'.platformData = some d → x.platformData = some d :=
    fun x' hx' => ⟨x', hheap ▸ hx', rfl, fun _ hpd => hpd⟩
  have hle : r.1.sys.port = w.sys.port → ∀ d, r.1.sys.outstanding d ≤ w.sys.outstanding d := by
    exact fun hport d => Nat.le_of_eq (outstanding_of_port hport d)
  cases hrearmed with
  | nothing hblocks hport =>
      exact h.of_cleared happart hre.destroyed_eq hlive hkept
        (fun d b hb _ => (congrFun hblocks d).symm.trans hb) (hle hport)
  | @issued a₀ d₀ events n x b hf hev hn hx hpd hb hgo hopen hblocks hport =>
      have hnone : refused = none := by
        cases refused with
        | none => rfl
        | some e =>
            have hlen := congrArg (fun q => q.inflight.length) ((hrefused rfl).symm.trans hport)
            simp [Port.issue] at hlen
      -- it is not a read of the watcher
      have ha : a ≠ a₀ := by
        rintro rfl
        have hre : reissues w refused a events n = true := by
          simp [reissues, rearmed, hx, hpd, hb, hev, hn, hgo, hopen, hnone]
        exact absurd ((hno events n hf).symm.trans hre) Bool.false_ne_true
      have hne : ∀ d, Names r.1 a d → d₀ ≠ d := by
        rintro d ⟨y, hy, hyd⟩ rfl
        exact ha (h.apart.distinct a a₀ d₀ ⟨y, hheap ▸ hy, hyd⟩ ⟨x, hx, hpd⟩)
      refine ⟨⟨happart, fun hgone => hre.destroyed_eq ▸ h.gone (hheap ▸ hgone),
        fun y hy => h.mask y (hheap ▸ hy)⟩, ?_, fun d hd => ?_⟩
      · rintro d ⟨y, b', hy, hyd, hb', hpend⟩
        rw [hblocks, Function.update_of_ne (hne d ⟨y, hy, hyd⟩).symm] at hb'
        exact ⟨y, b', hheap ▸ hy, hyd, hb', hpend⟩
      · exact Nat.le_of_eq (by rw [outstanding_of_issue hport, if_neg (hne d hd), Nat.add_zero])
  | unissued _ _ _ _ _ _ _ _ hblocks hport =>
      refine h.of_cleared happart hre.destroyed_eq hlive hkept
        (pending_of_update (fun b hb => ?_) hblocks) (hle hport)
      obtain rfl := Option.some.inj hb
      rfl

/-- No step lets a read of the watcher come in. -/
theorem unasked_step {l : Step} (h : Unasked a s.world) (hstep : step s l = some s')
    (hfresh : ∀ c, l = .call c → freshData s.world c = true)
    (hno : ∀ events env, l = .call (.update a events env) → events.has .read = false)
    (hret : ∀ refused events n, l = .ret refused → s.mode = .callback (.read a events n) →
      reissues s.world refused a events n = false) :
    Unasked a s'.world ∧ Calm a s.world s'.world := by
  have hself : ∀ d, s.world.sys.outstanding d ≤ s.world.sys.outstanding d :=
    fun _ => Nat.le_refl _
  cases stepped_of_step hstep with
  | @call c _ hnew =>
      refine unasked_exec h (hfresh c rfl) (fun b hb => ?_) fun events env hc => hno events env
        (congrArg Step.call hc)
      simpa [freshFor, hb] using hnew
  | @drainRead b len y _ =>
      refine h.of_map (h.apart.setSys _) rfl rfl
        (fun d b => if y.platformData = some d then drained len b else b) (fun d b => ?_)
        (drainRead_blocks s.world.sys y len) fun d => ?_
      · split <;> rfl
      · show (iocpWatcherDrainRead s.world.sys y len).1.outstanding d ≤ _
        rw [IocpSys.outstanding, drainRead_port]
        exact Nat.le_refl _
  | openHandle => exact h.of_port rfl rfl rfl rfl hself
  | closeHandle => exact h.of_port rfl rfl rfl rfl hself
  | clientWrite =>
      refine h.of_port rfl rfl rfl rfl fun d => ?_
      exact Nat.le_of_eq (Port.count_issue.trans rfl)
  | @complete key o n status data hp =>
      refine h.of_map (h.apart.setSys _) rfl rfl (fun d b => if o = .data d then
        { b with internal := status, buffer := data ++ b.buffer.drop data.length } else b)
        (fun d b => ?_) (complete_blocks s.world.sys _ key o status data) fun d => ?_
      · split <;> rfl
      · exact outstanding_complete_le hp d
  | post hp => exact h.of_port rfl rfl rfl rfl fun d => Nat.le_of_eq (count_post_signal hp)
  | wait => exact h.of_port rfl rfl rfl rfl fun d => Nat.le_of_eq Port.count_take
  | waitFailed => exact h.of_port rfl rfl rfl rfl hself
  | done => exact h.of_port rfl rfl rfl rfl hself
  | next hp => exact unasked_takeUp h hp
  | ret hmode =>
      exact unasked_rearm h fun events n hf => hret _ events n rfl (hf ▸ hmode)

/-- A callback for `PD_EVENT_READ` begins with a read that was outstanding and the flag set, and
the flag is not set any more. -/
theorem reports_step {l : Step} (hstep : step s l = some s') (hr : reported a l s' ≠ 0) :
    reported a l s' = 1 ∧ (∃ d, Pending s.world a d ∧ 0 < s.world.sys.outstanding d) ∧
      ∀ d, ¬Pending s'.world a d := by
  have hnext : l = .next := by
    cases l <;> first | rfl | exact absurd rfl hr
  subst hnext
  cases stepped_of_step hstep with
  | done => exact absurd rfl hr
  | @next p port hp =>
      obtain ⟨htaken, hport⟩ := takenUp_takeUp (s.world.setSys (s.world.sys.setPort port)) p
      generalize takeUp (s.world.setSys (s.world.sys.setPort port)) p = r at htaken hport hr ⊢
      have hnone : (∀ a events n, r.2 ≠ .callback (.read a events n)) →
          reported a .next ⟨r.1, r.2⟩ = 0 := by
        intro hmode
        unfold reported
        split
        · rename_i heq
          exact absurd heq (hmode _ _ _)
        · rfl
      cases htaken with
      | ignored _ _ _ hmode => exact absurd (hnone hmode) hr
      | released _ _ _ _ _ _ _ _ _ hmode => exact absurd (hnone (by simp [hmode])) hr
      | cancelled _ _ _ _ _ _ _ _ _ _ hmode => exact absurd (hnone (by simp [hmode])) hr
      | @completed a₀ d n x b heq _ hx _ hpd hb _ _ hheap hblocks hmode =>
          have hrep : reported a .next ⟨r.1, r.2⟩ =
              if a₀ = a ∧ (readEvents b n).has .read = true then 1 else 0 := by
            simp only [reported, hmode]
          rw [hrep] at hr ⊢
          rw [ite_ne_right_iff] at hr
          obtain ⟨⟨rfl, hread⟩, -⟩ := hr
          rw [if_pos ⟨rfl, hread⟩]
          have hpend : b.pendingOperation = true := by
            by_contra hno
            rw [readEvents, if_neg hno] at hread
            exact absurd hread (by decide)
          refine ⟨rfl, ⟨d, ⟨x, b, hx, hpd, hb, hpend⟩, ?_⟩, ?_⟩
          · rw [IocpSys.outstanding, Port.count_of_next hp, if_pos (by simp [heq, Packet.reads])]
            exact Nat.succ_pos _
          · rintro e ⟨y, b', hy, hyd, hb', hpend'⟩
            rw [hheap] at hy
            obtain rfl := Option.some.inj (hx.symm.trans hy)
            obtain rfl := Option.some.inj (hpd.symm.trans hyd)
            rw [hblocks, Function.update_self] at hb'
            obtain rfl := Option.some.inj hb'
            exact absurd hpend' Bool.false_ne_true

/-- After the update of a watcher of which `before` reads were outstanding. -/
structure LetGo (a : Addr) (before : ℕ) (r : IoState) (g : Reads) : Prop where
  unasked : Unasked a r.loop.world
  issued : g.issued = 0
  reported : g.reported ≤ min 1 before
  pending : ∀ d, Pending r.loop.world a d →
    g.reported = 0 ∧ r.loop.world.sys.outstanding d ≤ before

/-- New platform data is at a new address. -/
theorem fresh_of_heeds {r : IoState} {e : Action} (hok : e.Heeds r) :
    ∀ c, e.step = .call c → freshData r.loop.world c = true := by
  rintro c hc
  cases e with
  | clientWrite => exact nomatch hc
  | complete => exact nomatch hc
  | loop l =>
      subst hc
      cases c with
      | update => rfl
      | create => exact hok
      | createForHandle => exact hok
      | stop => exact hok
      | start => exact hok
      | destroy => exact hok

/-- The loop does not re-issue a read that is not asked for. -/
theorem reissues_of_heeds {r : IoState} {e : Action} (hok : e.Heeds r)
    (hw : Unasked a r.loop.world) (refused : Option WinError) (events : PdEvent) (n : ℕ)
    (hret : e.step = .ret refused) (hmode : r.loop.mode = .callback (.read a events n)) :
    reissues r.loop.world refused a events n = false := by
  cases e with
  | clientWrite => exact nomatch hret
  | complete => exact nomatch hret
  | loop l =>
      subst hret
      have hno : wantsRead r.loop.world a = false := by
        cases hx : r.loop.world.heap a with
        | none => rw [wantsRead, hx, Option.any_none]
        | some x => rw [wantsRead, hx, Option.any_some, hw.mask x hx]
      rw [Action.Heeds, Action.heeds, hmode] at hok
      simpa [hno] using hok

/-- What one step preserves. -/
theorem letGo_step {before : ℕ} {r r' : IoState} {e : Action} {g : Reads}
    (h : LetGo a before r g) (hok : e.Heeds r) (hno : e.asksFor a = false)
    (hstep : ioStep r e = some r') : LetGo a before r' (noteReads a r e g) := by
  obtain ⟨-, hloop, -⟩ := loop_of_ioStep hstep
  have hmask : ∀ events env, e.step = .call (.update a events env) →
      events.has .read = false := by
    intro events env he
    cases e with
    | clientWrite => exact nomatch he
    | complete => exact nomatch he
    | loop l =>
        subst he
        simpa [Action.asksFor] using hno
  obtain ⟨hunasked, hcalm⟩ := unasked_step h.unasked hloop (fresh_of_heeds hok)
    hmask (reissues_of_heeds hok h.unasked)
  have hissued : issuedFor a r.loop.world r'.loop.world = 0 := by
    unfold issuedFor
    cases hd : (r'.loop.world.heap a).bind (·.platformData) with
    | none => rfl
    | some d =>
        obtain ⟨x, hx, hpd⟩ := Option.bind_eq_some_iff.1 hd
        exact Nat.sub_eq_zero_of_le (hcalm.outstanding d ⟨x, hx, hpd⟩)
  have hnote : noteReads a r e g =
      ⟨g.issued, g.reported + reported a e.step r'.loop⟩ := by
    simp only [noteReads, act_of_step hloop, hissued, Nat.add_zero]
  rw [hnote]
  by_cases hrep : reported a e.step r'.loop = 0
  · rw [hrep]
    refine ⟨hunasked, h.issued, h.reported, fun d hd => ?_⟩
    obtain ⟨hzero, hle⟩ := h.pending d (hcalm.pending d hd)
    obtain ⟨x, -, hx, hpd, -⟩ := hd
    exact ⟨hzero, Nat.le_trans (hcalm.outstanding d ⟨x, hx, hpd⟩) hle⟩
  · -- the read that was outstanding
    obtain ⟨hone, ⟨d, hd, hpos⟩, hclear⟩ := reports_step hloop hrep
    obtain ⟨hzero, hle⟩ := h.pending d hd
    refine ⟨hunasked, h.issued, ?_, fun e he => absurd he (hclear e)⟩
    dsimp only
    omega

/-- The update itself. -/
theorem letGo_update {x : PdWatcher Addr} {events : PdEvent} (env : IocpEnv) (hw : Apart w)
    (hx : w.heap a = some x) (hact : x.active = true) (hev : events.has .read = false) :
    Unasked a (pdWatcherUpdate iocpOps w a events env).1 ∧
      ∀ d, Pending (pdWatcherUpdate iocpOps w a events env).1 a d →
        (pdWatcherUpdate iocpOps w a events env).1.sys.outstanding d ≤ outstandingOf w a := by
  have happart : Apart (pdWatcherUpdate iocpOps w a events env).1 :=
    hw.exec (c := .update a events env) rfl
  have hupd : Updated w.sys { x with events } events env
      (iocpWatcherUpdate w.sys a { x with events } events env) := (updated_update (a := a)).1
  rw [update_eq hx hact] at happart ⊢
  generalize iocpWatcherUpdate w.sys a { x with events } events env = r at happart hupd ⊢
  have hheap : ((w.setWatcher a { x with events }).setSys r.sys).heap a =
      some { x with events } := World.setWatcher_heap_self ..
  have hport : r.sys.port = w.sys.port := by
    cases hupd with
    | absent _ hk => rw [hk]
    | dangling _ _ _ hport => exact hport
    | noted _ _ _ _ hport => exact hport
    | issued _ _ hread => exact nomatch hev.symm.trans hread
    | unissued _ _ hread => exact nomatch hev.symm.trans hread
  refine ⟨⟨happart, fun hnone => (nomatch hheap.symm.trans hnone), fun y hy => ?_⟩, ?_⟩
  · exact Option.some.inj (hheap.symm.trans hy) ▸ hev
  · rintro d ⟨y, -, hy, hpd, -⟩
    obtain rfl := Option.some.inj (hheap.symm.trans hy)
    have hof : outstandingOf w a = w.sys.outstanding d := by
      rw [outstandingOf, hx, Option.bind_some, show x.platformData = some d from hpd]
      rfl
    rw [hof]
    exact Nat.le_of_eq (congrArg (Port.count _) hport)

/-- What the update cancels is the watcher's read. -/
theorem cancelled_read {r : IoState} {x : PdWatcher Addr} {events : PdEvent}
    (hperm : (r.ops.map Operation.packet).Perm r.loop.world.sys.port.inflight)
    (hx : r.loop.world.heap a = some x) (hact : x.active = true)
    (hsole : soleRead r a events = true) :
    (cancelledBy r.loop.world r.ops a events).length ≤ 1 ∧
      ∀ op ∈ cancelledBy r.loop.world r.ops a events,
        ∃ d, Names r.loop.world a d ∧ op.packet.reads d = true := by
  cases hblock : blockOf r.loop.world a with
  | none =>
      rw [cancelledBy_of_none hblock]
      exact ⟨Nat.zero_le 1, fun op hop => (nomatch hop)⟩
  | some p =>
      obtain ⟨d, b⟩ := p
      have hname : Names r.loop.world a d := by
        simp only [blockOf, Option.bind_eq_bind, Option.bind_eq_some_iff] at hblock
        obtain ⟨y, hy, e, he, c, -, heq⟩ := hblock
        obtain ⟨rfl, -⟩ := Prod.mk.inj (Option.some.inj heq)
        exact ⟨y, hy, he⟩
      -- something is cancelled only if the flag is set, and then the guard has been checked
      have hcancel : ∀ op ∈ cancelledBy r.loop.world r.ops a events,
          op.packet.reads d = true ∧
            r.loop.world.sys.port.inflight.countP (Packet.reads d) ≤ 1 := by
        intro op hop
        obtain ⟨q, hq, hmem, hcancels⟩ := (mem_cancelledBy hx hblock).1 hop
        obtain ⟨hpend, hev, c, hc, hor⟩ := updateCancel_eq_some hq
        have hguard : r.loop.world.sys.port.inflight.countP (Packet.reads d) ≤ 1 ∧
            (x.isHandle = true ∨ ∀ op ∈ r.ops, op.packet.reads d = true ∨
              (CancelRequest.ofThread c).cancels op = false) := by
          simpa [soleRead, hx, hblock, hact, hpend, hev, hc] using hsole
        refine ⟨?_, hguard.1⟩
        rcases hor with ⟨-, rfl⟩ | ⟨hsocket, rfl⟩
        · exact (Bool.and_eq_true_iff.1 hcancels).2
        · rcases hguard.2 with hhandle | hall
          · exact absurd (hsocket.symm.trans hhandle) Bool.false_ne_true
          · rcases hall op hmem with hread | hno
            · exact hread
            · exact absurd (hno.symm.trans hcancels) Bool.false_ne_true
      refine ⟨?_, fun op hop => ⟨d, hname, (hcancel op hop).1⟩⟩
      cases hlist : cancelledBy r.loop.world r.ops a events with
      | nil => exact Nat.zero_le 1
      | cons op rest =>
          rw [← hlist]
          exact Nat.le_trans (cancelledBy_length_le hperm fun op hop => (hcancel op hop).1)
            (hcancel op (hlist ▸ List.mem_cons_self)).2

theorem apart_of_reach {r : IoState} (h : ioRuns.Reach Action.Heeds r) :
    Apart r.loop.world := by
  refine h.invariant (I := fun r => Apart r.loop.world) (fun s (hs : s.Init) => apart_init hs.1) ?_
  intro s e s' hs hok hnext
  obtain ⟨-, hloop, -⟩ := loop_of_ioStep hnext
  exact apart_step hs (fresh_of_heeds hok) hloop

/-- **Reads that are no longer asked for are let go.**  In a run in which the loop re-issues a
read only where the mask asks for it, an update of a watcher without `PD_EVENT_READ` returns.
It has cancelled nothing but the watcher's read.  Until reads are asked for again, none is
issued, and no callback has `PD_EVENT_READ` but one at most, if a read was outstanding. -/
theorem reads_masked {r r₁ r' : IoState} {events : PdEvent} {env : IocpEnv} {g : Reads}
    (h : ioRuns.Reach Action.Heeds r) (hev : events.has .read = false)
    (hok : Action.Heeds r (.loop (.call (.update a events env))))
    (hstep : ioStep r (.loop (.call (.update a events env))) = some r₁)
    (hcode : (pdWatcherUpdate iocpOps r.loop.world a events env).2 = .ok)
    (hr : (Machine.recorded (fun s => s = r₁) ioStep .none (noteReads a)).Reach
      (fun s e => e.Heeds s.1 ∧ e.asksFor a = false) (r', g)) :
    (g.issued = 0 ∧ g.reported ≤ min 1 (outstandingOf r.loop.world a)) ∧
      (cancelledBy r.loop.world r.ops a events).length ≤ 1 ∧
        ∀ op ∈ cancelledBy r.loop.world r.ops a events,
          ∃ d, Names r.loop.world a d ∧ op.packet.reads d = true := by
  obtain ⟨x, hx, hact⟩ : ∃ x, r.loop.world.heap a = some x ∧ x.active = true := by
    unfold pdWatcherUpdate at hcode
    cases hx : r.loop.world.heap a with
    | none =>
        rw [hx] at hcode
        exact nomatch hcode
    | some x =>
        refine ⟨x, rfl, ?_⟩
        by_contra hno
        rw [hx] at hcode
        simp [hno] at hcode
  refine ⟨?_, cancelled_read (operations_perm h) hx hact hok⟩
  obtain ⟨-, hloop, -⟩ := loop_of_ioStep hstep
  have hworld : r₁.loop.world = (pdWatcherUpdate iocpOps r.loop.world a events env).1 := by
    obtain ⟨-, hact'⟩ := Option.ite_none_right_eq_some.1 (act_of_step hloop)
    rw [← Option.some.inj hact']
    rfl
  have hstart : LetGo a (outstandingOf r.loop.world a) r₁ .none := by
    obtain ⟨hunasked, hpending⟩ := letGo_update env (apart_of_reach h) hx hact hev
    rw [← hworld] at hunasked hpending
    exact ⟨hunasked, rfl, Nat.zero_le _, fun d hd => ⟨rfl, hpending d hd⟩⟩
  have hlet : LetGo a (outstandingOf r.loop.world a) r' g := by
    refine hr.recorded_invariant (I := LetGo a (outstandingOf r.loop.world a)) ?_ ?_
    · rintro s rfl
      exact hstart
    · exact fun s g e s' hi hok hnext => letGo_step hi hok.1 hok.2 hnext
  exact ⟨hlet.issued, hlet.reported⟩

end

/-- A watcher for reads on socket 4. -/
def reading : List Action := [.loop (.openHandle 4), .loop createReader]

/-- Reads are no longer asked for. -/
def readless : Action := .loop (.call (.update 100 .write ⟨none, none, none, 0⟩))

/-- The read on socket 4. -/
def onlyRead : Operation := ⟨some 4, true, .io 100 (.data 200) 0⟩

/-- The read is not cancelled in time, and the callback stops the watcher. -/
def readWins : List Action :=
  [.complete onlyRead STATUS_SUCCESS [7], .loop (.wait 1), .loop .next, .loop (.call (.stop 100)),
    .loop (.ret none), .loop .next]

theorem readWins_masked : ∃ (r r₁ r' : IoState) (g : Reads),
    Machine.runGuarded Action.Heeds ioStep ⟨iocpLoopCreate, []⟩ reading = some r ∧
    ioStep r readless = some r₁ ∧
    Machine.runGuarded (fun s e => e.Heeds s.1 ∧ e.asksFor 100 = false)
      (Machine.recordStep ioStep (noteReads 100)) (r₁, .none) readWins = some (r', g) ∧
    g = ⟨0, 1⟩ ∧ cancelledBy r.loop.world r.ops 100 .write = [onlyRead] ∧
    g.reported ≤ min 1 (outstandingOf r.loop.world 100) ∧
    (cancelledBy r.loop.world r.ops 100 .write).length ≤ 1 := by
  obtain ⟨r, r₁, hrun, hok, hstep, hcode, hby⟩ : ∃ (r r₁ : IoState),
      Machine.runGuarded Action.Heeds ioStep ⟨iocpLoopCreate, []⟩ reading = some r ∧
      Action.Heeds r readless ∧ ioStep r readless = some r₁ ∧
      (pdWatcherUpdate iocpOps r.loop.world 100 .write ⟨none, none, none, 0⟩).2 = .ok ∧
      cancelledBy r.loop.world r.ops 100 .write = [onlyRead] :=
    ⟨_, _, rfl, rfl, rfl, rfl, rfl⟩
  obtain ⟨r', g, hrun', hg⟩ : ∃ r' g,
      Machine.runGuarded (fun s e => e.Heeds s.1 ∧ e.asksFor 100 = false)
        (Machine.recordStep ioStep (noteReads 100)) (r₁, .none) readWins = some (r', g) ∧
      g = ⟨0, 1⟩ := by
    obtain rfl := Option.some.inj hrun
    obtain rfl := Option.some.inj hstep
    exact ⟨_, _, rfl, rfl⟩
  obtain ⟨⟨-, hreported⟩, hlength, -⟩ :=
    reads_masked (.runGuarded (.init ⟨init_iocpLoopCreate, rfl⟩) hrun) rfl hok hstep hcode
      (.runGuarded (.init ⟨rfl, rfl⟩) hrun')
  exact ⟨r, r₁, r', g, hrun, hstep, hrun', hg, hby, hreported, hlength⟩

/-- A byte arrives, the callback drops `PD_EVENT_READ`, and returns. -/
def droppedInCallback : List Action :=
  [.complete onlyRead STATUS_SUCCESS [7], .loop (.wait 1), .loop .next]

/-- The loop re-issues the read after a callback that has dropped `PD_EVENT_READ`. -/
theorem not_reads_masked : ¬∀ (a : Addr) (r r₁ r' : IoState) (events : PdEvent) (env : IocpEnv)
    (g : Reads), ioRuns.Reachable r → events.has .read = false →
    ioStep r (.loop (.call (.update a events env))) = some r₁ →
    (pdWatcherUpdate iocpOps r.loop.world a events env).2 = .ok →
    (Machine.recorded (fun s => s = r₁) ioStep .none (noteReads a)).Reach
      (fun _ e => e.asksFor a = false) (r', g) →
    (g.issued = 0 ∧ g.reported ≤ min 1 (outstandingOf r.loop.world a)) ∧
      (cancelledBy r.loop.world r.ops a events).length ≤ 1 ∧
        ∀ op ∈ cancelledBy r.loop.world r.ops a events,
          ∃ d, Names r.loop.world a d ∧ op.packet.reads d = true := by
  intro h
  obtain ⟨r, r₁, hrun, hstep, hcode⟩ : ∃ (r r₁ : IoState),
      Machine.run ioStep ⟨iocpLoopCreate, []⟩ (reading ++ droppedInCallback) = some r ∧
      ioStep r readless = some r₁ ∧
      (pdWatcherUpdate iocpOps r.loop.world 100 .write ⟨none, none, none, 0⟩).2 = .ok :=
    ⟨_, _, rfl, rfl, rfl⟩
  obtain ⟨r', g, hrun', hg⟩ : ∃ r' g,
      Machine.runGuarded (fun _ e => e.asksFor 100 = false)
        (Machine.recordStep ioStep (noteReads 100)) (r₁, .none) [.loop (.ret none)] =
          some (r', g) ∧ g.issued = 1 := by
    obtain rfl := Option.some.inj hrun
    obtain rfl := Option.some.inj hstep
    exact ⟨_, _, rfl, rfl⟩
  have hzero := (h 100 r r₁ r' .write _ g (.run (.init ⟨init_iocpLoopCreate, rfl⟩) hrun) rfl hstep
    hcode (.runGuarded (.init ⟨rfl, rfl⟩) hrun')).1.1
  exact nomatch hzero.symm.trans hg

end Iocp
end PollDancer
