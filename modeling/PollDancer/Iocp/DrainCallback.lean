/-
# Draining outside the callback of a read

`pd_watcher_drain_read` is documented to return 0 except inside a callback for
`PD_EVENT_READ`.  `iocp_watcher_drain_read` looks at `bytes_available` only, which a completed
read sets and only draining lowers: what such a callback has left is handed out later, while
the next read is in flight on the same buffer (`not_hands_out`).

Where the callbacks of reads drain what they are told of, no read is issued on a buffer that
is not empty, and reads do not share a buffer, the documentation is right: `hands_out`.
-/
import PollDancer.Iocp.ReadStream

namespace PollDancer
namespace Iocp

open Library

/-- Is the buffer of the watcher drained, or a read not issued on it by an update to `events`? -/
def updatesEmpty (s : IocpWorld) : Call IocpEnv → Bool
  | .update a events _ => (s.heap a).all fun x => !x.active || (blockOf s a).all fun r =>
      !events.has .read || r.2.pendingOperation || r.2.bytesAvailable == 0
  | _ => true

/-- Has the callback of a read left nothing in the buffer of its watcher? -/
def leavesEmpty (s : IocpWorld) : Frame → Bool
  | .read a _ _ => (blockOf s a).all fun r => r.2.bytesAvailable == 0
  | _ => true

/-- The callback of a read returns with a drained buffer and no read outstanding where the
loop will re-issue one; an update issues a read on a drained buffer only; and new platform
data is at an address that no read and no watcher refers to. -/
def Step.empties (s : State) : Step → Bool
  | .call c => freshData s.world c && unread s.world.sys (dataAllocFor c) && updatesEmpty s.world c
  | .ret _ =>
      match s.mode with
      | .callback f => unread s.world.sys (rearmed s.world f) && leavesEmpty s.world f
      | _ => true
  | _ => true

/-- No buffer is left undrained. -/
def Step.Empties (s : State) (l : Step) : Prop := l.empties s = true

instance (s : State) (l : Step) : Decidable (Step.Empties s l) :=
  inferInstanceAs (Decidable (l.empties s = true))

/-- The callback of the watcher for `PD_EVENT_READ` is running. -/
def InReadCallback (s : State) (a : Addr) : Prop :=
  ∃ events n, s.mode = .callback (.read a events n) ∧ events.has .read = true

/-- `pd_watcher_drain_read` hands out bytes in the callback for `PD_EVENT_READ` of its watcher
only, and while no read into the buffer is in flight. -/
def HandsOut (s : State) : Prop :=
  ∀ a x len, s.world.heap a = some x → (iocpWatcherDrainRead s.world.sys x len).2 ≠ [] →
    InReadCallback s a ∧ ∀ d, x.platformData = some d → pendingReads s.world.sys d = 0

/-- Bytes are there for a watcher in its callback only, and while no read is outstanding. -/
structure Emptied (s : State) : Prop where
  apart : Apart s.world
  single : SingleRead s.world.sys
  filled : ∀ a d b, Names s.world a d → s.world.sys.blocks d = some b → 0 < b.bytesAvailable →
    InReadCallback s a ∧ s.world.sys.outstanding d = 0

section

variable {s s' : State} {a d : Addr} {x : PdWatcher Addr} {b : IocpWatcherData}

theorem emptied_init (h : Init s) : Emptied s := by
  refine ⟨apart_init h, singleRead_init h, fun a d b hd => ?_⟩
  obtain ⟨-, -, hheap, -⟩ := h
  obtain ⟨x, hx, -⟩ := hd
  exact nomatch (hheap a).symm.trans hx

/-- The watchers stay, their buffers hold no more than they did, and no read comes in. -/
theorem Emptied.of_le (h : Emptied s) (hapart : Apart s'.world) (hsingle : SingleRead s'.world.sys)
    (hheap : s'.world.heap = s.world.heap)
    (hblocks : ∀ d b', s'.world.sys.blocks d = some b' → ∃ b, s.world.sys.blocks d = some b ∧
      b'.bytesAvailable ≤ b.bytesAvailable)
    (hle : ∀ d, s'.world.sys.outstanding d ≤ s.world.sys.outstanding d)
    (hmode : s'.mode = s.mode) : Emptied s' := by
  refine ⟨hapart, hsingle, fun a d b' hd hb' hpos => ?_⟩
  rw [names_congr (congrFun hheap a)] at hd
  obtain ⟨b, hb, hbytes⟩ := hblocks d b' hb'
  obtain ⟨hin, hout⟩ := h.filled a d b hd hb (by omega)
  refine ⟨?_, ?_⟩
  · rwa [InReadCallback, hmode]
  · have := hle d
    omega

/-- No callback of a read is running, so every buffer is drained. -/
theorem Emptied.empty (h : Emptied s) (hmode : ∀ a, ¬InReadCallback s a)
    (hd : Names s.world a d) (hb : s.world.sys.blocks d = some b) : b.bytesAvailable = 0 := by
  by_contra hpos
  exact hmode a (h.filled a d b hd hb (by omega)).1

/-- The watcher of a call has in its buffer what it had, or nothing. -/
theorem CallAt.filled {c : Call IocpEnv} {w : IocpWorld} (hat : CallAt s.world w c a)
    (hupd : updatesEmpty s.world c = true) (hd : Names w a d) (hb : w.sys.blocks d = some b)
    (hpos : 0 < b.bytesAvailable) :
    ∃ b₀, Names s.world a d ∧ s.world.sys.blocks d = some b₀ ∧
      b₀.bytesAvailable = b.bytesAvailable ∧ w.sys.port = s.world.sys.port := by
  obtain ⟨y, hy, hpd⟩ := hd
  have hnew : ∀ {z e}, Begins s.world w a z e → False := by
    intro z e hbeg
    obtain rfl := Option.some.inj (hbeg.live.symm.trans hy)
    obtain rfl := Option.some.inj (hbeg.data.symm.trans hpd)
    rcases hbeg.block with ⟨-, hblock, -⟩ | ⟨-, hblock, -⟩
    · obtain rfl := Option.some.inj (hblock.symm.trans hb)
      exact absurd hpos (Nat.lt_irrefl 0)
    · obtain rfl := Option.some.inj (hblock.symm.trans hb)
      exact absurd hpos (Nat.lt_irrefl 0)
  cases hat with
  | kept hheap hblocks hport =>
      have hd : Names s.world a d := ⟨y, hheap.symm.trans hy, hpd⟩
      exact ⟨b, hd, (hblocks d hd).symm.trans hb, rfl, hport⟩
  | destroyed _ hgone => exact nomatch hgone.symm.trans hy
  | unlisted _ _ _ hgone => exact nomatch hgone.symm.trans hy
  | created _ _ hbeg => exact (hnew hbeg).elim
  | started _ _ _ _ hbeg => exact (hnew hbeg).elim
  | unstarted _ hx _ hheap hp hblocks hport =>
      obtain rfl := Option.some.inj (hheap.symm.trans hy)
      rw [hblocks] at hb
      rcases hp d hpd with hold | ⟨-, hnone⟩
      · exact ⟨b, ⟨_, hx, hold⟩, hb, rfl, hport⟩
      · exact nomatch hnone.symm.trans hb
  | stoppedDangling _ hx _ hold hfree hheap hblocks =>
      obtain rfl := Option.some.inj (hheap.symm.trans hy)
      obtain rfl := Option.some.inj (hold.symm.trans hpd)
      rw [hblocks] at hb
      exact nomatch hfree.symm.trans hb
  | deferred _ hx _ hold hb₀ _ hheap hblocks hport =>
      obtain rfl := Option.some.inj (hheap.symm.trans hy)
      obtain rfl := Option.some.inj (hold.symm.trans hpd)
      rw [hblocks, Function.update_self] at hb
      obtain rfl := Option.some.inj hb
      exact ⟨_, ⟨_, hx, hold⟩, hb₀, rfl, hport⟩
  | freed _ _ _ _ _ _ _ hheap =>
      obtain rfl := Option.some.inj (hheap.symm.trans hy)
      exact nomatch hpd
  | @updated z events env r hc hx hact hheap hu hsys =>
      obtain rfl := Option.some.inj (hheap.symm.trans hy)
      rw [hsys] at hb ⊢
      -- the block that is written is the one the watcher names
      have hwritten : ∀ {e : Addr} {b₀ : IocpWatcherData} {c₀ : IocpWatcherData},
          z.platformData = some e → s.world.sys.blocks e = some b₀ →
          r.sys.blocks = Function.update s.world.sys.blocks e (some c₀) →
          s.world.sys.blocks d = some b₀ ∧ b = c₀ := by
        intro e b₀ c₀ he hb₀ hblocks
        obtain rfl := Option.some.inj (he.symm.trans hpd)
        rw [hblocks, Function.update_self] at hb
        exact ⟨hb₀, (Option.some.inj hb).symm⟩
      cases hu with
      | absent hnone => exact nomatch hnone.symm.trans hpd
      | dangling he hnone hblocks =>
          obtain rfl := Option.some.inj (he.symm.trans hpd)
          rw [hblocks] at hb
          exact nomatch hnone.symm.trans hb
      | noted he hb₀ _ hblocks hport =>
          obtain ⟨hold, rfl⟩ := hwritten he hb₀ hblocks
          exact ⟨_, ⟨z, hx, hpd⟩, hold, rfl, hport⟩
      | issued he hb₀ hev hpend _ hblocks =>
          obtain ⟨hold, rfl⟩ := hwritten he hb₀ hblocks
          subst hc
          have hzero : updatesEmpty s.world (.update a events env) = false := by
            simp only [updatesEmpty, hx, Option.all_some, hact, blockOf_eq hx hpd hold, hev, hpend]
            simpa using Nat.ne_of_gt hpos
          exact nomatch hzero.symm.trans hupd
      | unissued he hb₀ _ _ _ hblocks hport =>
          obtain ⟨hold, rfl⟩ := hwritten he hb₀ hblocks
          exact ⟨_, ⟨z, hx, hpd⟩, hold, rfl, hport⟩

/-- A call issues no read on the block of another watcher. -/
theorem CallAt.outstanding_eq {c : Call IocpEnv} {w : IocpWorld} {a₀ : Addr}
    (hat : CallAt s.world w c a₀) (hs : Apart s.world) (ha : a ≠ a₀) (hd : Names s.world a d)
    (hb : s.world.sys.blocks d = some b) : w.sys.outstanding d = s.world.sys.outstanding d := by
  rcases hat.port_cases with hport | ⟨key, e, hor, hport⟩
  · exact outstanding_of_port hport d
  · have hne : e ≠ d := by
      rintro rfl
      rcases hor with hn | ⟨-, hnone⟩
      · exact ha (hs.distinct _ _ _ hd hn)
      · exact nomatch hnone.symm.trans hb
    rw [outstanding_of_issue hport, if_neg hne, Nat.add_zero]

/-- What a call preserves. -/
theorem Emptied.exec {c : Call IocpEnv} (h : Emptied s) (hfresh : freshData s.world c = true)
    (hunread : unread s.world.sys (dataAllocFor c) = true)
    (hupd : updatesEmpty s.world c = true) :
    Emptied { s with world := (s.world.exec iocpOps c).1 } := by
  obtain ⟨a₀, honly, hat⟩ := callAt_exec s.world c
  refine ⟨h.apart.exec hfresh, h.single.exec hunread, fun a d b hd hb hpos => ?_⟩
  rcases eq_or_ne a a₀ with rfl | ha
  · obtain ⟨b₀, hd₀, hb₀, hbytes, hport⟩ := hat.filled hupd hd hb hpos
    obtain ⟨hin, hout⟩ := h.filled a d b₀ hd₀ hb₀ (by omega)
    exact ⟨hin, (outstanding_of_port hport d).trans hout⟩
  · have hd₀ : Names s.world a d := by
      obtain ⟨x, hx, hpd⟩ := hd
      exact ⟨x, (honly.heap a ha).symm.trans hx, hpd⟩
    have hb₀ := (honly.block_eq h.apart hfresh ha hd₀).symm.trans hb
    obtain ⟨hin, hout⟩ := h.filled a d b hd₀ hb₀ hpos
    exact ⟨hin, (hat.outstanding_eq h.apart ha hd₀ hb₀).trans hout⟩

/-- Bytes are moved in the callback of a read only, and so under no read. -/
theorem Emptied.unread_movedDown (h : Emptied s) (a : Addr) (len : ℕ) :
    unread s.world.sys (movedDown s.world a len) = true := by
  cases hmoved : movedDown s.world a len with
  | none => rfl
  | some d =>
      simp only [movedDown, Option.bind_eq_bind, Option.bind_eq_some_iff] at hmoved
      obtain ⟨x, hx, e, hpd, b, hb, hlen⟩ := hmoved
      split_ifs at hlen with hpos
      obtain rfl := Option.some.inj hlen
      have hout := (h.filled a e b ⟨x, hx, hpd⟩ hb (by omega)).2
      simp [unread, hout]

/-- The loop turns to a packet: what comes into a buffer is told of by the callback that
begins, and was the only read outstanding. -/
theorem Emptied.takeUp {p : Packet} {port : Port Packet} {r : IocpWorld × Mode} (h : Emptied s)
    (hmode : ∀ a, ¬InReadCallback s a) (hp : s.world.sys.port.next = some (p, port))
    (hr : takeUp (s.world.setSys (s.world.sys.setPort port)) p = r) (hd : Names r.1 a d)
    (hb : r.1.sys.blocks d = some b) (hpos : 0 < b.bytesAvailable) :
    InReadCallback ⟨r.1, r.2⟩ a ∧ r.1.sys.outstanding d = 0 := by
  obtain ⟨htaken, hport⟩ := takenUp_takeUp (s.world.setSys (s.world.sys.setPort port)) p
  rw [hr] at htaken hport
  have hzero : ∀ {a e c}, Names s.world a e → s.world.sys.blocks e = some c →
      c.bytesAvailable = 0 := fun hd hb => h.empty hmode hd hb
  obtain ⟨y, hy, hpd⟩ := hd
  have hold : r.1.heap = s.world.heap → Names s.world a d :=
    fun hheap => ⟨y, (congrFun hheap a).symm.trans hy, hpd⟩
  cases htaken with
  | ignored hheap hblocks =>
      have := hzero (hold hheap) ((congrFun hblocks d).symm.trans hb)
      omega
  | @released a₀ d₀ o n x b₀ _ _ _ _ _ _ _ hheap hblocks =>
      have hne : a ≠ a₀ := by
        rintro rfl
        rw [hheap, Function.update_self] at hy
        obtain rfl := Option.some.inj hy
        exact nomatch hpd
      have hd₀ : d ≠ d₀ := by
        rintro rfl
        rw [hblocks, Function.update_self] at hb
        exact nomatch hb
      rw [hheap, Function.update_of_ne hne] at hy
      rw [hblocks, Function.update_of_ne hd₀] at hb
      have := hzero ⟨y, hy, hpd⟩ hb
      omega
  | @cancelled a₀ d₀ n x b₀ _ _ _ _ _ hb₀ _ _ hheap hblocks =>
      rcases eq_or_ne d d₀ with rfl | hne
      · rw [hblocks, Function.update_self] at hb
        obtain rfl := Option.some.inj hb
        have := hzero (hold hheap) hb₀
        dsimp only at hpos
        omega
      · rw [hblocks, Function.update_of_ne hne] at hb
        have := hzero (hold hheap) hb
        omega
  | @completed a₀ d₀ n x b₀ hpacket _ hx _ hpd₀ hb₀ _ _ hheap hblocks hcallback =>
      rcases eq_or_ne d d₀ with rfl | hne
      · obtain rfl : a = a₀ := h.apart.distinct _ _ _ (hold hheap) ⟨x, hx, hpd₀⟩
        rw [hblocks, Function.update_self] at hb
        obtain rfl := Option.some.inj hb
        have hbefore := hzero (hold hheap) hb₀
        -- the bytes are those of this completion
        have hread : (readEvents b₀ n).has .read = true := by
          by_contra hno
          dsimp only at hpos
          rw [if_neg hno] at hpos
          omega
        refine ⟨⟨_, _, hcallback, hread⟩, ?_⟩
        have hnone := (h.single.next hp).2 d (by rw [hpacket]; exact beq_self_eq_true d)
        exact (outstanding_of_port hport d).trans hnone
      · rw [hblocks, Function.update_of_ne hne] at hb
        have := hzero (hold hheap) hb
        omega

/-- The loop re-issues a read when every buffer is drained. -/
theorem Emptied.rearm {f : Frame} {refused : Option WinError} {r : IocpWorld × Mode}
    (hzero : ∀ {a d b}, Names s.world a d → s.world.sys.blocks d = some b → b.bytesAvailable = 0)
    (hr : Iocp.rearm s.world refused f = r) (hd : Names r.1 a d) (hb : r.1.sys.blocks d = some b) :
    b.bytesAvailable = 0 := by
  obtain ⟨hrearmed, hheap⟩ := rearmed_rearm s.world refused f
  rw [hr] at hrearmed hheap
  have hold : Names s.world a d := (names_congr (congrFun hheap a)).1 hd
  have hwritten : ∀ {e : Addr} {b₀ c₀ : IocpWatcherData}, s.world.sys.blocks e = some b₀ →
      r.1.sys.blocks = Function.update s.world.sys.blocks e (some c₀) →
      c₀.bytesAvailable = b₀.bytesAvailable → b.bytesAvailable = 0 := by
    intro e b₀ c₀ hb₀ hblocks hsame
    rcases eq_or_ne d e with rfl | hne
    · rw [hblocks, Function.update_self] at hb
      obtain rfl := Option.some.inj hb
      exact hsame.trans (hzero hold hb₀)
    · rw [hblocks, Function.update_of_ne hne] at hb
      exact hzero hold hb
  cases hrearmed with
  | nothing hblocks => exact hzero hold ((congrFun hblocks d).symm.trans hb)
  | issued _ _ _ _ _ hb₀ _ _ hblocks => exact hwritten hb₀ hblocks rfl
  | unissued _ _ _ _ _ hb₀ _ _ hblocks => exact hwritten hb₀ hblocks rfl

/-- The loop waits, and turns to a packet, with no callback running. -/
theorem not_inReadCallback {l : Step} (hl : l = .next ∨ ∃ n, l = .wait n)
    (hstep : step s l = some s') (a : Addr) : ¬InReadCallback s a := by
  rintro ⟨events, n, hmode, -⟩
  rcases hl with rfl | ⟨m, rfl⟩
  · exact nomatch hmode.symm.trans (mode_of_next hstep)
  · exact nomatch hmode.symm.trans (mode_of_wait hstep)

/-- The blocks are as they were, and no read comes in. -/
theorem Emptied.of_port (h : Emptied s) (hapart : Apart s'.world)
    (hsingle : SingleRead s'.world.sys)
    (hheap : s'.world.heap = s.world.heap) (hblocks : s'.world.sys.blocks = s.world.sys.blocks)
    (hle : ∀ d, s'.world.sys.outstanding d ≤ s.world.sys.outstanding d)
    (hmode : s'.mode = s.mode) : Emptied s' :=
  h.of_le hapart hsingle hheap (fun _ b hb => ⟨b, hblocks ▸ hb, Nat.le_refl _⟩) hle hmode

/-- The guard of a step is what the reads need to stay apart. -/
theorem Emptied.isSingle {l : Step} (h : Emptied s) (hok : l.Empties s) : l.Single s := by
  cases l with
  | call c =>
      simp only [Step.Empties, Step.empties, Bool.and_eq_true] at hok
      exact hok.1.2
  | drainRead a len => exact h.unread_movedDown a len
  | ret refused =>
      simp only [Step.Empties, Step.empties] at hok
      simp only [Step.Single, Step.single]
      cases hmode : s.mode with
      | callback f =>
          simp only [hmode, Bool.and_eq_true] at hok
          exact hok.1
      | _ => rfl
  | _ => rfl

/-- What one step preserves. -/
theorem emptied_step {l : Step} (h : Emptied s) (hok : l.Empties s) (hstep : step s l = some s') :
    Emptied s' := by
  have hcall : ∀ c, l = .call c → freshData s.world c = true ∧
      unread s.world.sys (dataAllocFor c) = true ∧ updatesEmpty s.world c = true := by
    rintro c rfl
    simpa only [Step.Empties, Step.empties, Bool.and_eq_true, and_assoc] using hok
  have hapart := apart_step h.apart (fun c hc => (hcall c hc).1) hstep
  have hreads := singleRead_step h.single (h.isSingle hok) hstep
  have hsame : ∀ d, s.world.sys.outstanding d ≤ s.world.sys.outstanding d :=
    fun _ => Nat.le_refl _
  cases stepped_of_step hstep with
  | @call c =>
      obtain ⟨hfresh, hunread, hupd⟩ := hcall c rfl
      exact h.exec hfresh hunread hupd
  | @drainRead e len y =>
      refine h.of_le hapart hreads rfl (fun d b' hb' => ?_)
        (fun d => Nat.le_of_eq (outstanding_of_port drainRead_port d)) rfl
      obtain ⟨b, hb, rfl⟩ := Option.map_eq_some_iff.1 ((drainRead_blocks ..).symm.trans hb')
      refine ⟨b, hb, ?_⟩
      split
      · exact Nat.sub_le ..
      · exact Nat.le_refl _
  | openHandle => exact h.of_port hapart hreads rfl rfl hsame rfl
  | closeHandle => exact h.of_port hapart hreads rfl rfl hsame rfl
  | clientWrite =>
      exact h.of_port hapart hreads rfl rfl (fun _ => Nat.le_of_eq Port.count_issue) rfl
  | complete hp =>
      refine h.of_le hapart hreads rfl (fun d b' hb' => ?_)
        (fun d => outstanding_complete_le hp d) rfl
      obtain ⟨b, hb, rfl⟩ := Option.map_eq_some_iff.1 ((complete_blocks ..).symm.trans hb')
      refine ⟨b, hb, ?_⟩
      split <;> exact Nat.le_refl _
  | post hp =>
      exact h.of_port hapart hreads rfl rfl (fun _ => Nat.le_of_eq (count_post_signal hp)) rfl
  | wait =>
      have hidle := not_inReadCallback (.inr ⟨_, rfl⟩) hstep
      refine ⟨hapart, hreads, fun a d b hd hb hpos => ?_⟩
      have := h.empty hidle hd hb
      omega
  | waitFailed => exact h.of_port hapart hreads rfl rfl hsame rfl
  | done =>
      have hidle := not_inReadCallback (.inl rfl) hstep
      refine ⟨hapart, hreads, fun a d b hd hb hpos => ?_⟩
      have := h.empty hidle hd hb
      omega
  | next hp =>
      have hidle := not_inReadCallback (.inl rfl) hstep
      exact ⟨hapart, hreads, fun a d b hd hb hpos => h.takeUp hidle hp rfl hd hb hpos⟩
  | @ret f refused hmode =>
      have hleft : leavesEmpty s.world f = true := by
        simp only [Step.Empties, Step.empties, hmode, Bool.and_eq_true] at hok
        exact hok.2
      -- only the callback that returns could have left something
      have hzero : ∀ {a d b}, Names s.world a d → s.world.sys.blocks d = some b →
          b.bytesAvailable = 0 := by
        intro a d b hd hb
        by_contra hpos
        obtain ⟨⟨events, n, hm, -⟩, -⟩ := h.filled a d b hd hb (by omega)
        obtain rfl := Mode.callback.inj (hmode.symm.trans hm)
        obtain ⟨x, hx, hpd⟩ := hd
        simp only [leavesEmpty, blockOf_eq hx hpd hb, Option.all_some, beq_iff_eq] at hleft
        exact hpos hleft
      refine ⟨hapart, hreads, fun a d b hd hb hpos => ?_⟩
      have := Emptied.rearm hzero rfl hd hb
      omega

/-- **If the callbacks of reads leave no bytes, no read is issued on bytes or on another
read, and new platform data is at addresses that nothing refers to, then bytes are handed out
in the callback for `PD_EVENT_READ` of their watcher only, and never while a read is in flight
on the buffer.** -/
theorem hands_out (hr : iocpRuns.Reach Step.Empties s) : HandsOut s := by
  have h : Emptied s := hr.invariant (fun _ => emptied_init) fun _ _ _ hi hok hnext =>
    emptied_step hi hok hnext
  intro a x len hx hbytes
  cases hpd : x.platformData with
  | none => exact absurd (by simp [iocpWatcherDrainRead, hpd]) hbytes
  | some d =>
      cases hb : s.world.sys.blocks d with
      | none =>
          simp only [iocpWatcherDrainRead, hpd, hb] at hbytes
          split_ifs at hbytes <;> exact absurd rfl hbytes
      | some b =>
          have hpos : 0 < b.bytesAvailable := by
            by_contra hzero
            refine hbytes ?_
            rw [drainRead_bytes hpd hb, Nat.eq_zero_of_not_pos hzero, Nat.zero_min, List.take_zero]
          obtain ⟨hin, hout⟩ := h.filled a d b ⟨x, hx, hpd⟩ hb hpos
          refine ⟨hin, fun e he => ?_⟩
          obtain rfl := Option.some.inj he
          exact (reads_unread hout).1

end

theorem drainInParts_hands_out : ∃ s,
    Machine.runGuarded Step.Empties step iocpLoopCreate drainInParts = some s ∧ HandsOut s := by
  have hrun : ∃ s, Machine.runGuarded Step.Empties step iocpLoopCreate drainInParts = some s :=
    ⟨_, rfl⟩
  obtain ⟨s, hrun⟩ := hrun
  exact ⟨s, hrun, hands_out (.runGuarded (.init init_iocpLoopCreate) hrun)⟩

/-- A callback drains one of two bytes, and the loop goes on to the end of its batch. -/
def drainOneOfTwo : List Step :=
  [.openHandle 4, createReader, .complete (.io 100 (.data 200) 0) STATUS_SUCCESS [7, 8], .wait 1,
    .next, .drainRead 100 1, .ret none, .next]

/-- The byte that the callback has left is handed out between two iterations of the loop,
while the next read is in flight. -/
theorem not_hands_out : ¬∀ s, iocpRuns.Reachable s → HandsOut s := by
  intro h
  have hrun : ∃ s x, Machine.run step iocpLoopCreate drainOneOfTwo = some s ∧ s.mode = .idle ∧
      s.world.heap 100 = some x ∧ (iocpWatcherDrainRead s.world.sys x 4096).2 = [8] :=
    ⟨_, _, rfl, rfl, rfl, rfl⟩
  obtain ⟨s, x, hrun, hidle, hx, hbytes⟩ := hrun
  obtain ⟨⟨events, n, hmode, -⟩, -⟩ := h s (Machine.Reach.run (.init init_iocpLoopCreate) hrun)
    100 x 4096 hx (by simp [hbytes])
  exact nomatch hidle.symm.trans hmode

end Iocp
end PollDancer
