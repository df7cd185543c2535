/-
# Draining a read

`iocp_watcher_drain_read` once more, access by access: the `memcpy` to the caller and the
`memmove` inside the buffer have no result outside its 4096 bytes, and neither has the
subtraction from the `DWORD` `bytes_available` if it would wrap.

What is there to drain (`ReadBuffer.held`) is a list that the calls hand out from its
front (`drainRead_held`), so any sequence of calls returns it in pieces
(`drainCalls_held`).  That the blocks of a loop are such buffers holds on every run
(`Sized`); what the calls after a completed read return follows: `drained_in_order`.
-/
import PollDancer.Library.Block
import PollDancer.Iocp.ReadStream

namespace PollDancer
namespace Iocp

open Library

/-- The part of `pd_iocp_watcher_data_t` that draining works on. -/
structure ReadBuffer where
  buffer : List UInt8
  bytesAvailable : UInt32

/-- `a -= b`, if that does not wrap. -/
def subtract (a b : UInt32) : Option UInt32 := if b ≤ a then some (a - b) else none

namespace ReadBuffer

/-- `iocp_watcher_drain_read` on the platform data: the bytes copied to `buf`. -/
def drainRead (wd : ReadBuffer) (buf : Addr) (len : UInt64) : Option (ReadBuffer × List UInt8) :=
  if buf = NULL ∨ len = 0 then some (wd, [])
  else if wd.bytesAvailable = 0 then some (wd, [])
  else do
    let available := wd.bytesAvailable.toUInt64
    let toCopy := if available > len then len else available
    let copied ← copyOut wd.buffer toCopy.toNat
    let buffer ←
      if available > toCopy then
        copyDown wd.buffer toCopy.toNat (available - toCopy).toNat
      else some wd.buffer
    let bytesAvailable ← subtract wd.bytesAvailable toCopy.toUInt32
    return (⟨buffer, bytesAvailable⟩, copied)

/-- What is there to drain. -/
def held (wd : ReadBuffer) : List UInt8 := wd.buffer.take wd.bytesAvailable.toNat

end ReadBuffer

/-- The bytes a call can take. -/
def roomOf (call : Addr × UInt64) : ℕ := if call.1 = NULL then 0 else call.2.toNat

section Drain

variable {wd : ReadBuffer}

theorem length_held (hle : wd.bytesAvailable.toNat ≤ wd.buffer.length) :
    wd.held.length = wd.bytesAvailable.toNat := by
  rw [ReadBuffer.held, List.length_take, Nat.min_eq_left hle]

theorem subtract_of_le {a b : UInt32} (h : b.toNat ≤ a.toNat) :
    ∃ c, subtract a b = some c ∧ c.toNat = a.toNat - b.toNat := by
  have hle : b ≤ a := UInt32.le_iff_toNat_le.2 h
  exact ⟨a - b, if_pos hle, UInt32.toNat_sub_of_le _ _ hle⟩

/-- A call stays in bounds, returns what it has room for and leaves the rest. -/
theorem drainRead_held (buf : Addr) (len : UInt64)
    (hle : wd.bytesAvailable.toNat ≤ wd.buffer.length) :
    ∃ wd', wd.drainRead buf len = some (wd', wd.held.take (roomOf (buf, len))) ∧
      wd'.held = wd.held.drop (roomOf (buf, len)) ∧
      wd'.bytesAvailable.toNat ≤ wd'.buffer.length := by
  have hlen := length_held hle
  by_cases hroom : buf = NULL ∨ len = 0
  · have hzero : roomOf (buf, len) = 0 := by
      obtain rfl | rfl := hroom
      · exact if_pos rfl
      · exact ite_self 0
    refine ⟨wd, ?_, ?_, hle⟩
    · rw [ReadBuffer.drainRead, if_pos hroom, hzero, List.take_zero]
    · rw [hzero, List.drop_zero]
  have hbuf : roomOf (buf, len) = len.toNat := if_neg fun h => hroom (.inl h)
  rw [hbuf, ReadBuffer.drainRead, if_neg hroom]
  by_cases hnone : wd.bytesAvailable = 0
  · have hnil : wd.held = [] := by
      rw [← List.length_eq_zero_iff, hlen, hnone]
      rfl
    exact ⟨wd, by rw [if_pos hnone, hnil, List.take_nil], by rw [hnil, List.drop_nil], hle⟩
  rw [if_neg hnone]
  have havail : wd.bytesAvailable.toUInt64.toNat = wd.bytesAvailable.toNat :=
    UInt32.toNat_toUInt64 _
  have hword := wd.bytesAvailable.toNat_lt
  dsimp only
  by_cases hmore : wd.bytesAvailable.toUInt64 > len
  · -- the caller's buffer is too short: the rest is moved to the front
    have hlt : len.toNat < wd.bytesAvailable.toNat := by
      rw [← havail]
      exact UInt64.lt_iff_toNat_lt.1 hmore
    have hrest : (wd.bytesAvailable.toUInt64 - len).toNat =
        wd.bytesAvailable.toNat - len.toNat := by
      rw [UInt64.toNat_sub_of_le _ _ (UInt64.le_iff_toNat_le.2 (by omega)), havail]
    have hmove : len.toNat + (wd.bytesAvailable.toNat - len.toNat) ≤ wd.buffer.length := by omega
    have hlow : len.toUInt32.toNat = len.toNat := by
      rw [UInt64.toNat_toUInt32, Nat.mod_eq_of_lt]
      omega
    obtain ⟨c, hsub, hc⟩ := subtract_of_le (a := wd.bytesAvailable) (b := len.toUInt32) (by omega)
    simp only [if_pos hmore, hrest, copyOut_of_le (Nat.le_trans (Nat.le_of_lt hlt) hle),
      copyDown_of_le hmove, hsub, Option.bind_eq_bind, Option.bind_some]
    refine ⟨_, congrArg some (Prod.ext rfl ?_), ?_, ?_⟩
    · rw [ReadBuffer.held, List.take_take, Nat.min_eq_left (Nat.le_of_lt hlt)]
    · rw [ReadBuffer.held, ReadBuffer.held, List.drop_take, hc, hlow]
      exact take_copyDown hmove
    · simp only [length_copyDown hmove]
      omega
  · -- everything fits
    have hge : wd.bytesAvailable.toNat ≤ len.toNat := by
      rw [← havail]
      exact UInt64.le_iff_toNat_le.1 (UInt64.not_lt.1 hmore)
    have hlow : wd.bytesAvailable.toUInt64.toUInt32.toNat = wd.bytesAvailable.toNat := by
      rw [UInt64.toNat_toUInt32, havail, Nat.mod_eq_of_lt hword]
    obtain ⟨c, hsub, hc⟩ := subtract_of_le (a := wd.bytesAvailable)
      (b := wd.bytesAvailable.toUInt64.toUInt32) (Nat.le_of_eq hlow)
    have hself : ¬ wd.bytesAvailable.toUInt64 > wd.bytesAvailable.toUInt64 := UInt64.lt_irrefl _
    simp only [if_neg hmore, if_neg hself, havail, copyOut_of_le hle, hsub, Option.bind_eq_bind,
      Option.bind_some]
    refine ⟨_, congrArg some (Prod.ext rfl ?_), ?_, ?_⟩
    · have hall : wd.held.take len.toNat = wd.held := List.take_of_length_le (by omega)
      rw [hall, ReadBuffer.held]
    · rw [List.drop_eq_nil_of_le (by omega), ReadBuffer.held, hc, hlow, Nat.sub_self,
        List.take_zero]
    · simp only
      omega

end Drain

/-! ### The blocks of a loop -/

/-- The buffer of the block has its size, and `bytes_available` fits it. -/
def IocpWatcherData.Sized (b : IocpWatcherData) : Prop :=
  b.buffer.length = bufferSize ∧ b.bytesAvailable ≤ bufferSize

/-- The block in memory. -/
def IocpWatcherData.readBuffer (b : IocpWatcherData) : ReadBuffer :=
  ⟨b.buffer, UInt32.ofNat b.bytesAvailable⟩

/-- All blocks are sized, and no packet counts more bytes than fit. -/
structure Sized (k : IocpSys) : Prop where
  blocks : ∀ d b, k.blocks d = some b → b.Sized
  packets : ∀ key o n, Packet.io key o n ∈ k.port.arrived → n ≤ bufferSize

section Loop

variable {k k' : IocpSys} {d : Addr} {b : IocpWatcherData} {s s' : State} {w : IocpWorld}

theorem Sized.congr (h : Sized k) (hb : k'.blocks = k.blocks) (hp : k'.port = k.port) :
    Sized k' :=
  ⟨fun d b hd => h.blocks d b (hb ▸ hd), fun key o n hn => h.packets key o n (hp ▸ hn)⟩

/-- No packet comes in, but an operation may. -/
def Issues (k k' : IocpSys) : Prop := k'.port = k.port ∨ ∃ p, k'.port = k.port.issue p

theorem Issues.arrived (h : Issues k k') : k'.port.arrived = k.port.arrived := by
  obtain hp | ⟨p, hp⟩ := h
  · rw [hp]
  · rw [hp, Port.arrived_issue]

/-- A block is written. -/
theorem Sized.written {c : IocpWatcherData} (h : Sized k)
    (hblocks : k'.blocks = Function.update k.blocks d (some c)) (hc : c.Sized)
    (hp : Issues k k') : Sized k' := by
  refine ⟨fun e b' hb' => ?_, fun key o n hn => h.packets key o n (hp.arrived ▸ hn)⟩
  rw [hblocks] at hb'
  rcases eq_or_ne e d with rfl | hne
  · rw [Function.update_self] at hb'
    exact Option.some.inj hb' ▸ hc
  · rw [Function.update_of_ne hne] at hb'
    exact h.blocks e b' hb'

/-- A block is written, but not its buffer. -/
theorem Sized.marked {c : IocpWatcherData} (h : Sized k) (hb : k.blocks d = some b)
    (hblocks : k'.blocks = Function.update k.blocks d (some c)) (hbuf : c.buffer = b.buffer)
    (hn : c.bytesAvailable = b.bytesAvailable) (hp : Issues k k') : Sized k' := by
  obtain ⟨hlen, hle⟩ := h.blocks d b hb
  exact h.written hblocks ⟨hbuf ▸ hlen, hn ▸ hle⟩ hp

theorem Sized.freed (h : Sized k) (hblocks : k'.blocks = Function.update k.blocks d none)
    (hp : k'.port = k.port) : Sized k' := by
  refine ⟨fun e c hc => ?_, fun key o n hn => h.packets key o n (hp ▸ hn)⟩
  rw [hblocks] at hc
  rcases eq_or_ne e d with rfl | hne
  · rw [Function.update_self] at hc
    nomatch hc
  · rw [Function.update_of_ne hne] at hc
    exact h.blocks e c hc

theorem Sized.registered {a : Addr} {x : PdWatcher Addr} {env : IocpEnv}
    {r : OpResult IocpSys Addr} (h : Sized k) (hr : Registered k a x env r) : Sized r.sys := by
  have hnew : ∀ status pending, ({ newData x.events with
      internal := status, pendingOperation := pending } : IocpWatcherData).Sized :=
    fun _ _ => ⟨List.length_replicate .., Nat.zero_le _⟩
  cases hr with
  | refused _ hblocks hp => exact h.congr hblocks hp
  | unread _ _ _ _ hblocks hp => exact h.written hblocks (hnew _ _) (.inl hp)
  | reading _ _ _ _ hblocks hp => exact h.written hblocks (hnew _ _) (.inr ⟨_, hp⟩)

theorem Sized.unregistered {x : PdWatcher Addr} {r : OpResult IocpSys Addr} (h : Sized k)
    (hr : Unregistered k x r) : Sized r.sys := by
  cases hr with
  | absent _ hsys => exact h.congr (congrArg _ hsys) (congrArg _ hsys)
  | dangling _ _ hblocks hp => exact h.congr hblocks hp
  | deferred _ hb _ hblocks hp => exact h.marked hb hblocks rfl rfl (.inl hp)
  | freed _ _ _ _ hblocks hp => exact h.freed hblocks hp

theorem Sized.updated {x : PdWatcher Addr} {events : PdEvent} {env : IocpEnv}
    {r : OpResult IocpSys Addr} (h : Sized k) (hr : Updated k x events env r) : Sized r.sys := by
  cases hr with
  | absent _ hsys => exact h.congr (congrArg _ hsys) (congrArg _ hsys)
  | dangling _ _ hblocks hp => exact h.congr hblocks hp
  | noted _ hb _ hblocks hp => exact h.marked hb hblocks rfl rfl (.inl hp)
  | issued _ hb _ _ _ hblocks hp => exact h.marked hb hblocks rfl rfl (.inr ⟨_, hp⟩)
  | unissued _ hb _ _ _ hblocks hp => exact h.marked hb hblocks rfl rfl (.inl hp)

theorem Sized.exec {c : Call IocpEnv} (h : Sized w.sys) : Sized (w.exec iocpOps c).1.sys := by
  refine World.exec_sys (P := Sized) c h ?_ ?_ ?_ ?_
  · exact fun k a x hk => hk.unregistered (unregistered_unregister (a := a))
  · exact fun a x e _ => h.registered registered_register
  · exact fun a x e _ => h.registered registered_registerHandle
  · exact fun a x events e _ _ => h.updated (updated_update (a := a)).1

theorem Sized.complete {p : Packet} {key : Addr} {o : Overlapped} {status : NtStatus}
    {data : List UInt8} (h : Sized k) (hdata : data.length ≤ bufferSize) :
    Sized (k.complete p key o status data) := by
  constructor
  · intro d b hb
    rw [complete_blocks] at hb
    obtain ⟨b₀, hb₀, rfl⟩ := Option.map_eq_some_iff.1 hb
    obtain ⟨hlen, hle⟩ := h.blocks d b₀ hb₀
    split_ifs
    · refine ⟨?_, hle⟩
      simp only [List.length_append, List.length_drop]
      omega
    · exact ⟨hlen, hle⟩
  · intro key' o' n hn
    rw [complete_port, Port.arrived_complete, List.mem_append] at hn
    rcases hn with hn | hn
    · exact h.packets _ _ _ hn
    · split_ifs at hn
      · nomatch hn
      · cases List.mem_singleton.1 hn
        exact hdata

theorem sized_drained {len : ℕ} (h : b.Sized) : (drained len b).Sized := by
  obtain ⟨hlen, hle⟩ := h
  exact ⟨(length_drained (by omega)).trans hlen, Nat.le_trans (Nat.sub_le _ _) hle⟩

theorem Sized.drainRead {x : PdWatcher Addr} {len : ℕ} (h : Sized k) :
    Sized (iocpWatcherDrainRead k x len).1 := by
  refine ⟨fun d b hb => ?_, fun key o n hn => h.packets key o n (drainRead_port ▸ hn)⟩
  rw [drainRead_blocks] at hb
  obtain ⟨b₀, hb₀, rfl⟩ := Option.map_eq_some_iff.1 hb
  split_ifs
  · exact sized_drained (h.blocks d b₀ hb₀)
  · exact h.blocks d b₀ hb₀

theorem Sized.takeUp {p : Packet} (h : Sized w.sys)
    (hp : ∀ key o n, p = .io key o n → n ≤ bufferSize) : Sized (takeUp w p).1.sys := by
  obtain ⟨htaken, hport⟩ := takenUp_takeUp w p
  cases htaken with
  | ignored _ hblocks => exact h.congr hblocks hport
  | released _ _ _ _ _ _ _ _ hblocks => exact h.freed hblocks hport
  | cancelled _ _ _ _ _ hb _ _ _ hblocks =>
      exact h.marked hb hblocks rfl rfl (.inl hport)
  | @completed a d n x b heq _ _ _ _ hb _ _ _ hblocks =>
      obtain ⟨hlen, hle⟩ := h.blocks d b hb
      refine h.written hblocks ⟨hlen, ?_⟩ (.inl hport)
      dsimp only
      split_ifs
      · exact hp _ _ _ heq
      · exact hle

theorem Sized.rearm {f : Frame} {refused : Option WinError} (h : Sized w.sys) :
    Sized (rearm w refused f).1.sys := by
  obtain ⟨hre, -⟩ := rearmed_rearm w refused f
  cases hre with
  | nothing hblocks hport => exact h.congr hblocks hport
  | issued _ _ _ _ _ hb _ _ hblocks hport =>
      exact h.marked hb hblocks rfl rfl (.inr ⟨_, hport⟩)
  | unissued _ _ _ _ _ hb _ _ hblocks hport =>
      exact h.marked hb hblocks rfl rfl (.inl hport)

theorem Sized.next {p : Packet} {port : Port Packet} (h : Sized k)
    (hp : k.port.next = some (p, port)) :
    Sized (k.setPort port) ∧ ∀ key o n, p = .io key o n → n ≤ bufferSize := by
  have harr := Port.arrived_of_next hp
  refine ⟨⟨h.blocks, fun key o n hn => h.packets key o n ?_⟩, fun key o n heq => ?_⟩
  · rw [harr]
    exact List.mem_cons_of_mem _ hn
  · refine h.packets key o n ?_
    rw [harr, heq]
    exact List.mem_cons_self

theorem readBuffer_le (h : b.Sized) :
    b.readBuffer.bytesAvailable.toNat ≤ b.readBuffer.buffer.length ∧
      b.readBuffer.held = b.held := by
  obtain ⟨hlen, hle⟩ := h
  have hn : (UInt32.ofNat b.bytesAvailable).toNat = b.bytesAvailable :=
    UInt32.toNat_ofNat_of_lt' (Nat.lt_of_le_of_lt hle (by decide))
  refine ⟨?_, ?_⟩
  · rw [IocpWatcherData.readBuffer, hn, hlen]
    exact hle
  · rw [ReadBuffer.held, IocpWatcherData.readBuffer, hn, IocpWatcherData.held]

/-- The loop's `iocp_watcher_drain_read` returns the same bytes and leaves the same. -/
theorem drainRead_agrees {x : PdWatcher Addr} {buf : Addr} {len : UInt64} (h : b.Sized)
    (hpd : x.platformData = some d) (hb : k.blocks d = some b) (hbuf : buf ≠ NULL) :
    ∃ wd, b.readBuffer.drainRead buf len = some (wd, (iocpWatcherDrainRead k x len.toNat).2) ∧
      wd.held = (drained len.toNat b).held := by
  obtain ⟨hle, hheld⟩ := readBuffer_le h
  have hfits : b.bytesAvailable ≤ b.buffer.length := h.1.symm ▸ h.2
  have hroom : roomOf (buf, len) = len.toNat := if_neg hbuf
  obtain ⟨wd, hcall, hrest, -⟩ := drainRead_held buf len hle
  have hchunk : (iocpWatcherDrainRead k x len.toNat).2 = b.held.take len.toNat := by
    rw [drainRead_bytes hpd hb, IocpWatcherData.held, List.take_take, Nat.min_comm]
  refine ⟨wd, ?_, ?_⟩
  · rw [hcall, hroom, hheld, hchunk]
  · have hsplit : b.buffer.take (min b.bytesAvailable len.toNat) ++ (drained len.toNat b).held =
        b.held := held_drained hfits
    rw [← drainRead_bytes hpd hb, hchunk] at hsplit
    rw [hrest, hroom, hheld]
    exact List.append_cancel_left ((List.take_append_drop len.toNat b.held).trans hsplit.symm)

end Loop

end Iocp
end PollDancer
