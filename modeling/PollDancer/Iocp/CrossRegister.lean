/-
# Registering a watcher beside a running loop

`iocp_watcher_register` and `iocp_watcher_register_handle` on a thread that is not the
loop thread, one access to shared memory at a time, beside `iocp_loop_run` and the kernel
as in `CrossThread`.

The first read may complete as soon as it is issued, and the loop may take its packet up
before the registering thread has gone on.  `iocp_watcher_register` sets
`pending_operation` after the read is issued: a completion that is classified before is
reported with an empty mask, and the flag that is set afterwards stands for no read.
`iocp_watcher_register_handle` besides stores `platform_data` last: a completion that
comes before is dropped.  `not_first_dispatched`

If the loop finds both stored when it looks at them, the first completion is dispatched,
and the flag is right (`Inv`): `first_dispatched`.
-/
import PollDancer.Iocp.CrossThread

namespace PollDancer
namespace Iocp
namespace CrossRegister

open Library
open CrossThread (LoopPc)

/-- Where the registering thread is: before the access that gives the position its
name. -/
inductive RegisterPc
  | alloc
  | associate
  /-- Before `watcher->platform_data` is stored. -/
  | publish
  /-- Before `WSARecv` or `ReadFile`. -/
  | issue
  /-- Before `pending_operation` is set. -/
  | mark
  | returned (code : PdError)
  deriving DecidableEq, Repr

/-- What both threads share, and the position of the registering one. -/
structure State where
  shared : CrossThread.State
  events : PdEvent
  /-- Is it `iocp_watcher_register_handle`? -/
  handle : Bool
  register : RegisterPc
  deriving DecidableEq

/-- One access of the registering thread.  `ok` is the answer of the environment. -/
def registerStep (s : State) (ok : Bool) : Option State :=
  let k := s.shared
  match s.register with
  | .alloc =>
      if ok then
        some { s with shared := { k with data := some (newData s.events) }, register := .associate }
      else some { s with register := .returned .noMemory }
  | .associate => do
      let w ← k.watcher
      if ok then
        some { s with
          register := if s.handle && s.events.has .read then .issue else .publish }
      else
        some { s with
          shared := { k with
            watcher := some (if s.handle then w else { w with platformData := false })
            data := none }
          register := .returned .system }
  | .publish => do
      let w ← k.watcher
      some { s with
        shared := { k with watcher := some { w with platformData := true } }
        register := if !s.handle && s.events.has .read then .issue else .returned .ok }
  | .issue => do
      let b ← k.data
      if ok then
        some { s with
          shared := { k with
            data := some { b with internal := STATUS_PENDING }
            port := k.port.issue (.read 0) }
          register := .mark }
      else some { s with shared := { k with data := none }, register := .returned .system }
  | .mark => do
      let b ← k.data
      some { s with
        shared := { k with data := some { b with pendingOperation := true } }
        register := if s.handle then .publish else .returned .ok }
  | .returned _ => none

/-- The steps of the loop thread and the kernel, and the writes of the user on a handle
that has the watcher as its key. -/
def ofLoop (s : State) : CrossThread.Step → Bool
  | .enter => true
  | .take _ => true
  | .next => true
  | .loop => true
  | .ret => true
  | .issue _ => true
  | .post => true
  | .complete .. => true
  | .clientWrite =>
      match s.register with
      | .alloc => false
      | .associate => false
      | .returned code => code == .ok
      | _ => true
  | _ => false

/-- The steps of the two threads and the kernel. -/
inductive Step
  | register (ok : Bool)
  | loop (l : CrossThread.Step)
  deriving DecidableEq, Repr

/-- The state after a step, `none` where the step cannot be taken. -/
def step (s : State) : Step → Option State
  | .register ok => registerStep s ok
  | .loop l =>
      if ofLoop s l then (CrossThread.step s.shared l).map fun shared => { s with shared } else none

/-- What becomes of the completion of a read. -/
inductive Outcome
  | dropped
  | cancelled
  | event (events : PdEvent)
  deriving DecidableEq, Repr

/-- Is it reported as `PD_EVENT_READ`, `PD_EVENT_HANGUP` or `PD_EVENT_ERROR`? -/
def Outcome.loud : Outcome → Bool
  | .event events => events == .read || events == .hangup || events == .error
  | _ => false

/-- What the next access of the loop thread decides. -/
def outcomeOf (s : CrossThread.State) : List Outcome :=
  match s.loop with
  | .demux (.read _) => if s.watcher.any (·.platformData) then [] else [.dropped]
  | .clearPending => [.cancelled]
  | .classify n =>
      [.event (if s.watcher.any (·.platformData) then (s.data.map (readEvents · n)).getD .none
        else .none)]
  | _ => []

/-- The reads that have been issued, and what has become of their completions, in order. -/
structure Record where
  issued : ℕ
  outcomes : List Outcome
  deriving DecidableEq, Repr

/-- The record after a step. -/
def note (s : State) (l : Step) (r : Record) : Record :=
  match l with
  | .register ok => if s.register = .issue ∧ ok then { r with issued := r.issued + 1 } else r
  | .loop (.issue ok) => if ok then { r with issued := r.issued + 1 } else r
  | .loop .loop => { r with outcomes := r.outcomes ++ outcomeOf s.shared }
  | _ => r

/-- A watcher that is about to be registered for reads, with a loop that is running or not
yet. -/
def unregistered (events : PdEvent) (handle loopThreadId : Bool) : State where
  shared :=
    { watcher := some ⟨true, false⟩
      data := none
      loopThreadId
      port := .empty
      signalled := false
      loop := .idle
      destroyer := .before }
  events
  handle
  register := .alloc

/-- The runs of the registering thread, the loop thread and the kernel, with their
record. -/
def registerRuns : Machine (State × Record) Step :=
  Machine.recorded (fun s => ∃ events handle id, events.has .read = true ∧
    s = unregistered events handle id) step ⟨0, []⟩ note

/-- Is it a read? -/
def isRead : CrossThread.Packet → Bool
  | .read _ => true
  | _ => false

/-- The reads that the loop has taken up and not decided on: one or none. -/
def taken : LoopPc → ℕ
  | .checkStopping p => (isRead p).toNat
  | .demux p => (isRead p).toNat
  | .checkStatus _ => 1
  | .clearPending => 1
  | .classify _ => 1
  | _ => 0

/-- The reads whose completion is still to be decided on. -/
def unresolved (s : CrossThread.State) : ℕ := s.port.count isRead + taken s.loop

/-- The first completion is reported; no completion is decided on twice; and when the
registration has returned and the loop thread is done with the watcher, the flag is set
if and only if a read is outstanding. -/
structure Dispatched (s : State) (r : Record) : Prop where
  first : r.outcomes.head?.all Outcome.loud = true
  once : r.issued = r.outcomes.length + unresolved s.shared
  pending : s.register = .returned .ok → s.shared.loop.holds = false →
    ∃ b, s.shared.data = some b ∧
      (b.pendingOperation = true ↔ 0 < s.shared.port.count isRead)

/-- Has `platform_data` been stored, and for good? -/
def RegisterPc.published (handle : Bool) : RegisterPc → Bool
  | .issue => !handle
  | .mark => !handle
  | .returned code => code == .ok
  | _ => false

/-- Has the first read been issued? -/
def RegisterPc.issued (handle : Bool) : RegisterPc → Bool
  | .mark => true
  | .publish => handle
  | .returned code => code == .ok
  | _ => false

/-- Has `pending_operation` been set? -/
def RegisterPc.marked (handle : Bool) : RegisterPc → Bool
  | .publish => handle
  | .returned code => code == .ok
  | _ => false

/-- When the loop thread looks at `platform_data` or `pending_operation` for a completed
read, the registering thread has stored it; and the first completion is not a cancelled
one. -/
def Step.late (s : State) (r : Record) : Step → Bool
  | .loop .loop =>
      match s.shared.loop with
      | .demux (.read _) => s.register.published s.handle
      | .classify _ => s.register.marked s.handle
      | .checkStatus _ => !r.outcomes.isEmpty || s.shared.data.all fun b => !isCancelled b
      | _ => true
  | _ => true

/-- The loop does not look at the registration too early. -/
def Step.Late (s : State × Record) (l : Step) : Prop := l.late s.1 s.2 = true

instance (s : State × Record) (l : Step) : Decidable (Step.Late s l) :=
  inferInstanceAs (Decidable (l.late s.1 s.2 = true))

/-! ### The invariant -/

/-- Is the block allocated? -/
def RegisterPc.allocated : RegisterPc → Bool
  | .alloc => false
  | .returned code => code == .ok
  | _ => true

/-- Has the loop thread seen `platform_data` for the read that it decides on? -/
def decides : LoopPc → Bool
  | .checkStatus _ => true
  | .clearPending => true
  | .classify _ => true
  | _ => false

/-- Has the loop thread decided on a read, and not yet issued the next? -/
def decided : LoopPc → Bool
  | .readCallback .. => true
  | .rearmCheck .. => true
  | .rearmMark => true
  | .rearmIssue => true
  | .retract => true
  | _ => false

/-- Is the flag set for a read that is about to be issued, or was refused? -/
def intends : LoopPc → Bool
  | .rearmIssue => true
  | .retract => true
  | _ => false

/-- What holds at every point of a run in which the loop is late. -/
structure Inv (s : State) (r : Record) : Prop where
  reads : s.events.has .read = true
  published : ∀ w, s.shared.watcher = some w → s.register.published s.handle = true →
    w.platformData = true
  data : s.register.allocated = true → s.shared.data.isSome = true
  going : ∀ b, s.shared.data = some b → b.stopping = false
  loop : s.shared.loop ≠ .freeData ∧ s.shared.loop ≠ .clearData
  seen : decides s.shared.loop = true → s.register.published s.handle = true
  cleared : s.shared.loop = .clearPending → r.outcomes ≠ []
  once : r.issued = r.outcomes.length + unresolved s.shared
  single : unresolved s.shared + (decided s.shared.loop).toNat ≤ 1
  /-- Nothing is decided before the registration has returned. -/
  fresh : s.register ≠ .returned .ok →
    r = ⟨(s.register.issued s.handle).toNat, []⟩ ∧ decided s.shared.loop = false
  pending : s.register.marked s.handle = true → ∀ b, s.shared.data = some b →
    (b.pendingOperation = true ↔ 0 < unresolved s.shared ∨ intends s.shared.loop = true)
  first : r.outcomes.head?.all Outcome.loud = true

section

variable {s s' : State} {r : Record} {b : IocpWatcherData} {pc : LoopPc}

theorem returned_of_marked (hm : s.register.marked s.handle = true)
    (hp : s.register.published s.handle = true) : s.register = .returned .ok := by
  cases hr : s.register with
  | returned code =>
      rw [hr] at hp
      rw [eq_of_beq hp]
  | issue => rw [hr] at hm; exact nomatch hm
  | mark => rw [hr] at hm; exact nomatch hm
  | publish => rw [hr] at hp; exact nomatch hp
  | alloc => rw [hr] at hm; exact nomatch hm
  | associate => rw [hr] at hm; exact nomatch hm

/-- The loop thread moves on, and decides on a read at most when the registration has
returned. -/
theorem Inv.loopMove (h : Inv s r) {d : Option IocpWatcherData} {os : List Outcome}
    (hd : s.shared.data.isSome = true → d.isSome = true)
    (hgo : ∀ b, d = some b → b.stopping = false) (hpc : pc ≠ .freeData ∧ pc ≠ .clearData)
    (hseen : decides pc = true → s.register.published s.handle = true)
    (hclear : pc = .clearPending → r.outcomes ≠ [])
    (hsum : os.length + taken pc = taken s.shared.loop)
    (hdecided : taken pc + (decided pc).toNat ≤
      taken s.shared.loop + (decided s.shared.loop).toNat)
    (hpend : s.register.marked s.handle = true → ∀ b, d = some b →
      (b.pendingOperation = true ↔ 0 < s.shared.port.count isRead + taken pc ∨ intends pc = true))
    (hos : os ≠ [] → s.register = .returned .ok)
    (hfirst : (r.outcomes ++ os).head?.all Outcome.loud = true) :
    Inv { s with shared := { s.shared with data := d, loop := pc } }
      { r with outcomes := r.outcomes ++ os } where
  reads := h.reads
  published := h.published
  data ha := hd (h.data ha)
  going := hgo
  loop := hpc
  seen := hseen
  cleared hc happ := hclear hc (List.append_eq_nil_iff.1 happ).1
  once := by
    have honce := h.once
    rw [unresolved] at honce ⊢
    rw [List.length_append]
    dsimp only
    omega
  single := by
    have hsingle := h.single
    rw [unresolved] at hsingle ⊢
    dsimp only
    omega
  fresh hr := by
    obtain ⟨hempty, hno⟩ := h.fresh hr
    have hnone : os = [] := by
      by_contra hne
      exact hr (hos hne)
    subst hnone
    rw [List.length_nil, Nat.zero_add] at hsum
    rw [hno, hsum, Bool.toNat_false] at hdecided
    refine ⟨by rw [List.append_nil]; exact hempty, ?_⟩
    rw [← Bool.not_eq_true]
    intro hyes
    rw [hyes, Bool.toNat_true] at hdecided
    omega
  pending := hpend
  first := hfirst

/-- The loop thread moves on without a decision. -/
theorem Inv.loopOn (h : Inv s r) {d : Option IocpWatcherData}
    (hd : s.shared.data.isSome = true → d.isSome = true)
    (hgo : ∀ b, d = some b → b.stopping = false) (hpc : pc ≠ .freeData ∧ pc ≠ .clearData)
    (hseen : decides pc = true → s.register.published s.handle = true)
    (hclear : pc = .clearPending → r.outcomes ≠ []) (hsum : taken pc = taken s.shared.loop)
    (hdecided : decided pc = true → decided s.shared.loop = true)
    (hpend : s.register.marked s.handle = true → ∀ b, d = some b →
      (b.pendingOperation = true ↔ 0 < s.shared.port.count isRead + taken pc ∨ intends pc = true)) :
    Inv { s with shared := { s.shared with data := d, loop := pc } } r := by
  have hno : r = { r with outcomes := r.outcomes ++ [] } := by rw [List.append_nil]
  rw [hno]
  refine h.loopMove hd hgo hpc hseen hclear (by simpa using hsum) ?_ hpend
    (fun hne => absurd rfl hne)
    (by rw [List.append_nil]; exact h.first)
  rw [hsum]
  refine Nat.add_le_add_left ?_ _
  cases hyes : decided pc with
  | false => exact Nat.zero_le _
  | true => exact Nat.le_of_eq (congrArg Bool.toNat (hdecided hyes).symm)

/-- The loop thread decides on the read that it has taken up, which is the only one, and clears
the flag. -/
theorem Inv.decide (h : Inv s r) {o : Outcome} (htaken : taken s.shared.loop = 1)
    (hreg : s.register = .returned .ok) (hgo : b.stopping = false)
    (hclear : b.pendingOperation = false) (hpc : pc ≠ .freeData ∧ pc ≠ .clearData)
    (hnext : pc ≠ .clearPending) (hseen : decides pc = true → s.register.published s.handle = true)
    (hnone : taken pc = 0) (hnot : intends pc = false)
    (hfirst : (r.outcomes ++ [o]).head?.all Outcome.loud = true) :
    Inv { s with shared := { s.shared with data := some b, loop := pc } }
      { r with outcomes := r.outcomes ++ [o] } := by
  have hsingle := h.single
  rw [unresolved, htaken] at hsingle
  refine h.loopMove (fun _ => rfl) (fun c hc => ?_) hpc hseen (fun heq => absurd heq hnext)
    (by rw [hnone, htaken]; rfl) ?_ (fun _ c hc => ?_) (fun _ => hreg) hfirst
  · obtain rfl := Option.some.inj hc
    exact hgo
  · have hone := Bool.toNat_le (decided pc)
    omega
  · obtain rfl := Option.some.inj hc
    have hzero : s.shared.port.count isRead = 0 := by omega
    simp [hzero, hnone, hnot, hclear]

/-- One access of the loop thread. -/
theorem Inv.loopStep (h : Inv s r) (hok : Step.late s r (.loop .loop) = true)
    {k : CrossThread.State} (hstep : CrossThread.loopStep s.shared = some k) :
    Inv { s with shared := k } { r with outcomes := r.outcomes ++ outcomeOf s.shared } := by
  have hsingle := h.single
  rw [unresolved] at hsingle
  have hpend : s.register.marked s.handle = true → ∀ b, s.shared.data = some b →
      (b.pendingOperation = true ↔
        0 < s.shared.port.count isRead + taken s.shared.loop ∨ intends s.shared.loop = true) :=
    h.pending
  -- a decision is made only where the watcher is registered
  have hreg : 0 < r.outcomes.length ∨ decided s.shared.loop = true →
      s.register = .returned .ok := by
    intro hor
    by_contra hne
    obtain ⟨rfl, hno⟩ := h.fresh hne
    rcases hor with hpos | hyes
    · exact absurd hpos (Nat.lt_irrefl 0)
    · exact nomatch hno.symm.trans hyes
  cases hl : s.shared.loop with
  | checkStopping p =>
      have hout : outcomeOf s.shared = [] := by simp [outcomeOf, hl]
      have hmove : Inv { s with shared := { s.shared with loop := .demux p } } r := by
        refine h.loopOn id h.going ⟨nofun, nofun⟩ nofun nofun (by rw [hl]; rfl) nofun ?_
        rw [hl] at hpend
        exact hpend
      rw [hout, List.append_nil]
      simp only [CrossThread.loopStep, hl] at hstep
      obtain ⟨w, -, hstep⟩ := Option.bind_eq_some_iff.1 hstep
      split_ifs at hstep
      · obtain rfl := Option.some.inj hstep
        exact hmove
      · obtain ⟨b, hb, hstep⟩ := Option.bind_eq_some_iff.1 hstep
        rw [h.going b hb, if_neg Bool.false_ne_true] at hstep
        obtain rfl := Option.some.inj hstep
        exact hmove
  | demux p =>
      simp only [CrossThread.loopStep, hl] at hstep
      obtain ⟨w, hw, hstep⟩ := Option.bind_eq_some_iff.1 hstep
      rw [hl] at hpend
      -- a packet that is not one of a read
      have hother : isRead p = false → outcomeOf s.shared = [] →
          ∀ pc, pc = .dispatch ∨ pc = .writeCallback → some { s.shared with loop := pc } = some k →
          Inv { s with shared := k } { r with outcomes := r.outcomes ++ outcomeOf s.shared } := by
        intro hp hout pc hpc hk
        have hzero : taken (.demux p) = 0 := by rw [taken, hp, Bool.toNat_false]
        rw [hzero] at hpend
        rw [hout, List.append_nil]
        obtain rfl := Option.some.inj hk
        rcases hpc with rfl | rfl
        · exact h.loopOn id h.going ⟨nofun, nofun⟩ nofun nofun (by rw [hl, hzero]; rfl) nofun hpend
        · exact h.loopOn id h.going ⟨nofun, nofun⟩ nofun nofun (by rw [hl, hzero]; rfl) nofun hpend
      cases p with
      | read n =>
          have hpub : s.register.published s.handle = true := by
            simpa [Step.late, hl] using hok
          have hdata := h.published w hw hpub
          have hout : outcomeOf s.shared = [] := by simp [outcomeOf, hl, hw, hdata]
          rw [hdata, Bool.not_true, if_neg Bool.false_ne_true] at hstep
          obtain rfl := Option.some.inj hstep
          rw [hout, List.append_nil]
          refine h.loopOn id h.going ⟨nofun, nofun⟩ (fun _ => hpub) nofun (by rw [hl]; rfl) nofun ?_
          exact hpend
      | write => exact hother rfl (by simp [outcomeOf, hl]) _ (by split <;> simp) hstep
      | drain => exact hother rfl (by simp [outcomeOf, hl]) _ (by split <;> simp) hstep
      | other => exact hother rfl (by simp [outcomeOf, hl]) _ (by split <;> simp) hstep
  | checkStatus n =>
      have hout : outcomeOf s.shared = [] := by simp [outcomeOf, hl]
      have hseen := h.seen (by rw [hl]; rfl)
      rw [hl] at hpend
      rw [hout, List.append_nil]
      simp only [CrossThread.loopStep, hl] at hstep
      obtain ⟨b, hb, hstep⟩ := Option.bind_eq_some_iff.1 hstep
      by_cases hcancel : isCancelled b = true
      · rw [if_pos hcancel] at hstep
        obtain rfl := Option.some.inj hstep
        have hlater : r.outcomes ≠ [] := by
          simpa [Step.late, hl, hb, hcancel] using hok
        exact h.loopOn id h.going ⟨nofun, nofun⟩ (fun _ => hseen) (fun _ => hlater)
          (by rw [hl]; rfl) nofun hpend
      · rw [if_neg hcancel] at hstep
        obtain rfl := Option.some.inj hstep
        exact h.loopOn id h.going ⟨nofun, nofun⟩ (fun _ => hseen) nofun (by rw [hl]; rfl) nofun
          hpend
  | clearPending =>
      have hout : outcomeOf s.shared = [.cancelled] := by simp [outcomeOf, hl]
      have hlater := h.cleared hl
      rw [hout]
      simp only [CrossThread.loopStep, hl] at hstep
      obtain ⟨w, hw, hstep⟩ := Option.bind_eq_some_iff.1 hstep
      rw [h.published w hw (h.seen (by rw [hl]; rfl)), Bool.not_true,
        if_neg Bool.false_ne_true] at hstep
      obtain ⟨b, hb, hstep⟩ := Option.bind_eq_some_iff.1 hstep
      obtain rfl := Option.some.inj hstep
      refine h.decide (by rw [hl]; rfl) (hreg (Or.inl (List.length_pos_iff.2 hlater)))
        (h.going b hb) rfl ⟨nofun, nofun⟩ nofun nofun rfl rfl ?_
      rw [List.head?_append_of_ne_nil _ hlater]
      exact h.first
  | classify n =>
      have hmarked : s.register.marked s.handle = true := by
        simpa [Step.late, hl] using hok
      have hpub := h.seen (by rw [hl]; rfl)
      simp only [CrossThread.loopStep, hl] at hstep
      obtain ⟨w, hw, hstep⟩ := Option.bind_eq_some_iff.1 hstep
      have hdata := h.published w hw hpub
      rw [hdata, Bool.not_true, if_neg Bool.false_ne_true] at hstep
      obtain ⟨b, hb, hstep⟩ := Option.bind_eq_some_iff.1 hstep
      obtain rfl := Option.some.inj hstep
      have hout : outcomeOf s.shared = [.event (readEvents b n)] := by
        simp [outcomeOf, hl, hw, hdata, hb]
      have hset : b.pendingOperation = true := by
        refine (hpend hmarked b hb).2 (Or.inl ?_)
        rw [hl]
        exact Nat.lt_of_lt_of_le Nat.zero_lt_one (Nat.le_add_left ..)
      have hloud : Outcome.loud (.event (readEvents b n)) = true := by
        rcases readEvents_cases (n := n) hset with ⟨heq, -⟩ | heq | heq <;> rw [heq] <;> rfl
      rw [hout]
      refine h.decide (by rw [hl]; rfl) (returned_of_marked hmarked hpub) (h.going b hb) rfl
        ⟨nofun, nofun⟩ nofun nofun rfl rfl ?_
      cases hr : r.outcomes with
      | nil => exact hloud
      | cons o os =>
          have hfirst := h.first
          rw [hr] at hfirst
          exact hfirst
  | rearmCheck events n =>
      have hout : outcomeOf s.shared = [] := by simp [outcomeOf, hl]
      rw [hl] at hpend
      have hmove : ∀ pc, pc = .dispatch ∨ pc = .rearmMark →
          Inv { s with shared := { s.shared with loop := pc } } r := by
        rintro pc (rfl | rfl)
        · exact h.loopOn id h.going ⟨nofun, nofun⟩ nofun nofun (by rw [hl]; rfl) nofun hpend
        · exact h.loopOn id h.going ⟨nofun, nofun⟩ nofun nofun (by rw [hl]; rfl)
            (fun _ => by rw [hl]; rfl) hpend
      rw [hout, List.append_nil]
      simp only [CrossThread.loopStep, hl] at hstep
      obtain ⟨w, -, hstep⟩ := Option.bind_eq_some_iff.1 hstep
      split_ifs at hstep
      · obtain rfl := Option.some.inj hstep
        exact hmove _ (Or.inl rfl)
      · obtain ⟨b, hb, hstep⟩ := Option.bind_eq_some_iff.1 hstep
        rw [h.going b hb, if_neg Bool.false_ne_true] at hstep
        obtain rfl := Option.some.inj hstep
        exact hmove _ (Or.inr rfl)
  | rearmMark =>
      have hout : outcomeOf s.shared = [] := by simp [outcomeOf, hl]
      rw [hout, List.append_nil]
      simp only [CrossThread.loopStep, hl] at hstep
      obtain ⟨b, hb, hstep⟩ := Option.bind_eq_some_iff.1 hstep
      obtain rfl := Option.some.inj hstep
      refine h.loopOn (fun _ => rfl) (fun c hc => ?_) ⟨nofun, nofun⟩ nofun nofun (by rw [hl]; rfl)
        (fun _ => by rw [hl]; rfl) (fun _ c hc => ?_)
      · obtain rfl := Option.some.inj hc
        exact h.going b hb
      · obtain rfl := Option.some.inj hc
        exact ⟨fun _ => Or.inr rfl, fun _ => rfl⟩
  | retract =>
      have hout : outcomeOf s.shared = [] := by simp [outcomeOf, hl]
      rw [hl] at hsingle
      rw [hout, List.append_nil]
      simp only [CrossThread.loopStep, hl] at hstep
      obtain ⟨b, hb, hstep⟩ := Option.bind_eq_some_iff.1 hstep
      obtain rfl := Option.some.inj hstep
      refine h.loopOn (fun _ => rfl) (fun c hc => ?_) ⟨nofun, nofun⟩ nofun nofun (by rw [hl]; rfl)
        nofun (fun _ c hc => ?_)
      · obtain rfl := Option.some.inj hc
        exact h.going b hb
      · obtain rfl := Option.some.inj hc
        have hnone : s.shared.port.count isRead = 0 := by
          have : (decided .retract).toNat = 1 := rfl
          omega
        simp [hnone, taken, intends]
  | freeData => exact absurd hl h.loop.1
  | clearData => exact absurd hl h.loop.2
  | idle => simp [CrossThread.loopStep, hl] at hstep
  | waiting => simp [CrossThread.loopStep, hl] at hstep
  | dispatch => simp [CrossThread.loopStep, hl] at hstep
  | other => simp [CrossThread.loopStep, hl] at hstep
  | writeCallback => simp [CrossThread.loopStep, hl] at hstep
  | readCallback events n => simp [CrossThread.loopStep, hl] at hstep
  | rearmIssue => simp [CrossThread.loopStep, hl] at hstep

/-- A step after which as many reads are to be decided on, and the flag is as it was. -/
theorem Inv.keep (h : Inv s r) {k : CrossThread.State} (hw : k.watcher = s.shared.watcher)
    (hd : ∀ c, k.data = some c → ∃ b, s.shared.data = some b ∧ c.stopping = b.stopping ∧
      c.pendingOperation = b.pendingOperation)
    (hsome : s.shared.data.isSome = true → k.data.isSome = true)
    (hun : unresolved k = unresolved s.shared)
    (hpc : (k.loop ≠ .freeData ∧ k.loop ≠ .clearData) ∧ decides k.loop = false ∧
        decided k.loop = decided s.shared.loop ∧ intends k.loop = intends s.shared.loop ∨
      k.loop = s.shared.loop) : Inv { s with shared := k } r := by
  have hloop : (k.loop ≠ .freeData ∧ k.loop ≠ .clearData) ∧
      (decides k.loop = true → k.loop = s.shared.loop) ∧ decided k.loop = decided s.shared.loop ∧
      intends k.loop = intends s.shared.loop := by
    rcases hpc with ⟨hne, hno, hdec, hint⟩ | heq
    · exact ⟨hne, fun hyes => absurd hyes (by rw [hno]; exact Bool.false_ne_true), hdec, hint⟩
    · rw [heq]
      exact ⟨h.loop, fun _ => rfl, rfl, rfl⟩
  obtain ⟨hne, hdecides, hdec, hint⟩ := hloop
  refine ⟨h.reads, fun w hkw => h.published w (hw ▸ hkw), fun ha => hsome (h.data ha),
    fun c hc => ?_, hne, fun hyes => h.seen (hdecides hyes ▸ hyes), fun hc => ?_, ?_, ?_,
    fun hr => ?_, fun hm c hc => ?_, h.first⟩
  · obtain ⟨b, hb, hstop, -⟩ := hd c hc
    exact hstop.trans (h.going b hb)
  · have hyes : decides k.loop = true := by
      rw [show k.loop = .clearPending from hc]
      rfl
    exact h.cleared ((hdecides hyes).symm.trans hc)
  · exact hun ▸ h.once
  · show unresolved k + (decided k.loop).toNat ≤ 1
    rw [hun, hdec]
    exact h.single
  · show _ ∧ decided k.loop = false
    rw [hdec]
    exact h.fresh hr
  · show _ ↔ 0 < unresolved k ∨ intends k.loop = true
    obtain ⟨b, hb, -, hpend⟩ := hd c hc
    rw [hpend, hun, hint]
    exact h.pending hm b hb

/-- The next read is issued. -/
theorem Inv.issue (h : Inv s r) (hl : s.shared.loop = .rearmIssue)
    (hb : s.shared.data = some b) (hset : b.pendingOperation = true) :
    Inv { s with shared := { s.shared with
        port := s.shared.port.issue (.read 0)
        data := s.shared.data.map fun b => { b with internal := STATUS_PENDING }
        loop := .dispatch } }
      { r with issued := r.issued + 1 } := by
  have hreg : s.register = .returned .ok := by
    by_contra hne
    have hno := (h.fresh hne).2
    rw [hl] at hno
    exact nomatch hno
  have hone := h.single
  rw [hl] at hone
  have hun : unresolved { s.shared with
      port := s.shared.port.issue (.read 0)
      data := s.shared.data.map fun b => { b with internal := STATUS_PENDING }
      loop := .dispatch } = unresolved s.shared + 1 := by
    rw [unresolved, unresolved, hl, Port.count_issue]
    rfl
  refine ⟨h.reads, h.published, fun _ => ?_, fun c hc => ?_, ⟨nofun, nofun⟩, nofun, nofun, ?_, ?_,
    fun hne => absurd hreg hne, fun _ c hc => ?_, h.first⟩
  · rw [hb]
    rfl
  · rw [hb] at hc
    obtain rfl := Option.some.inj hc
    exact h.going b hb
  · show r.issued + 1 = r.outcomes.length + unresolved _
    rw [hun, h.once]
    rfl
  · rw [hun]
    have : (decided .rearmIssue).toNat = 1 := rfl
    show unresolved s.shared + 1 + 0 ≤ 1
    omega
  · rw [hb] at hc
    obtain rfl := Option.some.inj hc
    rw [hun]
    exact ⟨fun _ => Or.inl (Nat.succ_pos _), fun _ => hset⟩

/-- A step of the loop thread or the kernel. -/
theorem Inv.ofLoop (h : Inv s r) {l : CrossThread.Step} (hok : Step.late s r (.loop l) = true)
    (hl : ofLoop s l = true) {k : CrossThread.State}
    (hstep : CrossThread.step s.shared l = some k) :
    Inv { s with shared := k } (note s (.loop l) r) := by
  have hsame : ∀ c, s.shared.data = some c → ∃ b, s.shared.data = some b ∧
      c.stopping = b.stopping ∧ c.pendingOperation = b.pendingOperation :=
    fun c hc => ⟨c, hc, rfl, rfl⟩
  cases l with
  | enter =>
      simp only [CrossThread.step, Option.ite_none_right_eq_some, Option.some.injEq] at hstep
      obtain ⟨hidle, rfl⟩ := hstep
      refine h.keep rfl hsame id ?_
        (Or.inl ⟨⟨nofun, nofun⟩, rfl, by rw [hidle]; rfl, by rw [hidle]; rfl⟩)
      rw [unresolved, unresolved, hidle]
      rfl
  | take n =>
      simp only [CrossThread.step, Option.ite_none_right_eq_some, Option.some.injEq] at hstep
      obtain ⟨⟨hwait, -⟩, rfl⟩ := hstep
      refine h.keep rfl hsame id ?_
        (Or.inl ⟨⟨nofun, nofun⟩, rfl, by rw [hwait]; rfl, by rw [hwait]; rfl⟩)
      rw [unresolved, unresolved, hwait, Port.count_take]
      rfl
  | next =>
      simp only [CrossThread.step, CrossThread.loopNext, Option.ite_none_right_eq_some] at hstep
      obtain ⟨hdisp, hstep⟩ := hstep
      have hzero : unresolved s.shared = s.shared.port.count isRead := by
        rw [unresolved, hdisp]
        rfl
      have hpc : decided s.shared.loop = false ∧ intends s.shared.loop = false := by
        rw [hdisp]
        exact ⟨rfl, rfl⟩
      have hmove : ∀ pc port sig, (pc ≠ .freeData ∧ pc ≠ .clearData) → decides pc = false →
          decided pc = false → intends pc = false →
          port.count isRead + taken pc = s.shared.port.count isRead →
          some { s.shared with port, loop := pc, signalled := sig } = some k →
          Inv { s with shared := k } r := by
        intro pc port sig hne hno hdec hint hcount hk
        obtain rfl := Option.some.inj hk
        refine h.keep rfl hsame id ?_
          (Or.inl ⟨hne, hno, hdec.trans hpc.1.symm, hint.trans hpc.2.symm⟩)
        rw [hzero]
        exact hcount
      cases hp : s.shared.port.next with
      | none =>
          rw [hp] at hstep
          exact hmove .idle _ _ ⟨nofun, nofun⟩ rfl rfl rfl rfl hstep
      | some q =>
          obtain ⟨p, port⟩ := q
          have hcount := Port.count_of_next (q := isRead) hp
          rw [hp] at hstep
          cases p with
          | read n =>
              exact hmove (.checkStopping (.read n)) _ _ ⟨nofun, nofun⟩ rfl rfl rfl hcount.symm
                hstep
          | write =>
              exact hmove (.checkStopping .write) _ _ ⟨nofun, nofun⟩ rfl rfl rfl hcount.symm hstep
          | drain =>
              exact hmove .dispatch _ _ ⟨nofun, nofun⟩ rfl rfl rfl hcount.symm
                (by rw [← hstep, hdisp])
          | other => exact hmove .other _ _ ⟨nofun, nofun⟩ rfl rfl rfl hcount.symm hstep
  | loop => exact h.loopStep hok hstep
  | ret =>
      have hmove : ∀ pc, taken pc = taken s.shared.loop → (pc ≠ .freeData ∧ pc ≠ .clearData) →
          decides pc = false → decided pc = decided s.shared.loop →
          intends pc = intends s.shared.loop → some { s.shared with loop := pc } = some k →
          Inv { s with shared := k } r := by
        intro pc htaken hne hno hdec hint hk
        obtain rfl := Option.some.inj hk
        refine h.keep rfl hsame id ?_ (Or.inl ⟨hne, hno, hdec, hint⟩)
        rw [unresolved, unresolved, htaken]
      simp only [CrossThread.step] at hstep
      cases hloop : s.shared.loop with
      | other =>
          rw [hloop] at hstep hmove
          exact hmove .dispatch rfl ⟨nofun, nofun⟩ rfl rfl rfl hstep
      | writeCallback =>
          rw [hloop] at hstep hmove
          exact hmove .dispatch rfl ⟨nofun, nofun⟩ rfl rfl rfl hstep
      | readCallback events n =>
          rw [hloop] at hstep hmove
          exact hmove (.rearmCheck events n) rfl ⟨nofun, nofun⟩ rfl rfl rfl hstep
      | idle => rw [hloop] at hstep; exact nomatch hstep
      | waiting => rw [hloop] at hstep; exact nomatch hstep
      | dispatch => rw [hloop] at hstep; exact nomatch hstep
      | checkStopping => rw [hloop] at hstep; exact nomatch hstep
      | freeData => rw [hloop] at hstep; exact nomatch hstep
      | clearData => rw [hloop] at hstep; exact nomatch hstep
      | demux => rw [hloop] at hstep; exact nomatch hstep
      | checkStatus => rw [hloop] at hstep; exact nomatch hstep
      | clearPending => rw [hloop] at hstep; exact nomatch hstep
      | classify => rw [hloop] at hstep; exact nomatch hstep
      | rearmCheck => rw [hloop] at hstep; exact nomatch hstep
      | rearmMark => rw [hloop] at hstep; exact nomatch hstep
      | rearmIssue => rw [hloop] at hstep; exact nomatch hstep
      | retract => rw [hloop] at hstep; exact nomatch hstep
  | issue ok =>
      simp only [CrossThread.step, Option.ite_none_right_eq_some] at hstep
      obtain ⟨hissue, hstep⟩ := hstep
      obtain ⟨w, -, hstep⟩ := Option.bind_eq_some_iff.1 hstep
      cases ok with
      | true =>
          have hreg : s.register = .returned .ok := by
            by_contra hne
            have hno := (h.fresh hne).2
            rw [hissue] at hno
            exact nomatch hno
          obtain ⟨b, hb⟩ := Option.isSome_iff_exists.1 (h.data (by rw [hreg]; rfl))
          have hset := (h.pending (by rw [hreg]; rfl) b hb).2 (Or.inr (by rw [hissue]; rfl))
          obtain rfl := Option.some.inj hstep
          exact h.issue hissue hb hset
      | false =>
          obtain rfl := Option.some.inj hstep
          refine h.keep rfl hsame id ?_
            (Or.inl ⟨⟨nofun, nofun⟩, rfl, by rw [hissue]; rfl, by rw [hissue]; rfl⟩)
          rw [unresolved, unresolved, hissue]
          rfl
  | clientWrite =>
      obtain rfl := Option.some.inj hstep
      refine h.keep rfl hsame id ?_ (Or.inr rfl)
      rw [unresolved, unresolved, Port.count_issue]
      rfl
  | post =>
      obtain rfl := Option.some.inj hstep
      refine h.keep rfl hsame id ?_ (Or.inr rfl)
      rw [unresolved, unresolved, Port.count_post]
      rfl
  | complete p status n =>
      simp only [CrossThread.step, CrossThread.completeStep, Option.ite_none_right_eq_some] at hstep
      obtain ⟨hp, hstep⟩ := hstep
      cases p with
      | drain => exact nomatch hstep
      | other => exact nomatch hstep
      | write =>
          obtain rfl := Option.some.inj hstep
          refine h.keep rfl hsame id ?_ (Or.inr rfl)
          rw [unresolved, unresolved, Port.count_complete_eq hp rfl]
      | read m =>
          obtain rfl := Option.some.inj hstep
          refine h.keep rfl (fun c hc => ?_) (fun hd => ?_) ?_ (Or.inr rfl)
          · obtain ⟨b, hb, rfl⟩ := Option.map_eq_some_iff.1 hc
            exact ⟨b, hb, rfl, rfl⟩
          · rwa [Option.isSome_map]
          · rw [unresolved, unresolved, Port.count_complete_eq hp rfl]
  | update => exact nomatch hl
  | stop => exact nomatch hl
  | destroy => exact nomatch hl
  | createEvent => exact nomatch hl
  | postSync => exact nomatch hl
  | wake => exact nomatch hl
  | expire => exact nomatch hl

/-- The registering thread moves on, with as many reads issued as its new position says. -/
theorem Inv.advance (h : Inv s r) (hne : s.register ≠ .returned .ok) {k : CrossThread.State}
    {reg : RegisterPc} (hloop : k.loop = s.shared.loop)
    (hcount : unresolved k = (reg.issued s.handle).toNat)
    (hpub : ∀ w, k.watcher = some w → reg.published s.handle = true → w.platformData = true)
    (hseen : decides s.shared.loop = true → reg.published s.handle = true)
    (hdata : reg.allocated = true → k.data.isSome = true)
    (hgo : ∀ b, k.data = some b → b.stopping = false)
    (hpend : reg.marked s.handle = true → ∀ b, k.data = some b →
      (b.pendingOperation = true ↔ reg.issued s.handle = true)) :
    Inv { s with shared := k, register := reg } ⟨(reg.issued s.handle).toNat, []⟩ := by
  obtain ⟨hrecord, hdecided⟩ := h.fresh hne
  have hintends : intends s.shared.loop = false := by
    cases hl : s.shared.loop <;> first | rfl | (rw [hl] at hdecided; exact nomatch hdecided)
  refine ⟨h.reads, hpub, hdata, hgo, hloop ▸ h.loop, fun hd => hseen (hloop ▸ hd),
    fun hc => ?_, ?_, ?_, fun _ => ⟨rfl, ?_⟩, fun hm b hb => ?_, rfl⟩
  · have hsome := h.cleared (hloop ▸ hc)
    rw [hrecord] at hsome
    exact absurd rfl hsome
  · show (reg.issued s.handle).toNat = 0 + unresolved k
    rw [hcount, Nat.zero_add]
  · show unresolved k + (decided k.loop).toNat ≤ 1
    rw [hcount, hloop, hdecided]
    exact Bool.toNat_le _
  · exact hloop ▸ hdecided
  · show b.pendingOperation = true ↔ 0 < unresolved k ∨ intends k.loop = true
    rw [hpend hm b hb, hcount, hloop, hintends]
    cases reg.issued s.handle <;> simp

/-- Before the registration returns, as many reads are to be decided on as it has issued. -/
theorem Inv.unresolved_of_fresh (h : Inv s r) (hne : s.register ≠ .returned .ok) :
    unresolved s.shared = (s.register.issued s.handle).toNat := by
  have honce := h.once
  rw [(h.fresh hne).1] at honce
  exact (honce.trans (Nat.zero_add _)).symm

theorem note_register (hne : s.register ≠ .issue) (ok : Bool) : note s (.register ok) r = r :=
  if_neg fun hi => hne hi.1

theorem taken_of_decides (hd : decides pc = true) : taken pc = 1 := by
  cases pc with
  | checkStatus n => rfl
  | clearPending => rfl
  | classify n => rfl
  | _ => exact nomatch hd

/-- A step of the registering thread. -/
theorem Inv.register (h : Inv s r) {ok : Bool} (hstep : registerStep s ok = some s') :
    Inv s' (note s (.register ok) r) := by
  have hread := h.reads
  have hseen := h.seen
  have hpub := h.published
  have hdata := h.data
  have hpend := h.pending
  have hfresh := fun hne => (h.fresh hne).1
  have hnone := h.unresolved_of_fresh
  have hstay := note_register (s := s) (r := r)
  have hadvance := h.advance
  cases hreg : s.register with
  | returned code =>
      simp only [registerStep, hreg] at hstep
      exact nomatch hstep
  | alloc =>
      rw [hreg] at hfresh hnone hseen hstay hadvance
      rw [hstay nofun, hfresh nofun]
      simp only [registerStep, hreg] at hstep
      split_ifs at hstep
      · obtain rfl := Option.some.inj hstep
        refine hadvance nofun rfl (hnone nofun) nofun hseen (fun _ => rfl) (fun b hb => ?_) nofun
        obtain rfl := Option.some.inj hb
        rfl
      · obtain rfl := Option.some.inj hstep
        exact hadvance nofun rfl (hnone nofun) nofun hseen nofun h.going nofun
  | associate =>
      rw [hreg] at hfresh hnone hseen hdata hstay hadvance
      rw [hstay nofun, hfresh nofun]
      simp only [registerStep, hreg, hread, Bool.and_true] at hstep
      obtain ⟨w, hw, hstep⟩ := Option.bind_eq_some_iff.1 hstep
      split_ifs at hstep with hok hhandle
      · -- `iocp_watcher_register_handle` goes on to the read
        obtain rfl := Option.some.inj hstep
        have hno : RegisterPc.issue.published s.handle = false := by rw [hhandle]; rfl
        exact hadvance nofun rfl (hnone nofun) (fun w _ hp => absurd hp (by rw [hno]; exact nofun))
          (fun hd => absurd (hseen hd) nofun) hdata h.going nofun
      · obtain rfl := Option.some.inj hstep
        have hno : RegisterPc.publish.issued s.handle = RegisterPc.associate.issued s.handle :=
          eq_false_of_ne_true hhandle
        rw [← hno]
        exact hadvance nofun rfl ((hnone nofun).trans (congrArg Bool.toNat hno.symm))
          (fun _ _ hp => nomatch hp) hseen hdata h.going (fun hm => absurd hm hhandle)
      · obtain rfl := Option.some.inj hstep
        exact hadvance nofun rfl (hnone nofun) nofun hseen nofun nofun nofun
      · obtain rfl := Option.some.inj hstep
        exact hadvance nofun rfl (hnone nofun) nofun hseen nofun nofun nofun
  | publish =>
      rw [hreg] at hfresh hnone hseen hdata hpend hstay hadvance
      rw [hstay nofun, hfresh nofun]
      simp only [registerStep, hreg, hread, Bool.and_true] at hstep
      obtain ⟨w, hw, hstep⟩ := Option.bind_eq_some_iff.1 hstep
      have hstored : ∀ v, some { w with platformData := true } = some v →
          v.platformData = true := by
        rintro v hv
        obtain rfl := Option.some.inj hv
        rfl
      split_ifs at hstep with hhandle
      · obtain rfl := Option.some.inj hstep
        have hno : s.handle = false := by simpa using hhandle
        rw [hno] at hnone hadvance ⊢
        exact hadvance nofun rfl (hnone nofun) (fun v hv _ => hstored v hv)
          (fun hd => absurd (hseen hd) nofun) hdata h.going nofun
      · obtain rfl := Option.some.inj hstep
        have hyes : s.handle = true := by simpa using hhandle
        rw [hyes] at hnone hpend hadvance ⊢
        refine hadvance nofun rfl (hnone nofun) (fun v hv _ => hstored v hv) (fun _ => rfl) hdata
          h.going (fun _ b hb => ⟨fun _ => rfl, fun _ => (hpend rfl b hb).2 (Or.inl ?_)⟩)
        rw [hnone nofun]
        exact Nat.zero_lt_one
  | issue =>
      rw [hreg] at hfresh hnone hseen hpub hadvance
      simp only [registerStep, hreg] at hstep
      obtain ⟨b, hb, hstep⟩ := Option.bind_eq_some_iff.1 hstep
      split_ifs at hstep with hok
      · obtain rfl := Option.some.inj hstep
        rw [note, if_pos ⟨hreg, hok⟩, hfresh nofun]
        refine hadvance nofun rfl ?_ hpub hseen (fun _ => rfl) (fun c hc => ?_) nofun
        · have hzero : unresolved s.shared = 0 := hnone nofun
          rw [unresolved] at hzero ⊢
          rw [Port.count_issue]
          show s.shared.port.count isRead + 1 + taken s.shared.loop = 1
          omega
        · obtain rfl := Option.some.inj hc
          exact h.going b hb
      · obtain rfl := Option.some.inj hstep
        rw [note, if_neg fun hi => hok hi.2, hfresh nofun]
        refine hadvance nofun rfl (hnone nofun) (fun _ _ hp => nomatch hp) (fun hd => ?_) nofun
          nofun nofun
        have htaken := taken_of_decides hd
        have hzero := hnone nofun
        rw [unresolved, htaken] at hzero
        exact nomatch hzero
  | mark =>
      rw [hreg] at hfresh hnone hseen hpub hstay hadvance
      rw [hstay nofun, hfresh nofun]
      simp only [registerStep, hreg] at hstep
      obtain ⟨b, hb, hstep⟩ := Option.bind_eq_some_iff.1 hstep
      obtain rfl := Option.some.inj hstep
      have hgo : ∀ c, some { b with pendingOperation := true } = some c →
          c.stopping = false ∧ c.pendingOperation = true := by
        rintro c hc
        obtain rfl := Option.some.inj hc
        exact ⟨h.going b hb, rfl⟩
      split_ifs with hhandle
      · rw [hhandle] at hnone hseen hadvance ⊢
        exact hadvance nofun rfl (hnone nofun) (fun _ _ hp => nomatch hp)
          (fun hd => absurd (hseen hd) nofun) (fun _ => rfl) (fun c hc => (hgo c hc).1)
          fun _ c hc => ⟨fun _ => rfl, fun _ => (hgo c hc).2⟩
      · have hno : s.handle = false := eq_false_of_ne_true hhandle
        rw [hno] at hnone hseen hpub hadvance ⊢
        exact hadvance nofun rfl (hnone nofun) hpub hseen (fun _ => rfl) (fun c hc => (hgo c hc).1)
          fun _ c hc => ⟨fun _ => rfl, fun _ => (hgo c hc).2⟩

theorem inv_unregistered (events : PdEvent) (handle id : Bool) (hread : events.has .read = true) :
    Inv (unregistered events handle id) ⟨0, []⟩ where
  reads := hread
  published _ _ hp := nomatch hp
  data ha := nomatch ha
  going _ hb := nomatch hb
  loop := ⟨nofun, nofun⟩
  seen hd := nomatch hd
  cleared hc := nomatch hc
  once := rfl
  single := Nat.zero_le 1
  fresh _ := ⟨rfl, rfl⟩
  pending hm := nomatch hm
  first := rfl

theorem inv_step (h : Inv s r) {l : Step} (hstep : step s l = some s') (hok : l.late s r = true) :
    Inv s' (note s l r) := by
  cases l with
  | register ok => exact h.register hstep
  | loop l =>
      simp only [step] at hstep
      split_ifs at hstep with hl
      obtain ⟨k, hk, rfl⟩ := Option.map_eq_some_iff.1 hstep
      exact h.ofLoop hok hl hk

theorem Inv.dispatched (h : Inv s r) : Dispatched s r where
  first := h.first
  once := h.once
  pending hret hfree := by
    obtain ⟨b, hb⟩ := Option.isSome_iff_exists.1 (h.data (by rw [hret]; rfl))
    have hidle : taken s.shared.loop = 0 ∧ intends s.shared.loop = false := by
      cases hl : s.shared.loop <;>
        first | exact ⟨rfl, rfl⟩ | (rw [hl] at hfree; exact nomatch hfree)
    refine ⟨b, hb, ?_⟩
    rw [h.pending (by rw [hret]; rfl) b hb, unresolved, hidle.1, hidle.2]
    simp

end

/-- If the loop thread looks at the registration late, the first completion is reported
once, and the flag tells whether a read is outstanding. -/
theorem first_dispatched {s : State} {r : Record} (h : registerRuns.Reach Step.Late (s, r)) :
    Dispatched s r := by
  have hinv : Inv s r := by
    refine Machine.Reach.recorded_invariant (I := Inv) ?_ ?_ h
    · rintro _ ⟨events, handle, id, hread, rfl⟩
      exact inv_unregistered events handle id hread
    · exact fun s r l s' hi hok hnext => inv_step hi hnext hok
  exact hinv.dispatched

/-- The first read completes when the registration has returned. -/
def readLater : List Step :=
  [.register true, .register true, .register true, .register true, .register true,
    .loop (.complete (.read 0) STATUS_SUCCESS 1), .loop .enter, .loop (.take 1), .loop .next,
    .loop .loop, .loop .loop, .loop .loop, .loop .loop, .loop .ret, .loop .loop, .loop .loop,
    .loop (.issue true), .loop .next]

theorem readLater_dispatched : ∃ s r,
    Machine.runGuarded Step.Late (Machine.recordStep step note)
      (unregistered .read false false, ⟨0, []⟩) readLater = some (s, r) ∧
      r = ⟨2, [.event .read]⟩ ∧ Dispatched s r := by
  have hrun : ∃ s r, Machine.runGuarded Step.Late (Machine.recordStep step note)
      (unregistered .read false false, ⟨0, []⟩) readLater = some (s, r) ∧
      r = ⟨2, [.event .read]⟩ := ⟨_, _, rfl, rfl⟩
  obtain ⟨s, r, hrun, hr⟩ := hrun
  exact ⟨s, r, hrun, hr,
    first_dispatched (.runGuarded (.init ⟨⟨.read, false, false, rfl, rfl⟩, rfl⟩) hrun)⟩

/-- The first read completes before `iocp_watcher_register` has set the flag. -/
def readAtOnce : List Step :=
  [.register true, .register true, .register true, .register true,
    .loop (.complete (.read 0) STATUS_SUCCESS 1), .loop .enter, .loop (.take 1), .loop .next,
    .loop .loop, .loop .loop, .loop .loop, .loop .loop, .loop .ret, .loop .loop, .loop .next,
    .register true]

/-- The completion is reported with an empty mask, and then the flag stands for no read. -/
theorem not_first_dispatched :
    ¬∀ s r, registerRuns.Reachable (s, r) → Dispatched s r := by
  intro hall
  have hrun : ∃ s r, Machine.run (Machine.recordStep step note)
      (unregistered .read false false, ⟨0, []⟩) readAtOnce = some (s, r) ∧
      r = ⟨1, [.event .none]⟩ := ⟨_, _, rfl, rfl⟩
  obtain ⟨s, r, hrun, rfl⟩ := hrun
  have hr : registerRuns.Reachable (s, ⟨1, [.event .none]⟩) :=
    .run (.init ⟨⟨.read, false, false, rfl, rfl⟩, rfl⟩) hrun
  exact absurd (hall s _ hr).first (by decide)

/-- The first read completes before `iocp_watcher_register_handle` has stored
`platform_data`, and is dropped. -/
def pipeAtOnce : List Step :=
  [.register true, .register true, .register true,
    .loop (.complete (.read 0) STATUS_SUCCESS 1), .loop .enter, .loop (.take 1), .loop .next,
    .loop .loop, .loop .loop, .loop .next, .register true, .register true]

example : (Machine.run (Machine.recordStep step note) (unregistered .read true false, ⟨0, []⟩)
    pipeAtOnce).map (fun s => (s.2, s.1.shared.data.map (·.pendingOperation), s.1.shared.port)) =
    some (⟨1, [.dropped]⟩, some true, Port.empty) := rfl

end CrossRegister
end Iocp
end PollDancer
