/-
# Waking a loop from other threads

`pd_loop_async_send` and `pd_loop_stop` of `src/loop.c` by any number of threads, and a
loop thread that calls `pd_loop_run_once` and then `pd_loop_get_async_data`, over and
over.  A send stores its data and then calls the backend's `async_send`; a stop stores the
flag and then calls it.  The backends wake the loop by different means: a counter that the
loop reads when it dispatches it (`epoll.c`), an event that `kevent` resets when it returns
it (`kqueue.c`), a packet for each call (`iocp.c`).

The store comes before the wake-up, and the look after the wait.  So on every backend a
loop that is blocked with nothing to wake it has seen the data of every send that
returned `PD_OK`, or later data (`sends_kept`), and, as long as the loop thread goes on,
every such data is seen in the end (`calls_answered`).  `pd_loop_stop` does not look at the
result of the wake-up, and returns `PD_OK` in any case: it stops a blocked loop exactly
on a backend whose wake-up is never refused (`stops_kept_iff`).
-/
import Mathlib.Data.Prod.Lex
import Mathlib.Logic.Function.Basic
import Mathlib.Tactic.Common
import PollDancer.Library.Fairness
import PollDancer.Library.Waker
import PollDancer.StopWakeup
import PollDancer.Types

namespace PollDancer
namespace Wakeup

open Library

/-- The backends. -/
inductive Backend
  | epoll
  | kqueue
  | iocp
  deriving DecidableEq, Repr

/-- What a backend keeps in the kernel for its wake-ups. -/
def Backend.Signals : Backend → Type
  | .epoll => ℕ
  | .kqueue => Bool
  | .iocp => ℕ

/-- The wake-up of a backend: the eventfd, which `epoll_loop_run` reads when it dispatches
it; the `EVFILT_USER` event, which is registered with `EV_CLEAR`; the packets with key zero
in the completion queue. -/
def Backend.waker : (b : Backend) → Waker b.Signals
  | .epoll => Waker.counter StopWakeup.eventfdMax (by decide)
  | .kqueue => Waker.latch
  | .iocp => Waker.queue

/-- Can the kernel refuse the wake-up?  The only error of a write to the eventfd is `EAGAIN`,
which `epoll_async_send` ignores; the other two report an error to their caller. -/
def Backend.refusable : Backend → Bool
  | .epoll => false
  | .kqueue => true
  | .iocp => true

/-- What a thread asks of the loop. -/
inductive Request
  | send (data : Addr)
  | stop
  deriving DecidableEq, Repr

/-- Where a thread is in `pd_loop_async_send` or `pd_loop_stop`. -/
inductive CallerPc
  | idle
  /-- Before the store. -/
  | begun (r : Request)
  /-- Between the store and the wake-up; `stamp` sends have stored their data by then. -/
  | stored (r : Request) (stamp : ℕ)
  deriving DecidableEq, Repr

/-- A call that has returned. -/
structure Call where
  request : Request
  stamp : ℕ
  /-- Has the kernel granted the wake-up? -/
  granted : Bool
  deriving DecidableEq, Repr

/-- What the call has returned: only `pd_loop_async_send` passes the result of the wake-up
on. -/
def Call.result (c : Call) : PdError :=
  match c.request with
  | .send _ => if c.granted then .ok else .system
  | .stop => .ok

/-- An event of one wait: the wake-up, or some watcher. -/
inductive Item
  | wake
  | watcher
  deriving DecidableEq, Repr

/-- Where the loop thread is. -/
inductive Pc
  /-- It has looked at the data, and will call `pd_loop_run_once`. -/
  | looked
  /-- At the locked check of `pd_loop_run_once`. -/
  | onceCheck
  /-- In the wait of `loop_run`. -/
  | wait
  /-- In the `for` of `loop_run`, with the events still to dispatch. -/
  | dispatch (batch : List Item)
  /-- `pd_loop_run_once` has returned, and `pd_loop_get_async_data` is next. -/
  | returned
  deriving DecidableEq, Repr

/-- The shared state, the threads, and what the loop thread has seen. -/
structure State (κ : Type) where
  pc : Pc
  stopRequested : Bool
  systemError : ℤ
  asyncData : Addr
  signals : κ
  callers : ℕ → CallerPc
  /-- The data that was stored in `async_data`, the latest last. -/
  stored : List Addr
  /-- What the last `pd_loop_get_async_data` returned, and how many stores came before it. -/
  data : Addr
  seen : ℕ
  completed : List Call

/-- The atomic steps. -/
inductive Step
  | runOnce
  | onceCheck
  /-- The wait returns events. -/
  | wake (batch : List Item)
  /-- The wait times out, or is interrupted. -/
  | timeout
  | failed (errno : ℤ)
  /-- The wake-up is dispatched. -/
  | handle
  /-- The callback of the current event returns. -/
  | next
  | endBatch
  /-- `pd_loop_get_async_data` after `pd_loop_run_once`. -/
  | look
  /-- `pd_loop_get_async_data` in a callback. -/
  | glance
  | begin (i : ℕ) (r : Request)
  | store (i : ℕ)
  | signal (i : ℕ)
  | refuse (i : ℕ) (errno : ℤ)
  deriving DecidableEq, Repr

section Steps

variable {κ : Type}

/-- A calling thread moves. -/
def setCaller (s : State κ) (i : ℕ) (pc : CallerPc) : State κ :=
  { s with callers := Function.update s.callers i pc }

/-- `loop->async_data = data`, or `loop->stop_requested = 1`. -/
def storeRequest (s : State κ) : Request → State κ
  | .send data => { s with asyncData := data, stored := s.stored ++ [data] }
  | .stop => { s with stopRequested := true }

/-- `pd_loop_get_async_data`. -/
def getAsyncData (s : State κ) : State κ :=
  { s with data := s.asyncData, seen := s.stored.length }

/-- The state after a step, `none` where the step cannot be taken. -/
def step (w : Waker κ) (refusable : Bool) (s : State κ) : Step → Option (State κ)
  | .runOnce => if s.pc = .looked then some { s with pc := .onceCheck } else none
  | .onceCheck =>
      if s.pc = .onceCheck then
        some { s with pc := if s.stopRequested then .returned else .wait }
      else none
  | .wake batch =>
      if s.pc = .wait ∧ batch ≠ [] ∧ w.offers s.signals (batch.count .wake) = true then
        some { s with pc := .dispatch batch, signals := w.report s.signals (batch.count .wake) }
      else none
  | .timeout => if s.pc = .wait then some { s with pc := .returned } else none
  | .failed errno =>
      if s.pc = .wait then some { s with pc := .returned, systemError := errno } else none
  | .handle =>
      match s.pc with
      | .dispatch (.wake :: batch) =>
          some { s with pc := .dispatch batch, signals := w.handle s.signals }
      | _ => none
  | .next =>
      match s.pc with
      | .dispatch (.watcher :: batch) => some { s with pc := .dispatch batch }
      | _ => none
  | .endBatch => if s.pc = .dispatch [] then some { s with pc := .returned } else none
  | .look => if s.pc = .returned then some { getAsyncData s with pc := .looked } else none
  | .glance =>
      match s.pc with
      | .dispatch (.watcher :: _) => some (getAsyncData s)
      | _ => none
  | .begin i r => if s.callers i = .idle then some (setCaller s i (.begun r)) else none
  | .store i =>
      match s.callers i with
      | .begun r =>
          some (setCaller (storeRequest s r) i (.stored r (storeRequest s r).stored.length))
      | _ => none
  | .signal i =>
      match s.callers i with
      | .stored r stamp =>
          some { setCaller s i .idle with
            signals := w.signal s.signals, completed := s.completed ++ [⟨r, stamp, true⟩] }
      | _ => none
  | .refuse i errno =>
      match s.callers i with
      | .stored r stamp =>
          if refusable then
            some { setCaller s i .idle with
              systemError := errno, completed := s.completed ++ [⟨r, stamp, false⟩] }
          else none
      | _ => none

/-- A loop of `pd_loop_create`. -/
def start (w : Waker κ) : State κ where
  pc := .looked
  stopRequested := false
  systemError := 0
  asyncData := NULL
  signals := w.start
  callers _ := .idle
  stored := []
  data := NULL
  seen := 0
  completed := []

/-- The loop thread is blocked with nothing to wake it. -/
def Blocked (w : Waker κ) (s : State κ) : Prop := s.pc = .wait ∧ w.ready s.signals = false

end Steps

/-- The runs of the loop thread and the calling threads on a backend. -/
def runs (b : Backend) : Machine (State b.Signals) Step :=
  Machine.ofFun (· = start b.waker) (step b.waker b.refusable)

/-! ### What a step does -/

section

variable {κ : Type} {w : Waker κ} {refusable : Bool} {s s' : State κ}

/-- The loop thread is between its look and the report of a wait. -/
def Attentive : Pc → Prop
  | .looked | .onceCheck | .wait => True
  | .dispatch _ | .returned => False

/-- The data are what the stores say; a stop that is past its store has set the flag; a call
whose wake-up was granted has been seen by a loop thread that waits or is about to, or will
wake it. -/
structure Inv (w : Waker κ) (s : State κ) : Prop where
  latest : s.asyncData = s.stored.getLastD NULL
  read : (NULL :: s.stored)[s.seen]? = some s.data
  storing : ∀ i r stamp, s.callers i = .stored r stamp →
    stamp ≤ s.stored.length ∧ (∀ d, r = .send d → (NULL :: s.stored)[stamp]? = some d) ∧
      (r = .stop → s.stopRequested = true)
  stamped : ∀ c ∈ s.completed,
    c.stamp ≤ s.stored.length ∧ (∀ d, c.request = .send d → (NULL :: s.stored)[c.stamp]? = some d) ∧
      (c.request = .stop → s.stopRequested = true)
  awake : Attentive s.pc → ∀ c ∈ s.completed, c.granted = true →
    c.stamp ≤ s.seen ∨ w.ready s.signals = true
  stopping : s.pc = .wait → ∀ c ∈ s.completed, c.granted = true → c.request = .stop →
    w.ready s.signals = true

theorem inv_start (w : Waker κ) : Inv w (start w) where
  latest := rfl
  read := rfl
  storing _ _ _ h := absurd h (by simp [start])
  stamped _ h := absurd h (by simp [start])
  awake _ _ h := absurd h (by simp [start])
  stopping _ _ h := absurd h (by simp [start])

/-- The loop thread goes on: where it still counts on what it has seen, it has not touched
the wake-up, and it does not block once a stop has returned. -/
theorem Inv.advance {pc : Pc} {signals : κ} {e : ℤ} (h : Inv w s)
    (hpc : Attentive pc → Attentive s.pc ∧ signals = s.signals)
    (hstop : pc = .wait → ∀ c ∈ s.completed, c.request ≠ .stop) :
    Inv w { s with pc, signals, systemError := e } where
  latest := h.latest
  read := h.read
  storing := h.storing
  stamped := h.stamped
  awake ha c hc hg := by
    obtain ⟨hbefore, heq⟩ := hpc ha
    rw [heq]
    exact h.awake hbefore c hc hg
  stopping hw c hc _ hr := absurd hr (hstop hw c hc)

/-- The loop thread looks at the data. -/
theorem Inv.getAsyncData (h : Inv w s) (pc : Pc) (hwait : pc ≠ .wait) :
    Inv w { getAsyncData s with pc } where
  latest := h.latest
  read := by
    show (NULL :: s.stored)[s.stored.length]? = some s.asyncData
    rw [h.latest, List.getLastD_eq_getLast?, ← List.getLast?_cons, List.getLast?_eq_getElem?]
    rfl
  storing := h.storing
  stamped := h.stamped
  awake _ c hc _ := .inl (h.stamped c hc).1
  stopping hw := absurd hw hwait

/-- A calling thread that has stored something is the one that moves, or has done so before. -/
theorem setCaller_eq {i j : ℕ} {pc pc' : CallerPc} (h : (setCaller s i pc).callers j = pc') :
    (j = i ∧ pc = pc') ∨ (j ≠ i ∧ s.callers j = pc') := by
  rcases eq_or_ne j i with rfl | hne
  · exact .inl ⟨rfl, by simpa [setCaller] using h⟩
  · exact .inr ⟨hne, by simpa [setCaller, hne] using h⟩

/-- What was stored stays where it is. -/
theorem getElem?_storeRequest {k : ℕ} {d : Addr} (r : Request)
    (h : (NULL :: s.stored)[k]? = some d) : (NULL :: (storeRequest s r).stored)[k]? = some d := by
  cases r with
  | stop => exact h
  | send data =>
      obtain ⟨hlt, -⟩ := List.getElem?_eq_some_iff.1 h
      exact (List.getElem?_append_left hlt).trans h

theorem length_le_storeRequest (r : Request) :
    s.stored.length ≤ (storeRequest s r).stored.length := by
  cases r with
  | stop => exact Nat.le_refl _
  | send data =>
      rw [storeRequest, List.length_append]
      exact Nat.le_add_right ..

theorem stopRequested_storeRequest (r : Request) (h : s.stopRequested = true) :
    (storeRequest s r).stopRequested = true := by
  cases r with
  | stop => rfl
  | send data => exact h

/-- A thread stores its data or the flag. -/
theorem Inv.store {i : ℕ} {r : Request} (h : Inv w s) :
    Inv w (setCaller (storeRequest s r) i (.stored r (storeRequest s r).stored.length)) where
  latest := by
    cases r with
    | stop => exact h.latest
    | send data => exact List.getLastD_concat.symm
  read := by
    have hread : (storeRequest s r).seen = s.seen ∧ (storeRequest s r).data = s.data := by
      cases r <;> exact ⟨rfl, rfl⟩
    show (NULL :: (storeRequest s r).stored)[(storeRequest s r).seen]? =
      some (storeRequest s r).data
    rw [hread.1, hread.2]
    exact getElem?_storeRequest r h.read
  storing j r' stamp hj := by
    obtain ⟨rfl, heq⟩ | ⟨hne, hj⟩ := setCaller_eq hj
    · obtain ⟨rfl, rfl⟩ := CallerPc.stored.inj heq
      refine ⟨Nat.le_refl _, fun d hd => ?_, fun hr => ?_⟩
      · subst hd
        show (NULL :: (s.stored ++ [d]))[(s.stored ++ [d]).length]? = some d
        rw [List.length_append, List.length_singleton, List.getElem?_cons_succ,
          List.getElem?_append_right (Nat.le_refl _), Nat.sub_self]
        rfl
      · subst hr
        rfl
    · have hj : s.callers j = .stored r' stamp := by
        cases r <;> exact hj
      obtain ⟨hle, hsend, hstop⟩ := h.storing j r' stamp hj
      exact ⟨hle.trans (length_le_storeRequest r), fun d hd => getElem?_storeRequest r (hsend d hd),
        fun hr => stopRequested_storeRequest r (hstop hr)⟩
  stamped c hc := by
    have hc : c ∈ s.completed := by
      cases r <;> exact hc
    obtain ⟨hle, hsend, hstop⟩ := h.stamped c hc
    exact ⟨hle.trans (length_le_storeRequest r), fun d hd => getElem?_storeRequest r (hsend d hd),
      fun hr => stopRequested_storeRequest r (hstop hr)⟩
  awake := by
    cases r <;> exact h.awake
  stopping := by
    cases r <;> exact h.stopping

/-- A call returns. -/
theorem Inv.complete {i : ℕ} {r : Request} {stamp : ℕ} {granted : Bool} {signals : κ} {e : ℤ}
    (h : Inv w s) (hstored : s.callers i = .stored r stamp)
    (hready : w.ready s.signals = true ∨ granted = true → w.ready signals = true) :
    Inv w { setCaller s i .idle with
      signals, systemError := e, completed := s.completed ++ [⟨r, stamp, granted⟩] } where
  latest := h.latest
  read := h.read
  storing j r' stamp' hj := by
    obtain ⟨rfl, heq⟩ | ⟨hne, hj⟩ := setCaller_eq hj
    · exact absurd heq (by simp)
    · exact h.storing j r' stamp' hj
  stamped c hc := by
    rcases List.mem_append.1 hc with hc | hc
    · exact h.stamped c hc
    · obtain rfl := List.mem_singleton.1 hc
      exact h.storing i r stamp hstored
  awake ha c hc hg := by
    rcases List.mem_append.1 hc with hc | hc
    · exact (h.awake ha c hc hg).imp_right fun hr => hready (.inl hr)
    · obtain rfl := List.mem_singleton.1 hc
      exact .inr (hready (.inr hg))
  stopping hw c hc hg hr := by
    rcases List.mem_append.1 hc with hc | hc
    · exact hready (.inl (h.stopping hw c hc hg hr))
    · obtain rfl := List.mem_singleton.1 hc
      exact hready (.inr hg)

/-- What one step preserves. -/
theorem Inv.step {l : Step} (h : Inv w s) (hstep : step w refusable s l = some s') : Inv w s' := by
  cases l with
  | runOnce =>
      obtain ⟨hpc, hs⟩ := Option.ite_none_right_eq_some.1 hstep
      obtain rfl := Option.some.inj hs
      exact h.advance (fun _ => ⟨by rw [hpc]; trivial, rfl⟩) (by simp)
  | onceCheck =>
      obtain ⟨hpc, hs⟩ := Option.ite_none_right_eq_some.1 hstep
      obtain rfl := Option.some.inj hs
      refine h.advance (fun _ => ⟨by rw [hpc]; trivial, rfl⟩) fun hwait c hc hr => ?_
      -- the loop blocks only while the flag is clear
      rw [(h.stamped c hc).2.2 hr, if_pos rfl] at hwait
      exact absurd hwait (by simp)
  | wake batch =>
      obtain ⟨-, hs⟩ := Option.ite_none_right_eq_some.1 hstep
      obtain rfl := Option.some.inj hs
      exact h.advance (fun ha => absurd ha id) (by simp)
  | timeout =>
      obtain ⟨-, hs⟩ := Option.ite_none_right_eq_some.1 hstep
      obtain rfl := Option.some.inj hs
      exact h.advance (fun ha => absurd ha id) (by simp)
  | failed errno =>
      obtain ⟨-, hs⟩ := Option.ite_none_right_eq_some.1 hstep
      obtain rfl := Option.some.inj hs
      exact h.advance (fun ha => absurd ha id) (by simp)
  | handle =>
      simp only [Wakeup.step] at hstep
      split at hstep
      · obtain rfl := Option.some.inj hstep
        exact h.advance (fun ha => absurd ha id) (by simp)
      · exact absurd hstep (by simp)
  | next =>
      simp only [Wakeup.step] at hstep
      split at hstep
      · obtain rfl := Option.some.inj hstep
        exact h.advance (fun ha => absurd ha id) (by simp)
      · exact absurd hstep (by simp)
  | endBatch =>
      obtain ⟨-, hs⟩ := Option.ite_none_right_eq_some.1 hstep
      obtain rfl := Option.some.inj hs
      exact h.advance (fun ha => absurd ha id) (by simp)
  | look =>
      obtain ⟨-, hs⟩ := Option.ite_none_right_eq_some.1 hstep
      obtain rfl := Option.some.inj hs
      exact h.getAsyncData .looked (by simp)
  | glance =>
      simp only [Wakeup.step] at hstep
      split at hstep
      · rename_i hpc
        obtain rfl := Option.some.inj hstep
        exact h.getAsyncData s.pc (by rw [hpc]; simp)
      · exact absurd hstep (by simp)
  | begin i r =>
      obtain ⟨-, hs⟩ := Option.ite_none_right_eq_some.1 hstep
      obtain rfl := Option.some.inj hs
      refine ⟨h.latest, h.read, fun j r' stamp hj => ?_, h.stamped, h.awake, h.stopping⟩
      obtain ⟨-, heq⟩ | ⟨-, hj⟩ := setCaller_eq hj
      · exact absurd heq (by simp)
      · exact h.storing j r' stamp hj
  | store i =>
      simp only [Wakeup.step] at hstep
      split at hstep
      · obtain rfl := Option.some.inj hstep
        exact h.store
      · exact absurd hstep (by simp)
  | signal i =>
      simp only [Wakeup.step] at hstep
      split at hstep
      · rename_i r stamp hstored
        obtain rfl := Option.some.inj hstep
        exact h.complete hstored fun _ => w.ready_signal _
      · exact absurd hstep (by simp)
  | refuse i errno =>
      simp only [Wakeup.step] at hstep
      split at hstep
      · rename_i r stamp hstored
        obtain ⟨-, hs⟩ := Option.ite_none_right_eq_some.1 hstep
        obtain rfl := Option.some.inj hs
        exact h.complete hstored fun hr => hr.resolve_right (by simp)
      · exact absurd hstep (by simp)

/-- The calls that have returned are never forgotten, and a wake-up is refused only where it
can be. -/
theorem completed_step {l : Step} (hstep : step w refusable s l = some s') :
    ∃ cs, s'.completed = s.completed ++ cs ∧ ∀ c ∈ cs, c.granted = true ∨ refusable = true := by
  have hnone : s'.completed = s.completed →
      ∃ cs, s'.completed = s.completed ++ cs ∧ ∀ c ∈ cs, c.granted = true ∨ refusable = true :=
    fun heq => ⟨[], heq.trans (List.append_nil _).symm, by simp⟩
  cases l with
  | runOnce | onceCheck | wake _ | timeout | failed _ | endBatch | look | begin _ _ =>
      obtain ⟨-, hs⟩ := Option.ite_none_right_eq_some.1 hstep
      obtain rfl := Option.some.inj hs
      exact hnone rfl
  | handle | next | glance =>
      simp only [step] at hstep
      split at hstep
      · obtain rfl := Option.some.inj hstep
        exact hnone rfl
      · exact absurd hstep (by simp)
  | store i =>
      simp only [step] at hstep
      split at hstep
      · rename_i r _
        obtain rfl := Option.some.inj hstep
        cases r <;> exact hnone rfl
      · exact absurd hstep (by simp)
  | signal i =>
      simp only [step] at hstep
      split at hstep
      · obtain rfl := Option.some.inj hstep
        exact ⟨_, rfl, by simp⟩
      · exact absurd hstep (by simp)
  | refuse i errno =>
      simp only [step] at hstep
      split at hstep
      · obtain ⟨hrefusable, hs⟩ := Option.ite_none_right_eq_some.1 hstep
        obtain rfl := Option.some.inj hs
        exact ⟨_, rfl, fun _ _ => .inr hrefusable⟩
      · exact absurd hstep (by simp)

theorem granted_of_reach {b : Backend} {s : State b.Signals} (hno : b.refusable = false)
    (h : (runs b).Reachable s) : ∀ c ∈ s.completed, c.granted = true := by
  refine h.invariant (I := fun s => ∀ c ∈ s.completed, c.granted = true) ?_ ?_
  · rintro s rfl c hc
    exact absurd hc (by simp [start])
  · intro s l s' hi _ hstep c hc
    obtain ⟨cs, hcs, hgranted⟩ := completed_step hstep
    rw [hcs] at hc
    rcases List.mem_append.1 hc with hc | hc
    · exact hi c hc
    · exact (hgranted c hc).resolve_right (by simp [hno])

theorem Inv.of_reach {b : Backend} {s : State b.Signals} (h : (runs b).Reachable s) :
    Inv b.waker s := by
  refine h.invariant ?_ ?_
  · rintro s rfl
    exact inv_start _
  · intro s l s' hi _ hstep
    exact hi.step hstep

end

/-! ### Nothing is lost -/

section

variable {b : Backend} {s : State b.Signals}

/-- The loop thread has read the data `d` of the call, or data that was stored later. -/
def Seen (s : State b.Signals) (c : Call) (d : Addr) : Prop :=
  c.stamp ≤ s.seen ∧ (NULL :: s.stored)[c.stamp]? = some d ∧
    (NULL :: s.stored)[s.seen]? = some s.data

theorem granted_of_result {c : Call} {d : Addr} (hd : c.request = .send d) (hok : c.result = .ok) :
    c.granted = true := by
  rw [Call.result, hd] at hok
  by_contra hno
  have hsystem : PdError.system = .ok := (if_neg hno).symm.trans hok
  exact absurd hsystem (by decide)

/-- **No send is lost**: a loop that is blocked with nothing to wake it has seen every send
that returned `PD_OK`. -/
theorem sends_kept (h : (runs b).Reachable s) (hblocked : Blocked b.waker s) :
    ∀ c ∈ s.completed, ∀ d, c.request = .send d → c.result = .ok → Seen s c d := by
  have hinv := Inv.of_reach h
  intro c hc d hd hok
  refine ⟨?_, (hinv.stamped c hc).2.1 d hd, hinv.read⟩
  rcases hinv.awake (by rw [hblocked.1]; trivial) c hc (granted_of_result hd hok) with hle | hready
  · exact hle
  · exact absurd (hblocked.2.symm.trans hready) (by simp)

/-- A send that finds the loop about to block: it is woken, looks, and blocks again. -/
def sentAtWait : List Step :=
  [.runOnce, .onceCheck, .begin 0 (.send 7), .store 0, .signal 0, .wake [.wake], .handle, .endBatch,
    .look, .runOnce, .onceCheck]

theorem sentAtWait_kept : ∃ s, Machine.run (step (Backend.waker .epoll) (Backend.refusable .epoll))
    (start (Backend.waker .epoll)) sentAtWait = some s ∧ Blocked (Backend.waker .epoll) s ∧
    (⟨.send 7, 1, true⟩ : Call) ∈ s.completed ∧ Seen s ⟨.send 7, 1, true⟩ 7 := by
  have hrun : ∃ s, Machine.run (step (Backend.waker .epoll) (Backend.refusable .epoll))
      (start (Backend.waker .epoll)) sentAtWait = some s ∧ Blocked (Backend.waker .epoll) s ∧
      s.completed = [⟨.send 7, 1, true⟩] := ⟨_, rfl, ⟨rfl, rfl⟩, rfl⟩
  obtain ⟨s, hrun, hblocked, hcompleted⟩ := hrun
  have hc : (⟨.send 7, 1, true⟩ : Call) ∈ s.completed := by
    rw [hcompleted]
    exact List.mem_singleton.2 rfl
  exact ⟨s, hrun, hblocked, hc,
    sends_kept (b := .epoll) (Machine.Reach.run (.init rfl) hrun) hblocked _ hc 7 rfl rfl⟩

/-- A stop whose wake-up is refused: the loop thread has passed its check, and blocks. -/
def refusedStop : List Step :=
  [.runOnce, .onceCheck, .begin 0 .stop, .store 0, .refuse 0 0]

/-- **`pd_loop_stop` stops a blocked loop in every run exactly on a backend whose wake-up the
kernel cannot refuse.** -/
theorem stops_kept_iff (b : Backend) :
    (∀ s, (runs b).Reachable s → Blocked b.waker s → ∀ c ∈ s.completed, c.request ≠ .stop) ↔
      b.refusable = false := by
  constructor
  · intro h
    by_contra hrefusable
    rw [Bool.not_eq_false] at hrefusable
    have hrun : ∃ s, Machine.run (step b.waker b.refusable) (start b.waker) refusedStop = some s ∧
        Blocked b.waker s ∧ s.completed = [⟨.stop, 0, false⟩] := by
      rw [hrefusable]
      cases b with
      | epoll => exact absurd hrefusable (by decide)
      | kqueue => exact ⟨_, rfl, ⟨rfl, rfl⟩, rfl⟩
      | iocp => exact ⟨_, rfl, ⟨rfl, rfl⟩, rfl⟩
    obtain ⟨s, hrun, hblocked, hcompleted⟩ := hrun
    exact h s (Machine.Reach.run (.init rfl) hrun) hblocked _
      (by rw [hcompleted]; exact List.mem_singleton.2 rfl) rfl
  · intro hno s h hblocked c hc hstop
    have hready := (Inv.of_reach h).stopping hblocked.1 c hc (granted_of_reach hno h c hc) hstop
    exact absurd (hblocked.2.symm.trans hready) (by simp)

end

/-! ### Everything is seen in the end -/

/-- The steps that the loop thread owes: it goes on where it can, a wait whose wake-up is
ready reports it, and callbacks return. -/
def Owed : Step → Prop
  | .runOnce | .onceCheck | .handle | .next | .endBatch | .look => True
  | .wake batch => .wake ∈ batch
  | .timeout | .failed _ | .glance | .begin _ _ | .store _ | .signal _ | .refuse _ _ => False

/-- The step that the loop thread owes next. -/
def owedStep {κ : Type} (s : State κ) : Step :=
  match s.pc with
  | .looked => .runOnce
  | .onceCheck => .onceCheck
  | .wait => .wake [.wake]
  | .dispatch [] => .endBatch
  | .dispatch (.wake :: _) => .handle
  | .dispatch (.watcher :: _) => .next
  | .returned => .look

/-- How far the loop thread is from its next look. -/
def rank : Pc → ℕ ×ₗ ℕ
  | .looked => toLex (4, 0)
  | .onceCheck => toLex (3, 0)
  | .wait => toLex (2, 0)
  | .dispatch batch => toLex (1, batch.length)
  | .returned => toLex (0, 0)

/-- The call has had its effect on the loop thread: it has seen the data, or it comes back
from a `pd_loop_run_once` with the flag set. -/
def Answered {b : Backend} (s : State b.Signals) (c : Call) : Prop :=
  match c.request with
  | .send d => Seen s c d
  | .stop => s.pc = .returned ∧ s.stopRequested = true

section

variable {κ : Type} {w : Waker κ} {refusable : Bool} {s s' : State κ} {l : Step}

theorem rank_lt {i j m n : ℕ} (h : i < j) : toLex (i, m) < toLex (j, n) :=
  Prod.Lex.toLex_lt_toLex.2 (.inl h)

theorem rank_dispatch_lt {x : Item} {batch : List Item} :
    rank (.dispatch batch) < rank (.dispatch (x :: batch)) :=
  Prod.Lex.toLex_lt_toLex.2 (.inr ⟨rfl, Nat.lt_succ_self _⟩)

/-- A step that is not the look brings the loop thread nearer to it, or leaves it where it
is; an owed one brings it nearer. -/
theorem rank_step (hstep : step w refusable s l = some s') (hlook : l ≠ .look) :
    rank s'.pc ≤ rank s.pc ∧ (Owed l → rank s'.pc < rank s.pc) := by
  have hlt : rank s'.pc < rank s.pc →
      rank s'.pc ≤ rank s.pc ∧ (Owed l → rank s'.pc < rank s.pc) := fun h => ⟨h.le, fun _ => h⟩
  have hsame : s'.pc = s.pc → ¬Owed l →
      rank s'.pc ≤ rank s.pc ∧ (Owed l → rank s'.pc < rank s.pc) := fun h hno =>
    ⟨(congrArg rank h).le, fun ho => absurd ho hno⟩
  cases l with
  | runOnce =>
      obtain ⟨hpc, hs⟩ := Option.ite_none_right_eq_some.1 hstep
      obtain rfl := Option.some.inj hs
      exact hlt (by rw [hpc]; exact rank_lt (by decide))
  | onceCheck =>
      obtain ⟨hpc, hs⟩ := Option.ite_none_right_eq_some.1 hstep
      obtain rfl := Option.some.inj hs
      refine hlt ?_
      rw [hpc]
      dsimp only
      split_ifs
      · exact rank_lt (by decide)
      · exact rank_lt (by decide)
  | wake batch =>
      obtain ⟨hok, hs⟩ := Option.ite_none_right_eq_some.1 hstep
      obtain rfl := Option.some.inj hs
      exact hlt (by rw [hok.1]; exact rank_lt (by decide))
  | timeout =>
      obtain ⟨hpc, hs⟩ := Option.ite_none_right_eq_some.1 hstep
      obtain rfl := Option.some.inj hs
      exact hlt (by rw [hpc]; exact rank_lt (by decide))
  | failed errno =>
      obtain ⟨hpc, hs⟩ := Option.ite_none_right_eq_some.1 hstep
      obtain rfl := Option.some.inj hs
      exact hlt (by rw [hpc]; exact rank_lt (by decide))
  | handle =>
      simp only [step] at hstep
      split at hstep
      · rename_i hpc
        obtain rfl := Option.some.inj hstep
        exact hlt (by rw [hpc]; exact rank_dispatch_lt)
      · exact absurd hstep (by simp)
  | next =>
      simp only [step] at hstep
      split at hstep
      · rename_i hpc
        obtain rfl := Option.some.inj hstep
        exact hlt (by rw [hpc]; exact rank_dispatch_lt)
      · exact absurd hstep (by simp)
  | endBatch =>
      obtain ⟨hpc, hs⟩ := Option.ite_none_right_eq_some.1 hstep
      obtain rfl := Option.some.inj hs
      exact hlt (by rw [hpc]; exact rank_lt (by decide))
  | look => exact absurd rfl hlook
  | glance =>
      simp only [step] at hstep
      split at hstep
      · obtain rfl := Option.some.inj hstep
        exact hsame rfl id
      · exact absurd hstep (by simp)
  | begin i r =>
      obtain ⟨-, hs⟩ := Option.ite_none_right_eq_some.1 hstep
      obtain rfl := Option.some.inj hs
      exact hsame rfl id
  | store i =>
      simp only [step] at hstep
      split at hstep
      · rename_i r _
        obtain rfl := Option.some.inj hstep
        cases r <;> exact hsame rfl id
      · exact absurd hstep (by simp)
  | signal i =>
      simp only [step] at hstep
      split at hstep
      · obtain rfl := Option.some.inj hstep
        exact hsame rfl id
      · exact absurd hstep (by simp)
  | refuse i errno =>
      simp only [step] at hstep
      split at hstep
      · obtain ⟨-, hs⟩ := Option.ite_none_right_eq_some.1 hstep
        obtain rfl := Option.some.inj hs
        exact hsame rfl id
      · exact absurd hstep (by simp)

theorem owed_owedStep (s : State κ) : Owed (owedStep s) := by
  rw [owedStep]
  split
  · trivial
  · trivial
  · exact List.mem_singleton.2 rfl
  · trivial
  · trivial
  · trivial
  · trivial

/-- Where the loop thread is not blocked, it can make the step that it owes. -/
theorem isSome_owedStep (h : s.pc = .wait → w.ready s.signals = true) :
    (step w refusable s (owedStep s)).isSome = true := by
  cases hpc : s.pc with
  | looked => simp [owedStep, step, hpc]
  | onceCheck => simp [owedStep, step, hpc]
  | wait =>
      have hoffers : w.offers s.signals 1 = true := h hpc
      simp [owedStep, step, hpc, hoffers]
  | returned => simp [owedStep, step, hpc]
  | dispatch batch =>
      cases batch with
      | nil => simp [owedStep, step, hpc]
      | cons x batch =>
          cases x with
          | wake => simp [owedStep, step, hpc]
          | watcher => simp [owedStep, step, hpc]

end

/-- **Every call has its effect in the end**: in an infinite run in which the loop thread goes
on, the data of a send whose wake-up was granted are seen, and after such a stop the loop
thread comes back from `pd_loop_run_once`. -/
theorem calls_answered {b : Backend} {ρ : (runs b).Run} (hfair : ρ.Fair Owed) {n : ℕ} {c : Call}
    (hc : c ∈ (ρ.state n).completed) (hgranted : c.granted = true) :
    ∃ m ≥ n, Answered (ρ.state m) c := by
  have hkept : ∀ s l s', (runs b).next s l s' → c ∈ s.completed → c ∈ s'.completed := by
    intro s l s' hstep hm
    obtain ⟨cs, hcs, -⟩ := completed_step hstep
    rw [hcs]
    exact List.mem_append_left _ hm
  -- the look is the answer of a send, and comes after that of a stop
  have hlook : ∀ s s', (runs b).Reachable s → c ∈ s.completed → ¬Answered s c →
      (runs b).next s .look s' → Answered s' c := by
    intro s s' hs hm hno hstep
    have hinv := Inv.of_reach hs
    obtain ⟨hpc, heq⟩ := Option.ite_none_right_eq_some.1 hstep
    obtain rfl := Option.some.inj heq
    obtain ⟨hle, hsend, hstop⟩ := hinv.stamped c hm
    have hread := (hinv.getAsyncData .looked (by simp)).read
    rw [Answered] at hno ⊢
    cases hr : c.request with
    | send d => exact ⟨hle, hsend d hr, hread⟩
    | stop =>
        rw [hr] at hno
        exact absurd ⟨hpc, hstop hr⟩ hno
  refine Machine.Run.leadsTo_of_rank (P := fun s => c ∈ s.completed) (Q := (Answered · c)) hfair
    (fun s => rank s.pc) ?_ ?_ ?_ n hc
  · intro s hs hm hno
    suffices hready : s.pc = .wait → b.waker.ready s.signals = true by
      obtain ⟨s', hs'⟩ := Option.isSome_iff_exists.1 (isSome_owedStep hready)
      exact ⟨owedStep s, s', owed_owedStep s, hs'⟩
    intro hwait
    have hinv := Inv.of_reach hs
    rcases hinv.awake (by rw [hwait]; trivial) c hm hgranted with hle | hready
    · rw [Answered] at hno
      cases hr : c.request with
      | send d =>
          rw [hr] at hno
          exact absurd ⟨hle, (hinv.stamped c hm).2.1 d hr, hinv.read⟩ hno
      | stop => exact hinv.stopping hwait c hm hgranted hr
    · exact hready
  · intro s l s' hs hm hno howed hstep
    by_cases hl : l = .look
    · subst hl
      exact .inl (hlook s s' hs hm hno hstep)
    · exact .inr ⟨hkept s l s' hstep hm, (rank_step hstep hl).2 howed⟩
  · intro s l s' hs hm _ howed hstep
    have hl : l ≠ .look := by
      rintro rfl
      exact howed trivial
    exact .inr ⟨hkept s l s' hstep hm, (rank_step hstep hl).1⟩

/-- A thread sends while the loop thread has yet to begin; then the loop thread goes on for
ever. -/
def sendThenLoop {κ : Type} (n : ℕ) (s : State κ) : Step :=
  if n = 0 then .begin 0 (.send 7)
  else if n = 1 then .store 0
  else if n = 2 then .signal 0
  else owedStep s

/-- The run of that schedule on kqueue. -/
def sentOnce : (runs .kqueue).Run :=
  Machine.Run.ofSchedule (start (Backend.waker .kqueue)) rfl sendThenLoop

/-- An owed step can be made in the wait only if the wake-up is ready. -/
theorem ready_of_owed {κ : Type} {w : Waker κ} {refusable : Bool} {s s' : State κ} {l : Step}
    (howed : Owed l) (hstep : step w refusable s l = some s') (hwait : s.pc = .wait) :
    w.ready s.signals = true := by
  cases l with
  | runOnce | onceCheck | endBatch | look =>
      obtain ⟨hpc, -⟩ := Option.ite_none_right_eq_some.1 hstep
      exact absurd (hwait.symm.trans hpc) (by simp)
  | handle | next => exact absurd hstep (by simp [step, hwait])
  | wake batch =>
      obtain ⟨⟨-, -, hoffers⟩, -⟩ := Option.ite_none_right_eq_some.1 hstep
      obtain ⟨k, hk⟩ := Nat.exists_eq_add_of_lt (List.count_pos_iff.2 howed)
      rw [hk, Nat.zero_add] at hoffers
      exact w.offers_one _ k hoffers
  | timeout | failed _ | glance | begin _ _ | store _ | signal _ | refuse _ _ =>
      exact absurd howed id

theorem fair_sentOnce : sentOnce.Fair Owed := by
  intro n h
  obtain ⟨l, s', howed, hstep⟩ := h (max n 3) (Nat.le_max_left ..)
  have hready := ready_of_owed howed hstep
  have hsome : (step (Backend.waker .kqueue) true (sentOnce.state (max n 3))
      (owedStep (sentOnce.state (max n 3)))).isSome := isSome_owedStep hready
  have hlate : 3 ≤ max n 3 := Nat.le_max_right ..
  refine ⟨max n 3, Nat.le_max_left .., _, owed_owedStep (sentOnce.state (max n 3)), ?_⟩
  have hschedule : sendThenLoop (max n 3) (sentOnce.state (max n 3)) =
      owedStep (sentOnce.state (max n 3)) := by
    rw [sendThenLoop, if_neg (by omega), if_neg (by omega), if_neg (by omega)]
  rw [← hschedule] at hsome ⊢
  exact if_pos hsome

theorem sentOnce_answered :
    (⟨.send 7, 1, true⟩ : Call) ∈ (sentOnce.state 3).completed ∧
      ∃ m ≥ 3, Answered (sentOnce.state m) ⟨.send 7, 1, true⟩ := by
  have hc : (⟨.send 7, 1, true⟩ : Call) ∈ (sentOnce.state 3).completed := List.mem_singleton.2 rfl
  exact ⟨hc, calls_answered fair_sentOnce hc rfl⟩

end Wakeup
end PollDancer
