/-
# What loops allocate

`pd_loop_create` of `src/loop.c` with `epoll_loop_create`, `kqueue_loop_create` and
`iocp_loop_create`, any step of which may be refused, and the end of `pd_loop_unref` with
the backends' `loop_destroy`.  A step that is refused gives back what the steps before it
have acquired; the destruction gives back everything, in an order of its own.

The ledger lists what the process holds, each thing with the address of its loop, and notes
when something is given back that is not held.  Over any sequence of creations,
registrations, references and releases it lists exactly what the live loops have acquired,
and nothing is given back twice (`ledger_balanced`).  The watchers have structures of their
own, which are not in it.
-/
import PollDancer.Library.Ledger
import PollDancer.Library.Machine
import PollDancer.LoopCreate
import PollDancer.Types
import PollDancer.Wakeup

namespace PollDancer
namespace LoopResources

open Library
open Wakeup (Backend)

/-- What a loop acquires. -/
inductive Resource
  | loop
  | mutex
  | watchers
  | platformData
  /-- `epoll_fd`, `kqueue_fd` or `iocp_handle`. -/
  | poller
  | events
  | eventfd
  | registrations
  deriving DecidableEq, Repr

/-- What the process holds. -/
abbrev Ledger := Library.Ledger Addr Resource

/-- Which of its steps `pd_loop_create` is granted. -/
structure Grants where
  mutex : Bool
  watchers : Bool
  platformData : Bool
  poller : Bool
  events : Bool
  eventfd : Bool
  /-- `epoll_ctl` for the eventfd, `kevent` for `EVFILT_USER`. -/
  wakeup : Bool
  deriving DecidableEq, Repr

/-- `epoll_loop_create`. -/
def epollLoopCreate (g : Grants) (a : Addr) (s : Ledger) : Ledger × PdError :=
  if !g.platformData then (s, .noMemory)
  else
    let s := s.acquire a .platformData
    if !g.poller then (s.release a .platformData, .system)
    else
      let s := s.acquire a .poller
      if !g.events then ((s.release a .poller).release a .platformData, .noMemory)
      else
        let s := s.acquire a .events
        if !g.eventfd then
          (((s.release a .events).release a .poller).release a .platformData, .system)
        else
          let s := s.acquire a .eventfd
          if !g.wakeup then
            ((((s.release a .eventfd).release a .events).release a .poller).release a
              .platformData, .system)
          else (s, .ok)

/-- `kqueue_loop_create`. -/
def kqueueLoopCreate (g : Grants) (a : Addr) (s : Ledger) : Ledger × PdError :=
  if !g.platformData then (s, .noMemory)
  else
    let s := s.acquire a .platformData
    if !g.poller then (s.release a .platformData, .system)
    else
      let s := s.acquire a .poller
      if !g.events then ((s.release a .poller).release a .platformData, .noMemory)
      else
        let s := s.acquire a .events
        if !g.wakeup then
          (((s.release a .events).release a .poller).release a .platformData, .system)
        else (s, .ok)

/-- `iocp_loop_create`. -/
def iocpLoopCreate (g : Grants) (a : Addr) (s : Ledger) : Ledger × PdError :=
  if !g.platformData then (s, .noMemory)
  else
    let s := s.acquire a .platformData
    if !g.poller then (s.release a .platformData, .system)
    else
      let s := s.acquire a .poller
      if !g.events then ((s.release a .poller).release a .platformData, .noMemory)
      else (s.acquire a .events, .ok)

/-- The backend's `loop_create`. -/
def loopCreate : Backend → Grants → Addr → Ledger → Ledger × PdError
  | .epoll => epollLoopCreate
  | .kqueue => kqueueLoopCreate
  | .iocp => iocpLoopCreate

/-- The part of `struct pd_loop` that decides what its end gives back. -/
structure Loop where
  addr : Addr
  enableThreadSafety : Bool
  refCount : ℤ
  /-- Has a registration allocated the table of the registrations? -/
  registrations : Bool
  deriving DecidableEq, Repr

/-- The mutex is destroyed, if there is one, and the structure is freed. -/
def freeLoop (safe : Bool) (a : Addr) (s : Ledger) : Ledger :=
  (if safe then s.release a .mutex else s).release a .loop

/-- `pd_loop_create` from the allocation of the watchers on. -/
def createRest (b : Backend) (g : Grants) (safe : Bool) (a : Addr) (s : Ledger) :
    Ledger × Option Loop :=
  if !g.watchers then (freeLoop safe a s, none)
  else
    let r := loopCreate b g a (s.acquire a .watchers)
    if r.2 ≠ .ok then (freeLoop safe a (r.1.release a .watchers), none)
    else (r.1, some ⟨a, safe, 1, false⟩)

/-- `pd_loop_create`.  `p` is the address of the structure, which is not that of another
loop. -/
def pdLoopCreate (b : Backend) (config : Option PdLoopConfig) (g : Grants) (p : Option Addr)
    (s : Ledger) : Ledger × Option Loop :=
  match p with
  | none => (s, none)
  | some a =>
    let s := s.acquire a .loop
    let safe := (configCopy config).enableThreadSafety != 0
    if safe then
      if !g.mutex then (s.release a .loop, none)
      else createRest b g safe a (s.acquire a .mutex)
    else createRest b g safe a s

/-- `free(data->registrations)`, which is null before the first registration. -/
def freeRegistrations (l : Loop) (s : Ledger) : Ledger :=
  if l.registrations then s.release l.addr .registrations else s

/-- `epoll_loop_destroy`, `kqueue_loop_destroy` or `iocp_loop_destroy`. -/
def loopDestroy (b : Backend) (l : Loop) (s : Ledger) : Ledger :=
  match b with
  | .epoll =>
      (freeRegistrations l
        (((s.release l.addr .eventfd).release l.addr .poller).release l.addr
          .events)).release l.addr .platformData
  | .kqueue =>
      (freeRegistrations l ((s.release l.addr .poller).release l.addr .events)).release l.addr
        .platformData
  | .iocp => ((s.release l.addr .poller).release l.addr .events).release l.addr .platformData

/-- The end of `pd_loop_unref`, after the watchers. -/
def destroy (b : Backend) (l : Loop) (s : Ledger) : Ledger :=
  freeLoop l.enableThreadSafety l.addr (loopDestroy b l (s.release l.addr .watchers))

/-- The process: its ledger and its loops. -/
structure Process where
  ledger : Ledger
  loops : List Loop
  deriving DecidableEq, Repr

/-- What the users of the loops do, as far as it is about what the loops hold. -/
inductive Action
  | create (config : Option PdLoopConfig) (g : Grants) (p : Option Addr)
  /-- `watcher_register` makes the table of the registrations grow. -/
  | register (a : Addr) (granted : Bool)
  | ref (a : Addr)
  | unref (a : Addr)
  deriving DecidableEq, Repr

namespace Process

/-- The loop at `a`. -/
def find (s : Process) (a : Addr) : Option Loop := s.loops.find? (·.addr = a)

/-- The loop is overwritten. -/
def put (s : Process) (l : Loop) : List Loop := l :: Ledger.others Loop.addr s.loops l

/-- The state after an action. -/
def perform (b : Backend) (s : Process) : Action → Process
  | .create config g p =>
      let r := pdLoopCreate b config g (p.filter fun a => a ≠ NULL ∧ (s.find a).isNone) s.ledger
      ⟨r.1, r.2.toList ++ s.loops⟩
  | .register a granted =>
      match s.find a with
      | none => s
      | some l =>
          if b = .iocp || l.registrations || !granted then s
          else ⟨s.ledger.acquire a .registrations, s.put { l with registrations := true }⟩
  | .ref a =>
      match s.find a with
      | none => s
      | some l => ⟨s.ledger, s.put { l with refCount := l.refCount + 1 }⟩
  | .unref a =>
      match s.find a with
      | none => s
      | some l =>
          if l.refCount - 1 = 0 then ⟨destroy b l s.ledger, Ledger.others Loop.addr s.loops l⟩
          else ⟨s.ledger, s.put { l with refCount := l.refCount - 1 }⟩

/-- A process without loops. -/
def empty : Process := ⟨.empty, []⟩

end Process

/-! ### One creation and one destruction -/

/-- What the backend of a loop acquires, the last first. -/
def Backend.resources : Backend → List Resource
  | .epoll => [.eventfd, .events, .poller, .platformData]
  | .kqueue => [.events, .poller, .platformData]
  | .iocp => [.events, .poller, .platformData]

/-- What a loop has acquired, the last first. -/
def kinds (b : Backend) (safe registrations : Bool) : List Resource :=
  (if registrations then [Resource.registrations] else []) ++ Backend.resources b ++
    [Resource.watchers] ++ (if safe then [Resource.mutex] else []) ++ [Resource.loop]

/-- The entries of a loop in the ledger. -/
def resources (b : Backend) (l : Loop) : List (Addr × Resource) :=
  Ledger.entries Loop.addr (fun l => kinds b l.enableThreadSafety l.registrations) l

section

variable {b : Backend} {g : Grants} {a : Addr} {s : Ledger} {l : Loop}

/-- A refused step of the backend gives back what the steps before it have acquired. -/
theorem loopCreate_spec : ((loopCreate b g a s).2 ≠ .ok ∧ (loopCreate b g a s).1 = s) ∨
    (loopCreate b g a s).2 = .ok ∧ (loopCreate b g a s).1 =
      ⟨(Backend.resources b).map (a, ·) ++ s.held, s.misused⟩ := by
  cases b with
  | epoll =>
      simp only [loopCreate, epollLoopCreate]
      split_ifs
      all_goals first | exact .inr ⟨rfl, rfl⟩ | exact .inl ⟨by simp, by simp⟩
  | kqueue =>
      simp only [loopCreate, kqueueLoopCreate]
      split_ifs
      all_goals first | exact .inr ⟨rfl, rfl⟩ | exact .inl ⟨by simp, by simp⟩
  | iocp =>
      simp only [loopCreate, iocpLoopCreate]
      split_ifs
      all_goals first | exact .inr ⟨rfl, rfl⟩ | exact .inl ⟨by simp, by simp⟩

theorem createRest_spec {safe : Bool} {t : Ledger} (ht : freeLoop safe a t = s) :
    createRest b g safe a t = (s, none) ∨
    createRest b g safe a t =
      (⟨(Backend.resources b).map (a, ·) ++ (a, .watchers) :: t.held, t.misused⟩,
        some ⟨a, safe, 1, false⟩) := by
  rw [createRest]
  by_cases hw : (!g.watchers) = true
  · rw [if_pos hw, ht]
    exact .inl rfl
  · rw [if_neg hw]
    obtain ⟨hne, hs⟩ | ⟨hok, hs⟩ := loopCreate_spec (b := b) (g := g) (a := a)
      (s := t.acquire a .watchers)
    · dsimp only
      rw [if_pos hne, hs, Ledger.release_acquire, ht]
      exact .inl rfl
    · dsimp only
      rw [if_neg (not_not_intro hok), hs]
      exact .inr rfl

/-- A refused creation leaves the ledger as it was; a granted one adds what the loop has
acquired. -/
theorem pdLoopCreate_spec (config : Option PdLoopConfig) (p : Option Addr) :
    pdLoopCreate b config g p s = (s, none) ∨
    ∃ l, pdLoopCreate b config g p s = (⟨resources b l ++ s.held, s.misused⟩, some l) ∧
      p = some l.addr ∧ l.registrations = false := by
  cases p with
  | none => exact .inl rfl
  | some a =>
      rw [pdLoopCreate]
      generalize ((configCopy config).enableThreadSafety != 0) = safe
      cases safe with
      | false =>
          have hfree : freeLoop false a (s.acquire a .loop) = s := s.release_acquire a .loop
          refine (createRest_spec (b := b) (g := g) hfree).imp_right fun h => ?_
          refine ⟨⟨a, false, 1, false⟩, h.trans ?_, rfl, rfl⟩
          simp [resources, Ledger.entries, kinds, Ledger.acquire]
      | true =>
          rw [if_pos rfl]
          split_ifs
          · exact .inl (by rw [Ledger.release_acquire])
          · have hfree : freeLoop true a ((s.acquire a .loop).acquire a .mutex) = s := by
              simp [freeLoop]
            refine (createRest_spec (b := b) (g := g) hfree).imp_right fun h => ?_
            refine ⟨⟨a, true, 1, false⟩, h.trans ?_, rfl, rfl⟩
            simp [resources, Ledger.entries, kinds, Ledger.acquire]

/-- The order in which a destruction gives back what the loop has acquired. -/
def released (b : Backend) (safe registrations : Bool) : List Resource :=
  [Resource.watchers] ++
    (match b with
      | .epoll => [Resource.eventfd, .poller, .events]
      | .kqueue | .iocp => [Resource.poller, .events]) ++
    (if b ≠ .iocp ∧ registrations then [Resource.registrations] else []) ++
    [Resource.platformData] ++ (if safe then [Resource.mutex] else []) ++ [Resource.loop]

theorem destroy_eq : destroy b l s =
    Ledger.releaseAll l.addr (released b l.enableThreadSafety l.registrations) s := by
  obtain ⟨a, safe, refCount, registrations⟩ := l
  cases b <;> cases safe <;> cases registrations <;>
    simp [destroy, loopDestroy, freeRegistrations, freeLoop, released, Ledger.releaseAll]

/-- It gives back everything, and everything once. -/
theorem released_perm {safe registrations : Bool} (h : b = .iocp → registrations = false) :
    (kinds b safe registrations).Perm (released b safe registrations) := by
  cases b with
  | epoll => cases safe <;> cases registrations <;> decide
  | kqueue => cases safe <;> cases registrations <;> decide
  | iocp =>
      rw [h rfl]
      cases safe <;> decide

theorem destroy_perm {rest : List (Addr × Resource)} (hiocp : b = .iocp → l.registrations = false)
    (h : s.held.Perm (resources b l ++ rest)) :
    (destroy b l s).held.Perm rest ∧ (destroy b l s).misused = s.misused := by
  rw [destroy_eq]
  exact Ledger.releaseAll_perm (h.trans (((released_perm hiocp).map _).append_right rest))

end

/-! ### Runs -/

/-- The runs of a process on a backend. -/
def processes (b : Backend) : Machine Process Action :=
  Machine.ofFun (· = Process.empty) fun s act => some (s.perform b act)

/-- The ledger lists what the loops have acquired. -/
structure Balanced (b : Backend) (s : Process) : Prop where
  ledger : Ledger.Balanced Loop.addr (fun l => kinds b l.enableThreadSafety l.registrations)
    s.ledger s.loops []
  iocp : ∀ l ∈ s.loops, b = .iocp → l.registrations = false

section

variable {b : Backend} {s : Process} {a : Addr} {l l' : Loop} {ledger : Ledger}

theorem find_eq_some (h : s.find a = some l) : l ∈ s.loops ∧ l.addr = a :=
  ⟨List.mem_of_find?_eq_some h, by simpa using List.find?_some h⟩

/-- A loop is overwritten, and the ledger is brought up to date. -/
theorem Balanced.put (h : Balanced b s) (hl : l ∈ s.loops) (haddr : l'.addr = l.addr)
    (hheld : ledger.held.Perm (resources b l' ++
      ((Ledger.others Loop.addr s.loops l).flatMap (resources b) ++ [])))
    (hmis : ledger.misused = false) (hiocp : b = .iocp → l'.registrations = false) :
    Balanced b ⟨ledger, s.put l'⟩ := by
  have hothers : s.put l' = l' :: Ledger.others Loop.addr s.loops l := by
    rw [Process.put, Ledger.others, Ledger.others, haddr]
  refine ⟨?_, fun x hx => ?_⟩
  · show Ledger.Balanced _ _ ledger (s.put l') []
    rw [hothers]
    exact h.ledger.put hl haddr hheld hmis
  · rcases List.mem_cons.1 hx with rfl | hx
    · exact hiocp
    · exact h.iocp x (List.mem_of_mem_filter hx)

/-- What one action preserves. -/
theorem Balanced.perform (h : Balanced b s) (act : Action) : Balanced b (s.perform b act) := by
  cases act with
  | create config g p =>
      rw [Process.perform]
      obtain hnone | ⟨l, hsome, hp, hreg⟩ := pdLoopCreate_spec (b := b) (g := g)
        (s := s.ledger) config (p.filter fun a => a ≠ NULL ∧ (s.find a).isNone)
      · rw [hnone]
        exact h
      · rw [hsome]
        rw [Option.filter_eq_some_iff] at hp
        -- the address is new
        have hnew : ∀ x ∈ s.loops, x.addr ≠ l.addr := by
          have hfind : s.find l.addr = none :=
            Option.isNone_iff_eq_none.1 (of_decide_eq_true hp.2).2
          intro x hx
          simpa using List.find?_eq_none.1 hfind x hx
        refine ⟨h.ledger.add hnew, fun x hx => ?_⟩
        rcases List.mem_cons.1 hx with rfl | hx
        · exact fun _ => hreg
        · exact h.iocp x hx
  | register a granted =>
      rw [Process.perform]
      cases hf : s.find a with
      | none => exact h
      | some l =>
          obtain ⟨hl, rfl⟩ := find_eq_some hf
          dsimp only
          split_ifs with hno
          · exact h
          · simp only [Bool.or_eq_true, decide_eq_true_eq, not_or, Bool.not_eq_true] at hno
            obtain ⟨⟨hb, hreg⟩, -⟩ := hno
            refine h.put hl rfl ?_ h.ledger.misused fun heq => absurd heq hb
            have hrest := (h.ledger.rest hl).cons (l.addr, Resource.registrations)
            rw [Ledger.entries, hreg] at hrest
            exact hrest
  | ref a =>
      rw [Process.perform]
      cases hf : s.find a with
      | none => exact h
      | some l =>
          obtain ⟨hl, rfl⟩ := find_eq_some hf
          have hrest := h.ledger.rest hl
          exact h.put hl rfl hrest h.ledger.misused (h.iocp l hl)
  | unref a =>
      rw [Process.perform]
      cases hf : s.find a with
      | none => exact h
      | some l =>
          obtain ⟨hl, rfl⟩ := find_eq_some hf
          dsimp only
          split_ifs
          · obtain ⟨hheld, hmis⟩ := destroy_perm (h.iocp l hl) (h.ledger.rest hl)
            exact ⟨h.ledger.drop hl hheld (hmis.trans h.ledger.misused),
              fun x hx => h.iocp x (List.mem_of_mem_filter hx)⟩
          · have hrest := h.ledger.rest hl
            exact h.put hl rfl hrest h.ledger.misused (h.iocp l hl)

end

theorem balanced_empty (b : Backend) : Balanced b Process.empty where
  ledger := .empty _ _
  iocp _ h := absurd h (by simp [Process.empty])

/-- **Nothing that a loop acquires is lost or given back twice.** -/
theorem ledger_balanced {b : Backend} {s : Process} (h : (processes b).Reachable s) :
    s.ledger.held.Perm (s.loops.flatMap (resources b)) ∧ s.ledger.misused = false := by
  have hbal : Balanced b s := by
    refine h.invariant ?_ ?_
    · rintro s rfl
      exact balanced_empty b
    · intro s act s' hi _ hstep
      obtain rfl := Option.some.inj hstep
      exact hi.perform act
  have hheld := hbal.ledger.held
  rw [List.append_nil] at hheld
  exact ⟨hheld, hbal.ledger.misused⟩

/-- A loop is created and registers a watcher; a second one is refused its eventfd. -/
def refusedEventfd : List Action :=
  let g : Grants := ⟨true, true, true, true, true, true, true⟩
  [.create (some ⟨0, 1⟩) g (some 1), .register 1 true,
    .create none { g with eventfd := false } (some 2), .ref 1, .unref 1]

theorem refusedEventfd_balanced :
    ∃ s, Machine.run (fun s act => some (Process.perform .epoll s act)) Process.empty
        refusedEventfd = some s ∧
      s.loops = [⟨1, true, 1, true⟩] ∧
      s.ledger.held.Perm (s.loops.flatMap (resources .epoll)) ∧ s.ledger.misused = false := by
  obtain ⟨s, hrun, hloops⟩ : ∃ s, Machine.run (fun s act => some (Process.perform .epoll s act))
      Process.empty refusedEventfd = some s ∧ s.loops = [⟨1, true, 1, true⟩] := ⟨_, rfl, rfl⟩
  exact ⟨s, hrun, hloops, ledger_balanced (Machine.Reach.run (.init rfl) hrun)⟩

end LoopResources
end PollDancer
