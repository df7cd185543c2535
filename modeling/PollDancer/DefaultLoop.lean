/-
# The default loop

`pd_loop_default` of `src/loop.c` keeps the loop it has created in a static pointer, and
takes a second reference to it, so that "it's not destroyed when user calls unref".  It
takes that reference once, when the loop is created; a later call returns the pointer and
takes none.  So the loop has two references however many users it has: the second
`pd_loop_unref` frees it, and the pointer is never cleared (`default_persists_iff`).

The backend is arbitrary.  A `Process` is what `src/loop.c` has besides the loops it is
called on: the static pointer, and which loops are in memory.
-/
import PollDancer.LoopTeardown

namespace PollDancer

open Library

variable {κ δ ω : Type}

/-- The static `default_loop`, and the loops in memory. -/
structure Process (κ δ : Type) where
  defaultLoop : Option Addr
  loops : Addr → Option (World κ δ)

namespace Process

/-- The loop structure at `a` is allocated, overwritten or freed. -/
def setLoop (s : Process κ δ) (a : Addr) (l : Option (World κ δ)) : Process κ δ :=
  { s with loops := Function.update s.loops a l }

@[simp]
theorem setLoop_loops_self (s : Process κ δ) (a : Addr) (l : Option (World κ δ)) :
    (s.setLoop a l).loops a = l :=
  Function.update_self ..

@[simp]
theorem setLoop_defaultLoop (s : Process κ δ) (a : Addr) (l : Option (World κ δ)) :
    (s.setLoop a l).defaultLoop = s.defaultLoop := rfl

/-- Is there a loop at `a`? -/
def live (s : Process κ δ) (a : Addr) : Bool := (s.loops a).isSome

end Process

/-- The loop that `pd_loop_create` makes over the state `sys` of its backend. -/
def newLoop (sys : κ) : World κ δ :=
  { heap := fun _ => none, loop := .create, sys, destroyed := [] }

/-- `pd_loop_create`: `p` is the address of the structure, `none` if one of the
allocations or the backend's `loop_create` fails. -/
def pdLoopCreate (sys : κ) (s : Process κ δ) (p : Option Addr) : Process κ δ × Option Addr :=
  match p.filter fun a => a ≠ NULL ∧ (s.loops a).isNone with
  | none => (s, none)
  | some a => (s.setLoop a (some (newLoop sys)), some a)

/-- `pd_loop_default`.  Only the call that creates the loop takes a reference. -/
def pdLoopDefault (sys : κ) (s : Process κ δ) (p : Option Addr) : Process κ δ × Option Addr :=
  match s.defaultLoop with
  | some a => (s, some a)
  | none =>
    let r := pdLoopCreate sys s p
    match r.2 with
    | none => (r.1, none)
    | some a =>
      ({ r.1.setLoop a ((r.1.loops a).map pdLoopRef) with defaultLoop := some a }, some a)

/-- `pd_loop_unref` of the loop at `a`, whose structure goes when `pd_loop_unref` frees
it. -/
def Process.unref (ops : PlatformOps κ δ ω) (loopDestroy : κ → κ) (s : Process κ δ) (a : Addr) :
    Process κ δ :=
  match s.loops a with
  | none => s
  | some l =>
    let r := pdLoopUnref ops loopDestroy l
    s.setLoop a (if .loop ∈ r.2 then none else some r.1)

/-- What the users of the default loop do. -/
inductive ProcessCall (ω : Type)
  | default (p : Option Addr)
  | unref (a : Addr)
  /-- A call on a watcher of the loop at `a`. -/
  | use (a : Addr) (c : Call ω)
  deriving DecidableEq

/-- The state after a call. -/
def Process.perform (ops : PlatformOps κ δ ω) (loopDestroy : κ → κ) (sys : κ) (s : Process κ δ) :
    ProcessCall ω → Process κ δ
  | .default p => (pdLoopDefault sys s p).1
  | .unref a => s.unref ops loopDestroy a
  | .use a c => s.setLoop a ((s.loops a).map fun l => (l.exec ops c).1)

/-- What has happened: the loops that `pd_loop_default` has returned, each with whether it
was in memory then, how many calls of `pd_loop_unref` there were, and which of them have
freed the default loop. -/
structure LoopLedger where
  returned : List (Option Addr × Bool)
  unrefs : ℕ
  freed : List Addr
  deriving DecidableEq, Repr

/-- Nothing has happened. -/
def LoopLedger.empty : LoopLedger := ⟨[], 0, []⟩

/-- The ledger after a call. -/
def LoopLedger.note (ops : PlatformOps κ δ ω) (loopDestroy : κ → κ) (sys : κ) (s : Process κ δ)
    (c : ProcessCall ω) (g : LoopLedger) : LoopLedger :=
  let s' := s.perform ops loopDestroy sys c
  match c with
  | .default p =>
    let r := (pdLoopDefault sys s p).2
    { g with returned := g.returned ++ [(r, r.any s'.live)] }
  | .unref a =>
    { g with
      unrefs := g.unrefs + 1
      freed := if s.live a && !s'.live a then g.freed ++ [a] else g.freed }
  | .use .. => g

/-- The runs of a process that starts without a loop, with the ledger beside it. -/
def defaultRuns (ops : PlatformOps κ δ ω) (loopDestroy : κ → κ) (sys : κ) :
    Machine (Process κ δ × LoopLedger) (ProcessCall ω) :=
  Machine.recorded (fun s => s.defaultLoop = none ∧ ∀ a, s.loops a = none)
    (fun s c => some (s.perform ops loopDestroy sys c)) .empty
    (LoopLedger.note ops loopDestroy sys)

/-- Each `pd_loop_unref` gives back a loop that `pd_loop_default` has returned, and there
are never more of them than calls of `pd_loop_default`. -/
def Balanced (s : Process κ δ × LoopLedger) : ProcessCall ω → Prop
  | .unref a => some a ∈ s.2.returned.map Prod.fst ∧ s.2.unrefs < s.2.returned.length
  | _ => True

instance (s : Process κ δ × LoopLedger) : (c : ProcessCall ω) → Decidable (Balanced s c)
  | .unref a => inferInstanceAs
      (Decidable (some a ∈ s.2.returned.map Prod.fst ∧ s.2.unrefs < s.2.returned.length))
  | .default _ => isTrue trivial
  | .use _ _ => isTrue trivial

/-- The default loop has never been freed, and every loop that `pd_loop_default` has
returned was in memory. -/
def LoopLedger.Persists (g : LoopLedger) : Prop :=
  g.freed = [] ∧ ∀ r ∈ g.returned, r.1.isSome → r.2 = true

/-! ### The two references of the default loop -/

/-- What the calls keep: the static pointer is the only loop there has been, and it has a
reference less for every `pd_loop_unref`. -/
structure DefaultInv (s : Process κ δ) (g : LoopLedger) : Prop where
  returned : ∀ a b, (some a, b) ∈ g.returned → s.defaultLoop = some a
  unused : s.defaultLoop = none → g.unrefs = 0 ∧ ∀ a, s.loops a = none
  references : ∀ a, s.defaultLoop = some a → g.unrefs ≤ 1 →
    ∃ l, s.loops a = some l ∧ l.loop.refCount = 2 - g.unrefs
  persists : g.unrefs ≤ 1 → g.Persists
  freed : 2 ≤ g.unrefs → g.freed ≠ []

section

variable {ops : PlatformOps κ δ ω} {loopDestroy : κ → κ} {sys : κ} {s : Process κ δ}
  {g : LoopLedger}

/-- `pd_loop_default` returns the static pointer, or sets it to a new loop with two
references, or there is no memory for a loop. -/
theorem default_cases (sys : κ) (s : Process κ δ) (p : Option Addr) :
    (∃ a, s.defaultLoop = some a ∧ pdLoopDefault sys s p = (s, some a)) ∨
    (s.defaultLoop = none ∧ pdLoopDefault sys s p = (s, none)) ∨
    ∃ a l, s.defaultLoop = none ∧ (pdLoopDefault sys s p).2 = some a ∧
      (pdLoopDefault sys s p).1.defaultLoop = some a ∧
      (pdLoopDefault sys s p).1.loops a = some l ∧ l.loop.refCount = 2 := by
  unfold pdLoopDefault pdLoopCreate
  cases hd : s.defaultLoop with
  | some a => exact Or.inl ⟨a, rfl, rfl⟩
  | none =>
      refine Or.inr ?_
      cases p.filter fun a => a ≠ NULL ∧ (s.loops a).isNone with
      | none => exact Or.inl ⟨rfl, rfl⟩
      | some a =>
          refine Or.inr ⟨a, pdLoopRef (newLoop sys), rfl, rfl, rfl, ?_, rfl⟩
          simp

/-- `pd_loop_unref` takes a reference, and frees the loop with the last one. -/
theorem unref_loops (ops : PlatformOps κ δ ω) (loopDestroy : κ → κ) {a : Addr} {l : World κ δ}
    (hl : s.loops a = some l) :
    (l.loop.refCount = 1 → (s.unref ops loopDestroy a).loops a = none) ∧
    (l.loop.refCount ≠ 1 → ∃ l', (s.unref ops loopDestroy a).loops a = some l' ∧
      l'.loop.refCount = l.loop.refCount - 1) := by
  unfold Process.unref
  rw [hl]
  constructor
  · intro hone
    have hzero : l.loop.refCount - 1 = 0 := by omega
    simp [pdLoopUnref, PdLoop.setRefCount, hzero]
  · intro hne
    have hzero : l.loop.refCount - 1 ≠ 0 := by omega
    simp [pdLoopUnref, PdLoop.setRefCount, hzero]

theorem unref_defaultLoop (a : Addr) :
    (s.unref ops loopDestroy a).defaultLoop = s.defaultLoop := by
  unfold Process.unref
  cases s.loops a <;> rfl

/-- What is needed of a state in which `r` has been returned. -/
theorem DefaultInv.returns (h : DefaultInv s g) {s' : Process κ δ} {r : Option Addr}
    (hkept : ∀ a, s.defaultLoop = some a → s'.defaultLoop = some a)
    (hr : ∀ a, r = some a → s'.defaultLoop = some a)
    (hunused : s'.defaultLoop = none → g.unrefs = 0 ∧ ∀ a, s'.loops a = none)
    (hreferences : ∀ a, s'.defaultLoop = some a → g.unrefs ≤ 1 →
      ∃ l, s'.loops a = some l ∧ l.loop.refCount = 2 - g.unrefs) :
    DefaultInv s' { g with returned := g.returned ++ [(r, r.any s'.live)] } where
  returned := by
    intro a b hmem
    rcases List.mem_append.1 hmem with hold | hnew
    · exact hkept a (h.returned a b hold)
    · exact hr a (Prod.mk.inj (List.mem_singleton.1 hnew)).1.symm
  unused := hunused
  references := hreferences
  persists := by
    intro hle
    refine ⟨(h.persists hle).1, fun x hx hsome => ?_⟩
    rcases List.mem_append.1 hx with hold | hnew
    · exact (h.persists hle).2 x hold hsome
    · obtain rfl := List.mem_singleton.1 hnew
      obtain ⟨a, rfl⟩ := Option.isSome_iff_exists.1 hsome
      obtain ⟨l, hl, -⟩ := hreferences a (hr a rfl) hle
      change s'.live a = true
      rw [Process.live, hl]
      rfl
  freed := h.freed

/-- `pd_loop_default` keeps the invariant. -/
theorem DefaultInv.default (h : DefaultInv s g) (p : Option Addr) :
    DefaultInv (s.perform ops loopDestroy sys (.default p))
      (g.note ops loopDestroy sys s (.default p)) := by
  change DefaultInv (pdLoopDefault sys s p).1 { g with returned := g.returned ++
    [((pdLoopDefault sys s p).2, (pdLoopDefault sys s p).2.any (pdLoopDefault sys s p).1.live)] }
  rcases default_cases sys s p with ⟨a, hd, heq⟩ | ⟨hd, heq⟩ | ⟨a, l, hd, hr, hd', hl, href⟩
  · rw [heq]
    refine h.returns (fun _ hb => hb) (fun b hb => ?_) h.unused h.references
    exact hd.trans hb
  · rw [heq]
    exact h.returns (fun _ hb => hb) (fun b hb => nomatch hb) h.unused h.references
  · refine h.returns (fun b hb => nomatch hd.symm.trans hb) (fun b hb => ?_)
      (fun hnone => nomatch hd'.symm.trans hnone) fun b hb _ => ?_
    · rw [hd', ← hr, hb]
    · obtain rfl := Option.some.inj (hd'.symm.trans hb)
      refine ⟨l, hl, ?_⟩
      rw [href, (h.unused hd).1]
      rfl

/-- A `pd_loop_unref` of a loop that has been returned keeps the invariant. -/
theorem DefaultInv.unref (h : DefaultInv s g) {a : Addr}
    (hret : some a ∈ g.returned.map Prod.fst) :
    DefaultInv (s.perform ops loopDestroy sys (.unref a))
      (g.note ops loopDestroy sys s (.unref a)) := by
  obtain ⟨⟨_, b⟩, hmem, rfl⟩ := List.mem_map.1 hret
  have hd := h.returned a b hmem
  have hd' : (s.unref ops loopDestroy a).defaultLoop = some a := (unref_defaultLoop a).trans hd
  -- the first one leaves one of the two references, the second takes it
  have hfirst : g.unrefs = 0 → ∃ l, (s.unref ops loopDestroy a).loops a = some l ∧
      l.loop.refCount = 1 := by
    intro hzero
    obtain ⟨l, hl, href⟩ := h.references a hd (by omega)
    obtain ⟨l', hl', href'⟩ := (unref_loops ops loopDestroy hl).2 (by omega)
    exact ⟨l', hl', by omega⟩
  have hsecond : g.unrefs = 1 → s.live a = true ∧ (s.unref ops loopDestroy a).live a = false := by
    intro hone
    obtain ⟨l, hl, href⟩ := h.references a hd (by omega)
    have hgone := (unref_loops ops loopDestroy hl).1 (by omega)
    rw [Process.live, Process.live, hl, hgone]
    exact ⟨rfl, rfl⟩
  constructor
  case returned => exact fun a' b' hx => hd'.trans (hd.symm.trans (h.returned a' b' hx))
  case unused => exact fun hnone => nomatch hd'.symm.trans hnone
  case references =>
    intro a' ha' hle
    obtain rfl := Option.some.inj (hd'.symm.trans ha')
    have hzero : g.unrefs = 0 := Nat.le_zero.1 (Nat.le_of_succ_le_succ hle)
    obtain ⟨l, hl, href⟩ := hfirst hzero
    refine ⟨l, hl, href.trans ?_⟩
    change 1 = 2 - ((g.unrefs + 1 : ℕ) : ℤ)
    omega
  case persists =>
    intro hle
    have hzero : g.unrefs = 0 := Nat.le_zero.1 (Nat.le_of_succ_le_succ hle)
    obtain ⟨l, hl, -⟩ := hfirst hzero
    obtain ⟨hfreed, hreturned⟩ := h.persists (by omega)
    refine ⟨?_, hreturned⟩
    change (if s.live a && !(s.unref ops loopDestroy a).live a then g.freed ++ [a] else g.freed) = _
    rw [Process.live, Process.live, hl]
    simpa using hfreed
  case freed =>
    intro hle
    change (if s.live a && !(s.unref ops loopDestroy a).live a then g.freed ++ [a] else g.freed) ≠ _
    rcases Nat.lt_or_ge g.unrefs 2 with hlt | hge
    · have hone : g.unrefs = 1 := by
        have hle' : 2 ≤ g.unrefs + 1 := hle
        omega
      obtain ⟨hbefore, hafter⟩ := hsecond hone
      simp [hbefore, hafter]
    · split_ifs
      · simp
      · exact h.freed hge

/-- A call on a watcher of a loop keeps the invariant. -/
theorem DefaultInv.use (h : DefaultInv s g) (a : Addr) (c : Call ω) :
    DefaultInv (s.perform ops loopDestroy sys (.use a c)) g where
  returned := h.returned
  unused := by
    intro hnone
    obtain ⟨hzero, hloops⟩ := h.unused hnone
    refine ⟨hzero, fun b => ?_⟩
    change Function.update s.loops a ((s.loops a).map fun l => (l.exec ops c).1) b = none
    rw [hloops a, Function.update_apply]
    split_ifs
    · rfl
    · exact hloops b
  references := by
    intro b hb hle
    obtain ⟨l, hl, href⟩ := h.references b hb hle
    change ∃ l', Function.update s.loops a ((s.loops a).map fun l => (l.exec ops c).1) b = some l' ∧
      l'.loop.refCount = 2 - g.unrefs
    rcases eq_or_ne b a with rfl | hne
    · refine ⟨(l.exec ops c).1, ?_, (World.exec_refCount ops l c).trans href⟩
      rw [Function.update_self, hl]
      rfl
    · refine ⟨l, ?_, href⟩
      rw [Function.update_of_ne hne, hl]
  persists := h.persists
  freed := h.freed

theorem DefaultInv.of_reach (hr : (defaultRuns ops loopDestroy sys).Reach Balanced (s, g)) :
    DefaultInv s g := by
  refine Machine.Reach.recorded_invariant (I := DefaultInv) ?_ ?_ hr
  · rintro s ⟨hd, hloops⟩
    exact
      { returned := fun a b hmem => absurd hmem List.not_mem_nil
        unused := fun _ => ⟨rfl, hloops⟩
        references := fun a ha => nomatch hd.symm.trans ha
        persists := fun _ => ⟨rfl, fun r hx => absurd hx List.not_mem_nil⟩
        freed := fun hle => nomatch hle }
  · intro s g c s' h hok hnext
    obtain rfl := Option.some.inj hnext
    cases c with
    | default p => exact h.default p
    | unref a => exact h.unref hok.1
    | use a c => exact h.use a c

/-- **The default loop persists exactly as long as it is given back at most once.** -/
theorem default_persists_iff (hr : (defaultRuns ops loopDestroy sys).Reach Balanced (s, g)) :
    g.Persists ↔ g.unrefs ≤ 1 := by
  have h := DefaultInv.of_reach hr
  constructor
  · intro hp
    by_contra hmany
    exact h.freed (Nat.lt_of_not_le hmany) hp.1
  · exact h.persists

end

/-! ### On the epoll backend -/

section Epoll

open Epoll

/-- The processes whose default loop is an epoll loop with the eventfd 3. -/
def epollDefaultRuns : Machine (Process EpollSys EpollWatcherData × LoopLedger)
    (ProcessCall EpollEnv) :=
  defaultRuns epollOps epollLoopDestroy (epollLoopCreate 3 fun _ => true).sys

/-- No loop has been created. -/
def noLoop : Process EpollSys EpollWatcherData := ⟨none, fun _ => none⟩

/-- Two users acquire the default loop and give it back, as the tests do; the next one
gets a pointer to freed memory. -/
theorem not_default_persists : ¬∀ s, epollDefaultRuns.Reach Balanced s → s.2.Persists := by
  intro h
  obtain ⟨s, hrun, hlost⟩ : ∃ s, Machine.runGuarded Balanced
      (Machine.recordStep (fun s c => some (Process.perform epollOps epollLoopDestroy
        (epollLoopCreate 3 fun _ => true).sys s c))
        (LoopLedger.note epollOps epollLoopDestroy (epollLoopCreate 3 fun _ => true).sys))
      (noLoop, .empty)
      [.default (some 100), .default none, .unref 100, .unref 100, .default none] = some s ∧
        (some 100, false) ∈ s.2.returned :=
    ⟨_, rfl, by decide⟩
  have hr : epollDefaultRuns.Reach Balanced s := .runGuarded (.init ⟨⟨rfl, fun _ => rfl⟩, rfl⟩) hrun
  exact nomatch (h s hr).2 _ hlost rfl

/-- Two users acquire the default loop, and one of them gives it back. -/
theorem givenBackOnce_persists : ∃ s, epollDefaultRuns.Reach Balanced s ∧
    s.2.returned = [(some 100, true), (some 100, true)] ∧ s.2.Persists := by
  obtain ⟨s, hrun, hreturned, hunrefs⟩ : ∃ s, Machine.runGuarded Balanced
      (Machine.recordStep (fun s c => some (Process.perform epollOps epollLoopDestroy
        (epollLoopCreate 3 fun _ => true).sys s c))
        (LoopLedger.note epollOps epollLoopDestroy (epollLoopCreate 3 fun _ => true).sys))
      (noLoop, .empty) [.default (some 100), .default none, .unref 100] = some s ∧
        s.2.returned = [(some 100, true), (some 100, true)] ∧ s.2.unrefs ≤ 1 :=
    ⟨_, rfl, rfl, Nat.le_refl 1⟩
  have hr : epollDefaultRuns.Reach Balanced s := .runGuarded (.init ⟨⟨rfl, fun _ => rfl⟩, rfl⟩) hrun
  exact ⟨s, hr, hreturned, (default_persists_iff hr).2 hunrefs⟩

end Epoll
end PollDancer
