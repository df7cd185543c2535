/-
# Tearing down a watcher with a read in flight

`iocp_watcher_unregister` cannot free the platform data while the kernel holds the
`OVERLAPPED` in it: it sets `stopping`, and the loop frees the block when it takes up the
next packet of the watcher.  That packet need not be the one of the read.  The writes that
the user has issued on the handle have the same key, and the check of `stopping` stands
before the one that tells them from the read: `not_freed_once`.

For every block address the teardowns that began with a read in flight, the packets of
those reads and the blocks that were freed are counted (`Count`).  In runs in which no
write overtakes the read, and no watcher is destroyed or started while its last read is
outstanding, they stay in step: `freed_once`.
-/
import PollDancer.Iocp.PendingFlag

namespace PollDancer
namespace Iocp

open Library

/-- The steps of the loop, and the calls that other threads make. -/
inductive TeardownStep
  | loop (l : Step)
  /-- A call from another thread; of `iocp_drain_sync` only the time until it returns is
  left, in which the loop may or may not go on. -/
  | elsewhere (c : Call IocpEnv)
  deriving DecidableEq

/-- The state after a step, `none` where the step cannot be taken. -/
def teardownStep (s : State) : TeardownStep → Option State
  | .loop l => step s l
  | .elsewhere c =>
      if s.halted || !freshFor s.world c then none
      else some { s with world := (s.world.exec iocpOps c).1 }

/-- The teardowns of the block at an address that began with a read in flight. -/
structure Count where
  begun : ℕ
  /-- Those whose read has been dequeued since. -/
  dequeued : ℕ
  /-- Those whose block has been freed since. -/
  freed : ℕ
  deriving DecidableEq, Repr

/-- The block is being torn down, and a read on it is outstanding. -/
def tearing (k : IocpSys) (d : Addr) : Bool :=
  (k.blocks d).any (·.stopping) && decide (0 < k.outstanding d)

/-- A teardown begins with a read in flight. -/
def begins (k k' : IocpSys) (d : Addr) : Bool :=
  (k.blocks d).any (!·.stopping) && decide (0 < k.outstanding d) && (k'.blocks d).all (·.stopping)

/-- The block is freed. -/
def frees (k k' : IocpSys) (d : Addr) : Bool := (k.blocks d).isSome && (k'.blocks d).isNone

/-- The loop dequeues a read on the block. -/
def dequeues (s : State) (d : Addr) : TeardownStep → Bool
  | .loop .next => s.world.sys.port.next.any fun p => p.1.reads d
  | _ => false

/-- What is dequeued or freed counts as long as it belongs to a teardown. -/
def Count.note (c : Count) (begins dequeues frees : Bool) : Count where
  begun := c.begun + begins.toNat
  dequeued := c.dequeued + (dequeues && c.dequeued < c.begun).toNat
  freed := c.freed + (frees && c.freed < c.begun + begins.toNat).toNat

/-- The counts after a step. -/
def noteTeardown (s : State) (l : TeardownStep) (h : Addr → Count) (d : Addr) : Count :=
  let k := s.world.sys
  let k' := ((teardownStep s l).getD s).world.sys
  (h d).note (begins k k' d) (dequeues s d l) (frees k k' d)

/-- The runs of an IOCP loop and of other threads, with the counts of their teardowns. -/
def teardownRuns : Machine (State × (Addr → Count)) TeardownStep :=
  Machine.recorded Init teardownStep (fun _ => ⟨0, 0, 0⟩) noteTeardown

/-- Every teardown with a read in flight frees its block once, and then its read has been
dequeued; the kernel holds no pointer into freed memory. -/
structure FreedOnce (k : IocpSys) (h : Addr → Count) : Prop where
  freed : ∀ d, (h d).freed = (h d).dequeued
  begun : ∀ d, (h d).begun = (h d).freed + (tearing k d).toNat
  held : ∀ d, 0 < k.outstanding d → (k.blocks d).isSome = true

/-! ### What a teardown needs -/

/-- A watcher that is destroyed or started again has no read outstanding, one that is
stopped none that its flag does not tell of, and a new reader gets a place in the list. -/
def unhurried (s : IocpWorld) : Call IocpEnv → Bool
  | .destroy a => (s.heap a).all fun x => unread s.sys x.platformData
  | .start a _ => (s.heap a).all fun x => x.active || unread s.sys x.platformData
  | .stop a => (s.heap a).all fun x => !x.active || x.platformData.all fun d =>
      (s.sys.blocks d).all fun b => s.sys.outstanding d ≤ b.pendingOperation.toNat
  | c => c.callocs.all fun a => (pdLoopAddWatcher s.loop a c.growList).2 == .ok ||
      (c.structure (δ := Addr)).all fun w => !w.events.has .read

/-- The packet is not one that a watcher in teardown has to leave to its read. -/
def inTurn (s : IocpWorld) : Packet → Bool
  | .io a o _ => (s.heap a).all fun x => x.platformData.all fun d =>
      !tearing s.sys d || o == .data d
  | _ => true

/-- Besides, calls wait for reads, and writes do not overtake them. -/
def TeardownStep.patient (s : State) : TeardownStep → Bool
  | .elsewhere c => (Step.call c).sound s && unhurried s.world c
  | .loop l => l.sound s && match l with
    | .call c => unhurried s.world c
    | .next => s.world.sys.port.next.all fun p => inTurn s.world p.1
    | _ => true

/-- The step is sound, and does not hurry a teardown. -/
def TeardownStep.Patient (s : State × (Addr → Count)) (l : TeardownStep) : Prop :=
  l.patient s.1 = true

instance (s : State × (Addr → Count)) (l : TeardownStep) :
    Decidable (TeardownStep.Patient s l) :=
  inferInstanceAs (Decidable (l.patient s.1 = true))

section Counts

variable {k k' : IocpSys} {c : Count} {d : Addr} {taken : Bool}

/-- The counts of one address agree, and one read at most is outstanding on a block in
teardown. -/
structure Settled (k : IocpSys) (c : Count) (d : Addr) : Prop where
  freed : c.freed = c.dequeued
  begun : c.begun = c.freed + (tearing k d).toNat
  single : ∀ b, k.blocks d = some b → b.stopping = true → k.outstanding d ≤ 1

/-- What a step does to the block at an address, and whether a read on it is taken up. -/
inductive Course (k k' : IocpSys) (d : Addr) (taken : Bool) : Prop
  | quiet : k.outstanding d = 0 → k'.outstanding d = 0 → Course k k' d taken
  | going : (∀ b, k.blocks d = some b → b.stopping = false) →
      (∀ b, k'.blocks d = some b → b.stopping = false) →
      ((k.blocks d).isSome = true → (k'.blocks d).isSome = true) → Course k k' d taken
  | same : (k'.blocks d).map (·.stopping) = (k.blocks d).map (·.stopping) →
      k'.outstanding d = k.outstanding d → taken = false → Course k k' d taken
  | deferred {b b' : IocpWatcherData} : k.blocks d = some b → b.stopping = false →
      k.outstanding d = 1 → k'.blocks d = some b' → b'.stopping = true →
      k'.outstanding d = 1 → Course k k' d taken
  | released {b : IocpWatcherData} : k.blocks d = some b → b.stopping = true →
      0 < k.outstanding d → k'.blocks d = none → taken = true → Course k k' d taken

theorem tearing_of_quiet (h : k.outstanding d = 0) : tearing k d = false := by
  simp [tearing, h]

theorem tearing_of_going (h : ∀ b, k.blocks d = some b → b.stopping = false) :
    tearing k d = false := by
  cases hb : k.blocks d with
  | none => simp [tearing, hb]
  | some b => simp [tearing, hb, h b hb]

theorem tearing_of_stopping {b : IocpWatcherData} (hb : k.blocks d = some b)
    (hstop : b.stopping = true) (hpos : 0 < k.outstanding d) : tearing k d = true := by
  simp [tearing, hb, hstop, hpos]

/-- Where no teardown is in progress and none begins, nothing is counted. -/
theorem Settled.idle (h : Settled k c d) (ht : tearing k d = false) (hb : begins k k' d = false)
    (ht' : tearing k' d = false)
    (hs : ∀ b, k'.blocks d = some b → b.stopping = true → k'.outstanding d ≤ 1) :
    Settled k' (c.note (begins k k' d) taken (frees k k' d)) d := by
  have hbegun := h.begun
  rw [ht, Bool.toNat_false, Nat.add_zero] at hbegun
  refine ⟨?_, ?_, hs⟩
  · simp [Count.note, hb, hbegun, h.freed]
  · simp [Count.note, hb, ht', hbegun]

/-- What every course preserves. -/
theorem Course.settled (h : Course k k' d taken) (hs : Settled k c d) :
    Settled k' (c.note (begins k k' d) taken (frees k k' d)) d := by
  cases h with
  | quiet h₀ h₀' =>
      refine hs.idle (tearing_of_quiet h₀) ?_ (tearing_of_quiet h₀') fun _ _ _ => by omega
      simp [begins, h₀]
  | going hgo hgo' hsome =>
      refine hs.idle (tearing_of_going hgo) ?_ (tearing_of_going hgo') fun b hb hstop => ?_
      · cases hb : k.blocks d with
        | none => simp [begins, hb]
        | some b =>
            obtain ⟨b', hb'⟩ := Option.isSome_iff_exists.1 (hsome (by rw [hb]; rfl))
            simp [begins, hb', hgo' b' hb']
      · exact nomatch (hgo' b hb).symm.trans hstop
  | same hblocks hout htaken =>
      have htear : tearing k' d = tearing k d := by
        cases hb : k.blocks d <;> cases hb' : k'.blocks d <;> simp_all [tearing]
      have hbegins : begins k k' d = false := by
        cases hb : k.blocks d <;> cases hb' : k'.blocks d <;> simp_all [begins]
      have hfrees : frees k k' d = false := by
        cases hb : k.blocks d <;> cases hb' : k'.blocks d <;> simp_all [frees]
      refine ⟨?_, ?_, fun b' hb' hstop => ?_⟩
      · simp [Count.note, hfrees, htaken, hs.freed]
      · simp [Count.note, hfrees, hbegins, htear, hs.begun]
      · rw [hb', Option.map_some] at hblocks
        obtain ⟨b, hb, heq⟩ := Option.map_eq_some_iff.1 hblocks.symm
        rw [hout]
        exact hs.single b hb (heq.trans hstop)
  | deferred hb hgo hone hb' hstop hone' =>
      have hidle : tearing k d = false := by simp [tearing, hb, hgo]
      have hbegun := hs.begun
      rw [hidle, Bool.toNat_false, Nat.add_zero] at hbegun
      have hbegins : begins k k' d = true := by simp [begins, hb, hgo, hone, hb', hstop]
      have hfrees : frees k k' d = false := by simp [frees, hb']
      refine ⟨?_, ?_, fun _ _ _ => Nat.le_of_eq hone'⟩
      · simp [Count.note, hfrees, hbegun, hs.freed]
      · rw [tearing_of_stopping hb' hstop (by omega)]
        simp [Count.note, hfrees, hbegins, hbegun]
  | released hb hstop hpos hnone htaken =>
      have hbegun := hs.begun
      rw [tearing_of_stopping hb hstop hpos] at hbegun
      have hbegins : begins k k' d = false := by simp [begins, hb, hstop]
      have hfrees : frees k k' d = true := by simp [frees, hb, hnone]
      have hfreed := hs.freed
      have hlt : c.dequeued < c.begun := by
        rw [hbegun, hfreed]
        exact Nat.lt_succ_self _
      refine ⟨?_, ?_, fun b' hb' => nomatch hnone.symm.trans hb'⟩
      · simp [Count.note, hfrees, htaken, hbegins, hlt, hfreed]
      · simp [Count.note, hfrees, hbegins, tearing, hnone, hbegun]

end Counts

section Worlds

variable {w w' : IocpWorld} {c : Call IocpEnv} {a d : Addr} {k k' : IocpSys}

theorem outstanding_pos : 0 < k.outstanding d ↔ ∃ a, Reading k a d := by
  refine Port.count_pos_iff.trans ?_
  constructor
  · rintro ⟨p, hp, hr⟩
    cases p with
    | io a o n =>
        cases o with
        | data e =>
            obtain rfl := eq_of_beq hr
            exact ⟨a, n, hp⟩
        | client => exact nomatch hr
    | sync => exact nomatch hr
    | timer => exact nomatch hr
    | wake => exact nomatch hr
  · rintro ⟨a, n, hp⟩
    exact ⟨_, hp, beq_self_eq_true d⟩

/-- The reads that are outstanding belong to live watchers and their blocks, and active
watchers are not in teardown. -/
structure Kept (s : IocpWorld) : Prop where
  apart : Apart s
  held : ∀ a d, Reading s.sys a d → Names s a d ∧ (s.sys.blocks d).isSome = true
  going : ∀ a x d b, s.heap a = some x → x.active = true → x.platformData = some d →
    s.sys.blocks d = some b → b.stopping = false

theorem Kept.quiet (h : Kept w) (hb : w.sys.blocks d = none) : w.sys.outstanding d = 0 := by
  refine Nat.eq_zero_of_not_pos fun hpos => ?_
  obtain ⟨a, hr⟩ := outstanding_pos.1 hpos
  have hsome := (h.held a d hr).2
  rw [hb] at hsome
  exact nomatch hsome

theorem unread_iff {p : Option Addr} :
    unread k p = true ↔ ∀ d, p = some d → k.outstanding d = 0 := by
  simp [unread, Option.all_eq_true]

/-- A new block is not in teardown. -/
theorem Begins.going {x y : PdWatcher Addr} {b : IocpWatcherData} {e : Addr}
    (h : Begins w w' a x e) (hy : w'.heap a = some y) (hpd : y.platformData = some d)
    (hb : w'.sys.blocks d = some b) : b.stopping = false := by
  obtain rfl := Option.some.inj (h.live.symm.trans hy)
  obtain rfl := Option.some.inj (h.data.symm.trans hpd)
  rcases h.block with ⟨-, hnew, -⟩ | ⟨-, hnew, -⟩
  · obtain rfl := Option.some.inj (hnew.symm.trans hb)
    rfl
  · obtain rfl := Option.some.inj (hnew.symm.trans hb)
    rfl

/-- What an unhurried call does to the watcher it is about: its block stays, is written or
is left to the loop, or no read is outstanding on it. -/
inductive Handled (w w' : IocpWorld) (a : Addr) : Prop
  | kept : (∀ d, Names w a d → w'.sys.blocks d = w.sys.blocks d) → w'.sys.port = w.sys.port →
      (∀ d, Names w' a d ↔ Names w a d) → (∀ x d b, w'.heap a = some x → x.active = true →
        x.platformData = some d → w.sys.blocks d = some b → b.stopping = false) → Handled w w' a
  | written {x : PdWatcher Addr} {d : Addr} {b b' : IocpWatcherData} : Names w a d →
      w.sys.blocks d = some b → b.stopping = false → w'.heap a = some x →
      x.platformData = some d → w'.sys.blocks d = some b' → b'.stopping = false →
      w'.sys.port = w.sys.port ∨ w'.sys.port = w.sys.port.issue (.io a (.data d) 0) →
      Handled w w' a
  | deferred {x : PdWatcher Addr} {d : Addr} {b b' : IocpWatcherData} : Names w a d →
      w.sys.blocks d = some b → b.stopping = false → w.sys.outstanding d ≤ 1 →
      w'.heap a = some x → x.active = false → x.platformData = some d →
      w'.sys.blocks d = some b' → b'.stopping = true → w'.sys.port = w.sys.port →
      Handled w w' a
  | dropped : (∀ d, Names w a d → w.sys.outstanding d = 0) → w'.sys.port = w.sys.port →
      (∀ x, w'.heap a = some x → x.active = false) → Handled w w' a
  | begun {x : PdWatcher Addr} {d : Addr} : (∀ d, Names w a d → w.sys.outstanding d = 0) →
      Begins w w' a x d → Handled w w' a

theorem Kept.handled (h : Kept w) (hcalm : unhurried w c = true)
    (hown : ∀ a events env x, c = .update a events env → issues w a events = true →
      w.heap a = some x → ownHandle w a (readHandle x) = true) (hat : CallAt w w' c a) :
    Handled w w' a := by
  have hdead : w.heap a = none → ∀ d, Names w a d → w.sys.outstanding d = 0 := by
    rintro ha d ⟨x, hx, -⟩
    exact nomatch ha.symm.trans hx
  have hunread : ∀ x, w.heap a = some x → unread w.sys x.platformData = true →
      ∀ d, Names w a d → w.sys.outstanding d = 0 :=
    fun x hx hu d hn => unread_iff.1 hu d ((names_iff hx).1 hn)
  cases hat with
  | kept hheap hblocks hport =>
      refine .kept hblocks hport (fun d => ?_) fun x d b hx => ?_
      · exact names_congr hheap
      · rw [hheap] at hx
        exact h.going a x d b hx
  | destroyed hc hgone hport =>
      refine .dropped (fun d hn => ?_) hport fun x hx => nomatch hgone.symm.trans hx
      obtain ⟨x, hx, hpd⟩ := hn
      simp only [hc, unhurried, hx, Option.all_some] at hcalm
      exact unread_iff.1 hcalm d hpd
  | unlisted hw _ ha hgone _ hfull hor hcallocs =>
      rcases hor with ⟨-, hport, -⟩ | ⟨hread, -⟩
      · exact .dropped (hdead ha) hport fun x hx => nomatch hgone.symm.trans hx
      · have hno : unhurried w c = false := by
          cases c with
          | create => simp_all [unhurried]
          | createForHandle => simp_all [unhurried]
          | start => exact nomatch hcallocs
          | update => exact nomatch hcallocs
          | stop => exact nomatch hcallocs
          | destroy => exact nomatch hcallocs
        rw [hno] at hcalm
        exact nomatch hcalm
  | created _ ha hbeg => exact .begun (hdead ha) hbeg
  | started hc _ hx hact hbeg =>
      simp only [hc, unhurried, hx, hact, Option.all_some, Bool.false_or] at hcalm
      exact .begun (hunread _ hx hcalm) hbeg
  | unstarted hc hx hact hheap _ _ hport =>
      simp only [hc, unhurried, hx, hact, Option.all_some, Bool.false_or] at hcalm
      refine .dropped (hunread _ hx hcalm) hport fun y hy => ?_
      obtain rfl := Option.some.inj (hheap.symm.trans hy)
      rfl
  | stoppedDangling _ hx _ _ _ hheap hblocks hport =>
      refine .kept (fun d _ => congrFun hblocks d) hport (fun d => ?_) fun y _ _ hy hact => ?_
      · exact (names_iff hheap).trans (names_iff hx).symm
      · obtain rfl := Option.some.inj (hheap.symm.trans hy)
        exact nomatch hact
  | deferred hc hx hact hpd hb hor hheap hblocks hport =>
      have hgo := h.going a _ _ _ hx hact hpd hb
      have hpend := hor.resolve_left (by simp [hgo])
      simp only [hc, unhurried, hx, hact, hpd, hb, hpend, Option.all_some, Bool.not_true,
        Bool.false_or, Bool.toNat_true, decide_eq_true_eq] at hcalm
      exact .deferred ⟨_, hx, hpd⟩ hb hgo hcalm hheap rfl hpd
        ((congrFun hblocks _).trans (Function.update_self ..)) rfl hport
  | freed hc hx hact hpd hb _ hpend hheap _ hport =>
      simp only [hc, unhurried, hx, hact, hpd, hb, hpend, Option.all_some, Bool.not_true,
        Bool.false_or, Bool.toNat_false, decide_eq_true_eq, Nat.le_zero] at hcalm
      refine .dropped (hunread _ hx ?_) hport fun y hy => ?_
      · rw [hpd]
        exact unread_iff.2 fun d hd => Option.some.inj hd ▸ hcalm
      · obtain rfl := Option.some.inj (hheap.symm.trans hy)
        rfl
  | updated hc hx hact hheap hupd hsys =>
      rename_i x events env r _
      have hnames : ∀ d, Names w' a d ↔ Names w a d :=
        fun d => (names_iff hheap).trans (names_iff hx).symm
      have hkept : r.sys.blocks = w.sys.blocks → r.sys.port = w.sys.port → Handled w w' a := by
        intro hblocks hport
        rw [← hsys] at hblocks hport
        refine .kept (fun d _ => congrFun hblocks d) hport hnames fun y d b hy _ hpd => ?_
        obtain rfl := Option.some.inj (hheap.symm.trans hy)
        exact h.going a _ d b hx hact hpd
      have hwritten : ∀ d b b', x.platformData = some d → w.sys.blocks d = some b →
          r.sys.blocks = Function.update w.sys.blocks d (some b') → b'.stopping = b.stopping →
          r.sys.port = w.sys.port ∨ r.sys.port = w.sys.port.issue (.io a (.data d) 0) →
          Handled w w' a := by
        intro d b b' hpd hb hblocks hstop hport
        rw [← hsys] at hblocks hport
        have hgo := h.going a x d b hx hact hpd hb
        exact .written ⟨x, hx, hpd⟩ hb hgo hheap hpd
          ((congrFun hblocks _).trans (Function.update_self ..)) (hstop.trans hgo) hport
      cases hupd with
      | absent _ hk => exact hkept (hk ▸ rfl) (hk ▸ rfl)
      | dangling _ _ hblocks hport => exact hkept hblocks hport
      | noted hpd hb _ hblocks hport => exact hwritten _ _ _ hpd hb hblocks rfl (Or.inl hport)
      | issued hpd hb hev hpend hopen hblocks hport =>
          have hissues := issues_eq hx hact hpd hb hev hpend
          rw [getD_of_own (hown a events env x hc hissues hx) hopen] at hport
          exact hwritten _ _ _ hpd hb hblocks rfl (Or.inr hport)
      | unissued hpd hb _ _ _ hblocks hport =>
          exact hwritten _ _ _ hpd hb hblocks rfl (Or.inl hport)

/-- A call takes every block on one of the courses. -/
theorem Kept.course (h : Kept w) (honly : OnlyAt w w' c a) (hat : Handled w w' a) (d : Addr) :
    Course w.sys w'.sys d false := by
  -- a block that the watcher does not name, or that is not written
  have hsame : w'.sys.outstanding d = w.sys.outstanding d →
      (Names w a d → w.sys.outstanding d = 0 ∨ w'.sys.blocks d = w.sys.blocks d) →
      Course w.sys w'.sys d false := by
    intro hout hnames
    cases hb : w.sys.blocks d with
    | none =>
        have h₀ := h.quiet hb
        exact .quiet h₀ (hout.trans h₀)
    | some b =>
        by_cases hn : Names w a d
        · rcases hnames hn with h₀ | heq
          · exact .quiet h₀ (hout.trans h₀)
          · exact .same (by rw [heq]) hout rfl
        · exact .same (by rw [honly.blocks d b hb hn, hb]) hout rfl
  have hother : ∀ e, Names w a e → Names w a d → d = e := by
    rintro e ⟨x, hx, he⟩ hn
    exact Option.some.inj (((names_iff hx).1 hn).symm.trans he)
  cases hat with
  | kept hblocks hport =>
      exact hsame (outstanding_of_port hport d) fun hn => Or.inr (hblocks d hn)
  | @written x e b b' hn hb hgo _ _ hb' hgo' hport =>
      rcases eq_or_ne d e with rfl | hne
      · refine .going (fun y hy => ?_) (fun y hy => ?_) fun _ => by rw [hb']; rfl
        · obtain rfl := Option.some.inj (hb.symm.trans hy)
          exact hgo
        · obtain rfl := Option.some.inj (hb'.symm.trans hy)
          exact hgo'
      · refine hsame ?_ fun hd => absurd (hother e hn hd) hne
        rcases hport with hport | hport
        · exact outstanding_of_port hport d
        · rw [outstanding_of_issue hport, if_neg hne.symm, Nat.add_zero]
  | @deferred x e b b' hn hb hgo hle _ _ _ hb' hstop hport =>
      have hout := outstanding_of_port hport d
      rcases eq_or_ne d e with rfl | hne
      · rcases Nat.le_one_iff_eq_zero_or_eq_one.1 hle with h₀ | h₁
        · exact .quiet h₀ (hout.trans h₀)
        · exact .deferred hb hgo h₁ hb' hstop (hout.trans h₁)
      · exact hsame hout fun hd => absurd (hother e hn hd) hne
  | dropped hnone hport => exact hsame (outstanding_of_port hport d) fun hn => Or.inl (hnone d hn)
  | @begun x e hnone hbeg =>
      rcases eq_or_ne d e with rfl | hne
      · refine .going (fun b hb => nomatch hbeg.new.symm.trans hb)
          (fun b hb => hbeg.going hbeg.live hbeg.data hb) ?_
        rw [hbeg.new]
        exact nofun
      · refine hsame ?_ fun hn => Or.inl (hnone d hn)
        rcases hbeg.block with ⟨-, -, hport⟩ | ⟨-, -, hport⟩
        · exact outstanding_of_port hport d
        · rw [outstanding_of_issue hport, if_neg hne.symm, Nat.add_zero]

/-- What a call does to the reads: at most one comes in, on the block that its watcher
then names. -/
theorem Kept.reading (h : Kept w) (hat : Handled w w' a) {b : Addr}
    (hr : Reading w'.sys b d) :
    (b ≠ a ∧ Reading w.sys b d) ∨ b = a ∧ Names w' a d ∧ (w'.sys.blocks d).isSome = true := by
  have hold : w'.sys.port = w.sys.port → Reading w.sys b d :=
    fun hp => hr.mono fun p hm => by rwa [hp] at hm
  have hnew : ∀ e, w'.sys.port = w.sys.port.issue (.io a (.data e) 0) →
      b = a ∧ d = e ∨ Reading w.sys b d := by
    intro e hp
    obtain ⟨n, hm⟩ := hr
    rw [hp] at hm
    rcases Port.mem_issue.1 hm with heq | hm
    · cases heq
      exact Or.inl ⟨rfl, rfl⟩
    · exact Or.inr ⟨n, hm⟩
  by_cases hb : b = a
  · subst hb
    refine Or.inr ⟨rfl, ?_⟩
    have hgone : (∀ e, Names w b e → w.sys.outstanding e = 0) → ¬Reading w.sys b d := by
      intro hnone hr
      have h₀ := hnone d (h.held b d hr).1
      exact absurd (outstanding_pos.2 ⟨b, hr⟩) (by omega)
    have hown : ∀ e, Names w b e → Reading w.sys b d → d = e := by
      rintro e ⟨x, hx, he⟩ hr
      exact Option.some.inj (((names_iff hx).1 (h.held b d hr).1).symm.trans he)
    cases hat with
    | kept hblocks hport hnames =>
        obtain ⟨hn, hsome⟩ := h.held b d (hold hport)
        exact ⟨(hnames d).2 hn, by rwa [hblocks d hn]⟩
    | @written x e _ _ hn _ _ hx hpd hb' _ hport =>
        have hd : d = e := by
          rcases hport with hport | hport
          · exact hown e hn (hold hport)
          · exact (hnew e hport).elim And.right (hown e hn)
        subst hd
        exact ⟨⟨x, hx, hpd⟩, by rw [hb']; rfl⟩
    | @deferred x e _ _ hn _ _ _ hx _ hpd hb' _ hport =>
        obtain rfl := hown e hn (hold hport)
        exact ⟨⟨x, hx, hpd⟩, by rw [hb']; rfl⟩
    | dropped hnone hport => exact (hgone hnone (hold hport)).elim
    | @begun x e hnone hbeg =>
        rcases hbeg.block with ⟨-, -, hport⟩ | ⟨-, hb', hport⟩
        · exact (hgone hnone (hold hport)).elim
        · obtain rfl := ((hnew e hport).resolve_right (hgone hnone)).2
          exact ⟨⟨x, hbeg.live, hbeg.data⟩, by rw [hb']; rfl⟩
  · refine Or.inl ⟨hb, ?_⟩
    cases hat with
    | kept _ hport => exact hold hport
    | written _ _ _ _ _ _ _ hport =>
        rcases hport with hport | hport
        · exact hold hport
        · exact (hnew _ hport).resolve_left fun heq => hb heq.1
    | deferred _ _ _ _ _ _ _ _ _ hport => exact hold hport
    | dropped _ hport => exact hold hport
    | begun _ hbeg =>
        rcases hbeg.block with ⟨-, -, hport⟩ | ⟨-, -, hport⟩
        · exact hold hport
        · exact (hnew _ hport).resolve_left fun heq => hb heq.1

/-- What a call preserves of the watchers and their reads. -/
theorem Kept.call (h : Kept w) (hfresh : freshData w c = true) (hapart : Apart w')
    (honly : OnlyAt w w' c a) (hat : Handled w w' a) : Kept w' := by
  refine ⟨hapart, fun b d hr => ?_, fun b x d y hx hact hpd hy => ?_⟩
  · rcases h.reading hat hr with ⟨hne, hr⟩ | ⟨rfl, hself⟩
    · obtain ⟨hn, hsome⟩ := h.held b d hr
      refine ⟨?_, ?_⟩
      · exact (names_congr (honly.heap b hne)).2 hn
      · rwa [honly.block_eq h.apart hfresh hne hn]
    · exact hself
  · rcases eq_or_ne b a with rfl | hne
    · have hself : ∀ {z e b'}, w'.heap b = some z → z.platformData = some e →
          w'.sys.blocks e = some b' → b'.stopping = false → y.stopping = false := by
        intro z e b' hz hze hb' hgo
        obtain rfl := Option.some.inj (hz.symm.trans hx)
        obtain rfl := Option.some.inj (hze.symm.trans hpd)
        obtain rfl := Option.some.inj (hb'.symm.trans hy)
        exact hgo
      cases hat with
      | kept hblocks _ hnames hgo =>
          have hn := (hnames d).1 ⟨x, hx, hpd⟩
          exact hgo x d y hx hact hpd ((hblocks d hn).symm.trans hy)
      | written _ _ _ hz hze hb' hgo => exact hself hz hze hb' hgo
      | deferred _ _ _ _ hz hno =>
          obtain rfl := Option.some.inj (hz.symm.trans hx)
          exact nomatch hno.symm.trans hact
      | dropped _ _ hno => exact nomatch (hno x hx).symm.trans hact
      | begun _ hbeg => exact hbeg.going hx hpd hy
    · rw [honly.heap b hne] at hx
      rw [honly.block_eq h.apart hfresh hne ⟨x, hx, hpd⟩] at hy
      exact h.going b x d y hx hact hpd hy

/-- Blocks are written in a way that keeps `stopping`, and no read comes in or is taken up. -/
theorem Kept.of_map (h : Kept w) (hapart : Apart w') (hheap : w'.heap = w.heap)
    (f : Addr → IocpWatcherData → IocpWatcherData)
    (hf : ∀ d b, (f d b).stopping = b.stopping)
    (hblocks : ∀ d, w'.sys.blocks d = (w.sys.blocks d).map (f d))
    (hreading : ∀ a d, Reading w'.sys a d → Reading w.sys a d)
    (hout : ∀ d, w'.sys.outstanding d = w.sys.outstanding d) :
    Kept w' ∧ ∀ d, Course w.sys w'.sys d false := by
  refine ⟨⟨hapart, fun a d hr => ?_, fun a x d b hx hact hpd hb => ?_⟩, fun d => ?_⟩
  · obtain ⟨hn, hsome⟩ := h.held a d (hreading a d hr)
    refine ⟨(names_congr (congrFun hheap a)).2 hn, ?_⟩
    rwa [hblocks, Option.isSome_map]
  · rw [hheap] at hx
    rw [hblocks] at hb
    obtain ⟨b₀, hb₀, rfl⟩ := Option.map_eq_some_iff.1 hb
    exact (hf d b₀).trans (h.going a x d b₀ hx hact hpd hb₀)
  · refine .same ?_ (hout d) rfl
    rw [hblocks, Option.map_map]
    exact congrArg (Option.map · (w.sys.blocks d)) (funext fun b => hf d b)

/-- The port changes, and no read comes in or is taken up. -/
theorem Kept.of_port (h : Kept w) (hapart : Apart w') (hheap : w'.heap = w.heap)
    (hblocks : w'.sys.blocks = w.sys.blocks)
    (hreading : ∀ a d, Reading w'.sys a d → Reading w.sys a d)
    (hout : ∀ d, w'.sys.outstanding d = w.sys.outstanding d) :
    Kept w' ∧ ∀ d, Course w.sys w'.sys d false :=
  h.of_map hapart hheap (fun _ b => b) (fun _ _ => rfl) (fun d => by rw [hblocks, Option.map_id'])
    hreading hout

theorem reads_iff {p : Packet} : p.reads d = true ↔ ∃ a n, p = .io a (.data d) n := by
  constructor
  · intro h
    cases p with
    | io a o n =>
        cases o with
        | data e =>
            obtain rfl := eq_of_beq h
            exact ⟨a, n, rfl⟩
        | client => exact nomatch h
    | sync => exact nomatch h
    | timer => exact nomatch h
    | wake => exact nomatch h
  · rintro ⟨a, n, rfl⟩
    exact beq_self_eq_true d

/-- Taking up a packet that is in turn. -/
theorem Kept.takeUp {p : Packet} {port : Port Packet} (h : Kept w)
    (hsingle : ∀ d b, w.sys.blocks d = some b → b.stopping = true → w.sys.outstanding d ≤ 1)
    (hp : w.sys.port.next = some (p, port))
    (hcb : ∀ a o n x, p = .io a o n → w.heap a = some x → x.callback.isSome = true)
    (hturn : inTurn w p = true) :
    Kept (takeUp (w.setSys (w.sys.setPort port)) p).1 ∧
      ∀ d, Course w.sys (takeUp (w.setSys (w.sys.setPort port)) p).1.sys d (p.reads d) := by
  have hapart : Apart (Iocp.takeUp (w.setSys (w.sys.setPort port)) p).1 :=
    (h.apart.setSys _).takeUp p
  obtain ⟨htaken, hport⟩ := takenUp_takeUp (w.setSys (w.sys.setPort port)) p
  generalize Iocp.takeUp (w.setSys (w.sys.setPort port)) p = r at hapart htaken hport ⊢
  have hout : ∀ d, w.sys.outstanding d = r.1.sys.outstanding d + if p.reads d then 1 else 0 := by
    intro d
    exact outstanding_of_next hp hport d
  have hold : ∀ a d, Reading r.1.sys a d → Reading w.sys a d :=
    fun a d hr => hr.imp fun n hm => (Port.mem_of_next hp).2 (Or.inr (by rwa [hport] at hm))
  -- the block of the packet, if it is one of a read
  have hnamed : ∀ a d n, p = .io a (.data d) n → Names w a d ∧ ∃ b, w.sys.blocks d = some b := by
    intro a d n heq
    obtain ⟨hn, hsome⟩ := h.held a d ⟨n, (Port.mem_of_next hp).2 (Or.inl heq.symm)⟩
    exact ⟨hn, Option.isSome_iff_exists.1 hsome⟩
  -- only the block `e` is written, and it stays out of teardown
  have hwritten : ∀ a e n b b', p = .io a (.data e) n → r.1.heap = w.heap →
      w.sys.blocks e = some b → b.stopping = false →
      r.1.sys.blocks = Function.update w.sys.blocks e (some b') → b'.stopping = b.stopping →
      Kept r.1 ∧ ∀ d, Course w.sys r.1.sys d (p.reads d) := by
    intro a e n b b' heq hheap hb hgo hblocks hstop
    refine ⟨⟨hapart, fun c d hr => ?_, fun c x d y hx hact hpd hy => ?_⟩, fun d => ?_⟩
    · obtain ⟨hn, hsome⟩ := h.held c d (hold c d hr)
      refine ⟨(names_congr (congrFun hheap c)).2 hn, ?_⟩
      rw [hblocks]
      rcases eq_or_ne d e with rfl | hne
      · rw [Function.update_self]
        rfl
      · rwa [Function.update_of_ne hne]
    · rw [hheap] at hx
      rw [hblocks] at hy
      rcases eq_or_ne d e with rfl | hne
      · rw [Function.update_self] at hy
        obtain rfl := Option.some.inj hy
        exact hstop.trans hgo
      · rw [Function.update_of_ne hne] at hy
        exact h.going c x d y hx hact hpd hy
    · rcases eq_or_ne d e with rfl | hne
      · refine .going (fun y hy => ?_) (fun y hy => ?_) fun _ => ?_
        · obtain rfl := Option.some.inj (hb.symm.trans hy)
          exact hgo
        · rw [hblocks, Function.update_self] at hy
          obtain rfl := Option.some.inj hy
          exact hstop.trans hgo
        · rw [hblocks, Function.update_self]
          rfl
      · have hno : p.reads d = false := by simp [heq, Packet.reads, hne.symm]
        have hd := hout d
        rw [hno, if_neg Bool.false_ne_true] at hd
        refine .same ?_ hd.symm hno
        rw [hblocks, Function.update_of_ne hne]
  cases htaken with
  | ignored hheap hblocks hnone =>
      have hread : ∀ d, p.reads d = false := by
        intro d
        rw [← Bool.not_eq_true]
        intro hr
        obtain ⟨a, n, heq⟩ := reads_iff.1 hr
        obtain ⟨⟨x, hx, hpd⟩, b, hb⟩ := hnamed a d n heq
        have hnull : a ≠ NULL := h.apart.listed.ne_null a (by rw [hx]; rfl)
        have hsome := hcb a _ n x heq hx
        rw [hnone a d n x b heq hnull hx hpd hb] at hsome
        exact absurd hsome Bool.false_ne_true
      have hheld : Kept r.1 ∧ ∀ d, Course w.sys r.1.sys d false := by
        refine h.of_port hapart hheap hblocks hold fun d => ?_
        rw [hout d, hread d]
        rfl
      exact ⟨hheld.1, fun d => hread d ▸ hheld.2 d⟩
  | cancelled heq _ _ _ _ hb hgo _ hheap hblocks =>
      exact hwritten _ _ _ _ _ heq hheap hb hgo hblocks rfl
  | completed heq _ _ _ _ hb hgo _ hheap hblocks =>
      exact hwritten _ _ _ _ _ heq hheap hb hgo hblocks rfl
  | @released a e o n x b heq _ hx _ hpd hb hstop hheap hblocks =>
      -- the packet is that of the read, and no other read is outstanding
      have hlast : 0 < w.sys.outstanding e → p.reads e = true ∧ r.1.sys.outstanding e = 0 := by
        intro hpos
        have ho : o = .data e := by
          have htear : tearing w.sys e = true := tearing_of_stopping (k := w.sys) hb hstop hpos
          simpa [heq, inTurn, show w.heap a = some x from hx, hpd, htear] using hturn
        have hread : p.reads e = true := reads_iff.2 ⟨a, n, ho ▸ heq⟩
        have hle := hsingle e b hb hstop
        have he := hout e
        rw [hread, if_pos rfl] at he
        exact ⟨hread, by omega⟩
      refine ⟨⟨hapart, fun c d hr => ?_, fun c y d z hy hact hyd hz => ?_⟩, fun d => ?_⟩
      · obtain ⟨hn, hsome⟩ := h.held c d (hold c d hr)
        have hne : c ≠ a := by
          rintro rfl
          obtain rfl := Option.some.inj (hpd.symm.trans ((names_iff hx).1 hn))
          have hpos := outstanding_pos.2 ⟨c, hr⟩
          have hpos' := outstanding_pos.2 ⟨c, hold c e hr⟩
          have h₀ := (hlast hpos').2
          omega
        have hde : d ≠ e := by
          rintro rfl
          exact hne (h.apart.distinct c a d hn ⟨x, hx, hpd⟩)
        refine ⟨?_, ?_⟩
        · exact (names_congr (hheap ▸ Function.update_of_ne hne ..)).2 hn
        · rwa [hblocks, Function.update_of_ne hde]
      · rw [hheap] at hy
        rcases eq_or_ne c a with rfl | hne
        · rw [Function.update_self] at hy
          obtain rfl := Option.some.inj hy
          exact absurd hyd.symm (Option.some_ne_none d)
        · rw [Function.update_of_ne hne] at hy
          have hde : d ≠ e := by
            rintro rfl
            exact hne (h.apart.distinct c a d ⟨y, hy, hyd⟩ ⟨x, hx, hpd⟩)
          rw [hblocks, Function.update_of_ne hde] at hz
          exact h.going c y d z hy hact hyd hz
      · rcases eq_or_ne d e with rfl | hne
        · rcases Nat.eq_zero_or_pos (w.sys.outstanding d) with h₀ | hpos
          · have hd := hout d
            exact .quiet h₀ (by omega)
          · exact .released hb hstop hpos
              ((congrFun hblocks _).trans (Function.update_self ..)) (hlast hpos).1
        · have hno : p.reads d = false := by
            rw [← Bool.not_eq_true]
            intro hr
            obtain ⟨c, m, heq'⟩ := reads_iff.1 hr
            obtain ⟨⟨y, hy, hyd⟩, -⟩ := hnamed c d m heq'
            rw [heq] at heq'
            cases heq'
            obtain rfl := Option.some.inj (hx.symm.trans hy)
            exact hne (Option.some.inj (hyd.symm.trans hpd))
          have hd := hout d
          rw [hno, if_neg Bool.false_ne_true] at hd
          refine .same ?_ hd.symm hno
          rw [hblocks, Function.update_of_ne hne]
          rfl

/-- The end of a callback. -/
theorem Kept.rearm {f : Frame} {refused : Option WinError} (h : Kept w)
    (hown : ∀ a events n x, f = .read a events n → w.heap a = some x →
      ownHandle w a (rearmHandle x) = true) :
    Kept (rearm w refused f).1 ∧ ∀ d, Course w.sys (rearm w refused f).1.sys d false := by
  have hapart := h.apart.rearm refused f
  obtain ⟨hrearmed, hheap⟩ := rearmed_rearm w refused f
  generalize Iocp.rearm w refused f = r at hapart hrearmed hheap ⊢
  -- a block is written and perhaps handed to a read
  have hwritten : ∀ a e x b b', w.heap a = some x → x.platformData = some e →
      w.sys.blocks e = some b → b.stopping = false →
      r.1.sys.blocks = Function.update w.sys.blocks e (some b') → b'.stopping = b.stopping →
      (r.1.sys.port = w.sys.port ∨ r.1.sys.port = w.sys.port.issue (.io a (.data e) 0)) →
      Kept r.1 ∧ ∀ d, Course w.sys r.1.sys d false := by
    intro a e x b b' hx hpd hb hgo hblocks hstop hport
    have honly : OnlyAt w r.1 (.stop a) a := by
      refine .of_blocks (fun _ _ => by rw [hheap]) (Or.inr ⟨e, _, Or.inl ⟨⟨x, hx, hpd⟩, ?_⟩,
        hblocks⟩) (hport.imp_right fun hp => ⟨_, hp⟩)
      rw [hb]
      exact nofun
    have hat : Handled w r.1 a := .written ⟨x, hx, hpd⟩ hb hgo ((congrFun hheap a).trans hx) hpd
      ((congrFun hblocks _).trans (Function.update_self ..)) (hstop.trans hgo) hport
    exact ⟨h.call rfl hapart honly hat, h.course honly hat⟩
  cases hrearmed with
  | nothing hblocks hport =>
      exact h.of_port hapart hheap hblocks (fun _ _ hr => hr.mono fun p hm => by rwa [hport] at hm)
        (outstanding_of_port hport)
  | issued hf _ _ hx hpd hb hgo hopen hblocks hport =>
      rw [getD_of_own (hown _ _ _ _ hf hx) hopen] at hport
      exact hwritten _ _ _ _ _ hx hpd hb hgo hblocks rfl (Or.inr hport)
  | unissued _ _ _ hx hpd hb hgo _ hblocks hport =>
      exact hwritten _ _ _ _ _ hx hpd hb hgo hblocks rfl (Or.inl hport)

/-- A call that is sound and unhurried. -/
theorem Kept.exec {s : State} (h : Kept s.world) (hsound : (Step.call c).sound s = true)
    (hcalm : unhurried s.world c = true) :
    Kept (s.world.exec iocpOps c).1 ∧
      ∀ d, Course s.world.sys (s.world.exec iocpOps c).1.sys d false := by
  have hfresh := freshData_of_sound hsound c rfl
  have hown : ∀ a events env x, c = .update a events env → issues s.world a events = true →
      s.world.heap a = some x → ownHandle s.world a (readHandle x) = true := by
    rintro a events env x rfl hissues hx
    simp only [Step.sound, hissues, hx, Bool.not_true, Bool.false_or, Bool.and_eq_true,
      Option.all_some] at hsound
    exact hsound.2
  obtain ⟨a, honly, hat⟩ := callAt_exec s.world c
  have hhandled := h.handled hcalm hown hat
  exact ⟨h.call hfresh (h.apart.exec hfresh) honly hhandled, h.course honly hhandled⟩

end Worlds

section Runs

variable {s s' : State} {h : Addr → Count}

/-- What the kernel completes is one of the operations in flight. -/
theorem reading_of_complete {k : IocpSys} {key a d : Addr} {o : Overlapped} {n : ℕ}
    {status : NtStatus} {data : List UInt8} (hp : Packet.io key o n ∈ k.port.inflight)
    (hr : Reading (k.complete (.io key o n) key o status data) a d) : Reading k a d := by
  obtain ⟨m, hm⟩ := hr
  rw [complete_port] at hm
  rcases Port.mem_complete hm with heq | hm
  · split_ifs at heq
    cases heq
    exact ⟨n, Port.mem_items_iff.2 (Or.inl hp)⟩
  · exact ⟨m, hm⟩

/-- Every read has a watcher as its key, so its completion leaves a packet. -/
theorem Kept.outstanding_complete {w : IocpWorld} {key d : Addr} {o : Overlapped} {n : ℕ}
    {status : NtStatus} {data : List UInt8} (h : Kept w)
    (hp : Packet.io key o n ∈ w.sys.port.inflight) :
    (w.sys.complete (.io key o n) key o status data).outstanding d = w.sys.outstanding d := by
  rw [IocpSys.outstanding, complete_port]
  by_cases hkey : key = NULL
  · have hno : Packet.reads d (.io key o n) = false := by
      rw [← Bool.not_eq_true]
      intro hr
      obtain ⟨a, m, heq⟩ := reads_iff.1 hr
      cases heq
      obtain ⟨⟨x, hx, -⟩, -⟩ := h.held key d ⟨n, Port.mem_items_iff.2 (Or.inl hp)⟩
      exact h.apart.listed.ne_null key (by rw [hx]; rfl) hkey
    rw [if_pos hkey]
    exact Port.count_complete_eq hp hno.symm
  · rw [if_neg hkey]
    exact Port.count_complete_eq hp (by cases o <;> rfl)

/-- What one step preserves, and the course on which it takes every block. -/
theorem kept_step {l : TeardownStep} (hk : Kept s.world)
    (hsingle : ∀ d b, s.world.sys.blocks d = some b → b.stopping = true →
      s.world.sys.outstanding d ≤ 1)
    (hok : l.patient s = true) (hstep : teardownStep s l = some s') :
    Kept s'.world ∧ ∀ d, Course s.world.sys s'.world.sys d (dequeues s d l) := by
  cases l with
  | elsewhere c =>
      obtain ⟨hsound, hcalm⟩ := Bool.and_eq_true_iff.1 hok
      rw [teardownStep] at hstep
      split_ifs at hstep
      obtain rfl := Option.some.inj hstep
      exact hk.exec hsound hcalm
  | loop l =>
      obtain ⟨hsound, hcalm⟩ := Bool.and_eq_true_iff.1 hok
      have hw := hk.apart
      cases stepped_of_step hstep with
      | call => exact hk.exec hsound hcalm
      | @drainRead a len y _ =>
          have hport : (iocpWatcherDrainRead s.world.sys y len).1.port = s.world.sys.port :=
            drainRead_port
          refine hk.of_map (hw.setSys _) rfl
            (fun d b => if y.platformData = some d then drained len b else b) (fun d b => ?_)
            (drainRead_blocks s.world.sys y len) (fun _ _ hr => hr.mono fun p hp => ?_)
            (outstanding_of_port hport)
          · split <;> rfl
          · rwa [← hport]
      | openHandle => exact hk.of_port (hw.setSys _) rfl rfl (fun _ _ hr => hr) fun _ => rfl
      | closeHandle => exact hk.of_port (hw.setSys _) rfl rfl (fun _ _ hr => hr) fun _ => rfl
      | clientWrite =>
          refine hk.of_port (hw.setSys _) rfl rfl (fun a d hr => ?_) fun d => ?_
          · obtain ⟨n, hm⟩ := hr
            exact ⟨n, (Port.mem_issue.1 hm).resolve_left nofun⟩
          · exact Port.count_issue
      | @complete key o n status data hp =>
          refine hk.of_map (hw.setSys _) rfl (fun d b => if o = .data d then
            { b with internal := status, buffer := data ++ b.buffer.drop data.length } else b)
            (fun d b => ?_) (complete_blocks s.world.sys _ key o status data)
            (fun _ _ hr => reading_of_complete hp hr) fun d => hk.outstanding_complete hp
          split <;> rfl
      | @post p hp =>
          refine hk.of_port (hw.setSys _) rfl rfl (fun a d hr => ?_) fun d => count_post_signal hp
          obtain ⟨n, hm⟩ := hr
          refine ⟨n, (Port.mem_post.1 hm).resolve_left ?_⟩
          rintro rfl
          exact nomatch hp
      | wait =>
          exact hk.of_port (hw.setSys _) rfl rfl (fun _ _ hr => hr.imp fun _ => Port.mem_take.1)
            fun _ => Port.count_take
      | waitFailed => exact hk.of_port (hw.setSys _) rfl rfl (fun _ _ hr => hr) fun _ => rfl
      | done hnone =>
          have hno : ∀ d, dequeues s d (.loop .next) = false :=
            fun d => by rw [dequeues, hnone]; rfl
          refine ⟨hk, fun d => .same rfl rfl (hno d)⟩
      | @next p port hp =>
          have htaken : ∀ d, dequeues s d (.loop .next) = p.reads d :=
            fun d => by rw [dequeues, hp]; rfl
          simp only [hp, Option.all_some] at hcalm
          obtain ⟨hkept, hcourse⟩ := hk.takeUp hsingle hp (fun a o n x heq hx => by
            simpa [Step.sound, hp, heq, hx] using hsound) hcalm
          exact ⟨hkept, fun d => htaken d ▸ hcourse d⟩
      | ret hmode =>
          refine hk.rearm fun a events n x heq hx => ?_
          simpa [Step.sound, hmode, heq, hx] using hsound

theorem kept_init (hs : Init s) : Kept s.world := by
  refine ⟨apart_init hs, fun a d hr => ?_, fun a x d b hx => ?_⟩
  · obtain ⟨n, hm⟩ := hr
    obtain ⟨-, -, -, -, -, -, hport, -⟩ := hs
    rw [hport] at hm
    exact absurd hm List.not_mem_nil
  · obtain ⟨-, -, hheap, -⟩ := hs
    exact nomatch (hheap a).symm.trans hx

theorem settled_init (hs : Init s) (d : Addr) : Settled s.world.sys ⟨0, 0, 0⟩ d := by
  obtain ⟨-, -, -, -, hblocks, -⟩ := hs
  refine ⟨rfl, ?_, fun b hb => nomatch (hblocks d).symm.trans hb⟩
  simp [tearing, hblocks]

theorem settled_of_reach (hr : teardownRuns.Reach TeardownStep.Patient (s, h)) :
    Kept s.world ∧ ∀ d, Settled s.world.sys (h d) d := by
  refine Machine.Reach.recorded_invariant (I := fun s h => Kept s.world ∧
    ∀ d, Settled s.world.sys (h d) d) (fun s hs => ⟨kept_init hs, settled_init hs⟩) ?_ hr
  rintro s h l s' ⟨hk, hs⟩ hok hstep
  obtain ⟨hk', hcourse⟩ := kept_step hk (fun d => (hs d).single) hok hstep
  have hpost : (teardownStep s l).getD s = s' := by rw [hstep]; rfl
  refine ⟨hk', fun d => ?_⟩
  rw [noteTeardown, hpost]
  exact (hcourse d).settled (hs d)

/-- In a run in which no write overtakes a read, the platform data of every watcher that is
torn down is freed once, and after the read. -/
theorem freed_once (hr : teardownRuns.Reach TeardownStep.Patient (s, h)) :
    FreedOnce s.world.sys h := by
  obtain ⟨hk, hs⟩ := settled_of_reach hr
  refine ⟨fun d => (hs d).freed, fun d => (hs d).begun, fun d hpos => ?_⟩
  obtain ⟨a, hr⟩ := outstanding_pos.1 hpos
  exact (hk.held a d hr).2

end Runs

/-- A watcher is stopped and destroyed from another thread, and the read is taken up in
between; the client's write completes later. -/
def destroyLater : List TeardownStep :=
  [.loop (.openHandle 4), .loop createReader, .loop (.clientWrite 4), .elsewhere (.stop 100),
    .loop (.complete (.io 100 (.data 200) 0) STATUS_CANCELLED []), .loop (.wait 1), .loop .next,
    .loop .next, .elsewhere (.destroy 100),
    .loop (.complete (.io 100 .client 0) STATUS_SUCCESS [])]

theorem destroyLater_freed_once : ∃ s h,
    Machine.runGuarded TeardownStep.Patient (Machine.recordStep teardownStep noteTeardown)
      (iocpLoopCreate, fun _ => ⟨0, 0, 0⟩) destroyLater = some (s, h) ∧ h 200 = ⟨1, 1, 1⟩ ∧
    FreedOnce s.world.sys h := by
  have hrun : ∃ s h,
      Machine.runGuarded TeardownStep.Patient (Machine.recordStep teardownStep noteTeardown)
        (iocpLoopCreate, fun _ => ⟨0, 0, 0⟩) destroyLater = some (s, h) ∧ h 200 = ⟨1, 1, 1⟩ :=
    ⟨_, _, rfl, rfl⟩
  obtain ⟨s, h, hrun, hcount⟩ := hrun
  exact ⟨s, h, hrun, hcount, freed_once (.runGuarded (.init ⟨init_iocpLoopCreate, rfl⟩) hrun)⟩

/-- A client's write completes while the watcher is being stopped, and before the cancelled
read. -/
def writeOvertakes : List TeardownStep :=
  [.loop (.openHandle 4), .loop createReader, .loop (.clientWrite 4), .loop (.call (.stop 100)),
    .loop (.complete (.io 100 .client 0) STATUS_SUCCESS []), .loop (.wait 1), .loop .next]

/-- The block is freed before its read has been dequeued. -/
theorem not_freed_once :
    ¬∀ s h, teardownRuns.Reachable (s, h) → FreedOnce s.world.sys h := by
  intro hall
  have hrun : ∃ s h, Machine.run (Machine.recordStep teardownStep noteTeardown)
      (iocpLoopCreate, fun _ => ⟨0, 0, 0⟩) writeOvertakes = some (s, h) ∧ h 200 = ⟨1, 0, 1⟩ ∧
      s.world.sys.outstanding 200 = 1 ∧ s.world.sys.blocks 200 = none :=
    ⟨_, _, rfl, rfl, rfl, rfl⟩
  obtain ⟨s, h, hrun, hcount, hout, hnone⟩ := hrun
  have hfreed := hall s h (Machine.Reach.run (.init ⟨init_iocpLoopCreate, rfl⟩) hrun)
  have hsome := hfreed.held 200 (by omega)
  rw [hnone] at hsome
  exact nomatch hsome

end Iocp
end PollDancer
