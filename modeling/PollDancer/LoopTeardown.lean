/-
# The end of a loop

`pd_loop_unref` of `src/loop.c`.  When the last reference goes, it walks the watcher
list by index and destroys every watcher it meets; `pd_watcher_destroy` takes the
watcher off that same list, which moves the later ones one slot to the left, while
the walk moves one slot to the right.  So it destroys every other watcher
(`destroyWatchers_spec`) and then frees the array, the backend and the loop under the
ones it has stepped over: `unref_destroys_all_iff`.

Everything here holds for an arbitrary backend whose watcher list names the live
watchers (`Listed`).
-/
import PollDancer.Epoll.World
import PollDancer.Lifecycle

namespace PollDancer

open Library

variable {κ δ ω : Type}

/-- What `pd_loop_unref` frees, in order. -/
inductive Freed
  | watcher (w : Addr)
  | watchers
  | platformData
  | loop
  deriving DecidableEq, Repr

/-- The `for` loop of `pd_loop_unref` from index `i` on, for at most `n` rounds, and
the watchers it destroys. -/
def destroyWatchers (ops : PlatformOps κ δ ω) : ℕ → ℕ → World κ δ → World κ δ × List Addr
  | 0, _, s => (s, [])
  | n + 1, i, s =>
    if i < s.loop.watcherCount then
      let w := s.loop.watchers.getD i NULL
      if w = NULL then destroyWatchers ops n (i + 1) s
      else
        let r := destroyWatchers ops n (i + 1) (pdWatcherDestroy ops s w)
        (r.1, w :: r.2)
    else (s, [])

/-- The reference count is set. -/
def PdLoop.setRefCount (l : PdLoop) (refCount : ℤ) : PdLoop := { l with refCount }

/-- `pd_loop_ref`. -/
def pdLoopRef (s : World κ δ) : World κ δ := s.setLoop (s.loop.setRefCount (s.loop.refCount + 1))

/-- `pd_loop_unref`, with the backend's `loop_destroy`.  The walk ends after at most
`watcher_count` rounds. -/
def pdLoopUnref (ops : PlatformOps κ δ ω) (loopDestroy : κ → κ) (s : World κ δ) :
    World κ δ × List Freed :=
  let s := s.setLoop (s.loop.setRefCount (s.loop.refCount - 1))
  if s.loop.refCount = 0 then
    let r := destroyWatchers ops s.loop.watcherCount 0 s
    (r.1.setSys (loopDestroy r.1.sys), r.2.map .watcher ++ [.watchers, .platformData, .loop])
  else (s, [])

/-! ### The walk -/

/-- **The walk destroys every other watcher.**  From index `i` on it visits every
other one of the remaining watchers, and leaves the ones between them on the list.
Any number of rounds that covers the remaining slots is enough. -/
theorem destroyWatchers_spec (ops : PlatformOps κ δ ω) (n i : ℕ) {s : World κ δ} (h : Listed s)
    (hn : s.loop.watcherCount ≤ i + n) :
    (destroyWatchers ops n i s).2 = everyOther (s.loop.occupied.drop i) ∧
    (destroyWatchers ops n i s).1.loop.occupied =
      s.loop.occupied.take i ++ skipped (s.loop.occupied.drop i) ∧
    Listed (destroyWatchers ops n i s).1 := by
  have hend : ∀ {i : ℕ} {s : World κ δ}, Listed s → s.loop.watcherCount ≤ i →
      [] = everyOther (s.loop.occupied.drop i) ∧
      s.loop.occupied = s.loop.occupied.take i ++ skipped (s.loop.occupied.drop i) ∧ Listed s := by
    intro i s h hi
    have hdrop : s.loop.occupied.drop i = [] :=
      List.drop_eq_nil_of_le (by rwa [PdLoop.length_occupied])
    have htake : s.loop.occupied.take i = s.loop.occupied :=
      List.take_of_length_le (by rwa [PdLoop.length_occupied])
    rw [hdrop, htake]
    exact ⟨rfl, (List.append_nil _).symm, h⟩
  induction n generalizing i s with
  | zero => exact hend h hn
  | succ n ih =>
      rw [destroyWatchers]
      split
      · rename_i hi
        have hlen : i < s.loop.occupied.length := by rwa [PdLoop.length_occupied]
        have hget : s.loop.watchers.getD i NULL = s.loop.occupied[i] := by
          rw [List.getD_eq_getElem _ _ (Nat.lt_of_lt_of_le hi s.loop.count_le)]
          exact List.getElem_take.symm
        have hmem : s.loop.occupied[i] ∈ s.loop.occupied := List.getElem_mem hlen
        have hlive := (h.mem_occupied _).1 hmem
        rw [hget]
        dsimp only
        rw [if_neg (h.ne_null _ hlive)]
        -- the list after this round: slot `i` is gone, the later ones have moved up
        obtain ⟨hocc, -, -⟩ := destroy_spec ops h hlive
        have herase : s.loop.occupied.erase s.loop.occupied[i]
            = s.loop.occupied.take i ++ s.loop.occupied.drop (i + 1) := by
          rw [← List.eraseIdx_eq_take_drop_succ, h.nodup.erase_getElem]
        rw [herase] at hocc
        have hlen' := congrArg List.length hocc
        rw [PdLoop.length_occupied, List.length_append, List.length_take, List.length_drop] at hlen'
        obtain ⟨htrace, hleft, hlisted⟩ := ih (i + 1) (h.destroy ops hlive)
          (by rw [PdLoop.length_occupied] at hlen'; omega)
        have hti : (s.loop.occupied.take i).length = i := List.length_take_of_le (by omega)
        have hsplit : s.loop.occupied.drop i
            = s.loop.occupied[i] :: s.loop.occupied.drop (i + 1) := List.drop_eq_getElem_cons hlen
        have hdrop : (s.loop.occupied.take i ++ s.loop.occupied.drop (i + 1)).drop (i + 1)
            = (s.loop.occupied.drop (i + 1)).tail := by
          rw [List.drop_append, hti, List.drop_eq_nil_of_le (by omega), List.nil_append,
            Nat.add_sub_cancel_left, List.drop_one]
        have htake : (s.loop.occupied.take i ++ s.loop.occupied.drop (i + 1)).take (i + 1)
            = s.loop.occupied.take i ++ (s.loop.occupied.drop (i + 1)).take 1 := by
          rw [List.take_append, hti, List.take_of_length_le (by omega), Nat.add_sub_cancel_left]
        rw [hocc, hdrop] at htrace
        rw [hocc, hdrop, htake] at hleft
        refine ⟨?_, ?_, hlisted⟩
        · rw [htrace, hsplit, everyOther_cons]
        · rw [hleft, hsplit, skipped_cons, List.append_assoc]
      · exact hend h (by omega)

/-! ### The last reference -/

/-- The loop's watchers have all been destroyed, each of them once and before the
array, the backend and the loop were freed, and no watcher is left. -/
def DestroysAll (s : World κ δ) (r : World κ δ × List Freed) : Prop :=
  (∃ ws : List Addr, r.2 = ws.map .watcher ++ [.watchers, .platformData, .loop] ∧
    ws.Perm s.loop.occupied) ∧ ∀ a, r.1.heap a = none

/-- What dropping the last reference frees, and whom it leaves behind. -/
theorem unref_spec (ops : PlatformOps κ δ ω) (loopDestroy : κ → κ) {s : World κ δ}
    (h : Listed s) (href : s.loop.refCount = 1) :
    (pdLoopUnref ops loopDestroy s).2 =
      (everyOther s.loop.occupied).map .watcher ++ [.watchers, .platformData, .loop] ∧
    ∀ a, ((pdLoopUnref ops loopDestroy s).1.heap a).isSome ↔ a ∈ skipped s.loop.occupied := by
  have hzero : Listed (s.setLoop (s.loop.setRefCount (s.loop.refCount - 1))) :=
    ⟨h.nodup, h.mem_occupied, h.ne_null⟩
  obtain ⟨htrace, hleft, hlisted⟩ := destroyWatchers_spec ops s.loop.watcherCount 0 hzero
    (Nat.le_of_eq (Nat.zero_add _).symm)
  have hrun : pdLoopUnref ops loopDestroy s =
      (let r := destroyWatchers ops s.loop.watcherCount 0
        (s.setLoop (s.loop.setRefCount (s.loop.refCount - 1)))
      (r.1.setSys (loopDestroy r.1.sys),
        r.2.map .watcher ++ [.watchers, .platformData, .loop])) := by
    rw [pdLoopUnref]
    refine if_pos ?_
    show s.loop.refCount - 1 = 0
    omega
  rw [hrun]
  refine ⟨congrArg (fun l => l.map Freed.watcher ++ _) htrace, fun a => ?_⟩
  refine (hlisted.mem_occupied a).symm.trans ?_
  rw [hleft]
  rfl

/-- **Dropping the last reference destroys all watchers exactly when there is at most
one.** -/
theorem unref_destroys_all_iff {ops : PlatformOps κ δ ω} {loopDestroy : κ → κ} {s : World κ δ}
    (h : Listed s) (href : s.loop.refCount = 1) :
    DestroysAll s (pdLoopUnref ops loopDestroy s) ↔ s.loop.watcherCount ≤ 1 := by
  obtain ⟨htrace, hheap⟩ := unref_spec ops loopDestroy h href
  rw [← PdLoop.length_occupied, ← skipped_eq_nil_iff]
  constructor
  · rintro ⟨-, hnone⟩
    rw [List.eq_nil_iff_forall_not_mem]
    intro a ha
    have hlive := (hheap a).2 ha
    rw [hnone a] at hlive
    exact nomatch hlive
  · intro hnil
    have hperm := everyOther_append_skipped_perm s.loop.occupied
    rw [hnil, List.append_nil] at hperm
    refine ⟨⟨_, htrace, hperm⟩, fun a => ?_⟩
    cases ha : (pdLoopUnref ops loopDestroy s).1.heap a with
    | none => rfl
    | some w =>
        have hmem := (hheap a).1 (by rw [ha]; rfl)
        rw [hnil] at hmem
        exact nomatch hmem

/-! ### On the epoll backend -/

section Epoll

open Epoll

/-- An epoll loop with one watcher. -/
def singleWatcher : EpollWorld :=
  ((epollLoopCreate 3 fun _ => true).exec epollOps (createCall 100 5)).1

/-- An epoll loop with two watchers. -/
def twoWatchers : EpollWorld := (singleWatcher.exec epollOps (createCall 200 6)).1

theorem reachable_singleWatcher : (calls epollOps).Reachable singleWatcher := by
  have hrun : Machine.run (fun s c => some (World.exec epollOps s c).1)
      (epollLoopCreate 3 fun _ => true) [createCall 100 5] = some singleWatcher := rfl
  exact .run (.init ⟨rfl, fun _ => rfl⟩) hrun

/-- Of two watchers, the second survives its loop. -/
theorem not_unref_destroys_all :
    ¬∀ s, (calls epollOps).Reachable s → s.loop.refCount = 1 →
      DestroysAll s (pdLoopUnref epollOps epollLoopDestroy s) := by
  intro h
  have hr : (calls epollOps).Reachable twoWatchers := .step reachable_singleWatcher trivial rfl
  have hnone := (h twoWatchers hr (by decide)).2 200
  revert hnone
  decide

/-- A single watcher is destroyed with its loop. -/
theorem unref_destroys_all_single :
    DestroysAll singleWatcher (pdLoopUnref epollOps epollLoopDestroy singleWatcher) := by
  have hl : Listed singleWatcher := listed_of_reachable reachable_singleWatcher
  exact (unref_destroys_all_iff hl (by decide)).2 (by decide)

end Epoll
end PollDancer
