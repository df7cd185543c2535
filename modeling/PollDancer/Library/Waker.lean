/-
# Means of waking a thread

A `Waker` is a kernel object that other threads signal and that one thread waits for: a
counter that stays readable until it is read, a latch that the wait resets when it reports
it, a queue with an entry for each signal.  They differ in what makes them quiet again;
that a signal makes the wait report something is what they have in common.
-/
import Mathlib.Algebra.Group.Nat.Defs
import Mathlib.Data.Nat.Notation
import Mathlib.Tactic.Common

namespace Library

/-- A kernel object that wakes a thread. -/
structure Waker (κ : Type*) where
  start : κ
  signal : κ → κ
  /-- May a wait report it this many times? -/
  offers : κ → ℕ → Bool
  /-- A wait has reported it this many times. -/
  report : κ → ℕ → κ
  /-- The waiting thread handles one report. -/
  handle : κ → κ
  offers_zero : ∀ k, offers k 0 = true
  offers_one : ∀ k n, offers k (n + 1) = true → offers k 1 = true
  offers_signal : ∀ k, offers (signal k) 1 = true
  report_zero : ∀ k, report k 0 = k

namespace Waker

variable {κ : Type*} (w : Waker κ)

/-- Is there something to report? -/
def ready (k : κ) : Bool := w.offers k 1

@[simp]
theorem ready_signal (k : κ) : w.ready (w.signal k) = true := w.offers_signal k

/-- A counter that a signal brings up, unless it is full, and that is zero again when a
report is handled. -/
def counter (max : ℕ) (h : 0 < max) : Waker ℕ where
  start := 0
  signal k := if k < max then k + 1 else k
  offers k n := n == 0 || n == 1 && 0 < k
  report k _ := k
  handle _ := 0
  offers_zero _ := rfl
  offers_one k n hn := by
    cases n with
    | zero => exact hn
    | succ n => simp at hn
  offers_signal k := by
    simp only [Nat.reduceBEq, beq_self_eq_true, Bool.true_and, Bool.false_or, decide_eq_true_eq]
    split_ifs with hk
    · exact Nat.succ_pos k
    · omega
  report_zero _ := rfl

/-- A latch that a signal sets and a report resets. -/
def latch : Waker Bool where
  start := false
  signal _ := true
  offers k n := n == 0 || n == 1 && k
  report k n := if n = 0 then k else false
  handle k := k
  offers_zero _ := rfl
  offers_one k n hn := by
    cases n with
    | zero => exact hn
    | succ n => simp at hn
  offers_signal _ := rfl
  report_zero _ := rfl

/-- A queue with an entry for each signal, which a report takes out. -/
def queue : Waker ℕ where
  start := 0
  signal k := k + 1
  offers k n := n ≤ k
  report k n := k - n
  handle k := k
  offers_zero k := decide_eq_true (Nat.zero_le k)
  offers_one k n hn := by
    have hn := of_decide_eq_true hn
    exact decide_eq_true (by omega)
  offers_signal k := decide_eq_true (Nat.succ_le_succ (Nat.zero_le k))
  report_zero _ := rfl

end Waker
end Library
