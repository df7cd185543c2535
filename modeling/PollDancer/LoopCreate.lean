/-
# The configuration of a loop

`pd_loop_create` of `src/loop.c` works on a copy of the caller's configuration, or on a
zeroed one if there is none, and lets `init_config_defaults` fill in what is out of
range.  For `enable_thread_safety` only a negative value is: zero means no mutex, also
where it comes from the `memset`.
-/
import Mathlib.Algebra.Group.Int.Defs
import Mathlib.Data.Int.Notation
import Mathlib.Tactic.Common

namespace PollDancer

/-- `pd_loop_config_t`. -/
structure PdLoopConfig where
  maxEventsPerWait : ℤ
  enableThreadSafety : ℤ
  deriving DecidableEq, Repr

/-- `DEFAULT_MAX_EVENTS_PER_WAIT`. -/
def defaultMaxEventsPerWait : ℤ := 64

/-- `DEFAULT_THREAD_SAFETY`. -/
def defaultThreadSafety : ℤ := 1

/-- `init_config_defaults`. -/
def initConfigDefaults (config : PdLoopConfig) : PdLoopConfig where
  maxEventsPerWait :=
    if config.maxEventsPerWait ≤ 0 then defaultMaxEventsPerWait else config.maxEventsPerWait
  enableThreadSafety :=
    if config.enableThreadSafety < 0 then defaultThreadSafety else config.enableThreadSafety

/-- The configuration that `pd_loop_create` uses. -/
def configCopy (config : Option PdLoopConfig) : PdLoopConfig :=
  initConfigDefaults (config.getD ⟨0, 0⟩)

/-- Do the functions of the loop take its mutex?  In a build without `PD_THREAD_SAFE` the
macros `PD_MUTEX_LOCK` and `PD_MUTEX_UNLOCK` do nothing. -/
def locks (pdThreadSafe : Bool) (config : Option PdLoopConfig) : Bool :=
  pdThreadSafe && (configCopy config).enableThreadSafety != 0

/-- The mutex is taken in a thread-safe build by a loop that was created with a
configuration that asks for it. -/
theorem locks_iff {pdThreadSafe : Bool} {config : Option PdLoopConfig} :
    locks pdThreadSafe config = true ↔
      pdThreadSafe = true ∧ ∃ c, config = some c ∧ c.enableThreadSafety ≠ 0 := by
  have hflag : (configCopy config).enableThreadSafety ≠ 0 ↔
      ∃ c, config = some c ∧ c.enableThreadSafety ≠ 0 := by
    cases config with
    | none => exact iff_of_false (by decide) (by simp)
    | some c =>
        simp only [configCopy, Option.getD_some, initConfigDefaults, defaultThreadSafety,
          Option.some.injEq, exists_eq_left']
        split_ifs with hneg
        · exact iff_of_true (by decide) (Int.ne_of_lt hneg)
        · exact Iff.rfl
  rw [locks, Bool.and_eq_true, bne_iff_ne, hflag]

end PollDancer
