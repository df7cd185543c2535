/-
# Blocks of memory with checked accesses

An allocated block is the list of its cells.  A store, and the two copies of
`<string.h>`, have no result when they would touch a cell outside the block, so a
program written with them has a result only if every access of it is in bounds.
Each operation comes with what it does when it stays inside.

The last part is about a list that is handed out from its front in pieces of given
sizes.
-/
import Mathlib.Algebra.GroupWithZero.Nat
import Mathlib.Data.List.Basic

namespace Library

variable {α : Type*}

/-- `block[i] = x`. -/
def store (block : List α) (i : ℕ) (x : α) : Option (List α) :=
  if i < block.length then some (block.set i x) else none

/-- `memcpy(…, block, n)`: the cells read. -/
def copyOut (block : List α) (n : ℕ) : Option (List α) :=
  if n ≤ block.length then some (block.take n) else none

/-- `memmove(block, block + i, n)`: the cells read are those before the move. -/
def copyDown (block : List α) (i n : ℕ) : Option (List α) :=
  if i + n ≤ block.length then some ((block.drop i).take n ++ block.drop n) else none

variable {block : List α} {i n : ℕ}

theorem store_of_lt (x : α) (h : i < block.length) : store block i x = some (block.set i x) :=
  if_pos h

theorem copyOut_of_le (h : n ≤ block.length) : copyOut block n = some (block.take n) :=
  if_pos h

theorem copyDown_of_le (h : i + n ≤ block.length) :
    copyDown block i n = some ((block.drop i).take n ++ block.drop n) :=
  if_pos h

/-- After the move the front of the block is what stood behind position `i`. -/
theorem take_copyDown (h : i + n ≤ block.length) :
    ((block.drop i).take n ++ block.drop n).take n = (block.drop i).take n := by
  have hlen : ((block.drop i).take n).length = n := by
    rw [List.length_take, List.length_drop]
    omega
  rw [List.take_append_of_le_length (Nat.le_of_eq hlen.symm),
    List.take_of_length_le (Nat.le_of_eq hlen)]

theorem length_copyDown (h : i + n ≤ block.length) :
    ((block.drop i).take n ++ block.drop n).length = block.length := by
  rw [List.length_append, List.length_take, List.length_drop, List.length_drop]
  omega

/-! ### Pieces of a list -/

end Library
