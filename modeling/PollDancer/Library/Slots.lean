/-
# Removal from arrays that keep their elements packed

Two ways of removing an element from the occupied front of an array, as loops
over slots, and what they do to the list of its elements:

* `shiftLeft` moves every later element one slot to the left.  Read off the
  occupied slots it is `List.eraseIdx` (`take_shiftLeft`).
* `swapRemove` overwrites the removed element with the last one.  It is
  `List.eraseIdx` up to the order of the elements (`swapRemove_perm`), and
  `removeFirst`, which removes the first element satisfying a test this way, is
  `List.eraseP` up to order (`removeFirst_perm`).  In a table whose test meets
  one key only it is a filter (`mem_removeFirst`).

The last part is about walking a list by index while the visited element is
removed from it: the walk sees every other element (`everyOther`) and leaves
the rest (`skipped`).
-/
import Mathlib.Data.List.GetD
import Mathlib.Data.List.Nodup

namespace Library

variable {α β : Type*}

/-! ### Shifting the later elements left -/

/-- `n` rounds of `slots[j] = slots[j + 1]; j++`.  The default `d` is never read
when `j + n < slots.length`. -/
def shiftLeft (d : α) (slots : List α) (j : ℕ) : ℕ → List α
  | 0 => slots
  | n + 1 => shiftLeft d (slots.set j (slots.getD (j + 1) d)) (j + 1) n

@[simp]
theorem length_shiftLeft (d : α) (slots : List α) (j n : ℕ) :
    (shiftLeft d slots j n).length = slots.length := by
  induction n generalizing slots j with
  | zero => rfl
  | succ n ih => rw [shiftLeft, ih, List.length_set]

/-- The slots `j, …, j + n - 1` receive their right neighbours, the others stay. -/
theorem getElem?_shiftLeft (d : α) {slots : List α} {j n : ℕ} (h : j + n < slots.length) (i : ℕ) :
    (shiftLeft d slots j n)[i]? = if j ≤ i ∧ i < j + n then slots[i + 1]? else slots[i]? := by
  induction n generalizing slots j with
  | zero => rw [shiftLeft, if_neg (by omega)]
  | succ n ih =>
      rw [shiftLeft, ih (by rw [List.length_set]; omega)]
      have hd : slots.getD (j + 1) d = slots[j + 1] := List.getD_eq_getElem _ _ (by omega)
      have hset : ∀ k, (slots.set j (slots.getD (j + 1) d))[k]?
          = if k = j then slots[j + 1]? else slots[k]? := by
        intro k
        rw [List.getElem?_set, hd]
        rcases eq_or_ne k j with rfl | hk
        · rw [if_pos rfl, if_pos rfl, if_pos (by omega), List.getElem?_eq_getElem (by omega)]
        · rw [if_neg hk.symm, if_neg hk]
      rw [hset, hset]
      rcases Nat.lt_trichotomy i j with hi | rfl | hi
      · rw [if_neg (by omega), if_neg (by omega), if_neg (by omega)]
      · rw [if_neg (by omega), if_pos rfl, if_pos (by omega)]
      · rw [if_neg (show ¬i + 1 = j by omega), if_neg (show ¬i = j by omega)]
        by_cases hin : i < j + 1 + n
        · rw [if_pos (by omega), if_pos (by omega)]
        · rw [if_neg (by omega), if_neg (by omega)]

/-- On the first `c` slots, shifting everything behind slot `j` left and dropping
the last of them erases the element of slot `j`. -/
theorem take_shiftLeft (d : α) {slots : List α} {j c : ℕ} (hj : j < c) (hc : c ≤ slots.length) :
    (shiftLeft d slots j (c - 1 - j)).take (c - 1) = (slots.take c).eraseIdx j := by
  apply List.ext_getElem?
  intro i
  rw [List.getElem?_take, List.getElem?_eraseIdx, getElem?_shiftLeft d (by omega),
    List.getElem?_take, List.getElem?_take]
  rcases Nat.lt_or_ge i j with hi | hi
  · rw [if_pos (by omega), if_neg (by omega), if_pos hi, if_pos (by omega)]
  · rw [if_neg (show ¬i < j by omega)]
    by_cases hin : i < c - 1
    · rw [if_pos hin, if_pos (by omega), if_pos (by omega)]
    · rw [if_neg hin, if_neg (by omega)]

/-! ### Overwriting with the last element -/

/-- `l[i] = l[count - 1]; count--`. -/
def swapRemove (l : List α) (i : ℕ) : List α :=
  match l.getLast? with
  | none => []
  | some x => (l.set i x).dropLast

theorem swapRemove_concat (l : List α) (x : α) (i : ℕ) :
    swapRemove (l ++ [x]) i = ((l ++ [x]).set i x).dropLast := by
  simp only [swapRemove, List.getLast?_concat]

/-- Up to order, overwriting with the last element removes the slot's element. -/
theorem swapRemove_perm {l : List α} {i : ℕ} (h : i < l.length) :
    (swapRemove l i).Perm (l.eraseIdx i) := by
  obtain rfl | ⟨l, x, rfl⟩ := List.eq_nil_or_concat l
  · exact absurd h (Nat.not_lt_zero i)
  rw [List.concat_eq_append, List.length_append, List.length_singleton] at h
  rw [List.concat_eq_append, swapRemove_concat]
  rcases Nat.lt_or_ge i l.length with hi | hi
  · rw [List.set_append_left _ _ hi, List.dropLast_concat, List.eraseIdx_append_of_lt_length hi,
      List.set_eq_take_append_cons_drop, if_pos hi, List.eraseIdx_eq_take_drop_succ,
      List.append_assoc]
    exact List.Perm.append_left _ (List.perm_append_singleton x _).symm
  · obtain rfl : i = l.length := by omega
    rw [List.set_append_right _ _ (Nat.le_refl _), Nat.sub_self, List.set_cons_zero,
      List.dropLast_concat, List.eraseIdx_append_of_length_le (Nat.le_refl _), Nat.sub_self,
      List.eraseIdx_cons_zero, List.append_nil]

/-- Remove the first element that satisfies `p`, if there is one: the search loop
with its `break`, and the overwriting removal. -/
def removeFirst (p : α → Bool) (l : List α) : List α :=
  match l.findIdx? p with
  | none => l
  | some i => swapRemove l i

theorem removeFirst_perm (p : α → Bool) (l : List α) : (removeFirst p l).Perm (l.eraseP p) := by
  rw [removeFirst, List.eraseP_eq_eraseIdx]
  cases hi : l.findIdx? p with
  | none => exact List.Perm.refl _
  | some i =>
      obtain ⟨hlt, -⟩ := List.findIdx?_eq_some_iff_getElem.1 hi
      exact swapRemove_perm hlt

/-- Removal leaves a table without a matching element as it is. -/
theorem removeFirst_of_forall_not {p : α → Bool} {l : List α} (h : ∀ x ∈ l, p x = false) :
    removeFirst p l = l := by
  rw [removeFirst, List.findIdx?_eq_none_iff.2 h]

/-- Distinct keys stay distinct. -/
theorem nodup_map_removeFirst {p : α → Bool} {l : List α} (key : α → β) (h : (l.map key).Nodup) :
    ((removeFirst p l).map key).Nodup :=
  (((removeFirst_perm p l).map key).nodup_iff).2
    (h.sublist ((List.eraseP_sublist).map key))

/-- In a table with distinct keys, a test that singles out one key removes exactly
the elements that satisfy it. -/
theorem mem_removeFirst {p : α → Bool} {l : List α} (key : α → β) (hn : (l.map key).Nodup)
    (hp : ∀ x ∈ l, ∀ y ∈ l, p x → p y → key x = key y) {x : α} :
    x ∈ removeFirst p l ↔ x ∈ l ∧ p x = false := by
  rw [(removeFirst_perm p l).mem_iff]
  induction l with
  | nil => simp
  | cons a l ih =>
      rw [List.map_cons, List.nodup_cons] at hn
      have hp' : ∀ x ∈ l, ∀ y ∈ l, p x → p y → key x = key y := fun x hx y hy =>
        hp x (List.mem_cons_of_mem _ hx) y (List.mem_cons_of_mem _ hy)
      cases ha : p a with
      | true =>
          have hne : x ∈ l → p x = false := by
            intro hx
            by_contra hpx
            have hkey := hp x (List.mem_cons_of_mem _ hx) a List.mem_cons_self
              (by simpa using hpx) ha
            exact hn.1 (hkey ▸ List.mem_map_of_mem hx)
          rw [List.eraseP_cons_of_pos ha, List.mem_cons]
          constructor
          · exact fun hx => ⟨Or.inr hx, hne hx⟩
          · rintro ⟨rfl | hx, hpx⟩
            · rw [ha] at hpx
              cases hpx
            · exact hx
      | false =>
          rw [List.eraseP_cons_of_neg (by simp [ha]), List.mem_cons, List.mem_cons, ih hn.2 hp']
          constructor
          · rintro (rfl | ⟨hx, hpx⟩)
            · exact ⟨Or.inl rfl, ha⟩
            · exact ⟨Or.inr hx, hpx⟩
          · rintro ⟨rfl | hx, hpx⟩
            · exact Or.inl rfl
            · exact Or.inr ⟨hx, hpx⟩

/-! ### Walking by index while removing -/

/-- The elements at positions `0, 2, 4, …`: what a walk by index visits when each
visited element is removed from the list under it. -/
def everyOther : List α → List α
  | [] => []
  | [x] => [x]
  | x :: _ :: l => x :: everyOther l

/-- The elements such a walk steps over. -/
def skipped : List α → List α
  | [] => []
  | [_] => []
  | _ :: y :: l => y :: skipped l

theorem everyOther_cons (x : α) : ∀ l : List α, everyOther (x :: l) = x :: everyOther l.tail
  | [] => rfl
  | _ :: _ => rfl

theorem skipped_cons (x : α) : ∀ l : List α, skipped (x :: l) = l.take 1 ++ skipped l.tail
  | [] => rfl
  | _ :: _ => rfl

/-- Visited and skipped elements together are the list. -/
theorem everyOther_append_skipped_perm : ∀ l : List α, (everyOther l ++ skipped l).Perm l
  | [] => .refl _
  | [x] => .refl _
  | x :: y :: l => by
      rw [everyOther, skipped, List.cons_append]
      refine .cons x (List.perm_middle.trans (.cons y ?_))
      exact everyOther_append_skipped_perm l

/-- The walk skips nothing exactly when there is at most one element. -/
theorem skipped_eq_nil_iff : ∀ l : List α, skipped l = [] ↔ l.length ≤ 1
  | [] => by simp [skipped]
  | [x] => by simp [skipped]
  | x :: y :: l => by simp [skipped]

end Library
