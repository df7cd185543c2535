/-
# Completion ports

Operations are issued, are completed in any order, and leave a packet in a queue when
they do; a reader takes a batch from the front of the queue and works through it.
A `Port` keeps the three places where an item can be, and its operations move items
from one to the next.  What an item is, and what a completion makes of it, is left to
the user of the library.

Two things are followed through the port: which items it holds (`items`), and how many
satisfy a predicate (`count`).  Only `issue` and `post` bring in new ones, and `next`
takes one out.  A port can be compared with what it would be if only some of the items
had ever been there (`restrict`).
-/
import Mathlib.Data.List.Count
import Mathlib.Tactic.Common

namespace Library

/-- The items of a port: issued and not completed, completed and queued, and taken by
the reader. -/
structure Port (α : Type*) where
  inflight : List α
  queue : List α
  batch : List α
  deriving DecidableEq, Repr

namespace Port

variable {α : Type*}

/-- The port without items. -/
def empty : Port α := ⟨[], [], []⟩

/-- An operation is issued. -/
def issue (p : Port α) (a : α) : Port α := { p with inflight := p.inflight ++ [a] }

/-- A packet is queued that no operation of the port has produced. -/
def post (p : Port α) (a : α) : Port α := { p with queue := p.queue ++ [a] }

/-- An operation is completed, and may leave a packet. -/
def complete [DecidableEq α] (p : Port α) (a : α) (r : Option α) : Port α :=
  { p with inflight := p.inflight.erase a, queue := p.queue ++ r.toList }

/-- The reader takes packets from the front of the queue. -/
def take (p : Port α) (n : ℕ) : Port α :=
  { p with queue := p.queue.drop n, batch := p.batch ++ p.queue.take n }

/-- The reader turns to the next packet of its batch. -/
def next (p : Port α) : Option (α × Port α) :=
  match p.batch with
  | [] => none
  | a :: batch => some (a, { p with batch })

/-- Everything the port holds. -/
def items (p : Port α) : List α := p.inflight ++ (p.queue ++ p.batch)

/-- The packets in the order in which the reader meets them. -/
def arrived (p : Port α) : List α := p.batch ++ p.queue

/-- How many items satisfy the predicate. -/
def count (q : α → Bool) (p : Port α) : ℕ := p.items.countP q

variable {p p' : Port α} {a b : α} {q : α → Bool}

theorem next_eq_some : p.next = some (a, p') ↔ p.batch = a :: p'.batch ∧
    p' = { p with batch := p'.batch } := by
  unfold next
  cases hb : p.batch with
  | nil => simp
  | cons c batch =>
      constructor
      · intro h
        obtain ⟨rfl, rfl⟩ := Prod.mk.inj (Option.some.inj h)
        exact ⟨rfl, rfl⟩
      · rintro ⟨hc, hp⟩
        obtain ⟨rfl, rfl⟩ := List.cons.inj hc
        rw [hp]

/-! ### The items -/

theorem mem_issue : b ∈ (p.issue a).items ↔ b = a ∨ b ∈ p.items := by
  simp only [items, issue, List.mem_append, List.mem_singleton]
  tauto

theorem mem_post : b ∈ (p.post a).items ↔ b = a ∨ b ∈ p.items := by
  simp only [items, post, List.mem_append, List.mem_singleton]
  tauto

theorem mem_complete [DecidableEq α] {r : Option α} (h : b ∈ (p.complete a r).items) :
    r = some b ∨ b ∈ p.items := by
  simp only [items, complete, List.mem_append, Option.mem_toList] at h ⊢
  rcases h with h | (h | h) | h
  · exact Or.inr (Or.inl (List.mem_of_mem_erase h))
  · exact Or.inr (Or.inr (Or.inl h))
  · exact Or.inl h
  · exact Or.inr (Or.inr (Or.inr h))

/-- What is in the port stays there, unless it is the operation that is completed. -/
theorem mem_complete_of_ne [DecidableEq α] {r : Option α} (h : b ∈ p.items) (hne : b ≠ a) :
    b ∈ (p.complete a r).items := by
  simp only [items, complete, List.mem_append] at h ⊢
  rcases h with h | h | h
  · exact Or.inl ((List.mem_erase_of_ne hne).2 h)
  · exact Or.inr (Or.inl (Or.inl h))
  · exact Or.inr (Or.inr h)

theorem mem_complete_self [DecidableEq α] : b ∈ (p.complete a (some b)).items := by
  simp [items, complete]

theorem mem_take {n : ℕ} : b ∈ (p.take n).items ↔ b ∈ p.items := by
  have hsplit : b ∈ p.queue ↔ b ∈ p.queue.take n ∨ b ∈ p.queue.drop n := by
    rw [← List.mem_append, List.take_append_drop]
  simp only [items, take, List.mem_append, hsplit]
  tauto

theorem mem_of_next (h : p.next = some (a, p')) : b ∈ p.items ↔ b = a ∨ b ∈ p'.items := by
  obtain ⟨hb, hp⟩ := next_eq_some.1 h
  rw [hp]
  simp only [items, hb, List.mem_append, List.mem_cons]
  tauto

/-! ### The order of arrival -/

theorem mem_items_iff : b ∈ p.items ↔ b ∈ p.inflight ∨ b ∈ p.arrived := by
  simp only [items, arrived, List.mem_append]
  tauto

@[simp]
theorem arrived_issue : (p.issue a).arrived = p.arrived := rfl

@[simp]
theorem arrived_post : (p.post a).arrived = p.arrived ++ [a] := (List.append_assoc ..).symm

theorem arrived_complete [DecidableEq α] {r : Option α} :
    (p.complete a r).arrived = p.arrived ++ r.toList := (List.append_assoc ..).symm

@[simp]
theorem arrived_take {n : ℕ} : (p.take n).arrived = p.arrived := by
  simp only [arrived, take, List.append_assoc, List.take_append_drop]

theorem arrived_of_next (h : p.next = some (a, p')) : p.arrived = a :: p'.arrived := by
  obtain ⟨hb, hp⟩ := next_eq_some.1 h
  rw [hp]
  simp only [arrived, hb, List.cons_append]

theorem inflight_of_next (h : p.next = some (a, p')) : p'.inflight = p.inflight := by
  rw [(next_eq_some.1 h).2]

/-! ### Counting -/

theorem count_pos_iff : 0 < count q p ↔ ∃ a ∈ p.items, q a = true := List.countP_pos_iff

theorem count_eq_zero : count q p = 0 ↔ ∀ a ∈ p.items, ¬q a = true := List.countP_eq_zero

@[simp]
theorem count_empty : count q (empty : Port α) = 0 := rfl

theorem count_eq (q : α → Bool) (p : Port α) :
    count q p = p.inflight.countP q + (p.queue.countP q + p.batch.countP q) := by
  rw [count, items, List.countP_append, List.countP_append]

theorem count_issue : count q (p.issue a) = count q p + if q a then 1 else 0 := by
  simp only [count_eq, issue, List.countP_append, List.countP_singleton]
  omega

theorem count_post : count q (p.post a) = count q p + if q a then 1 else 0 := by
  simp only [count_eq, post, List.countP_append, List.countP_singleton]
  omega

/-- A completion does not add to the count when what it leaves satisfies the predicate
only if the operation did. -/
theorem count_complete_le [DecidableEq α] {r : Option α} (ha : a ∈ p.inflight)
    (hr : ∀ b, r = some b → q b = true → q a = true) :
    count q (p.complete a r) ≤ count q p := by
  have herase : p.inflight.countP q = (p.inflight.erase a).countP q + if q a then 1 else 0 := by
    rw [(List.perm_cons_erase ha).countP_eq, List.countP_cons]
  have hleft : r.toList.countP q ≤ if q a then 1 else 0 := by
    cases r with
    | none => simp
    | some b =>
        rw [Option.toList_some, List.countP_singleton]
        cases hb : q b with
        | false => simp
        | true => simp [hr b rfl hb]
  simp only [count_eq, complete, List.countP_append]
  omega

/-- A completion that leaves a packet of the operation's own kind keeps the count. -/
theorem count_complete_eq [DecidableEq α] {r : Option α} (ha : a ∈ p.inflight)
    (hr : r.any q = q a) : count q (p.complete a r) = count q p := by
  have herase : p.inflight.countP q = (p.inflight.erase a).countP q + if q a then 1 else 0 := by
    rw [(List.perm_cons_erase ha).countP_eq, List.countP_cons]
  have hleft : r.toList.countP q = if q a then 1 else 0 := by
    rw [← hr]
    cases r with
    | none => rfl
    | some b => rw [Option.toList_some, List.countP_singleton, Option.any_some]
  simp only [count_eq, complete, List.countP_append, hleft]
  omega

theorem count_take {n : ℕ} : count q (p.take n) = count q p := by
  have hsplit : p.queue.countP q = (p.queue.take n).countP q + (p.queue.drop n).countP q := by
    rw [← List.countP_append, List.take_append_drop]
  simp only [count_eq, take, List.countP_append]
  omega

theorem count_of_next (h : p.next = some (a, p')) :
    count q p = count q p' + if q a then 1 else 0 := by
  obtain ⟨hb, hp⟩ := next_eq_some.1 h
  rw [hp]
  simp only [count_eq, hb, List.countP_cons]
  omega

/-! ### Some of the items -/

/-- The items that satisfy the predicate; the reader has taken none of them. -/
def restrict (q : α → Bool) (p : Port α) : Port α where
  inflight := p.inflight.filter q
  queue := p.arrived.filter q
  batch := []

@[simp]
theorem count_restrict : count q (p.restrict q) = count q p := by
  have hself : ∀ l : List α, (l.filter q).countP q = l.countP q := by
    intro l
    simp [List.countP_eq_length_filter]
  simp only [count_eq, restrict, arrived, hself, List.countP_append, List.countP_nil]
  omega

theorem restrict_issue_of_pos (h : q a = true) :
    (p.issue a).restrict q = (p.restrict q).issue a := by
  simp [restrict, issue, arrived, h]

theorem restrict_issue_of_neg (h : q a = false) : (p.issue a).restrict q = p.restrict q := by
  simp [restrict, issue, arrived, h]

theorem restrict_post_of_neg (h : q a = false) : (p.post a).restrict q = p.restrict q := by
  simp [restrict, post, arrived, h]

theorem restrict_complete_of_pos [DecidableEq α] {r : Option α} (hr : ∀ b ∈ r, q b = true) :
    (p.complete a r).restrict q = (p.restrict q).complete a r := by
  have hkept : r.toList.filter q = r.toList := by
    simpa using hr
  rw [restrict, arrived_complete, List.filter_append, hkept]
  simp [restrict, complete, List.erase_filter]

theorem restrict_complete_of_neg [DecidableEq α] {r : Option α} (ha : q a = false)
    (hr : ∀ b ∈ r, q b = false) : (p.complete a r).restrict q = p.restrict q := by
  have hgone : r.toList.filter q = [] := by
    simpa using hr
  have hno : a ∉ p.inflight.filter q := by simp [ha]
  rw [restrict, arrived_complete, List.filter_append, hgone, List.append_nil, complete,
    ← List.erase_filter, List.erase_of_not_mem hno]
  rfl

@[simp]
theorem restrict_take {n : ℕ} : (p.take n).restrict q = p.restrict q := by
  rw [restrict, arrived_take]
  rfl

theorem restrict_of_next_of_neg (h : p.next = some (a, p')) (ha : q a = false) :
    p'.restrict q = p.restrict q := by
  rw [restrict, restrict, arrived_of_next h, inflight_of_next h,
    List.filter_cons_of_neg (by simp [ha])]

/-- A batch of one is taken, and turned to. -/
theorem next_take_restrict (h : p.next = some (a, p')) (ha : q a = true) :
    ((p.restrict q).take 1).next = some (a, p'.restrict q) := by
  simp [restrict, take, next, arrived_of_next h, inflight_of_next h, ha]

end Port
end Library
