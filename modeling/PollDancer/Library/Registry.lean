/-
# Tables of claims on resources

A table of records, each naming a resource (its key) and the owner that claims
it.  Three things are done to it: the record another owner holds for a resource
is evicted (`evictOther`), an owner's record is dropped (`dropOwner`), and a
claim is recorded at the end.  A table is `Unique` when no resource and no owner
has two records.  The operations keep it so, provided an owner claims a resource
only while it holds no record; and in a unique table each of them removes
exactly the records it is meant to remove.

The records are of any type, with the projections `key` and `owner`.
-/
import PollDancer.Library.Slots

namespace Library

variable {α ρ ο : Type*} (key : α → ρ) (owner : α → ο)

/-- Remove the first record in which an owner other than `w` claims `r`. -/
def evictOther [DecidableEq ρ] [DecidableEq ο] (r : ρ) (w : ο) (t : List α) : List α :=
  removeFirst (fun x => key x == r && owner x != w) t

/-- Remove the first record of the owner `w`. -/
def dropOwner [DecidableEq ο] (w : ο) (t : List α) : List α :=
  removeFirst (fun x => owner x == w) t

/-- No resource and no owner has two records. -/
structure Unique (t : List α) : Prop where
  keys : (t.map key).Nodup
  owners : (t.map owner).Nodup

variable {key owner} {t : List α} {r : ρ} {w : ο} {x : α}

theorem Unique.nil : Unique key owner ([] : List α) := ⟨.nil, .nil⟩

section Drop

variable [DecidableEq ο]

theorem Unique.dropOwner (h : Unique key owner t) (w : ο) :
    Unique key owner (dropOwner owner w t) :=
  ⟨nodup_map_removeFirst key h.keys, nodup_map_removeFirst owner h.owners⟩

/-- Dropping an owner removes its records, no more. -/
theorem Unique.mem_dropOwner (h : Unique key owner t) :
    x ∈ Library.dropOwner owner w t ↔ x ∈ t ∧ owner x ≠ w := by
  rw [Library.dropOwner, mem_removeFirst owner h.owners]
  · simp
  · intro x _ y _ hx hy
    rw [beq_iff_eq] at hx hy
    rw [hx, hy]

/-- Without a record of the owner there is nothing to drop. -/
theorem dropOwner_of_forall_ne (h : ∀ y ∈ t, owner y ≠ w) : dropOwner owner w t = t :=
  removeFirst_of_forall_not fun y hy => by simpa using h y hy

end Drop

section Claim

variable [DecidableEq ρ] [DecidableEq ο]

theorem Unique.evictOther (h : Unique key owner t) (r : ρ) (w : ο) :
    Unique key owner (evictOther key owner r w t) :=
  ⟨nodup_map_removeFirst key h.keys, nodup_map_removeFirst owner h.owners⟩

/-- Eviction removes the records in which others claim the resource, no more. -/
theorem Unique.mem_evictOther (h : Unique key owner t) :
    x ∈ Library.evictOther key owner r w t ↔ x ∈ t ∧ (key x = r → owner x = w) := by
  rw [Library.evictOther, mem_removeFirst key h.keys]
  · simp
  · intro x _ y _ hx hy
    simp only [Bool.and_eq_true, beq_iff_eq] at hx hy
    rw [hx.1, hy.1]

/-- The records of the owner itself stay, in any table. -/
theorem mem_evictOther_of_owner (ho : owner x = w) :
    x ∈ Library.evictOther key owner r w t ↔ x ∈ t := by
  rw [Library.evictOther, (removeFirst_perm _ t).mem_iff]
  refine List.mem_eraseP_of_neg ?_
  simp [ho]

/-- An owner without a record may claim any resource: evict, then record. -/
theorem Unique.claim (h : Unique key owner t) (hk : key x = r) (ho : owner x = w)
    (hfree : ∀ y ∈ t, owner y ≠ w) :
    Unique key owner (Library.evictOther key owner r w t ++ [x]) := by
  have hkey : r ∉ (Library.evictOther key owner r w t).map key := by
    rw [List.mem_map]
    rintro ⟨y, hy, hyr⟩
    obtain ⟨hyt, hyo⟩ := h.mem_evictOther.1 hy
    exact hfree y hyt (hyo hyr)
  have howner : w ∉ (Library.evictOther key owner r w t).map owner := by
    rw [List.mem_map]
    rintro ⟨y, hy, hyw⟩
    exact hfree y (h.mem_evictOther.1 hy).1 hyw
  constructor
  · rw [List.map_append, List.map_singleton, hk]
    exact List.concat_eq_append ▸ List.Nodup.concat hkey (h.evictOther r w).keys
  · rw [List.map_append, List.map_singleton, ho]
    exact List.concat_eq_append ▸ List.Nodup.concat howner (h.evictOther r w).owners

end Claim
end Library
