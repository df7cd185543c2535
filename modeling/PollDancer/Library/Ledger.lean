/-
# Ledgers

A `Ledger` lists what a program has acquired and not given back, each thing with the
address or name of its owner, and notes when something is given back that is not held.

`Balanced` says that it lists what the owners of a table hold, beside what is lost for
good.  An owner is added to the table (`add`), changed (`put`) or taken out of it (`drop`)
with what it holds; the other owners keep theirs (`rest`).
-/
import Mathlib.Data.List.Nodup
import Mathlib.Data.List.Perm.Basic
import Mathlib.Tactic.Common

namespace Library

/-- What is held, and whether something was given back that was not. -/
structure Ledger (κ ρ : Type*) where
  held : List (κ × ρ)
  misused : Bool
  deriving DecidableEq, Repr

namespace Ledger

variable {κ ρ ω : Type*}

/-- Nothing is held. -/
def empty : Ledger κ ρ := ⟨[], false⟩

def acquire (s : Ledger κ ρ) (a : κ) (r : ρ) : Ledger κ ρ := { s with held := (a, r) :: s.held }

section

variable [DecidableEq κ] [DecidableEq ρ] {s : Ledger κ ρ} {a : κ} {r : ρ} {rs : List ρ}
  {rest : List (κ × ρ)}

def release (s : Ledger κ ρ) (a : κ) (r : ρ) : Ledger κ ρ :=
  if (a, r) ∈ s.held then { s with held := s.held.erase (a, r) } else { s with misused := true }

/-- What was acquired last is given back. -/
@[simp]
theorem release_acquire (s : Ledger κ ρ) (a : κ) (r : ρ) : (s.acquire a r).release a r = s := by
  have hmem : (a, r) ∈ (s.acquire a r).held := List.mem_cons_self ..
  rw [release, if_pos hmem]
  show { s with held := ((a, r) :: s.held).erase (a, r) } = s
  rw [List.erase_cons_head]

/-- What is held is given back, wherever it stands. -/
theorem release_perm (h : s.held.Perm ((a, r) :: rest)) :
    (s.release a r).held.Perm rest ∧ (s.release a r).misused = s.misused := by
  rw [release, if_pos (h.mem_iff.2 (List.mem_cons_self ..))]
  refine ⟨?_, rfl⟩
  have herase := h.erase (a, r)
  rwa [List.erase_cons_head] at herase

/-- A list of things is given back one after the other. -/
def releaseAll (a : κ) : List ρ → Ledger κ ρ → Ledger κ ρ
  | [], s => s
  | r :: rs, s => releaseAll a rs (s.release a r)

theorem releaseAll_perm (h : s.held.Perm (rs.map (a, ·) ++ rest)) :
    (releaseAll a rs s).held.Perm rest ∧ (releaseAll a rs s).misused = s.misused := by
  induction rs generalizing s with
  | nil => exact ⟨h, rfl⟩
  | cons r rs ih =>
      obtain ⟨hperm, hmis⟩ := release_perm h
      obtain ⟨hperm', hmis'⟩ := ih hperm
      exact ⟨hperm', hmis'.trans hmis⟩

end

/-! ### The owners -/

/-- What an owner holds. -/
def entries (name : ω → κ) (kinds : ω → List ρ) (o : ω) : List (κ × ρ) := (kinds o).map (name o, ·)

/-- The owners with other names. -/
def others [DecidableEq κ] (name : ω → κ) (owners : List ω) (o : ω) : List ω :=
  owners.filter (name · ≠ name o)

/-- The ledger lists what the owners hold and what is lost, and the owners have different
names. -/
structure Balanced (name : ω → κ) (kinds : ω → List ρ) (s : Ledger κ ρ) (owners : List ω)
    (lost : List (κ × ρ)) : Prop where
  held : s.held.Perm (owners.flatMap (entries name kinds) ++ lost)
  misused : s.misused = false
  nodup : (owners.map name).Nodup

namespace Balanced

variable {name : ω → κ} {kinds : ω → List ρ} {s s' : Ledger κ ρ} {owners : List ω}
  {lost lost' : List (κ × ρ)} {o o' : ω}

theorem empty (name : ω → κ) (kinds : ω → List ρ) : Balanced name kinds Ledger.empty [] [] :=
  ⟨.nil, rfl, List.nodup_nil⟩

/-- An owner comes with what it holds. -/
theorem add (h : Balanced name kinds s owners lost) (hnew : ∀ x ∈ owners, name x ≠ name o) :
    Balanced name kinds ⟨entries name kinds o ++ s.held, s.misused⟩ (o :: owners) lost where
  held := by
    rw [List.flatMap_cons, List.append_assoc]
    exact h.held.append_left _
  misused := h.misused
  nodup := by
    refine List.nodup_cons.2 ⟨fun hmem => ?_, h.nodup⟩
    obtain ⟨x, hx, heq⟩ := List.mem_map.1 hmem
    exact hnew x hx heq

variable [DecidableEq κ]

/-- An owner and the others. -/
theorem perm_others (h : Balanced name kinds s owners lost) (ho : o ∈ owners) :
    owners.Perm (o :: others name owners o) := by
  classical
  have hfilter : others name owners o = owners.filter (· != o) := by
    refine List.filter_congr fun x hx => ?_
    rw [Bool.eq_iff_iff, decide_eq_true_iff, bne_iff_ne]
    exact not_congr ⟨fun heq => List.inj_on_of_nodup_map h.nodup hx ho heq, congrArg name⟩
  rw [hfilter, ← (List.Nodup.of_map _ h.nodup).erase_eq_filter]
  exact List.perm_cons_erase ho

/-- What one owner holds, and the rest. -/
theorem rest (h : Balanced name kinds s owners lost) (ho : o ∈ owners) :
    s.held.Perm
      (entries name kinds o ++ ((others name owners o).flatMap (entries name kinds) ++ lost)) := by
  have hperm := h.held.trans
    (((h.perm_others ho).flatMap_right (entries name kinds)).append_right lost)
  rwa [List.flatMap_cons, List.append_assoc] at hperm

/-- An owner holds something else. -/
theorem put (h : Balanced name kinds s owners lost) (ho : o ∈ owners) (hname : name o' = name o)
    (hheld : s'.held.Perm (entries name kinds o' ++
      ((others name owners o).flatMap (entries name kinds) ++ lost')))
    (hmis : s'.misused = false) : Balanced name kinds s' (o' :: others name owners o) lost' where
  held := by
    rw [List.flatMap_cons, List.append_assoc]
    exact hheld
  misused := hmis
  nodup := by
    have hperm := (h.perm_others ho).map name
    rw [List.map_cons, ← hname] at hperm
    exact hperm.nodup_iff.1 h.nodup

/-- An owner goes. -/
theorem drop (h : Balanced name kinds s owners lost) (ho : o ∈ owners)
    (hheld : s'.held.Perm ((others name owners o).flatMap (entries name kinds) ++ lost'))
    (hmis : s'.misused = false) : Balanced name kinds s' (others name owners o) lost' where
  held := hheld
  misused := hmis
  nodup := by
    have hperm := (h.perm_others ho).map name
    rw [List.map_cons] at hperm
    exact (List.nodup_cons.1 (hperm.nodup_iff.1 h.nodup)).2

end Balanced
end Ledger
end Library
