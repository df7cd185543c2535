/-
# The kernel's side of an epoll loop

Descriptors, the interest set of one epoll instance, and `epoll_ctl`.  A
descriptor number is open or closed; closing it ends its membership in the
interest set, and the number may be handed out again for a new file, which is
not a member.  `epoll_ctl` refuses an operation on a closed descriptor with
`EBADF`, an `ADD` of a member with `EEXIST`, and a `MOD` or `DEL` of an open
descriptor that is not a member with `ENOENT`; an `ADD` may be refused for other
reasons as well.
-/
import PollDancer.Types

namespace PollDancer
namespace Epoll

/-- The `errno` values the backend meets. -/
inductive Errno
  | EBADF
  | ENOENT
  | EEXIST
  | ENOMEM
  | ENOSPC
  | EPERM
  | EINVAL
  | EMFILE
  | EINTR
  deriving DecidableEq, Repr

/-- `struct epoll_event`: the event mask and `data.ptr`. -/
structure EpollEvent where
  events : UInt32
  ptr : Addr
  deriving DecidableEq, Repr

/-- `struct itimerspec`, both times as seconds and nanoseconds. -/
structure Itimerspec where
  valueSec : ℤ
  valueNsec : ℤ
  intervalSec : ℤ
  intervalNsec : ℤ
  deriving DecidableEq, Repr

/-- The kernel state behind one epoll instance: the open descriptor numbers, the
interest set, and the setting of each timerfd. -/
structure Kernel where
  isOpen : ℤ → Bool
  interest : ℤ → Option EpollEvent
  timers : ℤ → Option Itimerspec

namespace Kernel

/-- The membership of one descriptor is set, or ended. -/
def setInterest (k : Kernel) (fd : ℤ) (m : Option EpollEvent) : Kernel :=
  { k with interest := Function.update k.interest fd m }

/-- `epoll_ctl(EPOLL_CTL_ADD)`.  `refused` is the kernel's other reason to refuse
a descriptor that is open and not a member, if it has one. -/
def ctlAdd (k : Kernel) (fd : ℤ) (ev : EpollEvent) (refused : Option Errno) :
    Except Errno Kernel :=
  if !k.isOpen fd then .error .EBADF
  else if (k.interest fd).isSome then .error .EEXIST
  else match refused with
    | some e => .error e
    | none => .ok (k.setInterest fd (some ev))

/-- `epoll_ctl(EPOLL_CTL_MOD)`. -/
def ctlMod (k : Kernel) (fd : ℤ) (ev : EpollEvent) : Except Errno Kernel :=
  if !k.isOpen fd then .error .EBADF
  else if (k.interest fd).isNone then .error .ENOENT
  else .ok (k.setInterest fd (some ev))

/-- `epoll_ctl(EPOLL_CTL_DEL)`. -/
def ctlDel (k : Kernel) (fd : ℤ) : Except Errno Kernel :=
  if !k.isOpen fd then .error .EBADF
  else if (k.interest fd).isNone then .error .ENOENT
  else .ok (k.setInterest fd none)

/-- The last reference to a descriptor is closed: its number is free again and its
membership ends. -/
def close (k : Kernel) (fd : ℤ) : Kernel where
  isOpen := Function.update k.isOpen fd false
  interest := Function.update k.interest fd none
  timers := Function.update k.timers fd none

/-- A new file gets the descriptor number `fd`. -/
def openFd (k : Kernel) (fd : ℤ) : Kernel :=
  { k with isOpen := Function.update k.isOpen fd true }

/-- The kernel after a `DEL` that was accepted, or refused with `EBADF`: the
membership of an open descriptor has ended. -/
def release (k : Kernel) (fd : ℤ) : Kernel :=
  if k.isOpen fd then k.setInterest fd none else k

/-- `timerfd_settime`. -/
def settime (k : Kernel) (fd : ℤ) (its : Itimerspec) : Kernel :=
  { k with timers := Function.update k.timers fd (some its) }

variable {k k' : Kernel} {fd : ℤ} {ev : EpollEvent} {refused : Option Errno}

@[simp]
theorem setInterest_isOpen (k : Kernel) (fd : ℤ) (m : Option EpollEvent) :
    (k.setInterest fd m).isOpen = k.isOpen := rfl

@[simp]
theorem setInterest_interest_self (k : Kernel) (fd : ℤ) (m : Option EpollEvent) :
    (k.setInterest fd m).interest fd = m :=
  Function.update_self ..

theorem setInterest_interest_ne (k : Kernel) {fd fd' : ℤ} (m : Option EpollEvent) (h : fd' ≠ fd) :
    (k.setInterest fd m).interest fd' = k.interest fd' :=
  Function.update_of_ne h ..

/-- Undoing an `ADD` restores the kernel state. -/
theorem setInterest_setInterest (k : Kernel) (fd : ℤ) (m : Option EpollEvent) :
    (k.setInterest fd m).setInterest fd (k.interest fd) = k := by
  simp [setInterest]

theorem release_of_open (h : k.isOpen fd = true) : k.release fd = k.setInterest fd none := by
  rw [release, if_pos h]

theorem release_of_closed (h : k.isOpen fd = false) : k.release fd = k := by
  rw [release, h]
  rfl

@[simp]
theorem release_isOpen (k : Kernel) (fd : ℤ) : (k.release fd).isOpen = k.isOpen := by
  unfold release
  split <;> rfl

theorem release_interest_ne (k : Kernel) {fd fd' : ℤ} (h : fd' ≠ fd) :
    (k.release fd).interest fd' = k.interest fd' := by
  unfold release
  split
  · exact k.setInterest_interest_ne none h
  · rfl

/-- Releasing a descriptor creates no membership. -/
theorem interest_of_release {fd' : ℤ} (h : (k.release fd).interest fd' = some ev) :
    k.interest fd' = some ev := by
  unfold release at h
  split at h
  · rcases eq_or_ne fd' fd with rfl | hne
    · rw [setInterest_interest_self] at h
      exact nomatch h
    · rwa [setInterest_interest_ne _ _ hne] at h
  · exact h

@[simp]
theorem close_interest_self (k : Kernel) (fd : ℤ) : (k.close fd).interest fd = none :=
  Function.update_self ..

theorem close_interest_ne (k : Kernel) {fd fd' : ℤ} (h : fd' ≠ fd) :
    (k.close fd).interest fd' = k.interest fd' :=
  Function.update_of_ne h ..

@[simp]
theorem openFd_interest (k : Kernel) (fd : ℤ) : (k.openFd fd).interest = k.interest := rfl

/-- What an accepted `ADD` did: the descriptor was open and not a member. -/
theorem ctlAdd_eq_ok (h : k.ctlAdd fd ev refused = .ok k') :
    k.isOpen fd = true ∧ k.interest fd = none ∧
      k' = k.setInterest fd (some ev) := by
  unfold ctlAdd at h
  split_ifs at h with h₁ h₂
  split at h
  · exact nomatch h
  · exact ⟨by simpa using h₁, by simpa using h₂, (Except.ok.inj h).symm⟩

/-- What an accepted `MOD` did. -/
theorem ctlMod_eq_ok (h : k.ctlMod fd ev = .ok k') :
    k.isOpen fd = true ∧ (k.interest fd).isSome ∧
      k' = k.setInterest fd (some ev) := by
  unfold ctlMod at h
  split_ifs at h with h₁ h₂
  exact ⟨by simpa using h₁, by simpa [Option.isSome_iff_ne_none] using h₂, (Except.ok.inj h).symm⟩

/-- A refused `MOD` met a closed descriptor or a non-member. -/
theorem ctlMod_eq_error {e : Errno} (h : k.ctlMod fd ev = .error e) :
    k.isOpen fd = false ∨ k.interest fd = none := by
  unfold ctlMod at h
  split_ifs at h with h₁ h₂
  · exact Or.inl (by simpa using h₁)
  · exact Or.inr (by simpa using h₂)

/-- The three outcomes of a `DEL`. -/
theorem ctlDel_cases (k : Kernel) (fd : ℤ) :
    (k.isOpen fd = false ∧ k.ctlDel fd = .error .EBADF) ∨
    (k.isOpen fd = true ∧ k.interest fd = none ∧ k.ctlDel fd = .error .ENOENT) ∨
    (k.isOpen fd = true ∧ (k.interest fd).isSome ∧
      k.ctlDel fd = .ok (k.setInterest fd none)) := by
  unfold ctlDel
  cases h₁ : k.isOpen fd with
  | false => exact Or.inl ⟨rfl, rfl⟩
  | true =>
      cases h₂ : k.interest fd with
      | none => exact Or.inr (Or.inl ⟨rfl, rfl, rfl⟩)
      | some ev => exact Or.inr (Or.inr ⟨rfl, rfl, rfl⟩)

end Kernel
end Epoll
end PollDancer
