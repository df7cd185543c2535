/-
# What watchers are for

The purpose of `src/watcher.c`, stated without a backend: the library remembers for each
watcher what its user has asked for (`Interest`), and each call changes that in a way that
its reply tells (`Settles`).  A creation that fails leaves nothing behind, a stop or a start
that fails leaves the watcher as it was, and a watcher that is stopped refuses an update.
The reply determines the change (`Settles.eq_settle`), so the user can keep the books.

`exec_settles` is the generic layer's half: over any backend, a call on the handle of a live
watcher changes what the watchers remember as its reply says.  The other half, that the
kernel waits for what the watchers remember, is each backend's own.
-/
import PollDancer.Library.Refinement
import PollDancer.Lifecycle

namespace PollDancer

open Library

/-- What a user has asked for on one watcher. -/
structure Interest where
  fd : ℤ
  handle : Handle
  events : PdEvent
  active : Bool
  deriving DecidableEq, Repr

/-- What the users of a loop have asked for, by the handle of the watcher. -/
abbrev Interests := Addr → Option Interest

/-- A call, without what the environment decides during it. -/
inductive Request
  | create (fd : ℤ) (events : PdEvent)
  | createForHandle (handle : Handle) (events : PdEvent)
  | update (w : Addr) (events : PdEvent)
  | stop (w : Addr)
  | start (w : Addr)
  | destroy (w : Addr)
  deriving DecidableEq, Repr

/-- The watcher a request is about. -/
def Request.target : Request → Option Addr
  | .create .. => none
  | .createForHandle .. => none
  | .update w _ => some w
  | .stop w => some w
  | .start w => some w
  | .destroy w => some w

/-- A request and the reply to it. -/
abbrev Exchange := Request × Reply

/-- What a reply says about what is asked for from now on. -/
inductive Settles (I : Interests) : Exchange → Interests → Prop
  | created {a : Addr} {fd : ℤ} {events : PdEvent} : I a = none → a ≠ NULL →
      Settles I (.create fd events, .handle (some a))
        (Function.update I a (some ⟨fd, NULL, events, true⟩))
  | notCreated {fd : ℤ} {events : PdEvent} : Settles I (.create fd events, .handle none) I
  | createdForHandle {a : Addr} {handle : Handle} {events : PdEvent} : I a = none → a ≠ NULL →
      Settles I (.createForHandle handle events, .handle (some a))
        (Function.update I a (some ⟨-1, handle, events, true⟩))
  | notCreatedForHandle {handle : Handle} {events : PdEvent} :
      Settles I (.createForHandle handle events, .handle none) I
  | updated {a : Addr} {i : Interest} {events : PdEvent} {r : PdError} : I a = some i →
      i.active = true →
      Settles I (.update a events, .code r) (Function.update I a (some { i with events }))
  | notUpdated {a : Addr} {i : Interest} {events : PdEvent} : I a = some i → i.active = false →
      Settles I (.update a events, .code .watcherStopped) I
  | stopped {a : Addr} {i : Interest} : I a = some i →
      Settles I (.stop a, .code .ok) (Function.update I a (some { i with active := false }))
  | notStopped {a : Addr} {i : Interest} {r : PdError} : I a = some i → i.active = true →
      r ≠ .ok → Settles I (.stop a, .code r) I
  | started {a : Addr} {i : Interest} : I a = some i →
      Settles I (.start a, .code .ok) (Function.update I a (some { i with active := true }))
  | notStarted {a : Addr} {i : Interest} {r : PdError} : I a = some i → i.active = false →
      r ≠ .ok → Settles I (.start a, .code r) I
  | destroyed {a : Addr} {i : Interest} : I a = some i →
      Settles I (.destroy a, .unit) (Function.update I a none)

/-- An event is asked for on the descriptor, by the user of the watcher `a`, level- or
edge-triggered. -/
def AskedFor (I : Interests) (fd : ℤ) (a : Addr) (bit : PdEvent) (edge : Bool) : Prop :=
  ∃ i, I a = some i ∧ i.active = true ∧ i.fd = fd ∧ i.events.has bit = true ∧
    i.events.has .edge = edge

/-- The user has asked for these events of the watcher, errors and hang-ups apart. -/
def Asks (I : Interests) (a : Addr) (events : PdEvent) : Prop :=
  ∃ i, I a = some i ∧ i.active = true ∧
    ∀ bit, bit = .read ∨ bit = .write ∨ bit = .pri ∨ bit = .edge → events.has bit = true →
      i.events.has bit = true

/-- The specification: at first nothing is asked for. -/
def watching : Machine Interests Exchange where
  init I := I = fun _ => none
  next := Settles

/-- What is asked for after an exchange. -/
def settle (I : Interests) : Exchange → Interests
  | (.create fd events, .handle (some a)) => Function.update I a (some ⟨fd, NULL, events, true⟩)
  | (.createForHandle handle events, .handle (some a)) =>
      Function.update I a (some ⟨-1, handle, events, true⟩)
  | (.update a events, .code _) =>
      if (I a).any Interest.active then
        Function.update I a ((I a).map fun i => { i with events })
      else I
  | (.stop a, .code .ok) => Function.update I a ((I a).map fun i => { i with active := false })
  | (.start a, .code .ok) => Function.update I a ((I a).map fun i => { i with active := true })
  | (.destroy a, .unit) => Function.update I a none
  | _ => I

/-- A refused stop changes nothing. -/
theorem settle_stop_of_ne_ok (I : Interests) (a : Addr) {r : PdError} (h : r ≠ .ok) :
    settle I (.stop a, .code r) = I := by
  cases r with
  | ok => exact absurd rfl h
  | _ => rfl

/-- Nor does a refused start. -/
theorem settle_start_of_ne_ok (I : Interests) (a : Addr) {r : PdError} (h : r ≠ .ok) :
    settle I (.start a, .code r) = I := by
  cases r with
  | ok => exact absurd rfl h
  | _ => rfl

/-- **A reply tells all about its request.** -/
theorem Settles.eq_settle {I I' : Interests} {l : Exchange} (h : Settles I l I') :
    I' = settle I l := by
  cases h with
  | created => rfl
  | notCreated => rfl
  | createdForHandle => rfl
  | notCreatedForHandle => rfl
  | updated hi hact =>
      rw [settle, hi, Option.any_some, if_pos hact]
      rfl
  | notUpdated hi hact => rw [settle, hi, Option.any_some, if_neg (Bool.eq_false_iff.1 hact)]
  | stopped hi => rw [settle, hi, Option.map_some]
  | notStopped _ _ hne => exact (settle_stop_of_ne_ok _ _ hne).symm
  | started hi => rw [settle, hi, Option.map_some]
  | notStarted _ _ hne => exact (settle_start_of_ne_ok _ _ hne).symm
  | destroyed => rfl

/-- So what is asked for is a function of the requests and replies so far. -/
theorem watching_determined : watching.Determined where
  init := fun _ _ h h' => h.trans h'.symm
  next := fun _ _ _ _ h₁ h₂ => h₁.eq_settle.trans h₂.eq_settle.symm

/-- The handle of a new watcher was free. -/
theorem Settles.fresh {I I' : Interests} {l : Exchange} {a : Addr} (h : Settles I l I')
    (hl : l.2 = .handle (some a)) : I a = none := by
  cases h with
  | created hnone =>
      obtain rfl := Option.some.inj (Reply.handle.inj hl)
      exact hnone
  | createdForHandle hnone =>
      obtain rfl := Option.some.inj (Reply.handle.inj hl)
      exact hnone
  | _ => exact nomatch hl

section Generic

variable {κ δ ω : Type} {ops : PlatformOps κ δ ω} {s : World κ δ} {a : Addr} {w : PdWatcher δ}

/-- What the watcher remembers of what its user has asked for. -/
def PdWatcher.interest (w : PdWatcher δ) : Interest := ⟨w.fd, w.handle, w.events, w.active⟩

/-- What the watchers of a loop remember. -/
def World.interests (s : World κ δ) : Interests := fun a => (s.heap a).map PdWatcher.interest

/-- The request of a call. -/
def Call.request : Call ω → Request
  | .create fd events _ _ _ => .create fd events
  | .createForHandle handle events _ _ _ => .createForHandle handle events
  | .update w events _ => .update w events
  | .stop w => .stop w
  | .start w _ => .start w
  | .destroy w => .destroy w

@[simp]
theorem Call.request_target (c : Call ω) : c.request.target = c.target := by cases c <;> rfl

theorem interests_eq_none (h : s.heap a = none) : s.interests a = none := by
  rw [World.interests, h]
  rfl

theorem interests_eq_some (h : s.heap a = some w) : s.interests a = some w.interest := by
  rw [World.interests, h]
  rfl

theorem interests_congr {s' : World κ δ} (h : s'.heap a = s.heap a) :
    s'.interests a = s.interests a :=
  congrArg (Option.map PdWatcher.interest) h

@[simp]
theorem interests_setSys (s : World κ δ) (sys : κ) : (s.setSys sys).interests = s.interests := rfl

@[simp]
theorem interests_setLoop (s : World κ δ) (l : PdLoop) : (s.setLoop l).interests = s.interests :=
  rfl

@[simp]
theorem interests_setWatcher (s : World κ δ) (a : Addr) (w : PdWatcher δ) :
    (s.setWatcher a w).interests = Function.update s.interests a (some w.interest) := by
  funext b
  rcases eq_or_ne b a with rfl | hb
  · rw [Function.update_self, interests_eq_some (World.setWatcher_heap_self ..)]
  · rw [Function.update_of_ne hb, World.interests, World.interests,
      World.setWatcher_heap_ne _ _ hb]

@[simp]
theorem interests_free (s : World κ δ) (a : Addr) :
    (s.free a).interests = Function.update s.interests a none := by
  funext b
  rcases eq_or_ne b a with rfl | hb
  · rw [Function.update_self]
    exact interests_eq_none (Function.update_self ..)
  · rw [Function.update_of_ne hb]
    exact congrArg (Option.map PdWatcher.interest) (Function.update_of_ne hb ..)

/-- Remembering what is remembered. -/
theorem update_interests {i : Interest} (hw : s.heap a = some w) (hi : i = w.interest) :
    Function.update s.interests a (some i) = s.interests := by
  rw [hi, ← interests_eq_some hw, Function.update_eq_self]

theorem settles_create (ops : PlatformOps κ δ ω) (s : World κ δ) (fd : ℤ) (events : PdEvent)
    (callback : Option Callback) (userData : Addr) (env : CallEnv ω) :
    Settles s.interests
      (.create fd events, .handle (pdWatcherCreate ops s fd events callback userData env).2)
      (pdWatcherCreate ops s fd events callback userData env).1.interests := by
  cases hc : s.calloc env.calloc with
  | none =>
      rw [create_of_calloc_none hc]
      exact .notCreated
  | some a =>
      obtain ⟨-, hne, ha⟩ := World.calloc_eq_some.1 hc
      by_cases hok : (ops.watcherRegister s.sys a
          (newWatcher fd events callback userData) env.backend).code = .ok
      · by_cases hadd : (pdLoopAddWatcher s.loop a env.growList).2 = .ok
        · rw [create_of_ok hc rfl hok hadd, interests_setWatcher]
          exact .created (interests_eq_none ha) hne
        · rw [create_of_list_full hc rfl hok hadd rfl]
          exact .notCreated
      · rw [create_of_ne_ok hc rfl hok]
        exact .notCreated

theorem settles_createForHandle (ops : PlatformOps κ δ ω) (s : World κ δ) (handle : Handle)
    (events : PdEvent) (callback : Option Callback) (userData : Addr) (env : CallEnv ω) :
    Settles s.interests
      (.createForHandle handle events,
        .handle (pdWatcherCreateForHandle ops s handle events callback userData env).2)
      (pdWatcherCreateForHandle ops s handle events callback userData env).1.interests := by
  cases hc : s.calloc env.calloc with
  | none =>
      have hr : pdWatcherCreateForHandle ops s handle events callback userData env = (s, none) := by
        simp [pdWatcherCreateForHandle, hc]
      rw [hr]
      exact .notCreatedForHandle
  | some a =>
      obtain ⟨-, hne, ha⟩ := World.calloc_eq_some.1 hc
      by_cases hok : (ops.watcherRegisterHandle s.sys a
          (newHandleWatcher handle events callback userData) env.backend).code = .ok
      · by_cases hadd : (pdLoopAddWatcher s.loop a env.growList).2 = .ok
        · rw [createForHandle_of_ok hc rfl hok hadd, interests_setWatcher]
          exact .createdForHandle (interests_eq_none ha) hne
        · rw [createForHandle_of_list_full hc rfl hok hadd rfl]
          exact .notCreatedForHandle
      · rw [createForHandle_of_refused hc rfl hok]
        exact .notCreatedForHandle

theorem settles_update (ops : PlatformOps κ δ ω) (hw : s.heap a = some w) (events : PdEvent)
    (env : ω) :
    Settles s.interests (.update a events, .code (pdWatcherUpdate ops s a events env).2)
      (pdWatcherUpdate ops s a events env).1.interests := by
  cases hact : w.active with
  | false =>
      rw [update_of_inactive hw hact]
      exact .notUpdated (interests_eq_some hw) hact
  | true =>
      rw [update_of_active hw hact rfl, interests_setSys, interests_setWatcher]
      exact .updated (interests_eq_some hw) hact

theorem settles_stop (ops : PlatformOps κ δ ω) (hw : s.heap a = some w) :
    Settles s.interests (.stop a, .code (pdWatcherStop ops s a).2)
      (pdWatcherStop ops s a).1.interests := by
  have hi := interests_eq_some hw
  cases hact : w.active with
  | false =>
      have h : Settles s.interests (.stop a, .code .ok) _ := .stopped hi
      rw [stop_of_inactive hw hact]
      rwa [update_interests hw (by rw [PdWatcher.interest, hact])] at h
  | true =>
      by_cases hok : (ops.watcherUnregister s.sys a { w with active := false }).code = .ok
      · rw [stop_of_ok hw hact rfl hok, interests_setSys, interests_setWatcher]
        exact .stopped hi
      · rw [stop_of_ne_ok hw hact rfl hok, interests_setSys, interests_setWatcher,
          update_interests hw (by rw [PdWatcher.interest, PdWatcher.interest, hact])]
        exact .notStopped hi hact hok

theorem settles_start (ops : PlatformOps κ δ ω) (hw : s.heap a = some w) (env : ω) :
    Settles s.interests (.start a, .code (pdWatcherStart ops s a env).2)
      (pdWatcherStart ops s a env).1.interests := by
  have hi := interests_eq_some hw
  cases hact : w.active with
  | true =>
      have h : Settles s.interests (.start a, .code .ok) _ := .started hi
      rw [start_of_active env hw hact]
      rwa [update_interests hw (by rw [PdWatcher.interest, hact])] at h
  | false =>
      by_cases hok : (ops.watcherRegister s.sys a { w with active := true } env).code = .ok
      · rw [start_of_ok hw hact rfl hok, interests_setSys, interests_setWatcher]
        exact .started hi
      · rw [start_of_ne_ok hw hact rfl hok, interests_setSys, interests_setWatcher,
          update_interests hw (by rw [PdWatcher.interest, PdWatcher.interest, hact])]
        exact .notStarted hi hact hok

theorem settles_destroy (ops : PlatformOps κ δ ω) (hw : s.heap a = some w) :
    Settles s.interests (.destroy a, .unit) (pdWatcherDestroy ops s a).interests := by
  have hdestroy : (pdWatcherDestroy ops s a).interests =
      Function.update s.interests a none := by
    funext b
    rcases eq_or_ne b a with rfl | hb
    · rw [Function.update_self]
      exact interests_eq_none destroy_heap_self
    · rw [Function.update_of_ne hb, World.interests, World.interests, destroy_heap_ne hb]
  rw [hdestroy]
  exact .destroyed (interests_eq_some hw)

/-- **Over any backend a call on a live watcher changes what the watchers remember as its
reply says**, whatever the backend and the environment decide. -/
theorem exec_settles (ops : PlatformOps κ δ ω) (c : Call ω)
    (hlive : ∀ a, c.target = some a → (s.heap a).isSome) :
    Settles s.interests (c.request, (s.exec ops c).2) (s.exec ops c).1.interests := by
  have hsome : ∀ a, c.target = some a → ∃ w, s.heap a = some w :=
    fun a ha => Option.isSome_iff_exists.1 (hlive a ha)
  cases c with
  | create => exact settles_create ..
  | createForHandle => exact settles_createForHandle ..
  | update a events env =>
      obtain ⟨w, hw⟩ := hsome a rfl
      exact settles_update ops hw events env
  | stop a =>
      obtain ⟨w, hw⟩ := hsome a rfl
      exact settles_stop ops hw
  | start a env =>
      obtain ⟨w, hw⟩ := hsome a rfl
      exact settles_start ops hw env
  | destroy a =>
      obtain ⟨w, hw⟩ := hsome a rfl
      exact settles_destroy ops hw

end Generic

/-! ### Watchers that the user does not see -/

open Classical in
/-- What is asked for, without the watchers of `H`. -/
noncomputable def hide (H : Set Addr) (I : Interests) : Interests :=
  fun a => if a ∈ H then none else I a

section

variable {H : Set Addr} {I I' : Interests} {a : Addr} {l : Exchange}

theorem hide_of_mem (ha : a ∈ H) : hide H I a = none := if_pos ha

theorem hide_of_notMem (ha : a ∉ H) : hide H I a = I a := if_neg ha

theorem hide_update (ha : a ∉ H) (x : Option Interest) :
    hide H (Function.update I a x) = Function.update (hide H I) a x := by
  funext b
  rcases eq_or_ne b a with rfl | hb
  · rw [hide_of_notMem ha, Function.update_self, Function.update_self]
  · rw [Function.update_of_ne hb, hide, hide, Function.update_of_ne hb]

/-- A request that is not about a hidden watcher does not tell that there are any. -/
theorem Settles.hide (h : Settles I l I') (ht : ∀ a, l.1.target = some a → a ∉ H)
    (hnew : ∀ a, l.2 = .handle (some a) → a ∉ H) :
    Settles (PollDancer.hide H I) l (PollDancer.hide H I') := by
  have hseen : ∀ {a i}, a ∉ H → I a = some i → PollDancer.hide H I a = some i :=
    fun ha hi => (hide_of_notMem ha).trans hi
  cases h with
  | @created a _ _ ha hne =>
      have hH := hnew a rfl
      rw [hide_update hH]
      exact .created ((hide_of_notMem hH).trans ha) hne
  | notCreated => exact .notCreated
  | @createdForHandle a _ _ ha hne =>
      have hH := hnew a rfl
      rw [hide_update hH]
      exact .createdForHandle ((hide_of_notMem hH).trans ha) hne
  | notCreatedForHandle => exact .notCreatedForHandle
  | @updated a _ _ _ hi hact =>
      rw [hide_update (ht a rfl)]
      exact .updated (hseen (ht a rfl) hi) hact
  | @notUpdated a _ _ hi hact => exact .notUpdated (hseen (ht a rfl) hi) hact
  | @stopped a _ hi =>
      rw [hide_update (ht a rfl)]
      exact .stopped (hseen (ht a rfl) hi)
  | @notStopped a _ _ hi hact hne => exact .notStopped (hseen (ht a rfl) hi) hact hne
  | @started a _ hi =>
      rw [hide_update (ht a rfl)]
      exact .started (hseen (ht a rfl) hi)
  | @notStarted a _ _ hi hact hne => exact .notStarted (hseen (ht a rfl) hi) hact hne
  | @destroyed a _ hi =>
      rw [hide_update (ht a rfl)]
      exact .destroyed (hseen (ht a rfl) hi)

end

section

variable {κ δ ω : Type} {ops : PlatformOps κ δ ω} {s s' : World κ δ} {H H' : Set Addr} {a : Addr}

/-- What the watchers remember, without those of `H`. -/
noncomputable def World.seen (s : World κ δ) (H : Set Addr) : Interests := hide H s.interests

theorem seen_eq_some {i : Interest} :
    s.seen H a = some i ↔ a ∉ H ∧ ∃ w, s.heap a = some w ∧ w.interest = i := by
  by_cases ha : a ∈ H
  · rw [World.seen, hide_of_mem ha]
    exact ⟨fun h => absurd h.symm (Option.some_ne_none i), fun h => absurd ha h.1⟩
  · rw [World.seen, hide_of_notMem ha, World.interests, Option.map_eq_some_iff]
    exact ⟨fun h => ⟨ha, h⟩, fun h => h.2⟩

theorem seen_of_mem (ha : a ∈ H) : s.seen H a = none := hide_of_mem ha

theorem seen_of_none (ha : s.heap a = none) : s.seen H a = none := by
  by_cases hH : a ∈ H
  · exact seen_of_mem hH
  · exact (hide_of_notMem hH).trans (interests_eq_none ha)

/-- A watcher whose structure stays, and that is hidden or not as before. -/
theorem seen_congr (hH : a ∈ H' ↔ a ∈ H) (hheap : s'.heap a = s.heap a) :
    s'.seen H' a = s.seen H a := by
  by_cases ha : a ∈ H
  · rw [seen_of_mem ha, seen_of_mem (hH.2 ha)]
  · rw [World.seen, World.seen, hide_of_notMem ha, hide_of_notMem (fun h => ha (hH.1 h)),
      World.interests, World.interests, hheap]

/-- A call on a live watcher that is not hidden changes what is seen as its reply says. -/
theorem seen_settles (ops : PlatformOps κ δ ω) {c : Call ω}
    (hlive : ∀ a, c.target = some a → (s.heap a).isSome) (hseen : ∀ a, c.target = some a → a ∉ H)
    (hhidden : ∀ a ∈ H, (s.heap a).isSome) :
    Settles (s.seen H) (c.request, (s.exec ops c).2) ((s.exec ops c).1.seen H) := by
  have hsettles := exec_settles ops c hlive
  refine hsettles.hide (fun a ha => hseen a ?_) fun a ha hmem => ?_
  · rwa [Call.request_target] at ha
  · -- a new watcher was not live before
    obtain ⟨w, hw⟩ := Option.isSome_iff_exists.1 (hhidden a hmem)
    exact absurd ((hsettles.fresh ha).symm.trans (interests_eq_some hw)).symm
      (Option.some_ne_none _)

end
end PollDancer
