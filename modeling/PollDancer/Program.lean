/-
# Programs of calls

A program opens and closes descriptors and makes calls on its watchers, one after the other;
calls on timers are left out.
`play` runs it without a loop: what it has asked for and which descriptors it has open
(`Holdings`), and the reply that each call deserves.  A program is proper (`ProperFrom`) when
it keeps a descriptor open for as long as a watcher names it, gives no descriptor to two
watchers, makes its calls on watchers that it has, and updates an active watcher only to a
mask that asks for the same filters.  With other updates the two loops part: on epoll they
change what the kernel waits for, on kqueue they do not.

Where nothing is refused, an epoll loop and a kqueue loop both do what `play` does: every
proper program gets the same replies from them, call by call, and leaves both kernels waiting
for what `play` says (`backends_play`).
-/
import PollDancer.BackendAgreement
import PollDancer.Restart

namespace PollDancer

open Library

/-- What a program does next.  A creation finds memory at `a`. -/
inductive Op
  | create (a : Addr) (fd : ℤ) (events : PdEvent) (callback : Option Callback) (userData : Addr)
  | createForHandle (a : Addr) (handle : Handle) (events : PdEvent) (callback : Option Callback)
      (userData : Addr)
  | update (a : Addr) (events : PdEvent)
  | stop (a : Addr)
  | start (a : Addr)
  | destroy (a : Addr)
  | openFd (fd : ℤ)
  | closeFd (fd : ℤ)
  deriving DecidableEq, Repr

/-- What a program has asked for, and the descriptors it has open. -/
structure Holdings where
  interests : Interests
  isOpen : ℤ → Bool

/-- What a loop is told to do, in an environment that grants `g`. -/
def Op.action {ω α : Type} (g : ω) (call : Call ω → α) (openFd closeFd : ℤ → α) : Op → α
  | .create a fd events callback userData =>
      call (.create fd events callback userData ⟨some a, true, g⟩)
  | .createForHandle a handle events callback userData =>
      call (.createForHandle handle events callback userData ⟨some a, true, g⟩)
  | .update a events => call (.update a events g)
  | .stop a => call (.stop a)
  | .start a => call (.start a g)
  | .destroy a => call (.destroy a)
  | .openFd fd => openFd fd
  | .closeFd fd => closeFd fd

/-- The call that a program makes, if it makes one. -/
def Op.call {ω : Type} (g : ω) : Op → Option (Call ω) :=
  Op.action g some (fun _ => none) fun _ => none

/-- The request and the reply to it.  A watcher on a handle is for Windows only. -/
def Op.exchange (m : Holdings) : Op → Option Exchange
  | .create a fd events _ _ => some (.create fd events, .handle (some a))
  | .createForHandle _ handle events _ _ => some (.createForHandle handle events, .handle none)
  | .update a events =>
      some (.update a events,
        .code (if (m.interests a).any Interest.active then .ok else .watcherStopped))
  | .stop a => some (.stop a, .code .ok)
  | .start a => some (.start a, .code .ok)
  | .destroy a => some (.destroy a, .unit)
  | .openFd _ => none
  | .closeFd _ => none

/-- What the program has afterwards. -/
def Op.after (m : Holdings) (op : Op) : Holdings where
  interests := (op.exchange m).elim m.interests (settle m.interests)
  isOpen :=
    match op with
    | .openFd fd => Function.update m.isOpen fd true
    | .closeFd fd => Function.update m.isOpen fd false
    | _ => m.isOpen

/-- A program, run without a loop. -/
def play (m : Holdings) : List Op → Holdings × List Exchange
  | [] => (m, [])
  | op :: ops =>
    let r := play (op.after m) ops
    (r.1, (op.exchange m).toList ++ r.2)

/-- No watcher of the program names the descriptor. -/
def Holdings.Spare (m : Holdings) (fd : ℤ) : Prop := ∀ a i, m.interests a = some i → i.fd ≠ fd

/-- The program may do this. -/
def Op.Proper (m : Holdings) : Op → Prop
  | .create a fd _ _ _ =>
      a ≠ NULL ∧ m.interests a = none ∧ m.isOpen fd = true ∧ m.Spare fd
  | .createForHandle .. => True
  | .update a events =>
      ∃ i, m.interests a = some i ∧ (i.active = true → Kqueue.SameFilters i.events events)
  | .stop a => (m.interests a).isSome = true
  | .start a => (m.interests a).isSome = true
  | .destroy a => (m.interests a).isSome = true
  | .openFd _ => True
  | .closeFd fd => m.Spare fd

/-- Everything that the program does is proper. -/
def ProperFrom (m : Holdings) : List Op → Prop
  | [] => True
  | op :: ops => op.Proper m ∧ ProperFrom (op.after m) ops

/-- The watchers of the program name descriptors that it has open. -/
def Holdings.Named (m : Holdings) : Prop :=
  ∀ a i, m.interests a = some i → m.isOpen i.fd = true

/-- What a proper step preserves. -/
theorem Op.Proper.named {m : Holdings} {op : Op} (h : op.Proper m) (hm : m.Named) :
    (op.after m).Named := by
  -- an interest is replaced by one on the same descriptor
  have hmap : ∀ a (f : Interest → Interest), (∀ i, (f i).fd = i.fd) → ∀ b i,
      Function.update m.interests a ((m.interests a).map f) b = some i → m.isOpen i.fd = true := by
    intro a f hf b i hi
    rcases eq_or_ne b a with rfl | hb
    · rw [Function.update_self] at hi
      obtain ⟨j, hj, rfl⟩ := Option.map_eq_some_iff.1 hi
      rw [hf]
      exact hm b j hj
    · rw [Function.update_of_ne hb] at hi
      exact hm b i hi
  intro b i hi
  cases op with
  | create a fd events callback userData =>
      obtain ⟨-, -, hopen, -⟩ := h
      change Function.update m.interests a (some ⟨fd, NULL, events, true⟩) b = some i at hi
      rcases eq_or_ne b a with rfl | hb
      · rw [Function.update_self] at hi
        obtain rfl := Option.some.inj hi
        exact hopen
      · rw [Function.update_of_ne hb] at hi
        exact hm b i hi
  | createForHandle a handle events callback userData => exact hm b i hi
  | update a events =>
      change settle m.interests (.update a events, .code .ok) b = some i at hi
      rw [settle] at hi
      split_ifs at hi with hact
      · exact hmap a (fun i => { i with events }) (fun _ => rfl) b i hi
      · exact hm b i hi
  | stop a => exact hmap a (fun i => { i with active := false }) (fun _ => rfl) b i hi
  | start a => exact hmap a (fun i => { i with active := true }) (fun _ => rfl) b i hi
  | destroy a =>
      change Function.update m.interests a none b = some i at hi
      rcases eq_or_ne b a with rfl | hb
      · rw [Function.update_self] at hi
        exact absurd hi.symm (Option.some_ne_none i)
      · rw [Function.update_of_ne hb] at hi
        exact hm b i hi
  | openFd fd =>
      change Function.update m.isOpen fd true i.fd = true
      rcases eq_or_ne i.fd fd with heq | hne
      · rw [heq, Function.update_self]
      · rw [Function.update_of_ne hne]
        exact hm b i hi
  | closeFd fd =>
      change Function.update m.isOpen fd false i.fd = true
      rw [Function.update_of_ne (h b i hi)]
      exact hm b i hi

/-! ### What a backend has to grant -/

section

variable {κ δ ω : Type} {ops : PlatformOps κ δ ω} {s : World κ δ} {g : ω} {m : Holdings} {op : Op}
  {c : Call ω} {a : Addr}

/-- The backend does what it is asked to on the descriptors `isOpen`. -/
structure Granting (ops : PlatformOps κ δ ω) (g : ω) (isOpen : ℤ → Bool) (s : World κ δ) :
    Prop where
  create : ∀ a fd events callback userData, isOpen fd = true → s.heap a = none →
    (∀ b x, s.heap b = some x → x.fd ≠ fd) →
    (ops.watcherRegister s.sys a (newWatcher fd events callback userData) g).code = .ok
  createForHandle : ∀ a w, (ops.watcherRegisterHandle s.sys a w g).code ≠ .ok
  update : ∀ a w events, s.heap a = some w → w.active = true →
    (ops.watcherUpdate s.sys a { w with events } events g).code = .ok
  stop : ∀ a w, s.heap a = some w → (pdWatcherStop ops s a).2 = .ok
  start : ∀ a w, s.heap a = some w → w.active = false → isOpen w.fd = true →
    (ops.watcherRegister s.sys a { w with active := true } g).code = .ok

/-- A list that may grow takes the watcher. -/
theorem pdLoopAddWatcher_ok (l : PdLoop) (ha : a ≠ NULL) : (pdLoopAddWatcher l a true).2 = .ok := by
  unfold pdLoopAddWatcher
  split_ifs with hnull
  · exact absurd hnull ha
  · rfl
  · exact absurd rfl ‹¬true = true›
  · rfl

theorem interests_isSome (hI : s.interests = m.interests) (h : (m.interests a).isSome = true) :
    ∃ w, s.heap a = some w ∧ m.interests a = some w.interest := by
  rw [← hI] at h ⊢
  cases hw : s.heap a with
  | none =>
      rw [interests_eq_none hw] at h
      exact absurd h Bool.false_ne_true
  | some w => exact ⟨w, rfl, interests_eq_some hw⟩

/-- **Where everything is granted, a proper call gets the reply that it deserves.** -/
theorem Granting.exchange (h : Granting ops g m.isOpen s) (hI : s.interests = m.interests)
    (hm : m.Named) (hp : op.Proper m) (hc : op.call g = some c) :
    op.exchange m = some (c.request, (s.exec ops c).2) := by
  have hheap : ∀ {b x}, s.heap b = some x → m.interests b = some x.interest :=
    fun hx => (congrFun hI _).symm.trans (interests_eq_some hx)
  cases op with
  | create a fd events callback userData =>
      obtain rfl := Option.some.inj hc
      obtain ⟨hnull, hfree, hopen, hspare⟩ := hp
      have ha : s.heap a = none := by
        rw [← hI, World.interests, Option.map_eq_none_iff] at hfree
        exact hfree
      have hcalloc : s.calloc (some a) = some a := World.calloc_eq_some.2 ⟨rfl, hnull, ha⟩
      have hok := h.create a fd events callback userData hopen ha
        fun b x hx => hspare b _ (hheap hx)
      have hcreate : (pdWatcherCreate ops s fd events callback userData ⟨some a, true, g⟩).2 =
          some a := by
        rw [create_of_ok hcalloc rfl hok (pdLoopAddWatcher_ok s.loop hnull)]
      rw [Op.exchange, World.exec, hcreate]
      rfl
  | createForHandle a handle events callback userData =>
      obtain rfl := Option.some.inj hc
      have hnone : (pdWatcherCreateForHandle ops s handle events callback userData
          ⟨some a, true, g⟩).2 = none := by
        cases hcalloc : s.calloc (some a) with
        | none => simp [pdWatcherCreateForHandle, hcalloc]
        | some b => rw [createForHandle_of_refused hcalloc rfl (h.createForHandle b _)]
      rw [Op.exchange, World.exec, hnone]
      rfl
  | update a events =>
      obtain rfl := Option.some.inj hc
      obtain ⟨i, hi, -⟩ := hp
      obtain ⟨w, hw, hwi⟩ := interests_isSome hI (by rw [hi]; rfl)
      rw [Op.exchange, hwi, Option.any_some, World.exec]
      cases hact : w.active with
      | false =>
          rw [update_of_inactive hw hact, PdWatcher.interest, hact]
          rfl
      | true =>
          rw [update_of_active hw hact rfl, h.update a w events hw hact, PdWatcher.interest, hact]
          rfl
  | stop a =>
      obtain rfl := Option.some.inj hc
      obtain ⟨w, hw, -⟩ := interests_isSome hI hp
      rw [Op.exchange, World.exec, h.stop a w hw]
      rfl
  | start a =>
      obtain rfl := Option.some.inj hc
      obtain ⟨w, hw, hwi⟩ := interests_isSome hI hp
      rw [Op.exchange, World.exec]
      cases hact : w.active with
      | true =>
          rw [start_of_active g hw hact]
          rfl
      | false =>
          rw [start_of_ok hw hact rfl (h.start a w hw hact (hm a _ hwi))]
          rfl
  | destroy a =>
      obtain rfl := Option.some.inj hc
      rfl
  | openFd fd => exact absurd hc.symm (Option.some_ne_none c)
  | closeFd fd => exact absurd hc.symm (Option.some_ne_none c)

/-- A call is told as it is, and changes only what is asked for. -/
theorem Op.of_call {l : Exchange} (hc : op.call g = some c) (hl : op.exchange m = some l) :
    (op.after m).interests = settle m.interests l ∧ (op.after m).isOpen = m.isOpen := by
  refine ⟨congrArg (Option.elim · m.interests (settle m.interests)) hl, ?_⟩
  cases op with
  | openFd fd => exact absurd hc.symm (Option.some_ne_none c)
  | closeFd fd => exact absurd hc.symm (Option.some_ne_none c)
  | _ => rfl

theorem Op.action_of_call {α : Type} (hc : op.call g = some c) (call : Call ω → α)
    (openFd closeFd : ℤ → α) : op.action g call openFd closeFd = call c := by
  cases op with
  | openFd fd => exact absurd hc.symm (Option.some_ne_none c)
  | closeFd fd => exact absurd hc.symm (Option.some_ne_none c)
  | _ => exact congrArg call (Option.some.inj hc)

/-- A proper call is made on a watcher that the program has. -/
theorem Op.Proper.live (hp : op.Proper m) (hI : s.interests = m.interests)
    (hc : op.call g = some c) (ha : c.target = some a) : (s.heap a).isSome = true := by
  have hsome : (m.interests a).isSome = true := by
    cases op with
    | update b events =>
        obtain rfl := Option.some.inj hc
        obtain rfl := Option.some.inj ha
        obtain ⟨i, hi, -⟩ := hp
        rw [hi]
        rfl
    | stop b =>
        obtain rfl := Option.some.inj hc
        obtain rfl := Option.some.inj ha
        exact hp
    | start b =>
        obtain rfl := Option.some.inj hc
        obtain rfl := Option.some.inj ha
        exact hp
    | destroy b =>
        obtain rfl := Option.some.inj hc
        obtain rfl := Option.some.inj ha
        exact hp
    | openFd fd => exact absurd hc.symm (Option.some_ne_none c)
    | closeFd fd => exact absurd hc.symm (Option.some_ne_none c)
    | _ =>
        obtain rfl := Option.some.inj hc
        exact absurd ha.symm (Option.some_ne_none a)
  obtain ⟨w, hw, -⟩ := interests_isSome hI hsome
  rw [hw]
  rfl

/-- A watcher is created on a descriptor of its own. -/
theorem Op.Proper.spare {fd : ℤ} {events : PdEvent} {callback : Option Callback} {userData : Addr}
    {env : CallEnv ω} (hp : op.Proper m) (hI : s.interests = m.interests)
    (hc : op.call g = some (.create fd events callback userData env)) :
    ∀ b x, s.heap b = some x → x.fd ≠ fd := by
  cases op with
  | create a fd' events' callback' userData' =>
      obtain ⟨rfl, -⟩ := Call.create.inj (Option.some.inj hc)
      obtain ⟨-, -, -, hspare⟩ := hp
      exact fun b x hx => hspare b _ ((congrFun hI b).symm.trans (interests_eq_some hx))
  | openFd fd => exact absurd hc.symm (Option.some_ne_none _)
  | closeFd fd => exact absurd hc.symm (Option.some_ne_none _)
  | _ => exact nomatch Option.some.inj hc

end

/-! ### epoll -/

namespace Epoll

/-- Nothing is refused. -/
def granting : EpollEnv := ⟨true, none, true⟩

/-- One step of a program on an epoll loop. -/
def opStep (s : EpollWorld) (op : Op) : EpollWorld :=
  op.action granting (fun c => (s.exec epollOps c).1) (openFd s) (closeFd s)

/-- The loop has followed the program: it has given the replies `os` and remembers what the
program has. -/
structure Follows (eventfd : ℤ) (m : Holdings) (os : List Exchange) (s : EpollWorld) : Prop where
  shows : (timerRuns eventfd).Shows Tame shown os s
  timers : ∀ t, s.sys.timers t = none
  interests : s.interests = m.interests
  isOpen : ∀ fd, m.isOpen fd = true → fd ≠ eventfd ∧ s.sys.kernel.isOpen fd = true

section

variable {eventfd : ℤ} {m : Holdings} {os : List Exchange} {s : EpollWorld} {op : Op}

/-- A descriptor that no active watcher names is not a member. -/
theorem Sound.interest_none (h : Sound eventfd s) {fd : ℤ} (hne : fd ≠ eventfd)
    (hfree : ¬(view s).Taken fd) : s.sys.kernel.interest fd = none := by
  cases hev : s.sys.kernel.interest fd with
  | none => rfl
  | some ev =>
      refine absurd ⟨ev, hev, fun hnull => hne ?_⟩ hfree
      exact h.agree.null_only fd ev hev hnull

theorem Follows.granting (h : Follows eventfd m os s) :
    Granting epollOps granting m.isOpen s where
  create := by
    intro a fd events callback userData hfd ha hspare
    obtain ⟨hsound, -⟩ := Tame.sound h.shows.reach
    obtain ⟨hne, hopen⟩ := h.isOpen fd hfd
    refine register_granted hsound.attached ⟨rfl, rfl, rfl⟩ hopen (hsound.interest_none hne ?_)
    intro htaken
    obtain ⟨b, x, hx, -, hxfd⟩ := hsound.exists_of_taken htaken
    exact hspare b x hx hxfd
  createForHandle := fun _ _ hok => PdError.noConfusion hok
  update := by
    intro a w events hw hact
    obtain ⟨hsound, -⟩ := Tame.sound h.shows.reach
    obtain ⟨d, hd⟩ := Option.isSome_iff_exists.1 hsound.attached
    obtain ⟨-, hmember, hpd⟩ := hsound.agree.registered a w hw hact
    rcases update_cases hd a { w with events } events Epoll.granting with
      ⟨hnone, -⟩ | ⟨-, -, -, hno, -⟩ | ⟨-, -, hok, -⟩
    · exact absurd (hnone.symm.trans hpd).symm (Option.some_ne_none _)
    · rcases hno with hclosed | hnone
      · exact absurd (hclosed.symm.trans (hsound.agree.named a w hw)) Bool.false_ne_true
      · exact absurd (hnone.symm.trans hmember).symm (Option.some_ne_none _)
    · exact hok
  stop := fun a w hw => (Tame.sound h.shows.reach).1.stop_ok hw
  start := by
    intro a w hw hact hfd
    obtain ⟨hsound, -⟩ := Tame.sound h.shows.reach
    obtain ⟨hne, hopen⟩ := h.isOpen w.fd hfd
    have hnone := hsound.interest_none hne (hsound.not_taken_of_inactive hw hact)
    exact register_granted hsound.attached ⟨rfl, rfl, rfl⟩ hopen hnone

/-- What one step of a program preserves. -/
theorem Follows.step (h : Follows eventfd m os s) (hm : m.Named) (hp : op.Proper m)
    (hfd : op ≠ .openFd eventfd) :
    Follows eventfd (op.after m) (os ++ (op.exchange m).toList) (opStep s op) := by
  cases hc : op.call Epoll.granting with
  | some c =>
      have hl := h.granting.exchange h.interests hm hp hc
      obtain ⟨hI, hisOpen⟩ := Op.of_call hc hl
      have hlive : ∀ a, c.target = some a → (s.heap a).isSome = true :=
        fun a ha => hp.live h.interests hc ha
      have hnone : ∀ a t tm, s.sys.timers t = some tm → tm.watcher ≠ some a := fun a t tm htm =>
        absurd ((h.timers t).symm.trans htm).symm (Option.some_ne_none tm)
      have htame : Tame s (.watcher c) := by
        refine ⟨?_, fun c' a hc' ha => ?_⟩
        · cases c with
          | create fd events callback userData env => exact hp.spare h.interests hc
          | _ => exact fun a _ => hnone a
        · obtain rfl := TimerAction.watcher.inj hc'
          exact hlive a ha
      have hkeeps := exec_sameTimers s c
      rw [opStep, Op.action_of_call hc, hl]
      refine ⟨h.shows.step htame rfl, fun t => ?_, ?_, fun fd hopen => ?_⟩
      · exact (congrFun hkeeps.timers t).trans (h.timers t)
      · rw [hI, ← h.interests]
        exact (exec_settles epollOps c hlive).eq_settle
      · rw [hisOpen] at hopen
        obtain ⟨hne, hkernel⟩ := h.isOpen fd hopen
        exact ⟨hne, (congrFun hkeeps.isOpen fd).trans hkernel⟩
  | none =>
      cases op with
      | openFd fd =>
          have hne : fd ≠ eventfd := fun heq => hfd (congrArg Op.openFd heq)
          refine ⟨h.shows.step (a := TimerAction.openFd fd)
            ⟨trivial, fun _ _ hact => TimerAction.noConfusion hact⟩ rfl, h.timers, h.interests,
            fun fd' hopen => ?_⟩
          change Function.update m.isOpen fd true fd' = true at hopen
          rcases eq_or_ne fd' fd with rfl | hother
          · exact ⟨hne, Function.update_self ..⟩
          · rw [Function.update_of_ne hother] at hopen
            obtain ⟨hne', hkernel⟩ := h.isOpen fd' hopen
            exact ⟨hne', (Function.update_of_ne hother ..).trans hkernel⟩
      | closeFd fd =>
          have hunnamed : Unnamed s fd := fun a w hw =>
            hp a w.interest ((congrFun h.interests a).symm.trans (interests_eq_some hw))
          refine ⟨h.shows.step (a := TimerAction.closeFd fd)
            ⟨hunnamed, fun _ _ hact => TimerAction.noConfusion hact⟩ rfl, h.timers, h.interests,
            fun fd' hopen => ?_⟩
          change Function.update m.isOpen fd false fd' = true at hopen
          rcases eq_or_ne fd' fd with rfl | hother
          · rw [Function.update_self] at hopen
            exact absurd hopen Bool.false_ne_true
          · rw [Function.update_of_ne hother] at hopen
            obtain ⟨hne', hkernel⟩ := h.isOpen fd' hopen
            exact ⟨hne', (Function.update_of_ne hother ..).trans hkernel⟩
      | _ => exact absurd hc (Option.some_ne_none _)

/-- An epoll loop follows a proper program to its end. -/
theorem Follows.run (ops : List Op) (h : Follows eventfd m os s) (hm : m.Named)
    (hp : ProperFrom m ops) (hfd : Op.openFd eventfd ∉ ops) :
    Follows eventfd (play m ops).1 (os ++ (play m ops).2) (ops.foldl opStep s) := by
  induction ops generalizing m os s with
  | nil =>
      rw [play, List.append_nil]
      exact h
  | cons op ops ih =>
      obtain ⟨hop, hrest⟩ := hp
      have hne : op ≠ .openFd eventfd := fun heq => hfd (heq ▸ List.mem_cons_self)
      have hstep := ih (h.step hm hop hne) (hop.named hm) hrest
        fun hmem => hfd (List.mem_cons_of_mem op hmem)
      rw [List.append_assoc] at hstep
      exact hstep

/-- A new loop has followed the empty program. -/
theorem Follows.create {isOpen : ℤ → Bool} (hfd : isOpen eventfd = false) :
    Follows eventfd ⟨fun _ => none, isOpen⟩ [] (epollLoopCreate eventfd isOpen) where
  shows := .init ⟨isOpen, rfl⟩
  timers := fun _ => rfl
  interests := rfl
  isOpen := by
    intro fd hopen
    have hne : fd ≠ eventfd := by
      rintro rfl
      exact Bool.false_ne_true (hfd.symm.trans hopen)
    exact ⟨hne, (Function.update_of_ne hne ..).trans hopen⟩

/-- Without timers nothing is hidden. -/
theorem Follows.asked_eq (h : Follows eventfd m os s) : asked s = m.interests := by
  have hnone : ∀ a, a ∉ hidden s := by
    rintro a ⟨t, tm, htm, -⟩
    exact Option.some_ne_none tm ((htm.symm.trans (h.timers t)))
  funext a
  exact (hide_of_notMem (hnone a)).trans (congrFun h.interests a)

end
end Epoll

/-! ### kqueue -/

namespace Kqueue

/-- One step of a program on a kqueue loop. -/
def opStep (s : KqueueWorld) (op : Op) : KqueueWorld :=
  op.action answers (fun c => (s.exec kqueueOps c).1) (openFd s) (closeFd s)

/-- The loop has followed the program: it has given the replies `os` and remembers what the
program has. -/
structure Follows (m : Holdings) (os : List Exchange) (s : KqueueWorld) : Prop where
  shows : timerRuns.Shows Tame shown os ⟨s, []⟩
  timers : ∀ t, s.sys.timers t = none
  interests : s.interests = m.interests
  isOpen : ∀ fd, m.isOpen fd = true → s.sys.kernel.isOpen fd = true

section

variable {m : Holdings} {os : List Exchange} {s : KqueueWorld} {op : Op}

theorem Follows.granting (h : Follows m os s) : Granting kqueueOps answers m.isOpen s where
  create := by
    intro a fd events callback userData hfd _ _
    obtain ⟨hkept, -⟩ := Tame.sound h.shows.reach
    exact (register_granted hkept.attached ⟨rfl, rfl, rfl, rfl⟩ (h.isOpen fd hfd)).1
  createForHandle := fun _ _ hok => PdError.noConfusion hok
  update := by
    intro a w events hw hact
    obtain ⟨hkept, hsound⟩ := Tame.sound h.shows.reach
    exact (update_of_events a events answers hkept.attached
      (hsound.attended.equipped a w hw hact)).2.2
  stop := fun a w hw => (Tame.sound h.shows.reach).2.stop_ok hw
  start := by
    intro a w hw hact hfd
    obtain ⟨hkept, -⟩ := Tame.sound h.shows.reach
    exact (register_granted (w := { w with active := true }) hkept.attached ⟨rfl, rfl, rfl, rfl⟩
      (h.isOpen w.fd hfd)).1

/-- Nothing is hidden without timers. -/
theorem Follows.notMem_hidden (h : Follows m os s) (a : Addr) : a ∉ hidden s := by
  rintro ⟨t, tm, htm, -⟩
  exact Option.some_ne_none tm (htm.symm.trans (h.timers t))

/-- Nothing is refused half way. -/
theorem halfway_granted (k : Kernel) (fd : ℤ) (events : PdEvent) :
    k.halfway fd events answers = false := by
  rw [Kernel.halfway]
  exact Bool.and_false _

/-- A proper call is prompt and orderly. -/
theorem Follows.tame (h : Follows m os s) (hp : op.Proper m) {c : Call KqueueEnv}
    (hc : op.call answers = some c) : Tame ⟨s, []⟩ (.call c) where
  prompt := fun a _ => h.notMem_hidden a
  orderly := by
    cases op with
    | create a fd events callback userData =>
        obtain rfl := Option.some.inj hc
        exact ⟨fun b x _ hx => hp.spare h.interests hc b x hx, fun _ _ => halfway_granted ..⟩
    | createForHandle a handle events callback userData =>
        obtain rfl := Option.some.inj hc
        trivial
    | update a events =>
        obtain rfl := Option.some.inj hc
        obtain ⟨i, hi, hsame⟩ := hp
        intro w hw hact
        have hwi := (congrFun h.interests a).symm.trans (interests_eq_some hw)
        obtain rfl := Option.some.inj (hi.symm.trans hwi)
        exact hsame hact
    | stop a =>
        obtain rfl := Option.some.inj hc
        trivial
    | start a =>
        obtain rfl := Option.some.inj hc
        exact fun _ _ _ _ => halfway_granted ..
    | destroy a =>
        obtain rfl := Option.some.inj hc
        trivial
    | openFd fd => exact absurd hc.symm (Option.some_ne_none c)
    | closeFd fd => exact absurd hc.symm (Option.some_ne_none c)
  live := by
    intro c' a hc' ha
    obtain rfl := TimerAction.call.inj hc'
    exact hp.live h.interests hc ha

/-- What one step of a program preserves. -/
theorem Follows.step (h : Follows m os s) (hm : m.Named) (hp : op.Proper m) :
    Follows (op.after m) (os ++ (op.exchange m).toList) (opStep s op) := by
  cases hc : op.call answers with
  | some c =>
      have hl := h.granting.exchange h.interests hm hp hc
      obtain ⟨hI, hisOpen⟩ := Op.of_call hc hl
      have hlive : ∀ a, c.target = some a → (s.heap a).isSome = true :=
        fun a ha => hp.live h.interests hc ha
      have hkeeps := exec_sameTimers (Tame.sound h.shows.reach).1.attached c
      rw [opStep, Op.action_of_call hc, hl]
      refine ⟨h.shows.step (h.tame hp hc) rfl, fun t => ?_, ?_, fun fd hopen => ?_⟩
      · exact (congrFun hkeeps.timers_eq t).trans (h.timers t)
      · rw [hI, ← h.interests]
        exact (exec_settles kqueueOps c hlive).eq_settle
      · rw [hisOpen] at hopen
        exact (congrFun hkeeps.isOpen_eq fd).trans (h.isOpen fd hopen)
  | none =>
      cases op with
      | openFd fd =>
          refine ⟨h.shows.step (a := TimerAction.openFd fd)
            ⟨trivial, trivial, fun _ _ hact => TimerAction.noConfusion hact⟩ rfl, h.timers,
            h.interests, fun fd' hopen => ?_⟩
          change Function.update m.isOpen fd true fd' = true at hopen
          rcases eq_or_ne fd' fd with rfl | hother
          · exact Function.update_self ..
          · rw [Function.update_of_ne hother] at hopen
            exact (Function.update_of_ne hother ..).trans (h.isOpen fd' hopen)
      | closeFd fd =>
          have hunnamed : Unnamed s fd := fun a w _ hw =>
            hp a w.interest ((congrFun h.interests a).symm.trans (interests_eq_some hw))
          refine ⟨h.shows.step (a := TimerAction.closeFd fd)
            ⟨trivial, hunnamed, fun _ _ hact => TimerAction.noConfusion hact⟩ rfl, h.timers,
            h.interests, fun fd' hopen => ?_⟩
          change Function.update m.isOpen fd false fd' = true at hopen
          rcases eq_or_ne fd' fd with rfl | hother
          · rw [Function.update_self] at hopen
            exact absurd hopen Bool.false_ne_true
          · rw [Function.update_of_ne hother] at hopen
            exact (Function.update_of_ne hother ..).trans (h.isOpen fd' hopen)
      | _ => exact absurd hc (Option.some_ne_none _)

/-- A kqueue loop follows a proper program to its end. -/
theorem Follows.run (ops : List Op) (h : Follows m os s) (hm : m.Named)
    (hp : ProperFrom m ops) :
    Follows (play m ops).1 (os ++ (play m ops).2) (ops.foldl opStep s) := by
  induction ops generalizing m os s with
  | nil =>
      rw [play, List.append_nil]
      exact h
  | cons op ops ih =>
      obtain ⟨hop, hrest⟩ := hp
      have hstep := ih (h.step hm hop) (hop.named hm) hrest
      rw [List.append_assoc] at hstep
      exact hstep

/-- A new loop has followed the empty program. -/
theorem Follows.create (isOpen : ℤ → Bool) :
    Follows ⟨fun _ => none, isOpen⟩ [] (kqueueLoopCreate isOpen) where
  shows := .init ⟨⟨isOpen, rfl⟩, rfl⟩
  timers := fun _ => rfl
  interests := rfl
  isOpen := fun _ hopen => hopen

theorem Follows.asked_eq (h : Follows m os s) : asked s = m.interests := by
  funext a
  exact (hide_of_notMem (h.notMem_hidden a)).trans (congrFun h.interests a)

end
end Kqueue

/-- **Where nothing is refused, an epoll loop and a kqueue loop do what `play` does**: on every
proper program they give the replies that it gives, call by call, and afterwards each kernel
waits on behalf of the program for what it says. -/
theorem backends_play {eventfd : ℤ} {isOpen : ℤ → Bool} {ops : List Op}
    (hclosed : isOpen eventfd = false) (hfd : Op.openFd eventfd ∉ ops)
    (hp : ProperFrom ⟨fun _ => none, isOpen⟩ ops) :
    let r := play ⟨fun _ => none, isOpen⟩ ops
    let s := ops.foldl Epoll.opStep (Epoll.epollLoopCreate eventfd isOpen)
    let t := ops.foldl Kqueue.opStep (Kqueue.kqueueLoopCreate isOpen)
    (Epoll.timerRuns eventfd).Shows Epoll.Tame Epoll.shown r.2 s ∧
      Kqueue.timerRuns.Shows Kqueue.Tame Kqueue.shown r.2 ⟨t, []⟩ ∧
      ∀ fd a edge, a ≠ NULL →
        (Epoll.WaitsFor s fd a Epoll.EPOLLIN edge ↔ AskedFor r.1.interests fd a .read edge) ∧
        (Epoll.WaitsFor s fd a Epoll.EPOLLOUT edge ↔ AskedFor r.1.interests fd a .write edge) ∧
        (Kqueue.WaitsFor t fd a .read edge ↔ AskedFor r.1.interests fd a .read edge) ∧
        (Kqueue.WaitsFor t fd a .write edge ↔ AskedFor r.1.interests fd a .write edge) := by
  have hnamed : Holdings.Named ⟨fun _ => none, isOpen⟩ := fun a i hi =>
    absurd hi.symm (Option.some_ne_none i)
  have hs := (Epoll.Follows.create hclosed).run ops hnamed hp hfd
  have ht := (Kqueue.Follows.create isOpen).run ops hnamed hp
  rw [List.nil_append] at hs ht
  refine ⟨hs.shows, ht.shows, fun fd a edge ha => ?_⟩
  obtain ⟨hsound, -⟩ := Epoll.Tame.sound hs.shows.reach
  have hawaits' := Kqueue.Tame.awaits ht.shows.reach
  rw [← hs.asked_eq]
  refine ⟨hsound.waitsFor_iff ha fun events => (Epoll.eventsToEpoll_bits events).1,
    hsound.waitsFor_iff ha fun events => (Epoll.eventsToEpoll_bits events).2.1, ?_, ?_⟩
  · rw [hs.asked_eq, ← ht.asked_eq]
    exact hawaits'.waitsFor_iff
  · rw [hs.asked_eq, ← ht.asked_eq]
    exact hawaits'.waitsFor_iff

/-- A watcher for reads is created, stopped and started again. -/
def restarted : List Op := [.create 100 5 .read none NULL, .stop 100, .start 100]

/-- Both loops give the replies of `play`, and wait for what is to be read. -/
theorem restarted_plays :
    (play ⟨fun _ => none, fun fd => fd == 5⟩ restarted).2 =
        [(.create 5 .read, .handle (some 100)), (.stop 100, .code .ok), (.start 100, .code .ok)] ∧
      Epoll.WaitsFor (restarted.foldl Epoll.opStep (Epoll.epollLoopCreate 3 fun fd => fd == 5))
        5 100 Epoll.EPOLLIN false ∧
      Kqueue.WaitsFor (restarted.foldl Kqueue.opStep (Kqueue.kqueueLoopCreate fun fd => fd == 5))
        5 100 .read false := by
  have hproper : ProperFrom ⟨fun _ => none, fun fd => fd == 5⟩ restarted :=
    ⟨⟨by decide, rfl, rfl, fun _ i hi => absurd hi.symm (Option.some_ne_none i)⟩, rfl, rfl, trivial⟩
  obtain ⟨-, -, hwaits⟩ := @backends_play 3 (fun fd => fd == 5) restarted rfl (by decide) hproper
  obtain ⟨hepoll, -, hkqueue, -⟩ := hwaits 5 100 false (by decide)
  exact ⟨rfl, hepoll.2 ⟨_, rfl, rfl, rfl, rfl, rfl⟩, hkqueue.2 ⟨_, rfl, rfl, rfl, rfl, rfl⟩⟩

end PollDancer
