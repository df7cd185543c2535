/-
# Who is still listening

An active watcher for reads has a read outstanding whenever the loop is about to wait, or
its owner has heard why not: of a hangup or an error by its callback, of a failure by
`pd_watcher_update`.  Three things go on in silence: a cancelled completion is dropped
though reads have been asked for again since the cancellation, a completion that finds
`pending_operation` unset is reported without events, and a re-arm is refused.
`not_readers_attended`

Where none of these takes away the last read of a watcher that has heard nothing
(`Step.Heard`), no watcher is left unread: `readers_attended`.  What the owners have heard
is recorded beside the run (`Notices`).
-/
import PollDancer.Iocp.PendingFlag

namespace PollDancer
namespace Iocp

open Library

/-- Which owners have been told of a hangup or an error, and for which the last update has
failed. -/
structure Notices where
  told : Addr → Bool
  failed : Addr → Bool

/-- Nobody has been told anything. -/
def Notices.none : Notices := ⟨fun _ => false, fun _ => false⟩

/-- What a callback tells. -/
def Notices.hear (h : Notices) : Mode → Notices
  | .callback (.read a events _) =>
      if events.has .hangup || events.has .error then
        { h with told := Function.update h.told a true }
      else h
  | _ => h

/-- What a step tells the owners. -/
def notify (s : State) (l : Step) (h : Notices) : Notices :=
  match l with
  | .call (.update a events env) =>
      { h with
        failed := Function.update h.failed a
          ((pdWatcherUpdate iocpOps s.world a events env).2 != .ok) }
  | .next =>
      match s.world.sys.port.next with
      | some (p, port) => h.hear (takeUp (s.world.setSys (s.world.sys.setPort port)) p).2
      | .none => h
  | _ => h

/-- The runs of an IOCP loop, with a record of what the owners have been told. -/
def noticeRuns : Machine (State × Notices) Step := Machine.recorded Init step .none notify

/-- Is the watcher active and for reads, with an owner who has heard of nothing? -/
def owed (s : IocpWorld) (h : Notices) (a : Addr) : Bool :=
  (s.heap a).any fun x => x.active && x.events.has .read && !h.told a && !h.failed a

/-- Will the loop re-issue a read of the watcher when the callback returns? -/
def State.willRearm (s : State) (a : Addr) : Bool :=
  match s.mode with
  | .callback (.read c events n) => c == a && events.has .read && decide (0 < n)
  | _ => false

instance (k : IocpSys) (a d : Addr) : Decidable (Reading k a d) :=
  decidable_of_iff (k.port.items.any (fun
    | .io c (.data e) _ => c == a && e == d
    | _ => false) = true) <| by
    rw [List.any_eq_true]
    constructor
    · rintro ⟨p, hp, h⟩
      split at h
      · rename_i c e n
        simp only [Bool.and_eq_true, beq_iff_eq] at h
        obtain ⟨rfl, rfl⟩ := h
        exact ⟨n, hp⟩
      · exact absurd h Bool.false_ne_true
    · rintro ⟨n, hn⟩
      exact ⟨_, hn, by simp⟩

/-- The step is sound, and nothing goes on in silence: `pd_watcher_update` for reads finds
the flag set only if a read is outstanding or will be re-issued; and the last read of a
watcher whose owner has heard of nothing is neither taken up cancelled or with the flag
unset, nor refused to the re-arm. -/
def Step.heard (s : State) (h : Notices) (l : Step) : Bool :=
  l.sound s && match l with
    | .call (.update a events _) =>
        (blockOf s.world a).all fun r => !(events.has .read && r.2.pendingOperation) ||
          h.told a || decide (Reading s.world.sys a r.1) || s.willRearm a
    | .next =>
        match s.world.sys.port.next with
        | some (.io a (.data d) _, port) =>
            (blockOf s.world a).all fun r => r.1 != d ||
              !(isCancelled r.2 || !r.2.pendingOperation) || !owed s.world h a ||
              decide (Reading (s.world.sys.setPort port) a d)
        | _ => true
    | .ret refused =>
        match s.mode with
        | .callback (.read a events n) =>
            !(events.has .read && decide (0 < n)) || !owed s.world h a ||
              (s.world.heap a).all fun x =>
                (s.world.sys.isOpen (rearmHandle x) && refused.isNone) ||
                  x.platformData.all fun d => decide (Reading s.world.sys a d)
        | _ => true
    | _ => true

/-- Nothing goes on in silence. -/
def Step.Heard (s : State × Notices) (l : Step) : Prop := l.heard s.1 s.2 = true

instance (s : State × Notices) (l : Step) : Decidable (Step.Heard s l) :=
  inferInstanceAs (Decidable (l.heard s.1 s.2 = true))

/-- The active watcher has its platform data, and unless its owner has heard of something a
read is outstanding or about to be. -/
def Attends (s : State) (h : Notices) (a : Addr) (x : PdWatcher Addr) : Prop :=
  ∃ d b, x.platformData = some d ∧ s.world.sys.blocks d = some b ∧ b.stopping = false ∧
    (x.events.has .read = true → h.told a = false → h.failed a = false →
      Reading s.world.sys a d ∨ s.willRearm a = true)

/-- Every active watcher is attended to. -/
structure Attended (s : State) (h : Notices) : Prop where
  apart : Apart s.world
  attends : ∀ a x, s.world.heap a = some x → x.active = true → Attends s h a x

section

variable {s s' : State} {h : Notices} {a d : Addr} {x : PdWatcher Addr}

theorem owed_eq {w : IocpWorld} (hx : w.heap a = some x) (hact : x.active = true)
    (hev : x.events.has .read = true) (ht : h.told a = false) (hf : h.failed a = false) :
    owed w h a = true := by
  simp [owed, hx, hact, hev, ht, hf]

/-- The loop turns to a packet with no callback running. -/
theorem willRearm_of_next (hstep : step s .next = some s') : s.willRearm a = false := by
  rw [State.willRearm, mode_of_next hstep]

/-- So it waits. -/
theorem willRearm_of_wait {n : ℕ} (hstep : step s (.wait n) = some s') :
    s.willRearm a = false := by
  rw [State.willRearm, mode_of_wait hstep]

theorem attended_init (hs : Init s) : Attended s .none := by
  refine ⟨apart_init hs, fun a x hx => ?_⟩
  obtain ⟨-, -, hheap, -⟩ := hs
  exact nomatch (hheap a).symm.trans hx

/-- The blocks are written in a way that keeps them from being torn down, no read is lost,
and the loop does not come from a callback. -/
theorem Attended.of_map (hs : Attended s h) (hw : Apart s'.world)
    (hheap : s'.world.heap = s.world.heap) (f : Addr → IocpWatcherData → IocpWatcherData)
    (hf : ∀ d b, (f d b).stopping = b.stopping)
    (hblocks : ∀ d, s'.world.sys.blocks d = (s.world.sys.blocks d).map (f d))
    (hreading : ∀ a d, (s.world.heap a).isSome → Reading s.world.sys a d →
      Reading s'.world.sys a d)
    (hmode : ∀ a, s.willRearm a = true → s'.willRearm a = true) : Attended s' h := by
  refine ⟨hw, fun a x hx hact => ?_⟩
  rw [hheap] at hx
  obtain ⟨d, b, hpd, hb, hstop, hread⟩ := hs.attends a x hx hact
  refine ⟨d, f d b, hpd, by rw [hblocks, hb, Option.map_some], (hf d b).trans hstop, ?_⟩
  intro hev ht hfail
  exact (hread hev ht hfail).imp (hreading a d (by rw [hx]; rfl)) (hmode a)

/-- The blocks are not written. -/
theorem Attended.of_port (hs : Attended s h) (hw : Apart s'.world)
    (hheap : s'.world.heap = s.world.heap) (hblocks : s'.world.sys.blocks = s.world.sys.blocks)
    (hitems : ∀ p ∈ s.world.sys.port.items, p ∈ s'.world.sys.port.items)
    (hmode : ∀ a, s.willRearm a = true → s'.willRearm a = true) : Attended s' h :=
  hs.of_map hw hheap (fun _ b => b) (fun _ _ => rfl) (fun d => by rw [hblocks, Option.map_id'])
    (fun _ _ _ hr => hr.mono hitems) hmode

/-- A call tells the owners of other watchers nothing. -/
theorem notify_call_ne {c : Call IocpEnv} (hc : ∀ events env, c ≠ .update a events env) :
    (notify s (.call c) h).failed a = h.failed a := by
  cases c with
  | update b events env =>
      refine Function.update_of_ne ?_ ..
      rintro rfl
      exact hc events env rfl
  | _ => rfl

theorem notify_call_told (s : State) (c : Call IocpEnv) (h : Notices) :
    (notify s (.call c) h).told = h.told := by
  cases c <;> rfl

/-- A new watcher for reads has its first read outstanding. -/
theorem Begins.attends {s' : State} {h : Notices} (hb : Begins s.world s'.world a x d) :
    Attends s' h a x := by
  rcases hb.block with ⟨hev, hblock, -⟩ | ⟨-, hblock, hport⟩
  · exact ⟨d, _, hb.data, hblock, rfl, fun hev' => nomatch hev.symm.trans hev'⟩
  · exact ⟨d, _, hb.data, hblock, rfl, fun _ _ _ => Or.inl (.issued hport)⟩

/-- What a call preserves: an update for reads issues one, or finds one, or fails. -/
theorem Attended.exec {c : Call IocpEnv} (hs : Attended s h) (hfresh : freshData s.world c = true)
    (hown : ∀ a events env x, c = .update a events env → issues s.world a events = true →
      s.world.heap a = some x → ownHandle s.world a (readHandle x) = true)
    (hfound : ∀ a events env x d b, c = .update a events env → s.world.heap a = some x →
      x.platformData = some d → s.world.sys.blocks d = some b → events.has .read = true →
      b.pendingOperation = true → h.told a = false →
      Reading s.world.sys a d ∨ s.willRearm a = true) :
    Attended { s with world := (s.world.exec iocpOps c).1 } (notify s (.call c) h) := by
  obtain ⟨a₀, honly, hat⟩ := callAt_exec s.world c
  refine ⟨hs.apart.exec hfresh, fun a x hx hact => ?_⟩
  have hrearm : State.willRearm { s with world := (s.world.exec iocpOps c).1 } = s.willRearm := rfl
  -- a watcher that is neither changed nor updated
  have hkept : (∀ events env, c ≠ .update a events env) → ∀ y : PdWatcher Addr,
      s.world.heap a = some y → y.active = true → y.platformData = x.platformData →
      y.events = x.events →
      (∀ d, Names s.world a d → (s.world.exec iocpOps c).1.sys.blocks d = s.world.sys.blocks d) →
      Attends { s with world := (s.world.exec iocpOps c).1 } (notify s (.call c) h) a x := by
    intro hc y hy hyact hpd hev hblocks
    obtain ⟨d, b, hyd, hb, hstop, hread⟩ := hs.attends a y hy hyact
    refine ⟨d, b, hpd ▸ hyd, (hblocks d ⟨y, hy, hyd⟩).trans hb, hstop, ?_⟩
    rw [notify_call_told, notify_call_ne hc, hrearm, ← hev]
    exact fun hev ht hf => (hread hev ht hf).imp_left fun hr => hr.mono honly.items
  rcases eq_or_ne a a₀ with rfl | ha
  · cases hat with
    | kept hheap hblocks _ hno =>
        have hx' := hheap.symm.trans hx
        refine hkept (fun events env hc => ?_) x hx' hact rfl rfl hblocks
        exact nomatch (hno a events env x hc hx').symm.trans hact
    | destroyed _ hgone => exact nomatch hgone.symm.trans hx
    | unlisted _ _ _ hgone => exact nomatch hgone.symm.trans hx
    | created _ _ hbeg =>
        obtain rfl := Option.some.inj (hbeg.live.symm.trans hx)
        exact hbeg.attends
    | started _ _ _ _ hbeg =>
        obtain rfl := Option.some.inj (hbeg.live.symm.trans hx)
        exact hbeg.attends
    | unstarted _ _ _ hheap =>
        obtain rfl := Option.some.inj (hheap.symm.trans hx)
        exact nomatch hact
    | stoppedDangling _ _ _ _ _ hheap =>
        obtain rfl := Option.some.inj (hheap.symm.trans hx)
        exact nomatch hact
    | deferred _ _ _ _ _ _ hheap =>
        obtain rfl := Option.some.inj (hheap.symm.trans hx)
        exact nomatch hact
    | freed _ _ _ _ _ _ _ hheap =>
        obtain rfl := Option.some.inj (hheap.symm.trans hx)
        exact nomatch hact
    | @updated y events env r hc hy hyact hheap hupd hsys hreply =>
        obtain rfl := Option.some.inj (hheap.symm.trans hx)
        subst hc
        obtain ⟨d, b, hyd, hb, hstop, -⟩ := hs.attends a y hy hyact
        have hcode : (pdWatcherUpdate iocpOps s.world a events env).2 = r.code :=
          Reply.code.inj hreply
        have hsys' : (pdWatcherUpdate iocpOps s.world a events env).1.sys = r.sys := hsys
        have hfailed : (notify s (.call (.update a events env)) h).failed a = (r.code != .ok) := by
          rw [← hcode]
          exact Function.update_self ..
        rw [Attends, notify_call_told, hrearm, hfailed]
        show ∃ d b, y.platformData = some d ∧
          (pdWatcherUpdate iocpOps s.world a events env).1.sys.blocks d = some b ∧
          b.stopping = false ∧ (events.has .read = true → h.told a = false →
            (r.code != .ok) = false →
            Reading (pdWatcherUpdate iocpOps s.world a events env).1.sys a d ∨
              s.willRearm a = true)
        rw [hsys']
        cases hupd with
        | absent hnone => exact nomatch hnone.symm.trans hyd
        | dangling hyd' hnone =>
            obtain rfl := Option.some.inj (hyd'.symm.trans hyd)
            exact nomatch hnone.symm.trans hb
        | noted hyd' hb' hpending hblocks hport =>
            obtain rfl := Option.some.inj (hyd'.symm.trans hyd)
            obtain rfl := Option.some.inj (hb'.symm.trans hb)
            refine ⟨_, _, hyd, (congrFun hblocks _).trans (Function.update_self ..), hstop,
              fun hev ht _ => ?_⟩
            refine (hfound a events env y _ _ rfl hy hyd hb hev (hpending hev) ht).imp_left
              fun hr => ?_
            exact hr.mono fun p hp => by rwa [hport]
        | issued hyd' hb' hev hpend hopen hblocks hport =>
            obtain rfl := Option.some.inj (hyd'.symm.trans hyd)
            obtain rfl := Option.some.inj (hb'.symm.trans hb)
            refine ⟨_, _, hyd, (congrFun hblocks _).trans (Function.update_self ..), hstop,
              fun _ _ _ => ?_⟩
            have hissues := issues_eq hy hyact hyd hb hev hpend
            rw [getD_of_own (hown a events env y rfl hissues hy) hopen] at hport
            exact Or.inl (.issued hport)
        | unissued hyd' hb' _ _ _ hblocks _ hsystem =>
            obtain rfl := Option.some.inj (hyd'.symm.trans hyd)
            obtain rfl := Option.some.inj (hb'.symm.trans hb)
            refine ⟨_, _, hyd, (congrFun hblocks _).trans (Function.update_self ..), hstop,
              fun _ _ hok => ?_⟩
            rw [hsystem] at hok
            exact nomatch hok
  · have hx' := (honly.heap a ha).symm.trans hx
    refine hkept (fun events env hc => ha (hat.eq_of_update hc hx' hact)) x hx' hact rfl rfl ?_
    exact fun d hd => honly.block_eq hs.apart hfresh ha hd

/-- What a callback told before stays told. -/
theorem told_hear (m : Mode) (ht : (h.hear m).told a = false) : h.told a = false := by
  unfold Notices.hear at ht
  split at ht
  · split at ht
    · rename_i c _ _ _
      by_cases hac : a = c
      · subst hac
        exact nomatch (Function.update_self a true h.told).symm.trans ht
      · exact (Function.update_of_ne hac ..).symm.trans ht
    · exact ht
  · exact ht

theorem told_of_loud {events : PdEvent} {n : ℕ}
    (hev : (events.has .hangup || events.has .error) = true) :
    (h.hear (.callback (.read a events n))).told a = true := by
  rw [Notices.hear, if_pos hev]
  exact Function.update_self ..

theorem failed_hear (m : Mode) : (h.hear m).failed = h.failed := by
  unfold Notices.hear
  split
  · split <;> rfl
  · rfl

/-- Taking up a packet preserves it: the callback of a completed read tells of a hangup or
an error, or is followed by a re-arm. -/
theorem Attended.takeUp {p : Packet} {port : Port Packet} (hs : Attended s h)
    (hp : s.world.sys.port.next = some (p, port)) (hmode : ∀ a, s.willRearm a = false)
    (hcb : ∀ a o n x, p = .io a o n → s.world.heap a = some x → x.callback.isSome = true)
    (hloud : ∀ a d n x b, p = .io a (.data d) n → s.world.heap a = some x →
      x.platformData = some d → s.world.sys.blocks d = some b →
      isCancelled b = true ∨ b.pendingOperation = false → owed s.world h a = true →
      Reading (s.world.sys.setPort port) a d) :
    Attended ⟨(takeUp (s.world.setSys (s.world.sys.setPort port)) p).1,
      (Iocp.takeUp (s.world.setSys (s.world.sys.setPort port)) p).2⟩
      (h.hear (Iocp.takeUp (s.world.setSys (s.world.sys.setPort port)) p).2) := by
  have hapart := (hs.apart.setSys (s.world.sys.setPort port)).takeUp p
  obtain ⟨htaken, hport⟩ := takenUp_takeUp (s.world.setSys (s.world.sys.setPort port)) p
  generalize Iocp.takeUp (s.world.setSys (s.world.sys.setPort port)) p = r at hapart htaken hport ⊢
  refine ⟨hapart, fun a x hx hact => ?_⟩
  have hport' : r.1.sys.port = port := hport
  -- a watcher whose read is not the one that is taken up
  have hother : s.world.heap a = some x →
      (∀ d, Names s.world a d → r.1.sys.blocks d = s.world.sys.blocks d) →
      (∀ d n, Names s.world a d → p ≠ .io a (.data d) n) → Attends ⟨r.1, r.2⟩ (h.hear r.2) a x := by
    intro hx hblocks hne
    obtain ⟨d, b, hpd, hb, hstop, hread⟩ := hs.attends a x hx hact
    refine ⟨d, b, hpd, (hblocks d ⟨x, hx, hpd⟩).trans hb, hstop, fun hev ht hf => ?_⟩
    rw [failed_hear] at hf
    rcases hread hev (told_hear _ ht) hf with hr | hr
    · exact Or.inl (hr.next hp (fun n => hne d n ⟨x, hx, hpd⟩) hport')
    · exact nomatch (hmode a).symm.trans hr
  -- so it is for every watcher but the one of the packet
  have hrest : ∀ a₀ d₀ o n q, p = .io a₀ o n → Names s.world a₀ d₀ →
      r.1.sys.blocks = Function.update s.world.sys.blocks d₀ q → a ≠ a₀ →
      s.world.heap a = some x → Attends ⟨r.1, r.2⟩ (h.hear r.2) a x := by
    intro a₀ d₀ o n q heq hn hblocks hne hx
    refine hother hx (fun d hd => ?_) fun d m _ hm => ?_
    · rw [hblocks, Function.update_of_ne]
      rintro rfl
      exact hne (hs.apart.distinct a a₀ d hd hn)
    · rw [heq] at hm
      cases hm
      exact hne rfl
  -- for that one, the last read does not go in silence
  have hown : ∀ d n y b, p = .io a (.data d) n → s.world.heap a = some y →
      y.platformData = some d → s.world.sys.blocks d = some b → b.stopping = false →
      isCancelled b = true ∨ b.pendingOperation = false → y = x → ∀ b',
      r.1.sys.blocks d = some b' → b'.stopping = b.stopping →
      Attends ⟨r.1, r.2⟩ (h.hear r.2) a x := by
    rintro d n y b heq hy hyd hb hstop hsilent rfl b' hblocks hb'
    refine ⟨d, b', hyd, hblocks, hb'.trans hstop, fun hev ht hf => Or.inl ?_⟩
    rw [failed_hear] at hf
    have howed := owed_eq hy hact hev (told_hear _ ht) hf
    exact (hloud a d n y b heq hy hyd hb hsilent howed).mono fun q hq => by rwa [hport']
  cases htaken with
  | ignored hheap hblocks hnone =>
      have hx' : s.world.heap a = some x := (congrFun hheap a).symm.trans hx
      refine hother hx' (fun d _ => congrFun hblocks d) fun d n hd heq => ?_
      have hpd := (names_iff hx').1 hd
      obtain ⟨e, b, hpd', hb, -⟩ := hs.attends a x hx' hact
      obtain rfl := Option.some.inj (hpd.symm.trans hpd')
      have hnull : a ≠ NULL := hs.apart.listed.ne_null a (by rw [hx']; rfl)
      have hsome := hcb a _ n x heq hx'
      rw [hnone a d n x b heq hnull hx' hpd hb] at hsome
      exact nomatch hsome
  | @released a₀ d₀ o n y b heq _ hy _ hyd hb hstop hheap hblocks =>
      rw [show r.1.heap = _ from hheap] at hx
      rcases eq_or_ne a a₀ with rfl | hne
      · -- what is torn down is not active
        rw [Function.update_self] at hx
        obtain rfl := Option.some.inj hx
        obtain ⟨e, b', hpd', hb', hgo, -⟩ := hs.attends a y hy hact
        obtain rfl := Option.some.inj (hyd.symm.trans hpd')
        obtain rfl := Option.some.inj (hb.symm.trans hb')
        exact nomatch hstop.symm.trans hgo
      · rw [Function.update_of_ne hne] at hx
        exact hrest a₀ d₀ o n _ heq ⟨y, hy, hyd⟩ hblocks hne hx
  | @cancelled a₀ d₀ n y b heq _ hy _ hyd hb hstop hcancel hheap hblocks =>
      have hx' : s.world.heap a = some x := (congrFun hheap a).symm.trans hx
      rcases eq_or_ne a a₀ with rfl | hne
      · exact hown d₀ n y b heq hy hyd hb hstop (Or.inl hcancel)
          (Option.some.inj (hy.symm.trans hx')) _
          ((congrFun hblocks d₀).trans (Function.update_self ..)) rfl
      · exact hrest a₀ d₀ _ n _ heq ⟨y, hy, hyd⟩ hblocks hne hx'
  | @completed a₀ d₀ n y b heq _ hy _ hyd hb hstop hcancel hheap hblocks hmode' =>
      have hx' : s.world.heap a = some x := (congrFun hheap a).symm.trans hx
      rcases eq_or_ne a a₀ with rfl | hne
      · obtain rfl := Option.some.inj (hy.symm.trans hx')
        have hblock := (congrFun hblocks d₀).trans (Function.update_self ..)
        cases hpend : b.pendingOperation with
        | false => exact hown d₀ n y b heq hy hyd hb hstop (Or.inr hpend) rfl _ hblock rfl
        | true =>
            refine ⟨d₀, _, hyd, hblock, hstop, fun _ ht _ => Or.inr ?_⟩
            rw [hmode'] at ht
            rcases readEvents_cases (n := n) hpend with ⟨hev, hn⟩ | hev | hev
            · show State.willRearm ⟨r.1, r.2⟩ a = true
              rw [hmode', hev]
              simp [State.willRearm, hn, show PdEvent.read.has .read = true by decide]
            · rw [hev, told_of_loud (by decide)] at ht
              exact nomatch ht
            · rw [hev, told_of_loud (by decide)] at ht
              exact nomatch ht
      · exact hrest a₀ d₀ _ n _ heq ⟨y, hy, hyd⟩ hblocks hne hx'

/-- So does the end of a callback, if the last read of a watcher that is owed one is not
refused. -/
theorem Attended.rearm {f : Frame} {refused : Option WinError} (hs : Attended s h)
    (hmode : s.mode = .callback f)
    (hown : ∀ a events n x, f = .read a events n → s.world.heap a = some x →
      ownHandle s.world a (rearmHandle x) = true)
    (hloud : ∀ a events n x d, f = .read a events n → events.has .read = true → 0 < n →
      s.world.heap a = some x → x.platformData = some d →
      s.world.sys.isOpen (rearmHandle x) = false ∨ refused.isSome = true →
      owed s.world h a = true → Reading s.world.sys a d) :
    Attended ⟨(rearm s.world refused f).1, (Iocp.rearm s.world refused f).2⟩ h := by
  have hapart := hs.apart.rearm refused f
  obtain ⟨hrearmed, hheap⟩ := rearmed_rearm s.world refused f
  generalize Iocp.rearm s.world refused f = r at hapart hrearmed hheap ⊢
  refine ⟨hapart, fun a x hx hact => ?_⟩
  rw [hheap] at hx
  obtain ⟨d, b, hpd, hb, hstop, hread⟩ := hs.attends a x hx hact
  -- a watcher whose callback it was not
  have hother : (∀ events n, f = .read a events n → ¬(events.has .read = true ∧ 0 < n)) →
      r.1.sys.blocks d = s.world.sys.blocks d →
      (∀ p ∈ s.world.sys.port.items, p ∈ r.1.sys.port.items) → Attends ⟨r.1, r.2⟩ h a x := by
    intro hf hblocks hitems
    refine ⟨d, b, hpd, hblocks.trans hb, hstop, fun hev ht hfail => ?_⟩
    rcases hread hev ht hfail with hr | hr
    · exact Or.inl (hr.mono hitems)
    · rw [State.willRearm, hmode] at hr
      split at hr
      · rename_i c events n heq
        cases heq
        simp only [Bool.and_eq_true, beq_iff_eq, decide_eq_true_eq] at hr
        obtain ⟨⟨rfl, hev'⟩, hn⟩ := hr
        exact (hf events n rfl ⟨hev', hn⟩).elim
      · exact nomatch hr
  cases hrearmed with
  | nothing hblocks hport hstopped =>
      refine hother (fun events n heq hgo => ?_) (congrFun hblocks d) fun p hp => by rwa [hport]
      exact nomatch (hstopped a events n x d b heq hgo.1 hgo.2 hx hpd hb).symm.trans hstop
  | @issued a₀ d₀ events n y b₀ hf _ _ hy hyd hb₀ _ hopen hblocks hport =>
      have hitems : ∀ p ∈ s.world.sys.port.items, p ∈ r.1.sys.port.items := by
        intro p hp
        rw [hport]
        exact Port.mem_issue.2 (Or.inr hp)
      rw [getD_of_own (hown a₀ events n y hf hy) hopen] at hport
      rcases eq_or_ne a a₀ with rfl | hne
      · obtain rfl := Option.some.inj (hy.symm.trans hx)
        obtain rfl := Option.some.inj (hyd.symm.trans hpd)
        obtain rfl := Option.some.inj (hb₀.symm.trans hb)
        exact ⟨d₀, _, hyd, (congrFun hblocks d₀).trans (Function.update_self ..), hstop,
          fun _ _ _ => Or.inl (.issued hport)⟩
      · refine hother (fun _ _ heq => ?_) ?_ hitems
        · rw [hf] at heq
          cases heq
          exact absurd rfl hne
        · rw [hblocks, Function.update_of_ne]
          rintro rfl
          exact hne (hs.apart.distinct a a₀ d ⟨x, hx, hpd⟩ ⟨y, hy, hyd⟩)
  | @unissued a₀ d₀ events n y b₀ hf hev hn hy hyd hb₀ _ href hblocks hport =>
      have hitems : ∀ p ∈ s.world.sys.port.items, p ∈ r.1.sys.port.items :=
        fun p hp => by rwa [hport]
      rcases eq_or_ne a a₀ with rfl | hne
      · obtain rfl := Option.some.inj (hy.symm.trans hx)
        obtain rfl := Option.some.inj (hyd.symm.trans hpd)
        obtain rfl := Option.some.inj (hb₀.symm.trans hb)
        refine ⟨d₀, _, hyd, (congrFun hblocks d₀).trans (Function.update_self ..), hstop,
          fun hev' ht hfail => Or.inl ?_⟩
        have howed := owed_eq hx hact hev' ht hfail
        exact (hloud a events n y d₀ hf hev hn hx hyd href howed).mono hitems
      · refine hother (fun _ _ heq => ?_) ?_ hitems
        · rw [hf] at heq
          cases heq
          exact absurd rfl hne
        · rw [hblocks, Function.update_of_ne]
          rintro rfl
          exact hne (hs.apart.distinct a a₀ d ⟨x, hx, hpd⟩ ⟨y, hy, hyd⟩)

/-- What one step preserves. -/
theorem attended_step {l : Step} (hs : Attended s h) (hok : l.heard s h = true)
    (hstep : step s l = some s') : Attended s' (notify s l h) := by
  have hsound : l.sound s = true := (Bool.and_eq_true_iff.1 hok).1
  have hfresh := freshData_of_sound hsound
  have hapart := apart_step hs.apart hfresh hstep
  cases stepped_of_step hstep with
  | @call c =>
      refine hs.exec (hfresh c rfl) (fun a events env x hc hissues hx => ?_)
        fun a events env x d b hc hx hpd hb hev hpend ht => ?_
      · subst hc
        simp only [Step.sound, hissues, Bool.not_true, Bool.false_or, Bool.and_eq_true, hx,
          Option.all_some] at hsound
        exact hsound.2
      · subst hc
        simp only [Step.heard, blockOf_eq hx hpd hb, Option.all_some, hev, hpend, ht, Bool.and_true,
          Bool.not_true, Bool.false_or, Bool.and_eq_true, Bool.or_eq_true, decide_eq_true_eq] at hok
        exact hok.2
  | @drainRead a len y _ =>
      refine hs.of_map hapart rfl (fun d b => if y.platformData = some d then drained len b else b)
        (fun d b => ?_) (drainRead_blocks s.world.sys y len) (fun b d _ hr => ?_) fun _ hr => hr
      · split <;> rfl
      · refine hr.mono fun p hp => ?_
        show p ∈ (iocpWatcherDrainRead s.world.sys y len).1.port.items
        rwa [drainRead_port]
  | openHandle => exact hs.of_port hapart rfl rfl (fun _ hp => hp) fun _ hr => hr
  | closeHandle => exact hs.of_port hapart rfl rfl (fun _ hp => hp) fun _ hr => hr
  | clientWrite =>
      exact hs.of_port hapart rfl rfl (fun _ hp => Port.mem_issue.2 (Or.inr hp)) fun _ hr => hr
  | @complete key o n status data hp =>
      refine hs.of_map hapart rfl (fun d b => if o = .data d then
        { b with internal := status, buffer := data ++ b.buffer.drop data.length } else b)
        (fun d b => ?_) (complete_blocks s.world.sys _ key o status data) (fun a d hl hr => ?_)
        fun _ hr => hr
      · split <;> rfl
      · exact hr.complete (hs.apart.listed.ne_null a hl) rfl
  | post => exact hs.of_port hapart rfl rfl (fun _ hp => Port.mem_post.2 (Or.inr hp)) fun _ hr => hr
  | wait =>
      refine hs.of_port hapart rfl rfl (fun _ hp => Port.mem_take.2 hp) fun a hr => ?_
      exact absurd ((willRearm_of_wait hstep).symm.trans hr) Bool.false_ne_true
  | waitFailed => exact hs.of_port hapart rfl rfl (fun _ hp => hp) fun _ hr => hr
  | done hnone =>
      have hsame : notify s .next h = h := by simp [notify, hnone]
      rw [hsame]
      refine hs.of_port hapart rfl rfl (fun _ hp => hp) fun a hr => ?_
      exact absurd ((willRearm_of_next hstep).symm.trans hr) Bool.false_ne_true
  | @next p port hp =>
      have hhear : notify s .next h =
          h.hear (takeUp (s.world.setSys (s.world.sys.setPort port)) p).2 := by
        simp only [notify, hp]
      rw [hhear]
      refine hs.takeUp hp (fun a => willRearm_of_next hstep) (fun a o n x heq hx => ?_)
        fun a d n x b heq hx hpd hb hsilent howed => ?_
      · simp only [Step.sound, hp, heq, hx, Option.all_some] at hsound
        exact hsound
      · subst heq
        have hsil : (isCancelled b || !b.pendingOperation) = true := by
          rcases hsilent with hc | hc <;> simp [hc]
        simp only [Step.heard, hp, blockOf_eq hx hpd hb, Option.all_some, hsil, howed,
          Bool.and_eq_true, Bool.or_eq_true, decide_eq_true_eq, bne_self_eq_false, Bool.not_true,
          Bool.false_eq_true, false_or] at hok
        exact hok.2
  | @ret f refused hmode =>
      refine hs.rearm hmode (fun a events n x heq hx => ?_)
        fun a events n x d heq hev hn hx hpd href howed => ?_
      · simp only [Step.sound, hmode, heq, hx, Option.all_some] at hsound
        exact hsound
      · subst heq
        have hno : (s.world.sys.isOpen (rearmHandle x) && refused.isNone) = false := by
          rcases href with hc | hc
          · simp [hc]
          · obtain ⟨e, rfl⟩ := Option.isSome_iff_exists.1 hc
            simp
        simp only [Step.heard, hmode, hev, hn, howed, hx, hpd, hno, Option.all_some,
          Bool.and_eq_true, Bool.not_true, Bool.and_self, Bool.false_or, decide_true,
          decide_eq_true_eq] at hok
        exact hok.2

/-- If nothing goes on in silence, then whenever the loop is about to wait every active
watcher for reads has a read outstanding, or its owner has been told of a hangup, an error
or a failed update. -/
theorem readers_attended (hr : noticeRuns.Reach Step.Heard (s, h)) (hidle : s.mode = .idle)
    (hx : s.world.heap a = some x) (hact : x.active = true) (hev : x.events.has .read = true)
    (htold : h.told a = false) (hfailed : h.failed a = false) :
    ∃ d, x.platformData = some d ∧ Reading s.world.sys a d := by
  have hs : Attended s h := by
    refine Machine.Reach.recorded_invariant (I := Attended) (fun _ hs => attended_init hs) ?_ hr
    exact fun s h l s' hi hok hnext => attended_step hi hok hnext
  obtain ⟨d, b, hpd, -, -, hread⟩ := hs.attends a x hx hact
  rcases hread hev htold hfailed with hreading | hrearm
  · exact ⟨d, hpd, hreading⟩
  · rw [State.willRearm, hidle] at hrearm
    exact nomatch hrearm

end
/-- The read is cancelled and asked for again once its completion has been taken up, and
completes with a byte; the loop issues the next one and waits. -/
def pauseAndRead : List Step :=
  pauseAndResume ++ [.complete (.io 100 (.data 200) 0) STATUS_SUCCESS [7], .wait 1, .next,
    .drainRead 100 4096, .ret none, .next]

theorem pauseAndRead_attended : ∃ s h x,
    Machine.runGuarded Step.Heard (Machine.recordStep step notify) (iocpLoopCreate, .none)
      pauseAndRead = some (s, h) ∧ s.world.heap 100 = some x ∧
    ∃ d, x.platformData = some d ∧ Reading s.world.sys 100 d := by
  have hrun : ∃ s h x,
      Machine.runGuarded Step.Heard (Machine.recordStep step notify) (iocpLoopCreate, .none)
        pauseAndRead = some (s, h) ∧ s.mode = .idle ∧ s.world.heap 100 = some x ∧
      x.active = true ∧ x.events.has .read = true ∧ h.told 100 = false ∧ h.failed 100 = false :=
    ⟨_, _, _, rfl, rfl, rfl, rfl, by decide, rfl, rfl⟩
  obtain ⟨s, h, x, hrun, hidle, hx, hact, hev, htold, hfailed⟩ := hrun
  exact ⟨s, h, x, hrun, hx, readers_attended
    (.runGuarded (.init ⟨init_iocpLoopCreate, rfl⟩) hrun) hidle hx hact hev htold hfailed⟩

/-- Reads are asked for again before the cancelled completion is taken up. -/
def resumeTooSoon : List Step :=
  [.openHandle 4, createReader, .call (.update 100 .write ⟨none, none, none, 0⟩),
    .call (.update 100 .read ⟨none, none, none, 0⟩),
    .complete (.io 100 (.data 200) 0) STATUS_CANCELLED [], .wait 1, .next, .next]

/-- A watcher can be left unread in silence. -/
theorem not_readers_attended : ¬∀ s h, noticeRuns.Reachable (s, h) → s.mode = .idle →
    ∀ a x, s.world.heap a = some x → x.active = true → x.events.has .read = true →
      h.told a = false → h.failed a = false →
      ∃ d, x.platformData = some d ∧ Reading s.world.sys a d := by
  intro hall
  have hrun : ∃ s h x,
      Machine.run (Machine.recordStep step notify) (iocpLoopCreate, .none) resumeTooSoon =
        some (s, h) ∧ s.mode = .idle ∧ s.world.heap 100 = some x ∧
      x.active = true ∧ x.events.has .read = true ∧ h.told 100 = false ∧ h.failed 100 = false ∧
      s.world.sys.port.items = [] := ⟨_, _, _, rfl, rfl, rfl, rfl, by decide, rfl, rfl, rfl⟩
  obtain ⟨s, h, x, hrun, hidle, hx, hact, hev, htold, hfailed, hitems⟩ := hrun
  obtain ⟨d, -, n, hn⟩ := hall s h (Machine.Reach.run (.init ⟨init_iocpLoopCreate, rfl⟩) hrun) hidle
    100 x hx hact hev htold hfailed
  rw [hitems] at hn
  exact absurd hn List.not_mem_nil

end Iocp
end PollDancer
