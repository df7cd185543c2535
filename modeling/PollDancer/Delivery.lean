/-
# What a wait delivers

When no callback of a batch stops or destroys a watcher whose event is still to come
(`Considerate`), and every event is of an active watcher, the dispatch of the batch is safe,
invokes exactly the callbacks that the events are for, in the order of the events, and makes
the calls of all of them (`dispatchBatch_delivers`).  The backend is arbitrary, and the
callbacks may do anything else: create watchers, and update and start any.

A rule that a program can keep without knowing the batch is that a callback stops and
destroys no watcher but its own (`OwnOnly`); it is enough where no watcher has two events in
one batch (`OwnOnly.considerate`).
-/
import PollDancer.Dispatch

namespace PollDancer

variable {κ δ ω ε : Type}

/-- The callbacks that a trace invokes. -/
def invoked (trace : List (Obs ω)) : List (Addr × PdEvent) :=
  trace.filterMap fun
    | .invoke w events => some (w, events)
    | _ => none

/-- The callback that an event is for. -/
def delivery (d : Dispatcher κ ε) (s : World κ δ) (e : ε) : Option (Addr × PdEvent) :=
  match d.decode e with
  | .watcher w events =>
      if (s.heap w).any fun x => x.callback.isSome then some (w, events) else none
  | _ => none

/-- Does the call stop or destroy the watcher? -/
def Call.Ends (w : Addr) (c : Call ω) : Prop := c = .stop w ∨ c = .destroy w

/-- The callbacks stop and destroy no watcher whose event is still to come. -/
def Considerate (d : Dispatcher κ ε) : List (ε × List (Call ω)) → Prop
  | [] => True
  | (_, script) :: batch =>
      (∀ c ∈ script, ∀ p ∈ batch, ∀ w events, d.decode p.1 = .watcher w events → ¬c.Ends w) ∧
        Considerate d batch

/-- A callback stops and destroys no watcher but its own. -/
def OwnOnly (d : Dispatcher κ ε) (batch : List (ε × List (Call ω))) : Prop :=
  ∀ p ∈ batch, ∀ c ∈ p.2, ∀ w, c.Ends w → ∃ events, d.decode p.1 = .watcher w events

/-- The calls of a callback keep to a rule. -/
def CallsKeep (ops : PlatformOps κ δ ω) (P : World κ δ → Call ω → Prop) (s : World κ δ) :
    List (Call ω) → Prop
  | [] => True
  | c :: cs => P s c ∧ CallsKeep ops P (s.exec ops c).1 cs

/-- The callbacks of a batch keep to a rule. -/
def BatchKeeps (ops : PlatformOps κ δ ω) (d : Dispatcher κ ε) (P : World κ δ → Call ω → Prop)
    (s : World κ δ) : List (ε × List (Call ω)) → Prop
  | [] => True
  | (e, script) :: batch =>
      let s := s.setSys (d.prepare s.sys e)
      if invokes d s e = true then
        CallsKeep ops P s script ∧ BatchKeeps ops d P (runCalls ops s script).1 batch
      else BatchKeeps ops d P s batch

/-- The events of the batch are of watchers that are active. -/
def AllActive (d : Dispatcher κ ε) (s : World κ δ) (batch : List (ε × List (Call ω))) : Prop :=
  ∀ p ∈ batch, ∀ w events, d.decode p.1 = .watcher w events → ActiveIn s w

section

variable (ops : PlatformOps κ δ ω) {d : Dispatcher κ ε} {s s₀ : World κ δ} {w : Addr}
  {x : PdWatcher δ} {batch : List (ε × List (Call ω))}

theorem invoked_append (l₁ l₂ : List (Obs ω)) : invoked (l₁ ++ l₂) = invoked l₁ ++ invoked l₂ :=
  List.filterMap_append

/-- The calls of a callback are no invocations. -/
theorem invoked_runCalls (cs : List (Call ω)) : invoked (runCalls ops s cs).2 = [] := by
  induction cs generalizing s with
  | nil => rfl
  | cons c cs ih => exact ih

/-- A delivery is of the event, as it is read. -/
theorem decode_of_delivery {e : ε} {events : PdEvent} (h : delivery d s e = some (w, events)) :
    d.decode e = .watcher w events := by
  unfold delivery at h
  cases hdec : d.decode e with
  | skip =>
      rw [hdec] at h
      exact absurd h.symm (Option.some_ne_none _)
  | timer t =>
      rw [hdec] at h
      exact absurd h.symm (Option.some_ne_none _)
  | watcher v events' =>
      rw [hdec] at h
      dsimp only at h
      split_ifs at h
      obtain ⟨rfl, rfl⟩ := Prod.mk.inj (Option.some.inj h)
      rfl

/-- A call that does not end an active watcher keeps it active. -/
theorem exec_keeps_active {c : Call ω} (hx : s.heap w = some x) (hact : x.active = true)
    (hc : ¬c.Ends w) :
    ∃ y, (s.exec ops c).1.heap w = some y ∧ y.callback = x.callback ∧ y.active = true := by
  obtain ⟨y, hy, hcb, htrack⟩ : ∃ y, (s.exec ops c).1.heap w = some y ∧ y.callback = x.callback ∧
      (!y.active) = trackStop w (!x.active) (.called c (s.exec ops c).2) :=
    exec_kept hx fun heq => hc (.inr heq)
  refine ⟨y, hy, hcb, ?_⟩
  rw [hact, Bool.not_true] at htrack
  have hfalse : trackStop w false (.called c (s.exec ops c).2) = false := by
    cases c with
    | stop v =>
        have hne : v ≠ w := fun heq => hc (.inl (congrArg Call.stop heq))
        rw [World.exec, trackStop_stop, beq_false_of_ne hne, Bool.or_false, ite_self]
    | start v env =>
        rw [World.exec, trackStop_start, Bool.and_false, ite_self]
    | create fd events callback userData env =>
        rw [World.exec]
        cases (pdWatcherCreate ops s fd events callback userData env).2 with
        | none => rfl
        | some v => exact Bool.and_false _
    | createForHandle handle events callback userData env =>
        rw [World.exec]
        cases (pdWatcherCreateForHandle ops s handle events callback userData env).2 with
        | none => rfl
        | some v => exact Bool.and_false _
    | _ => rfl
  rwa [hfalse, Bool.not_eq_false'] at htrack

/-- The calls of a callback that does not end the watcher. -/
theorem runCalls_keeps_active {cs : List (Call ω)} (hx : s.heap w = some x)
    (hact : x.active = true) (hcs : ∀ c ∈ cs, ¬c.Ends w) :
    ∃ y, (runCalls ops s cs).1.heap w = some y ∧ y.callback = x.callback ∧ y.active = true := by
  induction cs generalizing s x with
  | nil => exact ⟨x, hx, rfl, hact⟩
  | cons c cs ih =>
      obtain ⟨y, hy, hcb, hyact⟩ :=
        exec_keeps_active ops hx hact (hcs c List.mem_cons_self)
      obtain ⟨z, hz, hcb', hzact⟩ := ih hy hyact fun c' hc' => hcs c' (List.mem_cons_of_mem c hc')
      exact ⟨z, hz, hcb'.trans hcb, hzact⟩

/-- A considerate callback leaves the events to come as they are: their watchers stay
active, and so do the callbacks that they are for. -/
theorem AllActive.runCalls {cs : List (Call ω)} (h : AllActive d s batch)
    (hcs : ∀ c ∈ cs, ∀ p ∈ batch, ∀ w events, d.decode p.1 = .watcher w events → ¬c.Ends w) :
    AllActive d (PollDancer.runCalls ops s cs).1 batch ∧
      ∀ p ∈ batch, delivery d (PollDancer.runCalls ops s cs).1 p.1 = delivery d s p.1 := by
  refine ⟨fun p hp v events hv => ?_, fun p hp => ?_⟩
  · obtain ⟨y, hy, hact⟩ := h p hp v events hv
    obtain ⟨z, hz, -, hzact⟩ := runCalls_keeps_active ops hy hact
      fun c hc => hcs c hc p hp v events hv
    exact ⟨z, hz, hzact⟩
  · cases hv : d.decode p.1 with
    | skip => rw [delivery, delivery, hv]
    | timer t => rw [delivery, delivery, hv]
    | watcher v events =>
        obtain ⟨y, hy, hact⟩ := h p hp v events hv
        obtain ⟨z, hz, hcb, -⟩ := runCalls_keeps_active ops hy hact
          fun c hc => hcs c hc p hp v events hv
        rw [delivery, delivery, hv]
        dsimp only
        rw [hy, hz, Option.any_some, Option.any_some, hcb]

/-- The calls before an event leave its watcher active. -/
theorem afterCalls_active {pre : List (ε × List (Call ω))} {s' : World κ δ}
    (hpre : ∀ p ∈ pre, ∀ c ∈ p.2, ¬c.Ends w) (hx : ActiveIn s' w) :
    ActiveIn (pre.foldl (fun s p =>
      let s := s.setSys (d.prepare s.sys p.1)
      if invokes d s₀ p.1 then (PollDancer.runCalls ops s p.2).1 else s) s') w := by
  induction pre generalizing s' with
  | nil => exact hx
  | cons p pre ih =>
      refine ih (fun q hq => hpre q (List.mem_cons_of_mem p hq)) ?_
      obtain ⟨y, hy, hact⟩ := hx
      dsimp only
      split_ifs
      · obtain ⟨z, hz, -, hzact⟩ := runCalls_keeps_active ops
          (s := s'.setSys (d.prepare s'.sys p.1)) hy hact (hpre p List.mem_cons_self)
        exact ⟨z, hz, hzact⟩
      · exact ⟨y, hy, hact⟩

/-- What comes before an event of a considerate batch does not end its watcher. -/
theorem Considerate.before {pre post : List (ε × List (Call ω))} {e : ε} {script : List (Call ω)}
    {events : PdEvent} (h : Considerate d (pre ++ (e, script) :: post))
    (hw : d.decode e = .watcher w events) : ∀ p ∈ pre, ∀ c ∈ p.2, ¬c.Ends w := by
  induction pre with
  | nil => exact fun p hp => absurd hp List.not_mem_nil
  | cons q pre ih =>
      obtain ⟨hfirst, hrest⟩ := h
      intro p hp c hc
      rcases List.mem_cons.1 hp with rfl | hp
      · exact hfirst c hc (e, script) (List.mem_append_right _ List.mem_cons_self) w events hw
      · exact ih hrest p hp c hc

/-- Considerate callbacks leave the events undisturbed. -/
theorem Considerate.undisturbed (h : Considerate d batch) (hact : AllActive d s batch) :
    Undisturbed ops d s batch := by
  rintro pre e script post w events rfl hw
  have hbefore := h.before hw
  obtain ⟨x, hx, hxact⟩ := hact (e, script) (List.mem_append_right _ List.mem_cons_self) w events hw
  refine ⟨x, hx, fun hmem => ?_, fun _ => afterCalls_active ops hbefore ⟨x, hx, hxact⟩⟩
  obtain ⟨p, hp, hc⟩ := List.mem_flatMap.1 hmem
  split_ifs at hc
  · exact hbefore p hp _ hc (.inr rfl)
  · exact absurd hc List.not_mem_nil

/-- **A considerate batch of events of active watchers is dispatched safely, and invokes
exactly the callbacks that its events are for, in their order.** -/
theorem dispatchBatch_delivers (h : Considerate d batch) (hact : AllActive d s batch) :
    Safe s [] (dispatchBatch ops d s batch).2 ∧
      invoked (dispatchBatch ops d s batch).2 = batch.filterMap fun p => delivery d s p.1 := by
  refine ⟨(dispatchBatch_safe_iff ops d s batch).2 (h.undisturbed ops hact), ?_⟩
  induction batch generalizing s with
  | nil => rfl
  | cons p batch ih =>
      obtain ⟨e, script⟩ := p
      obtain ⟨hfirst, hrest⟩ := h
      have htail : AllActive d s batch := fun p hp => hact p (List.mem_cons_of_mem _ hp)
      -- the loop's own steps do not touch the watchers
      have hset : ∀ k, AllActive d (s.setSys k) batch := fun _ => htail
      rw [dispatchBatch, List.filterMap_cons]
      cases hdec : d.decode e with
      | skip =>
          have hnone : delivery d s e = none := by rw [delivery, hdec]
          rw [hnone]
          exact ih hrest (hset _)
      | timer t =>
          have hnone : delivery d s e = none := by rw [delivery, hdec]
          obtain ⟨hnext, hsame⟩ := (hset (d.prepare s.sys e)).runCalls ops hfirst
          dsimp only
          rw [hnone, invoked_append, invoked_runCalls, List.nil_append, ih hrest hnext]
          exact List.filterMap_congr hsame
      | watcher w events =>
          obtain ⟨x, hx, -⟩ := hact (e, script) List.mem_cons_self w events hdec
          rw [delivery, hdec]
          dsimp only
          rw [World.setSys_heap, hx, Option.any_some]
          dsimp only
          cases hcall : x.callback with
          | none => exact ih hrest (hset _)
          | some f =>
              obtain ⟨hnext, hsame⟩ := (hset (d.prepare s.sys e)).runCalls ops hfirst
              have htrace := invoked_append (runCalls ops (s.setSys (d.prepare s.sys e)) script).2
                (dispatchBatch ops d (runCalls ops (s.setSys (d.prepare s.sys e)) script).1 batch).2
              rw [invoked_runCalls, List.nil_append, ih hrest hnext] at htrace
              refine congrArg ((w, events) :: ·) (htrace.trans ?_)
              exact List.filterMap_congr hsame

theorem CallsKeep.invariant {P : World κ δ → Call ω → Prop} {I : World κ δ → Prop}
    {cs : List (Call ω)} (h : CallsKeep ops P s cs) (hs : I s)
    (hcall : ∀ s c, I s → P s c → I (s.exec ops c).1) : I (runCalls ops s cs).1 := by
  induction cs generalizing s with
  | nil => exact hs
  | cons c cs ih =>
      obtain ⟨hc, hrest⟩ := h
      exact ih hrest (hcall s c hs hc)

/-- **The rule for batches**: what the loop's own steps and the calls of the callbacks keep,
the dispatch of a considerate batch keeps.  The invariant may depend on the events that are
still to come. -/
theorem BatchKeeps.invariant {P : World κ δ → Call ω → Prop} {I : World κ δ → List ε → Prop}
    (h : BatchKeeps ops d P s batch) (hc : Considerate d batch) (hact : AllActive d s batch)
    (hs : I s (batch.map Prod.fst))
    (hprepare : ∀ s e es, I s (e :: es) → I (s.setSys (d.prepare s.sys e)) es)
    (hcall : ∀ s es c, I s es → P s c → I (s.exec ops c).1 es) :
    I (dispatchBatch ops d s batch).1 [] := by
  induction batch generalizing s with
  | nil => exact hs
  | cons p batch ih =>
      obtain ⟨e, script⟩ := p
      obtain ⟨hfirst, hrest⟩ := hc
      have htail : AllActive d (s.setSys (d.prepare s.sys e)) batch :=
        fun p hp => hact p (List.mem_cons_of_mem _ hp)
      have hs' := hprepare s e _ hs
      -- if the event invokes a callback, its calls come next
      have hrun : invokes d (s.setSys (d.prepare s.sys e)) e = true →
          I (dispatchBatch ops d (runCalls ops (s.setSys (d.prepare s.sys e)) script).1 batch).1
            [] := by
        intro hyes
        rw [BatchKeeps, if_pos hyes] at h
        obtain ⟨hscript, h⟩ := h
        exact ih h hrest (htail.runCalls ops hfirst).1
          (hscript.invariant ops (I := (I · (batch.map Prod.fst))) hs'
            fun s c hI hP => hcall s _ c hI hP)
      have hskip : invokes d (s.setSys (d.prepare s.sys e)) e = false →
          I (dispatchBatch ops d (s.setSys (d.prepare s.sys e)) batch).1 [] := by
        intro hno
        rw [BatchKeeps, hno, if_neg Bool.false_ne_true] at h
        exact ih h hrest htail hs'
      rw [dispatchBatch]
      cases hdec : d.decode e with
      | skip => exact hskip (by rw [invokes, hdec])
      | timer t => exact hrun (by rw [invokes, hdec])
      | watcher w events =>
          obtain ⟨x, hx, -⟩ := hact (e, script) List.mem_cons_self w events hdec
          have hinv : invokes d (s.setSys (d.prepare s.sys e)) e = x.callback.isSome :=
            invokes_watcher hdec hx
          dsimp only
          rw [World.setSys_heap, hx]
          dsimp only
          cases hcall' : x.callback with
          | none => exact hskip (hinv.trans (by rw [hcall']; rfl))
          | some f => exact hrun (hinv.trans (by rw [hcall']; rfl))

/-- Callbacks that keep to their own watchers are considerate where no watcher has two events
in the batch. -/
theorem OwnOnly.considerate (h : OwnOnly d batch)
    (hone : batch.Pairwise fun p q => ∀ w events events', d.decode p.1 = .watcher w events →
      d.decode q.1 = .watcher w events' → ∀ c ∈ p.2, ¬c.Ends w) : Considerate d batch := by
  induction batch with
  | nil => trivial
  | cons p batch ih =>
      obtain ⟨hfirst, hrest⟩ := List.pairwise_cons.1 hone
      refine ⟨fun c hc q hq w events hq' hend => ?_,
        ih (fun q hq => h q (List.mem_cons_of_mem p hq)) hrest⟩
      obtain ⟨events', hp'⟩ := h p List.mem_cons_self c hc w hend
      exact hfirst q hq w events' events hp' hq' c hc hend

end
end PollDancer
