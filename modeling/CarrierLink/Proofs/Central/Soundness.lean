import CarrierLink.Proofs.Central.Tasks

/-!
# The tasks of a central fit together

What a task remembers of the central is right at the time (`CarrierLink.Task.Fits`), and what
one task does for its session the others can live with (`CarrierLink.Task.Fits.change`),
provided that no session has two connect cycles. This module makes an invariant of the two
(`CarrierLink.System.Sound`).

`CarrierLink.System.Sound.step` is the step lemma that the laws of a central are read off.
Besides the invariant it says what the step has done (`CarrierLink.System.Effect`):
either it is work for some session, and then a `CarrierLink.Change` for that session, or it
is a request, which tells the observer nothing but statuses and at most keeps a value of the
session that it belongs to. The last section is the invariant along whole histories
(`CarrierLink.System.sound_of_leads`).
-/

namespace CarrierLink

namespace System

/-! ### The whole system -/

/-- **A system that is in order.** -/
structure Sound (s : System) : Prop where
  coherent : s.central.Coherent
  fits : ∀ (number : Nat) (task : Task), s.tasks[number]? = some task → task.Fits s.central
  /-- A session has one connect cycle. -/
  alone : ∀ (number₁ number₂ : Nat) (task₁ task₂ : Task) (session : Nat),
    s.tasks[number₁]? = some task₁ → s.tasks[number₂]? = some task₂ →
    task₁.attempt? = some session → task₂.attempt? = some session → number₁ = number₂

/-- **What a step does** to the central, and what it tells the observer. -/
inductive Effect (s : System) (action : Action) : List Callback → Central → Prop
  /-- Work for the session that the action is for. -/
  | work {session : Nat} {own : Bool} {callbacks : List Callback} {c' : Central}
      (hcycle : s.cycle? action = some session)
      (hattempt : own = true → s.attempt? action = some session)
      (hclosing : own = false → callbacks = Callback.teardown →
        s.closing? action = some session)
      (hchange : Change session s.central own callbacks c') : Effect s action callbacks c'
  /-- The conclusion of a request. -/
  | request {transfer : Transfer} {callbacks : List Callback} {c' : Central}
      (hcycle : s.cycle? action = none) (htransfer : s.transfer? action = some transfer)
      (hchange : Change transfer.session s.central false [] c')
      (hstatus : ∀ callback ∈ callbacks, callback.isStatus) : Effect s action callbacks c'
  /-- Nothing but statuses. -/
  | word {callbacks : List Callback} (hcycle : s.cycle? action = none)
      (hstatus : ∀ callback ∈ callbacks, callback.isStatus) :
      Effect s action callbacks s.central

variable {s t : System} {c' : Central} {task task' : Task} {number session : Nat} {own : Bool}
  {callbacks : List Callback}

theorem sound_initial (profile : Profile) : (initial profile).Sound where
  coherent := Central.coherent_new profile
  fits := fun _ _ h => absurd h (by simp [initial])
  alone := fun _ _ _ _ _ h => absurd h (by simp [initial])

theorem eq_of_getElem?_set {tasks : List Task} {number' : Nat} {task₁ : Task}
    (h : (tasks.set number task')[number']? = some task₁) :
    number' = number ∧ task₁ = task' ∨ number' ≠ number ∧ tasks[number']? = some task₁ := by
  rw [List.getElem?_set] at h
  split at h
  next heq =>
    split at h
    · exact .inl ⟨heq.symm, (Option.some.inj h).symm⟩
    · exact absurd h (by simp)
  next hne => exact .inr ⟨Ne.symm hne, h⟩

theorem eq_of_getElem?_concat {tasks : List Task} {number' : Nat} {task₁ : Task}
    (h : (tasks ++ [task'])[number']? = some task₁) :
    number' = tasks.length ∧ task₁ = task' ∨ tasks[number']? = some task₁ := by
  rw [List.getElem?_append] at h
  split at h
  · exact .inr h
  next hle =>
    rw [List.getElem?_singleton] at h
    split at h
    next hzero => exact .inl ⟨by omega, (Option.some.inj h).symm⟩
    next => exact absurd h (by simp)

/-- Whoever takes a turn, the others stay in order. -/
theorem Sound.turn (hs : s.Sound) (htask : s.tasks[number]? = some task)
    (hchange : Change session s.central own callbacks c')
    (hown : own = true → task.attempt? = some session) (hfits : task'.Fits c')
    (hstays : ∀ session', task'.attempt? = some session' → task.attempt? = some session') :
    Sound ⟨c', s.tasks.set number task'⟩ := by
  refine ⟨hchange.coherent hs.coherent, ?_, ?_⟩
  · intro number₁ task₁ htask₁
    rcases eq_of_getElem?_set htask₁ with ⟨-, rfl⟩ | ⟨hne, htask₁⟩
    · exact hfits
    · -- Only the cycle of its own session could disturb it, and a session has one cycle.
      refine (hs.fits number₁ task₁ htask₁).change hchange fun h stage hwork => hne ?_
      exact hs.alone _ _ _ _ session htask₁ htask (Task.attempt?_eq_some.mpr ⟨stage, hwork⟩)
        (hown h)
  · intro number₁ number₂ task₁ task₂ session' htask₁ htask₂ h₁ h₂
    rcases eq_of_getElem?_set htask₁ with ⟨rfl, rfl⟩ | ⟨-, hother₁⟩ <;>
      rcases eq_of_getElem?_set htask₂ with ⟨rfl, rfl⟩ | ⟨-, hother₂⟩
    · rfl
    · exact hs.alone _ _ _ _ session' htask hother₂ (hstays session' h₁) h₂
    · exact hs.alone _ _ _ _ session' hother₁ htask h₁ (hstays session' h₂)
    · exact hs.alone _ _ _ _ session' hother₁ hother₂ h₁ h₂

/-- A task that is new has a session that is new, if it has one. -/
theorem Sound.start (hs : s.Sound) (hchange : Change session s.central own callbacks c')
    (hown : own = true → s.central.sessions < session) (hfits : task'.Fits c')
    (hnew : ∀ session', task'.attempt? = some session' → s.central.sessions < session') :
    Sound ⟨c', s.tasks ++ [task']⟩ := by
  -- The tasks that are there already only know of sessions that have begun.
  have hold (number₁ : Nat) (task₁ : Task) (htask₁ : s.tasks[number₁]? = some task₁)
      (session' : Nat) (hattempt : task₁.attempt? = some session') :
      session' ≤ s.central.sessions := by
    obtain ⟨stage, hwork⟩ := Task.attempt?_eq_some.mp hattempt
    have hfits₁ := hs.fits number₁ task₁ htask₁
    simp only [Task.Fits, hwork] at hfits₁
    exact hfits₁.2.1
  refine ⟨hchange.coherent hs.coherent, ?_, ?_⟩
  · intro number₁ task₁ htask₁
    rcases eq_of_getElem?_concat htask₁ with ⟨-, rfl⟩ | htask₁
    · exact hfits
    · refine (hs.fits number₁ task₁ htask₁).change hchange fun h stage hwork => ?_
      have hbegun := hold number₁ task₁ htask₁ session
        (Task.attempt?_eq_some.mpr ⟨stage, hwork⟩)
      have hfresh := hown h
      omega
  · intro number₁ number₂ task₁ task₂ session' htask₁ htask₂ h₁ h₂
    rcases eq_of_getElem?_concat htask₁ with ⟨rfl, rfl⟩ | hother₁ <;>
      rcases eq_of_getElem?_concat htask₂ with ⟨rfl, rfl⟩ | hother₂
    · rfl
    · have hbegun := hold _ _ hother₂ session' h₂
      have hfresh := hnew session' h₁
      omega
    · have hbegun := hold _ _ hother₁ session' h₁
      have hfresh := hnew session' h₂
      omega
    · exact hs.alone _ _ _ _ session' hother₁ hother₂ h₁ h₂

/-- A pump that runs is that of the live session. -/
theorem Sound.live_of_hasPump (hs : s.Sound) (h : s.hasPump session) :
    s.central.connection.session = some session := by
  obtain ⟨pump, hmem, hsession⟩ := List.any_eq_true.mp h
  rw [hs.coherent.live_of_mem_pumps hmem, beq_iff_eq.mp hsession]

/-- **What the pump of a session does with an event.** -/
theorem Sound.push {event : LinkEvent} {now : List (Actor × Event)} (hs : s.Sound)
    (h : s.step (.push session event) = some (t, now)) :
    t.Sound ∧ Change session s.central false (callbacksIn now) t.central ∧
      (callbacksIn now = Callback.teardown → event = .disconnected) := by
  obtain ⟨hpump, rfl, hcallbacks, -⟩ := step_push h
  have hlive := hs.live_of_hasPump hpump
  obtain ⟨hchange, hteardown⟩ := hs.coherent.receive_change hlive event
  rw [hcallbacks]
  refine ⟨⟨hchange.coherent hs.coherent, fun number task htask => ?_, hs.alone⟩, hchange,
    hteardown⟩
  exact (hs.fits number task htask).change hchange (by simp)

/-- Closing a connection is work for the session that it is closed for. -/
theorem Sound.hangUp (hs : s.Sound) (action : Action) (closed : Option Nat)
    (hcycle : s.cycle? action = closed) (hclosing : s.closing? action = closed) :
    (∃ session, Change session s.central false (CarrierLink.hangUp s.central closed).callbacks
      (CarrierLink.hangUp s.central closed).central) ∧
      s.Effect action (CarrierLink.hangUp s.central closed).callbacks
        (CarrierLink.hangUp s.central closed).central := by
  cases closed with
  | none =>
    exact ⟨⟨0, .rests (by simp [CarrierLink.hangUp])⟩,
      .word hcycle (by simp [CarrierLink.hangUp])⟩
  | some session =>
    have hchange := hs.coherent.close_change session
    exact ⟨⟨session, hchange⟩, .work hcycle (by simp) (fun _ _ => hclosing) hchange⟩

/-- **The first turn of an operation** begins a session, closes one, or does neither. -/
theorem Sound.change_of_start (hs : s.Sound) (operation : Operation) :
    ∃ session own said,
      Change session s.central own said (Task.start s.central operation).central ∧
      (own = true → s.central.sessions < session) ∧
      (Task.start s.central operation).task.Fits (Task.start s.central operation).central ∧
      s.Effect (.start operation) (Task.start s.central operation).callbacks
        (Task.start s.central operation).central := by
  have hc := hs.coherent
  have hrests : Change 0 s.central false [] s.central := .rests (by simp)
  cases operation with
  | connect =>
    simp only [Task.start]
    split
    next session c' hopen =>
      obtain ⟨hphase, hsession, -⟩ := Change.openSession_eq hopen
      have hchange : Change session s.central true [] c' := .opens hopen
      have hcycle : s.cycle? (.start .connect) = some session := by
        rw [cycle?, if_pos hphase, hsession]
      refine ⟨session, true, [], hchange, fun _ => by omega, ?_,
        .work hcycle (fun _ => hcycle) (by simp) hchange⟩
      obtain ⟨-, rfl, rfl⟩ := Change.openSession_eq hopen
      have hlink : s.central.connection.link = none := by
        rw [hc.idle (hc.phase_eq_iff.mp hphase)]
      refine ⟨Nat.succ_pos _, Nat.le_refl _, fun _ => ⟨rfl, hlink⟩, ?_⟩
      simp [Stage.Awaits, Stage.isOpen, Task.asking, Task.unanswered, Call.isDisconnect]
    next e hbusy =>
      have hphase : s.central.connection.phase ≠ .disconnected := by
        intro hphase
        simp [Central.openSession, hphase] at hbusy
      have hcycle : s.cycle? (.start .connect) = none := by
        rw [cycle?, if_neg hphase]
      exact ⟨0, false, [], hrests, by simp, rfl, .word hcycle (by simp)⟩
  | disconnect =>
    simp only [Task.start]
    split
    next link hlink =>
      cases hlive : s.central.connection.session with
      | none =>
        rw [hc.idle hlive] at hlink
        exact absurd hlink (by simp)
      | some session =>
        have hrests' : Change session s.central false [] s.central := .rests (by simp)
        refine ⟨session, false, [], hrests', by simp, ?_,
          .work hlive (by simp) (fun _ _ => hlive) hrests'⟩
        rintro session' hsession
        obtain rfl := Option.some.inj hsession
        exact ⟨(hc.newest session hlive).1, Nat.le_of_eq (hc.newest session hlive).2⟩
    next =>
      obtain ⟨⟨session, hchange⟩, heffect⟩ :=
        hs.hangUp (.start .disconnect) s.central.connection.session rfl rfl
      exact ⟨session, false, _, hchange, by simp, rfl, heffect⟩
  | run script =>
    have hscript := script.ofScript_run hc
    simp only [Task.start, hscript.central]
    exact ⟨0, false, [], hrests, by simp, hscript.fits, .word rfl hscript.callbacks⟩

theorem Sound.begin {operation : Operation} {now : List (Actor × Event)} (hs : s.Sound)
    (h : s.step (.start operation) = some (t, now)) :
    t.Sound ∧ s.Effect (.start operation) (callbacksIn now) t.central := by
  obtain ⟨rfl, hcallbacks, -⟩ := step_start h
  obtain ⟨session, own, said, hchange, hown, hfits, heffect⟩ := hs.change_of_start operation
  rw [hcallbacks]
  exact ⟨hs.start hchange hown hfits fun _ => Task.sessions_lt_of_start hs.coherent, heffect⟩

theorem Sound.send {now : List (Actor × Event)} (hs : s.Sound)
    (h : s.step (.send number) = some (t, now)) :
    t.Sound ∧ s.Effect (.send number) (callbacksIn now) t.central := by
  obtain ⟨task, ticket, queued, htask, hqueued, rfl, rfl⟩ := step_send h
  have hrests (session : Nat) : Change session s.central false [] s.central :=
    .rests (by simp)
  refine ⟨hs.turn htask (hrests 0) (by simp) ?_ (fun _ hattempt => hattempt), ?_⟩
  · refine (hs.fits number task htask).of_perm rfl ?_
    simp only [Task.unanswered, hqueued, List.cons_append, ← List.append_assoc]
    exact List.perm_append_singleton ticket (queued ++ task.sent)
  · cases hcycle : s.cycle? (.send number) with
    | none => exact .word hcycle (by simp)
    | some session => exact .work hcycle (by simp) (by simp [Callback.teardown]) (hrests session)

theorem Sound.reply {slot : Nat} {reply : Reply} {now : List (Actor × Event)} (hs : s.Sound)
    (h : s.step (.reply number slot reply) = some (t, now)) :
    t.Sound ∧ s.Effect (.reply number slot reply) (callbacksIn now) t.central := by
  obtain ⟨task, turn, htask, hturn, rfl, hcallbacks, -⟩ := step_reply h
  rw [hcallbacks]
  have hanswered := Task.answered_of_answer hs.coherent (hs.fits number task htask) hturn
  have hstays (session' : Nat) (h : turn.task.attempt? = some session') := hanswered.attempt? h
  cases hanswered with
  | attempt hattempt hchange hfits =>
    refine ⟨hs.turn htask hchange (fun _ => hattempt) hfits hstays, .work ?_ (fun _ => ?_)
      (by simp) hchange⟩
    · simpa [cycle?, htask] using Task.cycle?_of_attempt? hattempt
    · simpa [attempt?, htask] using hattempt
  | @hangUp closed hwork =>
    obtain ⟨⟨session, hchange⟩, heffect⟩ := hs.hangUp (.reply number slot reply) closed
      (by simp [cycle?, htask, Task.cycle?, hwork]) (by simp [closing?, htask, hwork])
    exact ⟨hs.turn htask hchange (by simp) rfl hstays, heffect⟩
  | request htransfer hrequest hchange hscript =>
    have hcentral := hscript.central
    subst hcentral
    refine ⟨hs.turn htask hchange (by simp) hscript.fits hstays, .request ?_ ?_ hchange
      hscript.callbacks⟩
    · simpa [cycle?, htask] using hrequest
    · simpa [transfer?, htask] using htransfer

/-- **Every step keeps a system in order, and does what it may.** -/
theorem Sound.step {action : Action} {now : List (Actor × Event)} (hs : s.Sound)
    (h : s.step action = some (t, now)) :
    t.Sound ∧ s.Effect action (callbacksIn now) t.central := by
  cases action with
  | start operation => exact hs.begin h
  | send number => exact hs.send h
  | reply number slot reply => exact hs.reply h
  | push session event =>
    obtain ⟨hsound, hchange, hteardown⟩ := hs.push h
    refine ⟨hsound, .work rfl (by simp) (fun _ hcallbacks => ?_) hchange⟩
    rw [hteardown hcallbacks]
    rfl
  | endOfStream session =>
    obtain ⟨hsound, hchange, -⟩ := hs.push (step_endOfStream h)
    exact ⟨hsound, .work rfl (by simp) (fun _ _ => rfl) hchange⟩

/-- A session that something is done for has begun, unless this is its beginning. -/
theorem Sound.begun {action : Action} {now : List (Actor × Event)} (hs : s.Sound)
    (h : s.step action = some (t, now)) (hcycle : s.cycle? action = some session) :
    action = .start .connect ∨ 0 < session ∧ session ≤ s.central.sessions := by
  have htask (number : Nat) (h : s.tasks[number]?.bind Task.cycle? = some session) :
      0 < session ∧ session ≤ s.central.sessions := by
    obtain ⟨task, htask, hsession⟩ := Option.bind_eq_some_iff.mp h
    have hfits := hs.fits number task htask
    cases hwork : task.work with
    | attempt session' stage =>
      obtain rfl : session' = session := by simpa [Task.cycle?, hwork] using hsession
      simp only [Task.Fits, hwork] at hfits
      exact ⟨hfits.1, hfits.2.1⟩
    | hangUp closed =>
      simp only [Task.Fits, hwork] at hfits
      exact hfits session (by simpa [Task.cycle?, hwork] using hsession)
    | _ => simp [Task.cycle?, hwork] at hsession
  have hpump (hpump : s.hasPump session = true) :
      0 < session ∧ session ≤ s.central.sessions := by
    obtain ⟨hpos, hnewest⟩ := hs.coherent.newest session (hs.live_of_hasPump hpump)
    exact ⟨hpos, Nat.le_of_eq hnewest⟩
  cases action with
  | start operation =>
    cases operation with
    | connect => exact .inl rfl
    | disconnect =>
      obtain ⟨hpos, hnewest⟩ := hs.coherent.newest session hcycle
      exact .inr ⟨hpos, Nat.le_of_eq hnewest⟩
    | run script => exact absurd hcycle (by simp [cycle?])
  | send number => exact .inr (htask number hcycle)
  | reply number slot reply => exact .inr (htask number hcycle)
  | push session' event =>
    obtain rfl : session' = session := Option.some.inj hcycle
    exact .inr (hpump (step_push h).1)
  | endOfStream session' =>
    obtain rfl : session' = session := Option.some.inj hcycle
    exact .inr (hpump (step_push (step_endOfStream h)).1)

/-- Only a connect begins a session. -/
theorem Sound.sessions_eq_of_step {action : Action} {now : List (Actor × Event)} (hs : s.Sound)
    (h : s.step action = some (t, now)) (haction : action ≠ .start .connect) :
    t.central.sessions = s.central.sessions := by
  have heffect := (hs.step h).2
  generalize t.central = c' at heffect ⊢
  cases heffect with
  | work hcycle _ _ hchange =>
    exact hchange.sessions_eq fun _ => ((hs.begun h hcycle).resolve_left haction).2
  | request _ _ hchange => exact hchange.sessions_eq (by simp)
  | word => rfl

/-- **No step makes a second connect cycle of a session** that has begun. -/
theorem Sound.attempt?_of_step {action : Action} {now : List (Actor × Event)} (hs : s.Sound)
    (h : s.step action = some (t, now)) (hbegun : session ≤ s.central.sessions)
    (htask : t.tasks[number]? = some task') (hattempt : task'.attempt? = some session) :
    ∃ task, s.tasks[number]? = some task ∧ task.attempt? = some session := by
  cases action with
  | start operation =>
    obtain ⟨rfl, -, -⟩ := step_start h
    rcases eq_of_getElem?_concat htask with ⟨-, rfl⟩ | htask
    · have hfresh := Task.sessions_lt_of_start hs.coherent hattempt
      omega
    · exact ⟨task', htask, hattempt⟩
  | send number' =>
    obtain ⟨task, ticket, queued, htask', -, rfl, -⟩ := step_send h
    rcases eq_of_getElem?_set htask with ⟨rfl, rfl⟩ | ⟨-, htask⟩
    · exact ⟨task, htask', hattempt⟩
    · exact ⟨task', htask, hattempt⟩
  | reply number' slot reply =>
    obtain ⟨task, turn, htask', hturn, rfl, -, -⟩ := step_reply h
    rcases eq_of_getElem?_set htask with ⟨rfl, rfl⟩ | ⟨-, htask⟩
    · have hanswered :=
        Task.answered_of_answer hs.coherent (hs.fits number task htask') hturn
      exact ⟨task, htask', hanswered.attempt? hattempt⟩
    · exact ⟨task', htask, hattempt⟩
  | push session' event =>
    obtain ⟨-, rfl, -, -⟩ := step_push h
    exact ⟨task', htask, hattempt⟩
  | endOfStream session' =>
    obtain ⟨-, rfl, -, -⟩ := step_push (step_endOfStream h)
    exact ⟨task', htask, hattempt⟩

/-! ### Histories -/

/-- Whatever a step does, the central changes as it may for some session. -/
theorem Effect.change {action : Action} (h : s.Effect action callbacks c') :
    ∃ session own said, Change session s.central own said c' := by
  cases h with
  | work _ _ _ hchange => exact ⟨_, _, _, hchange⟩
  | request _ _ hchange => exact ⟨_, _, _, hchange⟩
  | word => exact ⟨0, false, [], .rests (by simp)⟩

/-- What is done for a session changes the central for this session. -/
theorem Effect.change_of_cycle? {action : Action} (h : s.Effect action callbacks c')
    (hcycle : s.cycle? action = some session) :
    ∃ own, Change session s.central own callbacks c' ∧
      (own = true → s.attempt? action = some session) ∧
      (own = false → callbacks = Callback.teardown → s.closing? action = some session) := by
  cases h with
  | @work session' own _ _ hcycle' hattempt hclosing hchange =>
    obtain rfl : session' = session := Option.some.inj (hcycle'.symm.trans hcycle)
    exact ⟨own, hchange, hattempt, hclosing⟩
  | request hnone => exact absurd hcycle (by simp [hnone])
  | word hnone => exact absurd hcycle (by simp [hnone])

/-- What is done for no session in particular is not heard, but for a status perhaps. -/
theorem Effect.isStatus_of_cycle? {action : Action} (h : s.Effect action callbacks c')
    (hcycle : s.cycle? action = none) : ∀ callback ∈ callbacks, callback.isStatus := by
  cases h with
  | work hsome => exact absurd hcycle (by simp [hsome])
  | request _ _ _ hstatus => exact hstatus
  | word _ hstatus => exact hstatus

/-- **Whatever state a central can get into is in order.** -/
theorem sound_of_leads {profile : Profile} {ms : List Moment}
    (h : (initial profile).Leads ms s) : s.Sound :=
  h.invariant (fun _ _ _ _ hs hstep => (hs.step hstep).1) (sound_initial profile)

theorem profile_eq_of_leads {profile : Profile} {ms : List Moment}
    (h : (initial profile).Leads ms s) : s.central.profile = profile := by
  have hboth : s.Sound ∧ s.central.profile = profile := by
    refine h.invariant (P := fun s => s.Sound ∧ s.central.profile = profile)
      (fun s action t now hs hstep => ?_) ⟨sound_initial profile, rfl⟩
    obtain ⟨hsound, heffect⟩ := hs.1.step hstep
    obtain ⟨_, _, _, hchange⟩ := heffect.change
    exact ⟨hsound, hchange.profile_eq.trans hs.2⟩
  exact hboth.2

/-- A session that has begun has begun ever since. -/
theorem Sound.sessions_le_of_leads {later : List Moment} (hs : s.Sound) (h : s.Leads later t) :
    t.Sound ∧ s.central.sessions ≤ t.central.sessions := by
  refine h.invariant (P := fun t => t.Sound ∧ s.central.sessions ≤ t.central.sessions)
    (fun u action v now hu hstep => ?_) ⟨hs, Nat.le_refl _⟩
  obtain ⟨hsound, heffect⟩ := hu.1.step hstep
  obtain ⟨_, _, _, hchange⟩ := heffect.change
  exact ⟨hsound, Nat.le_trans hu.2 hchange.sessions_le⟩

/-- **A session that is over stays over.** -/
theorem Sound.hasEnded_of_leads {later : List Moment} (hs : s.Sound) (h : s.Leads later t)
    (hended : s.central.HasEnded session) : t.Sound ∧ t.central.HasEnded session := by
  refine h.invariant (P := fun s => s.Sound ∧ s.central.HasEnded session)
    (fun s action t now hs hstep => ?_) ⟨hs, hended⟩
  obtain ⟨hsound, heffect⟩ := hs.1.step hstep
  obtain ⟨_, _, _, hchange⟩ := heffect.change
  exact ⟨hsound, hchange.hasEnded hs.2⟩

end System

end CarrierLink
