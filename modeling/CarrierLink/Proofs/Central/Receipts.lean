import CarrierLink.Proofs.Central.FailedConnect

/-!
# What becomes of the requests of a script

A script asks for channels to be read and written, and goes on with the responses. A request
may fail its checks, and then its response is there at once and no call is made; otherwise it
is carried out by one call, and its response comes with the reply. The history of a system
tells of calls and replies only, so this module reads the responses off it.

A *receipt* (`CarrierLink.Receipt`) is a request with the way in which it was carried out, if
it was, and its response. `CarrierLink.receipts` are those of a task in a history, in the
order in which the responses came. What the task itself has told the observer meanwhile is
`CarrierLink.saidBy`, and the calls that it has made are `CarrierLink.made`; a step is one of
three things to a task, and `CarrierLink.System.concerns_of_step` says what each of them adds.

A law of scripts is proved on the task alone: it has to hold after the first turn, and each
call that is sent and each answer has to keep it (`CarrierLink.System.life_of_leads`).
-/

namespace CarrierLink

/-! ### Receipts -/

/-- The request that a transfer carries out. -/
def Transfer.request (t : Transfer) : Request :=
  match t.outgoing with
  | none => .read t.spec.channel
  | some (value, _) => .write t.spec.channel value

/-- The channel of a request. -/
def Request.channel : Request → Channel
  | read channel | write channel _ => channel

/-- **What became of a request.** -/
structure Receipt where
  request : Request
  /-- How it was carried out; nothing if it failed its checks. -/
  transfer : Option Transfer
  response : Response

/-- The receipt of a request that has failed its checks. -/
def Slot.refused (request : Request) : Slot → List Receipt
  | .settled response => [⟨request, none, response⟩]
  | .pending _ => []

/-- **The requests that fail their checks** while a script is worked off. -/
def Script.refused (c : Central) : Script → List Receipt
  | finish _ => []
  | report _ _ next => next.refused c
  | exchange request next =>
    match Transfer.check c request with
    | .ok _ => []
    | .error e => ⟨request, none, .error e⟩ :: (next (.error e)).refused c
  | exchangeBoth first second next =>
    (Slot.ofCheck (Transfer.check c first)).refused first ++
      (Slot.ofCheck (Transfer.check c second)).refused second ++
      match Slot.ofCheck (Transfer.check c first), Slot.ofCheck (Transfer.check c second) with
      | .settled r₁, .settled r₂ => (next r₁ r₂).refused c
      | _, _ => []

/-- The script that a task goes on with when the request in a slot has its response; nothing
while it waits for another. -/
def Task.rest? (t : Task) (slot : Nat) (response : Response) : Option Script :=
  match t.work with
  | .single _ next => some (next response)
  | .pair first second next =>
    match slot, first, second with
    | 0, .pending _, .settled r => some (next response r)
    | 1, .settled r, .pending _ => some (next r response)
    | _, _, _ => none
  | .attempt .. | .hangUp _ | .finished _ => none

/-- **The receipts that a reply brings**: that of the request which it concludes, and those of
the requests that fail their checks as the script goes on. -/
def Task.receipts (c : Central) (t : Task) (slot : Nat) (reply : Reply) : List Receipt :=
  match t.transfer? slot with
  | some transfer =>
    match transfer.conclude c reply with
    | some (c', response) =>
      ⟨transfer.request, some transfer, response⟩ ::
        ((t.rest? slot response).map (Script.refused c')).getD []
    | none => []
  | none => []

/-- The requests that fail their checks as soon as two others have both been answered. -/
def Slot.refusedAfter (c : Central) (first second : Slot)
    (next : Response → Response → Script) : List Receipt :=
  match first, second with
  | .settled r₁, .settled r₂ => (next r₁ r₂).refused c
  | _, _ => []

/-- Two requests at the same time are as two of which none has been answered yet. -/
theorem Script.exchangeBoth_eq (c : Central) (first second : Request)
    (next : Response → Response → Script) :
    let s₁ := Slot.ofCheck (Transfer.check c first)
    let s₂ := Slot.ofCheck (Transfer.check c second)
    (exchangeBoth first second next).run c =
        Slot.proceed c s₁ s₂ next ⟨.pair s₁ s₂ next, s₁.tickets 0 ++ s₂.tickets 1, []⟩ ∧
      (exchangeBoth first second next).refused c =
        s₁.refused first ++ s₂.refused second ++ Slot.refusedAfter c s₁ s₂ next := by
  intro s₁ s₂
  refine ⟨?_, by simp only [refused, Slot.refusedAfter, s₁, s₂]⟩
  simp only [run, Slot.proceed, s₁, s₂]
  split
  · rfl
  · rfl

section Answers

variable {c c' : Central} {t : Task} {slot : Nat} {reply : Reply} {turn : Turn}
  {transfer : Transfer} {response : Response} {next : Response → Response → Script}

/-- Only a call that has been sent is answered. -/
theorem Task.exists_sent_of_answer (h : t.answer c slot reply = some turn) :
    ∃ ticket ∈ t.sent, ticket.slot = slot := by
  rw [answer] at h
  split at h
  next hsent =>
    obtain ⟨ticket, hmem, hticket⟩ := List.any_eq_true.mp hsent
    rw [Bool.and_eq_true, beq_iff_eq] at hticket
    exact ⟨ticket, hmem, hticket.1⟩
  next => exact absurd h (by simp)

/-- A task that waits for one call has sent it when it is answered. -/
theorem Task.sole_of_answer {ticket : Ticket} (h : t.answer c slot reply = some turn)
    (hcalls : t.unanswered = [ticket]) : t.queued = [] ∧ t.sent = [ticket] := by
  obtain ⟨answered, hsent, -⟩ := exists_sent_of_answer h
  rw [unanswered, List.append_eq_singleton_iff] at hcalls
  rcases hcalls with hsole | ⟨-, hnone⟩
  · exact hsole
  · exact absurd (hnone ▸ hsent) List.not_mem_nil

/-- **The calls that are left** when one has been answered: those of the other slots. -/
theorem Task.unanswered_of_answer (h : t.answer c slot reply = some turn)
    (hslots : (t.unanswered.map Ticket.slot).Nodup) :
    Task.unanswered { t with sent := t.sent.filter fun ticket => ticket.slot != slot } =
      t.unanswered.filter fun ticket => ticket.slot != slot := by
  obtain ⟨answered, hanswered, hslot⟩ := exists_sent_of_answer h
  rw [unanswered, List.map_append] at hslots
  have hqueued : (t.queued.filter fun ticket => ticket.slot != slot) = t.queued := by
    refine List.filter_eq_self.mpr fun ticket hmem => ?_
    rw [bne_iff_ne, ← hslot]
    exact (List.nodup_append.mp hslots).2.2 _ (List.mem_map_of_mem hmem) _
      (List.mem_map_of_mem hanswered)
  rw [unanswered, unanswered, List.filter_append, hqueued]

theorem Task.receipts_of_conclude (htransfer : t.transfer? slot = some transfer)
    (h : transfer.conclude c reply = some (c', response)) :
    t.receipts c slot reply = ⟨transfer.request, some transfer, response⟩ ::
      ((t.rest? slot response).map (Script.refused c')).getD [] := by
  simp only [receipts, htransfer, h]

/-- **The answer to a single request**, which is the last of the task's calls. -/
theorem Task.single_of_answer {following : Response → Script}
    (hwork : t.work = .single transfer following) (hcalls : t.unanswered = [⟨0, transfer.call⟩])
    (h : t.answer c slot reply = some turn) :
    ∃ c' response, transfer.conclude c reply = some (c', response) ∧ t.queued = [] ∧
      turn = (following response).run c' ∧ t.receipts c slot reply =
        ⟨transfer.request, some transfer, response⟩ :: (following response).refused c' := by
  have hqueued := (sole_of_answer h hcalls).1
  simp only [answer, hwork, Option.ite_none_right_eq_some] at h
  obtain ⟨⟨c', response⟩, hconclude, rfl⟩ := Option.map_eq_some_iff.mp h.2
  refine ⟨c', response, hconclude, hqueued, rfl, ?_⟩
  rw [receipts_of_conclude (by simp [transfer?, hwork]) hconclude]
  simp [rest?, hwork]

/-- **The answer to one of two requests**, after which the other stands as before. -/
theorem Task.pair_of_answer {first second : Slot} (hwork : t.work = .pair first second next)
    (hcalls : t.unanswered.Perm (first.tickets 0 ++ second.tickets 1))
    (h : t.answer c slot reply = some turn) :
    ∃ transfer c' response first' second',
      transfer.conclude c reply = some (c', response) ∧
      (first = .pending transfer ∧ first' = .settled response ∧ second' = second ∨
        second = .pending transfer ∧ first' = first ∧ second' = .settled response) ∧
      t.receipts c slot reply = ⟨transfer.request, some transfer, response⟩ ::
        Slot.refusedAfter c' first' second' next ∧
      ∃ rest : Task, turn = Slot.proceed c' first' second' next rest ∧ rest.queued = t.queued ∧
        rest.unanswered.Perm (first'.tickets 0 ++ second'.tickets 1) := by
  have hslots : (t.unanswered.map Ticket.slot).Nodup := by
    refine (hcalls.map Ticket.slot).nodup_iff.mpr ?_
    cases first <;> cases second <;> simp [Slot.tickets]
  have hleft := hcalls.filter fun ticket => ticket.slot != slot
  rw [← unanswered_of_answer h hslots] at hleft
  simp only [answer, hwork, Option.ite_none_right_eq_some] at h
  obtain ⟨-, h⟩ := h
  split at h
  next transfer =>
    obtain ⟨⟨c', response⟩, hconclude, rfl⟩ := Option.map_eq_some_iff.mp h
    refine ⟨transfer, c', response, _, _, hconclude, .inl ⟨rfl, rfl, rfl⟩, ?_, _, rfl, rfl,
      hleft.trans (.of_eq ?_)⟩
    · rw [receipts_of_conclude (by simp [transfer?, hwork]) hconclude]
      cases second <;> simp [rest?, hwork, Slot.refusedAfter]
    · cases second <;> rfl
  next transfer =>
    obtain ⟨⟨c', response⟩, hconclude, rfl⟩ := Option.map_eq_some_iff.mp h
    refine ⟨transfer, c', response, _, _, hconclude, .inr ⟨rfl, rfl, rfl⟩, ?_, _, rfl, rfl,
      hleft.trans (.of_eq ?_)⟩
    · rw [receipts_of_conclude (by cases first <;> simp [transfer?, hwork]) hconclude]
      cases first <;> simp [rest?, hwork, Slot.refusedAfter]
    · cases first <;> rfl
  next => exact absurd h (by simp)

end Answers

/-- The receipts that a task gets at a moment. -/
def Moment.receipts (m : Moment) (number : Nat) : List Receipt :=
  match m.action with
  | .start (.run script) =>
    if m.before.tasks.length = number then script.refused m.before.central else []
  | .reply number' slot reply =>
    if number' = number then
      (m.before.tasks[number]?.map fun task => task.receipts m.before.central slot reply).getD []
    else []
  | .start _ | .send _ | .push .. | .endOfStream _ => []

/-- **The receipts of a task** in a history. -/
def receipts (ms : List Moment) (number : Nat) : List Receipt :=
  ms.flatMap fun m => m.receipts number

theorem receipts_snoc (past : List Moment) (m : Moment) (number : Nat) :
    receipts (past ++ [m]) number = receipts past number ++ m.receipts number := by
  simp [receipts]

/-! ### What a task says -/

/-- The callbacks of a task among all that could be seen, in order. -/
def saidIn (seen : List (Actor × Event)) (number : Nat) : List Callback :=
  seen.filterMap fun entry => if entry.1 = .task number then entry.2.callback? else none

/-- **What a task itself has told the observer** in a history. -/
def saidBy (ms : List Moment) (number : Nat) : List Callback :=
  saidIn (ms.flatMap Moment.seen) number

theorem saidBy_snoc (past : List Moment) (m : Moment) (number : Nat) :
    saidBy (past ++ [m]) number = saidBy past number ++ saidIn m.seen number := by
  simp [saidBy, saidIn]

theorem saidIn_callbacks (actor : Actor) (callbacks : List Callback) (number : Nat) :
    saidIn (callbacks.map fun callback => (actor, .callback callback)) number =
      if actor = .task number then callbacks else [] := by
  rw [saidIn, List.filterMap_map]
  split
  next h =>
    subst h
    simp [Function.comp_def, Event.callback?]
  next h => simp [h]

theorem saidIn_call (actor : Actor) (call : Call) (number : Nat) :
    saidIn [(actor, .call call)] number = [] := by
  simp [saidIn, Event.callback?]

namespace System

/-- The task that takes a turn with an action. -/
def turn? (s : System) : Action → Option Nat
  | .start _ => some s.tasks.length
  | .reply number _ _ => some number
  | .send _ | .push .. | .endOfStream _ => none

/-- A pump does not speak for a task. -/
theorem saidIn_of_afterPump {s t : System} {session : Nat} {result : Central × List Callback}
    {now : List (Actor × Event)} {p : Bool}
    (h : (if p then some (s.afterPump session result) else none) = some (t, now))
    (number : Nat) : saidIn now number = [] := by
  obtain ⟨-, h⟩ := Option.ite_none_right_eq_some.mp h
  simp only [afterPump, Option.some.injEq, Prod.mk.injEq] at h
  obtain ⟨-, rfl⟩ := h
  simp [saidIn_callbacks]

/-- **What a task says at a step**: what its own turn calls back, and nothing at the steps of
others. -/
theorem saidIn_of_step {s t : System} {action : Action} {now : List (Actor × Event)}
    (h : s.step action = some (t, now)) (number : Nat) :
    saidIn now number = if s.turn? action = some number then callbacksIn now else [] := by
  cases action with
  | start operation =>
    simp only [step, afterTurn] at h
    split at h
    · simp only [Option.some.injEq, Prod.mk.injEq] at h
      obtain ⟨-, rfl⟩ := h
      simp [saidIn_callbacks, turn?]
    · exact absurd h (by simp)
  | send number' =>
    obtain ⟨_, ticket, _, -, -, -, rfl⟩ := step_send h
    exact saidIn_call ..
  | reply number' slot reply =>
    simp only [step, Option.bind_eq_bind, Option.bind_eq_some_iff] at h
    obtain ⟨task, htask, h⟩ := h
    split at h
    · obtain ⟨turn, hturn, h⟩ := Option.bind_eq_some_iff.mp h
      simp only [afterTurn, Option.some.injEq, Prod.mk.injEq] at h
      obtain ⟨-, rfl⟩ := h
      simp [saidIn_callbacks, turn?]
    · exact absurd h (by simp)
  | push session event => exact saidIn_of_afterPump h number
  | endOfStream session => exact saidIn_of_afterPump h number

end System

/-- Only a turn of a task brings it receipts. -/
theorem Moment.receipts_of_turn? {m : Moment} {number : Nat}
    (h : m.before.turn? m.action ≠ some number) : m.receipts number = [] := by
  simp only [receipts]
  split
  next script haction =>
    rw [if_neg]
    rintro rfl
    simp [haction, System.turn?] at h
  next number' slot reply haction =>
    rw [if_neg]
    rintro rfl
    simp [haction, System.turn?] at h
  · rfl
  · rfl
  · rfl
  · rfl

/-- **What a moment is to a task** that is there. -/
inductive Moment.Concerns (m : Moment) (number : Nat) (task : Task) : Prop
  /-- It has nothing to do with the task. -/
  | idle (haction : m.action ≠ .send number) (htask : m.after.tasks[number]? = some task)
      (hmade : callsIn m.seen number = []) (hreceipts : m.receipts number = [])
      (hsaid : saidIn m.seen number = [])
  /-- The task sends a call. -/
  | sends {ticket : Ticket} {queued : List Ticket} (haction : m.action = .send number)
      (hqueued : task.queued = ticket :: queued)
      (htask : m.after.tasks[number]? =
        some { task with queued, sent := task.sent ++ [ticket] })
      (hseen : m.seen = [(.task number, .call ticket.call)])
      (hreceipts : m.receipts number = []) (hsaid : saidIn m.seen number = [])
  /-- A call of the task is answered. -/
  | answered {slot : Nat} {reply : Reply} {turn : Turn}
      (haction : m.action = .reply number slot reply)
      (hturn : task.answer m.before.central slot reply = some turn)
      (htask : m.after.tasks[number]? = some turn.task)
      (hcentral : m.after.central = turn.central) (hmade : callsIn m.seen number = [])
      (hreceipts : m.receipts number = task.receipts m.before.central slot reply)
      (hsaid : saidIn m.seen number = turn.callbacks)

namespace System

variable {m : Moment} {number : Nat} {task : Task}

theorem concerns_of_step (hstep : m.before.step m.action = some (m.after, m.seen))
    (htask : m.before.tasks[number]? = some task) : m.Concerns number task := by
  have hlt : number < m.before.tasks.length := (List.getElem?_eq_some_iff.mp htask).1
  have hsaid := saidIn_of_step hstep number
  rcases step_task hstep htask with ⟨htask', hmade, hsend, hreply⟩ |
    ⟨haction, ticket, queued, hqueued, htask', -, hseen⟩ |
    ⟨slot, reply, turn, haction, hturn, htask', hcentral, hcallbacks, hmade⟩
  · -- It is not the turn of the task, since neither is it new nor has it an answer.
    have hturn : m.before.turn? m.action ≠ some number := by
      intro h
      cases haction : m.action with
      | start operation =>
        rw [haction] at h
        have hlength := Option.some.inj h
        omega
      | reply number' slot reply =>
        rw [haction] at h
        exact hreply slot reply (haction.trans (by rw [Option.some.inj h]))
      | _ => simp [haction, turn?] at h
    exact .idle hsend htask' hmade (Moment.receipts_of_turn? hturn) (by rw [hsaid, if_neg hturn])
  · have hturn : m.before.turn? m.action ≠ some number := by simp [haction, turn?]
    exact .sends haction hqueued htask' hseen (Moment.receipts_of_turn? hturn)
      (by rw [hsaid, if_neg hturn])
  · refine .answered haction hturn htask' hcentral hmade ?_ ?_
    · simp [Moment.receipts, haction, htask]
    · rw [hsaid, if_pos (by simp [haction, turn?]), hcallbacks]

/-- A call of a task that can be seen is one of its calls. -/
theorem mem_callsIn {seen : List (Actor × Event)} {call : Call}
    (h : (.task number, .call call) ∈ seen) : call ∈ callsIn seen number :=
  List.mem_filterMap.mpr ⟨_, h, by simp [Event.call?]⟩

/-- **A call of a task that is there** is the one that it sends, for the request in its
slot. -/
theorem queued_of_call (hstep : m.before.step m.action = some (m.after, m.seen))
    (htask : m.before.tasks[number]? = some task) {call : Call}
    (hcall : (.task number, .call call) ∈ m.seen) :
    ∃ ticket queued, task.queued = ticket :: queued ∧ call = ticket.call ∧
      m.before.transfer? m.action = task.transfer? ticket.slot := by
  cases concerns_of_step hstep htask with
  | idle _ _ hmade => exact absurd (hmade ▸ mem_callsIn hcall) List.not_mem_nil
  | @sends ticket queued haction hqueued _ hseen =>
    rw [hseen, List.mem_singleton] at hcall
    refine ⟨ticket, queued, hqueued, Event.call.inj (Prod.mk.inj hcall).2, ?_⟩
    simp [haction, transfer?, htask, hqueued]
  | answered _ _ _ _ hmade => exact absurd (hmade ▸ mem_callsIn hcall) List.not_mem_nil

/-! ### The life of a script -/

/-- What a task does at its first turn, when it has a script. -/
theorem start_of_step {script : Script}
    (hstep : m.before.step m.action = some (m.after, m.seen))
    (hbegins : m.Begins number (.run script)) :
    m.after.tasks[number]? = some (script.run m.before.central).task ∧
      receipts [m] number = script.refused m.before.central ∧ made [m] number = [] ∧
      saidBy [m] number = (script.run m.before.central).callbacks := by
  obtain ⟨haction, hnumber⟩ := hbegins
  have hsaid := saidIn_of_step hstep number
  rw [haction] at hstep hsaid
  obtain ⟨hafter, hcallbacks, hcalls⟩ := step_start hstep
  refine ⟨by simp [hafter, Task.start, ← hnumber], ?_, ?_, ?_⟩
  · simp [receipts, Moment.receipts, haction, hnumber]
  · simpa [made] using hcalls number
  · simpa [saidBy, turn?, hnumber, hcallbacks, Task.start] using hsaid

/-- **What holds of a script from its first turn on.** A property of a task, of its receipts,
of the calls that it has made and of what it has said holds in every history if it holds after
the first turn, and is kept when the task sends a call and when it gets an answer. -/
theorem life_of_leads {profile : Profile} {script : Script}
    {P : List Receipt → List Call → List Callback → Task → Prop}
    (start : ∀ c : Central, c.Coherent → c.profile = profile →
      P (script.refused c) [] (script.run c).callbacks (script.run c).task)
    (send : ∀ rs calls said task ticket queued, P rs calls said task →
      task.queued = ticket :: queued →
      P rs (calls ++ [ticket.call]) said { task with queued, sent := task.sent ++ [ticket] })
    (answer : ∀ rs calls said task c slot reply turn, P rs calls said task → c.Coherent →
      c.profile = profile → task.Fits c → task.answer c slot reply = some turn →
      P (rs ++ task.receipts c slot reply) calls (said ++ turn.callbacks) turn.task)
    {earlier later : List Moment} {s : System}
    (h : (initial profile).Leads (earlier ++ m :: later) s)
    (hbegins : m.Begins number (.run script)) :
    ∃ task, s.tasks[number]? = some task ∧ P (receipts (m :: later) number)
      (made (m :: later) number) (saidBy (m :: later) number) task := by
  obtain ⟨hearlier, hstep, hlater⟩ := h.split
  have hs := sound_of_leads hearlier
  refine hlater.induction (motive := fun later s => ∃ task, s.tasks[number]? = some task ∧
    P (receipts (m :: later) number) (made (m :: later) number) (saidBy (m :: later) number)
      task) ?_ fun past m' hpast hstep' ih => ?_
  · obtain ⟨htask, hreceipts, hmade, hsaid⟩ := start_of_step hstep hbegins
    rw [hreceipts, hmade, hsaid]
    exact ⟨_, htask, start _ hs.coherent (profile_eq_of_leads hearlier)⟩
  · -- The history up to here begins where the whole one does.
    have hleads : (initial profile).Leads (earlier ++ m :: past) m'.before :=
      leads_append.mpr ⟨m.before, hearlier, rfl, hstep, hpast⟩
    have hs' := sound_of_leads hleads
    obtain ⟨task, htask, hP⟩ := ih
    have hreceipts := receipts_snoc (m :: past) m' number
    have hmade := made_snoc (m :: past) m' number
    have hsaid := saidBy_snoc (m :: past) m' number
    simp only [List.cons_append] at hreceipts hmade hsaid
    rw [hreceipts, hmade, hsaid]
    cases concerns_of_step hstep' htask with
    | idle _ htask' hmade' hreceipts' hsaid' =>
      rw [hmade', hreceipts', hsaid', List.append_nil, List.append_nil, List.append_nil]
      exact ⟨task, htask', hP⟩
    | @sends ticket queued _ hqueued htask' hseen hreceipts' hsaid' =>
      have hmade' : callsIn m'.seen number = [ticket.call] := by
        simp [hseen, callsIn, Event.call?]
      rw [hmade', hreceipts', hsaid', List.append_nil, List.append_nil]
      exact ⟨_, htask', send _ _ _ _ _ _ hP hqueued⟩
    | @answered slot reply turn _ hturn htask' _ hmade' hreceipts' hsaid' =>
      rw [hmade', hreceipts', hsaid', List.append_nil]
      exact ⟨_, htask', answer _ _ _ _ _ _ _ _ hP hs'.coherent (profile_eq_of_leads hleads)
        (hs'.fits number task htask) hturn⟩

end System

/-! ### Writes -/

namespace Transfer

variable {c c' : Central} {t : Transfer} {channel : Channel} {value : Value}

/-- **A write on its way**: the session and the link that it goes by, the handle that the
channel was resolved to there, and the bytes of the value. -/
structure Writes (profile : Profile) (session : Nat) (link : Link) (channel : Channel)
    (value : Value) (t : Transfer) : Prop where
  session_eq : t.session = session
  link_eq : t.link = link
  spec_eq : profile.spec? channel = some t.spec
  resolved : ∃ services handles, Handles.resolve profile services = .ok handles ∧
    handles.get? channel = some t.handle
  encoded : ∃ data, t.spec.wire.encode value = .ok data ∧ t.outgoing = some (value, data)

theorem Writes.channel_eq {profile : Profile} {session : Nat} {link : Link}
    (h : t.Writes profile session link channel value) : t.spec.channel = channel := by
  have hspec := List.find?_some h.spec_eq
  simpa using hspec

theorem Writes.request_eq {profile : Profile} {session : Nat} {link : Link}
    (h : t.Writes profile session link channel value) : t.request = .write channel value := by
  obtain ⟨data, -, houtgoing⟩ := h.encoded
  rw [request, houtgoing, h.channel_eq]

/-- A write that has passed its checks goes to the live session by its link. -/
theorem writes_of_check (hc : c.Coherent) (h : check c (.write channel value) = .ok t) :
    t.Writes c.profile t.session t.link channel value ∧
      c.connection.session = some t.session ∧ c.connection.link = some t.link := by
  obtain ⟨hentry, -, htarget, hencoded⟩ := write_of_check h
  obtain ⟨hphase, hsession, hlink, handles, hhandles, hhandle⟩ := Central.target_eq htarget
  have hspec : c.profile.spec? channel = some t.spec := by
    rw [Central.entry] at hentry
    split at hentry
    next spec hspec => rw [hspec, Except.ok.inj hentry]
    next => exact absurd hentry (by simp)
  -- The handles are those that the phase has been entered with.
  have hshape := hc.shaped t.session hsession
  simp only [Connection.Shaped, hphase] at hshape
  obtain ⟨-, -, services, handles', hresolve, hhandles', -⟩ := hshape
  obtain rfl : handles' = handles := Option.some.inj (hhandles'.symm.trans hhandles)
  exact ⟨⟨rfl, rfl, hspec, ⟨services, handles', hresolve, hhandle⟩, hencoded⟩, hsession, hlink⟩

/-- **A request that succeeds does so in its own session**, and leaves the session and the
link as they are. -/
theorem live_of_conclude {reply : Reply} (h : t.conclude c reply = some (c', .ok value)) :
    c.connection.session = some t.session ∧
      c'.connection.session = c.connection.session ∧ c'.connection.link = c.connection.link := by
  have hstore (hlive : c.isLive t.session = true) (channel : Channel) (value : Value) :
      (c.store t.session channel value).connection.session = c.connection.session ∧
        (c.store t.session channel value).connection.link = c.connection.link := by
    rw [Central.store_of_live (Central.isLive_iff.mp hlive)]
    exact ⟨rfl, rfl⟩
  simp only [conclude] at h
  split at h
  · simp at h
  · split at h
    next hlive =>
      refine ⟨Central.isLive_iff.mp hlive, ?_⟩
      split at h
      · obtain ⟨rfl, -⟩ := Prod.mk.inj (Option.some.inj h)
        exact hstore hlive _ _
      · simp at h
    next => simp at h
  · simp at h
  · split at h
    next hlive =>
      refine ⟨Central.isLive_iff.mp hlive, ?_⟩
      obtain ⟨rfl, -⟩ := Prod.mk.inj (Option.some.inj h)
      rw [keep]
      split
      · exact hstore hlive _ _
      · exact ⟨rfl, rfl⟩
    next => simp at h
  · simp at h

end Transfer

end CarrierLink
