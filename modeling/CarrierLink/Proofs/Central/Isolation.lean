import CarrierLink.Proofs.Central.Soundness

/-!
# Sessions are kept apart

Work that was started for a session may come to the central long after the session is over:
the rest of its connect cycle, a reply to one of its requests, an event of its link, the end
of a disconnect that found it. By then another session may be live. This module proves that
the new session does not notice (`CarrierLink.System.stale_of_leads`): late work leaves the
central as it is and says nothing to the observer beyond statuses, and a request whose reply
comes too late fails.

The first part is `CarrierLink.Change.eq_of_dead`, read along a history. For the second part,
`CarrierLink.Task.resume` names the way on from a response, and the response of a late
request is an error. A read or a write that is an operation of its own
(`CarrierLink.Operation.IsExchange`) has no other way on than to end with that error, and
`CarrierLink.System.exchange_of_leads` is the invariant that says so.
-/

namespace CarrierLink

/-! ### The way on from a response -/

/-- The task without the call of a slot. -/
def Task.without (t : Task) (slot : Nat) : Task :=
  { t with sent := t.sent.filter fun ticket => ticket.slot != slot }

/-- **How a task goes on** when the request in a slot has its response. -/
def Task.resume (c : Central) (t : Task) (slot : Nat) (response : Response) : Task :=
  match t.work with
  | .single _ next => ((next response).run c).task
  | .pair first second next =>
    match slot with
    | 0 => (Slot.proceed c (.settled response) second next (t.without slot)).task
    | _ => (Slot.proceed c first (.settled response) next (t.without slot)).task
  | .attempt .. | .hangUp _ | .finished _ => t

/-- A reply to a request is its conclusion, and the task goes on with the response. -/
theorem Task.resume_of_answer {c : Central} {t : Task} {slot : Nat} {reply : Reply}
    {turn : Turn} {transfer : Transfer} (htransfer : t.transfer? slot = some transfer)
    (h : t.answer c slot reply = some turn) :
    ∃ c' response, transfer.conclude c reply = some (c', response) ∧
      turn.task = t.resume c' slot response := by
  rw [answer] at h
  split at h
  next =>
    cases hwork : t.work with
    | single transfer' script =>
      simp only [hwork] at h
      obtain rfl : transfer' = transfer := by simpa [transfer?, hwork] using htransfer
      obtain ⟨⟨c', r⟩, hconclude, rfl⟩ := Option.map_eq_some_iff.mp h
      exact ⟨c', r, hconclude, by simp [resume, hwork]⟩
    | pair first second script =>
      simp only [hwork] at h
      split at h
      next transfer' _ =>
        obtain rfl : transfer' = transfer := by simpa [transfer?, hwork] using htransfer
        obtain ⟨⟨c', r⟩, hconclude, rfl⟩ := Option.map_eq_some_iff.mp h
        exact ⟨c', r, hconclude, by simp [resume, hwork, without]⟩
      next transfer' _ =>
        obtain rfl : transfer' = transfer := by
          cases first <;> simpa [transfer?, hwork] using htransfer
        obtain ⟨⟨c', r⟩, hconclude, rfl⟩ := Option.map_eq_some_iff.mp h
        exact ⟨c', r, hconclude, by simp [resume, hwork, without]⟩
      next => exact absurd h (by simp)
    | _ => simp [transfer?, hwork] at htransfer
  next => exact absurd h (by simp)

/-! ### Reads and writes that are operations of their own -/

/-- A single read or write. -/
inductive Operation.IsExchange : Operation → Prop
  | read (channel : Channel) : IsExchange (.run (.read channel))
  | write (channel : Channel) (value : Value) : IsExchange (.run (.write channel value))

/-- A task that ends with its request: with what is made of the value, or with the error. -/
def Task.IsExchange (t : Task) : Prop :=
  (∃ outcome, t.work = .finished outcome) ∨
    ∃ (transfer : Transfer) (result : Value → Outcome),
      t.work = .single transfer (Script.onValue fun value => .finish (result value))

/-- A request that ends its task does so whatever its response. -/
theorem Task.finished_of_response (c : Central) (result : Value → Outcome)
    (response : Response) :
    ∃ outcome, ((Script.onValue (fun value => .finish (result value)) response).run c).task =
      Task.finished outcome := by
  cases response with
  | ok value => exact ⟨result value, rfl⟩
  | error e => exact ⟨.error e, rfl⟩

theorem Task.isExchange_start {operation : Operation} (h : operation.IsExchange)
    (c : Central) : (start c operation).task.IsExchange := by
  have hexchange (request : Request) (result : Value → Outcome) :
      (Script.run c (.exchange request (Script.onValue fun value =>
        .finish (result value)))).task.IsExchange := by
    rw [Script.run]
    split
    next transfer _ => exact .inr ⟨transfer, result, rfl⟩
    next e _ => exact .inl ⟨.error e, rfl⟩
  cases h with
  | read channel => exact hexchange (.read channel) fun value => .ok (.value value)
  | write channel value => exact hexchange (.write channel value) fun _ => .ok .done

theorem Task.IsExchange.answer {t : Task} {c : Central} {slot : Nat} {reply : Reply}
    {turn : Turn} (h : t.IsExchange) (hturn : t.answer c slot reply = some turn) :
    turn.task.IsExchange := by
  rcases h with ⟨outcome, hwork⟩ | ⟨transfer, result, hwork⟩
  · simp [Task.answer, hwork] at hturn
  · have htransfer : t.transfer? slot = some transfer := by simp [transfer?, hwork]
    obtain ⟨c', response, -, htask⟩ := resume_of_answer htransfer hturn
    obtain ⟨outcome, houtcome⟩ := finished_of_response c' result response
    refine .inl ⟨outcome, ?_⟩
    rw [htask]
    simp [resume, hwork, houtcome, finished]

namespace System

/-- **A single read or write stays what it is** for as long as it waits. -/
theorem exchange_of_leads {s t : System} {ms : List Moment} (h : s.Leads ms t) :
    ∀ m ∈ ms, ∀ number operation, m.Begins number operation → operation.IsExchange →
      ∃ task, t.tasks[number]? = some task ∧ task.IsExchange := by
  refine h.induction (motive := fun ms t => ∀ m ∈ ms, ∀ number operation,
    m.Begins number operation → operation.IsExchange →
      ∃ task, t.tasks[number]? = some task ∧ task.IsExchange)
    (by simp) fun past m _ hstep ih m' hmem number operation hbegins hexchange => ?_
  rcases List.mem_append.mp hmem with hmem | hmem
  · obtain ⟨task, htask, hkept⟩ := ih m' hmem number operation hbegins hexchange
    rcases step_task hstep htask with
      ⟨htask', -⟩ | ⟨-, ticket, queued, -, htask', -⟩ |
      ⟨slot, reply, turn, -, hturn, htask', -⟩
    · exact ⟨task, htask', hkept⟩
    · exact ⟨_, htask', hkept⟩
    · exact ⟨turn.task, htask', hkept.answer hturn⟩
  · obtain rfl := List.mem_singleton.mp hmem
    obtain ⟨haction, rfl⟩ := hbegins
    rw [haction] at hstep
    obtain ⟨hafter, -, -⟩ := step_start hstep
    refine ⟨_, ?_, Task.isExchange_start hexchange m'.before.central⟩
    simp [hafter]

/-! ### Late work -/

/-- A task that waits for a request is no cycle and closes no connection. -/
theorem cycle?_of_transfer? {s : System} {action : Action} {transfer : Transfer}
    (h : s.transfer? action = some transfer) : s.cycle? action = none := by
  have htask (task : Task) (slot : Nat) (htransfer : task.transfer? slot = some transfer) :
      task.cycle? = none := by
    cases hwork : task.work <;> simp_all [Task.transfer?, Task.cycle?]
  cases action with
  | send number =>
    simp only [transfer?, Option.bind_eq_bind, Option.bind_eq_some_iff] at h
    obtain ⟨task, hnumber, ticket, -, htransfer⟩ := h
    simp [cycle?, hnumber, htask task _ htransfer]
  | reply number slot reply =>
    obtain ⟨task, hnumber, htransfer⟩ := Option.bind_eq_some_iff.mp h
    simp [cycle?, hnumber, htask task _ htransfer]
  | _ => exact absurd h (by simp [transfer?])

/-- **What is done for a session that is over**: nothing, but for a status perhaps. -/
theorem Effect.quiet_of_hasEnded {s : System} {action : Action} {callbacks : List Callback}
    {c' : Central} {session : Nat} (h : s.Effect action callbacks c')
    (hended : s.central.HasEnded session) (hfor : s.cycle? action = some session ∨
      ∃ transfer, s.transfer? action = some transfer ∧ transfer.session = session) :
    c' = s.central ∧ ∀ callback ∈ callbacks, callback.isStatus := by
  obtain ⟨-, hbegun, hdead⟩ := hended
  rcases hfor with hcycle | ⟨transfer, htransfer, rfl⟩
  · obtain ⟨own, hchange, -⟩ := h.change_of_cycle? hcycle
    obtain ⟨hsame, hstatus⟩ := hchange.eq_of_dead hdead hbegun
    refine ⟨hsame, fun callback hmem => ?_⟩
    rcases (hstatus callback hmem).2 with hnote | hwarning
    · exact Callback.isStatus_of_isNote hnote
    · exact Callback.isStatus_of_isWarning hwarning
  · refine ⟨?_, h.isStatus_of_cycle? (cycle?_of_transfer? htransfer)⟩
    cases h with
    | work hcycle => exact absurd hcycle (by simp [cycle?_of_transfer? htransfer])
    | @request transfer' _ _ _ htransfer' hchange =>
      obtain rfl : transfer' = transfer := Option.some.inj (htransfer'.symm.trans htransfer)
      exact (hchange.eq_of_dead hdead hbegun).1
    | word => rfl

/-- **A session that is over is over for everyone.** Late work for it changes nothing of the
central, and the observer hears nothing but statuses of it. A late reply to a request is an
error, and a read or write that waits for it ends with that error. -/
theorem stale_of_leads {profile : Profile} {past between : List Moment} {s : System}
    {m : Moment} {session : Nat} (hpast : (initial profile).Leads past s)
    (hended : s.central.HasEnded session) (hbetween : s.Leads between m.before)
    (hstep : m.before.step m.action = some (m.after, m.seen)) :
    m.after.central.HasEnded session ∧
      (m.IsFor session → m.after.central = m.before.central ∧
        ∀ callback ∈ m.callbacks, callback.isStatus) ∧
      ∀ number slot reply transfer, m.action = .reply number slot reply →
        m.before.transfer? m.action = some transfer → transfer.session = session →
        ∃ task e, m.before.tasks[number]? = some task ∧
          m.after.tasks[number]? = some (task.resume m.before.central slot (.error e)) ∧
          ∀ m₀ ∈ past ++ between, ∀ operation, m₀.Begins number operation →
            operation.IsExchange →
            m.after.tasks[number]? = some (Task.finished (.error e)) := by
  obtain ⟨hs, hended⟩ := (sound_of_leads hpast).hasEnded_of_leads hbetween hended
  have hafter : m.before.Leads [m] m.after := ⟨rfl, hstep, rfl⟩
  refine ⟨(hs.hasEnded_of_leads hafter hended).2,
    fun hfor => (hs.step hstep).2.quiet_of_hasEnded hended hfor, ?_⟩
  rintro number slot reply transfer haction htransfer rfl
  rw [haction] at hstep htransfer
  obtain ⟨task, turn, htask, hturn, hm, -⟩ := step_reply hstep
  have htransfer' : task.transfer? slot = some transfer := by
    simpa [transfer?, htask] using htransfer
  obtain ⟨c', response, hconclude, hresume⟩ := Task.resume_of_answer htransfer' hturn
  obtain ⟨rfl, e, rfl⟩ := Transfer.conclude_of_dead hended.2.2 hconclude
  have hlt : number < m.before.tasks.length := (List.getElem?_eq_some_iff.mp htask).1
  have hresumed : m.after.tasks[number]? =
      some (task.resume m.before.central slot (.error e)) := by
    simp [hm, hlt, hresume]
  refine ⟨task, e, htask, hresumed, fun m₀ hmem operation hbegins hexchange => ?_⟩
  obtain ⟨task', htask', hkept⟩ := exchange_of_leads (leads_append.mpr ⟨s, hpast, hbetween⟩)
    m₀ hmem number operation hbegins hexchange
  obtain rfl : task' = task := Option.some.inj (htask'.symm.trans htask)
  -- It has not ended yet, since it waits for a request.
  rcases hkept with ⟨outcome, hwork⟩ | ⟨transfer', result, hwork⟩
  · simp [Task.transfer?, hwork] at htransfer'
  · rw [hresumed]
    simp only [Task.resume, hwork]
    rfl

/-- The clock is read over a connection that is closed and replaced by another before the
reply comes. -/
theorem stale_read_of_alarm :
    ∃ (past : List Moment) (s : System) (m : Moment),
      (initial Profile.alarm).Leads past s ∧ s.central.HasEnded 1 ∧ s.central.isLive 2 ∧
      s.Leads [] m.before ∧ m.before.step m.action = some (m.after, m.seen) ∧ m.IsFor 1 ∧
      m.after.central = m.before.central ∧
      m.after.tasks[1]? = some (Task.finished (.error .notConnected)) := by
  obtain ⟨s, seen, t, now, hrun, hended, hlive, hstep, hfor, hlast⟩ :
      ∃ s seen t now, (initial Profile.alarm).run
        [.start .connect, .send 0, .reply 0 0 (.availability true), .send 0,
          .reply 0 0 (.device (.ok ⟨0, none⟩)), .send 0, .reply 0 0 (.done (.ok ())), .send 0,
          .reply 0 0 (.done (.ok ())), .send 0,
          .reply 0 0 (.services (.ok
            [⟨Uuid.alarmService, Profile.alarm.channels.map ChannelSpec.uuid⟩])),
          .start (.run (.read .localTime)), .send 1, .start .disconnect, .send 2,
          .reply 2 0 (.done (.ok ())), .start .connect, .send 3] = some (s, seen) ∧
        s.central.HasEnded 1 ∧ s.central.isLive 2 ∧
        s.step (.reply 1 0 (.data (.ok [7, 30]))) = some (t, now) ∧
        (∃ transfer, s.transfer? (.reply 1 0 (.data (.ok [7, 30]))) = some transfer ∧
          transfer.session = 1) ∧
        t.tasks[1]? = some (Task.finished (.error .notConnected)) :=
    ⟨_, _, _, _, rfl, ⟨by decide, by decide, by decide⟩, rfl, rfl, ⟨_, rfl, rfl⟩, rfl⟩
  obtain ⟨past, hpast, -⟩ := run_iff_leads.mp hrun
  have hnow : s.Leads [] s := rfl
  have hstale := stale_of_leads (m := ⟨s, .reply 1 0 (.data (.ok [7, 30])), t, now⟩)
    hpast hended hnow hstep
  exact ⟨past, s, ⟨s, _, t, now⟩, hpast, hended, hlive, hnow, hstep, .inr hfor,
    (hstale.2.1 (.inr hfor)).1, hlast⟩

end System

end CarrierLink
