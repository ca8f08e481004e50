import CarrierLink.Proofs.Central.Limits
import CarrierLink.Proofs.Central.LostLink

/-!
# Which device a task has to do with

The calls of a task are all on one device. Those of a connect cycle are on the link of its
stage (`CarrierLink.Stage.link?_of_asks`), and on none before it has a link. Those of a script
are on the link of the connection, and there are none unless the connection is set up
(`CarrierLink.Task.calls_of_answer`): a script whose connection is gone runs to its end
without another call.

So a device is passed on from the cycle to the connection and from there to the scripts. It is
passed on when the cycle ends well, because it does so only with its session live and
connected (`CarrierLink.Attempt.arrives_of_answer`), over the link of its stage
(`CarrierLink.Task.joined_of_answer`).
-/

namespace CarrierLink

/-! ### The calls of a connect cycle -/

/-- A stage calls its own link, if it calls any. -/
theorem Stage.link?_of_asks {stage : Stage} {call : Call} (hasks : stage.Asks call)
    (hopen : stage.isOpen) : call.link? = stage.link? := by
  cases stage <;> cases call <;> simp_all [Asks, isOpen, link?, Call.link?]

/-- A cycle that still hopes to connect has a link as soon as its search is over. -/
theorem Stage.searches_of_link? {stage : Stage} (hopen : stage.isOpen)
    (hlink : stage.link? = none) : stage = .checking ∨ stage = .searching := by
  cases stage with
  | checking => exact .inl rfl
  | searching => exact .inr rfl
  | refusing | closing => exact absurd hopen (by simp [isOpen])
  | _ => exact absurd hlink (by simp [link?])

theorem Stage.eq_available_of_asks {call : Call} (h : checking.Asks call) : call = .available := by
  cases call with
  | available => rfl
  | _ => exact h.elim

theorem Stage.eq_requestDevice_of_asks {call : Call} (h : searching.Asks call) :
    call = .requestDevice := by
  cases call with
  | requestDevice => rfl
  | _ => exact h.elim

/-- Limits that leave a task all it could want. -/
def Limits.none : Limits where
  requests _ := True
  failures _ := True

theorem Limits.suits_none (profile : Profile) : Limits.none.Suits profile :=
  fun _ _ _ _ _ _ => trivial

/-- **A connect cycle that goes on asks for what its new stage needs.** -/
theorem Task.asks_of_answer {c : Central} {t : Task} {session session' slot : Nat}
    {stage stage' : Stage} {reply : Reply} {turn : Turn} (hc : c.Coherent) (hfits : t.Fits c)
    (hwork : t.work = .attempt session stage)
    (hasks : ∀ ticket ∈ t.unanswered, stage.Asks ticket.call)
    (h : t.answer c slot reply = some turn)
    (hwork' : turn.task.work = .attempt session' stage') :
    ∀ ticket ∈ turn.task.unanswered, stage'.Asks ticket.call := by
  have hwithin : t.Within Limits.none c.profile := by
    simp only [Within, hwork]
    exact ⟨hasks, fun _ _ => trivial⟩
  have hwithin' := hwithin.answer (Limits.suits_none _) hc rfl hfits (fun _ _ => trivial) h
  simp only [Within, hwork'] at hwithin'
  exact hwithin'.1

/-! ### The end of a connect cycle -/

namespace Attempt

variable {session : Nat} {c : Central} {link : Link}

/-- **A cycle that ends well has arrived**: its session is live and connected. -/
def Arrives (session : Nat) (turn : Turn) : Prop :=
  ∀ answer, turn.task.work = .finished (.ok answer) →
    turn.central.connection.session = some session ∧
      turn.central.connection.phase = .connected

theorem arrives_of_work {turn : Turn} {stage : Stage}
    (hwork : turn.task.work = .attempt session stage) : Arrives session turn :=
  fun _ h => absurd (hwork.symm.trans h) (by simp)

theorem arrives_fail (c : Central) (session : Nat) (got : Option Link) (e : Error) :
    Arrives session (fail c session got e) := by
  rw [fail_eq]
  split
  · exact arrives_of_work rfl
  · exact fun _ h => by simp [report, Task.finished] at h

theorem arrives_complete : Arrives session (complete c session link) := by
  rw [complete, Central.enter]
  split
  next heq =>
    split at heq
    next hlive =>
      obtain rfl := Except.ok.inj heq
      exact fun _ _ => ⟨Central.isLive_iff.mp hlive, rfl⟩
    next => exact absurd heq (by simp)
  next => exact arrives_fail _ _ _ _

theorem arrives_startReading (telemetry : List (ChannelSpec × Handle)) :
    Arrives session (startReading c session link telemetry) := by
  rw [startReading]
  split
  · exact arrives_complete
  · exact arrives_of_work rfl

theorem arrives_startSubscribing (telemetry : List (ChannelSpec × Handle)) :
    Arrives session (startSubscribing c session link telemetry) := by
  rw [startSubscribing]
  split
  · exact arrives_startReading telemetry
  · exact arrives_of_work rfl

theorem arrives_startDiscovering : Arrives session (startDiscovering c session link) := by
  simp only [startDiscovering]
  split
  · exact arrives_of_work rfl
  · exact arrives_fail _ _ _ _

theorem arrives_resolve (services : List Service) :
    Arrives session (resolve c session link services) := by
  rw [resolve]
  split
  · exact arrives_fail _ _ _ _
  · split
    · exact arrives_fail _ _ _ _
    · exact arrives_startSubscribing _

theorem arrives_proceedSubscribing {telemetry : List (ChannelSpec × Handle)}
    {failed : Option (Nat × Error)} {rest : Task} :
    Arrives session (proceedSubscribing c session link telemetry failed rest) := by
  simp only [proceedSubscribing]
  split
  · split
    · exact arrives_of_work rfl
    · exact arrives_fail _ _ _ _
  · split
    · exact arrives_startReading telemetry
    · exact arrives_of_work rfl

theorem arrives_of_answer {stage : Stage} {rest : Task} {slot : Nat} {reply : Reply}
    {turn : Turn} (h : answer c session stage rest slot reply = some turn)
    (hrest : rest.work = .attempt session stage) : Arrives session turn := by
  simp only [answer] at h
  -- One case for each reply that a stage takes, in the order of the stages.
  split at h
  · split at h <;> obtain rfl := Option.some.inj h
    · exact arrives_of_work rfl
    · exact arrives_fail _ _ _ _
  · exact Option.some.inj h ▸ arrives_fail _ _ _ _
  · split at h <;> exact Option.some.inj h ▸ arrives_of_work rfl
  · exact Option.some.inj h ▸ arrives_fail _ _ _ _
  · exact Option.some.inj h ▸ arrives_fail _ _ _ _
  · exact Option.some.inj h ▸ arrives_of_work rfl
  · exact Option.some.inj h ▸ arrives_fail _ _ _ _
  · exact Option.some.inj h ▸ arrives_startDiscovering
  · exact Option.some.inj h ▸ arrives_fail _ _ _ _
  · exact Option.some.inj h ▸ arrives_resolve _
  · exact Option.some.inj h ▸ arrives_proceedSubscribing
  · obtain ⟨⟨spec, handle⟩, -, h⟩ := Option.bind_eq_some_iff.mp h
    obtain rfl := Option.some.inj h
    simp only [Turn.after]
    split
    · exact arrives_complete
    · exact arrives_of_work hrest
  · obtain rfl := Option.some.inj h
    exact fun _ h => by simp [report, Task.finished] at h
  · exact absurd h (by simp)

end Attempt

/-- The services are told over the link of the stage. -/
theorem Stage.link?_of_foundWith? {stage : Stage} {reply : Reply} {link : Link}
    (h : stage.foundWith? reply = some link) : stage.link? = some link := by
  simp only [foundWith?] at h
  split at h
  · exact h
  · cases stage <;> simp_all [found?, link?]

/-- **A connect cycle that ends well leaves the central connected over the link of its
stage.** -/
theorem Task.joined_of_answer {c : Central} {t : Task} {session slot : Nat} {stage : Stage}
    {reply : Reply} {turn : Turn} {answer : Answer} (hc : c.Coherent) (hfits : t.Fits c)
    (hwork : t.work = .attempt session stage) (h : t.answer c slot reply = some turn)
    (hended : turn.task.work = .finished (.ok answer)) :
    turn.central.connection.phase = .connected ∧
      ∃ link, stage.link? = some link ∧ turn.central.connection.link = some link := by
  obtain ⟨-, rest, hrest, -, hanswer⟩ := answer_of_attempt hwork h
  simp only [Fits, hwork] at hfits
  obtain ⟨hlive, hconnected⟩ := Attempt.arrives_of_answer hanswer hrest answer hended
  refine ⟨hconnected, ?_⟩
  rcases Attempt.reaches_of_answer hanswer hc hrest hfits.2.2.1 with ⟨-, -, -, -, hphase⟩ | h
  · exact absurd hconnected hphase
  · obtain ⟨link, hfound, hlink⟩ := h.arrives hlive hconnected
    exact ⟨link, Stage.link?_of_foundWith? hfound, hlink⟩

/-- **A search that has found nothing is not gone on with.** -/
theorem Task.link?_of_search {c : Central} {t : Task} {session session' slot : Nat}
    {stage : Stage} {reply : Reply} {turn : Turn} (hwork : t.work = .attempt session .searching)
    (h : t.answer c slot reply = some turn) (hwork' : turn.task.work = .attempt session' stage)
    (hopen : stage.isOpen) : stage.link? ≠ none := by
  obtain ⟨-, rest, -, -, hanswer⟩ := answer_of_attempt hwork h
  cases reply with
  | device result =>
    cases result with
    | error e =>
      obtain rfl := Option.some.inj hanswer
      rw [Attempt.fail_eq] at hwork'
      split at hwork'
      · obtain ⟨-, rfl⟩ := Work.attempt.inj hwork'
        exact absurd hopen (by simp [Stage.isOpen])
      · exact absurd hwork' (by simp [Attempt.report, finished])
    | ok link =>
      simp only [Attempt.answer] at hanswer
      split at hanswer <;> obtain rfl := Option.some.inj hanswer <;>
        obtain ⟨-, rfl⟩ := Work.attempt.inj hwork'
      · simp [Stage.link?]
      · exact absurd hopen (by simp [Stage.isOpen])
  | _ => exact absurd hanswer (by simp [Attempt.answer])

/-! ### The calls of a script -/

/-- A call is on the link of a connection that is set up. -/
def Central.Serves (c : Central) (ticket : Ticket) : Prop :=
  c.connection.phase = .connected ∧ c.connection.link = ticket.call.link?

section Scripts

variable {c : Central} {ticket : Ticket}

theorem Transfer.link?_call (t : Transfer) : t.call.link? = some t.link := by
  obtain ⟨session, link, handle, spec, outgoing⟩ := t
  cases outgoing <;> rfl

theorem Central.serves_of_check {request : Request} {t : Transfer}
    (h : Transfer.check c request = .ok t) (slot : Nat) : c.Serves ⟨slot, t.call⟩ := by
  have htarget : ∃ channel, c.target channel = .ok (t.session, t.link, t.handle) := by
    cases request with
    | read channel => exact ⟨channel, (Transfer.read_of_check h).2.2.1⟩
    | write channel value => exact ⟨channel, (Transfer.write_of_check h).2.2.1⟩
  obtain ⟨channel, htarget⟩ := htarget
  obtain ⟨hphase, -, hlink, -⟩ := target_eq htarget
  exact ⟨hphase, hlink.trans t.link?_call.symm⟩

theorem Slot.serves_of_mem {request : Request} {slot : Nat}
    (h : ticket ∈ (Slot.ofCheck (Transfer.check c request)).tickets slot) : c.Serves ticket := by
  cases hcheck : Transfer.check c request with
  | ok t =>
    rw [hcheck] at h
    obtain rfl := List.mem_singleton.mp h
    exact Central.serves_of_check hcheck slot
  | error => simp [hcheck, ofCheck, tickets] at h

/-- Two requests after one has been answered: the calls are those that were there before, or
those that the script goes on with. -/
theorem Slot.calls_of_proceed (first second : Slot) {next : Response → Response → Script}
    {rest : Task} (hrun : ∀ r₁ r₂, ∀ ticket ∈ ((next r₁ r₂).run c).task.unanswered,
      c.Serves ticket) :
    (∀ ticket ∈ (Slot.proceed c first second next rest).task.unanswered,
      ticket ∈ rest.unanswered ∨ c.Serves ticket) ∧
    ∀ ticket ∈ (Slot.proceed c first second next rest).task.queued,
      ticket ∈ rest.queued ∨ c.Serves ticket := by
  have hwaits : (∀ ticket ∈ Task.unanswered { rest with work := .pair first second next },
      ticket ∈ rest.unanswered ∨ c.Serves ticket) ∧
      ∀ ticket ∈ rest.queued, ticket ∈ rest.queued ∨ c.Serves ticket :=
    ⟨fun _ hmem => .inl hmem, fun _ hmem => .inl hmem⟩
  cases first with
  | pending => exact hwaits
  | settled r₁ =>
    cases second with
    | pending => exact hwaits
    | settled r₂ =>
      exact ⟨fun ticket hmem => .inr (hrun r₁ r₂ ticket hmem), fun ticket hmem =>
        .inr (hrun r₁ r₂ ticket (List.mem_append_left _ hmem))⟩

/-- **A script calls the link of the connection**, and nothing if there is none. -/
theorem Script.serves_of_run {script : Script} (h : ticket ∈ (script.run c).task.unanswered) :
    c.Serves ticket := by
  induction script generalizing ticket with
  | finish outcome => exact absurd h List.not_mem_nil
  | report text level next ih => exact ih h
  | exchange request next ih =>
    rw [run] at h
    split at h
    next t hcheck =>
      obtain rfl : ticket = ⟨0, t.call⟩ := by simpa [Task.asking, Task.unanswered] using h
      exact Central.serves_of_check hcheck 0
    next e _ => exact ih (.error e) h
  | exchangeBoth first second next ih =>
    rw [(exchangeBoth_eq c first second next).1] at h
    rcases (Slot.calls_of_proceed _ _ fun r₁ r₂ ticket hmem => ih r₁ r₂ hmem).1 ticket h with h | h
    · rw [Task.unanswered, List.append_nil, List.mem_append] at h
      exact h.elim Slot.serves_of_mem Slot.serves_of_mem
    · exact h

/-- A change that is neither the connect cycle's nor the end of the session leaves the
connection up as it is. -/
theorem Change.frame_of_other {session : Nat} {callbacks : List Callback} {c' : Central}
    (h : Change session c false callbacks c') (hother : callbacks ≠ Callback.teardown) :
    c'.connection.phase = c.connection.phase ∧ c'.connection.link = c.connection.link ∧
      c'.connection.session = c.connection.session := by
  cases h with
  | rests => exact ⟨rfl, rfl, rfl⟩
  | keeps hlive =>
    rw [Central.store_of_live hlive]
    exact ⟨rfl, rfl, rfl⟩
  | closes => exact absurd rfl hother

/-- What has no cycle is none. -/
theorem Task.attempt?_of_cycle? {t : Task} (h : t.cycle? = none) : t.attempt? = none := by
  cases hattempt : t.attempt? with
  | none => rfl
  | some session => exact absurd (h.symm.trans (cycle?_of_attempt? hattempt)) (by simp)

/-- **An answer to a script** leaves a script, and the connection up as it is. -/
theorem Task.frame_of_answer {t : Task} {slot : Nat} {reply : Reply} {turn : Turn}
    (hc : c.Coherent) (hfits : t.Fits c) (hscript : t.cycle? = none)
    (h : t.answer c slot reply = some turn) :
    turn.task.cycle? = none ∧ turn.central.connection.phase = c.connection.phase ∧
      turn.central.connection.link = c.connection.link ∧
      turn.central.connection.session = c.connection.session := by
  cases answered_of_answer hc hfits h with
  | attempt hattempt => exact absurd (cycle?_of_attempt? hattempt) (by simp [hscript])
  | @hangUp session hwork =>
    obtain rfl : session = none := by simpa [cycle?, hwork] using hscript
    exact ⟨rfl, rfl, rfl, rfl⟩
  | request _ _ hchange hturn =>
    rw [hturn.central]
    exact ⟨hturn.work, hchange.frame_of_other (by simp [Callback.teardown])⟩

/-- **The calls of a script after an answer** are calls that it had, or are on the link of the
connection. -/
theorem Task.calls_of_answer {t : Task} {slot : Nat} {reply : Reply} {turn : Turn}
    (hc : c.Coherent) (hfits : t.Fits c) (hscript : t.cycle? = none)
    (h : t.answer c slot reply = some turn) :
    (∀ ticket ∈ turn.task.unanswered, ticket ∈ t.unanswered ∨ turn.central.Serves ticket) ∧
      ∀ ticket ∈ turn.task.queued, ticket ∈ t.queued ∨ turn.central.Serves ticket := by
  -- The script goes on with a central that is still in order.
  have hrun {transfer : Transfer} {c' : Central} {response : Response} (script : Script)
      (hfits : transfer.Fits c) (hconclude : transfer.conclude c reply = some (c', response)) :
      (script.run c').central = c' ∧
        ∀ ticket ∈ (script.run c').task.unanswered, c'.Serves ticket :=
    ⟨(script.ofScript_run ((Transfer.conclude_change hfits hconclude).coherent hc)).central,
      fun ticket => Script.serves_of_run⟩
  have hleft : ∀ ticket ∈ Task.unanswered { t with
      sent := t.sent.filter fun ticket => ticket.slot != slot }, ticket ∈ t.unanswered := by
    intro ticket hmem
    simp only [unanswered, List.mem_append, List.mem_filter] at hmem ⊢
    exact hmem.imp_right And.left
  cases hwork : t.work with
  | attempt => simp [cycle?, hwork] at hscript
  | hangUp session =>
    simp only [answer, hwork, Option.ite_none_right_eq_some, Option.some.injEq] at h
    obtain ⟨-, rfl⟩ := h
    exact ⟨fun ticket hmem => absurd hmem List.not_mem_nil,
      fun ticket hmem => absurd hmem List.not_mem_nil⟩
  | single transfer next =>
    simp only [answer, hwork, Option.ite_none_right_eq_some] at h
    simp only [Fits, hwork] at hfits
    obtain ⟨⟨c', response⟩, hconclude, rfl⟩ := Option.map_eq_some_iff.mp h.2
    obtain ⟨hcentral, hserves⟩ := hrun (next response) hfits hconclude
    rw [hcentral]
    exact ⟨fun ticket hmem => .inr (hserves ticket hmem),
      fun ticket hmem => .inr (hserves ticket (List.mem_append_left _ hmem))⟩
  | pair first second next =>
    simp only [answer, hwork, Option.ite_none_right_eq_some] at h
    simp only [Fits, hwork] at hfits
    obtain ⟨-, h⟩ := h
    split at h
    next transfer =>
      obtain ⟨⟨c', response⟩, hconclude, rfl⟩ := Option.map_eq_some_iff.mp h
      have hchange := Transfer.conclude_change hfits.1 hconclude
      have hsettled : (Slot.settled response).Fits c' := trivial
      rw [(Slot.ofScript_proceed (hchange.coherent hc) hsettled
        (hfits.2.change hchange) next _).central]
      obtain ⟨hcalls, hqueued⟩ := Slot.calls_of_proceed (.settled response) second
        fun r₁ r₂ => (hrun (next r₁ r₂) hfits.1 hconclude).2
      exact ⟨fun ticket hmem => (hcalls ticket hmem).imp_left (hleft ticket), hqueued⟩
    next transfer =>
      obtain ⟨⟨c', response⟩, hconclude, rfl⟩ := Option.map_eq_some_iff.mp h
      have hchange := Transfer.conclude_change hfits.2 hconclude
      have hsettled : (Slot.settled response).Fits c' := trivial
      rw [(Slot.ofScript_proceed (hchange.coherent hc) (hfits.1.change hchange)
        hsettled next _).central]
      obtain ⟨hcalls, hqueued⟩ := Slot.calls_of_proceed first (.settled response)
        fun r₁ r₂ => (hrun (next r₁ r₂) hfits.2 hconclude).2
      exact ⟨fun ticket hmem => (hcalls ticket hmem).imp_left (hleft ticket), hqueued⟩
    next => exact absurd h (by simp)
  | finished => exact absurd h (by simp [answer, hwork])

/-! ### Without a connection -/

/-- **Once the connection is gone, an answer leads to no call**, unless a connect cycle is
still to close its link. -/
theorem Task.silent_of_answer {t : Task} {slot : Nat} {reply : Reply} {turn : Turn}
    (hc : c.Coherent) (hfits : t.Fits c) (hdead : c.connection.session = none)
    (hattempt : t.attempt? = none) (h : t.answer c slot reply = some turn) :
    turn.central.connection.session = none ∧ turn.task.attempt? = none ∧
      (∀ ticket ∈ turn.task.unanswered, ticket ∈ t.unanswered) ∧
      ∀ ticket ∈ turn.task.queued, ticket ∈ t.queued := by
  cases hcycle : t.cycle? with
  | none =>
    obtain ⟨hscript, hphase, -, hsession⟩ := frame_of_answer hc hfits hcycle h
    obtain ⟨hcalls, hqueued⟩ := calls_of_answer hc hfits hcycle h
    have hserves (ticket : Ticket) : ¬turn.central.Serves ticket := by
      rintro ⟨hconnected, -⟩
      exact absurd (hphase.symm.trans hconnected) (by simp [hc.idle hdead])
    exact ⟨hsession.trans hdead, attempt?_of_cycle? hscript,
      fun ticket hmem => (hcalls ticket hmem).resolve_right (hserves ticket),
      fun ticket hmem => (hqueued ticket hmem).resolve_right (hserves ticket)⟩
  | some session =>
    cases hwork : t.work with
    | attempt => simp [attempt?, hwork] at hattempt
    | hangUp closed =>
      obtain rfl : closed = some session := by simpa [cycle?, hwork] using hcycle
      simp only [answer, hwork, Option.ite_none_right_eq_some, Option.some.injEq] at h
      obtain ⟨-, rfl⟩ := h
      have hclosed : c.close session = (c, []) := Central.close_of_dead (by simp [hdead])
      simp only [CarrierLink.hangUp, hclosed]
      exact ⟨hdead, rfl, fun _ hmem => absurd hmem List.not_mem_nil,
        fun _ hmem => absurd hmem List.not_mem_nil⟩
    | _ => simp [cycle?, hwork] at hcycle

/-- **Without a connection an operation calls nothing**, unless it is to connect. -/
theorem Task.silent_of_start {operation : Operation} (hc : c.Coherent)
    (hdead : c.connection.session = none) (hoperation : operation ≠ .connect) :
    (start c operation).central = c ∧ (start c operation).task.attempt? = none ∧
      (start c operation).task.unanswered = [] := by
  cases operation with
  | connect => exact absurd rfl hoperation
  | disconnect =>
    simp [start, hc.idle hdead, CarrierLink.hangUp, finished, attempt?, unanswered]
  | run script =>
    have hscript := script.ofScript_run hc
    refine ⟨hscript.central, attempt?_of_cycle? hscript.work, ?_⟩
    refine List.eq_nil_iff_forall_not_mem.mpr fun ticket hmem => ?_
    exact absurd (Script.serves_of_run hmem).1 (by simp [hc.idle hdead])

end Scripts

end CarrierLink
