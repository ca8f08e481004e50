import CarrierLink.Proofs.Central.Exchange

/-!
# What a task keeps to

What a task may ask of the platform can be told from what it is about. A connect cycle asks
for what its stage needs (`CarrierLink.Stage.Asks`), a teardown closes a link, and a script
asks for the requests that are written in it. The same goes for one reason to fail: nothing
but a request with a value can fail to encode.

So limits (`CarrierLink.Limits`) are set to the requests of scripts and to the failures of
encoding, and a task within them stays within them, whatever the central does and whatever
replies come, as long as no reply claims such a failure for itself
(`CarrierLink.Task.Within.answer`). Of a task within limits it is known what any call of it
can be (`CarrierLink.Task.Within.call`).
-/

namespace CarrierLink

/-! ### Limits -/

/-- **Limits for tasks**: the requests that they may make, and the failures of encoding that
they may end with. -/
structure Limits where
  requests : Request → Prop
  failures : EncodeError → Prop

namespace Limits

/-- A result is none of the failures that the limits rule out. -/
def Admits (limits : Limits) {α : Type} (result : Except Error α) : Prop :=
  ∀ e, result = .error (.encode e) → limits.failures e

/-- Limits suit a profile if they allow for every request to fail that cannot be encoded. -/
def Suits (limits : Limits) (profile : Profile) : Prop :=
  ∀ request spec e, limits.requests request → profile.spec? request.channel = some spec →
    request.outgoing spec.wire = .error e → limits.failures e

theorem admits_ok {limits : Limits} {α : Type} (a : α) :
    limits.Admits (.ok a : Except Error α) := by
  simp [Admits]

end Limits

/-- **A script within limits**, whatever its responses are. -/
def Script.Within (limits : Limits) : Script → Prop
  | finish outcome => limits.Admits outcome
  | report _ _ next => next.Within limits
  | exchange request next =>
    limits.requests request ∧ ∀ response, limits.Admits response → (next response).Within limits
  | exchangeBoth first second next =>
    limits.requests first ∧ limits.requests second ∧
      ∀ r₁ r₂, limits.Admits r₁ → limits.Admits r₂ → (next r₁ r₂).Within limits

/-- The calls that a stage of a connect cycle is there for. -/
def Stage.Asks : Stage → Call → Prop
  | checking, .available => True
  | searching, .requestDevice => True
  | connecting link, .connect link' => link' = link
  | listening link, .events link' => link' = link
  | discovering link, .services link' => link' = link
  | subscribing link telemetry _, .subscribe link' handle =>
    link' = link ∧ ∃ spec, (spec, handle) ∈ telemetry
  | reading link telemetry, .read link' handle => link' = link ∧ ∃ spec, (spec, handle) ∈ telemetry
  | refusing, .disconnect _ => True
  | closing _, .disconnect _ => True
  | _, _ => False

/-- What a stage asks for does not depend on which subscription has failed. -/
theorem Stage.asks_subscribing {link : Link} {telemetry : List (ChannelSpec × Handle)}
    {failed failed' : Option (Nat × Error)} {call : Call}
    (h : (subscribing link telemetry failed).Asks call) :
    (subscribing link telemetry failed').Asks call := by
  cases call <;> exact h

/-- A transfer for a request within limits, which has passed its checks. -/
def Transfer.Within (limits : Limits) (profile : Profile) (t : Transfer) : Prop :=
  ∃ c request, Central.Coherent c ∧ c.profile = profile ∧ limits.requests request ∧
    check c request = .ok t

/-- One of two requests, within limits. -/
def Slot.Within (limits : Limits) (profile : Profile) : Slot → Prop
  | .pending transfer => transfer.Within limits profile
  | .settled response => limits.Admits response

/-- **A task within limits.** -/
def Task.Within (limits : Limits) (profile : Profile) (t : Task) : Prop :=
  match t.work with
  | .attempt _ stage =>
    (∀ ticket ∈ t.unanswered, stage.Asks ticket.call) ∧
      ∀ e, stage.failure? = some (.encode e) → limits.failures e
  | .hangUp _ => ∀ ticket ∈ t.unanswered, ticket.call.isDisconnect = true
  | .single transfer next =>
    transfer.Within limits profile ∧ (∀ ticket ∈ t.unanswered, ticket.call = transfer.call) ∧
      ∀ response, limits.Admits response → (next response).Within limits
  | .pair first second next =>
    first.Within limits profile ∧ second.Within limits profile ∧
      (∀ ticket ∈ t.unanswered, ∃ transfer : Transfer,
        transfer.Within limits profile ∧ ticket.call = transfer.call) ∧
      ∀ r₁ r₂, limits.Admits r₁ → limits.Admits r₂ → (next r₁ r₂).Within limits
  | .finished outcome => t.unanswered = [] ∧ limits.Admits outcome

section Within

variable {limits : Limits} {profile : Profile} {c : Central} {t : Task} {session : Nat}
  {link : Link}

/-- **What the calls of a task within limits are**: those of a connect cycle, the closing of
a link, or what carries out a request within the limits. -/
theorem Task.Within.call (h : t.Within limits profile) {ticket : Ticket}
    (hmem : ticket ∈ t.unanswered) :
    (∃ stage : Stage, stage.Asks ticket.call) ∨ ticket.call.isDisconnect = true ∨
      ∃ transfer : Transfer, transfer.Within limits profile ∧ ticket.call = transfer.call := by
  simp only [Within] at h
  split at h
  next session stage _ => exact .inl ⟨stage, h.1 ticket hmem⟩
  next => exact .inr (.inl (h ticket hmem))
  next transfer next _ => exact .inr (.inr ⟨transfer, h.1, h.2.1 ticket hmem⟩)
  next => exact .inr (.inr (h.2.2.1 ticket hmem))
  next => exact absurd (h.1 ▸ hmem) List.not_mem_nil

/-- Which of its calls a task has already sent makes no difference. -/
theorem Task.Within.congr {t' : Task} (h : t.Within limits profile) (hwork : t'.work = t.work)
    (hcalls : ∀ ticket ∈ t'.unanswered, ticket ∈ t.unanswered) : t'.Within limits profile := by
  simp only [Within, hwork] at h ⊢
  split at h
  next => exact ⟨fun ticket hmem => h.1 ticket (hcalls ticket hmem), h.2⟩
  next => exact fun ticket hmem => h ticket (hcalls ticket hmem)
  next => exact ⟨h.1, fun ticket hmem => h.2.1 ticket (hcalls ticket hmem), h.2.2⟩
  next =>
    exact ⟨h.1, h.2.1, fun ticket hmem => h.2.2.1 ticket (hcalls ticket hmem), h.2.2.2⟩
  next => exact ⟨List.eq_nil_iff_forall_not_mem.mpr fun ticket hmem =>
      List.not_mem_nil (h.1 ▸ hcalls ticket hmem), h.2⟩

theorem Task.within_finished {outcome : Outcome} (h : limits.Admits outcome) :
    (Task.finished outcome).Within limits profile :=
  ⟨rfl, h⟩

/-! ### Connect cycles -/

namespace Attempt

variable {e : Error}

theorem within_report (he : limits.Admits (.error e : Outcome)) :
    (report c e).task.Within limits profile :=
  Task.within_finished he

theorem within_fail (he : limits.Admits (.error e : Outcome)) (got : Option Link) :
    (fail c session got e).task.Within limits profile := by
  rw [fail_eq]
  split
  · refine ⟨by simp [Task.asking, Task.unanswered, Stage.Asks], fun e' he' => he e' ?_⟩
    rw [Option.some.inj he']
  · exact within_report he

/-- A cycle that goes on with one call. -/
theorem within_asking {stage : Stage} {call : Call} (hasks : stage.Asks call)
    (hfailure : stage.failure? = none) :
    (Task.asking (.attempt session stage) call).Within limits profile :=
  ⟨by simpa [Task.asking, Task.unanswered] using hasks, by simp [hfailure]⟩

/-- A cycle that goes on with a call for each of its telemetry channels. -/
theorem within_askingAll {stage : Stage} {telemetry : List (ChannelSpec × Handle)}
    {call : Handle → Call} (hasks : ∀ entry ∈ telemetry, stage.Asks (call entry.2))
    (hfailure : stage.failure? = none) :
    (Task.askingAll (.attempt session stage)
      (telemetry.map fun (_, handle) => call handle)).Within limits profile := by
  refine ⟨fun ticket hmem => ?_, by simp [hfailure]⟩
  obtain ⟨entry, hentry, hcall⟩ := List.mem_map.mp (Task.call_mem_of_askingAll hmem)
  exact hcall ▸ hasks entry hentry

theorem within_complete : (complete c session link).task.Within limits profile := by
  rw [complete]
  split
  · exact Task.within_finished (Limits.admits_ok _)
  next e he =>
    rw [Central.enter] at he
    split at he
    · exact absurd he (by simp)
    · obtain rfl := Except.error.inj he
      exact within_fail (by simp [Limits.Admits]) _

theorem within_startReading (telemetry : List (ChannelSpec × Handle)) :
    (startReading c session link telemetry).task.Within limits profile := by
  rw [startReading]
  split
  · exact within_complete
  · exact within_askingAll (fun entry hmem => ⟨rfl, entry.1, hmem⟩) rfl

theorem within_startSubscribing (telemetry : List (ChannelSpec × Handle)) :
    (startSubscribing c session link telemetry).task.Within limits profile := by
  rw [startSubscribing]
  split
  · exact within_startReading telemetry
  · exact within_askingAll (fun entry hmem => ⟨rfl, entry.1, hmem⟩) rfl

theorem within_startDiscovering :
    (startDiscovering c session link).task.Within limits profile := by
  simp only [startDiscovering, Central.enter]
  split
  · exact within_asking rfl rfl
  next e he =>
    split at he
    · exact absurd he (by simp)
    · obtain rfl := Except.error.inj he
      exact within_fail (by simp [Limits.Admits]) _

theorem within_resolve (services : List Service) :
    (resolve c session link services).task.Within limits profile := by
  rw [resolve]
  split
  next e he =>
    refine within_fail ?_ _
    rcases Handles.error_of_resolve he with ⟨_, _, rfl⟩ | ⟨_, _, rfl⟩ <;> simp [Limits.Admits]
  next =>
    split
    next e he =>
      rw [Central.takeHandles] at he
      split at he
      · exact absurd he (by simp)
      · obtain rfl := Except.error.inj he
        exact within_fail (by simp [Limits.Admits]) _
    next => exact within_startSubscribing _

theorem within_proceedSubscribing {telemetry : List (ChannelSpec × Handle)}
    {failed : Option (Nat × Error)} {rest : Task}
    (hcalls : ∀ ticket ∈ rest.unanswered,
      (Stage.subscribing link telemetry failed).Asks ticket.call)
    (hfailed : ∀ e, failed.map Prod.snd = some (.encode e) → limits.failures e) :
    (proceedSubscribing c session link telemetry failed rest).task.Within limits profile := by
  simp only [proceedSubscribing]
  split
  · split
    · exact ⟨hcalls, hfailed⟩
    · exact within_fail (fun e he => hfailed e (by simpa using he)) _
  · split
    · exact within_startReading telemetry
    · exact ⟨hcalls, hfailed⟩

/-- **A connect cycle stays within the limits** that the replies keep. -/
theorem within_answer {stage : Stage} {rest : Task} {slot : Nat} {reply : Reply} {turn : Turn}
    (h : answer c session stage rest slot reply = some turn)
    (hrest : rest.work = .attempt session stage) (hwithin : rest.Within limits profile)
    (hreply : ∀ e, reply.error? = some (.encode e) → limits.failures e) :
    turn.task.Within limits profile := by
  have hadmits (e : Error) (he : reply.error? = some e) :
      limits.Admits (.error e : Outcome) := by
    intro e' he'
    rw [Except.error.inj he'] at he
    exact hreply e' he
  have hwithin' := hwithin
  simp only [Task.Within, hrest] at hwithin'
  obtain ⟨hcalls, hfailure⟩ := hwithin'
  simp only [answer] at h
  -- One case for each reply that a stage takes, in the order of the stages.
  split at h
  · split at h
    · obtain rfl := Option.some.inj h
      exact within_asking trivial rfl
    · obtain rfl := Option.some.inj h
      exact within_fail (by simp [Limits.Admits]) _
  next e =>
    obtain rfl := Option.some.inj h
    exact within_fail (hadmits e rfl) _
  next =>
    split at h
    · obtain rfl := Option.some.inj h
      exact within_asking rfl rfl
    · obtain rfl := Option.some.inj h
      exact within_asking trivial rfl
  next =>
    obtain rfl := Option.some.inj h
    exact within_fail (by simp [Limits.Admits]) _
  next link e =>
    obtain rfl := Option.some.inj h
    exact within_fail (hadmits e rfl) _
  next =>
    obtain rfl := Option.some.inj h
    exact within_asking rfl rfl
  next link e =>
    obtain rfl := Option.some.inj h
    exact within_fail (hadmits e rfl) _
  next =>
    obtain rfl := Option.some.inj h
    exact within_startDiscovering
  next link e =>
    obtain rfl := Option.some.inj h
    exact within_fail (hadmits e rfl) _
  next link services =>
    obtain rfl := Option.some.inj h
    exact within_resolve services
  next link telemetry failed outcome =>
    obtain rfl := Option.some.inj h
    refine within_proceedSubscribing
      (fun ticket hmem => Stage.asks_subscribing (hcalls ticket hmem)) fun e he => ?_
    rcases firstFailed_eq he with he | rfl
    · exact hfailure e he
    · exact hreply e rfl
  next link telemetry data =>
    obtain ⟨⟨spec, handle⟩, -, h⟩ := Option.bind_eq_some_iff.mp h
    obtain rfl := Option.some.inj h
    simp only [Turn.after]
    split
    · exact within_complete
    · exact hwithin
  next e =>
    obtain rfl := Option.some.inj h
    exact within_report fun e' he' => hfailure e' (by rw [← Except.error.inj he']; rfl)
  next => exact absurd h (by simp)

end Attempt

/-! ### Scripts -/

/-- A request within limits only fails to be encoded as they allow. -/
theorem Limits.Suits.admits_check (hlimits : limits.Suits profile) (hc : c.Coherent)
    (hprofile : c.profile = profile) {request : Request} {e : Error}
    (hrequest : limits.requests request) (h : Transfer.check c request = .error e) :
    limits.Admits (.error e : Response) := by
  intro e' he'
  obtain rfl := Except.error.inj he'
  cases hc.turned_iff.mpr h with
  | unencodable hspec _ _ hencode => exact hlimits request _ e' hrequest (hprofile ▸ hspec) hencode

theorem Slot.within_ofCheck (hlimits : limits.Suits profile) (hc : c.Coherent)
    (hprofile : c.profile = profile) {request : Request} (hrequest : limits.requests request) :
    (Slot.ofCheck (Transfer.check c request)).Within limits profile := by
  cases hcheck : Transfer.check c request with
  | ok transfer => exact ⟨c, request, hc, hprofile, hrequest, hcheck⟩
  | error e => exact hlimits.admits_check hc hprofile hrequest hcheck

theorem Slot.Within.exists_of_mem {slot : Slot} {number : Nat} {ticket : Ticket}
    (h : slot.Within limits profile) (hmem : ticket ∈ slot.tickets number) :
    ∃ transfer : Transfer, transfer.Within limits profile ∧ ticket.call = transfer.call := by
  cases slot with
  | pending transfer =>
    obtain rfl := List.mem_singleton.mp hmem
    exact ⟨transfer, h, rfl⟩
  | settled => exact absurd hmem List.not_mem_nil

/-- Two requests at the same time, each within the limits, and what comes after them. -/
theorem Slot.within_proceed {first second : Slot} {next : Response → Response → Script}
    {rest : Task} (hfirst : first.Within limits profile) (hsecond : second.Within limits profile)
    (hcalls : ∀ ticket ∈ rest.unanswered, ∃ transfer : Transfer,
      transfer.Within limits profile ∧ ticket.call = transfer.call)
    (hnext : ∀ r₁ r₂, limits.Admits r₁ → limits.Admits r₂ → (next r₁ r₂).Within limits)
    (hrun : ∀ r₁ r₂, (next r₁ r₂).Within limits →
      ((next r₁ r₂).run c).task.Within limits profile) :
    (Slot.proceed c first second next rest).task.Within limits profile := by
  cases first with
  | pending transfer => exact ⟨hfirst, hsecond, hcalls, hnext⟩
  | settled r₁ =>
    cases second with
    | pending transfer => exact ⟨hfirst, hsecond, hcalls, hnext⟩
    | settled r₂ => exact hrun r₁ r₂ (hnext r₁ r₂ hfirst hsecond)

/-- **A script within limits is worked off within them.** -/
theorem Script.within_run (hlimits : limits.Suits profile) (hc : c.Coherent)
    (hprofile : c.profile = profile) {script : Script} (h : script.Within limits) :
    (script.run c).task.Within limits profile := by
  induction script with
  | finish outcome => exact Task.within_finished h
  | report text level next ih => exact ih h
  | exchange request next ih =>
    obtain ⟨hrequest, hnext⟩ := h
    rw [run]
    split
    next transfer hcheck =>
      exact ⟨⟨c, request, hc, hprofile, hrequest, hcheck⟩,
        by simp [Task.asking, Task.unanswered], hnext⟩
    next e hcheck =>
      have he := hlimits.admits_check hc hprofile hrequest hcheck
      exact ih (.error e) (hnext _ he)
  | exchangeBoth first second next ih =>
    obtain ⟨hfirst, hsecond, hnext⟩ := h
    have hwithin₁ := Slot.within_ofCheck hlimits hc hprofile hfirst
    have hwithin₂ := Slot.within_ofCheck hlimits hc hprofile hsecond
    rw [(exchangeBoth_eq c first second next).1]
    refine Slot.within_proceed hwithin₁ hwithin₂ (fun ticket hmem => ?_) hnext ih
    rw [Task.unanswered, List.append_nil, List.mem_append] at hmem
    rcases hmem with hmem | hmem
    · exact hwithin₁.exists_of_mem hmem
    · exact hwithin₂.exists_of_mem hmem

/-- A request that is answered fails to be encoded only if the reply says so. -/
theorem Transfer.Within.admits_conclude {c' : Central} {transfer : Transfer} {reply : Reply}
    {response : Response} (hwithin : transfer.Within limits profile)
    (hreply : ∀ e, reply.error? = some (.encode e) → limits.failures e)
    (h : transfer.conclude c reply = some (c', response)) : limits.Admits response := by
  obtain ⟨c₀, request, hc₀, -, -, hcheck⟩ := hwithin
  have hcarries := hc₀.carries_of_check hcheck
  rintro e rfl
  cases Settled.of_conclude (mem_of_spec? hcarries.spec_eq).2 hcarries.outgoing_eq h with
  | failed he => exact hreply e he

/-! ### Turns -/

/-- **The first turn of a task**, of whatever kind. -/
theorem Task.within_start (hlimits : limits.Suits profile) (hc : c.Coherent)
    (hprofile : c.profile = profile) {operation : Operation}
    (h : ∀ script, operation = .run script → script.Within limits) :
    (start c operation).task.Within limits profile := by
  cases operation with
  | connect =>
    rw [start]
    split
    · exact Attempt.within_asking trivial rfl
    next e he =>
      refine within_finished ?_
      rw [Central.openSession] at he
      split at he
      · exact absurd he (by simp)
      · obtain rfl := Except.error.inj he
        simp [Limits.Admits]
  | disconnect =>
    rw [start]
    split
    · simp [Within, asking, unanswered, Call.isDisconnect]
    · exact within_finished (Limits.admits_ok _)
  | run script => exact Script.within_run hlimits hc hprofile (h script rfl)

/-- **The turn after a reply** that keeps the limits itself. -/
theorem Task.Within.answer (hlimits : limits.Suits profile) (hc : c.Coherent)
    (hprofile : c.profile = profile) (hfits : t.Fits c) (h : t.Within limits profile)
    {slot : Nat} {reply : Reply} {turn : Turn}
    (hreply : ∀ e, reply.error? = some (.encode e) → limits.failures e)
    (hturn : t.answer c slot reply = some turn) : turn.task.Within limits profile := by
  have hwithin := h
  simp only [Within] at hwithin
  split at hwithin
  next session stage hwork =>
    obtain ⟨-, rest, hrest, hsub, hanswer⟩ := answer_of_attempt hwork hturn
    exact Attempt.within_answer hanswer hrest (h.congr (hrest.trans hwork.symm) hsub) hreply
  next session hwork =>
    simp only [Task.answer, hwork, Option.ite_none_right_eq_some, Option.some.injEq] at hturn
    exact hturn.2 ▸ within_finished (Limits.admits_ok _)
  next transfer next hwork =>
    simp only [Task.answer, hwork, Option.ite_none_right_eq_some] at hturn
    obtain ⟨⟨c', response⟩, hconclude, rfl⟩ := Option.map_eq_some_iff.mp hturn.2
    simp only [Fits, hwork] at hfits
    have hchange := Transfer.conclude_change hfits hconclude
    obtain ⟨htransfer, -, hnext⟩ := hwithin
    exact Script.within_run hlimits (hchange.coherent hc) (hchange.profile_eq.trans hprofile)
      (hnext _ (htransfer.admits_conclude hreply hconclude))
  next first second next hwork =>
    obtain ⟨hfirst, hsecond, hcalls, hnext⟩ := hwithin
    simp only [Fits, hwork] at hfits
    have hrun {c' : Central} {transfer : Transfer} {response : Response}
        (hfits : transfer.Fits c) (hconclude : transfer.conclude c reply = some (c', response))
        (r₁ r₂ : Response) (h : (next r₁ r₂).Within limits) :
        ((next r₁ r₂).run c').task.Within limits profile := by
      have hchange := Transfer.conclude_change hfits hconclude
      exact Script.within_run hlimits (hchange.coherent hc) (hchange.profile_eq.trans hprofile) h
    have hleft : ∀ ticket ∈ Task.unanswered { t with
        sent := t.sent.filter fun ticket => ticket.slot != slot }, ∃ transfer : Transfer,
          transfer.Within limits profile ∧ ticket.call = transfer.call := by
      intro ticket hmem
      simp only [unanswered, List.mem_append, List.mem_filter] at hmem
      exact hcalls ticket (List.mem_append.mpr (hmem.imp_right And.left))
    simp only [Task.answer, hwork, Option.ite_none_right_eq_some] at hturn
    obtain ⟨-, hturn⟩ := hturn
    split at hturn
    next transfer =>
      obtain ⟨⟨c', response⟩, hconclude, rfl⟩ := Option.map_eq_some_iff.mp hturn
      exact Slot.within_proceed
        (Transfer.Within.admits_conclude hfirst hreply hconclude) hsecond hleft hnext
        (hrun hfits.1 hconclude)
    next transfer =>
      obtain ⟨⟨c', response⟩, hconclude, rfl⟩ := Option.map_eq_some_iff.mp hturn
      exact Slot.within_proceed hfirst
        (Transfer.Within.admits_conclude hsecond hreply hconclude) hleft hnext
        (hrun hfits.2 hconclude)
    next => exact absurd hturn (by simp)
  next outcome hwork => exact absurd hturn (by simp [Task.answer, hwork])

end Within

end CarrierLink
