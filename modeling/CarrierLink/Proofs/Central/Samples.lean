import CarrierLink.Proofs.Central.LateWords

/-!
# The values that a central keeps

Values of a channel come to a central in three ways: the board pushes them, they are read, or
they are written and the board has said so. Each of these is a *sample* of the channel, and
`CarrierLink.Moment.sample?` says which sample a moment brings to the live session. What the
central keeps of a channel is the last of them: a step keeps the sample that it brings and
nothing else (`CarrierLink.System.Sound.values_of_step`), and a session begins with nothing,
so that the latest value of a channel is that of the sample which has come last
(`CarrierLink.System.lastValue_of_leads`).

It is the order in which samples come that counts here, not the order in which the board has
taken them.
-/

namespace CarrierLink

/-! ### Samples -/

/-- The sample that bytes of a channel stand for, if they decode. -/
def ChannelSpec.sample? (spec : ChannelSpec) (data : Bytes) : Option (Channel × Value) :=
  match spec.wire.decode data with
  | .ok value => some (spec.channel, value)
  | .error _ => none

/-- The sample that is pushed: one of a channel that has a route. -/
def Central.pushed? (c : Central) : LinkEvent → Option (Channel × Value)
  | .notification characteristic data =>
    match c.connection.routes.bind (Routes.dispatch · characteristic data) with
    | some (channel, .ok value) => some (channel, value)
    | _ => none
  | .disconnected => none

/-- The sample that a first read brings. -/
def Stage.sample? (stage : Stage) (slot : Nat) (reply : Reply) : Option (Channel × Value) :=
  match stage, reply with
  | .reading _ telemetry, .data (.ok data) =>
    telemetry[slot]?.bind fun entry => entry.1.sample? data
  | _, _ => none

/-- The sample that a request brings: what has been read, or what has been written as the
board has it. -/
def Transfer.sample? (t : Transfer) (reply : Reply) : Option (Channel × Value) :=
  match t.outgoing, reply with
  | none, .data (.ok data) => t.spec.sample? data
  | some (_, data), .done (.ok ()) => t.spec.sample? data
  | _, _ => none

/-- The sample that a reply to a task brings to a session. -/
def Task.sample? (t : Task) (session slot : Nat) (reply : Reply) : Option (Channel × Value) :=
  match t.work with
  | .attempt session' stage => if session' = session then stage.sample? slot reply else none
  | .single .. | .pair .. => (t.transfer? slot).bind fun transfer =>
      if transfer.session = session then transfer.sample? reply else none
  | .hangUp _ | .finished _ => none

/-- The sample that an action brings to a session. -/
def System.sample? (s : System) (session : Nat) : Action → Option (Channel × Value)
  | .reply number slot reply => s.tasks[number]?.bind (Task.sample? · session slot reply)
  | .push session' event => if session' = session then s.central.pushed? event else none
  | .start _ | .send _ | .endOfStream _ => none

/-- **The sample that a moment brings** to a session while it is live. -/
def Moment.sample? (m : Moment) (session : Nat) : Option (Channel × Value) :=
  if m.before.central.isLive session then m.before.sample? session m.action else none

/-- The values of a channel with a sample more. -/
def Table.keeping (values : Table Channel Value) : Option (Channel × Value) → Table Channel Value
  | some (channel, value) => values.insert channel value
  | none => values

/-! ### What a turn keeps -/

section Turns

variable {session slot : Nat} {c c' : Central} {reply : Reply} {turn : Turn}

theorem Central.values_of_store (hlive : c.connection.session = some session)
    (channel : Channel) (value : Value) :
    (c.store session channel value).connection.values =
      c.connection.values.insert channel value := by
  rw [store_of_live hlive]

/-- What a turn leaves of the values of a session, if it does not end the session. -/
def Turn.Keeps (session : Nat) (values : Table Channel Value) (turn : Turn) : Prop :=
  turn.central.connection.session = some session → turn.central.connection.values = values

namespace Attempt

variable {link : Link} {telemetry : List (ChannelSpec × Handle)}

/-- A cycle that fails ends its session. -/
theorem keeps_fail (values : Table Channel Value) (got : Option Link) (e : Error) :
    (fail c session got e).Keeps session values := by
  have hdead := c.dead_of_abandon session
  intro hlive
  rw [fail_eq] at hlive
  split at hlive
  · exact absurd hlive hdead
  · exact absurd hlive hdead

theorem keeps_complete : (complete c session link).Keeps session c.connection.values := by
  rw [complete, Central.enter]
  split
  next c' henter =>
    split at henter
    · obtain rfl := Except.ok.inj henter
      exact fun _ => rfl
    · exact absurd henter (by simp)
  next => exact keeps_fail _ _ _

theorem keeps_startReading :
    (startReading c session link telemetry).Keeps session c.connection.values := by
  rw [startReading]
  split
  · exact keeps_complete
  · exact fun _ => rfl

theorem keeps_startSubscribing :
    (startSubscribing c session link telemetry).Keeps session c.connection.values := by
  rw [startSubscribing]
  split
  · exact keeps_startReading
  · exact fun _ => rfl

theorem keeps_startDiscovering :
    (startDiscovering c session link).Keeps session c.connection.values := by
  have hvalues : (c.startPump session link).connection.values = c.connection.values := by
    rw [Central.startPump]
    split <;> rfl
  rw [startDiscovering, Central.enter]
  split
  next c' henter =>
    split at henter
    · obtain rfl := Except.ok.inj henter
      exact fun _ => hvalues
    · exact absurd henter (by simp)
  next => exact keeps_fail _ _ _

theorem keeps_resolve (services : List Service) :
    (resolve c session link services).Keeps session c.connection.values := by
  rw [resolve]
  split
  · exact keeps_fail _ _ _
  · rw [Central.takeHandles]
    split
    next => exact keeps_fail _ _ _
    next c' htake =>
      split at htake
      · obtain rfl := Except.ok.inj htake
        exact keeps_startSubscribing
      · exact absurd htake (by simp)

theorem keeps_proceedSubscribing {failed : Option (Nat × Error)} {rest : Task} :
    (proceedSubscribing c session link telemetry failed rest).Keeps session
      c.connection.values := by
  simp only [proceedSubscribing]
  split
  · split
    · exact fun _ => rfl
    · exact keeps_fail _ _ _
  · split
    · exact keeps_startReading
    · exact fun _ => rfl

/-- A first read brings the sample that its bytes stand for. -/
theorem values_receive (hlive : c.connection.session = some session) (spec : ChannelSpec)
    (data : Bytes) :
    (receive c session spec (.ok data)).1.connection.values =
      c.connection.values.keeping (spec.sample? data) := by
  simp only [receive, ChannelSpec.sample?]
  cases spec.wire.decode data with
  | ok value =>
    simp only [Central.deliver_of_live hlive]
    exact Central.values_of_store hlive _ _
  | error e => rfl

/-- **A turn of a cycle keeps the sample of its reply**, which is that of a first read. -/
theorem keeps_answer {stage : Stage} {rest : Task}
    (h : answer c session stage rest slot reply = some turn)
    (hlive : c.connection.session = some session) :
    turn.Keeps session (c.connection.values.keeping (stage.sample? slot reply)) := by
  simp only [answer] at h
  split at h
  next available =>
    split at h
    · obtain rfl := Option.some.inj h
      exact fun _ => rfl
    · obtain rfl := Option.some.inj h
      exact keeps_fail _ _ _
  next =>
    obtain rfl := Option.some.inj h
    exact keeps_fail _ _ _
  next link =>
    rw [Central.takeLink, if_pos (Central.isLive_iff.mpr hlive)] at h
    obtain rfl := Option.some.inj h
    exact fun _ => rfl
  next =>
    obtain rfl := Option.some.inj h
    exact keeps_fail _ _ _
  next =>
    obtain rfl := Option.some.inj h
    exact keeps_fail _ _ _
  next =>
    obtain rfl := Option.some.inj h
    exact fun _ => rfl
  next =>
    obtain rfl := Option.some.inj h
    exact keeps_fail _ _ _
  next =>
    obtain rfl := Option.some.inj h
    exact keeps_startDiscovering
  next =>
    obtain rfl := Option.some.inj h
    exact keeps_fail _ _ _
  next services =>
    obtain rfl := Option.some.inj h
    exact keeps_resolve services
  next =>
    obtain rfl := Option.some.inj h
    exact keeps_proceedSubscribing
  next link telemetry data =>
    obtain ⟨⟨spec, handle⟩, hspec, h⟩ := Option.bind_eq_some_iff.mp h
    obtain rfl := Option.some.inj h
    have hvalues : (receive c session spec data).1.connection.values =
        c.connection.values.keeping ((Stage.reading link telemetry).sample? slot (.data data)) := by
      cases data with
      | ok data => simpa [Stage.sample?, hspec] using values_receive hlive spec data
      | error e => rfl
    rw [← hvalues]
    split
    · exact keeps_complete
    · exact fun _ => rfl
  next =>
    obtain rfl := Option.some.inj h
    exact fun _ => rfl
  next => exact absurd h (by simp)

end Attempt

/-- **The conclusion of a request keeps its sample**, if its session is the live one. -/
theorem Transfer.values_of_conclude {t : Transfer} {response : Response}
    (hlive : c.connection.session = some session)
    (h : t.conclude c reply = some (c', response)) :
    c'.connection.values = c.connection.values.keeping
      (if t.session = session then t.sample? reply else none) := by
  by_cases hsession : t.session = session
  · subst hsession
    rw [if_pos rfl]
    simp only [conclude, if_pos (Central.isLive_iff.mpr hlive)] at h
    split at h
    next hnone =>
      obtain ⟨rfl, -⟩ := Prod.mk.inj (Option.some.inj h)
      simp [sample?, hnone, Table.keeping]
    next data hnone =>
      simp only [sample?, hnone, ChannelSpec.sample?]
      cases hdecode : t.spec.wire.decode data with
      | ok value =>
        simp only [hdecode] at h
        obtain ⟨rfl, -⟩ := Prod.mk.inj (Option.some.inj h)
        exact Central.values_of_store hlive _ _
      | error e =>
        simp only [hdecode] at h
        obtain ⟨rfl, -⟩ := Prod.mk.inj (Option.some.inj h)
        rfl
    next hsome =>
      obtain ⟨rfl, -⟩ := Prod.mk.inj (Option.some.inj h)
      simp [sample?, hsome, Table.keeping]
    next value data hsome =>
      obtain ⟨rfl, -⟩ := Prod.mk.inj (Option.some.inj h)
      simp only [sample?, hsome, ChannelSpec.sample?, keep]
      cases t.spec.wire.decode data with
      | ok value => exact Central.values_of_store hlive _ _
      | error e => rfl
    next => exact absurd h (by simp)
  · have hdead : c.connection.session ≠ some t.session := by
      rw [hlive]
      exact fun heq => hsession (Option.some.inj heq).symm
    rw [if_neg hsession, (conclude_of_dead hdead h).1]
    rfl

/-- **A request that is answered leaves the central as its conclusion does**, whatever its
script goes on with. -/
theorem Task.central_of_answer {t : Task} {transfer : Transfer} (hc : c.Coherent)
    (hfits : t.Fits c) (htransfer : t.transfer? slot = some transfer)
    (h : t.answer c slot reply = some turn) :
    ∃ response, transfer.conclude c reply = some (turn.central, response) := by
  simp only [answer, Option.ite_none_right_eq_some] at h
  obtain ⟨-, h⟩ := h
  cases hwork : t.work with
  | single transfer' next =>
    simp only [Fits, hwork] at hfits h
    obtain rfl : transfer' = transfer := by simpa [transfer?, hwork] using htransfer
    obtain ⟨⟨c', r⟩, hconclude, rfl⟩ := Option.map_eq_some_iff.mp h
    have hc' := (Transfer.conclude_change hfits hconclude).coherent hc
    exact ⟨r, by rw [((next r).ofScript_run hc').central, hconclude]⟩
  | pair first second next =>
    simp only [Fits, hwork] at hfits h
    split at h
    next transfer' =>
      obtain rfl : transfer' = transfer := by simpa [transfer?, hwork] using htransfer
      obtain ⟨⟨c', r⟩, hconclude, rfl⟩ := Option.map_eq_some_iff.mp h
      have hchange := Transfer.conclude_change hfits.1 hconclude
      have hsettled : (Slot.settled r).Fits c' := trivial
      exact ⟨r, by rw [(Slot.ofScript_proceed (hchange.coherent hc) hsettled
        (hfits.2.change hchange) _ _).central, hconclude]⟩
    next transfer' =>
      obtain rfl : transfer' = transfer := by
        cases first <;> simpa [transfer?, hwork] using htransfer
      obtain ⟨⟨c', r⟩, hconclude, rfl⟩ := Option.map_eq_some_iff.mp h
      have hchange := Transfer.conclude_change hfits.2 hconclude
      have hsettled : (Slot.settled r).Fits c' := trivial
      exact ⟨r, by rw [(Slot.ofScript_proceed (hchange.coherent hc) (hfits.1.change hchange)
        hsettled _ _).central, hconclude]⟩
    next => exact absurd h (by simp)
  | _ => simp [transfer?, hwork] at htransfer

/-- **A turn after a reply keeps the sample of the reply**, unless it ends the session. -/
theorem Task.keeps_answer {t : Task} (hc : c.Coherent) (hfits : t.Fits c)
    (h : t.answer c slot reply = some turn) (hlive : c.connection.session = some session) :
    turn.Keeps session (c.connection.values.keeping (t.sample? session slot reply)) := by
  cases hwork : t.work with
  | attempt session' stage =>
    obtain ⟨-, rest, hrest, -, hanswer⟩ := answer_of_attempt hwork h
    simp only [sample?, hwork]
    by_cases hsession : session' = session
    · subst hsession
      rw [if_pos rfl]
      exact Attempt.keeps_answer hanswer hlive
    · -- The turn of a cycle whose session is over leaves the central alone.
      have hdead : c.connection.session ≠ some session' := by
        rw [hlive]
        exact fun heq => hsession (Option.some.inj heq).symm
      rw [if_neg hsession]
      cases Attempt.late_of_answer hanswer hrest hdead with
      | searches => exact fun _ => rfl
      | waits => exact fun _ => rfl
      | fails => exact fun _ => rfl
  | hangUp closed =>
    simp only [answer, hwork, Option.ite_none_right_eq_some, Option.some.injEq] at h
    obtain ⟨-, rfl⟩ := h
    simp only [sample?, hwork]
    cases closed with
    | none => exact fun _ => rfl
    | some session' =>
      by_cases hlive' : c.connection.session = some session'
      · intro hafter
        simp [hangUp, hc.close_of_live hlive', Central.cleared] at hafter
      · intro _
        simp [hangUp, Central.close_of_dead hlive', Table.keeping]
  | single | pair =>
    -- A request is all that a script can have waited with.
    cases Task.answered_of_answer hc hfits h with
    | attempt hattempt => exact absurd hattempt (by simp [attempt?, hwork])
    | hangUp hwork' => exact absurd (hwork'.symm.trans hwork) (by simp)
    | request htransfer =>
      intro _
      obtain ⟨r, hconclude⟩ := central_of_answer hc hfits htransfer h
      simp only [sample?, hwork, htransfer, Option.bind_some]
      exact Transfer.values_of_conclude hlive hconclude
  | finished outcome => exact absurd h (by simp [answer, hwork])

end Turns

/-! ### What a step keeps -/

namespace System

variable {s t : System} {now : List (Actor × Event)} {session : Nat}

/-- No operation brings a sample by beginning. -/
theorem Sound.values_of_start {operation : Operation} (hs : s.Sound)
    (h : s.step (.start operation) = some (t, now))
    (hlive : s.central.connection.session = some session)
    (hlive' : t.central.connection.session = some session) :
    t.central.connection.values = s.central.connection.values := by
  cases operation with
  | connect => rw [(step_connect_of_busy h (hs.coherent.phase_ne hlive)).2]
  | disconnect =>
    obtain ⟨rfl, -, -⟩ := step_start h
    simp only [Task.start] at hlive' ⊢
    split at hlive'
    · rfl
    · simp [CarrierLink.hangUp, hlive, hs.coherent.close_of_live hlive, Central.cleared] at hlive'
  | run script =>
    obtain ⟨rfl, -, -⟩ := step_start h
    rw [Task.start, (script.ofScript_run hs.coherent).central]

/-- **The pump of the live session keeps what is pushed.** -/
theorem Sound.values_of_push {event : LinkEvent} (hs : s.Sound)
    (h : s.step (.push session event) = some (t, now))
    (hlive : s.central.connection.session = some session)
    (hlive' : t.central.connection.session = some session) :
    t.central.connection.values =
      s.central.connection.values.keeping (s.central.pushed? event) := by
  obtain ⟨-, rfl, -, -⟩ := step_push h
  cases event with
  | disconnected =>
    simp [Central.receive, hs.coherent.close_of_live hlive, Central.stopPump,
      Central.cleared] at hlive'
  | notification characteristic data =>
    simp only [Central.receive, Central.route, if_pos (Central.isLive_iff.mpr hlive),
      Central.pushed?]
    rcases s.central.connection.routes.bind (Routes.dispatch · characteristic data) with
      _ | ⟨channel, _ | value⟩
    · rfl
    · rfl
    · simp only [Central.deliver_of_live hlive]
      exact Central.values_of_store hlive channel value

/-- **A step keeps the sample that it brings**, unless it ends the session. -/
theorem Sound.values_of_step {action : Action} (hs : s.Sound)
    (h : s.step action = some (t, now)) (hlive : s.central.connection.session = some session)
    (hlive' : t.central.connection.session = some session) :
    t.central.connection.values =
      s.central.connection.values.keeping (s.sample? session action) := by
  have hpump {session' : Nat} {event : LinkEvent}
      (h : s.step (.push session' event) = some (t, now)) : session' = session :=
    Option.some.inj ((hs.live_of_hasPump (step_push h).1).symm.trans hlive)
  cases action with
  | start operation => exact hs.values_of_start h hlive hlive'
  | send number =>
    obtain ⟨_, _, _, -, -, rfl, -⟩ := step_send h
    rfl
  | reply number slot reply =>
    obtain ⟨task, turn, htask, hturn, rfl, -⟩ := step_reply h
    simp only [sample?, htask, Option.bind_some]
    exact Task.keeps_answer hs.coherent (hs.fits number task htask) hturn hlive hlive'
  | push session' event =>
    obtain rfl := hpump h
    simp only [sample?, if_true]
    exact hs.values_of_push h hlive hlive'
  | endOfStream session' =>
    obtain rfl := hpump (step_endOfStream h)
    exact hs.values_of_push (step_endOfStream h) hlive hlive'

end System

/-! ### Histories -/

/-- The value of a channel that a moment brings to a session. -/
def Moment.value? (m : Moment) (session : Nat) (channel : Channel) : Option Value :=
  (m.sample? session).bind fun sample => if sample.1 = channel then some sample.2 else none

/-- **The values of a channel that have come to a session**, in the order in which they came. -/
def samples (ms : List Moment) (session : Nat) (channel : Channel) : List Value :=
  ms.filterMap fun m => m.value? session channel

theorem samples_snoc (past : List Moment) (m : Moment) (session : Nat) (channel : Channel) :
    samples (past ++ [m]) session channel =
      samples past session channel ++ (m.value? session channel).toList := by
  rw [samples, List.filterMap_append]
  cases h : m.value? session channel <;> simp [samples, h]

theorem Table.get?_keeping (values : Table Channel Value) (sample : Option (Channel × Value))
    (channel : Channel) :
    (values.keeping sample).get? channel =
      (sample.bind fun sample => if sample.1 = channel then some sample.2 else none).or
        (values.get? channel) := by
  cases sample with
  | none => rfl
  | some sample =>
    rw [keeping, get?_insert]
    by_cases h : channel = sample.1
    · simp [h]
    · simp [h, Ne.symm h]

/-- A sample comes to a session that is live. -/
theorem Moment.live_of_value? {m : Moment} {session : Nat} {channel : Channel} {value : Value}
    (h : m.value? session channel = some value) :
    m.before.central.connection.session = some session := by
  obtain ⟨sample, hsample, -⟩ := Option.bind_eq_some_iff.mp h
  rw [sample?, Option.ite_none_right_eq_some] at hsample
  exact Central.isLive_iff.mp hsample.1

namespace System

/-- A session that has not begun has no samples. -/
theorem samples_of_unborn {profile : Profile} {ms : List Moment} {s : System} {session : Nat}
    (h : (initial profile).Leads ms s) (hunborn : s.central.sessions < session)
    (channel : Channel) : samples ms session channel = [] := by
  refine List.filterMap_eq_nil_iff.mpr fun m hmem => ?_
  refine Option.not_isSome_iff_eq_none.mp fun hsome => ?_
  obtain ⟨value, hvalue⟩ := Option.isSome_iff_exists.mp hsome
  obtain ⟨past, later, rfl⟩ := List.append_of_mem hmem
  obtain ⟨hpast, hstep, hlater⟩ := h.split
  have hs := sound_of_leads hpast
  have hnewest := (hs.coherent.newest session (Moment.live_of_value? hvalue)).2
  have hrest : m.before.Leads (m :: later) s := ⟨rfl, hstep, hlater⟩
  have hle := (hs.sessions_le_of_leads hrest).2
  omega

/-- A session begins without values. -/
theorem Sound.values_of_beginning {m : Moment} {session : Nat} (hs : m.before.Sound)
    (hstep : m.before.step m.action = some (m.after, m.seen))
    (hdead : m.before.central.connection.session ≠ some session)
    (hlive' : m.after.central.connection.session = some session) :
    m.before.central.sessions < session ∧ m.after.central.connection.values = Table.empty := by
  obtain ⟨session', own, said, hchange⟩ := (hs.step hstep).2.change
  have hnew : m.before.central.sessions < session := by
    refine Nat.lt_of_not_le fun hbegun => ?_
    exact hdead (hchange.live_of_live hbegun hlive')
  refine ⟨hnew, ?_⟩
  generalize m.after.central = c' at hchange hlive'
  cases hchange with
  | rests => exact absurd hlive' hdead
  | opens hopen =>
    obtain ⟨hphase, -, rfl⟩ := Change.openSession_eq hopen
    rw [hs.coherent.idle (hs.coherent.phase_eq_iff.mp hphase)]
  | grows hlive _ hlive'' => exact absurd (hlive.trans (hlive''.symm.trans hlive')) hdead
  | enters hlive _ hlive'' => exact absurd (hlive.trans (hlive''.symm.trans hlive')) hdead
  | leaves => exact absurd hlive' (by simp [Central.cleared])
  | keeps hlive =>
    rw [Central.store_of_live hlive] at hlive'
    exact absurd hlive' hdead
  | closes => exact absurd hlive' (by simp [Central.cleared])

/-- **What is known of a channel is the sample that has come last** to the live session, if one
has come. -/
theorem lastValue_of_leads {profile : Profile} {ms : List Moment} {s : System} {session : Nat}
    (h : (initial profile).Leads ms s) (hlive : s.central.connection.session = some session)
    (channel : Channel) :
    s.central.lastValue channel = (samples ms session channel).getLast? := by
  refine h.induction (motive := fun ms s => s.central.connection.session = some session →
    s.central.lastValue channel = (samples ms session channel).getLast?)
    (fun hlive => absurd hlive (by simp [initial])) (fun past m hpast hstep ih hlive' => ?_) hlive
  have hs := sound_of_leads hpast
  rw [samples_snoc, Central.lastValue]
  by_cases hbefore : m.before.central.connection.session = some session
  · rw [hs.values_of_step hstep hbefore hlive', Table.get?_keeping, ← Central.lastValue,
      ih hbefore, Moment.value?, Moment.sample?, if_pos (Central.isLive_iff.mpr hbefore)]
    cases hvalue : (m.before.sample? session m.action).bind fun sample =>
      if sample.1 = channel then some sample.2 else none <;> simp
  · obtain ⟨hnew, hempty⟩ := hs.values_of_beginning hstep hbefore hlive'
    have hnone : m.value? session channel = none := by
      rw [Moment.value?, Moment.sample?, if_neg (mt Central.isLive_iff.mp hbefore)]
      rfl
    rw [hempty, samples_of_unborn hpast hnew, hnone]
    rfl

end System

end CarrierLink
