import CarrierLink.Proofs.Central.LostLink
import CarrierLink.Proofs.Central.Samples

/-!
# What comes of the stream of a link

The pump of a session takes the items of its stream one by one. Once the session has its routes,
what comes of a stream is a function of the routes and of the items
(`CarrierLink.Routes.heard`): a notification with a route whose bytes decode is told as a value,
any other is dropped, and the first item that means a loss is told as a teardown and ends it all.

That the pump does so item by item is `CarrierLink.System.Sound.handsOn_of_takes`. For the whole
stream one more fact is needed: the routes of a session stay what they are as long as it lives
(`CarrierLink.System.Sound.routes_of_step`). They are laid when the services are known, and the
cycle does not come to that stage again.

Values are told by the pump and by the first reads of a cycle and by nobody else
(`CarrierLink.System.Sound.sample_of_value`). So as long as nothing is read or written, the values
that the observer is told are those of the stream, in its order
(`CarrierLink.System.stream_of_leads`).
-/

namespace CarrierLink

/-! ### Streams -/

/-- What the pump of a session takes at a moment. -/
def Moment.item? (m : Moment) (session : Nat) : Option (Option LinkEvent) :=
  m.action.item?.bind fun entry => if entry.1 = session then some entry.2 else none

/-- What the pump of a session takes in a history, in order. -/
def items (ms : List Moment) (session : Nat) : List (Option LinkEvent) :=
  ms.filterMap fun m => m.item? session

/-- What the pump of a session tells the observer in a history. -/
def pumped (ms : List Moment) (session : Nat) : List Callback :=
  ms.flatMap fun m => if (m.item? session).isSome then m.callbacks else []

theorem Moment.item?_eq_some_iff {m : Moment} {session : Nat} {item : Option LinkEvent} :
    m.item? session = some item ↔ m.Takes session item := by
  rw [item?, Takes, Option.bind_eq_some_iff]
  constructor
  · rintro ⟨⟨session', item'⟩, haction, htakes⟩
    obtain ⟨hsession, hitem⟩ := Option.ite_none_right_eq_some.mp htakes
    rw [haction, ← hsession, ← Option.some.inj hitem]
  · exact fun htakes => ⟨_, htakes, if_pos rfl⟩

theorem items_cons (m : Moment) (rest : List Moment) (session : Nat) :
    items (m :: rest) session = (m.item? session).toList ++ items rest session := by
  rw [items, List.filterMap_cons]
  cases m.item? session <;> rfl

theorem pumped_cons (m : Moment) (rest : List Moment) (session : Nat) :
    pumped (m :: rest) session =
      (if (m.item? session).isSome then m.callbacks else []) ++ pumped rest session := rfl

namespace Routes

/-- What a notification stands for: the channel that it is routed to and the value that it is
decoded to, with the shape of this channel. -/
def value? (routes : Routes) (characteristic : Uuid) (data : Bytes) : Option (Channel × Value) :=
  (routes.get? characteristic).bind fun (channel, wire) =>
    match wire.decode data with
    | .ok value => some (channel, value)
    | .error _ => none

/-- **What the observer is told of a stream**: the values that its notifications stand for, in
order, up to the first item that means a loss, and the teardown there. Nothing behind it
counts. -/
def heard (routes : Routes) : List (Option LinkEvent) → List Callback
  | [] => []
  | some (.notification characteristic data) :: rest =>
    match routes.value? characteristic data with
    | some (channel, value) => .value channel value :: routes.heard rest
    | none => routes.heard rest
  | some .disconnected :: _ | none :: _ => Callback.teardown

/-- A route leads to a telemetry channel, and decodes with its shape. -/
theorem exists_spec_of_get? {profile : Profile} {handles : Handles} {characteristic : Uuid}
    {channel : Channel} {wire : Wire}
    (h : (ofHandles profile handles).get? characteristic = some (channel, wire)) :
    ∃ spec ∈ profile.telemetry, spec.channel = channel ∧ spec.wire = wire ∧
      ∃ handle, handles.get? channel = some handle ∧ handle.uuid = characteristic := by
  obtain ⟨⟨spec, handle⟩, hentry, heq⟩ := List.mem_map.mp (Table.mem_of_get?_ofList h)
  obtain ⟨hspec, hhandle⟩ := Profile.mem_telemetryHandles.mp hentry
  obtain ⟨huuid, heq⟩ := Prod.mk.inj heq
  obtain ⟨hchannel, hwire⟩ := Prod.mk.inj heq
  exact ⟨spec, hspec, hchannel, hwire, handle, hchannel ▸ hhandle, huuid⟩

end Routes

/-- **What the pump of a session does with an item** once there are routes. -/
inductive Moment.HandsOn (m : Moment) (session : Nat) (routes : Routes) :
    Option LinkEvent → Prop
  /-- A value is told and kept. -/
  | value {characteristic : Uuid} {data : Bytes} {channel : Channel} {value : Value}
      (hvalue : routes.value? characteristic data = some (channel, value))
      (hcallbacks : m.callbacks = [.value channel value])
      (hlast : m.after.central.lastValue channel = some value)
      (hlive : m.after.central.connection.session = some session) :
      HandsOn m session routes (some (.notification characteristic data))
  /-- What has no route or does not decode leaves no trace. -/
  | dropped {characteristic : Uuid} {data : Bytes}
      (hnone : routes.value? characteristic data = none)
      (hcallbacks : m.callbacks = []) (hsame : m.after = m.before) :
      HandsOn m session routes (some (.notification characteristic data))
  /-- A loss is the end of the session. -/
  | lost {item : Option LinkEvent} (hloss : IsLoss item)
      (hcallbacks : m.callbacks = Callback.teardown) (hcleared : m.after.central.connection = {}) :
      HandsOn m session routes item

namespace System

variable {s t : System} {now : List (Actor × Event)} {m : Moment} {session : Nat}
  {routes : Routes} {item : Option LinkEvent}

/-! ### One item -/

/-- Only the pump of the live session takes anything. -/
theorem Sound.live_of_takes (hs : m.before.Sound)
    (hstep : m.before.step m.action = some (m.after, m.seen)) (htakes : m.Takes session item) :
    m.before.central.connection.session = some session :=
  hs.live_of_hasPump (step_push (step_of_takes hstep htakes)).1

/-- Before there are routes a notification leaves no trace. -/
theorem dropped_of_unrouted {characteristic : Uuid} {data : Bytes}
    (hstep : m.before.step m.action = some (m.after, m.seen))
    (htakes : m.Takes session (some (.notification characteristic data)))
    (hroutes : m.before.central.connection.routes = none) :
    m.after = m.before ∧ m.callbacks = [] := by
  obtain ⟨-, hafter, hcallbacks, -⟩ := step_push (step_of_takes hstep htakes)
  have hreceive : m.before.central.receive session (.notification characteristic data) =
      (m.before.central, []) := by
    simp [Central.receive, Central.route, hroutes]
  rw [Option.getD_some, hreceive] at hafter hcallbacks
  exact ⟨hafter, hcallbacks⟩

/-- **What becomes of an item.** -/
theorem Sound.handsOn_of_takes (hs : m.before.Sound)
    (hstep : m.before.step m.action = some (m.after, m.seen)) (htakes : m.Takes session item)
    (hroutes : m.before.central.connection.routes = some routes) :
    m.HandsOn session routes item := by
  have hlive := hs.live_of_takes hstep htakes
  obtain ⟨-, hafter, hcallbacks, -⟩ := step_push (step_of_takes hstep htakes)
  have hlost (hloss : IsLoss item) : m.HandsOn session routes item := by
    rw [hloss.getD_eq, Central.receive, hs.coherent.close_of_live hlive] at hafter hcallbacks
    exact .lost hloss hcallbacks (by rw [hafter]; rfl)
  cases item with
  | none => exact hlost (.inl rfl)
  | some event =>
    cases event with
    | disconnected => exact hlost (.inr rfl)
    | notification characteristic data =>
      simp only [Option.getD_some, Central.receive, Central.route,
        if_pos (Central.isLive_iff.mpr hlive), hroutes, Option.bind_some, Routes.dispatch]
        at hafter hcallbacks
      cases hroute : routes.get? characteristic with
      | none =>
        simp only [hroute, Option.map_none] at hafter hcallbacks
        exact .dropped (by rw [Routes.value?, hroute, Option.bind_none]) hcallbacks hafter
      | some route =>
        simp only [hroute, Option.map_some] at hafter hcallbacks
        cases hdecode : route.2.decode data with
        | error e =>
          simp only [hdecode] at hafter hcallbacks
          exact .dropped (by simp [Routes.value?, hroute, hdecode]) hcallbacks hafter
        | ok value =>
          simp only [hdecode, Central.deliver_of_live hlive] at hafter hcallbacks
          refine .value (by simp [Routes.value?, hroute, hdecode]) hcallbacks ?_ ?_
          · rw [hafter, Central.lastValue, Central.values_of_store hlive, Table.get?_insert,
              if_pos rfl]
          · rw [hafter, Central.store_of_live hlive, hlive]

end System

/-! ### What a cycle does beside the pump -/

/-- **A turn that leaves the routes alone** while its session lives, and tells no value. -/
structure Turn.Steady (session : Nat) (routes : Routes) (turn : Turn) : Prop where
  routed : turn.central.connection.session = some session →
    turn.central.connection.routes = some routes
  silent : ∀ channel value, .value channel value ∉ turn.callbacks

/-- Routes are laid for subscribing. -/
theorem Central.Coherent.phase_of_routes {c : Central} {session : Nat} {routes : Routes}
    (hc : c.Coherent) (hlive : c.connection.session = some session)
    (hroutes : c.connection.routes = some routes) :
    c.connection.phase = .subscribing ∨ c.connection.phase = .connected := by
  have hshape := hc.shaped session hlive
  cases hphase : c.connection.phase with
  | subscribing => exact .inl rfl
  | connected => exact .inr rfl
  | _ => simp_all [Connection.Shaped]

namespace Attempt

variable {session slot : Nat} {routes : Routes} {c : Central} {link : Link}
  {telemetry : List (ChannelSpec × Handle)} {stage : Stage} {rest : Task} {reply : Reply}
  {turn : Turn}

theorem steady_fail (got : Option Link) (e : Error) :
    (fail c session got e).Steady session routes := by
  refine ⟨fun hlive => ?_, fun channel value => ?_⟩
  · have hdead := c.dead_of_abandon session
    rw [fail_eq] at hlive
    split at hlive
    · exact absurd hlive hdead
    · exact absurd hlive hdead
  · rw [fail_eq]
    split
    · exact List.not_mem_nil
    · simp [report]

variable (hroutes : c.connection.routes = some routes)
include hroutes

theorem steady_complete : (complete c session link).Steady session routes := by
  rw [complete, Central.enter]
  split
  next heq =>
    split at heq
    · obtain rfl := Except.ok.inj heq
      exact ⟨fun _ => hroutes, by simp⟩
    · exact absurd heq (by simp)
  next => exact steady_fail _ _

theorem steady_startReading : (startReading c session link telemetry).Steady session routes := by
  rw [startReading]
  split
  · exact steady_complete hroutes
  · exact ⟨fun _ => hroutes, by simp⟩

theorem steady_proceedSubscribing {failed : Option (Nat × Error)} :
    (proceedSubscribing c session link telemetry failed rest).Steady session routes := by
  simp only [proceedSubscribing]
  split
  · split
    · exact ⟨fun _ => hroutes, by simp⟩
    · exact steady_fail _ _
  · split
    · exact steady_startReading hroutes
    · exact ⟨fun _ => hroutes, by simp⟩

variable (session) in
/-- A first read tells the sample that it brings. -/
theorem receive_of_routes (spec : ChannelSpec) (data : Except Error Bytes) :
    (receive c session spec data).1.connection.routes = some routes ∧
      ∀ channel value, .value channel value ∈ (receive c session spec data).2 →
        ∃ bytes, data = .ok bytes ∧ spec.sample? bytes = some (channel, value) := by
  simp only [receive]
  split
  next bytes =>
    split
    next value hdecode =>
      simp only [Central.deliver, Central.store]
      split
      · refine ⟨hroutes, fun channel value' hmem => ⟨bytes, rfl, ?_⟩⟩
        obtain ⟨rfl, rfl⟩ : channel = spec.channel ∧ value' = value := by simpa using hmem
        rw [ChannelSpec.sample?, hdecode]
      · exact ⟨hroutes, by simp⟩
    next => exact ⟨hroutes, by simp⟩
  next => exact ⟨hroutes, by simp⟩

/-- **A turn of a cycle that has its routes** leaves them alone, and tells no value but that of
a first read. Such a cycle is subscribing or reading. -/
theorem steady_of_answer (h : answer c session stage rest slot reply = some turn)
    (hc : c.Coherent) (hlive : c.connection.session = some session)
    (hmatches : stage.Matches c.connection) :
    (turn.central.connection.session = some session →
      turn.central.connection.routes = some routes) ∧
    ∀ channel value, .value channel value ∈ turn.callbacks →
      stage.sample? slot reply = some (channel, value) := by
  have hphase := hc.phase_of_routes hlive hroutes
  have hsteady (h : turn.Steady session routes) :
      (turn.central.connection.session = some session →
        turn.central.connection.routes = some routes) ∧
      ∀ channel value, .value channel value ∈ turn.callbacks →
        stage.sample? slot reply = some (channel, value) :=
    ⟨h.routed, fun channel value hmem => absurd hmem (h.silent channel value)⟩
  cases stage with
  | subscribing link telemetry failed =>
    cases reply with
    | done outcome =>
      obtain rfl := Option.some.inj h
      exact hsteady (steady_proceedSubscribing hroutes)
    | _ => exact absurd h (by simp [answer])
  | reading link telemetry =>
    cases reply with
    | data data =>
      obtain ⟨⟨spec, handle⟩, hspec, h⟩ := Option.bind_eq_some_iff.mp h
      obtain rfl := Option.some.inj h
      obtain ⟨hrouted, htold⟩ := receive_of_routes session hroutes spec data
      have hrest : Turn.Steady session routes (if rest.isIdle
          then complete (receive c session spec data).1 session link
          else ⟨(receive c session spec data).1, [], rest⟩) := by
        split
        · exact steady_complete hrouted
        · exact ⟨fun _ => hrouted, by simp⟩
      refine ⟨hrest.routed, fun channel value hmem => ?_⟩
      rcases List.mem_append.mp hmem with hmem | hmem
      · obtain ⟨bytes, rfl, hsample⟩ := htold channel value hmem
        simpa [Stage.sample?, hspec] using hsample
      · exact absurd hmem (hrest.silent channel value)
    | _ => exact absurd h (by simp [answer])
  | _ => simp_all [Stage.Matches]

end Attempt

/-- **Routes change by the session's own connect cycle only**, as long as it lives. -/
theorem Change.routes_eq {session session' : Nat} {c c' : Central} {own : Bool}
    {callbacks : List Callback} (h : Change session c own callbacks c')
    (hlive' : c'.connection.session = some session') :
    c'.connection.routes = c.connection.routes ∨ own = true ∧ session = session' := by
  cases h with
  | rests => exact .inl rfl
  | opens hopen =>
    obtain ⟨-, rfl, rfl⟩ := openSession_eq hopen
    exact .inr ⟨rfl, Option.some.inj hlive'⟩
  | grows _ _ hlive'' => exact .inr ⟨rfl, Option.some.inj (hlive''.symm.trans hlive')⟩
  | enters _ _ hlive'' => exact .inr ⟨rfl, Option.some.inj (hlive''.symm.trans hlive')⟩
  | leaves => exact absurd hlive' (by simp [Central.cleared])
  | keeps hlive =>
    rw [Central.store_of_live hlive]
    exact .inl rfl
  | closes => exact absurd hlive' (by simp [Central.cleared])

namespace System

variable {s t : System} {now : List (Actor × Event)} {m : Moment} {session : Nat}
  {routes : Routes} {item : Option LinkEvent}

/-- A reply to the cycle of a session that has its routes. -/
theorem Sound.steady_of_reply {number slot : Nat} {reply : Reply} (hs : s.Sound)
    (h : s.step (.reply number slot reply) = some (t, now))
    (hattempt : s.attempt? (.reply number slot reply) = some session)
    (hlive : s.central.connection.session = some session)
    (hroutes : s.central.connection.routes = some routes) :
    (t.central.connection.session = some session →
      t.central.connection.routes = some routes) ∧
    ∀ channel value, .value channel value ∈ callbacksIn now →
      s.sample? session (.reply number slot reply) = some (channel, value) := by
  obtain ⟨task, turn, htask, hturn, rfl, hcallbacks, -⟩ := step_reply h
  obtain ⟨task', htask', hattempt'⟩ := Option.bind_eq_some_iff.mp hattempt
  obtain rfl : task' = task := Option.some.inj (htask'.symm.trans htask)
  obtain ⟨stage, hwork⟩ := Task.attempt?_eq_some.mp hattempt'
  obtain ⟨-, rest, -, -, hanswer⟩ := Task.answer_of_attempt hwork hturn
  have hfits := hs.fits number task' htask
  simp only [Task.Fits, hwork] at hfits
  obtain ⟨hrouted, htold⟩ :=
    Attempt.steady_of_answer hroutes hanswer hs.coherent hlive (hfits.2.2.1 hlive)
  refine ⟨hrouted, fun channel value hmem => ?_⟩
  rw [hcallbacks] at hmem
  simp [sample?, htask, Task.sample?, hwork, htold channel value hmem]

/-- **The routes of a session stay** as long as it lives. -/
theorem Sound.routes_of_step {action : Action} (hs : s.Sound)
    (h : s.step action = some (t, now)) (hlive : s.central.connection.session = some session)
    (hroutes : s.central.connection.routes = some routes)
    (hlive' : t.central.connection.session = some session) :
    t.central.connection.routes = some routes := by
  have hcases : t.central.connection.routes = s.central.connection.routes ∨
      s.attempt? action = some session := by
    have heffect := (hs.step h).2
    generalize t.central = c' at heffect hlive' ⊢
    cases heffect with
    | work _ hattempt _ hchange =>
      refine (hchange.routes_eq hlive').imp_right ?_
      rintro ⟨hown, rfl⟩
      exact hattempt hown
    | request _ _ hchange => exact (hchange.routes_eq hlive').imp_right fun h => absurd h.1 (by simp)
    | word => exact .inl rfl
  rcases hcases with hsame | hattempt
  · rw [hsame, hroutes]
  · cases action with
    | start operation =>
      cases operation with
      | connect =>
        simp only [attempt?, cycle?, Option.ite_none_right_eq_some] at hattempt
        exact absurd hattempt.1 (hs.coherent.phase_ne hlive)
      | _ => exact absurd hattempt (by simp [attempt?])
    | send number =>
      obtain ⟨_, _, _, -, -, rfl, -⟩ := step_send h
      exact hroutes
    | reply number slot reply => exact (hs.steady_of_reply h hattempt hlive hroutes).1 hlive'
    | _ => exact absurd hattempt (by simp [attempt?])

/-- **Whatever a session tells beside its pump** is a sample that has been read first. -/
theorem Sound.sample_of_value {channel : Channel} {value : Value} (hs : m.before.Sound)
    (hstep : m.before.step m.action = some (m.after, m.seen)) (hitem : m.item? session = none)
    (hcycle : m.cycle? = some session)
    (hroutes : m.before.central.connection.session = some session →
      m.before.central.connection.routes = some routes)
    (hmem : .value channel value ∈ m.callbacks) :
    m.sample? session = some (channel, value) := by
  obtain ⟨session', hcycle', hlive⟩ := (hs.step hstep).2.live_of_value hmem
  obtain rfl : session' = session := Option.some.inj (hcycle'.symm.trans hcycle)
  rw [Moment.sample?, if_pos (Central.isLive_iff.mpr hlive)]
  rw [Moment.callbacks] at hmem
  cases haction : m.action with
  | start operation =>
    obtain ⟨-, hcallbacks, -⟩ := step_start (haction ▸ hstep)
    rw [hcallbacks] at hmem
    cases operation with
    | connect =>
      simp only [Task.start] at hmem
      split at hmem <;> exact absurd hmem List.not_mem_nil
    | disconnect =>
      simp only [Task.start] at hmem
      split at hmem
      · exact absurd hmem List.not_mem_nil
      · simp [CarrierLink.hangUp, hlive, hs.coherent.close_of_live hlive, Callback.teardown] at hmem
    | run script => exact absurd hcycle (by simp [Moment.cycle?, haction, cycle?])
  | send number =>
    obtain ⟨_, _, _, -, -, -, hseen⟩ := step_send (haction ▸ hstep)
    rw [hseen] at hmem
    exact absurd hmem (by simp)
  | reply number slot reply =>
    have hreply := haction ▸ hstep
    obtain ⟨task, turn, htask, hturn, -, hcallbacks, -⟩ := step_reply hreply
    rw [haction, cycle?, htask, Option.bind_some] at hcycle'
    cases hattempt : task.attempt? with
    | some session'' =>
      obtain rfl : session'' = session' :=
        Option.some.inj ((Task.cycle?_of_attempt? hattempt).symm.trans hcycle')
      have hattempt' : m.before.attempt? (.reply number slot reply) = some session'' := by
        rw [attempt?, htask, Option.bind_some, hattempt]
      exact (hs.steady_of_reply hreply hattempt' hlive (hroutes hlive)).2 channel value hmem
    | none =>
      -- What is left is a disconnect, which tells a teardown.
      cases hwork : task.work with
      | hangUp closed =>
        simp only [Task.cycle?, hwork] at hcycle'
        simp only [Task.answer, hwork, Option.ite_none_right_eq_some, Option.some.injEq] at hturn
        obtain ⟨-, rfl⟩ := hturn
        simp [hcallbacks, CarrierLink.hangUp, hcycle', hs.coherent.close_of_live hlive,
          Callback.teardown] at hmem
      | attempt => exact absurd hattempt (by simp [Task.attempt?, hwork])
      | _ => exact absurd hcycle' (by simp [Task.cycle?, hwork])
  | _ => simp_all [Moment.item?, Action.item?, cycle?]

/-! ### The whole stream -/

/-- A pump whose session is over takes nothing. -/
theorem Sound.item?_of_hasEnded {later : List Moment} (hs : s.Sound)
    (hended : s.central.HasEnded session) (h : s.Leads later t) :
    ∀ m ∈ later, m.item? session = none := by
  intro m hmem
  by_contra htakes
  obtain ⟨item, hitem⟩ := Option.ne_none_iff_exists'.mp htakes
  obtain ⟨past, rest, rfl⟩ := List.append_of_mem hmem
  obtain ⟨hpast, hstep, -⟩ := h.split
  obtain ⟨hs', hended'⟩ := hs.hasEnded_of_leads hpast hended
  exact hended'.2.2 (hs'.live_of_takes hstep (Moment.item?_eq_some_iff.mp hitem))

theorem Sound.items_of_hasEnded {later : List Moment} (hs : s.Sound)
    (hended : s.central.HasEnded session) (h : s.Leads later t) :
    items later session = [] ∧ pumped later session = [] := by
  have hnone := hs.item?_of_hasEnded hended h
  exact ⟨List.filterMap_eq_nil_iff.mpr hnone,
    List.flatMap_eq_nil_iff.mpr fun m hmem => by simp [hnone m hmem]⟩

/-- **Nothing has an effect on a session that is over.** -/
theorem Sound.receive_of_hasEnded (hs : s.Sound) (hended : s.central.HasEnded session)
    (event : LinkEvent) : s.central.receive session event = (s.central, []) := by
  obtain ⟨-, -, hdead⟩ := hended
  cases event with
  | notification characteristic data =>
    rw [Central.receive, Central.route, if_neg (mt Central.isLive_iff.mp hdead)]
  | disconnected =>
    have hpumps : s.central.pumps.filter (fun pump => pump.session != session) =
        s.central.pumps := by
      refine List.filter_eq_self.mpr fun pump hmem => ?_
      rw [bne_iff_ne]
      rintro rfl
      exact hdead (hs.coherent.live_of_mem_pumps hmem)
    rw [Central.receive, Central.close_of_dead hdead]
    simp only [Central.stopPump, hpumps]

/-- A session that was live and is not any more has ended. -/
theorem Sound.hasEnded_of_step (hs : m.before.Sound)
    (hstep : m.before.step m.action = some (m.after, m.seen))
    (hlive : m.before.central.connection.session = some session)
    (hdead : m.after.central.connection.session ≠ some session) :
    m.after.central.HasEnded session := by
  obtain ⟨hpos, hnewest⟩ := hs.coherent.newest session hlive
  have hafter : m.before.Leads [m] m.after := ⟨rfl, hstep, rfl⟩
  have hle := (hs.sessions_le_of_leads hafter).2
  exact ⟨hpos, by omega, hdead⟩

/-- **The routes of a session stay**, along a history. -/
theorem Sound.routes_of_leads {later : List Moment} (hs : s.Sound)
    (hlive : s.central.connection.session = some session)
    (hroutes : s.central.connection.routes = some routes) (h : s.Leads later t)
    (hlive' : t.central.connection.session = some session) :
    t.central.connection.routes = some routes := by
  refine h.induction (motive := fun _ t => t.central.connection.session = some session →
    t.central.connection.routes = some routes) (fun _ => hroutes)
    (fun past m hpast hstep ih hlive' => ?_) hlive'
  have hs' := (hs.sessions_le_of_leads hpast).1
  by_cases hbefore : m.before.central.connection.session = some session
  · exact hs'.routes_of_step hstep hbefore (ih hbefore) hlive'
  · -- A session that is over would not live again.
    obtain ⟨hpos, hnewest⟩ := hs.coherent.newest session hlive
    have hle := (hs.sessions_le_of_leads hpast).2
    have hafter : m.before.Leads [m] m.after := ⟨rfl, hstep, rfl⟩
    have hended := (hs'.hasEnded_of_leads hafter ⟨hpos, by omega, hbefore⟩).2
    exact absurd hlive' hended.2.2

/-- **What the pump tells is what is to be told of its stream**: by induction along the history,
with the routes in place as long as the session lives. -/
theorem Sound.pumped_eq {later : List Moment} (hs : s.Sound)
    (hlive : s.central.connection.session = some session)
    (hroutes : s.central.connection.routes = some routes) (h : s.Leads later t) :
    pumped later session = routes.heard (items later session) := by
  induction later generalizing s with
  | nil => rfl
  | cons m rest ih =>
    obtain ⟨rfl, hstep, hrest⟩ := h
    have hs' := (hs.step hstep).1
    have hover (hdead : m.after.central.connection.session ≠ some session) :
        items rest session = [] ∧ pumped rest session = [] :=
      hs'.items_of_hasEnded (hs.hasEnded_of_step hstep hlive hdead) hrest
    have hon (hlive' : m.after.central.connection.session = some session) :
        pumped rest session = routes.heard (items rest session) :=
      ih hs' hlive' (hs.routes_of_step hstep hlive hroutes hlive') hrest
    rw [items_cons, pumped_cons]
    cases hitem : m.item? session with
    | none =>
      by_cases hlive' : m.after.central.connection.session = some session
      · exact hon hlive'
      · obtain ⟨hitems, hpumped⟩ := hover hlive'
        rw [hitems, hpumped]
        rfl
    | some item =>
      rw [Option.isSome_some, if_pos rfl, Option.toList_some, List.singleton_append]
      cases hs.handsOn_of_takes hstep (Moment.item?_eq_some_iff.mp hitem) hroutes with
      | value hvalue hcallbacks _ hlive' =>
        rw [Routes.heard, hvalue, hcallbacks, hon hlive']
        rfl
      | dropped hnone hcallbacks hsame =>
        rw [Routes.heard, hnone, hcallbacks, hon (hsame ▸ hlive)]
        rfl
      | lost hloss hcallbacks hcleared =>
        rw [(hover (by simp [hcleared])).2, hcallbacks, List.append_nil]
        rcases hloss with rfl | rfl <;> rfl

/-- **As long as nothing is read, all values are those of the stream.** -/
theorem Sound.values_told_eq {later : List Moment} (hs : s.Sound)
    (hlive : s.central.connection.session = some session)
    (hroutes : s.central.connection.routes = some routes) (h : s.Leads later t)
    (hquiet : ∀ m ∈ later, m.item? session = none → m.sample? session = none) :
    (told later session).filter Callback.isValue =
      (pumped later session).filter Callback.isValue := by
  rw [told, pumped, List.filter_flatMap, List.filter_flatMap]
  refine List.flatMap_congr fun m hmem => ?_
  obtain ⟨past, rest, rfl⟩ := List.append_of_mem hmem
  obtain ⟨hpast, hstep, -⟩ := h.split
  have hs' := (hs.sessions_le_of_leads hpast).1
  cases hitem : m.item? session with
  | some item =>
    have hcycle : m.cycle? = some session := by
      have htakes := Moment.item?_eq_some_iff.mp hitem
      cases haction : m.action <;>
        simp_all [Moment.Takes, Action.item?, Moment.cycle?, cycle?]
    rw [if_pos hcycle, Option.isSome_some, if_pos rfl]
  | none =>
    rw [Option.isSome_none, if_neg Bool.false_ne_true, List.filter_nil]
    split
    next hcycle =>
      refine List.filter_eq_nil_iff.mpr fun callback hcallback hvalue => ?_
      cases callback with
      | value channel value =>
        have hsample := hs'.sample_of_value hstep hitem hcycle
          (fun hlive' => hs.routes_of_leads hlive hroutes hpast hlive') hcallback
        rw [hquiet m hmem hitem] at hsample
        exact absurd hsample (by simp)
      | _ => exact absurd hvalue Bool.false_ne_true
    next => rfl

/-- The pump of a session runs as long as the session lives and has routes. -/
theorem Sound.hasPump_of_routes (hs : s.Sound)
    (hlive : s.central.connection.session = some session)
    (hroutes : s.central.connection.routes = some routes) : s.hasPump session := by
  have hshape := hs.coherent.shaped session hlive
  have hrunning := hs.coherent.running
  have hpump : s.central.connection.link.isSome ∧ s.central.connection.pump = some session := by
    rcases hs.coherent.phase_of_routes hlive hroutes with hphase | hphase <;>
      simp only [Connection.Shaped, hphase] at hshape <;> exact ⟨hshape.1, hshape.2.1⟩
  obtain ⟨link, hlink⟩ := Option.isSome_iff_exists.mp hpump.1
  simp [hasPump, hrunning, Connection.running, hpump.2, hlink]

/-- The routes of a session were laid with its handles, to the telemetry channels of the profile. -/
theorem Sound.routes_eq_ofHandles (hs : s.Sound)
    (hlive : s.central.connection.session = some session)
    (hroutes : s.central.connection.routes = some routes) :
    ∃ services handles, Handles.resolve s.central.profile services = .ok handles ∧
      s.central.connection.handles = some handles ∧
      routes = Routes.ofHandles s.central.profile handles := by
  have hshape := hs.coherent.shaped session hlive
  have hlaid : ∃ services handles, Handles.resolve s.central.profile services = .ok handles ∧
      s.central.connection.handles = some handles ∧
      s.central.connection.routes = some (Routes.ofHandles s.central.profile handles) := by
    rcases hs.coherent.phase_of_routes hlive hroutes with hphase | hphase <;>
      simp only [Connection.Shaped, hphase] at hshape <;> exact hshape.2.2
  obtain ⟨services, handles, hresolve, hhandles, hlaid⟩ := hlaid
  exact ⟨services, handles, hresolve, hhandles, Option.some.inj (hroutes.symm.trans hlaid)⟩

/-- **What comes of a stream.** Take a session that is live and has its routes, which lead to
telemetry channels of the profile, and let anything happen from there on.

What the pump tells is a function of the items that it takes: the values of the notifications that
have a route and decode, in order, up to the first loss, and there a teardown. If nothing else
brings a value in the meantime, these are all values that the session tells. A value is the latest
of its channel as soon as it is told. A notification that is not told leaves everything as it was.
After a loss the pump takes nothing more, and nothing that it might still be given has an effect.
While the session lives its pump can take whatever comes, as soon as no task is in the middle of
sending. And what was notified before there were routes has left no trace. -/
theorem stream_of_leads {profile : Profile} {ms later : List Moment}
    (h : (initial profile).Leads ms s) (hlive : s.central.connection.session = some session)
    (hroutes : s.central.connection.routes = some routes) (hlater : s.Leads later t) :
    (∃ services handles, Handles.resolve profile services = .ok handles ∧
      s.central.connection.handles = some handles ∧ routes = Routes.ofHandles profile handles ∧
      ∀ characteristic channel wire, routes.get? characteristic = some (channel, wire) →
        ∃ spec ∈ profile.telemetry, spec.channel = channel ∧ spec.wire = wire ∧
          ∃ handle, handles.get? channel = some handle ∧ handle.uuid = characteristic) ∧
    pumped later session = routes.heard (items later session) ∧
    ((∀ m ∈ later, m.item? session = none → m.sample? session = none) →
      (told later session).filter Callback.isValue =
        (routes.heard (items later session)).filter Callback.isValue) ∧
    (∀ past m rest item, later = past ++ m :: rest → m.Takes session item →
      m.HandsOn session routes item ∧
        (IsLoss item → items rest session = [] ∧
          ∀ event, t.central.receive session event = (t.central, []))) ∧
    (t.central.connection.session = some session → t.isFloorFree none →
      ∀ event, (t.step (.push session event)).isSome) ∧
    ∀ past m rest characteristic data, ms = past ++ m :: rest →
      m.Takes session (some (.notification characteristic data)) →
      m.before.central.connection.routes = none → m.after = m.before ∧ m.callbacks = [] := by
  have hs := sound_of_leads h
  have hpumped := hs.pumped_eq hlive hroutes hlater
  refine ⟨?_, hpumped, fun hquiet => ?_, ?_, fun hlive' hfree event => ?_, ?_⟩
  · obtain ⟨services, handles, hresolve, hhandles, rfl⟩ := hs.routes_eq_ofHandles hlive hroutes
    rw [profile_eq_of_leads h] at hresolve ⊢
    exact ⟨services, handles, hresolve, hhandles, rfl, fun _ _ _ => Routes.exists_spec_of_get?⟩
  · rw [hs.values_told_eq hlive hroutes hlater hquiet, hpumped]
  · rintro past m rest item rfl htakes
    obtain ⟨hpast, hstep, hrest⟩ := hlater.split
    have hbefore := (hs.sessions_le_of_leads hpast).1
    have hlive' := hbefore.live_of_takes hstep htakes
    refine ⟨hbefore.handsOn_of_takes hstep htakes
      (hs.routes_of_leads hlive hroutes hpast hlive'), fun hloss => ?_⟩
    have hafter := (hbefore.step hstep).1
    have hended := hbefore.hasEnded_of_loss hstep htakes hloss
    obtain ⟨hend, hended'⟩ := hafter.hasEnded_of_leads hrest hended
    exact ⟨(hafter.items_of_hasEnded hended hrest).1, hend.receive_of_hasEnded hended'⟩
  · have hend := (hs.sessions_le_of_leads hlater).1
    have hpump := hend.hasPump_of_routes hlive'
      (hs.routes_of_leads hlive hroutes hlater hlive')
    simp [step, hfree, hpump]
  · rintro past m rest characteristic data rfl htakes hnone
    exact dropped_of_unrouted h.split.2.1 htakes hnone

/-- What is taken depends on nothing but the actions. -/
theorem items_eq (ms : List Moment) (session : Nat) :
    items ms session = (ms.map Moment.action).filterMap fun action =>
      action.item?.bind fun entry => if entry.1 = session then some entry.2 else none := by
  rw [List.filterMap_map]
  rfl

/-- A temperature arrives after bytes that are too few and a notification of a relay, and then
the link is lost. -/
theorem stream_of_sensor :
    ∃ ms later s t, (initial Profile.sensor).Leads ms s ∧ s.Leads later t ∧
      items later 1 =
        [some (.notification (Uuid.ofChannel .temperature) [0x01, 0x02]),
          some (.notification (Uuid.ofChannel .relay1) [0x01]),
          some (.notification (Uuid.ofChannel .temperature) [0x00, 0x00, 0xac, 0x41]),
          some .disconnected] ∧
      pumped later 1 = .value .temperature (.float 0x41ac0000) :: Callback.teardown ∧
      (told later 1).filter Callback.isValue = [.value .temperature (.float 0x41ac0000)] := by
  let opening : List Action :=
    [.start .connect, .send 0, .reply 0 0 (.availability true), .send 0,
      .reply 0 0 (.device (.ok ⟨0, none⟩)), .send 0, .reply 0 0 (.done (.ok ())), .send 0,
      .reply 0 0 (.done (.ok ())), .send 0,
      .reply 0 0 (.services (.ok Profile.sensor.boardServices))] ++ List.replicate 13 (.send 0)
  let taken : List (Option LinkEvent) :=
    [some (.notification (Uuid.ofChannel .temperature) [0x01, 0x02]),
      some (.notification (Uuid.ofChannel .relay1) [0x01]),
      some (.notification (Uuid.ofChannel .temperature) [0x00, 0x00, 0xac, 0x41]),
      some .disconnected]
  let heard : List Callback := .value .temperature (.float 0x41ac0000) :: Callback.teardown
  let pushes : List Action := taken.filterMap fun item => item.map (.push 1)
  have hruns : ((initial Profile.sensor).run opening).any (fun first =>
      first.1.central.connection.session == some 1 &&
        (first.1.central.connection.routes.any fun routes => routes.heard taken == heard) &&
        (first.1.run pushes).isSome) = true := by
    decide +kernel
  simp only [Option.any_eq_true, Bool.and_eq_true, beq_iff_eq, Option.isSome_iff_exists]
    at hruns
  obtain ⟨⟨s, seen⟩, hrun, ⟨hlive, routes, hroutes, hheard⟩, ⟨t, now⟩, hpushes⟩ := hruns
  obtain ⟨ms, h, -, -⟩ := run_iff_leads.mp hrun
  obtain ⟨later, hlater, hactions, -⟩ := run_iff_leads.mp hpushes
  obtain ⟨-, hpumped, hvalues, -⟩ := stream_of_leads h hlive hroutes hlater
  have hitems : items later 1 = taken := by
    rw [items_eq, hactions]
    rfl
  have hquiet : ∀ m ∈ later, m.item? 1 = none → m.sample? 1 = none := by
    intro m hmem hnone
    have hpush : m.action ∈ pushes := hactions ▸ List.mem_map_of_mem hmem
    obtain ⟨item, -, hitem⟩ := List.mem_filterMap.mp hpush
    obtain ⟨event, -, haction⟩ := Option.map_eq_some_iff.mp hitem
    simp [Moment.item?, ← haction, Action.item?] at hnone
  refine ⟨ms, later, s, t, h, hlater, hitems, ?_, ?_⟩
  · rw [hpumped, hitems, hheard]
  · rw [hvalues hquiet, hitems, hheard]
    rfl

end System

end CarrierLink
