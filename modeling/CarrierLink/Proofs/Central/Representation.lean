import CarrierLink.Proofs.Central.Soundness

/-!
# The fields of a connection

A connection has seven fields, and the cycle that sets it up fills them in one after the
other, with room for a teardown between any two. This module says what a reader of the
fields may infer from them at any time (`CarrierLink.Central.Layout`): which fields the
phase stands for, that nothing survives the session, and that a connected central can look
up the handle of every channel of its profile.

All of it is the coherence of the central, read field by field
(`CarrierLink.Central.Coherent.layout`); only the numbering of the sessions looks back at
the history, at the connects that have begun them (`CarrierLink.Moment.Issues`).
-/

namespace CarrierLink

/-! ### The layout -/

/-- **What the fields of a connection say together.** -/
structure Central.Layout (profile : Profile) (c : Central) : Prop where
  disconnected_iff : c.connection.phase = .disconnected ↔ c.connection.session = none
  /-- Nothing is left of a session that is over. -/
  idle : c.connection.session = none →
    c.connection.link = none ∧ c.connection.handles = none ∧ c.connection.routes = none ∧
      c.connection.pump = none ∧ c.connection.values = Table.empty
  handles_iff : c.connection.handles.isSome ↔
    c.connection.phase = .subscribing ∨ c.connection.phase = .connected
  routes_iff : c.connection.routes.isSome ↔
    c.connection.phase = .subscribing ∨ c.connection.phase = .connected
  /-- From the discovery of services on there are a link and a pump. -/
  carried : c.connection.phase = .resolvingServices ∨ c.connection.phase = .subscribing ∨
      c.connection.phase = .connected →
    c.connection.link.isSome ∧ c.connection.pump.isSome
  /-- Values are kept only while telemetry is on its way or there. -/
  kept : c.connection.values ≠ Table.empty →
    c.connection.phase = .subscribing ∨ c.connection.phase = .connected
  /-- A connected central can reach every channel of its profile. -/
  reached : c.connection.phase = .connected → ∀ spec ∈ profile.channels,
    ∃ session link handle, c.target spec.channel = .ok (session, link, handle)
  /-- No request to a channel of the profile finds a connected central not connected. -/
  answered : c.connection.phase = .connected → ∀ spec ∈ profile.channels,
    Transfer.check c (.read spec.channel) ≠ .error .notConnected ∧
      ∀ value, Transfer.check c (.write spec.channel value) ≠ .error .notConnected

namespace Central

variable {c : Central} {channel : Channel}

theorem target_of_connected {session : Nat} {link : Link} {handles : Handles}
    {handle : Handle} (hphase : c.connection.phase = .connected)
    (hsession : c.connection.session = some session) (hlink : c.connection.link = some link)
    (hhandles : c.connection.handles = some handles)
    (hhandle : handles.get? channel = some handle) :
    c.target channel = .ok (session, link, handle) := by
  simp only [target, hphase, hsession, hlink, hhandles, hhandle, if_true]

/-- A channel that the profile lists has an entry. -/
theorem entry_of_mem {spec : ChannelSpec} (h : spec ∈ c.profile.channels) :
    ∃ spec', c.entry spec.channel = .ok spec' := by
  cases hfind : c.profile.spec? spec.channel with
  | some spec' => exact ⟨spec', by rw [entry, hfind]⟩
  | none =>
    rw [Profile.spec?, List.find?_eq_none] at hfind
    exact absurd (hfind spec h) (by simp)

/-- **A connected central can reach every channel of its profile.** -/
theorem Coherent.target_of_mem (hc : c.Coherent) (hphase : c.connection.phase = .connected)
    {spec : ChannelSpec} (hspec : spec ∈ c.profile.channels) :
    ∃ session link handle, c.target spec.channel = .ok (session, link, handle) := by
  cases hsession : c.connection.session with
  | none => exact absurd hphase (by simp [hc.idle hsession])
  | some session =>
    have hshape := hc.shaped session hsession
    simp only [Connection.Shaped, hphase] at hshape
    obtain ⟨hlink, -, services, handles, hresolve, hhandles, -⟩ := hshape
    obtain ⟨link, hlink⟩ := Option.isSome_iff_exists.mp hlink
    obtain ⟨handle, hhandle⟩ := Handles.get?_of_resolve hresolve hspec
    exact ⟨session, link, handle, target_of_connected hphase hsession hlink hhandles hhandle⟩

/-- With an entry and a handle, only the access or the value can be wrong. -/
theorem check_ne_notConnected {spec : ChannelSpec} {session : Nat} {link : Link}
    {handle : Handle} (hentry : c.entry channel = .ok spec)
    (htarget : c.target channel = .ok (session, link, handle)) :
    Transfer.check c (.read channel) ≠ .error .notConnected ∧
      ∀ value, Transfer.check c (.write channel value) ≠ .error .notConnected := by
  constructor
  · cases hread : spec.access.canRead <;>
      simp [Transfer.check, hentry, htarget, hread, bind, Except.bind, throw, throwThe,
        MonadExceptOf.throw, pure, Except.pure]
  · intro value
    cases hwrite : spec.access.canWrite <;> cases hencode : spec.wire.encode value <;>
      simp [Transfer.check, hentry, htarget, hwrite, hencode, bind, Except.bind, throw,
        throwThe, MonadExceptOf.throw, pure, Except.pure, Except.mapError]

/-- **A coherent central has the layout of its phase.** -/
theorem Coherent.layout (hc : c.Coherent) : c.Layout c.profile := by
  have hreached (hphase : c.connection.phase = .connected) (spec : ChannelSpec)
      (hspec : spec ∈ c.profile.channels) := hc.target_of_mem hphase hspec
  have hanswered (hphase : c.connection.phase = .connected) (spec : ChannelSpec)
      (hspec : spec ∈ c.profile.channels) :
      Transfer.check c (.read spec.channel) ≠ .error .notConnected ∧
        ∀ value, Transfer.check c (.write spec.channel value) ≠ .error .notConnected := by
    obtain ⟨spec', hentry⟩ := entry_of_mem hspec
    obtain ⟨session, link, handle, htarget⟩ := hreached hphase spec hspec
    exact check_ne_notConnected hentry htarget
  cases hsession : c.connection.session with
  | none =>
    have hnew := hc.idle hsession
    exact ⟨hc.phase_eq_iff, by simp [hnew], by simp [hnew], by simp [hnew], by simp [hnew],
      by simp [hnew], hreached, hanswered⟩
  | some session =>
    have hidle : c.connection.session ≠ none := by simp [hsession]
    have hshape := hc.shaped session hsession
    simp only [Connection.Shaped] at hshape
    split at hshape
    next => exact hshape.elim
    next hphase =>
      obtain ⟨-, hhandles, hroutes, hvalues⟩ := hshape
      exact ⟨hc.phase_eq_iff, fun h => absurd h hidle, by simp [hhandles, hphase],
        by simp [hroutes, hphase], by simp [hphase], fun h => absurd hvalues h, hreached,
        hanswered⟩
    next hphase =>
      obtain ⟨hlink, hpump, hhandles, hroutes, hvalues⟩ := hshape
      exact ⟨hc.phase_eq_iff, fun h => absurd h hidle, by simp [hhandles, hphase],
        by simp [hroutes, hphase], fun _ => ⟨hlink, by simp [hpump]⟩,
        fun h => absurd hvalues h, hreached, hanswered⟩
    next hphase =>
      obtain ⟨hlink, hpump, services, handles, -, hhandles, hroutes⟩ := hshape
      exact ⟨hc.phase_eq_iff, fun h => absurd h hidle, by simp [hhandles, hphase],
        by simp [hroutes, hphase], fun _ => ⟨hlink, by simp [hpump]⟩, fun _ => .inl hphase,
        hreached, hanswered⟩
    next hphase =>
      obtain ⟨hlink, hpump, services, handles, -, hhandles, hroutes⟩ := hshape
      exact ⟨hc.phase_eq_iff, fun h => absurd h hidle, by simp [hhandles, hphase],
        by simp [hroutes, hphase], fun _ => ⟨hlink, by simp [hpump]⟩, fun _ => .inr hphase,
        hreached, hanswered⟩

end Central

/-! ### The numbers of the sessions -/

/-- The moment is a connect that begins the session. -/
def Moment.Issues (m : Moment) (session : Nat) : Prop :=
  m.action = .start .connect ∧ ∃ c, m.before.central.openSession = .ok (session, c)

namespace System

theorem Effect.sessions_eq {s : System} {action : Action} {callbacks : List Callback}
    {c' : Central} (h : s.Effect action callbacks c')
    (hbegun : ∀ session, s.cycle? action = some session → session ≤ s.central.sessions) :
    c'.sessions = s.central.sessions := by
  cases h with
  | work hcycle _ _ hchange => exact hchange.sessions_eq fun _ => hbegun _ hcycle
  | request _ _ hchange => exact hchange.sessions_eq (by simp)
  | word => rfl

/-- Only a connect begins a session, the next one. -/
theorem sessions_of_step {m : Moment} (hs : m.before.Sound)
    (hstep : m.before.step m.action = some (m.after, m.seen)) :
    (∃ session, m.Issues session ∧ session = m.before.central.sessions + 1 ∧
      m.after.central.sessions = session) ∨
      (∀ session, ¬m.Issues session) ∧
        m.after.central.sessions = m.before.central.sessions := by
  by_cases hconnect : m.action = .start .connect
  · rw [hconnect] at hstep
    obtain ⟨hafter, -, -⟩ := step_start hstep
    rw [hafter]
    simp only [Task.start]
    split
    next session c hopen =>
      obtain ⟨-, hsession, rfl⟩ := Change.openSession_eq hopen
      exact .inl ⟨session, ⟨hconnect, _, hopen⟩, hsession, hsession.symm⟩
    next e hbusy =>
      refine .inr ⟨fun session hissues => ?_, rfl⟩
      obtain ⟨-, c, hopen⟩ := hissues
      exact absurd (hopen.symm.trans hbusy) (by simp)
  · -- Everybody else works for a session that has begun, and begins none.
    refine .inr ⟨fun session hissues => hconnect hissues.1, ?_⟩
    refine (hs.step hstep).2.sessions_eq fun session hcycle => ?_
    exact ((hs.begun hstep hcycle).resolve_left hconnect).2

/-- **No session has a number greater than that of the moments so far**, so that a counter of
64 bits does not come round in the first `2 ^ 64` of them. -/
theorem sessions_le_length {profile : Profile} {ms : List Moment} {s : System}
    (h : (initial profile).Leads ms s) : s.central.sessions ≤ ms.length := by
  refine h.induction (motive := fun ms s => s.central.sessions ≤ ms.length) (Nat.le_refl 0)
    fun past m hpast hstep ih => ?_
  rw [List.length_append, List.length_singleton]
  rcases sessions_of_step (sound_of_leads hpast) hstep with ⟨_, -, hnext, hafter⟩ | ⟨-, hafter⟩
  · omega
  · omega

/-- **Sessions are numbered by the connects that begin them**: up to the last one, and the
last one is among them. -/
theorem issues_of_leads {profile : Profile} {ms : List Moment} {s : System}
    (h : (initial profile).Leads ms s) :
    (∀ m ∈ ms, ∀ session, m.Issues session → session ≤ s.central.sessions) ∧
      (0 < s.central.sessions → ∃ m ∈ ms, m.Issues s.central.sessions) := by
  refine h.induction (motive := fun ms s =>
    (∀ m ∈ ms, ∀ session, m.Issues session → session ≤ s.central.sessions) ∧
      (0 < s.central.sessions → ∃ m ∈ ms, m.Issues s.central.sessions))
    ⟨by simp, by simp [initial]⟩ fun past m hpast hstep ih => ?_
  obtain ⟨hmost, hlast⟩ := ih
  rcases sessions_of_step (sound_of_leads hpast) hstep with
    ⟨session, hissues, hnext, hafter⟩ | ⟨hnone, hafter⟩
  · -- The moment itself begins the session that is now the last.
    refine ⟨fun m' hmem session' hissues' => ?_, fun _ => ⟨m, by simp, hafter ▸ hissues⟩⟩
    rcases List.mem_append.mp hmem with hmem | hmem
    · have hle := hmost m' hmem session' hissues'
      omega
    · obtain rfl := List.mem_singleton.mp hmem
      obtain ⟨-, c, hopen⟩ := hissues
      obtain ⟨-, c', hopen'⟩ := hissues'
      obtain ⟨-, hsession, -⟩ := Change.openSession_eq hopen
      obtain ⟨-, hsession', -⟩ := Change.openSession_eq hopen'
      omega
  · rw [hafter]
    refine ⟨fun m' hmem session' hissues' => ?_, fun hpos => ?_⟩
    · rcases List.mem_append.mp hmem with hmem | hmem
      · exact hmost m' hmem session' hissues'
      · obtain rfl := List.mem_singleton.mp hmem
        exact absurd hissues' (hnone session')
    · obtain ⟨m', hmem, hissues⟩ := hlast hpos
      exact ⟨m', List.mem_append_left _ hmem, hissues⟩

/-- **The fields of a connection, at any time.** Whatever operations and events have led to a
state of a central, its fields have the layout of its phase, and the live session is the
last that any connect has begun. Its number is no greater than that of the moments so far. -/
theorem layout_of_leads {profile : Profile} {ms : List Moment} {s : System}
    (h : (initial profile).Leads ms s) :
    s.central.Layout profile ∧
      ∀ session, s.central.connection.session = some session →
        session ≤ ms.length ∧ (∃ m ∈ ms, m.Issues session) ∧
          ∀ m ∈ ms, ∀ session', m.Issues session' → session' ≤ session := by
  have hc := (sound_of_leads h).coherent
  obtain ⟨hmost, hlast⟩ := issues_of_leads h
  refine ⟨profile_eq_of_leads h ▸ hc.layout, fun session hsession => ?_⟩
  obtain ⟨hpos, rfl⟩ := hc.newest session hsession
  exact ⟨sessions_le_length h, hlast hpos, hmost⟩

/-- The layout of a central that has connected to the alarm clock. -/
theorem layout_of_connected_alarm :
    ∃ ms s, (initial Profile.alarm).Leads ms s ∧ s.central.isConnected ∧
      s.central.Layout Profile.alarm ∧
      ∀ session, s.central.connection.session = some session →
        session ≤ ms.length ∧ (∃ m ∈ ms, m.Issues session) ∧
          ∀ m ∈ ms, ∀ session', m.Issues session' → session' ≤ session := by
  obtain ⟨ms, h, -⟩ := run_iff_leads.mp (show (initial Profile.alarm).run
    [.start .connect, .send 0, .reply 0 0 (.availability true), .send 0,
      .reply 0 0 (.device (.ok ⟨0, none⟩)), .send 0, .reply 0 0 (.done (.ok ())), .send 0,
      .reply 0 0 (.done (.ok ())), .send 0,
      .reply 0 0 (.services (.ok
        [⟨Uuid.alarmService, Profile.alarm.channels.map ChannelSpec.uuid⟩]))] = some _ from rfl)
  exact ⟨ms, _, h, rfl, layout_of_leads h⟩

end System

end CarrierLink
