import CarrierLink.Central.Task

/-!
# What a central may look like

The fields of a connection are filled in one after the other in the course of a connect
cycle and thrown away together. Which of them are filled in is a function of the phase
(`CarrierLink.Connection.Shaped`), and a central is *coherent*
(`CarrierLink.Central.Coherent`) when its connection has the shape of its phase, its live
session is the last that began, and the one pump that runs is the live session's.

## What work for a session can do

Everything that is ever done to a central is done for one session, and
`CarrierLink.Change` lists what that can be: the session may begin, grow towards being
connected, become connected, keep a value, be closed with a word to the observer, or be left
without one. The list is finer than it looks. Each entry says what the observer is told, and
all but the first two ask for the session to be live, so that most laws of a central are a
look at seven cases: `CarrierLink.Change.eq_of_dead` (work for a session that is not live
changes nothing), `CarrierLink.Change.coherent`, `CarrierLink.Change.frame` (what the other
tasks may rely on). The `own` of a change says whether it is the connect cycle's own doing.
-/

namespace CarrierLink

/-! ### Kinds of callbacks -/

namespace Callback

/-- Any status. -/
def isStatus : Callback → Bool
  | status .. => true
  | _ => false

/-- A word about progress. -/
def isNote : Callback → Bool
  | status text .muted => text != "Disconnected"
  | _ => false

/-- A word about a failure. -/
def isWarning : Callback → Bool
  | status _ .warn => true
  | _ => false

/-- A value. -/
def isValue : Callback → Bool
  | value .. => true
  | _ => false

/-- **What the observer is told when a connection is closed**, in this order. -/
def teardown : List Callback := [connected false, status "Disconnected" .muted, disconnected]

theorem isStatus_of_isNote {callback : Callback} (h : callback.isNote) : callback.isStatus := by
  cases callback <;> simp_all [isNote, isStatus]

theorem isStatus_of_isWarning {callback : Callback} (h : callback.isWarning) :
    callback.isStatus := by
  cases callback <;> simp_all [isWarning, isStatus]

/-- Progress, failures and values are no part of a teardown. -/
theorem notMem_teardown {callback : Callback}
    (h : callback.isNote ∨ callback.isWarning ∨ callback.isValue) : callback ∉ teardown := by
  rintro hmem
  simp only [teardown, List.mem_cons, List.not_mem_nil, or_false] at hmem
  rcases hmem with rfl | rfl | rfl <;> simp [isNote, isWarning, isValue] at h

/-- Progress, failures and values do not say that the connection is set up. -/
theorem ne_connected {callback : Callback} {on : Bool}
    (h : callback.isNote ∨ callback.isWarning ∨ callback.isValue) :
    callback ≠ connected on := by
  rintro rfl
  simp [isNote, isWarning, isValue] at h

end Callback

/-! ### Coherence -/

/-- Whether a connection is on its way. -/
def Phase.isSettingUp : Phase → Bool
  | connecting | resolvingServices | subscribing => true
  | disconnected | connected => false

/-- **The fields that a live session has filled in**, phase by phase. -/
def Connection.Shaped (profile : Profile) (session : Nat) (conn : Connection) : Prop :=
  match conn.phase with
  | .disconnected => False
  | .connecting =>
    conn.pump = none ∧ conn.handles = none ∧ conn.routes = none ∧ conn.values = Table.empty
  | .resolvingServices =>
    conn.link.isSome ∧ conn.pump = some session ∧
      conn.handles = none ∧ conn.routes = none ∧ conn.values = Table.empty
  | .subscribing | .connected =>
    conn.link.isSome ∧ conn.pump = some session ∧
      ∃ services handles, Handles.resolve profile services = .ok handles ∧
        conn.handles = some handles ∧ conn.routes = some (Routes.ofHandles profile handles)

/-- The pumps that run, as the connection knows of them. -/
def Connection.running (conn : Connection) : List Pump :=
  match conn.pump, conn.link with
  | some session, some link => [⟨session, link⟩]
  | _, _ => []

namespace Central

/-- **A central that is in order.** -/
structure Coherent (c : Central) : Prop where
  /-- Without a live session the connection is as new. -/
  idle : c.connection.session = none → c.connection = {}
  /-- The live session is the last one that began. -/
  newest : ∀ session, c.connection.session = some session → 0 < session ∧ session = c.sessions
  shaped : ∀ session, c.connection.session = some session →
    c.connection.Shaped c.profile session
  /-- Only the pump of the live session runs. -/
  running : c.pumps = c.connection.running

/-- The central without its connection. -/
def cleared (c : Central) : Central where
  profile := c.profile
  sessions := c.sessions

/-- **The session has begun and is over.** -/
def HasEnded (c : Central) (session : Nat) : Prop :=
  0 < session ∧ session ≤ c.sessions ∧ c.connection.session ≠ some session

variable {c : Central} {session : Nat}

theorem isLive_iff : c.isLive session = true ↔ c.connection.session = some session := by
  simp [isLive]

theorem coherent_new (profile : Profile) : ({ profile } : Central).Coherent where
  idle := fun _ => rfl
  newest := fun _ h => absurd h (by simp)
  shaped := fun _ h => absurd h (by simp)
  running := rfl

theorem coherent_cleared (c : Central) : c.cleared.Coherent where
  idle := fun _ => rfl
  newest := fun _ h => absurd h (by simp [cleared])
  shaped := fun _ h => absurd h (by simp [cleared])
  running := rfl

/-- A live session is in some phase. -/
theorem Coherent.phase_ne (h : c.Coherent) (hlive : c.connection.session = some session) :
    c.connection.phase ≠ .disconnected := by
  intro hphase
  have hshape := h.shaped session hlive
  rw [Connection.Shaped, hphase] at hshape
  exact hshape

/-- **Disconnected is where no session is live.** -/
theorem Coherent.phase_eq_iff (h : c.Coherent) :
    c.connection.phase = .disconnected ↔ c.connection.session = none := by
  constructor
  · intro hphase
    cases hlive : c.connection.session with
    | none => rfl
    | some session => exact absurd hphase (h.phase_ne hlive)
  · intro hnone
    rw [h.idle hnone]

/-- Dropping the connection of a coherent central leaves nothing of it. -/
theorem Coherent.drop_eq (h : c.Coherent) : c.drop = c.cleared := by
  have hrunning := h.running
  simp only [Connection.running] at hrunning
  cases hpump : c.connection.pump with
  | none => simp_all [drop, cleared]
  | some session =>
    cases hlink : c.connection.link <;> simp_all [drop, cleared, stopPump]

/-! ### The updates, for a live session and for another -/

theorem Coherent.abandon_of_live (h : c.Coherent)
    (hlive : c.connection.session = some session) :
    c.abandon session = (c.connection.link, c.cleared) := by
  rw [abandon, if_pos (isLive_iff.mpr hlive), h.drop_eq]

theorem abandon_of_dead (hdead : c.connection.session ≠ some session) :
    c.abandon session = (none, c) := by
  rw [abandon, if_neg (mt isLive_iff.mp hdead)]

/-- Whoever is abandoned is not live any more. -/
theorem dead_of_abandon (c : Central) (session : Nat) :
    (c.abandon session).2.connection.session ≠ some session := by
  rw [abandon]
  split
  · simp [drop]
  next hlive => exact mt isLive_iff.mpr hlive

theorem Coherent.close_of_live (h : c.Coherent)
    (hlive : c.connection.session = some session) :
    c.close session = (c.cleared, Callback.teardown) := by
  have hphase := h.phase_ne hlive
  rw [close, if_pos (by simp [isLive_iff.mpr hlive, hphase]), h.drop_eq, Callback.teardown]

theorem close_of_dead (hdead : c.connection.session ≠ some session) :
    c.close session = (c, []) := by
  rw [close, if_neg (by simp [isLive, hdead])]

theorem store_of_live (hlive : c.connection.session = some session) (channel : Channel)
    (value : Value) :
    c.store session channel value = { c with connection := { c.connection with
      values := c.connection.values.insert channel value } } := by
  rw [store, if_pos (isLive_iff.mpr hlive)]

theorem deliver_of_live (hlive : c.connection.session = some session) (channel : Channel)
    (value : Value) :
    c.deliver session channel value =
      (c.store session channel value, [.value channel value]) := by
  rw [deliver, if_pos (isLive_iff.mpr hlive)]

theorem deliver_of_dead (hdead : c.connection.session ≠ some session) (channel : Channel)
    (value : Value) : c.deliver session channel value = (c, []) := by
  rw [deliver, if_neg (mt isLive_iff.mp hdead)]

/-! ### The updates keep a central in order -/

/-- A live session is in order when it is the last one, has the shape of its phase, and its
pump is the one that runs. -/
theorem coherent_of_live (hlive : c.connection.session = some session)
    (hnewest : 0 < session ∧ session = c.sessions)
    (hshaped : c.connection.Shaped c.profile session)
    (hrunning : c.pumps = c.connection.running) : c.Coherent := by
  refine ⟨fun hnone => absurd (hlive.symm.trans hnone) (by simp), ?_, ?_, hrunning⟩
  · intro session' hlive'
    obtain rfl : session = session' := Option.some.inj (hlive.symm.trans hlive')
    exact hnewest
  · intro session' hlive'
    obtain rfl : session = session' := Option.some.inj (hlive.symm.trans hlive')
    exact hshaped

theorem Coherent.withLink (h : c.Coherent) (hlive : c.connection.session = some session)
    (hphase : c.connection.phase = .connecting) (link : Link) :
    Coherent { c with connection := { c.connection with link := some link } } := by
  have hshape := h.shaped session hlive
  simp only [Connection.Shaped, hphase] at hshape
  refine coherent_of_live hlive (h.newest session hlive) ?_ ?_
  · simpa only [Connection.Shaped, hphase] using hshape
  · simp [h.running, Connection.running, hshape.1]

/-- The pump starts and the phase moves on within one turn. -/
theorem Coherent.withPump {link : Link} (h : c.Coherent)
    (hlive : c.connection.session = some session) (hphase : c.connection.phase = .connecting)
    (hlink : c.connection.link = some link) :
    Coherent { c with
      pumps := c.pumps ++ [⟨session, link⟩]
      connection := { c.connection with phase := .resolvingServices, pump := some session } } := by
  have hshape := h.shaped session hlive
  simp only [Connection.Shaped, hphase] at hshape
  obtain ⟨hpump, hrest⟩ := hshape
  refine coherent_of_live hlive (h.newest session hlive) ?_ ?_
  · exact ⟨by rw [hlink]; rfl, rfl, hrest⟩
  · simp [h.running, Connection.running, hpump, hlink]

theorem Coherent.withHandles {services : List Service} {handles : Handles} (h : c.Coherent)
    (hlive : c.connection.session = some session)
    (hphase : c.connection.phase = .resolvingServices)
    (hhandles : Handles.resolve c.profile services = .ok handles) :
    Coherent { c with connection := { c.connection with
      phase := .subscribing
      handles := some handles
      routes := some (Routes.ofHandles c.profile handles) } } := by
  have hshape := h.shaped session hlive
  simp only [Connection.Shaped, hphase] at hshape
  refine coherent_of_live hlive (h.newest session hlive) ?_ h.running
  exact ⟨hshape.1, hshape.2.1, services, handles, hhandles, rfl, rfl⟩

theorem Coherent.withConnected (h : c.Coherent) (hlive : c.connection.session = some session)
    (hphase : c.connection.phase = .subscribing) :
    Coherent { c with connection := { c.connection with phase := .connected } } := by
  have hshape := h.shaped session hlive
  simp only [Connection.Shaped, hphase] at hshape
  exact coherent_of_live hlive (h.newest session hlive) hshape h.running

/-- Values are kept once the handles are known, and leave everything else in order. -/
theorem Coherent.store (h : c.Coherent) (hlive : c.connection.session = some session)
    (hphase : c.connection.phase = .subscribing ∨ c.connection.phase = .connected)
    (channel : Channel) (value : Value) : (c.store session channel value).Coherent := by
  have hshape := h.shaped session hlive
  rw [store_of_live hlive]
  refine coherent_of_live hlive (h.newest session hlive) ?_ h.running
  rcases hphase with hphase | hphase <;> simpa only [Connection.Shaped, hphase] using hshape

end Central

/-! ### Changes -/

/-- **What work for a session does to a central**, with what the observer is told. `own`
says whether it is the work of the session's connect cycle. -/
inductive Change (session : Nat) (c : Central) : Bool → List Callback → Central → Prop
  /-- Nothing changes, though a cycle may have a word about progress or failure. -/
  | rests {own : Bool} {callbacks : List Callback}
      (hcallbacks : ∀ callback ∈ callbacks, own ∧ (callback.isNote ∨ callback.isWarning)) :
      Change session c own callbacks c
  /-- The session begins. -/
  | opens {c' : Central} (hopen : c.openSession = .ok (session, c')) :
      Change session c true [] c'
  /-- The session comes further on its way. -/
  | grows {callbacks : List Callback} {c' : Central}
      (hlive : c.connection.session = some session) (hsetup : c.connection.phase.isSettingUp)
      (hlive' : c'.connection.session = some session)
      (hsetup' : c'.connection.phase.isSettingUp)
      (hsessions : c'.sessions = c.sessions) (hprofile : c'.profile = c.profile)
      (hcoherent : c'.Coherent)
      (hcallbacks : ∀ callback ∈ callbacks, callback.isNote ∨ callback.isValue) :
      Change session c true callbacks c'
  /-- The session arrives. -/
  | enters {callbacks : List Callback} {c' : Central}
      (hlive : c.connection.session = some session) (hsetup : c.connection.phase.isSettingUp)
      (hlive' : c'.connection.session = some session)
      (hconnected : c'.connection.phase = .connected)
      (hsessions : c'.sessions = c.sessions) (hprofile : c'.profile = c.profile)
      (hcoherent : c'.Coherent)
      (hcallbacks : ∀ callback ∈ callbacks, callback.isNote ∨ callback.isValue) :
      Change session c true (callbacks ++ [.connected true, .status "Connected" .ok]) c'
  /-- The session is left without a word about it. -/
  | leaves {callbacks : List Callback}
      (hlive : c.connection.session = some session) (hsetup : c.connection.phase.isSettingUp)
      (hcallbacks : ∀ callback ∈ callbacks,
        callback.isNote ∨ callback.isWarning ∨ callback.isValue) :
      Change session c true callbacks c.cleared
  /-- A value is kept. -/
  | keeps {callbacks : List Callback} {channel : Channel} {value : Value}
      (hlive : c.connection.session = some session)
      (hphase : c.connection.phase = .subscribing ∨ c.connection.phase = .connected)
      (hcallbacks : ∀ callback ∈ callbacks, callback.isValue) :
      Change session c false callbacks (c.store session channel value)
  /-- The session is closed and the observer is told. -/
  | closes (hlive : c.connection.session = some session) :
      Change session c false Callback.teardown c.cleared

namespace Change

variable {session : Nat} {c c' : Central} {own : Bool} {callbacks : List Callback}

theorem openSession_eq {c c' : Central} (h : c.openSession = .ok (session, c')) :
    c.connection.phase = .disconnected ∧ session = c.sessions + 1 ∧
      c' = { c with
        sessions := c.sessions + 1
        connection := { c.connection with
          phase := .connecting, session := some (c.sessions + 1) } } := by
  rw [Central.openSession] at h
  split at h
  next hphase =>
    obtain ⟨rfl, rfl⟩ := Prod.mk.inj (Except.ok.inj h)
    exact ⟨hphase, rfl, rfl⟩
  next => exact absurd h (by simp)

/-- **Work for a session that is not live changes nothing**, and only its statuses are
heard; the one exception is the work by which a session becomes live. -/
theorem eq_of_dead (h : Change session c own callbacks c')
    (hdead : c.connection.session ≠ some session) (hbegun : session ≤ c.sessions) :
    c' = c ∧ ∀ callback ∈ callbacks, own ∧ (callback.isNote ∨ callback.isWarning) := by
  cases h with
  | rests hcallbacks => exact ⟨rfl, hcallbacks⟩
  | opens hopen =>
    obtain ⟨-, rfl, -⟩ := openSession_eq hopen
    omega
  | grows hlive => exact absurd hlive hdead
  | enters hlive => exact absurd hlive hdead
  | leaves hlive => exact absurd hlive hdead
  | keeps hlive => exact absurd hlive hdead
  | closes hlive => exact absurd hlive hdead

/-- Only a connect cycle has a word about failure. -/
theorem not_isWarning (h : Change session c false callbacks c') :
    ∀ callback ∈ callbacks, callback.isWarning = false := by
  intro callback hmem
  cases h with
  | rests hcallbacks => exact absurd (hcallbacks callback hmem).1 (by simp)
  | keeps _ _ hcallbacks =>
    have hvalue := hcallbacks callback hmem
    cases callback with
    | value channel value => rfl
    | _ => simp [Callback.isValue] at hvalue
  | closes =>
    simp only [Callback.teardown, List.mem_cons, List.not_mem_nil, or_false] at hmem
    rcases hmem with rfl | rfl | rfl <;> rfl

/-- **Every change keeps a central in order.** -/
theorem coherent (h : Change session c own callbacks c') (hc : c.Coherent) : c'.Coherent := by
  cases h with
  | rests => exact hc
  | opens hopen =>
    obtain ⟨hphase, -, rfl⟩ := openSession_eq hopen
    -- The connection was as new, so that the phase and the session are all there is in it.
    have hnew := hc.idle (hc.phase_eq_iff.mp hphase)
    have hpumps := hc.running
    rw [hnew] at hpumps ⊢
    exact Central.coherent_of_live rfl ⟨Nat.succ_pos _, rfl⟩ ⟨rfl, rfl, rfl, rfl⟩ hpumps
  | grows _ _ _ _ _ _ hcoherent => exact hcoherent
  | enters _ _ _ _ _ _ hcoherent => exact hcoherent
  | leaves => exact c.coherent_cleared
  | keeps hlive hphase => exact hc.store hlive hphase _ _
  | closes => exact c.coherent_cleared

theorem profile_eq (h : Change session c own callbacks c') : c'.profile = c.profile := by
  cases h with
  | rests => rfl
  | opens hopen =>
    obtain ⟨-, -, rfl⟩ := openSession_eq hopen
    rfl
  | grows _ _ _ _ _ hprofile => exact hprofile
  | enters _ _ _ _ _ hprofile => exact hprofile
  | leaves => rfl
  | keeps hlive => rw [Central.store_of_live hlive]
  | closes => rfl

/-- Sessions are numbered upwards. -/
theorem sessions_le (h : Change session c own callbacks c') : c.sessions ≤ c'.sessions := by
  cases h with
  | rests => exact Nat.le_refl _
  | opens hopen =>
    obtain ⟨-, -, rfl⟩ := openSession_eq hopen
    exact Nat.le_succ _
  | grows _ _ _ _ hsessions => exact Nat.le_of_eq hsessions.symm
  | enters _ _ _ _ hsessions => exact Nat.le_of_eq hsessions.symm
  | leaves => exact Nat.le_refl _
  | keeps hlive => exact Nat.le_of_eq (by rw [Central.store_of_live hlive])
  | closes => exact Nat.le_refl _

/-- Only a session that begins is counted. -/
theorem sessions_eq (h : Change session c own callbacks c')
    (hbegun : own = true → session ≤ c.sessions) : c'.sessions = c.sessions := by
  cases h with
  | rests => rfl
  | opens hopen =>
    obtain ⟨-, rfl, -⟩ := openSession_eq hopen
    have hle := hbegun rfl
    omega
  | grows _ _ _ _ hsessions => exact hsessions
  | enters _ _ _ _ hsessions => exact hsessions
  | leaves => rfl
  | keeps hlive => rw [Central.store_of_live hlive]
  | closes => rfl

/-- **No session comes back to life**: one that has begun and is live after a change was
live before it. -/
theorem live_of_live (h : Change session c own callbacks c') {session' : Nat}
    (hbegun : session' ≤ c.sessions) (hlive' : c'.connection.session = some session') :
    c.connection.session = some session' := by
  cases h with
  | rests => exact hlive'
  | opens hopen =>
    obtain ⟨-, -, rfl⟩ := openSession_eq hopen
    have heq : c.sessions + 1 = session' := Option.some.inj hlive'
    omega
  | grows hlive _ hlive'' => rw [hlive, ← hlive'', hlive']
  | enters hlive _ hlive'' => rw [hlive, ← hlive'', hlive']
  | leaves => exact absurd hlive' (by simp [Central.cleared])
  | keeps hlive =>
    rw [Central.store_of_live hlive] at hlive'
    exact hlive'
  | closes => exact absurd hlive' (by simp [Central.cleared])

theorem hasEnded (h : Change session c own callbacks c') {session' : Nat}
    (hended : c.HasEnded session') : c'.HasEnded session' := by
  obtain ⟨hpos, hbegun, hdead⟩ := hended
  exact ⟨hpos, Nat.le_trans hbegun h.sessions_le, fun hlive => hdead (h.live_of_live hbegun hlive)⟩

/-- **What the others may rely on**: a session that is live after a change is in the phase
and has the link that it had before, unless its own connect cycle has made the change on the
way to being connected. -/
theorem frame (h : Change session c own callbacks c') {session' : Nat}
    (hbegun : session' ≤ c.sessions) (hlive' : c'.connection.session = some session')
    (hother : own = true → session' = session → c.connection.phase = .connected) :
    c'.connection.phase = c.connection.phase ∧ c'.connection.link = c.connection.link := by
  have hlive := h.live_of_live hbegun hlive'
  cases h with
  | rests => exact ⟨rfl, rfl⟩
  | opens hopen =>
    obtain ⟨-, rfl, rfl⟩ := openSession_eq hopen
    have heq : c.sessions + 1 = session' := Option.some.inj hlive'
    omega
  | grows hlive₁ hsetup =>
    -- The session is still on its way, so nobody but its own cycle could speak of it here.
    obtain rfl : session' = session := Option.some.inj (hlive.symm.trans hlive₁)
    exact absurd hsetup (by simp [hother rfl rfl, Phase.isSettingUp])
  | enters hlive₁ hsetup =>
    obtain rfl : session' = session := Option.some.inj (hlive.symm.trans hlive₁)
    exact absurd hsetup (by simp [hother rfl rfl, Phase.isSettingUp])
  | leaves => exact absurd hlive' (by simp [Central.cleared])
  | keeps hlive₁ =>
    rw [Central.store_of_live hlive₁]
    exact ⟨rfl, rfl⟩
  | closes => exact absurd hlive' (by simp [Central.cleared])

end Change

end CarrierLink
