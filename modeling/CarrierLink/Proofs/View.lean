import CarrierLink.Bench.Board
import CarrierLink.Proofs.Central.Observer
import CarrierLink.View

/-!
# What the operator sees without a connection

The operator's view is rebuilt from the callbacks of a central alone
(`CarrierLink.View.following`). This module says what it shows once the central is
disconnected (`CarrierLink.View.shown_of_leads`).

It never shows a connection then. Readings are another matter. The central drops its values
with the session, however the session ends, whereas the view drops them when it hears that a
connection has been torn down, and a connect cycle that fails by itself is not a teardown. A
session that is subscribing may already have delivered values. If a subscription fails after
that, they stay in the view, until another session is closed
(`CarrierLink.LeftBehind`); `CarrierLink.View.reading_after_failed_connect` is such a case.

The proof goes by way of the moments. A reading is shown exactly if it was delivered at some
moment after which nothing has been torn down (`CarrierLink.Uncleared`); the session that
delivered it was live at that moment and is not any more, and it cannot have been closed.
-/

namespace CarrierLink

namespace Table

variable {κ ν : Type} [DecidableEq κ]

/-- A table is empty when no key has a value. -/
theorem eq_empty_iff {t : Table κ ν} : t = empty ↔ ∀ key, t.get? key = none := by
  constructor
  · rintro rfl key
    rfl
  · intro h
    obtain ⟨entries, hnodup⟩ := t
    cases entries with
    | nil => rfl
    | cons entry rest => exact absurd (h entry.1) (by simp [get?])

end Table

/-! ### The view along a history -/

namespace View

/-- The view after the callbacks of a history. -/
def following (view : View) (ms : List Moment) : View :=
  (ms.flatMap Moment.callbacks).foldl after view

theorem following_eq (view : View) (ms : List Moment) :
    view.following ms = (callbacksIn (ms.flatMap Moment.seen)).foldl after view := by
  rw [following, callbacksIn, List.filterMap_flatMap]
  rfl

theorem following_snoc (view : View) (past : List Moment) (m : Moment) :
    view.following (past ++ [m]) = m.callbacks.foldl after (view.following past) := by
  simp [following]

variable {callbacks : List Callback}

/-- Short of a teardown readings are added and replaced, never dropped. -/
theorem isSome_telemetry_foldl (h : .disconnected ∉ callbacks) (view : View)
    (channel : Channel) :
    ((callbacks.foldl after view).telemetry.get? channel).isSome ↔
      (view.telemetry.get? channel).isSome ∨ ∃ value, .value channel value ∈ callbacks := by
  induction callbacks generalizing view with
  | nil => simp
  | cons callback rest ih =>
    rw [List.mem_cons, not_or] at h
    rw [List.foldl_cons, ih h.2]
    cases callback with
    | value channel' value =>
      by_cases hchannel : channel = channel'
      · simp [after, Table.get?_insert, hchannel]
      · simp [after, Table.get?_insert, hchannel]
    | disconnected => exact absurd rfl h.1
    | connected on => simp [after]
    | status text level => simp [after]

/-- Short of a teardown the view goes by the last word about being connected. -/
theorem connected_foldl (h : .disconnected ∉ callbacks) (view : View) :
    (callbacks.foldl after view).connected = lastWord (.connected view.connected :: callbacks) := by
  induction callbacks generalizing view with
  | nil => rfl
  | cons callback rest ih =>
    rw [List.mem_cons, not_or] at h
    rw [List.foldl_cons, ih h.2]
    cases callback with
    | disconnected => exact absurd rfl h.1
    | connected on => simp [lastWord, Callback.connected?, after]
    | value channel value => rfl
    | status text level => rfl

end View

/-! ### What is behind a reading or a teardown -/

namespace Change

variable {session : Nat} {c c' : Central} {own : Bool} {callbacks : List Callback}

/-- **Only a live session delivers.** -/
theorem live_of_value (h : Change session c own callbacks c') {channel : Channel} {value : Value}
    (hmem : .value channel value ∈ callbacks) : c.connection.session = some session := by
  cases h with
  | rests hcallbacks =>
    exact absurd (hcallbacks _ hmem).2 (by simp [Callback.isNote, Callback.isWarning])
  | opens => exact absurd hmem List.not_mem_nil
  | grows hlive => exact hlive
  | enters hlive => exact hlive
  | leaves hlive => exact hlive
  | keeps hlive => exact hlive
  | closes hlive => exact hlive

end Change

namespace System

variable {s t : System} {c' : Central} {action : Action} {callbacks : List Callback}
  {ms : List Moment} {session : Nat} {channel : Channel}

/-- A reading is delivered for a session that is live. -/
theorem Effect.live_of_value {value : Value} (h : s.Effect action callbacks c')
    (hmem : .value channel value ∈ callbacks) :
    ∃ session, s.cycle? action = some session ∧ s.central.connection.session = some session := by
  cases h with
  | work hcycle _ _ hchange => exact ⟨_, hcycle, hchange.live_of_value hmem⟩
  | request _ _ _ hstatus => exact absurd (hstatus _ hmem) (by simp [Callback.isStatus])
  | word _ hstatus => exact absurd (hstatus _ hmem) (by simp [Callback.isStatus])

/-- The observer hears of a disconnect when a live session is closed. -/
theorem Effect.closes_of_disconnected (h : s.Effect action callbacks c')
    (hmem : .disconnected ∈ callbacks) :
    callbacks = Callback.teardown ∧ c' = s.central.cleared := by
  cases h with
  | work _ _ _ hchange =>
    obtain ⟨-, hteardown, -, hcleared⟩ := hchange.closes_of_mem hmem (by decide)
    exact ⟨hteardown, hcleared⟩
  | request _ _ _ hstatus => exact absurd (hstatus _ hmem) (by simp [Callback.isStatus])
  | word _ hstatus => exact absurd (hstatus _ hmem) (by simp [Callback.isStatus])

/-- A session that was live and is not any more has ended in between. -/
theorem Leads.exists_ends (h : s.Leads ms t) (hlive : s.central.connection.session = some session)
    (hover : t.central.connection.session ≠ some session) :
    ∃ past m later, ms = past ++ m :: later ∧ m.Ends session := by
  induction ms generalizing s with
  | nil =>
    obtain rfl : s = t := h
    exact absurd hlive hover
  | cons m ms ih =>
    obtain ⟨rfl, -, hrest⟩ := h
    by_cases hstill : m.after.central.connection.session = some session
    · obtain ⟨past, m', later, rfl, hends⟩ := ih hrest hstill
      exact ⟨m :: past, m', later, rfl, hends⟩
    · exact ⟨[], m, ms, rfl, hlive, hstill⟩

end System

/-! ### Readings that stay -/

/-- A reading has been delivered, and nothing has been torn down since. -/
def Uncleared (ms : List Moment) (channel : Channel) : Prop :=
  ∃ past m later, ms = past ++ m :: later ∧ (∃ value, .value channel value ∈ m.callbacks) ∧
    ∀ m' ∈ later, .disconnected ∉ m'.callbacks

/-- **A reading that a session has left behind**: the session has delivered it and has ended by
the failure of its own connect cycle, and nothing has been torn down since. -/
def LeftBehind (ms : List Moment) (session : Nat) (channel : Channel) : Prop :=
  ∃ past m later, ms = past ++ m :: later ∧ m.Ends session ∧
    m.before.attempt? m.action = some session ∧
    (∃ value, .value channel value ∈ told (past ++ [m]) session) ∧
    ∀ m' ∈ later, .disconnected ∉ m'.callbacks

theorem uncleared_snoc {past : List Moment} {m : Moment} {channel : Channel} :
    Uncleared (past ++ [m]) channel ↔
      (∃ value, .value channel value ∈ m.callbacks) ∨
        Uncleared past channel ∧ .disconnected ∉ m.callbacks := by
  constructor
  · rintro ⟨past', m', later, hsplit, hvalue, hlater⟩
    rcases List.eq_nil_or_concat later with rfl | ⟨later, last, rfl⟩
    · obtain ⟨-, hlast⟩ := List.append_inj' hsplit rfl
      exact .inl (by rwa [List.singleton_inj.mp hlast])
    · rw [List.concat_eq_append, ← List.cons_append, ← List.append_assoc] at hsplit
      obtain ⟨rfl, hlast⟩ := List.append_inj' hsplit rfl
      obtain rfl := List.singleton_inj.mp hlast
      exact .inr ⟨⟨past', m', later, rfl, hvalue, fun m' hmem => hlater m' (by simp [hmem])⟩,
        hlater m (by simp)⟩
  · rintro (hvalue | ⟨⟨past', m', later, rfl, hvalue, hlater⟩, hquiet⟩)
    · exact ⟨past, m, [], rfl, hvalue, by simp⟩
    · refine ⟨past', m', later ++ [m], by simp, hvalue, fun m'' hmem => ?_⟩
      rcases List.mem_append.mp hmem with hmem | hmem
      · exact hlater m'' hmem
      · obtain rfl := List.mem_singleton.mp hmem
        exact hquiet

namespace System

variable {profile : Profile} {ms : List Moment} {s : System} {channel : Channel}

/-- **The readings in the view** are those that have not been cleared. -/
theorem isSome_telemetry_following {view : View} (hview : view.telemetry = Table.empty)
    (h : (initial profile).Leads ms s) (channel : Channel) :
    ((view.following ms).telemetry.get? channel).isSome ↔ Uncleared ms channel := by
  refine h.induction (motive := fun ms _ =>
    ((view.following ms).telemetry.get? channel).isSome ↔ Uncleared ms channel) ?_
    fun past m hpast hstep ih => ?_
  · simp [View.following, hview, Uncleared]
  rw [View.following_snoc, uncleared_snoc]
  by_cases hclosed : .disconnected ∈ m.callbacks
  · obtain ⟨hteardown, -⟩ := ((sound_of_leads hpast).step hstep).2.closes_of_disconnected hclosed
    rw [show m.callbacks = Callback.teardown from hteardown]
    simp [Callback.teardown, View.after]
  · rw [View.isSome_telemetry_foldl hclosed, ih, or_comm]
    simp [hclosed]

/-- **The view shows a connection when there is one.** -/
theorem connected_following {view : View} (hview : view.connected = false)
    (h : (initial profile).Leads ms s) :
    (view.following ms).connected = s.central.isConnected := by
  refine h.induction (motive := fun ms s => (view.following ms).connected = s.central.isConnected)
    ?_ fun past m hpast hstep ih => ?_
  · exact hview
  have heffect := ((sound_of_leads hpast).step hstep).2
  rw [View.following_snoc]
  by_cases hclosed : .disconnected ∈ m.callbacks
  · obtain ⟨hteardown, hcleared⟩ := heffect.closes_of_disconnected hclosed
    rw [show m.callbacks = Callback.teardown from hteardown, hcleared]
    rfl
  · rw [View.connected_foldl hclosed, ih, ← List.singleton_append]
    exact heffect.lastWord_eq (by rfl)

/-- The moment at which a session ends after it has delivered something is none at which it is
closed, if nothing has been torn down since. -/
theorem leftBehind_of_uncleared (h : (initial profile).Leads ms s)
    (hphase : s.central.connection.phase = .disconnected) (hreading : Uncleared ms channel) :
    ∃ session, LeftBehind ms session channel := by
  obtain ⟨past, m₀, later, rfl, ⟨value, hvalue⟩, hquiet⟩ := hreading
  obtain ⟨hpast, hstep, hlater⟩ := h.split
  obtain ⟨session, hcycle, hlive⟩ :=
    ((sound_of_leads hpast).step hstep).2.live_of_value hvalue
  have hover : s.central.connection.session ≠ some session := by
    simp [(sound_of_leads h).coherent.phase_eq_iff.mp hphase]
  have hrest : m₀.before.Leads (m₀ :: later) s := ⟨rfl, hstep, hlater⟩
  obtain ⟨between, m, rest, hsplit, hends⟩ := hrest.exists_ends hlive hover
  have hplace : m₀ = m ∧ rest = later ∨
      m₀ ∈ between ∧ m ∈ later ∧ ∀ m' ∈ rest, m' ∈ later := by
    rcases List.cons_eq_append_iff.mp hsplit with ⟨rfl, hcons⟩ | ⟨between, rfl, rfl⟩
    · exact .inl ⟨(List.cons.inj hcons).1.symm, (List.cons.inj hcons).2⟩
    · exact .inr ⟨List.mem_cons_self, by simp, fun m' hmem => by simp [hmem]⟩
  have hwhole : past ++ m₀ :: later = (past ++ between) ++ m :: rest := by
    rw [hsplit, List.append_assoc]
  obtain ⟨-, hend, -, -⟩ := told_of_ends (hwhole ▸ h) hends
  refine ⟨session, past ++ between, m, rest, hwhole, hends, ?_, ⟨value, mem_told.mpr ⟨m₀, ?_,
    hcycle, hvalue⟩⟩, fun m' hmem => hquiet m' ?_⟩
  · -- Had it been closed, the view would have heard of it.
    refine (hend.resolve_right fun hclosed => ?_).1
    rcases hplace with ⟨rfl, -⟩ | ⟨-, hmem, -⟩
    · rw [hclosed.2] at hvalue
      exact absurd hvalue (by simp [Callback.teardown])
    · refine hquiet m hmem ?_
      rw [hclosed.2]
      decide
  · rcases hplace with ⟨rfl, -⟩ | ⟨hmem, -, -⟩
    · simp
    · simp [hmem]
  · rcases hplace with ⟨-, rfl⟩ | ⟨-, -, hrest⟩
    · exact hmem
    · exact hrest m' hmem

/-- As long as a session is live nothing is torn down. -/
theorem Sound.quiet_of_live {t : System} {session : Nat} (hs : s.Sound) (h : s.Leads ms t)
    (hlive : s.central.connection.session = some session)
    (hstill : t.central.connection.session = some session) :
    ∀ m ∈ ms, .disconnected ∉ m.callbacks := by
  intro m hmem hclosed
  obtain ⟨first, rest, rfl⟩ := List.append_of_mem hmem
  obtain ⟨hfirst, hstep, hrest⟩ := h.split
  obtain ⟨hs', hle⟩ := hs.sessions_le_of_leads hfirst
  obtain ⟨hs'', heffect⟩ := hs'.step hstep
  obtain ⟨-, hcleared⟩ := heffect.closes_of_disconnected hclosed
  obtain ⟨hpos, hnewest⟩ := hs.coherent.newest session hlive
  have hended : m.after.central.HasEnded session := by
    rw [hcleared]
    exact ⟨hpos, hnewest ▸ hle, by simp [Central.cleared]⟩
  exact (hs''.hasEnded_of_leads hrest hended).2.2.2 hstill

theorem uncleared_of_leftBehind (h : (initial profile).Leads ms s) {session : Nat}
    (hleft : LeftBehind ms session channel) : Uncleared ms channel := by
  obtain ⟨past, m, later, rfl, hends, hattempt, ⟨value, htold⟩, hquiet⟩ := hleft
  obtain ⟨-, hend, -, -⟩ := told_of_ends h hends
  obtain ⟨m₀, hmem, hcycle, hvalue⟩ := mem_told.mp htold
  -- The last moment of the session is none at which anything is torn down.
  have hlast : .disconnected ∉ m.callbacks := fun hclosed => by
    have hopen := hend.resolve_right fun hother => by
      simp [closing?_of_attempt? hattempt] at hother
    exact hopen.2 _ hclosed (by decide)
  rcases List.mem_append.mp hmem with hmem | hmem
  · obtain ⟨before, between, rfl⟩ := List.append_of_mem hmem
    rw [List.append_assoc, List.cons_append] at h
    obtain ⟨hbefore, hstep, hrest⟩ := h.split
    obtain ⟨hbetween, -, -⟩ := hrest.split
    have hs := sound_of_leads hbefore
    obtain ⟨session', hcycle', hlive⟩ := (hs.step hstep).2.live_of_value hvalue
    obtain rfl : session' = session := Option.some.inj (hcycle'.symm.trans hcycle)
    have hlive' : m₀.before.Leads (m₀ :: between) m.before := ⟨rfl, hstep, hbetween⟩
    refine ⟨before, m₀, between ++ m :: later, by simp, ⟨value, hvalue⟩, fun m' hmem => ?_⟩
    rcases List.mem_append.mp hmem with hmem | hmem
    · exact hs.quiet_of_live hlive' hlive hends.1 m' (List.mem_cons_of_mem _ hmem)
    · rcases List.mem_cons.mp hmem with rfl | hmem
      · exact hlast
      · exact hquiet m' hmem
  · obtain rfl := List.mem_singleton.mp hmem
    exact ⟨past, m₀, later, rfl, ⟨value, hvalue⟩, hquiet⟩

end System

/-! ### What is shown without a connection -/

/-- **What the view shows**, after any history of a central. It shows a connection when there
is one. A session that is closed takes all readings with it. Once the central is disconnected
the readings in the view are those, and only those, that a failed connect has left behind. -/
theorem View.shown_of_leads {profile : Profile} {ms : List Moment} {s : System} {view : View}
    (hview : view = View.connecting ∨ view = {}) (h : (System.initial profile).Leads ms s) :
    (view.following ms).connected = s.central.isConnected ∧
    (∀ past m later session, ms = past ++ m :: later → m.Ends session →
      m.before.closing? m.action = some session →
      (view.following (past ++ [m])).telemetry = Table.empty) ∧
    (s.central.connection.phase = .disconnected →
      (view.following ms).connected = false ∧
      (∀ channel, ((view.following ms).telemetry.get? channel).isSome ↔
        ∃ session, LeftBehind ms session channel) ∧
      ((view.following ms).telemetry = Table.empty ↔
        ∀ session channel, ¬LeftBehind ms session channel)) := by
  have hfresh : view.connected = false ∧ view.telemetry = Table.empty := by
    rcases hview with rfl | rfl <;> exact ⟨rfl, rfl⟩
  have hconnected := System.connected_following hfresh.1 h
  refine ⟨hconnected, fun past m later session hms hends hclosing => ?_, fun hphase => ?_⟩
  · subst hms
    obtain ⟨-, hend, -, -⟩ := System.told_of_ends h hends
    have hclosed := hend.resolve_left fun hfailed => by
      simp [System.closing?_of_attempt? hfailed.1] at hclosing
    rw [View.following_snoc, hclosed.2]
    rfl
  · have hreading (channel : Channel) :
        ((view.following ms).telemetry.get? channel).isSome ↔
          ∃ session, LeftBehind ms session channel :=
      (System.isSome_telemetry_following hfresh.2 h channel).trans
        ⟨System.leftBehind_of_uncleared h hphase,
          fun ⟨_, hleft⟩ => System.uncleared_of_leftBehind h hleft⟩
    refine ⟨hconnected.trans (Central.isConnected_eq_false (by simp [hphase])), hreading, ?_⟩
    simp only [Table.eq_empty_iff, ← Option.not_isSome_iff_eq_none, hreading, not_exists]
    exact forall_comm

/-- A temperature is pushed while the subscriptions are on their way, and one of them fails. -/
theorem System.exists_failed_subscription :
    ∃ ms s, (System.initial Profile.sensor).Leads ms s ∧
      s.central.connection.phase = .disconnected ∧
      (View.connecting.following ms).telemetry.get? .temperature = some (.float 0x41AC0000) := by
  have hruns : ((System.initial Profile.sensor).run
      ([.start .connect, .send 0, .reply 0 0 (.availability true), .send 0,
        .reply 0 0 (.device (.ok ⟨1, none⟩)), .send 0, .reply 0 0 (.done (.ok ())), .send 0,
        .reply 0 0 (.done (.ok ())), .send 0,
        .reply 0 0 (.services (.ok Profile.sensor.boardServices))] ++
      List.replicate 13 (.send 0) ++
      [.push 1 (.notification (Uuid.ofChannel .temperature) [0x00, 0x00, 0xAC, 0x41]),
        .reply 0 1 (.done (.error (.transport .subscribing (.note "boom")))), .send 0,
        .reply 0 0 (.done (.ok ()))])).any (fun run =>
      run.1.central.connection.phase == .disconnected &&
        ((callbacksIn run.2).foldl View.after View.connecting).telemetry.get? .temperature ==
          some (.float 0x41AC0000)) = true := by
    decide +kernel
  simp only [Option.any_eq_true, Bool.and_eq_true, beq_iff_eq] at hruns
  obtain ⟨⟨s, seen⟩, hrun, hphase, hreading⟩ := hruns
  obtain ⟨ms, h, -, rfl⟩ := System.run_iff_leads.mp hrun
  exact ⟨ms, s, h, hphase, View.following_eq _ ms ▸ hreading⟩

/-- **A view may show readings without a connection.** -/
theorem View.reading_after_failed_connect :
    ¬∀ ms s, (System.initial Profile.sensor).Leads ms s →
      s.central.connection.phase = .disconnected →
      (View.connecting.following ms).telemetry = Table.empty := by
  intro hall
  obtain ⟨ms, s, h, hphase, hreading⟩ := System.exists_failed_subscription
  rw [hall ms s h hphase] at hreading
  exact absurd hreading (by simp)

/-- The reading has been left behind by the session whose subscription failed. -/
theorem View.shown_after_failed_connect :
    ∃ ms s, (System.initial Profile.sensor).Leads ms s ∧
      s.central.connection.phase = .disconnected ∧
      (View.connecting.following ms).connected = false ∧
      (View.connecting.following ms).telemetry.get? .temperature = some (.float 0x41AC0000) ∧
      ∃ session, LeftBehind ms session .temperature := by
  obtain ⟨ms, s, h, hphase, hreading⟩ := System.exists_failed_subscription
  obtain ⟨hconnected, hreadings, -⟩ := (View.shown_of_leads (.inl rfl) h).2.2 hphase
  exact ⟨ms, s, h, hphase, hconnected, hreading,
    (hreadings .temperature).mp (by rw [hreading]; rfl)⟩

end CarrierLink
