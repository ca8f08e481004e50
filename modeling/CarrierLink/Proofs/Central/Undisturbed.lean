import CarrierLink.Proofs.Central.Conditions

/-!
# A connect that is left alone

What becomes of a connect if nobody else asks anything of the central meanwhile and the link
has nothing to report (`CarrierLink.System.undisturbed_of_leads`). Which calls it makes, how it
ends and what is known afterwards is settled by what the platform answers to the calls.

Such a connect stands in one of its places at any time (`CarrierLink.System.LeftAlone`). It can
go on from each of them, since it has the floor and any call that is out can be answered; and as
it makes few calls, and each of them is sent once and answered once, it does come to its end
(`CarrierLink.System.LeftAlone.exists_end`).
-/

namespace CarrierLink

/-! ### Histories in which a connect is left alone -/

/-- **A moment in which a task is left alone**: it sends a call, or one of its calls is answered
as the conditions have it. -/
def Moment.LeavesAlone (m : Moment) (w : Conditions) (number : Nat) : Prop :=
  m.action = .send number ∨ ∃ task ticket, m.before.tasks[number]? = some task ∧
    ticket ∈ task.sent ∧ m.action = .reply number ticket.slot (w.reply ticket.call)

theorem Moment.LeavesAlone.speaks {m : Moment} {w : Conditions} {number : Nat}
    (h : m.LeavesAlone w number) : System.speaker? m.action = some number := by
  rcases h with haction | ⟨task, ticket, -, -, haction⟩ <;> rw [haction] <;> rfl

namespace System

/-- **A connect that is left alone**, some moments after its beginning. Every call that it has
made counts twice, once when it is sent and once when it is answered. -/
structure LeftAlone (w : Conditions) (profile : Profile) (session number : Nat) (ms : List Moment)
    (s : System) : Prop where
  sound : s.Sound
  profile_eq : s.central.profile = profile
  floor : s.isFloorFree (some number)
  stands : ∃ task, s.tasks[number]? = some task ∧
    w.Stands profile session (made ms number) s.central task ∧
    ms.length + task.sent.length ≤ 2 * (made ms number).length

variable {w : Conditions} {profile : Profile} {session number : Nat} {ms : List Moment}
  {s : System} {m : Moment}

/-- The beginning of a connect. -/
theorem leftAlone_of_begins (w : Conditions) (hs : m.before.Sound)
    (hprofile : m.before.central.profile = profile)
    (hstep : m.before.step m.action = some (m.after, m.seen)) (hbegins : m.Begins number .connect)
    (hphase : m.before.central.connection.phase = .disconnected) :
    LeftAlone w profile (m.before.central.sessions + 1) number [] m.after := by
  obtain ⟨hsound, heffect⟩ := hs.step hstep
  obtain ⟨_, _, _, hchange⟩ := heffect.change
  obtain ⟨haction, hnumber⟩ := hbegins
  rw [haction] at hstep
  have hnew := hs.coherent.idle (hs.coherent.phase_eq_iff.mp hphase)
  refine ⟨hsound, hchange.profile_eq.trans hprofile, hnumber ▸ isFloorFree_of_start hstep, ?_⟩
  obtain ⟨hafter, -, -⟩ := step_start hstep
  simp only [Task.start, Central.openSession, if_pos hphase] at hafter
  have hlands : w.Lands profile (m.before.central.sessions + 1) [] ⟨m.after.central, [],
      Task.asking (.attempt (m.before.central.sessions + 1) .checking) .available⟩ :=
    Conditions.lands_askingAll .checking (List.cons_ne_nil _ _)
      (by simp [Conditions.Knows, hafter, hnew])
  exact ⟨_, by simp [hafter, ← hnumber], hlands.1, Nat.zero_le _⟩

/-- **Every step that leaves the connect alone.** -/
theorem LeftAlone.next (h : LeftAlone w profile session number ms m.before)
    (hchannels : (profile.channels.map ChannelSpec.channel).Nodup)
    (hstep : m.before.step m.action = some (m.after, m.seen)) (halone : m.LeavesAlone w number) :
    LeftAlone w profile session number (ms ++ [m]) m.after := by
  obtain ⟨hsound, heffect⟩ := h.sound.step hstep
  obtain ⟨_, _, _, hchange⟩ := heffect.change
  refine ⟨hsound, hchange.profile_eq.trans h.profile_eq,
    isFloorFree_of_speaks hstep halone.speaks, ?_⟩
  obtain ⟨task, htask, hstands, hlength⟩ := h.stands
  rw [made_snoc, List.length_append, List.length_singleton, List.length_append]
  rcases step_task hstep htask with ⟨-, -, hsend, hreply⟩ |
    ⟨-, ticket, queued, hqueued, htask', hcentral, hseen⟩ |
    ⟨slot, reply, turn, haction, hturn, htask', hcentral, -, hcalls⟩
  · rcases halone with haction | ⟨-, ticket, -, -, haction⟩
    · exact absurd haction hsend
    · exact absurd haction (hreply _ _)
  · have hmade : callsIn m.seen number = [ticket.call] := by simp [hseen, callsIn, Event.call?]
    rw [hmade, hcentral]
    refine ⟨_, htask', hstands.send hqueued, ?_⟩
    simp only [List.length_append, List.length_singleton]
    omega
  · rw [hcalls, List.append_nil]
    rcases halone with hsend | ⟨task', ticket, htask'', hmem, hreply⟩
    · simp [haction] at hsend
    obtain rfl : task' = task := Option.some.inj (htask''.symm.trans htask)
    obtain ⟨-, rfl, rfl⟩ := Action.reply.inj (haction.symm.trans hreply)
    obtain ⟨turn', hturn', hstands', hfewer⟩ := hstands.answer h.sound.coherent h.profile_eq
      (h.sound.fits number _ htask) hchannels hmem
    obtain rfl : turn' = turn := Option.some.inj (hturn'.symm.trans hturn)
    rw [hcentral]
    refine ⟨_, htask', hstands', ?_⟩
    simp only [List.length_nil]
    omega

/-- **As long as the connect has not ended there is something for it to do.** -/
theorem LeftAlone.exists_step (h : LeftAlone w profile session number ms s)
    (hchannels : (profile.channels.map ChannelSpec.channel).Nodup)
    (hopen : s.tasks[number]?.bind Task.outcome? = none) :
    ∃ m : Moment, m.before = s ∧ m.LeavesAlone w number ∧
      s.step m.action = some (m.after, m.seen) := by
  obtain ⟨task, htask, hstands, -⟩ := h.stands
  rw [htask, Option.bind_some] at hopen
  have hstep {action : Action} (hsome : (s.step action).isSome)
      (halone : action = .send number ∨ ∃ task ticket, s.tasks[number]? = some task ∧
        ticket ∈ task.sent ∧ action = .reply number ticket.slot (w.reply ticket.call)) :
      ∃ m : Moment, m.before = s ∧ m.LeavesAlone w number ∧
        s.step m.action = some (m.after, m.seen) := by
    obtain ⟨⟨t, now⟩, hnext⟩ := Option.isSome_iff_exists.mp hsome
    exact ⟨⟨s, action, t, now⟩, rfl, halone, hnext⟩
  cases hsent : task.sent with
  | nil =>
    have hqueued : task.queued ≠ [] := by
      simpa [Task.unanswered, hsent] using hstands.busy hopen
    exact hstep (isSome_send htask hqueued h.floor) (.inl rfl)
  | cons ticket rest =>
    have hmem : ticket ∈ task.sent := hsent ▸ List.mem_cons_self
    obtain ⟨turn, hturn, -⟩ := hstands.answer h.sound.coherent h.profile_eq
      (h.sound.fits number task htask) hchannels hmem
    exact hstep (isSome_reply htask h.floor (Option.isSome_iff_exists.mpr ⟨turn, hturn⟩))
      (.inr ⟨task, ticket, htask, hmem, rfl⟩)

theorem LeftAlone.of_outcome {outcome : Outcome} (h : LeftAlone w profile session number ms s)
    (houtcome : s.tasks[number]?.bind Task.outcome? = some outcome) :
    w.Ends profile (made ms number) outcome ∧ w.Leaves profile s.central outcome := by
  obtain ⟨task, htask, hstands, -⟩ := h.stands
  rw [htask, Option.bind_some] at houtcome
  exact hstands.of_outcome houtcome

theorem LeftAlone.length_le (h : LeftAlone w profile session number ms s) :
    ms.length ≤ 12 + 4 * profile.telemetry.length := by
  obtain ⟨task, -, hstands, hlength⟩ := h.stands
  have hcalls := hstands.length_le
  omega

/-- **A connect that is left alone comes to its end.** -/
theorem LeftAlone.exists_end (h : LeftAlone w profile session number ms s)
    (hchannels : (profile.channels.map ChannelSpec.channel).Nodup) :
    ∃ more t, s.Leads more t ∧ (∀ m ∈ more, m.LeavesAlone w number) ∧
      LeftAlone w profile session number (ms ++ more) t ∧
      (t.tasks[number]?.bind Task.outcome?).isSome := by
  -- The induction is on the moments that are left.
  obtain ⟨left, hleft⟩ : ∃ left, 12 + 4 * profile.telemetry.length < ms.length + left :=
    ⟨12 + 4 * profile.telemetry.length + 1, by omega⟩
  induction left generalizing ms s with
  | zero => exact absurd h.length_le (by omega)
  | succ left ih =>
    by_cases hopen : s.tasks[number]?.bind Task.outcome? = none
    · obtain ⟨m, rfl, halone, hstep⟩ := h.exists_step hchannels hopen
      have hlength : (ms ++ [m]).length = ms.length + 1 := by simp
      obtain ⟨more, t, hmore, halone', hafter, hend⟩ :=
        ih (h.next hchannels hstep halone) (by omega)
      rw [← List.append_cons] at hafter
      exact ⟨m :: more, t, ⟨rfl, hstep, hmore⟩, List.forall_mem_cons.mpr ⟨halone, halone'⟩, hafter,
        hend⟩
    · exact ⟨[], s, rfl, by simp, by rwa [List.append_nil], Option.isSome_iff_ne_none.mpr hopen⟩

theorem leftAlone_of_leads {past later : List Moment}
    (h : (initial profile).Leads (past ++ m :: later) s) (hbegins : m.Begins number .connect)
    (hphase : m.before.central.connection.phase = .disconnected)
    (hchannels : (profile.channels.map ChannelSpec.channel).Nodup)
    (halone : ∀ m' ∈ later, m'.LeavesAlone w number) :
    LeftAlone w profile (m.before.central.sessions + 1) number later s := by
  obtain ⟨hpast, hstep, hlater⟩ := h.split
  refine hlater.induction (motive := fun later s => (∀ m' ∈ later, m'.LeavesAlone w number) →
    LeftAlone w profile (m.before.central.sessions + 1) number later s) (fun _ => ?_)
    (fun past m' _ hstep' ih halone => ?_) halone
  · exact leftAlone_of_begins w (sound_of_leads hpast) (profile_eq_of_leads hpast) hstep hbegins
      hphase
  · obtain ⟨hbefore, hm'⟩ := List.forall_mem_append.mp halone
    exact (ih hbefore).next hchannels hstep' (hm' m' (List.mem_singleton_self m'))

/-- **What becomes of a connect that is left alone**, from the moment `m` on at which it
begins. -/
structure Returned (w : Conditions) (profile : Profile) (number : Nat) (m : Moment)
    (later : List Moment) (s : System) : Prop where
  /-- Until it has ended it can go on, -/
  goesOn : s.tasks[number]?.bind Task.outcome? = none →
    ∃ m' : Moment, m'.before = s ∧ m'.LeavesAlone w number ∧
      s.step m'.action = some (m'.after, m'.seen)
  /-- but not for long. -/
  bounded : later.length ≤ 12 + 4 * profile.telemetry.length
  /-- Its calls so far are the first of those with which it can end. -/
  calls : ∃ calls outcome, w.Ends profile calls outcome ∧ made (m :: later) number <+: calls
  /-- The telemetry channels have their handles, one for each of them. -/
  places : ∀ link handles, w.opening profile = .ok (link, handles) →
    (profile.telemetryHandles handles).map Prod.fst = profile.telemetry ∧
      ∀ entry ∈ profile.telemetryHandles handles,
        handles.get? entry.1.channel = some entry.2 ∧
          profile.serviceOf entry.1.role = some entry.2.service ∧ entry.2.uuid = entry.1.uuid
  /-- Its calls when it has ended, and the error if it has failed. -/
  ends : ∀ outcome, s.tasks[number]?.bind Task.outcome? = some outcome →
    w.Ends profile (made (m :: later) number) outcome
  succeeds : ∀ outcome, s.tasks[number]?.bind Task.outcome? = some outcome →
    (outcome = .ok .done ↔ w.Favour profile)
  /-- It has connected, and the values are those of the first reads. -/
  connected : s.tasks[number]?.bind Task.outcome? = some (.ok .done) →
    s.central.connection.phase = .connected ∧ ∃ link handles,
      w.opening profile = .ok (link, handles) ∧ ∀ channel value,
        s.central.lastValue channel = some value ↔
          ∃ entry ∈ profile.telemetryHandles handles,
            entry.1.channel = channel ∧ w.Brings entry value
  failed : ∀ e, s.tasks[number]?.bind Task.outcome? = some (.error e) →
    s.central.connection.phase = .disconnected

/-- **An undisturbed connect**, whatever the platform answers. It makes its calls stage by stage,
on the handles of the telemetry channels, and none after a stage that fails but the one that closes
its link. It succeeds if no stage up to the subscriptions fails, and otherwise it ends with the
error of the one that does. If it succeeds, the values that are known are those that the first
reads have brought. -/
theorem undisturbed_of_leads {past later : List Moment}
    (h : (initial profile).Leads (past ++ m :: later) s) (hbegins : m.Begins number .connect)
    (hphase : m.before.central.connection.phase = .disconnected)
    (hchannels : (profile.channels.map ChannelSpec.channel).Nodup)
    (halone : ∀ m' ∈ later, m'.LeavesAlone w number) :
    Returned w profile number m later s := by
  have hleft := leftAlone_of_leads h hbegins hphase hchannels halone
  have hmade : made (m :: later) number = made later number := by
    obtain ⟨-, hstep, -⟩ := h.split
    obtain ⟨-, -, hcalls⟩ := step_start (hbegins.1 ▸ hstep)
    rw [made_cons]
    simp [made, hcalls number]
  refine ⟨hleft.exists_step hchannels, hleft.length_le, ?_, fun link handles hopening => ?_,
    fun outcome houtcome => hmade ▸ (hleft.of_outcome houtcome).1,
    fun outcome houtcome => (hleft.of_outcome houtcome).1.ok_iff, fun houtcome => ?_,
    fun e houtcome => ?_⟩
  · obtain ⟨more, t, -, -, hleft', hend⟩ := hleft.exists_end hchannels
    obtain ⟨outcome, houtcome⟩ := Option.isSome_iff_exists.mp hend
    refine ⟨_, outcome, (hleft'.of_outcome houtcome).1, hmade ▸ ?_⟩
    simp only [made, callsIn, List.flatMap_append, List.filterMap_append]
    exact List.prefix_append _ _
  · obtain ⟨-, -, -, -, services, -, hresolve⟩ := Conditions.opening_eq_ok.mp hopening
    refine ⟨Handles.map_fst_telemetryHandles hresolve, fun entry hmem => ?_⟩
    exact ⟨(Profile.mem_telemetryHandles.mp hmem).2, Handles.place_of_mem hresolve hchannels hmem⟩
  · obtain ⟨hphase, link, handles, hopening, hkept⟩ := (hleft.of_outcome houtcome).2
    refine ⟨hphase, link, handles, hopening, fun channel value => (hkept channel value).trans ?_⟩
    simp only [true_and, List.mem_iff_getElem?]
    grind
  · exact hleft.sound.coherent.phase_eq_iff.mpr (hleft.of_outcome houtcome).2

/-- A board with sensors of which only the temperature can be read at first. -/
def temperate : Conditions where
  available := true
  device := .ok ⟨0, some "Arduino MKR IoT Carrier"⟩
  connect := .ok ()
  events := .ok ()
  services := .ok
    [⟨Uuid.sensorService, Profile.sensor.telemetry.map ChannelSpec.uuid⟩,
      ⟨Uuid.controlService, (Profile.sensor.channels.map ChannelSpec.uuid).drop 13⟩]
  subscribe _ := .ok ()
  read handle :=
    if handle.uuid = Uuid.ofChannel .temperature then .ok [0x00, 0x00, 0xac, 0x41]
    else .error .notConnected
  write _ _ := .ok ()
  disconnect := .ok ()

/-- A failed first read is no obstacle, and leaves its channel without a value. -/
theorem undisturbed_temperate :
    ∃ m later s, (initial Profile.sensor).Leads ([] ++ m :: later) s ∧ m.Begins 0 .connect ∧
      (∀ m' ∈ later, m'.LeavesAlone temperate 0) ∧
      Returned temperate Profile.sensor 0 m later s ∧
      s.tasks[0]?.bind Task.outcome? = some (.ok .done) ∧
      s.central.lastValue .temperature = some (.float 0x41ac0000) ∧
      s.central.lastValue .humidity = none := by
  have hchannels : (Profile.sensor.channels.map ChannelSpec.channel).Nodup := by decide
  obtain ⟨⟨s₀, now⟩, hstep⟩ := Option.isSome_iff_exists.mp
    (show ((initial Profile.sensor).step (.start .connect)).isSome from rfl)
  let m : Moment := ⟨initial Profile.sensor, .start .connect, s₀, now⟩
  have hbegins : m.Begins 0 .connect := ⟨rfl, rfl⟩
  obtain ⟨later, s, hlater, halone, -, hend⟩ := (leftAlone_of_begins (w := temperate) (m := m)
    (sound_initial _) rfl hstep hbegins rfl).exists_end hchannels
  have h : (initial Profile.sensor).Leads ([] ++ m :: later) s := ⟨rfl, hstep, hlater⟩
  have hreturned := undisturbed_of_leads h hbegins rfl hchannels halone
  obtain ⟨outcome, houtcome⟩ := Option.isSome_iff_exists.mp hend
  have hfavour : temperate.Favour Profile.sensor :=
    ⟨rfl, _, _, _, rfl, rfl, rfl, rfl, rfl, fun _ _ => rfl⟩
  obtain rfl := (hreturned.succeeds outcome houtcome).mpr hfavour
  obtain ⟨-, link, handles, hopening, hvalues⟩ := hreturned.connected houtcome
  obtain ⟨hall, hplaces⟩ := hreturned.places link handles hopening
  have huuid : ∀ spec ∈ Profile.sensor.telemetry, spec.uuid = Uuid.ofChannel spec.channel := by
    decide
  refine ⟨m, later, s, h, hbegins, halone, hreturned, houtcome, ?_, ?_⟩
  · obtain ⟨entry, hmem, hentry⟩ := List.mem_map.mp (hall ▸
      (by decide : Profile.entry .primary .float .readNotify .temperature ∈
        Profile.sensor.telemetry))
    obtain ⟨-, -, hplace⟩ := hplaces entry hmem
    rw [hentry] at hplace
    refine (hvalues _ _).mpr ⟨entry, hmem, by rw [hentry]; rfl, _, if_pos hplace, ?_⟩
    rw [hentry]
    rfl
  · refine Option.eq_none_iff_forall_not_mem.mpr fun value hvalue => ?_
    obtain ⟨entry, hmem, hchannel, data, hread, -⟩ := (hvalues _ _).mp hvalue
    obtain ⟨-, -, hplace⟩ := hplaces entry hmem
    have hspec := huuid entry.1 (hall ▸ List.mem_map_of_mem hmem)
    rw [hchannel, ← hplace] at hspec
    simp [temperate, hspec, Uuid.ofChannel] at hread

end System

end CarrierLink
