import CarrierLink.AlarmClock
import CarrierLink.Proofs.Central.Receipts

/-!
# An alarm is armed last

Programming an alarm takes four writes (`CarrierLink.AlarmClock.settings`) in three rounds
(`CarrierLink.AlarmClock.round`): the clock times together, then the melody, and the switch
that arms the alarm at the end. Every write finds the connection of its own moment, the links
may be lost and made anew in between, and any of the writes may fail. This module proves that
the switch is nevertheless never sent to a board that has not taken everything else
(`CarrierLink.AlarmClock.armed_of_leads`): a write is only made when all the settings of
earlier rounds have been confirmed in its own session and over its own link
(`CarrierLink.AlarmClock.Due`), and the alarm is reported as set exactly when all four have
been confirmed.

The proof follows the script (`CarrierLink.AlarmClock.Progress`). While the clock times are
out, each of the two stands for itself. From then on the settings are a list of which some
have been confirmed, one is out, and the others are to come; what is confirmed was confirmed
while its session was live, and the next write is checked in the same turn, so that it goes to
the same session over the same link.
-/

namespace CarrierLink

namespace AlarmClock

open Script

/-! ### Settings -/

/-- The clock times of an alarm. -/
def clockTimes (config : AlarmConfig) (now : ClockTime) : List (Channel × Value) :=
  [(.localTime, .time now), (.alarmTime, .time config.time)]

/-- What is written after the clock times. -/
def afterTimes (config : AlarmConfig) : List (Channel × Value) :=
  [(.melody, .text config.melody.wireText), (.alarmSwitch, .flag true)]

/-- **What an armed alarm consists of**, in the order in which it is written. -/
def settings (config : AlarmConfig) (now : ClockTime) : List (Channel × Value) :=
  clockTimes config now ++ afterTimes config

/-- The round in which a channel is written. -/
def round : Channel → Nat
  | .melody => 1
  | .alarmSwitch => 2
  | _ => 0

/-- After the clock times each round has one setting. -/
theorem rounds_ordered (config : AlarmConfig) (now : ClockTime) :
    (settings config now).Pairwise fun first second =>
      round first.1 ≤ round second.1 ∧
        (0 < round first.1 → round first.1 < round second.1) := by
  simp [settings, clockTimes, afterTimes, round]

theorem round_pos_of_mem_afterTimes {config : AlarmConfig} {setting : Channel × Value}
    (h : setting ∈ afterTimes config) : 0 < round setting.1 := by
  simp only [afterTimes, List.mem_cons, List.not_mem_nil, or_false] at h
  rcases h with rfl | rfl <;> exact Nat.succ_pos _

/-- **What has been written when a setting has its turn**: all of the earlier rounds, and
never the switch. -/
theorem of_settings_eq {config : AlarmConfig} {now : ClockTime}
    {before more : List (Channel × Value)} {setting : Channel × Value}
    (h : settings config now = before ++ setting :: more) (hround : 0 < round setting.1) :
    (∀ other ∈ settings config now, round other.1 < round setting.1 → other ∈ before) ∧
      ∀ other ∈ before, other.1 ≠ .alarmSwitch := by
  have hordered := rounds_ordered config now
  rw [h, List.pairwise_append, List.pairwise_cons] at hordered
  obtain ⟨-, ⟨hmore, -⟩, hbefore⟩ := hordered
  constructor
  · intro other hmem hlt
    rw [h, List.mem_append, List.mem_cons] at hmem
    rcases hmem with hmem | rfl | hmem
    · exact hmem
    · exact absurd hlt (Nat.lt_irrefl _)
    · exact absurd hlt (Nat.not_lt.mpr (hmore other hmem).1)
  · intro other hmem hswitch
    have hlt := (hbefore other hmem setting List.mem_cons_self).2 (by rw [hswitch]; decide)
    rw [hswitch] at hlt
    have hlast : round setting.1 ≤ 2 := by cases setting.1 <;> decide
    exact absurd hlt (Nat.not_lt.mpr hlast)

/-! ### The script -/

/-- The settings are written one after the other, and then the alarm is reported as set. -/
def inTurn (config : AlarmConfig) : List (Channel × Value) → Script
  | [] => report ("Alarm set for " ++ config.time.text) .ok (finish (.ok .done))
  | (channel, value) :: more => writeValue channel value (inTurn config more)

/-- What comes after the clock times. -/
def proceed (config : AlarmConfig) (localTime alarmTime : Response) : Script :=
  onDone (onDone (inTurn config (afterTimes config)) alarmTime) localTime

theorem configure_eq (config : AlarmConfig) (now : ClockTime) :
    configure config now =
      match Wire.encode .text (.text config.melody.wireText) with
      | .error e => fail (.encode e)
      | .ok _ =>
        exchangeBoth (.write .localTime (.time now)) (.write .alarmTime (.time config.time))
          (proceed config) := rfl

/-! ### Confirmed settings -/

/-- The receipt of a setting that has been written. -/
def confirmation (setting : Channel × Value) (t : Transfer) : Receipt :=
  ⟨.write setting.1 setting.2, some t, .ok setting.2⟩

/-- **A setting has been written** by a transfer that went to a session over a link. -/
structure Confirmed (profile : Profile) (session : Nat) (link : Link) (rs : List Receipt)
    (setting : Channel × Value) (t : Transfer) : Prop where
  writes : t.Writes profile session link setting.1 setting.2
  receipt : confirmation setting t ∈ rs

/-- Every setting has been written. -/
def Complete (config : AlarmConfig) (now : ClockTime) (rs : List Receipt) : Prop :=
  ∀ setting ∈ settings config now, ∃ r ∈ rs,
    r.request = .write setting.1 setting.2 ∧ ∃ value, r.response = .ok value

/-- After a failure nothing is asked for that belongs to a later round. -/
def Orderly (rs : List Receipt) : Prop :=
  rs.Pairwise fun failed r => ∀ e, failed.response = .error e →
    round r.request.channel ≤ round failed.request.channel

/-- **A write that is due**: it carries a setting, everything of the earlier rounds has been
written in the same session over the same link, and nothing of them has failed. -/
structure Due (profile : Profile) (config : AlarmConfig) (now : ClockTime) (rs : List Receipt)
    (setting : Channel × Value) (t : Transfer) : Prop where
  mem : setting ∈ settings config now
  writes : t.Writes profile t.session t.link setting.1 setting.2
  earlier : ∀ other ∈ settings config now, round other.1 < round setting.1 →
    ∃ t', Confirmed profile t.session t.link rs other t'
  unfailed : ∀ r ∈ rs, ∀ e, r.response = .error e →
    round setting.1 ≤ round r.request.channel

/-- **What the board has got** when all has been written: the settings in their order, in one
session and over one link. -/
def Delivered (profile : Profile) (config : AlarmConfig) (now : ClockTime) (rs : List Receipt)
    (calls : List Call) : Prop :=
  ∃ session link transfers,
    List.Forall₂ (Confirmed profile session link rs) (settings config now) transfers ∧
      calls = transfers.map Transfer.call

section Lists

variable {profile : Profile} {session : Nat} {link : Link} {rs rs' : List Receipt}
  {setting : Channel × Value} {t : Transfer}

theorem Confirmed.mono (h : Confirmed profile session link rs setting t) (hsub : rs ⊆ rs') :
    Confirmed profile session link rs' setting t :=
  ⟨h.writes, hsub h.receipt⟩

/-- Where nothing has failed, nothing comes after a failure. -/
theorem orderly_of_ok (h : ∀ r ∈ rs, ∃ value, r.response = .ok value) : Orderly rs := by
  refine List.pairwise_of_forall_mem_list fun failed hmem r _ e he => ?_
  obtain ⟨value, hvalue⟩ := h failed hmem
  exact absurd (hvalue.symm.trans he) (by simp)

/-- A first failure is the last thing. -/
theorem orderly_concat (h : ∀ r ∈ rs, ∃ value, r.response = .ok value) (last : Receipt) :
    Orderly (rs ++ [last]) := by
  refine List.pairwise_append.mpr ⟨orderly_of_ok h, List.pairwise_singleton _ _, ?_⟩
  intro failed hmem _ _ e he
  obtain ⟨value, hvalue⟩ := h failed hmem
  exact absurd (hvalue.symm.trans he) (by simp)

/-- Nothing comes too late in the first round. -/
theorem orderly_of_round_eq (h : ∀ r ∈ rs, round r.request.channel = 0) : Orderly rs :=
  List.pairwise_of_forall_mem_list fun failed _ r hmem _ _ => by
    rw [h r hmem]
    exact Nat.zero_le _

end Lists

/-! ### How far the script has come -/

/-- **Where one of the clock times stands**, with the transfer that carries it. -/
inductive Stands (profile : Profile) (session : Nat) (link : Link) (rs : List Receipt)
    (setting : Channel × Value) : Slot → Option Transfer → Prop
  | refused (e : Error) : Stands profile session link rs setting (.settled (.error e)) none
  | out {t : Transfer} (hwrites : t.Writes profile session link setting.1 setting.2) :
      Stands profile session link rs setting (.pending t) (some t)
  | failed (t : Transfer) (e : Error) :
      Stands profile session link rs setting (.settled (.error e)) (some t)
  | written {t : Transfer} (hconfirmed : Confirmed profile session link rs setting t) :
      Stands profile session link rs setting (.settled (.ok setting.2)) (some t)

/-- A receipt is that of a clock time which has it for a response. -/
def Records (setting : Channel × Value) (slot : Slot) (r : Receipt) : Prop :=
  r.request = .write setting.1 setting.2 ∧ slot = .settled r.response

/-- **How far the script of an alarm has come**, by its receipts, the calls that it has made
and what it has said. -/
inductive Progress (profile : Profile) (config : AlarmConfig) (now : ClockTime)
    (rs : List Receipt) (calls : List Call) (said : List Callback) (task : Task) : Prop
  /-- The clock times are out. -/
  | clocks {first second : Slot} {o₁ o₂ : Option Transfer} {session : Nat} {link : Link}
      (hwork : task.work = .pair first second (proceed config))
      (hfirst : Stands profile session link rs (.localTime, .time now) first o₁)
      (hsecond : Stands profile session link rs (.alarmTime, .time config.time) second o₂)
      (hrecords : ∀ r ∈ rs, Records (.localTime, .time now) first r ∨
        Records (.alarmTime, .time config.time) second r)
      (hunanswered : task.unanswered.Perm (first.tickets 0 ++ second.tickets 1))
      (hcalls : calls ++ task.queued.map Ticket.call =
        (o₁.toList ++ o₂.toList).map Transfer.call)
      (hsaid : said = [])
  /-- One of the other settings is out. -/
  | waits {before more : List (Channel × Value)} {channel : Channel} {value : Value}
      {done : List Transfer} {pending : Transfer} {session : Nat} {link : Link}
      (hwork : task.work = .single pending (onDone (inTurn config more)))
      (hsettings : settings config now = before ++ (channel, value) :: more)
      (hlate : ∀ setting ∈ (channel, value) :: more, 0 < round setting.1)
      (hdone : List.Forall₂ (Confirmed profile session link rs) before done)
      (hpending : pending.Writes profile session link channel value)
      (hrecords : ∀ r ∈ rs, ∃ setting ∈ before, Records setting (.settled (.ok setting.2)) r)
      (hunanswered : task.unanswered = [⟨0, pending.call⟩])
      (hcalls : calls ++ task.queued.map Ticket.call = (done ++ [pending]).map Transfer.call)
      (hsaid : said = [])
  /-- The alarm is set. -/
  | armed (htask : task = Task.finished (.ok .done)) (hcomplete : Complete config now rs)
      (hdelivered : Delivered profile config now rs calls) (horderly : Orderly rs)
      (hsaid : said = [.status ("Alarm set for " ++ config.time.text) .ok])
  /-- It is not going to be set. -/
  | failed {e : Error} (htask : task = Task.finished (.error e))
      (hunarmed : ∀ r ∈ rs, ∀ value, r.response = .ok value →
        r.request.channel ≠ .alarmSwitch)
      (horderly : Orderly rs) (hsaid : said = [])

section Turns

variable {profile : Profile} {config : AlarmConfig} {now : ClockTime} {session : Nat}
  {link : Link} {rs rs' : List Receipt} {calls : List Call} {said : List Callback}
  {setting : Channel × Value} {c c' : Central} {task : Task} {t : Transfer} {slot : Slot}
  {o : Option Transfer} {reply : Reply} {response : Response}

theorem Stands.mono (h : Stands profile session link rs setting slot o) (hsub : rs ⊆ rs') :
    Stands profile session link rs' setting slot o := by
  cases h with
  | refused e => exact .refused e
  | out hwrites => exact .out hwrites
  | failed t e => exact .failed t e
  | written hconfirmed => exact .written (hconfirmed.mono hsub)

/-- A write that is answered is refused, or confirmed with the value that it has carried. -/
theorem response_of_conclude {channel : Channel} {value : Value}
    (hwrites : t.Writes profile session link channel value)
    (h : t.conclude c reply = some (c', response)) :
    (∃ e, response = .error e) ∨ response = .ok value := by
  obtain ⟨data, -, houtgoing⟩ := hwrites.encoded
  simp only [Transfer.conclude, houtgoing] at h
  split at h
  next hnone => exact absurd hnone (by simp)
  next hnone => exact absurd hnone (by simp)
  · exact .inl ⟨_, (Prod.mk.inj (Option.some.inj h)).2.symm⟩
  next heq =>
    obtain ⟨rfl, rfl⟩ := Prod.mk.inj (Option.some.inj heq)
    split at h
    · exact .inr (Prod.mk.inj (Option.some.inj h)).2.symm
    · exact .inl ⟨_, (Prod.mk.inj (Option.some.inj h)).2.symm⟩
  · exact absurd h (by simp)

/-- **What is confirmed was confirmed in a session that is still live**, with its link. -/
theorem live_of_confirmed {channel : Channel} {value value' : Value}
    (hwrites : t.Writes profile session link channel value) (hfits : t.Fits c)
    (h : t.conclude c reply = some (c', .ok value')) :
    c'.connection.session = some session ∧ c'.connection.link = some link := by
  obtain ⟨hlive, hsession, hlink⟩ := Transfer.live_of_conclude h
  rw [hsession, hlink, hlive, (hfits.2 hlive).2, hwrites.session_eq, hwrites.link_eq]
  exact ⟨rfl, rfl⟩

theorem ok_of_records {before : List (Channel × Value)}
    (hrecords : ∀ r ∈ rs, ∃ setting ∈ before, Records setting (.settled (.ok setting.2)) r) :
    ∀ r ∈ rs, ∃ value, r.response = .ok value := by
  intro r hmem
  obtain ⟨setting, -, -, hresponse⟩ := hrecords r hmem
  exact ⟨setting.2, (Slot.settled.inj hresponse).symm⟩

/-- The clock times belong to the first round, and the switch does not. -/
theorem round_of_records {first second : Slot}
    (hrecords : ∀ r ∈ rs, Records (.localTime, .time now) first r ∨
      Records (.alarmTime, .time config.time) second r) :
    ∀ r ∈ rs, round r.request.channel = 0 ∧ r.request.channel ≠ .alarmSwitch := by
  intro r hmem
  rcases hrecords r hmem with ⟨hrequest, -⟩ | ⟨hrequest, -⟩ <;>
    simp [hrequest, Request.channel, round]

/-- As long as a setting is still to come the switch has not been written. -/
theorem unarmed_of_records {before more : List (Channel × Value)}
    (hsettings : settings config now = before ++ setting :: more) (hround : 0 < round setting.1)
    (hrecords : ∀ r ∈ rs, ∃ setting ∈ before, Records setting (.settled (.ok setting.2)) r) :
    ∀ r ∈ rs, r.request.channel ≠ .alarmSwitch := by
  intro r hmem
  obtain ⟨other, hother, hrequest, -⟩ := hrecords r hmem
  rw [hrequest]
  exact (of_settings_eq hsettings hround).2 other hother

/-- **A later setting fails**, and with it the whole. -/
theorem Progress.of_failure {before more : List (Channel × Value)}
    (hsettings : settings config now = before ++ setting :: more) (hround : 0 < round setting.1)
    (hrecords : ∀ r ∈ rs, ∃ setting ∈ before, Records setting (.settled (.ok setting.2)) r)
    {r : Receipt} {e : Error} (hr : r.response = .error e) :
    Progress profile config now (rs ++ [r]) calls [] (Task.finished (.error e)) := by
  have hunarmed := unarmed_of_records hsettings hround hrecords
  refine .failed rfl (List.forall_mem_append.mpr ⟨fun r' hmem _ _ => hunarmed r' hmem, ?_⟩)
    (orderly_concat (ok_of_records hrecords) r) rfl
  refine List.forall_mem_singleton.mpr fun value hvalue => ?_
  exact absurd (hr.symm.trans hvalue) (by simp)

/-- **The settings that are still to come**, taken up where those before them have just been
confirmed. -/
theorem Progress.of_inTurn (hc : c.Coherent) (hprofile : c.profile = profile)
    (hlive : c.connection.session = some session) (hlink : c.connection.link = some link)
    {before more : List (Channel × Value)} {done : List Transfer}
    (hsettings : settings config now = before ++ more)
    (hlate : ∀ setting ∈ more, 0 < round setting.1)
    (hdone : List.Forall₂ (Confirmed profile session link rs) before done)
    (hrecords : ∀ r ∈ rs, ∃ setting ∈ before, Records setting (.settled (.ok setting.2)) r) :
    Progress profile config now (rs ++ (inTurn config more).refused c)
      (done.map Transfer.call) ((inTurn config more).run c).callbacks
      ((inTurn config more).run c).task := by
  cases more with
  | nil =>
    rw [List.append_nil] at hsettings
    simp only [inTurn, Script.refused, List.append_nil]
    refine .armed rfl (fun setting hmem => ?_) ⟨session, link, done, hsettings ▸ hdone, rfl⟩
      (orderly_of_ok (ok_of_records hrecords)) rfl
    obtain ⟨t, -, hconfirmed⟩ := exists_of_forall₂_right hdone.flip (hsettings ▸ hmem)
    exact ⟨_, hconfirmed.receipt, rfl, setting.2, rfl⟩
  | cons setting more =>
    obtain ⟨channel, value⟩ := setting
    cases hcheck : Transfer.check c (.write channel value) with
    | ok t =>
      obtain ⟨hwrites, hlive', hlink'⟩ := Transfer.writes_of_check hc hcheck
      obtain rfl : session = t.session := Option.some.inj (hlive.symm.trans hlive')
      obtain rfl : link = t.link := Option.some.inj (hlink.symm.trans hlink')
      simp only [inTurn, writeValue, Script.refused, Script.run, hcheck, List.append_nil]
      refine .waits rfl hsettings hlate hdone (hprofile ▸ hwrites) hrecords rfl ?_ rfl
      simp [Task.asking]
    | error e =>
      simp only [inTurn, writeValue, Script.refused, Script.run, hcheck, onDone, onValue,
        onValueOr, Script.fail]
      exact .of_failure hsettings (hlate _ List.mem_cons_self) hrecords rfl

/-- **A later setting is confirmed**, and the next one has its turn. -/
theorem Progress.of_success (hc : c.Coherent) (hprofile : c.profile = profile)
    (hlive : c.connection.session = some session) (hlink : c.connection.link = some link)
    {before more : List (Channel × Value)} {channel : Channel} {value : Value}
    {done : List Transfer} {pending : Transfer}
    (hsettings : settings config now = before ++ (channel, value) :: more)
    (hlate : ∀ setting ∈ more, 0 < round setting.1)
    (hdone : List.Forall₂ (Confirmed profile session link rs) before done)
    (hpending : pending.Writes profile session link channel value)
    (hrecords : ∀ r ∈ rs, ∃ setting ∈ before, Records setting (.settled (.ok setting.2)) r) :
    Progress profile config now
      (rs ++ confirmation (channel, value) pending :: (inTurn config more).refused c)
      ((done ++ [pending]).map Transfer.call) ((inTurn config more).run c).callbacks
      ((inTurn config more).run c).task := by
  have hsettings' : settings config now = (before ++ [(channel, value)]) ++ more := by
    rw [hsettings, List.append_assoc, List.singleton_append]
  have hdone' : List.Forall₂
      (Confirmed profile session link (rs ++ [confirmation (channel, value) pending]))
      (before ++ [(channel, value)]) (done ++ [pending]) := by
    refine List.rel_append (hdone.imp fun _ _ h => h.mono (List.subset_append_left _ _)) ?_
    exact .cons ⟨hpending, List.mem_append_right _ List.mem_cons_self⟩ .nil
  rw [List.append_cons]
  refine .of_inTurn hc hprofile hlive hlink hsettings' hlate hdone'
    (List.forall_mem_append.mpr ⟨fun r hmem => ?_, List.forall_mem_singleton.mpr ?_⟩)
  · obtain ⟨setting, hsetting, h⟩ := hrecords r hmem
    exact ⟨setting, List.mem_append_left _ hsetting, h⟩
  · exact ⟨(channel, value), List.mem_append_right _ List.mem_cons_self, rfl, rfl⟩

/-- **The clock times have both been answered.** -/
theorem Progress.of_clocks (hc : c.Coherent) (hprofile : c.profile = profile)
    {r₁ r₂ : Response} {o₁ o₂ : Option Transfer}
    (hfirst : Stands profile session link rs (.localTime, .time now) (.settled r₁) o₁)
    (hsecond : Stands profile session link rs (.alarmTime, .time config.time) (.settled r₂) o₂)
    (hlive : (∃ value, r₁ = .ok value) → (∃ value, r₂ = .ok value) →
      c.connection.session = some session ∧ c.connection.link = some link)
    (hrecords : ∀ r ∈ rs, Records (.localTime, .time now) (.settled r₁) r ∨
      Records (.alarmTime, .time config.time) (.settled r₂) r)
    (hcalls : calls = (o₁.toList ++ o₂.toList).map Transfer.call) :
    Progress profile config now (rs ++ (proceed config r₁ r₂).refused c) calls
      ((proceed config r₁ r₂).run c).callbacks ((proceed config r₁ r₂).run c).task := by
  have hround := round_of_records hrecords
  have hfailed (e : Error) (hfail : proceed config r₁ r₂ = Script.fail e) :
      Progress profile config now (rs ++ (proceed config r₁ r₂).refused c) calls
        ((proceed config r₁ r₂).run c).callbacks ((proceed config r₁ r₂).run c).task := by
    simp only [hfail, Script.fail, Script.refused, Script.run, List.append_nil]
    exact .failed rfl (fun r hmem _ _ => (hround r hmem).2)
      (orderly_of_round_eq fun r hmem => (hround r hmem).1) rfl
  cases hfirst with
  | refused e => exact hfailed e rfl
  | failed t e => exact hfailed e rfl
  | @written t₁ hconfirmed₁ =>
    cases hsecond with
    | refused e => exact hfailed e rfl
    | failed t e => exact hfailed e rfl
    | @written t₂ hconfirmed₂ =>
      obtain ⟨hsession, hlink⟩ := hlive ⟨_, rfl⟩ ⟨_, rfl⟩
      have hproceed : proceed config (.ok (.time now)) (.ok (.time config.time)) =
          inTurn config (afterTimes config) := rfl
      rw [hproceed, hcalls]
      refine .of_inTurn hc hprofile hsession hlink
        (show settings config now = clockTimes config now ++ afterTimes config from rfl)
        (fun _ => round_pos_of_mem_afterTimes) (.cons hconfirmed₁ (.cons hconfirmed₂ .nil))
        fun r hmem => ?_
      rcases hrecords r hmem with h | h
      · exact ⟨_, List.mem_cons_self, h⟩
      · exact ⟨_, List.mem_cons_of_mem _ List.mem_cons_self, h⟩

/-- **The clock times**, whether they are still out or not. -/
theorem Progress.of_slots {first second : Slot} {o₁ o₂ : Option Transfer} {rest : Task}
    (hc : c.Coherent) (hprofile : c.profile = profile)
    (hfirst : Stands profile session link rs (.localTime, .time now) first o₁)
    (hsecond : Stands profile session link rs (.alarmTime, .time config.time) second o₂)
    (hlive : (∃ value, first = .settled (.ok value)) → (∃ value, second = .settled (.ok value)) →
      c.connection.session = some session ∧ c.connection.link = some link)
    (hrecords : ∀ r ∈ rs, Records (.localTime, .time now) first r ∨
      Records (.alarmTime, .time config.time) second r)
    (hunanswered : rest.unanswered.Perm (first.tickets 0 ++ second.tickets 1))
    (hcalls : calls ++ rest.queued.map Ticket.call =
      (o₁.toList ++ o₂.toList).map Transfer.call) :
    Progress profile config now (rs ++ Slot.refusedAfter c first second (proceed config)) calls
      (Slot.proceed c first second (proceed config) rest).callbacks
      (Slot.proceed c first second (proceed config) rest).task := by
  cases first with
  | pending t₁ =>
    simp only [Slot.refusedAfter, Slot.proceed, List.append_nil]
    exact .clocks rfl hfirst hsecond hrecords hunanswered hcalls rfl
  | settled r₁ =>
    cases second with
    | pending t₂ =>
      simp only [Slot.refusedAfter, Slot.proceed, List.append_nil]
      exact .clocks rfl hfirst hsecond hrecords hunanswered hcalls rfl
    | settled r₂ =>
      have hnone : rest.unanswered = [] := List.perm_nil.mp hunanswered
      rw [(List.append_eq_nil_iff.mp hnone).1, List.map_nil, List.append_nil] at hcalls
      refine .of_clocks hc hprofile hfirst hsecond (fun h₁ h₂ => hlive ?_ ?_) hrecords hcalls
      · obtain ⟨value, rfl⟩ := h₁
        exact ⟨value, rfl⟩
      · obtain ⟨value, rfl⟩ := h₂
        exact ⟨value, rfl⟩

/-! ### The turns of the script -/

/-- A clock time that has had its checks. -/
theorem stands_ofCheck (hc : c.Coherent) (hprofile : c.profile = profile)
    (setting : Channel × Value) :
    Stands profile (c.connection.session.getD 0) (c.connection.link.getD ⟨0, none⟩) rs setting
      (Slot.ofCheck (Transfer.check c (.write setting.1 setting.2)))
      (Transfer.check c (.write setting.1 setting.2)).toOption := by
  cases hcheck : Transfer.check c (.write setting.1 setting.2) with
  | ok t =>
    obtain ⟨hwrites, hlive, hlink⟩ := Transfer.writes_of_check hc hcheck
    rw [hlive, hlink]
    exact .out (hprofile ▸ hwrites)
  | error e => exact .refused e

theorem records_of_refused {check : Except Error Transfer} {r : Receipt}
    (h : r ∈ (Slot.ofCheck check).refused (.write setting.1 setting.2)) :
    Records setting (Slot.ofCheck check) r := by
  cases check with
  | ok t => exact absurd h List.not_mem_nil
  | error e =>
    obtain rfl := List.mem_singleton.mp h
    exact ⟨rfl, rfl⟩

theorem tickets_ofCheck (check : Except Error Transfer) (number : Nat) :
    ((Slot.ofCheck check).tickets number).map Ticket.call =
      check.toOption.toList.map Transfer.call := by
  cases check <;> rfl

/-- **The script at its beginning.** -/
theorem Progress.start (hc : c.Coherent) (hprofile : c.profile = profile) :
    Progress profile config now ((configure config now).refused c) []
      ((configure config now).run c).callbacks ((configure config now).run c).task := by
  rw [configure_eq]
  split
  next e =>
    simp only [Script.fail, Script.refused, Script.run]
    exact .failed rfl (by simp) .nil rfl
  next =>
    obtain ⟨hrun, hrefused⟩ := Script.exchangeBoth_eq c (.write .localTime (.time now))
      (.write .alarmTime (.time config.time)) (proceed config)
    rw [hrun, hrefused]
    refine .of_slots hc hprofile (stands_ofCheck hc hprofile (.localTime, .time now))
      (stands_ofCheck hc hprofile (.alarmTime, .time config.time)) ?_ (fun r hmem => ?_)
      (.of_eq (List.append_nil _)) ?_
    · rintro ⟨value, hvalue⟩ -
      cases hcheck : Transfer.check c (.write .localTime (.time now)) <;>
        simp [hcheck, Slot.ofCheck] at hvalue
    · exact (List.mem_append.mp hmem).imp records_of_refused records_of_refused
    · rw [List.nil_append, List.map_append, List.map_append, tickets_ofCheck, tickets_ofCheck]

/-- A clock time is due at any time. -/
theorem Stands.due (config : AlarmConfig) (now : ClockTime)
    (h : Stands profile session link rs setting slot o)
    (hclock : setting ∈ clockTimes config now) {ticket : Ticket} {number : Nat}
    (hticket : ticket ∈ slot.tickets number) :
    ∃ t, slot = .pending t ∧ ticket = ⟨number, t.call⟩ ∧
      Due profile config now rs setting t := by
  have hround : round setting.1 = 0 := by
    simp only [clockTimes, List.mem_cons, List.not_mem_nil, or_false] at hclock
    rcases hclock with rfl | rfl <;> rfl
  cases h with
  | @out t hwrites =>
    obtain rfl : ticket = ⟨number, t.call⟩ := by simpa [Slot.tickets] using hticket
    refine ⟨t, rfl, rfl, List.mem_append_left _ hclock, ?_, fun other _ hlt => ?_,
      fun r _ _ _ => by omega⟩
    · rw [hwrites.session_eq, hwrites.link_eq]
      exact hwrites
    · exact absurd hlt (by omega)
  | _ => exact absurd hticket (by simp [Slot.tickets])

/-- **A call that is sent** was due. -/
theorem Progress.send {ticket : Ticket} {queued : List Ticket}
    (h : Progress profile config now rs calls said task)
    (hqueued : task.queued = ticket :: queued) :
    Progress profile config now rs (calls ++ [ticket.call]) said
        { task with queued, sent := task.sent ++ [ticket] } ∧
      ∃ setting t, task.transfer? ticket.slot = some t ∧ ticket.call = t.call ∧
        Due profile config now rs setting t := by
  have hperm (tickets : List Ticket) (h : task.unanswered.Perm tickets) :
      Task.unanswered { task with queued, sent := task.sent ++ [ticket] } |>.Perm tickets := by
    refine List.Perm.trans ?_ h
    simp only [Task.unanswered, hqueued, List.cons_append, ← List.append_assoc]
    exact List.perm_append_singleton ticket (queued ++ task.sent)
  have hmem : ticket ∈ task.unanswered := by simp [Task.unanswered, hqueued]
  cases h with
  | @clocks first second o₁ o₂ session link hwork hfirst hsecond hrecords hunanswered hcalls
      hsaid =>
    refine ⟨.clocks hwork hfirst hsecond hrecords (hperm _ hunanswered) ?_ hsaid, ?_⟩
    · rw [← hcalls, hqueued]
      simp
    rcases List.mem_append.mp (hunanswered.mem_iff.mp hmem) with hticket | hticket
    · obtain ⟨t, rfl, rfl, hdue⟩ := hfirst.due config now (by simp [clockTimes]) hticket
      exact ⟨_, t, by simp [Task.transfer?, hwork], rfl, hdue⟩
    · obtain ⟨t, rfl, rfl, hdue⟩ := hsecond.due config now (by simp [clockTimes]) hticket
      exact ⟨_, t, by cases first <;> simp [Task.transfer?, hwork], rfl, hdue⟩
  | @waits before more channel value done pending session link hwork hsettings hlate hdone
      hpending hrecords hunanswered hcalls hsaid =>
    refine ⟨.waits hwork hsettings hlate hdone hpending hrecords
      (List.perm_singleton.mp (hperm _ (.of_eq hunanswered))) ?_ hsaid, ?_⟩
    · rw [← hcalls, hqueued]
      simp
    obtain rfl : ticket = ⟨0, pending.call⟩ := by simpa [hunanswered] using hmem
    refine ⟨(channel, value), pending, by simp [Task.transfer?, hwork], rfl,
      by simp [hsettings], ?_, fun other hother hlt => ?_, fun r hmem e he => ?_⟩
    · rw [hpending.session_eq, hpending.link_eq]
      exact hpending
    · have hbefore := (of_settings_eq hsettings (hlate _ List.mem_cons_self)).1 other hother hlt
      rw [hpending.session_eq, hpending.link_eq]
      obtain ⟨t, -, hconfirmed⟩ := exists_of_forall₂_right hdone.flip hbefore
      exact ⟨t, hconfirmed⟩
    · obtain ⟨setting, -, -, hresponse⟩ := hrecords r hmem
      rw [he] at hresponse
      exact absurd hresponse (by simp)
  | armed htask => simp [htask, Task.finished] at hqueued
  | failed htask => simp [htask, Task.finished] at hqueued

/-- **A clock time that is answered.** -/
theorem Stands.answered (rs : List Receipt) (hc : c.Coherent) (hprofile : c.profile = profile)
    (hwrites : t.Writes profile session link setting.1 setting.2) (hfits : t.Fits c)
    (h : t.conclude c reply = some (c', response)) :
    c'.Coherent ∧ c'.profile = profile ∧
      Stands profile session link (rs ++ [⟨t.request, some t, response⟩]) setting
        (.settled response) (some t) ∧
      (∀ value, response = .ok value →
        c'.connection.session = some session ∧ c'.connection.link = some link) := by
  have hchange := Transfer.conclude_change hfits h
  refine ⟨hchange.coherent hc, hchange.profile_eq.trans hprofile, ?_, fun value hvalue =>
    live_of_confirmed hwrites hfits (hvalue ▸ h)⟩
  rcases response_of_conclude hwrites h with ⟨e, rfl⟩ | rfl
  · exact .failed t e
  · refine .written ⟨hwrites, ?_⟩
    rw [confirmation, hwrites.request_eq]
    exact List.mem_append_right _ List.mem_cons_self

/-- While a clock time is out it has no receipt. -/
theorem not_records_pending (r : Receipt) : ¬Records setting (.pending t) r :=
  fun h => absurd h.2 (by simp)

/-- **An answer** moves the script on. -/
theorem Progress.answer {number : Nat} {turn : Turn} (hc : c.Coherent)
    (hprofile : c.profile = profile) (hfits : task.Fits c)
    (h : Progress profile config now rs calls said task)
    (hturn : task.answer c number reply = some turn) :
    Progress profile config now (rs ++ task.receipts c number reply) calls
      (said ++ turn.callbacks) turn.task := by
  cases h with
  | @clocks first second o₁ o₂ session link hwork hfirst hsecond hrecords hunanswered hcalls
      hsaid =>
    simp only [Task.Fits, hwork] at hfits
    obtain ⟨t, c', response, _, _, hconclude, hslots, hreceipts, rest, rfl, hqueued, hrest⟩ :=
      Task.pair_of_answer hwork hunanswered hturn
    rw [hreceipts, List.append_cons, hsaid, List.nil_append]
    rw [← hqueued] at hcalls
    rcases hslots with ⟨rfl, rfl, rfl⟩ | ⟨rfl, rfl, rfl⟩
    · cases hfirst with
      | out hwrites =>
        obtain ⟨hc', hprofile', hstands, hlive⟩ :=
          Stands.answered rs hc hprofile hwrites hfits.1 hconclude
        refine .of_slots hc' hprofile' hstands (hsecond.mono (by simp)) ?_
          (List.forall_mem_append.mpr ⟨fun r hmem => ?_, ?_⟩) hrest hcalls
        · rintro ⟨value, hvalue⟩ -
          exact hlive value (Slot.settled.inj hvalue)
        · exact .inr ((hrecords r hmem).resolve_left (not_records_pending r))
        · exact List.forall_mem_singleton.mpr (.inl ⟨hwrites.request_eq, rfl⟩)
    · cases hsecond with
      | out hwrites =>
        obtain ⟨hc', hprofile', hstands, hlive⟩ :=
          Stands.answered rs hc hprofile hwrites hfits.2 hconclude
        refine .of_slots hc' hprofile' (hfirst.mono (by simp)) hstands ?_
          (List.forall_mem_append.mpr ⟨fun r hmem => ?_, ?_⟩) hrest hcalls
        · rintro - ⟨value, hvalue⟩
          exact hlive value (Slot.settled.inj hvalue)
        · exact .inl ((hrecords r hmem).resolve_right (not_records_pending r))
        · exact List.forall_mem_singleton.mpr (.inr ⟨hwrites.request_eq, rfl⟩)
  | @waits before more channel value done pending session link hwork hsettings hlate hdone
      hpending hrecords hunanswered hcalls hsaid =>
    simp only [Task.Fits, hwork] at hfits
    obtain ⟨c', response, hconclude, hqueued, rfl, hreceipts⟩ :=
      Task.single_of_answer hwork hunanswered hturn
    have hchange := Transfer.conclude_change hfits hconclude
    rw [hqueued, List.map_nil, List.append_nil] at hcalls
    rw [hreceipts, hpending.request_eq, hcalls, hsaid, List.nil_append]
    rcases response_of_conclude hpending hconclude with ⟨e, rfl⟩ | rfl
    · exact .of_failure hsettings (hlate _ List.mem_cons_self) hrecords rfl
    · obtain ⟨hlive, hlink⟩ := live_of_confirmed hpending hfits hconclude
      exact .of_success (hchange.coherent hc) (hchange.profile_eq.trans hprofile) hlive hlink
        hsettings (fun setting hmem => hlate setting (List.mem_cons_of_mem _ hmem)) hdone
        hpending hrecords
  | armed htask => simp [htask, Task.answer, Task.finished] at hturn
  | failed htask => simp [htask, Task.answer, Task.finished] at hturn

end Turns

/-! ### The alarm clock's bytes -/

/-- What an alarm is on the alarm clock: the bytes of each setting. -/
def payload (config : AlarmConfig) (now : ClockTime) : List (Channel × Bytes) :=
  [(.localTime, [UInt8.ofNat now.hour, UInt8.ofNat now.minute]),
    (.alarmTime, [UInt8.ofNat config.time.hour, UInt8.ofNat config.time.minute]),
    (.melody, Bytes.ofText config.melody.wireText), (.alarmSwitch, [1])]

/-- The write of some bytes to a channel of the alarm clock. -/
def alarmWrite (link : Link) (entry : Channel × Bytes) : Call :=
  .write link ⟨Uuid.alarmService, Uuid.ofChannel entry.1⟩ entry.2

theorem alarm_channels : ∀ entry ∈ Profile.alarm.channels,
    entry.role = .primary ∧ entry.uuid = Uuid.ofChannel entry.channel := by decide

/-- A setting is written to the alarm clock as its bytes. -/
theorem call_of_writes {session : Nat} {link : Link} {setting : Channel × Value} {t : Transfer}
    {data : Bytes} {spec : ChannelSpec}
    (hspec : Profile.alarm.spec? setting.1 = some spec)
    (hdata : ∀ data', spec.wire.encode setting.2 = .ok data' → data' = data)
    (h : t.Writes Profile.alarm session link setting.1 setting.2) :
    t.call = alarmWrite link (setting.1, data) := by
  obtain ⟨data', hencode, houtgoing⟩ := h.encoded
  obtain ⟨services, handles, hresolve, hget⟩ := h.resolved
  obtain rfl : t.spec = spec := Option.some.inj (h.spec_eq.symm.trans hspec)
  obtain ⟨entry, hentry, hchannel, hservice, huuid⟩ := Handles.exists_spec_of_get? hresolve hget
  obtain ⟨hrole, hown⟩ := alarm_channels entry hentry
  have hhandle : t.handle = ⟨Uuid.alarmService, Uuid.ofChannel setting.1⟩ := by
    rw [hrole] at hservice
    rw [hown, hchannel] at huuid
    rw [← huuid, show Uuid.alarmService = t.handle.service from Option.some.inj hservice]
  rw [Transfer.call, houtgoing, alarmWrite, hdata data' hencode, hhandle, h.link_eq]

/-- **The alarm clock has got the alarm**, when it has been set. -/
theorem payload_of_delivered {config : AlarmConfig} {now : ClockTime} {rs : List Receipt}
    {calls : List Call} (h : Delivered Profile.alarm config now rs calls) :
    ∃ link, calls = (payload config now).map (alarmWrite link) := by
  obtain ⟨session, link, transfers, hwritten, rfl⟩ := h
  rcases hwritten with _ | ⟨h₁, _ | ⟨h₂, _ | ⟨h₃, _ | ⟨h₄, _ | _⟩⟩⟩⟩
  have htime (t : ClockTime) (data : Bytes) (h : Wire.time.encode (.time t) = .ok data) :
      data = [UInt8.ofNat t.hour, UInt8.ofNat t.minute] := (Except.ok.inj h).symm
  have htext (data : Bytes) (h : Wire.text.encode (.text config.melody.wireText) = .ok data) :
      data = Bytes.ofText config.melody.wireText := by
    simp only [Wire.encode] at h
    split at h
    · exact (Except.ok.inj h).symm
    · exact absurd h (by simp)
  have hflag (data : Bytes) (h : Wire.flag.encode (.flag true) = .ok data) : data = [1] :=
    (Except.ok.inj h).symm
  refine ⟨link, ?_⟩
  simp only [payload, List.map_cons, List.map_nil]
  rw [call_of_writes rfl (htime now) h₁.writes, call_of_writes rfl (htime config.time) h₂.writes,
    call_of_writes rfl htext h₃.writes, call_of_writes rfl hflag h₄.writes]

/-! ### Arming -/

/-- **What has become of an alarm**, by the outcome of its script, its receipts, the calls
that it has made and what it has said. -/
structure Verdict (profile : Profile) (config : AlarmConfig) (now : ClockTime)
    (rs : List Receipt) (calls : List Call) (said : List Callback) (outcome : Option Outcome) :
    Prop where
  /-- It succeeds when everything has been written, and only then. -/
  succeeds : ∀ answer, outcome = some (.ok answer) ↔ answer = .done ∧ Complete config now rs
  /-- This is reported, and nothing else is. -/
  reports : Complete config now rs →
    said = [.status ("Alarm set for " ++ config.time.text) .ok]
  silent : ¬Complete config now rs → said = []
  /-- The board has then got all of it. -/
  delivers : Complete config now rs → Delivered profile config now rs calls

/-- Without the switch nothing is complete. -/
theorem not_complete {config : AlarmConfig} {now : ClockTime} {rs : List Receipt}
    (h : ∀ r ∈ rs, ∀ value, r.response = .ok value → r.request.channel ≠ .alarmSwitch) :
    ¬Complete config now rs := by
  intro hcomplete
  obtain ⟨r, hmem, hrequest, value, hvalue⟩ :=
    hcomplete (.alarmSwitch, .flag true) (by simp [settings, afterTimes])
  exact h r hmem value hvalue (by rw [hrequest]; rfl)

theorem Progress.verdict {profile : Profile} {config : AlarmConfig} {now : ClockTime}
    {rs : List Receipt} {calls : List Call} {said : List Callback} {task : Task}
    (h : Progress profile config now rs calls said task) :
    Orderly rs ∧ Verdict profile config now rs calls said task.outcome? := by
  -- Short of the end the switch has not been written, and the script is silent.
  have hopen (hunarmed : ∀ r ∈ rs, ∀ value, r.response = .ok value →
      r.request.channel ≠ .alarmSwitch) (houtcome : ∀ answer, task.outcome? ≠ some (.ok answer))
      (hsaid : said = []) : Verdict profile config now rs calls said task.outcome? :=
    ⟨fun answer => iff_of_false (houtcome answer) fun h => not_complete hunarmed h.2,
      fun h => absurd h (not_complete hunarmed), fun _ => hsaid,
      fun h => absurd h (not_complete hunarmed)⟩
  cases h with
  | clocks hwork _ _ hrecords _ _ hsaid =>
    have hround := round_of_records hrecords
    exact ⟨orderly_of_round_eq fun r hmem => (hround r hmem).1,
      hopen (fun r hmem _ _ => (hround r hmem).2) (by simp [Task.outcome?, hwork]) hsaid⟩
  | waits hwork hsettings hlate _ _ hrecords _ _ hsaid =>
    have hunarmed := unarmed_of_records hsettings (hlate _ List.mem_cons_self) hrecords
    exact ⟨orderly_of_ok (ok_of_records hrecords),
      hopen (fun r hmem _ _ => hunarmed r hmem) (by simp [Task.outcome?, hwork]) hsaid⟩
  | armed htask hcomplete hdelivered horderly hsaid =>
    refine ⟨horderly, fun answer => ?_, fun _ => hsaid, fun h => absurd hcomplete h,
      fun _ => hdelivered⟩
    simp [htask, Task.finished, Task.outcome?, hcomplete, eq_comm]
  | failed htask hunarmed horderly hsaid =>
    exact ⟨horderly, hopen hunarmed (by simp [htask, Task.finished, Task.outcome?]) hsaid⟩

/-- **An alarm is armed last.** Whatever the links do meanwhile, each write of the script is
due when it is made; after a failure nothing of a later round is asked for; and the script
succeeds, and says so, exactly when all the settings have been written, all of them in one
session and over one link. The alarm clock has then got their bytes. -/
theorem armed_of_leads {profile : Profile} {config : AlarmConfig} {now : ClockTime}
    {earlier later : List Moment} {m : Moment} {s : System} {number : Nat}
    (h : (System.initial profile).Leads (earlier ++ m :: later) s)
    (hbegins : m.Begins number (.run (configure config now))) :
    (∀ past m' rest call, m :: later = past ++ m' :: rest →
      (Actor.task number, Event.call call) ∈ m'.seen →
        ∃ setting t, m'.before.transfer? m'.action = some t ∧ call = t.call ∧
          Due profile config now (receipts past number) setting t) ∧
    Orderly (receipts (m :: later) number) ∧
    (∃ task, s.tasks[number]? = some task ∧
      Verdict profile config now (receipts (m :: later) number) (made (m :: later) number)
        (saidBy (m :: later) number) task.outcome?) ∧
    (profile = Profile.alarm → Complete config now (receipts (m :: later) number) →
      ∃ link, made (m :: later) number = (payload config now).map (alarmWrite link)) := by
  have hprogress {later' : List Moment} {s' : System}
      (h' : (System.initial profile).Leads (earlier ++ m :: later') s') :=
    System.life_of_leads (P := Progress profile config now)
      (fun c hc hprofile => Progress.start hc hprofile)
      (fun rs calls said task ticket queued hP hqueued => (hP.send hqueued).1)
      (fun rs calls said task c slot reply turn hP hc hprofile hfits hturn =>
        hP.answer hc hprofile hfits hturn) h' hbegins
  obtain ⟨task, htask, hP⟩ := hprogress h
  obtain ⟨horderly, hverdict⟩ := hP.verdict
  refine ⟨?_, horderly, ⟨task, htask, hverdict⟩, ?_⟩
  · intro past m' rest call hsplit hcall
    cases past with
    | nil =>
      -- The first turn of a task makes no call yet.
      obtain ⟨rfl, rfl⟩ := List.cons.inj hsplit
      obtain ⟨-, -, hmade, -⟩ := System.start_of_step h.split.2.1 hbegins
      have hmem := System.mem_callsIn hcall
      rw [made, List.flatMap_singleton] at hmade
      exact absurd (hmade ▸ hmem) List.not_mem_nil
    | cons m₀ past =>
      obtain ⟨rfl, rfl⟩ := List.cons.inj hsplit
      have h' : (System.initial profile).Leads ((earlier ++ m :: past) ++ m' :: rest) s := by
        rwa [List.append_assoc, List.cons_append]
      obtain ⟨hpast, hstep, -⟩ := h'.split
      obtain ⟨task', htask', hP'⟩ := hprogress hpast
      obtain ⟨ticket, queued, hqueued, rfl, htransfer⟩ :=
        System.queued_of_call hstep htask' hcall
      rw [htransfer]
      exact (hP'.send hqueued).2
  · rintro rfl hcomplete
    exact payload_of_delivered (hverdict.delivers hcomplete)

/-- An alarm at half past seven is set, the clock times confirmed in reverse order. -/
theorem armed_at_half_past_seven :
    ∃ (config : AlarmConfig) (earlier later : List Moment) (m : Moment) (s : System),
      (System.initial Profile.alarm).Leads (earlier ++ m :: later) s ∧
      m.Begins 1 (.run (configure config ⟨6, 15⟩)) ∧
      s.tasks[1]?.bind Task.outcome? = some (.ok .done) ∧
      saidBy (m :: later) 1 = [.status "Alarm set for 07:30" .ok] ∧
      ∃ link, made (m :: later) 1 = (payload config ⟨6, 15⟩).map (alarmWrite link) := by
  let config : AlarmConfig := ⟨⟨7, 30⟩, ⟨[⟨440, 500⟩], by decide, by decide⟩⟩
  have hruns : ((System.initial Profile.alarm).run
      [.start .connect, .send 0, .reply 0 0 (.availability true), .send 0,
        .reply 0 0 (.device (.ok ⟨0, none⟩)), .send 0, .reply 0 0 (.done (.ok ())), .send 0,
        .reply 0 0 (.done (.ok ())), .send 0,
        .reply 0 0 (.services (.ok
          [⟨Uuid.alarmService, Profile.alarm.channels.map ChannelSpec.uuid⟩]))]).any
      (fun first => first.1.tasks.length == 1 &&
        (first.1.run [.start (.run (configure config ⟨6, 15⟩)), .send 1, .send 1,
          .reply 1 1 (.done (.ok ())), .reply 1 0 (.done (.ok ())), .send 1,
          .reply 1 0 (.done (.ok ())), .send 1, .reply 1 0 (.done (.ok ()))]).any
        fun second => second.1.tasks[1]?.bind Task.outcome? == some (.ok .done)) = true := by
    decide +kernel
  simp only [Option.any_eq_true, Bool.and_eq_true, beq_iff_eq] at hruns
  obtain ⟨⟨s₀, before⟩, hbefore, hnumber, ⟨s, seen⟩, hrun, houtcome⟩ := hruns
  obtain ⟨earlier, hearlier, -⟩ := System.run_iff_leads.mp hbefore
  obtain ⟨ms, hms, hactions, -⟩ := System.run_iff_leads.mp hrun
  cases ms with
  | nil => simp at hactions
  | cons m later =>
    obtain ⟨haction, -⟩ := List.cons.inj hactions
    have hbegins : m.Begins 1 (.run (configure config ⟨6, 15⟩)) :=
      ⟨haction, hms.1 ▸ hnumber⟩
    have h := System.leads_append.mpr ⟨s₀, hearlier, hms⟩
    obtain ⟨-, -, ⟨task, htask, hverdict⟩, hpayload⟩ := armed_of_leads h hbegins
    have hcomplete := ((hverdict.succeeds .done).mp (by simpa [htask] using houtcome)).2
    have htext : "Alarm set for " ++ config.time.text = "Alarm set for 07:30" := by
      decide +kernel
    exact ⟨config, earlier, later, m, s, h, hbegins, houtcome,
      htext ▸ hverdict.reports hcomplete, hpayload rfl hcomplete⟩

end AlarmClock

end CarrierLink
