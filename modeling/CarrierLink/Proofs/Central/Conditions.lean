import CarrierLink.Proofs.Central.Exchange
import CarrierLink.Proofs.Central.Groups

/-!
# The places of a connect

What becomes of a connect that nobody disturbs depends on what the platform answers to its calls,
and on nothing else. This module takes these answers as given (`CarrierLink.Conditions`) and says
how the connect must end (`CarrierLink.Conditions.Ends`).

The calls up to the services are made one at a time, and the first stage that fails ends the
connect (`CarrierLink.Conditions.opening`). The subscriptions go out together and all have to
succeed; the first reads go out together and none of them has to. In which order the calls of a
group are answered is left open.

The proof is a list of the places in which a connect can be (`CarrierLink.Conditions.Reaches`),
each with the calls made before and the group of calls that it waits for. At each of them the
connect takes the answer to any call that it has sent, and comes to one of the places again or
to its end (`CarrierLink.Conditions.Stands.answer`).
-/

namespace CarrierLink

/-! ### Conditions -/

/-- **What the platform answers**, call by call. A connect makes no call twice if the channels
have characteristics of their own, so that nothing is lost by one answer for each. -/
structure Conditions where
  available : Bool
  device : Except Error Link
  connect : Except Error Unit
  events : Except Error Unit
  services : Except Error (List Service)
  subscribe : Handle → Except Error Unit
  read : Handle → Except Error Bytes
  write : Handle → Bytes → Except Error Unit
  disconnect : Except Error Unit

/-- The calls that subscribe to telemetry channels. -/
def Attempt.subscriptions (link : Link) (telemetry : List (ChannelSpec × Handle)) : List Call :=
  telemetry.map fun (_, handle) => .subscribe link handle

/-- The calls that read telemetry channels for the first time. -/
def Attempt.firstReads (link : Link) (telemetry : List (ChannelSpec × Handle)) : List Call :=
  telemetry.map fun (_, handle) => .read link handle

/-- **A central whose live session has no values yet**, with the link that it has got. -/
structure Central.Fresh (profile : Profile) (session : Nat) (got : Option Link) (c : Central) :
    Prop where
  coherent : c.Coherent
  profile_eq : c.profile = profile
  live : c.connection.session = some session
  link_eq : c.connection.link = got
  values_eq : c.connection.values = Table.empty

namespace Conditions

open Attempt

/-- The answer to a call. -/
def reply (w : Conditions) : Call → Reply
  | .available => .availability w.available
  | .requestDevice => .device w.device
  | .connect _ => .done w.connect
  | .disconnect _ => .done w.disconnect
  | .events _ => .done w.events
  | .services _ => .services w.services
  | .subscribe _ handle => .done (w.subscribe handle)
  | .read _ handle => .data (w.read handle)
  | .write _ handle data => .done (w.write handle data)

theorem fits_reply (w : Conditions) (call : Call) : (w.reply call).fits call := by
  cases call <;> rfl

/-- **How a connect opens**: the link and the handles that it gets, or the error of the first
stage that fails. -/
def opening (w : Conditions) (profile : Profile) : Except Error (Link × Handles) :=
  if w.available then do
    let link ← w.device
    w.connect
    w.events
    let services ← w.services
    let handles ← Handles.resolve profile services
    return (link, handles)
  else .error .unsupportedPlatform

/-- The link that a connect gets, if it comes that far. -/
def link? (w : Conditions) : Option Link := if w.available then w.device.toOption else none

/-- The calls with which a connect opens, up to the first that fails. -/
def openingCalls (w : Conditions) : List Call :=
  .available :: if w.available then
    .requestDevice :: match w.device with
      | .error _ => []
      | .ok link =>
        .connect link :: if w.connect.toBool then
          .events link :: if w.events.toBool then [.services link] else []
        else []
  else []

/-- **How a connect fails**: with these calls, a link that is to be closed, and an error. -/
inductive Fails (w : Conditions) (profile : Profile) : List Call → Option Link → Error → Prop
  | opening {e : Error} (hopening : w.opening profile = .error e) :
      Fails w profile w.openingCalls w.link? e
  /-- One of the subscriptions fails, perhaps before all of them are made. -/
  | subscribing {link : Link} {handles : Handles} {entry : ChannelSpec × Handle} {e : Error}
      {made : Nat} (hopening : w.opening profile = .ok (link, handles))
      (hentry : entry ∈ (profile.telemetryHandles handles).take made)
      (hfails : w.subscribe entry.2 = .error e) :
      Fails w profile
        (w.openingCalls ++ (subscriptions link (profile.telemetryHandles handles)).take made)
        (some link) e

/-- **How a connect ends**: with these calls and this outcome. -/
inductive Ends (w : Conditions) (profile : Profile) : List Call → Outcome → Prop
  /-- It fails and closes its link, if it has one. -/
  | failed {calls : List Call} {got : Option Link} {e : Error}
      (hfails : w.Fails profile calls got e) :
      Ends w profile (calls ++ got.toList.map .disconnect) (.error e)
  | connected {link : Link} {handles : Handles}
      (hopening : w.opening profile = .ok (link, handles))
      (hall : ∀ entry ∈ profile.telemetryHandles handles, w.subscribe entry.2 = .ok ()) :
      Ends w profile
        (w.openingCalls ++ subscriptions link (profile.telemetryHandles handles) ++
          firstReads link (profile.telemetryHandles handles)) (.ok .done)

/-- A first read brings a value. -/
def Brings (w : Conditions) (entry : ChannelSpec × Handle) (value : Value) : Prop :=
  ∃ data, w.read entry.2 = .ok data ∧ entry.1.wire.decode data = .ok value

/-- **The conditions under which a connect succeeds.** -/
def Favour (w : Conditions) (profile : Profile) : Prop :=
  w.available = true ∧ ∃ link services handles, w.device = .ok link ∧ w.connect = .ok () ∧
    w.events = .ok () ∧ w.services = .ok services ∧
    Handles.resolve profile services = .ok handles ∧
    ∀ entry ∈ profile.telemetryHandles handles, w.subscribe entry.2 = .ok ()

section Opening

variable {w : Conditions} {profile : Profile} {link : Link} {handles : Handles}

theorem opening_eq_ok :
    w.opening profile = .ok (link, handles) ↔
      w.available = true ∧ w.device = .ok link ∧ w.connect = .ok () ∧ w.events = .ok () ∧
        ∃ services, w.services = .ok services ∧ Handles.resolve profile services = .ok handles := by
  constructor
  · intro h
    rw [opening] at h
    split at h
    next havailable =>
      obtain ⟨link', hdevice, h⟩ := exists_of_bind_eq_ok h
      obtain ⟨⟨⟩, hconnect, h⟩ := exists_of_bind_eq_ok h
      obtain ⟨⟨⟩, hevents, h⟩ := exists_of_bind_eq_ok h
      obtain ⟨services, hservices, h⟩ := exists_of_bind_eq_ok h
      obtain ⟨handles', hresolve, h⟩ := exists_of_bind_eq_ok h
      obtain ⟨rfl, rfl⟩ := Prod.mk.inj (Except.ok.inj h)
      exact ⟨havailable, hdevice, hconnect, hevents, services, hservices, hresolve⟩
    next => exact absurd h (by simp)
  · rintro ⟨havailable, hdevice, hconnect, hevents, services, hservices, hresolve⟩
    simp [opening, havailable, hdevice, hconnect, hevents, hservices, hresolve, bind, Except.bind,
      pure, Except.pure]

theorem favour_iff :
    w.Favour profile ↔ ∃ link handles, w.opening profile = .ok (link, handles) ∧
      ∀ entry ∈ profile.telemetryHandles handles, w.subscribe entry.2 = .ok () := by
  simp only [opening_eq_ok, Favour]
  constructor
  · rintro ⟨havailable, link, services, handles, hdevice, hconnect, hevents, hservices, hresolve,
      hall⟩
    exact ⟨link, handles, ⟨havailable, hdevice, hconnect, hevents, services, hservices, hresolve⟩,
      hall⟩
  · rintro ⟨link, handles, ⟨havailable, hdevice, hconnect, hevents, services, hservices, hresolve⟩,
      hall⟩
    exact ⟨havailable, link, services, handles, hdevice, hconnect, hevents, hservices, hresolve,
      hall⟩

/-- **A connect ends well if the conditions favour it, and only then.** -/
theorem Ends.ok_iff {calls : List Call} {outcome : Outcome} (h : w.Ends profile calls outcome) :
    outcome = .ok .done ↔ w.Favour profile := by
  cases h with
  | failed hfails =>
    refine iff_of_false (by simp) fun hfavour => ?_
    obtain ⟨link, handles, hopening, hall⟩ := favour_iff.mp hfavour
    cases hfails with
    | opening herror => exact absurd (hopening.symm.trans herror) (by simp)
    | subscribing hopening' hentry hfails =>
      obtain ⟨rfl, rfl⟩ := Prod.mk.inj (Except.ok.inj (hopening.symm.trans hopening'))
      exact absurd ((hall _ (List.mem_of_mem_take hentry)).symm.trans hfails) (by simp)
  | @connected link handles hopening hall =>
    exact iff_of_true rfl (favour_iff.mpr ⟨link, handles, hopening, hall⟩)

end Opening

/-! ### Places -/

/-- **The places in which a connect can be**: its stage, the calls made before, and the group of
calls that it waits for. -/
inductive Reaches (w : Conditions) (profile : Profile) : Stage → List Call → List Call → Prop
  | checking : Reaches w profile .checking [] [.available]
  | searching (havailable : w.available = true) :
      Reaches w profile .searching [.available] [.requestDevice]
  | connecting {link : Link} (havailable : w.available = true) (hdevice : w.device = .ok link) :
      Reaches w profile (.connecting link) [.available, .requestDevice] [.connect link]
  | listening {link : Link} (havailable : w.available = true) (hdevice : w.device = .ok link)
      (hconnect : w.connect = .ok ()) :
      Reaches w profile (.listening link) [.available, .requestDevice, .connect link]
        [.events link]
  | discovering {link : Link} (havailable : w.available = true) (hdevice : w.device = .ok link)
      (hconnect : w.connect = .ok ()) (hevents : w.events = .ok ()) :
      Reaches w profile (.discovering link)
        [.available, .requestDevice, .connect link, .events link] [.services link]
  | subscribing {link : Link} {handles : Handles}
      (hopening : w.opening profile = .ok (link, handles)) :
      Reaches w profile (.subscribing link (profile.telemetryHandles handles) none)
        w.openingCalls (subscriptions link (profile.telemetryHandles handles))
  | reading {link : Link} {handles : Handles}
      (hopening : w.opening profile = .ok (link, handles))
      (hall : ∀ entry ∈ profile.telemetryHandles handles, w.subscribe entry.2 = .ok ()) :
      Reaches w profile (.reading link (profile.telemetryHandles handles))
        (w.openingCalls ++ subscriptions link (profile.telemetryHandles handles))
        (firstReads link (profile.telemetryHandles handles))
  | closing {calls : List Call} {link : Link} {e : Error}
      (hfails : w.Fails profile calls (some link) e) :
      Reaches w profile (.closing e) calls [.disconnect link]

/-- **What is kept are the values of the first reads** that have been answered. -/
def Kept (w : Conditions) (telemetry : List (ChannelSpec × Handle)) (answered : Nat → Prop)
    (c : Central) : Prop :=
  ∀ channel value, c.lastValue channel = some value ↔
    ∃ slot entry, answered slot ∧ telemetry[slot]? = some entry ∧ entry.1.channel = channel ∧
      w.Brings entry value

/-- What is known of the central and of the answers so far, at a stage. -/
def Knows (w : Conditions) (session : Nat) (c : Central) (answered : Nat → Prop) : Stage → Prop
  | .closing _ => c.connection.session = none
  | .subscribing _ telemetry _ =>
    c.connection.session = some session ∧ c.connection.values = Table.empty ∧
      ∀ slot entry, answered slot → telemetry[slot]? = some entry → w.subscribe entry.2 = .ok ()
  | .reading _ telemetry => c.connection.session = some session ∧ w.Kept telemetry answered c
  | _ => c.connection.session = some session ∧ c.connection.values = Table.empty

/-- What is known of the central at the end. -/
def Leaves (w : Conditions) (profile : Profile) (c : Central) : Outcome → Prop
  | .ok _ => c.connection.phase = .connected ∧
    ∃ link handles, w.opening profile = .ok (link, handles) ∧
      w.Kept (profile.telemetryHandles handles) (fun _ => True) c
  | .error _ => c.connection.session = none

/-- **How a connect stands** that has made some calls. -/
inductive Stands (w : Conditions) (profile : Profile) (session : Nat) :
    List Call → Central → Task → Prop
  | amid {stage : Stage} {before calls : List Call} {made : Nat} {c : Central} {task : Task}
      (hreaches : w.Reaches profile stage before calls)
      (hwork : task.work = .attempt session stage) (hamid : task.Amid calls made)
      (hknows : w.Knows session c task.HasAnswer stage) :
      Stands w profile session (before ++ calls.take made) c task
  | ended {calls : List Call} {c : Central} {outcome : Outcome}
      (hends : w.Ends profile calls outcome) (hleaves : w.Leaves profile c outcome) :
      Stands w profile session calls c (Task.finished outcome)

/-- **A turn that leaves no call out**, and after which the connect stands somewhere. -/
def Lands (w : Conditions) (profile : Profile) (session : Nat) (calls : List Call) (turn : Turn) :
    Prop :=
  w.Stands profile session calls turn.central turn.task ∧ turn.task.sent = []

section Places

variable {w : Conditions} {profile : Profile} {session : Nat} {stage : Stage}
  {calls before : List Call} {c : Central} {task : Task} {link : Link} {handles : Handles}
  {e : Error}

theorem Knows.congr {answered answered' : Nat → Prop} (h : w.Knows session c answered stage)
    (hiff : ∀ slot, answered' slot ↔ answered slot) : w.Knows session c answered' stage := by
  have heq : answered' = answered := funext fun slot => propext (hiff slot)
  rwa [heq]

/-- **A call is sent.** -/
theorem Stands.send (h : w.Stands profile session calls c task) {ticket : Ticket}
    {queued : List Ticket} (hqueued : task.queued = ticket :: queued) :
    w.Stands profile session (calls ++ [ticket.call]) c
      { task with queued, sent := task.sent ++ [ticket] } := by
  cases h with
  | amid hreaches hwork hamid hknows =>
    obtain ⟨htake, hamid'⟩ := hamid.send hqueued
    rw [List.append_assoc, ← htake]
    exact .amid hreaches hwork hamid' (hknows.congr (Task.hasAnswer_send hqueued))
  | ended => simp [Task.finished] at hqueued

/-- A new group of calls. -/
theorem lands_askingAll {stage : Stage} {callbacks : List Callback}
    (hreaches : w.Reaches profile stage before calls) (hne : calls ≠ [])
    (hknows : w.Knows session c (Task.askingAll (.attempt session stage) calls).HasAnswer stage) :
    w.Lands profile session before
      ⟨c, callbacks, Task.askingAll (.attempt session stage) calls⟩ := by
  refine ⟨?_, rfl⟩
  rw [← List.append_nil before, ← List.take_zero (l := calls)]
  exact .amid hreaches rfl (Task.amid_askingAll _ hne) hknows

/-- The connect fails, and its link is closed if it has one. -/
theorem lands_fail {got : Option Link} (hfresh : c.Fresh profile session got)
    (hfails : w.Fails profile calls got e) :
    w.Lands profile session calls (fail c session got e) := by
  rw [fail_eq, hfresh.coherent.abandon_of_live hfresh.live, hfresh.link_eq, Option.or_self]
  cases got with
  | some link => exact lands_askingAll (.closing hfails) (List.cons_ne_nil _ _) rfl
  | none =>
    have hends : w.Ends profile calls (.error e) := by simpa using Ends.failed hfails
    exact ⟨.ended hends rfl, rfl⟩

/-- The connect succeeds. -/
theorem lands_complete (hlive : c.connection.session = some session)
    (hopening : w.opening profile = .ok (link, handles))
    (hall : ∀ entry ∈ profile.telemetryHandles handles, w.subscribe entry.2 = .ok ())
    (hkept : w.Kept (profile.telemetryHandles handles) (fun _ => True) c) :
    w.Lands profile session (w.openingCalls ++
      subscriptions link (profile.telemetryHandles handles) ++
        firstReads link (profile.telemetryHandles handles)) (complete c session link) := by
  rw [complete, Central.enter, if_pos (Central.isLive_iff.mpr hlive)]
  exact ⟨.ended (.connected hopening hall) ⟨rfl, link, handles, hopening, hkept⟩, rfl⟩

/-- The connect has all its subscriptions. -/
theorem lands_startReading (hlive : c.connection.session = some session)
    (hvalues : c.connection.values = Table.empty)
    (hopening : w.opening profile = .ok (link, handles))
    (hall : ∀ entry ∈ profile.telemetryHandles handles, w.subscribe entry.2 = .ok ()) :
    w.Lands profile session
      (w.openingCalls ++ subscriptions link (profile.telemetryHandles handles))
      (startReading c session link (profile.telemetryHandles handles)) := by
  have hnone (channel : Channel) : c.lastValue channel = none := by
    rw [Central.lastValue, hvalues, Table.get?_empty]
  rw [startReading]
  split
  next hempty =>
    have hempty := List.isEmpty_iff.mp hempty
    have hnil : firstReads link (profile.telemetryHandles handles) = [] := by rw [hempty]; rfl
    have hcomplete := lands_complete (c := c) hlive hopening hall (by simp [Kept, hnone, hempty])
    rwa [hnil, List.append_nil] at hcomplete
  next hne =>
    refine lands_askingAll (.reading hopening hall) (by simpa using hne) ⟨hlive, ?_⟩
    refine fun channel value => iff_of_false (by simp [hnone]) ?_
    rintro ⟨slot, entry, hanswered, hentry, -⟩
    have hcall := Task.getElem?_eq_none_of_hasAnswer hanswered
    simp [hentry] at hcall

/-- The connect has its handles. -/
theorem lands_startSubscribing (hlive : c.connection.session = some session)
    (hvalues : c.connection.values = Table.empty)
    (hopening : w.opening profile = .ok (link, handles)) :
    w.Lands profile session w.openingCalls
      (startSubscribing c session link (profile.telemetryHandles handles)) := by
  rw [startSubscribing]
  split
  next hempty =>
    have hempty := List.isEmpty_iff.mp hempty
    have hnil : subscriptions link (profile.telemetryHandles handles) = [] := by rw [hempty]; rfl
    have hreading := lands_startReading (c := c) hlive hvalues hopening (by simp [hempty])
    rwa [hnil, List.append_nil] at hreading
  next hne =>
    refine lands_askingAll (.subscribing hopening) (by simpa using hne) ⟨hlive, hvalues, ?_⟩
    intro slot entry hanswered hentry
    have hcall := Task.getElem?_eq_none_of_hasAnswer hanswered
    simp [hentry] at hcall

/-- The connect knows the services. -/
theorem lands_resolve {services : List Service} (hfresh : c.Fresh profile session (some link))
    (hreaches : w.Reaches profile (.discovering link) before calls)
    (hservices : w.services = .ok services) :
    w.Lands profile session w.openingCalls (resolve c session link services) := by
  cases hreaches with
  | discovering havailable hdevice hconnect hevents =>
    simp only [resolve, hfresh.profile_eq]
    split
    next e he =>
      have hlink? : w.link? = some link := by simp [link?, havailable, hdevice, Except.toOption]
      refine lands_fail hfresh (hlink? ▸ .opening ?_)
      simp [opening, havailable, hdevice, hconnect, hevents, hservices, he, bind, Except.bind]
    next handles hresolve =>
      have hopening : w.opening profile = .ok (link, handles) :=
        opening_eq_ok.mpr ⟨havailable, hdevice, hconnect, hevents, services, hservices, hresolve⟩
      rw [Central.takeHandles, if_pos (Central.isLive_iff.mpr hfresh.live)]
      simp only [hfresh.profile_eq]
      exact lands_startSubscribing hfresh.live hfresh.values_eq hopening

/-- The connect has a stream of events. -/
theorem lands_startDiscovering (hfresh : c.Fresh profile session (some link))
    (hreaches : w.Reaches profile (.discovering link) before [.services link]) :
    w.Lands profile session before (startDiscovering c session link) := by
  have hlive := Central.isLive_iff.mpr hfresh.live
  have hlive' : (c.startPump session link).isLive session := by
    rw [Central.startPump, if_pos hlive]
    exact hlive
  simp only [startDiscovering, Central.enter, if_pos hlive']
  refine lands_askingAll hreaches (List.cons_ne_nil _ _) ?_
  rw [Central.startPump, if_pos hlive]
  exact ⟨hfresh.live, hfresh.values_eq⟩

end Places

/-! ### Answers -/

section Answers

variable {w : Conditions} {profile : Profile} {session : Nat} {c : Central} {task : Task}
  {link : Link} {handles : Handles} {made : Nat} {ticket : Ticket}

theorem Brings.unique {entry : ChannelSpec × Handle} {value value' : Value}
    (h : w.Brings entry value) (h' : w.Brings entry value') : value = value' := by
  obtain ⟨data, hread, hdecode⟩ := h
  obtain ⟨data', hread', hdecode'⟩ := h'
  obtain rfl := Except.ok.inj (hread.symm.trans hread')
  exact Except.ok.inj (hdecode.symm.trans hdecode')

/-- What a first read does to a central. -/
theorem receive_of_brings {entry : ChannelSpec × Handle} {value : Value}
    (hlive : c.connection.session = some session) (h : w.Brings entry value) :
    (receive c session entry.1 (w.read entry.2)).1 = c.store session entry.1.channel value := by
  obtain ⟨data, hread, hdecode⟩ := h
  simp only [receive, hread, hdecode, Central.deliver_of_live hlive]

theorem receive_of_not_brings {entry : ChannelSpec × Handle}
    (h : ∀ value, ¬w.Brings entry value) : (receive c session entry.1 (w.read entry.2)).1 = c := by
  cases hread : w.read entry.2 with
  | error e => rfl
  | ok data =>
    cases hdecode : entry.1.wire.decode data with
    | error e => simp only [receive, hdecode]
    | ok value => exact absurd ⟨data, hread, hdecode⟩ (h value)

/-- **A first read is answered**: its value is kept, if there is one. -/
theorem Kept.receive {telemetry : List (ChannelSpec × Handle)} {answered : Nat → Prop}
    {slot : Nat} {entry : ChannelSpec × Handle} (h : w.Kept telemetry answered c)
    (hlive : c.connection.session = some session) (hentry : telemetry[slot]? = some entry)
    (hchannels : (telemetry.map fun entry => entry.1.channel).Nodup) :
    w.Kept telemetry (fun slot' => answered slot' ∨ slot' = slot)
      (receive c session entry.1 (w.read entry.2)).1 := by
  have hsame {entry' : ChannelSpec × Handle} (h : telemetry[slot]? = some entry') :
      entry' = entry := Option.some.inj (h.symm.trans hentry)
  by_cases hbrings : ∃ value, w.Brings entry value
  · obtain ⟨value, hbrings⟩ := hbrings
    rw [receive_of_brings hlive hbrings]
    obtain ⟨hkept, hothers, -⟩ := Central.keeps_store hlive entry.1.channel value
    intro channel value'
    by_cases hchannel : channel = entry.1.channel
    · subst hchannel
      rw [hkept]
      constructor
      · rintro ⟨⟩
        exact ⟨slot, entry, .inr rfl, hentry, rfl, hbrings⟩
      · rintro ⟨slot', entry', -, hentry', hchannel, hbrings'⟩
        -- No other entry is one of this channel.
        obtain rfl : entry' = entry :=
          List.inj_on_of_nodup_map hchannels (List.mem_of_getElem? hentry')
            (List.mem_of_getElem? hentry) hchannel
        rw [hbrings.unique hbrings']
    · rw [hothers channel hchannel, h channel value']
      refine exists_congr fun slot' => exists_congr fun entry' =>
        and_congr_left fun ⟨hentry', hchannel', _⟩ => (or_iff_left ?_).symm
      rintro rfl
      exact hchannel (hsame hentry' ▸ hchannel'.symm)
  · have hnone := not_exists.mp hbrings
    rw [receive_of_not_brings hnone]
    refine fun channel value' => (h channel value').trans ?_
    refine exists_congr fun slot' => exists_congr fun entry' =>
      and_congr_left fun ⟨hentry', _, hbrings'⟩ => (or_iff_left ?_).symm
    rintro rfl
    exact hnone value' (hsame hentry' ▸ hbrings')

theorem live_receive (w : Conditions) (entry : ChannelSpec × Handle)
    (hlive : c.connection.session = some session) :
    (receive c session entry.1 (w.read entry.2)).1.connection.session = some session := by
  by_cases hbrings : ∃ value, w.Brings entry value
  · obtain ⟨value, hbrings⟩ := hbrings
    rw [receive_of_brings hlive hbrings, Central.store_of_live hlive]
    exact hlive
  · rw [receive_of_not_brings (not_exists.mp hbrings)]
    exact hlive

/-! The single calls, one after the other: the answer to each of them has a turn. -/

theorem lands_of_checking {rest : Task} {slot : Nat} (hfresh : c.Fresh profile session none) :
    ∃ turn, Attempt.answer c session .checking rest slot (w.reply .available) = some turn ∧
      w.Lands profile session [.available] turn := by
  cases havailable : w.available with
  | true =>
    refine ⟨_, by simp only [Attempt.answer, reply, havailable]; rfl, ?_⟩
    exact lands_askingAll (.searching havailable) (List.cons_ne_nil _ _)
      ⟨hfresh.live, hfresh.values_eq⟩
  | false =>
    refine ⟨_, by simp only [Attempt.answer, reply, havailable]; rfl, ?_⟩
    have hfails : w.Fails profile w.openingCalls w.link? .unsupportedPlatform :=
      .opening (by simp [opening, havailable])
    simp only [openingCalls, link?, havailable] at hfails
    exact lands_fail hfresh hfails

theorem lands_of_searching {rest : Task} {slot : Nat} (hfresh : c.Fresh profile session none)
    (havailable : w.available = true) :
    ∃ turn, Attempt.answer c session .searching rest slot (w.reply .requestDevice) = some turn ∧
      w.Lands profile session [.available, .requestDevice] turn := by
  cases hdevice : w.device with
  | ok link =>
    refine ⟨_, by simp only [Attempt.answer, reply, hdevice, Central.takeLink,
      if_pos (Central.isLive_iff.mpr hfresh.live)]; rfl, ?_⟩
    exact lands_askingAll (.connecting havailable hdevice) (List.cons_ne_nil _ _)
      ⟨hfresh.live, hfresh.values_eq⟩
  | error e =>
    refine ⟨_, by simp only [Attempt.answer, reply, hdevice]; rfl, ?_⟩
    have hfails : w.Fails profile w.openingCalls w.link? e :=
      .opening (by simp [opening, havailable, hdevice, bind, Except.bind])
    simp only [openingCalls, link?, havailable, hdevice] at hfails
    exact lands_fail hfresh hfails

theorem lands_of_connecting {rest : Task} {slot : Nat}
    (hfresh : c.Fresh profile session (some link)) (havailable : w.available = true)
    (hdevice : w.device = .ok link) :
    ∃ turn, Attempt.answer c session (.connecting link) rest slot (w.reply (.connect link)) =
        some turn ∧
      w.Lands profile session [.available, .requestDevice, .connect link] turn := by
  cases hconnect : w.connect with
  | ok =>
    refine ⟨_, by simp only [Attempt.answer, reply, hconnect]; rfl, ?_⟩
    exact lands_askingAll (.listening havailable hdevice hconnect) (List.cons_ne_nil _ _)
      ⟨hfresh.live, hfresh.values_eq⟩
  | error e =>
    refine ⟨_, by simp only [Attempt.answer, reply, hconnect]; rfl, ?_⟩
    have hfails : w.Fails profile w.openingCalls w.link? e :=
      .opening (by simp [opening, havailable, hdevice, hconnect, bind, Except.bind])
    simp only [openingCalls, link?, havailable, hdevice, hconnect] at hfails
    exact lands_fail hfresh hfails

theorem lands_of_listening {rest : Task} {slot : Nat}
    (hfresh : c.Fresh profile session (some link)) (havailable : w.available = true)
    (hdevice : w.device = .ok link) (hconnect : w.connect = .ok ()) :
    ∃ turn, Attempt.answer c session (.listening link) rest slot (w.reply (.events link)) =
        some turn ∧
      w.Lands profile session [.available, .requestDevice, .connect link, .events link] turn := by
  cases hevents : w.events with
  | ok =>
    refine ⟨_, by simp only [Attempt.answer, reply, hevents]; rfl, ?_⟩
    exact lands_startDiscovering hfresh (.discovering havailable hdevice hconnect hevents)
  | error e =>
    refine ⟨_, by simp only [Attempt.answer, reply, hevents]; rfl, ?_⟩
    have hfails : w.Fails profile w.openingCalls w.link? e :=
      .opening (by simp [opening, havailable, hdevice, hconnect, hevents, bind, Except.bind])
    simp only [openingCalls, link?, havailable, hdevice, hconnect, hevents] at hfails
    exact lands_fail hfresh hfails

theorem lands_of_discovering {rest : Task} {slot : Nat}
    (hfresh : c.Fresh profile session (some link)) (havailable : w.available = true)
    (hdevice : w.device = .ok link) (hconnect : w.connect = .ok ()) (hevents : w.events = .ok ()) :
    ∃ turn, Attempt.answer c session (.discovering link) rest slot (w.reply (.services link)) =
        some turn ∧
      w.Lands profile session
        [.available, .requestDevice, .connect link, .events link, .services link] turn := by
  have hcalls : w.openingCalls =
      [.available, .requestDevice, .connect link, .events link, .services link] := by
    simp [openingCalls, havailable, hdevice, hconnect, hevents, Except.toBool]
  rw [← hcalls]
  cases hservices : w.services with
  | ok services =>
    refine ⟨_, by simp only [Attempt.answer, reply, hservices]; rfl, ?_⟩
    exact lands_resolve hfresh (.discovering havailable hdevice hconnect hevents) hservices
  | error e =>
    refine ⟨_, by simp only [Attempt.answer, reply, hservices]; rfl, ?_⟩
    have hlink? : w.link? = some link := by simp [link?, havailable, hdevice, Except.toOption]
    refine lands_fail hfresh (hlink? ▸ .opening ?_)
    simp [opening, havailable, hdevice, hconnect, hevents, hservices, bind, Except.bind]

/-! The two groups: an answer leaves the others out, or is the last. -/

/-- The task of a stage goes on without a call that has been answered. -/
theorem without_eq {stage : Stage} {slot : Nat} (hwork : task.work = .attempt session stage) :
    { task.without slot with work := .attempt session stage } = task.without slot := by
  rw [← hwork]
  rfl

theorem stands_of_subscribing (hfresh : c.Fresh profile session (some link))
    (hopening : w.opening profile = .ok (link, handles))
    (hchannels : (profile.channels.map ChannelSpec.channel).Nodup)
    (hwork : task.work =
      .attempt session (.subscribing link (profile.telemetryHandles handles) none))
    (hamid : task.Amid (subscriptions link (profile.telemetryHandles handles)) made)
    (hall : ∀ slot entry, task.HasAnswer slot → (profile.telemetryHandles handles)[slot]? =
      some entry → w.subscribe entry.2 = .ok ())
    (hmem : ticket ∈ task.sent) :
    ∃ turn, Attempt.answer c session (.subscribing link (profile.telemetryHandles handles) none)
        (task.without ticket.slot) ticket.slot (w.reply ticket.call) = some turn ∧
      w.Stands profile session (w.openingCalls ++
        (subscriptions link (profile.telemetryHandles handles)).take made)
        turn.central turn.task ∧
      turn.task.sent.length < task.sent.length := by
  obtain ⟨hlt, hcall⟩ := hamid.sent ticket hmem
  rw [subscriptions, List.getElem?_map, Option.map_eq_some_iff] at hcall
  obtain ⟨entry, hentry, hcall⟩ := hcall
  have hless := Task.length_sent_without hmem
  rw [← hcall]
  cases hsubscribe : w.subscribe entry.2 with
  | error e =>
    have hfew : ¬groupLimit < (profile.telemetryHandles handles).length := by
      obtain ⟨-, -, -, -, services, -, hresolve⟩ := opening_eq_ok.mp hopening
      have hle := Handles.length_telemetryHandles_le hresolve hchannels
      exact Nat.not_lt.mpr (Nat.le_trans hle (by decide))
    have hlands := lands_fail hfresh (.subscribing hopening
      (List.mem_of_getElem? (List.getElem?_take_of_lt hlt ▸ hentry)) hsubscribe)
    refine ⟨fail c session (some link) e, ?_, hlands.1, ?_⟩
    · simp [Attempt.answer, reply, hsubscribe, firstFailed, proceedSubscribing, hfew]
    · rw [hlands.2]
      exact Nat.lt_of_le_of_lt (Nat.zero_le _) hless
  | ok =>
    have hall' (slot : Nat) (entry' : ChannelSpec × Handle)
        (hanswered : (task.without ticket.slot).HasAnswer slot)
        (hentry' : (profile.telemetryHandles handles)[slot]? = some entry') :
        w.subscribe entry'.2 = .ok () := by
      rcases (hamid.hasAnswer_without hmem slot).mp hanswered with hanswered | rfl
      · exact hall slot entry' hanswered hentry'
      · rwa [Option.some.inj (hentry'.symm.trans hentry)]
    cases hidle : (task.without ticket.slot).isIdle with
    | true =>
      rw [hamid.take_eq hidle]
      have hlands := lands_startReading hfresh.live hfresh.values_eq hopening fun entry' hmem' => by
        obtain ⟨slot, hentry'⟩ := List.mem_iff_getElem?.mp hmem'
        exact hall' slot entry' (Task.hasAnswer_of_isIdle hidle slot) hentry'
      refine ⟨_, ?_, hlands.1, ?_⟩
      · simp [Attempt.answer, reply, hsubscribe, firstFailed, proceedSubscribing, hidle]
      · rw [hlands.2]
        exact Nat.lt_of_le_of_lt (Nat.zero_le _) hless
    | false =>
      refine ⟨⟨c, [], task.without ticket.slot⟩, ?_, ?_, hless⟩
      · simp [Attempt.answer, reply, hsubscribe, firstFailed, proceedSubscribing, hidle,
          without_eq hwork]
      · exact .amid (.subscribing hopening) hwork (hamid.without _ hidle)
          ⟨hfresh.live, hfresh.values_eq, hall'⟩

theorem stands_of_reading (hlive : c.connection.session = some session)
    (hopening : w.opening profile = .ok (link, handles))
    (hall : ∀ entry ∈ profile.telemetryHandles handles, w.subscribe entry.2 = .ok ())
    (hchannels : (profile.channels.map ChannelSpec.channel).Nodup)
    (hwork : task.work = .attempt session (.reading link (profile.telemetryHandles handles)))
    (hamid : task.Amid (firstReads link (profile.telemetryHandles handles)) made)
    (hkept : w.Kept (profile.telemetryHandles handles) task.HasAnswer c)
    (hmem : ticket ∈ task.sent) :
    ∃ turn, Attempt.answer c session (.reading link (profile.telemetryHandles handles))
        (task.without ticket.slot) ticket.slot (w.reply ticket.call) = some turn ∧
      w.Stands profile session (w.openingCalls ++
        subscriptions link (profile.telemetryHandles handles) ++
          (firstReads link (profile.telemetryHandles handles)).take made)
        turn.central turn.task ∧
      turn.task.sent.length < task.sent.length := by
  obtain ⟨-, hcall⟩ := hamid.sent ticket hmem
  rw [firstReads, List.getElem?_map, Option.map_eq_some_iff] at hcall
  obtain ⟨entry, hentry, hcall⟩ := hcall
  have hless := Task.length_sent_without hmem
  have hlive' := live_receive w entry hlive
  have hkept' : w.Kept (profile.telemetryHandles handles) (task.without ticket.slot).HasAnswer
      (receive c session entry.1 (w.read entry.2)).1 := by
    obtain ⟨-, -, -, -, services, -, hresolve⟩ := opening_eq_ok.mp hopening
    have hreceive := hkept.receive hlive hentry (Handles.nodup_telemetryHandles hresolve hchannels)
    have hanswered : (task.without ticket.slot).HasAnswer =
        fun slot => task.HasAnswer slot ∨ slot = ticket.slot :=
      funext fun slot => propext (hamid.hasAnswer_without hmem slot)
    rwa [hanswered]
  obtain ⟨c', said, hreceive⟩ :
      ∃ c' said, receive c session entry.1 (w.read entry.2) = (c', said) := ⟨_, _, rfl⟩
  rw [hreceive] at hlive' hkept'
  rw [← hcall]
  cases hidle : (task.without ticket.slot).isIdle with
  | true =>
    rw [hamid.take_eq hidle]
    have hlands := lands_complete hlive' hopening hall fun channel value => by
      simpa [Task.hasAnswer_of_isIdle hidle] using hkept' channel value
    refine ⟨(complete c' session link).after said, ?_, hlands.1, ?_⟩
    · simp [Attempt.answer, reply, hentry, hreceive, hidle]
    · exact hlands.2 ▸ Nat.lt_of_le_of_lt (Nat.zero_le _) hless
  | false =>
    refine ⟨⟨c', said, task.without ticket.slot⟩, ?_, ?_, hless⟩
    · simp [Attempt.answer, reply, hentry, hreceive, hidle, Turn.after]
    · exact .amid (.reading hopening hall) hwork (hamid.without _ hidle) ⟨hlive', hkept'⟩

/-! Every place. -/

theorem answer_of_sent {stage : Stage} (hwork : task.work = .attempt session stage)
    (hmem : ticket ∈ task.sent) :
    task.answer c ticket.slot (w.reply ticket.call) =
      Attempt.answer c session stage (task.without ticket.slot) ticket.slot
        (w.reply ticket.call) := by
  rw [Task.answer, if_pos (List.any_eq_true.mpr ⟨ticket, hmem, by simp [w.fits_reply]⟩)]
  simp only [hwork]
  rw [← without_eq hwork]
  rfl

/-- The turn after a single call leaves no call out. -/
theorem stands_of_lands {stage : Stage} {before : List Call} {call : Call}
    (hamid : task.Amid [call] made) (hmem : ticket ∈ task.sent)
    (h : ∀ rest slot, ∃ turn, Attempt.answer c session stage rest slot (w.reply call) = some turn ∧
      w.Lands profile session (before ++ [call]) turn) :
    ∃ turn, Attempt.answer c session stage (task.without ticket.slot) ticket.slot
        (w.reply ticket.call) = some turn ∧
      w.Stands profile session (before ++ [call].take made) turn.central turn.task ∧
      turn.task.sent.length < task.sent.length := by
  obtain ⟨hticket, htake⟩ := hamid.eq_of_single hmem
  obtain ⟨turn, hturn, hstands, hsent⟩ := h (task.without ticket.slot) ticket.slot
  rw [htake]
  refine ⟨turn, ?_, hstands, hsent ▸ List.length_pos_of_mem hmem⟩
  rwa [show ticket.call = call from hticket ▸ rfl]

/-- **Every call that has been sent can be answered**, and the connect stands somewhere after it,
with fewer calls out. -/
theorem Stands.answer {calls : List Call} (h : w.Stands profile session calls c task)
    (hc : c.Coherent) (hprofile : c.profile = profile) (hfits : task.Fits c)
    (hchannels : (profile.channels.map ChannelSpec.channel).Nodup) (hmem : ticket ∈ task.sent) :
    ∃ turn, task.answer c ticket.slot (w.reply ticket.call) = some turn ∧
      w.Stands profile session calls turn.central turn.task ∧
      turn.task.sent.length < task.sent.length := by
  cases h with
  | ended => simp [Task.finished] at hmem
  | @amid stage before calls made _ _ hreaches hwork hamid hknows =>
    rw [answer_of_sent hwork hmem]
    simp only [Task.Fits, hwork] at hfits
    -- While the session is live, its link is the one of the stage.
    have hfresh (hlive : c.connection.session = some session)
        (hvalues : c.connection.values = Table.empty) : c.Fresh profile session stage.link? :=
      ⟨hc, hprofile, hlive, (hfits.2.2.1 hlive).link_eq, hvalues⟩
    cases hreaches with
    | checking =>
      exact stands_of_lands hamid hmem fun rest slot =>
        lands_of_checking (hfresh hknows.1 hknows.2)
    | searching havailable =>
      exact stands_of_lands hamid hmem fun rest slot =>
        lands_of_searching (hfresh hknows.1 hknows.2) havailable
    | connecting havailable hdevice =>
      exact stands_of_lands hamid hmem fun rest slot =>
        lands_of_connecting (hfresh hknows.1 hknows.2) havailable hdevice
    | listening havailable hdevice hconnect =>
      exact stands_of_lands hamid hmem fun rest slot =>
        lands_of_listening (hfresh hknows.1 hknows.2) havailable hdevice hconnect
    | discovering havailable hdevice hconnect hevents =>
      exact stands_of_lands hamid hmem fun rest slot =>
        lands_of_discovering (hfresh hknows.1 hknows.2) havailable hdevice hconnect hevents
    | subscribing hopening =>
      obtain ⟨hlive, hvalues, hall⟩ := hknows
      exact stands_of_subscribing (hfresh hlive hvalues) hopening hchannels hwork hamid hall hmem
    | reading hopening hall =>
      exact stands_of_reading hknows.1 hopening hall hchannels hwork hamid hknows.2 hmem
    | closing hfails =>
      exact stands_of_lands hamid hmem fun rest slot =>
        ⟨_, rfl, .ended (.failed hfails) hknows, rfl⟩

theorem Stands.of_outcome {calls : List Call} {outcome : Outcome}
    (h : w.Stands profile session calls c task) (houtcome : task.outcome? = some outcome) :
    w.Ends profile calls outcome ∧ w.Leaves profile c outcome := by
  cases h with
  | amid _ hwork => simp [Task.outcome?, hwork] at houtcome
  | ended hends hleaves =>
    obtain rfl := Option.some.inj houtcome
    exact ⟨hends, hleaves⟩

/-- A connect that has not ended has something to send or something out. -/
theorem Stands.busy {calls : List Call} (h : w.Stands profile session calls c task)
    (hopen : task.outcome? = none) : task.unanswered ≠ [] := by
  cases h with
  | amid _ _ hamid => exact hamid.busy
  | ended => simp [Task.finished, Task.outcome?] at hopen

end Answers

/-! ### How many calls there are -/

section Length

variable {w : Conditions} {profile : Profile} {calls : List Call}

theorem length_openingCalls_le (w : Conditions) : w.openingCalls.length ≤ 5 := by
  rw [openingCalls, List.length_cons]
  split
  · split
    · simp
    · split <;> [split; skip] <;> simp
  · simp

theorem Fails.length_le {got : Option Link} {e : Error} (h : w.Fails profile calls got e) :
    calls.length ≤ 5 + profile.telemetry.length := by
  have hopening := w.length_openingCalls_le
  cases h with
  | opening => omega
  | @subscribing link handles _ _ made =>
    have hgroup := profile.length_telemetryHandles handles
    simp only [List.length_append, List.length_take, subscriptions, List.length_map]
    omega

theorem Ends.length_le {outcome : Outcome} (h : w.Ends profile calls outcome) :
    calls.length ≤ 6 + 2 * profile.telemetry.length := by
  cases h with
  | @failed calls got e hfails =>
    have hle := hfails.length_le
    cases got <;> simp <;> omega
  | @connected link handles =>
    have hopening := w.length_openingCalls_le
    have hgroup := profile.length_telemetryHandles handles
    simp only [List.length_append, subscriptions, firstReads, List.length_map]
    omega

theorem Reaches.length_le {stage : Stage} {before : List Call}
    (h : w.Reaches profile stage before calls) :
    before.length + calls.length ≤ 6 + 2 * profile.telemetry.length := by
  have hopening := w.length_openingCalls_le
  cases h with
  | @subscribing link handles =>
    have hgroup := profile.length_telemetryHandles handles
    simp only [subscriptions, List.length_map]
    omega
  | @reading link handles =>
    have hgroup := profile.length_telemetryHandles handles
    simp only [List.length_append, subscriptions, firstReads, List.length_map]
    omega
  | closing hfails =>
    have hle := hfails.length_le
    simp only [List.length_singleton]
    omega
  | _ =>
    simp only [List.length_cons, List.length_nil]
    omega

/-- **A connect makes no more calls than it has to**: the opening ones, two for each telemetry
channel, and one to close its link. -/
theorem Stands.length_le {session : Nat} {c : Central} {task : Task}
    (h : w.Stands profile session calls c task) :
    calls.length ≤ 6 + 2 * profile.telemetry.length := by
  cases h with
  | amid hreaches =>
    have hle := hreaches.length_le
    rw [List.length_append, List.length_take]
    omega
  | ended hends => exact hends.length_le

end Length

end Conditions

end CarrierLink
