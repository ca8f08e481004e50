import CarrierLink.Proofs.Central.Floor
import CarrierLink.Proofs.Central.Representation
import CarrierLink.Proofs.Wire

/-!
# One read or write

Reading a channel and writing one are the smallest things that can be asked of a central. This
module says all that becomes of them (`CarrierLink.System.exchanged_of_leads`), whatever else
goes on at the same time.

There are four reasons to turn a request away, and the first that applies is the error
(`CarrierLink.Turned`). A request that is turned away ends in the same step, and nothing but
this can be seen of it. Any other makes one call, on the handle of its channel, and ends with
the reply (`CarrierLink.Settled`). The session may be over by then, and of a reply that comes
too late nothing is kept, nor of one that cannot be read.

The reasons are those that fail the checks of a transfer
(`CarrierLink.Central.Coherent.turned_iff`): a central that is connected can reach every
channel of its profile, so that after the phase only the value can be wrong. A single request
is then in one of three places (`CarrierLink.Request.Place`), of which it leaves the first
before anybody else can do anything.
-/

namespace CarrierLink

/-! ### Requests -/

namespace Request

/-- Whether an access allows the request. -/
def isAllowed (access : Access) : Request → Bool
  | read _ => access.canRead
  | write .. => access.canWrite

/-- The direction of the request. -/
def direction : Request → Direction
  | read _ => .read
  | write .. => .write

/-- The value that the request sends, if any, with its bytes. -/
def outgoing (wire : Wire) : Request → Except EncodeError (Option (Value × Bytes))
  | read _ => .ok none
  | write _ value => (wire.encode value).map fun data => some (value, data)

/-- What the request gives back, once it has a value. -/
def answer (value : Value) : Request → Answer
  | read _ => .value value
  | write .. => .done

/-- The script that makes the request, and nothing else. -/
def script : Request → Script
  | read channel => Script.read channel
  | write channel value => Script.write channel value

/-- What comes after the response: the end. -/
def next (request : Request) : Response → Script :=
  Script.onValue fun value => .finish (.ok (request.answer value))

theorem script_eq (request : Request) : request.script = .exchange request request.next := by
  cases request <;> rfl

theorem run_next (request : Request) (c : Central) (response : Response) :
    (request.next response).run c =
      ⟨c, [], Task.finished (response.map request.answer)⟩ := by
  cases response <;> rfl

end Request

/-- **The checks of a request**, whichever way it goes. -/
theorem Transfer.check_eq (c : Central) (request : Request) :
    check c request = (do
      let spec ← c.entry request.channel
      if !request.isAllowed spec.access then
        throw (.unsupportedOperation request.channel request.direction)
      let (session, link, handle) ← c.target request.channel
      let outgoing ← (request.outgoing spec.wire).mapError .encode
      return ⟨session, link, handle, spec, outgoing⟩) := by
  cases request with
  | read channel => rfl
  | write channel value =>
    refine congrArg (Except.bind (c.entry channel)) (funext fun spec => ?_)
    cases haccess : spec.access.canWrite with
    | false => simp [Request.isAllowed, haccess]; rfl
    | true =>
      simp only [Request.isAllowed, haccess, Bool.not_true, Bool.false_eq_true, if_false]
      refine congrArg (Except.bind (c.target channel)) (funext fun target => ?_)
      cases hencode : spec.wire.encode value <;> simp [Request.outgoing, hencode] <;> rfl

/-- **The first turn of a request**: its checks. -/
theorem Request.run_script (request : Request) (c : Central) :
    request.script.run c =
      match Transfer.check c request with
      | .ok t => ⟨c, [], Task.asking (.single t request.next) t.call⟩
      | .error e => ⟨c, [], Task.finished (.error e)⟩ := by
  rw [request.script_eq, Script.run]
  cases Transfer.check c request with
  | ok t => rfl
  | error e => exact request.run_next c (.error e)

/-! ### Requests that are turned away -/

/-- **Why a request is turned away**, by the profile and the phase of the connection: the
first of the reasons that applies. -/
inductive Turned (profile : Profile) (phase : Phase) (request : Request) : Error → Prop
  | unknown (hspec : profile.spec? request.channel = none) :
      Turned profile phase request (.unknownChannel request.channel profile.name)
  | unsupported {spec : ChannelSpec} (hspec : profile.spec? request.channel = some spec)
      (haccess : request.isAllowed spec.access = false) :
      Turned profile phase request (.unsupportedOperation request.channel request.direction)
  | notConnected {spec : ChannelSpec} (hspec : profile.spec? request.channel = some spec)
      (haccess : request.isAllowed spec.access = true) (hphase : phase ≠ .connected) :
      Turned profile phase request .notConnected
  | unencodable {spec : ChannelSpec} {e : EncodeError}
      (hspec : profile.spec? request.channel = some spec)
      (haccess : request.isAllowed spec.access = true) (hphase : phase = .connected)
      (hencode : request.outgoing spec.wire = .error e) :
      Turned profile phase request (.encode e)

section Checks

variable {c : Central} {request : Request} {e : Error} {t : Transfer}

theorem Central.target_of_phase_ne {channel : Channel} (h : c.connection.phase ≠ .connected) :
    c.target channel = .error .notConnected := by
  rw [target, if_neg h]

theorem mem_of_spec? {profile : Profile} {channel : Channel} {spec : ChannelSpec}
    (h : profile.spec? channel = some spec) : spec ∈ profile.channels ∧ spec.channel = channel :=
  ⟨List.mem_of_find?_eq_some h, by simpa using List.find?_some h⟩

theorem Central.entry_eq_ok {channel : Channel} {spec : ChannelSpec} :
    c.entry channel = .ok spec ↔ c.profile.spec? channel = some spec := by
  cases hspec : c.profile.spec? channel <;> simp [entry, hspec]

/-- **A request is turned away for these reasons and no others.** -/
theorem Central.Coherent.turned_iff (hc : c.Coherent) :
    Turned c.profile c.connection.phase request e ↔ Transfer.check c request = .error e := by
  rw [Transfer.check_eq]
  constructor
  · intro h
    cases h with
    | unknown hspec => simp [entry, hspec, bind, Except.bind]
    | unsupported hspec haccess =>
      simp [entry, hspec, haccess, bind, Except.bind, throw, throwThe, MonadExceptOf.throw]
    | notConnected hspec haccess hphase =>
      simp [entry, hspec, haccess, target_of_phase_ne hphase, bind, Except.bind]
    | unencodable hspec haccess hphase hencode =>
      obtain ⟨hmem, hchannel⟩ := mem_of_spec? hspec
      obtain ⟨session, link, handle, htarget⟩ := hc.target_of_mem hphase hmem
      rw [hchannel] at htarget
      simp [entry, hspec, haccess, htarget, hencode, bind, Except.bind, Except.mapError]
  · intro h
    cases hspec : c.profile.spec? request.channel with
    | none =>
      obtain rfl : Error.unknownChannel request.channel c.profile.name = e := by
        simpa [entry, hspec, bind, Except.bind] using h
      exact .unknown hspec
    | some spec =>
      obtain ⟨hmem, hchannel⟩ := mem_of_spec? hspec
      cases haccess : request.isAllowed spec.access with
      | false =>
        obtain rfl : Error.unsupportedOperation request.channel request.direction = e := by
          simpa [entry, hspec, haccess, bind, Except.bind, throw, throwThe,
            MonadExceptOf.throw] using h
        exact .unsupported hspec haccess
      | true =>
        by_cases hphase : c.connection.phase = .connected
        · obtain ⟨session, link, handle, htarget⟩ := hc.target_of_mem hphase hmem
          rw [hchannel] at htarget
          cases hencode : request.outgoing spec.wire with
          | ok outgoing =>
            simp [entry, hspec, haccess, htarget, hencode, bind, Except.bind, pure, Except.pure,
              Except.mapError] at h
          | error e' =>
            obtain rfl : Error.encode e' = e := by
              simpa [entry, hspec, haccess, htarget, hencode, bind, Except.bind,
                Except.mapError] using h
            exact .unencodable hspec haccess hphase hencode
        · obtain rfl : Error.notConnected = e := by
            simpa [entry, hspec, haccess, target_of_phase_ne hphase, bind, Except.bind, pure,
              Except.pure] using h
          exact .notConnected hspec haccess hphase

end Checks

/-! ### Requests that are carried out -/

/-- **A request is carried out**: for the live session, on its link and the handle that the
channel was resolved to there, and with the bytes of its value. -/
structure Transfer.Carries (c : Central) (request : Request) (t : Transfer) : Prop where
  spec_eq : c.profile.spec? request.channel = some t.spec
  live : c.connection.session = some t.session
  link_eq : c.connection.link = some t.link
  resolved : ∃ services handles, Handles.resolve c.profile services = .ok handles ∧
    c.connection.handles = some handles ∧ handles.get? request.channel = some t.handle
  outgoing_eq : request.outgoing t.spec.wire = .ok t.outgoing

/-- **Nothing is new but the value of a channel.** -/
structure Central.Keeps (c : Central) (channel : Channel) (value : Value) (c' : Central) :
    Prop where
  kept : c'.lastValue channel = some value
  others : ∀ other, other ≠ channel → c'.lastValue other = c.lastValue other
  rest : c' = { c with connection := { c.connection with values := c'.connection.values } }

/-- **What a reply makes of a request.** It counts while the session is live, and what is
kept then is the value of the bytes that were read or written. -/
inductive Settled (c : Central) (t : Transfer) :
    Request → Reply → Central → Outcome → Prop
  | failed {request : Request} {reply : Reply} {e : Error} (hreply : reply.error? = some e) :
      Settled c t request reply c (.error e)
  | late {request : Request} {reply : Reply} (hreply : reply.error? = none)
      (hdead : c.connection.session ≠ some t.session) :
      Settled c t request reply c (.error .notConnected)
  | garbled {channel : Channel} {data : Bytes} {e : DecodeError}
      (hlive : c.connection.session = some t.session)
      (hdecode : t.spec.wire.decode data = .error e) :
      Settled c t (.read channel) (.data (.ok data)) c (.error (.decode e))
  | read {channel : Channel} {data : Bytes} {value : Value} {c' : Central}
      (hlive : c.connection.session = some t.session)
      (hdecode : t.spec.wire.decode data = .ok value) (hkeeps : c.Keeps channel value c') :
      Settled c t (.read channel) (.data (.ok data)) c' (.ok (.value value))
  | written {channel : Channel} {value value' : Value} {data : Bytes} {c' : Central}
      (hlive : c.connection.session = some t.session)
      (houtgoing : t.outgoing = some (value, data))
      (hdecode : t.spec.wire.decode data = .ok value') (hkeeps : c.Keeps channel value' c') :
      Settled c t (.write channel value) (.done (.ok ())) c' (.ok .done)

section Replies

variable {c c' : Central} {request : Request} {t : Transfer} {reply : Reply}
  {response : Response}

theorem Central.Coherent.carries_of_check (hc : c.Coherent)
    (h : Transfer.check c request = .ok t) : t.Carries c request := by
  rw [Transfer.check_eq] at h
  obtain ⟨spec, hspec, h⟩ := exists_of_bind_eq_ok h
  split at h
  · exact absurd h (by simp [throw, throwThe, MonadExceptOf.throw, bind, Except.bind])
  obtain ⟨⟨session, link, handle⟩, htarget, h⟩ := exists_of_bind_eq_ok h
  obtain ⟨outgoing, houtgoing, h⟩ := exists_of_bind_eq_ok h
  obtain rfl := Except.ok.inj h
  obtain ⟨hphase, hsession, hlink, handles, hhandles, hhandle⟩ := target_eq htarget
  -- The handles are those that the phase has been entered with.
  have hshape := hc.shaped session hsession
  simp only [Connection.Shaped, hphase] at hshape
  obtain ⟨-, -, services, handles', hresolve, hhandles', -⟩ := hshape
  obtain rfl : handles' = handles := Option.some.inj (hhandles'.symm.trans hhandles)
  refine ⟨entry_eq_ok.mp hspec, hsession, hlink, ⟨services, handles', hresolve, hhandles, hhandle⟩,
    ?_⟩
  cases hencode : request.outgoing spec.wire with
  | ok outgoing' => simpa [hencode, Except.mapError] using houtgoing
  | error e => simp [hencode, Except.mapError] at houtgoing

theorem Central.keeps_store {session : Nat} (hlive : c.connection.session = some session)
    (channel : Channel) (value : Value) :
    c.Keeps channel value (c.store session channel value) := by
  rw [store_of_live hlive]
  refine ⟨?_, fun other hne => ?_, rfl⟩
  · simp [lastValue, Table.get?_insert]
  · simp [lastValue, Table.get?_insert, hne]

/-- **How a request is concluded.** -/
theorem Settled.of_conclude (hchannel : t.spec.channel = request.channel)
    (houtgoing : request.outgoing t.spec.wire = .ok t.outgoing)
    (h : t.conclude c reply = some (c', response)) :
    Settled c t request reply c' (response.map request.answer) := by
  obtain ⟨session, link, handle, spec, outgoing⟩ := t
  -- A reply that fits is an error, comes too late, or counts.
  cases request with
  | read channel =>
    obtain rfl : none = outgoing := Except.ok.inj houtgoing
    cases reply with
    | data result =>
      cases result with
      | error e =>
        obtain ⟨rfl, rfl⟩ := Prod.mk.inj (Option.some.inj h)
        exact .failed rfl
      | ok data =>
        simp only [Transfer.conclude] at h
        split at h
        next hlive =>
          rw [Central.isLive_iff] at hlive
          split at h
          next value hdecode =>
            obtain ⟨rfl, rfl⟩ := Prod.mk.inj (Option.some.inj h)
            exact .read hlive hdecode (hchannel ▸ Central.keeps_store hlive _ _)
          next e hdecode =>
            obtain ⟨rfl, rfl⟩ := Prod.mk.inj (Option.some.inj h)
            exact .garbled hlive hdecode
        next hdead =>
          obtain ⟨rfl, rfl⟩ := Prod.mk.inj (Option.some.inj h)
          exact .late rfl (mt Central.isLive_iff.mpr hdead)
    | _ => exact absurd h (by simp [Transfer.conclude])
  | write channel value =>
    cases hencode : spec.wire.encode value with
    | error e => simp [Request.outgoing, hencode, Except.map] at houtgoing
    | ok data =>
      obtain rfl : some (value, data) = outgoing := by
        simpa [Request.outgoing, hencode, Except.map] using houtgoing
      obtain ⟨value', hdecode, -⟩ := (Wire.readsBack_of_encode hencode).returns
      cases reply with
      | done result =>
        cases result with
        | error e =>
          obtain ⟨rfl, rfl⟩ := Prod.mk.inj (Option.some.inj h)
          exact .failed rfl
        | ok =>
          simp only [Transfer.conclude, Transfer.keep, hdecode] at h
          split at h
          next hlive =>
            rw [Central.isLive_iff] at hlive
            obtain ⟨rfl, rfl⟩ := Prod.mk.inj (Option.some.inj h)
            exact .written hlive rfl hdecode (hchannel ▸ Central.keeps_store hlive _ _)
          next hdead =>
            obtain ⟨rfl, rfl⟩ := Prod.mk.inj (Option.some.inj h)
            exact .late rfl (mt Central.isLive_iff.mpr hdead)
      | _ => exact absurd h (by simp [Transfer.conclude])

end Replies

/-! ### Where a request stands -/

namespace System

variable {request : Request} {t : Transfer} {m : Moment} {number : Nat} {task : Task}

theorem made_cons (m : Moment) (rest : List Moment) (number : Nat) :
    made (m :: rest) number = made [m] number ++ made rest number := by
  simp [made, callsIn]

end System

end CarrierLink
