import CarrierLink.Handles
import CarrierLink.Proofs.Except
import Mathlib.Data.List.Dedup
import Mathlib.Data.List.Nodup
import Mathlib.Data.List.Perm.Subperm

/-!
# Resolving a profile

What `CarrierLink.Handles.resolve` gives for a profile and the services of a device
(`CarrierLink.Handles.resolve_outcome`).

A device may list a service twice, and the first one counts. A characteristic is offered if that
one has it (`CarrierLink.Handles.Offers`), and what an entry of the profile asks for is its
characteristic in the service of its role (`CarrierLink.Handles.IsOffered`). Going through the
entries is then a choice at each of them (`CarrierLink.Handles.resolveChannel_eq`), and the whole
fails for one of three reasons, in this order: the service of the primary role is not there, that of
the control role is not there, or some entry is not offered, of which the first is named
(`CarrierLink.Handles.resolve_eq_error_iff`).

Otherwise the result is a table that is filled entry by entry
(`CarrierLink.Handles.resolve_eq_ok_iff`), and of several entries of one channel the last stands
(`CarrierLink.Table.get?_ofList_eq_some_iff`). So every channel of the profile has a handle
(`CarrierLink.Handles.get?_of_resolve`), the telemetry channels all have a place
(`CarrierLink.Handles.map_fst_telemetryHandles`), and if no two channels of the profile share a
name it is their own (`CarrierLink.Handles.place_of_mem`).
-/

namespace CarrierLink

namespace Table

variable {κ ν : Type} [DecidableEq κ]

/-- **The last pair of a key stands.** -/
theorem get?_ofList (entries : List (κ × ν)) (key : κ) :
    (ofList entries).get? key =
      (entries.reverse.find? fun entry => entry.1 == key).map Prod.snd := by
  have hfold : ∀ t : Table κ ν,
      (entries.foldl (fun t entry => t.insert entry.1 entry.2) t).get? key =
        ((entries.reverse.find? fun entry => entry.1 == key).map Prod.snd).or (t.get? key) := by
    induction entries with
    | nil => simp
    | cons entry rest ih =>
      intro t
      rw [List.foldl_cons, ih, get?_insert, List.reverse_cons, List.find?_append]
      by_cases hkey : key = entry.1
      · subst hkey
        cases rest.reverse.find? fun entry' => entry'.1 == entry.1 <;> simp
      · have hne : entry.1 ≠ key := fun h => hkey h.symm
        cases rest.reverse.find? fun entry' => entry'.1 == key <;> simp [hkey, hne]
  simpa [ofList] using hfold empty

/-- The value of a key is that of a pair after which the key does not occur. -/
theorem get?_ofList_eq_some_iff {entries : List (κ × ν)} {key : κ} {value : ν} :
    (ofList entries).get? key = some value ↔
      ∃ before after, entries = before ++ (key, value) :: after ∧
        ∀ entry ∈ after, entry.1 ≠ key := by
  rw [get?_ofList, Option.map_eq_some_iff]
  constructor
  · rintro ⟨⟨key', value'⟩, hfind, rfl⟩
    obtain ⟨hkey, before, after, hsplit, hbefore⟩ := List.find?_eq_some_iff_append.mp hfind
    obtain rfl : key' = key := beq_iff_eq.mp hkey
    refine ⟨after.reverse, before.reverse, ?_, fun entry hentry => ?_⟩
    · rw [← List.reverse_reverse entries, hsplit]
      simp
    · simpa using hbefore entry (List.mem_reverse.mp hentry)
  · rintro ⟨before, after, rfl, hafter⟩
    refine ⟨(key, value), List.find?_eq_some_iff_append.mpr
      ⟨beq_self_eq_true key, after.reverse, before.reverse, by simp, fun entry hentry => ?_⟩, rfl⟩
    simpa using hafter entry (List.mem_reverse.mp hentry)

/-- The value of a key comes from a pair. -/
theorem mem_of_get?_ofList {entries : List (κ × ν)} {key : κ} {value : ν}
    (h : (ofList entries).get? key = some value) : (key, value) ∈ entries := by
  obtain ⟨before, after, rfl, -⟩ := get?_ofList_eq_some_iff.mp h
  simp

/-- The keys that have a value are those of the pairs. -/
theorem exists_get?_ofList_iff {entries : List (κ × ν)} {key : κ} :
    (∃ value, (ofList entries).get? key = some value) ↔ key ∈ entries.map Prod.fst := by
  rw [← Option.isSome_iff_exists, get?_ofList, Option.isSome_map, List.find?_isSome]
  simp

theorem exists_get?_iff (t : Table κ ν) {key : κ} :
    (∃ value, t.get? key = some value) ↔ key ∈ t.entries.map Prod.fst := by
  rw [← Option.isSome_iff_exists, get?, Option.isSome_map, List.find?_isSome]
  simp

/-- There are as many keys as different ones among the pairs. -/
theorem size_ofList (entries : List (κ × ν)) :
    (ofList entries).size = (entries.map Prod.fst).dedup.length := by
  have hkeys : ((ofList entries).entries.map Prod.fst).Perm (entries.map Prod.fst).dedup :=
    (List.perm_ext_iff_of_nodup (ofList entries).nodup (List.nodup_dedup _)).mpr fun key => by
      rw [← exists_get?_iff, exists_get?_ofList_iff, List.mem_dedup]
  rw [size, ← List.length_map Prod.fst, hkeys.length_eq]

end Table

namespace Handles

/-! ### What a device offers -/

/-- Whether a device has a service. -/
def Exposes (services : List Service) (uuid : Uuid) : Prop :=
  ∃ service ∈ services, service.uuid = uuid

/-- **A device offers a characteristic in a service** if the first service of that identifier has
it. -/
def Offers (services : List Service) (uuid characteristic : Uuid) : Prop :=
  ∃ before service after, services = before ++ service :: after ∧
    (∀ other ∈ before, other.uuid ≠ uuid) ∧ service.uuid = uuid ∧
    characteristic ∈ service.characteristics

/-- Whether a device offers what an entry of a profile asks for: its characteristic, in the service
of its role. -/
def IsOffered (profile : Profile) (services : List Service) (spec : ChannelSpec) : Prop :=
  ∃ uuid, profile.serviceOf spec.role = some uuid ∧ Offers services uuid spec.uuid

/-- The place of an entry of a profile that is offered. -/
def place (profile : Profile) (spec : ChannelSpec) : Channel × Handle :=
  (spec.channel, ⟨(profile.serviceOf spec.role).getD profile.service, spec.uuid⟩)

section Services

variable {services : List Service} {uuid characteristic : Uuid} {service : Service} {e : Error}

theorem findService_eq_ok_iff :
    findService services uuid = .ok service ↔
      ∃ before after, services = before ++ service :: after ∧
        (∀ other ∈ before, other.uuid ≠ uuid) ∧ service.uuid = uuid := by
  have hfind : findService services uuid = .ok service ↔
      (services.find? fun s => s.uuid == uuid) = some service := by
    rw [findService]
    cases services.find? fun s => s.uuid == uuid <;> simp
  rw [hfind, List.find?_eq_some_iff_append]
  constructor
  · rintro ⟨huuid, before, after, hsplit, hbefore⟩
    exact ⟨before, after, hsplit, fun other hother => by simpa using hbefore other hother,
      beq_iff_eq.mp huuid⟩
  · rintro ⟨before, after, hsplit, hbefore, huuid⟩
    exact ⟨beq_iff_eq.mpr huuid, before, after, hsplit,
      fun other hother => by simpa using hbefore other hother⟩

theorem findService_eq_error_iff :
    findService services uuid = .error e ↔
      ¬Exposes services uuid ∧ e = .serviceNotFound uuid (services.map Service.uuid) := by
  have habsent : (services.find? fun s => s.uuid == uuid) = none ↔ ¬Exposes services uuid := by
    simp [Exposes]
  rw [← habsent, findService]
  cases services.find? fun s => s.uuid == uuid <;> simp [eq_comm]

/-- A service that is there is found. -/
theorem exists_findService (h : Exposes services uuid) :
    ∃ service, findService services uuid = .ok service := by
  cases hfind : findService services uuid with
  | ok service => exact ⟨service, rfl⟩
  | error e => exact absurd h (findService_eq_error_iff.mp hfind).1

theorem findService_of_not_exposes (h : ¬Exposes services uuid) :
    findService services uuid = .error (.serviceNotFound uuid (services.map Service.uuid)) :=
  findService_eq_error_iff.mpr ⟨h, rfl⟩

theorem offers_iff :
    Offers services uuid characteristic ↔
      ∃ service, findService services uuid = .ok service ∧
        characteristic ∈ service.characteristics := by
  constructor
  · rintro ⟨before, service, after, hsplit, hbefore, huuid, hmem⟩
    exact ⟨service, findService_eq_ok_iff.mpr ⟨before, after, hsplit, hbefore, huuid⟩, hmem⟩
  · rintro ⟨service, hfind, hmem⟩
    obtain ⟨before, after, hsplit, hbefore, huuid⟩ := findService_eq_ok_iff.mp hfind
    exact ⟨before, service, after, hsplit, hbefore, huuid, hmem⟩

theorem offers_iff_of_findService (h : findService services uuid = .ok service) :
    Offers services uuid characteristic ↔ characteristic ∈ service.characteristics := by
  rw [offers_iff]
  constructor
  · rintro ⟨service', hfind, hmem⟩
    obtain rfl : service = service' := Except.ok.inj (h.symm.trans hfind)
    exact hmem
  · exact fun hmem => ⟨service, h, hmem⟩

instance : DecidablePred (Exposes services) := fun uuid =>
  inferInstanceAs (Decidable (∃ service ∈ services, service.uuid = uuid))

instance : Decidable (Offers services uuid characteristic) :=
  match h : findService services uuid with
  | .ok _ => decidable_of_iff _ (offers_iff_of_findService h).symm
  | .error _ => .isFalse fun hoffers => by
    obtain ⟨service, hfind, -⟩ := offers_iff.mp hoffers
    exact absurd (h.symm.trans hfind) (by simp)

instance {profile : Profile} : DecidablePred (IsOffered profile services) := fun spec =>
  match h : profile.serviceOf spec.role with
  | some uuid => decidable_of_iff (Offers services uuid spec.uuid)
      (by simp [IsOffered, h])
  | none => .isFalse (by simp [IsOffered, h])

end Services

/-! ### The two outcomes -/

section Resolve

variable {profile : Profile} {services : List Service} {primary : Service}
  {control : Option Service} {handles : Handles} {e : Error}

/-- The service that the control role was found to have. -/
theorem mapM_findService_eq_ok (h : profile.control.mapM (findService services) = .ok control) :
    (profile.control = none ∧ control = none) ∨
      ∃ uuid service, profile.control = some uuid ∧ control = some service ∧
        findService services uuid = .ok service := by
  cases hprofile : profile.control with
  | none =>
    rw [hprofile] at h
    exact .inl ⟨rfl, (Except.ok.inj h).symm⟩
  | some uuid =>
    rw [hprofile] at h
    obtain ⟨service, hfind, rfl⟩ := exists_of_map_eq_ok h
    exact .inr ⟨uuid, service, rfl, rfl, hfind⟩

theorem isOffered_iff {spec : ChannelSpec} {uuid : Uuid}
    (h : profile.serviceOf spec.role = some uuid) :
    IsOffered profile services spec ↔ Offers services uuid spec.uuid := by
  simp [IsOffered, h]

/-- **What an entry is resolved to**, said without the services that were found. -/
def resolveEntry (profile : Profile) (services : List Service) (spec : ChannelSpec) :
    Except Error (Channel × Handle) :=
  if IsOffered profile services spec then .ok (place profile spec)
  else .error (.characteristicUnavailable spec.channel spec.uuid)

theorem resolveEntry_eq_ok_iff {spec : ChannelSpec} {entry : Channel × Handle} :
    resolveEntry profile services spec = .ok entry ↔
      IsOffered profile services spec ∧ place profile spec = entry := by
  rw [resolveEntry]
  split <;> simp [*]

theorem resolveEntry_eq_error_iff {spec : ChannelSpec} :
    resolveEntry profile services spec = .error e ↔
      ¬IsOffered profile services spec ∧
        e = .characteristicUnavailable spec.channel spec.uuid := by
  rw [resolveEntry]
  split <;> simp [*, eq_comm]

/-- An entry is looked for in the service of its role that was found. -/
theorem resolveEntry_eq_of_findService {spec : ChannelSpec} {uuid : Uuid} {service : Service}
    (hrole : profile.serviceOf spec.role = some uuid)
    (hfind : findService services uuid = .ok service) :
    resolveEntry profile services spec =
      if service.characteristics.contains spec.uuid then
        .ok (spec.channel, ⟨service.uuid, spec.uuid⟩)
      else .error (.characteristicUnavailable spec.channel spec.uuid) := by
  obtain ⟨before, after, -, -, rfl⟩ := findService_eq_ok_iff.mp hfind
  simp only [resolveEntry, isOffered_iff hrole, offers_iff_of_findService hfind, place, hrole,
    Option.getD_some, List.contains_iff_mem]

theorem resolveChannel_eq (hprimary : findService services profile.service = .ok primary)
    (hcontrol : profile.control.mapM (findService services) = .ok control) (spec : ChannelSpec) :
    resolveChannel primary control spec = resolveEntry profile services spec := by
  cases hrole : spec.role with
  | primary =>
    rw [resolveEntry_eq_of_findService (congrArg profile.serviceOf hrole) hprimary]
    simp only [resolveChannel, hrole]
  | control =>
    rcases mapM_findService_eq_ok hcontrol with ⟨hnone, rfl⟩ | ⟨uuid, service, hsome, rfl, hfind⟩
    · -- The profile has no control service, and so its entries in it are not offered.
      have habsent : ¬IsOffered profile services spec := by
        simp [IsOffered, hrole, Profile.serviceOf, hnone]
      simp only [resolveChannel, hrole, resolveEntry, if_neg habsent]
    · rw [resolveEntry_eq_of_findService ((congrArg profile.serviceOf hrole).trans hsome) hfind]
      simp only [resolveChannel, hrole]

/-- The control service is looked for only if the profile has one. -/
theorem exists_control (h : ∀ uuid ∈ profile.control, Exposes services uuid) :
    ∃ control, profile.control.mapM (findService services) = .ok control := by
  cases hprofile : profile.control with
  | none => exact ⟨none, rfl⟩
  | some uuid =>
    obtain ⟨service, hfind⟩ := exists_findService (h uuid hprofile)
    exact ⟨some service, congrArg (Except.map some) hfind⟩

theorem resolve_of_primary (h : ¬Exposes services profile.service) :
    resolve profile services =
      .error (.serviceNotFound profile.service (services.map Service.uuid)) := by
  rw [resolve, findService_of_not_exposes h]
  rfl

theorem resolve_of_control {uuid : Uuid} (hprimary : Exposes services profile.service)
    (hcontrol : profile.control = some uuid) (h : ¬Exposes services uuid) :
    resolve profile services = .error (.serviceNotFound uuid (services.map Service.uuid)) := by
  obtain ⟨primary, hfind⟩ := exists_findService hprimary
  rw [resolve, hfind, hcontrol]
  change ((findService services uuid).map some >>= _) = _
  rw [findService_of_not_exposes h]
  rfl

/-- Where the services are there, the entries decide. -/
theorem resolve_of_exposes (hprimary : Exposes services profile.service)
    (hcontrol : ∀ uuid ∈ profile.control, Exposes services uuid) :
    resolve profile services =
      (profile.channels.mapM (resolveEntry profile services)).map Table.ofList := by
  obtain ⟨primary, hfind⟩ := exists_findService hprimary
  obtain ⟨control, hfind'⟩ := exists_control hcontrol
  rw [resolve, hfind, hfind', ← funext (resolveChannel_eq hfind hfind')]
  cases h : profile.channels.mapM (resolveChannel primary control) <;>
    simp [h, bind, Except.bind, pure, Except.pure, Except.map]

theorem mapM_resolveEntry_eq_ok_iff {specs : List ChannelSpec} {entries : List (Channel × Handle)} :
    specs.mapM (resolveEntry profile services) = .ok entries ↔
      (∀ spec ∈ specs, IsOffered profile services spec) ∧
        specs.map (place profile) = entries := by
  simp only [mapM_eq_ok_iff, resolveEntry_eq_ok_iff, List.forall₂_and_left]
  rw [← List.forall₂_eq_eq_eq, List.forall₂_map_left_iff]

/-- **What has been resolved** is the table of the places of the entries, one after the other. -/
theorem resolve_eq_ok_iff :
    resolve profile services = .ok handles ↔
      Exposes services profile.service ∧ (∀ uuid ∈ profile.control, Exposes services uuid) ∧
        (∀ spec ∈ profile.channels, IsOffered profile services spec) ∧
        Table.ofList (profile.channels.map (place profile)) = handles := by
  by_cases hprimary : Exposes services profile.service
  · by_cases hcontrol : ∀ uuid ∈ profile.control, Exposes services uuid
    · rw [resolve_of_exposes hprimary hcontrol]
      constructor
      · intro h
        obtain ⟨entries, hentries, htable⟩ := exists_of_map_eq_ok h
        obtain ⟨hoffered, rfl⟩ := mapM_resolveEntry_eq_ok_iff.mp hentries
        exact ⟨hprimary, hcontrol, hoffered, htable⟩
      · rintro ⟨-, -, hoffered, rfl⟩
        exact congrArg (Except.map Table.ofList) (mapM_resolveEntry_eq_ok_iff.mpr ⟨hoffered, rfl⟩)
    · obtain ⟨uuid, huuid, habsent⟩ : ∃ uuid ∈ profile.control, ¬Exposes services uuid := by
        simpa using hcontrol
      rw [resolve_of_control hprimary huuid habsent]
      exact iff_of_false (by simp) fun h => hcontrol h.2.1
  · rw [resolve_of_primary hprimary]
    exact iff_of_false (by simp) fun h => hprimary h.1

/-- **What cannot be resolved** lacks the service of the primary role, or that of the control role,
or the characteristic of an entry, in this order. -/
theorem resolve_eq_error_iff :
    resolve profile services = .error e ↔
      (¬Exposes services profile.service ∧
        e = .serviceNotFound profile.service (services.map Service.uuid)) ∨
      (Exposes services profile.service ∧ ∃ uuid, profile.control = some uuid ∧
        ¬Exposes services uuid ∧ e = .serviceNotFound uuid (services.map Service.uuid)) ∨
      (Exposes services profile.service ∧ (∀ uuid ∈ profile.control, Exposes services uuid) ∧
        ∃ before spec after, profile.channels = before ++ spec :: after ∧
          (∀ other ∈ before, IsOffered profile services other) ∧
          ¬IsOffered profile services spec ∧
          e = .characteristicUnavailable spec.channel spec.uuid) := by
  constructor
  · intro h
    by_cases hprimary : Exposes services profile.service
    · by_cases hcontrol : ∀ uuid ∈ profile.control, Exposes services uuid
      · rw [resolve_of_exposes hprimary hcontrol] at h
        obtain ⟨before, spec, after, hsplit, hbefore, hspec⟩ :=
          mapM_eq_error_iff.mp (map_eq_error_iff.mp h)
        obtain ⟨habsent, he⟩ := resolveEntry_eq_error_iff.mp hspec
        refine .inr (.inr ⟨hprimary, hcontrol, before, spec, after, hsplit, fun other hother => ?_,
          habsent, he⟩)
        obtain ⟨entry, hentry⟩ := hbefore other hother
        exact (resolveEntry_eq_ok_iff.mp hentry).1
      · obtain ⟨uuid, huuid, habsent⟩ : ∃ uuid ∈ profile.control, ¬Exposes services uuid := by
          simpa using hcontrol
        rw [resolve_of_control hprimary huuid habsent] at h
        exact .inr (.inl ⟨hprimary, uuid, huuid, habsent, (Except.error.inj h).symm⟩)
    · rw [resolve_of_primary hprimary] at h
      exact .inl ⟨hprimary, (Except.error.inj h).symm⟩
  · rintro (⟨hprimary, rfl⟩ | ⟨hprimary, uuid, huuid, habsent, rfl⟩ |
      ⟨hprimary, hcontrol, before, spec, after, hsplit, hbefore, habsent, rfl⟩)
    · exact resolve_of_primary hprimary
    · exact resolve_of_control hprimary huuid habsent
    · rw [resolve_of_exposes hprimary hcontrol]
      refine map_eq_error_iff.mpr (mapM_eq_error_iff.mpr
        ⟨before, spec, after, hsplit, fun other hother => ?_,
          resolveEntry_eq_error_iff.mpr ⟨habsent, rfl⟩⟩)
      exact ⟨_, resolveEntry_eq_ok_iff.mpr ⟨hbefore other hother, rfl⟩⟩

/-- A profile that cannot be resolved lacks a service or a characteristic. -/
theorem error_of_resolve (h : resolve profile services = .error e) :
    (∃ uuid available, e = .serviceNotFound uuid available) ∨
      ∃ channel uuid, e = .characteristicUnavailable channel uuid := by
  rcases resolve_eq_error_iff.mp h with ⟨-, rfl⟩ | ⟨-, uuid, -, -, rfl⟩ |
    ⟨-, -, before, spec, after, -, -, -, rfl⟩
  · exact .inl ⟨_, _, rfl⟩
  · exact .inl ⟨_, _, rfl⟩
  · exact .inr ⟨_, _, rfl⟩

/-! ### The handles -/

/-- The channels that have a handle are those of the profile. -/
theorem exists_get?_iff (h : resolve profile services = .ok handles) {channel : Channel} :
    (∃ handle, handles.get? channel = some handle) ↔
      ∃ spec ∈ profile.channels, spec.channel = channel := by
  obtain ⟨-, -, -, rfl⟩ := resolve_eq_ok_iff.mp h
  rw [Table.exists_get?_ofList_iff, List.map_map, List.mem_map]
  rfl

/-- **Every channel of a resolved profile has a handle.** -/
theorem get?_of_resolve (h : resolve profile services = .ok handles) {spec : ChannelSpec}
    (hspec : spec ∈ profile.channels) : ∃ handle, handles.get? spec.channel = some handle :=
  (exists_get?_iff h).mpr ⟨spec, hspec, rfl⟩

/-- **The handle of a channel** is that of the last entry that names it: the entry's characteristic,
in the service of its role. -/
theorem get?_eq_some_iff (h : resolve profile services = .ok handles) {channel : Channel}
    {handle : Handle} :
    handles.get? channel = some handle ↔
      ∃ before spec after, profile.channels = before ++ spec :: after ∧ spec.channel = channel ∧
        (∀ later ∈ after, later.channel ≠ channel) ∧
        profile.serviceOf spec.role = some handle.service ∧ handle.uuid = spec.uuid := by
  obtain ⟨-, -, hoffered, rfl⟩ := resolve_eq_ok_iff.mp h
  rw [Table.get?_ofList_eq_some_iff]
  constructor
  · rintro ⟨front, back, hsplit, hback⟩
    obtain ⟨before, rest, hchannels, -, hrest⟩ := List.map_eq_append_iff.mp hsplit
    obtain ⟨spec, after, rfl, hspec, rfl⟩ := List.map_eq_cons_iff.mp hrest
    obtain ⟨uuid, hrole, -⟩ := hoffered spec (hchannels ▸ by simp)
    rw [place, hrole, Option.getD_some] at hspec
    obtain ⟨rfl, rfl⟩ := Prod.ext_iff.mp hspec
    exact ⟨before, spec, after, hchannels, rfl,
      fun later hlater => hback _ (List.mem_map_of_mem hlater), hrole, rfl⟩
  · rintro ⟨before, spec, after, hchannels, rfl, hafter, hrole, huuid⟩
    refine ⟨before.map (place profile), after.map (place profile), ?_,
      List.forall_mem_map.mpr hafter⟩
    rw [hchannels, List.map_append, List.map_cons, place, hrole, Option.getD_some, ← huuid]

/-- **A handle is that of an entry of the profile.** -/
theorem exists_spec_of_get? (h : resolve profile services = .ok handles) {channel : Channel}
    {handle : Handle} (hget : handles.get? channel = some handle) :
    ∃ spec ∈ profile.channels, spec.channel = channel ∧
      profile.serviceOf spec.role = some handle.service ∧ handle.uuid = spec.uuid := by
  obtain ⟨before, spec, after, hchannels, hchannel, -, hplace⟩ := (get?_eq_some_iff h).mp hget
  exact ⟨spec, hchannels ▸ by simp, hchannel, hplace⟩

/-- The device offers what a handle stands for. -/
theorem offers_of_get? (h : resolve profile services = .ok handles) {channel : Channel}
    {handle : Handle} (hget : handles.get? channel = some handle) :
    Offers services handle.service handle.uuid := by
  obtain ⟨spec, hspec, -, hrole, huuid⟩ := exists_spec_of_get? h hget
  obtain ⟨-, -, hoffered, -⟩ := resolve_eq_ok_iff.mp h
  exact huuid ▸ (isOffered_iff hrole).mp (hoffered spec hspec)

/-- There are as many handles as different channels. -/
theorem size_of_resolve (h : resolve profile services = .ok handles) :
    handles.size = (profile.channels.map ChannelSpec.channel).dedup.length := by
  obtain ⟨-, -, -, rfl⟩ := resolve_eq_ok_iff.mp h
  rw [Table.size_ofList, List.map_map]
  rfl

end Resolve

end Handles

/-! ### What the operator is told -/

namespace Error

theorem infix_intercalate {separator text : String} {texts : List String} (h : text ∈ texts) :
    text.toList <:+: (separator.intercalate texts).toList := by
  induction texts with
  | nil => exact absurd h List.not_mem_nil
  | cons first others ih =>
    cases others with
    | nil =>
      obtain rfl := List.mem_singleton.mp h
      simp [String.intercalate_singleton]
    | cons next others =>
      rw [String.intercalate_cons_cons, String.toList_append, String.toList_append]
      rcases List.mem_cons.mp h with rfl | h
      · rw [List.append_assoc]
        exact (List.prefix_append _ _).isInfix
      · exact List.infix_append_of_infix_right (ih h)

/-- **The message about a missing service** has all services that are there, or says that there is
none. -/
theorem infix_serviceNotFound_message (uuid : Uuid) (available : List Uuid) :
    (∀ other ∈ available, other.text.toList <:+: (serviceNotFound uuid available).message.toList) ∧
      (available = [] → "the device exposes no services".toList <:+:
        (serviceNotFound uuid available).message.toList) := by
  have hmessage : (serviceNotFound uuid available).message =
      "service " ++ uuid.text ++ " not found on the device (" ++ servicesText available ++ ")" := rfl
  have htext : (servicesText available).toList <:+: (serviceNotFound uuid available).message.toList := by
    rw [hmessage, String.toList_append, String.toList_append]
    exact List.infix_append _ _ _
  refine ⟨fun other hother => List.IsInfix.trans ?_ htext, fun hnone => List.IsInfix.trans ?_ htext⟩
  · have hne : available.isEmpty = false := by
      rw [List.isEmpty_eq_false_iff]
      exact List.ne_nil_of_mem hother
    rw [servicesText, if_neg (by simp [hne]), String.toList_append]
    exact List.infix_append_of_infix_right (infix_intercalate (List.mem_map_of_mem hother))
  · subst hnone
    exact List.infix_rfl

end Error

/-! ### Resolving a profile -/

/-- **Resolving a profile** on a device, whatever the profile names twice and whatever the device
has.

It fails if the service of the primary role is not there; else if the profile has a control service
and that one is not there; else if the device does not offer what an entry asks for, of which the
first is named. A missing service is reported with all that are there, and the message has them
all, or says that there is none.

Otherwise the channels of the profile have handles, and no others. The handle of a channel is that
of the last entry that names it: the entry's characteristic, in the service of its role, where it
is. -/
theorem Handles.resolve_outcome (profile : Profile) (services : List Service) :
    (∀ e, resolve profile services = .error e ↔
      (¬Exposes services profile.service ∧
        e = .serviceNotFound profile.service (services.map Service.uuid)) ∨
      (Exposes services profile.service ∧ ∃ uuid, profile.control = some uuid ∧
        ¬Exposes services uuid ∧ e = .serviceNotFound uuid (services.map Service.uuid)) ∨
      (Exposes services profile.service ∧ (∀ uuid ∈ profile.control, Exposes services uuid) ∧
        ∃ before spec after, profile.channels = before ++ spec :: after ∧
          (∀ other ∈ before, IsOffered profile services other) ∧
          ¬IsOffered profile services spec ∧
          e = .characteristicUnavailable spec.channel spec.uuid)) ∧
    (∀ uuid available, resolve profile services = .error (.serviceNotFound uuid available) →
      (∀ service ∈ services, service.uuid.text.toList <:+:
        (Error.serviceNotFound uuid available).message.toList) ∧
      (services = [] → "the device exposes no services".toList <:+:
        (Error.serviceNotFound uuid available).message.toList)) ∧
    ((∃ handles, resolve profile services = .ok handles) ↔
      Exposes services profile.service ∧ (∀ uuid ∈ profile.control, Exposes services uuid) ∧
        ∀ spec ∈ profile.channels, IsOffered profile services spec) ∧
    ∀ handles, resolve profile services = .ok handles →
      handles.size = (profile.channels.map ChannelSpec.channel).dedup.length ∧
      (∀ channel, (∃ handle, handles.get? channel = some handle) ↔
        ∃ spec ∈ profile.channels, spec.channel = channel) ∧
      ∀ channel handle, handles.get? channel = some handle ↔
        ∃ before spec after, profile.channels = before ++ spec :: after ∧
          spec.channel = channel ∧ (∀ later ∈ after, later.channel ≠ channel) ∧
          profile.serviceOf spec.role = some handle.service ∧ handle.uuid = spec.uuid ∧
          Offers services handle.service handle.uuid := by
  refine ⟨fun e => resolve_eq_error_iff, fun uuid available h => ?_, ?_, fun handles h =>
    ⟨size_of_resolve h, fun channel => exists_get?_iff h, fun channel handle => ?_⟩⟩
  · obtain rfl : available = services.map Service.uuid := by
      rcases resolve_eq_error_iff.mp h with ⟨-, he⟩ | ⟨-, uuid', -, -, he⟩ |
        ⟨-, -, before, spec, after, -, -, -, he⟩
      · exact (Error.serviceNotFound.inj he).2
      · exact (Error.serviceNotFound.inj he).2
      · exact absurd he (by simp)
    obtain ⟨hall, hnone⟩ := Error.infix_serviceNotFound_message uuid (services.map Service.uuid)
    exact ⟨fun service hservice => hall _ (List.mem_map_of_mem hservice),
      fun hempty => hnone (by rw [hempty, List.map_nil])⟩
  · simp only [resolve_eq_ok_iff, exists_and_left, exists_eq', and_true]
  · constructor
    · intro hget
      obtain ⟨before, spec, after, hchannels, hchannel, hafter, hrole, huuid⟩ :=
        (get?_eq_some_iff h).mp hget
      exact ⟨before, spec, after, hchannels, hchannel, hafter, hrole, huuid, offers_of_get? h hget⟩
    · rintro ⟨before, spec, after, hchannels, hchannel, hafter, hrole, huuid, -⟩
      exact (get?_eq_some_iff h).mpr
        ⟨before, spec, after, hchannels, hchannel, hafter, hrole, huuid⟩

/-- A channel with two entries on a device that lists its service twice, and a device without the
control service. -/
theorem Handles.resolve_outcome_of_two_devices :
    (∃ handles,
      resolve
        { Profile.alarm with channels :=
          [⟨.melody, Uuid.ofChannel .alarmTime, .primary, .text, .readWrite⟩,
            Profile.entry .primary .text .readWrite .melody] }
        [⟨Uuid.alarmService, [Uuid.ofChannel .melody, Uuid.ofChannel .alarmTime]⟩,
          ⟨Uuid.alarmService, []⟩] = .ok handles ∧
      handles.get? .melody = some ⟨Uuid.alarmService, Uuid.ofChannel .melody⟩) ∧
    resolve Profile.sensor [⟨Uuid.sensorService, []⟩] =
      .error (.serviceNotFound Uuid.controlService [Uuid.sensorService]) ∧
    Uuid.sensorService.text.toList <:+:
      (Error.serviceNotFound Uuid.controlService [Uuid.sensorService]).message.toList := by
  refine ⟨?_, ?_⟩
  · obtain ⟨-, -, hresolved, hhandles⟩ := resolve_outcome
      { Profile.alarm with channels :=
        [⟨.melody, Uuid.ofChannel .alarmTime, .primary, .text, .readWrite⟩,
          Profile.entry .primary .text .readWrite .melody] }
      [⟨Uuid.alarmService, [Uuid.ofChannel .melody, Uuid.ofChannel .alarmTime]⟩,
        ⟨Uuid.alarmService, []⟩]
    obtain ⟨handles, h⟩ := hresolved.mpr (by decide)
    obtain ⟨-, -, hget⟩ := hhandles handles h
    exact ⟨handles, h, (hget _ _).mpr
      ⟨[_], _, [], rfl, rfl, by simp, rfl, rfl, by decide⟩⟩
  · obtain ⟨hfailed, hmessage, -, -⟩ :=
      resolve_outcome Profile.sensor [⟨Uuid.sensorService, []⟩]
    have h := (hfailed (.serviceNotFound Uuid.controlService [Uuid.sensorService])).mpr
      (.inr (.inl (by decide)))
    exact ⟨h, (hmessage _ _ h).1 ⟨Uuid.sensorService, []⟩ (List.mem_singleton.mpr rfl)⟩

/-! ### The telemetry channels -/

section Telemetry

variable {profile : Profile} {services : List Service} {handles : Handles}

theorem Profile.mem_telemetryHandles {entry : ChannelSpec × Handle} :
    entry ∈ profile.telemetryHandles handles ↔
      entry.1 ∈ profile.telemetry ∧ handles.get? entry.1.channel = some entry.2 := by
  simp only [telemetryHandles, List.mem_filterMap, Option.map_eq_some_iff]
  constructor
  · rintro ⟨spec, hspec, handle, hhandle, rfl⟩
    exact ⟨hspec, hhandle⟩
  · exact fun ⟨hspec, hhandle⟩ => ⟨entry.1, hspec, entry.2, hhandle, rfl⟩

theorem Profile.length_telemetryHandles (profile : Profile) (handles : Handles) :
    (profile.telemetryHandles handles).length ≤ profile.telemetry.length :=
  List.length_filterMap_le _ _

/-- **Every telemetry channel of a resolved profile has its place**, in profile order. -/
theorem Handles.map_fst_telemetryHandles (h : resolve profile services = .ok handles) :
    (profile.telemetryHandles handles).map Prod.fst = profile.telemetry := by
  have hall (spec : ChannelSpec) (hspec : spec ∈ profile.telemetry) :
      ((handles.get? spec.channel).map (spec, ·)).map Prod.fst = some spec := by
    obtain ⟨handle, hhandle⟩ := get?_of_resolve h (List.mem_of_mem_filter hspec)
    simp [hhandle]
  rw [Profile.telemetryHandles, List.map_filterMap]
  conv_rhs => rw [← List.filterMap_some (l := profile.telemetry)]
  exact List.filterMap_congr hall

/-- **The handle of a telemetry channel** is its own characteristic in the service of its role,
if no other channel of the profile has its name. -/
theorem Handles.place_of_mem (h : resolve profile services = .ok handles)
    (hchannels : (profile.channels.map ChannelSpec.channel).Nodup)
    {entry : ChannelSpec × Handle} (hmem : entry ∈ profile.telemetryHandles handles) :
    profile.serviceOf entry.1.role = some entry.2.service ∧ entry.2.uuid = entry.1.uuid := by
  obtain ⟨hspec, hhandle⟩ := Profile.mem_telemetryHandles.mp hmem
  obtain ⟨spec, hspec', hchannel, hservice, huuid⟩ := exists_spec_of_get? h hhandle
  obtain rfl : spec = entry.1 :=
    List.inj_on_of_nodup_map hchannels hspec' (List.mem_of_mem_filter hspec) hchannel
  exact ⟨hservice, huuid⟩

theorem Handles.nodup_telemetryHandles (h : resolve profile services = .ok handles)
    (hchannels : (profile.channels.map ChannelSpec.channel).Nodup) :
    ((profile.telemetryHandles handles).map fun entry => entry.1.channel).Nodup := by
  have hmap : ((profile.telemetryHandles handles).map fun entry => entry.1.channel) =
      profile.telemetry.map ChannelSpec.channel := by
    rw [← map_fst_telemetryHandles h, List.map_map]
    rfl
  rw [hmap]
  exact hchannels.sublist (List.filter_sublist.map _)

/-- There are not more of them than there are channels. -/
theorem Handles.length_telemetryHandles_le (h : resolve profile services = .ok handles)
    (hchannels : (profile.channels.map ChannelSpec.channel).Nodup) :
    (profile.telemetryHandles handles).length ≤ Channel.all.length := by
  have hsub := (nodup_telemetryHandles h hchannels).subperm fun channel _ => Channel.mem_all channel
  simpa using hsub.length_le

end Telemetry

end CarrierLink
