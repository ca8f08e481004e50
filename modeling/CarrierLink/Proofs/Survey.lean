import CarrierLink.Proofs.Radio

/-!
# What is listed and what is selected

A scan serves two ends. It lists everything that advertises, with the devices marked that the
filter accepts (`CarrierLink.Survey.devices`), and it selects a device to connect to
(`CarrierLink.Survey.select`). This module proves that the two agree
(`CarrierLink.Survey.devices_and_select`): they fail together and with the same error, and
otherwise what is selected is the first device that is marked.

The reasons for which a scan can fail are in `CarrierLink.Survey.Fails`, each with what has gone
well before it. A device whose advertisement cannot be read fails the listing, a device without one
is left out of it, and a listing that fails goes before a stop that fails. Whatever becomes of the
listing, the scan is stopped (`CarrierLink.Survey.Scans.steps_eq`).

A filter accepts a device in one of four ways (`CarrierLink.Filter.Takes`): by a target in its name
or its address, or else by a service, a name, or the beginning of a name.
-/

namespace CarrierLink

/-! ### What a filter accepts -/

namespace Text

theorem occursIn_iff {part s : List Char} : occursIn part s = true ↔ part <:+: s := by
  induction s with
  | nil => rw [occursIn, List.isEmpty_iff, List.infix_nil]
  | cons c rest ih =>
    rw [occursIn, Bool.or_eq_true, List.isPrefixOf_iff_prefix, ih, List.infix_cons_iff]

theorem contains_iff {s part : String} : contains s part = true ↔ part.toList <:+: s.toList :=
  occursIn_iff

theorem startsWith_iff {s start : String} :
    startsWith s start = true ↔ start.toList <+: s.toList :=
  List.isPrefixOf_iff_prefix

end Text

/-- **The ways in which a filter takes a device.** A target alone decides. -/
inductive Filter.Takes (filter : Filter) (name : Option String) (address : String)
    (advertised : List Uuid) : Prop
  | targetInName {target text : String} (htarget : filter.target = some target)
      (hname : name = some text) (h : target.toList <:+: text.toList) :
      Takes filter name address advertised
  | targetInAddress {target : String} (htarget : filter.target = some target)
      (h : target.toList <:+: address.toList) : Takes filter name address advertised
  | service {uuid : Uuid} (htarget : filter.target = none) (hwanted : uuid ∈ filter.services)
      (h : uuid ∈ advertised) : Takes filter name address advertised
  | name {text : String} (htarget : filter.target = none) (hname : name = some text)
      (h : text ∈ filter.names) : Takes filter name address advertised
  | namePrefix {text start : String} (htarget : filter.target = none) (hname : name = some text)
      (hwanted : start ∈ filter.namePrefixes) (h : start.toList <+: text.toList) :
      Takes filter name address advertised

/-- **A filter accepts what it takes.** -/
theorem Filter.accepts_iff {filter : Filter} {name : Option String} {address : String}
    {advertised : List Uuid} :
    filter.accepts name address advertised = true ↔ filter.Takes name address advertised := by
  cases htarget : filter.target with
  | some target =>
    simp only [accepts, htarget, Bool.or_eq_true, Option.any_eq_true, Text.contains_iff]
    constructor
    · rintro (⟨text, hname, h⟩ | h)
      · exact .targetInName htarget hname h
      · exact .targetInAddress htarget h
    · intro h
      cases h with
      | targetInName htarget' hname h =>
        obtain rfl := Option.some.inj (htarget.symm.trans htarget')
        exact .inl ⟨_, hname, h⟩
      | targetInAddress htarget' h =>
        obtain rfl := Option.some.inj (htarget.symm.trans htarget')
        exact .inr h
      | service htarget' | name htarget' | namePrefix htarget' =>
        exact absurd (htarget.symm.trans htarget') (by simp)
  | none =>
    simp only [accepts, htarget, Bool.or_eq_true, List.any_eq_true, Option.any_eq_true,
      List.contains_iff_mem, Text.startsWith_iff]
    constructor
    · rintro (⟨uuid, h, hwanted⟩ | ⟨text, hname, h | ⟨start, hwanted, h⟩⟩)
      · exact .service htarget hwanted h
      · exact .name htarget hname h
      · exact .namePrefix htarget hname hwanted h
    · intro h
      cases h with
      | targetInName htarget' | targetInAddress htarget' =>
        exact absurd (htarget.symm.trans htarget') (by simp)
      | service _ hwanted h => exact .inl ⟨_, h, hwanted⟩
      | name _ hname h => exact .inr ⟨_, hname, .inl h⟩
      | namePrefix _ hname hwanted h => exact .inr ⟨_, hname, .inr ⟨_, hwanted, h⟩⟩

/-! ### How a scan fails -/

namespace Survey

variable {s : Survey} {e : Error}

/-- There is an adapter to scan with. -/
def Opens (s : Survey) : Prop := s.manager = .ok () ∧ ∃ count, s.adapters = .ok (count + 1)

/-- The scan has started. -/
def Scans (s : Survey) : Prop := s.Opens ∧ s.start = .ok ()

/-- The platform lists these devices, and the advertisement of each can be read. -/
def Lists (s : Survey) (sightings : List Sighting) : Prop :=
  s.sightings = .ok sightings ∧ ∀ sighting ∈ sightings, ∃ read, sighting.advertisement = .ok read

/-- **The ways in which a scan fails**, each after what goes before it has succeeded. Only the stop
comes after something that may have failed, and then it does not count. -/
inductive Fails (s : Survey) : Error → Prop
  | manager {fault : Fault} (h : s.manager = .error fault) :
      Fails s (.transport .openingManager fault)
  | adapters {fault : Fault} (hmanager : s.manager = .ok ()) (h : s.adapters = .error fault) :
      Fails s (.transport .listingAdapters fault)
  | unsupported (hmanager : s.manager = .ok ()) (h : s.adapters = .ok 0) :
      Fails s .unsupportedPlatform
  | start {fault : Fault} (hopens : s.Opens) (h : s.start = .error fault) :
      Fails s (.transport .startingScan fault)
  | peripherals {fault : Fault} (hscans : s.Scans) (h : s.sightings = .error fault) :
      Fails s (.transport .listingPeripherals fault)
  | advertisement {before after : List Sighting} {sighting : Sighting} {fault : Fault}
      (hscans : s.Scans) (hsightings : s.sightings = .ok (before ++ sighting :: after))
      (hbefore : ∀ other ∈ before, ∃ read, other.advertisement = .ok read)
      (h : sighting.advertisement = .error fault) :
      Fails s (.transport .readingAdvertisement fault)
  | stop {sightings : List Sighting} {fault : Fault} (hscans : s.Scans)
      (hlists : s.Lists sightings) (h : s.stop = .error fault) :
      Fails s (.transport .stoppingScan fault)

end Survey

namespace Radio

variable {α : Type} {activity : Activity} {result : Except Fault α} {e : Error}

theorem during_eq_ok_iff {a : α} : during activity result = .ok a ↔ result = .ok a := by
  cases result <;> simp [during, Except.mapError]

theorem during_eq_error_iff :
    during activity result = .error e ↔
      ∃ fault, result = .error fault ∧ e = .transport activity fault := by
  cases result <;> simp [during, Except.mapError, eq_comm]

theorem adapter_eq_ok_iff {s : Survey} : adapter s.manager s.adapters = .ok () ↔ s.Opens := by
  rw [Survey.Opens]
  rcases s.manager with fault | _
  · simp [adapter, during, Except.mapError, bind, Except.bind]
  rcases s.adapters with fault | _ | count
  · simp [adapter, during, Except.mapError, bind, Except.bind]
  · simp [adapter, during, Except.mapError, bind, Except.bind, throw, throwThe,
      MonadExceptOf.throw]
  · simp [adapter, during, Except.mapError, bind, Except.bind, pure, Except.pure]

theorem fails_of_adapter {s : Survey} (h : adapter s.manager s.adapters = .error e) :
    s.Fails e := by
  rcases error_of_bind h with h | ⟨_, hmanager, h⟩
  · obtain ⟨fault, hmanager, rfl⟩ := during_eq_error_iff.mp h
    exact .manager hmanager
  rw [during_eq_ok_iff] at hmanager
  rcases error_of_bind h with h | ⟨count, hcount, h⟩
  · obtain ⟨fault, hadapters, rfl⟩ := during_eq_error_iff.mp h
    exact .adapters hmanager hadapters
  rw [during_eq_ok_iff] at hcount
  split at h
  next hzero =>
    obtain rfl : Error.unsupportedPlatform = e := Except.error.inj h
    exact .unsupported hmanager (hzero ▸ hcount)
  next => exact absurd h (by simp [pure, Except.pure])

end Radio

/-! ### The listing -/

namespace Survey

open Radio

variable {s : Survey} {e : Error} {sightings : List Sighting}

/-- The sightings that have advertised, numbered as they come. -/
def advertisers (sightings : List Sighting) : List Advertiser :=
  (sightings.zipIdx 1).filterMap fun (sighting, number) =>
    (advertiser sighting number).toOption.join

theorem advertiser_eq_ok_iff {sighting : Sighting} {number : Nat} {found : Option Advertiser} :
    advertiser sighting number = .ok found ↔ ∃ read, sighting.advertisement = .ok read ∧
      found = read.map fun advertisement => ⟨number, sighting.address, advertisement⟩ := by
  cases hread : sighting.advertisement <;>
    simp [advertiser, hread, during, Except.mapError, Except.map, eq_comm]

theorem advertiser_eq_error_iff {sighting : Sighting} {number : Nat} :
    advertiser sighting number = .error e ↔ ∃ fault, sighting.advertisement = .error fault ∧
      e = .transport .readingAdvertisement fault := by
  rw [advertiser, map_eq_error_iff, during_eq_error_iff]

/-- A sighting that has advertised is a device. -/
theorem advertiser_eq_some_iff {sighting : Sighting} {number : Nat} {device : Advertiser} :
    (advertiser sighting number).toOption.join = some device ↔
      device.number = number ∧ device.address = sighting.address ∧
        sighting.advertisement = .ok (some device.advertisement) := by
  obtain ⟨number', address, advertisement⟩ := device
  rcases hread : sighting.advertisement with fault | _ | advertisement' <;>
    simp [advertiser, hread, during, Except.mapError, Except.map, Except.toOption, eq_comm]

/-- **Who has advertised**, by position and data. -/
theorem mem_advertisers {device : Advertiser} :
    device ∈ advertisers sightings ↔ ∃ index sighting, sightings[index]? = some sighting ∧
      device.number = index + 1 ∧ device.address = sighting.address ∧
      sighting.advertisement = .ok (some device.advertisement) := by
  simp only [advertisers, List.mem_filterMap, Prod.exists, List.mem_zipIdx_iff_le_and_getElem?_sub,
    advertiser_eq_some_iff]
  constructor
  · rintro ⟨sighting, number, ⟨hle, hsighting⟩, rfl, haddress, hread⟩
    exact ⟨_, sighting, hsighting, (Nat.sub_add_cancel hle).symm, haddress, hread⟩
  · rintro ⟨index, sighting, hsighting, hnumber, haddress, hread⟩
    exact ⟨sighting, index + 1, ⟨Nat.le_add_left _ _, hsighting⟩, hnumber, haddress, hread⟩

/-- The devices are listed as they were sighted. -/
theorem pairwise_advertisers (sightings : List Sighting) :
    (advertisers sightings).Pairwise fun device other => device.number < other.number := by
  have hnumbers : (sightings.zipIdx 1).Pairwise fun entry other => entry.2 < other.2 := by
    rw [← List.pairwise_map, List.zipIdx_map_snd]
    exact List.pairwise_lt_range'
  refine List.pairwise_filterMap.mpr (hnumbers.imp fun hlt device hdevice other hother => ?_)
  rwa [(advertiser_eq_some_iff.mp hdevice).1, (advertiser_eq_some_iff.mp hother).1]

/-- **Reading stops at the first advertisement that cannot be read**, whatever comes after it. -/
theorem mapM_advertiser_eq_error_iff :
    (sightings.zipIdx 1).mapM (fun (sighting, number) => advertiser sighting number) = .error e ↔
      ∃ before sighting after fault, sightings = before ++ sighting :: after ∧
        (∀ other ∈ before, ∃ read, other.advertisement = .ok read) ∧
        sighting.advertisement = .error fault ∧ e = .transport .readingAdvertisement fault := by
  rw [mapM_eq_error_iff]
  constructor
  · rintro ⟨before, ⟨sighting, number⟩, after, hsplit, hbefore, hfails⟩
    obtain ⟨fault, hunread, he⟩ := advertiser_eq_error_iff.mp hfails
    refine ⟨before.map Prod.fst, sighting, after.map Prod.fst, fault, ?_, fun other hmem => ?_,
      hunread, he⟩
    · rw [← List.zipIdx_map_fst 1 sightings, hsplit, List.map_append, List.map_cons]
    · obtain ⟨entry, hentry, rfl⟩ := List.mem_map.mp hmem
      obtain ⟨found, hfound⟩ := hbefore entry hentry
      obtain ⟨read, hread, -⟩ := advertiser_eq_ok_iff.mp hfound
      exact ⟨read, hread⟩
  · rintro ⟨before, sighting, after, fault, rfl, hbefore, hunread, rfl⟩
    refine ⟨before.zipIdx 1, (sighting, 1 + before.length), after.zipIdx (1 + before.length + 1),
      ?_, fun entry hentry => ?_, advertiser_eq_error_iff.mpr ⟨fault, hunread, rfl⟩⟩
    · rw [List.zipIdx_append, List.zipIdx_cons]
    · obtain ⟨read, hread⟩ := hbefore entry.1 (List.fst_mem_of_mem_zipIdx hentry)
      exact ⟨_, advertiser_eq_ok_iff.mpr ⟨read, hread, rfl⟩⟩

/-- What is found one by one is what is found. -/
theorem filterMap_of_forall₂ {α β ε : Type} {f : α → Except ε (Option β)} {xs : List α}
    {ys : List (Option β)} (h : List.Forall₂ (fun x y => f x = .ok y) xs ys) :
    ys.filterMap id = xs.filterMap fun x => (f x).toOption.join := by
  induction h with
  | nil => rfl
  | cons hxy _ ih =>
    rw [List.filterMap_cons, List.filterMap_cons, ih, hxy]
    rfl

/-- A listing that succeeds has read every advertisement. -/
theorem lists_of_listing {found : List Advertiser} (h : s.listing = .ok found) :
    ∃ sightings, s.Lists sightings ∧ found = advertisers sightings := by
  obtain ⟨sightings, hsightings, h⟩ := exists_of_bind_eq_ok h
  obtain ⟨results, hresults, h⟩ := exists_of_bind_eq_ok h
  rw [mapM_eq_ok_iff] at hresults
  refine ⟨sightings, ⟨during_eq_ok_iff.mp hsightings, fun sighting hmem => ?_⟩, ?_⟩
  · rw [← List.zipIdx_map_fst 1 sightings] at hmem
    obtain ⟨entry, hentry, rfl⟩ := List.mem_map.mp hmem
    obtain ⟨result, hresult⟩ := exists_of_forall₂_left hresults hentry
    obtain ⟨read, hread, -⟩ := advertiser_eq_ok_iff.mp hresult
    exact ⟨read, hread⟩
  · rw [← Except.ok.inj h, advertisers]
    exact filterMap_of_forall₂ hresults

theorem fails_of_listing (hscans : s.Scans) (h : s.listing = .error e) : s.Fails e := by
  rcases error_of_bind h with h | ⟨sightings, hsightings, h⟩
  · obtain ⟨fault, hsightings, rfl⟩ := during_eq_error_iff.mp h
    exact .peripherals hscans hsightings
  rw [during_eq_ok_iff] at hsightings
  rcases error_of_bind h with h | ⟨results, -, h⟩
  · obtain ⟨before, sighting, after, fault, rfl, hbefore, hunread, rfl⟩ :=
        mapM_advertiser_eq_error_iff.mp h
    exact .advertisement hscans hsightings hbefore hunread
  · exact absurd h (by simp [pure, Except.pure])

/-- **The listing** of devices whose advertisements can all be read. -/
theorem Lists.listing_eq (h : s.Lists sightings) : s.listing = .ok (advertisers sightings) := by
  obtain ⟨hsightings, hread⟩ := h
  cases hlisting : s.listing with
  | ok found =>
    obtain ⟨sightings', ⟨hsightings', -⟩, rfl⟩ := lists_of_listing hlisting
    obtain rfl : sightings = sightings' := Except.ok.inj (hsightings.symm.trans hsightings')
    rfl
  | error e =>
    rcases error_of_bind hlisting with h | ⟨sightings', hsightings', h⟩
    · exact absurd h (by simp [hsightings, during, Except.mapError])
    rw [during_eq_ok_iff, hsightings] at hsightings'
    obtain rfl := Except.ok.inj hsightings'
    rcases error_of_bind h with h | ⟨results, -, h⟩
    · obtain ⟨before, sighting, after, fault, rfl, -, hunread, -⟩ :=
        mapM_advertiser_eq_error_iff.mp h
      obtain ⟨read, hread⟩ := hread sighting (by simp)
      exact absurd (hread.symm.trans hunread) (by simp)
    · exact absurd h (by simp [pure, Except.pure])

/-! ### The scan -/

theorem Scans.found_eq (h : s.Scans) :
    s.found = match s.listing, during .stoppingScan s.stop with
      | .ok found, .ok () => .ok found
      | .ok _, .error e => .error e
      | .error e, _ => .error e := by
  obtain ⟨hopens, hstart⟩ := h
  rw [found, adapter_eq_ok_iff.mpr hopens, hstart]
  rfl

theorem Lists.found_eq (h : s.Lists sightings) (hscans : s.Scans) (hstop : s.stop = .ok ()) :
    s.found = .ok (advertisers sightings) := by
  rw [hscans.found_eq, h.listing_eq, hstop]
  rfl

/-- **A scan fails for these reasons and no others.** -/
theorem found_eq_error_iff : s.found = .error e ↔ s.Fails e := by
  constructor
  · intro h
    rcases error_of_bind h with h | ⟨_, hopens, h⟩
    · exact fails_of_adapter h
    rw [adapter_eq_ok_iff] at hopens
    rcases error_of_bind h with h | ⟨_, hstart, h⟩
    · obtain ⟨fault, hstart, rfl⟩ := during_eq_error_iff.mp h
      exact .start hopens hstart
    have hscans : s.Scans := ⟨hopens, during_eq_ok_iff.mp hstart⟩
    split at h
    · exact absurd h (by simp [pure, Except.pure])
    next hlisting hstop =>
      obtain rfl := Except.error.inj h
      obtain ⟨fault, hfails, rfl⟩ := during_eq_error_iff.mp hstop
      obtain ⟨sightings, hlists, -⟩ := lists_of_listing hlisting
      exact .stop hscans hlists hfails
    next hlisting =>
      obtain rfl := Except.error.inj h
      exact fails_of_listing hscans hlisting
  · intro h
    cases h with
    | manager h => rw [found, h]; rfl
    | adapters hmanager h => rw [found, hmanager, h]; rfl
    | unsupported hmanager h => rw [found, hmanager, h]; rfl
    | start hopens h => rw [found, adapter_eq_ok_iff.mpr hopens, h]; rfl
    | peripherals hscans h => rw [hscans.found_eq, listing, h]; rfl
    | @advertisement before after sighting fault hscans hsightings hbefore h =>
      have hmapM := mapM_advertiser_eq_error_iff.mpr
        ⟨before, sighting, after, fault, rfl, hbefore, h, rfl⟩
      rw [hscans.found_eq, listing, hsightings]
      simp only [during, Except.mapError, bind, Except.bind] at hmapM ⊢
      rw [hmapM]
    | stop hscans hlists h => rw [hscans.found_eq, hlists.listing_eq, h]; rfl

/-- **A scan that does not fail** has found who has advertised. -/
theorem found_eq_ok_iff {found : List Advertiser} :
    s.found = .ok found ↔ s.Scans ∧ s.stop = .ok () ∧
      ∃ sightings, s.Lists sightings ∧ found = advertisers sightings := by
  constructor
  · intro h
    obtain ⟨_, hopens, h'⟩ := exists_of_bind_eq_ok h
    obtain ⟨_, hstart, h'⟩ := exists_of_bind_eq_ok h'
    refine ⟨⟨adapter_eq_ok_iff.mp hopens, during_eq_ok_iff.mp hstart⟩, ?_⟩
    split at h'
    next hlisting hstop =>
      obtain rfl := Except.ok.inj h'
      exact ⟨during_eq_ok_iff.mp hstop, lists_of_listing hlisting⟩
    all_goals exact absurd h' (by simp [throw, throwThe, MonadExceptOf.throw])
  · rintro ⟨hscans, hstop, sightings, hlists, rfl⟩
    exact hlists.found_eq hscans hstop

/-- **A scan that has started is stopped**, whatever becomes of the listing. -/
theorem Scans.steps_eq (h : s.Scans) :
    scanSteps s = [(.startScan, true), (.stopScan, s.stop.toBool)] := by
  obtain ⟨hopens, hstart⟩ := h
  simp [scanSteps, step, adapter_eq_ok_iff.mpr hopens, hstart, Except.toBool]

/-! ### Listing and selecting -/

/-- A device as it is listed with a filter. -/
def shown (filter : Filter) (device : Advertiser) : Device :=
  ⟨device.advertisement.name.getD "Unknown", device.address, device.advertisement.strength,
    filter.selects device⟩

theorem devices_eq (s : Survey) (filter : Filter) :
    s.devices filter = s.found.map (List.map (shown filter)) := rfl

/-- **What is listed and what is selected**, when these are the sightings and those of them that
have advertised. -/
structure Shows (s : Survey) (filter : Filter) (sightings : List Sighting)
    (found : List Advertiser) : Prop where
  lists : s.Lists sightings
  /-- Everything that has advertised is found, and nothing else, -/
  mem_iff : ∀ device, device ∈ found ↔ ∃ index sighting, sightings[index]? = some sighting ∧
    device.number = index + 1 ∧ device.address = sighting.address ∧
    sighting.advertisement = .ok (some device.advertisement)
  /-- in the order of the sightings. -/
  ordered : found.Pairwise fun device other => device.number < other.number
  devices_eq : s.devices filter = .ok (found.map (shown filter))
  /-- What the filter takes is marked. -/
  marked_iff : ∀ device ∈ found, (shown filter device).isMatch = true ↔
    filter.Takes device.advertisement.name device.address device.advertisement.services
  /-- What is selected is the first device with a mark. -/
  select_iff : ∀ link, s.select filter = .ok link ↔
    ∃ before device after, found = before ++ device :: after ∧
      (∀ other ∈ before, (shown filter other).isMatch = false) ∧
      (shown filter device).isMatch = true ∧ link = ⟨device.number, device.advertisement.name⟩

theorem select_of_found (filter : Filter) {found : List Advertiser} (h : s.found = .ok found) :
    s.select filter = match found.find? filter.selects with
      | some device => .ok ⟨device.number, device.advertisement.name⟩
      | none => .error .deviceSelectionAborted := by
  rw [select, h]
  rfl

theorem shows_of_found {filter : Filter} (hlists : s.Lists sightings)
    (h : s.found = .ok (advertisers sightings)) :
    s.Shows filter sightings (advertisers sightings) := by
  have hselect := select_of_found filter h
  refine ⟨hlists, fun _ => mem_advertisers, pairwise_advertisers sightings, ?_,
    fun _ _ => Filter.accepts_iff, fun link => ?_⟩
  · rw [devices_eq, h]
    rfl
  · rw [hselect]
    constructor
    · intro hlink
      split at hlink
      next device hfind =>
        obtain ⟨hmatch, before, after, hsplit, hbefore⟩ :=
          List.find?_eq_some_iff_append.mp hfind
        exact ⟨before, device, after, hsplit, fun other hmem => by
          simpa [shown] using hbefore other hmem, hmatch, (Except.ok.inj hlink).symm⟩
      next => exact absurd hlink (by simp)
    · rintro ⟨before, device, after, hsplit, hbefore, hmatch, rfl⟩
      have hfind : (advertisers sightings).find? filter.selects = some device :=
        List.find?_eq_some_iff_append.mpr ⟨hmatch, before, after, hsplit, fun other hmem => by
          simpa [shown] using hbefore other hmem⟩
      rw [hfind]

theorem ne_aborted_of_fails (h : s.Fails e) : e ≠ .deviceSelectionAborted := by
  cases h <;> simp

/-- **A selection is aborted** when the scan has succeeded and nothing is marked. -/
theorem select_eq_aborted_iff {filter : Filter} :
    s.select filter = .error .deviceSelectionAborted ↔
      ∃ devices, s.devices filter = .ok devices ∧ ∀ device ∈ devices, device.isMatch = false := by
  rw [devices_eq]
  cases h : s.found with
  | error e =>
    have hne := ne_aborted_of_fails (found_eq_error_iff.mp h)
    have hselect : s.select filter = .error e := by rw [select, h]; rfl
    simpa [hselect, Except.map] using hne
  | ok found =>
    rw [select_of_found filter h]
    constructor
    · intro hnone
      split at hnone
      · exact absurd hnone (by simp)
      next hfind =>
        refine ⟨_, rfl, fun device hmem => ?_⟩
        obtain ⟨advertiser, hfound, rfl⟩ := List.mem_map.mp hmem
        exact Bool.eq_false_iff.mpr (List.find?_eq_none.mp hfind advertiser hfound)
    · rintro ⟨devices, hdevices, hall⟩
      obtain rfl := Except.ok.inj hdevices
      have hfind : found.find? filter.selects = none := List.find?_eq_none.mpr fun device hmem =>
        Bool.eq_false_iff.mp (hall _ (List.mem_map_of_mem hmem))
      rw [hfind]

/-- **A scan and a selection agree**, whatever the filter and whatever the platform answers. Either
both fail, for the same reason and with the same error. Or the scan lists everything that has
advertised, and what is selected is the first device that it marks; the selection is aborted
exactly if it marks none. And whenever the scan has started, it is stopped. -/
theorem devices_and_select (s : Survey) (filter : Filter) :
    (∀ e, s.devices filter = .error e ↔ s.Fails e) ∧
    (∀ e, s.Fails e → s.select filter = .error e) ∧
    ((∀ e, ¬s.Fails e) → ∃ sightings found, s.Shows filter sightings found) ∧
    (s.select filter = .error .deviceSelectionAborted ↔
      ∃ devices, s.devices filter = .ok devices ∧ ∀ device ∈ devices, device.isMatch = false) ∧
    (s.Scans → scanSteps s = [(.startScan, true), (.stopScan, s.stop.toBool)]) := by
  refine ⟨fun e => ?_, fun e hfails => ?_, fun hnot => ?_, select_eq_aborted_iff, Scans.steps_eq⟩
  · rw [devices_eq, map_eq_error_iff, found_eq_error_iff]
  · rw [select, found_eq_error_iff.mpr hfails]
    rfl
  · cases h : s.found with
    | error e => exact absurd (found_eq_error_iff.mp h) (hnot e)
    | ok found =>
      obtain ⟨-, -, sightings, hlists, rfl⟩ := found_eq_ok_iff.mp h
      exact ⟨sightings, _, shows_of_found hlists h⟩

/-- A device that keeps silent is left out, but counts for the position of the next. -/
example :
    let s : Survey := ⟨.ok (), .ok 1, .ok (), .ok [⟨"AA", .ok none⟩,
      ⟨"BB", .ok (some ⟨none, [], none⟩)⟩, ⟨"CC", .ok (some ⟨some "Arduino", [], none⟩)⟩], .ok ()⟩
    s.devices (Filter.ofProfile .sensor) =
        .ok [⟨"Unknown", "BB", none, false⟩, ⟨"Arduino", "CC", none, true⟩] ∧
      s.select (Filter.ofProfile .sensor) = .ok ⟨3, some "Arduino"⟩ := by
  decide

end Survey

end CarrierLink
