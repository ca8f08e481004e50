import CarrierLink.Profile

/-!
# Which device to take

Devices advertise a name, an address and services. A filter says which advertisement is
that of a board: with a target, the one whose name or address contains the target;
without, one that advertises a wanted service, bears an exact name, or a name with a
wanted beginning.
-/

namespace CarrierLink

/-! ### Parts of a text -/

/-- Whether `part` stands somewhere in `s`. -/
def Text.occursIn (part : List Char) : List Char → Bool
  | [] => part.isEmpty
  | c :: rest => part.isPrefixOf (c :: rest) || occursIn part rest

/-- Whether `s` contains `part`. -/
def Text.contains (s part : String) : Bool := occursIn part.toList s.toList

/-- Whether `s` starts with `start`. -/
def Text.startsWith (s start : String) : Bool := start.toList.isPrefixOf s.toList

/-! ### Filters -/

/-- Which advertisements are acceptable. -/
structure Filter where
  /-- Any of these advertised services selects a device. -/
  services : List Uuid
  /-- Exact names that select a device. -/
  names : List String
  /-- Beginnings of names that select a device. -/
  namePrefixes : List String
  /-- Services that will be used once connected. -/
  optionalServices : List Uuid
  /-- A part of the name or the address; when given, it alone decides. -/
  target : Option String

namespace Filter

/-- The filter that finds the boards of a profile. -/
def ofProfile (profile : Profile) : Filter where
  services := [profile.service]
  names := profile.names
  namePrefixes := profile.namePrefixes
  optionalServices := profile.services
  target := none

/-- The filter with another target, or without one. -/
def aimedAt (filter : Filter) (target : Option String) : Filter := { filter with target }

/-- **Whether an advertisement is acceptable.** -/
def accepts (filter : Filter) (name : Option String) (address : String)
    (advertised : List Uuid) : Bool :=
  match filter.target with
  | some target =>
    name.any (Text.contains · target) || Text.contains address target
  | none =>
    advertised.any (filter.services.contains ·) ||
      name.any fun n =>
        filter.names.contains n || filter.namePrefixes.any (Text.startsWith n ·)

end Filter

end CarrierLink
