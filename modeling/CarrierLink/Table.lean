/-!
# Tables

A table gives each key at most one value; putting a value under a key replaces the value
that was there. It is kept as the list of its pairs, so that it can be counted and
listed, and `CarrierLink.Table.get?_insert` says all there is to know about look-up.
-/

namespace CarrierLink

/-- Pairs of a key and a value, no key twice. -/
structure Table (κ : Type) (ν : Type) where
  entries : List (κ × ν)
  nodup : (entries.map Prod.fst).Nodup := by simp
  deriving Repr

namespace Table

variable {κ ν : Type} [DecidableEq κ]

/-- The table without any key. -/
def empty : Table κ ν where
  entries := []

instance : Inhabited (Table κ ν) := ⟨empty⟩

/-- The value under a key. -/
def get? (t : Table κ ν) (key : κ) : Option ν :=
  (t.entries.find? fun entry => entry.1 == key).map Prod.snd

/-- The table without a key. -/
def erase (t : Table κ ν) (key : κ) : Table κ ν where
  entries := t.entries.filter fun entry => entry.1 != key
  nodup := t.nodup.sublist (List.filter_sublist.map Prod.fst)

/-- The table with `value` under `key`. -/
def insert (t : Table κ ν) (key : κ) (value : ν) : Table κ ν where
  entries := (t.erase key).entries ++ [(key, value)]
  nodup := by
    have h := (t.erase key).nodup
    simp only [List.map_append, List.map_cons, List.map_nil, List.nodup_append]
    refine ⟨h, by simp, ?_⟩
    simp only [erase, List.mem_map, List.mem_filter, List.mem_singleton]
    rintro _ ⟨entry, ⟨-, hne⟩, rfl⟩ _ rfl
    simpa using hne

/-- The table of a list of pairs, a later pair replacing an earlier one of its key. -/
def ofList (entries : List (κ × ν)) : Table κ ν :=
  entries.foldl (fun t entry => t.insert entry.1 entry.2) empty

/-- How many keys there are. -/
def size (t : Table κ ν) : Nat := t.entries.length

/-- Whether there are no keys. -/
def isEmpty (t : Table κ ν) : Bool := t.entries.isEmpty

/-- The values, in the order in which their keys were last put in. -/
def values (t : Table κ ν) : List ν := t.entries.map Prod.snd

omit [DecidableEq κ] in
@[simp] theorem get?_empty [DecidableEq κ] (key : κ) :
    (empty : Table κ ν).get? key = none := rfl

theorem get?_erase (t : Table κ ν) (key key' : κ) :
    (t.erase key).get? key' = if key' = key then none else t.get? key' := by
  simp only [get?, erase]
  induction t.entries with
  | nil => simp
  | cons entry rest ih => grind

/-- **Look-up after an insertion**: the new value under its key, and the old answer under
every other key. -/
theorem get?_insert (t : Table κ ν) (key key' : κ) (value : ν) :
    (t.insert key value).get? key' = if key' = key then some value else t.get? key' := by
  have h := get?_erase t key key'
  simp only [get?, insert, List.find?_append] at h ⊢
  grind

end Table

end CarrierLink
