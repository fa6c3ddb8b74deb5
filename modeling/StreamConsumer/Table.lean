/-!
# Tables

A finite map as a list of keys with their values, kept in the order of the keys.  All that is asked of it is
`find?_insert`: an insertion changes the value of its own key and of no other.
-/

namespace StreamConsumer

structure Table (κ α : Type) where
  entries : List (κ × α)

namespace Table

variable {κ α : Type} [DecidableEq κ]

def empty : Table κ α := ⟨[]⟩

/-- The value of the first entry with this key. -/
def lookup (key : κ) : List (κ × α) → Option α
  | [] => none
  | (k, a) :: rest => if k = key then some a else lookup key rest

def find? (t : Table κ α) (key : κ) : Option α := lookup key t.entries

@[simp] theorem find?_empty (key : κ) : (empty : Table κ α).find? key = none := rfl

/-- The keys that have a value with this property, in order. -/
def keysWhere (t : Table κ α) (p : α → Bool) : List κ := (t.entries.filter fun e => p e.2).map Prod.fst

/-! ### Insertion -/

variable [LT κ] [DecidableLT κ]

/-- The entries with this value at the place of its key. -/
def place (key : κ) (value : α) : List (κ × α) → List (κ × α)
  | [] => [(key, value)]
  | (k, a) :: rest =>
    if k = key then (key, value) :: rest
    else if key < k then (key, value) :: (k, a) :: rest
    else (k, a) :: place key value rest

def insert (t : Table κ α) (key : κ) (value : α) : Table κ α := ⟨place key value t.entries⟩

theorem lookup_place (key key' : κ) (value : α) (entries : List (κ × α)) :
    lookup key' (place key value entries) = if key' = key then some value else lookup key' entries := by
  induction entries with
  | nil => simp [place, lookup, eq_comm]
  | cons e rest ih =>
    obtain ⟨k, a⟩ := e
    by_cases hk : k = key
    · subst hk
      by_cases h : key' = k
      · simp [place, lookup, h]
      · simp [place, lookup, h, Ne.symm h]
    · by_cases hl : key < k
      · simp [place, lookup, hk, hl, eq_comm]
      · by_cases h : k = key'
        · subst h
          simp [place, lookup, hk, hl]
        · simp [place, lookup, hk, hl, h, ih]

@[simp] theorem find?_insert (t : Table κ α) (key key' : κ) (value : α) :
    (t.insert key value).find? key' = if key' = key then some value else t.find? key' :=
  lookup_place key key' value t.entries

end Table

end StreamConsumer
