import CallGate.Identity

/-! A table with one entry for each connection, in the order in which they were first entered. -/

namespace CallGate

/-- A table keyed by connections. -/
structure Connections (α : Type) where
  entries : List (ConnectionId × α)
  deriving Repr, DecidableEq

namespace Connections

variable {α : Type}

/-- The table without entries. -/
def empty : Connections α := ⟨[]⟩

/-- The table without entries stands for any other. -/
instance : Inhabited (Connections α) := ⟨empty⟩

/-- How many entries there are. -/
def size (table : Connections α) : Nat := table.entries.length

/-- The connections that have an entry. -/
def keys (table : Connections α) : List ConnectionId := table.entries.map (·.1)

/-- The entry of a connection among pairs. -/
def find (id : ConnectionId) : List (ConnectionId × α) → Option α
  | [] => none
  | (key, value) :: rest => if key = id then some value else find id rest

/-- The entry of a connection. -/
def get? (table : Connections α) (id : ConnectionId) : Option α := find id table.entries

/-- The connection has an entry. -/
def contains (table : Connections α) (id : ConnectionId) : Bool := (table.get? id).isSome

/-- Replaces the entry of a connection among pairs, or adds one at the end. -/
def put (id : ConnectionId) (value : α) : List (ConnectionId × α) → List (ConnectionId × α)
  | [] => [(id, value)]
  | (key, old) :: rest => if key = id then (key, value) :: rest else (key, old) :: put id value rest

/-- Replaces the entry of a connection, or adds one at the end. -/
def insert (table : Connections α) (id : ConnectionId) (value : α) : Connections α :=
  ⟨put id value table.entries⟩

/-- Removes the entry of a connection. -/
def erase (table : Connections α) (id : ConnectionId) : Connections α :=
  ⟨table.entries.filter fun entry => entry.1 ≠ id⟩

/-- Nothing is found in the table without entries. -/
@[simp] theorem get?_empty (id : ConnectionId) : (empty : Connections α).get? id = none := rfl

/-- An entry put among pairs is found there, and the others are found as before. -/
private theorem find_put (id other : ConnectionId) (value : α)
    (entries : List (ConnectionId × α)) :
    find other (put id value entries) = if id = other then some value else find other entries := by
  induction entries with
  | nil => simp [put, find]
  | cons entry rest ih =>
    -- Putting changes the first entry of its connection and no other.
    obtain ⟨key, old⟩ := entry
    by_cases here : key = id
    · subst here
      by_cases same : key = other <;> simp [put, find, same]
    · by_cases same : key = other
      · subst same
        simp [put, find, here, Ne.symm here]
      · simp [put, find, here, same, ih]

/-- An entry put in is found, and all others are as before. -/
theorem get?_insert (table : Connections α) (id other : ConnectionId) (value : α) :
    (table.insert id value).get? other = if id = other then some value else table.get? other :=
  find_put id other value table.entries

/-- An entry taken out from among pairs is not found there, and the others are found as before. -/
private theorem find_filter (id other : ConnectionId) (entries : List (ConnectionId × α)) :
    find other (entries.filter fun entry => entry.1 ≠ id) =
      if id = other then none else find other entries := by
  induction entries with
  | nil => simp [find]
  | cons entry rest ih =>
    -- The first entry is taken out or stays, and it is the one looked for or not.
    obtain ⟨key, old⟩ := entry
    by_cases here : key = id
    · subst here
      by_cases same : key = other
      · subst same
        simpa [find] using ih
      · simpa [find, same] using ih
    · by_cases same : key = other
      · subst same
        simp [find, here, Ne.symm here]
      · simpa [find, here, same] using ih

/-- An entry that was removed is gone, and all others are as before. -/
theorem get?_erase (table : Connections α) (id other : ConnectionId) :
    (table.erase id).get? other = if id = other then none else table.get? other :=
  find_filter id other table.entries

end Connections

end CallGate
