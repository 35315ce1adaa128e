/-!
Finite maps from strings, held as association lists in ascending order of
their keys. The order is by code point, which is also the byte order of UTF-8.
`Sorted` states the invariant; `ofList` establishes it, a later value for a key
replacing an earlier one, and the other operations keep it.
-/

namespace MessageContract

abbrev Fields (α : Type) := List (String × α)

namespace Fields

variable {α β : Type}

def get? (key : String) : Fields α → Option α
  | [] => none
  | (k, v) :: rest => if k == key then some v else get? key rest

def has (key : String) (fields : Fields α) : Bool :=
  (get? key fields).isSome

/-- Puts a value at its key's place, in the stead of an earlier one. -/
def insert (key : String) (value : α) : Fields α → Fields α
  | [] => [(key, value)]
  | (k, v) :: rest =>
      if key < k then (key, value) :: (k, v) :: rest
      else if k == key then (key, value) :: rest
      else (k, v) :: insert key value rest

def insert? (key : String) : Option α → Fields α → Fields α
  | none, fields => fields
  | some value, fields => insert key value fields

def erase (key : String) (fields : Fields α) : Fields α :=
  fields.filter fun field => field.1 != key

/-- Adds every entry of the second map to the first. -/
def overlay (base added : Fields α) : Fields α :=
  added.foldl (fun fields field => insert field.1 field.2 fields) base

/-- The map of a list of entries, of which the last one for a key counts. -/
def ofList (entries : List (String × α)) : Fields α :=
  overlay [] entries

def mapValues (f : α → β) (fields : Fields α) : Fields β :=
  fields.map fun field => (field.1, f field.2)

/-- Strictly ascending keys. -/
def Sorted (fields : Fields α) : Prop :=
  fields.Pairwise fun a b => a.1 < b.1

def sameWith (same : α → α → Bool) : Fields α → Fields α → Bool
  | [], [] => true
  | (k, v) :: rest, (l, w) :: others => k == l && same v w && sameWith same rest others
  | _, _ => false

end Fields

end MessageContract
