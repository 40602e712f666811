/-! Tables from names to values, kept in the order of the names with one entry each. -/
namespace HostProbe

abbrev Table (α : Type) := List (String × α)

namespace Table

variable {α : Type}

def insert (name : String) (value : α) : Table α → Table α
  | [] => [(name, value)]
  | (k, v) :: rest =>
    if name = k then (name, value) :: rest
    else if name < k then (name, value) :: (k, v) :: rest
    else (k, v) :: insert name value rest

def get? (table : Table α) (name : String) : Option α := (table.find? fun e => e.1 == name).map (·.2)

def contains (table : Table α) (name : String) : Bool := (table.get? name).isSome

/-- Table of the pairs; the last value of a name counts. -/
def ofList (pairs : List (String × α)) : Table α := pairs.foldl (fun t (k, v) => t.insert k v) []

def update (table : Table α) (name : String) (change : Option α → α) : Table α :=
  table.insert name (change (table.get? name))

def insertNew (table : Table α) (name : String) (value : α) : Table α :=
  if table.contains name then table else table.insert name value

@[simp] theorem get?_nil (name : String) : Table.get? ([] : Table α) name = none := rfl

end Table
end HostProbe
