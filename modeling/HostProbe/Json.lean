/-! Structured values that answers are written as: objects keep their members in order. -/
namespace HostProbe

inductive Json
  | null
  | bool (b : Bool)
  | int (n : Int)
  | real (x : Float)
  | text (s : String)
  | list (items : List Json)
  | object (members : List (String × Json))
  deriving Inhabited

namespace Json

structure Member where
  name : String
  value? : Option Json

def Member.field (name : String) (value : Json) : Member := ⟨name, some value⟩

def Member.field? {α : Type} (name : String) (write : α → Json) (value : Option α) : Member :=
  ⟨name, value.map write⟩

def record (members : List Member) : Json :=
  .object (members.filterMap fun m => m.value?.map fun v => (m.name, v))

def nat (n : Nat) : Json := .int n

def option {α : Type} (write : α → Json) : Option α → Json
  | none => .null
  | some a => write a

def listOf {α : Type} (write : α → Json) (values : List α) : Json := .list (values.map write)

def table {α : Type} (write : α → Json) (entries : List (String × α)) : Json :=
  .object (entries.map fun (k, v) => (k, write v))

def get? (j : Json) (name : String) : Option Json :=
  match j with
  | .object members => (members.find? fun m => m.1 == name).map (·.2)
  | _ => none

end Json
end HostProbe
