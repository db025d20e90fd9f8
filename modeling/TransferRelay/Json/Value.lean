import TransferRelay.Json.Number

/-!
# Values of JSON

The members of an object stand in the order of their names, each name once: `Members.insert` keeps
that order, and the last value given to a name wins.
-/

namespace TransferRelay

/-- A value of JSON. -/
inductive Json
  | null
  | bool (value : Bool)
  | num (value : Json.Number)
  | str (value : String)
  | arr (items : List Json)
  | obj (members : List (String × Json))

namespace Json

instance : Inhabited Json := ⟨.null⟩

/-- The members of an object with one name set to a value. -/
def Members.insert (name : String) (value : Json) : List (String × Json) → List (String × Json)
  | [] => [(name, value)]
  | (other, old) :: rest =>
    if name < other then (name, value) :: (other, old) :: rest
    else if name = other then (name, value) :: rest
    else (other, old) :: Members.insert name value rest

/-- An object with the given members. -/
def object (members : List (String × Json)) : Json :=
  .obj (members.foldl (fun ms m => Members.insert m.1 m.2 ms) [])

/-- The value that members give to a name. -/
def Members.get? (name : String) (members : List (String × Json)) : Option Json :=
  members.lookup name

/-- The member of an object. A value of another kind has none. -/
def get? (name : String) : Json → Option Json
  | .obj members => Members.get? name members
  | _ => none

/-- Whether a value is null. -/
def isNull : Json → Bool
  | .null => true
  | _ => false

/-- The text that a value is. -/
def str? : Json → Option String
  | .str s => some s
  | _ => none

/-- A natural number as a value; a number beyond 64 bits is written as its digits. -/
def ofNat (n : Nat) : Json :=
  match Number.ofNat? n with
  | some number => .num number
  | none => .str (toString n)

/-- An optional text as a value. -/
def ofText? : Option String → Json
  | some s => .str s
  | none => .null

end Json

end TransferRelay
