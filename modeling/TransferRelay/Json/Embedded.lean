import TransferRelay.Json.Reader

/-!
# Values held as text

A value that is passed on is read once more. Its objects then stand in the order of their names, so
the name that announces a value held as text may have become the first of an object that had other
members before it. `Json.reread` resolves such objects, and says why one cannot be.
-/

namespace TransferRelay.Json

/-- Why an object does not hold a value as text, although its first name announces one. -/
inductive EmbeddingFault
  /-- What the name announces is not text. -/
  | notText (value : Json)
  /-- The text is no JSON. -/
  | unreadable (fault : Fault)
  /-- There are other members. -/
  | otherMembers (count : Nat)

/-- The value held by an object whose first name announces it, with the number of its members. -/
def resolveEmbedded (count : Nat) : Json → Except EmbeddingFault Json
  | .str s =>
    match read s with
    | .ok value => if count = 1 then .ok value else .error (.otherMembers count)
    | .error fault => .error (.unreadable fault)
  | value => .error (.notText value)

mutual

/-- Reads a value once more. -/
def reread : Json → Except EmbeddingFault Json
  | .arr items => (rereadItems items).map .arr
  | .obj [] => .ok (.obj [])
  | .obj ((name, value) :: rest) =>
    if name = embeddedName then resolveEmbedded (rest.length + 1) value
    else (rereadMembers ((name, value) :: rest)).map .obj
  | value => .ok value

/-- Reads items once more. -/
def rereadItems : List Json → Except EmbeddingFault (List Json)
  | [] => .ok []
  | item :: rest =>
    match reread item with
    | .error e => .error e
    | .ok item => (rereadItems rest).map (item :: ·)

/-- Reads members once more. -/
def rereadMembers : List (String × Json) → Except EmbeddingFault (List (String × Json))
  | [] => .ok []
  | (name, value) :: rest =>
    match reread value with
    | .error e => .error e
    | .ok value => (rereadMembers rest).map ((name, value) :: ·)

end

theorem reread_str (s : String) : reread (.str s) = .ok (.str s) := by
  simp [reread]

theorem reread_num (n : Number) : reread (.num n) = .ok (.num n) := by
  simp [reread]

theorem reread_embedded {s : String} {value : Json} (h : read s = .ok value) :
    reread (.obj [(embeddedName, .str s)]) = .ok value := by
  simp [reread, resolveEmbedded, h]

end TransferRelay.Json
