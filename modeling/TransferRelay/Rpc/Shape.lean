import TransferRelay.Json.Embedded
import TransferRelay.Json.Text

/-!
# Shapes of parameters

A `Shape` names the fields of a method's parameters. `Shape.read` takes them from an object, by
name, or from an array, in the order of the shape.

* In an object the members are judged in their own order, then the fields in the order of the
  shape; members that are no fields are passed over.
* An optional field may be absent or null.
-/

namespace TransferRelay.Rpc

/-- What a field holds. -/
inductive FieldType
  | text
  | texts
  | optionalText
  | anything
deriving DecidableEq, Repr

/-- The values of a field. -/
def FieldType.Value : FieldType → Type
  | .text => String
  | .texts => List String
  | .optionalText => Option String
  | .anything => Json

/-- A field of a shape. -/
structure Field where
  name : String
  type : FieldType
deriving DecidableEq, Repr

/-- The values of fields. -/
def Record : List Field → Type
  | [] => Unit
  | f :: fs => f.type.Value × Record fs

/-- The parameters of a method. -/
structure Shape where
  name : String
  fields : List Field
deriving DecidableEq, Repr

/-- The type that is wanted. -/
inductive Expected
  | text
  | sequence
  | record (name : String)
  | embedded
deriving DecidableEq, Repr

/-- Why parameters do not have a shape. -/
inductive ShapeFault
  /-- A value has the wrong type. -/
  | wrongType (found : Json.Found) (expected : Expected)
  /-- An object lacks a field. -/
  | missingField (name : String)
  /-- An array is too short. -/
  | tooShort (count : Nat) (name : String) (wanted : Nat)
  /-- An array is too long. -/
  | tooLong (count : Nat)
  /-- An object that holds a value as text has other members. -/
  | otherMembers (count : Nat)
  /-- A value held as text is no JSON. -/
  | badEmbedded (fault : Json.Fault)
deriving DecidableEq

/-- The wording for a type. -/
def Expected.wording : Expected → String
  | .text => "a string"
  | .sequence => "a sequence"
  | .record name => "struct " ++ name
  | .embedded => "raw value"

/-- The wording of a fault. -/
def ShapeFault.message : ShapeFault → String
  | .wrongType found expected =>
    "invalid type: " ++ found.wording ++ ", expected " ++ expected.wording
  | .missingField name => "missing field " ++ Json.Found.marked name
  | .tooShort count name wanted =>
    "invalid length " ++ toString count ++ ", expected struct " ++ name ++ " with " ++
      toString wanted ++ (if wanted = 1 then " element" else " elements")
  | .tooLong count => "invalid length " ++ toString count ++ ", expected fewer elements in array"
  | .otherMembers count =>
    "invalid length " ++ toString count ++ ", expected fewer elements in map"
  | .badEmbedded fault => fault.message

/-- The fault of a value that cannot be read once more. -/
def ShapeFault.ofEmbedding : Json.EmbeddingFault → ShapeFault
  | .notText value => .wrongType (.ofJson value) .embedded
  | .unreadable fault => .badEmbedded fault
  | .otherMembers count => .otherMembers count

namespace FieldType

/-- Reads a text. -/
def readText : Json → Except ShapeFault String
  | .str s => .ok s
  | j => .error (.wrongType (.ofJson j) .text)

/-- Reads texts in order. -/
def readTexts : List Json → Except ShapeFault (List String)
  | [] => .ok []
  | j :: rest =>
    match readText j with
    | .error e => .error e
    | .ok s => (readTexts rest).map (s :: ·)

/-- Reads the value of a field. -/
def read : (t : FieldType) → Json → Except ShapeFault t.Value
  | .text, j => readText j
  | .texts, .arr items => readTexts items
  | .texts, j => .error (.wrongType (.ofJson j) .sequence)
  | .optionalText, .null => .ok none
  | .optionalText, j => (readText j).map some
  | .anything, j => j.reread.mapError .ofEmbedding

/-- The value of a field that is absent, if it may be. -/
def absent? : (t : FieldType) → Option t.Value
  | .optionalText => some none
  | _ => none

end FieldType

namespace Shape

/-- Reads the fields from the items of an array; `position` is the number of items before. -/
def readItems (shape : Shape) (position : Nat) :
    (fields : List Field) → List Json → Except ShapeFault (Record fields)
  | [], [] => .ok ()
  | [], rest => .error (.tooLong (position + rest.length))
  | f :: fs, [] =>
    match f.type.absent? with
    | none => .error (.tooShort position shape.name shape.fields.length)
    | some v => (shape.readItems (position + 1) fs []).map (v, ·)
  | f :: fs, j :: rest =>
    match f.type.read j with
    | .error e => .error e
    | .ok v => (shape.readItems (position + 1) fs rest).map (v, ·)

/-- Judges the members of an object that are fields. -/
def checkMembers (fields : List Field) : List (String × Json) → Except ShapeFault Unit
  | [] => .ok ()
  | (name, j) :: rest =>
    match fields.find? fun f => f.name == name with
    | none => checkMembers fields rest
    | some f =>
      match f.type.read j with
      | .error e => .error e
      | .ok _ => checkMembers fields rest

/-- Reads the fields from the members of an object. -/
def readMembers (members : List (String × Json)) :
    (fields : List Field) → Except ShapeFault (Record fields)
  | [] => .ok ()
  | f :: fs =>
    let value :=
      match Json.Members.get? f.name members with
      | some j => f.type.read j
      | none =>
        match f.type.absent? with
        | some v => .ok v
        | none => .error (.missingField f.name)
    match value with
    | .error e => .error e
    | .ok v => (readMembers members fs).map (v, ·)

/-- Reads parameters. -/
def read (shape : Shape) : Json → Except ShapeFault (Record shape.fields)
  | .obj members =>
    match checkMembers shape.fields members with
    | .error e => .error e
    | .ok () => readMembers members shape.fields
  | .arr items => shape.readItems 0 shape.fields items
  | j => .error (.wrongType (.ofJson j) (.record shape.name))

end Shape

end TransferRelay.Rpc
