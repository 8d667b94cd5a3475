import OutcomeAlgebra.Json.Codec
import OutcomeAlgebra.Json.Read
import OutcomeAlgebra.Script.Callback
import OutcomeAlgebra.Script.Command
/-! The JSON forms of scripts: two types of eithers, and lists of them. Each type is
known by how it is read, how it is written, and how values hold it. -/
namespace OutcomeAlgebra.Script

structure Form (α : Type) where
  scan : Json.Scan α
  codec : Codec α
  seen : Value → Option α
  value : α → Value

namespace Form

variable {α L R : Type}

def text : Form String := ⟨Json.readText, .text, Value.text?, .text⟩

def word : Form Int64 := ⟨Json.readWord, .word, Value.int?, .int⟩

def bool : Form Bool := ⟨Json.readBool, .bool, Value.bool?, .bool⟩

def nullable (inner : Form α) : Form (Option α) where
  scan := Json.readNullable inner.scan
  codec := .nullable inner.codec
  seen value := do
    match ← value.option? with
    | none => some none
    | some held => some <$> inner.seen held
  value option := Value.ofOption (option.map inner.value)

def list (inner : Form α) : Form (List α) where
  scan := Json.readList inner.scan
  codec := .list inner.codec
  seen value := do
    let items ← value.list?
    items.mapM inner.seen
  value items := .list (items.map inner.value)

def either (left : Form L) (right : Form R) : Form (Either L R) where
  scan := Json.readEither left.scan right.scan
  codec := .either left.codec right.codec
  seen value := do
    match ← value.either? with
    | .left held => Either.left <$> left.seen held
    | .right held => Either.right <$> right.seen held
  value
    | .left held => .left (left.value held)
    | .right held => .right (right.value held)

def plain : Form (Either String Int64) := either text word

def nested : Form (Either (List (Option Int64)) (Either String Bool)) :=
  either (list (nullable word)) (either text bool)

def read (form : Form α) (document : String) : Except Json.Fault Value :=
  form.value <$> Json.readDocument form.scan document

def readMany (form : Form α) (document : String) (many : Bool) : Except Json.Fault Value :=
  if many then form.list.read document else form.read document

def writeText (form : Form α) (value : Value) : Option String := do
  let held ← form.seen value
  some (form.codec.encode held).compact

end Form

def Document.read (text : String) (many : Bool) : Document → Except Json.Fault Value
  | .plain => Form.plain.readMany text many
  | .nested => Form.nested.readMany text many

def Document.write (value : Value) : Document → Option String
  | .plain => Form.plain.writeText value
  | .nested => Form.nested.writeText value

end OutcomeAlgebra.Script
