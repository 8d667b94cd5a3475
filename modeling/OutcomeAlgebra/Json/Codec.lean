import OutcomeAlgebra.Either.Basic
import OutcomeAlgebra.Json.Tree
/-! Types with a JSON form. An either is an object with one member, whose name says
the side; so the two sides stay apart even where their payloads look alike. -/
namespace OutcomeAlgebra

structure Codec (α : Type) where
  encode : α → Json
  decode : Json → Option α

namespace Codec

variable {α L R : Type}

def bool : Codec Bool where
  encode := .bool
  decode
    | .bool value => some value
    | _ => none

def text : Codec String where
  encode := .text
  decode
    | .text value => some value
    | _ => none

def word : Codec Int64 where
  encode value := .integer value.toInt
  decode
    | .integer value =>
      if Int64.minValue.toInt ≤ value ∧ value ≤ Int64.maxValue.toInt then
        some (Int64.ofInt value)
      else none
    | _ => none

def nullable (inner : Codec α) : Codec (Option α) where
  encode
    | none => .null
    | some value => inner.encode value
  decode
    | .null => some none
    | json => some <$> inner.decode json

def list (inner : Codec α) : Codec (List α) where
  encode values := .array (values.map inner.encode)
  decode
    | .array items => items.mapM inner.decode
    | _ => none

def either (left : Codec L) (right : Codec R) : Codec (Either L R) where
  encode
    | .left value => .tagged "Left" (left.encode value)
    | .right value => .tagged "Right" (right.encode value)
  decode
    | .object [("Left", json)] => Either.left <$> left.decode json
    | .object [("Right", json)] => Either.right <$> right.decode json
    | _ => none

end Codec

end OutcomeAlgebra
