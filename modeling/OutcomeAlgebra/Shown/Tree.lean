/-! How a value is shown to a programmer: a tree of named constructors, and two
ways to write it, on one line and spread over many. Showing is a function of the
tree alone, so it can run nothing that the shown value holds. -/
namespace OutcomeAlgebra

inductive Shown where
  | atom (text : String)
  | apply (name : String) (fields : List Shown)
  | record (name : String) (fields : List (String × Shown))
  | list (items : List Shown)

namespace Shown

def lastComma (name : String) (fields : List Shown) : String :=
  if name = "" ∧ fields.length = 1 then "," else ""

mutual

def line : Shown → String
  | .atom text => text
  | .apply name [] => name
  | .apply name (field :: fields) =>
    name ++ "(" ++ lineItems (field :: fields) ++ lastComma name (field :: fields) ++ ")"
  | .record name [] => name
  | .record name (field :: fields) =>
    name ++ " \x7b " ++ lineFields (field :: fields) ++ " \x7d"
  | .list items => "[" ++ lineItems items ++ "]"

def lineItems : List Shown → String
  | [] => ""
  | [item] => line item
  | item :: items => line item ++ ", " ++ lineItems items

def lineFields : List (String × Shown) → String
  | [] => ""
  | [(name, item)] => name ++ ": " ++ line item
  | (name, item) :: fields => name ++ ": " ++ line item ++ ", " ++ lineFields fields

end

def indent (level : Nat) : String := String.ofList (List.replicate (4 * level) ' ')

mutual

def block (level : Nat) : Shown → String
  | .atom text => text
  | .apply name [] => name
  | .apply name (field :: fields) =>
    name ++ "(\n" ++ blockItems (level + 1) (field :: fields) ++ indent level ++ ")"
  | .record name [] => name
  | .record name (field :: fields) =>
    name ++ " \x7b\n" ++ blockFields (level + 1) (field :: fields) ++ indent level ++ "\x7d"
  | .list [] => "[]"
  | .list (item :: items) =>
    "[\n" ++ blockItems (level + 1) (item :: items) ++ indent level ++ "]"

def blockItems (level : Nat) : List Shown → String
  | [] => ""
  | item :: items => indent level ++ block level item ++ ",\n" ++ blockItems level items

def blockFields (level : Nat) : List (String × Shown) → String
  | [] => ""
  | (name, item) :: fields =>
    indent level ++ name ++ ": " ++ block level item ++ ",\n" ++ blockFields level fields

end

def write (spread : Bool) (shown : Shown) : String :=
  if spread then shown.block 0 else shown.line

end Shown

end OutcomeAlgebra
