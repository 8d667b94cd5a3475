/-! What a script is written in: literals for values, terms and tests for pure
callbacks, arrows for callbacks that may fail, jobs for computations and
problems for errors. These are data; what they mean is said where they run. -/
namespace OutcomeAlgebra.Script

mutual

inductive Literal where
  | unit
  | bool (value : Bool)
  | int (value : Int64)
  | big (value : Int)
  | double (value : Float)
  | text (value : String)
  | list (items : List Literal)
  | pair (first second : Literal)
  | key (number : Int64) (tag : String)
  | absent
  | present (value : Literal)
  | left (value : Literal)
  | right (value : Literal)
  | ok (value : Literal)
  | no (value : Literal)
  | error (problem : Problem)
  | success (value : Literal)
  | failure (problem : Problem)
  | delayed (job : Job)
  | done (job : Job)
  | function (name : String) (body : Term)

inductive Term where
  | identity
  | argument (index : Nat)
  | constant (value : Literal)
  | add (summand : Int64)
  | mul (factor : Int64)
  | square
  | sum
  | product
  | sub
  | gcd
  | longest
  | list
  | concat
  | paren
  | suffix (text : String)
  | length
  | upper
  | reverse
  | pair
  | first
  | second
  | present
  | left
  | right
  | sequence (terms : List Term)
  | choose (test : Test) (yes no : Term)
  | panic (message : String)

inductive Test where
  | always (answer : Bool)
  | even
  | moreThan (bound : Int64)
  | lessThan (bound : Int64)
  | equal (value : Literal)
  | negate (test : Test)
  | on (term : Term) (test : Test)
  | panic (message : String)

inductive Arrow where
  | pure (term : Term)
  | fail (term : Term)
  | half
  | shift (summand : Int64)
  | reciprocal (numerator : Int64)
  | parse
  | choose (test : Test) (yes no : Arrow)
  | own (term : Term)
  | done (job : Job)
  | delayed (name : String) (arrow : Arrow)
  | panic (message : String)

inductive Job where
  | ok (name : Option String) (value : Literal)
  | error (name : Option String) (problem : Problem)
  | parse (name : Option String) (text : String)
  | panic (name : Option String) (message : String)

inductive Problem where
  | text (message : String)
  | message (message : String)
  | coded (code : Int64) (detail : String)
  | layered (label : String) (source : Problem)
  | captured (problem : Problem)
  | stored (name : String)
  | current
  | wrapped (text : String)

end

structure Word where
  signed : Bool
  bits : Nat
  wide : Bool
  deriving DecidableEq, Repr

inductive Operation where
  | wordSum (word : Word)
  | wordProduct (word : Word)
  | doubleSum
  | doubleProduct
  | bigSum
  | bigProduct
  | all
  | any
  | odd
  | text
  | unit
  | list
  | firstSome
  | lastSome
  | composition
  | greatest
  | least
  | optional (inner : Operation)
  | pointwise (inner : Operation)
  | accumulate (left right : Operation)
  | compose (first second : Operation)
  | function (body : Term)
  | identity (inner : Operation) (empty : Literal)
  | reference (inner : Operation)
  | bare (inner : Operation)

inductive Items where
  | listed (name : String) (items : List Literal)
  | counting (name : String) (start step : Int64)
  | empty
  | append (first second : Items)
  | join (parts : List Items)
  | sum (head : Items) (tail : List Items)

end OutcomeAlgebra.Script
