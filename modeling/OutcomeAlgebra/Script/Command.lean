import OutcomeAlgebra.Script.Spec
/-! The steps of a script. A step takes values out of registers, or looks at them
where they are, and may put its result into a register. -/
namespace OutcomeAlgebra.Script

inductive Operand where
  | register (name : String)
  | fresh (literal : Literal)

inductive Making where
  | value (literal : Literal)
  | success (literal : Literal)
  | failure (problem : Problem)
  | done (job : Job)
  | delayed (job : Job)
  | pureTry (literal : Literal)
  | pureEither (literal : Literal)
  | pureOption (literal : Literal)

inductive OptionUse where
  | fold (onNone onSome : Term)
  | get
  | getOrElse (supplier : Term)
  | toEither (supplier : Term)

inductive EitherUse where
  | left
  | right
  | get
  | getOrElse (supplier : Term)
  | map (f : Term)
  | mapLeft (f : Term)
  | mapRight (f : Term)
  | bimap (onLeft onRight : Term)
  | fold (onLeft onRight : Term)
  | flatMap (k : Arrow)
  | filter (p : Test) (supplier : Term)
  | swap
  | unwrapLeft
  | unwrapRight
  | toOptions
  | joinLeft
  | flatten
  | leftOrDefault
  | rightOrDefault
  | toResult
  | items

inductive TryUse where
  | toResult
  | get
  | getOrElse (supplier : Term)
  | map (f : Term)
  | flatMap (k : Arrow)
  | filter (p : Test) (e : Problem)
  | fold (failure success : Term)
  | recover (f : Term)
  | recoverWith (k : Arrow)
  | mapFailure (e : Problem)
  | toOption
  | toEither
  | items
  | flatten

inductive OutcomeUse where
  | map (f : Term)
  | replace (literal : Literal)
  | void
  | flatMap (k : Arrow)
  | andThen (k : Arrow)

inductive PairUse where
  | map2 (f : Term)
  | product
  | followedBy

inductive ErrorUse where
  | rewrap
  | derive (e : Problem)

inductive Kind where
  | either
  | attempt

inductive Use where
  | ofResult (kind : Kind)
  | option (use : OptionUse)
  | either (use : EitherUse)
  | attempt (use : TryUse)
  | outcome (use : OutcomeUse)
  | error (use : ErrorUse)

inductive EitherLook where
  | isLeft
  | isRight
  | left
  | right
  | itself
  | items

inductive TryLook where
  | isSuccess
  | isFailure
  | isEvaluated
  | result
  | items

inductive ErrorKind where
  | coded
  | layered
  | integer
  | captured

inductive ErrorLook where
  | message
  | shown
  | sources
  | heldAs (kind : ErrorKind)

inductive Look where
  | written
  | shown (spread : Bool)
  | either (look : EitherLook)
  | attempt (look : TryLook)
  | error (look : ErrorLook)

inductive ChainUse where
  | next (k : Arrow)
  | nextWith (k : Arrow)
  | filterOr (p : Test) (literal : Option Literal) (problem : Option Problem)
  | filter (p : Test)

inductive Command where
  | make (making : Making) (target : Option String)
  | use (use : Use) (operand : Operand) (target : Option String)
  | pair (use : PairUse) (first second : Operand) (target : Option String)
  | look (look : Look) (register : String)
  | copy (register target : String)
  | equal (first second : String)
  | compare (first second : String)
  | failure (register target : String)
  | sequence (kind : Kind) (operands : List Operand) (target : Option String)
  | begin (operand : Operand) (target : String)
  | chain (use : ChainUse) (chain target : String)
  | copyChain (chain target : String)
  | chainSuccessful (chain : String)
  | chainShown (spread : Bool) (chain : String)
  | yields (f : Term) (chain target : String)
  | chainResult (chain target : String)

inductive Combination where
  | append (first second : Literal)
  | appendN (value : Literal) (count : Nat)
  | sumNonEmpty (head : Literal) (tail : List Literal)
  | empty
  | join (values : List Literal)
  | multiply (value : Literal) (count : Nat)
  | intersperse (values : List Literal) (separator : Literal)

inductive Document where
  | plain
  | nested

inductive Conversion where
  | read (text : String) (document : Document) (many : Bool)
  | write (literal : Literal) (document : Document)

inductive Program where
  | steps (commands : List Command)
  | combine (operation : Operation) (combinations : List Combination)
  | iterate (items : Items) (takes : List Nat)
  | convert (conversions : List Conversion)

structure Request where
  trace : Bool
  inputs : List Literal
  program : Program

end OutcomeAlgebra.Script
