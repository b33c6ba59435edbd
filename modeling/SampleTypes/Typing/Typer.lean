import SampleTypes.Sample.Contents

/-!
# Typers

The steps of inference open one container and leave the values in it to a typer.  A typer is told which
containers are open around a value and the depth at which its type is laid out.
-/

namespace SampleTypes

abbrev Typed (α : Type) := Except Fault α

/-- How values inside open containers are typed. -/
structure Typer where
  /-- The type of a value by itself. -/
  infer : (opened : List Address) → (depth : Int) → Value → Typed TypeExpr
  /-- The type that a value contributes to a merged object: objects are merged even by themselves. -/
  contribute : (opened : List Address) → (depth : Int) → Value → Typed TypeExpr

namespace Typer

/-- The typer that may open no container and types nothing. -/
def exhausted : Typer where
  infer _ _ _ := .error .budgetSpent
  contribute _ _ _ := .error .budgetSpent

end Typer

/-- The open containers when a value is open as well. -/
def Value.open (value : Value) (opened : List Address) : List Address :=
  match value with
  | .leaf _ => opened
  | .container address => address :: opened

def Value.isOpen (value : Value) (opened : List Address) : Bool :=
  match value with
  | .leaf _ => false
  | .container address => opened.contains address

end SampleTypes
