import SampleTypes.Sample.Graph
import SampleTypes.TextIndex

/-!
# Sameness of keys and elements

Which values coincide as keys of a mapping or elements of a set.  Leaves and immutable collections are
compared by content, all other containers by identity.  Of coinciding keys the first keeps its place and the
last value counts; of coinciding elements the first one stays.
-/

namespace SampleTypes

/-- Whether two lists have the same length and pairwise related items. -/
def relatedPairwise {α : Type} (related : α → α → Bool) : List α → List α → Bool
  | [], [] => true
  | left :: lefts, right :: rights => related left right && relatedPairwise related lefts rights
  | _, _ => false

namespace Node

/-- Whether two containers at different addresses have the same content, given sameness of values. -/
def sameContent (same : Value → Value → Bool) : Node → Node → Bool
  | .sequence leftKind left, .sequence rightKind right =>
    match leftKind, rightKind with
    | .tuple, .tuple | .tuple, .labelled _ | .labelled _, .tuple | .labelled _, .labelled _ =>
        relatedPairwise same left right
    | _, _ => false
  | .range left, .range right => left.same right
  | .set .frozen left, .set .frozen right =>
      left.length == right.length && left.all fun element => right.any (same element)
  | _, _ => false

end Node

namespace Graph

/-- The byte string that a value is or is a view of. -/
def bytes? (graph : Graph) (value : Value) : Option (List UInt8) :=
  match value with
  | .leaf (.bytes content) => some content
  | value =>
    match graph.nodeOf? value with
    | some (.view content) => some content
    | _ => none

/-- Sameness of values, looking into containers at most `budget` levels deep. -/
def sameWithin (graph : Graph) : Nat → Value → Value → Bool
  | budget, left, right =>
    match graph.bytes? left, graph.bytes? right with
    | some left, some right => left == right
    | some _, none | none, some _ => false
    | none, none =>
      match left, right with
      | .leaf left, .leaf right => left.same right
      | .container left, .container right =>
          left == right ||
            match budget, graph.node? left, graph.node? right with
            | budget + 1, some left, some right => left.sameContent (graph.sameWithin budget) right
            | _, _, _ => false
      | _, _ => false

def same (graph : Graph) (left right : Value) : Bool :=
  graph.sameWithin (graph.nodes.size + 1) left right

/-- Sets the value of a key in a list of entries: in the place of a coinciding key, or else at the end. -/
def assign (graph : Graph) (key value : Value) : List (Value × Value) → List (Value × Value)
  | [] => [(key, value)]
  | entry :: entries =>
      if graph.same entry.1 key then (entry.1, value) :: entries
      else entry :: graph.assign key value entries

/-- The entries of a mapping that the given ones are put into one after the other. -/
def entriesOf (graph : Graph) (entries : List (Value × Value)) : List (Value × Value) :=
  entries.foldl (fun mapping entry => graph.assign entry.1 entry.2 mapping) []

/-- The entries of several mappings seen as one: keys from the last mapping to the first, each with the
value that the first mapping gives it. -/
def overlay (graph : Graph) (layers : List (List (Value × Value))) : List (Value × Value) :=
  graph.entriesOf layers.reverse.flatten

/-- The elements of a set that the given ones are put into. -/
def distinct (graph : Graph) (elements : List Value) : List Value :=
  keepFirst graph.same elements

end Graph

end SampleTypes
