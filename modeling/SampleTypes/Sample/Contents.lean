import SampleTypes.Sample.Literal
import SampleTypes.TextIndex

/-!
# Entries and elements

What typing looks at inside a container: the entries of an object, whose keys are texts, and the elements of
an array in an order that does not depend on how a set happens to yield them.
-/

namespace SampleTypes

/-- Inserts an item into a list with ascending keys, before the first item whose key is not smaller. -/
def insertByKey {α : Type} (item : (String × String) × α) :
    List ((String × String) × α) → List ((String × String) × α)
  | [] => [item]
  | first :: rest =>
      if first.1.1 < item.1.1 ∨ (first.1.1 = item.1.1 ∧ first.1.2 < item.1.2) then
        first :: insertByKey item rest
      else item :: first :: rest

/-- The items in ascending order of their keys; items with equal keys keep their order. -/
def sortByKey {α : Type} (items : List ((String × String) × α)) : List α :=
  (items.foldr insertByKey []).map (·.2)

/-- Adds a value to those that are filed under a key, behind all other keys if it is new. -/
def addUnder {α : Type} (key : String) (value : α) :
    List (String × List α) → List (String × List α)
  | [] => [(key, [value])]
  | entry :: entries =>
      if entry.1 = key then (key, entry.2 ++ [value]) :: entries
      else entry :: addUnder key value entries

/-- The values filed under each key, keys in the order of their first appearance. -/
def groupByKey {α : Type} (entries : List (String × α)) : List (String × List α) :=
  entries.foldl (fun groups entry => addUnder entry.1 entry.2 groups) []

/-- Files a value under a key in place of an earlier one, or behind all other keys if it is new. -/
def assignUnder {α : Type} (key : String) (value : α) : List (String × α) → List (String × α)
  | [] => [(key, value)]
  | entry :: entries =>
      if entry.1 = key then (key, value) :: entries else entry :: assignUnder key value entries

/-- The value filed last under each key, keys in the order of their first appearance. -/
def lastByKey {α : Type} (entries : List (String × α)) : List (String × α) :=
  entries.foldl (fun filed entry => assignUnder entry.1 entry.2 filed) []

namespace Graph

/-- The key by which an element is put in order: the name of its kind, then its literal. -/
def orderKey (graph : Graph) (value : Value) : Except Fault (String × String) := do
  return (graph.kind value, ← graph.literal value)

/-- The items in the order of the values that they stand for. -/
def sortedOn {α : Type} (graph : Graph) (value : α → Value) (items : List α) :
    Except Fault (List α) := do
  let keyed ← items.mapM fun item => do return (← graph.orderKey (value item), item)
  return sortByKey keyed

/-- The elements of an array; those of a set are put in order first. -/
def elements (graph : Graph) : Node → Except Fault (List Value)
  | .set _ members => graph.sortedOn id members
  | node => .ok node.members

/-- The entries of an object: the values under each key text.  Keys with the same text share an entry, and a
field that was never assigned holds the marker of absence. -/
def entriesOfNode (graph : Graph) : Node → Except Fault (List (String × List Value))
  | .mapping _ entries => do
      let keyed ← entries.mapM fun entry => do return (← graph.keyText entry.1, entry.2)
      return groupByKey keyed
  | .record _ fields =>
      .ok (lastByKey (fields.map fun field => (field.1, [field.2.getD (.leaf .undefined)])))
  | .sequence _ _ | .range _ | .view _ | .set _ _ => .error .notAnObject

/-- The entries of a value; a record type has the defaults of its fields. -/
def entries (graph : Graph) (value : Value) : Except Fault (List (String × List Value)) :=
  match value with
  | .leaf (.recordType _ _ defaults) =>
      .ok (lastByKey (defaults.map fun field => (field.1, [.leaf field.2])))
  | value =>
    match graph.nodeOf? value with
    | some node => graph.entriesOfNode node
    | none => .error .notAnObject

end Graph

end SampleTypes
