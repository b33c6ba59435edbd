import SampleTypes.Sample.Contents

/-!
# JSON documents

A document is a tree.  The members of an object have distinct names; a name that is given twice has its first
place and its last value.  As a sample value every list and every object of a document is a container of its
own.
-/

namespace SampleTypes.Json

inductive Document
  | null
  | boolean (value : Bool)
  | integer (value : Int)
  | float (value : Binary64)
  | text (value : String)
  | list (items : List Document)
  | object (members : List (String × Document))

namespace Document

def ofMembers (members : List (String × Document)) : Document :=
  .object (lastByKey members)

mutual

/-- Adds the containers of a document to a graph, and gives the value that the document is. -/
def addTo (graph : Graph) : Document → Graph × Value
  | .null => (graph, .leaf .null)
  | .boolean value => (graph, .leaf (.boolean value))
  | .integer value => (graph, .leaf (.integer value))
  | .float value => (graph, .leaf (.numeral (.binary value)))
  | .text value => (graph, .leaf (.text value))
  | .list items =>
      let (graph, elements) := addItems graph items
      graph.push (.sequence .list elements)
  | .object members =>
      let (graph, entries) := addMembers graph members
      graph.push (.mapping .plain entries)

def addItems (graph : Graph) : List Document → Graph × List Value
  | [] => (graph, [])
  | item :: items =>
      let (graph, element) := addTo graph item
      let (graph, elements) := addItems graph items
      (graph, element :: elements)

/-- Member counterpart of `addTo`. -/
def addMembers (graph : Graph) : List (String × Document) → Graph × List (Value × Value)
  | [] => (graph, [])
  | (name, document) :: members =>
      let (graph, value) := addTo graph document
      let (graph, entries) := addMembers graph members
      (graph, (.leaf (.text name), value) :: entries)

end

end Document

end SampleTypes.Json
