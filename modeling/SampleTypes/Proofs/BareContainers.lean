import Mathlib.Tactic.IntervalCases
import SampleTypes.Proofs.InferredTypes
import SampleTypes.Typing.Faceted

/-!
# Containers without facets

A container that is nothing beside what its node says is typed in one way, whatever asks for its classes and in
whatever order.  A container of several classes is typed by what it shows in the first place, unless it is asked for
as the element of an array or as a value of a merged object, and objects are merged only inside arrays.  So where
there are no facets inside arrays, a value is typed as it shows itself.
-/

namespace SampleTypes

section Grouping

variable {α β : Type} (change : α → β)

/-- Entries with other values in the places of those under the keys. -/
def mapUnder (groups : List (String × List α)) : List (String × List β) :=
  groups.map fun group => (group.1, group.2.map change)

theorem addUnder_mapUnder (key : String) (value : α) (groups : List (String × List α)) :
    addUnder key (change value) (mapUnder change groups) = mapUnder change (addUnder key value groups) := by
  induction groups with
  | nil => rfl
  | cons group groups induction =>
      by_cases sameKey : group.1 = key
      · simp [mapUnder, addUnder, sameKey]
      · simp only [mapUnder, List.map_cons, addUnder, if_neg sameKey] at induction ⊢
        rw [induction]

theorem groupByKey_map (entries : List (String × α)) :
    groupByKey (entries.map fun entry => (entry.1, change entry.2)) = mapUnder change (groupByKey entries) := by
  have folded (groups : List (String × List α)) :
      (entries.map fun entry => (entry.1, change entry.2)).foldl
          (fun groups entry => addUnder entry.1 entry.2 groups) (mapUnder change groups) =
        mapUnder change (entries.foldl (fun groups entry => addUnder entry.1 entry.2 groups) groups) := by
    induction entries generalizing groups with
    | nil => rfl
    | cons entry entries induction =>
        simp only [List.map_cons, List.foldl_cons]
        rw [addUnder_mapUnder, induction]
  exact folded []

theorem assignUnder_map (key : String) (value : α) (entries : List (String × α)) :
    assignUnder key (change value) (entries.map fun entry => (entry.1, change entry.2)) =
      (assignUnder key value entries).map fun entry => (entry.1, change entry.2) := by
  induction entries with
  | nil => rfl
  | cons entry entries induction =>
      by_cases sameKey : entry.1 = key
      · simp [assignUnder, sameKey]
      · simp [assignUnder, sameKey, induction]

theorem lastByKey_map (entries : List (String × α)) :
    lastByKey (entries.map fun entry => (entry.1, change entry.2)) =
      (lastByKey entries).map fun entry => (entry.1, change entry.2) := by
  have folded (filed : List (String × α)) :
      (entries.map fun entry => (entry.1, change entry.2)).foldl
          (fun filed entry => assignUnder entry.1 entry.2 filed)
          (filed.map fun entry => (entry.1, change entry.2)) =
        (entries.foldl (fun filed entry => assignUnder entry.1 entry.2 filed) filed).map
          fun entry => (entry.1, change entry.2) := by
    induction entries generalizing filed with
    | nil => rfl
    | cons entry entries induction =>
        simp only [List.map_cons, List.foldl_cons]
        rw [assignUnder_map, induction]
  exact folded []

end Grouping

namespace Node

variable {change : Value → Value} (leaves : ∀ leaf, change (.leaf leaf) = .leaf leaf)

@[simp]
theorem isObject_mapValues (node : Node) : (node.mapValues change).isObject = node.isObject := by
  unfold mapValues
  split <;> rfl

@[simp]
theorem isTrue_mapValues (node : Node) : (node.mapValues change).isTrue = node.isTrue := by
  cases node with
  | mapping kind entries => cases kind <;> rfl
  | sequence kind elements =>
      cases kind with
      | custom name literal isFalse => cases isFalse <;> simp [mapValues, isTrue, members]
      | list | tuple | labelled | queue | values => simp [mapValues, isTrue, members]
  | set kind elements => simp [mapValues, isTrue, members]
  | record | range | view => rfl

include leaves

theorem members_mapValues (node : Node) : (node.mapValues change).members = node.members.map change := by
  cases node with
  | mapping kind entries => cases kind <;> rfl
  | record | sequence | set => rfl
  | range progression => simp [mapValues, members, leaves]
  | view content => simp [mapValues, members, leaves]

theorem held_mapValues (node : Node) : (node.mapValues change).held = node.held.map change := by
  cases node with
  | mapping kind entries => cases kind <;> simp [mapValues, held]
  | record name fields =>
      have sameFields : fields.map (fun field => (field.1, [(field.2.map change).getD (.leaf .undefined)])) =
          (fields.map fun field => (field.1, [field.2.getD (.leaf .undefined)])).map
            fun entry => (entry.1, entry.2.map change) := by
        rw [List.map_map]
        apply List.map_congr_left
        intro field _
        cases stored : field.2 <;> simp [stored, leaves]
      simp only [mapValues, held, List.map_map, Function.comp_def]
      rw [sameFields, lastByKey_map]
      simp [List.flatMap_map, List.map_flatMap]
  | sequence | set => rfl
  | range progression => simp [mapValues, held, members, leaves]
  | view content => simp [mapValues, held, members, leaves]

end Node

namespace FacetedGraph

variable {graph : FacetedGraph}

/-- A container that is nothing beside what its node says. -/
structure IsBare (graph : FacetedGraph) (address : Address) : Prop where
  guise : (graph.facets address).guise = none
  collection : (graph.facets address).collection = none
  truth (alwaysTrue : (graph.facets address).alwaysTrue = true) {node : Node} (isNode : graph.node? address = some node) :
    node.isTrue = true

/-- A value in which all containers are without facets. -/
def BareBelow (graph : FacetedGraph) (value : Value) : Prop :=
  ∀ address, graph.Reaches value (.container address) → graph.IsBare address

/-- A value that shows only arrays in which all containers are without facets. -/
def BareInArrays (graph : FacetedGraph) (value : Value) : Prop :=
  ∀ address node element, graph.shown.Reaches (graph.front value) (.container address) →
    graph.node? address = some node → node.isObject = false → element ∈ node.members → graph.BareBelow element

section Bare

variable {value : Value} {address : Address} {node : Node}

@[simp]
theorem front_leaf (leaf : Leaf) : graph.front (.leaf leaf) = .leaf leaf :=
  rfl

theorem front_of_guise (guise : (graph.facets address).guise = none) :
    graph.front (.container address) = .container address := by
  simp only [front, guise]

theorem node?_shown (address : Address) :
    graph.shown.node? address = (graph.node? address).map (Node.mapValues graph.front) := by
  simp [Graph.node?, shown]

/-- A container shows what the values in it are in the first place. -/
theorem holds_shown {part : Value} (isNode : graph.node? address = some node) (held : part ∈ node.held) :
    graph.shown.Holds (.container address) (graph.front part) := by
  refine ⟨node.mapValues graph.front, ?_, ?_⟩
  · have isShown : graph.shown.node? address = some (node.mapValues graph.front) := by
      rw [node?_shown, isNode]
      rfl
    exact isShown
  · rw [Node.held_mapValues front_leaf]
    exact List.mem_map_of_mem held

theorem BareBelow.of_reaches {part : Value} (bare : graph.BareBelow value) (reached : graph.Reaches value part) :
    graph.BareBelow part :=
  fun address further => bare address (reached.trans further)

theorem BareBelow.of_held {part : Value} (bare : graph.BareBelow (.container address))
    (isNode : graph.node? address = some node) (held : part ∈ node.held) : graph.BareBelow part :=
  bare.of_reaches (.single ⟨node, isNode, held⟩)

theorem BareBelow.front_eq (bare : graph.BareBelow value) : graph.front value = value := by
  cases value with
  | leaf leaf => rfl
  | container address => exact front_of_guise (bare address .refl).guise

/-- What a value without facets shows inside is inside it. -/
theorem BareBelow.reaches_of_shown {part : Value} (bare : graph.BareBelow value)
    (reached : graph.shown.Reaches value part) : graph.Reaches value part := by
  induction reached with
  | refl => exact .refl
  | @tail whole part _ holds induction =>
      obtain ⟨shownNode, isShown, held⟩ := holds
      cases whole with
      | leaf leaf => cases isShown
      | container address =>
          have shownAt : graph.shown.node? address = some shownNode := isShown
          rw [node?_shown, Option.map_eq_some_iff] at shownAt
          obtain ⟨node, isNode, rfl⟩ := shownAt
          rw [Node.held_mapValues front_leaf] at held
          obtain ⟨raw, rawHeld, rfl⟩ := List.mem_map.mp held
          have holds : graph.Holds (.container address) raw := ⟨node, isNode, rawHeld⟩
          rw [(bare.of_reaches (induction.tail holds)).front_eq]
          exact induction.tail holds

theorem BareBelow.inArrays (bare : graph.BareBelow value) : graph.BareInArrays value := by
  intro address node element reached isNode isArray member
  rw [bare.front_eq] at reached
  have held : element ∈ node.held := by
    rw [Node.held_of_array isArray]
    exact member
  exact bare.of_reaches ((bare.reaches_of_shown reached).tail ⟨node, isNode, held⟩)

theorem BareInArrays.of_held {part : Value} (bare : graph.BareInArrays (.container address))
    (guise : (graph.facets address).guise = none) (isNode : graph.node? address = some node) (held : part ∈ node.held) :
    graph.BareInArrays part := by
  intro inner innerNode element reached
  apply bare inner innerNode element
  rw [front_of_guise guise]
  exact reached.head (holds_shown isNode held)

theorem BareInArrays.of_member {element : Value} (bare : graph.BareInArrays (.container address))
    (guise : (graph.facets address).guise = none) (isNode : graph.node? address = some node)
    (isArray : node.isObject = false) (member : element ∈ node.members) : graph.BareBelow element := by
  refine bare address node element ?_ isNode isArray member
  rw [front_of_guise guise]
  exact .refl

end Bare

/-- A value among containers without facets that hold no others is without facets. -/
theorem bareBelow_of_inside {inside : Address → Prop} (bare : ∀ address, inside address → graph.IsBare address)
    (closed : ∀ address node part, inside address → graph.node? address = some node → .container part ∈ node.held →
      inside part) {value : Value} (isInside : ∀ address, value = .container address → inside address) :
    graph.BareBelow value := by
  have reaches {part : Value} (reached : graph.Reaches value part) :
      ∀ address, part = .container address → inside address := by
    induction reached with
    | refl => exact isInside
    | @tail whole _ _ holds induction =>
        rintro part rfl
        obtain ⟨node, isNode, held⟩ := holds
        cases whole with
        | leaf leaf => cases isNode
        | container address => exact closed address node part (induction address rfl) isNode held
  exact fun address reached => bare address (reaches reached address rfl)

/-- Facets are outside arrays if all that arrays hold is among containers without facets that hold no others. -/
theorem bareInArrays_of_inside {inside : Address → Prop} (bare : ∀ address, inside address → graph.IsBare address)
    (closed : ∀ address node part, inside address → graph.node? address = some node → .container part ∈ node.held →
      inside part)
    (arrays : ∀ address node element, graph.node? address = some node → node.isObject = false →
      .container element ∈ node.members → inside element) (value : Value) : graph.BareInArrays value := by
  intro address node element _ isNode isArray member
  apply bareBelow_of_inside bare closed
  rintro elementAddress rfl
  exact arrays address node elementAddress isNode isArray member

section Shown

theorem map_front_eq {values : List Value} (bare : ∀ value ∈ values, graph.BareBelow value) :
    values.map graph.front = values := by
  rw [List.map_congr_left fun value member => (bare value member).front_eq, List.map_id']

theorem isObject_shown (value : Value) : graph.shown.isObject value = graph.isObject value := by
  cases value with
  | leaf leaf => rfl
  | container address =>
      simp only [isObject, Graph.isObject, Graph.nodeOf?, node?_shown]
      cases graph.node? address <;> simp

theorem isText_of_guise {address : Address} (guise : (graph.facets address).guise = none) :
    (graph.facets address).isText = false := by
  simp [Facets.isText, guise]

/-- A container that shows itself is the array that its node is. -/
theorem arrayAt?_of_guise {address : Address} {node : Node} (guise : (graph.facets address).guise = none)
    (isNode : graph.node? address = some node) (isArray : node.isObject = false) :
    graph.arrayAt? address = some node := by
  rw [arrayAt?, isText_of_guise guise, isNode]
  cases node with
  | mapping | record => cases isArray
  | sequence | range | view | set => rfl

/-- A container without facets is an array if its node is one. -/
theorem IsBare.arrayAt?_eq {address : Address} {node : Node} (bare : graph.IsBare address)
    (isNode : graph.node? address = some node) :
    graph.arrayAt? address = if node.isObject then none else some node := by
  cases isObject : node.isObject with
  | false => exact arrayAt?_of_guise bare.guise isNode isObject
  | true =>
      rw [arrayAt?, isText_of_guise bare.guise, isNode]
      cases node with
      | record => simp [bare.collection]
      | mapping => rfl
      | sequence | range | view | set => cases isObject

theorem isArray_shown {value : Value} (bare : graph.BareBelow value) :
    graph.shown.isArray value = graph.isArray value := by
  cases value with
  | leaf leaf => rfl
  | container address =>
      simp only [isArray, Graph.isArray, node?_shown]
      cases isNode : graph.node? address with
      | none => simp [arrayAt?, isNode]
      | some node =>
          rw [(bare address .refl).arrayAt?_eq isNode]
          cases isObject : node.isObject <;> simp [isObject]

theorem entriesOfNode_shown (node : Node) :
    graph.shown.entriesOfNode (node.mapValues graph.front) =
      (graph.entriesOfNode node).map (mapUnder graph.front) := by
  cases node with
  | mapping kind entries =>
      have mapped : graph.shown.entriesOfNode ((Node.mapping kind entries).mapValues graph.front) =
          (entries.map fun entry => (graph.front entry.1, graph.front entry.2)).mapM (fun entry => do
            return (← graph.shown.keyText entry.1, entry.2)) >>= fun keyed => .ok (groupByKey keyed) := by
        cases kind <;> rfl
      rw [mapped, List.mapM_map]
      apply Outcome.mapM_bind_eq_map (fun pair : String × Value => (pair.1, graph.front pair.2))
      · intro entry _
        simp only [Function.comp_apply]
        cases graph.shown.keyText (graph.front entry.1) <;> rfl
      · intro keyed _
        rw [groupByKey_map]
        rfl
  | record name fields =>
      have assigned (field : Option Value) :
          [(field.map graph.front).getD (.leaf .undefined)] = [field.getD (.leaf .undefined)].map graph.front := by
        cases field <;> rfl
      change Except.ok (lastByKey _) = Except.ok (mapUnder _ (lastByKey _))
      rw [mapUnder, ← lastByKey_map, List.map_map, List.map_map]
      simp only [Function.comp_def, assigned]
  | sequence | range | view | set => rfl

theorem elements_shown {node : Node} (bare : ∀ element ∈ node.members, graph.BareBelow element) :
    graph.shown.elements (node.mapValues graph.front) = graph.elements node := by
  have members := map_front_eq bare
  cases node with
  | mapping kind entries => cases kind <;> rfl
  | record | range | view => rfl
  | sequence kind elements => exact congrArg Except.ok members
  | set kind elements =>
      change graph.shown.sortedOn id (elements.map graph.front) = graph.shown.sortedOn graph.front elements
      change elements.map graph.front = elements at members
      rw [members]
      unfold Graph.sortedOn
      rw [Outcome.mapM_congr]
      intro element member
      rw [(bare element member).front_eq]
      rfl

theorem elements_perm_members {node : Node} {elements : List Value} (listing : graph.elements node = .ok elements) :
    elements.Perm node.members := by
  cases node with
  | set kind members => exact Graph.sortedOn_perm listing
  | mapping | record | sequence | range | view => exact @Graph.elements_perm_members graph.toGraph _ _ listing

/-- The elements of an array without facets are merged if they are merged as they show themselves. -/
theorem mergedArray?_eq {opened : List Address} {address : Address} {node : Node}
    (bare : graph.BareBelow (.container address)) (isNode : graph.node? address = some node)
    (isArray : node.isObject = false) (fresh : address ∉ opened) :
    graph.mergedArray? opened address =
      if Inference.isMergedArray graph.shown opened (node.mapValues graph.front) then some node else none := by
  have truth : node.isTrue = true ∨ (graph.facets address).alwaysTrue = true ↔ node.isTrue = true :=
    or_iff_left_of_imp fun always => (bare address .refl).truth always isNode
  have members : (node.mapValues graph.front).members = node.members := by
    rw [Node.members_mapValues front_leaf]
    exact map_front_eq fun element => bare.inArrays.of_member (bare address .refl).guise isNode isArray
  simp [mergedArray?, (bare address .refl).arrayAt?_eq isNode, isArray, truth, Inference.isMergedArray, members,
    isObject_shown, fresh]

/-- The entries of an object hold nothing but what it holds. -/
theorem mem_held_of_entries {node : Node} {entries : List (String × List Value)}
    (listing : graph.entriesOfNode node = .ok entries) {key : String} {part : Value} (filed : Filed entries key part) :
    part ∈ node.held := by
  cases node with
  | mapping kind pairs =>
      obtain ⟨keyed, keying, equal⟩ := Outcome.bind_eq_ok_iff.mp listing
      cases equal
      have member := filed_groupByKey_iff.mp filed
      obtain ⟨pair, pairMember, written⟩ := (Outcome.mapM_eq_ok_iff.mp keying).exists_left member
      obtain ⟨text, -, equal⟩ := Outcome.bind_eq_ok_iff.mp written
      cases equal
      exact List.mem_map_of_mem pairMember
  | record name fields =>
      have sameListing : graph.toGraph.entriesOfNode (.record name fields) = .ok entries := listing
      exact (Graph.mem_held_iff_of_entries sameListing).mpr ⟨key, filed⟩
  | sequence | range | view | set => cases listing

theorem entries_container {address : Address} {node : Node} (isNode : graph.node? address = some node) :
    graph.entries (.container address) = graph.entriesOfNode node := by
  simp only [entries, isNode]

theorem entries_shown {value : Value} (bare : graph.BareBelow value) : graph.shown.entries value = graph.entries value := by
  cases value with
  | leaf leaf => cases leaf <;> rfl
  | container address =>
      cases isNode : graph.node? address with
      | none => simp [entries, Graph.entries, Graph.nodeOf?, node?_shown, isNode]
      | some node =>
          have isShown : graph.shown.node? address = some (node.mapValues graph.front) := by
            rw [node?_shown, isNode]
            rfl
          rw [Graph.entries_container isShown, entries_container isNode, entriesOfNode_shown]
          cases listing : graph.entriesOfNode node with
          | error fault => rfl
          | ok entries =>
              have unchanged (entry : String × List Value) (member : entry ∈ entries) :
                  (entry.1, entry.2.map graph.front) = entry := by
                have bareParts (part : Value) (partMember : part ∈ entry.2) : graph.BareBelow part :=
                  bare.of_held isNode (mem_held_of_entries listing ⟨entry, member, rfl, partMember⟩)
                rw [map_front_eq bareParts]
              exact congrArg Except.ok ((List.map_congr_left unchanged).trans (List.map_id' entries))

theorem kindOfElements_shown {elements : List Value} (opened : List Address)
    (bare : ∀ element ∈ elements, graph.BareBelow element) :
    ArrayKind.ofElements graph.shown opened elements = graph.kindOfElements opened elements := by
  have sameArrays : elements.all graph.shown.isArray = elements.all graph.isArray := by
    rw [Bool.eq_iff_iff, List.all_eq_true, List.all_eq_true]
    exact forall₂_congr fun element member => by rw [isArray_shown (bare element member)]
  simp only [ArrayKind.ofElements, kindOfElements, sameArrays, isObject_shown]

end Shown

end FacetedGraph

/-- A typer that types values as another one types what the values show, as long as there are no facets inside
arrays, and inside merged objects none at all. -/
structure MergingTyper.Follows (graph : FacetedGraph) (typer : MergingTyper) (other : Typer) : Prop where
  infer (opened : List Address) (depth : Int) {value : Value} (bare : graph.BareInArrays value) :
    typer.infer opened depth value = other.infer opened depth (graph.front value)
  contribute (opened : List Address) (depth : Int) {value : Value} (bare : graph.BareBelow value) :
    typer.contribute opened depth value = other.contribute opened depth value
  merge (opened : List Address) (depth : Int) {value : Value} (bare : graph.BareBelow value)
    (isObject : graph.isObject value = true) : typer.merge opened depth value = other.contribute opened depth value

namespace FacetedGraph

section Steps

variable {graph : FacetedGraph} {settings : Settings} {typer : MergingTyper} {other : Typer} {opened : List Address}
  {depth : Int} (follows : typer.Follows graph other)
include follows

theorem infer_of_bareBelow {value : Value} (bare : graph.BareBelow value) (valueDepth : Int) :
    typer.infer opened valueDepth value = other.infer opened valueDepth value := by
  rw [follows.infer opened valueDepth bare.inArrays, bare.front_eq]

theorem shapes_shown {objects : List Value} (bare : ∀ object ∈ objects, graph.BareBelow object)
    (areObjects : ∀ object ∈ objects, graph.isObject object = true) :
    graph.shapes settings typer opened depth objects = Merge.shapes graph.shown settings other opened depth objects := by
  have sameDescriptions : graph.describe objects = Merge.describe graph.shown objects := by
    apply Outcome.mapM_congr
    intro object member
    rw [entries_shown (bare object member)]
  have sameEntries : graph.shapes settings typer opened depth objects =
      Merge.shapes graph.shown settings typer.toTyper opened depth objects := by
    unfold shapes Merge.shapes
    rw [sameDescriptions]
  rw [sameEntries]
  apply Merge.shapes_congr
  intro object member entries key part listing filed
  obtain ⟨address, node, rfl, isNode, -⟩ := Graph.isObject_eq_true_iff.mp (areObjects object member)
  rw [entries_shown (bare _ member), entries_container isNode] at listing
  exact follows.contribute _ _ ((bare _ member).of_held isNode (mem_held_of_entries listing filed))

theorem distinctShapes_shown {elements : List Value} (bare : ∀ element ∈ elements, graph.BareBelow element) :
    ArrayUnion.distinctShapes settings typer.toTyper opened depth elements =
      ArrayUnion.distinctShapes settings other opened depth elements := by
  apply ArrayUnion.distinctShapes_congr
  intro element member elementDepth _
  exact infer_of_bareBelow follows (bare element member) elementDepth

theorem ofKind_shown {elements : List Value} (bare : ∀ element ∈ elements, graph.BareBelow element) :
    graph.ofKind settings typer opened depth (graph.kindOfElements opened elements) elements =
      ArrayUnion.ofKind graph.shown settings other opened depth (.ofElements graph.shown opened elements) elements := by
  have sameTypes : elements.mapM (typer.infer opened (depth + 1)) = elements.mapM (other.infer opened (depth + 1)) :=
    Outcome.mapM_congr fun element member => infer_of_bareBelow follows (bare element member) (depth + 1)
  rw [kindOfElements_shown opened bare]
  cases isKind : graph.kindOfElements opened elements with
  | arrays =>
      simp only [ofKind, ArrayUnion.ofKind, ArrayUnion.ofArrays, distinctShapes_shown follows bare, sameTypes]
  | objects =>
      have areObjects : ∀ element ∈ elements, graph.isObject element = true := by
        intro element member
        rw [← isObject_shown]
        rw [← kindOfElements_shown opened bare] at isKind
        exact (ArrayKind.fresh_of_ofElements isKind element member).1
      cases mode : settings.mode with
      | merge => simp only [ofKind, ArrayUnion.ofKind, ArrayUnion.ofObjects, mode, shapes_shown follows bare areObjects]
      | union => simp only [ofKind, ArrayUnion.ofKind, ArrayUnion.ofObjects, mode, distinctShapes_shown follows bare]
  | mixed =>
      simp only [ofKind, ArrayUnion.ofKind, ArrayUnion.ofMixed, isObject_shown]
      rw [Outcome.mapM_congr]
      intro element member
      split
      · rename_i merged
        exact follows.merge opened (depth + 1) (bare element member) merged.2
      · exact infer_of_bareBelow follows (bare element member) (depth + 1)

theorem object_shown {address : Address} {node : Node} (bare : graph.BareInArrays (.container address))
    (guise : (graph.facets address).guise = none) (isNode : graph.node? address = some node) :
    graph.object settings typer opened depth node =
      Inference.object graph.shown settings other opened depth (node.mapValues graph.front) := by
  unfold object Inference.object
  rw [entriesOfNode_shown, Outcome.bind_map]
  apply Outcome.bind_congr
  intro entries listing
  rw [mapUnder, List.mapM_map]
  rw [Outcome.mapM_congr]
  intro entry member
  simp only [Function.comp_apply, List.mapM_map]
  rw [Outcome.mapM_congr]
  intro part partMember
  exact follows.infer _ _ (bare.of_held guise isNode (mem_held_of_entries listing ⟨entry, member, rfl, partMember⟩))

theorem array_shown {address : Address} {node : Node} (bare : graph.BareInArrays (.container address))
    (guise : (graph.facets address).guise = none) (isNode : graph.node? address = some node)
    (isArray : node.isObject = false) :
    graph.array settings typer opened depth node =
      Inference.array graph.shown settings other opened depth (node.mapValues graph.front) := by
  have bareMembers : ∀ element ∈ node.members, graph.BareBelow element :=
    fun element member => bare.of_member guise isNode isArray member
  unfold array Inference.array
  rw [elements_shown bareMembers]
  apply Outcome.bind_congr
  intro elements listing
  have bareElements : ∀ element ∈ elements, graph.BareBelow element :=
    fun element member => bareMembers element ((elements_perm_members listing).mem_iff.mp member)
  rw [ofKind_shown follows bareElements]

theorem value_shown {value : Value} (bare : graph.BareInArrays value) :
    graph.value settings typer opened depth value =
      Inference.value graph.shown settings other opened depth (graph.front value) := by
  cases value with
  | leaf leaf => rfl
  | container address =>
      cases guise : (graph.facets address).guise with
      | some leaf => simp only [FacetedGraph.value, front, guise, Inference.value]
      | none =>
          simp only [FacetedGraph.value, front, guise, Inference.value, node?_shown]
          cases isNode : graph.node? address with
          | none => rfl
          | some node =>
              simp only [Option.map_some, Node.isObject_mapValues]
              split
              · rfl
              · split
                · exact object_shown follows bare guise isNode
                · rename_i isArray
                  exact array_shown follows bare guise isNode (by simpa using isArray)

theorem mergedObject_shown {value : Value} (bare : graph.BareBelow value) (isObject : graph.isObject value = true) :
    graph.mergedObject settings typer opened depth value =
      Inference.contribution graph.shown settings other opened depth value := by
  obtain ⟨address, node, rfl, isNode, nodeIsObject⟩ := Graph.isObject_eq_true_iff.mp isObject
  have isShown : graph.shown.node? address = some (node.mapValues graph.front) := by
    rw [node?_shown, isNode]
    rfl
  have notMerged : Inference.isMergedArray graph.shown opened (node.mapValues graph.front) = false := by
    simp [Inference.isMergedArray, nodeIsObject]
  have sameShape : graph.shapes settings typer opened depth [.container address] =
      Merge.shapes graph.shown settings other opened depth [.container address] :=
    shapes_shown follows (List.forall_mem_singleton.mpr bare) (List.forall_mem_singleton.mpr isObject)
  simp only [mergedObject, Inference.contribution, isShown, notMerged, Node.isObject_mapValues, nodeIsObject, sameShape,
    Value.isOpen, List.contains_iff_mem, Bool.false_eq_true, if_true, if_false]

theorem contribution_shown_of_array {address : Address} {node : Node} (bare : graph.BareBelow (.container address))
    (isNode : graph.node? address = some node) (isArray : node.isObject = false) :
    graph.contribution settings typer opened depth (.container address) =
      Inference.contribution graph.shown settings other opened depth (.container address) := by
  have isShown : graph.shown.node? address = some (node.mapValues graph.front) := by
    rw [node?_shown, isNode]
    rfl
  have noObject : graph.isObject (.container address) = false := by
    simp [FacetedGraph.isObject, Graph.isObject, Graph.nodeOf?, isNode, isArray]
  have bareMembers : ∀ element ∈ node.members, graph.BareBelow element :=
    fun element => bare.inArrays.of_member (bare address .refl).guise isNode isArray
  have typed : graph.value settings typer opened depth (.container address) =
      Inference.value graph.shown settings other opened depth (graph.front (.container address)) :=
    value_shown follows bare.inArrays
  rw [bare.front_eq] at typed
  by_cases isOpen : address ∈ opened
  · have notMerged : graph.mergedArray? opened address = none := by simp [mergedArray?, isOpen]
    simp [contribution, notMerged, noObject, typed, Inference.value, Inference.contribution, isShown, isOpen]
  · rw [contribution, mergedArray?_eq bare isNode isArray isOpen]
    simp only [Inference.contribution, isShown, if_neg isOpen]
    cases isMerged : Inference.isMergedArray graph.shown opened (node.mapValues graph.front) with
    | true =>
        obtain ⟨-, -, areFresh⟩ := Inference.fresh_of_isMergedArray isShown isMerged
        rw [Node.members_mapValues front_leaf, map_front_eq bareMembers] at areFresh ⊢
        have areObjects : ∀ element ∈ node.members, graph.isObject element = true := by
          intro element member
          rw [← isObject_shown]
          exact (areFresh element member).1
        simp only [if_true, shapes_shown follows bareMembers areObjects]
    | false => simp [noObject, typed, Inference.value, isShown, isOpen, isArray]

theorem contribution_shown {value : Value} (bare : graph.BareBelow value) :
    graph.contribution settings typer opened depth value =
      Inference.contribution graph.shown settings other opened depth value := by
  cases value with
  | leaf leaf => rfl
  | container address =>
      cases isNode : graph.node? address with
      | none =>
          have noArray : graph.mergedArray? opened address = none := by simp [mergedArray?, arrayAt?, isNode]
          have noObject : graph.isObject (.container address) = false := by
            simp [isObject, Graph.isObject, Graph.nodeOf?, isNode]
          simp only [contribution, noArray, noObject, FacetedGraph.value, bare.front_eq, isNode, Inference.contribution,
            node?_shown, Option.map_none, Bool.false_eq_true, if_false]
      | some node =>
          cases isObject : node.isObject with
          | true =>
              have noArray : graph.mergedArray? opened address = none := by
                simp [mergedArray?, (bare address .refl).arrayAt?_eq isNode, isObject]
              have isObjectValue := Graph.isObject_eq_true_iff.mpr ⟨address, node, rfl, isNode, isObject⟩
              rw [← mergedObject_shown follows bare isObjectValue, contribution, noArray]
              simp [FacetedGraph.isObject, isObjectValue]
          | false => exact contribution_shown_of_array follows bare isNode isObject

end Steps

/-- Whatever the budget is, the typer for a graph types values as the values that show are typed. -/
theorem follows_typerWithin (graph : FacetedGraph) (settings : Settings) (budget : Nat) :
    (graph.typerWithin settings budget).Follows graph (Inference.typer graph.shown settings budget) := by
  induction budget with
  | zero => exact ⟨fun _ _ _ _ => rfl, fun _ _ _ _ => rfl, fun _ _ _ _ _ => rfl⟩
  | succ budget induction =>
      constructor
      · intro opened depth value bare
        exact value_shown induction bare
      · intro opened depth value bare
        exact contribution_shown induction bare
      · intro opened depth value bare isObject
        exact mergedObject_shown induction bare isObject

variable {graph : FacetedGraph}

theorem size_shown : graph.shown.nodes.size = graph.nodes.size := by
  simp [shown]

/-- Where there are no facets inside arrays, a value is typed as it shows itself. -/
theorem infer_shown (settings : Settings) {value : Value} (depth : Int) (bare : graph.BareInArrays value) :
    graph.infer settings value depth = graph.shown.infer settings (graph.front value) depth := by
  have follows := follows_typerWithin graph settings (graph.nodes.size + 1)
  rw [Graph.infer, Graph.typer, size_shown]
  exact follows.infer [] depth bare

/-- A value without facets has the same type by itself, and contributes the same type, as it shows itself. -/
theorem typer_shown (settings : Settings) (opened : List Address) (depth : Int) {value : Value}
    (bare : graph.BareBelow value) :
    (graph.typer settings).infer opened depth value = (graph.shown.typer settings).infer opened depth value ∧
      (graph.typer settings).contribute opened depth value = (graph.shown.typer settings).contribute opened depth value := by
  have follows := follows_typerWithin graph settings (graph.nodes.size + 1)
  rw [Graph.typer, size_shown]
  exact ⟨infer_of_bareBelow follows bare depth, follows.contribute opened depth bare⟩

/-- Objects without facets are merged as they show themselves. -/
theorem mergeShapes_shown (settings : Settings) {objects : List Value} (depth : Int) (opened : List Address)
    (bare : ∀ object ∈ objects, graph.BareBelow object) (areObjects : ∀ object ∈ objects, graph.isObject object = true) :
    graph.mergeShapes settings objects depth opened = graph.shown.mergeShapes settings objects depth opened := by
  have follows := follows_typerWithin graph settings (graph.nodes.size + 1)
  rw [Graph.mergeShapes, Graph.typer, size_shown]
  exact shapes_shown follows bare areObjects

/-- An object that holds a record with the elements of an array, a pair that is the member of an enumeration, and a list
of two objects without facets. -/
def showcase : FacetedGraph where
  nodes :=
    #[.mapping .plain [(.leaf (.text "pair"), .container 2), (.leaf (.text "deck"), .container 1),
        (.leaf (.text "rows"), .container 3)],
      .record "Deck" [("number", some (.leaf (.integer 7)))],
      .sequence .tuple [.leaf (.integer 1), .leaf (.integer 2)],
      .sequence .list [.container 4, .container 5],
      .mapping .plain [(.leaf (.text "suit"), .leaf .null), (.leaf (.text "card"), .leaf (.integer 1))],
      .mapping .plain [(.leaf (.text "card"), .leaf (.text "ace"))]]
  facets
    | 1 => { collection := some ⟨.sequence .list [.leaf (.text "ace")], rfl⟩ }
    | 2 => { guise := some ⟨.symbol "Pair" "Pair.A" "<Pair.A: (1, 2)>" none false, rfl⟩ }
    | _ => {}

theorem bareInArrays_showcase (value : Value) : showcase.BareInArrays value := by
  have bare (address : Address) (inside : address = 4 ∨ address = 5) : showcase.IsBare address := by
    rcases inside with rfl | rfl <;> exact ⟨rfl, rfl, nofun⟩
  apply bareInArrays_of_inside bare
  · rintro address node part (rfl | rfl) isNode held <;> cases isNode <;> simp [showcase, Node.held] at held
  · intro address node element isNode isArray member
    have inBounds := Graph.address_lt_size isNode
    change address < 6 at inBounds
    interval_cases address <;> cases isNode <;> simp [showcase, Node.members, Node.isObject] at member isArray
    exact member

/-- Lists of values with facets: of a record with the elements of an array (0), alone and beside a list (1), of a pair (2)
and of a record (3) that are members of enumerations, and of an object that holds the empty class of an enumeration
(4). -/
def misfits : FacetedGraph where
  nodes :=
    #[.sequence .list [.container 5],
      .sequence .list [.container 5, .container 6],
      .sequence .list [.container 7],
      .sequence .list [.container 8],
      .sequence .list [.container 9],
      .record "Deck" [("rows", some (.container 10)), ("number", some (.leaf (.integer 7)))],
      .sequence .list [.leaf (.text "x")],
      .sequence .tuple [.leaf (.integer 1), .leaf (.integer 2)],
      .record "Creature" [("size", some (.leaf (.text "medium"))), ("legs", some (.leaf (.integer 4)))],
      .mapping .plain [(.leaf (.text "a"), .container 11)],
      .sequence .list [.leaf (.integer 1)],
      .sequence (.custom "EnumType" "<enum 'E'>") []]
  facets
    | 5 => { collection := some ⟨.sequence .list [.leaf (.integer 1)], rfl⟩ }
    | 7 => { guise := some ⟨.symbol "Pair" "Pair.A" "<Pair.A: (1, 2)>" none false, rfl⟩ }
    | 8 => { guise := some ⟨.symbol "Creature" "Creature.DOG" "<Creature.DOG: size='medium', legs=4>" none false, rfl⟩ }
    | 11 => { alwaysTrue := true }
    | _ => {}

/-- The object type of the record among the misfits, at a depth. -/
def deckType (depth : Int) : TypeExpr :=
  .object [⟨"rows", .array (.primitive "number"), false⟩, ⟨"number", .primitive "number", false⟩] depth

end FacetedGraph

end SampleTypes
