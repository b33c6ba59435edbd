import SampleTypes.Proofs.Classification
import SampleTypes.Proofs.Placement

/-!
# Places in inferred types

The members of a union are told apart by their texts, indentation included, so two of them can be equal in
everything but the depths at which they are laid out.  This module shows where that cannot happen: if shapes are
kept apart, if lines are not indented, and for merged shapes if all that goes into one union is laid out at one
depth.  Only the arrays in an array of arrays, whose elements go into one union, lay these out at different
depths: an array of objects at its own depth, and an array of mixed elements one level deeper.
-/

namespace SampleTypes

namespace TypeExpr

section Classes

variable {settings : Settings} {type : TypeExpr}

theorem isArray_normal_iff : (type.normal settings).IsArray ↔ type.IsArray := by
  cases type with
  | array element => exact ⟨fun _ => ⟨_, rfl⟩, fun _ => ⟨_, rfl⟩⟩
  | _ => exact ⟨nofun, nofun⟩

theorem isObject_normal_iff : (type.normal settings).IsObject ↔ type.IsObject := by
  cases type with
  | object properties depth => exact ⟨fun _ => .inl ⟨_, _, rfl⟩, fun _ => .inl ⟨_, _, rfl⟩⟩
  | record value => exact ⟨fun _ => .inr ⟨_, rfl⟩, fun _ => .inr ⟨_, rfl⟩⟩
  | _ =>
      constructor
      · rintro (⟨_, _, impossible⟩ | ⟨_, impossible⟩) <;> cases impossible
      · rintro (⟨_, _, impossible⟩ | ⟨_, impossible⟩) <;> cases impossible

/-- Only arrays, objects and unions of them span lines. -/
theorem isArray_or_isObject_of_spansLines (noUnion : type.isUnion = false) (spans : type.spansLines = true) :
    type.IsArray ∨ type.IsObject := by
  cases type with
  | array element => exact .inl ⟨_, rfl⟩
  | object properties depth => exact .inr (.inl ⟨_, _, rfl⟩)
  | union members depth multiline => cases noUnion
  | _ => cases spans

end Classes

end TypeExpr

theorem Leaf.laidOut_type (leaf : Leaf) (byRows inArray : Bool) (depth : Int) :
    leaf.type.LaidOut byRows inArray depth := by
  cases leaf with
  | integer value kind =>
      rw [type]
      split <;> exact trivial
  | _ => exact trivial

theorem Leaf.spansLines_type (leaf : Leaf) : leaf.type.spansLines = false := by
  cases leaf with
  | integer value kind =>
      rw [type]
      split <;> rfl
  | _ => rfl

namespace Graph

variable {graph : Graph} {value part : Value}

/-- Some value inside a value is an object. -/
def ReachesObject (graph : Graph) (value : Value) : Prop :=
  ∃ part, graph.Reaches value part ∧ graph.isObject part = true

theorem ReachesObject.of_holds (holds : graph.Holds value part) (reaches : graph.ReachesObject part) :
    graph.ReachesObject value := by
  obtain ⟨object, below, isObject⟩ := reaches
  exact ⟨object, below.head holds, isObject⟩

theorem reachesObject_self (isObject : graph.isObject value = true) : graph.ReachesObject value :=
  ⟨value, .refl, isObject⟩

/-- No array inside a value that has only arrays for elements has an object inside it. -/
def RowsPlain (graph : Graph) (value : Value) : Prop :=
  ∀ address node, graph.Reaches value (.container address) → graph.node? address = some node →
    node.isObject = false → (∀ element ∈ node.members, graph.isArray element = true) →
      ¬graph.ReachesObject (.container address)

/-- No container inside a value contains itself, and every array with an object among its elements has no
others. -/
structure Uniform (graph : Graph) (value : Value) : Prop where
  acyclic : ¬graph.ContainsCycle value
  objects {address : Address} {node : Node} (reaches : graph.Reaches value (.container address))
    (isNode : graph.node? address = some node) (isArray : node.isObject = false)
    (someObject : ∃ element ∈ node.members, graph.isObject element = true) :
    ∀ element ∈ node.members, graph.isObject element = true

theorem RowsPlain.of_holds (plain : graph.RowsPlain value) (holds : graph.Holds value part) :
    graph.RowsPlain part :=
  fun address node reaches => plain address node (reaches.head holds)

theorem Uniform.of_holds (uniform : graph.Uniform value) (holds : graph.Holds value part) :
    graph.Uniform part where
  acyclic := not_containsCycle_of_holds uniform.acyclic holds
  objects reaches := uniform.objects (reaches.head holds)

/-- What is filed in the entries of an object is inside it. -/
theorem holds_of_filed {object : Value} (isObject : graph.isObject object = true)
    {entries : List (String × List Value)} {key : String} (listing : graph.entries object = .ok entries)
    (filed : Filed entries key part) : graph.Holds object part := by
  obtain ⟨address, node, rfl, isNode, -⟩ := isObject_eq_true_iff.mp isObject
  rw [entries_container isNode] at listing
  exact ⟨node, isNode, (mem_held_iff_of_entries listing).mpr ⟨key, filed⟩⟩

end Graph

section SpansLines

variable {graph : Graph} {settings : Settings} {typed : Assignment} {opened : List Address} {depth : Int}
  (single : ∀ call type, typed call type → type.Single)
  (each : ∀ call type, typed call type → type.spansLines = true → graph.ReachesObject call.value)
include single each

/-- The type of an array spans lines only if an object is inside one of the elements. -/
theorem ArrayUnion.Builds.reachesObject {elements : List Value} (nonempty : elements ≠ []) {kind : ArrayKind}
    {type : TypeExpr} (classified : ArrayKind.ofElements graph opened elements = kind)
    (built : Builds graph settings typed opened depth elements kind type) (spans : type.spansLines = true) :
    ∃ element ∈ elements, graph.ReachesObject element := by
  have ofShapes {shapes : TypeExpr} (built : BuildsShapes settings typed opened depth elements shapes)
      {variant : TypeExpr} (isVariant : variant ∈ variants shapes) (variantSpans : variant.spansLines = true) :
      ∃ element ∈ elements, graph.ReachesObject element := by
    obtain ⟨element, member, variantDepth, -, assigned⟩ := built.exists_element single variant isVariant
    exact ⟨element, member, each _ _ assigned variantSpans⟩
  cases built with
  | @arrays types merging elementTypes =>
      have typesSingle := each_of_forall₂ elementTypes fun _ _ => single _ _
      obtain ⟨elementType, typeMember, typeSpans⟩ :=
        TypeExpr.exists_spansLines_of_arrayOfArrays typesSingle spans
      obtain ⟨element, member, assigned⟩ := elementTypes.exists_left typeMember
      exact ⟨element, member, each _ _ assigned typeSpans⟩
  | arrayShapes uniting built | objectShapes uniting built =>
      rw [TypeExpr.spansLines, ← built.any_variants single, List.any_eq_true] at spans
      obtain ⟨variant, isVariant, variantSpans⟩ := spans
      exact ofShapes built isVariant variantSpans
  | flatArrayShapes uniting built oneLine =>
      obtain ⟨variant, isVariant, variantSpans⟩ :=
        TypeExpr.exists_spansLines_of_arrayOfArrays (built.variants_single single nonempty).2 spans
      exact ofShapes built isVariant variantSpans
  | objects merging built =>
      obtain ⟨first, others, rfl⟩ := List.exists_cons_of_ne_nil nonempty
      have isObject := (ArrayKind.fresh_of_ofElements classified first List.mem_cons_self).1
      exact ⟨first, List.mem_cons_self, Graph.reachesObject_self isObject⟩
  | @mixed types elementTypes =>
      have typesSingle := each_of_forall₂ elementTypes fun _ _ => single _ _
      rw [TypeExpr.spansLines, TypeExpr.spansLines_unionOf_distinctByText typesSingle, List.any_eq_true] at spans
      obtain ⟨elementType, typeMember, typeSpans⟩ := spans
      obtain ⟨element, member, assigned⟩ := elementTypes.exists_left typeMember
      exact ⟨element, member, each _ _ assigned typeSpans⟩

theorem Inference.Builds.reachesObject {call : Call} {type : TypeExpr}
    (built : Builds graph settings typed call type) (spans : type.spansLines = true) :
    graph.ReachesObject call.value := by
  have ofArray {address : Address} {node : Node} (isNode : graph.node? address = some node)
      (isArray : node.isObject = false)
      (below : ∃ element ∈ node.members, graph.ReachesObject element) :
      graph.ReachesObject (.container address) := by
    obtain ⟨element, member, reaches⟩ := below
    rw [← Node.held_of_array isArray] at member
    exact reaches.of_holds ⟨node, isNode, member⟩
  cases built with
  | leaf merging opened depth leaf =>
      rw [leaf.spansLines_type] at spans
      cases spans
  | missing | circular | emptyArray => cases spans
  | object isNode fresh isObject | mergedObject isNode fresh isObject =>
      exact Graph.reachesObject_self (Graph.isObject_eq_true_iff.mpr ⟨_, _, rfl, isNode, isObject⟩)
  | array isNode fresh isArray listing nonempty built =>
      obtain ⟨element, member, reaches⟩ := built.reachesObject single each nonempty rfl spans
      exact ofArray isNode isArray ⟨element, (Graph.elements_perm_members listing).mem_iff.mp member, reaches⟩
  | mergedArray isNode fresh isMerged =>
      obtain ⟨isArray, someMembers, allObjects⟩ := fresh_of_isMergedArray isNode isMerged
      obtain ⟨first, member⟩ := List.exists_mem_of_ne_nil _ someMembers
      exact ofArray isNode isArray ⟨first, member, Graph.reachesObject_self (allObjects first member).1⟩

end SpansLines

theorem Inference.reachesObject_of_answer {graph : Graph} {settings : Settings} {budget : Nat} {call : Call}
    {type : TypeExpr} (answer : (typer graph settings budget).Answers call type)
    (spans : type.spansLines = true) : graph.ReachesObject call.value := by
  refine answer_induction (fun call type => type.spansLines = true → graph.ReachesObject call.value) ?_ budget
    answer spans
  intro budget call type built
  exact built.reachesObject (fun _ _ part => single_of_answer part.1) fun _ _ part => part.2

/-- Why everything in the type of a value is laid out in the same way: shapes are kept apart, or they are merged
and the value is of one of two kinds. -/
inductive Call.Placed (graph : Graph) (settings : Settings) : (byRows : Bool) → Call → Prop
  | apart {call : Call} (uniting : settings.mode = .union) (byItself : call.merging = false) :
      Placed graph settings false call
  | plainRows {call : Call} (merging : settings.mode = .merge) (plain : graph.RowsPlain call.value) :
      Placed graph settings false call
  | uniform {call : Call} (merging : settings.mode = .merge) (uniform : graph.Uniform call.value)
      (clear : graph.Clear call.opened call.value) : Placed graph settings true call

namespace Call.Placed

variable {graph : Graph} {settings : Settings} {byRows : Bool} {outer inner : Call} {address : Address}
  {node : Node}

theorem mode_eq_merge (placed : Placed graph settings byRows outer) (merging : outer.merging = true) :
    settings.mode = .merge := by
  cases placed with
  | apart uniting byItself => cases merging.symm.trans byItself
  | plainRows merging => exact merging
  | uniform merging => exact merging

/-- What holds of a container holds of the values in it. -/
theorem of_held (placed : Placed graph settings byRows outer) (isContainer : outer.value = .container address)
    (isNode : graph.node? address = some node) (held : inner.value ∈ node.held)
    (opens : inner.opened = address :: outer.opened)
    (merges : inner.merging = true → settings.mode = .merge) : Placed graph settings byRows inner := by
  have holds : graph.Holds outer.value inner.value := by
    rw [isContainer]
    exact ⟨node, isNode, held⟩
  cases placed with
  | apart uniting byItself =>
      apply Placed.apart uniting
      rw [← Bool.not_eq_true]
      intro merging
      cases uniting.symm.trans (merges merging)
  | plainRows merging plain => exact .plainRows merging (plain.of_holds holds)
  | uniform merging uniform clear =>
      apply Placed.uniform merging (uniform.of_holds holds)
      rw [isContainer] at uniform clear
      rw [opens]
      exact clear.of_held uniform.acyclic isNode held

/-- What holds of an array holds of the values in the objects among its elements. -/
theorem of_element {object part : Value} {partDepth : Int} (placed : Placed graph settings byRows outer)
    (isContainer : outer.value = .container address) (isNode : graph.node? address = some node)
    (merging : settings.mode = .merge) (element : object ∈ node.held)
    (isObject : graph.isObject object = true) (holds : graph.Holds object part) :
    Placed graph settings byRows ⟨true, object.open (address :: outer.opened), partDepth, part⟩ := by
  obtain ⟨objectAddress, objectNode, rfl, isObjectNode, -⟩ := Graph.isObject_eq_true_iff.mp isObject
  obtain ⟨sameNode, isSame, held⟩ := holds
  have elementPlaced : Placed graph settings byRows
      ⟨true, address :: outer.opened, partDepth, .container objectAddress⟩ :=
    placed.of_held isContainer isNode element rfl fun _ => merging
  exact elementPlaced.of_held rfl isSame held rfl fun _ => merging

end Call.Placed

/-- An assignment whose types answer to the classes of the values, span lines only on account of objects, and
are laid out in the same way wherever there is a reason for it. -/
structure Assignment.LaidOut (graph : Graph) (settings : Settings) (byRows : Bool) (typed : Assignment) :
    Prop where
  single : ∀ call type, typed call type → type.Single
  byClass {call : Call} {type : TypeExpr} (assigned : typed call type) :
    graph.TypedByClass call.opened call.value type
  reachesObject {call : Call} {type : TypeExpr} (assigned : typed call type) (spans : type.spansLines = true) :
    graph.ReachesObject call.value
  place {call : Call} {type : TypeExpr} (assigned : typed call type)
    (placed : call.Placed graph settings byRows) : type.LaidOut byRows false call.depth

section Step

variable {graph : Graph} {settings : Settings} {byRows : Bool} {typed : Assignment} {opened : List Address}
  {depth : Int}

theorem Assignment.LaidOut.ne_object (parts : typed.LaidOut graph settings byRows) {call : Call}
    {type : TypeExpr} (assigned : typed call type) (noObject : graph.isObject call.value = false)
    (properties : List (Property TypeExpr)) (objectDepth : Int) : type ≠ .object properties objectDepth := by
  intro isObject
  have classified := ((parts.byClass assigned).object.mp (.inl ⟨properties, objectDepth, isObject⟩)).1
  rw [noObject] at classified
  cases classified

/-- The types of some values are laid out if all of their calls are. -/
theorem Assignment.LaidOut.places (parts : typed.LaidOut graph settings byRows) {α : Type} {items : List α}
    {types : List TypeExpr} {call : α → Call}
    (assigned : List.Forall₂ (fun item type => typed (call item) type) items types)
    (placed : ∀ item ∈ items, (call item).Placed graph settings byRows ∧ (call item).depth = depth) :
    ∀ type ∈ types, type.LaidOut byRows false depth := by
  intro type member
  obtain ⟨item, itemMember, itemAssigned⟩ := assigned.exists_left member
  obtain ⟨itemPlaced, sameDepth⟩ := placed item itemMember
  rw [← sameDepth]
  exact parts.place itemAssigned itemPlaced

/-- A merged shape is laid out at its own depth. -/
theorem Merge.Builds.laidOut (parts : typed.LaidOut graph settings byRows) {objects : List Value}
    (nonempty : objects ≠ []) (allObjects : ∀ object ∈ objects, graph.isObject object = true)
    (placed : ∀ object ∈ objects, ∀ part, graph.Holds object part →
      Call.Placed graph settings byRows ⟨true, object.open opened, depth + 1, part⟩)
    {type : TypeExpr} (built : Builds graph settings typed opened depth objects type) (inArray : Bool) :
    type.LaidOut byRows inArray depth := by
  cases built with
  | nothing => exact absurd rfl nonempty
  | noKeys => rfl
  | properties _ describing _ built =>
      refine ⟨rfl, TypeExpr.propertiesLaidOut_iff.mpr ?_⟩
      intro property member
      obtain ⟨key, -, types, contributed, rfl⟩ := built.exists_left member
      have places : ∀ type ∈ types, type.LaidOut byRows false (depth + 1) := by
        apply parts.places contributed
        intro contributor contributorMember
        obtain ⟨objectMember, entries, listing, filed⟩ :=
          (mem_contributors_iff_filed describing).mp contributorMember
        have holds := Graph.holds_of_filed (allObjects _ objectMember) listing filed
        exact ⟨placed _ objectMember _ holds, rfl⟩
      exact TypeExpr.laidOut_sortedUnion (fun impossible => absurd impossible Bool.false_ne_true) places

/-- Mixed elements that have a single type are not typed on several lines: they would all be arrays or all be
objects. -/
theorem ArrayUnion.oneLine_of_mixed (parts : typed.LaidOut graph settings byRows) {elements : List Value}
    {types : List TypeExpr} {merging : Value → Bool} (nonempty : elements ≠ [])
    (mixed : ArrayKind.ofElements graph opened elements = .mixed)
    (elementTypes : List.Forall₂ (fun element type => typed ⟨merging element, opened, depth + 1, element⟩ type)
      elements types) {shape : TypeExpr} (agree : TypeExpr.distinctByText settings types = [shape]) :
    shape.spansLines = false := by
  have single := each_of_forall₂ elementTypes fun _ _ => parts.single _ _
  have represents := TypeExpr.represents_distinctByText settings types
  rw [agree] at represents
  have shapeSingle := single shape (represents.mem_of_mem shape List.mem_cons_self)
  have alike : ∀ element ∈ elements, ∃ type, type.normal settings = shape.normal settings ∧
      graph.TypedByClass opened element type := by
    intro element member
    obtain ⟨type, typeMember, assigned⟩ := elementTypes.exists_right member
    obtain ⟨variant, isShape, sameText⟩ := represents.exists_mem type typeMember
    rw [List.mem_singleton.mp isShape] at sameText
    exact ⟨type, TypeExpr.normal_eq_of_render_eq settings (single type typeMember).2 shapeSingle.2 sameText.symm,
      parts.byClass assigned⟩
  rw [← Bool.not_eq_true]
  intro spans
  rcases TypeExpr.isArray_or_isObject_of_spansLines shapeSingle.1 spans with isArray | isObject
  · have arrays : ArrayKind.ofElements graph opened elements = .arrays := by
      rw [ArrayKind.ofElements_eq_arrays_iff]
      intro element member
      obtain ⟨type, same, byClass⟩ := alike element member
      have typeIsArray : type.IsArray := by
        rw [← TypeExpr.isArray_normal_iff, same, TypeExpr.isArray_normal_iff]
        exact isArray
      exact (byClass.array.mp typeIsArray).1
    cases mixed.symm.trans arrays
  · have objects : ArrayKind.ofElements graph opened elements = .objects := by
      apply ArrayKind.ofElements_eq_objects nonempty
      intro element member
      obtain ⟨type, same, byClass⟩ := alike element member
      have typeIsObject : type.IsObject := by
        rw [← TypeExpr.isObject_normal_iff, same, TypeExpr.isObject_normal_iff]
        exact isObject
      exact byClass.object.mp typeIsObject
    cases mixed.symm.trans objects

/-- The union of shapes that are kept apart is laid out as an element, on several lines if on more than one. -/
theorem ArrayUnion.BuildsShapes.laidOut (parts : typed.LaidOut graph settings false) {elements : List Value}
    (placed : ∀ element ∈ elements, ∀ elementDepth,
      Call.Placed graph settings false ⟨false, opened, elementDepth, element⟩)
    {shapes : TypeExpr} (built : BuildsShapes settings typed opened depth elements shapes)
    (severalLines : ∀ members depth multiline, shapes = .union members depth multiline → multiline = true) :
    shapes.LaidOut false true depth := by
  cases built with
  | one elementTypes agree again =>
      have place := parts.place again (placed _ List.mem_cons_self depth)
      exact place.element (parts.single _ _ again).1 true
  | several elementTypes differ =>
      have places := parts.places elementTypes fun element member => ⟨placed element member _, rfl⟩
      have isMultiline := severalLines _ _ _ rfl
      refine ⟨by rw [if_pos isMultiline], TypeExpr.membersLaidOut_iff.mpr ?_⟩
      intro shape member
      exact places shape ((TypeExpr.represents_distinctByText settings _).mem_of_mem shape member)

section Elements

variable {outer : Call} {address : Address} {node : Node} {elements : List Value} {types : List TypeExpr}
  (placed : outer.Placed graph settings byRows) (isContainer : outer.value = .container address)
  (isNode : graph.node? address = some node) (isArray : node.isObject = false)
  (members : elements.Perm node.members)
include placed isContainer isNode isArray members

theorem Call.Placed.of_mem_elements {element : Value} (member : element ∈ elements) (merging : Bool)
    (elementDepth : Int) (merges : merging = true → settings.mode = .merge) :
    Placed graph settings byRows ⟨merging, address :: outer.opened, elementDepth, element⟩ :=
  placed.of_held isContainer isNode (node.mem_held_of_perm isArray members member) rfl merges

/-- Where objects are merged, an array of arrays is laid out if there is no object inside it, and also if none of
the arrays in it has objects and other elements. -/
theorem ArrayUnion.laidOut_arrays (parts : typed.LaidOut graph settings byRows)
    (arrays : ∀ element ∈ elements, graph.isArray element = true) (merging : settings.mode = .merge)
    (elementTypes : List.Forall₂
      (fun element type => typed ⟨false, address :: outer.opened, outer.depth + 1, element⟩ type) elements types) :
    (arrayOfArrays settings types).LaidOut byRows false outer.depth := by
  have single := each_of_forall₂ elementTypes fun _ _ => parts.single _ _
  have places := parts.places elementTypes fun element member =>
    ⟨placed.of_mem_elements isContainer isNode isArray members member false _ nofun, rfl⟩
  cases placed with
  | apart uniting => cases merging.symm.trans uniting
  | plainRows _ plain =>
      rw [isContainer] at plain
      have noObject := plain address node .refl isNode isArray fun element member =>
        arrays element (members.mem_iff.mpr member)
      have oneLine : ∀ type ∈ types, type.spansLines = false := by
        intro type typeMember
        obtain ⟨element, member, assigned⟩ := elementTypes.exists_left typeMember
        have held := node.mem_held_of_perm isArray members member
        rw [← Bool.not_eq_true]
        intro spans
        exact noObject ((parts.reachesObject assigned spans).of_holds ⟨node, isNode, held⟩)
      exact TypeExpr.laidOut_arrayOfArrays_of_oneLine single
        (fun type member => ⟨_, _, _, places type member⟩) oneLine
  | uniform =>
      have noObjects : ∀ type ∈ types, ∀ properties depth, type ≠ .object properties depth := by
        intro type typeMember
        obtain ⟨element, member, assigned⟩ := elementTypes.exists_left typeMember
        exact parts.ne_object assigned (Graph.not_isObject_of_isArray (arrays element member))
      have noUnions : ∀ type ∈ types, type.isUnion = false := fun type member => (single type member).1
      apply TypeExpr.laidOut_arrayOfArrays _ noUnions noObjects
      intro type member
      exact (places type member).row (noUnions type member) (noObjects type member)

/-- The union of mixed elements takes them one level further in, unless there are no objects among them. -/
theorem ArrayUnion.laidOut_mixed (parts : typed.LaidOut graph settings byRows) (nonempty : elements ≠ [])
    (mixed : ArrayKind.ofElements graph (address :: outer.opened) elements = .mixed)
    (elementTypes : List.Forall₂ (fun element type =>
      typed ⟨decide (settings.mode = .merge ∧ graph.isObject element = true), address :: outer.opened,
        outer.depth + 1, element⟩ type) elements types) :
    (TypeExpr.unionOf (TypeExpr.distinctByText settings types)).LaidOut byRows true outer.depth := by
  have represents := TypeExpr.represents_distinctByText settings types
  have single := represents.single (each_of_forall₂ elementTypes fun _ _ => parts.single _ _)
  have elementPlaced {element : Value} (member : element ∈ elements) :=
    placed.of_mem_elements isContainer isNode isArray members member
  have places := parts.places elementTypes fun element member =>
    ⟨elementPlaced member _ _ fun merges => (of_decide_eq_true merges).1, rfl⟩
  cases byRows with
  | false =>
      apply TypeExpr.laidOut_unionOf_element
      · intro type member
        exact places type (represents.mem_of_mem type member)
      · intro type agree
        exact oneLine_of_mixed parts nonempty mixed elementTypes agree
  | true =>
      have noObject : ∀ element ∈ elements, graph.isObject element = false := by
        intro element member
        rw [← Bool.not_eq_true]
        intro isObject
        cases placed with
        | uniform merging uniform clear =>
            rw [isContainer] at uniform clear
            have objects := uniform.objects .refl isNode isArray
              ⟨element, members.mem_iff.mp member, isObject⟩
            have allObjects : ArrayKind.ofElements graph (address :: outer.opened) elements = .objects := by
              apply ArrayKind.ofElements_eq_objects nonempty
              intro other otherMember
              have held := node.mem_held_of_perm isArray members otherMember
              exact ⟨objects other (members.mem_iff.mp otherMember),
                (clear.of_held uniform.acyclic isNode held).isOpen_eq_false⟩
            cases mixed.symm.trans allObjects
      apply TypeExpr.laidOut_unionOf fun _ => rfl
      intro type member
      have isType := represents.mem_of_mem type member
      obtain ⟨element, elementMember, assigned⟩ := elementTypes.exists_left isType
      exact (places type isType).row (single type member).1
        (parts.ne_object assigned (noObject element elementMember))

/-- The type of an array is laid out if the types of its elements are. -/
theorem ArrayUnion.Builds.laidOut (parts : typed.LaidOut graph settings byRows) (nonempty : elements ≠ [])
    {kind : ArrayKind} {type : TypeExpr}
    (classified : ArrayKind.ofElements graph (address :: outer.opened) elements = kind)
    (built : Builds graph settings typed (address :: outer.opened) outer.depth elements kind type) :
    type.LaidOut byRows false outer.depth := by
  have elementPlaced {element : Value} (member : element ∈ elements) :=
    placed.of_mem_elements isContainer isNode isArray members member
  cases built with
  | arrays merging elementTypes =>
      exact laidOut_arrays placed isContainer isNode isArray members parts
        (ArrayKind.ofElements_eq_arrays_iff.mp classified) merging elementTypes
  | mixed elementTypes =>
      exact TypeExpr.laidOut_array
        (laidOut_mixed placed isContainer isNode isArray members parts nonempty classified elementTypes)
  | objects merging built =>
      have fresh := ArrayKind.fresh_of_ofElements classified
      apply TypeExpr.laidOut_array
      apply built.laidOut parts nonempty (fun object member => (fresh object member).1)
      intro object member part holds
      have held := node.mem_held_of_perm isArray members member
      exact placed.of_element isContainer isNode merging held (fresh object member).1 holds
  | arrayShapes uniting built spansLines =>
      cases placed with
      | apart =>
          exact built.laidOut parts (fun element member elementDepth => elementPlaced member false elementDepth nofun)
            (built.multiline_of_spansLines parts.single spansLines)
      | plainRows merging | uniform merging => cases merging.symm.trans uniting
  | flatArrayShapes uniting built oneLine =>
      apply TypeExpr.laidOut_arrayOfArrays_of_oneLine (built.variants_single parts.single nonempty).2
      · intro variant isVariant
        obtain ⟨element, member, variantDepth, -, assigned⟩ := built.exists_element parts.single variant isVariant
        exact ⟨_, _, _, parts.place assigned (elementPlaced member false variantDepth nofun)⟩
      · intro variant isVariant
        rw [← built.any_variants parts.single, List.any_eq_false] at oneLine
        simpa using oneLine variant isVariant
  | objectShapes uniting built =>
      have fresh := ArrayKind.fresh_of_ofElements classified
      have objects : ∀ element ∈ elements, ∀ depth type,
          typed ⟨false, address :: outer.opened, depth, element⟩ type →
            type = .emptyObject ∨ type.spansLines = true := by
        intro element member depth type assigned
        rcases (parts.byClass assigned).object.mpr (fresh element member) with
          ⟨properties, objectDepth, rfl⟩ | ⟨value, rfl⟩
        · exact .inr rfl
        · have isNever : value = .never := parts.place assigned (elementPlaced member false depth nofun)
          exact .inl (congrArg TypeExpr.record isNever)
      cases placed with
      | apart =>
          exact built.laidOut parts (fun element member elementDepth => elementPlaced member false elementDepth nofun)
            (built.multiline_of_objects parts.single nonempty objects)
      | plainRows merging | uniform merging => cases merging.symm.trans uniting

end Elements

/-- A step lays out the type of a value if the types of the parts are laid out. -/
theorem Inference.Builds.laidOut (parts : typed.LaidOut graph settings byRows) {call : Call} {type : TypeExpr}
    (placed : call.Placed graph settings byRows) (built : Builds graph settings typed call type) :
    type.LaidOut byRows false call.depth := by
  cases built with
  | leaf merging opened depth leaf => exact leaf.laidOut_type _ _ _
  | missing | circular | emptyArray => exact trivial
  | @object opened depth address node entries properties isNode fresh isObject listing built =>
      split
      · rfl
      · refine ⟨rfl, TypeExpr.propertiesLaidOut_iff.mpr ?_⟩
        intro property member
        obtain ⟨entry, entryMember, types, partTypes, rfl⟩ := built.exists_left member
        have places : ∀ type ∈ types, type.LaidOut byRows false (depth + 1) := by
          apply parts.places partTypes
          intro part partMember
          have held := (Graph.mem_held_iff_of_entries listing).mpr ⟨entry.1, entry, entryMember, rfl, partMember⟩
          exact ⟨placed.of_held rfl isNode held rfl nofun, rfl⟩
        apply TypeExpr.laidOut_unionOf (fun impossible => absurd impossible Bool.false_ne_true)
        intro type isVariant
        exact places type ((TypeExpr.represents_distinctByText settings types).mem_of_mem type isVariant)
  | @mergedObject opened depth address node type isNode fresh isObject built =>
      have merging := placed.mode_eq_merge rfl
      have isObjectValue := Graph.isObject_eq_true_iff.mpr ⟨address, node, rfl, isNode, isObject⟩
      apply built.laidOut parts (List.cons_ne_nil _ _)
      · intro object member
        rw [List.mem_singleton.mp member]
        exact isObjectValue
      · intro object member part holds
        obtain ⟨sameNode, isSame, held⟩ := holds
        rw [List.mem_singleton.mp member] at isSame ⊢
        exact placed.of_held rfl isSame held rfl fun _ => merging
  | array isNode fresh isArray listing nonempty built =>
      exact built.laidOut placed rfl isNode isArray (Graph.elements_perm_members listing) parts nonempty rfl
  | mergedArray isNode fresh isMerged built =>
      obtain ⟨isArray, someMembers, allObjects⟩ := fresh_of_isMergedArray isNode isMerged
      have merging := placed.mode_eq_merge rfl
      apply TypeExpr.laidOut_array
      apply built.laidOut parts someMembers (fun object member => (allObjects object member).1)
      intro object member part holds
      have held := member
      rw [← Node.held_of_array isArray] at held
      exact placed.of_element rfl isNode merging held (allObjects object member).1 holds

end Step

theorem Inference.laidOut_of_answer {graph : Graph} {settings : Settings} {byRows : Bool} {budget : Nat}
    {call : Call} {type : TypeExpr} (answer : (typer graph settings budget).Answers call type)
    (placed : call.Placed graph settings byRows) : type.LaidOut byRows false call.depth := by
  refine answer_induction (fun call type => call.Placed graph settings byRows →
    type.LaidOut byRows false call.depth) ?_ budget answer placed
  intro budget call type built placed
  refine built.laidOut ?_ placed
  exact {
    single := fun _ _ part => single_of_answer part.1
    byClass := fun part => typedByClass_of_answer part.1
    reachesObject := fun part => reachesObject_of_answer part.1
    place := fun part => part.2 }

namespace TypeExpr

/-- Whether the members of every union in a type have different texts. -/
def TextsDiffer (settings : Settings) (type : TypeExpr) : Prop :=
  ∀ members depth multiline, Occurs (.union members depth multiline) type →
    members.Pairwise fun earlier later => earlier.render settings ≠ later.render settings

theorem hereditary_textsDiffer (settings : Settings) :
    Hereditary settings (fun _ => True) (TextsDiffer settings) where
  deeper _ := trivial
  leaf leaf := by
    intro members depth multiline occurs
    cases leaf with
    | integer amount kind =>
        rw [Leaf.type] at occurs
        split at occurs <;> cases occurs
    | _ => cases occurs
  unknown := nofun
  circular := nofun
  emptyObject := by
    intro members depth multiline occurs
    cases occurs with
    | value below => cases below
  array_iff := by
    intro element
    constructor
    · intro differ members depth multiline occurs
      exact differ members depth multiline (.element occurs)
    · intro differ members depth multiline occurs
      cases occurs with
      | element below => exact differ members depth multiline below
  object := by
    intro properties depth _ values members unionDepth multiline occurs
    cases occurs with
    | property member below => exact values _ member members unionDepth multiline below
  union := by
    intro members depth multiline _ each differ others otherDepth otherMultiline occurs
    cases occurs with
    | here => exact differ
    | member isMember below => exact each _ isMember others otherDepth otherMultiline below
  members := by
    intro members depth multiline differ member isMember others otherDepth otherMultiline occurs
    exact differ others otherDepth otherMultiline (.member isMember occurs)

end TypeExpr

namespace Graph

/-- A value has a type, unless the contents of a container inside it cannot be listed, and the members of every
union in the type have different texts.  They differ in more than depths in each of four cases: shapes are kept
apart; lines are not indented; no object is inside an array of arrays; or no container contains itself and an
array with an object among its elements has only objects. -/
theorem infer_tells_members_apart (graph : Graph) (settings : Settings) (value : Value) (depth : Int) :
    (∃ type, graph.infer settings value depth = .ok type ∧
        ∀ members unionDepth multiline, TypeExpr.Occurs (.union members unionDepth multiline) type →
          members.Pairwise (fun earlier later => earlier.render settings ≠ later.render settings) ∧
          (settings.mode = .union ∨ settings.indent ≤ 0 ∨ graph.RowsPlain value ∨ graph.Uniform value →
            members.Pairwise fun earlier later => earlier.withoutDepths ≠ later.withoutDepths)) ∨
      ∃ fault, graph.infer settings value depth = .error fault ∧ graph.FailsBelow value fault := by
  rcases infer_cases graph settings value depth with ⟨type, inferred⟩ | failed
  · refine .inl ⟨type, inferred, ?_⟩
    intro members unionDepth multiline occurs
    have answer := answers_of_infer inferred
    have differ := Inference.hereditary_of_answer (TypeExpr.hereditary_textsDiffer settings) answer trivial
      members unionDepth multiline occurs
    have apart {byRows : Bool} (placed : (Call.first value depth).Placed graph settings byRows) :
        members.Pairwise fun earlier later => earlier.withoutDepths ≠ later.withoutDepths := by
      apply (Inference.laidOut_of_answer answer placed).pairwise_withoutDepths_ne occurs
      exact differ.imp fun texts same => texts (congrArg _ same)
    refine ⟨differ, ?_⟩
    intro reason
    cases mode : settings.mode with
    | union => exact apart (.apart mode rfl)
    | merge =>
        rcases reason with uniting | flat | plain | uniform
        · cases mode.symm.trans uniting
        · apply differ.imp
          intro earlier later texts same
          rw [← TypeExpr.normal_eq_withoutDepths flat, ← TypeExpr.normal_eq_withoutDepths flat] at same
          apply texts
          rw [← TypeExpr.render_normal, same, TypeExpr.render_normal]
        · exact apart (.plainRows mode plain)
        · exact apart (.uniform mode uniform (clear_nil value))
  · exact .inr failed

/-- An object in a list of objects and in a list of mixed elements: `[[{a: 1}], [{a: 1}, 1]]`. -/
def unevenRows : Graph :=
  ⟨#[.sequence .list [.container 1, .container 2], .sequence .list [.container 3],
    .sequence .list [.container 3, .leaf (.integer 1)],
    .mapping .plain [(.leaf (.text "a"), .leaf (.integer 1))]]⟩

/-- Beside an element that is no object the object is laid out one level deeper, so it is in the union twice. -/
example :
    let object := TypeExpr.object [⟨"a", .primitive "number", false⟩]
    unevenRows.infer {} (.container 0) =
      .ok (.array (.array (.union [.primitive "number", object 2, object 1] 0 false))) := by
  decide +kernel

end Graph

end SampleTypes
