import SampleTypes.Proofs.Classification
import SampleTypes.Proofs.Circularity
import SampleTypes.Proofs.Soundness

/-!
# Merging widens types

Where the objects of an array are merged, a value gets a type that holds everything that its type with the
shapes kept apart holds.  The two ways of typing recurse differently, so the comparison is made value by value:
the type of a value with shapes kept apart is compared with whatever type the value gets by itself, as a part
of a merged object, or as one of several merged objects.  A container of several classes may be typed by one class in
one mode and by another one in the other.
-/

namespace SampleTypes

namespace TypeExpr

/-- Every value of every world that one type holds is held by the other. -/
def Within (narrow wide : TypeExpr) : Prop :=
  ∀ (Item : Type) (world : World Item) (item : Item), narrow.HeldIn world item → wide.HeldIn world item

/-- Every value that one of some types holds is held by one of others. -/
def SomeWithin (narrow wide : List TypeExpr) : Prop :=
  ∀ (Item : Type) (world : World Item) (item : Item), (∃ type ∈ narrow, type.HeldIn world item) →
    ∃ type ∈ wide, type.HeldIn world item

/-- A type holds what one of some types holds. -/
def IsUnionOf (type : TypeExpr) (types : List TypeExpr) : Prop :=
  ∀ (Item : Type) (world : World Item) (item : Item),
    type.HeldIn world item ↔ ∃ part ∈ types, part.HeldIn world item

/-- A type is within another one, and if it is an array, then so is the other one and the elements are within
each other. -/
structure Widens (narrow wide : TypeExpr) : Prop where
  within : narrow.Within wide
  elements {element : TypeExpr} (isArray : narrow = .array element) :
    ∃ wider, wide = .array wider ∧ element.Within wider

theorem Within.refl (type : TypeExpr) : type.Within type :=
  fun _ _ _ held => held

theorem Within.trans {narrow middle wide : TypeExpr} (first : narrow.Within middle)
    (second : middle.Within wide) : narrow.Within wide :=
  fun _ world item held => second _ world item (first _ world item held)

theorem Within.inhabitedBy {narrow wide : TypeExpr} (within : narrow.Within wide) {graph : Graph} {value : Value}
    (inhabited : narrow.InhabitedBy graph value) : wide.InhabitedBy graph value := by
  rw [inhabitedBy_iff_heldIn] at inhabited ⊢
  exact within _ graph.world value inhabited

theorem Within.array {narrow wide : TypeExpr} (within : narrow.Within wide) :
    Within (.array narrow) (.array wide) := by
  rintro Item world item ⟨isArray, each⟩
  exact ⟨isArray, fun part hasElement => within _ world part (each part hasElement)⟩

theorem Widens.refl (type : TypeExpr) : type.Widens type where
  within := .refl type
  elements isArray := ⟨_, isArray, .refl _⟩

theorem Within.widens_array {narrow wide : TypeExpr} (within : narrow.Within wide) :
    Widens (.array narrow) (.array wide) where
  within := within.array
  elements := by
    rintro element isArray
    cases isArray
    exact ⟨wide, rfl, within⟩

theorem IsUnionOf.within {narrow wide : TypeExpr} {narrows wides : List TypeExpr}
    (narrowUnion : narrow.IsUnionOf narrows) (wideUnion : wide.IsUnionOf wides)
    (within : SomeWithin narrows wides) : narrow.Within wide := by
  intro Item world item held
  exact (wideUnion _ world item).mpr (within _ world item ((narrowUnion _ world item).mp held))

section Unions

variable {settings : Settings} {types : List TypeExpr}

theorem isUnionOf_sortedUnion (single : ∀ type ∈ types, type.Single) :
    (sortedUnion settings types).IsUnionOf types :=
  fun _ _ _ => heldIn_sortedUnion_iff single

theorem isUnionOf_unionOf_distinctByText (single : ∀ type ∈ types, type.Single) :
    (unionOf (distinctByText settings types)).IsUnionOf types :=
  fun _ _ _ => heldIn_unionOf_distinctByText_iff single

theorem isUnionOf_variants (type : TypeExpr) : type.IsUnionOf (ArrayUnion.variants type) :=
  fun _ _ _ => heldIn_iff_exists_variant

/-- The parts of an array type without its array hold together what its elements may be. -/
theorem isUnionOf_unwrapArray (element : TypeExpr) : element.IsUnionOf (array element).unwrapArray := by
  rw [unwrapArray_array]
  exact isUnionOf_variants element

end Unions

section Objects

variable {narrows wides : List (Property TypeExpr)} {depth wideDepth : Int}

/-- An object type is within another one that knows its keys, requires no others, and has wider types for the
values under them. -/
theorem within_object (known : ∀ narrow ∈ narrows, ∃ wide ∈ wides, wide.key = narrow.key)
    (required : ∀ wide ∈ wides, wide.optional = false →
      ∃ narrow ∈ narrows, narrow.key = wide.key ∧ narrow.optional = false)
    (values : ∀ narrow ∈ narrows, ∀ wide ∈ wides, narrow.key = wide.key → narrow.value.Within wide.value) :
    (object narrows depth).Within (object wides wideDepth) := by
  rintro Item world item ⟨isObject, knownKeys, properties⟩
  rw [propertiesHeldIn_iff] at properties
  refine ⟨isObject, ?_, propertiesHeldIn_iff.mpr ?_⟩
  · intro key part hasEntry
    obtain ⟨narrow, member, rfl⟩ := knownKeys key part hasEntry
    obtain ⟨wide, wideMember, same⟩ := known narrow member
    exact ⟨wide, wideMember, congrArg Except.ok same.symm⟩
  · intro wide wideMember
    constructor
    · intro isRequired
      obtain ⟨narrow, member, same, narrowRequired⟩ := required wide wideMember isRequired
      rw [← same]
      exact (properties narrow member).1 narrowRequired
    · intro part hasEntry
      obtain ⟨narrow, member, same⟩ := knownKeys _ part hasEntry
      have sameKey : wide.key = narrow.key := Except.ok.inj same
      rw [sameKey] at hasEntry
      exact values narrow member wide wideMember sameKey.symm _ world part
        ((properties narrow member).2 part hasEntry)

/-- The type of an object without keys is an object type without properties. -/
theorem heldIn_emptyObject_iff_object {Item : Type} {world : World Item} {item : Item} :
    emptyObject.HeldIn world item ↔ (object [] depth).HeldIn world item := by
  rw [heldIn_emptyObject_iff]
  simp only [HeldIn, PropertiesHeldIn, List.not_mem_nil, false_and, exists_false, and_true, imp_false]

/-- The type of an object by its properties, of which there may be none. -/
theorem heldIn_orEmpty_iff {Item : Type} {world : World Item} {item : Item} {properties : List (Property TypeExpr)} :
    (if properties.isEmpty then emptyObject else object properties depth).HeldIn world item ↔
      (object properties depth).HeldIn world item := by
  cases properties with
  | nil => exact heldIn_emptyObject_iff_object
  | cons property properties => rfl

/-- The type of an object by its properties, of which there may be none. -/
def objectOf (properties : List (Property TypeExpr)) (depth : Int) : TypeExpr :=
  if properties.isEmpty then .emptyObject else .object properties depth

theorem objectOf_eq_emptyObject_iff {properties : List (Property TypeExpr)} :
    objectOf properties depth = .emptyObject ↔ properties = [] := by
  cases properties <;> simp [objectOf, emptyObject]

theorem within_objectOf (within : (object narrows depth).Within (object wides wideDepth)) :
    (objectOf narrows depth).Within (objectOf wides wideDepth) := by
  intro Item world item held
  apply heldIn_orEmpty_iff.mpr
  exact within _ world item (heldIn_orEmpty_iff.mp held)

end Objects

end TypeExpr

/-- The properties of the merged shape of objects, of which there are none if no object has a key. -/
theorem Merge.Builds.exists_properties {graph : Graph} {settings : Settings} {typed : Assignment}
    {opened : List Address} {depth : Int} {objects : List Value} {type : TypeExpr} (nonempty : objects ≠ [])
    (built : Builds graph settings typed opened depth objects type) :
    ∃ described properties, describe graph objects = .ok described ∧ type = .objectOf properties depth ∧
      List.Forall₂ (BuildsProperty settings typed opened depth described) (keys described) properties := by
  cases built with
  | nothing => exact absurd rfl nonempty
  | @noKeys _ described _ describing noKeys =>
      refine ⟨described, [], describing, rfl, ?_⟩
      rw [noKeys]
      exact .nil
  | @properties _ described properties _ describing someKeys built =>
      refine ⟨described, properties, describing, ?_, built⟩
      have someProperties := ne_nil_of_forall₂ built someKeys
      rw [TypeExpr.objectOf, if_neg (by simpa using someProperties)]

namespace Graph

variable {graph : Graph} {value : Value}

/-- A value in which no container contains itself and nothing is a member of a flag enumeration. -/
structure Tame (graph : Graph) (value : Value) : Prop where
  acyclic : ¬graph.ContainsCycle value
  flagFree : graph.FlagFree value

theorem Tame.of_held {address : Address} {node : Node} {part : Value}
    (tame : graph.Tame (.container address)) (isNode : graph.node? address = some node)
    (held : part ∈ node.held) : graph.Tame part where
  acyclic := not_containsCycle_of_holds tame.acyclic ⟨node, isNode, held⟩
  flagFree := tame.flagFree.of_held isNode held

end Graph

/-- Where no element is open, what the elements are does not depend on what is open. -/
theorem ArrayKind.ofElements_of_clear {graph : Graph} {opened : List Address} {elements : List Value}
    (clear : ∀ element ∈ elements, graph.Clear opened element) :
    ofElements graph opened elements = ofElements graph [] elements := by
  have sameTest : (elements.all fun element => graph.isObject element && !element.isOpen opened) =
      elements.all fun element => graph.isObject element && !element.isOpen [] := by
    rw [Bool.eq_iff_iff, List.all_eq_true, List.all_eq_true]
    refine forall₂_congr fun element member => ?_
    rw [(clear element member).isOpen_eq_false, element.isOpen_nil]
  rw [ofElements, ofElements, sameTest]

namespace Inference

/-- The types with which calls are answered under some budget. -/
def Answered (graph : Graph) (settings : Settings) : Assignment :=
  fun call type => ∃ budget, (typer graph settings budget).Answers call type

variable {graph : Graph} {settings : Settings} {typed : Assignment} {call : Call} {type : TypeExpr}

theorem Answered.single (answered : Answered graph settings call type) : type.Single := by
  obtain ⟨budget, answer⟩ := answered
  exact single_of_answer answer

theorem Answered.builds (answered : Answered graph settings call type) :
    Builds graph settings (Answered graph settings) call type := by
  obtain ⟨budget, answer⟩ := answered
  exact answer_induction (Builds graph settings (Answered graph settings))
    (fun budget _ _ built => built.imp fun _ _ part => ⟨budget, part.1⟩) budget answer

end Inference

/-- A type of a value is within every type that the value gets where objects are merged: by itself, as a part
of a merged object, and as one of several merged objects. -/
structure Widened (graph : Graph) (settings : Settings) (value : Value) (narrow : TypeExpr) : Prop where
  answers {merging : Bool} {opened : List Address} {depth : Int} {wide : TypeExpr}
    (clear : graph.Clear opened value)
    (answered : Inference.Answered graph settings ⟨merging, opened, depth, value⟩ wide) :
    narrow.Widens wide
  merges {opened : List Address} {depth : Int} {objects : List Value} {wide : TypeExpr}
    (clear : graph.Clear opened value) (isObject : graph.isObject value = true)
    (member : value ∈ objects)
    (built : Merge.Builds graph settings (Inference.Answered graph settings) opened depth objects wide) :
    narrow.Within wide
  isArray (isArray : graph.isArray value = true) : ∃ element, narrow = .array element

/-- An assignment whose types are within the types that values get where objects are merged. -/
structure Assignment.WidenedBy (graph : Graph) (settings : Settings) (typed : Assignment) : Prop where
  single {call : Call} {type : TypeExpr} (assigned : typed call type) : type.Single
  widened {opened : List Address} {depth : Int} {value : Value} {type : TypeExpr}
    (assigned : typed ⟨false, opened, depth, value⟩ type) (tame : graph.Tame value)
    (clear : graph.Clear opened value) : Widened graph settings value type

section Step

variable {graph : Graph} {apart settings : Settings} {typed : Assignment}
  (parts : typed.WidenedBy graph settings)
include parts

/-- If every part has a type among the wide ones, then the narrow types are within these. -/
theorem Assignment.WidenedBy.someWithin {opened : List Address} {depth : Int} {values : List Value}
    {narrows wides : List TypeExpr}
    (narrowTypes : List.Forall₂ (fun part type => typed ⟨false, opened, depth, part⟩ type) values narrows)
    (tame : ∀ part ∈ values, graph.Tame part) (clear : ∀ part ∈ values, graph.Clear opened part)
    (answered : ∀ part ∈ values, ∃ wide ∈ wides, ∃ merging wideOpened wideDepth,
      graph.Clear wideOpened part ∧
        Inference.Answered graph settings ⟨merging, wideOpened, wideDepth, part⟩ wide) :
    TypeExpr.SomeWithin narrows wides := by
  rintro Item world item ⟨narrow, member, held⟩
  obtain ⟨part, partMember, assigned⟩ := narrowTypes.exists_left member
  obtain ⟨wide, wideMember, merging, wideOpened, wideDepth, wideClear, wideAnswered⟩ :=
    answered part partMember
  have widened := parts.widened assigned (tame part partMember) (clear part partMember)
  exact ⟨wide, wideMember, (widened.answers wideClear wideAnswered).within _ world item held⟩

/-- The values under one key of an object have wider types in another type of the object. -/
theorem Inference.someWithin_entry {opened wideOpened : List Address} {depth wideDepth : Int}
    {merging : Bool} {address : Address} {node : Node} {entries : List (String × List Value)}
    (isNode : graph.node? address = some node) (listing : graph.entriesOfNode node = .ok entries)
    (tame : graph.Tame (.container address)) (clear : graph.Clear opened (.container address))
    (wideClear : graph.Clear wideOpened (.container address)) {entry : String × List Value}
    (member : entry ∈ entries) {narrows wides : List TypeExpr}
    (narrowTypes : List.Forall₂ (fun part type => typed ⟨false, address :: opened, depth, part⟩ type)
      entry.2 narrows)
    (answered : ∀ part ∈ entry.2, ∃ wide ∈ wides,
      Inference.Answered graph settings ⟨merging, address :: wideOpened, wideDepth, part⟩ wide) :
    TypeExpr.SomeWithin narrows wides := by
  have held (part : Value) (partMember : part ∈ entry.2) : part ∈ node.held :=
    (Graph.mem_held_iff_of_entries listing).mpr ⟨entry.1, entry, member, rfl, partMember⟩
  apply parts.someWithin narrowTypes
  · intro part partMember
    exact tame.of_held isNode (held part partMember)
  · intro part partMember
    exact clear.of_held tame.acyclic isNode (held part partMember)
  · intro part partMember
    obtain ⟨wide, wideMember, wideAnswered⟩ := answered part partMember
    exact ⟨wide, wideMember, merging, _, wideDepth, wideClear.of_held tame.acyclic isNode (held part partMember),
      wideAnswered⟩

section Objects

variable {opened wideOpened : List Address} {depth wideDepth : Int} {address : Address} {node : Node}
  {entries : List (String × List Value)} {properties wideProperties : List (Property TypeExpr)}

/-- An object that is typed by itself where objects are merged gets a wider type than where they are not. -/
theorem Inference.within_object (isNode : graph.node? address = some node)
    (listing : graph.entriesOfNode node = .ok entries) (tame : graph.Tame (.container address))
    (clear : graph.Clear opened (.container address))
    (wideClear : graph.Clear wideOpened (.container address))
    (built : List.Forall₂ (BuildsProperty apart typed (address :: opened) depth) entries properties)
    (wideBuilt : List.Forall₂ (BuildsProperty settings (Answered graph settings) (address :: wideOpened)
      wideDepth) entries wideProperties) :
    (TypeExpr.object properties depth).Within (.object wideProperties wideDepth) := by
  have grouped := Graph.grouped_of_entriesOfNode listing
  apply TypeExpr.within_object
  · intro narrow member
    obtain ⟨entry, entryMember, types, -, rfl⟩ := built.exists_left member
    obtain ⟨wide, wideMember, wideTypes, -, rfl⟩ := wideBuilt.exists_right entryMember
    exact ⟨_, wideMember, rfl⟩
  · intro wide wideMember _
    obtain ⟨entry, entryMember, wideTypes, -, rfl⟩ := wideBuilt.exists_left wideMember
    obtain ⟨narrow, member, types, -, rfl⟩ := built.exists_right entryMember
    exact ⟨_, member, rfl, rfl⟩
  · intro narrow member wide wideMember sameKey
    obtain ⟨entry, entryMember, types, partTypes, rfl⟩ := built.exists_left member
    obtain ⟨wideEntry, wideEntryMember, wideTypes, widePartTypes, rfl⟩ := wideBuilt.exists_left wideMember
    obtain rfl := grouped.eq_of_key_eq entryMember wideEntryMember sameKey
    have single := each_of_forall₂ partTypes fun _ _ assigned => parts.single assigned
    have wideSingle := each_of_forall₂ widePartTypes fun _ _ answered => answered.single
    apply (TypeExpr.isUnionOf_unionOf_distinctByText single).within
      (TypeExpr.isUnionOf_unionOf_distinctByText wideSingle)
    apply someWithin_entry parts isNode listing tame clear wideClear entryMember partTypes
    intro part partMember
    exact widePartTypes.exists_right partMember

/-- An object that is merged with others gets a wider type than where objects are not merged. -/
theorem Inference.within_mergedShape (isNode : graph.node? address = some node)
    (listing : graph.entriesOfNode node = .ok entries) (tame : graph.Tame (.container address))
    (clear : graph.Clear opened (.container address))
    (wideClear : graph.Clear wideOpened (.container address))
    (built : List.Forall₂ (BuildsProperty apart typed (address :: opened) depth) entries properties)
    {objects : List Value} (member : .container address ∈ objects) {wide : TypeExpr}
    (wideBuilt : Merge.Builds graph settings (Answered graph settings) wideOpened wideDepth objects wide) :
    (TypeExpr.object properties depth).Within wide := by
  have known {described : List Merge.Described} (describing : Merge.describe graph objects = .ok described)
      {narrow : Property TypeExpr} (narrowMember : narrow ∈ properties) :
      narrow.key ∈ Merge.keys described := by
    obtain ⟨entry, entryMember, types, -, rfl⟩ := built.exists_left narrowMember
    obtain ⟨description, descriptionMember, -, sameListing⟩ :=
      Merge.exists_description describing member isNode
    cases listing.symm.trans sameListing
    exact Merge.mem_keys_iff.mpr ⟨description, descriptionMember, List.mem_map_of_mem entryMember⟩
  cases wideBuilt with
  | nothing => cases member
  | noKeys nonempty describing noKeys =>
      have noProperties : properties = [] := by
        apply List.eq_nil_iff_forall_not_mem.mpr
        intro narrow narrowMember
        have impossible := known describing narrowMember
        rw [noKeys] at impossible
        cases impossible
      rw [noProperties]
      exact fun _ world item => TypeExpr.heldIn_emptyObject_iff_object.mpr
  | @properties _ described wideProperties nonempty describing someKeys wideBuilt =>
      apply TypeExpr.within_object
      · intro narrow narrowMember
        obtain ⟨wide, wideMember, wideTypes, -, rfl⟩ :=
          wideBuilt.exists_right (known describing narrowMember)
        exact ⟨_, wideMember, rfl⟩
      · intro wide wideMember required
        obtain ⟨key, -, wideTypes, -, rfl⟩ := wideBuilt.exists_left wideMember
        rw [Bool.not_eq_false', List.all_eq_true] at required
        obtain ⟨description, descriptionMember, -, sameListing⟩ :=
          Merge.exists_description describing member isNode
        cases listing.symm.trans sameListing
        have hasKey := Merge.Described.hasKey_iff.mp (required description descriptionMember)
        obtain ⟨entry, entryMember, rfl⟩ := List.mem_map.mp hasKey
        obtain ⟨narrow, narrowMember, types, -, rfl⟩ := built.exists_right entryMember
        exact ⟨_, narrowMember, rfl, rfl⟩
      · intro narrow narrowMember wide wideMember sameKey
        obtain ⟨entry, entryMember, types, partTypes, rfl⟩ := built.exists_left narrowMember
        obtain ⟨key, -, wideTypes, contributed, rfl⟩ := wideBuilt.exists_left wideMember
        change entry.1 = key at sameKey
        have single := each_of_forall₂ partTypes fun _ _ assigned => parts.single assigned
        have wideSingle := each_of_forall₂ contributed fun _ _ answered => answered.single
        apply (TypeExpr.isUnionOf_unionOf_distinctByText single).within
          (TypeExpr.isUnionOf_sortedUnion wideSingle)
        apply someWithin_entry parts isNode listing tame clear wideClear entryMember partTypes
        intro part partMember
        have contributor : (.container address, part) ∈ Merge.contributors described key :=
          (Merge.mem_contributors_iff_filed describing).mpr ⟨member, entries,
            (Graph.entries_container isNode).trans listing, entry, entryMember, sameKey, partMember⟩
        exact contributed.exists_right contributor

/-- However an object is typed where objects are merged, it gets a wider type than where they are not. -/
theorem Inference.widened_object (isNode : graph.node? address = some node)
    (isObject : node.isObject = true) (listing : graph.entriesOfNode node = .ok entries)
    (tame : graph.Tame (.container address)) (clear : graph.Clear opened (.container address))
    (built : List.Forall₂ (BuildsProperty apart typed (address :: opened) depth) entries properties) :
    Widened graph settings (.container address)
      (if properties.isEmpty then .emptyObject else .object properties depth) := by
  have isNoArray (element : TypeExpr) :
      (if properties.isEmpty then .emptyObject else .object properties depth) ≠ TypeExpr.array element := by
    split <;> rintro ⟨⟩
  have fromObject {wide : TypeExpr} (within : (TypeExpr.object properties depth).Within wide) :
      (if properties.isEmpty then TypeExpr.emptyObject else .object properties depth).Within wide :=
    fun _ world item held => within _ world item (TypeExpr.heldIn_orEmpty_iff.mp held)
  have merges {wideOpened : List Address} {wideDepth : Int} {objects : List Value} {wide : TypeExpr}
      (wideClear : graph.Clear wideOpened (.container address)) (member : .container address ∈ objects)
      (wideBuilt : Merge.Builds graph settings (Answered graph settings) wideOpened wideDepth objects
        wide) : (TypeExpr.object properties depth).Within wide :=
    within_mergedShape parts isNode listing tame clear wideClear built member wideBuilt
  constructor
  · intro merging wideOpened wideDepth wide wideClear answered
    refine ⟨fromObject ?_, fun isArray => absurd isArray (isNoArray _)⟩
    rcases answered.builds.object_cases isNode wideClear.not_mem isObject with
      ⟨wideEntries, wideProperties, sameListing, wideBuilt, rfl⟩ | wideBuilt
    · cases listing.symm.trans sameListing
      refine (within_object parts isNode listing tame clear wideClear built wideBuilt).trans ?_
      exact fun _ world item => TypeExpr.heldIn_orEmpty_iff.mpr
    · exact merges wideClear (List.mem_singleton_self _) wideBuilt
  · intro wideOpened wideDepth objects wide wideClear _ member wideBuilt
    exact fromObject (merges wideClear member wideBuilt)
  · intro isArray
    have notObject := Graph.not_isObject_of_isArray isArray
    rw [Graph.isObject_eq_true_iff.mpr ⟨address, node, rfl, isNode, isObject⟩] at notObject
    cases notObject

end Objects

section Elements

variable {opened wideOpened : List Address} {depth wideDepth : Int} {elements : List Value}
  {shapes : TypeExpr}

theorem ArrayUnion.BuildsShapes.widened
    (built : ArrayUnion.BuildsShapes apart typed opened depth elements shapes)
    (tame : ∀ element ∈ elements, graph.Tame element)
    (clear : ∀ element ∈ elements, graph.Clear opened element) :
    ∀ variant ∈ variants shapes, ∃ element ∈ elements, Widened graph settings element variant := by
  intro variant member
  obtain ⟨element, elementMember, variantDepth, -, assigned⟩ :=
    built.exists_element (fun _ _ part => parts.single part) variant member
  exact ⟨element, elementMember, parts.widened assigned (tame element elementMember)
    (clear element elementMember)⟩

/-- Where all elements are arrays, every variant of their types is an array, and one of their wider types is a
wider array. -/
theorem ArrayUnion.BuildsShapes.exists_wider
    (built : ArrayUnion.BuildsShapes apart typed opened depth elements shapes)
    (tame : ∀ element ∈ elements, graph.Tame element)
    (clear : ∀ element ∈ elements, graph.Clear opened element)
    (wideClear : ∀ element ∈ elements, graph.Clear wideOpened element)
    (areArrays : ∀ element ∈ elements, graph.isArray element = true) {wides : List TypeExpr}
    (wideTypes : List.Forall₂ (fun element type =>
      Inference.Answered graph settings ⟨false, wideOpened, wideDepth, element⟩ type) elements wides) :
    ∀ variant ∈ variants shapes, ∃ narrow wide, variant = .array narrow ∧ .array wide ∈ wides ∧
      narrow.Within wide := by
  intro variant member
  obtain ⟨element, elementMember, widened⟩ := built.widened parts tame clear variant member
  obtain ⟨narrow, rfl⟩ := widened.isArray (areArrays element elementMember)
  obtain ⟨wide, wideMember, answered⟩ := wideTypes.exists_right elementMember
  obtain ⟨inner, rfl, within⟩ := (widened.answers (wideClear element elementMember) answered).elements rfl
  exact ⟨narrow, inner, rfl, wideMember, within⟩

omit parts in
/-- A union of arrays is within an array of the elements of wider ones. -/
theorem ArrayUnion.within_array_sortedUnion {wides : List TypeExpr} (wideSingle : ∀ wide ∈ wides, wide.Single)
    (wider : ∀ variant ∈ variants shapes, ∃ narrow wide, variant = .array narrow ∧ .array wide ∈ wides ∧
      narrow.Within wide) :
    shapes.Within (.array (.sortedUnion settings (wides.flatMap TypeExpr.unwrapArray))) := by
  have partsSingle := TypeExpr.single_flatMap_unwrapArray wideSingle
  intro Item world item held
  obtain ⟨variant, member, held⟩ := (TypeExpr.isUnionOf_variants shapes _ world item).mp held
  obtain ⟨narrow, wide, rfl, wideMember, within⟩ := wider variant member
  obtain ⟨isArray, each⟩ := within.array _ world item held
  refine ⟨isArray, ?_⟩
  intro part hasElement
  obtain ⟨unwrapped, unwrappedMember, partHeld⟩ :=
    (TypeExpr.isUnionOf_unwrapArray wide _ world part).mp (each part hasElement)
  exact (TypeExpr.heldIn_sortedUnion_iff partsSingle).mpr
    ⟨unwrapped, List.mem_flatMap.mpr ⟨_, wideMember, unwrappedMember⟩, partHeld⟩

omit parts in
/-- The elements of arrays are within the elements of wider ones. -/
theorem ArrayUnion.someWithin_unwrapped {narrows wides : List TypeExpr}
    (wider : ∀ variant ∈ narrows, ∃ narrow wide, variant = .array narrow ∧ .array wide ∈ wides ∧
      narrow.Within wide) :
    TypeExpr.SomeWithin (narrows.flatMap TypeExpr.unwrapArray) (wides.flatMap TypeExpr.unwrapArray) := by
  rintro Item world item ⟨part, partMember, held⟩
  obtain ⟨variant, member, partMember⟩ := List.mem_flatMap.mp partMember
  obtain ⟨narrow, wide, rfl, wideMember, within⟩ := wider variant member
  have narrowHeld := (TypeExpr.isUnionOf_unwrapArray narrow _ world item).mpr ⟨part, partMember, held⟩
  obtain ⟨widePart, widePartMember, wideHeld⟩ :=
    (TypeExpr.isUnionOf_unwrapArray wide _ world item).mp (within _ world item narrowHeld)
  exact ⟨widePart, List.mem_flatMap.mpr ⟨_, wideMember, widePartMember⟩, wideHeld⟩

/-- The distinct types of some objects are within the shape that they are merged into, with others or
without. -/
theorem ArrayUnion.BuildsShapes.within_mergedShape
    (built : ArrayUnion.BuildsShapes apart typed opened depth elements shapes)
    (tame : ∀ element ∈ elements, graph.Tame element)
    (clear : ∀ element ∈ elements, graph.Clear opened element)
    (wideClear : ∀ element ∈ elements, graph.Clear wideOpened element)
    (areObjects : ∀ element ∈ elements, graph.isObject element = true) {objects : List Value}
    (included : ∀ element ∈ elements, element ∈ objects) {wide : TypeExpr}
    (wideBuilt : Merge.Builds graph settings (Inference.Answered graph settings) wideOpened wideDepth objects
      wide) : shapes.Within wide := by
  intro Item world item held
  obtain ⟨variant, member, held⟩ := (TypeExpr.isUnionOf_variants shapes _ world item).mp held
  obtain ⟨element, elementMember, widened⟩ := built.widened parts tame clear variant member
  exact widened.merges (wideClear element elementMember) (areObjects element elementMember)
    (included element elementMember) wideBuilt _ world item held

/-- The type of an array whose elements have the same kind in both modes is wider where objects are merged. -/
theorem ArrayUnion.Builds.widens {kind : ArrayKind} {narrow wide : TypeExpr} (uniting : apart.mode = .union)
    (merging : settings.mode = .merge) (nonempty : elements ≠ [])
    (isKind : ArrayKind.ofElements graph opened elements = kind)
    (tame : ∀ element ∈ elements, graph.Tame element)
    (clear : ∀ element ∈ elements, graph.Clear opened element)
    (wideClear : ∀ element ∈ elements, graph.Clear wideOpened element)
    (built : ArrayUnion.Builds graph apart typed opened depth elements kind narrow)
    (wideBuilt : ArrayUnion.Builds graph settings (Inference.Answered graph settings) wideOpened wideDepth
      elements kind wide) : narrow.Widens wide := by
  -- With shapes kept apart, arrays become one array of arrays only if none of them spans lines.
  cases built with
  | arrays mode => cases uniting.symm.trans mode
  | @arrayShapes shapes _ built spansLines =>
      cases wideBuilt with
      | arrayShapes mode | flatArrayShapes mode => cases merging.symm.trans mode
      | arrays _ wideTypes =>
          have areArrays := ArrayKind.ofElements_eq_arrays_iff.mp isKind
          have wideSingle := each_of_forall₂ wideTypes fun _ _ answered => answered.single
          apply TypeExpr.Within.widens_array
          apply within_array_sortedUnion wideSingle
          exact built.exists_wider parts tame clear wideClear areArrays wideTypes
  | @flatArrayShapes shapes _ built oneLine =>
      cases wideBuilt with
      | arrayShapes mode | flatArrayShapes mode => cases merging.symm.trans mode
      | arrays _ wideTypes =>
          have areArrays := ArrayKind.ofElements_eq_arrays_iff.mp isKind
          have single := (built.variants_single (fun _ _ assigned => parts.single assigned) nonempty).2
          have wideSingle := each_of_forall₂ wideTypes fun _ _ answered => answered.single
          refine (TypeExpr.Within.array ?_).widens_array
          apply (TypeExpr.isUnionOf_sortedUnion (TypeExpr.single_flatMap_unwrapArray single)).within
            (TypeExpr.isUnionOf_sortedUnion (TypeExpr.single_flatMap_unwrapArray wideSingle))
          apply someWithin_unwrapped
          exact built.exists_wider parts tame clear wideClear areArrays wideTypes
  | objects mode => cases uniting.symm.trans mode
  | @objectShapes shapes _ built =>
      cases wideBuilt with
      | objectShapes mode => cases merging.symm.trans mode
      | objects _ wideBuilt =>
          have areObjects (element : Value) (member : element ∈ elements) : graph.isObject element = true :=
            (ArrayKind.fresh_of_ofElements isKind element member).1
          apply TypeExpr.Within.widens_array
          exact built.within_mergedShape parts tame clear wideClear areObjects (fun _ member => member)
            wideBuilt
  | @mixed narrows elementTypes =>
      cases wideBuilt with
      | @mixed wides wideTypes =>
          have apartTypes : List.Forall₂ (fun element type => typed ⟨false, opened, depth + 1, element⟩ type)
              elements narrows := by simpa [uniting] using elementTypes
          have single := each_of_forall₂ elementTypes fun _ _ assigned => parts.single assigned
          have wideSingle := each_of_forall₂ wideTypes fun _ _ answered => answered.single
          apply TypeExpr.Within.widens_array
          apply (TypeExpr.isUnionOf_unionOf_distinctByText single).within
            (TypeExpr.isUnionOf_unionOf_distinctByText wideSingle)
          apply parts.someWithin apartTypes tame clear
          intro element member
          obtain ⟨wide, wideMember, answered⟩ := wideTypes.exists_right member
          exact ⟨wide, wideMember, _, _, _, wideClear element member, answered⟩

/-- An array with elements gets a wider type where objects are merged. -/
theorem Inference.widened_array {address : Address} {node : Node} {narrow : TypeExpr}
    (uniting : apart.mode = .union) (merging : settings.mode = .merge)
    (isNode : graph.node? address = some node) (isArray : node.isObject = false)
    (listing : graph.elements node = .ok elements) (nonempty : elements ≠ [])
    (tame : graph.Tame (.container address)) (clear : graph.Clear opened (.container address))
    (built : ArrayUnion.Builds graph apart typed (address :: opened) depth elements
      (.ofElements graph (address :: opened) elements) narrow) :
    Widened graph settings (.container address) narrow := by
  have members := Graph.elements_perm_members listing
  have held (element : Value) (member : element ∈ elements) : element ∈ node.held := by
    rw [Node.held_of_array isArray]
    exact members.mem_iff.mp member
  have elementsTame (element : Value) (member : element ∈ elements) : graph.Tame element :=
    tame.of_held isNode (held element member)
  have elementsClear {opened : List Address} (clear : graph.Clear opened (.container address))
      (element : Value) (member : element ∈ elements) : graph.Clear (address :: opened) element :=
    clear.of_held tame.acyclic isNode (held element member)
  rw [ArrayKind.ofElements_of_clear (elementsClear clear)] at built
  constructor
  · intro merged wideOpened wideDepth wide wideClear answered
    rcases answered.builds.array_cases isNode wideClear.not_mem isArray with
      ⟨noElements, -⟩ | ⟨wideElements, sameListing, -, wideBuilt⟩ | ⟨shape, isMerged, rfl, wideBuilt⟩
    · exact absurd (Except.ok.inj (listing.symm.trans noElements)) nonempty
    · cases listing.symm.trans sameListing
      rw [ArrayKind.ofElements_of_clear (elementsClear wideClear)] at wideBuilt
      exact ArrayUnion.Builds.widens parts uniting merging nonempty
        (ArrayKind.ofElements_of_clear (elementsClear clear)) elementsTame (elementsClear clear)
        (elementsClear wideClear) built wideBuilt
    · -- As a value of a merged object an array of objects has them all in one shape.
      obtain ⟨-, -, allObjects⟩ := fresh_of_isMergedArray isNode isMerged
      have areObjects (element : Value) (member : element ∈ elements) : graph.isObject element = true :=
        (allObjects element (members.mem_iff.mp member)).1
      rw [ArrayKind.ofElements_eq_objects nonempty
        fun element member => ⟨areObjects element member, element.isOpen_nil⟩] at built
      cases built with
      | objects mode => cases uniting.symm.trans mode
      | objectShapes _ built =>
          exact (built.within_mergedShape parts elementsTame (elementsClear clear) (elementsClear wideClear)
            areObjects (fun element => members.mem_iff.mp) wideBuilt).widens_array
  · intro wideOpened wideDepth objects wide _ isObject
    simp [Graph.isObject, Graph.nodeOf?, isNode, isArray] at isObject
  · exact fun _ => built.exists_element

end Elements

/-- A step types a value so that its type is within those that the value gets where objects are merged. -/
theorem Inference.Builds.widened (uniting : apart.mode = .union) (merging : settings.mode = .merge)
    {opened : List Address} {depth : Int} {value : Value} {narrow : TypeExpr}
    (built : Builds graph apart typed ⟨false, opened, depth, value⟩ narrow) (tame : graph.Tame value)
    (clear : graph.Clear opened value) : Widened graph settings value narrow := by
  cases built with
  | leaf _ _ _ leaf =>
      constructor
      · intro merged wideOpened wideDepth wide _ answered
        cases answered.builds
        exact .refl _
      · intro wideOpened wideDepth objects wide _ isObject
        cases isObject
      · intro isArray
        obtain ⟨node, isNode, -⟩ := tame.flagFree.exists_node_of_isArray isArray
        cases isNode
  | missing isMissing =>
      constructor
      · intro merged wideOpened wideDepth wide _ answered
        cases answered.builds with
        | missing => exact .refl _
        | circular isNode | object isNode | mergedObject isNode | emptyArray isNode | array isNode
        | mergedArray isNode => cases isMissing.symm.trans isNode
      · intro wideOpened wideDepth objects wide _ isObject
        simp [Graph.isObject, Graph.nodeOf?, isMissing] at isObject
      · intro isArray
        simp [Graph.isArray, isMissing] at isArray
  | circular isNode isOpen => exact absurd isOpen clear.not_mem
  | object isNode fresh isObject listing built =>
      exact widened_object parts isNode isObject listing tame clear built
  | @emptyArray _ _ _ address node isNode fresh isArray listing =>
      constructor
      · intro merged wideOpened wideDepth wide wideClear answered
        rcases answered.builds.array_cases isNode wideClear.not_mem isArray with
          ⟨-, rfl⟩ | ⟨elements, sameListing, nonempty, -⟩ | ⟨shape, isMerged, -⟩
        · exact .refl _
        · exact absurd (Except.ok.inj (sameListing.symm.trans listing)) nonempty
        · have noMembers := (Graph.elements_perm_members listing).symm.eq_nil
          exact absurd noMembers (fresh_of_isMergedArray isNode isMerged).2.1
      · intro wideOpened wideDepth objects wide _ isObject
        simp [Graph.isObject, Graph.nodeOf?, isNode, isArray] at isObject
      · exact fun _ => ⟨_, rfl⟩
  | array isNode fresh isArray listing nonempty built =>
      exact widened_array parts uniting merging isNode isArray listing nonempty tame clear built

end Step

/-- Every answer with shapes kept apart is within what merging answers. -/
theorem Inference.widened_of_answer {graph : Graph} {apart settings : Settings}
    (uniting : apart.mode = .union) (merging : settings.mode = .merge) {budget : Nat}
    {opened : List Address} {depth : Int} {value : Value} {type : TypeExpr}
    (answer : (typer graph apart budget).Answers ⟨false, opened, depth, value⟩ type)
    (tame : graph.Tame value) (clear : graph.Clear opened value) : Widened graph settings value type := by
  -- With shapes kept apart nothing is typed as a part of a merged object, so the induction leaves these calls
  -- out.
  refine answer_induction (fun call type => call.merging = false → graph.Tame call.value →
    graph.Clear call.opened call.value → Widened graph settings call.value type) ?_ budget answer rfl tame
      clear
  rintro budget ⟨merged, opened, depth, value⟩ type built rfl tame clear
  have parts : Assignment.WidenedBy graph settings (fun part type =>
      (typer graph apart budget).Answers part type ∧ (part.merging = false → graph.Tame part.value →
        graph.Clear part.opened part.value → Widened graph settings part.value type)) := by
    constructor
    · intro part partType assigned
      exact single_of_answer assigned.1
    · intro opened depth value partType assigned
      exact assigned.2 rfl
  exact built.widened parts uniting merging tame clear

namespace Graph

/-- In a value without cycles and flags the type with shapes kept apart is within the type with objects merged,
unless the contents of a container inside it cannot be listed. -/
theorem infer_united_within_merged (graph : Graph) (settings : Settings) (value : Value) (depth : Int)
    (acyclic : ¬graph.ContainsCycle value) (flagFree : graph.FlagFree value) :
    (∃ united merged, graph.infer { settings with mode := .union } value depth = .ok united ∧
        graph.infer { settings with mode := .merge } value depth = .ok merged ∧ united.Within merged) ∨
      ∃ fault, (graph.infer { settings with mode := .union } value depth = .error fault ∨
        graph.infer { settings with mode := .merge } value depth = .error fault) ∧
        graph.FailsBelow value fault := by
  rcases infer_cases graph { settings with mode := .union } value depth with
    ⟨united, unitedInferred⟩ | ⟨fault, failed, failsBelow⟩
  · rcases infer_cases graph { settings with mode := .merge } value depth with
      ⟨merged, mergedInferred⟩ | ⟨fault, failed, failsBelow⟩
    · refine .inl ⟨united, merged, unitedInferred, mergedInferred, ?_⟩
      have clear : graph.Clear [] value := fun address isOpen => absurd isOpen List.not_mem_nil
      have widened : Widened graph { settings with mode := .merge } value united :=
        Inference.widened_of_answer rfl rfl (answers_of_infer unitedInferred) ⟨acyclic, flagFree⟩ clear
      exact (widened.answers clear ⟨_, answers_of_infer mergedInferred⟩).within
    · exact .inr ⟨fault, .inr failed, failsBelow⟩
  · exact .inr ⟨fault, .inl failed, failsBelow⟩

end Graph

namespace FacetedGraph

/-- In a value without cycles and flags, and without facets inside arrays, every value of any world that the type with
shapes kept apart holds is held by the type with objects merged, unless the contents of a container that shows inside it
cannot be listed. -/
theorem infer_union_within_infer_merge (graph : FacetedGraph) (settings : Settings) (value : Value) (depth : Int)
    (acyclic : ¬graph.shown.ContainsCycle (graph.front value)) (flagFree : graph.shown.FlagFree (graph.front value))
    (bare : graph.BareInArrays value) :
    (∃ united merged, graph.infer { settings with mode := .union } value depth = .ok united ∧
        graph.infer { settings with mode := .merge } value depth = .ok merged ∧
        ∀ (Item : Type) (world : World Item) (item : Item), united.HeldIn world item → merged.HeldIn world item) ∨
      ∃ fault, (graph.infer { settings with mode := .union } value depth = .error fault ∨
        graph.infer { settings with mode := .merge } value depth = .error fault) ∧
        graph.shown.FailsBelow (graph.front value) fault := by
  rw [infer_shown _ depth bare, infer_shown _ depth bare]
  exact graph.shown.infer_united_within_merged settings (graph.front value) depth acyclic flagFree

theorem not_containsCycle_showcase (value : Value) : ¬showcase.shown.ContainsCycle value := by
  apply Graph.not_containsCycle_of_ascending
  intro address node later isShown held
  rw [node?_shown, Option.map_eq_some_iff] at isShown
  obtain ⟨inner, isNode, rfl⟩ := isShown
  have inBounds := Graph.address_lt_size isNode
  change address < 6 at inBounds
  interval_cases address <;> cases isNode <;>
    simp [showcase, Node.mapValues, Node.held, front, lastByKey, assignUnder] at held
  all_goals grind

theorem infer_union_within_infer_merge_showcase :
    ¬showcase.shown.ContainsCycle (showcase.front (.container 0)) ∧
      showcase.shown.FlagFree (showcase.front (.container 0)) ∧ showcase.BareInArrays (.container 0) ∧
      ∃ united merged, showcase.infer { mode := .union } (.container 0) = .ok united ∧
        showcase.infer { mode := .merge } (.container 0) = .ok merged ∧
        ∀ (Item : Type) (world : World Item) (item : Item), united.HeldIn world item → merged.HeldIn world item := by
  refine ⟨not_containsCycle_showcase _, flagFree_showcase 0, bareInArrays_showcase _, ?_⟩
  obtain within | ⟨fault, failed | failed, -⟩ :=
    infer_union_within_infer_merge showcase {} (.container 0) 0 (not_containsCycle_showcase _) (flagFree_showcase 0)
      (bareInArrays_showcase _)
  · exact within
  · have typed : (showcase.infer { mode := .union } (.container 0)).isOk = true := by decide +kernel
    rw [failed] at typed
    cases typed
  · have typed : (showcase.infer { mode := .merge } (.container 0)).isOk = true := by decide +kernel
    rw [failed] at typed
    cases typed

/-- A list of a record with the elements of an array has the list type of a record where shapes are kept apart, and holds
it.  Where objects are merged, the type is that of a list of lists, and does not hold it. -/
theorem infer_union_apart_from_infer_merge_misfits :
    ¬misfits.shown.ContainsCycle (.container 0) ∧ misfits.shown.FlagFree (.container 0) ∧
      ∃ united merged, misfits.infer { mode := .union } (.container 0) = .ok united ∧
        misfits.infer { mode := .merge } (.container 0) = .ok merged ∧
        united.HeldIn misfits.world (.container 0) ∧ ¬merged.HeldIn misfits.world (.container 0) := by
  have united : misfits.infer { mode := .union } (.container 0) = .ok (.array (deckType 0)) := by rfl
  have merged : misfits.infer { mode := .merge } (.container 0) = .ok (.array (.array (deckType 1))) := by rfl
  refine ⟨?_, flagFree_misfits 0, _, _, united, merged, ?_, ?_⟩
  · apply Graph.not_containsCycle_of_ascending
    intro address node later isShown held
    rw [node?_shown, Option.map_eq_some_iff] at isShown
    obtain ⟨inner, isNode, rfl⟩ := isShown
    have inBounds := Graph.address_lt_size isNode
    change address < 12 at inBounds
    interval_cases address <;> cases isNode <;>
      simp [misfits, Node.mapValues, Node.held, front, lastByKey, assignUnder] at held
    all_goals grind
  · refine ⟨rfl, ?_⟩
    rintro part ⟨node, isNode, member⟩
    cases isNode
    obtain rfl := List.mem_singleton.mp member
    have deckTyped : misfits.shown.infer {} (.container 5) = .ok (deckType 0) := by rfl
    obtain ⟨type, typed, inhabited⟩ | ⟨fault, failed, -⟩ :=
      misfits.shown.infer_inhabited {} (.container 5) (Int.le_refl 0) (flagFree_misfits 5)
    · cases deckTyped.symm.trans typed
      exact heldIn_of_inhabitedBy_shown inhabited
    · cases deckTyped.symm.trans failed
  · rintro ⟨-, each⟩
    obtain ⟨-, eachInside⟩ := each (.container 5) ⟨_, rfl, List.mem_singleton_self _⟩
    obtain ⟨isObject, -⟩ := eachInside (.leaf (.integer 1)) ⟨_, rfl, List.mem_singleton_self _⟩
    cases isObject

end FacetedGraph

end SampleTypes
