import SampleTypes.Proofs.Totality
import SampleTypes.Proofs.MergedShapes
import SampleTypes.Proofs.Widening

/-!
# Contributed types

A value of a merged object contributes a type that is found in another way than the type of the value by itself:
objects are merged even by themselves, and the objects in an array are merged without putting them in order.  Both
ways come to the same type, apart from the order of properties and members, and the same text for whatever is no
object.  Without facets they differ in one way: a set of nothing but objects contributes a type even where its elements
cannot be put in order.
-/

namespace SampleTypes

namespace TypeExpr

/-- Two types hold the same values of every world. -/
def SameValues (left right : TypeExpr) : Prop :=
  ∀ (Item : Type) (world : World Item) (item : Item), left.HeldIn world item ↔ right.HeldIn world item

theorem SameValues.refl (type : TypeExpr) : type.SameValues type :=
  fun _ _ _ => Iff.rfl

theorem SameValues.within {left right : TypeExpr} (same : left.SameValues right) : left.Within right :=
  fun _ world item => (same _ world item).mp

theorem SameValues.symm {left right : TypeExpr} (same : left.SameValues right) : right.SameValues left :=
  fun _ world item => (same _ world item).symm

theorem sameValues_of_within {left right : TypeExpr} (within : left.Within right) (converse : right.Within left) :
    left.SameValues right :=
  fun _ world item => ⟨within _ world item, converse _ world item⟩

theorem Alike.sameValues {settings : Settings} {left right : TypeExpr} (alike : left.Alike settings right) :
    left.SameValues right := by
  intro Item world item
  calc
    left.HeldIn world item ↔ (left.normal settings).HeldIn world item := (heldIn_mapDepths_iff left item).symm
    _ ↔ (right.normal settings).HeldIn world item := by rw [alike]
    _ ↔ right.HeldIn world item := heldIn_mapDepths_iff right item

end TypeExpr

/-- A property stands for an entry: it is required, and its type is the union of the types of the values under the
key. -/
structure StandsFor (typed : Assignment) (merging : Bool) (opened : List Address) (depth : Int)
    (entry : String × List Value) (property : Property TypeExpr) : Prop where
  key : property.key = entry.1
  required : property.optional = false
  value : ∃ types, List.Forall₂ (fun part type => typed ⟨merging, opened, depth + 1, part⟩ type) entry.2 types ∧
    property.value.IsUnionOf types

section Objects

variable {typed other : Assignment} {merging otherMerging : Bool} {opened otherOpened : List Address}
  {depth otherDepth : Int} {entries : List (String × List Value)} {narrows wides : List (Property TypeExpr)}

/-- Of two types of one object, the one with wider types for the values in the object is wider. -/
theorem TypeExpr.within_objectOf_of_standsFor (grouped : Grouped entries)
    (narrow : Outcome.Matched (StandsFor typed merging opened depth) entries narrows)
    (wide : Outcome.Matched (StandsFor other otherMerging otherOpened otherDepth) entries wides)
    (within : ∀ entry ∈ entries, ∀ part ∈ entry.2, ∀ type wider, typed ⟨merging, opened, depth + 1, part⟩ type →
      other ⟨otherMerging, otherOpened, otherDepth + 1, part⟩ wider → type.Within wider) :
    (TypeExpr.objectOf narrows depth).Within (.objectOf wides otherDepth) := by
  apply TypeExpr.within_objectOf
  apply TypeExpr.within_object
  · intro property member
    obtain ⟨entry, entryMember, standsFor⟩ := narrow.2 property member
    obtain ⟨wider, widerMember, widerStandsFor⟩ := wide.1 entry entryMember
    exact ⟨wider, widerMember, widerStandsFor.key.trans standsFor.key.symm⟩
  · intro wider widerMember _
    obtain ⟨entry, entryMember, widerStandsFor⟩ := wide.2 wider widerMember
    obtain ⟨property, member, standsFor⟩ := narrow.1 entry entryMember
    exact ⟨property, member, standsFor.key.trans widerStandsFor.key.symm, standsFor.required⟩
  · intro property member wider widerMember sameKey
    obtain ⟨entry, entryMember, standsFor⟩ := narrow.2 property member
    obtain ⟨widerEntry, widerEntryMember, widerStandsFor⟩ := wide.2 wider widerMember
    rw [standsFor.key, widerStandsFor.key] at sameKey
    obtain rfl := grouped.eq_of_key_eq entryMember widerEntryMember sameKey
    obtain ⟨types, partTypes, isUnion⟩ := standsFor.value
    obtain ⟨widerTypes, widerPartTypes, widerIsUnion⟩ := widerStandsFor.value
    apply isUnion.within widerIsUnion
    rintro Item world item ⟨type, typeMember, held⟩
    obtain ⟨part, partMember, partTyped⟩ := partTypes.exists_left typeMember
    obtain ⟨widerType, widerTypeMember, widerPartTyped⟩ := widerPartTypes.exists_right partMember
    exact ⟨widerType, widerTypeMember,
      within entry entryMember part partMember type widerType partTyped widerPartTyped _ world item held⟩

variable {graph : Graph} {settings : Settings} {address : Address} {node : Node}

/-- The properties of an object that is typed by itself stand for its entries. -/
theorem Inference.matched_of_built (single : ∀ call type, typed call type → type.Single)
    {properties : List (Property TypeExpr)}
    (built : List.Forall₂ (BuildsProperty settings typed opened depth) entries properties) :
    Outcome.Matched (StandsFor typed false opened depth) entries properties := by
  have standsFor (entry : String × List Value) (property : Property TypeExpr)
      (built : BuildsProperty settings typed opened depth entry property) :
      StandsFor typed false opened depth entry property := by
    obtain ⟨types, partTypes, rfl⟩ := built
    have partsSingle := each_of_forall₂ partTypes fun _ _ => single _ _
    exact ⟨rfl, rfl, types, partTypes, TypeExpr.isUnionOf_unionOf_distinctByText partsSingle⟩
  have each := built.imp standsFor
  exact ⟨fun _ => each.exists_right, fun _ => each.exists_left⟩

/-- The properties of an object that is merged by itself stand for its entries. -/
theorem Merge.matched_of_built (single : ∀ call type, typed call type → type.Single)
    (isNode : graph.node? address = some node) (listing : graph.entriesOfNode node = .ok entries) {type : TypeExpr}
    (built : Builds graph settings typed opened depth [.container address] type) :
    ∃ properties, type = .objectOf properties depth ∧
      Outcome.Matched (StandsFor typed true (address :: opened) depth) entries properties := by
  obtain ⟨described, properties, describing, rfl, propertiesBuilt⟩ := built.exists_properties (List.cons_ne_nil _ _)
  refine ⟨properties, rfl, ?_⟩
  obtain ⟨description, rfl, isObject, sameListing⟩ : ∃ description, described = [description] ∧
      description.object = .container address ∧ graph.entries (.container address) = .ok description.entries := by
    cases forall₂_of_describe describing with
    | cons related rest =>
        cases rest
        exact ⟨_, rfl, related⟩
  rw [Graph.entries_container isNode, listing] at sameListing
  obtain rfl := Except.ok.inj sameListing
  have grouped := Graph.grouped_of_entriesOfNode listing
  have standsFor (entry : String × List Value) (member : entry ∈ description.entries) (property : Property TypeExpr)
      (built : BuildsProperty settings typed opened depth [description] entry.1 property) :
      StandsFor typed true (address :: opened) depth entry property := by
    obtain ⟨types, contributed, rfl⟩ := built
    have partsSingle := each_of_forall₂ contributed fun _ _ => single _ _
    have hasKey : description.hasKey entry.1 = true := Described.hasKey_iff.mpr (List.mem_map_of_mem member)
    refine ⟨rfl, by simp [hasKey], types, ?_, TypeExpr.isUnionOf_sortedUnion partsSingle⟩
    have valuesUnder : description.valuesUnder entry.1 = entry.2 := Described.valuesUnder_eq_of_mem grouped member
    rw [contributors, List.flatMap_singleton, List.forall₂_map_left_iff, valuesUnder, isObject] at contributed
    exact contributed
  have mem_keys_iff (key : String) : key ∈ keys [description] ↔ ∃ entry ∈ description.entries, entry.1 = key := by
    rw [Merge.mem_keys_iff]
    simp
  constructor
  · intro entry member
    obtain ⟨property, propertyMember, built⟩ :=
      propertiesBuilt.exists_right ((mem_keys_iff entry.1).mpr ⟨entry, member, rfl⟩)
    exact ⟨property, propertyMember, standsFor entry member property built⟩
  · intro property propertyMember
    obtain ⟨key, known, built⟩ := propertiesBuilt.exists_left propertyMember
    obtain ⟨entry, member, rfl⟩ := (mem_keys_iff key).mp known
    exact ⟨entry, member, standsFor entry member property built⟩

end Objects

namespace Graph

variable {graph : Graph} {settings : Settings}

/-- Inside a value there is a set of nothing but objects whose elements cannot be put in order, and they are merged as
they come. -/
def LeavesUnordered (graph : Graph) (settings : Settings) (value : Value) : Prop :=
  ∃ whole node fault, graph.Reaches value whole ∧ graph.nodeOf? whole = some node ∧
    graph.MayStayUnordered settings node ∧ graph.elements node = .error fault

theorem LeavesUnordered.of_held {address : Address} {node : Node} {part : Value}
    (isNode : graph.node? address = some node) (held : part ∈ node.held)
    (unordered : graph.LeavesUnordered settings part) : graph.LeavesUnordered settings (.container address) := by
  obtain ⟨whole, wholeNode, fault, reached, isWhole, mayStay, failed⟩ := unordered
  exact ⟨whole, wholeNode, fault, reached.head ⟨node, isNode, held⟩, isWhole, mayStay, failed⟩

end Graph

/-- How the type of a value by itself and the type that it contributes may relate. -/
inductive Concur (graph : Graph) (settings : Settings) (opened : List Address) (value : Value) :
    Typed TypeExpr → Typed TypeExpr → Prop
  | types {inferred contributed : TypeExpr} (same : inferred.SameValues contributed)
      (alike : graph.isObject value = false ∨ value.isOpen opened = true → inferred.Alike settings contributed) :
      Concur graph settings opened value (.ok inferred) (.ok contributed)
  | faults (fault other : Fault) : Concur graph settings opened value (.error fault) (.error other)
  | unordered (fault : Fault) (contributed : TypeExpr) (leaves : graph.LeavesUnordered settings value) :
      Concur graph settings opened value (.error fault) (.ok contributed)

/-- A typer whose answers for values by themselves and for values of merged objects concur. -/
structure Typer.Concurs (graph : Graph) (settings : Settings) (typer : Typer) : Prop where
  interchanges : typer.Interchanges settings typer
  concur (opened : List Address) (depth : Int) (value : Value) :
    Concur graph settings opened value (typer.infer opened depth value) (typer.contribute opened depth value)

section Steps

variable {graph : Graph} {settings : Settings} {opened : List Address} {depth : Int} {value : Value} {typer : Typer}

theorem Concur.of_agree {inferred contributed : Typed TypeExpr}
    (agree : Outcome.Agree (TypeExpr.Alike settings) inferred contributed) :
    Concur graph settings opened value inferred contributed := by
  cases agree with
  | ok alike => exact .types alike.sameValues fun _ => alike
  | error fault other => exact .faults fault other

theorem concur_self (outcome : Typed TypeExpr) : Concur graph settings opened value outcome outcome := by
  cases outcome with
  | ok type => exact .types (.refl type) fun _ => rfl
  | error fault => exact .faults fault fault

theorem Concur.contributes {inferred contributed : Typed TypeExpr} {type : TypeExpr}
    (concur : Concur graph settings opened value inferred contributed) (success : inferred = .ok type) :
    ∃ other, contributed = .ok other ∧ type.SameValues other := by
  cases concur with
  | types same alike =>
      cases success
      exact ⟨_, rfl, same⟩
  | faults fault other => cases success
  | unordered fault contributed leaves => cases success

theorem Concur.leaves {inferred contributed : Typed TypeExpr} {type : TypeExpr} {fault : Fault}
    (concur : Concur graph settings opened value inferred contributed) (success : contributed = .ok type)
    (failed : inferred = .error fault) : graph.LeavesUnordered settings value := by
  cases concur with
  | types same alike => cases failed
  | faults fault other => cases success
  | unordered fault contributed leaves => exact leaves

namespace Inference

variable {address : Address} {node : Node}

section Object

variable (concurs : typer.Concurs graph settings) (isNode : graph.node? address = some node)
include concurs isNode

/-- An object that has a type by itself can be merged by itself. -/
theorem shapes_ne_error_of_object {type : TypeExpr} {fault : Fault}
    (inferred : object graph settings typer (address :: opened) depth node = .ok type) :
    Merge.shapes graph settings typer opened depth [.container address] ≠ .error fault := by
  intro merged
  obtain ⟨entries, properties, listing, built, -⟩ := exists_properties_of_object inferred
  obtain ⟨object, isMember, notListed⟩ | ⟨described, key, ⟨object, part⟩, describing, contributor, partFailed⟩ :=
    Merge.shapes_eq_error_cases merged
  · rw [List.mem_singleton.mp isMember, Graph.entries_container isNode] at notListed
    cases listing.symm.trans notListed
  · obtain ⟨isMember, sameEntries, sameListing, entry, entryMember, -, partMember⟩ :=
      (Merge.mem_contributors_iff_filed describing).mp contributor
    obtain rfl := List.mem_singleton.mp isMember
    rw [Graph.entries_container isNode] at sameListing
    cases listing.symm.trans sameListing
    obtain ⟨property, -, types, partTypes, -⟩ := built.exists_right entryMember
    obtain ⟨partType, -, partTyped⟩ := partTypes.exists_right partMember
    obtain ⟨otherType, partContributed, -⟩ := (concurs.concur _ _ part).contributes partTyped
    cases partContributed.symm.trans partFailed

/-- An object that can be merged by itself and has no type by itself has a set inside that stays unordered. -/
theorem leavesUnordered_of_object {type : TypeExpr} {fault : Fault}
    (failed : object graph settings typer (address :: opened) depth node = .error fault)
    (merged : Merge.shapes graph settings typer opened depth [.container address] = .ok type) :
    graph.LeavesUnordered settings (.container address) := by
  have built := Merge.builds_of_shapes merged
  have member := List.mem_singleton_self (Value.container address)
  obtain ⟨entries, listing⟩ := built.exists_entries member
  obtain notListed | ⟨sameEntries, entry, part, sameListing, entryMember, partMember, partFailed⟩ :=
    object_eq_error_cases failed
  · rw [Graph.entries_container isNode] at listing
    cases listing.symm.trans notListed
  · cases ((Graph.entries_container isNode).symm.trans listing).symm.trans sameListing
    have held : part ∈ node.held :=
      (Graph.mem_held_iff_of_entries sameListing).mpr ⟨entry.1, entry, entryMember, rfl, partMember⟩
    obtain ⟨partType, partContributed⟩ :=
      built.exists_typed member listing ⟨entry, entryMember, rfl, partMember⟩
    exact ((concurs.concur _ _ part).leaves partContributed partFailed).of_held isNode held

/-- An object has a type by itself that holds the same values as the shape that it has when it is merged by itself. -/
theorem sameValues_of_object {type contributed : TypeExpr}
    (inferred : object graph settings typer (address :: opened) depth node = .ok type)
    (merged : Merge.shapes graph settings typer opened depth [.container address] = .ok contributed) :
    type.SameValues contributed := by
  have single (call : Call) (type : TypeExpr) (answer : typer.Answers call type) : type.Single :=
    concurs.interchanges.single answer
  obtain ⟨entries, properties, listing, built, rfl⟩ := exists_properties_of_object inferred
  obtain ⟨wides, rfl, wide⟩ := Merge.matched_of_built single isNode listing (Merge.builds_of_shapes merged)
  have narrow := matched_of_built single built
  have grouped := Graph.grouped_of_entriesOfNode listing
  have sameParts (part : Value) (type other : TypeExpr)
      (answer : typer.Answers ⟨false, address :: opened, depth + 1, part⟩ type)
      (contribution : typer.Answers ⟨true, address :: opened, depth + 1, part⟩ other) : type.SameValues other := by
    obtain ⟨sameOther, sameContribution, same⟩ := (concurs.concur _ _ part).contributes answer
    cases contribution.symm.trans sameContribution
    exact same
  apply TypeExpr.sameValues_of_within
  · apply TypeExpr.within_objectOf_of_standsFor grouped narrow wide
    intro _ _ part _ type other answer contribution
    exact (sameParts part type other answer contribution).within
  · apply TypeExpr.within_objectOf_of_standsFor grouped wide narrow
    intro _ _ part _ other type contribution answer
    exact (sameParts part type other answer contribution).symm.within

/-- Of an object, what it holds is typed by itself or what it holds is merged. -/
theorem object_concur (fresh : address ∉ opened) (isObject : node.isObject = true) :
    Concur graph settings opened (.container address) (object graph settings typer (address :: opened) depth node)
      (Merge.shapes graph settings typer opened depth [.container address]) := by
  have isObjectValue : graph.isObject (.container address) = true :=
    Graph.isObject_eq_true_iff.mpr ⟨address, node, rfl, isNode, isObject⟩
  cases inferred : object graph settings typer (address :: opened) depth node with
  | ok type =>
      cases merged : Merge.shapes graph settings typer opened depth [.container address] with
      | error other => exact absurd merged (shapes_ne_error_of_object concurs isNode inferred)
      | ok contributed =>
          refine .types (sameValues_of_object concurs isNode inferred merged) ?_
          rintro (notObject | isOpen)
          · cases isObjectValue.symm.trans notObject
          · cases (Value.isOpen_container_eq_false_iff.mpr fresh).symm.trans isOpen
  | error fault =>
      cases merged : Merge.shapes graph settings typer opened depth [.container address] with
      | error other => exact .faults fault other
      | ok contributed => exact .unordered fault contributed (leavesUnordered_of_object concurs isNode inferred merged)

end Object

/-- The elements of a merged array have the same shape in the order in which they are typed. -/
theorem mergedArray_concur (merging : settings.mode = .merge) (concurs : typer.Concurs graph settings)
    (isNode : graph.node? address = some node) (isMerged : isMergedArray graph opened node = true) :
    Concur graph settings opened (.container address) (array graph settings typer (address :: opened) depth node)
      (do return .array (← Merge.shapes graph settings typer (address :: opened) depth node.members)) := by
  obtain ⟨isArray, someMembers, areFresh⟩ := fresh_of_isMergedArray isNode isMerged
  cases listing : graph.elements node with
  | error fault =>
      have notTyped : array graph settings typer (address :: opened) depth node = .error fault := by
        rw [array, listing]
        rfl
      have leaves : graph.LeavesUnordered settings (.container address) := by
        refine ⟨_, node, fault, .refl, isNode, ⟨merging, ?_⟩, listing⟩
        cases node with
        | mapping | record => cases isArray
        | sequence | range | view => cases listing
        | set kind elements => exact ⟨kind, elements, rfl, fun element member => (areFresh element member).1⟩
      rw [notTyped]
      cases Merge.shapes graph settings typer (address :: opened) depth node.members with
      | error other => exact .faults fault other
      | ok shape => exact .unordered fault (.array shape) leaves
  | ok elements =>
      have members := Graph.elements_perm_members listing
      have nonempty : elements ≠ [] := by
        rintro rfl
        exact someMembers (List.nil_perm.mp members)
      have isKind : ArrayKind.ofElements graph (address :: opened) elements = .objects :=
        ArrayKind.ofElements_eq_objects nonempty fun element member => areFresh element (members.mem_iff.mp member)
      have typed : array graph settings typer (address :: opened) depth node =
          (do return .array (← Merge.shapes graph settings typer (address :: opened) depth elements)) := by
        rw [array, listing]
        change (if elements.isEmpty then _ else _) = _
        rw [if_neg (by simpa using nonempty), isKind, ArrayUnion.ofKind, ArrayUnion.ofObjects, merging]
      rw [typed]
      apply Concur.of_agree
      apply (Merge.shapes_agree graph.interchanges_refl concurs.interchanges fun _ => members.mem_iff).bind
      intro shape other _ _ alike
      exact .ok alike.array

/-- A step types a value and its contribution so that they concur if those of the values inside do. -/
theorem step_concur (merging : settings.mode = .merge) (concurs : typer.Concurs graph settings) (opened : List Address)
    (depth : Int) (target : Value) :
    Concur graph settings opened target (Inference.value graph settings typer opened depth target)
      (contribution graph settings typer opened depth target) := by
  cases target with
  | leaf leaf => exact concur_self _
  | container address =>
      cases isNode : graph.node? address with
      | none =>
          simp only [Inference.value, contribution, isNode]
          exact concur_self _
      | some node =>
          simp only [Inference.value, contribution, isNode]
          split
          · exact concur_self _
          · rename_i fresh
            split
            · rename_i isObject
              have notMerged : isMergedArray graph opened node = false := by simp [isMergedArray, isObject]
              rw [notMerged, if_neg Bool.false_ne_true]
              exact object_concur concurs isNode fresh isObject
            · split
              · rename_i isMerged
                exact mergedArray_concur merging concurs isNode isMerged
              · exact concur_self _

/-- Whatever the budget is, values and their contributions are typed so that they concur. -/
theorem concurs_typer (graph : Graph) (merging : settings.mode = .merge) (budget : Nat) :
    (Inference.typer graph settings budget).Concurs graph settings := by
  have interchanges := graph.interchanges_refl.typers settings
  induction budget with
  | zero => exact ⟨interchanges 0, fun _ _ _ => .faults _ _⟩
  | succ budget induction => exact ⟨interchanges (budget + 1), step_concur merging induction⟩

end Inference

end Steps

namespace Graph

/-- Where objects are merged, the type of a value and the type that it contributes hold the same values, and they have
the same text unless the value is an object that is not open.  Or both do not exist, or the value has no type and
contributes one, because it has inside it a set of nothing but objects whose elements cannot be put in order. -/
theorem contribution_concurs (graph : Graph) {settings : Settings} (merging : settings.mode = .merge)
    (opened : List Address) (depth : Int) (value : Value) :
    (∃ inferred contributed, (graph.typer settings).infer opened depth value = .ok inferred ∧
        (graph.typer settings).contribute opened depth value = .ok contributed ∧
        inferred.SameValues contributed ∧
        (graph.isObject value = false ∨ value.isOpen opened = true →
          inferred.render settings = contributed.render settings)) ∨
      ∃ fault, (graph.typer settings).infer opened depth value = .error fault ∧ graph.FailsBelow value fault ∧
        ((∃ other, (graph.typer settings).contribute opened depth value = .error other ∧ graph.FailsBelow value other) ∨
          (∃ contributed, (graph.typer settings).contribute opened depth value = .ok contributed) ∧
            graph.LeavesUnordered settings value) := by
  have concur := (Inference.concurs_typer graph merging (graph.nodes.size + 1)).concur opened depth value
  have inferBelow (fault : Fault) (failed : (graph.typer settings).infer opened depth value = .error fault) :
      graph.FailsBelow value fault := by
    have answer : (graph.typer settings).answer ⟨false, opened, depth, value⟩ = .error fault := failed
    exact failsBelow_of_answer answer
  have contributeBelow (fault : Fault) (failed : (graph.typer settings).contribute opened depth value = .error fault) :
      graph.FailsBelow value fault := by
    have answer : (graph.typer settings).answer ⟨true, opened, depth, value⟩ = .error fault := failed
    exact failsBelow_of_answer answer
  change Concur graph settings opened value ((graph.typer settings).infer opened depth value)
    ((graph.typer settings).contribute opened depth value) at concur
  generalize (graph.typer settings).infer opened depth value = inferred at concur inferBelow ⊢
  generalize (graph.typer settings).contribute opened depth value = contributed at concur contributeBelow ⊢
  cases concur with
  | types same alike => exact .inl ⟨_, _, rfl, rfl, same, fun isExact => (alike isExact).render_eq⟩
  | faults fault other => exact .inr ⟨fault, rfl, inferBelow fault rfl, .inl ⟨other, rfl, contributeBelow other rfl⟩⟩
  | unordered fault contributed leaves =>
      exact .inr ⟨fault, rfl, inferBelow fault rfl, .inr ⟨⟨contributed, rfl⟩, leaves⟩⟩

end Graph

namespace FacetedGraph

/-- Where objects are merged, the type of a value without facets and the type that it contributes hold the same values of
any world, and they have the same text unless the value is an object that is not open.  Or both do not exist, or the
value has no type and contributes one, because it has inside it a set of nothing but objects whose elements cannot be put
in order. -/
theorem contribute_agrees_with_infer (graph : FacetedGraph) {settings : Settings} (merging : settings.mode = .merge)
    (opened : List Address) (depth : Int) (value : Value) (bare : graph.BareBelow value) :
    (∃ inferred contributed, (graph.typer settings).infer opened depth value = .ok inferred ∧
        (graph.typer settings).contribute opened depth value = .ok contributed ∧
        (∀ (Item : Type) (world : World Item) (item : Item), inferred.HeldIn world item ↔ contributed.HeldIn world item) ∧
        (graph.isObject value = false ∨ value.isOpen opened = true →
          inferred.render settings = contributed.render settings)) ∨
      ∃ fault, (graph.typer settings).infer opened depth value = .error fault ∧ graph.shown.FailsBelow value fault ∧
        ((∃ other, (graph.typer settings).contribute opened depth value = .error other ∧
            graph.shown.FailsBelow value other) ∨
          (∃ contributed, (graph.typer settings).contribute opened depth value = .ok contributed) ∧
            graph.shown.LeavesUnordered settings value) := by
  obtain ⟨sameInferred, sameContributed⟩ := typer_shown settings opened depth bare
  rw [sameInferred, sameContributed, ← isObject_shown]
  exact graph.shown.contribution_concurs merging opened depth value

/-- A record with a field that was never assigned, in a set and in a list, and the list of an object that holds the empty
class of an enumeration. -/
def tray : FacetedGraph where
  nodes :=
    #[.set .set [.container 2], .sequence .list [.container 2], .record "P" [("x", none)],
      .mapping .plain [(.leaf (.text "a"), .container 4)], .sequence (.custom "EnumType" "<enum 'E'>") []]
  facets
    | 4 => { alwaysTrue := true }
    | _ => {}

/-- What the record becomes in an array. -/
def trayType : TypeExpr :=
  .array (.object [⟨"x", .primitive "undefined", false⟩] 0)

theorem bareBelow_tray {address : Address} (among : address = 0 ∨ address = 1 ∨ address = 2) :
    tray.BareBelow (.container address) := by
  have bare (address : Address) (among : address = 0 ∨ address = 1 ∨ address = 2) : tray.IsBare address := by
    rcases among with rfl | rfl | rfl <;> exact ⟨rfl, rfl, nofun⟩
  apply bareBelow_of_inside bare
  · rintro address node part (rfl | rfl | rfl) isNode held <;> cases isNode <;>
      simp [tray, Node.held, lastByKey, assignUnder] at held ⊢
    all_goals exact .inr (.inr held)
  · rintro _ ⟨⟩
    exact among

/-- The list has the text of what it contributes; the set contributes the same and has no type by itself. -/
theorem contribute_agrees_with_infer_tray :
    ({} : Settings).mode = .merge ∧ tray.BareBelow (.container 0) ∧ tray.BareBelow (.container 1) ∧
      trayType.render {} = "\x7b\n  x: undefined;\n\x7d[]" ∧
      (∃ inferred, (tray.typer {}).infer [] 0 (.container 1) = .ok inferred ∧
        (tray.typer {}).contribute [] 0 (.container 1) = .ok trayType ∧ inferred.render {} = trayType.render {}) ∧
      (∃ fault, (tray.typer {}).infer [] 0 (.container 0) = .error fault ∧
        (tray.typer {}).contribute [] 0 (.container 0) = .ok trayType) ∧
      tray.shown.LeavesUnordered {} (.container 0) := by
  have merging : ({} : Settings).mode = .merge := rfl
  have bareSet := bareBelow_tray (.inl rfl)
  have bareList := bareBelow_tray (.inr (.inl rfl))
  have written : trayType.render {} = "\x7b\n  x: undefined;\n\x7d[]" := by decide +kernel
  have listContributes : (tray.typer {}).contribute [] 0 (.container 1) = .ok trayType := by rfl
  have setContributes : (tray.typer {}).contribute [] 0 (.container 0) = .ok trayType := by rfl
  have listTyped : ((tray.typer {}).infer [] 0 (.container 1)).isOk = true := by decide +kernel
  have setNotTyped : ((tray.typer {}).infer [] 0 (.container 0)).isOk = false := by decide +kernel
  refine ⟨merging, bareSet, bareList, written, ?_⟩
  constructor
  · obtain ⟨inferred, contributed, typed, contributes, -, sameText⟩ | ⟨fault, failed, -⟩ :=
      contribute_agrees_with_infer tray merging [] 0 (.container 1) bareList
    · cases listContributes.symm.trans contributes
      exact ⟨inferred, typed, listContributes, sameText (.inl rfl)⟩
    · rw [failed] at listTyped
      cases listTyped
  · obtain ⟨inferred, contributed, typed, -⟩ | ⟨fault, failed, -, ⟨other, notContributed, -⟩ | ⟨-, leaves⟩⟩ :=
      contribute_agrees_with_infer tray merging [] 0 (.container 0) bareSet
    · rw [typed] at setNotTyped
      cases setNotTyped
    · cases setContributes.symm.trans notContributed
    · exact ⟨⟨fault, failed, setContributes⟩, leaves⟩

/-- An empty class of an enumeration holds as a condition: it contributes the type of an array of objects, and by itself it
is typed as an array of what is not known. -/
theorem contribute_disagrees_with_infer_misfits :
    (misfits.typer {}).infer [] 0 (.container 11) = .ok .emptyArray ∧
      (misfits.typer {}).contribute [] 0 (.container 11) = .ok (.array .anyObject) ∧
      TypeExpr.emptyArray.HeldIn misfits.world (.container 10) ∧
      ¬(TypeExpr.array .anyObject).HeldIn misfits.world (.container 10) := by
  refine ⟨by rfl, by rfl, ⟨rfl, fun _ _ => .inl rfl⟩, ?_⟩
  rintro ⟨-, each⟩
  obtain ⟨isObject, -⟩ := each (.leaf (.integer 1)) ⟨_, rfl, List.mem_singleton_self _⟩
  cases isObject

end FacetedGraph

end SampleTypes
