import SampleTypes.Proofs.SetOrder

/-!
# Unfoldings

A graph unfolds into a tree in which every part of a container stands by itself, wherever else the part occurs.
Values with the same unfolding differ in nothing but which of their parts are the same object.  If no container in
them contains itself, they have the same literals and list related contents: the tests for open containers that
the literals make never succeed.
-/

namespace SampleTypes

namespace Leaf

/-- A leaf without the mark that tells it apart from leaves that look alike. -/
def unmarked : Leaf → Leaf
  | .numeral value _ => .numeral value
  | .symbol name shown written standsFor isFlag _ => .symbol name shown written standsFor isFlag
  | .function name written _ => .function name written
  | .other name written _ => .other name written
  | leaf => leaf

theorem type_unmarked (leaf : Leaf) : leaf.unmarked.type = leaf.type := by
  cases leaf <;> rfl

theorem isArray_unmarked (leaf : Leaf) : leaf.unmarked.isArray = leaf.isArray := by
  cases leaf <;> rfl

theorem kind_unmarked (leaf : Leaf) : leaf.unmarked.kind = leaf.kind := by
  cases leaf <;> rfl

theorem literal_unmarked (leaf : Leaf) : leaf.unmarked.literal = leaf.literal := by
  cases leaf <;> rfl

theorem keyText_unmarked (leaf : Leaf) : leaf.unmarked.keyText = leaf.keyText := by
  cases leaf <;> rfl

theorem isTooLong_unmarked (leaf : Leaf) : leaf.unmarked.isTooLong = leaf.isTooLong := by
  cases leaf with
  | numeral value mark => cases value <;> simp only [unmarked, isTooLong]
  | _ => simp only [unmarked, isTooLong]

end Leaf

namespace MappingKind

/-- The mappings that are seen as one. -/
def layers : MappingKind → List Value
  | .layered layers => layers
  | .plain | .ordered | .readOnly => []

/-- A kind of mappings with empty places for the mappings that are seen as one. -/
def outline : MappingKind → MappingKind
  | .layered layers => .layered (layers.map fun _ => .leaf .null)
  | kind => kind

/-- The same kind of mappings, with related layers. -/
inductive Alike (related : Value → Value → Prop) : MappingKind → MappingKind → Prop
  | plain : Alike related .plain .plain
  | ordered : Alike related .ordered .ordered
  | readOnly : Alike related .readOnly .readOnly
  | layered {layers others : List Value} (each : List.Forall₂ related layers others) :
      Alike related (.layered layers) (.layered others)

theorem alike_of_outline_eq {related : Value → Value → Prop} {kind other : MappingKind}
    (sameOutline : kind.outline = other.outline) (layers : List.Forall₂ related kind.layers other.layers) :
    Alike related kind other := by
  cases kind <;> cases other <;> try cases sameOutline
  · exact .plain
  · exact .ordered
  · exact .readOnly
  · exact .layered layers

theorem length_layers_eq {kind other : MappingKind} (sameOutline : kind.outline = other.outline) :
    kind.layers.length = other.layers.length := by
  cases kind <;> cases other <;> first | rfl | cases sameOutline | skip
  have sameLayers := MappingKind.layered.inj sameOutline
  simpa [layers] using congrArg List.length sameLayers

end MappingKind

namespace Node

/-- All values in a container, the keys of a mapping and its layers among them. -/
def parts : Node → List Value
  | .mapping kind entries => kind.layers ++ entries.flatMap fun entry => [entry.1, entry.2]
  | .record _ fields => fields.filterMap (·.2)
  | .sequence _ elements => elements
  | .range _ | .view _ => []
  | .set _ elements => elements

/-- A container with empty places for its parts. -/
def outline : Node → Node
  | .mapping kind entries => .mapping kind.outline (entries.map fun _ => (.leaf .null, .leaf .null))
  | .record name fields => .record name (fields.map fun field => (field.1, field.2.map fun _ => .leaf .null))
  | .sequence kind elements => .sequence kind (elements.map fun _ => .leaf .null)
  | .range progression => .range progression
  | .view content => .view content
  | .set kind elements => .set kind (elements.map fun _ => .leaf .null)

/-- The same container, with related parts in the same places. -/
inductive Alike (related : Value → Value → Prop) : Node → Node → Prop
  | mapping {kind other : MappingKind} {entries others : List (Value × Value)}
      (kinds : MappingKind.Alike related kind other)
      (each : List.Forall₂ (fun entry other => related entry.1 other.1 ∧ related entry.2 other.2) entries others) :
      Alike related (.mapping kind entries) (.mapping other others)
  | record (name : String) {fields others : List (String × Option Value)}
      (each : List.Forall₂ (fun field other => field.1 = other.1 ∧ Option.Rel related field.2 other.2)
        fields others) :
      Alike related (.record name fields) (.record name others)
  | sequence (kind : SequenceKind) {elements others : List Value} (each : List.Forall₂ related elements others) :
      Alike related (.sequence kind elements) (.sequence kind others)
  | range (progression : Progression) : Alike related (.range progression) (.range progression)
  | view (content : List UInt8) : Alike related (.view content) (.view content)
  | set (kind : SetKind) {elements others : List Value} (each : List.Forall₂ related elements others) :
      Alike related (.set kind elements) (.set kind others)

section OfOutline

variable {related : Value → Value → Prop}

private theorem forall₂_entries {entries others : List (Value × Value)} (sameLength : entries.length = others.length)
    (pairs : List.Forall₂ related (entries.flatMap fun entry => [entry.1, entry.2])
      (others.flatMap fun entry => [entry.1, entry.2])) :
    List.Forall₂ (fun entry other => related entry.1 other.1 ∧ related entry.2 other.2) entries others := by
  induction entries generalizing others with
  | nil =>
      cases List.length_eq_zero_iff.mp sameLength.symm
      exact .nil
  | cons entry entries induction =>
      cases others with
      | nil => cases sameLength
      | cons other others =>
          cases pairs with
          | cons keys later =>
              cases later with
              | cons values later => exact .cons ⟨keys, values⟩ (induction (Nat.succ.inj sameLength) later)

private theorem forall₂_fields {fields others : List (String × Option Value)}
    (sameOutline : (fields.map fun field => (field.1, field.2.map fun _ => Value.leaf .null)) =
      others.map fun field => (field.1, field.2.map fun _ => Value.leaf .null))
    (pairs : List.Forall₂ related (fields.filterMap (·.2)) (others.filterMap (·.2))) :
    List.Forall₂ (fun field other => field.1 = other.1 ∧ Option.Rel related field.2 other.2) fields others := by
  induction fields generalizing others with
  | nil =>
      cases List.map_eq_nil_iff.mp sameOutline.symm
      exact .nil
  | cons field fields induction =>
      cases others with
      | nil => cases sameOutline
      | cons other others =>
          obtain ⟨name, content⟩ := field
          obtain ⟨otherName, otherContent⟩ := other
          obtain ⟨sameField, sameFields⟩ := List.cons.inj sameOutline
          obtain ⟨sameName, sameContent⟩ := Prod.mk.inj sameField
          cases content with
          | none =>
              cases otherContent with
              | none => exact .cons ⟨sameName, .none⟩ (induction sameFields pairs)
              | some otherValue => cases sameContent
          | some value =>
              cases otherContent with
              | none => cases sameContent
              | some otherValue =>
                  cases pairs with
                  | cons values later => exact .cons ⟨sameName, .some values⟩ (induction sameFields later)

/-- Containers with the same outline are alike if their parts are related one after the other. -/
theorem alike_of_outline_eq {node other : Node} (sameOutline : node.outline = other.outline)
    (parts : List.Forall₂ related node.parts other.parts) : node.Alike related other := by
  cases node <;> cases other <;> try cases sameOutline
  case mapping.mapping kind entries otherKind others =>
    obtain ⟨sameKind, sameEntries⟩ := Node.mapping.inj sameOutline
    have sameLength : entries.length = others.length := by simpa using congrArg List.length sameEntries
    change List.Forall₂ related (kind.layers ++ _) (otherKind.layers ++ _) at parts
    have layers := List.forall₂_take_append _ _ _ parts
    have pairs := List.forall₂_drop_append _ _ _ parts
    rw [List.take_left' (MappingKind.length_layers_eq sameKind)] at layers
    rw [List.drop_left' (MappingKind.length_layers_eq sameKind)] at pairs
    exact .mapping (MappingKind.alike_of_outline_eq sameKind layers) (forall₂_entries sameLength pairs)
  case record.record name fields otherName others =>
    obtain ⟨rfl, sameFields⟩ := Node.record.inj sameOutline
    exact .record name (forall₂_fields sameFields parts)
  case sequence.sequence kind elements otherKind others =>
    obtain ⟨rfl, -⟩ := Node.sequence.inj sameOutline
    exact .sequence kind parts
  case range.range progression => exact .range progression
  case view.view content => exact .view content
  case set.set kind elements otherKind others =>
    obtain ⟨rfl, -⟩ := Node.set.inj sameOutline
    exact .set kind parts

end OfOutline

namespace Alike

variable {related : Value → Value → Prop} {node other : Node}

theorem isObject_eq (alike : node.Alike related other) : node.isObject = other.isObject := by
  cases alike <;> rfl

theorem kind_eq (alike : node.Alike related other) : node.kind = other.kind := by
  cases alike with
  | mapping kinds each => cases kinds <;> rfl
  | record | sequence | range | view | set => rfl

theorem ellipsis?_eq (alike : node.Alike related other) : node.ellipsis? = other.ellipsis? := by
  cases alike with
  | mapping kinds each => cases kinds <;> rfl
  | record | sequence | range | view | set => rfl

/-- Arrays that are alike yield related elements. -/
theorem members (alike : node.Alike related other) (leaves : ∀ leaf, related (.leaf leaf) (.leaf leaf)) :
    List.Forall₂ related node.members other.members := by
  cases alike with
  | mapping | record => exact .nil
  | sequence kind each | set kind each => exact each
  | range progression =>
      rw [Node.members, List.forall₂_map_left_iff, List.forall₂_map_right_iff]
      exact List.forall₂_same.mpr fun _ _ => leaves _
  | view content =>
      rw [Node.members, List.forall₂_map_left_iff, List.forall₂_map_right_iff]
      exact List.forall₂_same.mpr fun _ _ => leaves _

theorem isTrue_eq (alike : node.Alike related other) : node.isTrue = other.isTrue := by
  have sameEmpty {elements others : List Value} (each : List.Forall₂ related elements others) :
      (!elements.isEmpty) = !others.isEmpty := by
    cases each <;> rfl
  cases alike with
  | mapping | record | range | view => rfl
  | sequence kind each =>
      cases kind with
      | custom name literal isFalse =>
          cases isFalse with
          | false => exact sameEmpty each
          | true => rfl
      | _ => exact sameEmpty each
  | set kind each => exact sameEmpty each

/-- Containers that are alike have the same literal if related parts have. -/
theorem literal_eq {left right : Value → Except Fault String} (alike : node.Alike related other)
    (leaves : ∀ leaf, left (.leaf leaf) = right (.leaf leaf))
    (shown : ∀ value partner, related value partner → left value = right partner) :
    node.literal left = other.literal right := by
  have sameLiterals {values partners : List Value} (each : List.Forall₂ related values partners) :
      values.mapM left = partners.mapM right :=
    Outcome.mapM_eq_of_forall₂ (each.imp shown)
  cases alike with
  | @mapping kind otherKind entries others kinds each =>
      have sameEntries : (entries.mapM fun entry => do return (← left entry.1, ← left entry.2)) =
          others.mapM fun entry => do return (← right entry.1, ← right entry.2) := by
        refine Outcome.mapM_eq_of_forall₂ (each.imp ?_)
        rintro entry partner ⟨keys, values⟩
        rw [shown _ _ keys, shown _ _ values]
      cases kinds with
      | layered layers =>
          simp only [literal, sameLiterals layers]
          rfl
      | _ => simp only [literal, sameEntries]
  | record name each =>
      simp only [literal]
      rw [Outcome.mapM_eq_of_forall₂ (each.imp ?_)]
      rintro ⟨field, content⟩ ⟨_, otherContent⟩ ⟨rfl, contents⟩
      cases contents with
      | none => rfl
      | some values => simp only [shown _ _ values]
  | sequence kind each =>
      cases kind with
      | custom name literal isFalse => rfl
      | _ => simp only [literal, sameLiterals each]
  | range progression =>
      have sameBounds : (bounds progression).mapM left = (bounds progression).mapM right := by
        apply Outcome.mapM_congr
        intro bound member
        obtain ⟨integer, -, rfl⟩ := List.mem_map.mp member
        exact leaves _
      simp only [literal, sameBounds]
  | view content => rfl
  | set kind each => simp only [literal, sameLiterals each]

end Alike

end Node

/-- What a value unfolds into down to some level; whatever is below it is cut off. -/
inductive Unfolding
  | cut
  | leaf (content : Leaf)
  | missing
  | container (outline : Node) (parts : List Unfolding)

namespace Graph

/-- The tree that a value unfolds into, down to some level of containers. -/
def unfold (graph : Graph) : Nat → Value → Unfolding
  | _, .leaf leaf => .leaf leaf.unmarked
  | 0, .container _ => .cut
  | levels + 1, .container address =>
    match graph.node? address with
    | none => .missing
    | some node => .container node.outline (node.parts.map (graph.unfold levels))

/-- A container is made of a value. -/
def Contains (graph : Graph) (whole part : Value) : Prop :=
  ∃ node, graph.nodeOf? whole = some node ∧ part ∈ node.parts

/-- One value is another one or somewhere in it, keys of mappings and their layers included. -/
def Includes (graph : Graph) : Value → Value → Prop :=
  Relation.ReflTransGen graph.Contains

/-- No container in a value is in itself. -/
def Acyclic (graph : Graph) (value : Value) : Prop :=
  ∀ whole, graph.Includes value whole → ¬Relation.TransGen graph.Contains whole whole

/-- A value without cycles that includes no open container. -/
structure Fresh (graph : Graph) (opened : List Address) (value : Value) : Prop where
  acyclic : graph.Acyclic value
  apart : ∀ address ∈ opened, ¬graph.Includes value (.container address)

section Fresh

variable {graph : Graph} {opened : List Address} {address : Address} {node : Node} {value inner : Value}

theorem Fresh.part (fresh : graph.Fresh opened (.container address)) (isNode : graph.node? address = some node)
    (isPart : inner ∈ node.parts) : graph.Fresh (address :: opened) inner := by
  have contains : graph.Contains (.container address) inner := ⟨node, isNode, isPart⟩
  constructor
  · intro whole includes
    exact fresh.acyclic whole (includes.head contains)
  · intro other isOpen includes
    rcases List.mem_cons.mp isOpen with rfl | earlier
    · exact fresh.acyclic _ .refl (Relation.TransGen.head' contains includes)
    · exact fresh.apart other earlier (includes.head contains)

theorem Fresh.not_mem (fresh : graph.Fresh opened (.container address)) : address ∉ opened :=
  fun isOpen => fresh.apart address isOpen .refl

theorem Fresh.of_subset {fewer : List Address} (fresh : graph.Fresh opened value) (subset : fewer ⊆ opened) :
    graph.Fresh fewer value :=
  ⟨fresh.acyclic, fun address isOpen => fresh.apart address (subset isOpen)⟩

theorem fresh_leaf (leaf : Leaf) : graph.Fresh opened (.leaf leaf) := by
  have nothing {whole : Value} (includes : graph.Includes (.leaf leaf) whole) : whole = .leaf leaf := by
    rcases includes.cases_head with same | ⟨part, ⟨node, isNode, -⟩, -⟩
    · exact same.symm
    · cases isNode
  constructor
  · intro whole includes cycle
    rw [nothing includes] at cycle
    obtain ⟨part, ⟨node, isNode, -⟩, -⟩ := Relation.TransGen.head'_iff.mp cycle
    cases isNode
  · intro address _ includes
    cases nothing includes

end Fresh

/-- A value without cycles and one with the same unfolding, neither of which includes what is open around it. -/
structure Follows (left right : Graph) (opened others : List Address) (value partner : Value) : Prop where
  sameUnfolding : ∀ levels, left.unfold levels value = right.unfold levels partner
  fresh : left.Fresh opened value
  partnerFresh : right.Fresh others partner

variable {left right : Graph} {opened others : List Address} {value partner : Value}

theorem follows_leaf (leaf : Leaf) : Follows left right opened others (.leaf leaf) (.leaf leaf) := by
  refine ⟨?_, fresh_leaf leaf, fresh_leaf leaf⟩
  intro levels
  cases levels <;> rfl

theorem Follows.of_subset {fewer fewerOthers : List Address} (follows : Follows left right opened others value partner)
    (subset : fewer ⊆ opened) (otherSubset : fewerOthers ⊆ others) :
    Follows left right fewer fewerOthers value partner :=
  ⟨follows.sameUnfolding, follows.fresh.of_subset subset, follows.partnerFresh.of_subset otherSubset⟩

/-- Leaves with the same unfolding differ in their marks only. -/
theorem Follows.exists_leaf {leaf : Leaf} (follows : Follows left right opened others (.leaf leaf) partner) :
    ∃ other : Leaf, partner = .leaf other ∧ leaf.unmarked = other.unmarked := by
  have sameUnfolding := follows.sameUnfolding 0
  cases partner with
  | leaf other => exact ⟨other, rfl, Unfolding.leaf.inj sameUnfolding⟩
  | container address => cases sameUnfolding

/-- Containers with the same unfolding are both missing or alike. -/
theorem Follows.exists_container {address : Address}
    (follows : Follows left right opened others (.container address) partner) :
    ∃ other, partner = .container other ∧ address ∉ opened ∧ other ∉ others ∧
      ((left.node? address = none ∧ right.node? other = none) ∨
        ∃ node otherNode, left.node? address = some node ∧ right.node? other = some otherNode ∧
          node.Alike (Follows left right (address :: opened) (other :: others)) otherNode) := by
  cases partner with
  | leaf leaf => cases follows.sameUnfolding 0
  | container other =>
      refine ⟨other, rfl, follows.fresh.not_mem, follows.partnerFresh.not_mem, ?_⟩
      have sameUnfolding (levels : Nat) := follows.sameUnfolding (levels + 1)
      simp only [unfold] at sameUnfolding
      cases isNode : left.node? address with
      | none =>
          cases isOther : right.node? other with
          | none => exact .inl ⟨rfl, rfl⟩
          | some otherNode =>
              simp only [isNode, isOther] at sameUnfolding
              cases sameUnfolding 0
      | some node =>
          cases isOther : right.node? other with
          | none =>
              simp only [isNode, isOther] at sameUnfolding
              cases sameUnfolding 0
          | some otherNode =>
              simp only [isNode, isOther, Unfolding.container.injEq] at sameUnfolding
              refine .inr ⟨node, otherNode, rfl, rfl, Node.alike_of_outline_eq (sameUnfolding 0).1 ?_⟩
              have pairs (levels : Nat) :
                  List.Forall₂ (fun part otherPart => left.unfold levels part = right.unfold levels otherPart)
                    node.parts otherNode.parts := by
                rw [← List.forall₂_map_right_iff, ← List.forall₂_map_left_iff, List.forall₂_eq_eq_eq]
                exact (sameUnfolding levels).2
              refine List.forall₂_iff_zip.mpr ⟨(pairs 0).length_eq, fun {part otherPart} member => ?_⟩
              obtain ⟨isPart, isOtherPart⟩ := List.of_mem_zip member
              exact {
                sameUnfolding := fun levels => (List.forall₂_iff_zip.mp (pairs levels)).2 member
                fresh := follows.fresh.part isNode isPart
                partnerFresh := follows.partnerFresh.part isOther isOtherPart }

theorem Follows.notOpen (follows : Follows left right opened others value partner) : value.isOpen opened = false := by
  cases value with
  | leaf leaf => rfl
  | container address => exact Value.isOpen_container_eq_false_iff.mpr follows.fresh.not_mem

theorem Follows.isObject_eq (follows : Follows left right opened others value partner) :
    left.isObject value = right.isObject partner := by
  cases value with
  | leaf leaf =>
      obtain ⟨other, rfl, -⟩ := follows.exists_leaf
      rfl
  | container address =>
      obtain ⟨other, rfl, -, -, ⟨isNone, otherIsNone⟩ | ⟨node, otherNode, isNode, isOther, alike⟩⟩ :=
        follows.exists_container
      · simp only [isObject, nodeOf?, isNone, otherIsNone]
      · simp only [isObject, nodeOf?, isNode, isOther, alike.isObject_eq]

theorem Follows.isArray_eq (follows : Follows left right opened others value partner) :
    left.isArray value = right.isArray partner := by
  cases value with
  | leaf leaf =>
      obtain ⟨other, rfl, sameLeaf⟩ := follows.exists_leaf
      rw [isArray, isArray, ← leaf.isArray_unmarked, sameLeaf, other.isArray_unmarked]
  | container address =>
      obtain ⟨other, rfl, -, -, ⟨isNone, otherIsNone⟩ | ⟨node, otherNode, isNode, isOther, alike⟩⟩ :=
        follows.exists_container
      · simp only [isArray, isNone, otherIsNone]
      · simp only [isArray, isNode, isOther, alike.isObject_eq]

theorem Follows.kind_eq (follows : Follows left right opened others value partner) :
    left.kind value = right.kind partner := by
  cases value with
  | leaf leaf =>
      obtain ⟨other, rfl, sameLeaf⟩ := follows.exists_leaf
      rw [kind, kind, ← leaf.kind_unmarked, sameLeaf, other.kind_unmarked]
  | container address =>
      obtain ⟨other, rfl, -, -, ⟨isNone, otherIsNone⟩ | ⟨node, otherNode, isNode, isOther, alike⟩⟩ :=
        follows.exists_container
      · simp only [kind, isNone, otherIsNone]
      · simp only [kind, isNode, isOther, alike.kind_eq]

theorem leafLiteral_eq {leaf other : Leaf} (sameLeaf : leaf.unmarked = other.unmarked) :
    leafLiteral leaf = leafLiteral other := by
  rw [leafLiteral, ← leaf.isTooLong_unmarked, ← leaf.literal_unmarked, sameLeaf, other.isTooLong_unmarked,
    other.literal_unmarked, leafLiteral]

/-- Values with the same unfolding have the same literal if neither budget is spent.  No container is met again
inside itself, so it does not matter which ones count as open for an ellipsis. -/
theorem Follows.literalWithin_eq {budget otherBudget : Nat} {shown otherShown : List Address}
    (follows : Follows left right opened others value partner) (subset : shown ⊆ opened)
    (otherSubset : otherShown ⊆ others) (enough : (left.unopened opened).card < budget)
    (otherEnough : (right.unopened others).card < otherBudget) :
    left.literalWithin budget shown value = right.literalWithin otherBudget otherShown partner := by
  induction budget generalizing otherBudget opened others shown otherShown value partner with
  | zero => exact absurd enough (Nat.not_lt_zero _)
  | succ budget induction =>
      cases otherBudget with
      | zero => exact absurd otherEnough (Nat.not_lt_zero _)
      | succ otherBudget =>
          cases value with
          | leaf leaf =>
              obtain ⟨other, rfl, sameLeaf⟩ := follows.exists_leaf
              exact leafLiteral_eq sameLeaf
          | container address =>
              obtain ⟨other, rfl, closed, otherClosed, ⟨isNone, otherIsNone⟩ | ⟨node, otherNode, isNode, isOther, alike⟩⟩ :=
                follows.exists_container
              · simp only [literalWithin, isNone, otherIsNone]
              · have fewer := card_unopened_lt isNode closed List.mem_cons_self (List.subset_cons_self _ _)
                have otherFewer := card_unopened_lt isOther otherClosed List.mem_cons_self (List.subset_cons_self _ _)
                have sameLiteral {shown otherShown : List Address} (subset : shown ⊆ address :: opened)
                    (otherSubset : otherShown ⊆ other :: others) :
                    node.literal (left.literalWithin budget shown) =
                      otherNode.literal (right.literalWithin otherBudget otherShown) :=
                  alike.literal_eq (fun leaf => by rw [literalWithin_leaf, literalWithin_leaf])
                    fun part otherPart parts => induction parts subset otherSubset (by omega) (by omega)
                simp only [literalWithin, isNode, isOther, alike.ellipsis?_eq]
                split
                · rw [if_neg fun isShown => closed (subset isShown),
                    if_neg fun isShown => otherClosed (otherSubset isShown)]
                  exact sameLiteral (List.cons_subset_cons _ subset) (List.cons_subset_cons _ otherSubset)
                · exact sameLiteral (List.subset_cons_of_subset _ subset) (List.subset_cons_of_subset _ otherSubset)

theorem card_unopened_nil_lt (graph : Graph) :
    (graph.unopened []).card < (graph.nodes.size + 1) * (graph.nodes.size + 1) := by
  have bounded := graph.card_unopened_le []
  have squared := Nat.le_mul_self (graph.nodes.size + 1)
  omega

theorem Follows.literal_eq (follows : Follows left right opened others value partner) :
    left.literal value = right.literal partner :=
  (follows.of_subset (List.nil_subset _) (List.nil_subset _)).literalWithin_eq (List.Subset.refl _)
    (List.Subset.refl _) left.card_unopened_nil_lt right.card_unopened_nil_lt

theorem Follows.keyText_eq (follows : Follows left right opened others value partner) :
    left.keyText value = right.keyText partner := by
  cases value with
  | leaf leaf =>
      obtain ⟨other, rfl, sameLeaf⟩ := follows.exists_leaf
      rw [keyText, keyText, ← leaf.isTooLong_unmarked, ← leaf.keyText_unmarked, sameLeaf, other.isTooLong_unmarked,
        other.keyText_unmarked]
  | container address =>
      obtain ⟨other, rfl, -⟩ := follows.exists_container
      exact follows.literal_eq

theorem Follows.orderKey_eq (follows : Follows left right opened others value partner) :
    left.orderKey value = right.orderKey partner := by
  rw [orderKey, orderKey, follows.kind_eq, follows.literal_eq]

end Graph

section Lists

variable {α β : Type} {related : α → β → Prop}

/-- The same key, with related things under it. -/
def UnderSameKey {κ : Type} (related : α → β → Prop) (item : κ × α) (other : κ × β) : Prop :=
  item.1 = other.1 ∧ related item.2 other.2

theorem forall₂_insertByKey {item : (String × String) × α} {other : (String × String) × β}
    (sameItem : UnderSameKey related item other) {items : List ((String × String) × α)}
    {others : List ((String × String) × β)} (each : List.Forall₂ (UnderSameKey related) items others) :
    List.Forall₂ (UnderSameKey related) (insertByKey item items) (insertByKey other others) := by
  induction each with
  | nil => exact .cons sameItem .nil
  | cons first later induction =>
      simp only [insertByKey, first.1, sameItem.1]
      split
      · exact .cons first induction
      · exact .cons sameItem (.cons first later)

/-- Items that are put in order by the same keys stay related. -/
theorem forall₂_sortByKey {items : List ((String × String) × α)} {others : List ((String × String) × β)}
    (each : List.Forall₂ (UnderSameKey related) items others) :
    List.Forall₂ related (sortByKey items) (sortByKey others) := by
  have sorted : List.Forall₂ (UnderSameKey related) (items.foldr insertByKey []) (others.foldr insertByKey []) := by
    induction each with
    | nil => exact .nil
    | cons first _ induction => exact forall₂_insertByKey first induction
  rw [sortByKey, sortByKey, List.forall₂_map_left_iff, List.forall₂_map_right_iff]
  exact sorted.imp fun _ _ items => items.2

theorem forall₂_addUnder (key : String) {value : α} {other : β} (values : related value other)
    {groups : List (String × List α)} {others : List (String × List β)}
    (each : List.Forall₂ (UnderSameKey (List.Forall₂ related)) groups others) :
    List.Forall₂ (UnderSameKey (List.Forall₂ related)) (addUnder key value groups) (addUnder key other others) := by
  induction each with
  | nil => exact .cons ⟨rfl, .cons values .nil⟩ .nil
  | cons first later induction =>
      simp only [addUnder, first.1]
      split
      · exact .cons ⟨rfl, List.rel_append first.2 (.cons values .nil)⟩ later
      · exact .cons first induction

/-- Values that are filed under the same keys stay related. -/
theorem forall₂_groupByKey {entries : List (String × α)} {others : List (String × β)}
    (each : List.Forall₂ (UnderSameKey related) entries others) :
    List.Forall₂ (UnderSameKey (List.Forall₂ related)) (groupByKey entries) (groupByKey others) := by
  have folded {groups : List (String × List α)} {otherGroups : List (String × List β)}
      (filed : List.Forall₂ (UnderSameKey (List.Forall₂ related)) groups otherGroups) :
      List.Forall₂ (UnderSameKey (List.Forall₂ related))
        (entries.foldl (fun groups entry => addUnder entry.1 entry.2 groups) groups)
        (others.foldl (fun groups entry => addUnder entry.1 entry.2 groups) otherGroups) := by
    induction each generalizing groups otherGroups with
    | nil => exact filed
    | @cons entry other _ _ first _ induction =>
        rw [List.foldl_cons, List.foldl_cons, first.1]
        exact induction (forall₂_addUnder other.1 first.2 filed)
  exact folded .nil

theorem forall₂_assignUnder (key : String) {value : α} {other : β} (values : related value other)
    {filed : List (String × α)} {others : List (String × β)} (each : List.Forall₂ (UnderSameKey related) filed others) :
    List.Forall₂ (UnderSameKey related) (assignUnder key value filed) (assignUnder key other others) := by
  induction each with
  | nil => exact .cons ⟨rfl, values⟩ .nil
  | cons first later induction =>
      simp only [assignUnder, first.1]
      split
      · exact .cons ⟨rfl, values⟩ later
      · exact .cons first induction

theorem forall₂_lastByKey {entries : List (String × α)} {others : List (String × β)}
    (each : List.Forall₂ (UnderSameKey related) entries others) :
    List.Forall₂ (UnderSameKey related) (lastByKey entries) (lastByKey others) := by
  have folded {filed : List (String × α)} {otherFiled : List (String × β)}
      (earlier : List.Forall₂ (UnderSameKey related) filed otherFiled) :
      List.Forall₂ (UnderSameKey related) (entries.foldl (fun filed entry => assignUnder entry.1 entry.2 filed) filed)
        (others.foldl (fun filed entry => assignUnder entry.1 entry.2 filed) otherFiled) := by
    induction each generalizing filed otherFiled with
    | nil => exact earlier
    | @cons entry other _ _ first _ induction =>
        rw [List.foldl_cons, List.foldl_cons, first.1]
        exact induction (forall₂_assignUnder other.1 first.2 earlier)
  exact folded .nil

end Lists

namespace Graph

variable {left right : Graph} {opened others : List Address} {value partner : Value} {node otherNode : Node}

/-- Arrays that are alike list related elements. -/
theorem elements_same (alike : node.Alike (Follows left right opened others) otherNode) :
    Outcome.Same (List.Forall₂ (Follows left right opened others)) (left.elements node)
      (right.elements otherNode) := by
  have members := alike.members follows_leaf
  cases alike with
  | set kind each =>
      refine Outcome.Same.bind (Outcome.mapM_same (each.imp ?_)) fun keyed otherKeyed sameKeyed =>
        .ok (forall₂_sortByKey sameKeyed)
      intro element other follows
      rw [id, id, follows.orderKey_eq]
      cases right.orderKey other with
      | error fault => exact .error fault
      | ok key => exact .ok ⟨rfl, follows⟩
  | mapping | record | sequence | range | view => exact .ok members

/-- Objects that are alike have related values under the same keys. -/
theorem entriesOfNode_same (alike : node.Alike (Follows left right opened others) otherNode) :
    Outcome.Same (List.Forall₂ (UnderSameKey (List.Forall₂ (Follows left right opened others))))
      (left.entriesOfNode node) (right.entriesOfNode otherNode) := by
  cases alike with
  | mapping kinds each =>
      refine Outcome.Same.bind (Outcome.mapM_same (each.imp ?_)) fun keyed otherKeyed sameKeyed =>
        .ok (forall₂_groupByKey sameKeyed)
      rintro ⟨key, content⟩ ⟨otherKey, otherContent⟩ ⟨keys, contents⟩
      dsimp only
      rw [keys.keyText_eq]
      cases right.keyText otherKey with
      | error fault => exact .error fault
      | ok text => exact .ok ⟨rfl, contents⟩
  | record name each =>
      refine .ok (forall₂_lastByKey ?_)
      rw [List.forall₂_map_left_iff, List.forall₂_map_right_iff]
      refine each.imp ?_
      rintro ⟨field, content⟩ ⟨otherField, otherContent⟩ ⟨sameField, contents⟩
      refine ⟨sameField, .cons ?_ .nil⟩
      cases contents with
      | none => exact follows_leaf _
      | some values => exact values
  | sequence | range | view | set => exact .error _

end Graph

end SampleTypes
