import Mathlib.Tactic.IntervalCases
import SampleTypes.Proofs.InferredTypes
import SampleTypes.Proofs.Unfolding

/-!
# Sharing is invisible

Typing a value without cycles never meets an open container, so it is the same as typing without any test for
open containers, and what that makes of a value is determined by its unfolding.
-/

namespace SampleTypes

namespace Inference

/-- The type of a value when no container counts as open. -/
def blindValue (graph : Graph) (settings : Settings) (typer : Typer) (depth : Int) : Value → Typed TypeExpr
  | .leaf leaf => .ok leaf.type
  | .container address =>
    match graph.node? address with
    | none => .ok .unknown
    | some node =>
      if node.isObject then object graph settings typer [] depth node
      else array graph settings typer [] depth node

/-- The type that a value contributes to a merged object when no container counts as open. -/
def blindContribution (graph : Graph) (settings : Settings) (typer : Typer) (depth : Int) : Value → Typed TypeExpr
  | .leaf leaf => .ok leaf.type
  | .container address =>
    match graph.node? address with
    | none => .ok .unknown
    | some node =>
      if isMergedArray graph [] node then
        return .array (← Merge.shapes graph settings typer [] depth node.members)
      else if node.isObject then Merge.shapes graph settings typer [] depth [.container address]
      else array graph settings typer [] depth node

/-- The typer that may go as many containers deep as the budget says and knows of no open ones. -/
def blindTyper (graph : Graph) (settings : Settings) : Nat → Typer
  | 0 => .exhausted
  | budget + 1 =>
    { infer := fun _ depth => blindValue graph settings (blindTyper graph settings budget) depth
      contribute := fun _ depth => blindContribution graph settings (blindTyper graph settings budget) depth }

end Inference

/-- Two typers answer alike, for a value inside some open containers and for a partner inside others. -/
def Typer.Agrees (typer other : Typer) (opened others : List Address) (value partner : Value) : Prop :=
  ∀ merging depth, typer.answer ⟨merging, opened, depth, value⟩ = other.answer ⟨merging, others, depth, partner⟩

namespace Typer.Agrees

variable {typer other : Typer} {opened others : List Address} {value partner : Value}

theorem infer_eq (agrees : typer.Agrees other opened others value partner) (depth : Int) :
    typer.infer opened depth value = other.infer others depth partner :=
  agrees false depth

theorem contribute_eq (agrees : typer.Agrees other opened others value partner) (depth : Int) :
    typer.contribute opened depth value = other.contribute others depth partner :=
  agrees true depth

theorem mapM_infer_eq {values partners : List Value}
    (each : List.Forall₂ (typer.Agrees other opened others) values partners) (depth : Int) :
    values.mapM (typer.infer opened depth) = partners.mapM (other.infer others depth) :=
  Outcome.mapM_eq_of_forall₂ (each.imp fun _ _ agrees => agrees.infer_eq depth)

end Typer.Agrees

/-- Two typers answer alike for the values in a list of entries, and the keys are the same. -/
def Typer.AgreeOnEntries (typer other : Typer) (opened others : List Address) :
    List (String × List Value) → List (String × List Value) → Prop :=
  List.Forall₂ (UnderSameKey (List.Forall₂ (typer.Agrees other opened others)))

namespace Merge

variable {left right : Graph} {settings : Settings} {typer other : Typer} {opened others : List Address}

/-- Two objects have entries on which the typers agree while the objects are open. -/
def AgreeOn (typer other : Typer) (opened others : List Address) (described partner : Described) : Prop :=
  typer.AgreeOnEntries other (described.object.open opened) (partner.object.open others) described.entries
    partner.entries

theorem describe_same {objects partners : List Value}
    (each : List.Forall₂ (fun object partner =>
      Outcome.Same (typer.AgreeOnEntries other (object.open opened) (partner.open others)) (left.entries object)
        (right.entries partner)) objects partners) :
    Outcome.Same (List.Forall₂ (AgreeOn typer other opened others)) (describe left objects)
      (describe right partners) := by
  refine Outcome.mapM_same (each.imp ?_)
  intro object partner same
  exact same.bind fun entries partnerEntries agree => .ok agree

namespace AgreeOn

variable {described partner : Described} (agree : AgreeOn typer other opened others described partner)
include agree

theorem lookup (key : String) :
    Option.Rel (List.Forall₂ (typer.Agrees other (described.object.open opened) (partner.object.open others)))
      (described.entries.lookup key) (partner.entries.lookup key) := by
  have found {entries partnerEntries : List (String × List Value)}
      (agree : typer.AgreeOnEntries other (described.object.open opened) (partner.object.open others) entries
        partnerEntries) :
      Option.Rel (List.Forall₂ (typer.Agrees other (described.object.open opened) (partner.object.open others)))
        (entries.lookup key) (partnerEntries.lookup key) := by
    induction agree with
    | nil => exact .none
    | @cons entry partnerEntry _ _ first _ induction =>
        obtain ⟨sameKey, values⟩ := first
        rw [List.lookup_cons, List.lookup_cons, sameKey]
        split
        · exact .some values
        · exact induction
  exact found agree

theorem hasKey_eq (key : String) : described.hasKey key = partner.hasKey key := by
  have found := agree.lookup key
  unfold Described.hasKey
  generalize described.entries.lookup key = values at found
  generalize partner.entries.lookup key = partnerValues at found
  cases found <;> rfl

theorem valuesUnder (key : String) :
    List.Forall₂ (typer.Agrees other (described.object.open opened) (partner.object.open others))
      (described.valuesUnder key) (partner.valuesUnder key) := by
  have found := agree.lookup key
  unfold Described.valuesUnder
  generalize described.entries.lookup key = values at found
  generalize partner.entries.lookup key = partnerValues at found
  cases found with
  | none => exact .nil
  | some values => exact values

theorem map_key_eq : described.entries.map (·.1) = partner.entries.map (·.1) := by
  rw [← List.forall₂_eq_eq_eq, List.forall₂_map_left_iff, List.forall₂_map_right_iff]
  exact List.Forall₂.imp (fun _ _ entries => entries.1) agree

end AgreeOn

section Described

variable {described partners : List Described} (each : List.Forall₂ (AgreeOn typer other opened others) described partners)
include each

theorem keys_eq_of_agreeOn : keys described = keys partners := by
  have sameKeys : (described.flatMap fun item => item.entries.map (·.1)) =
      partners.flatMap fun item => item.entries.map (·.1) := by
    induction each with
    | nil => rfl
    | cons first _ induction => rw [List.flatMap_cons, List.flatMap_cons, first.map_key_eq, induction]
  rw [keys, keys, sameKeys]

theorem property_eq_of_agreeOn (depth : Int) (key : String) :
    property settings typer opened depth described key = property settings other others depth partners key := by
  have sameTypes : contributions typer opened (depth + 1) described key =
      contributions other others (depth + 1) partners key := by
    have sameLists := Outcome.mapM_eq_of_forall₂ (each.imp fun item partner agree =>
      Outcome.mapM_eq_of_forall₂ ((agree.valuesUnder key).imp fun _ _ agrees => agrees.contribute_eq (depth + 1)))
    simp only [contributions, sameLists]
  have sameOptional : described.all (·.hasKey key) = partners.all (·.hasKey key) := by
    clear sameTypes
    induction each with
    | nil => rfl
    | cons first _ induction => rw [List.all_cons, List.all_cons, first.hasKey_eq, induction]
  rw [property, property, sameTypes, sameOptional]

end Described

/-- Objects with entries on which the typers agree are merged alike. -/
theorem shapes_eq_of_agree {objects partners : List Value} (depth : Int)
    (each : List.Forall₂ (fun object partner =>
      Outcome.Same (typer.AgreeOnEntries other (object.open opened) (partner.open others)) (left.entries object)
        (right.entries partner)) objects partners) :
    shapes left settings typer opened depth objects = shapes right settings other others depth partners := by
  have sameEmpty : objects.isEmpty = partners.isEmpty := by
    cases each <;> rfl
  unfold shapes
  rw [sameEmpty]
  split
  · rfl
  · refine (describe_same each).bind_eq fun described partnersDescribed agree => ?_
    dsimp only
    rw [keys_eq_of_agreeOn agree, funext (property_eq_of_agreeOn agree depth)]

end Merge

/-- Two values are typed alike: two typers agree on them and, if they are objects, on what is in them. -/
structure Typer.Mirrors (left right : Graph) (typer other : Typer) (opened others : List Address)
    (value partner : Value) : Prop where
  agrees : typer.Agrees other opened others value partner
  isArray_eq : left.isArray value = right.isArray partner
  isObject_eq : left.isObject value = right.isObject partner
  notOpen : value.isOpen opened = false
  partnerNotOpen : partner.isOpen others = false
  entries : left.isObject value = true →
    Outcome.Same (typer.AgreeOnEntries other (value.open opened) (partner.open others)) (left.entries value)
      (right.entries partner)

/-- Values that are not open are told apart by whether they are objects. -/
theorem Graph.all_fresh_objects_eq {left right : Graph} {opened others : List Address} {elements partners : List Value}
    (each : List.Forall₂ (fun element partner => left.isObject element = right.isObject partner ∧
      element.isOpen opened = false ∧ partner.isOpen others = false) elements partners) :
    (elements.all fun element => left.isObject element && !element.isOpen opened) =
      partners.all fun element => right.isObject element && !element.isOpen others := by
  induction each with
  | nil => rfl
  | cons first _ induction => rw [List.all_cons, List.all_cons, induction, first.1, first.2.1, first.2.2]

section Arrays

variable {left right : Graph} {settings : Settings} {typer other : Typer} {opened others : List Address}
  {elements partners : List Value}
  (each : List.Forall₂ (Typer.Mirrors left right typer other opened others) elements partners)
include each

theorem ArrayKind.ofElements_eq_of_mirrors :
    ArrayKind.ofElements left opened elements = ArrayKind.ofElements right others partners := by
  have sameArrays : elements.all left.isArray = partners.all right.isArray := by
    induction each with
    | nil => rfl
    | cons first _ induction => rw [List.all_cons, List.all_cons, induction, first.isArray_eq]
  have sameObjects := Graph.all_fresh_objects_eq (each.imp fun _ _ mirrors =>
    ⟨mirrors.isObject_eq, mirrors.notOpen, mirrors.partnerNotOpen⟩)
  rw [ofElements, ofElements, sameArrays, sameObjects]

/-- Objects that are typed alike are merged alike. -/
theorem Typer.Mirrors.shapes_eq (depth : Int) (objects : ∀ element ∈ elements, left.isObject element = true) :
    Merge.shapes left settings typer opened depth elements =
      Merge.shapes right settings other others depth partners := by
  apply Merge.shapes_eq_of_agree
  refine List.forall₂_iff_zip.mpr ⟨each.length_eq, fun {element partner} member => ?_⟩
  exact ((List.forall₂_iff_zip.mp each).2 member).entries (objects element (List.of_mem_zip member).1)

namespace ArrayUnion

theorem distinctShapes_eq_of_mirrors (depth : Int) :
    distinctShapes settings typer opened depth elements = distinctShapes settings other others depth partners := by
  have agreeing := each.imp fun _ _ mirrors => mirrors.agrees
  unfold distinctShapes
  rw [Typer.Agrees.mapM_infer_eq agreeing]
  apply Outcome.bind_congr
  intro types _
  cases agreeing with
  | nil => rfl
  | cons first _ =>
      cases TypeExpr.distinctByText settings types with
      | nil => rfl
      | cons shape shapes =>
          cases shapes with
          | nil => exact first.infer_eq depth
          | cons second rest => rfl

theorem ofMixed_eq_of_mirrors (depth : Int) :
    ofMixed left settings typer opened depth elements = ofMixed right settings other others depth partners := by
  unfold ofMixed
  rw [Outcome.mapM_eq_of_forall₂ (each.imp ?_)]
  intro element partner mirrors
  rw [mirrors.isObject_eq]
  split
  · exact mirrors.agrees.contribute_eq (depth + 1)
  · exact mirrors.agrees.infer_eq (depth + 1)

/-- Arrays of elements that are typed alike are typed alike. -/
theorem ofKind_eq_of_mirrors (depth : Int) :
    ofKind left settings typer opened depth (.ofElements left opened elements) elements =
      ofKind right settings other others depth (.ofElements right others partners) partners := by
  rw [← ArrayKind.ofElements_eq_of_mirrors each]
  cases isKind : ArrayKind.ofElements left opened elements with
  | arrays =>
      have agreeing := each.imp fun _ _ mirrors => mirrors.agrees
      simp only [ofKind, ofArrays, distinctShapes_eq_of_mirrors each, Typer.Agrees.mapM_infer_eq agreeing]
  | objects =>
      have objects := fun element member => (ArrayKind.fresh_of_ofElements isKind element member).1
      simp only [ofKind, ofObjects, distinctShapes_eq_of_mirrors each, Typer.Mirrors.shapes_eq each depth objects]
  | mixed => exact ofMixed_eq_of_mirrors each depth

end ArrayUnion

end Arrays

namespace Inference

variable {left right : Graph} {settings : Settings} {typer other : Typer} {opened others : List Address}
  {node otherNode : Node}

theorem object_eq_of_agree (depth : Int)
    (entries : Outcome.Same (typer.AgreeOnEntries other opened others) (left.entriesOfNode node)
      (right.entriesOfNode otherNode)) :
    object left settings typer opened depth node = object right settings other others depth otherNode := by
  refine entries.bind_eq fun entries partnerEntries agree => ?_
  rw [Outcome.mapM_eq_of_forall₂ (agree.imp ?_)]
  rintro ⟨key, values⟩ ⟨_, partnerValues⟩ ⟨rfl, agreeing⟩
  rw [Typer.Agrees.mapM_infer_eq agreeing]

theorem array_eq_of_mirrors (depth : Int)
    (elements : Outcome.Same (List.Forall₂ (Typer.Mirrors left right typer other opened others)) (left.elements node)
      (right.elements otherNode)) :
    array left settings typer opened depth node = array right settings other others depth otherNode := by
  refine elements.bind_eq fun elements partners mirrors => ?_
  have sameEmpty : elements.isEmpty = partners.isEmpty := by
    cases mirrors <;> rfl
  rw [sameEmpty, ArrayUnion.ofKind_eq_of_mirrors mirrors]

/-- A typer with a budget that is not spent answers for a value as another one does for a value that follows it,
whatever that one takes to be open. -/
def SeesNoOpen (left right : Graph) (typer other : Typer) (budget otherBudget : Nat) : Prop :=
  ∀ {opened seen : List Address} {value partner : Value}, left.Follows right opened seen value partner →
    (left.unopened opened).card < budget → (right.unopened seen).card < otherBudget →
    ∀ others, typer.Agrees other opened others value partner

section Follows

variable {budget otherBudget : Nat} {seen : List Address} {value partner : Value}
  (seesNoOpen : SeesNoOpen left right typer other budget otherBudget)
include seesNoOpen

/-- Typers that see no open containers agree on what is in objects that are alike. -/
theorem entriesOfNode_agree (alike : node.Alike (left.Follows right opened seen) otherNode)
    (enough : (left.unopened opened).card < budget) (otherEnough : (right.unopened seen).card < otherBudget)
    (others : List Address) :
    Outcome.Same (typer.AgreeOnEntries other opened others) (left.entriesOfNode node)
      (right.entriesOfNode otherNode) := by
  refine (Graph.entriesOfNode_same alike).imp fun entries partnerEntries => List.Forall₂.imp ?_
  rintro entry partnerEntry ⟨sameKey, values⟩
  exact ⟨sameKey, values.imp fun _ _ follows => seesNoOpen follows enough otherEnough others⟩

/-- Typers that see no open containers agree on what is in objects that follow each other and are then open. -/
theorem entries_agree (follows : left.Follows right opened seen value partner)
    (isObject : left.isObject value = true) (enough : (left.unopened opened).card ≤ budget)
    (otherEnough : (right.unopened seen).card ≤ otherBudget) (others : List Address) :
    Outcome.Same (typer.AgreeOnEntries other (value.open opened) others) (left.entries value)
      (right.entries partner) := by
  obtain ⟨address, node, rfl, isNode, -⟩ := Graph.isObject_eq_true_iff.mp isObject
  obtain ⟨otherAddress, rfl, closed, otherClosed, ⟨isNone, -⟩ | ⟨_, otherNode, sameNode, isOther, alike⟩⟩ :=
    follows.exists_container
  · cases isNone.symm.trans isNode
  · cases sameNode.symm.trans isNode
    have fewer := Graph.card_unopened_lt isNode closed List.mem_cons_self (List.subset_cons_self _ _)
    have otherFewer := Graph.card_unopened_lt isOther otherClosed List.mem_cons_self (List.subset_cons_self _ _)
    rw [Graph.entries_container isNode, Graph.entries_container isOther]
    exact entriesOfNode_agree seesNoOpen alike (fewer.trans_le enough) (otherFewer.trans_le otherEnough) others

theorem mirrors_of_follows (follows : left.Follows right opened seen value partner)
    (enough : (left.unopened opened).card < budget) (otherEnough : (right.unopened seen).card < otherBudget) :
    Typer.Mirrors left right typer other opened [] value partner where
  agrees := seesNoOpen follows enough otherEnough []
  isArray_eq := follows.isArray_eq
  isObject_eq := follows.isObject_eq
  notOpen := follows.notOpen
  partnerNotOpen := partner.isOpen_nil
  entries isObject := entries_agree seesNoOpen follows isObject enough.le otherEnough.le _

theorem object_eq_of_alike (alike : node.Alike (left.Follows right opened seen) otherNode)
    (enough : (left.unopened opened).card < budget) (otherEnough : (right.unopened seen).card < otherBudget)
    (depth : Int) :
    object left settings typer opened depth node = object right settings other [] depth otherNode :=
  object_eq_of_agree depth (entriesOfNode_agree seesNoOpen alike enough otherEnough [])

theorem array_eq_of_alike (alike : node.Alike (left.Follows right opened seen) otherNode)
    (enough : (left.unopened opened).card < budget) (otherEnough : (right.unopened seen).card < otherBudget)
    (depth : Int) :
    array left settings typer opened depth node = array right settings other [] depth otherNode := by
  refine array_eq_of_mirrors depth ((Graph.elements_same alike).imp fun elements partners => List.Forall₂.imp ?_)
  exact fun _ _ follows => mirrors_of_follows seesNoOpen follows enough otherEnough

/-- A step for a value that includes nothing open agrees with one that knows of no open containers. -/
theorem step_agrees_blind (follows : left.Follows right opened seen value partner)
    (enough : (left.unopened opened).card ≤ budget) (otherEnough : (right.unopened seen).card ≤ otherBudget)
    (depth : Int) :
    Inference.value left settings typer opened depth value = blindValue right settings other depth partner ∧
      contribution left settings typer opened depth value = blindContribution right settings other depth partner := by
  cases value with
  | leaf leaf =>
      obtain ⟨otherLeaf, rfl, sameLeaf⟩ := follows.exists_leaf
      have sameType : leaf.type = otherLeaf.type := by
        rw [← leaf.type_unmarked, sameLeaf, otherLeaf.type_unmarked]
      exact ⟨congrArg Except.ok sameType, congrArg Except.ok sameType⟩
  | container address =>
      obtain ⟨otherAddress, rfl, closed, otherClosed,
        ⟨isNone, otherIsNone⟩ | ⟨node, otherNode, isNode, isOther, alike⟩⟩ := follows.exists_container
      · constructor
        · simp only [Inference.value, blindValue, isNone, otherIsNone]
        · simp only [contribution, blindContribution, isNone, otherIsNone]
      · have fewer := Graph.card_unopened_lt isNode closed List.mem_cons_self (List.subset_cons_self _ _)
        have otherFewer := Graph.card_unopened_lt isOther otherClosed List.mem_cons_self (List.subset_cons_self _ _)
        have innerEnough := fewer.trans_le enough
        have otherInnerEnough := otherFewer.trans_le otherEnough
        have sameArray : array left settings typer (address :: opened) depth node =
            array right settings other [] depth otherNode :=
          array_eq_of_alike seesNoOpen alike innerEnough otherInnerEnough depth
        constructor
        · have sameObject : object left settings typer (address :: opened) depth node =
              object right settings other [] depth otherNode :=
            object_eq_of_alike seesNoOpen alike innerEnough otherInnerEnough depth
          simp only [Inference.value, blindValue, isNode, isOther, if_neg closed, alike.isObject_eq, sameObject,
            sameArray]
        · have members := alike.members Graph.follows_leaf
          have sameMerged : isMergedArray left opened node = isMergedArray right [] otherNode := by
            have sameObjects := Graph.all_fresh_objects_eq (members.imp fun _ partner follows =>
              ⟨follows.isObject_eq, Value.isOpen_of_isOpen_cons follows.notOpen, partner.isOpen_nil⟩)
            rw [isMergedArray, isMergedArray, alike.isObject_eq, alike.isTrue_eq, sameObjects]
          simp only [contribution, blindContribution, isNode, isOther, if_neg closed, sameMerged, sameArray,
            alike.isObject_eq]
          split
          · rename_i isMerged
            obtain ⟨-, -, isFresh⟩ := fresh_of_isMergedArray isNode (sameMerged.trans isMerged)
            have mirrors := members.imp fun _ _ follows =>
              mirrors_of_follows seesNoOpen follows innerEnough otherInnerEnough
            rw [Typer.Mirrors.shapes_eq mirrors depth fun element member => (isFresh element member).1]
          · split
            · rename_i isObject
              have objects : left.isObject (.container address) = true :=
                Graph.isObject_eq_true_iff.mpr ⟨address, node, rfl, isNode, alike.isObject_eq.trans isObject⟩
              exact Merge.shapes_eq_of_agree depth
                (.cons (entries_agree seesNoOpen follows objects enough otherEnough _) .nil)
            · rfl

end Follows

/-- Typing a value that includes nothing open is the same as typing what follows it without any test for open
containers.  The induction is on the budget: each step opens a container on both sides. -/
theorem typer_seesNoOpen (budget otherBudget : Nat) :
    SeesNoOpen left right (Inference.typer left settings budget) (blindTyper right settings otherBudget) budget
      otherBudget := by
  induction budget generalizing otherBudget with
  | zero => exact fun _ enough => absurd enough (Nat.not_lt_zero _)
  | succ budget induction =>
      cases otherBudget with
      | zero => exact fun _ _ otherEnough => absurd otherEnough (Nat.not_lt_zero _)
      | succ otherBudget =>
          intro opened seen value partner follows enough otherEnough others merging depth
          obtain ⟨sameValue, sameContribution⟩ := step_agrees_blind (induction otherBudget) follows
            (Nat.le_of_lt_succ enough) (Nat.le_of_lt_succ otherEnough) depth
          cases merging with
          | false => exact sameValue
          | true => exact sameContribution

end Inference

namespace Graph

theorem card_unopened_lt_of_size_lt {graph : Graph} {budget : Nat} (enough : graph.nodes.size < budget) :
    (graph.unopened []).card < budget :=
  (graph.card_unopened_le []).trans_lt enough

/-- Values without cycles that unfold into the same tree have the same type, whichever of their parts are the same
object; and it is the type that they have when no container ever counts as open.  There is one, unless the contents
of a container inside them cannot be listed. -/
theorem infer_eq_of_unfold_eq {left right : Graph} {value partner : Value} (acyclic : left.Acyclic value)
    (partnerAcyclic : right.Acyclic partner)
    (sameUnfolding : ∀ levels, left.unfold levels value = right.unfold levels partner) (settings : Settings)
    (depth : Int) :
    left.infer settings value depth = right.infer settings partner depth ∧
      (∀ budget, left.nodes.size < budget →
        (Inference.blindTyper left settings budget).infer [] depth value = left.infer settings value depth) ∧
      ((∃ type, left.infer settings value depth = .ok type) ∨
        ∃ fault, left.infer settings value depth = .error fault ∧ left.FailsBelow value fault) := by
  have fresh : left.Fresh [] value := ⟨acyclic, List.forall_mem_nil _⟩
  have partnerFresh : right.Fresh [] partner := ⟨partnerAcyclic, List.forall_mem_nil _⟩
  have sameBlind {graph other : Graph} {value partner : Value} (follows : graph.Follows other [] [] value partner)
      {budget : Nat} (enough : other.nodes.size < budget) :
      graph.infer settings value depth = (Inference.blindTyper other settings budget).infer [] depth partner :=
    Inference.typer_seesNoOpen _ _ follows (card_unopened_lt_of_size_lt (Nat.lt_succ_self _))
      (card_unopened_lt_of_size_lt enough) [] false depth
  refine ⟨?_, ?_, infer_cases left settings value depth⟩
  · rw [sameBlind ⟨sameUnfolding, fresh, partnerFresh⟩ (Nat.lt_succ_self _),
      sameBlind ⟨fun _ => rfl, partnerFresh, partnerFresh⟩ (Nat.lt_succ_self _)]
  · intro budget enough
    exact (sameBlind ⟨fun _ => rfl, fresh, fresh⟩ enough).symm

/-- Where a rank falls from every container to what it is made of, no container is in itself. -/
theorem acyclic_of_rank {graph : Graph} (rank : Value → Nat)
    (falls : ∀ whole part, graph.Contains whole part → rank part < rank whole) (value : Value) :
    graph.Acyclic value := by
  intro whole _ cycle
  have below {inner : Value} (within : Relation.TransGen graph.Contains whole inner) : rank inner < rank whole := by
    induction within with
    | single contains => exact falls _ _ contains
    | tail _ contains induction => exact (falls _ _ contains).trans induction
  exact lt_irrefl _ (below cycle)

/-- Two lists: one holds the same object twice, the other holds two objects with the same content. -/
def pairs : Graph :=
  ⟨#[.sequence .list [.container 2, .container 2], .sequence .list [.container 2, .container 3],
    .mapping .plain [(.leaf (.text "id"), .leaf (.integer 1))],
    .mapping .plain [(.leaf (.text "id"), .leaf (.integer 1))]]⟩

/-- A container in `pairs` holds only containers that stand behind it. -/
def pairsRank : Value → Nat
  | .leaf _ => 0
  | .container address => 4 - address

theorem acyclic_pairs (value : Value) : pairs.Acyclic value := by
  refine acyclic_of_rank pairsRank ?_ value
  rintro (leaf | address) part ⟨node, isNode, isPart⟩
  · cases isNode
  · have inBounds := address_lt_size isNode
    change address < 4 at inBounds
    interval_cases address <;> cases isNode <;>
      rcases List.mem_pair.mp isPart with rfl | rfl <;> decide

theorem infer_eq_of_unfold_eq_pairs :
    (∀ levels, pairs.unfold levels (.container 0) = pairs.unfold levels (.container 1)) ∧
      pairs.infer {} (.container 0) 0 = pairs.infer {} (.container 1) 0 ∧
      (Inference.blindTyper pairs {} 5).infer [] 0 (.container 0) = pairs.infer {} (.container 0) 0 ∧
      (pairs.infer {} (.container 0) 0).isOk = true := by
  have sameUnfolding (levels : Nat) :
      pairs.unfold levels (.container 0) = pairs.unfold levels (.container 1) := by
    match levels with
    | 0 | 1 | 2 | levels + 3 => rfl
  obtain ⟨sameType, blind, -⟩ :=
    infer_eq_of_unfold_eq (acyclic_pairs _) (acyclic_pairs _) sameUnfolding {} 0
  exact ⟨sameUnfolding, sameType, blind 5 (by decide), by decide +kernel⟩

end Graph

end SampleTypes
