import Mathlib.Data.Prod.Lex
import Mathlib.Data.String.Basic
import SampleTypes.Proofs.Failure
import SampleTypes.Proofs.Interchange

/-!
# The order in which sets yield their elements

Before the elements of a set are typed they are put in order by their kinds and literals, and the keys of a
mapping are texts.  The literal of a set lists its elements as the set yields them, so it is the literals that
can tell in what order that was.  As long as none of them does, the text of a type does not depend on it.
-/

namespace SampleTypes

section Sorting

variable {α : Type}

theorem insertByKey_cons (item first : (String × String) × α) (rest : List ((String × String) × α)) :
    insertByKey item (first :: rest) =
      if toLex first.1 < toLex item.1 then first :: insertByKey item rest else item :: first :: rest := by
  simp only [insertByKey, Prod.Lex.toLex_lt_toLex]

private theorem insertByKey_comm_of_lt {first second : (String × String) × α}
    (ascending : toLex first.1 < toLex second.1) (items : List ((String × String) × α)) :
    insertByKey first (insertByKey second items) = insertByKey second (insertByKey first items) := by
  induction items with
  | nil =>
      change insertByKey first [second] = insertByKey second [first]
      rw [insertByKey_cons, insertByKey_cons, if_neg ascending.not_gt, if_pos ascending]
      rfl
  | cons head rest induction =>
      by_cases before : toLex head.1 < toLex first.1
      · have beforeSecond := before.trans ascending
        rw [insertByKey_cons, insertByKey_cons, if_pos before, if_pos beforeSecond, insertByKey_cons,
          insertByKey_cons, if_pos before, if_pos beforeSecond, induction]
      · rw [insertByKey_cons first, if_neg before, insertByKey_cons second first, if_pos ascending]
        rw [insertByKey_cons second head]
        split
        · rw [insertByKey_cons, if_neg before]
        · rw [insertByKey_cons, if_neg ascending.not_gt]

/-- Items with different keys may be inserted in either order. -/
theorem insertByKey_comm {first second : (String × String) × α} (differ : first.1 ≠ second.1)
    (items : List ((String × String) × α)) :
    insertByKey first (insertByKey second items) = insertByKey second (insertByKey first items) := by
  rcases lt_trichotomy (toLex first.1) (toLex second.1) with ascending | same | descending
  · exact insertByKey_comm_of_lt ascending items
  · exact absurd (toLex.injective same) differ
  · exact (insertByKey_comm_of_lt descending items).symm

/-- Sorting forgets the order of items that are told apart by their keys. -/
theorem sortByKey_eq_of_perm {lefts rights : List ((String × String) × α)} (perm : lefts.Perm rights)
    (toldApart : ∀ first ∈ lefts, ∀ second ∈ lefts, first.1 = second.1 → first = second) :
    sortByKey lefts = sortByKey rights := by
  have sameSorted : lefts.foldr insertByKey [] = rights.foldr insertByKey [] := by
    apply perm.foldr_eq'
    intro first firstMember second secondMember items
    by_cases same : first.1 = second.1
    · rw [toldApart first firstMember second secondMember same]
    · exact insertByKey_comm (Ne.symm same) items
  rw [sortByKey, sortByKey, sameSorted]

end Sorting

namespace Node

/-- The same container, or a set that yields the same elements in another order. -/
inductive Reordered : Node → Node → Prop
  | same (node : Node) : Reordered node node
  | set (kind : SetKind) {lefts rights : List Value} (perm : lefts.Perm rights) :
      Reordered (.set kind lefts) (.set kind rights)

/-- The values of which literals are needed: the elements of a set and the keys of a mapping. -/
def named : Node → List Value
  | .set _ elements => elements
  | .mapping _ entries => entries.map (·.1)
  | .record _ _ | .sequence _ _ | .range _ | .view _ => []

/-- The values whose literals are parts of the literal of a container. -/
def shown : Node → List Value
  | .mapping (.layered layers) _ => layers
  | .mapping _ entries => entries.flatMap fun entry => [entry.1, entry.2]
  | .record _ fields => fields.filterMap (·.2)
  | .sequence (.custom _ _ _) _ => []
  | .sequence _ elements => elements
  | .range progression => bounds progression
  | .view _ => []
  | .set _ elements => elements

theorem literal_congr {left right : Value → Except Fault String} (node : Node)
    (agree : ∀ value ∈ node.shown, left value = right value) : node.literal left = node.literal right := by
  have sameParts (values : List Value) (each : ∀ value ∈ values, left value = right value) :
      values.mapM left = values.mapM right := Outcome.mapM_congr each
  have sameEntries (entries : List (Value × Value))
      (each : ∀ value ∈ entries.flatMap (fun entry => [entry.1, entry.2]), left value = right value) :
      (entries.mapM fun entry => do return (← left entry.1, ← left entry.2)) =
        entries.mapM fun entry => do return (← right entry.1, ← right entry.2) := by
    apply Outcome.mapM_congr
    intro entry member
    rw [each entry.1 (List.mem_flatMap.mpr ⟨entry, member, by simp⟩),
      each entry.2 (List.mem_flatMap.mpr ⟨entry, member, by simp⟩)]
  cases node with
  | mapping kind entries =>
      cases kind with
      | layered layers =>
          simp only [literal]
          rw [sameParts layers agree]
      | _ =>
          simp only [literal]
          rw [sameEntries entries agree]
  | record name fields =>
      simp only [literal]
      rw [Outcome.mapM_congr]
      rintro ⟨field, value⟩ member
      cases value with
      | none => rfl
      | some value =>
          have isShown : value ∈ (record name fields).shown :=
            List.mem_filterMap.mpr ⟨_, member, rfl⟩
          simp only [agree value isShown]
  | sequence kind elements =>
      cases kind with
      | custom _ _ _ => rfl
      | _ =>
          simp only [literal]
          rw [sameParts elements agree]
  | range progression =>
      simp only [literal]
      rw [sameParts (bounds progression) agree]
  | view content => rfl
  | set kind elements =>
      simp only [literal]
      rw [sameParts elements agree]

end Node

namespace Graph

variable {left right : Graph}

/-- The graphs hold the same containers, apart from the order in which sets yield their elements. -/
def Reordered (left right : Graph) : Prop :=
  left.Corresponds Node.Reordered right

/-- No two elements of a set have the same kind and the same literal. -/
def SetsToldApart (graph : Graph) : Prop :=
  ∀ address kind elements, graph.node? address = some (.set kind elements) →
    ∀ first ∈ elements, ∀ second ∈ elements, ∀ key,
      graph.orderKey first = .ok key → graph.orderKey second = .ok key → first = second

/-- The literal of a value is a part of the literal of another one. -/
def Shows (graph : Graph) (outer inner : Value) : Prop :=
  ∃ node, graph.nodeOf? outer = some node ∧ inner ∈ node.shown

/-- The literal of a value shows the same containers in both graphs, each with its elements in the same order. -/
def ShownAlike (left right : Graph) (value : Value) : Prop :=
  ∀ inner, Relation.ReflTransGen left.Shows value inner → left.nodeOf? inner = right.nodeOf? inner

/-- No literal that is needed tells in which of two graphs it was written. -/
def NamedAlike (left right : Graph) : Prop :=
  ∀ address node, left.node? address = some node → ∀ value ∈ node.named, left.ShownAlike right value

section ShownAlike

variable {value : Value}

theorem shownAlike_leaf (leaf : Leaf) : left.ShownAlike right (.leaf leaf) := by
  intro inner shown
  rcases Relation.ReflTransGen.cases_head shown with rfl | ⟨_, ⟨_, isNode, _⟩, _⟩
  · rfl
  · cases isNode

theorem shownAlike_container {address : Address} {node : Node} (isLeft : left.node? address = some node)
    (isRight : right.node? address = some node) (each : ∀ value ∈ node.shown, left.ShownAlike right value) :
    left.ShownAlike right (.container address) := by
  intro inner shown
  rcases Relation.ReflTransGen.cases_head shown with rfl | ⟨value, ⟨other, isNode, member⟩, later⟩
  · exact isLeft.trans isRight.symm
  · cases isLeft.symm.trans isNode
    exact each value member inner later

theorem ShownAlike.shown {node : Node} {inner : Value} (alike : left.ShownAlike right value)
    (isNode : left.nodeOf? value = some node) (member : inner ∈ node.shown) : left.ShownAlike right inner :=
  fun other shown => alike other (.head ⟨node, isNode, member⟩ shown)

theorem ShownAlike.literalWithin_eq (alike : left.ShownAlike right value) (budget : Nat)
    (opened : List Address) : left.literalWithin budget opened value = right.literalWithin budget opened value := by
  induction budget generalizing opened value with
  | zero => cases value <;> rfl
  | succ budget induction =>
      cases value with
      | leaf leaf => rfl
      | container address =>
          have sameNode : left.node? address = right.node? address := alike (.container address) .refl
          simp only [literalWithin]
          rw [← sameNode]
          cases isNode : left.node? address with
          | none => rfl
          | some node =>
              have sameLiteral (opened : List Address) :
                  node.literal (left.literalWithin budget opened) =
                    node.literal (right.literalWithin budget opened) :=
                node.literal_congr fun inner member => induction (alike.shown isNode member) opened
              simp only [sameLiteral]

theorem ShownAlike.literal_eq (alike : left.ShownAlike right value)
    (sameSize : left.nodes.size = right.nodes.size) : left.literal value = right.literal value := by
  rw [literal, literal, alike.literalWithin_eq, sameSize]

theorem ShownAlike.keyText_eq (alike : left.ShownAlike right value)
    (sameSize : left.nodes.size = right.nodes.size) : left.keyText value = right.keyText value := by
  cases value with
  | leaf leaf => rfl
  | container address => exact alike.literal_eq sameSize

theorem ShownAlike.orderKey_eq (alike : left.ShownAlike right value)
    (sameSize : left.nodes.size = right.nodes.size) : left.orderKey value = right.orderKey value := by
  have sameKind : left.kind value = right.kind value := by
    cases value with
    | leaf leaf => rfl
    | container address =>
        have sameNode : left.node? address = right.node? address := alike (.container address) .refl
        simp only [kind, sameNode]
  rw [orderKey, orderKey, sameKind, alike.literal_eq sameSize]

end ShownAlike

/-- Two orders of the same items are sorted alike if the items are told apart by the same keys. -/
theorem sortedOn_agree {α : Type} {value : α → Value} {lefts rights : List α} (perm : lefts.Perm rights)
    (sameKeys : ∀ item ∈ lefts, left.orderKey (value item) = right.orderKey (value item))
    (toldApart : ∀ first ∈ lefts, ∀ second ∈ lefts, ∀ key,
      left.orderKey (value first) = .ok key → left.orderKey (value second) = .ok key → first = second) :
    Outcome.Agree Eq (left.sortedOn value lefts) (right.sortedOn value rights) := by
  have sameKeyed : (lefts.mapM fun item => do return (← left.orderKey (value item), item)) =
      lefts.mapM fun item => do return (← right.orderKey (value item), item) := by
    apply Outcome.mapM_congr
    intro item member
    rw [sameKeys item member]
  unfold sortedOn
  rw [sameKeyed]
  apply (Outcome.mapM_agree_of_perm perm).bind
  intro keyed others success _ permuted
  rw [← sameKeyed, Outcome.mapM_eq_ok_iff] at success
  have keyedAlike : ∀ first ∈ keyed, ∀ second ∈ keyed, first.1 = second.1 → first = second := by
    intro first firstMember second secondMember same
    obtain ⟨item, isItem, keying⟩ := success.exists_left firstMember
    obtain ⟨other, isOther, otherKeying⟩ := success.exists_left secondMember
    obtain ⟨key, isKey, equal⟩ := Outcome.bind_eq_ok_iff.mp keying
    obtain ⟨otherKey, isOtherKey, otherEqual⟩ := Outcome.bind_eq_ok_iff.mp otherKeying
    cases equal
    cases otherEqual
    have sameKey : key = otherKey := same
    rw [← sameKey] at isOtherKey ⊢
    rw [toldApart item isItem other isOther key isKey isOtherKey]
  exact .ok (sortByKey_eq_of_perm permuted keyedAlike)

section Nodes

variable (sameSize : left.nodes.size = right.nodes.size)
include sameSize

theorem entriesOfNode_eq {node : Node} (named : ∀ value ∈ node.named, left.ShownAlike right value) :
    left.entriesOfNode node = right.entriesOfNode node := by
  cases node with
  | mapping kind entries =>
      simp only [entriesOfNode]
      rw [Outcome.mapM_congr]
      intro entry member
      rw [(named entry.1 (List.mem_map_of_mem member)).keyText_eq sameSize]
  | _ => rfl

theorem elements_agree {kind : SetKind} {lefts rights : List Value} (perm : lefts.Perm rights)
    (named : ∀ value ∈ lefts, left.ShownAlike right value)
    (toldApart : ∀ first ∈ lefts, ∀ second ∈ lefts, ∀ key,
      left.orderKey first = .ok key → left.orderKey second = .ok key → first = second) :
    Outcome.Agree Eq (left.elements (.set kind lefts)) (right.elements (.set kind rights)) :=
  sortedOn_agree perm (fun value member => (named value member).orderKey_eq sameSize) toldApart

end Nodes

/-- Containers interchange with reordered ones if no literal that is needed tells the orders apart. -/
theorem Reordered.interchanges (reordered : left.Reordered right) (toldApart : left.SetsToldApart)
    (namedAlike : left.NamedAlike right) : left.Interchanges right := by
  have sameSize := Corresponds.size_eq reordered
  intro address
  rcases Corresponds.node?_cases reordered address with
    ⟨leftNone, rightNone⟩ | ⟨leftNode, rightNode, isLeft, isRight, nodes⟩
  · rw [leftNone, rightNone]
    exact .none
  · rw [isLeft, isRight]
    refine .some ?_
    have named := namedAlike address _ isLeft
    cases nodes with
    | same =>
        exact {
          isObject := rfl
          isTrue := rfl
          members := fun _ => Iff.rfl
          entries := entriesOfNode_eq sameSize named
          elements := by
            cases leftNode with
            | set kind elements =>
                exact elements_agree sameSize (.refl _) named (toldApart address kind elements isLeft)
            | _ => exact .ok rfl }
    | set kind perm =>
        exact {
          isObject := rfl
          isTrue := congrArg not perm.isEmpty_eq
          members := fun _ => perm.mem_iff
          entries := rfl
          elements := elements_agree sameSize perm named (toldApart address kind _ isLeft) }

/-- The order in which sets yield their elements does not show in the text of a type, nor in whether there is
one, provided that no two elements of a set have the same kind and literal, and that none of the literals by which
elements are put in order or keys are written shows a set in two orders. -/
theorem inferText_reordered (reordered : left.Reordered right) (toldApart : left.SetsToldApart)
    (namedAlike : left.NamedAlike right) (settings : Settings) (value : Value) (depth : Int) :
    (∃ text, left.inferText settings value depth = .ok text ∧ right.inferText settings value depth = .ok text) ∨
      ∃ fault other, left.inferText settings value depth = .error fault ∧ left.FailsBelow value fault ∧
        right.inferText settings value depth = .error other ∧ right.FailsBelow value other := by
  have interchanges := reordered.interchanges toldApart namedAlike
  have agree := interchanges.inferText_agree settings value depth
  cases leftOutcome : left.inferText settings value depth with
  | ok text =>
      obtain ⟨other, success, same⟩ := agree.exists_right leftOutcome
      rw [← same] at success
      exact .inl ⟨text, rfl, success⟩
  | error fault =>
      cases rightOutcome : right.inferText settings value depth with
      | ok text =>
          obtain ⟨other, success, -⟩ := agree.exists_left rightOutcome
          cases leftOutcome.symm.trans success
      | error other =>
          exact .inr ⟨fault, other, rfl, failsBelow_of_inferText leftOutcome, rfl,
            failsBelow_of_inferText rightOutcome⟩

/-- A list of one mapping, under whose key there is a set of two records. -/
def catalogue (points : List Value) : Graph :=
  ⟨#[.sequence .list [.container 1], .mapping .plain [(.leaf (.text "points"), .container 2)],
    .set .set points, .record "Point" [("x", some (.leaf (.integer 1)))],
    .record "Point" [("x", some (.leaf (.text "a")))]]⟩

theorem catalogue_cases {points : List Value} {address : Address} {node : Node}
    (isNode : (catalogue points).node? address = some node) :
    node = .sequence .list [.container 1] ∨
      node = .mapping .plain [(.leaf (.text "points"), .container 2)] ∨ node = .set .set points ∨
      node = .record "Point" [("x", some (.leaf (.integer 1)))] ∨
      node = .record "Point" [("x", some (.leaf (.text "a")))] := by
  have member := Array.mem_of_getElem? isNode
  simpa [catalogue] using member

theorem reordered_catalogue {points others : List Value} (perm : points.Perm others) :
    (catalogue points).Reordered (catalogue others) := by
  intro address
  match address with
  | 0 | 1 | 3 | 4 => exact .some (.same _)
  | 2 => exact .some (.set .set perm)
  | address + 5 => exact .none

theorem setsToldApart_catalogue : (catalogue [.container 3, .container 4]).SetsToldApart := by
  have numberKey : (catalogue [.container 3, .container 4]).orderKey (.container 3) =
      .ok ("Point", "Point(x=1)") := by decide +kernel
  have textKey : (catalogue [.container 3, .container 4]).orderKey (.container 4) =
      .ok ("Point", "Point(x='a')") := by decide +kernel
  have differ : ("Point", "Point(x=1)") ≠ ("Point", "Point(x='a')") := by decide
  intro address kind elements isNode first firstMember second secondMember key firstKey secondKey
  rcases catalogue_cases isNode with impossible | impossible | isSet | impossible | impossible
  · cases impossible
  · cases impossible
  · cases isSet
    rw [List.mem_pair] at firstMember secondMember
    rcases firstMember with rfl | rfl
    · rcases secondMember with rfl | rfl
      · rfl
      · have same := (numberKey.symm.trans firstKey).trans (secondKey.symm.trans textKey)
        exact absurd (Except.ok.inj same) differ
    · rcases secondMember with rfl | rfl
      · have same := (numberKey.symm.trans secondKey).trans (firstKey.symm.trans textKey)
        exact absurd (Except.ok.inj same) differ
      · rfl
  · cases impossible
  · cases impossible

theorem namedAlike_catalogue (others : List Value) :
    (catalogue [.container 3, .container 4]).NamedAlike (catalogue others) := by
  intro address node isNode value member
  rcases catalogue_cases isNode with rfl | rfl | rfl | rfl | rfl
  · cases member
  · rw [List.mem_singleton.mp member]
    exact shownAlike_leaf _
  · have fieldAlike (leaf : Leaf) : ∀ shown ∈ (Node.record "Point" [("x", some (.leaf leaf))]).shown,
        (catalogue [.container 3, .container 4]).ShownAlike (catalogue others) shown := by
      intro shown isShown
      rw [List.mem_singleton.mp isShown]
      exact shownAlike_leaf leaf
    rcases List.mem_pair.mp member with rfl | rfl
    · exact shownAlike_container rfl rfl (fieldAlike _)
    · exact shownAlike_container rfl rfl (fieldAlike _)
  · cases member
  · cases member

/-- The points of a catalogue may come in either order. -/
theorem inferText_reordered_catalogue :
    let left := catalogue [.container 3, .container 4]
    let right := catalogue [.container 4, .container 3]
    (left.Reordered right ∧ left.SetsToldApart ∧ left.NamedAlike right) ∧
      ∃ text, left.inferText {} (.container 0) = .ok text ∧ right.inferText {} (.container 0) = .ok text := by
  have reordered := reordered_catalogue (List.Perm.swap (.container 4) (.container 3) [])
  have namedAlike := namedAlike_catalogue [.container 4, .container 3]
  refine ⟨⟨reordered, setsToldApart_catalogue, namedAlike⟩, ?_⟩
  rcases inferText_reordered reordered setsToldApart_catalogue namedAlike {} (.container 0) 0 with
    written | ⟨fault, other, failed, -⟩
  · exact written
  · have written : (catalogue [.container 3, .container 4]).inferText {} (.container 0) =
        .ok "\x7b\n  points: \x7b\n    x: number | string;\n  \x7d[];\n\x7d[]" := by decide +kernel
    cases written.symm.trans failed

/-- The literal of a set shows the set in its own order, and it is by this literal that a set of sets is put in
order. -/
example :
    let sizes (inner : List Value) : Graph :=
      ⟨#[.set .frozen inner, .set .frozen [.leaf (.integer 5000000000000000000000)],
        .set .set [.container 0, .container 1, .leaf (.integer 1)]]⟩
    (sizes [.leaf (.integer 8), .leaf (.integer 0)]).inferText {} (.container 2) =
        .ok "(bigint[] | number[] | number)[]" ∧
      (sizes [.leaf (.integer 0), .leaf (.integer 8)]).inferText {} (.container 2) =
        .ok "(number[] | bigint[] | number)[]" := by
  decide +kernel

end Graph

end SampleTypes
