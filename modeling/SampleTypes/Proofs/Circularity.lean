import SampleTypes.Proofs.Failure
import SampleTypes.Proofs.Hereditary
import SampleTypes.Proofs.Leaves

/-!
# Circular types

The mark of circularity occurs in an inferred type exactly if some container inside the value contains itself.
A container that is merely shared leaves no mark, and no mark is lost when repeated texts are left out.  Containers
are of one class here.
-/

namespace SampleTypes

namespace TypeExpr

/-- One type is another one or a part of it. -/
inductive Occurs (part : TypeExpr) : TypeExpr → Prop
  | here : Occurs part part
  | value {value : TypeExpr} (below : Occurs part value) : Occurs part (.record value)
  | element {element : TypeExpr} (below : Occurs part element) : Occurs part (.array element)
  | property {properties : List (Property TypeExpr)} {depth : Int} {property : Property TypeExpr}
      (member : property ∈ properties) (below : Occurs part property.value) :
      Occurs part (.object properties depth)
  | member {members : List TypeExpr} {depth : Int} {multiline : Bool} {member : TypeExpr}
      (isMember : member ∈ members) (below : Occurs part member) :
      Occurs part (.union members depth multiline)

theorem Occurs.trans {inner part whole : TypeExpr} (below : Occurs inner part) (above : Occurs part whole) :
    Occurs inner whole := by
  induction above with
  | here => exact below
  | value _ induction => exact .value induction
  | element _ induction => exact .element induction
  | property member _ induction => exact .property member induction
  | member isMember _ induction => exact .member isMember induction

/-- Every part of a regular type is regular. -/
theorem Regular.of_occurs {part whole : TypeExpr} (regular : whole.Regular) (occurs : Occurs part whole) :
    part.Regular := by
  induction occurs with
  | here => exact regular
  | value _ induction => exact induction regular
  | element _ induction => exact induction regular
  | property member _ induction => exact induction (regularProperties_iff.mp regular.2 _ member)
  | member isMember _ induction => exact induction (regularMembers_iff.mp regular.2 _ isMember).2

/-- Whether every record in a type is that of an object without keys. -/
def RecordsEmpty (type : TypeExpr) : Prop :=
  ∀ value, Occurs (.record value) type → value = .never

theorem hereditary_recordsEmpty {settings : Settings} : Hereditary settings (fun _ => True) RecordsEmpty where
  deeper _ := trivial
  leaf leaf := by
    intro value occurs
    cases leaf with
    | integer amount kind =>
        rw [Leaf.type] at occurs
        cases occurs
    | _ => cases occurs
  unknown := by
    intro value occurs
    cases occurs
  circular := by
    intro value occurs
    cases occurs
  emptyObject := by
    intro value occurs
    cases occurs with
    | here => rfl
    | value below => cases below
  array_iff := by
    intro element
    constructor
    · intro empty value occurs
      exact empty value (.element occurs)
    · intro empty value occurs
      cases occurs with
      | element below => exact empty value below
  object := by
    intro properties depth _ values value occurs
    cases occurs with
    | property member below => exact values _ member value below
  union := by
    intro members depth multiline _ each _ value occurs
    cases occurs with
    | member isMember below => exact each _ isMember value below
  members := by
    intro members depth multiline empty member isMember value occurs
    exact empty value (.member isMember occurs)

mutual

theorem occurs_of_mem_leaves (type : TypeExpr) {leaf : TypeExpr} (member : leaf ∈ type.leaves) :
    Occurs leaf type := by
  cases type with
  | primitive name =>
      rw [List.mem_singleton.mp member]
      exact .here
  | callable =>
      rw [List.mem_singleton.mp member]
      exact .here
  | circular =>
      rw [List.mem_singleton.mp member]
      exact .here
  | record value => cases member
  | array element => exact .element (occurs_of_mem_leaves element member)
  | object properties depth =>
      obtain ⟨property, isProperty, occurs⟩ := occurs_of_mem_propertyLeaves properties member
      exact .property isProperty occurs
  | union members depth multiline =>
      obtain ⟨part, isMember, occurs⟩ := occurs_of_mem_memberLeaves members member
      exact .member isMember occurs

theorem occurs_of_mem_memberLeaves (members : List TypeExpr) {leaf : TypeExpr}
    (member : leaf ∈ memberLeaves members) : ∃ part ∈ members, Occurs leaf part := by
  cases members with
  | nil => cases member
  | cons first others =>
      rcases List.mem_append.mp member with inFirst | later
      · exact ⟨first, List.mem_cons_self, occurs_of_mem_leaves first inFirst⟩
      · obtain ⟨part, isMember, occurs⟩ := occurs_of_mem_memberLeaves others later
        exact ⟨part, List.mem_cons_of_mem _ isMember, occurs⟩

theorem occurs_of_mem_propertyLeaves (properties : List (Property TypeExpr)) {leaf : TypeExpr}
    (member : leaf ∈ propertyLeaves properties) :
    ∃ property ∈ properties, Occurs leaf property.value := by
  cases properties with
  | nil => cases member
  | cons first others =>
      obtain ⟨key, value, optional⟩ := first
      rcases List.mem_append.mp member with inFirst | later
      · exact ⟨⟨key, value, optional⟩, List.mem_cons_self, occurs_of_mem_leaves value inFirst⟩
      · obtain ⟨property, isProperty, occurs⟩ := occurs_of_mem_propertyLeaves others later
        exact ⟨property, List.mem_cons_of_mem _ isProperty, occurs⟩

end

/-- Where records say nothing, the mark of circularity occurs only as a leaf. -/
theorem mem_leaves_of_occurs_circular {type : TypeExpr} (occurs : Occurs .circular type)
    (empty : type.RecordsEmpty) : .circular ∈ type.leaves := by
  induction occurs with
  | here => exact List.mem_cons_self
  | @value value below induction =>
      cases empty value .here
      cases below
  | element below induction => exact induction fun value occurs => empty value (.element occurs)
  | property member below induction =>
      rw [leaves, mem_propertyLeaves_iff]
      exact ⟨_, member, induction fun value occurs => empty value (.property member occurs)⟩
  | member isMember below induction =>
      rw [leaves, mem_memberLeaves_iff]
      exact ⟨_, isMember, induction fun value occurs => empty value (.member isMember occurs)⟩

end TypeExpr

namespace Graph

variable {graph : Graph}

/-- Some container inside a value contains itself. -/
def ContainsCycle (graph : Graph) (value : Value) : Prop :=
  ∃ whole, graph.Reaches value whole ∧ Relation.TransGen graph.Holds whole whole

theorem not_containsCycle_of_holds {whole part : Value} (acyclic : ¬graph.ContainsCycle whole)
    (holds : graph.Holds whole part) : ¬graph.ContainsCycle part := by
  rintro ⟨inner, reaches, cycle⟩
  exact acyclic ⟨inner, reaches.head holds, cycle⟩

/-- Where containers hold only later ones, no container contains itself. -/
theorem not_containsCycle_of_ascending
    (ascending : ∀ address node later, graph.node? address = some node →
      Value.container later ∈ node.held → address < later) (value : Value) :
    ¬graph.ContainsCycle value := by
  have later {whole part : Value} (below : Relation.TransGen graph.Holds whole part) {address : Address}
      (isPart : part = .container address) : ∃ earlier, whole = .container earlier ∧ earlier < address := by
    induction below generalizing address with
    | @single part holds =>
        obtain ⟨node, isNode, held⟩ := holds
        subst isPart
        cases whole with
        | leaf leaf => cases isNode
        | container earlier => exact ⟨earlier, rfl, ascending earlier node address isNode held⟩
    | @tail middle part _ holds induction =>
        obtain ⟨node, isNode, held⟩ := holds
        subst isPart
        cases middle with
        | leaf leaf => cases isNode
        | container between =>
            obtain ⟨earlier, isWhole, less⟩ := induction rfl
            exact ⟨earlier, isWhole, less.trans (ascending between node address isNode held)⟩
  rintro ⟨whole, -, cycle⟩
  obtain ⟨part, ⟨node, isNode, -⟩, -⟩ := Relation.TransGen.head'_iff.mp cycle
  cases whole with
  | leaf leaf => cases isNode
  | container address =>
      obtain ⟨earlier, same, less⟩ := later cycle rfl
      cases same
      exact lt_irrefl address less

/-- Nothing that is open is inside a value. -/
def Clear (graph : Graph) (opened : List Address) (value : Value) : Prop :=
  ∀ address ∈ opened, ¬graph.Reaches value (.container address)

section Clear

variable {opened : List Address} {address : Address} {node : Node} {value part : Value}

theorem clear_nil (value : Value) : graph.Clear [] value :=
  fun _ isOpen => absurd isOpen List.not_mem_nil

theorem Clear.of_held (clear : graph.Clear opened (.container address))
    (acyclic : ¬graph.ContainsCycle (.container address)) (isNode : graph.node? address = some node)
    (held : part ∈ node.held) : graph.Clear (address :: opened) part := by
  intro other isOpen reaches
  have holds : graph.Holds (.container address) part := ⟨node, isNode, held⟩
  rcases List.mem_cons.mp isOpen with rfl | earlier
  · exact acyclic ⟨_, .refl, Relation.TransGen.head' holds reaches⟩
  · exact clear other earlier (reaches.head holds)

theorem Clear.not_mem (clear : graph.Clear opened (.container address)) : address ∉ opened :=
  fun isOpen => clear address isOpen .refl

theorem Clear.isOpen_eq_false (clear : graph.Clear opened value) : value.isOpen opened = false := by
  cases value with
  | leaf leaf => rfl
  | container address => exact Value.isOpen_container_eq_false_iff.mpr clear.not_mem

end Clear

/-- The mark of circularity comes from a container that was open already, or from one that contains itself. -/
theorem reaches_of_yields_circular {opened : List Address} {value : Value} {leaf : TypeExpr}
    (yields : graph.Yields opened value leaf) (circular : leaf = .circular) :
    (∃ address ∈ opened, graph.Reaches value (.container address)) ∨ graph.ContainsCycle value := by
  induction yields with
  | leaf opened target =>
      cases target with
      | integer amount kind => cases circular
      | _ => cases circular
  | missing | emptyArray => cases circular
  | circular isNode isOpen => exact .inl ⟨_, isOpen, .refl⟩
  | @part opened address node part _ isNode fresh held below induction =>
      have holds : graph.Holds (.container address) part := ⟨node, isNode, held⟩
      rcases induction circular with ⟨other, isOpen, reaches⟩ | ⟨whole, reaches, cycle⟩
      · rcases List.mem_cons.mp isOpen with rfl | earlier
        · exact .inr ⟨_, .refl, Relation.TransGen.head' holds reaches⟩
        · exact .inl ⟨other, earlier, reaches.head holds⟩
      · exact .inr ⟨whole, reaches.head holds, cycle⟩

/-- A way down to an open container leaves a mark. -/
theorem yields_circular_of_reaches_open {value target : Value} (reaches : graph.Reaches value target)
    {address : Address} {node : Node} (isTarget : target = .container address)
    (isNode : graph.node? address = some node) {opened : List Address} (isOpen : address ∈ opened) :
    graph.Yields opened value .circular := by
  induction reaches using Relation.ReflTransGen.head_induction_on generalizing opened with
  | refl =>
      rw [isTarget]
      exact .circular isNode isOpen
  | @head whole part holds _ induction =>
      obtain ⟨wholeNode, isWholeNode, held⟩ := holds
      cases whole with
      | leaf leaf => cases isWholeNode
      | container wholeAddress =>
          by_cases wholeIsOpen : wholeAddress ∈ opened
          · exact .circular isWholeNode wholeIsOpen
          · exact .part isWholeNode wholeIsOpen held (induction (List.mem_cons_of_mem _ isOpen))

/-- A container that contains itself leaves a mark, whatever is open around it. -/
theorem yields_circular_of_containsCycle {value : Value} (cyclic : graph.ContainsCycle value)
    (opened : List Address) : graph.Yields opened value .circular := by
  obtain ⟨whole, reaches, cycle⟩ := cyclic
  induction reaches using Relation.ReflTransGen.head_induction_on generalizing opened with
  | refl =>
      obtain ⟨part, ⟨node, isNode, held⟩, back⟩ := Relation.TransGen.head'_iff.mp cycle
      cases whole with
      | leaf leaf => cases isNode
      | container address =>
          by_cases isOpen : address ∈ opened
          · exact .circular isNode isOpen
          · exact .part isNode isOpen held
              (yields_circular_of_reaches_open back rfl isNode List.mem_cons_self)
  | @head outer part holds _ induction =>
      obtain ⟨node, isNode, held⟩ := holds
      cases outer with
      | leaf leaf => cases isNode
      | container address =>
          by_cases isOpen : address ∈ opened
          · exact .circular isNode isOpen
          · exact .part isNode isOpen held (induction _)

theorem yields_circular_iff {value : Value} :
    graph.Yields [] value .circular ↔ graph.ContainsCycle value := by
  constructor
  · intro yields
    rcases reaches_of_yields_circular yields rfl with ⟨address, impossible, -⟩ | cyclic
    · cases impossible
    · exact cyclic
  · intro cyclic
    exact yields_circular_of_containsCycle cyclic []

/-- A value has a type, unless the contents of a container inside it cannot be listed, and the mark of
circularity occurs in the type exactly if some container inside the value contains itself. -/
theorem infer_circular_iff_containsCycle (graph : Graph) (settings : Settings) (value : Value) (depth : Int) :
    (∃ type, graph.infer settings value depth = .ok type ∧
        (TypeExpr.Occurs .circular type ↔ graph.ContainsCycle value)) ∨
      ∃ fault, graph.infer settings value depth = .error fault ∧ graph.FailsBelow value fault := by
  rcases infer_cases graph settings value depth with ⟨type, inferred⟩ | failed
  · have answer := answers_of_infer inferred
    have faithful := (Inference.faithful_of_answer answer).2 .circular
    have empty := Inference.hereditary_of_answer TypeExpr.hereditary_recordsEmpty answer trivial
    refine .inl ⟨type, inferred, ?_⟩
    rw [← yields_circular_iff]
    constructor
    · intro occurs
      exact faithful.mp (TypeExpr.mem_leaves_of_occurs_circular occurs empty)
    · intro yields
      exact TypeExpr.occurs_of_mem_leaves type (faithful.mpr yields)
  · exact .inr failed

end Graph

end SampleTypes
