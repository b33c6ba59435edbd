import SampleTypes.Proofs.Circularity
import SampleTypes.Proofs.FacetedWorlds

/-!
# Conservation of kinds

The kinds that occur in an inferred type are the kinds of the values inside the value, where an empty array
counts as unknown.  That a container is left out where it is open already hides no kind: whatever is inside it
is also reached on a way that does not come back to an open container.  Only an empty array that holds as a condition
loses its kind, and a container of several classes inside an array may show the kinds of another class.
-/

namespace SampleTypes

/-- What types tell apart among leaves: the kinds that have a name, and whatever can be called. -/
inductive Kind
  | named (name : String)
  | callable

namespace Kind

def unknown : Kind := .named "unknown"

/-- What stands for a kind in a type. -/
def leaf : Kind → TypeExpr
  | .named name => .primitive name
  | .callable => .callable

theorem leaf_injective {left right : Kind} (same : left.leaf = right.leaf) : left = right := by
  cases left with
  | named name =>
      cases right with
      | named other =>
          cases same
          rfl
      | callable => cases same
  | callable =>
      cases right with
      | named other => cases same
      | callable => rfl

end Kind

/-- The kinds of leaves; of byte strings, and of leaves without a name that cannot be called, nothing is
known. -/
inductive Leaf.HasKind : Leaf → Kind → Prop
  | named {leaf : Leaf} {name : String} (hasName : leaf.HasName name) : HasKind leaf (.named name)
  | callable {leaf : Leaf} (isCallable : leaf.IsCallable) : HasKind leaf .callable
  | bytes (content : List UInt8) : HasKind (.bytes content) .unknown
  | buffer (content : List UInt8) : HasKind (.buffer content) .unknown
  | other (kind literal : String) (mark : Nat) : HasKind (.other kind literal mark) .unknown

namespace Leaf

theorem type_eq_of_hasName {leaf : Leaf} {name : String} (hasName : leaf.HasName name) :
    leaf.type = .primitive name := by
  cases hasName with
  | safeInteger kind safe =>
      rw [type, if_pos]
      simp only [greatestSafeInteger, Nat.pow_eq]
      omega
  | largeInteger kind large =>
      rw [type, if_neg]
      simp only [greatestSafeInteger, Nat.pow_eq]
      omega
  | _ => rfl

theorem HasKind.type_eq {leaf : Leaf} {kind : Kind} (hasKind : leaf.HasKind kind) : leaf.type = kind.leaf := by
  cases hasKind with
  | named hasName => exact type_eq_of_hasName hasName
  | callable isCallable =>
      cases leaf with
      | function | recordType => rfl
      | _ => cases isCallable
  | bytes | buffer | other => rfl

theorem exists_hasKind (leaf : Leaf) : ∃ kind, leaf.HasKind kind := by
  cases leaf with
  | null => exact ⟨_, .named .null⟩
  | undefined => exact ⟨_, .named .undefined⟩
  | boolean value => exact ⟨_, .named (.boolean value)⟩
  | integer value kind =>
      by_cases safe : -9007199254740991 ≤ value ∧ value ≤ 9007199254740991
      · exact ⟨_, .named (.safeInteger kind safe)⟩
      · exact ⟨_, .named (.largeInteger kind (by omega))⟩
  | numeral value mark => exact ⟨_, .named (.numeral value mark)⟩
  | text value kind => exact ⟨_, .named (.text value kind)⟩
  | bytes content => exact ⟨_, .bytes content⟩
  | buffer content => exact ⟨_, .buffer content⟩
  | symbol kind text literal standsFor isFlag mark =>
      exact ⟨_, .named (.symbol kind text literal standsFor isFlag mark)⟩
  | function kind literal mark => exact ⟨.callable, .callable trivial⟩
  | recordType kind literal defaults => exact ⟨.callable, .callable trivial⟩
  | other kind literal mark => exact ⟨_, .other kind literal mark⟩

/-- A leaf is typed by its kind. -/
theorem type_eq_leaf_iff {leaf : Leaf} {kind : Kind} : leaf.type = kind.leaf ↔ leaf.HasKind kind := by
  constructor
  · intro same
    obtain ⟨other, hasKind⟩ := leaf.exists_hasKind
    rwa [Kind.leaf_injective (same.symm.trans hasKind.type_eq)]
  · exact HasKind.type_eq

end Leaf

namespace Graph

variable {graph : Graph}

/-- The kind that a value shows without the values in it: that of a leaf, and the unknown kind if the value is
an empty array or nothing is known about it. -/
inductive ShowsKind (graph : Graph) : Value → Kind → Prop
  | leaf {leaf : Leaf} {kind : Kind} (hasKind : leaf.HasKind kind) : ShowsKind graph (.leaf leaf) kind
  | missing {address : Address} (isMissing : graph.node? address = none) :
      ShowsKind graph (.container address) .unknown
  | emptyArray {address : Address} {node : Node} (isNode : graph.node? address = some node)
      (isArray : node.isObject = false) (empty : node.members = []) :
      ShowsKind graph (.container address) .unknown

theorem ShowsKind.holds_nothing {value part : Value} {kind : Kind} (shows : graph.ShowsKind value kind) :
    ¬graph.Holds value part := by
  intro holds
  obtain ⟨node, isNode, held⟩ := holds
  cases shows with
  | leaf hasKind => cases isNode
  | missing isMissing => cases isMissing.symm.trans isNode
  | emptyArray sameNode isArray empty =>
      cases sameNode.symm.trans isNode
      rw [Node.held_of_array isArray, empty] at held
      cases held

/-- Every kind in the type of a value is shown by a value inside it. -/
theorem exists_showsKind_of_yields {opened : List Address} {value : Value} {leaf : TypeExpr} {kind : Kind}
    (yields : graph.Yields opened value leaf) (isLeaf : leaf = kind.leaf) :
    ∃ part, graph.Reaches value part ∧ graph.ShowsKind part kind := by
  have isUnknown (same : TypeExpr.unknown = kind.leaf) : Kind.unknown = kind := Kind.leaf_injective same
  induction yields with
  | leaf opened target => exact ⟨_, .refl, .leaf (Leaf.type_eq_leaf_iff.mp isLeaf)⟩
  | missing isMissing =>
      rw [← isUnknown isLeaf]
      exact ⟨_, .refl, .missing isMissing⟩
  | circular => cases kind <;> cases isLeaf
  | emptyArray isNode _ isArray empty =>
      rw [← isUnknown isLeaf]
      rw [Node.held_of_array isArray] at empty
      exact ⟨_, .refl, .emptyArray isNode isArray empty⟩
  | part isNode _ held _ induction =>
      obtain ⟨part, reaches, shows⟩ := induction isLeaf
      exact ⟨part, reaches.head ⟨_, isNode, held⟩, shows⟩

/-- One value is another one or somewhere inside it, on a way that leads through no open container. -/
def ReachesPast (graph : Graph) (opened : List Address) : Value → Value → Prop :=
  Relation.ReflTransGen fun whole part => whole.isOpen opened = false ∧ graph.Holds whole part

/-- A way past the open containers leads past one more container, or it can be cut short so that it begins in
that container and does not come back to it. -/
theorem ReachesPast.cons_or_below {opened : List Address} {value target : Value}
    (reaches : graph.ReachesPast opened value target) (address : Address) :
    graph.ReachesPast (address :: opened) value target ∨
      ∃ part, graph.Holds (.container address) part ∧ graph.ReachesPast (address :: opened) part target := by
  induction reaches using Relation.ReflTransGen.head_induction_on with
  | refl => exact .inl .refl
  | @head whole part first _ induction =>
      obtain ⟨notOpen, holds⟩ := first
      rcases induction with past | below
      · by_cases same : whole = .container address
        · rw [same] at holds
          exact .inr ⟨part, holds, past⟩
        · exact .inl (past.head ⟨Value.isOpen_cons_eq_false_iff.mpr ⟨same, notOpen⟩, holds⟩)
      · exact .inr below

/-- A value that is reached past the open containers is not left out.  The induction is on the number of
containers that may still be opened. -/
theorem yields_of_reachesPast {kind : Kind} {target : Value} (shows : graph.ShowsKind target kind)
    {opened : List Address} {value : Value} (notOpen : target.isOpen opened = false)
    (reaches : graph.ReachesPast opened value target) : graph.Yields opened value kind.leaf := by
  induction bound : (graph.unopened opened).card using Nat.strong_induction_on generalizing opened value with
  | _ bound induction =>
      rcases reaches.cases_head with rfl | ⟨part, ⟨fresh, node, isNode, held⟩, below⟩
      · cases shows with
        | leaf hasKind =>
            rw [← hasKind.type_eq]
            exact .leaf opened _
        | missing isMissing => exact .missing isMissing
        | emptyArray isNode isArray empty =>
            rw [← Node.held_of_array isArray] at empty
            exact .emptyArray isNode (Value.isOpen_container_eq_false_iff.mp notOpen) isArray empty
      · cases value with
        | leaf leaf => cases isNode
        | container address =>
            rw [Value.isOpen_container_eq_false_iff] at fresh
            have holds : graph.Holds (.container address) part := ⟨node, isNode, held⟩
            have further : ∃ part, graph.Holds (.container address) part ∧
                graph.ReachesPast (address :: opened) part target := by
              rcases ReachesPast.cons_or_below below address with past | later
              · exact ⟨part, holds, past⟩
              · exact later
            obtain ⟨last, ⟨sameNode, isSame, lastHeld⟩, past⟩ := further
            have differ : target ≠ .container address := by
              rintro rfl
              exact shows.holds_nothing holds
            have stillNotOpen := Value.isOpen_cons_eq_false_iff.mpr ⟨differ, notOpen⟩
            have fewer : (graph.unopened (address :: opened)).card < (graph.unopened opened).card :=
              card_unopened_lt isNode fresh List.mem_cons_self (List.subset_cons_self _ _)
            rw [bound] at fewer
            exact .part isSame fresh lastHeld (induction _ fewer stillNotOpen past rfl)

/-- A kind is in the type of a value exactly if a value inside it shows the kind. -/
theorem yields_kind_iff {value : Value} {kind : Kind} :
    graph.Yields [] value kind.leaf ↔ ∃ part, graph.Reaches value part ∧ graph.ShowsKind part kind := by
  constructor
  · intro yields
    exact exists_showsKind_of_yields yields rfl
  · intro shown
    obtain ⟨part, reaches, shows⟩ := shown
    apply yields_of_reachesPast shows part.isOpen_nil
    have pastNothing : graph.Holds ≤ fun whole part => whole.isOpen [] = false ∧ graph.Holds whole part :=
      fun whole _ holds => ⟨whole.isOpen_nil, holds⟩
    exact Relation.ReflTransGen.mono pastNothing _ _ reaches

/-- A value has a type, unless the contents of a container inside it cannot be listed.  The kinds in the type
are the kinds that the values inside the value show, and every record in it is that of an object without
keys. -/
theorem infer_keeps_kinds (graph : Graph) (settings : Settings) (value : Value) (depth : Int) :
    (∃ type, graph.infer settings value depth = .ok type ∧
        (∀ kind : Kind, kind.leaf ∈ type.leaves ↔
          ∃ part, graph.Reaches value part ∧ graph.ShowsKind part kind) ∧
        type.RecordsEmpty) ∨
      ∃ fault, graph.infer settings value depth = .error fault ∧ graph.FailsBelow value fault := by
  rcases infer_cases graph settings value depth with ⟨type, inferred⟩ | failed
  · have answer := answers_of_infer inferred
    refine .inl ⟨type, inferred, ?_, ?_⟩
    · intro kind
      rw [← yields_kind_iff]
      exact (Inference.faithful_of_answer answer).2 kind.leaf
    · exact Inference.hereditary_of_answer TypeExpr.hereditary_recordsEmpty answer trivial
  · exact .inr failed

end Graph

namespace FacetedGraph

/-- A value without facets inside arrays has a type, unless the contents of a container that shows inside it cannot be
listed.  The kinds in the type are the kinds that the values inside the value show, and every record in it is that of an
object without keys. -/
theorem infer_conserves_kinds (graph : FacetedGraph) (settings : Settings) (value : Value) (depth : Int)
    (bare : graph.BareInArrays value) :
    (∃ type, graph.infer settings value depth = .ok type ∧
        (∀ kind : Kind, kind.leaf ∈ type.leaves ↔
          ∃ part, graph.shown.Reaches (graph.front value) part ∧ graph.shown.ShowsKind part kind) ∧
        type.RecordsEmpty) ∨
      ∃ fault, graph.infer settings value depth = .error fault ∧
        graph.shown.FailsBelow (graph.front value) fault := by
  rw [infer_shown settings depth bare]
  exact graph.shown.infer_keeps_kinds settings (graph.front value) depth

theorem infer_conserves_kinds_showcase :
    showcase.BareInArrays (.container 0) ∧
      ∃ type, showcase.infer {} (.container 0) = .ok type ∧
        (∀ kind : Kind, kind.leaf ∈ type.leaves ↔
          ∃ part, showcase.shown.Reaches (.container 0) part ∧ showcase.shown.ShowsKind part kind) ∧
        type.RecordsEmpty := by
  refine ⟨bareInArrays_showcase _, ?_⟩
  obtain conserved | ⟨fault, failed, -⟩ :=
    infer_conserves_kinds showcase {} (.container 0) 0 (bareInArrays_showcase _)
  · exact conserved
  · have typed : (showcase.infer {} (.container 0)).isOk = true := by decide +kernel
    rw [failed] at typed
    cases typed

/-- Where objects are merged, an empty class of an enumeration is typed as an array of objects with arbitrary keys: the
type has a record that is not that of an object without keys, and leaves out the kind that the empty class shows. -/
theorem infer_loses_kind_misfits :
    ∃ type, misfits.infer {} (.container 4) = .ok type ∧
      (∃ part, misfits.shown.Reaches (.container 4) part ∧ misfits.shown.ShowsKind part .unknown) ∧
      Kind.unknown.leaf ∉ type.leaves ∧ ¬type.RecordsEmpty := by
  have typed : misfits.infer {} (.container 4) = .ok (.array (.object [⟨"a", .array .anyObject, false⟩] 0)) := by rfl
  refine ⟨_, typed, ⟨.container 11, ?_, .emptyArray rfl rfl rfl⟩, ?_, ?_⟩
  · exact .tail (.single ⟨_, rfl, List.mem_singleton_self _⟩) ⟨_, rfl, List.mem_singleton_self _⟩
  · simp [TypeExpr.leaves, TypeExpr.propertyLeaves, TypeExpr.anyObject]
  · intro empty
    have occurs : TypeExpr.Occurs TypeExpr.anyObject (.array (.object [⟨"a", .array .anyObject, false⟩] 0)) :=
      .element (.property (List.mem_singleton_self _) (.element .here))
    simpa [TypeExpr.unknown, TypeExpr.never] using empty .unknown occurs

end FacetedGraph

end SampleTypes
