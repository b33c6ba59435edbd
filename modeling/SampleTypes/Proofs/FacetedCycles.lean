import SampleTypes.Proofs.Circularity
import SampleTypes.Proofs.FacetedTypes

/-!
# Circular types of values with facets

The mark of circularity is never invented: it occurs in the type of a value only if some container inside the value
contains itself.  Where there are no facets inside arrays it occurs exactly if some container contains itself as the
values show themselves.  A member of an enumeration shows itself as a leaf, whatever it holds, and a record shows
nothing but its fields.
-/

namespace SampleTypes

/-- A statement that a part of a type witnesses goes over from the parts of a type to the type. -/
theorem TypeExpr.inherited_occurs_circular (settings : Settings) (marked : Prop) :
    Inherited settings (fun _ => True) fun type => Occurs .circular type → marked where
  deeper _ := trivial
  emptyObject occurs := by
    cases occurs with
    | value below => cases below
  array_iff := by
    intro element
    constructor
    · intro whole occurs
      exact whole (.element occurs)
    · intro part occurs
      cases occurs with
      | element below => exact part below
  object _ values occurs := by
    cases occurs with
    | property member below => exact values _ member below
  union _ each _ occurs := by
    cases occurs with
    | member isMember below => exact each _ isMember below
  members whole member isMember occurs := whole (.member isMember occurs)

namespace FacetedGraph

variable {graph : FacetedGraph} {opened : List Address} {address : Address} {value part : Value}

/-- Some container inside a value contains itself, whatever else it is. -/
def ContainsCycle (graph : FacetedGraph) (value : Value) : Prop :=
  ∃ whole, graph.Reaches value whole ∧ Relation.TransGen graph.Holds whole whole

/-- A value leads to a container that is open, or some container inside it contains itself. -/
def LeadsBack (graph : FacetedGraph) (opened : List Address) (value : Value) : Prop :=
  (∃ address ∈ opened, graph.Reaches value (.container address)) ∨ graph.ContainsCycle value

theorem LeadsBack.of_holds (holds : graph.Holds (.container address) part)
    (leads : graph.LeadsBack (address :: opened) part) : graph.LeadsBack opened (.container address) := by
  rcases leads with ⟨other, isOpen, reached⟩ | ⟨whole, reached, cycle⟩
  · rcases List.mem_cons.mp isOpen with rfl | earlier
    · exact .inr ⟨_, .refl, Relation.TransGen.head' holds reached⟩
    · exact .inl ⟨other, earlier, reached.head holds⟩
  · exact .inr ⟨whole, reached.head holds, cycle⟩

theorem leadsBack_of_isOpen (isOpen : value.isOpen opened = true) : graph.LeadsBack opened value := by
  cases value with
  | leaf leaf => cases isOpen
  | container address => exact .inl ⟨address, List.contains_iff_mem.mp isOpen, .refl⟩

/-- The mark of circularity shows that a value leads back to itself. -/
theorem keeps_leadsBack (graph : FacetedGraph) (settings : Settings) :
    graph.Keeps settings (fun _ => True) fun opened value type =>
      TypeExpr.Occurs .circular type → graph.LeadsBack opened value where
  inherited opened value := TypeExpr.inherited_occurs_circular settings (graph.LeadsBack opened value)
  leaf leaf occurs := by
    cases leaf with
    | integer amount kind =>
        rw [Leaf.type] at occurs
        cases occurs
    | _ => cases occurs
  unknown occurs := by cases occurs
  anyObject occurs := by
    cases occurs with
    | value below => cases below
  circular isOpen _ := leadsBack_of_isOpen isOpen
  held holds kept occurs := (kept occurs).of_holds holds

/-- A value has a type, unless the contents of a container inside it cannot be listed.  The mark of circularity occurs in
the type only if some container inside the value contains itself, and where there are no facets inside arrays, exactly
if some container contains itself as the values show themselves. -/
theorem infer_marks_cycles (graph : FacetedGraph) (settings : Settings) (value : Value) (depth : Int) :
    (∃ type, graph.infer settings value depth = .ok type ∧
        (TypeExpr.Occurs .circular type → graph.ContainsCycle value) ∧
        (graph.BareInArrays value →
          (TypeExpr.Occurs .circular type ↔ graph.shown.ContainsCycle (graph.front value)))) ∨
      ∃ fault, graph.infer settings value depth = .error fault ∧ graph.FailsBelow value fault := by
  rcases graph.infer_cases settings [] depth value with ⟨type, inferred⟩ | failed
  · refine .inl ⟨type, inferred, ?_, ?_⟩
    · intro occurs
      rcases (obeys_typerWithin (keeps_leadsBack graph settings) _).infer trivial inferred occurs with
        ⟨address, impossible, -⟩ | cyclic
      · cases impossible
      · exact cyclic
    · intro bare
      have sameOutcome := infer_shown settings depth bare
      obtain ⟨shownType, shownInferred, marks⟩ | ⟨fault, shownFailed, -⟩ :=
        graph.shown.infer_circular_iff_containsCycle settings (graph.front value) depth
      · cases inferred.symm.trans (sameOutcome.trans shownInferred)
        exact marks
      · cases inferred.symm.trans (sameOutcome.trans shownFailed)
  · exact .inr failed

/-- A record with the elements of an array, a field of which holds the record. -/
def closedDeck : FacetedGraph where
  nodes :=
    #[.record "Deck" [("rows", some (.container 1)), ("whole", some (.container 0))],
      .sequence .list [.leaf (.integer 2)]]
  facets
    | 0 => { collection := some ⟨.sequence .list [.leaf (.integer 2)], rfl⟩ }
    | _ => {}

theorem infer_marks_cycles_closedDeck :
    closedDeck.BareInArrays (.container 0) ∧ closedDeck.shown.ContainsCycle (.container 0) ∧
      ∃ type, closedDeck.infer {} (.container 0) = .ok type ∧ TypeExpr.Occurs .circular type := by
  have bare : closedDeck.BareInArrays (.container 0) := by
    have nothing (address : Address) (inside : False) : closedDeck.IsBare address := inside.elim
    apply bareInArrays_of_inside nothing
    · intro _ _ _ inside
      exact inside.elim
    · intro address node element isNode isArray member
      have inBounds := Graph.address_lt_size isNode
      change address < 2 at inBounds
      interval_cases address <;> cases isNode <;> simp [closedDeck, Node.members, Node.isObject] at member isArray
  have cycle : closedDeck.shown.Holds (.container 0) (.container 0) :=
    ⟨_, rfl, List.mem_cons_of_mem _ List.mem_cons_self⟩
  have cyclic : closedDeck.shown.ContainsCycle (.container 0) := ⟨_, .refl, .single cycle⟩
  obtain ⟨type, inferred, -, exactly⟩ | ⟨fault, failed, -⟩ := infer_marks_cycles closedDeck {} (.container 0) 0
  · exact ⟨bare, cyclic, type, inferred, (exactly bare).mpr cyclic⟩
  · have typed : (closedDeck.infer {} (.container 0)).isOk = true := by decide +kernel
    rw [failed] at typed
    cases typed

/-- A member of a flag enumeration, which holds itself (0), a list of an object that holds a record with the elements of
an array (1) and the record (3), a field of which holds it. -/
def rings : FacetedGraph where
  nodes :=
    #[.sequence (.custom "Perm" "<Perm.R: 1>") [.container 0],
      .sequence .list [.container 2],
      .mapping .plain [(.leaf (.text "deck"), .container 3)],
      .record "Deck" [("rows", some (.container 4)), ("whole", some (.container 3))],
      .sequence .list [.container 5],
      .mapping .plain [(.leaf (.text "card"), .leaf (.integer 1))]]
  facets
    | 0 => { guise := some ⟨.symbol "Perm" "Perm.R" "<Perm.R: 1>" none true, rfl⟩ }
    | 3 => { collection := some ⟨.sequence .list [.container 5], rfl⟩ }
    | _ => {}

/-- A member of an enumeration that holds itself is a leaf.  A record with the elements of an array that is merged is not
looked at for its fields, one of which holds it. -/
theorem infer_misses_cycles_rings :
    (rings.isArray (.container 0) = true ∧ rings.ContainsCycle (.container 0) ∧
        rings.infer {} (.container 0) = .ok (.primitive "symbol")) ∧
      ∃ type, rings.shown.ContainsCycle (.container 1) ∧ rings.infer {} (.container 1) = .ok type ∧
        ¬TypeExpr.Occurs .circular type := by
  have inItself : rings.Holds (.container 0) (.container 0) :=
    ⟨_, _, rfl, .inl rfl, List.mem_singleton_self _⟩
  have inList : rings.shown.Holds (.container 1) (.container 2) := ⟨_, rfl, List.mem_singleton_self _⟩
  have inObject : rings.shown.Holds (.container 2) (.container 3) := ⟨_, rfl, List.mem_singleton_self _⟩
  have inField : rings.shown.Holds (.container 3) (.container 3) :=
    ⟨_, rfl, List.mem_cons_of_mem _ List.mem_cons_self⟩
  have inferred : rings.infer {} (.container 1) =
      .ok (.array (.object [⟨"deck", .array (.object [⟨"card", .primitive "number", false⟩] 1), false⟩] 0)) := by rfl
  refine ⟨⟨rfl, ⟨_, .refl, .single inItself⟩, by rfl⟩, _, ⟨_, .tail (.single inList) inObject, .single inField⟩,
    inferred, ?_⟩
  intro occurs
  cases occurs with
  | element below =>
      cases below with
      | property member below =>
          cases List.mem_singleton.mp member
          cases below with
          | element below =>
              cases below with
              | property member below =>
                  cases List.mem_singleton.mp member
                  cases below

end FacetedGraph

end SampleTypes
