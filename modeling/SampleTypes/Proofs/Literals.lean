import SampleTypes.Proofs.SetOrder

/-!
# Which literals exist

The literal of a value shows what is inside the value.  Exactly three things that it shows keep it from existing:
a record with a field that was never assigned, an integer with too many digits, and a tuple with labels that
contains itself through such tuples alone.  The budget for open containers is never the reason otherwise.
-/

namespace SampleTypes

namespace Node

variable {show? : Value → Except Fault String} {node : Node}

/-- A literal fails where that of a part fails, or where a field was never assigned. -/
theorem literal_eq_error {fault : Fault} (failed : node.literal show? = .error fault) :
    (∃ value ∈ node.shown, show? value = .error fault) ∨
      ∃ name fields field, node = .record name fields ∧ (field, none) ∈ fields ∧
        fault = .unassignedField name field := by
  have ofParts {values : List Value} {join : List String → String}
      (partsFailed : (do return join (← values.mapM show?)) = .error fault) :
      ∃ value ∈ values, show? value = .error fault := by
    rcases Outcome.bind_eq_error_iff.mp partsFailed with mapFailed | ⟨literals, -, impossible⟩
    · exact Outcome.mapM_eq_error mapFailed
    · cases impossible
  cases node with
  | mapping kind entries =>
      cases kind with
      | layered layers => exact .inl (ofParts failed)
      | _ =>
          rcases Outcome.bind_eq_error_iff.mp failed with mapFailed | ⟨_, -, impossible⟩
          · obtain ⟨entry, member, entryFailed⟩ := Outcome.mapM_eq_error mapFailed
            rcases Outcome.bind_eq_error_iff.mp entryFailed with keyFailed | ⟨_, -, rest⟩
            · exact .inl ⟨entry.1, List.mem_flatMap.mpr ⟨entry, member, by simp⟩, keyFailed⟩
            · rcases Outcome.bind_eq_error_iff.mp rest with valueFailed | ⟨_, -, impossible⟩
              · exact .inl ⟨entry.2, List.mem_flatMap.mpr ⟨entry, member, by simp⟩, valueFailed⟩
              · cases impossible
          · cases impossible
  | record name fields =>
      rcases Outcome.bind_eq_error_iff.mp failed with mapFailed | ⟨_, -, impossible⟩
      · obtain ⟨⟨field, content⟩, member, fieldFailed⟩ := Outcome.mapM_eq_error mapFailed
        cases content with
        | none =>
            cases fieldFailed
            exact .inr ⟨name, fields, field, rfl, member, rfl⟩
        | some value =>
            rcases Outcome.bind_eq_error_iff.mp fieldFailed with valueFailed | ⟨_, -, impossible⟩
            · exact .inl ⟨value, List.mem_filterMap.mpr ⟨_, member, rfl⟩, valueFailed⟩
            · cases impossible
      · cases impossible
  | sequence kind elements =>
      cases kind with
      | custom _ _ _ => cases failed
      | _ => exact .inl (ofParts failed)
  | range progression => exact .inl (ofParts failed)
  | view content => cases failed
  | set kind elements => exact .inl (ofParts failed)

/-- Where a literal exists, those of the parts do, and every field has been assigned. -/
theorem exists_of_literal {text : String} (success : node.literal show? = .ok text) :
    (∀ value ∈ node.shown, ∃ part, show? value = .ok part) ∧
      ∀ name fields field, node = .record name fields → (field, none) ∉ fields := by
  have ofParts {values : List Value} {literals : List String} (mapped : values.mapM show? = .ok literals) :
      ∀ value ∈ values, ∃ part, show? value = .ok part := by
    intro value member
    obtain ⟨part, -, shown⟩ := (Outcome.mapM_eq_ok_iff.mp mapped).exists_right member
    exact ⟨part, shown⟩
  cases node with
  | mapping kind entries =>
      refine ⟨?_, fun _ _ _ impossible => nomatch impossible⟩
      cases kind with
      | layered layers =>
          obtain ⟨literals, mapped, -⟩ := Outcome.bind_eq_ok_iff.mp success
          exact ofParts mapped
      | _ =>
          obtain ⟨literals, mapped, -⟩ := Outcome.bind_eq_ok_iff.mp success
          intro value member
          obtain ⟨entry, entryMember, inEntry⟩ := List.mem_flatMap.mp member
          obtain ⟨part, -, shown⟩ := (Outcome.mapM_eq_ok_iff.mp mapped).exists_right entryMember
          obtain ⟨keyPart, keyShown, rest⟩ := Outcome.bind_eq_ok_iff.mp shown
          obtain ⟨valuePart, valueShown, -⟩ := Outcome.bind_eq_ok_iff.mp rest
          rcases List.mem_pair.mp inEntry with rfl | rfl
          · exact ⟨keyPart, keyShown⟩
          · exact ⟨valuePart, valueShown⟩
  | record name fields =>
      obtain ⟨literals, mapped, -⟩ := Outcome.bind_eq_ok_iff.mp success
      have each := Outcome.mapM_eq_ok_iff.mp mapped
      constructor
      · intro value member
        obtain ⟨⟨field, content⟩, fieldMember, isValue⟩ := List.mem_filterMap.mp member
        cases isValue
        obtain ⟨part, -, shown⟩ := each.exists_right fieldMember
        obtain ⟨valuePart, valueShown, -⟩ := Outcome.bind_eq_ok_iff.mp shown
        exact ⟨valuePart, valueShown⟩
      · rintro _ _ field ⟨⟩ member
        obtain ⟨part, -, impossible⟩ := each.exists_right member
        cases impossible
  | sequence kind elements =>
      refine ⟨?_, fun _ _ _ impossible => nomatch impossible⟩
      cases kind with
      | custom _ _ _ => exact List.forall_mem_nil _
      | _ =>
          obtain ⟨literals, mapped, -⟩ := Outcome.bind_eq_ok_iff.mp success
          exact ofParts mapped
  | range progression =>
      refine ⟨?_, fun _ _ _ impossible => nomatch impossible⟩
      obtain ⟨literals, mapped, -⟩ := Outcome.bind_eq_ok_iff.mp success
      exact ofParts mapped
  | view content => exact ⟨List.forall_mem_nil _, fun _ _ _ impossible => nomatch impossible⟩
  | set kind elements =>
      refine ⟨?_, fun _ _ _ impossible => nomatch impossible⟩
      obtain ⟨literals, mapped, -⟩ := Outcome.bind_eq_ok_iff.mp success
      exact ofParts mapped

/-- Only tuples with labels show anything and have no ellipsis. -/
theorem labelled_of_ellipsis?_eq_none {value : Value} (noEllipsis : node.ellipsis? = none)
    (member : value ∈ node.shown) :
    ∃ name elements, node = .sequence (.labelled name) elements ∧ value ∈ elements := by
  cases node with
  | mapping kind entries => cases kind <;> cases noEllipsis
  | record name fields => cases noEllipsis
  | sequence kind elements =>
      cases kind with
      | labelled name => exact ⟨name, elements, rfl, member⟩
      | _ => cases noEllipsis
  | range progression => cases noEllipsis
  | view content => cases member
  | set kind elements => cases kind <;> cases noEllipsis

end Node

namespace Graph

variable {graph : Graph}

/-- A value is a part of a tuple with labels, whose literal is given in full even inside itself. -/
def Labels (graph : Graph) (whole part : Value) : Prop :=
  ∃ name elements, graph.nodeOf? whole = some (.sequence (.labelled name) elements) ∧ part ∈ elements

theorem Labels.shows {whole part : Value} (labels : graph.Labels whole part) : graph.Shows whole part := by
  obtain ⟨name, elements, isNode, member⟩ := labels
  exact ⟨_, isNode, member⟩

/-- What keeps a literal from existing that shows the value. -/
inductive Spoils (graph : Graph) : Value → Fault → Prop
  | tooLong {leaf : Leaf} (isTooLong : leaf.isTooLong = true) : Spoils graph (.leaf leaf) .tooManyDigits
  | unassigned {value : Value} {name field : String} {fields : List (String × Option Value)}
      (isRecord : graph.nodeOf? value = some (.record name fields)) (never : (field, none) ∈ fields) :
      Spoils graph value (.unassignedField name field)
  | endless {value : Value} (cycle : Relation.TransGen graph.Labels value value) :
      Spoils graph value .budgetSpent

/-- The literal of a value shows something that keeps it from existing. -/
def Unwritable (graph : Graph) (value : Value) (fault : Fault) : Prop :=
  ∃ inner, Relation.ReflTransGen graph.Shows value inner ∧ graph.Spoils inner fault

theorem Unwritable.of_shows {outer inner : Value} {fault : Fault} (shows : graph.Shows outer inner)
    (unwritable : graph.Unwritable inner fault) : graph.Unwritable outer fault := by
  obtain ⟨last, shown, spoils⟩ := unwritable
  exact ⟨last, shown.head shows, spoils⟩

/-- Why the literal of a container fails: it is spoiled by the container itself, or a part has no literal inside
the containers that are then open.  A tuple with labels does not count as open. -/
theorem literalWithin_container_eq_error {budget : Nat} {opened : List Address} {address : Address} {fault : Fault}
    (failed : graph.literalWithin (budget + 1) opened (.container address) = .error fault) :
    graph.Spoils (.container address) fault ∨
      (∃ node part, graph.node? address = some node ∧ part ∈ node.shown ∧ address ∉ opened ∧
        graph.literalWithin budget (address :: opened) part = .error fault) ∨
      ∃ part, graph.Labels (.container address) part ∧ graph.literalWithin budget opened part = .error fault := by
  unfold literalWithin at failed
  split at failed
  · cases failed
  · rename_i node isNode
    split at failed
    · split at failed
      · cases failed
      · rename_i fresh
        rcases node.literal_eq_error failed with ⟨part, member, partFailed⟩ | ⟨name, fields, field, rfl, never, rfl⟩
        · exact .inr (.inl ⟨node, part, isNode, member, fresh, partFailed⟩)
        · exact .inl (.unassigned isNode never)
    · rename_i noEllipsis
      rcases node.literal_eq_error failed with ⟨part, member, partFailed⟩ | ⟨_, _, _, rfl, _, _⟩
      · obtain ⟨name, elements, rfl, isElement⟩ := Node.labelled_of_ellipsis?_eq_none noEllipsis member
        exact .inr (.inr ⟨part, ⟨name, elements, isNode, isElement⟩, partFailed⟩)
      · cases noEllipsis

theorem spoils_of_leafLiteral {leaf : Leaf} {fault : Fault} (failed : leafLiteral leaf = .error fault) :
    graph.Spoils (.leaf leaf) fault := by
  unfold leafLiteral at failed
  split at failed
  · cases failed
    exact .tooLong ‹_›
  · cases failed

/-- A literal fails for what it shows, unless the budget is spent. -/
theorem unwritable_of_literalWithin {budget : Nat} {opened : List Address} {value : Value} {fault : Fault}
    (failed : graph.literalWithin budget opened value = .error fault) (unspent : fault ≠ .budgetSpent) :
    graph.Unwritable value fault := by
  induction budget generalizing opened value with
  | zero =>
      cases value with
      | leaf leaf => exact ⟨_, .refl, spoils_of_leafLiteral failed⟩
      | container address =>
          cases failed
          exact absurd rfl unspent
  | succ budget induction =>
      cases value with
      | leaf leaf => exact ⟨_, .refl, spoils_of_leafLiteral failed⟩
      | container address =>
          rcases literalWithin_container_eq_error failed with
            spoils | ⟨node, part, isNode, member, -, partFailed⟩ | ⟨part, labels, partFailed⟩
          · exact ⟨_, .refl, spoils⟩
          · exact (induction partFailed).of_shows ⟨node, isNode, member⟩
          · exact (induction partFailed).of_shows labels.shows

/-- The budget is spent only where a tuple with labels contains itself through such tuples alone.  `run` lists the
tuples with labels that are open since the last container with an ellipsis was opened; between two such containers
no other tuple is open twice. -/
theorem unwritable_of_budgetSpent {budget : Nat} {opened : List Address} {value : Value} (run : List Address)
    (labelled : ∀ address ∈ run, Relation.TransGen graph.Labels (.container address) value)
    (enough : (graph.unopened opened).card * (graph.nodes.size + 1) + (graph.unopened run).card < budget)
    (failed : graph.literalWithin budget opened value = .error .budgetSpent) :
    graph.Unwritable value .budgetSpent := by
  induction budget generalizing opened value run with
  | zero => exact absurd enough (Nat.not_lt_zero _)
  | succ budget induction =>
      cases value with
      | leaf leaf => exact ⟨_, .refl, spoils_of_leafLiteral failed⟩
      | container address =>
          rcases literalWithin_container_eq_error failed with
            spoils | ⟨node, part, isNode, member, fresh, partFailed⟩ | ⟨part, labels, partFailed⟩
          · exact ⟨_, .refl, spoils⟩
          · have fewer : (graph.unopened (address :: opened)).card + 1 ≤ (graph.unopened opened).card :=
              card_unopened_lt isNode fresh List.mem_cons_self (List.subset_cons_self _ _)
            have scaled := Nat.mul_le_mul_right (graph.nodes.size + 1) fewer
            rw [Nat.add_mul, Nat.one_mul] at scaled
            have bounded := graph.card_unopened_le []
            exact (induction [] (List.forall_mem_nil _) (by omega) partFailed).of_shows ⟨node, isNode, member⟩
          · by_cases repeated : address ∈ run
            · exact ⟨_, .refl, .endless (labelled address repeated)⟩
            · obtain ⟨name, elements, isNode, -⟩ := id labels
              have fewer : (graph.unopened (address :: run)).card < (graph.unopened run).card :=
                card_unopened_lt isNode repeated List.mem_cons_self (List.subset_cons_self _ _)
              refine (induction (address :: run) ?_ (by omega) partFailed).of_shows labels.shows
              intro other isOther
              rcases List.mem_cons.mp isOther with rfl | earlier
              · exact .single labels
              · exact (labelled other earlier).tail labels

/-- A value that is spoiled, or whose literal shows such a value within a number of steps. -/
def SpoiledWithin (graph : Graph) : Nat → Value → Prop
  | 0, value => ∃ fault, graph.Spoils value fault
  | steps + 1, value => graph.SpoiledWithin steps value ∨ ∃ part, graph.Shows value part ∧ graph.SpoiledWithin steps part

theorem Unwritable.spoiledWithin {value : Value} {fault : Fault} (unwritable : graph.Unwritable value fault) :
    ∃ steps, graph.SpoiledWithin steps value := by
  obtain ⟨inner, shown, spoils⟩ := unwritable
  induction shown using Relation.ReflTransGen.head_induction_on with
  | refl => exact ⟨0, fault, spoils⟩
  | head shows _ induction =>
      obtain ⟨steps, within⟩ := induction
      exact ⟨steps + 1, .inr ⟨_, shows, within⟩⟩

/-- A tuple with labels that contains itself has no literal. -/
theorem literalWithin_ne_ok_of_endless {budget : Nat} {opened : List Address} {value : Value} {text : String}
    (cycle : Relation.TransGen graph.Labels value value) : graph.literalWithin budget opened value ≠ .ok text := by
  intro success
  induction budget generalizing value text with
  | zero =>
      obtain ⟨part, ⟨name, elements, isNode, -⟩, -⟩ := Relation.TransGen.head'_iff.mp cycle
      cases value with
      | leaf leaf => cases isNode
      | container address => cases success
  | succ budget induction =>
      obtain ⟨part, labels, back⟩ := Relation.TransGen.head'_iff.mp cycle
      obtain ⟨name, elements, isNode, member⟩ := id labels
      cases value with
      | leaf leaf => cases isNode
      | container address =>
          replace isNode : graph.node? address = some (.sequence (.labelled name) elements) := isNode
          simp only [literalWithin, isNode, Node.ellipsis?] at success
          obtain ⟨partText, partShown⟩ := (Node.exists_of_literal success).1 part member
          exact induction (Relation.TransGen.tail' back labels) partShown

theorem literalWithin_ne_ok_of_spoils {budget : Nat} {opened : List Address} {value : Value} {fault : Fault}
    {text : String} (spoils : graph.Spoils value fault) (notOpen : value.isOpen opened = false) :
    graph.literalWithin budget opened value ≠ .ok text := by
  intro success
  cases spoils with
  | tooLong isTooLong =>
      cases budget with
      | zero | succ =>
          simp only [literalWithin, leafLiteral, isTooLong, if_true] at success
          cases success
  | @unassigned _ name field fields isRecord never =>
      cases value with
      | leaf leaf => cases isRecord
      | container address =>
          cases budget with
          | zero => cases success
          | succ budget =>
              replace isRecord : graph.node? address = some (.record name fields) := isRecord
              have fresh := Value.isOpen_container_eq_false_iff.mp notOpen
              simp only [literalWithin, isRecord, Node.ellipsis?, if_neg fresh] at success
              exact (Node.exists_of_literal success).2 name fields field rfl never
  | endless cycle => exact literalWithin_ne_ok_of_endless cycle success

/-- A value does not have a literal that shows what spoils it.  The open containers are farther from what spoils
the literal than the value, so a shortest way to it leads through none of them. -/
theorem literalWithin_ne_ok {steps budget : Nat} {opened : List Address} {value : Value} {text : String}
    (within : graph.SpoiledWithin steps value)
    (farther : ∀ address ∈ opened, ¬graph.SpoiledWithin steps (.container address)) :
    graph.literalWithin budget opened value ≠ .ok text := by
  have notOpen {steps : Nat} {opened : List Address} {value : Value} (within : graph.SpoiledWithin steps value)
      (farther : ∀ address ∈ opened, ¬graph.SpoiledWithin steps (.container address)) :
      value.isOpen opened = false := by
    cases value with
    | leaf leaf => rfl
    | container address => exact Value.isOpen_container_eq_false_iff.mpr fun isOpen => farther address isOpen within
  intro success
  induction steps generalizing budget opened value text with
  | zero =>
      obtain ⟨fault, spoils⟩ := id within
      exact literalWithin_ne_ok_of_spoils spoils (notOpen within farther) success
  | succ steps induction =>
      have fartherStill : ∀ address ∈ opened, ¬graph.SpoiledWithin steps (.container address) :=
        fun address isOpen nearer => farther address isOpen (.inl nearer)
      by_cases nearer : graph.SpoiledWithin steps value
      · exact induction nearer fartherStill success
      · have fresh := notOpen within farther
        obtain ⟨part, ⟨node, isNode, member⟩, partWithin⟩ := within.resolve_left nearer
        cases value with
        | leaf leaf => cases isNode
        | container address =>
            rw [Value.isOpen_container_eq_false_iff] at fresh
            replace isNode : graph.node? address = some node := isNode
            cases budget with
            | zero => cases success
            | succ budget =>
                simp only [literalWithin, isNode] at success
                split at success
                · rw [if_neg fresh] at success
                  obtain ⟨partText, partShown⟩ := (Node.exists_of_literal success).1 part member
                  exact induction partWithin (List.forall_mem_cons.mpr ⟨nearer, fartherStill⟩) partShown
                · obtain ⟨partText, partShown⟩ := (Node.exists_of_literal success).1 part member
                  exact induction partWithin fartherStill partShown

/-- A literal fails only for what it shows, because the budget is not spent without a reason. -/
theorem unwritable_of_literal {value : Value} {fault : Fault} (failed : graph.literal value = .error fault) :
    graph.Unwritable value fault := by
  by_cases spent : fault = .budgetSpent
  · rw [spent] at failed ⊢
    have scaled := Nat.mul_le_mul_right (graph.nodes.size + 1) (graph.card_unopened_le [])
    have bounded := graph.card_unopened_le []
    refine unwritable_of_budgetSpent [] (List.forall_mem_nil _) ?_ failed
    rw [Nat.add_mul graph.nodes.size 1]
    omega
  · exact unwritable_of_literalWithin failed spent

theorem writable_of_literal {value : Value} {text : String} (success : graph.literal value = .ok text)
    (fault : Fault) : ¬graph.Unwritable value fault := by
  intro unwritable
  obtain ⟨steps, within⟩ := unwritable.spoiledWithin
  exact literalWithin_ne_ok within (List.forall_mem_nil _) success

theorem literal_leaf (leaf : Leaf) : graph.literal (.leaf leaf) = leafLiteral leaf :=
  literalWithin_leaf graph _ [] leaf

theorem unwritable_of_keyText {value : Value} {fault : Fault} (failed : graph.keyText value = .error fault) :
    graph.Unwritable value fault := by
  cases value with
  | leaf leaf =>
      rw [keyText] at failed
      split at failed
      · cases failed
        exact ⟨_, .refl, .tooLong ‹_›⟩
      · cases failed
  | container address => exact unwritable_of_literal failed

theorem writable_of_keyText {value : Value} {text : String} (success : graph.keyText value = .ok text)
    (fault : Fault) : ¬graph.Unwritable value fault := by
  cases value with
  | leaf leaf =>
      rw [keyText] at success
      split at success
      · cases success
      · rename_i fits
        have literal : graph.literal (.leaf leaf) = .ok leaf.literal := by
          rw [literal_leaf, leafLiteral, if_neg fits]
        exact writable_of_literal literal fault
  | container address => exact writable_of_literal success fault

end Graph

end SampleTypes
