import Mathlib.Data.Set.Card
import SampleTypes.Proofs.Calls

/-!
# Termination on cyclic values

A value that contains itself unfolds without end, yet typing it ends: on the way down no container is opened
while it is open already, so there are never more open containers than containers in the value.  A budget of
one more than that is therefore never spent, whatever stands behind its end.
-/

namespace SampleTypes

namespace Graph

variable {graph : Graph}

/-- A way down from a value to a value inside it, with the containers that are entered on the way, the
innermost first. -/
inductive Descends (graph : Graph) (value : Value) : List Address → Value → Prop
  | here : Descends graph value [] value
  | into {address : Address} {entered : List Address} {part : Value}
      (toContainer : Descends graph value entered (.container address))
      (holds : graph.Holds (.container address) part) :
      Descends graph value (address :: entered) part

/-- The containers in a value, itself included. -/
def containersIn (graph : Graph) (value : Value) : Set Address :=
  {address | graph.Reaches value (.container address) ∧ (graph.node? address).isSome}

theorem containersIn_finite (value : Value) : (graph.containersIn value).Finite := by
  apply (Set.finite_lt_nat graph.nodes.size).subset
  rintro address ⟨_, isNode⟩
  obtain ⟨node, isNode⟩ := Option.isSome_iff_exists.mp isNode
  exact address_lt_size isNode

/-- The containers that may still be opened inside the open ones. -/
def unopened (graph : Graph) (opened : List Address) : Finset Address :=
  (Finset.range graph.nodes.size).filter (· ∉ opened)

theorem unopened_subset {opened others : List Address} (more : opened ⊆ others) :
    graph.unopened others ⊆ graph.unopened opened := by
  intro address member
  obtain ⟨inRange, notOpen⟩ := Finset.mem_filter.mp member
  exact Finset.mem_filter.mpr ⟨inRange, fun isOpen => notOpen (more isOpen)⟩

/-- Opening a container leaves fewer that may still be opened. -/
theorem card_unopened_lt {opened others : List Address} {address : Address} {node : Node}
    (isNode : graph.node? address = some node) (fresh : address ∉ opened) (opens : address ∈ others)
    (more : opened ⊆ others) : (graph.unopened others).card < (graph.unopened opened).card := by
  apply Finset.card_lt_card
  refine (Finset.ssubset_iff_of_subset (unopened_subset more)).mpr ⟨address, ?_, ?_⟩
  · exact Finset.mem_filter.mpr ⟨Finset.mem_range.mpr (address_lt_size isNode), fresh⟩
  · intro member
    exact (Finset.mem_filter.mp member).2 opens

theorem card_unopened_le (graph : Graph) (opened : List Address) :
    (graph.unopened opened).card ≤ graph.nodes.size := by
  have le := Finset.card_filter_le (Finset.range graph.nodes.size) (· ∉ opened)
  rwa [Finset.card_range] at le

namespace Descends

variable {value part : Value} {entered : List Address}

theorem reaches (descends : graph.Descends value entered part) : graph.Reaches value part := by
  induction descends with
  | here => exact .refl
  | into _ holds induction => exact induction.tail holds

/-- What is entered on the way is a container in the value. -/
theorem mem_containersIn (descends : graph.Descends value entered part) {address : Address}
    (member : address ∈ entered) : address ∈ graph.containersIn value := by
  induction descends with
  | here => cases member
  | @into last _ _ toContainer holds induction =>
      rcases List.mem_cons.mp member with rfl | earlier
      · obtain ⟨node, isNode, _⟩ := holds
        exact ⟨toContainer.reaches, Option.isSome_iff_exists.mpr ⟨node, isNode⟩⟩
      · exact induction earlier

/-- A way without repetition is no longer than the number of containers in the value. -/
theorem length_le (descends : graph.Descends value entered part) (nodup : entered.Nodup) :
    entered.length ≤ (graph.containersIn value).ncard := by
  rw [← List.toFinset_card_of_nodup nodup, ← Set.ncard_coe_finset]
  apply Set.ncard_le_ncard _ (containersIn_finite value)
  intro address member
  exact descends.mem_containersIn (by simpa using member)

end Descends

end Graph

namespace Call

variable {graph : Graph} {settings : Settings}

/-- One call is needed to carry out another one: to change nothing but the answer to it can change the
outcome. -/
def Needs (graph : Graph) (settings : Settings) (outer inner : Call) : Prop :=
  ∃ left right : Typer, (∀ call, call ≠ inner → left.answer call = right.answer call) ∧
    (Inference.step graph settings left).answer outer ≠
      (Inference.step graph settings right).answer outer

/-- A call that is made, directly or further down, to type a value. -/
def MadeFor (graph : Graph) (settings : Settings) (value : Value) (depth : Int) : Call → Prop :=
  Relation.ReflTransGen (Needs graph settings) (first value depth)

theorem Needs.nests {outer inner : Call} (needed : outer.Needs graph settings inner) :
    outer.Nests graph inner := by
  obtain ⟨left, right, agree, differ⟩ := needed
  by_contra notNested
  apply differ
  apply Inference.step_answer_congr
  intro call nested
  apply agree
  rintro rfl
  exact notNested nested

/-- The open containers of a call are those entered on a way from the value down to the value of the call,
none of them twice. -/
structure Traced (graph : Graph) (value : Value) (call : Call) : Prop where
  descends : graph.Descends value call.opened call.value
  nodup : call.opened.Nodup

theorem traced_first (value : Value) (depth : Int) : (first value depth).Traced graph value :=
  ⟨.here, List.nodup_nil⟩

theorem Nests.opened_eq {outer inner : Call} (nests : outer.Nests graph inner) :
    ∃ entered, entered ≠ [] ∧ inner.opened = entered ++ outer.opened := by
  cases nests with
  | @part address _ _ _ _ _ _ opens _ => exact ⟨[address], by simp, opens⟩
  | @elementPart address objectAddress _ _ _ _ _ _ _ _ _ _ _ _ opens _ =>
      exact ⟨[objectAddress, address], by simp, opens⟩

theorem Nests.length_lt {outer inner : Call} (nests : outer.Nests graph inner) :
    outer.opened.length < inner.opened.length := by
  obtain ⟨entered, nonempty, opens⟩ := nests.opened_eq
  have positive := List.length_pos_of_ne_nil nonempty
  rw [opens, List.length_append]
  omega

/-- Fewer containers may still be opened inside a call than around it. -/
theorem Nests.card_unopened_lt {outer inner : Call} (nests : outer.Nests graph inner) :
    (graph.unopened inner.opened).card < (graph.unopened outer.opened).card := by
  cases nests with
  | part _ isNode fresh _ opens _ =>
      rw [opens]
      exact Graph.card_unopened_lt isNode fresh List.mem_cons_self (List.subset_cons_self _ _)
  | elementPart _ isNode fresh _ _ _ _ _ _ opens _ =>
      rw [opens]
      apply Graph.card_unopened_lt isNode fresh (List.mem_cons_of_mem _ List.mem_cons_self)
      exact List.subset_cons_of_subset _ (List.subset_cons_self _ _)

/-- A call that is made inside another one opens containers that were not open before. -/
theorem Traced.nests {value : Value} {outer inner : Call} (traced : outer.Traced graph value)
    (nests : outer.Nests graph inner) : inner.Traced graph value := by
  cases nests with
  | @part address node _ isContainer isNode fresh held opens _ =>
      have toContainer := isContainer ▸ traced.descends
      refine ⟨?_, ?_⟩
      · rw [opens]
        exact .into toContainer ⟨node, isNode, held⟩
      · rw [opens]
        exact List.nodup_cons.mpr ⟨fresh, traced.nodup⟩
  | @elementPart address objectAddress node objectNode _ isContainer isNode fresh isArray element
      isObjectNode isObject objectFresh held opens _ =>
      have toContainer := isContainer ▸ traced.descends
      have toObject := Graph.Descends.into toContainer ⟨node, isNode, element⟩
      have different : objectAddress ≠ address := by
        rintro rfl
        rw [Option.some.inj (isObjectNode.symm.trans isNode), isArray] at isObject
        cases isObject
      refine ⟨?_, ?_⟩
      · rw [opens]
        exact .into toObject ⟨objectNode, isObjectNode, held⟩
      · rw [opens]
        exact List.nodup_cons.mpr
          ⟨by simp [different, objectFresh], List.nodup_cons.mpr ⟨fresh, traced.nodup⟩⟩

theorem MadeFor.traced {value : Value} {depth : Int} {call : Call}
    (made : call.MadeFor graph settings value depth) : call.Traced graph value := by
  induction made with
  | refl => exact traced_first value depth
  | tail _ needed induction => exact induction.nests needed.nests

end Call

namespace Inference

variable {graph : Graph} {settings : Settings}

/-- The typer that opens as many containers as the budget says and leaves what is inside all of them to
another typer. -/
def typerOn (graph : Graph) (settings : Settings) (base : Typer) : Nat → Typer
  | 0 => base
  | budget + 1 => step graph settings (typerOn graph settings base budget)

theorem typer_eq_typerOn (budget : Nat) :
    typer graph settings budget = typerOn graph settings .exhausted budget := by
  induction budget with
  | zero => rfl
  | succ budget induction => rw [typer_succ, induction, typerOn]

theorem typerOn_add (base : Typer) (extra budget : Nat) :
    typerOn graph settings base (extra + budget) =
      typerOn graph settings (typerOn graph settings base extra) budget := by
  induction budget with
  | zero => rfl
  | succ budget induction => rw [← Nat.add_assoc, typerOn, typerOn, induction]

/-- A budget that exceeds the number of containers that can still be opened is not spent. -/
theorem typerOn_answer_eq {value : Value} (left right : Typer) (budget : Nat) {call : Call}
    (traced : call.Traced graph value)
    (enough : (graph.containersIn value).ncard < budget + call.opened.length) :
    (typerOn graph settings left budget).answer call =
      (typerOn graph settings right budget).answer call := by
  induction budget generalizing call with
  | zero =>
      have bounded := traced.descends.length_le traced.nodup
      omega
  | succ budget induction =>
      apply step_answer_congr
      intro inner nests
      have longer := nests.length_lt
      exact induction (traced.nests nests) (by omega)

/-- A budget that exceeds the number of containers that are not open is not spent, whatever is open. -/
theorem typerOn_answer_eq_of_unopened (left right : Typer) (budget : Nat) {call : Call}
    (enough : (graph.unopened call.opened).card < budget) :
    (typerOn graph settings left budget).answer call =
      (typerOn graph settings right budget).answer call := by
  induction budget generalizing call with
  | zero => exact absurd enough (Nat.not_lt_zero _)
  | succ budget induction =>
      apply step_answer_congr
      intro inner nests
      have fewer := nests.card_unopened_lt
      exact induction (by omega)

/-- All budgets that exceed the number of containers in a value give it the same type. -/
theorem typerOn_infer_eq {value : Value} (left right : Typer) {leftBudget rightBudget : Nat}
    (depth : Int) (leftEnough : (graph.containersIn value).ncard < leftBudget)
    (rightEnough : (graph.containersIn value).ncard < rightBudget) :
    (typerOn graph settings left leftBudget).infer [] depth value =
      (typerOn graph settings right rightBudget).infer [] depth value := by
  obtain ⟨leftExtra, rfl⟩ := Nat.exists_eq_add_of_le' leftEnough
  obtain ⟨rightExtra, rfl⟩ := Nat.exists_eq_add_of_le' rightEnough
  rw [typerOn_add, typerOn_add]
  exact typerOn_answer_eq _ _ _ (Call.traced_first value depth)
    (by simp [Call.first])

end Inference

namespace Graph

variable {graph : Graph}

theorem ncard_containersIn_le (graph : Graph) (value : Value) :
    (graph.containersIn value).ncard ≤ graph.nodes.size := by
  have bounded : graph.containersIn value ⊆ ↑(Finset.range graph.nodes.size) := by
    rintro address ⟨_, isNode⟩
    obtain ⟨node, isNode⟩ := Option.isSome_iff_exists.mp isNode
    simpa using address_lt_size isNode
  have le := Set.ncard_le_ncard bounded (Finset.finite_toSet _)
  rwa [Set.ncard_coe_finset, Finset.card_range] at le

/-- The type of a value does not depend on what stands behind the end of a budget that exceeds the number of
containers in the value. -/
theorem typerOn_infer_eq_infer (settings : Settings) (value : Value) (depth : Int) (base : Typer)
    {budget : Nat} (enough : (graph.containersIn value).ncard < budget) :
    (Inference.typerOn graph settings base budget).infer [] depth value =
      graph.infer settings value depth := by
  have bounded := ncard_containersIn_le graph value
  rw [infer, typer, Inference.typer_eq_typerOn]
  exact Inference.typerOn_infer_eq _ _ depth enough (by omega)

end Graph

end SampleTypes
