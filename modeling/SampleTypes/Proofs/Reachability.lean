import Mathlib.Logic.Relation
import SampleTypes.Proofs.Outcomes
import SampleTypes.Sample.Contents

/-!
# Values inside values

Which values a container holds, however its contents are put in order or grouped, and which values are
reached from a value through the contents of containers.  The keys of an object are not part of its contents.
Listing the contents can fail, because the order of a set and the keys of a mapping need literals.
-/

namespace SampleTypes

/-- A value is filed under a key. -/
def Filed {α : Type} (groups : List (String × List α)) (key : String) (value : α) : Prop :=
  ∃ group ∈ groups, group.1 = key ∧ value ∈ group.2

theorem filed_cons_iff {α : Type} {group : String × List α} {groups : List (String × List α)}
    {key : String} {value : α} :
    Filed (group :: groups) key value ↔
      (group.1 = key ∧ value ∈ group.2) ∨ Filed groups key value := by
  simp [Filed]

theorem filed_of_lookup {α : Type} {groups : List (String × List α)} {key : String} {values : List α}
    {value : α} (found : groups.lookup key = some values) (member : value ∈ values) :
    Filed groups key value := by
  obtain ⟨before, after, equal, -⟩ := List.lookup_eq_some_iff.mp found
  exact ⟨(key, values), by simp [equal], rfl, member⟩

theorem filed_addUnder_iff {α : Type} {newKey key : String} {newValue value : α}
    {groups : List (String × List α)} :
    Filed (addUnder newKey newValue groups) key value ↔
      (newKey = key ∧ value = newValue) ∨ Filed groups key value := by
  induction groups with
  | nil => simp [addUnder, Filed]
  | cons group groups induction =>
      by_cases sameKey : group.1 = newKey
      · simp only [addUnder, if_pos sameKey, filed_cons_iff, List.mem_append, List.mem_singleton]
        rw [sameKey]
        tauto
      · simp only [addUnder, if_neg sameKey, filed_cons_iff, induction]
        tauto

private theorem filed_foldl_addUnder_iff {α : Type} {key : String} {value : α}
    (entries : List (String × α)) (groups : List (String × List α)) :
    Filed (entries.foldl (fun groups entry => addUnder entry.1 entry.2 groups) groups) key value ↔
      (key, value) ∈ entries ∨ Filed groups key value := by
  induction entries generalizing groups with
  | nil => simp
  | cons entry entries induction =>
      rw [List.foldl_cons, induction, filed_addUnder_iff, List.mem_cons, Prod.ext_iff]
      constructor
      · rintro (later | ⟨rfl, rfl⟩ | earlier)
        · exact .inl (.inr later)
        · exact .inl (.inl ⟨rfl, rfl⟩)
        · exact .inr earlier
      · rintro ((⟨keyEqual, valueEqual⟩ | later) | earlier)
        · exact .inr (.inl ⟨keyEqual.symm, valueEqual⟩)
        · exact .inl later
        · exact .inr (.inr earlier)

/-- Grouping files each value under its key and adds nothing. -/
theorem filed_groupByKey_iff {α : Type} {entries : List (String × α)} {key : String} {value : α} :
    Filed (groupByKey entries) key value ↔ (key, value) ∈ entries := by
  rw [groupByKey, filed_foldl_addUnder_iff]
  simp [Filed]

theorem insertByKey_perm {α : Type} (item : (String × String) × α)
    (items : List ((String × String) × α)) : (insertByKey item items).Perm (item :: items) := by
  induction items with
  | nil => exact .refl _
  | cons first rest induction =>
      unfold insertByKey
      split
      · exact (induction.cons first).trans (.swap item first rest)
      · exact .refl _

theorem sortByKey_perm {α : Type} (items : List ((String × String) × α)) :
    (sortByKey items).Perm (items.map (·.2)) := by
  have sorted : (items.foldr insertByKey []).Perm items := by
    induction items with
    | nil => exact .refl _
    | cons item items induction =>
        exact (insertByKey_perm item _).trans (induction.cons item)
  exact sorted.map _

namespace Node

/-- The values in a container: those of its entries, with the marker of absence for a field that was never
assigned, or its elements. -/
def held : Node → List Value
  | .mapping _ entries => entries.map (·.2)
  | .record _ fields =>
      (lastByKey (fields.map fun field => (field.1, [field.2.getD (.leaf .undefined)]))).flatMap (·.2)
  | .sequence _ elements => elements
  | .range progression => (Node.range progression).members
  | .view content => (Node.view content).members
  | .set _ elements => elements

theorem held_of_array {node : Node} (isArray : node.isObject = false) : node.held = node.members := by
  cases node with
  | mapping _ _ => cases isArray
  | record _ _ => cases isArray
  | sequence _ _ => rfl
  | range _ => rfl
  | view _ => rfl
  | set _ _ => rfl

theorem mem_held_of_perm (node : Node) {elements : List Value} {element : Value}
    (isArray : node.isObject = false) (members : elements.Perm node.members) (member : element ∈ elements) :
    element ∈ node.held := by
  rw [held_of_array isArray]
  exact members.mem_iff.mp member

end Node

namespace Graph

variable {graph : Graph}

theorem sortedOn_perm {α : Type} {value : α → Value} {items sorted : List α}
    (success : graph.sortedOn value items = .ok sorted) : sorted.Perm items := by
  obtain ⟨keyed, keyedSuccess, equal⟩ := Outcome.bind_eq_ok_iff.mp success
  cases equal
  have unkeyed : keyed.map (·.2) = items := by
    clear success
    replace keyedSuccess := Outcome.mapM_eq_ok_iff.mp keyedSuccess
    induction keyedSuccess with
    | nil => rfl
    | cons keying _ induction =>
        obtain ⟨key, _, equal⟩ := Outcome.bind_eq_ok_iff.mp keying
        cases equal
        exact congrArg (_ :: ·) induction
  exact unkeyed ▸ sortByKey_perm keyed

/-- The elements of an array are what it holds. -/
theorem elements_perm_members {node : Node} {elements : List Value}
    (success : graph.elements node = .ok elements) : elements.Perm node.members := by
  cases node with
  | set kind members => exact sortedOn_perm success
  | mapping _ _ => cases success; exact .refl _
  | record _ _ => cases success; exact .refl _
  | sequence _ _ => cases success; exact .refl _
  | range _ => cases success; exact .refl _
  | view _ => cases success; exact .refl _

/-- The entries of an object hold what it holds. -/
theorem mem_held_iff_of_entries {node : Node} {entries : List (String × List Value)}
    (success : graph.entriesOfNode node = .ok entries) {value : Value} :
    value ∈ node.held ↔ ∃ key, Filed entries key value := by
  cases node with
  | mapping kind pairs =>
      obtain ⟨keyed, keyedSuccess, equal⟩ := Outcome.bind_eq_ok_iff.mp success
      cases equal
      simp only [filed_groupByKey_iff, Node.held, List.mem_map]
      replace keyedSuccess := Outcome.mapM_eq_ok_iff.mp keyedSuccess
      constructor
      · rintro ⟨pair, member, rfl⟩
        obtain ⟨keyedPair, keyedMember, keying⟩ := keyedSuccess.exists_right member
        obtain ⟨key, _, equal⟩ := Outcome.bind_eq_ok_iff.mp keying
        cases equal
        exact ⟨key, keyedMember⟩
      · rintro ⟨key, keyedMember⟩
        obtain ⟨pair, member, keying⟩ := keyedSuccess.exists_left keyedMember
        obtain ⟨key, _, equal⟩ := Outcome.bind_eq_ok_iff.mp keying
        cases equal
        exact ⟨pair, member, rfl⟩
  | record name fields =>
      cases success
      simp [Node.held, Filed]
  | sequence _ _ => cases success
  | range _ => cases success
  | view _ => cases success
  | set _ _ => cases success

/-- What is in a container, in the order in which it is typed. -/
def contents (graph : Graph) (node : Node) : Except Fault (List Value) :=
  if node.isObject then return (← graph.entriesOfNode node).flatMap (·.2) else graph.elements node

theorem contents_of_array {node : Node} (isArray : node.isObject = false) :
    graph.contents node = graph.elements node := by
  simp [contents, isArray]

theorem contents_eq_error_of_entries {node : Node} {fault : Fault} (isObject : node.isObject = true)
    (failed : graph.entriesOfNode node = .error fault) : graph.contents node = .error fault := by
  simp only [contents, if_pos isObject, failed]
  rfl

/-- One value is directly inside another one. -/
def Holds (graph : Graph) (whole part : Value) : Prop :=
  ∃ node, graph.nodeOf? whole = some node ∧ part ∈ node.held

/-- One value is another one or somewhere inside it. -/
def Reaches (graph : Graph) : Value → Value → Prop :=
  Relation.ReflTransGen graph.Holds

/-- The contents of some container in a value cannot be listed, for the given reason. -/
def FailsBelow (graph : Graph) (value : Value) (fault : Fault) : Prop :=
  ∃ whole node, graph.Reaches value whole ∧ graph.nodeOf? whole = some node ∧
    graph.contents node = .error fault

theorem FailsBelow.of_reaches {whole part : Value} {fault : Fault} (reached : graph.Reaches whole part)
    (failed : graph.FailsBelow part fault) : graph.FailsBelow whole fault := by
  obtain ⟨container, node, below, isNode, contentsFailed⟩ := failed
  exact ⟨container, node, reached.trans below, isNode, contentsFailed⟩

theorem nodeOf?_container {address : Address} {node : Node} (isNode : graph.node? address = some node) :
    graph.nodeOf? (.container address) = some node :=
  isNode

theorem address_lt_size {address : Address} {node : Node} (isNode : graph.node? address = some node) :
    address < graph.nodes.size := by
  obtain ⟨inBounds, _⟩ := Array.getElem?_eq_some_iff.mp isNode
  exact inBounds

end Graph

end SampleTypes
