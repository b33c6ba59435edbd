import Mathlib.Data.List.Induction
import SampleTypes.Proofs.Calls

/-!
# Entries of objects

The entries of an object have distinct keys, and under each of them there is a value.  So looking up a key
finds all values that are filed under it.
-/

namespace SampleTypes

/-- Values are filed under distinct keys, and under each key there is one. -/
structure Grouped {α : Type} (groups : List (String × List α)) : Prop where
  nodup : (groups.map (·.1)).Nodup
  nonempty : ∀ group ∈ groups, group.2 ≠ []

theorem grouped_nil {α : Type} : Grouped ([] : List (String × List α)) := by
  constructor
  · exact List.nodup_nil
  · intro group member
    cases member

theorem mem_keys_addUnder {α : Type} {key other : String} {value : α} {groups : List (String × List α)}
    (member : other ∈ (addUnder key value groups).map (·.1)) :
    other = key ∨ other ∈ groups.map (·.1) := by
  induction groups with
  | nil =>
      left
      simpa [addUnder] using member
  | cons group groups induction =>
      by_cases same : group.1 = key
      · simp only [addUnder, if_pos same, List.map_cons, List.mem_cons] at member ⊢
        rcases member with rfl | later
        · exact .inl rfl
        · exact .inr (.inr later)
      · simp only [addUnder, if_neg same, List.map_cons, List.mem_cons] at member ⊢
        rcases member with first | later
        · exact .inr (.inl first)
        · exact (induction later).imp_right .inr

theorem Grouped.addUnder {α : Type} {groups : List (String × List α)} (grouped : Grouped groups)
    (key : String) (value : α) : Grouped (addUnder key value groups) := by
  induction groups with
  | nil =>
      constructor
      · simp [SampleTypes.addUnder]
      · intro group member
        rw [List.mem_singleton.mp member]
        simp
  | cons group groups induction =>
      obtain ⟨fresh, nodup⟩ := List.nodup_cons.mp grouped.nodup
      have others := induction
        ⟨nodup, fun other member => grouped.nonempty other (List.mem_cons_of_mem _ member)⟩
      by_cases same : group.1 = key
      · simp only [SampleTypes.addUnder, if_pos same]
        constructor
        · rw [List.map_cons, ← same]
          exact List.nodup_cons.mpr ⟨fresh, nodup⟩
        · intro other member
          rcases List.mem_cons.mp member with rfl | later
          · simp
          · exact grouped.nonempty other (List.mem_cons_of_mem _ later)
      · simp only [SampleTypes.addUnder, if_neg same]
        constructor
        · rw [List.map_cons]
          refine List.nodup_cons.mpr ⟨?_, others.nodup⟩
          intro member
          rcases mem_keys_addUnder member with equal | later
          · exact same equal
          · exact fresh later
        · intro other member
          rcases List.mem_cons.mp member with rfl | later
          · exact grouped.nonempty other List.mem_cons_self
          · exact others.nonempty other later

theorem grouped_groupByKey {α : Type} (entries : List (String × α)) : Grouped (groupByKey entries) := by
  have folded : ∀ groups : List (String × List α), Grouped groups →
      Grouped (entries.foldl (fun groups entry => addUnder entry.1 entry.2 groups) groups) := by
    induction entries with
    | nil =>
        intro groups grouped
        exact grouped
    | cons entry entries induction =>
        intro groups grouped
        exact induction _ (grouped.addUnder entry.1 entry.2)
  exact folded [] grouped_nil

theorem mem_assignUnder {α : Type} {key : String} {value : α} {filed : List (String × α)}
    {entry : String × α} (member : entry ∈ assignUnder key value filed) :
    entry = (key, value) ∨ entry ∈ filed := by
  induction filed with
  | nil => exact .inl (List.mem_singleton.mp member)
  | cons first others induction =>
      by_cases same : first.1 = key
      · simp only [assignUnder, if_pos same, List.mem_cons] at member
        exact member.imp_right (List.mem_cons_of_mem _)
      · simp only [assignUnder, if_neg same, List.mem_cons] at member
        rcases member with rfl | later
        · exact .inr List.mem_cons_self
        · exact (induction later).imp_right (List.mem_cons_of_mem _)

theorem Grouped.assignUnder {α : Type} {groups : List (String × List α)} (grouped : Grouped groups)
    (key : String) {values : List α} (nonempty : values ≠ []) :
    Grouped (assignUnder key values groups) := by
  constructor
  · induction groups with
    | nil => simp [SampleTypes.assignUnder]
    | cons group groups induction =>
        obtain ⟨fresh, nodup⟩ := List.nodup_cons.mp grouped.nodup
        have others := induction
          ⟨nodup, fun other member => grouped.nonempty other (List.mem_cons_of_mem _ member)⟩
        by_cases same : group.1 = key
        · simp only [SampleTypes.assignUnder, if_pos same, List.map_cons]
          rw [← same]
          exact List.nodup_cons.mpr ⟨fresh, nodup⟩
        · simp only [SampleTypes.assignUnder, if_neg same, List.map_cons]
          refine List.nodup_cons.mpr ⟨?_, others⟩
          intro member
          obtain ⟨entry, entryMember, equal⟩ := List.mem_map.mp member
          rcases mem_assignUnder entryMember with rfl | later
          · exact same equal.symm
          · exact fresh (List.mem_map.mpr ⟨entry, later, equal⟩)
  · intro group member
    rcases mem_assignUnder member with rfl | earlier
    · exact nonempty
    · exact grouped.nonempty group earlier

theorem grouped_lastByKey {α : Type} {entries : List (String × List α)}
    (nonempty : ∀ entry ∈ entries, entry.2 ≠ []) : Grouped (lastByKey entries) := by
  have folded : ∀ groups : List (String × List α), Grouped groups →
      Grouped (entries.foldl (fun filed entry => assignUnder entry.1 entry.2 filed) groups) := by
    induction entries with
    | nil =>
        intro groups grouped
        exact grouped
    | cons entry entries induction =>
        intro groups grouped
        exact induction (fun other member => nonempty other (List.mem_cons_of_mem _ member)) _
          (grouped.assignUnder entry.1 (nonempty entry List.mem_cons_self))
  exact folded [] grouped_nil

namespace Graph

variable {graph : Graph}

theorem grouped_of_entriesOfNode {node : Node} {entries : List (String × List Value)}
    (success : graph.entriesOfNode node = .ok entries) : Grouped entries := by
  cases node with
  | mapping kind pairs =>
      obtain ⟨keyed, -, equal⟩ := Outcome.bind_eq_ok_iff.mp success
      cases equal
      exact grouped_groupByKey keyed
  | record name fields =>
      cases success
      apply grouped_lastByKey
      intro entry member
      obtain ⟨field, -, rfl⟩ := List.mem_map.mp member
      simp
  | sequence _ _ => cases success
  | range _ => cases success
  | view _ => cases success
  | set _ _ => cases success

theorem grouped_of_entries {value : Value} {entries : List (String × List Value)}
    (success : graph.entries value = .ok entries) : Grouped entries := by
  unfold Graph.entries at success
  split at success
  · cases success
    apply grouped_lastByKey
    intro entry member
    obtain ⟨field, -, rfl⟩ := List.mem_map.mp member
    simp
  · split at success
    · exact grouped_of_entriesOfNode success
    · cases success

end Graph

theorem Grouped.exists_filed {α : Type} {groups : List (String × List α)} (grouped : Grouped groups)
    {key : String} (member : key ∈ groups.map (·.1)) : ∃ value, Filed groups key value := by
  obtain ⟨group, groupMember, rfl⟩ := List.mem_map.mp member
  obtain ⟨value, others, values⟩ := List.exists_cons_of_ne_nil (grouped.nonempty group groupMember)
  exact ⟨value, group, groupMember, rfl, by simp [values]⟩

theorem Filed.mem_keys {α : Type} {groups : List (String × List α)} {key : String} {value : α}
    (filed : Filed groups key value) : key ∈ groups.map (·.1) := by
  obtain ⟨group, member, rfl, -⟩ := filed
  exact List.mem_map_of_mem member

theorem lookup_cons_of_ne {α : Type} {key : String} {entry : String × α} (differ : key ≠ entry.1)
    (entries : List (String × α)) : List.lookup key (entry :: entries) = entries.lookup key := by
  rw [List.lookup_cons, beq_eq_false_iff_ne.mpr differ]

theorem lookup_map {α β : Type} (image : α → β) (entries : List (String × α)) (key : String) :
    (entries.map fun entry => (entry.1, image entry.2)).lookup key =
      (entries.lookup key).map image := by
  induction entries with
  | nil => rfl
  | cons entry entries induction =>
      rw [List.map_cons, List.lookup_cons, List.lookup_cons, induction]
      cases key == entry.1 <;> rfl

theorem lookup_assignUnder_self {α : Type} (key : String) (value : α) (filed : List (String × α)) :
    (assignUnder key value filed).lookup key = some value := by
  induction filed with
  | nil => exact List.lookup_cons_self
  | cons entry entries induction =>
      by_cases same : entry.1 = key
      · rw [assignUnder, if_pos same]
        exact List.lookup_cons_self
      · rw [assignUnder, if_neg same, lookup_cons_of_ne (Ne.symm same), induction]

theorem lookup_assignUnder_of_ne {α : Type} {key other : String} (differ : other ≠ key) (value : α)
    (filed : List (String × α)) : (assignUnder key value filed).lookup other = filed.lookup other := by
  induction filed with
  | nil => exact lookup_cons_of_ne differ []
  | cons entry entries induction =>
      by_cases same : entry.1 = key
      · have differFromEntry : other ≠ entry.1 := fun equal => differ (equal.trans same)
        rw [assignUnder, if_pos same, lookup_cons_of_ne differ, lookup_cons_of_ne differFromEntry]
      · rw [assignUnder, if_neg same, List.lookup_cons, List.lookup_cons, induction]

/-- Under each key stands what was filed last. -/
theorem lookup_lastByKey {α : Type} (entries : List (String × α)) (key : String) :
    (lastByKey entries).lookup key = entries.reverse.lookup key := by
  induction entries using List.reverseRecOn with
  | nil => rfl
  | append_singleton entries entry induction =>
      rw [lastByKey, List.foldl_concat, ← lastByKey, List.reverse_concat]
      by_cases same : key = entry.1
      · rw [same, lookup_assignUnder_self]
        exact List.lookup_cons_self.symm
      · rw [lookup_assignUnder_of_ne same, induction]
        exact (lookup_cons_of_ne same entries.reverse).symm

theorem Grouped.lookup_eq_of_mem {α : Type} {groups : List (String × List α)} (grouped : Grouped groups)
    {key : String} {values : List α} (member : (key, values) ∈ groups) :
    groups.lookup key = some values := by
  obtain ⟨before, after, equal⟩ := List.append_of_mem member
  refine List.lookup_eq_some_iff.mpr ⟨before, after, equal, ?_⟩
  intro entry earlier
  have nodup := grouped.nodup
  rw [equal, List.map_append, List.nodup_append] at nodup
  have different := nodup.2.2 entry.1 (List.mem_map_of_mem earlier) key (by simp)
  simpa using different.symm

/-- There is one entry for a key. -/
theorem Grouped.eq_of_key_eq {α : Type} {groups : List (String × List α)} (grouped : Grouped groups)
    {left right : String × List α} (leftMember : left ∈ groups) (rightMember : right ∈ groups)
    (sameKey : left.1 = right.1) : left = right := by
  have leftFound := grouped.lookup_eq_of_mem (show (left.1, left.2) ∈ groups from leftMember)
  have rightFound := grouped.lookup_eq_of_mem (show (right.1, right.2) ∈ groups from rightMember)
  rw [sameKey] at leftFound
  exact Prod.ext sameKey (Option.some.inj (leftFound.symm.trans rightFound))

/-- Looking up a key finds all values that are filed under it. -/
theorem Grouped.filed_iff_lookup {α : Type} {groups : List (String × List α)} (grouped : Grouped groups)
    {key : String} {value : α} :
    Filed groups key value ↔ ∃ values, groups.lookup key = some values ∧ value ∈ values := by
  constructor
  · rintro ⟨⟨_, values⟩, member, rfl, valueMember⟩
    exact ⟨values, grouped.lookup_eq_of_mem member, valueMember⟩
  · rintro ⟨values, found, member⟩
    exact filed_of_lookup found member

namespace Graph

/-- A container has an entry: a value under the text of its key, or under the reason why the key has no text.
Of several fields with one name the last counts, and a field that was never assigned holds the marker of
absence. -/
def HasEntry (graph : Graph) (node : Node) (key : Except Fault String) (part : Value) : Prop :=
  match node with
  | .mapping _ entries => ∃ entry ∈ entries, graph.keyText entry.1 = key ∧ entry.2 = part
  | .record _ fields =>
      ∃ name assigned, key = .ok name ∧ fields.reverse.lookup name = some assigned ∧
        part = assigned.getD (.leaf .undefined)
  | .sequence _ _ | .range _ | .view _ | .set _ _ => False

/-- The listed entries are the entries, grouped by their keys. -/
theorem hasEntry_iff_filed {graph : Graph} {node : Node} {entries : List (String × List Value)}
    (success : graph.entriesOfNode node = .ok entries) {key : Except Fault String} {part : Value} :
    graph.HasEntry node key part ↔ ∃ text, key = .ok text ∧ Filed entries text part := by
  have grouped := grouped_of_entriesOfNode success
  cases node with
  | mapping kind pairs =>
      obtain ⟨keyed, keyedSuccess, equal⟩ := Outcome.bind_eq_ok_iff.mp success
      cases equal
      replace keyedSuccess := Outcome.mapM_eq_ok_iff.mp keyedSuccess
      constructor
      · rintro ⟨pair, member, rfl, rfl⟩
        obtain ⟨keyedPair, keyedMember, keying⟩ := keyedSuccess.exists_right member
        obtain ⟨text, written, equal⟩ := Outcome.bind_eq_ok_iff.mp keying
        cases equal
        exact ⟨text, written, filed_groupByKey_iff.mpr keyedMember⟩
      · rintro ⟨text, rfl, filed⟩
        obtain ⟨pair, member, keying⟩ := keyedSuccess.exists_left (filed_groupByKey_iff.mp filed)
        obtain ⟨written, writing, equal⟩ := Outcome.bind_eq_ok_iff.mp keying
        cases equal
        exact ⟨pair, member, writing, rfl⟩
  | record name fields =>
      cases success
      have found (text : String) :
          (lastByKey (fields.map fun field => (field.1, [field.2.getD (.leaf .undefined)]))).lookup text =
            (fields.reverse.lookup text).map fun assigned => [assigned.getD (.leaf .undefined)] := by
        rw [lookup_lastByKey, ← List.map_reverse]
        exact lookup_map (fun assigned => [assigned.getD (.leaf .undefined)]) fields.reverse text
      simp only [grouped.filed_iff_lookup, found, Option.map_eq_some_iff]
      constructor
      · rintro ⟨text, assigned, rfl, isLast, rfl⟩
        exact ⟨text, rfl, _, ⟨assigned, isLast, rfl⟩, List.mem_singleton_self _⟩
      · rintro ⟨text, rfl, _, ⟨assigned, isLast, rfl⟩, member⟩
        exact ⟨text, assigned, rfl, isLast, List.mem_singleton.mp member⟩
  | sequence _ _ => cases success
  | range _ => cases success
  | view _ => cases success
  | set _ _ => cases success

end Graph

namespace Merge.Described

variable {described : Described} {key : String}

theorem valuesUnder_eq_of_mem (grouped : Grouped described.entries) {values : List Value}
    (member : (key, values) ∈ described.entries) : described.valuesUnder key = values := by
  rw [valuesUnder, grouped.lookup_eq_of_mem member]
  rfl

theorem mem_valuesUnder_iff (grouped : Grouped described.entries) {value : Value} :
    value ∈ described.valuesUnder key ↔ Filed described.entries key value := by
  constructor
  · exact filed_of_mem_valuesUnder
  · rintro ⟨⟨_, values⟩, member, rfl, valueMember⟩
    rw [valuesUnder_eq_of_mem grouped member]
    exact valueMember

theorem hasKey_iff : described.hasKey key = true ↔ key ∈ described.entries.map (·.1) := by
  unfold hasKey
  rw [List.lookup_isSome_iff]
  constructor
  · rintro ⟨entry, member, same⟩
    exact List.mem_map.mpr ⟨entry, member, (eq_of_beq same).symm⟩
  · intro member
    obtain ⟨entry, entryMember, rfl⟩ := List.mem_map.mp member
    exact ⟨entry, entryMember, beq_self_eq_true _⟩

end Merge.Described

end SampleTypes
