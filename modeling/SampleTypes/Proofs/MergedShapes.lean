import SampleTypes.Proofs.Interchange
import SampleTypes.Proofs.WellMade

/-!
# Merged shapes

A merged shape is described by the values that its objects have under the texts of their keys: it has each key once,
in ascending order; a key is optional if some object has no value under it; and its type has the texts of the types
that all the values under it contribute.  Nothing of this depends on the order of the objects or on how often one of
them is listed.
-/

namespace SampleTypes

namespace TypeExpr

/-- A type has the given variants: it is the only one of them, or the union of them on one line. -/
def Unites (type : TypeExpr) (variants : List TypeExpr) : Prop :=
  variants = [type] ∨ (2 ≤ variants.length ∧ type = .union variants 0 false)

theorem unites_unionOf {variants : List TypeExpr} (nonempty : variants ≠ []) : (unionOf variants).Unites variants := by
  obtain ⟨only, rfl, same⟩ | ⟨several, same⟩ := unionOf_cases variants 0 false
  · exact .inl (congrArg ([·]) same.symm)
  · have positive := List.length_pos_iff.mpr nonempty
    exact .inr ⟨by omega, same⟩

theorem mem_texts_sortedByText_iff {settings : Settings} {types : List TypeExpr} {text : String} :
    text ∈ (sortedByText settings types).map (·.render settings) ↔ ∃ type ∈ types, type.render settings = text := by
  have represents := represents_sortedByText settings types
  rw [List.mem_map]
  constructor
  · rintro ⟨variant, member, written⟩
    exact ⟨variant, represents.mem_of_mem variant member, written⟩
  · rintro ⟨type, member, rfl⟩
    exact represents.exists_mem type member

end TypeExpr

/-- The types that a typer gives to some values are those that it gives to one of them. -/
theorem Typer.mem_answers_iff {typer : Typer} {α : Type} (call : α → Call) {items : List α} {types : List TypeExpr}
    (answers : List.Forall₂ (fun item type => typer.Answers (call item) type) items types) (type : TypeExpr) :
    type ∈ types ↔ ∃ item ∈ items, typer.Answers (call item) type := by
  constructor
  · exact answers.exists_left
  · rintro ⟨item, member, answer⟩
    obtain ⟨other, otherMember, otherAnswer⟩ := answers.exists_right member
    cases answer.symm.trans otherAnswer
    exact otherMember

namespace Graph

variable {graph : Graph} {settings : Settings} {opened : List Address} {depth : Int}

/-- An object has a value under a key, or under the reason why the key has no text. -/
def HasValue (graph : Graph) (object : Value) (key : Except Fault String) (part : Value) : Prop :=
  ∃ node, graph.nodeOf? object = some node ∧ graph.HasEntry node key part

/-- A value of an object contributes a type to a shape that is merged at a depth. -/
def Contributes (graph : Graph) (settings : Settings) (opened : List Address) (depth : Int) (object part : Value)
    (type : TypeExpr) : Prop :=
  (graph.typer settings).Answers ⟨true, object.open opened, depth + 1, part⟩ type

/-- The properties of a merged shape, told by what the objects have under each key. -/
structure MergesTo (graph : Graph) (settings : Settings) (opened : List Address) (depth : Int) (objects : List Value)
    (properties : List (Property TypeExpr)) : Prop where
  ascending : (properties.map (·.key)).Pairwise (· < ·)
  mem_keys {key : String} :
    key ∈ properties.map (·.key) ↔ ∃ object ∈ objects, ∃ part, graph.HasValue object (.ok key) part
  optional {property : Property TypeExpr} (member : property ∈ properties) :
    property.optional = true ↔ ∃ object ∈ objects, ∀ part, ¬graph.HasValue object (.ok property.key) part
  variants {property : Property TypeExpr} (member : property ∈ properties) :
    ∃ variants, property.value.Unites variants ∧
      (variants.map (·.render settings)).Pairwise (· < ·) ∧
      ∀ text, text ∈ variants.map (·.render settings) ↔
        ∃ object ∈ objects, ∃ part type, graph.HasValue object (.ok property.key) part ∧
          graph.Contributes settings opened depth object part type ∧ type.render settings = text

/-- Every key of some objects has a text, and every value of theirs contributes a type. -/
def Merges (graph : Graph) (settings : Settings) (opened : List Address) (depth : Int) (objects : List Value) : Prop :=
  ∀ object ∈ objects, ∀ key part, graph.HasValue object key part →
    (∃ text, key = .ok text) ∧ ∃ type, graph.Contributes settings opened depth object part type

theorem hasValue_iff_filed {object : Value} {entries : List (String × List Value)}
    (isObject : graph.isObject object = true) (listing : graph.entries object = .ok entries)
    {key : Except Fault String} {part : Value} :
    graph.HasValue object key part ↔ ∃ text, key = .ok text ∧ Filed entries text part := by
  obtain ⟨address, node, rfl, isNode, -⟩ := isObject_eq_true_iff.mp isObject
  rw [entries_container isNode] at listing
  rw [← hasEntry_iff_filed listing, HasValue, nodeOf?_container isNode]
  simp

theorem exists_hasValue_of_entries_eq_error {object : Value} {fault : Fault} (isObject : graph.isObject object = true)
    (failed : graph.entries object = .error fault) : ∃ part, graph.HasValue object (.error fault) part := by
  obtain ⟨address, node, rfl, isNode, nodeIsObject⟩ := isObject_eq_true_iff.mp isObject
  rw [entries_container isNode] at failed
  cases node with
  | mapping kind pairs =>
      rcases Outcome.bind_eq_error_iff.mp failed with keysFailed | ⟨keyed, -, impossible⟩
      · obtain ⟨pair, member, pairFailed⟩ := Outcome.mapM_eq_error keysFailed
        rcases Outcome.bind_eq_error_iff.mp pairFailed with keyFailed | ⟨text, -, impossible⟩
        · exact ⟨pair.2, _, nodeOf?_container isNode, pair, member, keyFailed, rfl⟩
        · cases impossible
      · cases impossible
  | record name fields => cases failed
  | _ => cases nodeIsObject

end Graph

namespace Merge

open SampleTypes.Graph (HasValue)

variable {graph : Graph} {settings : Settings} {opened : List Address} {depth : Int} {objects : List Value}
  {described : List Described}

section Described

variable (areObjects : ∀ object ∈ objects, graph.isObject object = true)
  (describing : describe graph objects = .ok described)
include areObjects describing

/-- What objects contribute under a key are the values that they have under it. -/
theorem mem_contributors_iff_hasValue {key : String} {object part : Value} :
    (object, part) ∈ contributors described key ↔ object ∈ objects ∧ graph.HasValue object (.ok key) part := by
  rw [mem_contributors_iff_filed describing]
  refine and_congr_right fun member => ?_
  constructor
  · rintro ⟨entries, listing, filed⟩
    exact (Graph.hasValue_iff_filed (areObjects object member) listing).mpr ⟨key, rfl, filed⟩
  · intro hasValue
    obtain ⟨description, -, -, listing⟩ := (forall₂_of_describe describing).exists_right member
    obtain ⟨text, ⟨⟩, filed⟩ := (Graph.hasValue_iff_filed (areObjects object member) listing).mp hasValue
    exact ⟨description.entries, listing, filed⟩

theorem hasKey_iff_hasValue {description : Described} (member : description ∈ described) {key : String} :
    description.hasKey key = true ↔ ∃ part, graph.HasValue description.object (.ok key) part := by
  obtain ⟨object, objectMember, rfl, listing⟩ := (forall₂_of_describe describing).exists_left member
  have hasValue_iff (part : Value) : graph.HasValue description.object (.ok key) part ↔ Filed description.entries key part := by
    rw [Graph.hasValue_iff_filed (areObjects _ objectMember) listing]
    simp
  simp only [hasValue_iff]
  rw [Described.hasKey_iff]
  constructor
  · exact (Graph.grouped_of_entries listing).exists_filed
  · rintro ⟨part, filed⟩
    exact filed.mem_keys

theorem mem_keys_iff_hasValue {key : String} :
    key ∈ keys described ↔ ∃ object ∈ objects, ∃ part, graph.HasValue object (.ok key) part := by
  have pairs := forall₂_of_describe describing
  rw [mem_keys_iff]
  constructor
  · rintro ⟨description, member, keyMember⟩
    obtain ⟨object, objectMember, rfl, -⟩ := pairs.exists_left member
    exact ⟨_, objectMember, (hasKey_iff_hasValue areObjects describing member).mp (Described.hasKey_iff.mpr keyMember)⟩
  · rintro ⟨object, objectMember, hasValue⟩
    obtain ⟨description, member, rfl, -⟩ := pairs.exists_right objectMember
    exact ⟨description, member, Described.hasKey_iff.mp ((hasKey_iff_hasValue areObjects describing member).mpr hasValue)⟩

theorem all_hasKey_iff (key : String) :
    described.all (·.hasKey key) = true ↔ ∀ object ∈ objects, ∃ part, graph.HasValue object (.ok key) part := by
  have pairs := forall₂_of_describe describing
  rw [List.all_eq_true]
  constructor
  · intro all object objectMember
    obtain ⟨description, member, rfl, -⟩ := pairs.exists_right objectMember
    exact (hasKey_iff_hasValue areObjects describing member).mp (all description member)
  · intro all description member
    obtain ⟨object, objectMember, rfl, -⟩ := pairs.exists_left member
    exact (hasKey_iff_hasValue areObjects describing member).mpr (all _ objectMember)

/-- What an object has under a key is contributed under the text of the key. -/
theorem exists_text_of_hasValue {object part : Value} {key : Except Fault String} (member : object ∈ objects)
    (hasValue : graph.HasValue object key part) :
    ∃ text, key = .ok text ∧ text ∈ keys described ∧ (object, part) ∈ contributors described text := by
  obtain ⟨description, -, -, listing⟩ := (forall₂_of_describe describing).exists_right member
  obtain ⟨text, rfl, -⟩ := (Graph.hasValue_iff_filed (areObjects object member) listing).mp hasValue
  exact ⟨text, rfl, (mem_keys_iff_hasValue areObjects describing).mpr ⟨object, member, part, hasValue⟩,
    (mem_contributors_iff_hasValue areObjects describing).mpr ⟨member, hasValue⟩⟩

theorem merges_of_built {properties : List (Property TypeExpr)}
    (built : List.Forall₂ (BuildsProperty settings (graph.typer settings).Answers opened depth described)
      (keys described) properties) : graph.Merges settings opened depth objects := by
  intro object member key part hasValue
  obtain ⟨text, rfl, known, contributor⟩ := exists_text_of_hasValue areObjects describing member hasValue
  obtain ⟨property, -, types, contributed, -⟩ := built.exists_right known
  obtain ⟨type, -, answer⟩ := contributed.exists_right contributor
  exact ⟨⟨text, rfl⟩, type, answer⟩

/-- The properties of a merged shape are as the objects have them. -/
theorem mergesTo_of_built {properties : List (Property TypeExpr)}
    (built : List.Forall₂ (BuildsProperty settings (graph.typer settings).Answers opened depth described)
      (keys described) properties) : graph.MergesTo settings opened depth objects properties := by
  have sameKeys := keys_of_built built
  constructor
  case ascending =>
    rw [sameKeys]
    exact TextIndex.pairwise_texts _
  case mem_keys =>
    intro key
    rw [sameKeys]
    exact mem_keys_iff_hasValue areObjects describing
  case optional =>
    intro property member
    obtain ⟨key, -, types, -, rfl⟩ := built.exists_left member
    have someLacks := not_congr (all_hasKey_iff areObjects describing key)
    simpa using someLacks
  case variants =>
    intro property member
    obtain ⟨key, known, types, contributed, rfl⟩ := built.exists_left member
    have answers := Typer.mem_answers_iff (fun contributor : Value × Value =>
      ⟨true, contributor.1.open opened, depth + 1, contributor.2⟩) contributed
    refine ⟨TypeExpr.sortedByText settings types, ?_, ?_, fun text => ?_⟩
    · have someTypes := ne_nil_of_forall₂ contributed (contributors_ne_nil describing known)
      exact TypeExpr.unites_unionOf ((TypeExpr.represents_sortedByText settings types).ne_nil someTypes)
    · rw [List.pairwise_map]
      exact TypeExpr.pairwise_sortedByText settings types
    · rw [TypeExpr.mem_texts_sortedByText_iff]
      constructor
      · rintro ⟨type, typeMember, written⟩
        obtain ⟨⟨object, part⟩, contributor, answer⟩ := (answers type).mp typeMember
        obtain ⟨objectMember, hasValue⟩ := (mem_contributors_iff_hasValue areObjects describing).mp contributor
        exact ⟨object, objectMember, part, type, hasValue, answer, written⟩
      · rintro ⟨object, objectMember, part, type, hasValue, answer, written⟩
        have contributor := (mem_contributors_iff_hasValue areObjects describing).mpr ⟨objectMember, hasValue⟩
        exact ⟨type, (answers type).mpr ⟨(object, part), contributor, answer⟩, written⟩

end Described

end Merge

namespace Graph

variable {graph : Graph} {settings : Settings} {opened : List Address} {depth : Int} {objects : List Value}

/-- Why some objects have no merged shape: a key has no text, or a value contributes no type. -/
inductive MergeFails (graph : Graph) (settings : Settings) (opened : List Address) (depth : Int) (objects : List Value)
    (fault : Fault) : Prop
  | noText {object part : Value} (member : object ∈ objects) (hasValue : graph.HasValue object (.error fault) part)
  | noType {object part : Value} {key : String} (member : object ∈ objects)
      (hasValue : graph.HasValue object (.ok key) part)
      (failed : (graph.typer settings).answer ⟨true, object.open opened, depth + 1, part⟩ = .error fault)
      (below : graph.FailsBelow part fault)

variable (areObjects : ∀ object ∈ objects, graph.isObject object = true)
include areObjects

theorem mergesTo_of_mergeShapes (someKey : ∃ object ∈ objects, ∃ key part, graph.HasValue object key part)
    {type : TypeExpr} (merged : graph.mergeShapes settings objects depth opened = .ok type) :
    ∃ properties, type = .object properties depth ∧ graph.MergesTo settings opened depth objects properties ∧
      graph.Merges settings opened depth objects := by
  obtain ⟨object, member, key, part, hasValue⟩ := someKey
  cases Merge.builds_of_shapes merged with
  | nothing => cases member
  | noKeys nonempty describing noKeys =>
      obtain ⟨text, -, known, -⟩ := Merge.exists_text_of_hasValue areObjects describing member hasValue
      rw [noKeys] at known
      cases known
  | @properties _ described properties nonempty describing someKeys built =>
      exact ⟨properties, rfl, Merge.mergesTo_of_built areObjects describing built,
        Merge.merges_of_built areObjects describing built⟩

theorem mergeFails_of_mergeShapes {fault : Fault} (failed : graph.mergeShapes settings objects depth opened = .error fault) :
    graph.MergeFails settings opened depth objects fault := by
  obtain ⟨object, member, listing⟩ | ⟨described, key, ⟨object, part⟩, describing, contributor, partFailed⟩ :=
    Merge.shapes_eq_error_cases failed
  · obtain ⟨part, hasValue⟩ := exists_hasValue_of_entries_eq_error (areObjects object member) listing
    exact .noText member hasValue
  · obtain ⟨member, hasValue⟩ := (Merge.mem_contributors_iff_hasValue areObjects describing).mp contributor
    have failed : (graph.typer settings).answer ⟨true, object.open opened, depth + 1, part⟩ = .error fault := partFailed
    exact .noType member hasValue failed (failsBelow_of_answer failed)

omit areObjects in
/-- Objects that have a merged shape fail nowhere. -/
theorem Merges.not_fails (merges : graph.Merges settings opened depth objects) {fault : Fault} :
    ¬graph.MergeFails settings opened depth objects fault := by
  intro fails
  cases fails with
  | noText member hasValue =>
      obtain ⟨⟨text, isText⟩, -⟩ := merges _ member _ _ hasValue
      cases isText
  | noType member hasValue failed below =>
      obtain ⟨-, type, answer⟩ := merges _ member _ _ hasValue
      cases answer.symm.trans failed

/-- Objects with some key among them have a merged shape, as exactly as it can be told, or one of their keys has no
text, or one of their values contributes no type. -/
theorem mergeShapes_exact (someKey : ∃ object ∈ objects, ∃ key part, graph.HasValue object key part) :
    (graph.Merges settings opened depth objects ∧
        ∃ properties, graph.mergeShapes settings objects depth opened = .ok (.object properties depth) ∧
          graph.MergesTo settings opened depth objects properties) ∨
      (¬graph.Merges settings opened depth objects ∧
        ∃ fault, graph.mergeShapes settings objects depth opened = .error fault ∧
          graph.MergeFails settings opened depth objects fault) := by
  cases merged : graph.mergeShapes settings objects depth opened with
  | ok type =>
      obtain ⟨properties, rfl, mergesTo, merges⟩ := mergesTo_of_mergeShapes areObjects someKey merged
      exact .inl ⟨merges, properties, rfl, mergesTo⟩
  | error fault =>
      have fails := mergeFails_of_mergeShapes areObjects merged
      exact .inr ⟨fun merges => merges.not_fails fails, fault, rfl, fails⟩

omit areObjects

/-- Objects of which one has two keys with the same text, and one has no keys. -/
def colliding : Graph :=
  ⟨#[.mapping .plain [(.leaf .null, .leaf (.boolean true)), (.leaf (.text "None"), .leaf (.text "x"))],
    .mapping .plain []]⟩

/-- The merged property of the two keys. -/
def collidingProperty : Property TypeExpr :=
  ⟨"None", .union [.primitive "boolean", .primitive "string"] 0 false, true⟩

/-- Two values under one text are one property with two variants, which is optional because of the other object. -/
theorem mergeShapes_exact_colliding :
    (∀ object ∈ [Value.container 0, .container 1], colliding.isObject object = true) ∧
      colliding.HasValue (.container 0) (.ok "None") (.leaf (.boolean true)) ∧
      colliding.mergeShapes {} [.container 0, .container 1] = .ok (.object [collidingProperty] 0) ∧
      colliding.MergesTo {} [] 0 [.container 0, .container 1] [collidingProperty] := by
  have areObjects : ∀ object ∈ [Value.container 0, .container 1], colliding.isObject object = true := by decide
  have hasValue : colliding.HasValue (.container 0) (.ok "None") (.leaf (.boolean true)) :=
    ⟨_, rfl, _, List.mem_cons_self, by rfl, rfl⟩
  have merged : colliding.mergeShapes {} [.container 0, .container 1] = .ok (.object [collidingProperty] 0) := by rfl
  refine ⟨areObjects, hasValue, merged, ?_⟩
  obtain ⟨-, properties, sameMerged, mergesTo⟩ | ⟨-, fault, failed, -⟩ :=
    mergeShapes_exact areObjects ⟨.container 0, List.mem_cons_self, .ok "None", _, hasValue⟩
  · cases merged.symm.trans sameMerged
    exact mergesTo
  · cases merged.symm.trans failed

theorem interchanges_refl (graph : Graph) : graph.Interchanges graph := by
  intro address
  cases graph.node? address with
  | none => exact .none
  | some node => exact .some ⟨rfl, rfl, fun _ => Iff.rfl, rfl, Outcome.agree_self⟩

/-- Which objects there are decides about the text of their merged shape, in whatever order and however often they are
listed, and about whether there is one. -/
theorem mergeShapes_of_same_objects {others : List Value} (same : ∀ object, object ∈ objects ↔ object ∈ others) :
    (∃ type other, graph.mergeShapes settings objects depth opened = .ok type ∧
        graph.mergeShapes settings others depth opened = .ok other ∧ type.Alike settings other ∧
        type.render settings = other.render settings) ∨
      ∃ fault other, graph.mergeShapes settings objects depth opened = .error fault ∧
        graph.mergeShapes settings others depth opened = .error other ∧
        ((∀ object ∈ objects, graph.isObject object = true) →
          graph.MergeFails settings opened depth objects fault ∧ graph.MergeFails settings opened depth others other) := by
  have agree : Outcome.Agree (TypeExpr.Alike settings) (graph.mergeShapes settings objects depth opened)
      (graph.mergeShapes settings others depth opened) :=
    Merge.shapes_agree graph.interchanges_refl (graph.interchanges_refl.typers settings _) same
  cases merged : graph.mergeShapes settings objects depth opened with
  | ok type =>
      rw [merged] at agree
      obtain ⟨other, otherMerged, alike⟩ := agree.exists_right rfl
      exact .inl ⟨type, other, rfl, otherMerged, alike, alike.render_eq⟩
  | error fault =>
      cases otherMerged : graph.mergeShapes settings others depth opened with
      | ok other =>
          rw [merged, otherMerged] at agree
          cases agree
      | error other =>
          refine .inr ⟨fault, other, rfl, rfl, fun areObjects => ?_⟩
          have othersAreObjects : ∀ object ∈ others, graph.isObject object = true :=
            fun object member => areObjects object ((same object).mpr member)
          exact ⟨mergeFails_of_mergeShapes areObjects merged, mergeFails_of_mergeShapes othersAreObjects otherMerged⟩

/-- Three listed objects that are the same two, the other way round. -/
theorem mergeShapes_of_same_objects_colliding :
    (∀ object, object ∈ [Value.container 0, .container 1] ↔ object ∈ [.container 1, .container 0, .container 1]) ∧
      ∃ type other, colliding.mergeShapes {} [.container 0, .container 1] = .ok type ∧
        colliding.mergeShapes {} [.container 1, .container 0, .container 1] = .ok other ∧
        type.render {} = other.render {} := by
  have same : ∀ object, object ∈ [Value.container 0, .container 1] ↔
      object ∈ [.container 1, .container 0, .container 1] := by
    intro object
    simp [or_comm, or_left_comm]
  refine ⟨same, ?_⟩
  obtain ⟨type, other, merged, otherMerged, -, sameText⟩ | ⟨fault, other, failed, -⟩ :=
    mergeShapes_of_same_objects same
  · exact ⟨type, other, merged, otherMerged, sameText⟩
  · have merged : colliding.mergeShapes {} [.container 0, .container 1] = .ok (.object [collidingProperty] 0) := by rfl
    cases merged.symm.trans failed

end Graph

end SampleTypes
