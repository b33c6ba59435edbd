import SampleTypes.Proofs.Conservation
import SampleTypes.Proofs.InferredTexts
import SampleTypes.Proofs.Literals

/-!
# Which values have texts

Typing needs literals only to put the elements of a set in order and to name the keys of a mapping.  A value has a
text unless a literal does not exist that is needed in this way, and then it has none, except that a set of
nothing but objects is sometimes merged without being put in order.
-/

namespace SampleTypes

namespace Graph

variable {graph : Graph} {node : Node}

/-- Listing the contents of a container fails where a literal that it needs does not exist. -/
theorem unwritable_of_contents {fault : Fault} (failed : graph.contents node = .error fault) :
    ∃ part ∈ node.named, graph.Unwritable part fault := by
  cases node with
  | mapping kind entries =>
      rcases Outcome.bind_eq_error_iff.mp failed with listing | ⟨_, -, impossible⟩
      · rcases Outcome.bind_eq_error_iff.mp listing with mapFailed | ⟨_, -, impossible⟩
        · obtain ⟨entry, member, entryFailed⟩ := Outcome.mapM_eq_error mapFailed
          rcases Outcome.bind_eq_error_iff.mp entryFailed with keyFailed | ⟨_, -, impossible⟩
          · exact ⟨entry.1, List.mem_map_of_mem member, unwritable_of_keyText keyFailed⟩
          · cases impossible
        · cases impossible
      · cases impossible
  | record name fields => cases failed
  | sequence kind elements => cases failed
  | range progression => cases failed
  | view content => cases failed
  | set kind elements =>
      rcases Outcome.bind_eq_error_iff.mp failed with mapFailed | ⟨_, -, impossible⟩
      · obtain ⟨element, member, elementFailed⟩ := Outcome.mapM_eq_error mapFailed
        rcases Outcome.bind_eq_error_iff.mp elementFailed with keyFailed | ⟨_, -, impossible⟩
        · rcases Outcome.bind_eq_error_iff.mp keyFailed with literalFailed | ⟨_, -, impossible⟩
          · exact ⟨element, member, unwritable_of_literal literalFailed⟩
          · cases impossible
        · cases impossible
      · cases impossible

/-- The contents of a container can be listed only if every literal exists that this needs. -/
theorem writable_of_contents {contents : List Value} (success : graph.contents node = .ok contents) :
    ∀ part ∈ node.named, ∀ fault, ¬graph.Unwritable part fault := by
  cases node with
  | mapping kind entries =>
      obtain ⟨groups, listing, -⟩ := Outcome.bind_eq_ok_iff.mp success
      obtain ⟨keyed, mapped, -⟩ := Outcome.bind_eq_ok_iff.mp listing
      intro key member
      obtain ⟨entry, entryMember, rfl⟩ := List.mem_map.mp member
      obtain ⟨pair, -, keying⟩ := (Outcome.mapM_eq_ok_iff.mp mapped).exists_right entryMember
      obtain ⟨text, isText, -⟩ := Outcome.bind_eq_ok_iff.mp keying
      exact writable_of_keyText isText
  | record name fields => exact List.forall_mem_nil _
  | sequence kind elements => exact List.forall_mem_nil _
  | range progression => exact List.forall_mem_nil _
  | view content => exact List.forall_mem_nil _
  | set kind elements =>
      obtain ⟨keyed, mapped, -⟩ := Outcome.bind_eq_ok_iff.mp success
      intro element member
      obtain ⟨pair, -, keying⟩ := (Outcome.mapM_eq_ok_iff.mp mapped).exists_right member
      obtain ⟨key, isKey, -⟩ := Outcome.bind_eq_ok_iff.mp keying
      obtain ⟨text, isText, -⟩ := Outcome.bind_eq_ok_iff.mp isKey
      exact writable_of_literal isText

/-- Whether a container is a set of nothing but objects where objects are merged. -/
def MayStayUnordered (graph : Graph) (settings : Settings) (node : Node) : Prop :=
  settings.mode = .merge ∧
    ∃ kind elements, node = .set kind elements ∧ ∀ element ∈ elements, graph.isObject element = true

/-- Whether the contents of a container can be listed, where that is needed. -/
def Listed (graph : Graph) (settings : Settings) (node : Node) : Prop :=
  graph.MayStayUnordered settings node ∨ ∃ contents, graph.contents node = .ok contents

/-- Every container that is reached past the open ones is listed. -/
def ListedFrom (graph : Graph) (settings : Settings) (opened : List Address) (value : Value) : Prop :=
  ∀ target node, graph.ReachesPast opened value target → target.isOpen opened = false →
    graph.nodeOf? target = some node → graph.Listed settings node

variable {settings : Settings} {opened : List Address}

theorem listedFrom_of_nodeOf?_eq_none {value : Value} (noNode : graph.nodeOf? value = none) :
    graph.ListedFrom settings opened value := by
  intro target node reaches _ isNode
  rcases reaches.cases_head with rfl | ⟨part, ⟨-, other, isOther, -⟩, -⟩
  · cases noNode.symm.trans isNode
  · cases noNode.symm.trans isOther

theorem listedFrom_of_isOpen {value : Value} (isOpen : value.isOpen opened = true) :
    graph.ListedFrom settings opened value := by
  intro target node reaches notOpen _
  rcases reaches.cases_head with rfl | ⟨part, ⟨fresh, -⟩, -⟩
  · cases isOpen.symm.trans notOpen
  · cases isOpen.symm.trans fresh

/-- Everything inside a container is listed if the container is, and so is what is inside its parts while the
container is open. -/
theorem listedFrom_container {address : Address} (isNode : graph.node? address = some node)
    (listed : graph.Listed settings node)
    (parts : ∀ part ∈ node.held, graph.ListedFrom settings (address :: opened) part) :
    graph.ListedFrom settings opened (.container address) := by
  intro target targetNode reaches notOpen isTarget
  by_cases same : target = .container address
  · rw [same] at isTarget
    cases (nodeOf?_container isNode).symm.trans isTarget
    exact listed
  · have further : ∃ part, graph.Holds (.container address) part ∧
        graph.ReachesPast (address :: opened) part target := by
      rcases reaches.cases_head with rfl | ⟨part, ⟨-, holds⟩, below⟩
      · exact absurd rfl same
      · rcases ReachesPast.cons_or_below below address with past | later
        · exact ⟨part, holds, past⟩
        · exact later
    obtain ⟨part, ⟨other, isOther, held⟩, past⟩ := further
    cases (nodeOf?_container isNode).symm.trans isOther
    exact parts part held target targetNode past (Value.isOpen_cons_eq_false_iff.mpr ⟨same, notOpen⟩) isTarget

theorem listed_of_entries {entries : List (String × List Value)} (isObject : node.isObject = true)
    (listing : graph.entriesOfNode node = .ok entries) : graph.Listed settings node := by
  refine .inr ⟨entries.flatMap (·.2), ?_⟩
  rw [contents, if_pos isObject, listing]
  rfl

theorem listed_of_elements {elements : List Value} (isArray : node.isObject = false)
    (listing : graph.elements node = .ok elements) : graph.Listed settings node :=
  .inr ⟨elements, (contents_of_array isArray).trans listing⟩

/-- Calls that are answered list everything inside their values; objects are only merged where the settings say
so. -/
def Lists (graph : Graph) (settings : Settings) : Assignment :=
  fun call _ => (call.merging = true → settings.mode = .merge) →
    graph.ListedFrom settings call.opened call.value

end Graph

section Step

variable {graph : Graph} {settings : Settings} {opened : List Address} {depth : Int} {type : TypeExpr}

/-- Every value in a merged object has been typed. -/
theorem Merge.Builds.exists_typed {typed : Assignment} {objects : List Value}
    (built : Merge.Builds graph settings typed opened depth objects type) {object part : Value}
    {entries : List (String × List Value)} {key : String} (member : object ∈ objects)
    (listing : graph.entries object = .ok entries) (filed : Filed entries key part) :
    ∃ partType, typed ⟨true, object.open opened, depth + 1, part⟩ partType := by
  have known {described : List Described} (describing : describe graph objects = .ok described) :
      (object, part) ∈ contributors described key ∧ key ∈ keys described := by
    have contributes := (mem_contributors_iff_filed describing).mpr ⟨member, entries, listing, filed⟩
    obtain ⟨description, isDescription, -, isPart⟩ := mem_contributors_iff.mp contributes
    obtain ⟨entry, isEntry, sameKey, -⟩ := filed_of_mem_valuesUnder isPart
    exact ⟨contributes, mem_keys_iff.mpr ⟨description, isDescription, sameKey ▸ List.mem_map_of_mem isEntry⟩⟩
  cases built with
  | nothing => cases member
  | noKeys nonempty describing noKeys =>
      have isKey := (known describing).2
      rw [noKeys] at isKey
      cases isKey
  | properties nonempty describing someKeys built =>
      obtain ⟨contributes, isKey⟩ := known describing
      obtain ⟨property, -, types, contributed, -⟩ := built.exists_right isKey
      obtain ⟨partType, -, partTyped⟩ := contributed.exists_right contributes
      exact ⟨partType, partTyped⟩

theorem Merge.Builds.listedFrom {objects : List Value}
    (built : Merge.Builds graph settings (graph.Lists settings) opened depth objects type)
    (merging : settings.mode = .merge) {object : Value} (member : object ∈ objects)
    (isObject : graph.isObject object = true) : graph.ListedFrom settings opened object := by
  obtain ⟨entries, listing⟩ := built.exists_entries member
  obtain ⟨address, node, rfl, isNode, nodeIsObject⟩ := Graph.isObject_eq_true_iff.mp isObject
  have nodeListing := listing
  rw [Graph.entries_container isNode] at nodeListing
  refine Graph.listedFrom_container isNode (Graph.listed_of_entries nodeIsObject nodeListing) ?_
  intro part held
  obtain ⟨key, filed⟩ := (Graph.mem_held_iff_of_entries nodeListing).mp held
  obtain ⟨partType, partListed⟩ := built.exists_typed member listing filed
  exact partListed fun _ => merging

theorem ArrayUnion.BuildsShapes.exists_typed {typed : Assignment} {elements : List Value}
    (built : ArrayUnion.BuildsShapes settings typed opened depth elements type) :
    ∀ element ∈ elements, ∃ elementType, typed ⟨false, opened, depth + 1, element⟩ elementType := by
  intro element member
  cases built with
  | one elementTypes | several elementTypes =>
      obtain ⟨elementType, -, elementTyped⟩ := elementTypes.exists_right member
      exact ⟨elementType, elementTyped⟩

/-- Everything inside the elements of an array is listed. -/
theorem ArrayUnion.Builds.listedFrom {elements : List Value} {kind : ArrayKind}
    (isKind : ArrayKind.ofElements graph opened elements = kind)
    (built : ArrayUnion.Builds graph settings (graph.Lists settings) opened depth elements kind type) :
    ∀ element ∈ elements, graph.ListedFrom settings opened element := by
  have ofShapes {shapes : TypeExpr}
      (built : BuildsShapes settings (graph.Lists settings) opened depth elements shapes) :
      ∀ element ∈ elements, graph.ListedFrom settings opened element := by
    intro element member
    obtain ⟨elementType, elementListed⟩ := built.exists_typed element member
    exact elementListed fun impossible => nomatch impossible
  cases built with
  | arrays merging elementTypes =>
      intro element member
      obtain ⟨elementType, -, elementListed⟩ := elementTypes.exists_right member
      exact elementListed fun impossible => nomatch impossible
  | arrayShapes uniting built spansLines => exact ofShapes built
  | flatArrayShapes uniting built oneLine => exact ofShapes built
  | objects merging built =>
      intro element member
      exact built.listedFrom merging member (ArrayKind.fresh_of_ofElements isKind element member).1
  | objectShapes uniting built => exact ofShapes built
  | mixed elementTypes =>
      intro element member
      obtain ⟨elementType, -, elementListed⟩ := elementTypes.exists_right member
      exact elementListed fun merged => (of_decide_eq_true merged).1

/-- A step lists everything inside a value if the calls for the parts do. -/
theorem Inference.Builds.lists {call : Call}
    (built : Inference.Builds graph settings (graph.Lists settings) call type) :
    graph.Lists settings call type := by
  intro merging
  cases built with
  | leaf => exact Graph.listedFrom_of_nodeOf?_eq_none rfl
  | missing isMissing => exact Graph.listedFrom_of_nodeOf?_eq_none isMissing
  | circular isNode isOpen => exact Graph.listedFrom_of_isOpen (List.contains_iff_mem.mpr isOpen)
  | object isNode fresh isObject listing built =>
      refine Graph.listedFrom_container isNode (Graph.listed_of_entries isObject listing) ?_
      intro part held
      obtain ⟨key, entry, member, -, isPart⟩ := (Graph.mem_held_iff_of_entries listing).mp held
      obtain ⟨property, -, types, partTypes, -⟩ := built.exists_right member
      obtain ⟨partType, -, partListed⟩ := partTypes.exists_right isPart
      exact partListed fun impossible => nomatch impossible
  | mergedObject isNode fresh isObject built =>
      exact built.listedFrom (merging rfl) (List.mem_singleton_self _)
        (Graph.isObject_eq_true_iff.mpr ⟨_, _, rfl, isNode, isObject⟩)
  | @emptyArray _ _ _ _ node isNode fresh isArray listing =>
      refine Graph.listedFrom_container isNode (Graph.listed_of_elements isArray listing) ?_
      rw [Node.held_of_array isArray, List.nil_perm.mp (Graph.elements_perm_members listing)]
      exact List.forall_mem_nil _
  | array isNode fresh isArray listing nonempty built =>
      refine Graph.listedFrom_container isNode (Graph.listed_of_elements isArray listing) ?_
      intro element held
      rw [Node.held_of_array isArray] at held
      exact built.listedFrom rfl element ((Graph.elements_perm_members listing).mem_iff.mpr held)
  | @mergedArray _ _ _ node _ isNode fresh isMerged built =>
      obtain ⟨isArray, -, isFresh⟩ := fresh_of_isMergedArray isNode isMerged
      refine Graph.listedFrom_container isNode ?_ ?_
      · cases node with
        | mapping | record => cases isArray
        | sequence | range | view => exact Graph.listed_of_elements isArray rfl
        | set kind elements =>
            exact .inl ⟨merging rfl, kind, elements, rfl, fun element member => (isFresh element member).1⟩
      · intro element held
        rw [Node.held_of_array isArray] at held
        exact built.listedFrom (merging rfl) held (isFresh element held).1

end Step

namespace Graph

theorem listed_of_infer {graph : Graph} {settings : Settings} {value whole : Value} {depth : Int}
    {type : TypeExpr} {node : Node} (inferred : graph.infer settings value depth = .ok type)
    (reaches : graph.Reaches value whole) (isNode : graph.nodeOf? whole = some node) :
    graph.Listed settings node := by
  have listed : graph.Lists settings (Call.first value depth) type :=
    Inference.answer_induction (graph.Lists settings)
      (fun _ _ _ built => (built.imp fun _ _ part => part.2).lists) _ (answers_of_infer inferred)
  have pastNothing : graph.Holds ≤ fun whole part => whole.isOpen [] = false ∧ graph.Holds whole part :=
    fun whole _ holds => ⟨whole.isOpen_nil, holds⟩
  have reachesPast := Relation.ReflTransGen.mono pastNothing _ _ reaches
  exact listed (fun impossible => nomatch impossible) whole node reachesPast whole.isOpen_nil isNode

/-- A value has a text, and every literal exists that is needed inside it, or it has none, for the reason that a
literal does not exist: a set inside the value has an element, or a mapping has a key, whose literal shows a
record with a field that was never assigned, an integer with too many digits, or a tuple with labels that contains
itself through such tuples alone.  A text is possible without the literals of the elements of a set of nothing but
objects, where objects are merged. -/
theorem inferText_total (graph : Graph) (settings : Settings) (value : Value) (depth : Int) :
    (∃ text, graph.inferText settings value depth = .ok text ∧
        ∀ whole node, graph.Reaches value whole → graph.nodeOf? whole = some node →
          ¬graph.MayStayUnordered settings node → ∀ part ∈ node.named, ∀ fault, ¬graph.Unwritable part fault) ∨
      ∃ fault, graph.inferText settings value depth = .error fault ∧
        ∃ whole node, graph.Reaches value whole ∧ graph.nodeOf? whole = some node ∧
          ∃ part ∈ node.named, graph.Unwritable part fault := by
  rcases infer_cases graph settings value depth with ⟨type, inferred⟩ | ⟨fault, failed, below⟩
  · refine .inl ⟨type.render settings, inferText_of_infer inferred, ?_⟩
    intro whole node reaches isNode ordered
    obtain ⟨contents, success⟩ := (listed_of_infer inferred reaches isNode).resolve_left ordered
    exact writable_of_contents success
  · right
    obtain ⟨whole, node, reaches, isNode, contentsFailed⟩ := below
    refine ⟨fault, ?_, whole, node, reaches, isNode, unwritable_of_contents contentsFailed⟩
    rw [inferText, failed]
    rfl

end Graph

end SampleTypes
