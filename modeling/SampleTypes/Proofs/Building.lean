import SampleTypes.Proofs.Calls
import SampleTypes.Proofs.Variants

/-!
# How types are built

What one step of typing makes of the types of the values inside a container.  The predicates of this module
have one case for each way in which a type comes about, with everything that the step has checked; a property
of all inferred types is proved by going through these cases once.
-/

namespace SampleTypes

/-- How types are assigned to calls. -/
abbrev Assignment := Call → TypeExpr → Prop

namespace Merge

/-- The values that objects have under a key, each with the object that it is in. -/
def contributors (objects : List Described) (key : String) : List (Value × Value) :=
  objects.flatMap fun described => (described.valuesUnder key).map (described.object, ·)

/-- How a merged property comes about. -/
def BuildsProperty (settings : Settings) (typed : Assignment) (opened : List Address) (depth : Int)
    (objects : List Described) (key : String) (property : Property TypeExpr) : Prop :=
  ∃ types, List.Forall₂
      (fun contributor type => typed ⟨true, contributor.1.open opened, depth + 1, contributor.2⟩ type)
      (contributors objects key) types ∧
    property = ⟨key, TypeExpr.sortedUnion settings types, !objects.all (·.hasKey key)⟩

/-- How a merged shape comes about. -/
inductive Builds (graph : Graph) (settings : Settings) (typed : Assignment) (opened : List Address)
    (depth : Int) : List Value → TypeExpr → Prop
  | nothing : Builds graph settings typed opened depth [] .anyObject
  | noKeys {objects : List Value} {described : List Described} (nonempty : objects ≠ [])
      (describing : describe graph objects = .ok described) (noKeys : keys described = []) :
      Builds graph settings typed opened depth objects .emptyObject
  | properties {objects : List Value} {described : List Described} {properties : List (Property TypeExpr)}
      (nonempty : objects ≠ []) (describing : describe graph objects = .ok described)
      (someKeys : keys described ≠ [])
      (built : List.Forall₂ (BuildsProperty settings typed opened depth described) (keys described)
        properties) :
      Builds graph settings typed opened depth objects (.object properties depth)

end Merge

namespace ArrayUnion

/-- How the union of the distinct types of some elements comes about. -/
inductive BuildsShapes (settings : Settings) (typed : Assignment) (opened : List Address) (depth : Int) :
    List Value → TypeExpr → Prop
  | one {first : Value} {others : List Value} {types : List TypeExpr} {shape type : TypeExpr}
      (elementTypes : List.Forall₂ (fun element type => typed ⟨false, opened, depth + 1, element⟩ type)
        (first :: others) types)
      (agree : TypeExpr.distinctByText settings types = [shape])
      (again : typed ⟨false, opened, depth, first⟩ type) :
      BuildsShapes settings typed opened depth (first :: others) type
  | several {elements : List Value} {types : List TypeExpr}
      (elementTypes : List.Forall₂ (fun element type => typed ⟨false, opened, depth + 1, element⟩ type)
        elements types)
      (differ : (TypeExpr.distinctByText settings types).length ≠ 1) :
      BuildsShapes settings typed opened depth elements
        (.union (TypeExpr.distinctByText settings types) depth
          ((TypeExpr.distinctByText settings types).any (·.spansLines)))

/-- How the type of an array with elements of a given kind comes about. -/
inductive Builds (graph : Graph) (settings : Settings) (typed : Assignment) (opened : List Address)
    (depth : Int) (elements : List Value) : ArrayKind → TypeExpr → Prop
  | arrays {types : List TypeExpr} (merging : settings.mode = .merge)
      (elementTypes : List.Forall₂ (fun element type => typed ⟨false, opened, depth + 1, element⟩ type)
        elements types) :
      Builds graph settings typed opened depth elements .arrays (arrayOfArrays settings types)
  | arrayShapes {shapes : TypeExpr} (uniting : settings.mode = .union)
      (built : BuildsShapes settings typed opened depth elements shapes)
      (spansLines : shapes.spansLines = true) :
      Builds graph settings typed opened depth elements .arrays (.array shapes)
  | flatArrayShapes {shapes : TypeExpr} (uniting : settings.mode = .union)
      (built : BuildsShapes settings typed opened depth elements shapes)
      (oneLine : shapes.spansLines = false) :
      Builds graph settings typed opened depth elements .arrays
        (arrayOfArrays settings (variants shapes))
  | objects {shape : TypeExpr} (merging : settings.mode = .merge)
      (built : Merge.Builds graph settings typed opened depth elements shape) :
      Builds graph settings typed opened depth elements .objects (.array shape)
  | objectShapes {shapes : TypeExpr} (uniting : settings.mode = .union)
      (built : BuildsShapes settings typed opened depth elements shapes) :
      Builds graph settings typed opened depth elements .objects (.array shapes)
  | mixed {types : List TypeExpr}
      (elementTypes : List.Forall₂ (fun element type =>
        typed ⟨decide (settings.mode = .merge ∧ graph.isObject element = true), opened, depth + 1, element⟩
          type) elements types) :
      Builds graph settings typed opened depth elements .mixed
        (.array (.unionOf (TypeExpr.distinctByText settings types)))

end ArrayUnion

namespace Inference

/-- How a property of an object comes about that is typed by itself. -/
def BuildsProperty (settings : Settings) (typed : Assignment) (opened : List Address) (depth : Int)
    (entry : String × List Value) (property : Property TypeExpr) : Prop :=
  ∃ types, List.Forall₂ (fun part type => typed ⟨false, opened, depth + 1, part⟩ type) entry.2 types ∧
    property = ⟨entry.1, .unionOf (TypeExpr.distinctByText settings types), false⟩

/-- How the type of a value comes about. -/
inductive Builds (graph : Graph) (settings : Settings) (typed : Assignment) : Assignment
  | leaf (merging : Bool) (opened : List Address) (depth : Int) (leaf : Leaf) :
      Builds graph settings typed ⟨merging, opened, depth, .leaf leaf⟩ leaf.type
  | missing {merging : Bool} {opened : List Address} {depth : Int} {address : Address}
      (isMissing : graph.node? address = none) :
      Builds graph settings typed ⟨merging, opened, depth, .container address⟩ .unknown
  | circular {merging : Bool} {opened : List Address} {depth : Int} {address : Address} {node : Node}
      (isNode : graph.node? address = some node) (isOpen : address ∈ opened) :
      Builds graph settings typed ⟨merging, opened, depth, .container address⟩ .circular
  | object {opened : List Address} {depth : Int} {address : Address} {node : Node}
      {entries : List (String × List Value)} {properties : List (Property TypeExpr)}
      (isNode : graph.node? address = some node) (fresh : address ∉ opened)
      (isObject : node.isObject = true) (listing : graph.entriesOfNode node = .ok entries)
      (built : List.Forall₂ (BuildsProperty settings typed (address :: opened) depth) entries
        properties) :
      Builds graph settings typed ⟨false, opened, depth, .container address⟩
        (if properties.isEmpty then .emptyObject else .object properties depth)
  | mergedObject {opened : List Address} {depth : Int} {address : Address} {node : Node}
      {type : TypeExpr} (isNode : graph.node? address = some node) (fresh : address ∉ opened)
      (isObject : node.isObject = true)
      (built : Merge.Builds graph settings typed opened depth [.container address] type) :
      Builds graph settings typed ⟨true, opened, depth, .container address⟩ type
  | emptyArray {merging : Bool} {opened : List Address} {depth : Int} {address : Address} {node : Node}
      (isNode : graph.node? address = some node) (fresh : address ∉ opened)
      (isArray : node.isObject = false) (listing : graph.elements node = .ok []) :
      Builds graph settings typed ⟨merging, opened, depth, .container address⟩ .emptyArray
  | array {merging : Bool} {opened : List Address} {depth : Int} {address : Address} {node : Node}
      {elements : List Value} {type : TypeExpr} (isNode : graph.node? address = some node)
      (fresh : address ∉ opened) (isArray : node.isObject = false)
      (listing : graph.elements node = .ok elements) (nonempty : elements ≠ [])
      (built : ArrayUnion.Builds graph settings typed (address :: opened) depth elements
        (.ofElements graph (address :: opened) elements) type) :
      Builds graph settings typed ⟨merging, opened, depth, .container address⟩ type
  | mergedArray {opened : List Address} {depth : Int} {address : Address} {node : Node}
      {type : TypeExpr} (isNode : graph.node? address = some node) (fresh : address ∉ opened)
      (isMerged : isMergedArray graph opened node = true)
      (built : Merge.Builds graph settings typed (address :: opened) depth node.members type) :
      Builds graph settings typed ⟨true, opened, depth, .container address⟩ (.array type)

end Inference

section Imp

variable {graph : Graph} {settings : Settings} {typed other : Assignment} {opened : List Address}
  {depth : Int}

theorem Merge.Builds.imp (weaker : ∀ call type, typed call type → other call type) {objects : List Value}
    {type : TypeExpr} (built : Merge.Builds graph settings typed opened depth objects type) :
    Merge.Builds graph settings other opened depth objects type := by
  cases built with
  | nothing => exact .nothing
  | noKeys nonempty describing noKeys => exact .noKeys nonempty describing noKeys
  | properties nonempty describing someKeys built =>
      refine .properties nonempty describing someKeys (built.imp ?_)
      rintro key property ⟨types, contributed, same⟩
      exact ⟨types, contributed.imp fun _ _ => weaker _ _, same⟩

theorem ArrayUnion.BuildsShapes.imp (weaker : ∀ call type, typed call type → other call type)
    {elements : List Value} {type : TypeExpr}
    (built : ArrayUnion.BuildsShapes settings typed opened depth elements type) :
    ArrayUnion.BuildsShapes settings other opened depth elements type := by
  cases built with
  | one elementTypes agree again =>
      exact .one (elementTypes.imp fun _ _ => weaker _ _) agree (weaker _ _ again)
  | several elementTypes differ => exact .several (elementTypes.imp fun _ _ => weaker _ _) differ

theorem ArrayUnion.Builds.imp (weaker : ∀ call type, typed call type → other call type)
    {elements : List Value} {kind : ArrayKind} {type : TypeExpr}
    (built : ArrayUnion.Builds graph settings typed opened depth elements kind type) :
    ArrayUnion.Builds graph settings other opened depth elements kind type := by
  cases built with
  | arrays merging elementTypes => exact .arrays merging (elementTypes.imp fun _ _ => weaker _ _)
  | arrayShapes uniting built spansLines => exact .arrayShapes uniting (built.imp weaker) spansLines
  | flatArrayShapes uniting built oneLine => exact .flatArrayShapes uniting (built.imp weaker) oneLine
  | objects merging built => exact .objects merging (built.imp weaker)
  | objectShapes uniting built => exact .objectShapes uniting (built.imp weaker)
  | mixed elementTypes => exact .mixed (elementTypes.imp fun _ _ => weaker _ _)

theorem Inference.Builds.imp (weaker : ∀ call type, typed call type → other call type) {call : Call}
    {type : TypeExpr} (built : Inference.Builds graph settings typed call type) :
    Inference.Builds graph settings other call type := by
  cases built with
  | leaf merging opened depth leaf => exact .leaf merging opened depth leaf
  | missing isMissing => exact .missing isMissing
  | circular isNode isOpen => exact .circular isNode isOpen
  | object isNode fresh isObject listing built =>
      refine .object isNode fresh isObject listing (built.imp ?_)
      rintro entry property ⟨types, partTypes, same⟩
      exact ⟨types, partTypes.imp fun _ _ => weaker _ _, same⟩
  | mergedObject isNode fresh isObject built =>
      exact .mergedObject isNode fresh isObject (built.imp weaker)
  | emptyArray isNode fresh isArray listing => exact .emptyArray isNode fresh isArray listing
  | array isNode fresh isArray listing nonempty built =>
      exact .array isNode fresh isArray listing nonempty (built.imp weaker)
  | mergedArray isNode fresh isMerged built => exact .mergedArray isNode fresh isMerged (built.imp weaker)

end Imp

/-- What a typer answers, as an assignment. -/
def Typer.Answers (typer : Typer) : Assignment :=
  fun call type => typer.answer call = .ok type

namespace Merge

variable {graph : Graph} {settings : Settings} {typer : Typer} {opened : List Address} {depth : Int}

/-- The contributed types of all objects are those of their contributors, one after the other. -/
theorem contributions_eq_mapM (objects : List Described) (key : String) :
    contributions typer opened depth objects key =
      (contributors objects key).mapM fun contributor =>
        typer.contribute (contributor.1.open opened) depth contributor.2 := by
  induction objects with
  | nil => rfl
  | cons object objects induction =>
      have others := induction
      rw [contributions] at others ⊢
      rw [contributors, List.flatMap_cons, List.mapM_append, ← contributors, ← others, List.mapM_cons,
        List.mapM_map]
      simp only [bind_assoc, pure_bind, List.flatten_cons]
      rfl

theorem contributions_eq_ok {objects : List Described} {key : String} {types : List TypeExpr}
    (success : contributions typer opened depth objects key = .ok types) :
    List.Forall₂
      (fun contributor type => typer.Answers ⟨true, contributor.1.open opened, depth, contributor.2⟩ type)
      (contributors objects key) types := by
  rw [contributions_eq_mapM] at success
  exact Outcome.mapM_eq_ok_iff.mp success

theorem builds_of_shapes {objects : List Value} {type : TypeExpr}
    (success : shapes graph settings typer opened depth objects = .ok type) :
    Builds graph settings typer.Answers opened depth objects type := by
  unfold shapes at success
  split at success
  · rename_i empty
    cases success
    rw [List.isEmpty_iff.mp empty]
    exact .nothing
  · rename_i nonempty
    replace nonempty : objects ≠ [] := by simpa using nonempty
    obtain ⟨described, describing, rest⟩ := Outcome.bind_eq_ok_iff.mp success
    dsimp only at rest
    split at rest
    · rename_i noKeys
      cases rest
      exact .noKeys nonempty describing (List.isEmpty_iff.mp noKeys)
    · rename_i someKeys
      obtain ⟨properties, propertiesSuccess, same⟩ := Outcome.bind_eq_ok_iff.mp rest
      cases same
      refine .properties nonempty describing (by simpa using someKeys) ?_
      refine (Outcome.mapM_eq_ok_iff.mp propertiesSuccess).imp ?_
      intro key property propertySuccess
      obtain ⟨types, contributed, same⟩ := Outcome.bind_eq_ok_iff.mp propertySuccess
      cases same
      exact ⟨types, contributions_eq_ok contributed, rfl⟩

end Merge

namespace ArrayUnion

variable {graph : Graph} {settings : Settings} {typer : Typer} {opened : List Address} {depth : Int}
  {elements : List Value}

theorem buildsShapes_of_distinctShapes {type : TypeExpr}
    (success : distinctShapes settings typer opened depth elements = .ok type) :
    BuildsShapes settings typer.Answers opened depth elements type := by
  obtain ⟨types, typesSuccess, rest⟩ := Outcome.bind_eq_ok_iff.mp success
  have elementTypes := Outcome.mapM_eq_ok_iff.mp typesSuccess
  split at rest
  · rename_i first others shape agree
    exact .one elementTypes agree rest
  · rename_i elements shapes different
    cases rest
    refine .several elementTypes ?_
    intro single
    obtain ⟨shape, agree⟩ := List.length_eq_one_iff.mp single
    cases elementTypes with
    | nil => cases agree
    | cons first others => exact different _ _ shape rfl agree

theorem builds_of_ofKind {kind : ArrayKind} {type : TypeExpr}
    (success : ofKind graph settings typer opened depth kind elements = .ok type) :
    Builds graph settings typer.Answers opened depth elements kind type := by
  cases kind with
  | arrays =>
      simp only [ofKind, ofArrays] at success
      cases mode : settings.mode with
      | merge =>
          simp only [mode] at success
          obtain ⟨types, typesSuccess, same⟩ := Outcome.bind_eq_ok_iff.mp success
          cases same
          exact .arrays mode (Outcome.mapM_eq_ok_iff.mp typesSuccess)
      | union =>
          simp only [mode] at success
          obtain ⟨shapes, shapesSuccess, rest⟩ := Outcome.bind_eq_ok_iff.mp success
          have built := buildsShapes_of_distinctShapes shapesSuccess
          split at rest
          · rename_i spansLines
            cases rest
            exact .arrayShapes mode built spansLines
          · rename_i oneLine
            cases rest
            exact .flatArrayShapes mode built (by simpa using oneLine)
  | objects =>
      simp only [ofKind, ofObjects] at success
      cases mode : settings.mode with
      | merge =>
          simp only [mode] at success
          obtain ⟨shape, shapeSuccess, same⟩ := Outcome.bind_eq_ok_iff.mp success
          cases same
          exact .objects mode (Merge.builds_of_shapes shapeSuccess)
      | union =>
          simp only [mode] at success
          obtain ⟨shapes, shapesSuccess, same⟩ := Outcome.bind_eq_ok_iff.mp success
          cases same
          exact .objectShapes mode (buildsShapes_of_distinctShapes shapesSuccess)
  | mixed =>
      simp only [ofKind, ofMixed] at success
      obtain ⟨types, typesSuccess, same⟩ := Outcome.bind_eq_ok_iff.mp success
      cases same
      refine .mixed ((Outcome.mapM_eq_ok_iff.mp typesSuccess).imp ?_)
      intro element type elementSuccess
      unfold Typer.Answers Typer.answer
      simp only [decide_eq_true_eq]
      exact elementSuccess

end ArrayUnion

namespace Inference

variable {graph : Graph} {settings : Settings} {inner : Typer} {opened : List Address} {depth : Int}

/-- What the properties of an object that is typed by itself come from. -/
theorem exists_properties_of_object {node : Node} {type : TypeExpr}
    (success : object graph settings inner opened depth node = .ok type) :
    ∃ entries properties, graph.entriesOfNode node = .ok entries ∧
      List.Forall₂ (BuildsProperty settings inner.Answers opened depth) entries properties ∧
      type = if properties.isEmpty then .emptyObject else .object properties depth := by
  obtain ⟨entries, listing, rest⟩ := Outcome.bind_eq_ok_iff.mp success
  obtain ⟨properties, propertiesSuccess, same⟩ := Outcome.bind_eq_ok_iff.mp rest
  cases same
  refine ⟨entries, properties, listing, ?_, rfl⟩
  refine (Outcome.mapM_eq_ok_iff.mp propertiesSuccess).imp ?_
  intro entry property propertySuccess
  obtain ⟨types, typesSuccess, same⟩ := Outcome.bind_eq_ok_iff.mp propertySuccess
  cases same
  exact ⟨types, Outcome.mapM_eq_ok_iff.mp typesSuccess, rfl⟩

theorem builds_of_object {address : Address} {node : Node} {type : TypeExpr}
    (isNode : graph.node? address = some node) (fresh : address ∉ opened)
    (isObject : node.isObject = true)
    (success : object graph settings inner (address :: opened) depth node = .ok type) :
    Builds graph settings inner.Answers ⟨false, opened, depth, .container address⟩ type := by
  obtain ⟨entries, properties, listing, built, rfl⟩ := exists_properties_of_object success
  exact .object isNode fresh isObject listing built

theorem builds_of_array {merging : Bool} {address : Address} {node : Node} {type : TypeExpr}
    (isNode : graph.node? address = some node) (fresh : address ∉ opened)
    (isArray : node.isObject = false)
    (success : array graph settings inner (address :: opened) depth node = .ok type) :
    Builds graph settings inner.Answers ⟨merging, opened, depth, .container address⟩ type := by
  obtain ⟨elements, listing, rest⟩ := Outcome.bind_eq_ok_iff.mp success
  split at rest
  · rename_i empty
    cases rest
    rw [List.isEmpty_iff.mp empty] at listing
    exact .emptyArray isNode fresh isArray listing
  · rename_i nonempty
    exact .array isNode fresh isArray listing (by simpa using nonempty)
      (ArrayUnion.builds_of_ofKind rest)

theorem builds_of_value {target : Value} {type : TypeExpr}
    (success : value graph settings inner opened depth target = .ok type) :
    Builds graph settings inner.Answers ⟨false, opened, depth, target⟩ type := by
  cases target with
  | leaf leaf =>
      cases success
      exact .leaf false opened depth leaf
  | container address =>
      cases isNode : graph.node? address with
      | none =>
          simp only [value, isNode] at success
          cases success
          exact .missing isNode
      | some node =>
          by_cases isOpen : address ∈ opened
          · simp only [value, isNode, if_pos isOpen] at success
            cases success
            exact .circular isNode isOpen
          · simp only [value, isNode, if_neg isOpen] at success
            cases isObject : node.isObject with
            | true =>
                rw [isObject, if_pos rfl] at success
                exact builds_of_object isNode isOpen isObject success
            | false =>
                rw [isObject, if_neg Bool.false_ne_true] at success
                exact builds_of_array isNode isOpen isObject success

theorem builds_of_contribution {target : Value} {type : TypeExpr}
    (success : contribution graph settings inner opened depth target = .ok type) :
    Builds graph settings inner.Answers ⟨true, opened, depth, target⟩ type := by
  cases target with
  | leaf leaf =>
      cases success
      exact .leaf true opened depth leaf
  | container address =>
      cases isNode : graph.node? address with
      | none =>
          simp only [contribution, isNode] at success
          cases success
          exact .missing isNode
      | some node =>
          by_cases isOpen : address ∈ opened
          · simp only [contribution, isNode, if_pos isOpen] at success
            cases success
            exact .circular isNode isOpen
          · simp only [contribution, isNode, if_neg isOpen] at success
            by_cases isMerged : isMergedArray graph opened node = true
            · rw [if_pos isMerged] at success
              obtain ⟨shape, shapeSuccess, same⟩ := Outcome.bind_eq_ok_iff.mp success
              cases same
              exact .mergedArray isNode isOpen isMerged (Merge.builds_of_shapes shapeSuccess)
            · rw [if_neg isMerged] at success
              cases isObject : node.isObject with
              | true =>
                  rw [isObject, if_pos rfl] at success
                  exact .mergedObject isNode isOpen isObject (Merge.builds_of_shapes success)
              | false =>
                  rw [isObject, if_neg Bool.false_ne_true] at success
                  exact builds_of_array isNode isOpen isObject success

/-- Whatever a step answers comes about in one of the listed ways. -/
theorem builds_of_answer {call : Call} {type : TypeExpr}
    (success : (step graph settings inner).Answers call type) :
    Builds graph settings inner.Answers call type := by
  obtain ⟨merging, opened, depth, target⟩ := call
  cases merging with
  | false => exact builds_of_value success
  | true => exact builds_of_contribution success

/-- What every step keeps holds of every answer.  The step may use that the types of the parts are answers
themselves, of the typer that opens one container less. -/
theorem answer_induction (Holds : Assignment)
    (step : ∀ (budget : Nat) (call : Call) (type : TypeExpr),
      Builds graph settings
          (fun part type => (typer graph settings budget).Answers part type ∧ Holds part type) call type →
        Holds call type)
    (budget : Nat) {call : Call} {type : TypeExpr}
    (answer : (typer graph settings budget).Answers call type) : Holds call type := by
  induction budget generalizing call type with
  | zero =>
      unfold Typer.Answers Typer.answer at answer
      cases merging : call.merging <;> simp [merging, typer, Typer.exhausted] at answer
  | succ budget induction =>
      rw [typer_succ] at answer
      apply step budget
      exact (builds_of_answer answer).imp fun part type answered => ⟨answered, induction answered⟩

/-- An answer comes about of answers of one typer. -/
theorem exists_builds_of_answer {budget : Nat} {call : Call} {type : TypeExpr}
    (answer : (typer graph settings budget).Answers call type) :
    ∃ budget, Builds graph settings (typer graph settings budget).Answers call type :=
  answer_induction (fun call type => ∃ budget, Builds graph settings (typer graph settings budget).Answers call type)
    (fun budget _ _ built => ⟨budget, built.imp fun _ _ part => part.1⟩) budget answer

end Inference

theorem Graph.answers_of_infer {graph : Graph} {settings : Settings} {value : Value} {depth : Int}
    {type : TypeExpr} (inferred : graph.infer settings value depth = .ok type) :
    (graph.typer settings).Answers (Call.first value depth) type :=
  inferred

end SampleTypes
