import Mathlib.Data.List.Forall2
import SampleTypes.CommandLine.Arguments
import SampleTypes.CommandLine.Outcome
import SampleTypes.Proofs.Outcomes

/-!
# Collected samples

What comes of a request depends on its inputs only through the samples that are collected from them.  An input
that gives no samples is told of and has no other effect; several documents stand for the list of them, and lists
that are spread stand for one list.  All of this holds for any reader of arguments.
-/

namespace SampleTypes.CommandLine

open Json (Document)
open SampleTypes.Outcome (bind_eq_ok_iff)

/-- The second list comes from the first one by inserting items of a kind anywhere. -/
inductive Inserts {α : Type} (extra : α → Prop) : List α → List α → Prop
  | nil : Inserts extra [] []
  | keep (item : α) {items others : List α} (rest : Inserts extra items others) :
      Inserts extra (item :: items) (item :: others)
  | insert {item : α} {items others : List α} (isExtra : extra item) (rest : Inserts extra items others) :
      Inserts extra items (item :: others)

namespace Inserts

variable {α : Type} {extra other : α → Prop} {items others : List α}

theorem imp (weaker : ∀ item, extra item → other item) (inserts : Inserts extra items others) :
    Inserts other items others := by
  induction inserts with
  | nil => exact .nil
  | keep item _ induction => exact .keep item induction
  | insert isExtra _ induction => exact .insert (weaker _ isExtra) induction

theorem forall_mem (inserts : Inserts extra items others) (kept : ∀ item ∈ items, other item)
    (inserted : ∀ item, extra item → other item) : ∀ item ∈ others, other item := by
  induction inserts with
  | nil => exact List.forall_mem_nil _
  | keep item _ induction =>
      obtain ⟨first, kept⟩ := List.forall_mem_cons.mp kept
      exact List.forall_mem_cons.mpr ⟨first, induction kept⟩
  | insert isExtra _ induction => exact List.forall_mem_cons.mpr ⟨inserted _ isExtra, induction kept⟩

theorem ne_nil (inserts : Inserts extra items others) (nonempty : items ≠ []) : others ≠ [] := by
  cases inserts with
  | nil => exact nonempty
  | keep | insert => exact List.cons_ne_nil _ _

end Inserts

/-- The second list of arguments comes from the first one by inserting inputs of a kind anywhere but between an
option and its value. -/
inductive InsertsInputs (extra : String → Prop) : List String → List String → Prop
  | nil : InsertsInputs extra [] []
  | insert {input : String} {arguments others : List String} (isExtra : extra input)
      (isInput : Argument.ofText input = .ok .input) (rest : InsertsInputs extra arguments others) :
      InsertsInputs extra arguments (input :: others)
  | keepInput {input : String} {arguments others : List String} (isInput : Argument.ofText input = .ok .input)
      (rest : InsertsInputs extra arguments others) : InsertsInputs extra (input :: arguments) (input :: others)
  | keepFlag {flag : String} {arguments others : List String} (isFlag : Argument.ofText flag = .ok .spread)
      (rest : InsertsInputs extra arguments others) : InsertsInputs extra (flag :: arguments) (flag :: others)
  | keepAssignment {argument value : String} {option : OptionName} {arguments others : List String}
      (assigns : Argument.ofText argument = .ok (.assignment option (some value)))
      (rest : InsertsInputs extra arguments others) : InsertsInputs extra (argument :: arguments) (argument :: others)
  | keepOption {argument value : String} {option : OptionName} {arguments others : List String}
      (isOption : Argument.ofText argument = .ok (.assignment option none))
      (rest : InsertsInputs extra arguments others) :
      InsertsInputs extra (argument :: value :: arguments) (argument :: value :: others)
  | behindMark {arguments others : List String} (rest : Inserts extra arguments others) :
      InsertsInputs extra ("--" :: arguments) ("--" :: others)

namespace Arguments

variable {argument : String} {rest : List String}

theorem ne_mark_of_meaning {meaning : Argument} (means : Argument.ofText argument = .ok meaning) :
    argument ≠ "--" := by
  rintro rfl
  cases means

theorem ofTexts_input (isInput : Argument.ofText argument = .ok .input) :
    ofTexts (argument :: rest) = (ofTexts rest).map (withInput argument) := by
  rw [ofTexts, if_neg (ne_mark_of_meaning isInput), isInput]

theorem ofTexts_flag (isFlag : Argument.ofText argument = .ok .spread) :
    ofTexts (argument :: rest) = (ofTexts rest).map withSpread := by
  rw [ofTexts, if_neg (ne_mark_of_meaning isFlag), isFlag]

theorem ofTexts_assignment {option : OptionName} {value : String}
    (assigns : Argument.ofText argument = .ok (.assignment option (some value))) :
    ofTexts (argument :: rest) = (ofTexts rest).map (withOption option value) := by
  rw [ofTexts, if_neg (ne_mark_of_meaning assigns), assigns]

theorem ofTexts_option {option : OptionName} {value : String}
    (isOption : Argument.ofText argument = .ok (.assignment option none)) :
    ofTexts (argument :: value :: rest) = (ofTexts rest).map (withOption option value) := by
  rw [ofTexts, if_neg (ne_mark_of_meaning isOption), isOption]

variable {extra : String → Prop}

/-- The inputs in the second outcome come from those in the first one by inserting some, and all else is the same. -/
def InsertedInputs (extra : String → Prop) (before after : Except UsageFault Arguments) : Prop :=
  ∀ parsed, before = .ok parsed →
    ∃ inputs, after = .ok { parsed with inputs } ∧ Inserts extra parsed.inputs inputs

theorem InsertedInputs.map {before after : Except UsageFault Arguments} (inserted : InsertedInputs extra before after)
    {change : Arguments → Arguments}
    (keepsInputs : ∀ parsed inputs, change { parsed with inputs } = { change parsed with inputs } ∧
      (change parsed).inputs = parsed.inputs) :
    InsertedInputs extra (before.map change) (after.map change) := by
  intro parsed success
  cases before with
  | error fault => cases success
  | ok first =>
      cases success
      obtain ⟨inputs, rfl, inserts⟩ := inserted first rfl
      obtain ⟨sameRest, sameInputs⟩ := keepsInputs first inputs
      rw [← sameInputs] at inserts
      exact ⟨inputs, congrArg Except.ok sameRest, inserts⟩

/-- Inserted inputs are read in their places, and everything else is read as before. -/
theorem insertedInputs_ofTexts {arguments others : List String} (inserts : InsertsInputs extra arguments others) :
    InsertedInputs extra (ofTexts arguments) (ofTexts others) := by
  induction inserts with
  | nil =>
      rintro parsed ⟨⟩
      exact ⟨[], rfl, .nil⟩
  | @insert input arguments others isExtra isInput rest induction =>
      intro parsed success
      obtain ⟨inputs, read, inserts⟩ := induction parsed success
      rw [ofTexts_input isInput, read]
      exact ⟨input :: inputs, rfl, .insert isExtra inserts⟩
  | @keepInput input arguments others isInput rest induction =>
      intro parsed success
      rw [ofTexts_input isInput] at success ⊢
      cases outcome : ofTexts arguments with
      | error fault =>
          rw [outcome] at success
          cases success
      | ok first =>
          rw [outcome] at success
          cases success
          obtain ⟨inputs, read, inserts⟩ := induction first outcome
          rw [read]
          exact ⟨input :: inputs, rfl, .keep input inserts⟩
  | keepFlag isFlag rest induction =>
      rw [ofTexts_flag isFlag, ofTexts_flag isFlag]
      exact induction.map fun _ _ => ⟨rfl, rfl⟩
  | keepAssignment assigns rest induction =>
      rw [ofTexts_assignment assigns, ofTexts_assignment assigns]
      exact induction.map fun _ _ => ⟨rfl, rfl⟩
  | keepOption isOption rest induction =>
      rw [ofTexts_option isOption, ofTexts_option isOption]
      exact induction.map fun _ _ => ⟨rfl, rfl⟩
  | behindMark rest =>
      rintro parsed ⟨⟩
      exact ⟨_, rfl, rest⟩

end Arguments

namespace Request

/-- Inputs count for a request only as its inputs, and there must be some. -/
theorem ofArguments_inputs {arguments : Arguments} {request : Request} (success : ofArguments arguments = .ok request) :
    request.inputs = arguments.inputs ∧ arguments.inputs ≠ [] ∧
      ∀ inputs, inputs ≠ [] → ofArguments { arguments with inputs } = .ok { request with inputs } := by
  have sameUnderstood {α : Type} (inputs : List String) (option : OptionName) (understand? : String → Option α) :
      ({ arguments with inputs } : Arguments).understood option understand? =
        arguments.understood option understand? := rfl
  obtain ⟨mode, readMode, success⟩ := bind_eq_ok_iff.mp success
  obtain ⟨indent, readIndent, success⟩ := bind_eq_ok_iff.mp success
  obtain ⟨indentType, readIndentType, success⟩ := bind_eq_ok_iff.mp success
  obtain ⟨arrayStyle, readArrayStyle, success⟩ := bind_eq_ok_iff.mp success
  cases isEmpty : arguments.inputs.isEmpty with
  | true =>
      rw [isEmpty] at success
      cases success
  | false =>
      rw [isEmpty] at success
      cases success
      refine ⟨rfl, List.isEmpty_eq_false_iff.mp isEmpty, fun inputs nonempty => ?_⟩
      have someInputs : inputs.isEmpty = false := List.isEmpty_eq_false_iff.mpr nonempty
      rw [ofArguments, sameUnderstood inputs, readMode, sameUnderstood inputs, readIndent, sameUnderstood inputs,
        readIndentType, sameUnderstood inputs, readArrayStyle]
      simp only [bind, Except.bind, someInputs]
      rfl

theorem ofTexts_eq_ok_iff {texts : List String} {request : Request} :
    ofTexts texts = .ok request ↔
      ∃ arguments, Arguments.ofTexts texts = .ok arguments ∧ arguments.help = false ∧
        ofArguments arguments = .ok request := by
  unfold ofTexts
  cases Arguments.ofTexts texts with
  | error fault => simp [Except.mapError, bind, Except.bind]
  | ok arguments =>
      cases help : arguments.help with
      | true => simp [Except.mapError, bind, Except.bind, help, throw, throwThe, MonadExceptOf.throw]
      | false =>
          cases understood : ofArguments arguments <;>
            simp [Except.mapError, bind, Except.bind, help, understood]

/-- Arguments with inserted inputs ask for the same request with these inputs inserted. -/
theorem ofTexts_of_insertsInputs {extra : String → Prop} {arguments others : List String} {request : Request}
    (inserts : InsertsInputs extra arguments others) (success : ofTexts arguments = .ok request) :
    ∃ inputs, ofTexts others = .ok { request with inputs } ∧ Inserts extra request.inputs inputs := by
  obtain ⟨parsed, read, noHelp, success⟩ := ofTexts_eq_ok_iff.mp success
  obtain ⟨inputs, othersRead, insertsInputs⟩ := Arguments.insertedInputs_ofTexts inserts parsed read
  obtain ⟨sameInputs, nonempty, othersSuccess⟩ := ofArguments_inputs success
  refine ⟨inputs, ofTexts_eq_ok_iff.mpr ⟨_, othersRead, noHelp, othersSuccess _ (insertsInputs.ne_nil nonempty)⟩, ?_⟩
  rwa [sameInputs]

end Request

/-- The file that an input names holds a document. -/
def Reads (tree : FileTree) (input : String) (document : Document) : Prop :=
  readDocument tree (Path.ofText input) = .ok document

/-- An input gives samples. -/
def Gives (tree : FileTree) (spread : Bool) (input : String) (documents : List Document) : Prop :=
  contribution tree spread (Path.ofText input) = .ok documents

/-- Why an input gives no samples: it cannot be read or parsed, or lists are spread and it holds no list. -/
inductive Skips (tree : FileTree) (spread : Bool) (input : String) : Prop
  | unreadable {fault : ReadFault} (failed : readDocument tree (Path.ofText input) = .error fault)
  | notAList {document : Document} (spreads : spread = true) (reads : Reads tree input document)
      (noList : ∀ items, document ≠ .list items)

namespace Outcome

/-- The outcome with notices in front of its own. -/
def after (notices : List Notice) (outcome : Outcome) : Outcome :=
  { outcome with notices := notices ++ outcome.notices }

/-- The outcome without what is told about inputs that give no samples. -/
def withoutSkips (outcome : Outcome) : Outcome :=
  { outcome with
    notices := outcome.notices.filter fun notice =>
      match notice with
      | .skipped _ => false
      | _ => true }

/-- No declaration is printed, no file is written, and the files are the given ones. -/
structure ProducesNothing (tree : FileTree) (outcome : Outcome) : Prop where
  nothingPrinted : ∀ declaration, .declaration declaration ∉ outcome.notices
  nothingAdded : outcome.added = none
  sameTree : outcome.tree = tree

theorem withoutSkips_after (skips : List Skip) (outcome : Outcome) :
    (outcome.after (skips.map .skipped)).withoutSkips = outcome.withoutSkips := by
  have noneLeft : (skips.map Notice.skipped).filter (fun notice =>
      match notice with
      | .skipped _ => false
      | _ => true) = [] := by
    rw [List.filter_eq_nil_iff]
    intro notice member
    obtain ⟨skip, -, rfl⟩ := List.mem_map.mp member
    exact Bool.false_ne_true
  rw [withoutSkips, after, List.filter_append, noneLeft]
  rfl

end Outcome

section Contributions

variable {tree : FileTree} {spread : Bool} {input : String}

theorem contribution_of_skips (skips : Skips tree spread input) :
    ∃ skip, contribution tree spread (Path.ofText input) = .error skip := by
  cases skips with
  | @unreadable fault failed => exact ⟨_, by rw [contribution, failed]⟩
  | @notAList document spreads reads noList =>
      refine ⟨.notAList (Path.ofText input), ?_⟩
      subst spreads
      rw [contribution, reads]
      cases document with
      | list items => exact absurd rfl (noList items)
      | _ => rfl

theorem gives_of_reads {document : Document} (reads : Reads tree input document) :
    Gives tree false input [document] := by
  rw [Gives, contribution, reads]
  rfl

theorem gives_of_reads_list {items : List Document} (reads : Reads tree input (.list items)) :
    Gives tree true input items := by
  rw [Gives, contribution, reads]
  rfl

end Contributions

namespace Request

/-- The samples that the inputs of a request give, in order. -/
def samples (tree : FileTree) (request : Request) : List Document :=
  allSamples (request.contributions tree)

/-- What comes of the document that the samples of a request stand for, if there are any. -/
def conclude (tree : FileTree) (request : Request) : Option Document → Outcome
  | none => { ending := .refused, notices := [.noSamples], tree := tree }
  | some document =>
    match request.declare document with
    | .error fault => { ending := .crashed (.typing fault), tree := tree }
    | .ok declaration => request.deliver tree [] declaration

variable {tree : FileTree} {request : Request}

theorem deliver_eq (notices : List Notice) (declaration : String) :
    request.deliver tree notices declaration = (request.deliver tree [] declaration).after notices := by
  unfold deliver
  split
  · split
    · rw [Outcome.after, List.append_nil]
    · rfl
  · split
    · rw [Outcome.after, List.append_nil]
    · dsimp only
      split
      · rw [Outcome.after, List.append_nil]
      · rfl

/-- What comes of a document depends on neither the inputs nor whether lists are spread. -/
theorem conclude_eq (inputs : List String) (spread : Bool) (document : Option Document) :
    ({ request with inputs, spread } : Request).conclude tree document = request.conclude tree document := by
  cases document with
  | none => rfl
  | some document =>
      have sameDeclared : ({ request with inputs, spread } : Request).declare document = request.declare document := by
        rw [declare, declare]
      have sameDelivered : ({ request with inputs, spread } : Request).deliver tree = request.deliver tree := by
        have sameTarget : ({ request with inputs, spread } : Request).target = request.target := rfl
        have samePrinting : ({ request with inputs, spread } : Request).printsDeclaration =
            request.printsDeclaration := rfl
        funext notices declaration
        simp only [deliver, sameTarget, samePrinting]
      simp only [conclude, sameDeclared, sameDelivered]

/-- A request is fulfilled by what its samples stand for, behind what is told about the other inputs. -/
theorem fulfil_eq (tree : FileTree) (request : Request) :
    request.fulfil tree =
      (request.conclude tree (joined? request.spread (request.samples tree))).after
        ((allSkips (request.contributions tree)).map .skipped) := by
  unfold fulfil samples
  dsimp only
  cases joined? request.spread (allSamples (request.contributions tree)) with
  | none => rfl
  | some document =>
      dsimp only [conclude]
      cases request.declare document with
      | error fault =>
          dsimp only
          rw [Outcome.after, List.append_nil]
      | ok declaration => exact deliver_eq _ _

/-- A target that is there already is refused whatever the inputs give. -/
theorem outcome_congr {other : Request} (sameTarget : other.obstacle? tree = request.obstacle? tree)
    (same : other.fulfil tree = request.fulfil tree) : other.outcome tree = request.outcome tree := by
  rw [outcome, outcome, sameTarget, same]

section SameOptions

variable {inputs : List String}

/-- Inputs that give the same samples lead to the same outcome, apart from what is told about others. -/
theorem withoutSkips_outcome_eq
    (sameSamples : ({ request with inputs } : Request).samples tree = request.samples tree) :
    (({ request with inputs } : Request).outcome tree).withoutSkips =
      (request.outcome tree).withoutSkips := by
  have sameFulfilled : (({ request with inputs } : Request).fulfil tree).withoutSkips =
      (request.fulfil tree).withoutSkips := by
    rw [fulfil_eq, fulfil_eq, Outcome.withoutSkips_after, Outcome.withoutSkips_after, sameSamples, conclude_eq]
  have sameTarget : ({ request with inputs } : Request).obstacle? tree = request.obstacle? tree := rfl
  rw [outcome, outcome, sameTarget]
  split
  · rfl
  · rfl
  · exact sameFulfilled

theorem samples_of_inserts (inserts : Inserts (Skips tree request.spread) request.inputs inputs) :
    ({ request with inputs } : Request).samples tree = request.samples tree := by
  unfold samples contributions allSamples
  generalize request.inputs = originals at inserts
  dsimp only
  induction inserts with
  | nil => rfl
  | keep item rest induction =>
      rw [List.map_cons, List.map_cons, List.flatMap_cons, List.flatMap_cons, induction]
  | insert isExtra rest induction =>
      obtain ⟨skip, skipped⟩ := contribution_of_skips isExtra
      rw [List.map_cons, List.flatMap_cons, skipped, induction]
      rfl

end SameOptions

/-- Inputs that all give samples give them one after the other, and none of them is skipped. -/
theorem samples_of_gives {given : List (List Document)}
    (gives : List.Forall₂ (Gives tree request.spread) request.inputs given) :
    request.samples tree = given.flatten ∧ allSkips (request.contributions tree) = [] := by
  have sameContributions : request.contributions tree = given.map .ok := by
    rw [← List.forall₂_eq_eq_eq, contributions, List.forall₂_map_left_iff, List.forall₂_map_right_iff]
    exact gives
  unfold samples
  rw [sameContributions]
  constructor
  · rw [allSamples, List.flatMap_map]
    exact List.flatMap_id'
  · rw [allSkips, List.filterMap_map]
    exact List.filterMap_eq_nil_iff.mpr fun _ _ => rfl

/-- Inputs that all give samples may be replaced by others if the samples stand for the same document. -/
theorem outcome_eq_of_gives {inputs : List String} {spread : Bool} {given others : List (List Document)}
    (gives : List.Forall₂ (Gives tree request.spread) request.inputs given)
    (othersGive : List.Forall₂ (Gives tree spread) inputs others)
    (sameDocument : joined? spread others.flatten = joined? request.spread given.flatten) :
    ({ request with inputs, spread } : Request).outcome tree = request.outcome tree := by
  obtain ⟨samples, noSkips⟩ := samples_of_gives gives
  obtain ⟨otherSamples, noOtherSkips⟩ : ({ request with inputs, spread } : Request).samples tree = others.flatten ∧
      allSkips (({ request with inputs, spread } : Request).contributions tree) = [] :=
    samples_of_gives othersGive
  have sameTarget : ({ request with inputs, spread } : Request).obstacle? tree = request.obstacle? tree := rfl
  apply outcome_congr sameTarget
  rw [fulfil_eq, fulfil_eq, noSkips, noOtherSkips, samples, otherSamples, conclude_eq, sameDocument]

/-- Without samples every request is refused or crashes, and nothing comes of it. -/
theorem outcome_of_no_samples (noSamples : request.samples tree = []) :
    (request.outcome tree).ending.exitCode = 1 ∧ (request.outcome tree).ProducesNothing tree := by
  have fulfilled : request.fulfil tree =
      { ending := .refused
        notices := (allSkips (request.contributions tree)).map .skipped ++ [.noSamples]
        tree := tree } := by
    rw [fulfil_eq, noSamples]
    rfl
  rw [outcome, fulfilled]
  split
  · exact ⟨rfl, by simp, rfl, rfl⟩
  · exact ⟨rfl, by simp, rfl, rfl⟩
  · exact ⟨rfl, by simp, rfl, rfl⟩

end Request

/-- An input is a file or a folder that is there. -/
def Present (tree : FileTree) (input : String) : Prop :=
  ∃ entry, tree.findSpelled input = .ok entry

theorem inputStop?_eq_none_iff {tree : FileTree} {inputs : List String} :
    inputStop? tree inputs = none ↔ ∀ input ∈ inputs, Present tree input := by
  induction inputs with
  | nil => simp [inputStop?]
  | cons input inputs induction =>
      rw [List.forall_mem_cons, inputStop?, Present]
      split
      case h_1 entry found => simp [induction, found]
      all_goals simp_all

section Reading

variable {tree : FileTree} {arguments others : List String} {request : Request}

theorem readArguments_eq_ok_iff :
    readArguments tree arguments = .ok request ↔
      Request.ofTexts arguments = .ok request ∧ ∀ input ∈ request.inputs, Present tree input := by
  rw [readArguments, bind_eq_ok_iff]
  constructor
  · rintro ⟨asked, isRequest, success⟩
    split at success
    · cases success
    case h_2 nonstop =>
      cases success
      exact ⟨isRequest, inputStop?_eq_none_iff.mp nonstop⟩
  · rintro ⟨isRequest, present⟩
    exact ⟨request, isRequest, by rw [inputStop?_eq_none_iff.mpr present]; rfl⟩

/-- Arguments with inserted inputs that are there are read as the same request with these inputs inserted. -/
theorem readArguments_of_insertsInputs {extra : String → Prop} (reads : readArguments tree arguments = .ok request)
    (inserts : InsertsInputs (fun input => Present tree input ∧ extra input) arguments others) :
    ∃ inputs, readArguments tree others = .ok { request with inputs } ∧ Inserts extra request.inputs inputs := by
  obtain ⟨isRequest, present⟩ := readArguments_eq_ok_iff.mp reads
  obtain ⟨inputs, othersRequest, inserted⟩ := Request.ofTexts_of_insertsInputs inserts isRequest
  refine ⟨inputs, readArguments_eq_ok_iff.mpr ⟨othersRequest, ?_⟩, inserted.imp fun _ => And.right⟩
  exact inserted.forall_mem present fun _ => And.left

end Reading

section Readers

variable {reader : ArgumentReader} {tree : FileTree} {arguments : List String}

theorem Outcome.ofArguments_of_request {request : Request} (reads : reader tree arguments = .ok request) :
    Outcome.ofArguments reader tree arguments = request.outcome tree := by
  rw [Outcome.ofArguments, reads]

/-- Nothing comes of arguments that the reader answers itself. -/
theorem Outcome.ofArguments_of_stop {stop : Stop} (stops : reader tree arguments = .error stop) :
    (Outcome.ofArguments reader tree arguments).ending.exitCode = stop.exitCode ∧
      (Outcome.ofArguments reader tree arguments).ProducesNothing tree := by
  rw [Outcome.ofArguments, stops]
  exact ⟨rfl, by simp, rfl, rfl⟩

end Readers

/-- Two samples or more stand for the list of them, spread or not. -/
theorem joined?_of_several {spread : Bool} {documents : List Document} (several : 2 ≤ documents.length) :
    joined? spread documents = some (.list documents) := by
  match documents, several with
  | first :: second :: rest, _ => rfl

theorem joined?_of_spread {documents : List Document} (nonempty : documents ≠ []) :
    joined? true documents = some (.list documents) := by
  match documents, nonempty with
  | [document], _ => rfl
  | first :: second :: rest, _ => rfl

section Replaced

variable {tree : FileTree} {request : Request} {input : String}

/-- Several documents have the outcome of the list of them. -/
theorem Request.outcome_of_several {documents : List Document} (notSpread : request.spread = false)
    (several : 2 ≤ documents.length) (reads : List.Forall₂ (Reads tree) request.inputs documents)
    (readsAll : Reads tree input (.list documents)) :
    ({ request with inputs := [input] } : Request).outcome tree = request.outcome tree := by
  have gives : List.Forall₂ (Gives tree request.spread) request.inputs (documents.map ([·])) := by
    rw [List.forall₂_map_right_iff, notSpread]
    exact reads.imp fun _ _ => gives_of_reads
  have givesAll : List.Forall₂ (Gives tree request.spread) [input] [[.list documents]] := by
    rw [notSpread]
    exact .cons (gives_of_reads readsAll) .nil
  refine outcome_eq_of_gives gives givesAll ?_
  calc joined? request.spread [[.list documents]].flatten
      = some (.list documents) := by rw [notSpread]; rfl
    _ = joined? request.spread documents := (joined?_of_several several).symm
    _ = joined? request.spread (documents.map ([·])).flatten := by rw [← List.flatMap_def, List.flatMap_singleton']

/-- Lists that are spread have the outcome of one list of all their items, spread or not. -/
theorem Request.outcome_of_spread {lists : List (List Document)} (spreads : request.spread = true)
    (nonempty : lists.flatten ≠ [])
    (reads : List.Forall₂ (fun input items => Reads tree input (.list items)) request.inputs lists)
    (readsAll : Reads tree input (.list lists.flatten)) (spread : Bool) :
    ({ request with inputs := [input], spread } : Request).outcome tree = request.outcome tree := by
  have gives : List.Forall₂ (Gives tree request.spread) request.inputs lists := by
    rw [spreads]
    exact reads.imp fun _ _ => gives_of_reads_list
  have joinedAll : joined? request.spread lists.flatten = some (.list lists.flatten) := by
    rw [spreads, joined?_of_spread nonempty]
  cases spread with
  | false =>
      have givesAll : Gives tree false input [.list lists.flatten] := gives_of_reads readsAll
      exact outcome_eq_of_gives gives (.cons givesAll .nil) joinedAll.symm
  | true =>
      have givesAll : Gives tree true input lists.flatten := gives_of_reads_list readsAll
      refine outcome_eq_of_gives gives (.cons givesAll .nil) ?_
      rw [List.flatten_cons, List.flatten_nil, List.append_nil, spreads]

end Replaced

/-- What comes of arguments that are read as a request depends on the samples alone, up to what is told about inputs
that give none.  Inputs without samples may be inserted anywhere; several documents may be replaced by one list of
them, and lists that are spread by one list of all their items, spread or not; and without samples nothing comes of
the request.  Nothing comes of arguments that the reader answers itself, and the exit code is that of the answer. -/
theorem outcome_of_samples (reader : ArgumentReader) (tree : FileTree) :
    (∀ request inputs arguments others, reader tree arguments = .ok request →
      reader tree others = .ok { request with inputs } → Inserts (Skips tree request.spread) request.inputs inputs →
      (Outcome.ofArguments reader tree others).withoutSkips = (Outcome.ofArguments reader tree arguments).withoutSkips) ∧
    (∀ request arguments others input documents, reader tree arguments = .ok request →
      reader tree others = .ok { request with inputs := [input] } → request.spread = false → 2 ≤ documents.length →
      List.Forall₂ (Reads tree) request.inputs documents → Reads tree input (.list documents) →
      Outcome.ofArguments reader tree others = Outcome.ofArguments reader tree arguments) ∧
    (∀ request arguments others input spread lists, reader tree arguments = .ok request →
      reader tree others = .ok { request with inputs := [input], spread } → request.spread = true → lists.flatten ≠ [] →
      List.Forall₂ (fun input items => Reads tree input (.list items)) request.inputs lists →
      Reads tree input (.list lists.flatten) →
      Outcome.ofArguments reader tree others = Outcome.ofArguments reader tree arguments) ∧
    (∀ request arguments, reader tree arguments = .ok request → request.samples tree = [] →
      (Outcome.ofArguments reader tree arguments).ending.exitCode = 1 ∧
        (Outcome.ofArguments reader tree arguments).ProducesNothing tree) ∧
    (∀ stop arguments, reader tree arguments = .error stop →
      (Outcome.ofArguments reader tree arguments).ending.exitCode = stop.exitCode ∧
        (Outcome.ofArguments reader tree arguments).ProducesNothing tree) := by
  refine ⟨?inserted, ?listed, ?spread, ?none, fun _ _ => Outcome.ofArguments_of_stop⟩
  case inserted =>
    intro request inputs arguments others reads othersRead inserts
    rw [Outcome.ofArguments_of_request reads, Outcome.ofArguments_of_request othersRead]
    exact Request.withoutSkips_outcome_eq (Request.samples_of_inserts inserts)
  case listed =>
    intro request arguments others input documents reads othersRead notSpread several documentsRead readsAll
    rw [Outcome.ofArguments_of_request reads, Outcome.ofArguments_of_request othersRead]
    exact Request.outcome_of_several notSpread several documentsRead readsAll
  case spread =>
    intro request arguments others input spread lists reads othersRead spreads nonempty listsRead readsAll
    rw [Outcome.ofArguments_of_request reads, Outcome.ofArguments_of_request othersRead]
    exact Request.outcome_of_spread spreads nonempty listsRead readsAll spread
  case none =>
    intro request arguments reads noSamples
    rw [Outcome.ofArguments_of_request reads]
    exact Request.outcome_of_no_samples noSamples

/-- Documents, lists of them, a file without a document, and a folder. -/
def sampleFolder : FileTree where
  files :=
    [(["one.json"], .text "1"), (["list.json"], .text "[2]"), (["both.json"], .text "[1, [2]]"),
      (["all.json"], .text "[1, [2], 2]"), (["broken.json"], .text "[1")]
  folders := [["folder"]]

/-- A request for a declaration that is printed. -/
def printing (inputs : List String) (spread : Bool) : Request where
  inputs := inputs
  spread := spread
  outputFile := some "-"
  typeName := Request.defaultTypeName
  settings := {}

/-- An input that is not there gives no samples, but with it the same arguments are no request. -/
theorem outcome_of_missing_input :
    InsertsInputs (Skips sampleFolder false) ["one.json", "--output-file=-"]
        ["one.json", "missing.json", "--output-file=-"] ∧
      readArguments sampleFolder ["one.json", "--output-file=-"] = .ok (printing ["one.json"] false) ∧
      (Outcome.ofArguments readArguments sampleFolder ["one.json", "--output-file=-"]).ending.exitCode = 0 ∧
      (Outcome.ofArguments readArguments sampleFolder
        ["one.json", "missing.json", "--output-file=-"]).ending.exitCode = 2 := by
  have notThere : readDocument sampleFolder (Path.ofText "missing.json") = .error (.file .missing) := by rfl
  have skipped : Skips sampleFolder false "missing.json" := .unreadable notThere
  have inserted : InsertsInputs (Skips sampleFolder false) ["one.json", "--output-file=-"]
      ["one.json", "missing.json", "--output-file=-"] :=
    .keepInput (by rfl) (.insert skipped (by rfl) (.keepAssignment (by rfl) .nil))
  exact ⟨inserted, by rfl, by decide +kernel, by decide +kernel⟩

/-- A request that only prints, with skipped inputs among the others, with two documents, with two lists that are
spread, and without samples; and arguments that ask for help. -/
theorem outcome_of_samples_in_sampleFolder :
    (Outcome.ofArguments readArguments sampleFolder
          ["broken.json", "one.json", "folder", "--output-file=-"]).withoutSkips =
        (Outcome.ofArguments readArguments sampleFolder ["one.json", "--output-file=-"]).withoutSkips ∧
      Outcome.ofArguments readArguments sampleFolder ["both.json", "--output-file=-"] =
        Outcome.ofArguments readArguments sampleFolder ["one.json", "list.json", "--output-file=-"] ∧
      Outcome.ofArguments readArguments sampleFolder ["all.json", "--output-file=-"] =
        Outcome.ofArguments readArguments sampleFolder ["both.json", "list.json", "--spread", "--output-file=-"] ∧
      (Outcome.ofArguments readArguments sampleFolder ["broken.json", "--output-file=-"]).ending.exitCode = 1 ∧
      (Outcome.ofArguments readArguments sampleFolder ["missing.json", "--output-file=-"]).ending.exitCode = 2 ∧
      (Outcome.ofArguments readArguments sampleFolder ["one.json", "--help"]).ending.exitCode = 0 := by
  obtain ⟨inserted, listed, spread, none, stopped⟩ := outcome_of_samples readArguments sampleFolder
  refine ⟨?_, ?_, ?_, ?_, ?_, ?_⟩
  · have reads : readArguments sampleFolder ["one.json", "--output-file=-"] = .ok (printing ["one.json"] false) := by rfl
    have present : ∀ input ∈ ["broken.json", "folder"], Present sampleFolder input :=
      inputStop?_eq_none_iff.mp (by rfl)
    have broken : Present sampleFolder "broken.json" ∧ Skips sampleFolder false "broken.json" :=
      ⟨present _ (by decide), .unreadable (by rfl)⟩
    have folder : Present sampleFolder "folder" ∧ Skips sampleFolder false "folder" :=
      ⟨present _ (by decide), .unreadable (by rfl)⟩
    obtain ⟨inputs, othersRead, inserts⟩ := readArguments_of_insertsInputs reads
      (.insert broken (by rfl) (.keepInput (by rfl) (.insert folder (by rfl) (.keepAssignment (by rfl) .nil))))
    exact inserted _ inputs _ _ reads othersRead inserts
  · refine listed (printing ["one.json", "list.json"] false) _ _ "both.json" [.integer 1, .list [.integer 2]]
      (by rfl) (by rfl) rfl (by decide) ?_ (by rfl)
    exact .cons (by rfl) (.cons (by rfl) .nil)
  · refine spread (printing ["both.json", "list.json"] true) _ _ "all.json" false
      [[.integer 1, .list [.integer 2]], [.integer 2]] (by rfl) (by rfl) rfl (List.cons_ne_nil _ _) ?_ (by rfl)
    exact .cons (by rfl) (.cons (by rfl) .nil)
  · exact (none (printing ["broken.json"] false) _ (by rfl) rfl).1
  · exact (stopped (UsageFault.missingInput "missing.json").stop _ (by rfl)).1
  · exact (stopped helpStop _ (by rfl)).1

end SampleTypes.CommandLine
