import SampleTypes.Proofs.Outcomes
import SampleTypes.Session

/-!
# Steps of a session

A step finds the settings that it starts from, applies its own options to them, and then acts under the result.
The settings and the options of a step say nothing about what it does, and what it does depends on them through
the result only, so each of the two parts is treated once for all steps.
-/

namespace SampleTypes

/-- The options that a step gives.  The mode of an inference is an option like any other. -/
def Step.options : Step → List NamedOption
  | .configure options => options
  | .deriveSnapshot _ options _ => options
  | .newInspector _ options _ => options
  | .deriveInspector _ options _ => options
  | .infer _ _ _ mode => mode.toList.map fun value => ⟨"mode", value⟩
  | .inferType _ _ _ mode => mode.toList.map fun value => ⟨"mode", value⟩
  | .takeSnapshot _ | .showSnapshot _ | .showInspector _ | .declare _ _ _ | .write _ _ _ _ | .read _ => []

/-- The functions that the options of a step pass through. -/
def Step.receivers : Step → List Receiver
  | .newInspector base _ _ => [.inspector base.isSome, .update]
  | .deriveInspector _ _ _ => [.derivedInspector, .inspector true, .update]
  | .configure _ | .deriveSnapshot _ _ _ | .infer _ _ _ _ | .inferType _ _ _ _ => [.update]
  | .takeSnapshot _ | .showSnapshot _ | .showInspector _ | .declare _ _ _ | .write _ _ _ _ | .read _ => []

namespace Session

variable {graph : Graph} {session after : Session}

theorem find_eq_ok_iff {α : Type} {named : Named α} {name : String} {found : α} :
    find named name = .ok found ↔ named.lookup name = some found := by
  unfold find
  cases named.lookup name <;> simp

theorem ofTyped_eq_ok_iff {α : Type} {typed : Typed α} {result : α} : ofTyped typed = .ok result ↔ typed = .ok result := by
  cases typed <;> simp [ofTyped, Except.mapError]

theorem ofPath_eq_ok_iff {α : Type} {path : Path} {outcome : Except PathFault α} {result : α} :
    ofPath path outcome = .ok result ↔ outcome = .ok result := by
  cases outcome <;> simp [ofPath, Except.mapError]

/-- The settings that a step starts from: those that it names, or the defaults of the moment. -/
def base (session : Session) : Step → Except StepFault Settings
  | .configure _ | .takeSnapshot _ | .newInspector none _ _ | .read _ => .ok session.defaults
  | .showSnapshot name | .deriveSnapshot name _ _ | .newInspector (some name) _ _ => find session.snapshots name
  | .deriveInspector name _ _ | .showInspector name => find session.inspectors name
  | .infer target _ _ _ => session.settingsOf target
  | .inferType name _ _ _ | .declare name _ _ | .write name _ _ _ => find session.inspectors name

/-- What a step does under given settings. -/
def act (graph : Graph) (session : Session) (settings : Settings) : Step → Except StepFault (Session × Reply)
  | .configure _ => .ok ({ session with defaults := settings }, .settings settings)
  | .takeSnapshot name | .deriveSnapshot _ _ name =>
      .ok ({ session with snapshots := keep name settings session.snapshots }, .settings settings)
  | .newInspector _ _ name | .deriveInspector _ _ name =>
      .ok ({ session with inspectors := keep name settings session.inspectors }, .settings settings)
  | .showSnapshot _ | .showInspector _ => .ok (session, .settings settings)
  | .infer _ value depth _ => do
      return (session, .text (← ofTyped (graph.inferText settings value depth)))
  | .inferType _ value depth _ => do
      return (session, .type (← ofTyped (graph.infer settings value depth)))
  | .declare _ typeName value => do
      return (session, .text (← ofTyped (graph.declaration settings typeName value)))
  | .write _ path typeName value => do
      if (← ofPath path (session.tree.occupied? path)).isSome then throw (.file .taken path)
      let declaration ← ofTyped (graph.declaration settings typeName value)
      let (tree, fault?) ← ofPath path (session.tree.write path declaration)
      return ({ session with tree := tree }, .ofWrite declaration fault?)
  | .read path => do
      return (session, .content (← ofPath path (session.tree.read path)))

theorem step_eq (graph : Graph) (session : Session) (next : Step) :
    session.step graph next = (do
      let base ← session.base next
      let settings ← ofOptions (base.updated graph next.options next.receivers)
      session.act graph settings next) := by
  have sameMode (settings : Settings) (mode : Option Value) :
      settings.withMode graph mode = settings.updated graph (mode.toList.map fun value => ⟨"mode", value⟩) := by
    cases mode <;> rfl
  cases next with
  | newInspector base options name => cases base <;> rfl
  | infer target value depth mode => simp only [step, base, act, Step.options, Step.receivers, sameMode]
  | inferType name value depth mode => simp only [step, base, act, Step.options, Step.receivers, sameMode]
  | _ => rfl

/-- What is written where nothing lies is the declaration of a value, and nothing but the files changes. -/
theorem act_write_eq_ok {settings : Settings} {inspector typeName : String} {path : Path} {value : Value} {reply : Reply}
    (acted : session.act graph settings (.write inspector path typeName value) = .ok (after, reply)) :
    ∃ declaration tree fault?, session.tree.occupied? path = .ok none ∧
      graph.declaration settings typeName value = .ok declaration ∧
      session.tree.write path declaration = .ok (tree, fault?) ∧ after = { session with tree := tree } ∧
      reply = .ofWrite declaration fault? := by
  obtain ⟨occupant, checked, acted⟩ := Outcome.bind_eq_ok_iff.mp acted
  cases occupant with
  | some location => cases acted
  | none =>
      obtain ⟨declaration, declared, acted⟩ := Outcome.bind_eq_ok_iff.mp acted
      obtain ⟨⟨tree, fault?⟩, written, same⟩ := Outcome.bind_eq_ok_iff.mp acted
      cases same
      exact ⟨declaration, tree, fault?, ofPath_eq_ok_iff.mp checked, ofTyped_eq_ok_iff.mp declared,
        ofPath_eq_ok_iff.mp written, rfl, rfl⟩

section Runs

theorem run_cons (next : Step) (steps : List Step) :
    (session.run graph (next :: steps)).1 = ((session.perform graph next).1.run graph steps).1 :=
  rfl

theorem run_append (first second : List Step) :
    (session.run graph (first ++ second)).1 = ((session.run graph first).1.run graph second).1 := by
  induction first generalizing session with
  | nil => rfl
  | cons next steps induction =>
      rw [List.cons_append, run_cons, run_cons]
      exact induction

/-- What each step keeps holds after a run. -/
theorem run_keeps (property : Session → Prop)
    (kept : ∀ session next, property session → property (session.perform graph next).1) (steps : List Step)
    (holds : property session) : property (session.run graph steps).1 := by
  induction steps generalizing session with
  | nil => exact holds
  | cons next later induction => exact induction (kept session next holds)

end Runs

end Session

end SampleTypes
