import SampleTypes.Proofs.Entries
import SampleTypes.Proofs.Overriding
import SampleTypes.Proofs.SessionSteps

/-!
# Settings of a session

A step acts under the settings that it starts from, overridden by its own options; it may file these settings under a
name or make them the defaults.  What is filed is never changed, so only the defaults follow from the whole history:
they are the first ones, overridden by everything that they have been configured with.
-/

namespace SampleTypes

namespace Step

/-- Whether a step replaces the defaults. -/
def configures : Step → Bool
  | .configure _ => true
  | _ => false

/-- The name under which a step files settings as a snapshot. -/
def snapshotName? : Step → Option String
  | .takeSnapshot name | .deriveSnapshot _ _ name => name
  | _ => none

/-- The name under which a step files the settings of an inspector. -/
def inspectorName? : Step → Option String
  | .newInspector _ _ name | .deriveInspector _ _ name => name
  | _ => none

/-- The options that a step applies to the defaults; those of a call with one at fault are not applied. -/
def configured (graph : Graph) (next : Step) : List NamedOption :=
  if next.configures ∧ graph.Accepts next.receivers next.options then next.options else []

end Step

namespace Session

variable {graph : Graph} {session after : Session} {next : Step} {settings : Settings}

/-- A step acts under settings that come from its base and its own options. -/
structure ActsUnder (graph : Graph) (session : Session) (next : Step) (settings : Settings) : Prop where
  derived : ∃ base, session.base next = .ok base ∧ base.Derives next.options settings
  accepts : graph.Accepts next.receivers next.options
  step_eq : session.step graph next = session.act graph settings next

/-- What becomes of the settings that a session holds when a step acts under given ones: they become the defaults, or
they are filed under a name, and everything else stays. -/
structure Files (session : Session) (next : Step) (settings : Settings) (after : Session) : Prop where
  defaults : after.defaults = if next.configures then settings else session.defaults
  snapshots : after.snapshots = keep next.snapshotName? settings session.snapshots
  inspectors : after.inspectors = keep next.inspectorName? settings session.inspectors

/-- A step acts, or its base is unknown or one of its options at fault, and then nothing comes of it. -/
theorem step_cases (graph : Graph) (session : Session) (next : Step) :
    (∃ settings, session.ActsUnder graph next settings) ∨
      ∃ fault, session.step graph next = .error fault ∧
        (session.base next = .error fault ∨
          (¬graph.Accepts next.receivers next.options ∧ ∃ cause, fault = .options cause ∧
            cause.Arises graph next.receivers next.options)) := by
  have step := step_eq graph session next
  cases isBase : session.base next with
  | error fault =>
      rw [isBase] at step
      exact .inr ⟨fault, step, .inl rfl⟩
  | ok base =>
      rw [isBase] at step
      obtain ⟨accepts, settings, updated, derives⟩ | ⟨refuses, cause, failed, arises⟩ :=
        base.updated_cases graph next.options next.receivers
      · left
        refine ⟨settings, ⟨base, isBase, derives⟩, accepts, ?_⟩
        dsimp only [bind, Except.bind] at step
        rw [updated] at step
        exact step
      · right
        refine ⟨.options cause, ?_, .inr ⟨refuses, cause, rfl, arises⟩⟩
        dsimp only [bind, Except.bind] at step
        rw [failed] at step
        exact step

theorem files_of_act {reply : Reply} (acted : session.act graph settings next = .ok (after, reply)) :
    session.Files next settings after := by
  cases next with
  | write inspector path typeName value =>
      obtain ⟨declaration, tree, fault?, -, -, -, rfl, -⟩ := act_write_eq_ok acted
      exact ⟨rfl, rfl, rfl⟩
  | infer | inferType | declare | read =>
      obtain ⟨_, -, same⟩ := Outcome.bind_eq_ok_iff.mp acted
      cases same
      exact ⟨rfl, rfl, rfl⟩
  | _ =>
      cases acted
      exact ⟨rfl, rfl, rfl⟩

theorem session_of_error {fault : StepFault} (failed : (session.perform graph next).2 = .error fault) :
    (session.perform graph next).1 = session := by
  unfold perform at failed ⊢
  cases outcome : session.step graph next with
  | error fault => rfl
  | ok result =>
      rw [outcome] at failed
      cases failed

/-- A step that acts and succeeds files the settings that it acts under. -/
theorem ActsUnder.files {reply : Reply} (acts : session.ActsUnder graph next settings)
    (succeeded : (session.perform graph next).2 = .ok reply) :
    session.Files next settings (session.perform graph next).1 := by
  unfold perform at succeeded ⊢
  cases outcome : session.step graph next with
  | error fault =>
      rw [outcome] at succeeded
      cases succeeded
  | ok result => exact files_of_act (acts.step_eq.symm.trans outcome)

/-- A step changes nothing, or files the settings that it acts under. -/
theorem files_of_perform (graph : Graph) (session : Session) (next : Step) :
    (session.perform graph next).1 = session ∨
      ∃ settings, session.ActsUnder graph next settings ∧
        session.Files next settings (session.perform graph next).1 := by
  cases outcome : (session.perform graph next).2 with
  | error fault => exact .inl (session_of_error outcome)
  | ok reply =>
      obtain ⟨settings, acts⟩ | ⟨fault, failed, -⟩ := step_cases graph session next
      · exact .inr ⟨settings, acts, acts.files outcome⟩
      · rw [perform, failed] at outcome
        cases outcome

/-- A call that configures the defaults overrides them, or leaves them if one of its options is at fault. -/
theorem defaults_of_configure (graph : Graph) (session : Session) (options : List NamedOption) :
    session.defaults.Derives ((Step.configure options).configured graph)
      (session.perform graph (.configure options)).1.defaults := by
  obtain ⟨settings, ⟨base, ⟨⟩, derives⟩, accepts, acts⟩ | ⟨fault, failed, unknown | ⟨refuses, -⟩⟩ :=
    step_cases graph session (.configure options)
  · have applied : (Step.configure options).configured graph = options := if_pos ⟨rfl, accepts⟩
    rw [applied, perform, acts]
    exact derives
  · cases unknown
  · have nothing : (Step.configure options).configured graph = [] := if_neg fun asked => refuses asked.2
    rw [nothing, perform, failed]
    exact .refl _

theorem defaults_of_perform (graph : Graph) (session : Session) (next : Step) :
    session.defaults.Derives (next.configured graph) (session.perform graph next).1.defaults := by
  cases configures : next.configures with
  | false =>
      have nothing : next.configured graph = [] := if_neg fun asked => Bool.false_ne_true (configures.symm.trans asked.1)
      have same : (session.perform graph next).1.defaults = session.defaults := by
        obtain same | ⟨settings, -, files⟩ := files_of_perform graph session next
        · rw [same]
        · rw [files.defaults, configures]
          rfl
      rw [nothing, same]
      exact .refl _
  | true =>
      cases next with
      | configure options => exact defaults_of_configure graph session options
      | _ => cases configures

/-- The defaults after a run are those before it, overridden by everything that is configured. -/
theorem defaults_of_run (graph : Graph) (session : Session) (steps : List Step) :
    session.defaults.Derives (steps.flatMap (Step.configured graph)) (session.run graph steps).1.defaults := by
  induction steps generalizing session with
  | nil => exact .refl _
  | cons next later induction =>
      rw [List.flatMap_cons, run_cons]
      exact (defaults_of_perform graph session next).trans (induction _)

section ForEver

theorem keep_suffix {α : Type} (name : Option String) (thing : α) (named : Named α) :
    named <:+ keep name thing named := by
  cases name with
  | none => exact List.suffix_refl named
  | some name => exact List.suffix_cons _ named

theorem lookup_keep {α : Type} {name : Option String} {other : String} (differ : name ≠ some other) (thing : α)
    (named : Named α) : (keep name thing named).lookup other = named.lookup other := by
  cases name with
  | none => rfl
  | some name =>
      have differ : other ≠ name := fun same => differ (same ▸ rfl)
      exact lookup_cons_of_ne differ named

/-- What is filed stays filed. -/
theorem suffix_of_run (graph : Graph) (session : Session) (steps : List Step) :
    session.snapshots <:+ (session.run graph steps).1.snapshots ∧
      session.inspectors <:+ (session.run graph steps).1.inspectors := by
  refine run_keeps (fun later => session.snapshots <:+ later.snapshots ∧ session.inspectors <:+ later.inspectors) ?_ steps
    ⟨List.suffix_refl _, List.suffix_refl _⟩
  intro later next suffixes
  obtain same | ⟨settings, -, files⟩ := files_of_perform graph later next
  · rw [same]
    exact suffixes
  · rw [files.snapshots, files.inspectors]
    exact ⟨suffixes.1.trans (keep_suffix _ _ _), suffixes.2.trans (keep_suffix _ _ _)⟩

/-- A name stands for the same settings until something else is filed under it. -/
theorem lookup_of_run (graph : Graph) (session : Session) (steps : List Step) (name : String) :
    ((∀ next ∈ steps, next.snapshotName? ≠ some name) →
        (session.run graph steps).1.snapshots.lookup name = session.snapshots.lookup name) ∧
      ((∀ next ∈ steps, next.inspectorName? ≠ some name) →
        (session.run graph steps).1.inspectors.lookup name = session.inspectors.lookup name) := by
  induction steps generalizing session with
  | nil => exact ⟨fun _ => rfl, fun _ => rfl⟩
  | cons next later induction =>
      rw [run_cons, List.forall_mem_cons, List.forall_mem_cons]
      obtain ⟨snapshots, inspectors⟩ := induction (session.perform graph next).1
      obtain same | ⟨settings, -, files⟩ := files_of_perform graph session next
      · rw [same] at snapshots inspectors ⊢
        exact ⟨fun others => snapshots others.2, fun others => inspectors others.2⟩
      · rw [files.snapshots] at snapshots
        rw [files.inspectors] at inspectors
        exact ⟨fun others => (snapshots others.2).trans (lookup_keep others.1 _ _),
          fun others => (inspectors others.2).trans (lookup_keep others.1 _ _)⟩

end ForEver

section Indents

/-- The settings that a session holds: its defaults, and those of its snapshots and inspectors. -/
inductive Holds (session : Session) : Settings → Prop
  | defaults : Holds session session.defaults
  | snapshot {name : String} {settings : Settings} (filed : (name, settings) ∈ session.snapshots) :
      Holds session settings
  | inspector {name : String} {settings : Settings} (filed : (name, settings) ∈ session.inspectors) :
      Holds session settings

theorem mem_of_find {α : Type} {named : Named α} {name : String} {thing : α} (found : find named name = .ok thing) :
    (name, thing) ∈ named := by
  obtain ⟨before, after, rfl, -⟩ := List.lookup_eq_some_iff.mp (find_eq_ok_iff.mp found)
  exact List.mem_append_right before List.mem_cons_self

theorem mem_keep {α : Type} {name : Option String} {other : String} {thing otherThing : α} {named : Named α}
    (member : (other, otherThing) ∈ keep name thing named) : (other, otherThing) ∈ named ∨ otherThing = thing := by
  cases name with
  | none => exact .inl member
  | some name =>
      obtain same | earlier := List.mem_cons.mp member
      · cases same
        exact .inr rfl
      · exact .inl earlier

/-- A step starts from settings that the session holds. -/
theorem holds_of_base {base : Settings} (isBase : session.base next = .ok base) : session.Holds base := by
  have ofTarget (target : Target) (isBase : session.settingsOf target = .ok base) : session.Holds base := by
    cases target with
    | defaults =>
        cases isBase
        exact .defaults
    | snapshot => exact .snapshot (mem_of_find isBase)
    | inspector => exact .inspector (mem_of_find isBase)
  cases next with
  | configure | takeSnapshot | read =>
      cases isBase
      exact .defaults
  | newInspector name =>
      cases name with
      | none =>
          cases isBase
          exact .defaults
      | some name => exact .snapshot (mem_of_find isBase)
  | showSnapshot | deriveSnapshot => exact .snapshot (mem_of_find isBase)
  | infer target => exact ofTarget target isBase
  | deriveInspector | showInspector | inferType | declare | write => exact .inspector (mem_of_find isBase)

theorem Files.holds (files : session.Files next settings after) {held : Settings} (holds : after.Holds held) :
    session.Holds held ∨ held = settings := by
  cases holds with
  | defaults =>
      rw [files.defaults]
      split
      · exact .inr rfl
      · exact .inl .defaults
  | snapshot filed =>
      rw [files.snapshots] at filed
      exact (mem_keep filed).imp_left .snapshot
  | inspector filed =>
      rw [files.inspectors] at filed
      exact (mem_keep filed).imp_left .inspector

theorem positive_at_start {held : Settings} (holds : ({} : Session).Holds held) : 1 ≤ held.indent := by
  cases holds with
  | defaults => decide
  | snapshot filed | inspector filed => cases filed

/-- Steps keep every indent positive. -/
theorem positive_of_run (graph : Graph) {session : Session} (positive : ∀ held, session.Holds held → 1 ≤ held.indent)
    (steps : List Step) : ∀ held, (session.run graph steps).1.Holds held → 1 ≤ held.indent := by
  refine run_keeps (fun later => ∀ held, later.Holds held → 1 ≤ held.indent) ?_ steps positive
  intro later next positive held holds
  obtain same | ⟨settings, ⟨⟨base, isBase, derives⟩, -, -⟩, files⟩ := files_of_perform graph later next
  · rw [same] at holds
    exact positive held holds
  · obtain earlier | rfl := files.holds holds
    · exact positive held earlier
    · exact derives.positive_indent (positive base (holds_of_base isBase))

end Indents

section Inferring

/-- What follows from typing something without a change of the session. -/
theorem perform_of_typed {α : Type} {typed : Typed α} {reply : α → Reply}
    (step : session.step graph next = do return (session, reply (← ofTyped typed))) :
    session.perform graph next = (session, (ofTyped typed).map reply) := by
  rw [perform, step]
  cases typed <;> rfl

/-- A step that gives a mode acts under the settings that it starts from, but for that mode. -/
theorem step_of_mode (next : Step) {mode : Option Value} {base : Settings} (isBase : session.base next = .ok base)
    (givesMode : next.options = mode.toList.map fun value => ⟨"mode", value⟩) (accepts : graph.Accepts next.receivers next.options) :
    ∃ chosen, SetBy (fun option mode => option.Chooses (.mode mode)) base.mode next.options chosen ∧
      session.step graph next = session.act graph { base with mode := chosen } next := by
  obtain ⟨settings, ⟨_, isBase', derives⟩, -, acts⟩ | ⟨fault, failed, unknown | ⟨refuses, -⟩⟩ :=
    step_cases graph session next
  · obtain rfl := Except.ok.inj (isBase.symm.trans isBase')
    refine ⟨settings.mode, derives.mode, ?_⟩
    rw [givesMode] at derives
    rw [derives.eq_of_mode, acts]
  · cases isBase.symm.trans unknown
  · exact absurd accepts refuses

end Inferring

/-- Settings over whole sessions.  A step acts under the settings that it starts from, overridden by its own options,
and files them; or its base is unknown, or one of its options is at fault, and nothing changes.  The defaults are the
first ones, overridden by all that was configured; what is filed is kept for ever; an inference overrides the mode
only and changes nothing; and in a session from the start every indent is positive and made of that many characters. -/
theorem run_settings (graph : Graph) :
    (∀ (session : Session) (next : Step),
      (∀ fault, (session.perform graph next).2 = .error fault → (session.perform graph next).1 = session) ∧
        ((∃ settings, session.ActsUnder graph next settings ∧
            ∀ reply, (session.perform graph next).2 = .ok reply →
              session.Files next settings (session.perform graph next).1) ∨
          ∃ fault, (session.perform graph next).2 = .error fault ∧
            (session.base next = .error fault ∨
              (¬graph.Accepts next.receivers next.options ∧ ∃ cause, fault = .options cause ∧
                cause.Arises graph next.receivers next.options)))) ∧
    (∀ (session : Session) (steps : List Step),
      session.defaults.Derives (steps.flatMap (Step.configured graph)) (session.run graph steps).1.defaults ∧
        session.snapshots <:+ (session.run graph steps).1.snapshots ∧
        session.inspectors <:+ (session.run graph steps).1.inspectors) ∧
    (∀ (session : Session) (steps : List Step) (name : String),
      ((∀ next ∈ steps, next.snapshotName? ≠ some name) →
          (session.run graph steps).1.snapshots.lookup name = session.snapshots.lookup name) ∧
        ((∀ next ∈ steps, next.inspectorName? ≠ some name) →
          (session.run graph steps).1.inspectors.lookup name = session.inspectors.lookup name)) ∧
    (∀ (session : Session) target value depth mode base, session.settingsOf target = .ok base →
      graph.Accepts [.update] (Step.infer target value depth mode).options →
      ∃ chosen, SetBy (fun option mode => option.Chooses (.mode mode)) base.mode
          (Step.infer target value depth mode).options chosen ∧
        session.perform graph (.infer target value depth mode) =
          (session, (ofTyped (graph.inferText { base with mode := chosen } value depth)).map .text)) ∧
    (∀ (session : Session) inspector value depth mode base, session.inspectors.lookup inspector = some base →
      graph.Accepts [.update] (Step.inferType inspector value depth mode).options →
      ∃ chosen, SetBy (fun option mode => option.Chooses (.mode mode)) base.mode
          (Step.inferType inspector value depth mode).options chosen ∧
        session.perform graph (.inferType inspector value depth mode) =
          (session, (ofTyped (graph.infer { base with mode := chosen } value depth)).map .type)) ∧
    (∀ steps settings, (({} : Session).run graph steps).1.Holds settings →
      1 ≤ settings.indent ∧ (settings.unit.toList.length : Int) = settings.indent ∧
        ∀ character ∈ settings.unit.toList, character = settings.indentType.character) := by
  refine ⟨?steps, ?runs, ?names, ?texts, ?types, ?indents⟩
  case steps =>
    intro session next
    refine ⟨fun fault => session_of_error, ?_⟩
    obtain ⟨settings, acts⟩ | ⟨fault, failed, reason⟩ := step_cases graph session next
    · exact .inl ⟨settings, acts, fun reply => acts.files⟩
    · exact .inr ⟨fault, by rw [perform, failed], reason⟩
  case runs =>
    intro session steps
    exact ⟨defaults_of_run graph session steps, suffix_of_run graph session steps⟩
  case names => exact lookup_of_run graph
  case texts =>
    intro session target value depth mode base isBase accepts
    obtain ⟨chosen, set, step⟩ := step_of_mode (.infer target value depth mode) isBase rfl accepts
    exact ⟨chosen, set, perform_of_typed step⟩
  case types =>
    intro session inspector value depth mode base addressed accepts
    obtain ⟨chosen, set, step⟩ := step_of_mode (.inferType inspector value depth mode)
      (find_eq_ok_iff.mpr addressed) rfl accepts
    exact ⟨chosen, set, perform_of_typed step⟩
  case indents =>
    intro steps settings holds
    have positive := positive_of_run graph (fun _ => positive_at_start) steps settings holds
    refine ⟨positive, ?_, fun character => settings.eq_of_mem_unit⟩
    rw [settings.toList_unit, List.length_replicate]
    omega

section Unassigned

/-- A record with a field that was never assigned. -/
def unassigned : Graph where
  nodes := #[.record "P" [("x", none)]]

def wideIndent : NamedOption :=
  ⟨"indent", .leaf (.integer 4)⟩

/-- An option that is valid, one that is invalid, and one that names no setting. -/
def mixedOptions : List NamedOption :=
  [wideIndent, ⟨"mode", .leaf .null⟩, ⟨"colour", .container 0⟩]

/-- Valid options count beside others, an inspector keeps its settings, and an inference changes none. -/
theorem run_settings_unassigned :
    ({} : Settings).Derives mixedOptions (({} : Session).run unassigned [.configure mixedOptions]).1.defaults ∧
      (({ inspectors := [("plain", {})] } : Session).run unassigned [.configure mixedOptions]).1.inspectors.lookup
          "plain" = some {} ∧
      (∃ chosen, SetBy (fun option mode => option.Chooses (.mode mode)) .merge [⟨"mode", .leaf .null⟩] chosen ∧
        ({} : Session).perform unassigned (.infer .defaults (.container 0) 0 (some (.leaf .null))) =
          ({}, (ofTyped (unassigned.inferText { mode := chosen } (.container 0) 0)).map .text)) := by
  obtain ⟨-, runs, names, texts, -, -⟩ := run_settings unassigned
  refine ⟨?_, ?_, ?_⟩
  · have configured : [Step.configure mixedOptions].flatMap (Step.configured unassigned) = mixedOptions := by
      have accepts : unassigned.Accepts [.update] mixedOptions := by decide +kernel
      rw [List.flatMap_singleton, Step.configured]
      exact if_pos ⟨rfl, accepts⟩
    have derives := (runs {} [.configure mixedOptions]).1
    rwa [configured] at derives
  · exact (names { inspectors := [("plain", {})] } [.configure mixedOptions] "plain").2 (by simp [Step.inspectorName?])
  · exact texts {} .defaults (.container 0) 0 (some (.leaf .null)) {} rfl (Graph.accepts_mode_leaf .null)

/-- A valid option is not applied beside one whose value cannot be shown, nor beside one with the name of a parameter. -/
theorem valid_option_lost_unassigned :
    wideIndent.Chooses (.indent 4) ∧
      ({} : Session).perform unassigned (.configure [wideIndent, ⟨"mode", .container 0⟩]) =
        ({}, .error (.options (.unwritable (.unassignedField "P" "x")))) ∧
      ({} : Session).perform unassigned (.configure [⟨"self", .leaf (.integer 1)⟩, wideIndent]) =
        ({}, .error (.options (.repeated "TypeDetectiveConfig.updated" "self"))) ∧
      ({ inspectors := [("plain", {})] } : Session).perform unassigned
          (.deriveInspector "plain" [⟨"config", .leaf (.integer 1)⟩, wideIndent] (some "wide")) =
        ({ inspectors := [("plain", {})] }, .error (.options (.repeated "TypeDetective.__init__" "config"))) :=
  ⟨.indent rfl (by decide), by rfl, by rfl, by rfl⟩

end Unassigned

end Session

end SampleTypes
