import SampleTypes.Options
import SampleTypes.Proofs.Literals

/-!
# Overriding settings

Each setting has a name and values of its own, so options are told apart by what they choose: every setting becomes
the last value that is chosen for it, and stays as it is if there is none.  Options that choose nothing have no effect
on the others, unless one of them is at fault; then none of them is applied.  An option is at fault by its value if it
cannot be shown, and by its name if a function that it passes through has a parameter of that name.
-/

namespace SampleTypes

/-- What is found by its name is the one thing of that name. -/
theorem find?_name_eq_some_iff {α : Type} {name : α → String} {things : List α} {text : String} {thing : α}
    (named : things.find? (name · == name thing) = some thing) :
    things.find? (name · == text) = some thing ↔ text = name thing := by
  constructor
  · intro found
    exact (beq_iff_eq.mp (List.find?_some found :)).symm
  · rintro rfl
    exact named

section Names

variable {text : String} {mode : Mode} {indentType : IndentType} {arrayStyle : ArrayStyle}

@[simp]
theorem Mode.ofName?_name : Mode.ofName? mode.name = some mode := by
  cases mode <;> rfl

@[simp]
theorem IndentType.ofName?_name : IndentType.ofName? indentType.name = some indentType := by
  cases indentType <;> rfl

@[simp]
theorem ArrayStyle.ofName?_name : ArrayStyle.ofName? arrayStyle.name = some arrayStyle := by
  cases arrayStyle <;> rfl

theorem Mode.ofName?_eq_some_iff : Mode.ofName? text = some mode ↔ text = mode.name :=
  find?_name_eq_some_iff Mode.ofName?_name

theorem IndentType.ofName?_eq_some_iff : IndentType.ofName? text = some indentType ↔ text = indentType.name :=
  find?_name_eq_some_iff IndentType.ofName?_name

theorem ArrayStyle.ofName?_eq_some_iff : ArrayStyle.ofName? text = some arrayStyle ↔ text = arrayStyle.name :=
  find?_name_eq_some_iff ArrayStyle.ofName?_name

end Names

/-- The name of the setting that a choice is about. -/
def SettingChoice.settingName : SettingChoice → String
  | .mode _ => "mode"
  | .indent _ => "indent"
  | .indentType _ => "indent_type"
  | .arrayStyle _ => "array_style"

namespace NamedOption

/-- An option chooses a value of the setting that it names: an indent by a positive integer, which a truth value is
not, and any other setting by one of its names. -/
inductive Chooses : NamedOption → SettingChoice → Prop
  | mode {value : Value} {mode : Mode} (isName : value.text? = some mode.name) : Chooses ⟨"mode", value⟩ (.mode mode)
  | indent {value : Value} {indent : Int} (isInteger : value.integer? = some indent) (positive : 0 < indent) :
      Chooses ⟨"indent", value⟩ (.indent indent)
  | indentType {value : Value} {indentType : IndentType} (isName : value.text? = some indentType.name) :
      Chooses ⟨"indent_type", value⟩ (.indentType indentType)
  | arrayStyle {value : Value} {arrayStyle : ArrayStyle} (isName : value.text? = some arrayStyle.name) :
      Chooses ⟨"array_style", value⟩ (.arrayStyle arrayStyle)

/-- The name of the setting that is chosen. -/
theorem Chooses.name_eq {option : NamedOption} {choice : SettingChoice} (chooses : option.Chooses choice) :
    option.name = choice.settingName := by
  cases chooses <;> rfl

theorem choice?_eq_some_iff {option : NamedOption} {choice : SettingChoice} :
    option.choice? = some choice ↔ option.Chooses choice := by
  constructor
  · intro chosen
    obtain ⟨name, value⟩ := option
    unfold choice? at chosen
    dsimp only at chosen
    split at chosen
    case isTrue isMode =>
      subst isMode
      obtain ⟨text, isText, chosen⟩ := Option.bind_eq_some_iff.mp chosen
      obtain ⟨mode, isName, ⟨⟩⟩ := Option.bind_eq_some_iff.mp chosen
      exact .mode (Mode.ofName?_eq_some_iff.mp isName ▸ isText)
    split at chosen
    case isTrue isIndent =>
      subst isIndent
      obtain ⟨indent, isInteger, chosen⟩ := Option.bind_eq_some_iff.mp chosen
      split at chosen
      · cases chosen
        exact .indent isInteger ‹_›
      · cases chosen
    split at chosen
    case isTrue isIndentType =>
      subst isIndentType
      obtain ⟨text, isText, chosen⟩ := Option.bind_eq_some_iff.mp chosen
      obtain ⟨indentType, isName, ⟨⟩⟩ := Option.bind_eq_some_iff.mp chosen
      exact .indentType (IndentType.ofName?_eq_some_iff.mp isName ▸ isText)
    split at chosen
    case isTrue isArrayStyle =>
      subst isArrayStyle
      obtain ⟨text, isText, chosen⟩ := Option.bind_eq_some_iff.mp chosen
      obtain ⟨arrayStyle, isName, ⟨⟩⟩ := Option.bind_eq_some_iff.mp chosen
      exact .arrayStyle (ArrayStyle.ofName?_eq_some_iff.mp isName ▸ isText)
    cases chosen
  · intro chooses
    cases chooses with
    | mode isName => simp [choice?, isName]
    | indent isInteger positive => simp [choice?, isInteger, positive]
    | indentType isName => simp [choice?, isName]
    | arrayStyle isName => simp [choice?, isName]

end NamedOption

/-- What becomes of a setting: the last value that options choose for it, or the former value if they choose none. -/
inductive SetBy {α : Type} (chooses : NamedOption → α → Prop) (former : α) (options : List NamedOption) : α → Prop
  | chosen (before : List NamedOption) {option : NamedOption} (after : List NamedOption) {value : α}
      (split : options = before ++ option :: after) (chosen : chooses option value)
      (isLast : ∀ later ∈ after, ∀ other, ¬chooses later other) : SetBy chooses former options value
  | kept (nothing : ∀ option ∈ options, ∀ other, ¬chooses option other) : SetBy chooses former options former

namespace SetBy

variable {α : Type} {chooses : NamedOption → α → Prop} {former now last : α} {options others : List NamedOption}

theorem single {option : NamedOption} (chosen : chooses option now) : SetBy chooses former [option] now :=
  .chosen [] [] rfl chosen (List.forall_mem_nil _)

theorem append (first : SetBy chooses former options now) (second : SetBy chooses now others last) :
    SetBy chooses former (options ++ others) last := by
  cases second with
  | @chosen before option after value split chosen isLast =>
      refine .chosen (options ++ before) after ?_ chosen isLast
      rw [split, List.append_assoc]
  | kept nothing =>
      cases first with
      | @chosen before option after value split chosen isLast =>
          refine .chosen before (after ++ others) ?_ chosen ?_
          · rw [split, List.append_assoc, List.cons_append]
          · rw [List.forall_mem_append]
            exact ⟨isLast, nothing⟩
      | kept nothingFirst =>
          apply SetBy.kept
          rw [List.forall_mem_append]
          exact ⟨nothingFirst, nothing⟩

theorem eq_of_nothing (set : SetBy chooses former options now)
    (nothing : ∀ option ∈ options, ∀ other, ¬chooses option other) : now = former := by
  cases set with
  | @chosen before option after value split chosen isLast =>
      have member : option ∈ options := split ▸ List.mem_append_right before List.mem_cons_self
      exact absurd chosen (nothing option member now)
  | kept nothing => rfl

theorem eq_of_name {choiceOf : α → SettingChoice} {name : String}
    (set : SetBy (fun option value => option.Chooses (choiceOf value)) former options now)
    (named : ∀ option ∈ options, option.name = name) (foreign : ∀ value, (choiceOf value).settingName ≠ name) :
    now = former :=
  set.eq_of_nothing fun option member value chooses => foreign value (chooses.name_eq.symm.trans (named option member))

/-- A setting keeps what holds of its former value and of everything that can be chosen for it. -/
theorem keeps (property : α → Prop) (set : SetBy chooses former options now) (holds : property former)
    (ofChosen : ∀ option value, chooses option value → property value) : property now := by
  cases set with
  | chosen before after split chosen isLast => exact ofChosen _ _ chosen
  | kept nothing => exact holds

end SetBy

namespace Settings

/-- Each setting is what options make of it. -/
structure Derives (base : Settings) (options : List NamedOption) (settings : Settings) : Prop where
  mode : SetBy (fun option mode => option.Chooses (.mode mode)) base.mode options settings.mode
  indent : SetBy (fun option indent => option.Chooses (.indent indent)) base.indent options settings.indent
  indentType :
    SetBy (fun option indentType => option.Chooses (.indentType indentType)) base.indentType options settings.indentType
  arrayStyle :
    SetBy (fun option arrayStyle => option.Chooses (.arrayStyle arrayStyle)) base.arrayStyle options settings.arrayStyle

variable {base middle settings : Settings} {options others : List NamedOption}

theorem Derives.refl (base : Settings) : base.Derives [] base :=
  ⟨.kept (List.forall_mem_nil _), .kept (List.forall_mem_nil _), .kept (List.forall_mem_nil _),
    .kept (List.forall_mem_nil _)⟩

theorem Derives.trans (first : base.Derives options middle) (second : middle.Derives others settings) :
    base.Derives (options ++ others) settings :=
  ⟨first.mode.append second.mode, first.indent.append second.indent, first.indentType.append second.indentType,
    first.arrayStyle.append second.arrayStyle⟩

theorem applied_cons (option : NamedOption) (options : List NamedOption) :
    base.applied (option :: options) = (base.applied [option]).applied options := by
  unfold applied
  cases chosen : option.choice? with
  | none => rw [List.filterMap_cons_none chosen, List.filterMap_cons_none chosen]; rfl
  | some choice => rw [List.filterMap_cons_some chosen, List.filterMap_cons_some chosen]; rfl

theorem applied_single_of_chooses {option : NamedOption} {choice : SettingChoice} (chooses : option.Chooses choice) :
    base.applied [option] = base.choose choice := by
  rw [applied, List.filterMap_cons_some (NamedOption.choice?_eq_some_iff.mpr chooses)]
  rfl

/-- One option sets what it chooses, and leaves all else. -/
theorem setBy_applied_single {α : Type} (part : Settings → α) (choiceOf : α → SettingChoice)
    (own : ∀ settings value, part (choose settings (choiceOf value)) = value)
    (foreign : ∀ settings choice, (∃ value, choice = choiceOf value) ∨ part (choose settings choice) = part settings)
    (base : Settings) (option : NamedOption) :
    SetBy (fun option value => option.Chooses (choiceOf value)) (part base) [option] (part (base.applied [option])) := by
  by_cases chooses : ∃ value, option.Chooses (choiceOf value)
  · obtain ⟨value, chooses⟩ := chooses
    rw [applied_single_of_chooses chooses, own]
    exact .single chooses
  · have nothing : ∀ value, ¬option.Chooses (choiceOf value) := not_exists.mp chooses
    have same : part (base.applied [option]) = part base := by
      cases chosen : option.choice? with
      | none => rw [applied, List.filterMap_cons_none chosen]; rfl
      | some choice =>
          have choosesOther := NamedOption.choice?_eq_some_iff.mp chosen
          rw [applied_single_of_chooses choosesOther]
          obtain ⟨value, rfl⟩ | same := foreign base choice
          · exact absurd choosesOther (nothing value)
          · exact same
    rw [same]
    exact .kept (List.forall_mem_singleton.mpr nothing)

theorem derives_applied_single (base : Settings) (option : NamedOption) :
    base.Derives [option] (base.applied [option]) where
  mode := setBy_applied_single Settings.mode .mode (fun _ _ => rfl)
    (fun _ choice => by cases choice <;> simp [choose]) base option
  indent := setBy_applied_single Settings.indent .indent (fun _ _ => rfl)
    (fun _ choice => by cases choice <;> simp [choose]) base option
  indentType := setBy_applied_single Settings.indentType .indentType (fun _ _ => rfl)
    (fun _ choice => by cases choice <;> simp [choose]) base option
  arrayStyle := setBy_applied_single Settings.arrayStyle .arrayStyle (fun _ _ => rfl)
    (fun _ choice => by cases choice <;> simp [choose]) base option

theorem derives_applied (base : Settings) (options : List NamedOption) : base.Derives options (base.applied options) := by
  induction options generalizing base with
  | nil => exact .refl base
  | cons option options induction =>
      rw [applied_cons]
      exact (derives_applied_single base option).trans (induction _)

/-- A mode that a call is given overrides the mode only. -/
theorem Derives.eq_of_mode {mode : Option Value}
    (derives : base.Derives (mode.toList.map fun value => ⟨"mode", value⟩) settings) :
    { base with mode := settings.mode } = settings := by
  have named : ∀ option ∈ mode.toList.map fun value => (⟨"mode", value⟩ : NamedOption), option.name = "mode" := by
    intro option member
    obtain ⟨value, -, rfl⟩ := List.mem_map.mp member
    rfl
  have sameIndent := derives.indent.eq_of_name named fun _ => by simp [SettingChoice.settingName]
  have sameType := derives.indentType.eq_of_name named fun _ => by simp [SettingChoice.settingName]
  have sameStyle := derives.arrayStyle.eq_of_name named fun _ => by simp [SettingChoice.settingName]
  rw [← sameIndent, ← sameType, ← sameStyle]

/-- An indent is positive if it was so before. -/
theorem Derives.positive_indent (derives : base.Derives options settings) (positive : 1 ≤ base.indent) :
    1 ≤ settings.indent := by
  refine derives.indent.keeps (1 ≤ ·) positive ?_
  intro option indent chooses
  cases chooses with
  | indent isInteger positive => exact positive

/-- One step of indentation is made of as many characters as the indent says. -/
theorem toList_unit (settings : Settings) :
    settings.unit.toList = List.replicate settings.indent.toNat settings.indentType.character :=
  String.toList_ofList

theorem eq_of_mem_unit {character : Char} (member : character ∈ settings.unit.toList) :
    character = settings.indentType.character := by
  rw [toList_unit] at member
  exact List.eq_of_mem_replicate member

end Settings

section Faults

variable {graph : Graph} {option : NamedOption} {options : List NamedOption} {receiver : Receiver}
  {base settings : Settings} {fault : Fault}

/-- A value can be shown where it is turned down; a literal with too many digits is as good as any other. -/
def Graph.CanShow (graph : Graph) (value : Value) : Prop :=
  ∀ fault, graph.literal value = .error fault → fault = .tooManyDigits

/-- No option is at fault: none has the name of a parameter that is given already, none brings a value that holds in the
place of settings, and a value that is turned down by its literal can be shown. -/
structure Graph.Accepts (graph : Graph) (receivers : List Receiver) (options : List NamedOption) : Prop where
  notRepeated : ∀ receiver ∈ receivers, ∀ option ∈ options, option.name ∉ receiver.given
  noBase : ∀ receiver ∈ receivers, ∀ option ∈ options, receiver.free = some option.name →
    graph.isTrue option.value = false
  shown : ∀ option ∈ options, option.name ∈ NamedOption.namedSettings → (∀ choice, ¬option.Chooses choice) →
    graph.CanShow option.value

/-- An option is at fault by its value: it names a setting that is chosen by names, its value is none of them, and the
value cannot be shown. -/
structure NamedOption.Faulty (graph : Graph) (option : NamedOption) (fault : Fault) : Prop where
  namesSetting : option.name ∈ namedSettings
  choosesNothing : ∀ choice, ¬option.Chooses choice
  unwritable : graph.Unwritable option.value fault

/-- A fault comes from one of the options. -/
inductive OptionFault.Arises (graph : Graph) (receivers : List Receiver) (options : List NamedOption) :
    OptionFault → Prop
  | repeated {receiver : Receiver} {option : NamedOption} (isReceiver : receiver ∈ receivers) (isOption : option ∈ options)
      (isGiven : option.name ∈ receiver.given) :
      Arises graph receivers options (.repeated receiver.function option.name)
  | noSettings {receiver : Receiver} {option : NamedOption} (isReceiver : receiver ∈ receivers)
      (isOption : option ∈ options) (isFree : receiver.free = some option.name)
      (isTrue : graph.isTrue option.value = true) :
      Arises graph receivers options (.noSettings (graph.kind option.value))
  | unwritable {option : NamedOption} {fault : Fault} (isOption : option ∈ options) (faulty : option.Faulty graph fault) :
      Arises graph receivers options (.unwritable fault)

theorem NamedOption.choice?_isNone_iff : option.choice?.isNone = true ↔ ∀ choice, ¬option.Chooses choice := by
  rw [Option.isNone_iff_eq_none, Option.eq_none_iff_forall_ne_some]
  exact forall_congr' fun choice => not_congr choice?_eq_some_iff

theorem NamedOption.fault?_eq_none_iff :
    option.fault? graph = none ↔
      (option.name ∈ namedSettings → (∀ choice, ¬option.Chooses choice) → graph.CanShow option.value) := by
  rw [← choice?_isNone_iff, fault?, Graph.CanShow, ← and_imp]
  split
  case isTrue asked =>
    refine (imp_iff_right asked).symm.trans (forall_congr' fun _ => ?_)
    cases graph.literal option.value with
    | ok text => simp
    | error fault => cases fault <;> simp
  case isFalse notAsked => exact iff_of_true rfl fun asked => absurd asked notAsked

theorem NamedOption.faulty_of_fault? (isFault : option.fault? graph = some fault) : option.Faulty graph fault := by
  rw [fault?] at isFault
  split at isFault
  case isTrue asked =>
    refine ⟨asked.1, choice?_isNone_iff.mp asked.2, ?_⟩
    apply Graph.unwritable_of_literal
    split at isFault
    · cases isFault
    · cases isFault
    · cases isFault
      assumption
  case isFalse => cases isFault

theorem Receiver.fault?_eq_none_iff :
    receiver.fault? graph options = none ↔
      (∀ option ∈ options, option.name ∉ receiver.given) ∧
        ∀ option ∈ options, receiver.free = some option.name → graph.isTrue option.value = false := by
  unfold fault?
  cases repeated : options.find? (·.name ∈ receiver.given) with
  | none =>
      have notRepeated := List.find?_eq_none.mp repeated
      simp only [decide_eq_true_eq] at notRepeated
      simpa using fun _ => notRepeated
  | some option =>
      have isGiven := List.find?_some repeated
      have notAll : ¬∀ option ∈ options, option.name ∉ receiver.given :=
        fun all => all option (List.mem_of_find?_eq_some repeated) (by simpa using isGiven)
      simp [notAll]

theorem Receiver.arises_of_fault? {optionFault : OptionFault} {receivers : List Receiver}
    (isReceiver : receiver ∈ receivers) (isFault : receiver.fault? graph options = some optionFault) :
    optionFault.Arises graph receivers options := by
  unfold fault? at isFault
  split at isFault
  case h_1 option found =>
    cases isFault
    exact .repeated isReceiver (List.mem_of_find?_eq_some found) (by simpa using List.find?_some found)
  case h_2 =>
    obtain ⟨option, found, ⟨⟩⟩ := Option.map_eq_some_iff.mp isFault
    obtain ⟨isFree, isTrue⟩ : receiver.free = some option.name ∧ graph.isTrue option.value = true := by
      simpa using List.find?_some found
    exact .noSettings isReceiver (List.mem_of_find?_eq_some found) isFree isTrue

theorem Settings.fault?_eq_none_iff {receivers : List Receiver} :
    Settings.fault? graph receivers options = none ↔ graph.Accepts receivers options := by
  rw [Settings.fault?, Option.or_eq_none_iff, Option.map_eq_none_iff, List.findSome?_eq_none_iff,
    List.findSome?_eq_none_iff]
  simp only [Receiver.fault?_eq_none_iff, NamedOption.fault?_eq_none_iff]
  constructor
  · rintro ⟨names, values⟩
    exact ⟨fun receiver member => (names receiver member).1, fun receiver member => (names receiver member).2, values⟩
  · rintro ⟨notRepeated, noBase, shown⟩
    exact ⟨fun receiver member => ⟨notRepeated receiver member, noBase receiver member⟩, shown⟩

theorem Settings.arises_of_fault? {receivers : List Receiver} {optionFault : OptionFault}
    (isFault : Settings.fault? graph receivers options = some optionFault) :
    optionFault.Arises graph receivers options := by
  rw [Settings.fault?, Option.or_eq_some_iff] at isFault
  obtain byName | ⟨-, byValue⟩ := isFault
  · obtain ⟨receiver, member, isFault⟩ := List.exists_of_findSome?_eq_some byName
    exact Receiver.arises_of_fault? member isFault
  · obtain ⟨fault, isFault, rfl⟩ := Option.map_eq_some_iff.mp byValue
    obtain ⟨option, member, isFault⟩ := List.exists_of_findSome?_eq_some isFault
    exact .unwritable member (NamedOption.faulty_of_fault? isFault)

instance {receivers : List Receiver} : Decidable (graph.Accepts receivers options) :=
  decidable_of_iff (Settings.fault? graph receivers options = none) Settings.fault?_eq_none_iff

theorem Graph.canShow_leaf (leaf : Leaf) : graph.CanShow (.leaf leaf) := by
  intro fault failed
  rw [literal_leaf] at failed
  unfold leafLiteral at failed
  split at failed
  · exact (Except.error.inj failed).symm
  · cases failed

/-- A mode on its own is not at fault if it is a leaf. -/
theorem Graph.accepts_mode_leaf (leaf : Leaf) : graph.Accepts [.update] [⟨"mode", .leaf leaf⟩] := by
  refine ⟨?_, ?_, ?_⟩
  · simp [Receiver.update]
  · simp [Receiver.update]
  · intro option member _ _
    obtain rfl := List.mem_singleton.mp member
    exact canShow_leaf leaf

/-- Either no option is at fault, and each setting becomes what the options make of it, or nothing comes of them. -/
theorem Settings.updated_cases (graph : Graph) (base : Settings) (options : List NamedOption)
    (receivers : List Receiver) :
    (graph.Accepts receivers options ∧ ∃ settings, base.updated graph options receivers = .ok settings ∧
        base.Derives options settings) ∨
      (¬graph.Accepts receivers options ∧ ∃ fault, base.updated graph options receivers = .error fault ∧
        fault.Arises graph receivers options) := by
  unfold updated
  cases faulty : Settings.fault? graph receivers options with
  | none =>
      left
      exact ⟨Settings.fault?_eq_none_iff.mp faulty, _, rfl, derives_applied base options⟩
  | some fault =>
      right
      refine ⟨fun accepts => ?_, fault, rfl, Settings.arises_of_fault? faulty⟩
      cases (Settings.fault?_eq_none_iff.mpr accepts).symm.trans faulty

end Faults

end SampleTypes
