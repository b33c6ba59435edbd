import SampleTypes.Sample.Literal
import SampleTypes.Settings

/-!
# Options

Settings are changed by named options with sample values for their values.  An option counts if its name is
that of a setting and its value is valid for it; any other option leaves the settings as they are.  A value
that is none of the names a setting is chosen by is turned down by its literal, so an option is at fault
whose value would need the literal of a record with a field that was never assigned.  Options are given to a
function beside its own parameters, so the names of these are not free for options.
-/

namespace SampleTypes

namespace Leaf

/-- Whether a leaf holds as a condition.  Zeros and empty contents do not, nor do the leaves that stand for
nothing or for one of these. -/
def isTrue : Leaf → Bool
  | .null | .undefined => false
  | .boolean value => value
  | .integer value _ => value != 0
  | .numeral value _ =>
      !(value.exact.1.same (.ofInteger 0) && value.exact.2.same (.ofInteger 0))
  | .text value _ => !value.isEmpty
  | .bytes content | .buffer content => !content.isEmpty
  | .symbol _ _ _ (some leaf) _ _ => leaf.isTrue
  | .symbol _ _ _ none _ _ | .function _ _ _ | .recordType _ _ _ | .other _ _ _ => true

/-- The integer that a leaf is or stands for; a truth value is none. -/
def integer? (leaf : Leaf) : Option Int :=
  match leaf.plain with
  | .integer value _ => some value
  | _ => none

/-- The text that a leaf is or stands for. -/
def text? (leaf : Leaf) : Option String :=
  match leaf.plain with
  | .text value _ => some value
  | _ => none

end Leaf

def Value.integer? : Value → Option Int
  | .leaf content => content.integer?
  | .container _ => none

def Value.text? : Value → Option String
  | .leaf content => content.text?
  | .container _ => none

/-- Whether a value holds as a condition; a record always does. -/
def Graph.isTrue (graph : Graph) (value : Value) : Bool :=
  match value with
  | .leaf leaf => leaf.isTrue
  | value =>
    match graph.nodeOf? value with
    | some (.mapping _ entries) => !entries.isEmpty
    | some (.record _ _) | none => true
    | some node => node.isTrue

/-- A named option. -/
structure NamedOption where
  name : String
  value : Value

/-- A valid choice of one setting. -/
inductive SettingChoice
  | mode (mode : Mode)
  | indent (indent : Int)
  | indentType (indentType : IndentType)
  | arrayStyle (arrayStyle : ArrayStyle)
  deriving DecidableEq

namespace NamedOption

/-- The choice that an option makes, if its name and value are valid.  An indent is a positive integer, and
every other setting is chosen by one of its names. -/
def choice? (option : NamedOption) : Option SettingChoice :=
  if option.name = "mode" then do return .mode (← Mode.ofName? (← option.value.text?))
  else if option.name = "indent" then do
    let indent ← option.value.integer?
    if 0 < indent then return .indent indent else none
  else if option.name = "indent_type" then do
    return .indentType (← IndentType.ofName? (← option.value.text?))
  else if option.name = "array_style" then do
    return .arrayStyle (← ArrayStyle.ofName? (← option.value.text?))
  else none

def namedSettings : List String := ["mode", "indent_type", "array_style"]

/-- What is wrong with an option.  A value that is none of the names to choose from is shown by its literal,
which must exist; a literal with too many digits is as good as any other. -/
def fault? (graph : Graph) (option : NamedOption) : Option Fault :=
  if option.name ∈ namedSettings ∧ option.choice?.isNone then
    match graph.literal option.value with
    | .ok _ | .error .tooManyDigits => none
    | .error fault => some fault
  else none

end NamedOption

/-- Why none of the options of a call is applied. -/
inductive OptionFault
  /-- An option has the name of a parameter that the call gives already. -/
  | repeated (function name : String)
  /-- An option stands in the place of settings, and its value has none. -/
  | noSettings (kind : String)
  | unwritable (fault : Fault)
  deriving DecidableEq

def OptionFault.message : OptionFault → String
  | .repeated function name => function ++ "() got multiple values for argument '" ++ name ++ "'"
  | .noSettings kind => "'" ++ kind ++ "' object has no attribute 'updated'"
  | .unwritable fault => fault.message

/-- A function that passes options on, and its own parameters: those that a call gives, and one for the
settings to start from if the call leaves it free. -/
structure Receiver where
  function : String
  given : List String
  free : Option String := none

namespace Receiver

/-- What makes new settings from others. -/
def update : Receiver where
  function := "TypeDetectiveConfig.updated"
  given := ["self"]

/-- What makes a new inspector, from settings that are given or else from the defaults. -/
def inspector (hasBase : Bool) : Receiver where
  function := "TypeDetective.__init__"
  given := if hasBase then ["self", "config"] else ["self"]
  free := if hasBase then none else some "config"

/-- What makes an inspector from another one. -/
def derivedInspector : Receiver where
  function := "TypeDetective.with_options"
  given := ["self"]

/-- What a function finds wrong with its options: one has the name of a parameter that is given, or else one
stands in the place of settings; a value there is passed over if it does not hold as a condition. -/
def fault? (graph : Graph) (receiver : Receiver) (options : List NamedOption) : Option OptionFault :=
  match options.find? (·.name ∈ receiver.given) with
  | some option => some (.repeated receiver.function option.name)
  | none =>
    (options.find? fun option => receiver.free = some option.name && graph.isTrue option.value).map
      fun option => .noSettings (graph.kind option.value)

end Receiver

namespace Settings

/-- The settings with one setting chosen anew. -/
def choose (settings : Settings) : SettingChoice → Settings
  | .mode mode => { settings with mode := mode }
  | .indent indent => { settings with indent := indent }
  | .indentType indentType => { settings with indentType := indentType }
  | .arrayStyle arrayStyle => { settings with arrayStyle := arrayStyle }

/-- The settings with the valid ones among the options applied. -/
def applied (settings : Settings) (options : List NamedOption) : Settings :=
  (options.filterMap NamedOption.choice?).foldl choose settings

/-- The first fault in a call with options that pass through functions one after the other. -/
def fault? (graph : Graph) (receivers : List Receiver) (options : List NamedOption) :
    Option OptionFault :=
  (receivers.findSome? (·.fault? graph options)).or
    ((options.findSome? (NamedOption.fault? graph)).map .unwritable)

/-- The settings with the valid ones among the options applied, unless an option is at fault. -/
def updated (graph : Graph) (settings : Settings) (options : List NamedOption)
    (receivers : List Receiver := [.update]) : Except OptionFault Settings :=
  match fault? graph receivers options with
  | some fault => .error fault
  | none => .ok (settings.applied options)

/-- The settings of a call with a mode of its own; an invalid mode without fault is ignored. -/
def withMode (graph : Graph) (settings : Settings) (mode : Option Value) :
    Except OptionFault Settings :=
  match mode with
  | none => .ok settings
  | some value => settings.updated graph [⟨"mode", value⟩]

end Settings

end SampleTypes
