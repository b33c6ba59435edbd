import SampleTypes.CommandLine.Request
import SampleTypes.Options
import SampleTypes.Text.Integer

/-!
# Arguments

The arguments of a command name input files and set options.  An option is spelled `--name value` or
`--name=value` and takes the next argument whatever it is; the last value of an option counts.  Options may
stand anywhere before the argument `--`, behind which every argument is an input.  Help goes before all but the
spelling of the arguments.
-/

namespace SampleTypes.CommandLine

inductive OptionName
  | outputFile
  | typeName
  | mode
  | indent
  | indentType
  | arrayStyle
  deriving DecidableEq

def OptionName.text : OptionName → String
  | .outputFile => "--output-file"
  | .typeName => "--type-name"
  | .mode => "--mode"
  | .indent => "--indent"
  | .indentType => "--indent-type"
  | .arrayStyle => "--array-style"

def OptionName.ofText? (text : String) : Option OptionName :=
  [OptionName.outputFile, .typeName, .mode, .indent, .indentType, .arrayStyle].find? (·.text == text)

/-- The spelling of the flag that takes the items of a list as samples. -/
def spreadFlag : String := "--spread"

/-- The spelling of the flag that asks for help. -/
def helpFlag : String := "--help"

/-- Why arguments are no request. -/
inductive UsageFault
  | unknownOption (spelling : String)
  /-- An option is the last argument. -/
  | missingValue (option : OptionName)
  /-- A flag is given a value. -/
  | unexpectedValue (flag : String)
  | invalidValue (option : OptionName) (value : String)
  | noInputs
  | missingInput (input : String)
  deriving DecidableEq

def UsageFault.message : UsageFault → String
  | .unknownOption spelling => "no such option: " ++ spelling
  | .missingValue option => option.text ++ " needs a value"
  | .unexpectedValue flag => flag ++ " takes no value"
  | .invalidValue option value => "invalid value for " ++ option.text ++ ": " ++ value
  | .noInputs => "no inputs are given"
  | .missingInput input => "no such input: " ++ input

/-- What an argument on its own says. -/
inductive Argument
  | input
  | spread
  | help
  | assignment (option : OptionName) (value : Option String)
  deriving DecidableEq

/-- The characters before the first equals sign, and those behind it if there is one. -/
def splitAtEquals (characters : List Char) : String × Option String :=
  (String.ofList (characters.takeWhile (· ≠ '=')),
    match characters.dropWhile (· ≠ '=') with
    | [] => none
    | _ :: value => some (String.ofList value))

/-- What an argument says.  A hyphen starts an option unless it stands alone. -/
def Argument.ofText (argument : String) : Except UsageFault Argument :=
  match argument.toList with
  | '-' :: character :: rest =>
    match splitAtEquals ('-' :: character :: rest) with
    | (spelling, value) =>
      match OptionName.ofText? spelling with
      | some option => .ok (.assignment option value)
      | none =>
        if spelling ≠ spreadFlag ∧ spelling ≠ helpFlag then .error (.unknownOption spelling)
        else if value.isSome then .error (.unexpectedValue spelling)
        else .ok (if spelling = spreadFlag then .spread else .help)
  | _ => .ok .input

/-- Arguments sorted into inputs, flags and options, each in the order given. -/
structure Arguments where
  inputs : List String := []
  spread : Bool := false
  help : Bool := false
  options : List (OptionName × String) := []
  deriving DecidableEq

namespace Arguments

def withInput (input : String) (arguments : Arguments) : Arguments :=
  { arguments with inputs := input :: arguments.inputs }

def withSpread (arguments : Arguments) : Arguments :=
  { arguments with spread := true }

def withHelp (arguments : Arguments) : Arguments :=
  { arguments with help := true }

def withOption (option : OptionName) (value : String) (arguments : Arguments) : Arguments :=
  { arguments with options := (option, value) :: arguments.options }

def ofTexts : List String → Except UsageFault Arguments
  | [] => .ok {}
  | argument :: rest =>
    if argument = "--" then .ok { inputs := rest }
    else
      match Argument.ofText argument with
      | .error fault => .error fault
      | .ok .input => (ofTexts rest).map (withInput argument)
      | .ok .spread => (ofTexts rest).map withSpread
      | .ok .help => (ofTexts rest).map withHelp
      | .ok (.assignment option (some value)) => (ofTexts rest).map (withOption option value)
      | .ok (.assignment option none) =>
        match rest with
        | [] => .error (.missingValue option)
        | value :: rest => (ofTexts rest).map (withOption option value)

/-- The last value of an option. -/
def value? (arguments : Arguments) (option : OptionName) : Option String :=
  arguments.options.reverse.lookup option

/-- The last value of an option as it is understood, if the option is given at all. -/
def understood {α : Type} (arguments : Arguments) (option : OptionName)
    (understand? : String → Option α) : Except UsageFault (Option α) :=
  match arguments.value? option with
  | none => .ok none
  | some value =>
    match understand? value with
    | some meaning => .ok (some meaning)
    | none => .error (.invalidValue option value)

end Arguments

/-- The indent that a text denotes. -/
def indentOfText? (text : String) : Option Int := do
  let indent ← Text.integer? text
  if 0 < indent then return indent else none

/-- The stop of arguments that are no request. -/
def UsageFault.stop (fault : UsageFault) : Stop :=
  ⟨2, fault.message⟩

/-- The stop of arguments that ask for help. -/
def helpStop : Stop :=
  ⟨0, "the arguments are inputs, and options with their values"⟩

namespace Request

/-- The request that arguments are understood as. -/
def ofArguments (arguments : Arguments) : Except UsageFault Request := do
  let mode ← arguments.understood .mode Mode.ofName?
  let indent ← arguments.understood .indent indentOfText?
  let indentType ← arguments.understood .indentType IndentType.ofName?
  let arrayStyle ← arguments.understood .arrayStyle ArrayStyle.ofName?
  if arguments.inputs.isEmpty then throw .noInputs
  let choices := [mode.map .mode, indent.map .indent, indentType.map .indentType,
    arrayStyle.map SettingChoice.arrayStyle]
  return {
    inputs := arguments.inputs
    spread := arguments.spread
    outputFile := arguments.value? .outputFile
    typeName := (arguments.value? .typeName).getD defaultTypeName
    settings := (choices.filterMap id).foldl Settings.choose {} }

def ofTexts (texts : List String) : Except Stop Request := do
  let arguments ← (Arguments.ofTexts texts).mapError UsageFault.stop
  if arguments.help then throw helpStop
  (ofArguments arguments).mapError UsageFault.stop

example : (ofTexts ["a.json", "--mode=union", "--mode", "merge", "--indent", "3"]) =
    .ok ⟨["a.json"], false, none, "DetectedType", { indent := 3 }⟩ := by rfl
example : ofTexts ["--mode", "both", "a.json"] = .error (UsageFault.invalidValue .mode "both").stop := by rfl
example : ofTexts ["--mode", "both", "--help"] = .error helpStop := by rfl
example : (ofTexts ["--", "--mode"]).map (·.inputs) = .ok ["--mode"] := by rfl

end Request

/-- The stop of the first input that leads nowhere. -/
def inputStop? (tree : FileTree) : List String → Option Stop
  | [] => none
  | input :: inputs =>
    match tree.findSpelled input with
    | .ok _ => inputStop? tree inputs
    | .error .nullCharacter => some ⟨1, PathFault.nullCharacter.literal⟩
    | .error _ => some (UsageFault.missingInput input).stop

/-- Reads arguments as a request for inputs that are there. -/
def readArguments : ArgumentReader := fun tree texts => do
  let request ← Request.ofTexts texts
  match inputStop? tree request.inputs with
  | some stop => throw stop
  | none => return request

end SampleTypes.CommandLine
