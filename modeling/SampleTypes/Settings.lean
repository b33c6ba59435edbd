/-!
# Settings

How sample values are combined into one type and how the resulting type is laid out.  Settings are plain
values: an inference takes one of them and never changes it.  The indentation of a line depends on the
indent character, the indent width and the depth only, and a width or depth below one indents by nothing.
-/

namespace SampleTypes

/-- How the objects found in one array are combined: into one merged shape, or into a union of the
observed shapes. -/
inductive Mode
  | merge
  | union
  deriving DecidableEq, Repr

/-- The character that lines are indented with. -/
inductive IndentType
  | space
  | tab
  deriving DecidableEq, Repr

/-- How an array type is written: `T[]` or `Array<T>`. -/
inductive ArrayStyle
  | brackets
  | generic
  deriving DecidableEq, Repr

namespace Mode

def name : Mode → String
  | .merge => "merge"
  | .union => "union"

/-- The mode of a name; names are case-sensitive. -/
def ofName? (text : String) : Option Mode :=
  [Mode.merge, .union].find? (·.name == text)

end Mode

namespace IndentType

def name : IndentType → String
  | .space => "space"
  | .tab => "tab"

def ofName? (text : String) : Option IndentType :=
  [IndentType.space, .tab].find? (·.name == text)

def character : IndentType → Char
  | .space => ' '
  | .tab => '\t'

end IndentType

namespace ArrayStyle

def name : ArrayStyle → String
  | .brackets => "postfix"
  | .generic => "generic"

def ofName? (text : String) : Option ArrayStyle :=
  [ArrayStyle.brackets, .generic].find? (·.name == text)

end ArrayStyle

/-- The settings of an inference.  The indent is an arbitrary integer here; options given by name are
validated by `NamedOption.choice?`. -/
structure Settings where
  mode : Mode := .merge
  indent : Int := 2
  indentType : IndentType := .space
  arrayStyle : ArrayStyle := .brackets
  deriving DecidableEq, Repr

namespace Settings

/-- The text of one indentation step. -/
def unit (settings : Settings) : String :=
  String.ofList (List.replicate settings.indent.toNat settings.indentType.character)

/-- The text that a line at the given depth starts with: one `unit` for each step of the depth. -/
def indentation (settings : Settings) (depth : Int) : String :=
  String.ofList
    (List.replicate (depth.toNat * settings.indent.toNat) settings.indentType.character)

end Settings

end SampleTypes
