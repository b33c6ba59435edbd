import SampleTypes.Text.Ascii
import SampleTypes.Text.Quoted
import SampleTypes.TypeExpr.Render

/-!
# Drafts of types

A draft is a tree in which the place of a type may hold something that is no type: nothing, a truth value, a
number, a text, or a property on its own.  A draft without such foreign nodes is a type and has its text; for
any other draft the text is refused on account of the foreign node that comes first in reading order.  A text is
also refused where a line would start with an indentation that cannot be made, or where the description of the
foreign node would show an integer with too many digits.
-/

namespace SampleTypes

/-- A type in which any part may be missing its type. -/
inductive Draft
  | primitive (name : String)
  | callable
  | circular
  | record (value : Draft)
  | array (element : Draft)
  | object (properties : List (Property Draft)) (depth : Int)
  | union (members : List Draft) (depth : Int) (multiline : Bool)
  /-- A foreign node: nothing at all. -/
  | missing
  /-- A foreign node: a truth value. -/
  | boolean (value : Bool)
  /-- A foreign node: a number. -/
  | integer (value : Int)
  /-- A foreign node: a text. -/
  | text (value : String)
  /-- A foreign node: a property outside an object. -/
  | property (key : String) (value : Draft) (optional : Bool)

namespace Draft

mutual

/-- The type that the draft is, or else its first foreign node. -/
def complete : Draft → Except Draft TypeExpr
  | .primitive name => .ok (.primitive name)
  | .callable => .ok .callable
  | .circular => .ok .circular
  | .record value => do return .record (← value.complete)
  | .array element => do return .array (← element.complete)
  | .object properties depth => do return .object (← completeProperties properties) depth
  | .union members depth multiline => do
      return .union (← completeMembers members) depth multiline
  | .missing => .error .missing
  | .boolean value => .error (.boolean value)
  | .integer value => .error (.integer value)
  | .text value => .error (.text value)
  | .property key value optional => .error (.property key value optional)

def completeMembers : List Draft → Except Draft (List TypeExpr)
  | [] => .ok []
  | member :: members => do
      let first ← member.complete
      let rest ← completeMembers members
      return first :: rest

def completeProperties : List (Property Draft) → Except Draft (List (Property TypeExpr))
  | [] => .ok []
  | ⟨key, value, optional⟩ :: properties => do
      let first ← value.complete
      let rest ← completeProperties properties
      return ⟨key, first, optional⟩ :: rest

end

/-- Whether the draft needs parentheses before the brackets of an array. -/
def isGrouped : Draft → Bool
  | .union _ _ _ | .callable | .record _ => true
  | _ => false

/-- The text of an array from its element and the text of that. -/
def arrayText (settings : Settings) (element : Draft) (text : String) : String :=
  match element with
  | .union _ depth true => Layout.multilineArray settings depth text
  | _ => Layout.array settings element.isGrouped text

/-- Why a draft has no text: a foreign node, or a line that starts at a depth that is too far off. -/
inductive Obstacle
  | foreign (node : Draft)
  | depth

/-- The first number that is too large for an index of 64 bits with a sign, which is two to the power of 63. -/
def indexLimit : Int :=
  9223372036854775808

/-- Whether a text can be repeated a number of times at all; a negative number counts as none. -/
def isIndex (number : Int) : Bool :=
  -indexLimit ≤ number && number < indexLimit

/-- Whether lines can be indented to a depth. -/
def canIndent (settings : Settings) (depth : Int) : Bool :=
  isIndex settings.indent && isIndex depth

/-- The depth to which lines are indented that start in front of the parts of a draft. -/
def depthBefore? : Draft → Option Int
  | .object (_ :: _) depth | .union _ depth true => some (depth + 1)
  | _ => none

/-- The depth to which the line is indented that starts behind the parts of a draft. -/
def depthBehind? : Draft → Option Int
  | .object (_ :: _) depth | .array (.union _ depth true) => some depth
  | _ => none

/-- Makes the indentation to a depth, if there is one to be made. -/
def indent (settings : Settings) (depth : Option Int) : Except Obstacle Unit :=
  if depth.all (canIndent settings) then .ok () else .error .depth

mutual

/-- The text of a draft.  Its parts are written from left to right, up to the first obstacle. -/
def render (settings : Settings) : Draft → Except Obstacle String
  | .primitive name => .ok name
  | .callable => .ok "() => unknown"
  | .circular => .ok "/* circular */ unknown"
  | .record value => do return Layout.record (← value.render settings)
  | .array element => do
      let text ← element.render settings
      indent settings (depthBehind? (.array element))
      return element.arrayText settings text
  | .object properties depth => do
      indent settings (depthBefore? (.object properties depth))
      let texts ← renderProperties settings properties
      indent settings (depthBehind? (.object properties depth))
      return TypeExpr.objectText settings depth texts
  | .union members depth multiline => do
      indent settings (depthBefore? (.union members depth multiline))
      return Layout.union settings depth multiline (← renderMembers settings members)
  | .missing => .error (.foreign .missing)
  | .boolean value => .error (.foreign (.boolean value))
  | .integer value => .error (.foreign (.integer value))
  | .text value => .error (.foreign (.text value))
  | .property key value optional => .error (.foreign (.property key value optional))

def renderMembers (settings : Settings) : List Draft → Except Obstacle (List String)
  | [] => .ok []
  | member :: members => do
      let first ← member.render settings
      let rest ← renderMembers settings members
      return first :: rest

def renderProperties (settings : Settings) :
    List (Property Draft) → Except Obstacle (List (Property String))
  | [] => .ok []
  | ⟨key, value, optional⟩ :: properties => do
      let first ← value.render settings
      let rest ← renderProperties settings properties
      return ⟨key, first, optional⟩ :: rest

end

/-- A truth value as it is written inside a description. -/
def describeFlag (flag : Bool) : String :=
  if flag then "True" else "False"

/-- Parts between parentheses, with a comma after a single one. -/
def describeTuple (parts : List String) : String :=
  match parts with
  | [part] => "(" ++ part ++ ",)"
  | _ => "(" ++ String.intercalate ", " parts ++ ")"

/-- The description of a property from the description of its value. -/
def describePropertyWith (key value : String) (optional : Bool) : String :=
  "TField(key=" ++ Text.Quoted.text key ++ ", value_type=" ++ value ++ ", optional=" ++
    describeFlag optional ++ ")"

mutual

/-- The description of a draft, each node by its kind and its parts; there is none if an integer in it has too many
digits. -/
def describe? : Draft → Option String
  | .primitive name => some ("TPrimitive(name=" ++ Text.Quoted.text name ++ ")")
  | .callable => some "TCallable()"
  | .circular => some "TCircular()"
  | .record value => do return "TRecord(value_type=" ++ (← value.describe?) ++ ")"
  | .array element => do return "TArray(element_type=" ++ (← element.describe?) ++ ")"
  | .object properties depth => do
      return "TObject(fields=" ++ describeTuple (← describeProperties? properties) ++ ", depth=" ++
        (← Text.integerText? depth) ++ ")"
  | .union members depth multiline => do
      return "TUnion(member_types=" ++ describeTuple (← describeMembers? members) ++ ", depth=" ++
        (← Text.integerText? depth) ++ ", multiline=" ++ describeFlag multiline ++ ")"
  | .missing => some "None"
  | .boolean value => some (describeFlag value)
  | .integer value => Text.integerText? value
  | .text value => some (Text.Quoted.text value)
  | .property key value optional => do return describePropertyWith key (← value.describe?) optional

def describeMembers? : List Draft → Option (List String)
  | [] => some []
  | member :: members => do return (← member.describe?) :: (← describeMembers? members)

def describeProperties? : List (Property Draft) → Option (List String)
  | [] => some []
  | ⟨key, value, optional⟩ :: properties => do
      return describePropertyWith key (← value.describe?) optional :: (← describeProperties? properties)

end

/-- What is told of the reason why a draft has no text. -/
inductive Refusal
  | foreign (description : String)
  | tooManyDigits
  | depth
  deriving DecidableEq

def Refusal.message : Refusal → String
  | .foreign description => "Can't render type expression " ++ description
  | .tooManyDigits => Text.tooLongMessage
  | .depth => "cannot fit 'int' into an index-sized integer"

/-- How an obstacle is told: a foreign node by its description, if it has one. -/
def Obstacle.refusal : Obstacle → Refusal
  | .foreign node =>
    match node.describe? with
    | some description => .foreign description
    | none => .tooManyDigits
  | .depth => .depth

/-- The text of a draft, or what is told instead. -/
def write (settings : Settings) (draft : Draft) : Except Refusal String :=
  (draft.render settings).mapError Obstacle.refusal

end Draft

end SampleTypes
