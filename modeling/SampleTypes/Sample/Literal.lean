import SampleTypes.Sample.Graph

/-!
# Literals of values

The literal of a value shows a container with the literals of what is in it.  A container that is met again
inside itself is shown by an ellipsis; kinds without an ellipsis always contain another one before they are
met again, so every value has a finite literal.  A record with a field that was never assigned has no literal,
nor has an integer with too many digits.
-/

namespace SampleTypes

/-- Why a value cannot be typed. -/
inductive Fault
  | notAnObject
  /-- The literal of a record was needed of which a field was never assigned. -/
  | unassignedField (record field : String)
  | tooManyDigits
  /-- More containers were open at once than allowed. -/
  | budgetSpent
  deriving DecidableEq

namespace Fault

/-- The greatest number of bytes of a record's name that are told. -/
def nameLimit : Nat := 50

/-- The characters that fit into a number of bytes; a character that fits in part only is shown by the
replacement character. -/
def fitting : Nat → List Char → List Char
  | _, [] => []
  | bytes, character :: rest =>
      if character.utf8Size ≤ bytes then character :: fitting (bytes - character.utf8Size) rest
      else if bytes = 0 then [] else ['\ufffd']

def message : Fault → String
  | .notAnObject => "must be called with a dataclass type or instance"
  | .unassignedField record field =>
      "'" ++ String.ofList (fitting nameLimit record.toList) ++ "' object has no attribute '" ++ field ++ "'"
  | .tooManyDigits => Text.tooLongMessage
  | .budgetSpent => "too many containers are open"

example : fitting 3 ['a', 'é', 'b'] = ['a', 'é'] ∧ fitting 2 ['a', 'é'] = ['a', '\ufffd'] := by decide

end Fault

namespace Node

def kind : Node → String
  | .mapping kind _ =>
    match kind with
    | .plain => "dict"
    | .ordered => "OrderedDict"
    | .readOnly => "mappingproxy"
    | .layered _ => "ChainMap"
  | .record name _ => name
  | .sequence kind _ =>
    match kind with
    | .list => "list"
    | .tuple => "tuple"
    | .labelled name => name
    | .queue => "deque"
    | .values => "dict_values"
    | .custom name _ _ => name
  | .range _ => "range"
  | .view _ => "memoryview"
  | .set kind _ =>
    match kind with
    | .set => "set"
    | .frozen => "frozenset"
    | .keys => "dict_keys"
    | .items => "dict_items"

/-- What a container is shown by inside itself; a tuple with labels is shown in full again. -/
def ellipsis? : Node → Option String
  | .mapping kind _ =>
    match kind with
    | .plain => some "\x7b...\x7d"
    | .readOnly => some "mappingproxy(\x7b...\x7d)"
    | .ordered | .layered _ => some "..."
  | .record _ _ => some "..."
  | .sequence kind _ =>
    match kind with
    | .list | .queue => some "[...]"
    | .tuple => some "(...)"
    | .labelled _ => none
    | .values | .custom _ _ _ => some "..."
  | .range _ => some "..."
  | .view _ => none
  | .set kind _ =>
    match kind with
    | .set => some "set(...)"
    | .frozen => some "frozenset(...)"
    | .keys | .items => some "..."

def listed (literals : List String) : String :=
  String.intercalate ", " literals

def bracketed (literals : List String) : String :=
  "[" ++ listed literals ++ "]"

def braced (literals : List String) : String :=
  "\x7b" ++ listed literals ++ "\x7d"

/-- Literals between parentheses, with a comma after a single one. -/
def parenthesized : List String → String
  | [literal] => "(" ++ literal ++ ",)"
  | literals => "(" ++ listed literals ++ ")"

def called (name argument : String) : String :=
  name ++ "(" ++ argument ++ ")"

def labelled (parts : List (String × String)) : String :=
  listed (parts.map fun part => part.1 ++ "=" ++ part.2)

def mappingLiteral (kind : MappingKind) (entries : List (String × String)) (layers : List String) :
    String :=
  let body := braced (entries.map fun entry => entry.1 ++ ": " ++ entry.2)
  match kind with
  | .plain => body
  | .readOnly => called "mappingproxy" body
  | .ordered =>
      called "OrderedDict"
        (if entries.isEmpty then ""
        else bracketed (entries.map fun entry => parenthesized [entry.1, entry.2]))
  | .layered _ => called "ChainMap" (if layers.isEmpty then braced [] else listed layers)

def sequenceLiteral (kind : SequenceKind) (literals : List String) : String :=
  match kind with
  | .list => bracketed literals
  | .tuple => parenthesized literals
  | .labelled name =>
      called name (labelled (literals.zipIdx.map fun part => ("f" ++ toString part.2, part.1)))
  | .queue => called "deque" (bracketed literals)
  | .values => called "dict_values" (bracketed literals)
  | .custom _ literal _ => literal

/-- The integers that the literal of a progression is made of; a step of one is left out. -/
def bounds (progression : Progression) : List Value :=
  let ⟨start, stop, step⟩ := progression
  ([start, stop] ++ if step = 1 then [] else [step]).map fun bound => .leaf (.integer bound)

def setLiteral (kind : SetKind) (literals : List String) : String :=
  match kind with
  | .set => if literals.isEmpty then "set()" else braced literals
  | .frozen => called "frozenset" (if literals.isEmpty then "" else braced literals)
  | .keys => called "dict_keys" (bracketed literals)
  | .items => called "dict_items" (bracketed literals)

/-- The literal of a container from the literals of the values in it. -/
def literal (show? : Value → Except Fault String) : Node → Except Fault String
  | .mapping (.layered layers) _ => do
      return mappingLiteral (.layered layers) [] (← layers.mapM show?)
  | .mapping kind entries => do
      let shown ← entries.mapM fun entry => do return (← show? entry.1, ← show? entry.2)
      return mappingLiteral kind shown []
  | .record name fields => do
      let shown ← fields.mapM fun field =>
        match field.2 with
        | some value => do return (field.1, ← show? value)
        | none => throw (.unassignedField name field.1)
      return called name (labelled shown)
  | .sequence (.custom _ literal _) _ => .ok literal
  | .sequence kind elements => return sequenceLiteral kind (← elements.mapM show?)
  | .range progression => return called "range" (listed (← (bounds progression).mapM show?))
  | .view _ => .ok "<memory>"
  | .set kind elements => return setLiteral kind (← elements.mapM show?)

end Node

namespace Graph

def leafLiteral (leaf : Leaf) : Except Fault String :=
  if leaf.isTooLong then .error .tooManyDigits else .ok leaf.literal

/-- The literal of a value when at most `budget` more containers may be opened inside the opened ones. -/
def literalWithin (graph : Graph) : Nat → List Address → Value → Except Fault String
  | _, _, .leaf leaf => leafLiteral leaf
  | 0, _, .container _ => .error .budgetSpent
  | budget + 1, opened, .container address =>
    match graph.node? address with
    | none => .ok "..."
    | some node =>
      match node.ellipsis? with
      | some ellipsis =>
          if address ∈ opened then .ok ellipsis
          else node.literal (graph.literalWithin budget (address :: opened))
      | none => node.literal (graph.literalWithin budget opened)

@[simp]
theorem literalWithin_leaf (graph : Graph) (budget : Nat) (opened : List Address) (leaf : Leaf) :
    graph.literalWithin budget opened (.leaf leaf) = leafLiteral leaf := by
  cases budget <;> rfl

/-- The literal of a value.  Between two containers that have an ellipsis every other one is open at most
once, which bounds the containers that are open at once. -/
def literal (graph : Graph) (value : Value) : Except Fault String :=
  graph.literalWithin ((graph.nodes.size + 1) * (graph.nodes.size + 1)) [] value

/-- The text of a value as a key: that of a leaf, and the literal of a container. -/
def keyText (graph : Graph) : Value → Except Fault String
  | .leaf leaf => if leaf.isTooLong then .error .tooManyDigits else .ok leaf.keyText
  | value => graph.literal value

def kind (graph : Graph) : Value → String
  | .leaf leaf => leaf.kind
  | .container address =>
    match graph.node? address with
    | some node => node.kind
    | none => ""

end Graph

end SampleTypes
