import SampleTypes.Proofs.Lexing

/-!
# Reading types back

The tokens of a regular type are read as the type again in the narrow scope, and in the wide scope exactly if
no union has a function type for a member: nothing but a function type written bare in front of a bar is ever
read differently from what was meant.
-/

namespace SampleTypes

namespace Grammar

/-- Tokens behind a type that belong neither to it nor to a union with it. -/
def Ends (tokens : List Token) : Prop :=
  tokens.head? ≠ some (.mark '[') ∧ tokens.head? ≠ some (.mark '|')

theorem suffixes_of_head {tokens : List Token} (head : tokens.head? ≠ some (.mark '['))
    (type : Written) : suffixes type tokens = (type, tokens) := by
  unfold suffixes
  split
  · exact absurd rfl head
  · rfl

theorem after?_of_head {mark : Char} {tokens : List Token}
    (head : tokens.head? ≠ some (.mark mark)) : after? mark tokens = none := by
  cases tokens with
  | nil => rfl
  | cons token rest =>
      cases token with
      | mark character =>
          have different : character ≠ mark := by
            intro equal
            exact head (by simp [equal])
          simp [after?, different]
      | word letters => rfl
      | literal characters => rfl
      | arrow => rfl
      | circular => rfl

theorem after?_mark (mark : Char) (rest : List Token) : after? mark (.mark mark :: rest) = some rest := by
  simp [after?]

theorem ends_mark {character : Char} (bracket : character ≠ '[') (bar : character ≠ '|')
    (rest : List Token) : Ends (.mark character :: rest) := by
  constructor
  · simpa using bracket
  · simpa using bar

theorem result?_group {tokens : List Token} (head : tokens.head? ≠ some (.mark ')')) (rest : List Token) :
    result? (.mark '(' :: (tokens ++ .mark ')' :: .mark '[' :: .mark ']' :: rest)) = none := by
  cases tokens with
  | nil => rfl
  | cons token tokens =>
      unfold result?
      split
      · rename_i same
        simp at same
        exact absurd (by simp [same]) head
      · rfl

theorem ends_nil : Ends [] := by
  constructor <;> decide

section Reading

variable (scope : Scope) (settings : Settings)

/-- The tokens of the type are read as one operand, whatever follows them. -/
def ReadAsOperand (type : TypeExpr) : Prop :=
  ∀ budget rest, 4 * (type.tokens settings).length ≤ budget + 2 →
    readOperand scope budget (type.tokens settings ++ rest) = some (suffixes type.written rest)

/-- The tokens of the type are read as the type if the type ends there. -/
def ReadAsType (type : TypeExpr) : Prop :=
  ∀ budget rest, 4 * (type.tokens settings).length ≤ budget → Ends rest →
    readType scope budget (type.tokens settings ++ rest) = some (type.written, rest)

/-- The tokens of further members of a union are read as these members. -/
def ReadAsMembers (members : List TypeExpr) : Prop :=
  ∀ budget rest, 4 * (TypeExpr.memberTokens settings members).length < budget → Ends rest →
    readMembers scope budget (TypeExpr.memberTokens settings members ++ rest) =
      some (TypeExpr.writtenMembers members, rest)

/-- The tokens of properties are read as these properties, up to a closing brace. -/
def ReadAsProperties (properties : List (Property TypeExpr)) : Prop :=
  ∀ budget rest, 4 * (TypeExpr.propertyTokens settings properties).length < budget →
    readProperties scope budget
        (TypeExpr.propertyTokens settings properties ++ .mark '\x7d' :: rest) =
      some (TypeExpr.writtenProperties properties, rest)

variable {scope settings}

theorem readMembers_of_ends {budget : Nat} {rest : List Token} (ends : Ends rest) :
    readMembers scope (budget + 1) rest = some ([], rest) := by
  rw [readMembers, after?_of_head ends.2]

/-- Where no function type begins, a type begins with an operand. -/
theorem readType_of_operand {budget : Nat} {tokens : List Token}
    (alone : scope = .nearest ∨ result? tokens = none) :
    readType scope (budget + 1) tokens = (do
      let (first, rest) ← readOperand scope budget tokens
      let (others, rest) ← readMembers scope budget rest
      return (joined first others, rest)) := by
  rcases alone with rfl | none
  · rw [readType]
    rintro body ⟨⟩
  · rw [readType]
    intro body _ some
    rw [none] at some
    cases some

/-- Where a function type begins, its result goes as far as a type does. -/
theorem readType_of_function {budget : Nat} {tokens body : List Token}
    (begins : result? tokens = some body) :
    readType .widest (budget + 1) tokens = (do
      let (result, rest) ← readType .widest budget body
      return (.function result, rest)) := by
  simp only [readType, begins]

theorem ReadAsOperand.readAsType {type : TypeExpr} (operand : ReadAsOperand scope settings type)
    (alone : ∀ rest, scope = .nearest ∨ result? (type.tokens settings ++ rest) = none)
    (positive : 0 < (type.tokens settings).length) : ReadAsType scope settings type := by
  intro budget rest enough ends
  obtain ⟨budget, rfl⟩ : ∃ smaller, budget = smaller + 2 := ⟨budget - 2, by omega⟩
  rw [readType_of_operand (alone rest), operand (budget + 1) rest (by omega),
    suffixes_of_head ends.1]
  simp only [Option.bind_eq_bind, Option.bind_some, readMembers_of_ends ends]
  rfl

theorem readOperand_of_primary {budget : Nat} {tokens rest : List Token} {type : Written}
    (primary : readPrimary scope budget tokens = some (type, rest)) :
    readOperand scope (budget + 1) tokens = some (suffixes type rest) := by
  rw [readOperand, primary]
  rfl

theorem readPrimary_name {letters : List Char} (budget : Nat) (rest : List Token)
    (plain : letters ≠ ['A', 'r', 'r', 'a', 'y'] ∧ letters ≠ ['R', 'e', 'c', 'o', 'r', 'd']) :
    readPrimary scope (budget + 1) (.word letters :: rest) = some (.name (String.ofList letters), rest) := by
  rw [readPrimary]
  · simp [plain.1, plain.2]
  · rintro body _ ⟨⟩

theorem readPrimary_array (budget : Nat) (rest : List Token) :
    readPrimary scope (budget + 1) (.word ['A', 'r', 'r', 'a', 'y'] :: .mark '<' :: rest) = (do
      let (element, rest) ← readType scope budget rest
      return (.array element, ← after? '>' rest)) := by
  cases scope <;> rfl

theorem readPrimary_record (budget : Nat) (rest : List Token) :
    readPrimary scope (budget + 1) (.word ['R', 'e', 'c', 'o', 'r', 'd'] :: .mark '<' :: rest) = (do
      let (key, rest) ← readType scope budget rest
      let (value, rest) ← readType scope budget (← after? ',' rest)
      return (.record key value, ← after? '>' rest)) := by
  cases scope <;> rfl

theorem readPrimary_object (budget : Nat) (rest : List Token) :
    readPrimary scope (budget + 1) (.mark '\x7b' :: rest) = (do
      let (properties, rest) ← readProperties scope budget rest
      return (.object properties, rest)) := by
  cases scope <;> rfl

theorem readPrimary_group {rest : List Token} (alone : result? (.mark '(' :: rest) = none)
    (budget : Nat) :
    readPrimary scope (budget + 1) (.mark '(' :: rest) = (do
      let (type, rest) ← readType scope budget rest
      return (type, ← after? ')' rest)) := by
  cases scope with
  | widest => rfl
  | nearest =>
      simp only [readPrimary, alone]

theorem plain_of_known {name : String} (known : name ∈ TypeExpr.primitiveNames) :
    name.toList ≠ ['A', 'r', 'r', 'a', 'y'] ∧ name.toList ≠ ['R', 'e', 'c', 'o', 'r', 'd'] := by
  revert name
  decide

theorem readAsOperand_primitive {name : String} (known : name ∈ TypeExpr.primitiveNames) :
    ReadAsOperand scope settings (.primitive name) := by
  intro budget rest enough
  simp only [TypeExpr.tokens, List.length_singleton] at enough
  obtain ⟨budget, rfl⟩ : ∃ smaller, budget = smaller + 2 := ⟨budget - 2, by omega⟩
  apply readOperand_of_primary
  rw [TypeExpr.tokens, List.singleton_append, readPrimary_name budget rest (plain_of_known known),
    String.ofList_toList]
  rfl

theorem readAsOperand_circular : ReadAsOperand scope settings .circular := by
  intro budget rest enough
  simp only [TypeExpr.tokens, List.length_singleton] at enough
  obtain ⟨budget, rfl⟩ : ∃ smaller, budget = smaller + 2 := ⟨budget - 2, by omega⟩
  apply readOperand_of_primary
  cases scope <;> rfl

/-- In the narrow scope a function type is an operand. -/
theorem readAsOperand_callable : ReadAsOperand .nearest settings .callable := by
  intro budget rest enough
  simp only [TypeExpr.tokens, List.length_cons, List.length_nil] at enough
  obtain ⟨budget, rfl⟩ : ∃ smaller, budget = smaller + 3 := ⟨budget - 3, by omega⟩
  apply readOperand_of_primary
  rfl

theorem readAsType_primitive {name : String} (known : name ∈ TypeExpr.primitiveNames) :
    ReadAsType scope settings (.primitive name) :=
  (readAsOperand_primitive known).readAsType (fun _ => .inr rfl) Nat.zero_lt_one

theorem readAsType_callable : ReadAsType .widest settings .callable := by
  intro budget rest enough ends
  simp only [TypeExpr.tokens, List.length_cons, List.length_nil] at enough
  obtain ⟨budget, rfl⟩ : ∃ smaller, budget = smaller + 4 := ⟨budget - 4, by omega⟩
  have known : "unknown" ∈ TypeExpr.primitiveNames := by decide
  have word : ReadAsType .widest settings (.primitive "unknown") := readAsType_primitive known
  have result := word (budget + 3) rest (by simp [TypeExpr.tokens]; omega) ends
  rw [readType_of_function rfl]
  change (do
    let (result, rest) ← readType .widest (budget + 3) (TypeExpr.tokens settings (.primitive "unknown") ++ rest)
    return (Written.function result, rest)) = _
  rw [result]
  rfl

/-- The key of any record is read up to the comma behind it. -/
theorem readType_recordKey {budget : Nat} {rest : List Token} :
    readType scope (budget + 7)
        (.word ['s', 't', 'r', 'i', 'n', 'g'] :: .mark '|' :: .word ['n', 'u', 'm', 'b', 'e', 'r'] ::
          .mark '|' :: .word ['s', 'y', 'm', 'b', 'o', 'l'] :: .mark ',' :: rest) =
      some (TypeExpr.recordKey, .mark ',' :: rest) := by
  cases scope <;> rfl

theorem ReadAsType.record {value : TypeExpr} (argument : ReadAsType scope settings value) :
    ReadAsOperand scope settings (.record value) := by
  intro budget rest enough
  simp only [TypeExpr.tokens, TypeExpr.recordTokens, List.length_append, List.length_cons,
    List.length_nil] at enough
  obtain ⟨budget, rfl⟩ : ∃ smaller, budget = smaller + 9 := ⟨budget - 9, by omega⟩
  have read := argument (budget + 7) (.mark '>' :: rest) (by omega) (ends_mark (by decide) (by decide) rest)
  apply readOperand_of_primary
  simp only [TypeExpr.tokens, TypeExpr.recordTokens, List.cons_append, List.nil_append, List.append_assoc]
  rw [readPrimary_record, readType_recordKey]
  simp only [Option.bind_eq_bind, Option.bind_some, after?_mark, read]
  rfl

/-- The brackets of an array belong to the operand in front of them. -/
theorem ReadAsOperand.array {element : TypeExpr} (brackets : settings.arrayStyle = .brackets)
    (single : element.isGrouped = false) (operand : ReadAsOperand scope settings element) :
    ReadAsOperand scope settings (.array element) := by
  intro budget rest enough
  simp only [TypeExpr.tokens, TypeExpr.tokensAround, brackets, single, Bool.false_eq_true, if_false,
    List.length_append, List.length_cons, List.length_nil] at enough ⊢
  rw [List.append_assoc, operand budget _ (by omega)]
  rfl

/-- Parentheses keep the element of an array together. -/
theorem ReadAsType.groupedArray {element : TypeExpr} (brackets : settings.arrayStyle = .brackets)
    (grouped : element.isGrouped = true) (argument : ReadAsType scope settings element)
    (first : (element.tokens settings).head? ≠ some (.mark ')')) :
    ReadAsOperand scope settings (.array element) := by
  intro budget rest enough
  simp only [TypeExpr.tokens, TypeExpr.tokensAround, brackets, grouped, if_true, List.cons_append,
    List.append_assoc, List.nil_append, List.length_append, List.length_cons, List.length_nil] at enough ⊢
  obtain ⟨budget, rfl⟩ : ∃ smaller, budget = smaller + 2 := ⟨budget - 2, by omega⟩
  have read := argument budget (.mark ')' :: .mark '[' :: .mark ']' :: rest) (by omega)
    (ends_mark (by decide) (by decide) _)
  have primary : readPrimary scope (budget + 1)
      (.mark '(' :: (element.tokens settings ++ .mark ')' :: .mark '[' :: .mark ']' :: rest)) =
      some (element.written, .mark '[' :: .mark ']' :: rest) := by
    rw [readPrimary_group (result?_group first _), read]
    simp only [Option.bind_eq_bind, Option.bind_some, after?_mark]
    rfl
  rw [readOperand_of_primary primary]
  rfl

theorem ReadAsType.genericArray {element : TypeExpr} (generic : settings.arrayStyle = .generic)
    (argument : ReadAsType scope settings element) : ReadAsOperand scope settings (.array element) := by
  intro budget rest enough
  simp only [TypeExpr.tokens, TypeExpr.tokensAround, generic, List.cons_append, List.append_assoc,
    List.nil_append, List.length_append, List.length_cons, List.length_nil] at enough ⊢
  obtain ⟨budget, rfl⟩ : ∃ smaller, budget = smaller + 2 := ⟨budget - 2, by omega⟩
  have read := argument budget (.mark '>' :: rest) (by omega) (ends_mark (by decide) (by decide) _)
  apply readOperand_of_primary
  rw [readPrimary_array, read]
  simp only [Option.bind_eq_bind, Option.bind_some, after?_mark]
  rfl

theorem ReadAsProperties.object {properties : List (Property TypeExpr)} {depth : Int}
    (arguments : ReadAsProperties scope settings properties) :
    ReadAsOperand scope settings (.object properties depth) := by
  intro budget rest enough
  simp only [TypeExpr.tokens, List.cons_append, List.append_assoc, List.nil_append, List.length_append,
    List.length_cons, List.length_nil] at enough ⊢
  obtain ⟨budget, rfl⟩ : ∃ smaller, budget = smaller + 2 := ⟨budget - 2, by omega⟩
  have read := arguments budget rest (by omega)
  apply readOperand_of_primary
  rw [readPrimary_object, read]
  rfl

theorem readAsProperties_nil : ReadAsProperties scope settings [] := by
  intro budget rest enough
  obtain ⟨budget, rfl⟩ : ∃ smaller, budget = smaller + 1 := ⟨budget - 1, by omega⟩
  rfl

theorem key?_keyToken (key : String) : key? (TypeExpr.keyToken key) = some (TypeExpr.writtenKey key) := by
  unfold TypeExpr.keyToken TypeExpr.writtenKey
  cases PropertyName.standsBare key with
  | true => rfl
  | false => simp [key?]

/-- What begins with a key is a property; a key is never taken for the closing brace. -/
theorem readProperties_key {token : Token} {key : String} (named : key? token = some key) (budget : Nat)
    (rest : List Token) :
    readProperties scope (budget + 1) (token :: rest) = (do
      let (isOptional, rest) := optional rest
      let (value, rest) ← readType scope budget (← after? ':' rest)
      let (others, rest) ← readProperties scope budget (← after? ';' rest)
      return (⟨key, value, isOptional⟩ :: others, rest)) := by
  cases token with
  | word letters =>
      cases named
      rfl
  | literal characters =>
      cases named
      rfl
  | mark character => cases named
  | arrow => cases named
  | circular => cases named

theorem ReadAsProperties.cons {property : Property TypeExpr} {properties : List (Property TypeExpr)}
    (argument : ReadAsType scope settings property.value)
    (arguments : ReadAsProperties scope settings properties) :
    ReadAsProperties scope settings (property :: properties) := by
  obtain ⟨key, value, isOptional⟩ := property
  change ReadAsType scope settings value at argument
  intro budget rest enough
  simp only [TypeExpr.propertyTokens, TypeExpr.tokensOfProperty, List.cons_append, List.append_assoc,
    List.nil_append, List.length_append, List.length_cons] at enough ⊢
  obtain ⟨budget, rfl⟩ : ∃ smaller, budget = smaller + 1 := ⟨budget - 1, by omega⟩
  have read := argument budget
    (.mark ';' :: (TypeExpr.propertyTokens settings properties ++ .mark '\x7d' :: rest)) (by omega)
    (ends_mark (by decide) (by decide) _)
  have others := arguments budget rest (by omega)
  have mark : ∀ tokens, optional ((if isOptional then [Token.mark '?'] else []) ++ .mark ':' :: tokens) =
      (isOptional, .mark ':' :: tokens) := by
    intro tokens
    cases isOptional <;> rfl
  rw [readProperties_key (key?_keyToken key), mark]
  simp only [Option.bind_eq_bind, Option.bind_some, after?_mark, read, others]
  rfl

theorem readAsMembers_nil : ReadAsMembers scope settings [] := by
  intro budget rest enough ends
  obtain ⟨budget, rfl⟩ : ∃ smaller, budget = smaller + 1 := ⟨budget - 1, by omega⟩
  exact readMembers_of_ends ends

/-- Behind a member comes a bar or the end of the union. -/
theorem memberTokens_head (members : List TypeExpr) {rest : List Token} (ends : Ends rest) :
    (TypeExpr.memberTokens settings members ++ rest).head? ≠ some (.mark '[') := by
  cases members with
  | nil => exact ends.1
  | cons member members => simp [TypeExpr.memberTokens]

theorem ReadAsMembers.cons {member : TypeExpr} {members : List TypeExpr}
    (operand : ReadAsOperand scope settings member) (others : ReadAsMembers scope settings members) :
    ReadAsMembers scope settings (member :: members) := by
  intro budget rest enough ends
  simp only [TypeExpr.memberTokens, List.cons_append, List.append_assoc, List.length_append,
    List.length_cons] at enough ⊢
  obtain ⟨budget, rfl⟩ : ∃ smaller, budget = smaller + 1 := ⟨budget - 1, by omega⟩
  have first := operand budget (TypeExpr.memberTokens settings members ++ rest) (by omega)
  have further := others budget rest (by omega) ends
  rw [suffixes_of_head (memberTokens_head members ends)] at first
  rw [readMembers, after?_mark]
  simp only [Option.bind_eq_bind, Option.bind_some, first, further]
  rfl

theorem ReadAsMembers.union {first second : TypeExpr} {members : List TypeExpr} {depth : Int}
    {multiline : Bool} (operand : ReadAsOperand scope settings first)
    (alone : ∀ rest, scope = .nearest ∨ result? (first.tokens settings ++ rest) = none)
    (positive : 0 < (first.tokens settings).length)
    (others : ReadAsMembers scope settings (second :: members)) :
    ReadAsType scope settings (.union (first :: second :: members) depth multiline) := by
  intro budget rest enough ends
  rw [TypeExpr.tokens, List.length_append] at enough
  obtain ⟨budget, rfl⟩ : ∃ smaller, budget = smaller + 1 := ⟨budget - 1, by omega⟩
  have read := operand budget (TypeExpr.memberTokens settings (second :: members) ++ rest) (by omega)
  have further := others budget rest (by omega) ends
  rw [suffixes_of_head (memberTokens_head (second :: members) ends)] at read
  rw [TypeExpr.tokens, List.append_assoc, readType_of_operand (alone _), read]
  simp only [Option.bind_eq_bind, Option.bind_some, further]
  rfl

/-- The tokens of a regular type do not begin with a closing parenthesis. -/
theorem tokens_begin (settings : Settings) (type : TypeExpr) (regular : type.Regular) :
    ∃ first others, type.tokens settings = first :: others ∧ first ≠ .mark ')' := by
  cases type with
  | primitive name => exact ⟨_, _, rfl, by simp⟩
  | callable => exact ⟨_, _, rfl, by simp⟩
  | circular => exact ⟨_, _, rfl, by simp⟩
  | record value => exact ⟨_, _, rfl, by simp⟩
  | array element =>
      obtain ⟨first, others, begins, open_⟩ := tokens_begin settings element regular
      simp only [TypeExpr.tokens, TypeExpr.tokensAround, begins]
      cases settings.arrayStyle with
      | generic => exact ⟨_, _, rfl, by simp⟩
      | brackets =>
          cases element.isGrouped with
          | true => exact ⟨_, _, rfl, by simp⟩
          | false => exact ⟨_, _, rfl, open_⟩
  | object properties depth => exact ⟨_, _, rfl, by simp⟩
  | union members depth multiline =>
      cases members with
      | nil => exact absurd regular.1 (by simp)
      | cons member members =>
          obtain ⟨first, others, begins, open_⟩ := tokens_begin settings member regular.2.2.1
          rw [TypeExpr.tokens, begins]
          exact ⟨_, _, rfl, open_⟩

theorem tokens_head {type : TypeExpr} (regular : type.Regular) :
    (type.tokens settings).head? ≠ some (.mark ')') := by
  obtain ⟨first, others, begins, different⟩ := tokens_begin settings type regular
  rw [begins]
  simpa using different

theorem tokens_length_pos {type : TypeExpr} (regular : type.Regular) :
    0 < (type.tokens settings).length := by
  obtain ⟨first, others, begins, -⟩ := tokens_begin settings type regular
  rw [begins]
  exact Nat.succ_pos _

/-- Only a function type, or a union that begins with one, begins like a function type. -/
theorem result?_tokens (settings : Settings) (type : TypeExpr) (regular : type.Regular)
    (single : type.isUnion = false) (noFunction : type ≠ .callable) (rest : List Token) :
    result? (type.tokens settings ++ rest) = none := by
  cases type with
  | primitive name => rfl
  | callable => exact absurd rfl noFunction
  | circular => rfl
  | record value => rfl
  | array element =>
      have elementRegular : element.Regular := regular
      simp only [TypeExpr.tokens, TypeExpr.tokensAround]
      cases settings.arrayStyle with
      | generic => rfl
      | brackets =>
          cases grouped : element.isGrouped with
          | true =>
              simpa using result?_group (tokens_head elementRegular) rest
          | false =>
              have elementSingle : element.isUnion = false := by
                cases element <;> first | rfl | cases grouped
              have elementNoFunction : element ≠ .callable := by
                rintro rfl
                cases grouped
              simpa using result?_tokens settings element regular elementSingle elementNoFunction
                (.mark '[' :: .mark ']' :: rest)
  | object properties depth => rfl
  | union members depth multiline => cases single

/-- Whether a written type is read as it was meant: function types may stand anywhere in the narrow scope,
and outside unions in the wide one. -/
def Clear (scope : Scope) (type : Written) : Prop :=
  scope = .nearest ∨ type.FunctionsStandAlone

theorem ne_callable_of_written {type : TypeExpr} (other : ∀ result, type.written ≠ .function result) :
    type ≠ .callable := by
  rintro rfl
  exact other _ rfl

theorem readAsOperand_array {element : TypeExpr} (regular : element.Regular)
    (operand : element.isUnion = false → scope = .nearest ∨ element ≠ .callable →
      ReadAsOperand scope settings element)
    (argument : ReadAsType scope settings element) : ReadAsOperand scope settings (.array element) := by
  cases style : settings.arrayStyle with
  | generic => exact argument.genericArray style
  | brackets =>
      cases grouped : element.isGrouped with
      | true => exact argument.groupedArray style grouped (tokens_head regular)
      | false =>
          have single : element.isUnion = false := by
            cases element <;> first | rfl | cases grouped
          have noFunction : element ≠ .callable := by
            rintro rfl
            cases grouped
          exact (operand single (.inr noFunction)).array style grouped

mutual

/-- The tokens of a regular type are read as the type, and as an operand unless bars or the arrow of a
function type would reach beyond it. -/
theorem readAs (type : TypeExpr) (regular : type.Regular) (clear : Clear scope type.written) :
    (type.isUnion = false → scope = .nearest ∨ type ≠ .callable → ReadAsOperand scope settings type) ∧
      ReadAsType scope settings type := by
  have asType (single : type.isUnion = false) (noFunction : type ≠ .callable)
      (operand : ReadAsOperand scope settings type) : ReadAsType scope settings type :=
    operand.readAsType (fun rest => .inr (result?_tokens settings type regular single noFunction rest))
      (tokens_length_pos regular)
  cases type with
  | primitive name =>
      have operand : ReadAsOperand scope settings (.primitive name) := readAsOperand_primitive regular
      exact ⟨fun _ _ => operand, asType rfl (by simp) operand⟩
  | callable =>
      cases scope with
      | nearest =>
          have operand : ReadAsOperand .nearest settings .callable := readAsOperand_callable
          exact ⟨fun _ _ => operand, operand.readAsType (fun _ => .inl rfl) (tokens_length_pos regular)⟩
      | widest =>
          refine ⟨fun _ standing => ?_, readAsType_callable⟩
          rcases standing with other | other
          · cases other
          · exact absurd rfl other
  | circular =>
      have operand : ReadAsOperand scope settings .circular := readAsOperand_circular
      exact ⟨fun _ _ => operand, asType rfl (by simp) operand⟩
  | record value =>
      have operand := (readAs value regular (clear.imp_right And.right)).2.record
      exact ⟨fun _ _ => operand, asType rfl (by simp) operand⟩
  | array element =>
      have elementRegular : element.Regular := regular
      have parts := readAs element elementRegular clear
      have operand := readAsOperand_array elementRegular parts.1 parts.2
      exact ⟨fun _ _ => operand, asType rfl (by simp) operand⟩
  | object properties depth =>
      have operand : ReadAsOperand scope settings (.object properties depth) :=
        (readAsProperties properties regular.2 clear).object
      exact ⟨fun _ _ => operand, asType rfl (by simp) operand⟩
  | union members depth multiline =>
      refine ⟨fun single => ?_, ?_⟩
      · cases single
      · match members, regular with
        | [], regular => exact absurd regular.1 (by simp)
        | [_], regular => exact absurd regular.1 (by simp)
        | first :: second :: others, regular =>
            have single := regular.2.1
            have standing : scope = .nearest ∨ first ≠ .callable := clear.imp_right fun standing =>
              ne_callable_of_written standing.1
            have operand := (readAs first regular.2.2.1
              (clear.imp_right fun standing => standing.2.1)).1 single standing
            have further := readAsMembers (second :: others) regular.2.2.2
              (clear.imp_right fun standing => standing.2.2)
            refine further.union operand (fun rest => ?_) (tokens_length_pos regular.2.2.1)
            exact standing.imp_right fun noFunction =>
              result?_tokens settings first regular.2.2.1 single noFunction rest

theorem readAsMembers (members : List TypeExpr) (regular : TypeExpr.RegularMembers members)
    (clear : scope = .nearest ∨ Written.MemberFunctionsStandAlone (TypeExpr.writtenMembers members)) :
    ReadAsMembers scope settings members := by
  cases members with
  | nil => exact readAsMembers_nil
  | cons member members =>
      have standing : scope = .nearest ∨ member ≠ .callable := clear.imp_right fun standing =>
        ne_callable_of_written standing.1
      have first := (readAs member regular.2.1 (clear.imp_right fun standing => standing.2.1)).1
        regular.1 standing
      have others := readAsMembers members regular.2.2 (clear.imp_right fun standing => standing.2.2)
      exact others.cons first

theorem readAsProperties (properties : List (Property TypeExpr))
    (regular : TypeExpr.RegularProperties properties)
    (clear : scope = .nearest ∨
      Written.PropertyFunctionsStandAlone (TypeExpr.writtenProperties properties)) :
    ReadAsProperties scope settings properties := by
  cases properties with
  | nil => exact readAsProperties_nil
  | cons property properties =>
      obtain ⟨key, value, isOptional⟩ := property
      have first := (readAs value regular.1 (clear.imp_right And.left)).2
      have others := readAsProperties properties regular.2 (clear.imp_right And.right)
      exact others.cons first

end

end Reading

theorem readTokens_tokens {scope : Scope} (settings : Settings) {type : TypeExpr}
    (regular : type.Regular) (clear : Clear scope type.written) :
    readTokens scope (type.tokens settings) = some type.written := by
  have asType : ReadAsType scope settings type := (readAs type regular clear).2
  have read := asType _ [] (Nat.le_refl _) ends_nil
  rw [List.append_nil] at read
  rw [readTokens, read]

/-- The text of a regular type is read as the type. -/
theorem read_render {scope : Scope} (settings : Settings) {type : TypeExpr} (regular : type.Regular)
    (clear : Clear scope type.written) : read scope (type.render settings) = some type.written := by
  have tokens := Lexer.tokens?_chars settings regular
  rw [TypeExpr.chars] at tokens
  rw [read, tokens]
  exact readTokens_tokens settings regular clear

end Grammar

end SampleTypes
