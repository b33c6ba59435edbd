import Mathlib.Tactic.SplitIfs
import SampleTypes.Proofs.Grammar
import SampleTypes.Proofs.Layout
import SampleTypes.Proofs.PropertyNames
import SampleTypes.Proofs.Regular

/-!
# The tokens of a type

The text of a regular type consists of the tokens of its parts.  Blanks, line breaks and the depths that they
come from leave no trace, and a key leaves one token however it is written.
-/

namespace SampleTypes

namespace TypeExpr

/-- The tokens around the element of an array. -/
def tokensAround (settings : Settings) (grouped : Bool) (element : List Token) : List Token :=
  match settings.arrayStyle with
  | .generic => .word ['A', 'r', 'r', 'a', 'y'] :: .mark '<' :: (element ++ [.mark '>'])
  | .brackets =>
      if grouped then .mark '(' :: (element ++ [.mark ')', .mark '[', .mark ']'])
      else element ++ [.mark '[', .mark ']']

/-- The tokens before the value of a record. -/
def recordTokens : List Token :=
  [.word ['R', 'e', 'c', 'o', 'r', 'd'], .mark '<', .word ['s', 't', 'r', 'i', 'n', 'g'], .mark '|',
    .word ['n', 'u', 'm', 'b', 'e', 'r'], .mark '|', .word ['s', 'y', 'm', 'b', 'o', 'l'], .mark ',']

/-- The tokens of a property from those of its value. -/
def tokensOfProperty (key : String) (optional : Bool) (value : List Token) : List Token :=
  keyToken key :: ((if optional then [.mark '?'] else []) ++ .mark ':' :: (value ++ [.mark ';']))

mutual

/-- The tokens of a type's text. -/
def tokens (settings : Settings) : TypeExpr → List Token
  | .primitive name => [.word name.toList]
  | .callable => [.mark '(', .mark ')', .arrow, .word Lexer.unknownWord]
  | .circular => [.circular]
  | .record value => recordTokens ++ (value.tokens settings ++ [.mark '>'])
  | .array element => tokensAround settings element.isGrouped (element.tokens settings)
  | .object properties _ => .mark '\x7b' :: (propertyTokens settings properties ++ [.mark '\x7d'])
  | .union [] _ _ => []
  | .union (first :: others) _ _ => first.tokens settings ++ memberTokens settings others

/-- The tokens of further members of a union, each behind a bar. -/
def memberTokens (settings : Settings) : List TypeExpr → List Token
  | [] => []
  | member :: members => .mark '|' :: (member.tokens settings ++ memberTokens settings members)

/-- The tokens of properties. -/
def propertyTokens (settings : Settings) : List (Property TypeExpr) → List Token
  | [] => []
  | ⟨key, value, optional⟩ :: properties =>
      tokensOfProperty key optional (value.tokens settings) ++ propertyTokens settings properties

end

end TypeExpr

namespace Lexer

open TypeExpr

/-- Reading the characters adds the tokens, apart from a word at the end that may go on. -/
def Reads (characters : List Char) (tokens : List Token) : Prop :=
  ∀ before : List Token,
    ((Lexer.mk before false .between).run characters).settled = { tokens := before ++ tokens }

/-- Reading the characters adds the tokens and leaves nothing unfinished. -/
def ReadsWhole (characters : List Char) (tokens : List Token) : Prop :=
  ∀ before : List Token,
    (Lexer.mk before false .between).run characters = { tokens := before ++ tokens }

theorem ReadsWhole.reads {characters : List Char} {tokens : List Token}
    (whole : ReadsWhole characters tokens) : Reads characters tokens := by
  intro before
  rw [whole before]
  rfl

theorem ReadsWhole.append {first second : List Char} {firstTokens secondTokens : List Token}
    (whole : ReadsWhole first firstTokens) (reads : ReadsWhole second secondTokens) :
    ReadsWhole (first ++ second) (firstTokens ++ secondTokens) := by
  intro before
  rw [run_append, whole before, reads, List.append_assoc]

theorem ReadsWhole.append_reads {first second : List Char} {firstTokens secondTokens : List Token}
    (whole : ReadsWhole first firstTokens) (reads : Reads second secondTokens) :
    Reads (first ++ second) (firstTokens ++ secondTokens) := by
  intro before
  rw [run_append, whole before, reads, List.append_assoc]

/-- A piece is finished by a character that cannot continue a word. -/
theorem Reads.append_whole {first : List Char} {character : Char} {others : List Char}
    {firstTokens secondTokens : List Token} (reads : Reads first firstTokens)
    (notPart : PropertyName.isIdentifierPart character = false)
    (whole : ReadsWhole (character :: others) secondTokens) :
    ReadsWhole (first ++ character :: others) (firstTokens ++ secondTokens) := by
  intro before
  rw [run_append_of_settled (reads before) notPart, whole, List.append_assoc]

theorem readsWhole_nil : ReadsWhole [] [] := by
  intro before
  simp [run]

theorem readsWhole_blanks (settings : Settings) (depth : Int) :
    ReadsWhole (settings.blanks depth) [] := by
  intro before
  rw [List.append_nil]
  apply run_blanks before
  intro character member
  obtain ⟨_, rfl⟩ := List.mem_replicate.mp member
  cases settings.indentType <;> rfl

theorem readsWhole_lineBreak (settings : Settings) (depth : Int) :
    ReadsWhole ('\n' :: settings.blanks depth) [] :=
  readsWhole_blanks settings depth

theorem reads_callable :
    Reads ['(', ')', ' ', '=', '>', ' ', 'u', 'n', 'k', 'n', 'o', 'w', 'n']
      [.mark '(', .mark ')', .arrow, .word unknownWord] := by
  intro before
  simp [run, step, start, isBlank, isMark, PropertyName.isIdentifierPart,
    PropertyName.isIdentifierStart, emit, settled, endWord, unknownWord]


/-- Whether a character stands for itself in a literal. -/
def isPlain (character : Char) : Bool :=
  character ∉ ['"', '\\', '\n', '\r']

private theorem step_of_isPlain (tokens : List Token) (marked : Bool) (characters : List Char)
    {character : Char} (plain : isPlain character = true) :
    (Lexer.mk tokens marked (.literal characters)).step character =
      ⟨tokens, marked, .literal (characters ++ [character])⟩ := by
  simp only [isPlain, List.mem_cons, List.not_mem_nil, or_false, not_or, decide_eq_true_eq] at plain
  simp [step, plain]

theorem run_plain (tokens : List Token) (marked : Bool) (characters : List Char)
    {others : List Char} (allPlain : ∀ character ∈ others, isPlain character = true) :
    (Lexer.mk tokens marked (.literal characters)).run others =
      ⟨tokens, marked, .literal (characters ++ others)⟩ := by
  induction others generalizing characters with
  | nil => simp [run]
  | cons other others induction =>
      rw [run_cons, step_of_isPlain tokens marked characters (allPlain other (by simp)),
        induction _ fun character member => allPlain character (by simp [member])]
      simp

private theorem isPlain_hexDigit : ∀ value < 16, isPlain (Text.hexDigit value) = true := by
  decide

theorem isPlain_of_mem_hexDigits {width value : Nat} {character : Char}
    (member : character ∈ Text.hexDigits width value) : isPlain character = true := by
  induction width generalizing value with
  | zero => cases member
  | succ width induction =>
      rcases List.mem_append.mp member with earlier | last
      · exact induction earlier
      · rw [List.mem_singleton.mp last]
        exact isPlain_hexDigit _ (Nat.mod_lt value (by decide))

/-- The written form of a character keeps the lexer inside the literal. -/
theorem run_encodeChar (tokens : List Token) (marked : Bool) (characters : List Char)
    (character : Char) :
    (Lexer.mk tokens marked (.literal characters)).run (Text.StringLiteral.encodeChar character) =
      ⟨tokens, marked, .literal (characters ++ Text.StringLiteral.encodeChar character)⟩ := by
  have escaped : ∀ letter : Char, ∀ others : List Char,
      (∀ other ∈ others, isPlain other = true) →
        (Lexer.mk tokens marked (.literal characters)).run ('\\' :: letter :: others) =
          ⟨tokens, marked, .literal (characters ++ '\\' :: letter :: others)⟩ := by
    intro letter others allPlain
    have begun : (Lexer.mk tokens marked (.literal characters)).run ['\\', letter] =
        ⟨tokens, marked, .literal (characters ++ ['\\', letter])⟩ := by
      simp [run, step]
    rw [show '\\' :: letter :: others = ['\\', letter] ++ others from rfl, run_append, begun,
      run_plain tokens marked _ allPlain, List.append_assoc]
  unfold Text.StringLiteral.encodeChar
  split_ifs with quote backslash newline return_ tab backspace feed control
  · exact escaped '"' [] (by simp)
  · exact escaped '\\' [] (by simp)
  · exact escaped 'n' [] (by simp)
  · exact escaped 'r' [] (by simp)
  · exact escaped 't' [] (by simp)
  · exact escaped 'b' [] (by simp)
  · exact escaped 'f' [] (by simp)
  · exact escaped 'u' _ fun other member => isPlain_of_mem_hexDigits member
  · apply run_plain
    intro other member
    rw [List.mem_singleton.mp member]
    simp [isPlain, quote, backslash, newline, return_]

theorem run_encodeChars (tokens : List Token) (marked : Bool) (written characters : List Char) :
    (Lexer.mk tokens marked (.literal written)).run (Text.StringLiteral.encodeChars characters) =
      ⟨tokens, marked, .literal (written ++ Text.StringLiteral.encodeChars characters)⟩ := by
  induction characters generalizing written with
  | nil => simp [Text.StringLiteral.encodeChars, run]
  | cons character characters induction =>
      rw [Text.StringLiteral.encodeChars, List.flatMap_cons, run_append, run_encodeChar,
        ← Text.StringLiteral.encodeChars, induction, List.append_assoc]

theorem readsWhole_encode (text : String) :
    ReadsWhole (Text.StringLiteral.encode text).toList
      [.literal (Text.StringLiteral.encode text).toList] := by
  intro before
  have begun : (Lexer.mk before false .between).step '"' = ⟨before, false, .literal ['"']⟩ := by
    simp [step, start, isBlank, isMark, PropertyName.isIdentifierPart,
      PropertyName.isIdentifierStart]
  rw [Text.StringLiteral.encode, String.toList_ofList, List.cons_append, run_cons, run_append, begun,
    run_encodeChars]
  simp [run, step, emit]

theorem readsWhole_newline : ReadsWhole ['\n'] [] := by
  intro before
  simp [run, step, start, isBlank]

/-- A key is one token, whether it stands bare, has a line break behind it, or stands between quotes. -/
theorem reads_key (key : String) :
    Reads (PropertyName.write key).toList [TypeExpr.keyToken key] := by
  unfold PropertyName.write TypeExpr.keyToken
  split
  · rename_i bare
    obtain ⟨nonempty, allParts⟩ := PropertyName.word_of_standsBare bare
    have split := PropertyName.eq_or_eq_append_newline key.toList
    generalize PropertyName.withoutFinalNewline key.toList = body at nonempty allParts split ⊢
    have readsBody : Reads body [.word body] :=
      fun before => settled_run_word before nonempty allParts
    rcases split with same | longer
    · rw [same]
      exact readsBody
    · rw [longer]
      exact (readsBody.append_whole (by decide) readsWhole_newline).reads
  · exact (readsWhole_encode key).reads

theorem reads_circular :
    Reads "/* circular */ unknown".toList [.circular] := by
  intro before
  simp [run, step, start, isBlank, isMark, PropertyName.isIdentifierPart,
    PropertyName.isIdentifierStart, emit, settled, endWord, unknownWord, circularComment]

theorem readsWhole_recordHead : ReadsWhole Layout.recordHead recordTokens := by
  intro before
  simp [run, step, start, isBlank, isMark, PropertyName.isIdentifierPart, Layout.recordHead,
    PropertyName.isIdentifierStart, emit, endWord, TypeExpr.recordTokens]

theorem word_of_known {name : String} (known : name ∈ primitiveNames) :
    name.toList ≠ [] ∧ ∀ character ∈ name.toList, PropertyName.isIdentifierPart character = true := by
  simp only [primitiveNames, List.mem_cons, List.not_mem_nil, or_false] at known
  rcases known with rfl | rfl | rfl | rfl | rfl | rfl | rfl | rfl | rfl <;>
    simp [PropertyName.isIdentifierPart, PropertyName.isIdentifierStart]

theorem reads_primitive {name : String} (known : name ∈ primitiveNames) :
    Reads name.toList [.word name.toList] := by
  obtain ⟨nonempty, allParts⟩ := word_of_known known
  exact fun before => settled_run_word before nonempty allParts

theorem reads_around (settings : Settings) (grouped : Bool) {element : List Char}
    {elementTokens : List Token} (reads : Reads element elementTokens) :
    Reads (Layout.around settings grouped element) (tokensAround settings grouped elementTokens) := by
  unfold Layout.around tokensAround
  cases settings.arrayStyle with
  | generic =>
      have opening : ReadsWhole "Array<".toList [.word ['A', 'r', 'r', 'a', 'y'], .mark '<'] := by
        intro before
        simp [run, step, start, isBlank, isMark, PropertyName.isIdentifierPart,
          PropertyName.isIdentifierStart, emit, endWord]
      have closing : ReadsWhole ['>'] [.mark '>'] := fun before => rfl
      exact (opening.append (reads.append_whole (by decide) closing)).reads
  | brackets =>
      cases grouped with
      | true =>
          have opening : ReadsWhole ['('] [.mark '('] := fun before => rfl
          have closing : ReadsWhole [')', '[', ']'] [.mark ')', .mark '[', .mark ']'] := by
            intro before
            simp [run, step, start, isBlank, isMark, PropertyName.isIdentifierPart,
              PropertyName.isIdentifierStart, emit]
          exact (opening.append (reads.append_whole (by decide) closing)).reads
      | false =>
          have closing : ReadsWhole ['[', ']'] [.mark '[', .mark ']'] := by
            intro before
            simp [run, step, start, isBlank, isMark, PropertyName.isIdentifierPart,
              PropertyName.isIdentifierStart, emit]
          exact (reads.append_whole (by decide) closing).reads

/-- Lines of its own add nothing to the tokens of an array's element. -/
theorem reads_elementChars (settings : Settings) {element : TypeExpr} {elementTokens : List Token}
    (reads : Reads (element.chars settings) elementTokens) :
    Reads (element.elementChars settings) elementTokens := by
  unfold elementChars
  split
  · rename_i members depth
    have closed := reads.append_whole (by decide) (readsWhole_lineBreak settings depth)
    have opened := (readsWhole_lineBreak settings (depth + 1)).append closed
    simpa using opened.reads
  · exact reads

theorem readsWhole_afterName (optional : Bool) {value : List Char} {valueTokens : List Token}
    (reads : Reads value valueTokens) :
    ReadsWhole (Layout.afterName optional value)
      ((if optional then [.mark '?'] else []) ++ .mark ':' :: (valueTokens ++ [.mark ';'])) := by
  have colon : ReadsWhole [':', ' '] [.mark ':'] := by
    intro before
    simp [run, step, start, isBlank, isMark, PropertyName.isIdentifierPart,
      PropertyName.isIdentifierStart, emit]
  have closing : ReadsWhole [';'] [.mark ';'] := fun before => rfl
  have rest := colon.append (reads.append_whole (by decide) closing)
  unfold Layout.afterName
  cases optional with
  | false => exact rest
  | true =>
      have mark : ReadsWhole ['?'] [.mark '?'] := fun before => rfl
      exact mark.append rest

/-- A property is read to its end. -/
theorem readsWhole_property (settings : Settings) (depth : Int) (part : Property TypeExpr)
    {valueTokens : List Token} (reads : Reads (part.value.chars settings) valueTokens) :
    ReadsWhole (propertyChars settings depth part)
      (tokensOfProperty part.key part.optional valueTokens) := by
  have indented := readsWhole_lineBreak settings (depth + 1)
  have rest := readsWhole_afterName part.optional reads
  unfold propertyChars tokensOfProperty
  have named : ReadsWhole ((PropertyName.write part.key).toList ++
      Layout.afterName part.optional (part.value.chars settings))
      ([keyToken part.key] ++ ((if part.optional then [.mark '?'] else []) ++
        .mark ':' :: (valueTokens ++ [.mark ';']))) := by
    unfold Layout.afterName at rest ⊢
    cases optional : part.optional with
    | false =>
        simp only [optional] at rest
        exact (reads_key part.key).append_whole (by decide) rest
    | true =>
        simp only [optional] at rest
        exact (reads_key part.key).append_whole (by decide) rest
  exact indented.append named

theorem readsWhole_separator (settings : Settings) (depth : Int) (multiline : Bool) :
    ReadsWhole (Layout.separator settings depth multiline) [.mark '|'] := by
  unfold Layout.separator
  cases multiline with
  | false =>
      intro before
      simp [run, step, start, isBlank, isMark, PropertyName.isIdentifierPart,
        PropertyName.isIdentifierStart, emit]
  | true =>
      have bar : ReadsWhole [' ', '|'] [.mark '|'] := by
        intro before
        simp [run, step, start, isBlank, isMark, PropertyName.isIdentifierPart,
          PropertyName.isIdentifierStart, emit]
      exact bar.append (readsWhole_lineBreak settings (depth + 1))

/-- A further member is read behind a separator. -/
theorem Reads.append_member (settings : Settings) (depth : Int) (multiline : Bool)
    {first member : List Char} {firstTokens memberTokens : List Token} (reads : Reads first firstTokens)
    (memberReads : Reads member memberTokens) :
    Reads (first ++ (Layout.separator settings depth multiline ++ member))
      (firstTokens ++ (.mark '|' :: memberTokens)) := by
  have whole := readsWhole_separator settings depth multiline
  have begun : ReadsWhole (first ++ Layout.separator settings depth multiline)
      (firstTokens ++ [.mark '|']) := by
    unfold Layout.separator at whole ⊢
    cases multiline with
    | false => exact reads.append_whole (by decide) whole
    | true => exact reads.append_whole (by decide) whole
  simpa using begun.append_reads memberReads

mutual

/-- The text of a regular type consists of its tokens. -/
theorem reads_chars (settings : Settings) (type : TypeExpr) (regular : type.Regular) :
    Reads (type.chars settings) (type.tokens settings) := by
  cases type with
  | primitive name =>
      rw [chars_primitive, TypeExpr.tokens]
      exact reads_primitive regular
  | callable =>
      rw [chars, render, TypeExpr.tokens]
      simpa using reads_callable
  | circular =>
      rw [chars, render, TypeExpr.tokens]
      exact reads_circular
  | record value =>
      have closing : ReadsWhole ['>'] [.mark '>'] := fun before => rfl
      have reads := reads_chars settings value regular
      rw [chars_record, TypeExpr.tokens]
      exact (readsWhole_recordHead.append (reads.append_whole (by decide) closing)).reads
  | array element =>
      have reads := reads_chars settings element regular
      rw [chars_array, TypeExpr.tokens]
      exact reads_around settings element.isGrouped (reads_elementChars settings reads)
  | object properties depth =>
      have whole := readsWhole_properties settings depth properties regular.2
      have opening : ReadsWhole ['\x7b'] [.mark '\x7b'] := fun before => rfl
      have closing : ReadsWhole ['\x7d'] [.mark '\x7d'] := fun before => rfl
      rw [chars_object settings regular.1, TypeExpr.tokens]
      exact (opening.append (whole.append
        ((readsWhole_lineBreak settings depth).append closing))).reads
  | union members depth multiline =>
      cases members with
      | nil => exact absurd regular.1 (by decide)
      | cons first others =>
          have reads := reads_chars settings first regular.2.2.1
          rw [chars_union, TypeExpr.tokens]
          exact reads_members settings depth multiline others regular.2.2.2 reads

theorem reads_members (settings : Settings) (depth : Int) (multiline : Bool) (members : List TypeExpr)
    (regular : RegularMembers members) {first : List Char} {firstTokens : List Token}
    (reads : Reads first firstTokens) :
    Reads (first ++ members.flatMap fun member =>
        Layout.separator settings depth multiline ++ member.chars settings)
      (firstTokens ++ memberTokens settings members) := by
  cases members with
  | nil => simpa [memberTokens] using reads
  | cons member members =>
      have memberReads := reads_chars settings member regular.2.1
      have longer := reads_members settings depth multiline members regular.2.2
        (reads.append_member settings depth multiline memberReads)
      simpa [memberTokens] using longer

theorem readsWhole_properties (settings : Settings) (depth : Int)
    (properties : List (Property TypeExpr)) (regular : RegularProperties properties) :
    ReadsWhole (properties.flatMap (propertyChars settings depth))
      (propertyTokens settings properties) := by
  cases properties with
  | nil => exact readsWhole_nil
  | cons property properties =>
      obtain ⟨key, value, optional⟩ := property
      have reads := reads_chars settings value regular.1
      have rest := readsWhole_properties settings depth properties regular.2
      rw [List.flatMap_cons, propertyTokens]
      exact (readsWhole_property settings depth ⟨key, value, optional⟩ reads).append rest

end

theorem tokens?_chars (settings : Settings) {type : TypeExpr} (regular : type.Regular) :
    tokens? (type.chars settings) = some (type.tokens settings) := by
  have reads := reads_chars settings type regular []
  simp only [tokens?, reads]
  rfl

end Lexer

end SampleTypes
