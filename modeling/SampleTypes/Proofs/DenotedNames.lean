import SampleTypes.Json.Reader
import SampleTypes.Proofs.PropertyNames

/-!
# What property names denote

A property name is one token: an identifier or an index denotes itself, and a literal denotes the text that a reader of
JSON finds in it.  The name that is written for a key denotes the key, unless the key is a word with a line break behind
it.  Such a key is not quoted: its name is that of the word, and the line break is left behind it.
-/

namespace SampleTypes

namespace Text.StringLiteral

open Json

variable {start budget : Nat}

/-- Four digits of a control character are read as the character, if the text does not end behind them. -/
theorem unicodeEscape_hexDigits {value : Nat} (control : value < 32) {rest : List Char} (goesOn : rest ≠ []) :
    unicodeEscape (hexDigits 4 value ++ rest) = .ok (Char.ofNat value, rest) := by
  have digits : ∀ value < 32, hexNumber? (hexDigits 4 value) = some value := by decide
  have longer : ¬(hexDigits 4 value ++ rest).length ≤ 4 := by
    have positive := List.length_pos_iff.mpr goesOn
    simp only [hexDigits, List.nil_append, List.cons_append, List.length_cons]
    omega
  have unit : codeUnit (hexDigits 4 value ++ rest) = .ok (value, rest) := by
    unfold codeUnit
    rw [if_neg longer, show (hexDigits 4 value ++ rest).take 4 = hexDigits 4 value from rfl, digits value control]
    rfl
  have single : isHighSurrogate value = false ∧ isLowSurrogate value = false := by
    simp only [isHighSurrogate, isLowSurrogate, Bool.and_eq_false_iff, decide_eq_false_iff_not]
    omega
  have character : ofCodeUnit value = Char.ofNat value := by
    rw [ofCodeUnit, single.1, single.2]
    rfl
  unfold unicodeEscape
  rw [unit]
  simp only [bind, Except.bind, single.1, Bool.false_eq_true, false_and, if_false, character]
  split <;> rfl

theorem textBody_escape {character : Char} {escaped rest : List Char}
    (denoted : escape start escaped = .ok (character, rest)) :
    textBody start (budget + 1) ('\\' :: escaped) =
      (textBody start budget rest).map fun (content, after) => (character :: content, after) := by
  rw [textBody, if_neg (by decide), if_pos rfl, denoted]
  rfl

theorem textBody_plain {character : Char} (noQuote : character ≠ '"') (noBackslash : character ≠ '\\')
    (noControl : ¬character.toNat < 0x20) (rest : List Char) :
    textBody start (budget + 1) (character :: rest) =
      (textBody start budget rest).map fun (content, after) => (character :: content, after) := by
  rw [textBody, if_neg noQuote, if_neg noBackslash, if_neg noControl]
  rfl

/-- The written form of a character is read as the character, if the text does not end behind it. -/
theorem textBody_encodeChar (character : Char) {rest : List Char} (goesOn : rest ≠ []) :
    textBody start (budget + 1) (encodeChar character ++ rest) =
      (textBody start budget rest).map fun (content, after) => (character :: content, after) := by
  unfold encodeChar
  split_ifs with quote backslash newline return_ tab backspace feed control
  any_goals
    subst character
    exact textBody_escape rfl
  · apply textBody_escape
    have read := unicodeEscape_hexDigits control goesOn
    rwa [Char.ofNat_toNat] at read
  · exact textBody_plain quote backslash control rest

theorem encodeChars_cons (character : Char) (content : List Char) :
    encodeChars (character :: content) = encodeChar character ++ encodeChars content :=
  rfl

/-- A literal is read as the text that it was written for, up to its closing quote. -/
theorem textBody_encodeChars (content rest : List Char) (bounded : content.length < budget) :
    textBody start budget (encodeChars content ++ '"' :: rest) = .ok (content, rest) := by
  induction content generalizing budget with
  | nil =>
      obtain ⟨budget, rfl⟩ := Nat.exists_eq_succ_of_ne_zero (Nat.ne_zero_of_lt bounded)
      rfl
  | cons character content induction =>
      obtain ⟨budget, rfl⟩ := Nat.exists_eq_succ_of_ne_zero (Nat.ne_zero_of_lt bounded)
      have goesOn : encodeChars content ++ '"' :: rest ≠ [] := by simp
      rw [encodeChars_cons, List.append_assoc, textBody_encodeChar character goesOn,
        induction (Nat.lt_of_succ_lt_succ bounded)]
      rfl

theorem length_le_length_encodeChars (content : List Char) : content.length ≤ (encodeChars content).length := by
  induction content with
  | nil => exact Nat.le_refl 0
  | cons character content induction =>
      have positive := List.length_pos_iff.mpr (encodeChar_ne_nil character)
      rw [encodeChars_cons, List.length_append, List.length_cons]
      omega

/-- Behind its opening quote, a literal is read as its text, and nothing is left. -/
theorem text_encodeChars (content : String) :
    Json.text (encodeChars content.toList ++ ['"']) = .ok (content, []) := by
  have bounded : content.toList.length < (encodeChars content.toList ++ ['"']).length + 1 := by
    have shorter := length_le_length_encodeChars content.toList
    rw [List.length_append]
    omega
  rw [Json.text, textBody_encodeChars content.toList [] bounded]
  exact congrArg (fun text => Except.ok (text, [])) content.ofList_toList

end Text.StringLiteral

namespace PropertyName

/-- An identifier of ASCII characters, or a decimal number without leading zeros. -/
inductive IsWord : List Char → Prop
  | identifier {first : Char} {rest : List Char} (starts : first.isAlpha = true ∨ first = '_' ∨ first = '$')
      (goesOn : ∀ character ∈ rest, character.isAlphanum = true ∨ character = '_' ∨ character = '$') :
      IsWord (first :: rest)
  | zero : IsWord ['0']
  | index {first : Char} {rest : List Char} (starts : first.isDigit = true) (noZero : first ≠ '0')
      (goesOn : ∀ character ∈ rest, character.isDigit = true) : IsWord (first :: rest)

/-- A token denotes a property name: a word denotes itself, and a literal what a reader of JSON finds in it. -/
inductive Denotes : String → String → Prop
  | word {token : String} (isWord : IsWord token.toList) : Denotes token token
  | literal {token name : String} {content : List Char} (isQuoted : token.toList = '"' :: content)
      (isRead : Json.text content = .ok (name, [])) : Denotes token name

/-- A key is a word with a line break behind it. -/
def IsBrokenWord (key : String) : Prop :=
  ∃ word : String, IsWord word.toList ∧ key = word ++ "\n"

theorem isIdentifierStart_iff {character : Char} :
    isIdentifierStart character = true ↔ character.isAlpha = true ∨ character = '_' ∨ character = '$' := by
  simp [isIdentifierStart, or_assoc]

theorem isIdentifierPart_iff {character : Char} :
    isIdentifierPart character = true ↔ character.isAlphanum = true ∨ character = '_' ∨ character = '$' := by
  simp [isIdentifierPart, isIdentifierStart, Char.isAlphanum, or_assoc, or_left_comm, or_comm]

theorem isIndex_cons {first : Char} (noZero : first ≠ '0') (rest : List Char) :
    isIndex (first :: rest) = (first.isDigit && rest.all Char.isDigit) := by
  have isNonzero : (first != '0') = true := bne_iff_ne.mpr noZero
  unfold isIndex
  split
  · rename_i impossible
    cases impossible
  · rename_i isZero
    cases isZero
    exact absurd rfl noZero
  · rename_i same
    cases same
    rw [isNonzero, Bool.and_true]

/-- The test of a name without its line break looks for a word. -/
theorem isWord_iff {characters : List Char} :
    IsWord characters ↔ (isIdentifier characters || isIndex characters) = true := by
  rw [Bool.or_eq_true]
  constructor
  · intro isWord
    cases isWord with
    | identifier starts goesOn =>
        left
        simp only [isIdentifier, Bool.and_eq_true, List.all_eq_true, isIdentifierStart_iff, isIdentifierPart_iff]
        exact ⟨starts, goesOn⟩
    | zero => exact .inr rfl
    | index starts noZero goesOn =>
        right
        rw [isIndex_cons noZero, Bool.and_eq_true, List.all_eq_true]
        exact ⟨starts, goesOn⟩
  · rintro (identifier | index)
    · cases characters with
      | nil => cases identifier
      | cons first rest =>
          simp only [isIdentifier, Bool.and_eq_true, List.all_eq_true, isIdentifierStart_iff, isIdentifierPart_iff]
            at identifier
          exact .identifier identifier.1 identifier.2
    · cases characters with
      | nil => cases index
      | cons first rest =>
          by_cases isZero : first = '0'
          · subst isZero
            cases rest with
            | nil => exact .zero
            | cons second others => simp [isIndex] at index
          · rw [isIndex_cons isZero, Bool.and_eq_true, List.all_eq_true] at index
            exact .index index.1 isZero index.2

theorem not_control_of_isIdentifierPart {character : Char} (isPart : isIdentifierPart character = true) :
    ¬character.toNat < 0x20 := by
  intro control
  have noParts : ∀ value < 32, isIdentifierPart (Char.ofNat value) = false := by decide
  have noPart := noParts character.toNat control
  rw [Char.ofNat_toNat, isPart] at noPart
  cases noPart

theorem IsWord.not_control {characters : List Char} (isWord : IsWord characters) :
    ∀ character ∈ characters, ¬character.toNat < 0x20 := by
  intro character member
  rcases Bool.or_eq_true_iff.mp (isWord_iff.mp isWord) with identifier | index
  · exact not_control_of_isIdentifierPart ((word_of_isIdentifier identifier).2 character member)
  · exact not_control_of_isIdentifierPart ((word_of_isIndex index).2 character member)

theorem not_isWord_of_quoted (content : List Char) : ¬IsWord ('"' :: content) := by
  intro isWord
  cases isWord with
  | identifier starts => revert starts; decide
  | index starts => revert starts; decide

theorem not_isWord_of_newline {characters : List Char} (ends : '\n' ∈ characters) : ¬IsWord characters :=
  fun isWord => isWord.not_control _ ends (by decide)

/-- A token denotes one name. -/
theorem Denotes.unique {token name other : String} (denotes : Denotes token name) (again : Denotes token other) :
    name = other := by
  cases denotes with
  | word isWord =>
      cases again with
      | word => rfl
      | literal isQuoted =>
          rw [isQuoted] at isWord
          exact absurd isWord (not_isWord_of_quoted _)
  | literal isQuoted isRead =>
      cases again with
      | word isWord =>
          rw [isQuoted] at isWord
          exact absurd isWord (not_isWord_of_quoted _)
      | literal sameQuoted sameRead =>
          cases isQuoted.symm.trans sameQuoted
          cases isRead.symm.trans sameRead
          rfl

namespace IsBrokenWord

variable {key : String}

theorem newline_mem (broken : IsBrokenWord key) : '\n' ∈ key.toList := by
  obtain ⟨word, -, rfl⟩ := broken
  simp

/-- A word with a line break behind it is not one token. -/
theorem not_denotes (broken : IsBrokenWord key) (name : String) : ¬Denotes key name := by
  intro denotes
  cases denotes with
  | word isWord => exact not_isWord_of_newline broken.newline_mem isWord
  | literal isQuoted =>
      obtain ⟨word, isWord, rfl⟩ := broken
      rw [String.toList_append] at isQuoted
      generalize word.toList = characters at isWord isQuoted
      cases characters with
      | nil => cases isWord
      | cons first rest =>
          cases isQuoted
          exact not_isWord_of_quoted rest isWord

end IsBrokenWord

/-- A key stands bare if it is a word, or a word with a line break behind it. -/
theorem standsBare_iff (key : String) : standsBare key = true ↔ IsWord key.toList ∨ IsBrokenWord key := by
  rw [standsBare, ← isWord_iff]
  constructor
  · intro isWord
    obtain whole | broken := eq_or_eq_append_newline key.toList
    · rw [← whole] at isWord
      exact .inl isWord
    · refine .inr ⟨String.ofList (withoutFinalNewline key.toList), by rwa [String.toList_ofList], ?_⟩
      rw [← String.toList_inj, String.toList_append, String.toList_ofList]
      exact broken
  · rintro (isWord | ⟨word, isWord, rfl⟩)
    · have noBreak : '\n' ∉ key.toList := fun member => not_isWord_of_newline member isWord
      have same : withoutFinalNewline key.toList = key.toList := by
        rw [withoutFinalNewline, if_neg fun last => noBreak (List.mem_of_getLast? last)]
      rwa [same]
    · have same : withoutFinalNewline (word ++ "\n").toList = word.toList := by
        simp [withoutFinalNewline]
      rwa [same]

theorem write_of_isWord {key : String} (isWord : IsWord key.toList) : write key = key :=
  if_pos ((standsBare_iff key).mpr (.inl isWord))

theorem write_of_isBrokenWord {key : String} (broken : IsBrokenWord key) : write key = key :=
  if_pos ((standsBare_iff key).mpr (.inr broken))

/-- The name of a key that is not a word with a line break behind it denotes the key and stands on one line. -/
theorem denotes_write {key : String} (unbroken : ¬IsBrokenWord key) :
    Denotes (write key) key ∧ ∀ character ∈ (write key).toList, ¬character.toNat < 0x20 := by
  by_cases isWord : IsWord key.toList
  · rw [write_of_isWord isWord]
    exact ⟨.word isWord, isWord.not_control⟩
  · have isQuoted : write key = Text.StringLiteral.encode key :=
      if_neg fun bare => ((standsBare_iff key).mp bare).elim isWord unbroken
    rw [isQuoted]
    refine ⟨.literal ?_ (Text.StringLiteral.text_encodeChars key),
      fun character => Text.StringLiteral.not_control_of_mem_encode⟩
    rw [Text.StringLiteral.encode, String.toList_ofList, List.cons_append]

/-- The name of a key is one token on one line that denotes the key and no other, so no other key has it; or the key is
a word with a line break behind it, and then the name is that of the word, which denotes the word, with the line break
behind it. -/
theorem write_denotes_key (key : String) :
    (¬IsBrokenWord key ∧ Denotes (write key) key ∧ (∀ name, Denotes (write key) name → name = key) ∧
        (∀ character ∈ (write key).toList, ¬character.toNat < 0x20) ∧ ∀ other, write other = write key → other = key) ∨
      ∃ word, IsWord word.toList ∧ key = word ++ "\n" ∧ Denotes (write word) word ∧ write key = write word ++ "\n" ∧
        ∀ name, ¬Denotes (write key) name := by
  by_cases broken : IsBrokenWord key
  · obtain ⟨word, isWord, isKey⟩ := id broken
    refine .inr ⟨word, isWord, isKey, ?_, ?_, ?_⟩
    · rw [write_of_isWord isWord]
      exact .word isWord
    · rw [write_of_isWord isWord, write_of_isBrokenWord broken, isKey]
    · rw [write_of_isBrokenWord broken]
      exact broken.not_denotes
  · obtain ⟨denotes, onOneLine⟩ := denotes_write broken
    refine .inl ⟨broken, denotes, fun name again => again.unique denotes, onOneLine, fun other same => ?_⟩
    by_cases otherBroken : IsBrokenWord other
    · rw [← same, write_of_isBrokenWord otherBroken] at denotes
      exact absurd denotes (otherBroken.not_denotes key)
    · have otherDenotes := (denotes_write otherBroken).1
      rw [same] at otherDenotes
      exact otherDenotes.unique denotes

example : write "a\n" = write "a" ++ "\n" ∧ write "a b\n" = "\"a b\\n\"" := by decide +kernel

end PropertyName

end SampleTypes
