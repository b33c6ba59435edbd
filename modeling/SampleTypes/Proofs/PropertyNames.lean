import Mathlib.Tactic.SplitIfs
import SampleTypes.TypeExpr.PropertyName

/-!
# Keys and their names

A bare name is a word with at most one line break behind it, and a literal gives its text back.
-/

namespace SampleTypes

namespace Text.StringLiteral

/-- The character that a literal goes on with. -/
def leading? : List Char → Option Char
  | '\\' :: 'u' :: first :: second :: third :: fourth :: _ =>
      (hexNumber? [first, second, third, fourth]).map Char.ofNat
  | '\\' :: 'n' :: _ => some '\n'
  | '\\' :: 'r' :: _ => some '\r'
  | '\\' :: 't' :: _ => some '\t'
  | '\\' :: 'b' :: _ => some '\x08'
  | '\\' :: 'f' :: _ => some '\x0c'
  | '\\' :: character :: _ => some character
  | character :: _ => some character
  | [] => none

private theorem leading?_control : ∀ value < 32, ∀ rest,
    leading? ('\\' :: 'u' :: hexDigits 4 value ++ rest) = some (Char.ofNat value) := by
  intro value small rest
  have number : ∀ value < 32, hexNumber? (hexDigits 4 value) = some value := by decide
  have same := number value small
  change (hexNumber? (hexDigits 4 value)).map Char.ofNat = _
  rw [same]
  rfl

/-- The written form of a character gives the character back, whatever follows it. -/
theorem leading?_encodeChar (character : Char) (rest : List Char) :
    leading? (encodeChar character ++ rest) = some character := by
  unfold encodeChar
  split_ifs with quote backslash newline return_ tab backspace feed control
  · rw [quote]
    rfl
  · rw [backslash]
    rfl
  · rw [newline]
    rfl
  · rw [return_]
    rfl
  · rw [tab]
    rfl
  · rw [backspace]
    rfl
  · rw [feed]
    rfl
  · rw [leading?_control _ control, Char.ofNat_toNat]
  · unfold leading?
    split <;> simp_all

theorem encodeChar_ne_nil (character : Char) : encodeChar character ≠ [] := by
  unfold encodeChar
  split_ifs <;> simp

theorem encodeChars_injective {left right : List Char} (same : encodeChars left = encodeChars right) :
    left = right := by
  induction left generalizing right with
  | nil =>
      cases right with
      | nil => rfl
      | cons first others =>
          have empty := List.append_eq_nil_iff.mp same.symm
          exact absurd empty.1 (encodeChar_ne_nil first)
  | cons first others induction =>
      cases right with
      | nil =>
          have empty := List.append_eq_nil_iff.mp same
          exact absurd empty.1 (encodeChar_ne_nil first)
      | cons character characters =>
          simp only [encodeChars, List.flatMap_cons] at same
          have leading := congrArg leading? same
          rw [leading?_encodeChar, leading?_encodeChar] at leading
          cases leading
          rw [induction (List.append_cancel_left same)]

theorem encode_injective {left right : String} (same : encode left = encode right) : left = right := by
  have characters := String.ofList_injective same
  have inner := List.append_cancel_right (List.cons.inj characters).2
  exact String.toList_inj.mp (encodeChars_injective inner)

theorem not_control_of_mem_encodeChar {character written : Char} (member : written ∈ encodeChar character) :
    ¬written.toNat < 0x20 := by
  have noControl : (encodeChar character).all (0x20 ≤ ·.toNat) = true := by
    unfold encodeChar
    split_ifs with quote backslash newline return_ tab backspace feed control
    any_goals rfl
    · have digits : ∀ value < 32, ('\\' :: 'u' :: hexDigits 4 value).all (0x20 ≤ ·.toNat) = true := by decide
      exact digits character.toNat control
    · simpa using control
  simpa using List.all_eq_true.mp noControl written member

/-- A literal has no control character in it. -/
theorem not_control_of_mem_encode {text : String} {written : Char} (member : written ∈ (encode text).toList) :
    ¬written.toNat < 0x20 := by
  rw [encode, String.toList_ofList, List.cons_append, List.mem_cons, List.mem_append] at member
  rcases member with rfl | inside | quote
  · decide
  · obtain ⟨character, -, member⟩ := List.mem_flatMap.mp inside
    exact not_control_of_mem_encodeChar member
  · rw [List.mem_singleton.mp quote]
    decide

/-- A literal stands on one line. -/
theorem newline_not_mem_encode (text : String) : '\n' ∉ (encode text).toList :=
  fun member => not_control_of_mem_encode member (by decide)

end Text.StringLiteral

namespace PropertyName

theorem isIdentifierPart_of_start {character : Char} (starts : isIdentifierStart character = true) :
    isIdentifierPart character = true := by
  simp [isIdentifierPart, starts]

theorem isIdentifierPart_of_digit {character : Char} (digit : character.isDigit = true) :
    isIdentifierPart character = true := by
  simp [isIdentifierPart, digit]

theorem word_of_isIdentifier {characters : List Char} (identifier : isIdentifier characters = true) :
    characters ≠ [] ∧ ∀ character ∈ characters, isIdentifierPart character = true := by
  cases characters with
  | nil => cases identifier
  | cons first rest =>
      simp only [isIdentifier, Bool.and_eq_true, List.all_eq_true] at identifier
      refine ⟨by simp, ?_⟩
      intro character member
      rcases List.mem_cons.mp member with rfl | later
      · exact isIdentifierPart_of_start identifier.1
      · exact identifier.2 character later

theorem word_of_isIndex {characters : List Char} (index : isIndex characters = true) :
    characters ≠ [] ∧ ∀ character ∈ characters, isIdentifierPart character = true := by
  unfold isIndex at index
  split at index
  · cases index
  · refine ⟨List.cons_ne_nil _ _, ?_⟩
    intro character member
    rw [List.mem_singleton.mp member]
    rfl
  · rename_i first rest _
    simp only [Bool.and_eq_true, List.all_eq_true] at index
    refine ⟨by simp, ?_⟩
    intro character member
    rcases List.mem_cons.mp member with rfl | later
    · exact isIdentifierPart_of_digit index.1.1
    · exact isIdentifierPart_of_digit (index.2 character later)

/-- A key that stands bare is a word, with at most one line break behind it. -/
theorem word_of_standsBare {key : String} (bare : standsBare key = true) :
    withoutFinalNewline key.toList ≠ [] ∧
      ∀ character ∈ withoutFinalNewline key.toList, isIdentifierPart character = true := by
  simp only [standsBare, Bool.or_eq_true] at bare
  rcases bare with identifier | index
  · exact word_of_isIdentifier identifier
  · exact word_of_isIndex index

theorem eq_or_eq_append_newline (characters : List Char) :
    characters = withoutFinalNewline characters ∨
      characters = withoutFinalNewline characters ++ ['\n'] := by
  unfold withoutFinalNewline
  split
  · rename_i last
    right
    obtain ⟨body, equal⟩ := List.getLast?_eq_some_iff.mp last
    rw [equal, List.dropLast_concat]
  · left
    rfl

end PropertyName

end SampleTypes
