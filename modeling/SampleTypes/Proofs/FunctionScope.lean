import SampleTypes.Proofs.Reading

/-!
# Function types in unions

In the wide scope no union is ever read with a function type for a member: the result of the function would
have taken the bar.  Parentheses around the function type would help, but a type's text has parentheses only
in front of the brackets of an array.
-/

namespace SampleTypes

namespace Grammar

/-- Whether every closing parenthesis has an arrow or the brackets of an array behind it. -/
def Followed : List Token → Prop
  | [] => True
  | token :: rest =>
      (token = .mark ')' →
        rest.head? = some .arrow ∨ ∃ others, rest = .mark '[' :: .mark ']' :: others) ∧ Followed rest

theorem Followed.append {first second : List Token} (followed : Followed first)
    (others : Followed second) : Followed (first ++ second) := by
  induction first with
  | nil => exact others
  | cons token rest induction =>
      refine ⟨fun closes => ?_, induction followed.2⟩
      rcases followed.1 closes with arrow | ⟨more, rfl⟩
      · cases rest with
        | nil => cases arrow
        | cons next rest => exact .inl arrow
      · exact .inr ⟨more ++ second, rfl⟩

theorem Followed.cons {token : Token} {rest : List Token} (other : token ≠ .mark ')')
    (followed : Followed rest) : Followed (token :: rest) :=
  ⟨fun closes => absurd closes other, followed⟩

theorem followed_nil : Followed [] := trivial

theorem followed_mark {mark : Char} (other : mark ≠ ')') : Followed [.mark mark] :=
  followed_nil.cons (by simpa using other)

theorem followed_brackets : Followed [.mark '[', .mark ']'] :=
  (followed_mark (by simp)).cons (by simp)

mutual

/-- In the text of a type every closing parenthesis has an arrow or brackets behind it. -/
theorem followed_tokens (settings : Settings) (type : TypeExpr) : Followed (type.tokens settings) := by
  cases type with
  | primitive name => exact followed_nil.cons (by simp)
  | callable => simp [TypeExpr.tokens, Followed]
  | circular => exact followed_nil.cons (by simp)
  | record value =>
      have argument := followed_tokens settings value
      have head : Followed TypeExpr.recordTokens := by simp [TypeExpr.recordTokens, Followed]
      exact head.append (argument.append (followed_mark (by simp)))
  | array element =>
      have argument := followed_tokens settings element
      simp only [TypeExpr.tokens, TypeExpr.tokensAround]
      cases settings.arrayStyle with
      | generic =>
          exact ((argument.append (followed_mark (by simp))).cons (by simp)).cons (by simp)
      | brackets =>
          cases element.isGrouped with
          | false => exact argument.append followed_brackets
          | true =>
              have closing : Followed [.mark ')', .mark '[', .mark ']'] :=
                ⟨fun _ => .inr ⟨[], rfl⟩, followed_brackets⟩
              exact (argument.append closing).cons (by simp)
  | object properties depth =>
      have arguments := followed_propertyTokens settings properties
      exact (arguments.append (followed_mark (by simp))).cons (by simp)
  | union members depth multiline =>
      cases members with
      | nil => exact followed_nil
      | cons first others =>
          exact (followed_tokens settings first).append (followed_memberTokens settings others)

theorem followed_memberTokens (settings : Settings) (members : List TypeExpr) :
    Followed (TypeExpr.memberTokens settings members) := by
  cases members with
  | nil => exact followed_nil
  | cons member members =>
      have first := followed_tokens settings member
      exact (first.append (followed_memberTokens settings members)).cons (by simp)

theorem followed_propertyTokens (settings : Settings) (properties : List (Property TypeExpr)) :
    Followed (TypeExpr.propertyTokens settings properties) := by
  cases properties with
  | nil => exact followed_nil
  | cons property properties =>
      obtain ⟨key, value, isOptional⟩ := property
      have argument := followed_tokens settings value
      have others := followed_propertyTokens settings properties
      have keyToken : TypeExpr.keyToken key ≠ .mark ')' := by
        unfold TypeExpr.keyToken
        split <;> simp
      have mark : Followed (if isOptional then [.mark '?'] else []) := by
        cases isOptional with
        | true => exact followed_mark (by simp)
        | false => exact followed_nil
      have colon : Token.mark ':' ≠ .mark ')' := by simp
      have semicolon : ';' ≠ ')' := by simp
      have body := (argument.append (followed_mark semicolon)).cons colon
      exact ((mark.append body).cons keyToken).append others

end

/-- Tokens that no reader goes on with. -/
def Stuck (tokens : List Token) : Prop :=
  tokens.head? = some .arrow

theorem not_stuck_of_after? {mark : Char} {tokens rest : List Token}
    (found : after? mark tokens = some rest) : ¬ Stuck tokens := by
  intro stuck
  cases tokens with
  | nil => cases stuck
  | cons token others =>
      cases stuck
      cases found

theorem eq_mark_cons_of_after? {mark : Char} {tokens rest : List Token}
    (found : after? mark tokens = some rest) : tokens = .mark mark :: rest := by
  unfold after? at found
  split at found
  · split at found
    · rename_i same
      cases found
      rw [same]
    · cases found
  · cases found

theorem Followed.after? {mark : Char} {tokens rest : List Token} (followed : Followed tokens)
    (found : after? mark tokens = some rest) : Followed rest := by
  rw [eq_mark_cons_of_after? found] at followed
  exact followed.2

theorem eq_cons_of_result? {tokens body : List Token} (found : result? tokens = some body) :
    tokens = .mark '(' :: .mark ')' :: .arrow :: body := by
  unfold result? at found
  split at found
  · cases found
    rfl
  · cases found

theorem readMembers_of_stuck {budget : Nat} {tokens : List Token} {found : List Written × List Token}
    (stuck : Stuck tokens) (read : readMembers .widest budget tokens = some found) :
    found = ([], tokens) := by
  cases budget with
  | zero => cases read
  | succ budget =>
      rw [readMembers] at read
      cases bar : after? '|' tokens with
      | none =>
          rw [bar] at read
          cases read
          rfl
      | some rest => exact absurd stuck (not_stuck_of_after? bar)

/-- Whether a type may be a member of a union. -/
def Joins (type : Written) : Prop :=
  (∀ result, type ≠ .function result) ∧ type.FunctionsStandAlone

theorem memberFunctionsStandAlone_cons {member : Written} {members : List Written} (joins : Joins member)
    (others : Written.MemberFunctionsStandAlone members) :
    Written.MemberFunctionsStandAlone (member :: members) :=
  ⟨joins.1, joins.2, others⟩

/-- What the wide reader makes of the tokens of a text: function types stand alone, unless the reading has
come to an arrow and goes no further. -/
structure ReadsApart (budget : Nat) : Prop where
  type {tokens type rest} : Followed tokens → readType .widest budget tokens = some (type, rest) →
    (type.FunctionsStandAlone ∨ Stuck rest) ∧ Followed rest
  members {tokens members rest} : Followed tokens →
    readMembers .widest budget tokens = some (members, rest) →
    (Written.MemberFunctionsStandAlone members ∨ Stuck rest) ∧ Followed rest
  operand {tokens type rest} : Followed tokens → readOperand .widest budget tokens = some (type, rest) →
    (Joins type ∨ Stuck rest) ∧ Followed rest
  primary {tokens type rest} : Followed tokens → readPrimary .widest budget tokens = some (type, rest) →
    type.FunctionsStandAlone ∧
      ((∀ result, type ≠ .function result) ∨ Stuck rest ∨
        ∃ others, rest = .mark '[' :: .mark ']' :: others) ∧ Followed rest
  properties {tokens properties rest} : Followed tokens →
    readProperties .widest budget tokens = some (properties, rest) →
    Written.PropertyFunctionsStandAlone properties ∧ Followed rest

theorem followed_suffixes (type : Written) {tokens : List Token} (followed : Followed tokens) :
    Followed (suffixes type tokens).2 := by
  induction type, tokens using suffixes.induct with
  | case1 type rest induction =>
      rw [suffixes]
      exact induction followed.2.2
  | case2 type tokens other =>
      rw [suffixes]
      · exact followed
      · exact other

theorem suffixes_standAlone {type : Written} (tokens : List Token) (standAlone : type.FunctionsStandAlone) :
    (suffixes type tokens).1.FunctionsStandAlone := by
  induction type, tokens using suffixes.induct with
  | case1 type rest induction =>
      rw [suffixes]
      exact induction standAlone
  | case2 type tokens other =>
      rw [suffixes]
      · exact standAlone
      · exact other

theorem suffixes_ne_function {type : Written} (tokens : List Token)
    (other : ∀ result, type ≠ .function result) :
    ∀ result, (suffixes type tokens).1 ≠ .function result := by
  induction type, tokens using suffixes.induct with
  | case1 type rest induction =>
      rw [suffixes]
      exact induction (by simp)
  | case2 type tokens ends =>
      rw [suffixes]
      · exact other
      · exact ends

namespace ReadsApart

variable {budget : Nat} {tokens rest : List Token}

theorem readType (apart : ReadsApart budget) {type : Written} (followed : Followed tokens)
    (read : readType .widest (budget + 1) tokens = some (type, rest)) :
    (type.FunctionsStandAlone ∨ Stuck rest) ∧ Followed rest := by
  cases begins : result? tokens with
  | some body =>
      rw [readType_of_function begins] at read
      simp only [Option.bind_eq_bind, Option.bind_eq_some_iff, Option.pure_def, Option.some.injEq,
        Prod.mk.injEq] at read
      obtain ⟨⟨result, others⟩, found, rfl, rfl⟩ := read
      rw [eq_cons_of_result? begins] at followed
      have clear := apart.type followed.2.2.2 found
      exact clear
  | none =>
      rw [readType_of_operand (.inr begins)] at read
      simp only [Option.bind_eq_bind, Option.bind_eq_some_iff, Option.pure_def, Option.some.injEq,
        Prod.mk.injEq] at read
      obtain ⟨⟨first, behind⟩, foundFirst, ⟨others, remaining⟩, foundOthers, rfl, rfl⟩ := read
      obtain ⟨firstClear, followedBehind⟩ := apart.operand followed foundFirst
      obtain ⟨othersClear, followedRest⟩ := apart.members followedBehind foundOthers
      refine ⟨?_, followedRest⟩
      rcases firstClear with joins | stuck
      · rcases othersClear with joined | stuck
        · left
          cases others with
          | nil => exact joins.2
          | cons member members => exact memberFunctionsStandAlone_cons joins joined
        · exact .inr stuck
      · right
        cases readMembers_of_stuck stuck foundOthers
        exact stuck

theorem readMembers (apart : ReadsApart budget) {members : List Written} (followed : Followed tokens)
    (read : readMembers .widest (budget + 1) tokens = some (members, rest)) :
    (Written.MemberFunctionsStandAlone members ∨ Stuck rest) ∧ Followed rest := by
  cases bar : after? '|' tokens with
  | none =>
      simp only [Grammar.readMembers, bar, Option.some.injEq, Prod.mk.injEq] at read
      obtain ⟨rfl, rfl⟩ := read
      exact ⟨.inl trivial, followed⟩
  | some behindBar =>
      simp only [Grammar.readMembers, bar, Option.bind_eq_bind, Option.bind_eq_some_iff,
        Option.pure_def, Option.some.injEq, Prod.mk.injEq] at read
      obtain ⟨⟨member, behind⟩, foundMember, ⟨others, remaining⟩, foundOthers, rfl, rfl⟩ := read
      obtain ⟨memberClear, followedBehind⟩ := apart.operand (followed.after? bar) foundMember
      obtain ⟨othersClear, followedRest⟩ := apart.members followedBehind foundOthers
      refine ⟨?_, followedRest⟩
      rcases memberClear with joins | stuck
      · exact othersClear.imp_left (memberFunctionsStandAlone_cons joins)
      · right
        cases readMembers_of_stuck stuck foundOthers
        exact stuck

theorem readOperand (apart : ReadsApart budget) {type : Written} (followed : Followed tokens)
    (read : readOperand .widest (budget + 1) tokens = some (type, rest)) :
    (Joins type ∨ Stuck rest) ∧ Followed rest := by
  simp only [Grammar.readOperand, Option.bind_eq_bind, Option.bind_eq_some_iff, Option.pure_def,
    Option.some.injEq] at read
  obtain ⟨⟨primary, behind⟩, found, same⟩ := read
  obtain ⟨standAlone, ending, followedBehind⟩ := apart.primary followed found
  have followedRest := followed_suffixes primary followedBehind
  have operandStandsAlone := suffixes_standAlone behind standAlone
  rw [same] at followedRest operandStandsAlone
  refine ⟨?_, followedRest⟩
  rcases ending with noFunction | stuck | ⟨others, rfl⟩
  · left
    have operandNoFunction := suffixes_ne_function behind noFunction
    rw [same] at operandNoFunction
    exact ⟨operandNoFunction, operandStandsAlone⟩
  · right
    rw [suffixes_of_head] at same
    · cases same
      exact stuck
    · rw [stuck]
      simp
  · left
    have operandNoFunction : ∀ result, (suffixes (.array primary) others).1 ≠ .function result :=
      suffixes_ne_function others (by simp)
    rw [suffixes] at same
    rw [same] at operandNoFunction
    exact ⟨operandNoFunction, operandStandsAlone⟩

theorem followed_optional (followed : Followed tokens) : Followed (optional tokens).2 := by
  unfold optional
  split
  · exact followed.2
  · exact followed

theorem readProperties (apart : ReadsApart budget) {properties : List (Property Written)}
    (followed : Followed tokens)
    (read : readProperties .widest (budget + 1) tokens = some (properties, rest)) :
    Written.PropertyFunctionsStandAlone properties ∧ Followed rest := by
  cases brace : after? '\x7d' tokens with
  | some behindBrace =>
      simp only [Grammar.readProperties, brace, Option.some.injEq, Prod.mk.injEq] at read
      obtain ⟨rfl, rfl⟩ := read
      exact ⟨trivial, followed.after? brace⟩
  | none =>
      cases tokens with
      | nil => simp [Grammar.readProperties, brace] at read
      | cons token others =>
          simp only [Grammar.readProperties, brace, Option.bind_eq_bind, Option.bind_eq_some_iff,
            Option.pure_def, Option.some.injEq, Prod.mk.injEq] at read
          obtain ⟨key, -, behindColon, colon, ⟨value, behindValue⟩, foundValue, behindSemicolon,
            semicolon, ⟨further, remaining⟩, foundFurther, rfl, rfl⟩ := read
          have followedColon := (followed_optional followed.2).after? colon
          obtain ⟨valueClear, followedValue⟩ := apart.type followedColon foundValue
          have followedSemicolon := followedValue.after? semicolon
          obtain ⟨furtherClear, followedRest⟩ := apart.properties followedSemicolon foundFurther
          exact ⟨⟨valueClear.resolve_right (not_stuck_of_after? semicolon), furtherClear⟩, followedRest⟩

theorem readPrimary (apart : ReadsApart budget) {type : Written} (followed : Followed tokens)
    (read : readPrimary .widest (budget + 1) tokens = some (type, rest)) :
    type.FunctionsStandAlone ∧
      ((∀ result, type ≠ .function result) ∨ Stuck rest ∨
        ∃ others, rest = .mark '[' :: .mark ']' :: others) ∧ Followed rest := by
  unfold Grammar.readPrimary at read
  split at read
  · rename_i scope _
    cases scope
  · split at read
    · cases read
      exact ⟨trivial, .inl (by simp), followed.2⟩
    · simp only [Option.bind_eq_bind, Option.bind_eq_some_iff, Option.pure_def, Option.some.injEq,
        Prod.mk.injEq] at read
      obtain ⟨⟨inner, behind⟩, found, behindParenthesis, parenthesis, rfl, rfl⟩ := read
      obtain ⟨clear, followedBehind⟩ := apart.type followed.2 found
      refine ⟨clear.resolve_right (not_stuck_of_after? parenthesis), .inr ?_,
        followedBehind.after? parenthesis⟩
      have closes : behind = .mark ')' :: behindParenthesis := eq_mark_cons_of_after? parenthesis
      rw [closes] at followedBehind
      exact followedBehind.1 rfl
    · simp only [Option.bind_eq_bind, Option.bind_eq_some_iff, Option.pure_def, Option.some.injEq,
        Prod.mk.injEq] at read
      obtain ⟨⟨properties, behind⟩, found, rfl, rfl⟩ := read
      obtain ⟨clear, followedBehind⟩ := apart.properties followed.2 found
      exact ⟨clear, .inl (by simp), followedBehind⟩
    · split at read
      · simp only [Option.bind_eq_bind, Option.bind_eq_some_iff, Option.pure_def, Option.some.injEq,
          Prod.mk.injEq] at read
        obtain ⟨behindOpening, opening, ⟨element, behind⟩, found, behindClosing, closing, rfl, rfl⟩ := read
        obtain ⟨clear, followedBehind⟩ := apart.type (followed.2.after? opening) found
        exact ⟨clear.resolve_right (not_stuck_of_after? closing), .inl (by simp),
          followedBehind.after? closing⟩
      · split at read
        · simp only [Option.bind_eq_bind, Option.bind_eq_some_iff, Option.pure_def, Option.some.injEq,
            Prod.mk.injEq] at read
          obtain ⟨behindOpening, opening, ⟨key, behindKey⟩, foundKey, behindComma, comma,
            ⟨value, behindValue⟩, foundValue, behindClosing, closing, rfl, rfl⟩ := read
          obtain ⟨keyClear, followedKey⟩ := apart.type (followed.2.after? opening) foundKey
          obtain ⟨valueClear, followedValue⟩ := apart.type (followedKey.after? comma) foundValue
          exact ⟨⟨keyClear.resolve_right (not_stuck_of_after? comma),
              valueClear.resolve_right (not_stuck_of_after? closing)⟩,
            .inl (by simp), followedValue.after? closing⟩
        · cases read
          exact ⟨trivial, .inl (by simp), followed.2⟩
    · cases read

end ReadsApart

theorem readsApart (budget : Nat) : ReadsApart budget := by
  induction budget with
  | zero =>
      constructor
      · intro tokens type rest followed read
        cases read
      · intro tokens members rest followed read
        cases read
      · intro tokens type rest followed read
        cases read
      · intro tokens type rest followed read
        cases read
      · intro tokens properties rest followed read
        cases read
  | succ budget apart =>
      exact
        { type := apart.readType
          members := apart.readMembers
          operand := apart.readOperand
          primary := apart.readPrimary
          properties := apart.readProperties }

/-- A text in which every closing parenthesis has an arrow or brackets behind it says no union with a function
type for a member. -/
theorem functionsStandAlone_of_readTokens {tokens : List Token} {type : Written}
    (followed : Followed tokens) (read : readTokens .widest tokens = some type) :
    type.FunctionsStandAlone := by
  unfold readTokens at read
  split at read
  · rename_i found
    cases read
    obtain ⟨standAlone | stuck, -⟩ := (readsApart _).type followed found
    · exact standAlone
    · cases stuck
  · cases read

/-- The text of a regular type is read as the type exactly if no union has a function type for a member. -/
theorem read_render_iff (settings : Settings) {type : TypeExpr} (regular : type.Regular) :
    read .widest (type.render settings) = some type.written ↔ type.written.FunctionsStandAlone := by
  constructor
  · intro found
    have tokens := Lexer.tokens?_chars settings regular
    rw [TypeExpr.chars] at tokens
    rw [read, tokens] at found
    exact functionsStandAlone_of_readTokens (followed_tokens settings type) found
  · intro standAlone
    exact read_render settings regular (.inr standAlone)

end Grammar

end SampleTypes
