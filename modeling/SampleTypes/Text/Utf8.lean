/-!
# UTF-8

Decoding of bytes by a machine that takes one byte at a time.  Inside a character the machine knows how many
bytes are still owed and in which range the next one must lie; the ranges rule out overlong forms,
surrogates and code points that are too large.
-/

namespace SampleTypes.Text.Utf8

inductive Cause
  | invalidStart
  | invalidContinuation
  | unexpectedEnd
  deriving DecidableEq

def Cause.message : Cause → String
  | .invalidStart => "invalid start byte"
  | .invalidContinuation => "invalid continuation byte"
  | .unexpectedEnd => "unexpected end of data"

/-- A fault in the bytes from position `start` to before position `stop`. -/
structure Fault where
  cause : Cause
  start : Nat
  stop : Nat
  deriving DecidableEq

/-- A character of which some bytes are still owed: where it starts, how many are owed, the range of the next
one, and the bits read so far. -/
structure Pending where
  start : Nat
  owed : Nat
  least : Nat
  greatest : Nat
  bits : Nat

/-- What a byte between characters begins: a character on its own, or a pending one. -/
def first? (position byte : Nat) : Option (Char ⊕ Pending) :=
  if byte < 0x80 then some (.inl (Char.ofNat byte))
  else if byte < 0xC2 then none
  else if byte < 0xE0 then some (.inr ⟨position, 1, 0x80, 0xBF, byte - 0xC0⟩)
  else if byte = 0xE0 then some (.inr ⟨position, 2, 0xA0, 0xBF, 0⟩)
  else if byte = 0xED then some (.inr ⟨position, 2, 0x80, 0x9F, byte - 0xE0⟩)
  else if byte < 0xF0 then some (.inr ⟨position, 2, 0x80, 0xBF, byte - 0xE0⟩)
  else if byte = 0xF0 then some (.inr ⟨position, 3, 0x90, 0xBF, 0⟩)
  else if byte < 0xF4 then some (.inr ⟨position, 3, 0x80, 0xBF, byte - 0xF0⟩)
  else if byte = 0xF4 then some (.inr ⟨position, 3, 0x80, 0x8F, byte - 0xF0⟩)
  else none

/-- The characters of the bytes from a position on, in the middle of a pending character if there is one. -/
def decodeFrom (position : Nat) : Option Pending → List UInt8 → Except Fault (List Char)
  | none, [] => .ok []
  | some pending, [] => .error ⟨.unexpectedEnd, pending.start, position⟩
  | none, byte :: bytes =>
    match first? position byte.toNat with
    | none => .error ⟨.invalidStart, position, position + 1⟩
    | some (.inl character) =>
        (decodeFrom (position + 1) none bytes).map (character :: ·)
    | some (.inr pending) => decodeFrom (position + 1) (some pending) bytes
  | some pending, byte :: bytes =>
      if pending.least ≤ byte.toNat ∧ byte.toNat ≤ pending.greatest then
        let bits := pending.bits * 0x40 + byte.toNat % 0x40
        if pending.owed ≤ 1 then
          (decodeFrom (position + 1) none bytes).map (Char.ofNat bits :: ·)
        else
          decodeFrom (position + 1) (some ⟨pending.start, pending.owed - 1, 0x80, 0xBF, bits⟩) bytes
      else .error ⟨.invalidContinuation, pending.start, position⟩

def decode (bytes : List UInt8) : Except Fault (List Char) :=
  decodeFrom 0 none bytes

example : (decode [0x61, 0xC3, 0xA9, 0xF0, 0x9F, 0x98, 0x80]).toOption = some ['a', 'é', '😀'] := by
  decide +kernel
example : decode [0x61, 0xE2, 0x82] = .error ⟨.unexpectedEnd, 1, 3⟩ := by rfl
example : decode [0xED, 0xA0, 0x80] = .error ⟨.invalidContinuation, 0, 1⟩ := by rfl

/-- The characters with every kind of line break written as a line feed. -/
def withLineFeeds : List Char → List Char
  | [] => []
  | '\r' :: '\n' :: rest => '\n' :: withLineFeeds rest
  | '\r' :: rest => '\n' :: withLineFeeds rest
  | character :: rest => character :: withLineFeeds rest

end SampleTypes.Text.Utf8
