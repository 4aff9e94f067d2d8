/-!
# UTF-8

Encoding and decoding of texts as octets. The decoder accepts exactly the well-formed sequences
and otherwise reports the first ill-formed place: the octets that belong to it and what is wrong.
-/

namespace StructSchema.Text.Utf8

/-- What makes a sequence of octets ill-formed. -/
inductive Problem where
  | invalidStart
  | invalidContinuation
  | unexpectedEnd
  deriving DecidableEq, Repr

/-- The first ill-formed place: the octet that begins it, its position, and its length. -/
structure Fault where
  problem : Problem
  lead : Nat
  position : Nat
  length : Nat
  deriving DecidableEq, Repr

/-- The octets of a text. -/
def encode (text : List Char) : List UInt8 := text.flatMap String.utf8EncodeChar

/-- The number of octets of a text. -/
def size (text : String) : Nat := text.utf8ByteSize

/-- The number of octets that follow a first octet, and the range in which the first of them must
lie; none for an octet that begins no character. -/
def follow? (lead : Nat) : Option (Nat × Nat × Nat) :=
  if lead < 0x80 then some (0, 0x80, 0xBF)
  else if lead < 0xC2 then none
  else if lead < 0xE0 then some (1, 0x80, 0xBF)
  else if lead = 0xE0 then some (2, 0xA0, 0xBF)
  else if lead = 0xED then some (2, 0x80, 0x9F)
  else if lead < 0xF0 then some (2, 0x80, 0xBF)
  else if lead = 0xF0 then some (3, 0x90, 0xBF)
  else if lead < 0xF4 then some (3, 0x80, 0xBF)
  else if lead = 0xF4 then some (3, 0x80, 0x8F)
  else none

/-- The part of a first octet that counts towards the code point, by the octets that follow. -/
def leadBits (lead : Nat) : Nat → Nat
  | 0 => lead
  | 1 => lead % 0x20
  | 2 => lead % 0x10
  | _ => lead % 0x08

/-- A decoder between two octets: the characters so far in reverse, the octets read, and the
character in progress. -/
structure State where
  done : List Char
  position : Nat
  /-- The octet that began the character in progress, its position, the code point so far, the
  octets still owed, and the range of the next one. -/
  partialChar : Option (Nat × Nat × Nat × Nat × Nat × Nat)

/-- Reads an octet where a character begins. -/
def State.begin (s : State) (octet : Nat) : Except Fault State :=
  match follow? octet with
  | none => .error ⟨.invalidStart, octet, s.position, 1⟩
  | some (0, _, _) => .ok ⟨Char.ofNat octet :: s.done, s.position + 1, none⟩
  | some (owed, low, high) =>
    .ok ⟨s.done, s.position + 1,
      some (octet, s.position, leadBits octet owed, owed, low, high)⟩

/-- Reads one octet. -/
def State.step (s : State) (octet : Nat) : Except Fault State :=
  match s.partialChar with
  | none => s.begin octet
  | some (lead, start, code, owed, low, high) =>
    if low ≤ octet ∧ octet ≤ high then
      let code := code * 0x40 + octet % 0x40
      if owed ≤ 1 then .ok ⟨Char.ofNat code :: s.done, s.position + 1, none⟩
      else .ok ⟨s.done, s.position + 1, some (lead, start, code, owed - 1, 0x80, 0xBF)⟩
    else .error ⟨.invalidContinuation, lead, start, s.position - start⟩

/-- The text at the end of the octets. -/
def State.finish (s : State) : Except Fault (List Char) :=
  match s.partialChar with
  | none => .ok s.done.reverse
  | some (lead, start, _) => .error ⟨.unexpectedEnd, lead, start, s.position - start⟩

/-- The text of a sequence of octets. -/
def decode (octets : List UInt8) : Except Fault (List Char) := do
  let last ← octets.foldlM (fun (s : State) octet => s.step octet.toNat) ⟨[], 0, none⟩
  last.finish

end StructSchema.Text.Utf8
