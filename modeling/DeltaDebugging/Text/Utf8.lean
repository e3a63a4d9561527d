/-!
# Decoding UTF-8

One step reads a character or says how many bytes can not begin one: as many as form a
proper beginning of a character, and at least one. Strict decoding reports where and
why it stopped; lossy decoding puts one replacement character for every refused run.

Programs read and write bytes. There a row of bytes is a text whose characters are the bytes,
each the character of its number, so that the functions on texts work on bytes as well.
-/
namespace DeltaDebugging.Text

inductive Malformed where
  | invalid (count : Nat)
  /-- The input ends within a character of which `count` bytes are there. -/
  | incomplete (count : Nat)
  deriving DecidableEq, Repr

namespace Malformed

def count : Malformed → Nat
  | invalid n => n
  | incomplete n => n

def message (index : Nat) : Malformed → String
  | invalid n =>
      "invalid utf-8 sequence of " ++ toString n ++ " bytes from index " ++ toString index
  | incomplete _ => "incomplete utf-8 byte sequence from index " ++ toString index

end Malformed

/-- How a first byte begins a character: the payload bits, the bounds of the second byte,
and how many bytes follow that. -/
def leading (b : Nat) : Option (Nat × Nat × Nat × Nat) :=
  if 0xc2 ≤ b ∧ b ≤ 0xdf then some (b - 0xc0, 0x80, 0xbf, 0)
  else if b = 0xe0 then some (0, 0xa0, 0xbf, 1)
  else if b = 0xed then some (0xd, 0x80, 0x9f, 1)
  else if 0xe1 ≤ b ∧ b ≤ 0xef then some (b - 0xe0, 0x80, 0xbf, 1)
  else if b = 0xf0 then some (0, 0x90, 0xbf, 2)
  else if 0xf1 ≤ b ∧ b ≤ 0xf3 then some (b - 0xf0, 0x80, 0xbf, 2)
  else if b = 0xf4 then some (4, 0x80, 0x8f, 2)
  else none

def continuation : (more seen value : Nat) → List UInt8 → Except Malformed (Nat × Nat)
  | 0, seen, value, _ => .ok (value, seen)
  | _ + 1, seen, _, [] => .error (.incomplete seen)
  | more + 1, seen, value, b :: bytes =>
    if 0x80 ≤ b.toNat ∧ b.toNat ≤ 0xbf then
      continuation more (seen + 1) (value * 64 + (b.toNat - 0x80)) bytes
    else .error (.invalid seen)

def decodeChar (b : UInt8) (bytes : List UInt8) : Except Malformed (Char × Nat) :=
  if b.toNat < 0x80 then .ok (Char.ofNat b.toNat, 1) else
  match leading b.toNat with
  | none => .error (.invalid 1)
  | some (bits, low, high, more) =>
    match bytes with
    | [] => .error (.incomplete 1)
    | c :: rest =>
      if low ≤ c.toNat ∧ c.toNat ≤ high then
        (continuation more 2 (bits * 64 + (c.toNat - 0x80)) rest).map fun (value, n) =>
          (Char.ofNat value, n)
      else .error (.invalid 1)

/-- The characters of a text from byte `index` on, with the bytes to be skipped first. -/
def decodeFrom (skip index : Nat) : List UInt8 → Except (Nat × Malformed) (List Char)
  | [] => .ok []
  | b :: bytes => match skip with
    | skip + 1 => decodeFrom skip (index + 1) bytes
    | 0 => match decodeChar b bytes with
      | .ok (c, n) => (decodeFrom (n - 1) (index + 1) bytes).map (c :: ·)
      | .error e => .error (index, e)

def decode (bytes : List UInt8) : Except (Nat × Malformed) String :=
  (decodeFrom 0 0 bytes).map String.ofList

def decodeLossyFrom (skip : Nat) : List UInt8 → List Char
  | [] => []
  | b :: bytes => match skip with
    | skip + 1 => decodeLossyFrom skip bytes
    | 0 => match decodeChar b bytes with
      | .ok (c, n) => c :: decodeLossyFrom (n - 1) bytes
      | .error e => '\ufffd' :: decodeLossyFrom (e.count - 1) bytes

def decodeLossy (bytes : List UInt8) : String := String.ofList (decodeLossyFrom 0 bytes)

def encode (s : String) : List UInt8 := s.toUTF8.toList

end DeltaDebugging.Text

namespace DeltaDebugging.Octets

def ofBytes (bytes : List UInt8) : String :=
  String.ofList (bytes.map fun b => Char.ofNat b.toNat)

def toBytes (s : String) : List UInt8 := s.toList.map fun c => UInt8.ofNat c.toNat

def ofText (s : String) : String := ofBytes (Text.encode s)

/-- The text that bytes encode, with a replacement character for every refused run. -/
def toText (s : String) : String := Text.decodeLossy (toBytes s)

end DeltaDebugging.Octets
