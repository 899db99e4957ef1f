import Indentation.Text.Quoted

/-!
# Decoding UTF-8

A character takes one to four bytes. The first byte tells how many follow and in which interval the
second one lies, which rules out longer forms than needed, surrogates and code points beyond
U+10FFFF; the others lie between 80 and BF.

## Main definitions

* `Text.Utf8.Lead` — what the first byte of a longer form says
* `Text.Utf8.Fault` — bytes that are no character, with their place
* `Text.ofUtf8` — the text that bytes encode
-/

namespace Indentation.Text

namespace Utf8

/-- Why bytes are no character. -/
inductive Reason where
  | badStart
  | badContinuation
  | endOfData
  deriving DecidableEq, Repr

/-- The wording of a reason. -/
def Reason.message : Reason → String
  | badStart => "invalid start byte"
  | badContinuation => "invalid continuation byte"
  | endOfData => "unexpected end of data"

/-- Bytes that are no character: the first of them, its position, and how many there are. -/
structure Fault where
  byte : UInt8
  position : Nat
  size : Nat
  reason : Reason
  deriving DecidableEq, Repr

/-- The wording of a fault. A single byte is named, several are given by their positions. -/
def Fault.message (fault : Fault) : Text :=
  let place :=
    if fault.size = 1 then
      "byte 0x".toList ++ hexDigits 2 fault.byte.toNat ++ " in position ".toList
        ++ ofInt fault.position
    else
      "bytes in position ".toList ++ ofInt fault.position ++ "-".toList
        ++ ofInt (fault.position + fault.size - 1)
  "'utf-8' codec can't decode ".toList ++ place ++ ": ".toList ++ fault.reason.message.toList

/-- What the first byte of a longer form says: its bits of the code point, the interval of the byte
after it, and how many more bytes follow that one. -/
structure Lead where
  bits : Nat
  low : UInt8
  high : UInt8
  more : Nat
  deriving DecidableEq, Repr

/-- The meaning of a first byte that is not ASCII. -/
def lead? (byte : UInt8) : Option Lead :=
  let code := byte.toNat
  if code < 0xC2 then none
  else if code < 0xE0 then some ⟨code - 0xC0, 0x80, 0xBF, 0⟩
  else if code < 0xF0 then
    some ⟨code - 0xE0, if code = 0xE0 then 0xA0 else 0x80, if code = 0xED then 0x9F else 0xBF, 1⟩
  else if code < 0xF5 then
    some ⟨code - 0xF0, if code = 0xF0 then 0x90 else 0x80, if code = 0xF4 then 0x8F else 0xBF, 2⟩
  else none

/-- A byte that may follow the second one. -/
def isContinuation (byte : UInt8) : Bool :=
  0x80 ≤ byte && byte ≤ 0xBF

/-- The code point that `bits` and `more` bytes give, or how many bytes were read before the form
broke off, and why. `size` bytes have been read. -/
def tail (bits size : Nat) : Nat → List UInt8 → Except (Nat × Reason) Nat
  | 0, _ => .ok bits
  | _ + 1, [] => .error (size, .endOfData)
  | more + 1, byte :: bytes =>
    if isContinuation byte then
      tail (bits * 64 + (byte.toNat - 0x80)) (size + 1) more bytes
    else
      .error (size, .badContinuation)

/-- The code point that begins with a first byte, from the bytes after it. -/
def longForm (lead : Lead) : List UInt8 → Except (Nat × Reason) Nat
  | [] => .error (1, .endOfData)
  | byte :: bytes =>
    if lead.low ≤ byte && byte ≤ lead.high then
      tail (lead.bits * 64 + (byte.toNat - 0x80)) 2 lead.more bytes
    else
      .error (1, .badContinuation)

/-- Decodes bytes from `position` on, after passing over `skip` bytes of the last character. -/
def decodeFrom (position : Nat) : Nat → List UInt8 → Except Fault Text
  | _, [] => .ok []
  | skip + 1, _ :: bytes => decodeFrom (position + 1) skip bytes
  | 0, byte :: bytes =>
    if byte < 0x80 then do
      return Char.ofNat byte.toNat :: (← decodeFrom (position + 1) 0 bytes)
    else
      match lead? byte with
      | none => .error ⟨byte, position, 1, .badStart⟩
      | some lead =>
        match longForm lead bytes with
        | .error (size, reason) => .error ⟨byte, position, size, reason⟩
        | .ok code => do
          return Char.ofNat code :: (← decodeFrom (position + 1) (lead.more + 1) bytes)

end Utf8

/-- The text that bytes encode. -/
def ofUtf8 (bytes : List UInt8) : Except Utf8.Fault Text :=
  Utf8.decodeFrom 0 0 bytes

end Indentation.Text
