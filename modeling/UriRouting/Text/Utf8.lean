/-!
# UTF-8

Decoding of bytes into characters.  A fault says where the first sequence that is not UTF-8
starts, and how many of its bytes could still have been the beginning of a character, or that the
bytes end inside a character.
-/

namespace UriRouting.Utf8

/-- Why bytes are not UTF-8. -/
inductive Fault
  /-- The bytes from `start` on are no character; the first `length` of them are at fault. -/
  | invalid (length start : Nat)
  /-- The bytes end inside the character that begins at `start`. -/
  | incomplete (start : Nat)
deriving DecidableEq

/-- The wording of a fault. -/
def Fault.message : Fault → String
  | .invalid length start =>
    "invalid utf-8 sequence of " ++ toString length ++ " bytes from index " ++ toString start
  | .incomplete start => "incomplete utf-8 byte sequence from index " ++ toString start

/-- The byte is one that continues a character. -/
def isContinuation (b : UInt8) : Bool := 0x80 ≤ b && b ≤ 0xBF

/-- May the second byte follow the first byte of a character of more than one byte? -/
def admitsSecond (first second : UInt8) : Bool :=
  if first = 0xE0 then 0xA0 ≤ second && second ≤ 0xBF
  else if first = 0xED then 0x80 ≤ second && second ≤ 0x9F
  else if first = 0xF0 then 0x90 ≤ second && second ≤ 0xBF
  else if first = 0xF4 then 0x80 ≤ second && second ≤ 0x8F
  else isContinuation second

/-- The payload of a continuation byte. -/
def payload (b : UInt8) : Nat := b.toNat % 0x40

/-- Decodes bytes of which the first stands at `index`, after the characters `done`, last first. -/
def decodeFrom (index : Nat) (done : List Char) : List UInt8 → Except Fault (List Char)
  | [] => .ok done.reverse
  | a :: rest =>
    if a < 0x80 then decodeFrom (index + 1) (Char.ofNat a.toNat :: done) rest
    else if a < 0xC2 || 0xF4 < a then .error (.invalid 1 index)
    else match rest with
      | [] => .error (.incomplete index)
      | b :: rest =>
        if !admitsSecond a b then .error (.invalid 1 index)
        else if a < 0xE0 then
          decodeFrom (index + 2) (Char.ofNat ((a.toNat - 0xC0) * 0x40 + payload b) :: done) rest
        else match rest with
          | [] => .error (.incomplete index)
          | c :: rest =>
            if !isContinuation c then .error (.invalid 2 index)
            else if a < 0xF0 then
              decodeFrom (index + 3) (Char.ofNat ((a.toNat - 0xE0) * 0x1000 + payload b * 0x40 +
                payload c) :: done) rest
            else match rest with
              | [] => .error (.incomplete index)
              | d :: rest =>
                if !isContinuation d then .error (.invalid 3 index)
                else decodeFrom (index + 4) (Char.ofNat ((a.toNat - 0xF0) * 0x40000 +
                  payload b * 0x1000 + payload c * 0x40 + payload d) :: done) rest

/-- The text that the bytes encode. -/
def decode (bytes : List UInt8) : Except Fault String :=
  (decodeFrom 0 [] bytes).map String.ofList

/-- How many bytes a piece of text takes. -/
def byteLength (text : List Char) : Nat := text.foldr (fun c n => c.utf8Size + n) 0

end UriRouting.Utf8
