import ContentGateway.Text.Basic

/-!
# UTF-8

`encode` writes characters as bytes, `decode` reads them back. Decoding is strict: shortest forms
only, no surrogates, nothing above `U+10FFFF`. A failure names the longest run of bytes that could
still begin a character, where the run starts, and why it was given up: its first byte begins no
character, the byte after the run cannot continue it, or the data ends inside it.
-/

namespace ContentGateway.Text

/-- Why a run of bytes is no character. -/
inductive Utf8Reason where
  | invalidStart
  | invalidContinuation
  | unexpectedEnd
  deriving DecidableEq

/-- The first run of bytes that is no character: its place, its bytes and the reason. -/
structure Utf8Fault where
  position : Nat
  run : List UInt8
  reason : Utf8Reason
  deriving DecidableEq

def Utf8Reason.message : Utf8Reason → String
  | .invalidStart => "invalid start byte"
  | .invalidContinuation => "invalid continuation byte"
  | .unexpectedEnd => "unexpected end of data"

/-- The wording of a fault: one byte is shown, of several only the first and last position. -/
def Utf8Fault.message (f : Utf8Fault) : String :=
  let place := match f.run with
    | [b] => "byte 0x" ++ String.ofList (hex 2 b.toNat) ++ " in position " ++ toString f.position
    | run => "bytes in position " ++ toString f.position ++ "-" ++
        toString (f.position + run.length - 1)
  "'utf-8' codec can't decode " ++ place ++ ": " ++ f.reason.message

def encodeChar (c : Char) : List UInt8 :=
  let n := c.toNat
  if n < 0x80 then [UInt8.ofNat n]
  else if n < 0x800 then [UInt8.ofNat (0xc0 + n / 64), UInt8.ofNat (0x80 + n % 64)]
  else if n < 0x10000 then
    [UInt8.ofNat (0xe0 + n / 4096), UInt8.ofNat (0x80 + n / 64 % 64), UInt8.ofNat (0x80 + n % 64)]
  else
    [UInt8.ofNat (0xf0 + n / 262144), UInt8.ofNat (0x80 + n / 4096 % 64),
      UInt8.ofNat (0x80 + n / 64 % 64), UInt8.ofNat (0x80 + n % 64)]

def encode (cs : List Char) : List UInt8 := cs.flatMap encodeChar

def isContinuation (b : UInt8) : Bool := 0x80 ≤ b.toNat && b.toNat < 0xc0

/-- Whether `second` may follow `first` in a character of two or more bytes: a continuation byte
that keeps the form shortest, out of the surrogates and below the last character. -/
def isSecond (first second : UInt8) : Bool :=
  let a := first.toNat
  let b := second.toNat
  isContinuation second &&
    (if a = 0xe0 then 0xa0 ≤ b else if a = 0xed then b < 0xa0
      else if a = 0xf0 then 0x90 ≤ b else if a = 0xf4 then b < 0x90 else true)

/-- The low six bits that a continuation byte carries. -/
def payload (b : UInt8) : Nat := b.toNat % 64

/-- Reads bytes as text; `position` is the place of the first of them in the whole. -/
def decodeFrom (position : Nat) : List UInt8 → Except Utf8Fault (List Char)
  | [] => .ok []
  | a :: rest =>
    let n := a.toNat
    if n < 0x80 then (Char.ofNat n :: ·) <$> decodeFrom (position + 1) rest
    else if n < 0xc2 || 0xf4 < n then .error ⟨position, [a], .invalidStart⟩
    else match rest with
      | [] => .error ⟨position, [a], .unexpectedEnd⟩
      | b :: rest =>
        if !isSecond a b then .error ⟨position, [a], .invalidContinuation⟩
        else if n < 0xe0 then
          (Char.ofNat ((n - 0xc0) * 64 + payload b) :: ·) <$> decodeFrom (position + 2) rest
        else match rest with
          | [] => .error ⟨position, [a, b], .unexpectedEnd⟩
          | c :: rest =>
            if !isContinuation c then .error ⟨position, [a, b], .invalidContinuation⟩
            else if n < 0xf0 then
              (Char.ofNat ((n - 0xe0) * 4096 + payload b * 64 + payload c) :: ·) <$>
                decodeFrom (position + 3) rest
            else match rest with
              | [] => .error ⟨position, [a, b, c], .unexpectedEnd⟩
              | d :: rest =>
                if !isContinuation d then .error ⟨position, [a, b, c], .invalidContinuation⟩
                else
                  (Char.ofNat ((n - 0xf0) * 262144 + payload b * 4096 + payload c * 64 +
                    payload d) :: ·) <$> decodeFrom (position + 4) rest

def decode (bytes : List UInt8) : Except Utf8Fault (List Char) := decodeFrom 0 bytes

end ContentGateway.Text
