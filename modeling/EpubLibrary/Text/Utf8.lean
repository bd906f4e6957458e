import EpubLibrary.Text.Pieces

namespace EpubLibrary.Text.Utf8

/-- The bytes of one character. -/
def encodeChar (c : Char) : Bytes :=
  let n := c.toNat
  if n < 0x80 then [UInt8.ofNat n]
  else if n < 0x800 then [UInt8.ofNat (0xC0 + n / 64), UInt8.ofNat (0x80 + n % 64)]
  else if n < 0x10000 then
    [UInt8.ofNat (0xE0 + n / 4096), UInt8.ofNat (0x80 + n / 64 % 64), UInt8.ofNat (0x80 + n % 64)]
  else
    [UInt8.ofNat (0xF0 + n / 262144), UInt8.ofNat (0x80 + n / 4096 % 64),
      UInt8.ofNat (0x80 + n / 64 % 64), UInt8.ofNat (0x80 + n % 64)]

def encode (s : List Char) : Bytes := s.flatMap encodeChar

/-- Is the byte one that goes on a character? -/
def isContinuation (b : Nat) : Bool := 0x80 ≤ b && b ≤ 0xBF

/-- May the second byte follow the first? Overlong forms and surrogates are ruled out. -/
def mayFollow (first second : Nat) : Bool :=
  isContinuation second &&
    (if first = 0xE0 then 0xA0 ≤ second
    else if first = 0xED then second ≤ 0x9F
    else if first = 0xF0 then 0x90 ≤ second
    else if first = 0xF4 then second ≤ 0x8F
    else true)

/-- The character at the start of a byte string, or the longest start of one. -/
def read : Bytes → Piece
  | [] => .unreadable 1
  | b₀ :: rest =>
    let a := b₀.toNat
    if a < 0x80 then .char (Char.ofNat a) 1
    else if a < 0xC2 ∨ 0xF5 ≤ a then .unreadable 1
    else
      match rest with
      | [] => .unreadable 1
      | b₁ :: rest =>
        let b := b₁.toNat
        if !mayFollow a b then .unreadable 1
        else if a < 0xE0 then .char (Char.ofNat ((a - 0xC0) * 64 + (b - 0x80))) 2
        else
          match rest with
          | [] => .unreadable 2
          | b₂ :: rest =>
            let c := b₂.toNat
            if !isContinuation c then .unreadable 2
            else if a < 0xF0 then
              .char (Char.ofNat ((a - 0xE0) * 4096 + (b - 0x80) * 64 + (c - 0x80))) 3
            else
              match rest with
              | [] => .unreadable 3
              | b₃ :: _ =>
                let d := b₃.toNat
                if !isContinuation d then .unreadable 3
                else
                  .char (Char.ofNat ((a - 0xF0) * 262144 + (b - 0x80) * 4096 + (c - 0x80) * 64 +
                    (d - 0x80))) 4

/-- The text that the bytes spell. -/
def decode? (bytes : Bytes) : Option (List Char) := strict? (pieces read bytes)

/-- The text with replacement characters for what spells none. -/
def decodeReplacing (bytes : Bytes) : List Char := replacing (pieces read bytes)

end EpubLibrary.Text.Utf8
