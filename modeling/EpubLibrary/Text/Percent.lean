import EpubLibrary.Text.Utf8

/-!
# Percent encoding

`Percent.decode` puts the bytes that are written as a percent sign and two hexadecimal digits in
their place and reads each run of ASCII characters, decoded, as UTF-8. A percent sign without two
digits stands for itself, and bytes that spell no character are shown by the replacement character.
-/

namespace EpubLibrary.Text.Percent

/-- Decodes from the middle of a run of ASCII characters whose bytes so far are given, last
first. -/
def decodeFrom (run : Bytes) : List Char → List Char
  | [] => Utf8.decodeReplacing run.reverse
  | '%' :: a :: b :: s =>
    match Bytes.hexValue? a, Bytes.hexValue? b with
    | some x, some y => decodeFrom (UInt8.ofNat (16 * x + y) :: run) s
    | _, _ => decodeFrom (0x25 :: run) (a :: b :: s)
  | c :: s =>
    if c.toNat < 128 then decodeFrom (UInt8.ofNat c.toNat :: run) s
    else Utf8.decodeReplacing run.reverse ++ c :: decodeFrom [] s

def decode (s : List Char) : List Char := decodeFrom [] s

end EpubLibrary.Text.Percent
