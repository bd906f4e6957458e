import EpubLibrary.Hash.Sha1
import EpubLibrary.Text.IntegerLiteral
import EpubLibrary.Text.Quoted

namespace EpubLibrary

structure Uuid where
  value : Nat
  isLt : value < 0x100000000000000000000000000000000
  deriving DecidableEq

namespace Uuid

/-- The sixteen bytes, most significant first. -/
def bytes (u : Uuid) : Bytes := Bytes.ofNatBe 16 u.value

/-- The number that sixteen bytes spell. -/
def ofNat (n : Nat) : Uuid := ⟨n % 0x100000000000000000000000000000000, Nat.mod_lt _ (by decide)⟩

/-- The 32 lower-case hexadecimal digits. -/
def digits (u : Uuid) : List Char := u.bytes.flatMap Bytes.hexByte

/-- The printed form: groups of 8, 4, 4, 4 and 12 digits with hyphens between them. -/
def toText (u : Uuid) : String :=
  let d := u.digits
  String.ofList (d.take 8 ++ '-' :: ((d.drop 8).take 4 ++ '-' :: ((d.drop 12).take 4 ++
    '-' :: ((d.drop 16).take 4 ++ '-' :: d.drop 20))))

/-- Why a text is no identifier. -/
inductive ParseError where
  /-- other than 32 characters remain -/
  | length
  /-- the characters that remain are no number in base sixteen -/
  | digits (text : String)
  deriving DecidableEq

def ParseError.message : ParseError → String
  | .length => "badly formed hexadecimal UUID string"
  | .digits text => "invalid literal for int() with base 16: " ++ Text.quoted text

/-- Removes every occurrence of a mark, from left to right; `skip` characters of one are left. -/
def removeMark (mark : List Char) : (skip : Nat) → List Char → List Char
  | _, [] => []
  | skip + 1, _ :: s => removeMark mark skip s
  | 0, c :: s =>
    if mark.isPrefixOf (c :: s) then removeMark mark (mark.length - 1) s
    else c :: removeMark mark 0 s

/-- What is left of a spelling without its marks, outer braces and hyphens. -/
def bare (s : List Char) : List Char :=
  let s := removeMark "urn:".toList 0 s
  let s := removeMark "uuid:".toList 0 s
  let s := Text.stripWhile (fun c => c = '\x7b' || c = '\x7d') s
  s.filter (· ≠ '-')

def parse (text : String) : Except ParseError Uuid :=
  let s := bare text.toList
  if s.length ≠ 32 then .error .length
  else
    match Text.readInteger? 16 s with
    | some (.ofNat n) =>
      if h : n < 0x100000000000000000000000000000000 then .ok ⟨n, h⟩
      else .error (.digits (String.ofList s))
    | _ => .error (.digits (String.ofList s))

/-- Sets the version to 5 and the variant to that of the standard. -/
def stamp (n : Nat) : Nat :=
  let high := n / Nat.pow 2 80
  let middle := n / Nat.pow 2 64 % Nat.pow 2 12
  let low := n % Nat.pow 2 62
  high * Nat.pow 2 80 + (5 * Nat.pow 2 12 + middle) * Nat.pow 2 64 + (2 * Nat.pow 2 62 + low)

/-- The identifier of a name under a parent: the stamped start of a SHA-1 digest. -/
def named (parent : Uuid) (name : Bytes) : Uuid :=
  ofNat (stamp (Bytes.natBe ((Sha1.digest (parent.bytes ++ name)).take 16)))

end Uuid
end EpubLibrary
