import EpubLibrary.Text.Pieces
import EpubLibrary.Text.Charset.SingleByte
import EpubLibrary.Text.Charset.Simplified
import EpubLibrary.Text.Charset.Traditional
import EpubLibrary.Text.Charset.HongKong
import EpubLibrary.Text.Charset.Japanese
import EpubLibrary.Text.Charset.JapaneseLater
import EpubLibrary.Text.Charset.Korean

/-!
# Reading with tables

`tableChar?` looks up a place in a table of characters; the replacement character marks a hole. For
each family of character sets one function reads what stands at the start of a byte string. A first
byte without its second takes all that is left.
-/

namespace EpubLibrary.Text.Charset

def ofLines (lines : List String) : Array Char := (lines.flatMap String.toList).toArray

/-- The character at a place, unless there is a hole. -/
def tableChar? (table : Array Char) (place : Nat) : Option Char :=
  match table[place]? with
  | some c => if c = replacementChar then none else some c
  | none => none

/-- The character at a place that one of several runs of places holds. -/
def runChar? (runs : List (Nat × Array Char)) (place : Nat) : Option Char :=
  runs.findSome? fun r => if r.1 ≤ place then tableChar? r.2 (place - r.1) else none

def inPlaces (ranges : List (Nat × Nat)) (place : Nat) : Bool :=
  ranges.any fun r => r.1 ≤ place && place ≤ r.2

/-- Reads one byte, and gives it to a table of 128 or 256 characters. -/
def singleByte (table : Array Char) (first : Nat) : Bytes → Piece
  | [] => .unreadable 1
  | b :: _ =>
    if b.toNat < first then .char (Char.ofNat b.toNat) 1
    else .ofChar? (tableChar? table (b.toNat - first)) 1

/-- Reads a byte below 128, or hands over two bytes. -/
def doubleByteText (lookup : Nat → Nat → Option (List Char)) (bytes : Bytes) : Piece :=
  match bytes with
  | [] => .unreadable 1
  | a :: rest =>
    if a < 128 then .char (Char.ofNat a.toNat) 1
    else
      match rest with
      | [] => .unreadable 1
      | b :: _ => .ofText? (lookup a.toNat b.toNat) 2

def doubleByte (lookup : Nat → Nat → Option Char) : Bytes → Piece :=
  doubleByteText fun a b => (lookup a b).map ([·])

/-! ## Mainland China -/

def gbTable : Array Char := ofLines gbLines

/-- The place of two bytes in the table. -/
def gbPlace? (a b : Nat) : Option Nat :=
  if 0x81 ≤ a ∧ a ≤ 0xFE ∧ 0x40 ≤ b ∧ b ≤ 0xFE ∧ b ≠ 0x7F then
    some ((a - 0x81) * 190 + (if b < 0x7F then b - 0x40 else b - 0x41))
  else none

def gbkChar? (a b : Nat) : Option Char := do
  let place ← gbPlace? a b
  if inPlaces laterThanGbk place then none else tableChar? gbTable place

/-- The oldest set, which has two characters of its own. -/
def gb2312Char? (a b : Nat) : Option Char :=
  if a < 0xA1 ∨ 0xF7 < a ∨ b < 0xA1 then none
  else if a = 0xA1 ∧ b = 0xA4 then some '\u30fb'
  else if a = 0xA1 ∧ b = 0xAA then some '\u2015'
  else do
    let place ← gbPlace? a b
    if inPlaces laterThanGb2312 place then none else gbkChar? a b

/-- The character of a place in the order of the four-byte characters. -/
def gbRun? (place : Nat) : Option Char :=
  if 39420 ≤ place then none
  else
    (gbRanges.foldl (fun best r => if r.1 ≤ place then some r else best) none).map
      fun r => Char.ofNat (r.2 + (place - r.1))

/-- The character of four bytes whose second and fourth are digits. -/
def gbLong? (a b c d : Nat) : Option Char :=
  if a < 0x81 ∨ 0xFE < a ∨ c < 0x81 ∨ 0xFE < c ∨ d < 0x30 ∨ 0x39 < d then none
  else if a < 0x85 then gbRun? (((a - 0x81) * 10 + (b - 0x30)) * 1260 + (c - 0x81) * 10 + (d - 0x30))
  else if 0x90 ≤ a then
    let n := 0x10000 + ((a - 0x90) * 10 + (b - 0x30)) * 1260 + (c - 0x81) * 10 + (d - 0x30)
    if n < 0x110000 then some (Char.ofNat n) else none
  else none

def gb18030 (bytes : Bytes) : Piece :=
  match bytes with
  | [] => .unreadable 1
  | a :: rest =>
    if a < 128 then .char (Char.ofNat a.toNat) 1
    else
      match rest with
      | [] => .unreadable 1
      | b :: more =>
        if 0x30 ≤ b ∧ b ≤ 0x39 then
          match more with
          | c :: d :: _ => .ofChar? (gbLong? a.toNat b.toNat c.toNat d.toNat) 4
          | _ => .unreadable bytes.length
        else .ofChar? ((gbPlace? a.toNat b.toNat).bind (tableChar? gbTable)) 2

/-- Seven bit text with shifts between two modes, marked by tildes; `skip` bytes of the character
before are left. -/
def hzFrom : (shifted : Bool) → (skip : Nat) → Bytes → List (Option (List Char))
  | _, _, [] => []
  | shifted, skip + 1, _ :: rest => hzFrom shifted skip rest
  | shifted, 0, a :: rest =>
    match rest.head? with
    | none => if a < 128 ∧ a ≠ 126 ∧ !shifted then [some [Char.ofNat a.toNat]] else [none]
    | some b =>
      if a = 126 then
        if b = 126 ∧ !shifted then some ['~'] :: hzFrom shifted 1 rest
        else if b = 123 ∧ !shifted then hzFrom true 1 rest
        else if b = 10 ∧ !shifted then hzFrom shifted 1 rest
        else if b = 125 ∧ shifted then hzFrom false 1 rest
        else none :: hzFrom shifted 0 rest
      else if 128 ≤ a then none :: hzFrom shifted 0 rest
      else if shifted then
        match gb2312Char? (a.toNat + 128) (b.toNat + 128) with
        | some c => some [c] :: hzFrom shifted 1 rest
        | none => none :: hzFrom shifted 0 rest
      else some [Char.ofNat a.toNat] :: hzFrom shifted 0 rest

/-! ## Taiwan -/

def big5Table : Array Char := ofLines big5Lines

/-- The place of two bytes in rows of 157, one for each first byte from `first` to `last`. -/
def big5PlaceIn? (first last a b : Nat) : Option Nat :=
  if a < first ∨ last < a then none
  else if 0x40 ≤ b ∧ b ≤ 0x7E then some ((a - first) * 157 + (b - 0x40))
  else if 0xA1 ≤ b ∧ b ≤ 0xFE then some ((a - first) * 157 + 63 + (b - 0xA1))
  else none

def big5Place? : (a b : Nat) → Option Nat := big5PlaceIn? 0xA1 0xF9

def big5Char? (a b : Nat) : Option Char := (big5Place? a b).bind (tableChar? big5Table)

def cp950Char? (a b : Nat) : Option Char := do
  let place ← big5Place? a b
  match cp950Changes.lookup place with
  | some n => pure (Char.ofNat n)
  | none => tableChar? big5Table place

def hongKongTables : List (Nat × Array Char) := hongKongRuns.map fun r => (r.1, ofLines r.2)

/-- What two bytes spell in Hong Kong: in the rows from 10896 on no character of Taiwan. -/
def hongKongText? (a b : Nat) : Option (List Char) := do
  let place ← big5PlaceIn? 0x81 0xFE a b
  match hongKongPairs.lookup place with
  | some pair => pure (pair.map Char.ofNat)
  | none =>
    match runChar? hongKongTables place with
    | some c => pure [c]
    | none => if 10896 ≤ place ∧ place ≤ 11303 then none else (big5Char? a b).map ([·])

/-! ## Japan -/

def jisTable : Array Char := ofLines jisLines

def jisExtraTable : Array Char := ofLines jisExtraLines

/-- The place of two bytes in rows of 94, where the bytes lie in the upper half. -/
def rowPlace? (a b : Nat) : Option Nat :=
  if 0xA1 ≤ a ∧ a ≤ 0xFE ∧ 0xA1 ≤ b ∧ b ≤ 0xFE then some ((a - 0xA1) * 94 + (b - 0xA1)) else none

/-- The half-width letters of the Japanese syllabary. -/
def halfWidthChar? (b : Nat) : Option Char :=
  if 0xA1 ≤ b ∧ b ≤ 0xDF then some (Char.ofNat (0xFEC0 + b)) else none

/-- Text in rows of 94, in the upper half: `plain` reads the rows of two bytes, `extra` those behind
a third. -/
def rowsOf94 (plain extra : Nat → Piece) (bytes : Bytes) : Piece :=
  match bytes with
  | [] => .unreadable 1
  | a :: rest =>
    if a < 128 then .char (Char.ofNat a.toNat) 1
    else if a = 0x8E then
      match rest with
      | [] => .unreadable 1
      | b :: _ => .ofChar? (halfWidthChar? b.toNat) 2
    else if a = 0x8F then
      match rest with
      | b :: c :: _ => ((rowPlace? b.toNat c.toNat).map extra).getD (.unreadable 1)
      | _ => .unreadable bytes.length
    else
      match rest with
      | [] => .unreadable 1
      | b :: _ => ((rowPlace? a.toNat b.toNat).map plain).getD (.unreadable 1)

def jisText? (place : Nat) : Option (List Char) := (tableChar? jisTable place).map ([·])

def jisExtraText? (place : Nat) : Option (List Char) := (tableChar? jisExtraTable place).map ([·])

def eucJp : Bytes → Piece :=
  rowsOf94 (fun place => .ofText? (jisText? place) 2) fun place => .ofText? (jisExtraText? place) 3

/-- The editions of the later set. -/
inductive Edition where
  | first
  | second
  deriving DecidableEq

def laterTables : List (Nat × Array Char) := laterRuns.map fun r => (r.1, ofLines r.2)

def secondTables : List (Nat × Array Char) := secondRuns.map fun r => (r.1, ofLines r.2)

/-- What stands at a place of the first plane of the later set. -/
def laterText? (edition : Edition) (place : Nat) : Option (List Char) :=
  if edition = .first ∧ place ∈ newestPlaces then none
  else
    match laterPairs.lookup place with
    | some pair => some (pair.map Char.ofNat)
    | none => ((tableChar? jisTable place).or (runChar? laterTables place)).map ([·])

/-- The two bytes of a place of the first plane. What only the second edition has is known to be
missing in the first, and is passed over whole. -/
def laterPiece (edition : Edition) (place : Nat) : Piece :=
  if edition = .first ∧ place ∈ newestPlaces then .unreadable 2
  else .ofText? (laterText? edition place) 2

/-- What stands at a place of the second plane. -/
def secondText? (place : Nat) : Option (List Char) := (runChar? secondTables place).map ([·])

/-- The second plane of the first edition, which has another form of one character. -/
def secondTextOf? (edition : Edition) (place : Nat) : Option (List Char) :=
  if edition = .first ∧ place = 8674 then some ['\u9b1d'] else secondText? place

/-- The later set in the upper half; where it has no character behind a third byte, the older one
of these rows may have one. -/
def eucLater (edition : Edition) : Bytes → Piece :=
  rowsOf94 (fun place => if place = 111 then .char '\uff5e' 2 else laterPiece edition place)
    fun place => .ofText? ((secondTextOf? edition place).or (jisExtraText? place)) 3

/-- The place in rows of 94 of two bytes in shifted form; rows may lie behind the last. -/
def shiftedPlace? (a b : Nat) : Option Nat :=
  if b < 0x40 ∨ b = 0x7F ∨ 0xFC < b then none
  else
    let row := if a < 0xE0 then a - 0x81 else a - 0xC1
    let column := if b < 0x80 then b - 0x40 else b - 0x41
    some (row * 188 + column)

def isShiftedLead (a : Nat) : Bool := (0x81 ≤ a && a ≤ 0x9F) || (0xE0 ≤ a && a ≤ 0xFC)

/-- Text in shifted form, with the characters of single bytes below 128. -/
def shifted (low : UInt8 → Char) (wide : Nat → Piece) (bytes : Bytes) : Piece :=
  match bytes with
  | [] => .unreadable 1
  | a :: rest =>
    if a < 128 then .char (low a) 1
    else if isShiftedLead a.toNat then
      match rest with
      | [] => .unreadable 1
      | b :: _ => ((shiftedPlace? a.toNat b.toNat).map wide).getD (.unreadable 1)
    else .ofChar? (halfWidthChar? a.toNat) 1

def shiftJis : Bytes → Piece :=
  shifted (fun a => Char.ofNat a.toNat) fun place => .ofText? (jisText? place) 2

/-- The letters of Rome as Japan has them. -/
def romanChar (b : UInt8) : Char :=
  if b = 0x5C then '\u00a5' else if b = 0x7E then '\u203e' else Char.ofNat b.toNat

/-- The row of the second plane that follows a number of rows in shifted form. -/
def secondRow (row : Nat) : Nat :=
  if 0x67 ≤ row then row - 0x1A
  else if 0x63 ≤ row ∨ row = 0x5F then row - 0x58
  else row - 0x5E

/-- The later set in shifted form: the second plane follows the first, without its empty rows. -/
def shiftedLater (edition : Edition) : Bytes → Piece :=
  shifted romanChar fun place =>
    if place = 31 then .char '\\' 2
    else if place < 8836 then laterPiece edition place
    else .ofText? (secondTextOf? edition (secondRow (place / 94) * 94 + place % 94)) 2

def cp932Tables : List (Nat × Array Char) := cp932Runs.map fun r => (r.1, ofLines r.2)

/-- The character of a code page that extends the shifted form by rows of its own. -/
def cp932Char? (a b : Nat) : Option Char := do
  let place ← if isShiftedLead a then shiftedPlace? a b else none
  if 0xF0 ≤ a ∧ a ≤ 0xF9 then pure (Char.ofNat (0xE000 + (place - (0xF0 - 0xC1) * 188)))
  else
    match runChar? cp932Tables place with
    | some c => pure c
    | none => if a ≤ 0xEA then tableChar? jisTable place else none

def cp932 (bytes : Bytes) : Piece :=
  match bytes with
  | [] => .unreadable 1
  | a :: rest =>
    let n := a.toNat
    if n ≤ 0x80 then .char (Char.ofNat n) 1
    else if n = 0xA0 then .char '\uf8f0' 1
    else if 0xA1 ≤ n ∧ n ≤ 0xDF then .ofChar? (halfWidthChar? n) 1
    else if 0xFD ≤ n then .char (Char.ofNat (0xF8F1 + (n - 0xFD))) 1
    else
      match rest with
      | [] => .unreadable 1
      | b :: _ => .ofChar? (cp932Char? n b.toNat) 2

/-! ## Korea -/

def koreanTable : Array Char := ofLines koreanLines

def koreanPlace? (a b : Nat) : Option Nat :=
  if a < 0x81 ∨ 0xFD < a then none
  else if 0x41 ≤ b ∧ b ≤ 0x5A then some ((a - 0x81) * 178 + (b - 0x41))
  else if 0x61 ≤ b ∧ b ≤ 0x7A then some ((a - 0x81) * 178 + 26 + (b - 0x61))
  else if 0x81 ≤ b ∧ b ≤ 0xFE then some ((a - 0x81) * 178 + 52 + (b - 0x81))
  else none

def cp949Char? (a b : Nat) : Option Char := (koreanPlace? a b).bind (tableChar? koreanTable)

/-- The character of two bytes in rows of 94, which lie in the upper half. -/
def koreanRowChar? (a b : Nat) : Option Char :=
  if a < 0xA1 ∨ b < 0xA1 then none else cp949Char? a b

/-- The numbers of the leading consonants among the letters. -/
def leadingConsonants : List (Option Nat) :=
  [some 0, some 1, none, some 2, none, none, some 3, some 4, some 5, none, none, none, none, none,
   none, none, some 6, some 7, some 8, none, some 9, some 10, some 11, some 12, some 13, some 14,
   some 15, some 16, some 17, some 18]

/-- The numbers of the trailing consonants among the letters. -/
def trailingConsonants : List (Option Nat) :=
  [some 1, some 2, some 3, some 4, some 5, some 6, some 7, none, some 8, some 9, some 10, some 11,
   some 12, some 13, some 14, some 15, some 16, some 17, none, some 18, some 19, some 20, some 21,
   some 22, none, some 23, some 24, some 25, some 26, some 27]

/-- A syllable spelt by its letters behind a filler. -/
def spelledSyllable? (lead vowel trail : Nat) : Option Char := do
  let l ← if 0xA1 ≤ lead ∧ lead ≤ 0xBE then (leadingConsonants.getD (lead - 0xA1) none) else none
  let v ← if 0xBF ≤ vowel ∧ vowel ≤ 0xD3 then some (vowel - 0xBF) else none
  let t ← if trail = 0xD4 then some 0
    else if 0xA1 ≤ trail ∧ trail ≤ 0xBE then trailingConsonants.getD (trail - 0xA1) none
    else none
  pure (Char.ofNat (0xAC00 + l * 588 + v * 28 + t))

def eucKr (bytes : Bytes) : Piece :=
  match bytes with
  | [] => .unreadable 1
  | a :: rest =>
    if a < 128 then .char (Char.ofNat a.toNat) 1
    else
      match rest with
      | [] => .unreadable 1
      | b :: more =>
        if a = 0xA4 ∧ b = 0xD4 then
          match more with
          | c :: l :: d :: v :: e :: t :: _ =>
            if c = 0xA4 ∧ d = 0xA4 ∧ e = 0xA4 then
              .ofChar? (spelledSyllable? l.toNat v.toNat t.toNat) 8
            else .unreadable 1
          | _ => .unreadable bytes.length
        else .ofChar? (koreanRowChar? a.toNat b.toNat) 2

/-- What five bits mean in a syllable of three parts. -/
inductive Part where
  | missing
  | empty
  | letter (number : Nat)

/-- One number stands for no letter, those in use for letters in their order. -/
def Part.of (empty : Nat) (used : List Nat) (n : Nat) : Part :=
  if n = empty then .empty
  else
    match used.idxOf? n with
    | some number => .letter number
    | none => .missing

def leadPart : Nat → Part := .of 1 (List.range' 2 19)

def vowelPart : Nat → Part :=
  .of 2 (List.range' 3 5 ++ List.range' 10 6 ++ List.range' 18 6 ++ List.range' 26 4)

def trailPart : Nat → Part := .of 1 (List.range' 2 16 ++ List.range' 19 11)

/-- A letter that stands alone, by its place among the letters. -/
def lettersFrom (start : Nat) (numbers : List (Option Nat)) (number : Nat) : Option Char :=
  (numbers.idxOf? (some number)).map fun i => Char.ofNat (start + i)

/-- A syllable of three parts of five bits each, or one letter. -/
def joinedSyllable? (lead vowel trail : Part) : Option Char :=
  match lead, vowel, trail with
  | .empty, .empty, .empty => some '\u3000'
  | .letter l, .empty, .empty => lettersFrom 0x3131 leadingConsonants l
  | .empty, .letter v, .empty => some (Char.ofNat (0x314F + v))
  | .empty, .empty, .letter t => lettersFrom 0x3131 trailingConsonants (t + 1)
  | .letter l, .letter v, .empty => some (Char.ofNat (0xAC00 + l * 588 + v * 28))
  | .letter l, .letter v, .letter t => some (Char.ofNat (0xAC00 + l * 588 + v * 28 + t + 1))
  | _, _, _ => none

/-- The character of two bytes of the combining code: syllables by their parts, all else in pairs of
rows. -/
def johabChar? (a b : Nat) : Option Char :=
  if a < 0xD8 then
    joinedSyllable? (leadPart (a / 4 % 32)) (vowelPart (a % 4 * 8 + b / 32)) (trailPart (b % 32))
  else if a = 0xD8 ∨ a = 0xDF ∨ 0xF9 < a ∨ b < 0x31 ∨ (0x80 ≤ b ∧ b < 0x91) ∨ b % 128 = 0x7F ∨
      (a = 0xDA ∧ 0xA1 ≤ b ∧ b ≤ 0xD3) then none
  else
    let row := if a < 0xE0 then 2 * (a - 0xD9) else 2 * a - 0x197
    let column := if b < 0x91 then b - 0x31 else b - 0x43
    koreanRowChar? (row + column / 94 + 0xA1) (column % 94 + 0xA1)

end EpubLibrary.Text.Charset
