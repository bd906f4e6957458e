import EpubLibrary.Archive.PrefixCode

/-!
# LZMA data

`unlzma?` gives the data of a stream of the form that archives hold: version, properties and range
coded symbols up to an end mark. A stream that breaks off gives the data up to there; a corrupt one
gives none.
-/

namespace EpubLibrary.Archive.Lzma

/-! ## Range coding -/

/-- The decoder: its interval, what is left of the input and the probabilities of all contexts. -/
structure Coder where
  range : UInt32
  code : UInt32
  input : Bytes
  probs : Array UInt32

/-- Takes in a byte if the interval has become small. -/
def Coder.normalize (c : Coder) : Except Stop Coder :=
  if c.range < 0x1000000 then
    match c.input with
    | [] => .error .short
    | b :: rest =>
      .ok { c with range := c.range <<< 8, code := (c.code <<< 8) ||| b.toUInt32, input := rest }
  else .ok c

/-- Reads a bit in a context and adapts its probability. -/
def readBit (context : Nat) (c : Coder) : Except Stop (Nat × Coder) := do
  let c ← c.normalize
  let p := c.probs.getD context 1024
  let bound := (c.range >>> 11) * p
  if c.code < bound then
    pure (0, { c with range := bound,
                      probs := c.probs.setIfInBounds context (p + ((2048 - p) >>> 5)) })
  else
    pure (1, { c with range := c.range - bound, code := c.code - bound,
                      probs := c.probs.setIfInBounds context (p - (p >>> 5)) })

/-- Reads bits that are all equally likely, most significant first. -/
def readDirect : (width : Nat) → (value : Nat) → Coder → Except Stop (Nat × Coder)
  | 0, value, c => .ok (value, c)
  | width + 1, value, c => do
    let c ← c.normalize
    let half := c.range >>> 1
    if c.code < half then readDirect width (2 * value) { c with range := half }
    else readDirect width (2 * value + 1) { c with range := half, code := c.code - half }

/-- Reads a number along a tree of contexts, most significant bit first; `node` starts at one. -/
def readTree (base : Nat) : (width node : Nat) → Coder → Except Stop (Nat × Coder)
  | 0, node, c => .ok (node, c)
  | width + 1, node, c => do
    let (b, c) ← readBit (base + node) c
    readTree base width (2 * node + b) c

/-- A number of `width` bits along a tree. -/
def readNumber (base width : Nat) (c : Coder) : Except Stop (Nat × Coder) := do
  let (node, c) ← readTree base width 1 c
  pure (node - Nat.pow 2 width, c)

/-- A number along a tree, least significant bit first. -/
def readReverse (base : Nat) : (width node weight value : Nat) → Coder →
    Except Stop (Nat × Coder)
  | 0, _, _, value, c => .ok (value, c)
  | width + 1, node, weight, value, c => do
    let (b, c) ← readBit (base + node) c
    readReverse base width (2 * node + b) (2 * weight) (value + b * weight) c

/-! ## Places of the contexts -/

def isMatch : Nat := 0
def isRep : Nat := 192
def isRepG0 : Nat := 204
def isRepG1 : Nat := 216
def isRepG2 : Nat := 228
def isRep0Long : Nat := 240
def slots : Nat := 432
def special : Nat := 688
def align : Nat := 803
def matchLengths : Nat := 819
def repLengths : Nat := 1333
def literals : Nat := 1847

/-! ## Symbols -/

/-- The properties of a stream: bits of context for literals and positions. -/
structure Properties where
  lc : Nat
  lp : Nat
  pb : Nat

/-- What the next symbol depends on: the kinds of the last symbols and the last four distances. -/
structure History where
  state : Nat
  rep0 : Nat
  rep1 : Nat
  rep2 : Nat
  rep3 : Nat

/-- The bits of a literal while it still agrees with the byte at the last distance. -/
def readMatched (base : Nat) : (width node mate : Nat) → Coder → Except Stop (Nat × Coder)
  | 0, node, _, c => .ok (node, c)
  | width + 1, node, mate, c => do
    let mateBit := mate / Nat.pow 2 width % 2
    let (b, c) ← readBit (base + (1 + mateBit) * 256 + node) c
    let node := 2 * node + b
    if b = mateBit then readMatched base width node mate c else readTree base width node c

/-- A literal behind `out`. -/
def readLiteral (p : Properties) (h : History) (out : Array UInt8) (c : Coder) :
    Except Stop (UInt8 × Coder) := do
  let before := (out.getD (out.size - 1) 0).toNat
  let before := if out.isEmpty then 0 else before
  let place := out.size % Nat.pow 2 p.lp * Nat.pow 2 p.lc + before / Nat.pow 2 (8 - p.lc)
  let base := literals + 768 * place
  let (node, c) ←
    if h.state < 7 then readTree base 8 1 c
    else readMatched base 8 1 (out.getD (out.size - 1 - h.rep0) 0).toNat c
  pure (UInt8.ofNat (node - 256), c)

/-- The length of a match. -/
def readLength (base position : Nat) (c : Coder) : Except Stop (Nat × Coder) := do
  let (b, c) ← readBit base c
  if b = 0 then
    let (n, c) ← readNumber (base + 2 + 8 * position) 3 c
    pure (n + 2, c)
  else
    let (b, c) ← readBit (base + 1) c
    if b = 0 then
      let (n, c) ← readNumber (base + 130 + 8 * position) 3 c
      pure (n + 10, c)
    else
      let (n, c) ← readNumber (base + 258) 8 c
      pure (n + 18, c)

/-- The distance of a match of some length, counted from zero. -/
def readDistance (length : Nat) (c : Coder) : Except Stop (Nat × Coder) := do
  let group := min (length - 2) 3
  let (slot, c) ← readNumber (slots + 64 * group) 6 c
  if slot < 4 then pure (slot, c)
  else
    let width := slot / 2 - 1
    let base := (2 + slot % 2) * Nat.pow 2 width
    if slot < 14 then
      let (n, c) ← readReverse (special + base - slot) width 1 1 0 c
      pure (base + n, c)
    else
      let (high, c) ← readDirect (width - 4) 0 c
      let (low, c) ← readReverse align 4 1 1 0 c
      pure (base + 16 * high + low, c)

/-- The distance that marks the end. -/
def endDistance : Nat := 0xFFFFFFFF

/-- What a symbol says. -/
inductive Symbol where
  | literal (b : UInt8)
  | copy (length : Nat)
  | finish

/-- Reads which of the last distances comes again, and for how long. -/
def readRepeat (h : History) (position : Nat) (c : Coder) :
    Except Stop ((Symbol × History) × Coder) := do
  let (g0, c) ← readBit (isRepG0 + h.state) c
  let (long, c) ← if g0 = 0 then readBit (isRep0Long + 16 * h.state + position) c else pure (1, c)
  if long = 0 then
    pure ((.copy 1, { h with state := if h.state < 7 then 9 else 11 }), c)
  else
    let (h, c) ←
      if g0 = 0 then pure (h, c)
      else do
        let (g1, c) ← readBit (isRepG1 + h.state) c
        if g1 = 0 then pure ({ h with rep0 := h.rep1, rep1 := h.rep0 }, c)
        else
          let (g2, c) ← readBit (isRepG2 + h.state) c
          if g2 = 0 then pure ({ h with rep0 := h.rep2, rep1 := h.rep0, rep2 := h.rep1 }, c)
          else
            pure ({ h with rep0 := h.rep3, rep1 := h.rep0, rep2 := h.rep1, rep3 := h.rep2 }, c)
    let (length, c) ← readLength repLengths position c
    pure ((.copy length, { h with state := if h.state < 7 then 8 else 11 }), c)

/-- Reads the next symbol behind `out`. -/
def readSymbol (p : Properties) (h : History) (out : Array UInt8) (c : Coder) :
    Except Stop ((Symbol × History) × Coder) := do
  let position := out.size % Nat.pow 2 p.pb
  let (m, c) ← readBit (isMatch + 16 * h.state + position) c
  if m = 0 then
    let (b, c) ← readLiteral p h out c
    let state := if h.state < 4 then 0 else if h.state < 10 then h.state - 3 else h.state - 6
    pure ((.literal b, { h with state := state }), c)
  else
    let (r, c) ← readBit (isRep + h.state) c
    if r = 1 then readRepeat h position c
    else
      let (length, c) ← readLength matchLengths position c
      let (distance, c) ← readDistance length c
      let h : History := ⟨if h.state < 7 then 7 else 10, distance, h.rep0, h.rep1, h.rep2⟩
      pure ((if distance = endDistance then .finish else .copy length, h), c)

/-- Decodes symbols behind `out` to the end mark. -/
def readSymbols (p : Properties) : (fuel : Nat) → History → Array UInt8 → Coder →
    Array UInt8 × Option Stop
  | 0, _, out, _ => (out, some .short)
  | fuel + 1, h, out, c =>
    match readSymbol p h out c with
    | .error e => (out, some e)
    | .ok ((.literal b, h), c) => readSymbols p fuel h (out.push b) c
    | .ok ((.copy length, h), c) =>
      if out.size ≤ h.rep0 then (out, some .corrupt)
      else readSymbols p fuel h (copyBack (h.rep0 + 1) length out) c
    | .ok ((.finish, _), c) =>
      match c.normalize with
      | .error e => (out, some e)
      | .ok c => (out, if c.code = 0 then none else some .corrupt)

/-- The properties that a byte packs. -/
def properties? (b : UInt8) : Option Properties :=
  let n := b.toNat
  let p : Properties := ⟨n % 9, n / 9 % 5, n / 45⟩
  if 225 ≤ n ∨ 4 < p.lc + p.lp then none else some p

/-- Decodes the symbols of a stream. A bit takes at least a fiftieth of a bit of the input, which
bounds their number. The first byte is zero. -/
def decode? (p : Properties) (input : Bytes) : Option Bytes :=
  match input with
  | zero :: a :: b :: c :: d :: rest =>
    if zero ≠ 0 then none else
    let code := UInt32.ofNat (Bytes.natBe [a, b, c, d])
    let contexts := literals + 768 * Nat.pow 2 (p.lc + p.lp)
    let coder : Coder := ⟨0xFFFFFFFF, code, rest, Array.replicate contexts 1024⟩
    match readSymbols p (400 * (rest.length + 8)) ⟨0, 0, 0, 0, 0⟩ #[] coder with
    | (_, some .corrupt) => none
    | (out, _) => some out.toList
  | _ => if input.headD 0 ≠ 0 then none else some []

end Lzma

/-- The data of an LZMA stream with its header: two bytes of version, the width of the properties,
the properties. -/
def unlzma? (bytes : Bytes) : Option Bytes :=
  let width := Bytes.natLe ((bytes.drop 2).take 2)
  let rest := bytes.drop 4
  if rest.length ≤ width then some []
  else
    match rest with
    | b :: _ =>
      if width ≠ 5 then none
      else
        match Lzma.properties? b with
        | none => none
        | some p => Lzma.decode? p (rest.drop width)
    | [] => some []

end EpubLibrary.Archive
