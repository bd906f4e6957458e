import EpubLibrary.Proofs.Zstd.Frame

/-!
# The layout of frames

`HeaderFields` and `Block` are the parts of a frame as they stand in it. A reader is `Exact` if it
looks at nothing behind what it takes, so it refuses what it takes whenever some of it is cut off.
-/

namespace EpubLibrary.Zstd

/-! ## Headers -/

structure HeaderFields where
  descriptor : UInt8
  window : Bytes
  dictionary : Bytes
  size : Bytes

namespace HeaderFields

def bytes (f : HeaderFields) : Bytes :=
  magic ++ f.descriptor :: (f.window ++ f.dictionary ++ f.size)

/-- Is the content one segment? Then it is the window itself. -/
def isSingle (f : HeaderFields) : Bool := f.descriptor.toNat / 32 % 2 == 1

def hasChecksum (f : HeaderFields) : Bool := f.descriptor.toNat / 4 % 2 == 1

def contentSize (f : HeaderFields) : Nat :=
  Bytes.natLe f.size + Header.sizeOffset f.size.length

/-- The descriptor tells the widths of the other fields. A size is declared, and the bit that has no
meaning is not set. -/
structure Formed (f : HeaderFields) : Prop where
  window : f.window.length = if f.isSingle then 0 else 1
  dictionary : f.dictionary.length = [0, 1, 2, 4].getD (f.descriptor.toNat % 4) 0
  size : f.size.length = Header.sizeWidth (f.descriptor.toNat / 64) f.isSingle
  declared : f.size.length ≠ 0
  unreserved : f.descriptor.toNat / 8 % 2 ≠ 1

/-- The header that the fields spell, if its window is not too large and it needs no dictionary. -/
def header? (f : HeaderFields) : Option Header :=
  match if f.isSingle then some f.contentSize else Header.windowSize? (f.window.headD 0) with
  | none => none
  | some window =>
    if Bytes.natLe f.dictionary ≠ 0 ∧ f.contentSize ≠ 0 then none
    else some ⟨f.contentSize, f.hasChecksum, min window maxBlockSize⟩

theorem header?_eq_some {f : HeaderFields} {header : Header} (h : f.header? = some header) :
    header.contentSize = f.contentSize ∧ header.hasChecksum = f.hasChecksum := by
  unfold header? at h
  split at h
  · cases h
  split at h
  · cases h
  · cases h
    exact ⟨rfl, rfl⟩

/-- Fields are read as the header that they spell, whatever follows them. -/
theorem Formed.readFields? {f : HeaderFields} (formed : f.Formed) (rest : Bytes) :
    Header.readFields? f.descriptor.toNat (f.window ++ f.dictionary ++ f.size ++ rest) =
      f.header?.map (·, rest) := by
  obtain ⟨window, dictionary, size, declared, unreserved⟩ := formed
  have first : (f.window ++ f.dictionary ++ f.size ++ rest).take
      (f.window.length + f.dictionary.length + f.size.length) =
      f.window ++ f.dictionary ++ f.size := List.take_left' (by simp [Nat.add_assoc])
  have left : (f.window ++ f.dictionary ++ f.size ++ rest).drop
      (f.window.length + f.dictionary.length + f.size.length) = rest :=
    List.drop_left' (by simp [Nat.add_assoc])
  have sized : ((f.window ++ f.dictionary ++ f.size ++ rest).drop
      (f.window.length + f.dictionary.length)).take f.size.length = f.size := by
    rw [List.append_assoc (f.window ++ f.dictionary), List.drop_left' (by simp), List.take_left]
  have named : ((f.window ++ f.dictionary ++ f.size ++ rest).drop f.window.length).take
      f.dictionary.length = f.dictionary := by
    simp only [List.append_assoc, List.drop_left, List.take_left]
  have windowed : f.isSingle = false →
      (f.window ++ f.dictionary ++ f.size ++ rest).headD 0 = f.window.headD 0 := by
    intro several
    rw [several] at window
    match f.window, window with
    | [b], _ => rfl
  unfold Header.readFields? header?
  have single : (f.descriptor.toNat / 32 % 2 == 1) = f.isSingle := rfl
  have checked : (f.descriptor.toNat / 4 % 2 == 1) = f.hasChecksum := rfl
  have valued : Bytes.natLe f.size + Header.sizeOffset f.size.length = f.contentSize := rfl
  simp only [single, checked, ← size, ← dictionary]
  have width : (if f.isSingle = true then 0 else 1) = f.window.length := window.symm
  rw [width, first, sized, named, left, valued, if_neg (by simp [declared, unreserved]; omega)]
  cases segment : f.isSingle with
  | true =>
    simp only [if_true]
    split <;> rfl
  | false =>
    simp only [windowed segment, Bool.false_eq_true, if_false]
    cases Header.windowSize? (f.window.headD 0) with
    | none => rfl
    | some window =>
      dsimp only
      split <;> rfl

end HeaderFields

/-- Only fields of the widths that the descriptor tells are read. -/
theorem Header.exists_fields {descriptor : UInt8} {fields rest : Bytes} {header : Header}
    (h : readFields? descriptor.toNat fields = some (header, rest)) :
    ∃ f : HeaderFields, f.descriptor = descriptor ∧ f.Formed ∧
      fields = f.window ++ f.dictionary ++ f.size ++ rest := by
  unfold readFields? at h
  dsimp only at h
  generalize single : (descriptor.toNat / 32 % 2 == 1) = isSingle at h
  generalize windowed : (if isSingle = true then 0 else 1) = a at h
  generalize named : [0, 1, 2, 4].getD (descriptor.toNat % 4) 0 = b at h
  generalize sized : sizeWidth (descriptor.toNat / 64) isSingle = c at h
  generalize (if isSingle = true then some _ else windowSize? (fields.headD 0)) = window? at h
  by_cases refused : (fields.take (a + b + c)).length < a + b + c ∨ c = 0 ∨
      descriptor.toNat / 8 % 2 = 1
  · rw [if_pos refused] at h
    cases h
  rw [if_neg refused] at h
  obtain ⟨long, declared, unreserved⟩ := (not_or.1 refused).imp_right not_or.1
  have left : rest = fields.drop (a + b + c) := by
    split at h
    · cases h
    split at h
    · cases h
    · cases h
      rfl
  rw [List.length_take] at long
  refine ⟨⟨descriptor, fields.take a, (fields.drop a).take b, (fields.drop (a + b)).take c⟩, rfl,
    ?_, ?_⟩
  · refine ⟨?_, ?_, ?_, ?_, unreserved⟩
    · simp only [HeaderFields.isSingle, single, windowed, List.length_take]
      omega
    · simp only [named, List.length_take, List.length_drop]
      omega
    · simp only [HeaderFields.isSingle, single, sized, List.length_take, List.length_drop]
      omega
    · simp only [List.length_take, List.length_drop]
      omega
  · rw [left, ← List.take_add, ← List.take_add, List.take_append_drop]

/-- Headers are read from the layouts of their fields, and from nothing else. -/
theorem Header.read?_eq_some_iff {bytes rest : Bytes} {header : Header} :
    read? bytes = some (header, rest) ↔
      ∃ f : HeaderFields, f.Formed ∧ f.header? = some header ∧ bytes = f.bytes ++ rest := by
  constructor
  · intro h
    unfold read? at h
    split at h
    · cases h
    rename_i marked
    split at h
    · cases h
    · rename_i descriptor fields behind
      obtain ⟨f, rfl, formed, rfl⟩ := exists_fields h
      rw [formed.readFields?] at h
      obtain ⟨header, spelled, same⟩ := Option.map_eq_some_iff.1 h
      cases same
      refine ⟨f, formed, spelled, ?_⟩
      rw [← List.take_append_drop 4 bytes, behind, not_not.1 marked]
      simp only [HeaderFields.bytes, List.append_assoc, List.cons_append]
  · rintro ⟨f, formed, spelled, rfl⟩
    have behind : (f.bytes ++ rest).drop 4 =
        f.descriptor :: (f.window ++ f.dictionary ++ f.size ++ rest) := rfl
    rw [read?, if_neg (by simp [HeaderFields.bytes, magic]), behind]
    dsimp only
    rw [formed.readFields?, spelled]
    rfl

/-! ## Blocks -/

/-- A block as it stands in a frame: its kind, the size that it declares and its bytes. -/
structure Block where
  kind : Nat
  size : Nat
  body : Bytes

namespace Block

/-- Two bits hold the kind and 21 the size. Of a repeated byte only one stands in the frame. -/
structure Formed (b : Block) : Prop where
  kind : b.kind < 4
  size : b.size < 0x200000
  body : b.body.length = if b.kind = 1 then 1 else b.size

/-- The three bytes before a block, whose lowest bit marks the last one, and the block. -/
def bytes (b : Block) (last : Bool) : Bytes :=
  Bytes.ofNatLe 3 (8 * b.size + 2 * b.kind + last.toNat) ++ b.body

end Block

def layOut : List Block → Bytes
  | [] => []
  | b :: more => b.bytes more.isEmpty ++ layOut more

def runBlocks? (header : Header) (state : State) (blocks : List Block) : Option State :=
  blocks.foldlM (fun state b => block? header b.kind b.size state b.body) state

section
variable {header : Header} {state : State}

theorem blocks?_bytes {b : Block} (formed : b.Formed) (last : Bool) (rest : Bytes) :
    blocks? header state (b.bytes last ++ rest) =
      (block? header b.kind b.size state b.body).bind fun after =>
        if last = true then some (after, rest) else blocks? header after rest := by
  obtain ⟨kind, size, body⟩ := formed
  have bit := Bool.toNat_lt last
  have kept : (8 * b.size + 2 * b.kind + last.toNat) / 2 % 4 = b.kind := by omega
  have told : (8 * b.size + 2 * b.kind + last.toNat) / 8 = b.size := by omega
  have marks : (8 * b.size + 2 * b.kind + last.toNat) % 2 = last.toNat := by omega
  rw [Block.bytes, blocks?_word (by omega) (by rw [kept, told]; exact body), kept, told, marks]
  cases last <;> rfl

/-- Blocks are read one after the other, and what follows the last one is left. -/
theorem blocks?_layOut {blocks : List Block} (formed : ∀ b ∈ blocks, b.Formed)
    (some_block : blocks ≠ []) (rest : Bytes) :
    blocks? header state (layOut blocks ++ rest) =
      (runBlocks? header state blocks).map (·, rest) := by
  induction blocks generalizing state with
  | nil => exact absurd rfl some_block
  | cons b more ih =>
    have first := formed b List.mem_cons_self
    rw [layOut, List.append_assoc, blocks?_bytes first, runBlocks?, List.foldlM_cons]
    cases block? header b.kind b.size state b.body with
    | none => rfl
    | some after =>
      cases more with
      | nil => rfl
      | cons c more => exact ih (fun d hd => formed d (List.mem_cons_of_mem _ hd)) (by simp)

/-- Bytes that are read as blocks begin with a block. -/
theorem exists_block {bytes rest : Bytes} {after : State}
    (h : blocks? header state bytes = some (after, rest)) :
    ∃ (b : Block) (last : Bool) (left : Bytes), b.Formed ∧ bytes = b.bytes last ++ left := by
  rw [blocks?.eq_def] at h
  split at h
  · rename_i x y z body
    have spelled := Bytes.ofNatLe_natLe [x, y, z]
    have small : Bytes.natLe [x, y, z] < Nat.pow 256 3 := Bytes.natLe_lt [x, y, z]
    have power : Nat.pow 256 3 = 0x1000000 := rfl
    dsimp only at h
    generalize Bytes.natLe [x, y, z] = word at h spelled small
    generalize width : (if word / 2 % 4 = 1 then 1 else word / 8) = n at h
    split at h
    · cases h
    rename_i long
    rw [List.length_take] at long
    refine ⟨⟨word / 2 % 4, word / 8, body.take n⟩, word % 2 = 1, body.drop n, ⟨?_, ?_, ?_⟩, ?_⟩
    · dsimp only
      omega
    · dsimp only
      omega
    · rw [width, List.length_take]
      omega
    · have parts : 8 * (word / 8) + 2 * (word / 2 % 4) + (decide (word % 2 = 1)).toNat = word := by
        by_cases last : word % 2 = 1
        · simp only [last, decide_true, Bool.toNat_true]
          omega
        · simp only [last, decide_false, Bool.toNat_false]
          omega
      have spelled : Bytes.ofNatLe 3 word = [x, y, z] := spelled
      simp only [Block.bytes, parts, spelled, List.append_assoc, List.take_append_drop]
      rfl
  · cases h

/-- Blocks are read from the layouts of blocks, and from nothing else. -/
theorem blocks?_eq_some_iff {bytes rest : Bytes} {after : State} :
    blocks? header state bytes = some (after, rest) ↔
      ∃ blocks : List Block, blocks ≠ [] ∧ (∀ b ∈ blocks, b.Formed) ∧
        bytes = layOut blocks ++ rest ∧ runBlocks? header state blocks = some after := by
  constructor
  · intro h
    induction length : bytes.length using Nat.strongRecOn generalizing bytes state with
    | ind n ih =>
      obtain ⟨b, last, left, formed, rfl⟩ := exists_block h
      rw [blocks?_bytes formed] at h
      obtain ⟨next, reads, h⟩ := Option.bind_eq_some_iff.1 h
      cases last with
      | true =>
        cases h
        refine ⟨[b], by simp, by simpa using formed, by simp [layOut], ?_⟩
        simpa [runBlocks?] using reads
      | false =>
        have fewer : left.length < n := by
          rw [← length, Block.bytes, List.length_append, List.length_append,
            Bytes.length_ofNatLe]
          omega
        obtain ⟨more, some_block, each, rfl, runs⟩ := ih _ fewer h rfl
        refine ⟨b :: more, by simp, List.forall_mem_cons.2 ⟨formed, each⟩, ?_, ?_⟩
        · rw [layOut, List.isEmpty_eq_false_iff.2 some_block, List.append_assoc]
        · rw [runBlocks?, List.foldlM_cons, reads]
          exact runs
  · rintro ⟨blocks, some_block, formed, rfl, runs⟩
    rw [blocks?_layOut formed some_block, runs]
    rfl

end

/-! ## Frames -/

theorem length_checksum (content : Bytes) : (checksum content).length = 4 :=
  Bytes.length_ofNatLe _ _

theorem Frame.read?_eq_some_iff {bytes content : Bytes} :
    Frame.read? bytes = some content ↔
      ∃ header rest, Header.read? bytes = some (header, rest) ∧
        content? header rest = some content := by
  unfold Frame.read?
  cases Header.read? bytes with
  | none => simp
  | some result =>
    obtain ⟨header, rest⟩ := result
    simp

/-- The content has the declared size. If there is any, the blocks hold it, and a declared checksum
is its own. -/
theorem content?_eq_some_iff {header : Header} {bytes content : Bytes} :
    content? header bytes = some content ↔ header.contentSize = content.length ∧
      (content ≠ [] → ∃ state rest, blocks? header .start bytes = some (state, rest) ∧
        state.out.toList = content ∧
        (header.hasChecksum = true → rest.take 4 = checksum content)) := by
  by_cases nothing : header.contentSize = 0
  · simp only [content?, nothing, if_true, Option.some.injEq]
    constructor
    · rintro rfl
      exact ⟨rfl, fun some_content => absurd rfl some_content⟩
    · rintro ⟨size, _⟩
      exact (List.length_eq_zero_iff.1 size.symm).symm
  · simp only [content?, if_neg nothing]
    constructor
    · intro h
      cases read : blocks? header .start bytes with
      | none =>
        rw [read] at h
        cases h
      | some result =>
        obtain ⟨state, rest⟩ := result
        rw [read] at h
        dsimp only at h
        split at h
        · cases h
        rename_i whole
        split at h
        · cases h
        rename_i checked
        cases h
        refine ⟨(not_not.1 whole).symm.trans Array.length_toList.symm, fun _ => ?_⟩
        exact ⟨state, rest, rfl, rfl, fun declared => not_not.1 fun other =>
          checked ⟨declared, other⟩⟩
    · rintro ⟨size, holds⟩
      have some_content : content ≠ [] := by
        rintro rfl
        exact nothing size
      obtain ⟨state, rest, read, rfl, checked⟩ := holds some_content
      rw [read]
      dsimp only
      rw [if_neg, if_neg]
      · rintro ⟨declared, other⟩
        exact other (checked declared)
      · rw [size, Array.length_toList, not_not]

/-- Behind a header with these fields the blocks hold the content. -/
structure HeaderFields.Holds (f : HeaderFields) (blocks : List Block) (content : Bytes) :
    Prop where
  some_block : blocks ≠ []
  formed : ∀ b ∈ blocks, b.Formed
  runs : ∃ header state, f.header? = some header ∧
    runBlocks? header .start blocks = some state ∧ state.out.toList = content

/-- A frame that is read has the layout of one: its header declares the size of the content, and
behind the blocks that hold the content stands its checksum, if one is declared. -/
theorem Frame.read?_layout {bytes content : Bytes} (h : Frame.read? bytes = some content) :
    ∃ (f : HeaderFields) (rest : Bytes), f.Formed ∧ bytes = f.bytes ++ rest ∧
      f.contentSize = content.length ∧
      (content ≠ [] → ∃ blocks left, f.Holds blocks content ∧ rest = layOut blocks ++ left ∧
        (f.hasChecksum = true → left.take 4 = checksum content)) := by
  obtain ⟨header, rest, read, held⟩ := Frame.read?_eq_some_iff.1 h
  obtain ⟨f, formed, spelled, rfl⟩ := Header.read?_eq_some_iff.1 read
  obtain ⟨size, holds⟩ := content?_eq_some_iff.1 held
  obtain ⟨sized, checked⟩ := f.header?_eq_some spelled
  rw [sized] at size
  rw [checked] at holds
  refine ⟨f, rest, formed, rfl, size, fun some_content => ?_⟩
  obtain ⟨state, left, read, out, sum⟩ := holds some_content
  obtain ⟨blocks, some_block, each, rfl, runs⟩ := blocks?_eq_some_iff.1 read
  exact ⟨blocks, left, ⟨some_block, each, header, state, spelled, runs, out⟩, rfl, sum⟩

/-! ## Frames that are cut or changed -/

/-- A reader that looks at nothing behind what it takes. -/
def Exact {α : Type} (read? : Bytes → Option (α × Bytes)) : Prop :=
  ∀ (bytes rest : Bytes) (a : α), read? bytes = some (a, rest) →
    ∃ used, bytes = used ++ rest ∧ ∀ more, read? (used ++ more) = some (a, more)

/-- The header is read without looking behind it. -/
theorem Header.exact : Exact Header.read? := by
  intro bytes rest header h
  obtain ⟨f, formed, spelled, rfl⟩ := Header.read?_eq_some_iff.1 h
  exact ⟨f.bytes, rfl, fun more => Header.read?_eq_some_iff.2 ⟨f, formed, spelled, rfl⟩⟩

theorem exact_blocks (header : Header) (state : State) : Exact (blocks? header state) := by
  intro bytes rest after h
  obtain ⟨blocks, some_block, formed, rfl, runs⟩ := blocks?_eq_some_iff.1 h
  exact ⟨layOut blocks, rfl, fun more =>
    blocks?_eq_some_iff.2 ⟨blocks, some_block, formed, rfl, runs⟩⟩

theorem Exact.append {α : Type} {read? : Bytes → Option (α × Bytes)} (exact : Exact read?)
    {bytes rest : Bytes} {a : α} (h : read? bytes = some (a, rest)) (more : Bytes) :
    read? (bytes ++ more) = some (a, rest ++ more) := by
  obtain ⟨used, rfl, reads⟩ := exact _ _ _ h
  rw [List.append_assoc]
  exact reads _

/-- A frame of a content, by any writer: it declares a checksum and ends with it. -/
structure Sealed (frame content : Bytes) : Prop where
  reads : Frame.read? frame = some content
  ends : ∃ header blocks state, Header.read? frame = some (header, blocks) ∧
    header.hasChecksum = true ∧ blocks? header .start blocks = some (state, checksum content)

/-- A frame that was written is sealed. -/
theorem sealed_write {content : Bytes} (fits : content.length < 0x10000000000000000) :
    Sealed (Frame.write content) content where
  reads := by
    have read := read?_write_append fits []
    rwa [List.append_nil] at read
  ends := by
    have opened := read?_writeHeader fits (writeBlocks content ++ checksum content)
    rw [← List.append_assoc] at opened
    exact ⟨_, _, _, opened, rfl, blocks?_writeBlocks content _ (by simp [State.start])⟩

/-- What is left of a sealed frame when its end is cut off is read as content only if there is
none. -/
theorem Sealed.of_cut {frame content cut x : Bytes} (whole : Sealed frame content)
    (front : cut <+: frame) (proper : cut ≠ frame) (reads : Frame.read? cut = some x) :
    content = [] ∧ x = [] := by
  obtain ⟨tail, rfl⟩ := front
  obtain ⟨header, rest, read, held⟩ := Frame.read?_eq_some_iff.1 reads
  obtain ⟨header', rest', read', held'⟩ := Frame.read?_eq_some_iff.1 whole.reads
  obtain ⟨_, _, state, opened, declared, ended⟩ := whole.ends
  -- The cut frame and the whole one have the same header.
  have more := Header.exact.append read tail
  rw [more] at read' opened
  cases read'
  cases opened
  obtain ⟨size, holds⟩ := content?_eq_some_iff.1 held
  obtain ⟨size', holds'⟩ := content?_eq_some_iff.1 held'
  by_cases nothing : x = []
  · rw [nothing] at size
    exact ⟨List.length_eq_zero_iff.1 (size'.symm.trans size), nothing⟩
  · obtain ⟨state', left, blocks, rfl, sum⟩ := holds nothing
    -- So their blocks are the same too, and the whole checksum follows those of the cut frame.
    have more := (exact_blocks header .start).append blocks tail
    rw [more] at ended
    obtain ⟨rfl, ending⟩ := Prod.mk.inj (Option.some.inj ended)
    have four := length_checksum state'.out.toList
    rw [← sum declared, List.length_take] at four
    have all := congrArg List.length ending
    rw [length_checksum, List.length_append] at all
    exact absurd (List.length_eq_zero_iff.1 (by omega)) fun none : tail = [] =>
      proper (by rw [none, List.append_nil])

/-- A sealed frame ends with its checksum, and with any other four bytes there it is not read,
whatever follows them. -/
theorem Sealed.of_changed {frame content : Bytes} (whole : Sealed frame content)
    (some_content : content ≠ []) :
    ∃ front, frame = front ++ checksum content ∧
      ∀ sum, sum.length = 4 → sum ≠ checksum content →
        ∀ trailing, Frame.read? (front ++ sum ++ trailing) = none := by
  obtain ⟨header, _, state, opened, declared, ended⟩ := whole.ends
  obtain ⟨header', rest, read, held⟩ := Frame.read?_eq_some_iff.1 whole.reads
  rw [opened] at read
  cases read
  obtain ⟨size, holds⟩ := content?_eq_some_iff.1 held
  obtain ⟨_, _, again, out, _⟩ := holds some_content
  rw [ended] at again
  cases again
  obtain ⟨fields, rfl, sameHeader⟩ := Header.exact _ _ _ opened
  obtain ⟨blocks, rfl, sameBlocks⟩ := exact_blocks header .start _ _ _ ended
  refine ⟨fields ++ blocks, (List.append_assoc ..).symm, fun sum four other trailing => ?_⟩
  rw [List.append_assoc, List.append_assoc]
  refine Option.eq_none_iff_forall_ne_some.2 fun x reads => ?_
  obtain ⟨header', rest', read, held⟩ := Frame.read?_eq_some_iff.1 reads
  rw [sameHeader] at read
  cases read
  obtain ⟨size', holds⟩ := content?_eq_some_iff.1 held
  have some_x : x ≠ [] := by
    rintro rfl
    exact some_content (List.length_eq_zero_iff.1 (size.symm.trans size'))
  obtain ⟨_, _, again, out', checked⟩ := holds some_x
  rw [sameBlocks] at again
  cases again
  have same := checked declared
  rw [List.take_left' four, ← out', out] at same
  exact other same

end EpubLibrary.Zstd
