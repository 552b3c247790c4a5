import ZyWebRtc.Rtcp.Packet

namespace ZyWebRtc.Rtcp

/-! The blocks of a compound packet, each of which begins at the declared end of the one
before, and `RTCPPacketIterator`, which visits them. A block is named by its offset. -/

open Option

/-- The header of the block at `offset`, when the block lies inside the packet. -/
def blockAt (data : Bytes) (offset : Nat) : Option RTCPCommonHeader :=
  match rtcpParseCommonHeader data offset with
  | some (some header) =>
    if data.length < offset + header.lengthInOctets.toNat then none else some header
  | _ => none

theorem blockAt_refused {data : Bytes} {offset : Nat}
    (parsed : rtcpParseCommonHeader data offset = some none) : blockAt data offset = none := by
  simp only [blockAt, parsed]

theorem blockAt_header {data : Bytes} {offset : Nat} {header : RTCPCommonHeader}
    (parsed : rtcpParseCommonHeader data offset = some (some header)) :
    blockAt data offset =
      if data.length < offset + header.lengthInOctets.toNat then none else some header := by
  simp only [blockAt, parsed]

theorem blockAt_inside {data : Bytes} {offset : Nat} {header : RTCPCommonHeader}
    (block : blockAt data offset = some header) :
    rtcpParseCommonHeader data offset = some (some header) ∧
      offset + header.lengthInOctets.toNat ≤ data.length ∧ 4 ≤ header.lengthInOctets.toNat := by
  rcases rtcpParseCommonHeader_inside data offset with ⟨result, parsed, inside⟩
  cases result with
  | none =>
    rw [blockAt_refused parsed] at block
    cases block
  | some read =>
    rw [blockAt_header parsed] at block
    by_cases behind : data.length < offset + read.lengthInOctets.toNat
    · rw [if_pos behind] at block
      cases block
    · rw [if_neg behind] at block
      cases block
      exact ⟨parsed, Nat.le_of_not_lt behind, (inside header rfl).2.2⟩

/-- The blocks from `offset` on, one behind the other. -/
inductive Blocks (data : Bytes) : Nat → List Nat → Prop
  | none {offset} : blockAt data offset = none → Blocks data offset []
  | block {offset header rest} :
      blockAt data offset = some header →
      Blocks data (offset + header.lengthInOctets.toNat) rest →
      Blocks data offset (offset :: rest)

def blocksFrom (data : Bytes) : (fuel offset : Nat) → List Nat
  | 0, _ => []
  | fuel + 1, offset =>
    match blockAt data offset with
    | none => []
    | some header => offset :: blocksFrom data fuel (offset + header.lengthInOctets.toNat)

/-- The blocks of the packet. Each has at least four octets. -/
def blocks (data : Bytes) : List Nat := blocksFrom data (data.length + 1) 0

theorem blocks_blocksFrom (data : Bytes) (fuel : Nat) :
    ∀ {offset}, data.length - offset < fuel → Blocks data offset (blocksFrom data fuel offset) := by
  induction fuel with
  | zero => exact fun enough => absurd enough (Nat.not_lt_zero _)
  | succ fuel induction =>
    intro offset enough
    rw [blocksFrom]
    cases block : blockAt data offset with
    | none => exact .none block
    | some header =>
      rcases blockAt_inside block with ⟨_, inside, positive⟩
      exact .block block (induction (by omega))

theorem blocks_blocks (data : Bytes) : Blocks data 0 (blocks data) :=
  blocks_blocksFrom data _ (by omega)

theorem Blocks.unique {data : Bytes} {offset : Nat} {list other : List Nat}
    (listed : Blocks data offset list) (otherListed : Blocks data offset other) :
    list = other := by
  induction listed generalizing other with
  | none absent =>
    cases otherListed with
    | none => rfl
    | block block => rw [absent] at block; cases block
  | block block rest induction =>
    cases otherListed with
    | none absent => rw [absent] at block; cases block
    | block otherBlock otherRest =>
      rw [block] at otherBlock
      cases otherBlock
      rw [induction otherRest]

/-! ## The iterator -/

/-- The members that change. Without a block the pointer is the null pointer, and the
header is not looked at. -/
structure RTCPPacketIterator where
  ptrBlock : Option Nat
  header : RTCPCommonHeader

namespace RTCPPacketIterator

variable (data : Bytes)

/-- `Iterate`, with the header that it returns. -/
def iterate (iterator : RTCPPacketIterator) :
    Option (Option RTCPCommonHeader × RTCPPacketIterator) :=
  match iterator.ptrBlock with
  | none => some (none, iterator)
  | some ptrBlock => do
    match ← rtcpParseCommonHeader data ptrBlock with
    | none => pure (none, { iterator with ptrBlock := none })
    | some header =>
      if data.length < ptrBlock + header.lengthInOctets.toNat then
        pure (none, { ptrBlock := none, header })
      else
        pure (some header, { ptrBlock := some (ptrBlock + header.lengthInOctets.toNat), header })

def visitedFrom : (fuel : Nat) → RTCPPacketIterator → Option (List Nat)
  | 0, _ => none
  | fuel + 1, iterator => do
    match ← iterator.iterate data with
    | (none, _) => pure []
    | (some _, next) =>
      let offset ← iterator.ptrBlock
      let later ← visitedFrom fuel next
      pure (offset :: later)

def visited (iterator : RTCPPacketIterator) : Option (List Nat) :=
  visitedFrom data (data.length + 1) { iterator with ptrBlock := some 0 }

theorem iterate_blockAt (offset : Nat) (header : RTCPCommonHeader) :
    ∃ read, iterate data { ptrBlock := some offset, header } = some (match blockAt data offset with
        | none => (none, { ptrBlock := none, header := read })
        | some block =>
          (some block,
            { ptrBlock := some (offset + block.lengthInOctets.toNat), header := block })) := by
  rcases rtcpParseCommonHeader_inside data offset with ⟨result, parsed, _⟩
  cases result with
  | none =>
    simp only [iterate, parsed, blockAt_refused parsed, bind_eq_bind, bind_some, Option.pure_def]
    exact ⟨header, rfl⟩
  | some block =>
    simp only [iterate, parsed, blockAt_header parsed, bind_eq_bind, bind_some, Option.pure_def]
    by_cases behind : data.length < offset + block.lengthInOctets.toNat
    · simp only [behind, if_true]
      exact ⟨block, rfl⟩
    · exact ⟨block, by simp only [behind, if_false]⟩

theorem visitedFrom_blocks (fuel : Nat) :
    ∀ {offset header}, data.length - offset < fuel →
      visitedFrom data fuel { ptrBlock := some offset, header } =
        some (blocksFrom data fuel offset) := by
  induction fuel with
  | zero => exact fun enough => absurd enough (Nat.not_lt_zero _)
  | succ fuel induction =>
    intro offset header enough
    rcases iterate_blockAt data offset header with ⟨read, iterated⟩
    rw [visitedFrom, blocksFrom, iterated]
    cases block : blockAt data offset with
    | none => rfl
    | some found =>
      rcases blockAt_inside block with ⟨_, inside, positive⟩
      have left : data.length - (offset + found.lengthInOctets.toNat) < fuel := by omega
      simp only [bind_eq_bind, bind_some, induction left, Option.pure_def]

theorem visited_blocks (iterator : RTCPPacketIterator) :
    iterator.visited data = some (blocks data) :=
  visitedFrom_blocks data _ (by omega)

end RTCPPacketIterator

end ZyWebRtc.Rtcp
