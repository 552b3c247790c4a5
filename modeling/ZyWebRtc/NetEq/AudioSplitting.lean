import Mathlib.Data.List.TakeWhile
import ZyWebRtc.NetEq.DecoderDatabase
import ZyWebRtc.NetEq.RedSplitting

namespace ZyWebRtc.NetEq

/-! How `PayloadSplitter` splits audio payloads into chunks, and when no sample is cut. -/

open List Option

def kNoSplit : Int := 1

def kTooLargePayload : Int := -1

def kFrameSplitError : Int := -2

def kUnknownPayloadType : Int := -3

/-- A part of a packet. -/
def chunkOf (packet : Packet) (timestamp : UInt32) (payload : Bytes) : Packet where
  header := { packet.header with timestamp }
  payload
  primary := packet.primary
  waitingTime := 0
  syncPacket := false

/-- The loop that halves the size. As many rounds as there are bytes are enough. -/
def halveSize (minChunkSize : Nat) : (rounds : Nat) → (splitSizeBytes : Nat) → Nat
  | 0, splitSizeBytes => splitSizeBytes
  | rounds + 1, splitSizeBytes =>
    if splitSizeBytes ≥ 2 * minChunkSize then halveSize minChunkSize rounds (splitSizeBytes / 2)
    else splitSizeBytes

/-- The loop over the chunks. When each of them takes a byte, one round more than there are bytes
is enough; otherwise the loop does not end. -/
def splitChunks (packet : Packet) (splitSizeBytes : Nat) (timestampsPerChunk : UInt32) :
    (rounds : Nat) → (timestamp : UInt32) → (payload : Bytes) → Option (List Packet)
  | 0, _, _ => none
  | rounds + 1, timestamp, payload =>
    if payload.length ≥ 2 * splitSizeBytes then do
      let newPackets ← splitChunks packet splitSizeBytes timestampsPerChunk rounds
        (timestamp + timestampsPerChunk) (payload.drop splitSizeBytes)
      pure (chunkOf packet timestamp (payload.take splitSizeBytes) :: newPackets)
    else if payload.length > 0 then some [chunkOf packet timestamp payload]
    else some []

def splitBySamples (packet : Packet) (bytesPerMs timestampsPerMs : Nat) : Option (List Packet) :=
  let splitSizeBytes := halveSize (bytesPerMs * 20) packet.payloadLength packet.payloadLength
  let timestampsPerChunk := UInt32.ofNat (splitSizeBytes * timestampsPerMs / bytesPerMs)
  splitChunks packet splitSizeBytes timestampsPerChunk (packet.payloadLength + 1)
    packet.header.timestamp packet.payload

def splitFrames (packet : Packet) (bytesPerFrame : Nat) (timestampsPerFrame : UInt32) :
    (frames : Nat) → (timestamp : UInt32) → (payload : Bytes) → List Packet
  | 0, _, _ => []
  | frames + 1, timestamp, payload =>
    chunkOf packet timestamp (payload.take bytesPerFrame) ::
      splitFrames packet bytesPerFrame timestampsPerFrame frames (timestamp + timestampsPerFrame)
        (payload.drop bytesPerFrame)

def splitByFrames (packet : Packet) (bytesPerFrame timestampsPerFrame : Nat) :
    Int × List Packet :=
  if packet.payloadLength % bytesPerFrame ≠ 0 then (kFrameSplitError, [])
  else
    let numFrames := packet.payloadLength / bytesPerFrame
    if numFrames = 1 then (kNoSplit, [])
    else
      (kOK, splitFrames packet bytesPerFrame (UInt32.ofNat timestampsPerFrame) numFrames
        packet.header.timestamp packet.payload)

/-- What a codec's payload consists of: the bytes and the timestamps of a millisecond, and the bytes
of its smallest whole part with the samples of each channel in it. -/
structure Layout where
  bytesPerMs : Nat
  timestampsPerMs : Nat
  unit : Nat
  samples : Nat
  deriving DecidableEq

/-- The codecs that are split by samples. -/
def sampleLayout : NetEqDecoder → Option Layout
  | .pcmu | .pcma => some ⟨8, 8, 1, 1⟩
  | .pcmu2ch | .pcma2ch => some ⟨2 * 8, 8, 2, 1⟩
  | .g722 => some ⟨8, 16, 1, 2⟩
  | .pcm16B => some ⟨16, 8, 2, 1⟩
  | .pcm16BWb => some ⟨32, 16, 2, 1⟩
  | .pcm16BSwb32kHz => some ⟨64, 32, 2, 1⟩
  | .pcm16BSwb48kHz => some ⟨96, 48, 2, 1⟩
  | .pcm16B2ch => some ⟨2 * 16, 8, 4, 1⟩
  | .pcm16BWb2ch => some ⟨2 * 32, 16, 4, 1⟩
  | .pcm16BSwb32kHz2ch => some ⟨2 * 64, 32, 4, 1⟩
  | .pcm16BSwb48kHz2ch => some ⟨2 * 96, 48, 4, 1⟩
  | .pcm16B5ch => some ⟨5 * 16, 8, 10, 1⟩
  | _ => none

/-- The payload is refused by the case of iLBC. -/
def ilbcError (payloadLength : Nat) : Option Int :=
  if payloadLength ≥ 950 then some kTooLargePayload
  else if payloadLength % 38 = 0 ∨ payloadLength % 50 = 0 then none
  else some kFrameSplitError

/-- The bytes and the timestamps of a frame. -/
def ilbcFrame (payloadLength : Nat) : Nat × Nat :=
  if payloadLength % 38 = 0 then (38, 160) else (50, 240)

/-- The body of the loop: an error, or what is in the list in the packet's place. There is no value
when a loop does not end. -/
def splitPacket (database : DecoderDatabase) (packet : Packet) :
    Option (Except Int (List Packet)) :=
  match database.getDecoderInfo packet.header.payloadType with
  | none => some (.error kUnknownPayloadType)
  | some info =>
    if packet.syncPacket then some (.ok [packet])
    else
      match sampleLayout info.codecType with
      | some layout =>
        (splitBySamples packet layout.bytesPerMs layout.timestampsPerMs).map .ok
      | none =>
        if info.codecType = .ilbc then
          match ilbcError packet.payloadLength with
          | some code => some (.error code)
          | none =>
            let (bytesPerFrame, timestampsPerFrame) := ilbcFrame packet.payloadLength
            let (ret, newPackets) := splitByFrames packet bytesPerFrame timestampsPerFrame
            if ret < 0 then some (.error ret)
            else if ret = kNoSplit then some (.ok [packet])
            else some (.ok newPackets)
        else some (.ok [packet])

def splitAudio (database : DecoderDatabase) : List Packet → Option (Int × List Packet)
  | [] => some (kOK, [])
  | packet :: packetList => do
    match ← splitPacket database packet with
    | .error code => pure (code, packet :: packetList)
    | .ok part =>
      let (ret, rest) ← splitAudio database packetList
      pure (ret, part ++ rest)

/-! ## The property -/

/-- The chunks of a packet from a position of its payload on consist of whole units, and say the
sample that they begin with. -/
def ChunksFrom (unit samples : Nat) (packet : Packet) : (position : Nat) → List Packet → Prop
  | _, [] => True
  | position, chunk :: chunks =>
    unit ∣ chunk.payload.length ∧ chunk.primary = packet.primary ∧
      chunk.header = { packet.header with
        timestamp := packet.header.timestamp + UInt32.ofNat (position / unit * samples) } ∧
      ChunksFrom unit samples packet (position + chunk.payload.length) chunks

structure Conserves (unit samples : Nat) (packet : Packet) (chunks : List Packet) : Prop where
  payload : chunks.flatMap Packet.payload = packet.payload
  chunks : ChunksFrom unit samples packet 0 chunks

/-- The unit of a codec that can be split, and the samples in it. -/
def unitOf (payloadLength : Nat) (codecType : NetEqDecoder) : Option (Nat × Nat) :=
  if codecType = .ilbc then some (ilbcFrame payloadLength)
  else (sampleLayout codecType).map fun layout => (layout.unit, layout.samples)

/-- What stands in a packet's place conserves its samples; packets that cannot be split stay. -/
def Replaces (database : DecoderDatabase) (packet : Packet) (part : List Packet) : Prop :=
  ∀ info ∈ database.getDecoderInfo packet.header.payloadType,
    match if packet.syncPacket then none else unitOf packet.payloadLength info.codecType with
    | none => part = [packet]
    | some (unit, samples) => Conserves unit samples packet part

/-- What `splitAudio` puts in the place of a packet that it does not refuse. -/
def partOf (database : DecoderDatabase) (packet : Packet) : List Packet :=
  match splitPacket database packet with
  | some (.ok part) => part
  | _ => []

structure SplitsAudio (database : DecoderDatabase) (packetList : List Packet) : Prop where
  terminates : (splitAudio database packetList).isSome
  conserves : ∀ result, splitAudio database packetList = some (kOK, result) →
    result = packetList.flatMap (partOf database) ∧
      ∀ packet ∈ packetList, Replaces database packet (partOf database packet)

/-- The loop ends with an error at this packet. -/
def refused (database : DecoderDatabase) (packet : Packet) : Bool :=
  match database.getDecoderInfo packet.header.payloadType with
  | none => true
  | some info =>
    !packet.syncPacket && info.codecType = .ilbc && (ilbcError packet.payloadLength).isSome

/-- The layout of a packet that is split by samples. -/
def sampled (database : DecoderDatabase) (packet : Packet) : Option Layout :=
  if packet.syncPacket then none
  else (database.getDecoderInfo packet.header.payloadType).bind fun info =>
    sampleLayout info.codecType

/-- The payload length halved until it is less than 40 ms. -/
def chunkSize (bytesPerMs payloadLength : Nat) : Nat :=
  payloadLength / 2 ^ Nat.log2 (payloadLength / (bytesPerMs * 20))

/-- The packets that are split by samples in front of an error are not empty, and without an error
they and their chunks consist of whole samples. -/
structure Divides (database : DecoderDatabase) (packetList : List Packet) : Prop where
  filled : ∀ packet ∈ packetList.takeWhile fun packet => !refused database packet,
    (sampled database packet).isSome → packet.payload ≠ []
  whole : (∀ packet ∈ packetList, refused database packet = false) →
    ∀ packet ∈ packetList, ∀ layout ∈ sampled database packet, layout.unit ∣ packet.payloadLength ∧
        layout.unit ∣ chunkSize layout.bytesPerMs packet.payloadLength

theorem halveSize_eq {minChunkSize : Nat} (positive : 0 < minChunkSize) (rounds : Nat) :
    ∀ size ≤ rounds,
      halveSize minChunkSize rounds size = size / 2 ^ Nat.log2 (size / minChunkSize) := by
  induction rounds with
  | zero =>
    intro size none
    rw [Nat.le_zero.mp none, Nat.zero_div]
    rfl
  | succ rounds induction =>
    intro size enough
    have twice : size ≥ 2 * minChunkSize ↔ 2 ≤ size / minChunkSize :=
      (Nat.le_div_iff_mul_le positive).symm
    rw [halveSize, Nat.log2_def]
    by_cases long : size ≥ 2 * minChunkSize
    · rw [if_pos long, if_pos (twice.mp long), induction _ (by omega),
        Nat.div_right_comm size minChunkSize 2, Nat.pow_succ', ← Nat.div_div_eq_div_mul]
    · rw [if_neg long, if_neg (mt twice.mpr long), Nat.pow_zero, Nat.div_one]

/-- A payload is longer than twice its chunk size, or one chunk. -/
theorem chunkSize_cases (bytesPerMs payloadLength : Nat) :
    chunkSize bytesPerMs payloadLength = payloadLength ∨
      2 * chunkSize bytesPerMs payloadLength ≤ payloadLength := by
  rw [chunkSize]
  cases Nat.log2 (payloadLength / (bytesPerMs * 20)) with
  | zero => exact Or.inl (by rw [Nat.pow_zero, Nat.div_one])
  | succ halvings =>
    refine Or.inr ?_
    rw [Nat.pow_succ, ← Nat.div_div_eq_div_mul]
    have half := Nat.div_le_self payloadLength (2 ^ halvings)
    omega

theorem chunkSize_pos {bytesPerMs payloadLength : Nat} (filled : 0 < payloadLength) :
    0 < chunkSize bytesPerMs payloadLength := by
  rw [chunkSize]
  apply Nat.div_pos _ (Nat.two_pow_pos _)
  by_cases short : payloadLength / (bytesPerMs * 20) = 0
  · rw [short]
    exact filled
  · exact (Nat.log2_self_le short).trans (Nat.div_le_self _ _)

/-! ## Chunks of samples -/

section Chunks

variable {unit samples : Nat} {packet : Packet} {splitSizeBytes : Nat}

theorem timestamp_add (unitPositive : 0 < unit) {position size : Nat} (units : unit ∣ position)
    (timestamp : UInt32) :
    timestamp + UInt32.ofNat (position / unit * samples) + UInt32.ofNat (size / unit * samples) =
      timestamp + UInt32.ofNat ((position + size) / unit * samples) := by
  rcases units with ⟨count, rfl⟩
  rw [Nat.mul_add_div unitPositive, Nat.mul_div_cancel_left _ unitPositive, Nat.add_mul,
    UInt32.ofNat_add, UInt32.add_assoc]

/-- The chunks of a size other than zero, of which there are whole units in each if there are in
the size and in the payload. -/
theorem splitChunks_chunksFrom (unitPositive : 0 < unit) (positive : 0 < splitSizeBytes)
    (units : unit ∣ splitSizeBytes) (rounds : Nat) :
    ∀ (position : Nat) (payload : Bytes), payload.length < rounds → unit ∣ position →
      ∃ chunks, splitChunks packet splitSizeBytes
          (UInt32.ofNat (splitSizeBytes / unit * samples)) rounds
          (packet.header.timestamp + UInt32.ofNat (position / unit * samples)) payload =
            some chunks ∧
        chunks.flatMap Packet.payload = payload ∧
        (ChunksFrom unit samples packet position chunks ↔ unit ∣ payload.length) := by
  induction rounds with
  | zero => exact fun _ _ few => absurd few (Nat.not_lt_zero _)
  | succ rounds induction =>
    intro position payload enough atUnit
    rw [splitChunks]
    by_cases long : payload.length ≥ 2 * splitSizeBytes
    · have size : (payload.take splitSizeBytes).length = splitSizeBytes := by
        rw [length_take]
        omega
      rcases induction (position + splitSizeBytes) (payload.drop splitSizeBytes)
        (by rw [length_drop]; omega) (Nat.dvd_add atUnit units) with
        ⟨chunks, split, joined, whole⟩
      rw [if_pos long, timestamp_add unitPositive atUnit, split]
      refine ⟨_, rfl, ?_, ?_⟩
      · rw [flatMap_cons, joined]
        exact take_append_drop _ _
      · have rest : unit ∣ payload.length - splitSizeBytes ↔ unit ∣ payload.length :=
          Nat.dvd_sub_iff_left (by omega) units
        rw [ChunksFrom, chunkOf, size, whole, length_drop, rest]
        exact ⟨fun all => all.2.2.2, fun rest => ⟨units, rfl, rfl, rest⟩⟩
    · rw [if_neg long]
      by_cases some : payload.length > 0
      · rw [if_pos some]
        refine ⟨_, rfl, append_nil _, ?_⟩
        exact ⟨fun all => all.1, fun whole => ⟨whole, rfl, rfl, trivial⟩⟩
      · rw [if_neg some]
        have empty := length_eq_zero_iff.mp (Nat.eq_zero_of_not_pos some)
        rw [empty]
        exact ⟨[], rfl, rfl, iff_of_true trivial (Nat.dvd_zero _)⟩

/-- Whatever the size is, the loop ends, and the first chunk has that size if it is not the only
one. -/
theorem splitChunks_first (positive : 0 < splitSizeBytes) (timestampsPerChunk : UInt32)
    (rounds : Nat) : ∀ (timestamp : UInt32) (payload : Bytes), payload.length < rounds →
      ∃ chunks, splitChunks packet splitSizeBytes timestampsPerChunk rounds timestamp payload =
          some chunks ∧
        (2 * splitSizeBytes ≤ payload.length ∨ payload.length = splitSizeBytes →
          ∃ chunk rest, chunks = chunk :: rest ∧ chunk.payload.length = splitSizeBytes) := by
  induction rounds with
  | zero => exact fun _ _ few => absurd few (Nat.not_lt_zero _)
  | succ rounds induction =>
    intro timestamp payload enough
    rw [splitChunks]
    by_cases long : payload.length ≥ 2 * splitSizeBytes
    · rcases induction (timestamp + timestampsPerChunk) (payload.drop splitSizeBytes)
        (by rw [length_drop]; omega) with ⟨chunks, split, -⟩
      rw [if_pos long, split]
      refine ⟨_, rfl, fun _ => ⟨_, chunks, rfl, ?_⟩⟩
      rw [chunkOf, length_take]
      omega
    · rw [if_neg long]
      by_cases some : payload.length > 0
      · rw [if_pos some]
        exact ⟨_, rfl, fun size => ⟨_, [], rfl, size.resolve_left long⟩⟩
      · rw [if_neg some]
        exact ⟨[], rfl, fun size => absurd size (by omega)⟩

end Chunks

theorem sampleLayout_spec {codecType : NetEqDecoder} {layout : Layout}
    (found : sampleLayout codecType = some layout) :
    0 < layout.bytesPerMs ∧ 0 < layout.unit ∧
      layout.bytesPerMs * layout.samples = layout.timestampsPerMs * layout.unit ∧
      codecType ≠ .ilbc := by
  cases codecType <;> cases found <;> decide

/-- An empty payload is split for ever. -/
theorem splitBySamples_empty {packet : Packet} (empty : packet.payload = [])
    (bytesPerMs timestampsPerMs : Nat) :
    splitBySamples packet bytesPerMs timestampsPerMs = none := by
  rw [splitBySamples, Packet.payloadLength, empty]
  rfl

theorem splitBySamples_conserves {packet : Packet} {layout : Layout}
    {codecType : NetEqDecoder} (found : sampleLayout codecType = some layout)
    (filled : packet.payload ≠ []) :
    ∃ chunks, splitBySamples packet layout.bytesPerMs layout.timestampsPerMs = some chunks ∧
      (Conserves layout.unit layout.samples packet chunks ↔ layout.unit ∣ packet.payloadLength ∧
          layout.unit ∣ chunkSize layout.bytesPerMs packet.payloadLength) := by
  rcases sampleLayout_spec found with ⟨bytesPositive, unitPositive, rate, -⟩
  have size : halveSize (layout.bytesPerMs * 20) packet.payloadLength packet.payloadLength =
      chunkSize layout.bytesPerMs packet.payloadLength :=
    halveSize_eq (Nat.mul_pos bytesPositive (by decide)) _ _ (Nat.le_refl _)
  have positive : 0 < chunkSize layout.bytesPerMs packet.payloadLength :=
    chunkSize_pos (length_pos_iff.mpr filled)
  rw [splitBySamples, size]
  by_cases units : layout.unit ∣ chunkSize layout.bytesPerMs packet.payloadLength
  · have steps : chunkSize layout.bytesPerMs packet.payloadLength * layout.timestampsPerMs /
        layout.bytesPerMs =
          chunkSize layout.bytesPerMs packet.payloadLength / layout.unit * layout.samples := by
      rcases units with ⟨count, isCount⟩
      rw [isCount, Nat.mul_div_cancel_left _ unitPositive]
      apply Nat.div_eq_of_eq_mul_right bytesPositive
      linear_combination count * rate.symm
    have start : packet.header.timestamp =
        packet.header.timestamp + UInt32.ofNat (0 / layout.unit * layout.samples) := by
      rw [Nat.zero_div, Nat.zero_mul]
      exact (UInt32.add_zero _).symm
    rcases @splitChunks_chunksFrom _ layout.samples packet _ unitPositive positive units
      (packet.payloadLength + 1) 0 packet.payload (Nat.lt_succ_self _) (Nat.dvd_zero _) with
      ⟨chunks, split, joined, whole⟩
    rw [← start] at split
    rw [steps, split]
    exact ⟨chunks, rfl, fun conserves => ⟨whole.mp conserves.chunks, units⟩,
      fun divides => ⟨joined, whole.mpr divides.1⟩⟩
  · rcases @splitChunks_first packet _ positive _ (packet.payloadLength + 1)
      packet.header.timestamp packet.payload (Nat.lt_succ_self _) with ⟨chunks, split, first⟩
    refine ⟨chunks, split, fun conserves => ?_, fun divides => absurd divides.2 units⟩
    rcases first ((chunkSize_cases _ _).symm.imp_right Eq.symm) with ⟨chunk, rest, rfl, length⟩
    exact absurd (length ▸ conserves.chunks.1) units

theorem splitFrames_conserves {packet : Packet} {bytesPerFrame timestampsPerFrame : Nat}
    (positive : 0 < bytesPerFrame) (frames : Nat) : ∀ (count : Nat) (payload : Bytes),
      payload.length = bytesPerFrame * frames →
      (splitFrames packet bytesPerFrame (UInt32.ofNat timestampsPerFrame) frames
          (packet.header.timestamp + UInt32.ofNat (count * timestampsPerFrame))
          payload).flatMap Packet.payload = payload ∧
        ChunksFrom bytesPerFrame timestampsPerFrame packet (bytesPerFrame * count)
          (splitFrames packet bytesPerFrame (UInt32.ofNat timestampsPerFrame) frames
            (packet.header.timestamp + UInt32.ofNat (count * timestampsPerFrame)) payload) := by
  induction frames with
  | zero =>
    intro count payload length
    rw [length_eq_zero_iff.mp length]
    exact ⟨rfl, trivial⟩
  | succ frames induction =>
    intro count payload length
    have size : (payload.take bytesPerFrame).length = bytesPerFrame := by
      rw [length_take, length, Nat.mul_succ]
      omega
    rcases induction (count + 1) (payload.drop bytesPerFrame) (by
      rw [length_drop, length, Nat.mul_succ, Nat.add_sub_cancel]) with ⟨joined, chunks⟩
    rw [splitFrames, UInt32.add_assoc, ← UInt32.ofNat_add, ← Nat.succ_mul]
    constructor
    · rw [flatMap_cons, joined]
      exact take_append_drop _ _
    · rw [ChunksFrom, chunkOf, size, Nat.mul_div_cancel_left _ positive, ← Nat.mul_succ]
      exact ⟨Nat.dvd_refl _, rfl, rfl, chunks⟩

/-- Frames that fill the payload are conserved, also by a packet that is not split. -/
theorem splitByFrames_conserves {packet : Packet} {bytesPerFrame timestampsPerFrame : Nat}
    (positive : 0 < bytesPerFrame) (whole : packet.payloadLength % bytesPerFrame = 0) :
    splitByFrames packet bytesPerFrame timestampsPerFrame = (kNoSplit, []) ∧
        Conserves bytesPerFrame timestampsPerFrame packet [packet] ∨
      ∃ newPackets, splitByFrames packet bytesPerFrame timestampsPerFrame = (kOK, newPackets) ∧
        Conserves bytesPerFrame timestampsPerFrame packet newPackets := by
  have start : packet.header.timestamp =
      packet.header.timestamp + UInt32.ofNat (0 * timestampsPerFrame) := by
    rw [Nat.zero_mul]
    exact (UInt32.add_zero _).symm
  have length : packet.payload.length = bytesPerFrame * (packet.payloadLength / bytesPerFrame) :=
    (Nat.mul_div_cancel' (Nat.dvd_of_mod_eq_zero whole)).symm
  rw [splitByFrames, if_neg (not_not_intro whole)]
  by_cases one : packet.payloadLength / bytesPerFrame = 1
  · refine Or.inl ⟨if_pos one, append_nil _, Nat.dvd_of_mod_eq_zero whole, rfl, ?_, trivial⟩
    rw [Nat.zero_div, ← start]
  · refine Or.inr ⟨_, if_neg one, ?_⟩
    rcases @splitFrames_conserves packet _ timestampsPerFrame positive _ 0 packet.payload length
      with ⟨joined, chunks⟩
    rw [← start] at joined chunks
    exact ⟨joined, chunks⟩

/-! ## The packet list -/

section Lists

variable {database : DecoderDatabase} {packet : Packet} {packetList : List Packet}

theorem splitPacket_refused (isRefused : refused database packet = true) :
    ∃ code, splitPacket database packet = some (.error code) ∧ code ≠ kOK := by
  rw [refused] at isRefused
  rw [splitPacket]
  cases known : database.getDecoderInfo packet.header.payloadType with
  | none => exact ⟨_, rfl, by decide⟩
  | some info =>
    rw [known] at isRefused
    simp only [Bool.and_eq_true, Bool.not_eq_true', decide_eq_true_eq] at isRefused
    rcases isRefused with ⟨⟨unsynced, ilbc⟩, error⟩
    rcases isSome_iff_exists.mp error with ⟨code, isCode⟩
    refine ⟨code, ?_, ?_⟩
    · simp only [unsynced, ilbc, sampleLayout, isCode, if_true, Bool.false_eq_true, if_false]
    · rw [ilbcError] at isCode
      split_ifs at isCode <;> cases isCode <;> decide

/-- A packet that is not refused: it is split for ever if it is sampled and empty. -/
theorem splitPacket_accepted (notRefused : refused database packet = false) :
    ((sampled database packet).isSome ∧ packet.payload = [] ∧ splitPacket database packet = none) ∨
      ((sampled database packet).isSome → packet.payload ≠ []) ∧
        ∃ part, splitPacket database packet = some (.ok part) ∧
          (Replaces database packet part ↔ ∀ layout ∈ sampled database packet,
            layout.unit ∣ packet.payloadLength ∧
              layout.unit ∣ chunkSize layout.bytesPerMs packet.payloadLength) := by
  rw [refused] at notRefused
  simp only [splitPacket, Replaces, sampled]
  cases known : database.getDecoderInfo packet.header.payloadType with
  | none =>
    rw [known] at notRefused
    cases notRefused
  | some info =>
    rw [known] at notRefused
    simp only [mem_some, forall_eq', bind_some]
    cases synced : packet.syncPacket with
    | true => simp
    | false =>
      simp only [Bool.false_eq_true, if_false]
      cases layoutFound : sampleLayout info.codecType with
      | some layout =>
        have other := (sampleLayout_spec layoutFound).2.2.2
        dsimp only
        by_cases empty : packet.payload = []
        · rw [splitBySamples_empty empty]
          exact Or.inl ⟨rfl, empty, rfl⟩
        · rcases splitBySamples_conserves layoutFound empty with ⟨chunks, split, conserves⟩
          rw [split]
          refine Or.inr ⟨fun _ => empty, chunks, rfl, ?_⟩
          rw [unitOf, if_neg other, layoutFound]
          simpa using conserves
      | none =>
        refine Or.inr ⟨nofun, ?_⟩
        by_cases ilbc : info.codecType = .ilbc
        · have accepted : ilbcError packet.payloadLength = none := by
            simpa [synced, ilbc] using notRefused
          have frame : 0 < (ilbcFrame packet.payloadLength).1 ∧
              packet.payloadLength % (ilbcFrame packet.payloadLength).1 = 0 := by
            rw [ilbcError] at accepted
            rw [ilbcFrame]
            split_ifs at accepted with _ frames
            by_cases short : packet.payloadLength % 38 = 0
            · rw [if_pos short]
              exact ⟨by decide, short⟩
            · rw [if_neg short]
              exact ⟨by decide, frames.resolve_left short⟩
          simp only [if_pos ilbc, accepted, unitOf]
          rcases @splitByFrames_conserves packet _ (ilbcFrame packet.payloadLength).2 frame.1
            frame.2 with ⟨unsplit, conserves⟩ | ⟨newPackets, split, conserves⟩
          · rw [unsplit]
            exact ⟨[packet], rfl, iff_of_true conserves nofun⟩
          · rw [split]
            exact ⟨newPackets, rfl, iff_of_true conserves nofun⟩
        · simp only [if_neg ilbc, unitOf, layoutFound]
          exact ⟨[packet], rfl, iff_of_true rfl nofun⟩

theorem isSome_splitAudio : (splitAudio database packetList).isSome ↔
    ∀ packet ∈ packetList.takeWhile fun packet => !refused database packet,
      (sampled database packet).isSome → packet.payload ≠ [] := by
  induction packetList with
  | nil => exact iff_of_true rfl nofun
  | cons packet packetList induction =>
    rw [splitAudio, takeWhile_cons]
    cases stops : refused database packet with
    | true =>
      rcases splitPacket_refused stops with ⟨code, split, -⟩
      rw [split]
      exact iff_of_true rfl nofun
    | false =>
      rw [Bool.not_false, if_pos rfl, forall_mem_cons, ← induction]
      rcases splitPacket_accepted stops with ⟨isSampled, empty, split⟩ | ⟨filled, part, split, -⟩
      · rw [split]
        exact iff_of_false Bool.false_ne_true fun all => all.1 isSampled empty
      · rw [split, and_iff_right filled]
        cases splitAudio database packetList <;> exact Iff.rfl

/-- A splitting that succeeds has refused no packet, and has put its part in the place of each. -/
theorem splitAudio_ok : ∀ result, splitAudio database packetList = some (kOK, result) →
    (∀ packet ∈ packetList, refused database packet = false) ∧
      result = packetList.flatMap (partOf database) := by
  induction packetList with
  | nil =>
    intro result split
    cases split
    exact ⟨nofun, rfl⟩
  | cons packet packetList induction =>
    intro result split
    rw [splitAudio] at split
    cases stops : refused database packet with
    | true =>
      rcases splitPacket_refused stops with ⟨code, refusal, failed⟩
      rw [refusal] at split
      cases split
      exact absurd rfl failed
    | false =>
      rcases splitPacket_accepted stops with ⟨-, -, parted⟩ | ⟨-, part, parted, -⟩
      · rw [parted] at split
        cases split
      · simp only [parted, bind_eq_bind, bind_some] at split
        rcases bind_eq_some_iff.mp split with ⟨⟨ret, others⟩, restSplit, same⟩
        rcases Prod.mk.inj (Option.some.inj same) with ⟨rfl, rfl⟩
        rcases induction others restSplit with ⟨accepted, rfl⟩
        refine ⟨forall_mem_cons.mpr ⟨stops, accepted⟩, ?_⟩
        rw [flatMap_cons, partOf, parted]

/-- A list of which no packet is refused is split successfully, if at all. -/
theorem splitAudio_accepted (accepted : ∀ packet ∈ packetList, refused database packet = false)
    (ends : (splitAudio database packetList).isSome) :
    ∃ result, splitAudio database packetList = some (kOK, result) := by
  induction packetList with
  | nil => exact ⟨[], rfl⟩
  | cons packet packetList induction =>
    rcases forall_mem_cons.mp accepted with ⟨head, others⟩
    rw [splitAudio] at ends ⊢
    rcases splitPacket_accepted head with ⟨-, -, parted⟩ | ⟨-, part, parted, -⟩
    · rw [parted] at ends
      cases ends
    · rw [parted] at ends ⊢
      cases split : splitAudio database packetList with
      | none =>
        rw [split] at ends
        cases ends
      | some outcome =>
        rcases induction others (by rw [split]; rfl) with ⟨rest, restSplit⟩
        rw [split] at restSplit
        cases restSplit
        exact ⟨_, rfl⟩

/-- What is put in the place of a packet that is not refused, in a list that is split. -/
theorem replaces_partOf (stops : refused database packet = false)
    (filled : (sampled database packet).isSome → packet.payload ≠ []) :
    Replaces database packet (partOf database packet) ↔ ∀ layout ∈ sampled database packet,
      layout.unit ∣ packet.payloadLength ∧
        layout.unit ∣ chunkSize layout.bytesPerMs packet.payloadLength := by
  rcases splitPacket_accepted stops with ⟨isSampled, empty, -⟩ | ⟨-, part, parted, whole⟩
  · exact absurd empty (filled isSampled)
  · rw [partOf, parted]
    exact whole

end Lists

/-- The splitting ends, and conserves the samples when it succeeds, exactly if it meets no empty
payload and no length or chunk size that cuts a sample. -/
theorem splitsAudio_iff_divides (database : DecoderDatabase) (packetList : List Packet) :
    SplitsAudio database packetList ↔ Divides database packetList := by
  have replaces : (∀ packet ∈ packetList, refused database packet = false) →
      (splitAudio database packetList).isSome → ∀ packet ∈ packetList,
        (Replaces database packet (partOf database packet) ↔
          ∀ layout ∈ sampled database packet, layout.unit ∣ packet.payloadLength ∧
            layout.unit ∣ chunkSize layout.bytesPerMs packet.payloadLength) := by
    intro accepted ends packet member
    have all : (packetList.takeWhile fun packet => !refused database packet) = packetList :=
      takeWhile_eq_self_iff.mpr fun packet member => by rw [accepted packet member]; rfl
    exact replaces_partOf (accepted packet member)
      (isSome_splitAudio.mp ends packet (all.symm ▸ member))
  constructor
  · intro splits
    refine ⟨isSome_splitAudio.mp splits.terminates, fun accepted packet member => ?_⟩
    rcases splitAudio_accepted accepted splits.terminates with ⟨result, split⟩
    exact (replaces accepted splits.terminates packet member).mp
      ((splits.conserves result split).2 packet member)
  · intro divides
    have ends := isSome_splitAudio.mpr divides.filled
    refine ⟨ends, fun result split => ?_⟩
    rcases splitAudio_ok result split with ⟨accepted, parts⟩
    exact ⟨parts, fun packet member =>
      (replaces accepted ends packet member).mpr (divides.whole accepted packet member)⟩

/-- A database with one decoder, for the payload type of `packetOf`. -/
def oneDecoder (codecType : NetEqDecoder) : DecoderDatabase :=
  ⟨[(0x7F, ⟨codecType, 8000, none, false⟩)]⟩

/-- An empty payload of samples is split for ever. -/
theorem not_splitsAudio_empty : ¬SplitsAudio (oneDecoder .pcm16B) [packetOf []] :=
  fun splits => absurd splits.terminates (by decide)

end ZyWebRtc.NetEq
