import ZyWebRtc.Fec.Decoder

namespace ZyWebRtc.Fec

/-! `ForwardErrorCorrection::GenerateFEC`. Every row of the packet mask is the mask of one FEC
packet. A step has no value when a row is written or read outside its bytes, and when the count of a
shift, `7 - media_pkt_idx`, goes below zero. -/

def kMaskSizeLBitClear : Nat := 2

def kMaskSizeLBitSet : Nat := 6

def ulpHeaderSizeFor (lBit : Bool) : Nat :=
  2 + if lBit then kMaskSizeLBitSet else kMaskSizeLBitClear

def kTransportOverhead : Nat := 28

def packetOverhead : Nat := kFecHeaderSize + ulpHeaderSizeFor true

namespace Packet

def parseSequenceNumber (packet : Packet) : UInt16 := packet.word 2

end Packet

/-! ## The packet mask -/

def maskSizeFor (columns : Int) : Nat :=
  if 8 * kMaskSizeLBitClear < columns then kMaskSizeLBitSet else kMaskSizeLBitClear

def changeColumn (bitIndex : Nat) (change : UInt8 → UInt8) (row : Bytes) : Option Bytes :=
  if bitIndex / 8 < row.length then some (row.modify (bitIndex / 8) change) else none

/-- A row of the new mask, and the row of the old one that it is made from. -/
structure MaskRow where
  newMask : Bytes
  oldMask : Bytes

namespace MaskRow

def new (newMaskBytes : Nat) (row : Bytes) : MaskRow where
  newMask := List.replicate newMaskBytes 0
  oldMask := row

def insertZeroColumns (numZeros newBitIndex : Nat) (row : MaskRow) : Option MaskRow := do
  let maxShifts := 7 - newBitIndex % 8
  let newMask ← changeColumn newBitIndex (· <<< UInt8.ofNat (min numZeros maxShifts)) row.newMask
  pure { row with newMask := newMask }

/-- The old bit is the highest one that is left, and is shifted out. -/
def copyColumn (newBitIndex oldBitIndex : Nat) (row : MaskRow) : Option MaskRow := do
  let oldByte ← row.oldMask.byteAt (oldBitIndex / 8)
  let newMask ← changeColumn newBitIndex (· ||| ((oldByte &&& 0x80) >>> 7)) row.newMask
  let newMask ← if newBitIndex % 8 ≠ 7 then changeColumn newBitIndex (· <<< 1) newMask
    else some newMask
  let oldMask ← changeColumn oldBitIndex (· <<< 1) row.oldMask
  pure { newMask := newMask, oldMask := oldMask }

def shiftLastByte (newBitIndex : Nat) (row : MaskRow) : Option MaskRow := do
  let newMask ← changeColumn newBitIndex (· <<< UInt8.ofNat (7 - newBitIndex % 8)) row.newMask
  pure { row with newMask := newMask }

end MaskRow

/-- The columns for a hole in the sequence numbers, if there is one. -/
def insertZeroColumns (zerosToInsert newBitIndex : Nat) (rows : List MaskRow) :
    Option (List MaskRow) :=
  if 0 < zerosToInsert then rows.mapM (MaskRow.insertZeroColumns zerosToInsert newBitIndex)
  else some rows

def insertZerosFrom : (mediaPackets : List Packet) → (prevSeqNum : UInt16) →
    (newBitIndex oldBitIndex : Nat) → (rows : List MaskRow) → Option (Nat × List MaskRow)
  | [], _, newBitIndex, _, rows => some (newBitIndex, rows)
  | packet :: mediaPackets, prevSeqNum, newBitIndex, oldBitIndex, rows =>
    if newBitIndex = 8 * kMaskSizeLBitSet then some (newBitIndex, rows)
    else do
      let seqNum := packet.parseSequenceNumber
      let zerosToInsert := (seqNum - prevSeqNum - 1).toNat
      let rows ← insertZeroColumns zerosToInsert newBitIndex rows
      let newBitIndex := newBitIndex + zerosToInsert
      let rows ← rows.mapM (MaskRow.copyColumn newBitIndex oldBitIndex)
      insertZerosFrom mediaPackets seqNum (newBitIndex + 1) (oldBitIndex + 1) rows

def shiftLastByte (newBitIndex : Nat) (rows : List MaskRow) : Option (List MaskRow) :=
  if newBitIndex % 8 ≠ 0 then rows.mapM (MaskRow.shiftLastByte newBitIndex) else some rows

def totalMissingSeqNums (first last : Packet) (mediaPackets : Nat) : Int :=
  (last.parseSequenceNumber - first.parseSequenceNumber).toNat - mediaPackets + 1

def insertZerosInBitMasks (mediaPackets : List Packet) (packetMask : List Bytes) :
    Option (Nat × List Bytes) :=
  match mediaPackets with
  | [] => some (0, packetMask)
  | [_] => some (1, packetMask)
  | first :: second :: rest =>
    let last := (second :: rest).getLast (List.cons_ne_nil second rest)
    let totalMissing := totalMissingSeqNums first last mediaPackets.length
    if totalMissing = 0 then some (mediaPackets.length, packetMask)
    else do
      let newMaskBytes := maskSizeFor (mediaPackets.length + totalMissing)
      let rows ← (packetMask.map (MaskRow.new newMaskBytes)).mapM (MaskRow.copyColumn 0 0)
      let (newBitIndex, rows) ←
        insertZerosFrom (second :: rest) first.parseSequenceNumber 1 1 rows
      let rows ← shiftLastByte newBitIndex rows
      pure (newBitIndex, rows.map MaskRow.newMask)

/-- The protected bytes of a media packet, each at the position it is added to. -/
def protectedByte (lBit : Bool) (mediaPacket : Packet) (position : Nat) : UInt8 :=
  let mediaPayloadLength := Bytes.uint16Bytes (mediaPacket.length - 12)
  let ulpHeaderSize := ulpHeaderSizeFor lBit
  if position < 2 ∨ 4 ≤ position ∧ position < 8 then mediaPacket.data position
  else if 8 ≤ position ∧ position < 10 then mediaPayloadLength.byteValue (position - 8)
  else if kFecHeaderSize + ulpHeaderSize ≤ position ∧
      position < mediaPacket.length.toNat + (kFecHeaderSize + ulpHeaderSize - kRtpHeaderSize) then
    mediaPacket.data (position - (kFecHeaderSize + ulpHeaderSize - kRtpHeaderSize))
  else 0

/-- The body of the loop over the media packets: the first protected packet is copied, the others
are XORed. -/
def protectPacket (lBit : Bool) (mediaPacket generated : Packet) : Packet :=
  let ulpHeaderSize := ulpHeaderSizeFor lBit
  let fecRtpOffset := kFecHeaderSize + ulpHeaderSize - kRtpHeaderSize
  let fecPacketLength := mediaPacket.length + UInt16.ofNat fecRtpOffset
  let data :=
    if generated.length = 0 then
      (((generated.data.overwrite 0 (mediaPacket.data.slice 0 2)).overwrite 4
        (mediaPacket.data.slice 4 4)).overwrite 8
        (Bytes.uint16Bytes (mediaPacket.length - 12))).overwrite (kFecHeaderSize + ulpHeaderSize)
        (mediaPacket.data.slice kRtpHeaderSize (mediaPacket.length.toNat - kRtpHeaderSize))
    else fun position => generated.data position ^^^ protectedByte lBit mediaPacket position
  { length := if generated.length < fecPacketLength then fecPacketLength else generated.length
    data := data }

def testMaskBit (row : Bytes) (pktMaskIdx mediaPktIdx : Nat) : Option Bool :=
  if mediaPktIdx ≤ 7 then do
    let byte ← row.byteAt pktMaskIdx
    pure (byte &&& (1 <<< UInt8.ofNat (7 - mediaPktIdx)) ≠ 0)
  else none

/-- From a media packet to the next one, if there is one. -/
def seqNumStep (packet : Packet) : (rest : List Packet) → Nat
  | [] => 0
  | next :: _ => (next.parseSequenceNumber - packet.parseSequenceNumber).toNat

/-- The loop of `GenerateFecBitStrings` over the media packets, for one FEC packet. -/
def generateBitString (lBit : Bool) (row : Bytes) : (mediaPackets : List Packet) →
    (pktMaskIdx mediaPktIdx : Nat) → (generated : Packet) → Option Packet
  | [], _, _, generated => some generated
  | packet :: rest, pktMaskIdx, mediaPktIdx, generated => do
    let isProtected ← testMaskBit row pktMaskIdx mediaPktIdx
    let generated := if isProtected then protectPacket lBit packet generated else generated
    let mediaPktIdx := mediaPktIdx + seqNumStep packet rest
    -- Switch to the next mask byte.
    if mediaPktIdx = 8 then generateBitString lBit row rest (pktMaskIdx + 1) 0 generated
    else generateBitString lBit row rest pktMaskIdx mediaPktIdx generated

def writeUlpHeader (lBit : Bool) (first : Packet) (row : Bytes) (generated : Packet) : Packet :=
  let firstByte := generated.data 0 &&& 0x7f
  let firstByte := if lBit then firstByte ||| 0x40 else firstByte &&& 0xbf
  let protectionLength :=
    generated.length - UInt16.ofNat kFecHeaderSize - UInt16.ofNat (ulpHeaderSizeFor lBit)
  { generated with
    data := (((generated.data.overwrite 0 [firstByte]).overwrite 2 (first.data.slice 2 2)).overwrite
      10 (Bytes.uint16Bytes protectionLength)).overwrite 12 row }

def protectMedia (mediaPackets : List Packet) (packetMask : List Bytes) : Option (List Packet) := do
  let (numMaskBits, packetMask) ← insertZerosInBitMasks mediaPackets packetMask
  let lBit : Bool := 8 * kMaskSizeLBitClear < numMaskBits
  let first ← mediaPackets.head?
  let generated ← packetMask.mapM fun row => generateBitString lBit row mediaPackets 0 0 Packet.new
  pure (List.zipWith (writeUlpHeader lBit first) packetMask generated)

inductive FecMaskType
  | kFecMaskRandom
  | kFecMaskBursty
  deriving DecidableEq, Repr

def getNumberOfFecPackets (numMediaPackets : Nat) (protectionFactor : UInt8) : Nat :=
  let numFecPackets := (numMediaPackets * protectionFactor.toNat + 128) / 256
  if 0 < protectionFactor ∧ numFecPackets = 0 then 1 else numFecPackets

def validMediaPacket (packet : Packet) : Bool :=
  kRtpHeaderSize ≤ packet.length.toNat &&
    packet.length.toNat + packetOverhead + kTransportOverhead ≤ ipPacketSize

def validMedia (mediaPackets : List Packet) (numImportantPackets : Int) : Bool :=
  mediaPackets ≠ [] && mediaPackets.length ≤ kMaxMediaPackets &&
    numImportantPackets ≤ mediaPackets.length && 0 ≤ numImportantPackets &&
    mediaPackets.all validMediaPacket

def maskRows (packetMask : Buffer) (numMediaPackets numFecPackets : Nat) : List Bytes :=
  let numMaskBytes := maskSizeFor numMediaPackets
  (List.range numFecPackets).map fun i => packetMask.slice (i * numMaskBytes) numMaskBytes

section

-- What `GeneratePacketMasks` writes from its tables.
variable (generatePacketMasks : FecMaskType → (numMediaPackets numFecPackets : Nat) →
  (numImportantPackets : Int) → (useUnequalProtection : Bool) → Buffer)

/-- The result of `GenerateFEC`, and the list of FEC packets. -/
def generateFec (mediaPackets : List Packet) (protectionFactor : UInt8) (numImportantPackets : Int)
    (useUnequalProtection : Bool) (fecMaskType : FecMaskType) (fecPackets : List Packet) :
    Option (Int × List Packet) :=
  if fecPackets ≠ [] ∨ validMedia mediaPackets numImportantPackets = false then
    some (-1, fecPackets)
  else
    let numFecPackets := getNumberOfFecPackets mediaPackets.length protectionFactor
    if numFecPackets = 0 then some (0, [])
    else do
      let packetMask := generatePacketMasks fecMaskType mediaPackets.length numFecPackets
        numImportantPackets useUnequalProtection
      let generated ← protectMedia mediaPackets
        (maskRows packetMask mediaPackets.length numFecPackets)
      pure (0, generated)

end

end ZyWebRtc.Fec
