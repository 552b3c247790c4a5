import ZyWebRtc.Foundation.InsertFromBack
import ZyWebRtc.NetEq.DecoderDatabase

namespace ZyWebRtc.NetEq

/-! `PacketBuffer`. Packets are values, what is deleted is gone. -/

open Rtp (RTPHeader)

inductive BufferReturnCode
  | ok | flushed | notFound | bufferEmpty | invalidPacket | invalidPointer | oversizePacket
  deriving DecidableEq, Repr

def toInt32 (number : Int) : Int := number.bmod (2 ^ 32)

/-- A packet of a list that is handed over. Its payload may be missing. -/
inductive ListedPacket
  | complete (packet : Packet)
  | withoutPayload (header : RTPHeader)
  deriving DecidableEq, Repr

namespace ListedPacket

def header : ListedPacket → RTPHeader
  | complete packet => packet.header
  | withoutPayload header => header

def packet? : ListedPacket → Option Packet
  | complete packet => some packet
  | withoutPayload _ => none

end ListedPacket

structure PacketBuffer where
  maxNumberOfPackets : Nat
  maxMemoryBytes : Nat
  /-- An `int`, whose sums wrap. -/
  currentMemoryBytes : Int
  buffer : List Packet
  deriving DecidableEq, Repr

namespace PacketBuffer

/-- The constructor. -/
def new (maxNumberOfPackets maxMemoryBytes : Nat) : PacketBuffer where
  maxNumberOfPackets
  maxMemoryBytes
  currentMemoryBytes := 0
  buffer := []

variable (packetBuffer : PacketBuffer)

def flush : PacketBuffer :=
  { packetBuffer with buffer := [], currentMemoryBytes := 0 }

def isFull (packet : Packet) : Bool :=
  packetBuffer.buffer.length ≥ packetBuffer.maxNumberOfPackets ||
    toInt32 (packetBuffer.currentMemoryBytes + packet.payloadLength) >
      toInt32 packetBuffer.maxMemoryBytes

def place (packet : Packet) : PacketBuffer :=
  { packetBuffer with
    buffer := insertFromBack Packet.isBefore packet packetBuffer.buffer
    currentMemoryBytes := toInt32 (packetBuffer.currentMemoryBytes + packet.payloadLength) }

def insertPacket : (packet : Option Packet) → BufferReturnCode × PacketBuffer
  | none => (.invalidPacket, packetBuffer)
  | some packet =>
    if packetBuffer.isFull packet then
      if packetBuffer.flush.isFull packet then (.oversizePacket, packetBuffer.flush)
      else (.flushed, packetBuffer.flush.place packet)
    else (.ok, packetBuffer.place packet)

/-- The payload types that `InsertPacketList` updates. -/
structure CurrentTypes where
  rtp : UInt8
  cngRtp : UInt8
  deriving DecidableEq, Repr

/-- The start of a round of `InsertPacketList`: the current payload types with the one of the
packet, and whether it is another one, so that the buffer is flushed. -/
def updateTypes (database : DecoderDatabase) (types : CurrentTypes) (payloadType : UInt8) :
    Bool × CurrentTypes :=
  if database.isComfortNoise payloadType then
    if types.cngRtp ≠ 0xFF && types.cngRtp ≠ payloadType then
      (true, { rtp := 0xFF, cngRtp := payloadType })
    else (false, { types with cngRtp := payloadType })
  else if !database.isDtmf payloadType then
    -- this must be speech
    if types.rtp ≠ 0xFF && types.rtp ≠ payloadType then
      (true, { rtp := payloadType, cngRtp := 0xFF })
    else (false, { types with rtp := payloadType })
  else (false, types)

def flushWhen (changed : Bool) (packetBuffer : PacketBuffer) : PacketBuffer :=
  if changed then packetBuffer.flush else packetBuffer

/-- The rounds that are left, with `flushed` so far. After an error the rest of the list is
deleted. -/
def insertPacketsFrom (database : DecoderDatabase) :
    List ListedPacket → (flushed : Bool) → CurrentTypes → PacketBuffer →
      BufferReturnCode × CurrentTypes × PacketBuffer
  | [], flushed, types, packetBuffer => (if flushed then .flushed else .ok, types, packetBuffer)
  | packet :: packetList, flushed, types, packetBuffer =>
    let updated := updateTypes database types packet.header.payloadType
    let inserted := (flushWhen updated.1 packetBuffer).insertPacket packet.packet?
    match inserted.1 with
    | .flushed => insertPacketsFrom database packetList true updated.2 inserted.2
    | .ok => insertPacketsFrom database packetList (flushed || updated.1) updated.2 inserted.2
    | error => (error, updated.2, inserted.2)

def insertPacketList (packetList : List ListedPacket)
    (database : DecoderDatabase) (types : CurrentTypes) :
    BufferReturnCode × CurrentTypes × PacketBuffer :=
  insertPacketsFrom database packetList false types packetBuffer

/-- With a pointer for the result. -/
def nextTimestamp : BufferReturnCode × Option UInt32 :=
  match packetBuffer.buffer with
  | [] => (.bufferEmpty, none)
  | first :: _ => (.ok, some first.header.timestamp)

/-- With a pointer for the result. -/
def nextHigherTimestamp (timestamp : UInt32) :
    BufferReturnCode × Option UInt32 :=
  if packetBuffer.buffer.isEmpty then (.bufferEmpty, none)
  else
    match packetBuffer.buffer.find? fun packet => packet.header.timestamp ≥ timestamp with
    | some packet => (.ok, some packet.header.timestamp)
    | none => (.notFound, none)

def popFront (front : Packet) (rest : List Packet) : PacketBuffer :=
  { packetBuffer with
    buffer := rest
    currentMemoryBytes := toInt32 (packetBuffer.currentMemoryBytes - front.payloadLength) }

def discardNextPacket : BufferReturnCode × PacketBuffer :=
  match packetBuffer.buffer with
  | [] => (.bufferEmpty, packetBuffer)
  | front :: rest => (.ok, packetBuffer.popFront front rest)

/-- The loops that discard packets while the one in front has a timestamp of a kind. They end
with the packets, of which there are `remaining`. -/
def discardWhile (discarded : UInt32 → Bool) :
    (remaining : Nat) → PacketBuffer → Nat × PacketBuffer
  | 0, packetBuffer => (0, packetBuffer)
  | remaining + 1, packetBuffer =>
    match packetBuffer.nextTimestamp.2 with
    | none => (0, packetBuffer)
    | some timestamp =>
      if discarded timestamp then
        let (discardCount, last) :=
          discardWhile discarded remaining packetBuffer.discardNextPacket.2
        (discardCount + 1, last)
      else (0, packetBuffer)

/-- The packet, the number of discarded packets and the buffer. -/
def getNextPacket : Option (Packet × Nat) × PacketBuffer :=
  match packetBuffer.buffer with
  | [] => (none, packetBuffer)
  | packet :: rest =>
    let (discardCount, last) :=
      discardWhile (fun timestamp => timestamp = packet.header.timestamp) rest.length
        (packetBuffer.popFront packet rest)
    (some (packet, discardCount), last)

def isOlder (timestampLimit timestamp : UInt32) : Bool :=
  timestampLimit ≠ timestamp && timestampLimit - timestamp < 0xFFFFFFFF / 2

/-- The returned value is always 0. -/
def discardOldPackets (timestampLimit : UInt32) : PacketBuffer :=
  (discardWhile (isOlder timestampLimit) packetBuffer.buffer.length packetBuffer).2

end PacketBuffer

end ZyWebRtc.NetEq
