import ZyWebRtc.Fec.Decoder
import ZyWebRtc.Fec.RedReceiver

namespace ZyWebRtc.Fec

/-! `FecReceiverImpl`, with a callback that succeeds. -/

open Rtp (RTPHeader)

structure FecReceiver where
  receivedPacketList : List ReceivedPacket
  decoder : Decoder

namespace FecReceiver

def new : FecReceiver where
  receivedPacketList := []
  decoder := Decoder.new

end FecReceiver

def frontMedia : List ReceivedPacket → List Packet
  | [] => []
  | front :: _ => if front.isFec then [] else [front.pkt]

def notReturned (recoveredPacketList : List RecoveredPacket) : List Packet :=
  (recoveredPacketList.filter (!·.returned)).map (·.pkt)

def markReturned (recoveredPacketList : List RecoveredPacket) : List RecoveredPacket :=
  recoveredPacketList.map fun packet => { packet with returned := true }

/-- Decoding, when something was received. -/
def decodeReceived (receivedPacketList : List ReceivedPacket) (decoder : Decoder) :
    Option (Decoder × List RecoveredPacket) :=
  if receivedPacketList = [] then some (decoder, []) else decodeFec receivedPacketList decoder

/-- What a call of `ProcessReceivedFec` leaves, hands to the callback and recovers. -/
structure Processed where
  receiver : FecReceiver
  handedOn : List Packet
  recovered : List RecoveredPacket

def processReceivedFec (receiver : FecReceiver) : Option Processed := do
  let (decoder, recovered) ← decodeReceived receiver.receivedPacketList receiver.decoder
  pure {
    receiver := {
      receivedPacketList := []
      decoder := { decoder with
        recoveredPacketList := markReturned decoder.recoveredPacketList } }
    handedOn := frontMedia receiver.receivedPacketList ++ notReturned decoder.recoveredPacketList
    recovered := recovered }

inductive Call where
  | addReceivedRedPacket (unset : UInt32) (header : RTPHeader) (incoming : Bytes)
      (ulpfecPayloadType : UInt8)
  | processReceivedFec

def mediaOf (receivedPacketList : List ReceivedPacket) : List Packet :=
  (receivedPacketList.filter (!·.isFec)).map (·.pkt)

/-- The receiver, and what it received, recovered and handed on so far. -/
structure History where
  receiver : FecReceiver
  received : List Packet
  recovered : List Packet
  delivered : List Packet

namespace History

def new : History where
  receiver := FecReceiver.new
  received := []
  recovered := []
  delivered := []

def step (history : History) : Call → Option History
  | .addReceivedRedPacket unset header incoming ulpfecPayloadType => do
    let before := history.receiver.receivedPacketList
    let (_, after) ← addReceivedRedPacket unset header incoming ulpfecPayloadType before
    pure { history with
      receiver := { history.receiver with receivedPacketList := after }
      received := history.received ++ mediaOf (after.drop before.length) }
  | .processReceivedFec => do
    let processed ← processReceivedFec history.receiver
    pure {
      receiver := processed.receiver
      received := history.received
      recovered := history.recovered ++ processed.recovered.map (·.pkt)
      delivered := history.delivered ++ processed.handedOn }

end History

end ZyWebRtc.Fec
