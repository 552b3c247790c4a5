import Mathlib.Tactic

namespace ZyWebRtc.Rtp

/-! `RTPPayloadParser` for VP8. The payload is the memory from its first byte on:
the parser believes the length it is given. -/

open Option

inductive RtpVideoCodecTypes
  | none
  | generic
  | vp8
  deriving DecidableEq, Repr

inductive FrameTypes
  | iFrame
  | pFrame
  deriving DecidableEq, Repr

/-- The descriptor of a VP8 payload. `data` is the offset of the first byte behind
it, and `dataLength` what is left of the payload from there on. -/
structure RTPPayloadVP8 where
  nonReferenceFrame : Bool
  beginningOfPartition : Bool
  partitionID : Int
  hasPictureID : Bool
  hasTl0PicIdx : Bool
  hasTID : Bool
  hasKeyIdx : Bool
  pictureID : Int
  tl0PicIdx : Int
  tID : Int
  layerSync : Bool
  keyIdx : Int
  frameWidth : Int
  frameHeight : Int
  data : Nat
  dataLength : UInt16
  deriving DecidableEq, Repr

/-- What `SetType` stores. It leaves `keyIdx` and the payload as they are, which
nothing reads before they are set. -/
def RTPPayloadVP8.initial : RTPPayloadVP8 where
  nonReferenceFrame := false
  beginningOfPartition := false
  partitionID := 0
  hasPictureID := false
  hasTl0PicIdx := false
  hasTID := false
  hasKeyIdx := false
  pictureID := -1
  tl0PicIdx := -1
  tID := -1
  layerSync := false
  keyIdx := 0
  frameWidth := 0
  frameHeight := 0
  data := 0
  dataLength := 0

/-- The pointer and the counters that the parts of the parser hand to each other. -/
structure Cursor where
  dataPtr : Nat
  dataLength : Int
  parsedBytes : Int
  deriving DecidableEq, Repr

def Cursor.advance (cursor : Cursor) : Cursor where
  dataPtr := cursor.dataPtr + 1
  dataLength := cursor.dataLength - 1
  parsedBytes := cursor.parsedBytes + 1

/-- What is left from the cursor on ends where the payload ends. -/
def Cursor.EndsAt (cursor : Cursor) (length : Nat) : Prop :=
  cursor.dataPtr + cursor.dataLength = length ∧ 1 ≤ cursor.dataPtr

theorem Cursor.endsAt_advance {cursor : Cursor} {length : Nat} (ends : cursor.EndsAt length) :
    cursor.advance.EndsAt length := by
  rcases ends with ⟨sum, behind⟩
  refine ⟨?_, Nat.le_succ_of_le behind⟩
  change ((cursor.dataPtr + 1 : Nat) : Int) + (cursor.dataLength - 1) = length
  omega

namespace RTPPayloadParser

variable (payload : Nat → UInt8)

def byteInt (index : Nat) : Int := (payload index).toNat

def bit (index : Nat) (mask : UInt8) : Bool := payload index &&& mask ≠ 0

section

variable (vp8 : RTPPayloadVP8)

def parseVP8PictureID (cursor : Cursor) : Option (RTPPayloadVP8 × Cursor) :=
  if cursor.dataLength ≤ 0 then none
  else
    let vp8 := { vp8 with pictureID := byteInt payload cursor.dataPtr % 128 }
    if bit payload cursor.dataPtr 0x80 then
      let cursor := cursor.advance
      if cursor.dataLength ≤ 0 then none
      else
        some ({ vp8 with pictureID := vp8.pictureID * 256 + byteInt payload cursor.dataPtr },
          cursor.advance)
    else some (vp8, cursor.advance)

def parseVP8Tl0PicIdx (cursor : Cursor) : Option (RTPPayloadVP8 × Cursor) :=
  if cursor.dataLength ≤ 0 then none
  else some ({ vp8 with tl0PicIdx := byteInt payload cursor.dataPtr }, cursor.advance)

def parseVP8TIDAndKeyIdx (cursor : Cursor) :
    Option (RTPPayloadVP8 × Cursor) :=
  if cursor.dataLength ≤ 0 then none
  else
    let vp8 := if vp8.hasTID then
        { vp8 with
          tID := byteInt payload cursor.dataPtr / 64
          layerSync := bit payload cursor.dataPtr 0x20 }
      else vp8
    let vp8 := if vp8.hasKeyIdx then
        { vp8 with keyIdx := byteInt payload cursor.dataPtr % 32 }
      else vp8
    some (vp8, cursor.advance)

/-- An optional field of the extension. -/
def parseIf (present : Bool)
    (parse : RTPPayloadVP8 → Cursor → Option (RTPPayloadVP8 × Cursor))
    (vp8 : RTPPayloadVP8) (cursor : Cursor) : Option (RTPPayloadVP8 × Cursor) :=
  if present then parse vp8 cursor else some (vp8, cursor)

def parseVP8Extension (dataPtr : Nat) (dataLength : Int) :
    Option (RTPPayloadVP8 × Cursor) :=
  if dataLength ≤ 0 then none
  else do
    let vp8 := { vp8 with
      hasPictureID := bit payload dataPtr 0x80
      hasTl0PicIdx := bit payload dataPtr 0x40
      hasTID := bit payload dataPtr 0x20
      hasKeyIdx := bit payload dataPtr 0x10 }
    let cursor := (Cursor.mk dataPtr dataLength 0).advance
    let (vp8, cursor) ← parseIf vp8.hasPictureID (parseVP8PictureID payload) vp8 cursor
    let (vp8, cursor) ← parseIf vp8.hasTl0PicIdx (parseVP8Tl0PicIdx payload) vp8 cursor
    parseIf (vp8.hasTID || vp8.hasKeyIdx) (parseVP8TIDAndKeyIdx payload) vp8 cursor

def parseVP8FrameSize (frameType : FrameTypes) (vp8 : RTPPayloadVP8) (dataPtr : Nat)
    (dataLength : Int) : Option RTPPayloadVP8 :=
  if frameType ≠ .iFrame then some vp8
  else if dataLength < 10 then none
  else some { vp8 with
    frameWidth := (byteInt payload (dataPtr + 7) * 256 + byteInt payload (dataPtr + 6)) % 0x4000
    frameHeight := (byteInt payload (dataPtr + 9) * 256 + byteInt payload (dataPtr + 8)) % 0x4000 }

def parseVP8Descriptor (length : UInt16) : Option (RTPPayloadVP8 × Cursor) :=
  if bit payload 0 0x80 then parseVP8Extension payload vp8 1 (length.toNat - 1)
  else some (vp8, ⟨1, length.toNat - 1, 0⟩)

end

def parseVP8 (length : UInt16) : Option (FrameTypes × RTPPayloadVP8) :=
  let partitionID := byteInt payload 0 % 16
  let vp8 := { RTPPayloadVP8.initial with
    nonReferenceFrame := bit payload 0 0x20
    beginningOfPartition := bit payload 0 0x10
    partitionID }
  -- Partition identifiers above 8 are a weak check for corrupt data.
  if 8 < partitionID then none
  else do
    let (vp8, cursor) ← parseVP8Descriptor payload vp8 length
    if cursor.dataLength ≤ 0 then none
    else do
      let frameType : FrameTypes :=
        if vp8.beginningOfPartition ∧ vp8.partitionID = 0 then
          if bit payload cursor.dataPtr 0x01 then .pFrame else .iFrame
        else .pFrame
      let vp8 ← parseVP8FrameSize payload frameType vp8 cursor.dataPtr cursor.dataLength
      pure (frameType, { vp8 with
        data := cursor.dataPtr
        dataLength := UInt16.ofNat cursor.dataLength.toNat })

def parse (videoType : RtpVideoCodecTypes) (length : UInt16) :
    Option (FrameTypes × RTPPayloadVP8) :=
  match videoType with
  | .vp8 => parseVP8 payload length
  | .generic | .none => none

/-! ## The parsed data lies behind the descriptor -/

section EndsAt

variable {vp8 parsed : RTPPayloadVP8} {cursor next : Cursor} {length : Nat}

theorem endsAt_parseVP8PictureID (ends : cursor.EndsAt length)
    (found : parseVP8PictureID payload vp8 cursor = some (parsed, next)) :
    next.EndsAt length := by
  rw [parseVP8PictureID] at found
  split at found
  · cases found
  · dsimp only at found
    split at found
    · split at found
      · cases found
      · cases found
        exact Cursor.endsAt_advance (Cursor.endsAt_advance ends)
    · cases found
      exact Cursor.endsAt_advance ends

theorem endsAt_parseVP8Tl0PicIdx (ends : cursor.EndsAt length)
    (found : parseVP8Tl0PicIdx payload vp8 cursor = some (parsed, next)) :
    next.EndsAt length := by
  rw [parseVP8Tl0PicIdx] at found
  split at found
  · cases found
  · cases found
    exact Cursor.endsAt_advance ends

theorem endsAt_parseVP8TIDAndKeyIdx (ends : cursor.EndsAt length)
    (found : parseVP8TIDAndKeyIdx payload vp8 cursor = some (parsed, next)) :
    next.EndsAt length := by
  rw [parseVP8TIDAndKeyIdx] at found
  split at found
  · cases found
  · cases found
    exact Cursor.endsAt_advance ends

theorem endsAt_parseIf {present : Bool}
    {parse : RTPPayloadVP8 → Cursor → Option (RTPPayloadVP8 × Cursor)}
    (ends : cursor.EndsAt length)
    (preserved : parse vp8 cursor = some (parsed, next) → next.EndsAt length)
    (found : parseIf present parse vp8 cursor = some (parsed, next)) : next.EndsAt length := by
  rw [parseIf] at found
  split at found
  · exact preserved found
  · cases found
    exact ends

theorem endsAt_parseVP8Extension {dataPtr : Nat} {dataLength : Int}
    (ends : (Cursor.mk dataPtr dataLength 0).EndsAt length)
    (found : parseVP8Extension payload vp8 dataPtr dataLength = some (parsed, next)) :
    next.EndsAt length := by
  rw [parseVP8Extension] at found
  split at found
  · cases found
  · simp only [bind_eq_bind, bind_eq_some_iff, Prod.exists] at found
    rcases found with ⟨first, afterPictureID, pictureID, second, afterTl0PicIdx, tl0PicIdx, last⟩
    have ends := endsAt_parseIf (Cursor.endsAt_advance ends)
      (endsAt_parseVP8PictureID payload (Cursor.endsAt_advance ends)) pictureID
    have ends := endsAt_parseIf ends (endsAt_parseVP8Tl0PicIdx payload ends) tl0PicIdx
    exact endsAt_parseIf ends (endsAt_parseVP8TIDAndKeyIdx payload ends) last

end EndsAt

theorem parseVP8_data {length : UInt16} {frameType : FrameTypes} {parsed : RTPPayloadVP8}
    (found : parseVP8 payload length = some (frameType, parsed)) :
    1 ≤ parsed.data ∧ parsed.data + parsed.dataLength.toNat = length.toNat := by
  rw [parseVP8] at found
  dsimp only at found
  split at found
  · cases found
  · simp only [bind_eq_bind, bind_eq_some_iff, Prod.exists] at found
    rcases found with ⟨described, cursor, descriptor, rest⟩
    have start : (Cursor.mk 1 (length.toNat - 1) 0).EndsAt length.toNat :=
      ⟨by show ((1 : Nat) : Int) + (length.toNat - 1) = length.toNat; omega, Nat.le_refl 1⟩
    have ends : cursor.EndsAt length.toNat := by
      rw [parseVP8Descriptor] at descriptor
      split at descriptor
      · exact endsAt_parseVP8Extension payload start descriptor
      · cases descriptor
        exact start
    split at rest
    · cases rest
    · rename_i some
      rcases bind_eq_some_iff.mp rest with ⟨sized, -, result⟩
      cases result
      rcases ends with ⟨sum, behind⟩
      have bound := length.toNat_lt
      refine ⟨behind, ?_⟩
      change cursor.dataPtr + (UInt16.ofNat cursor.dataLength.toNat).toNat = _
      rw [UInt16.toNat_ofNat']
      omega

end RTPPayloadParser

end ZyWebRtc.Rtp
