import ZyWebRtc.Stun.Integrity

namespace ZyWebRtc.Turn

/-! The nonces of a TURN server: the time at which they were issued and its HMAC, both in
hexadecimal digits. -/

open Stun

def HEX : Bytes := ascii "0123456789abcdef"

def hexDigit (value : UInt8) : UInt8 :=
  if value < 16 then HEX.getD value.toNat 0 else 33

def hexEncode : Bytes → Bytes
  | [] => []
  | byte :: rest => hexDigit ((byte >>> 4) &&& 0xF) :: hexDigit (byte &&& 0xF) :: hexEncode rest

/-- The value of a digit. All letters count, in both cases. -/
def hexValue (character : UInt8) : Option UInt8 :=
  if 48 ≤ character ∧ character ≤ 57 then some (character - 48)
  else if 65 ≤ character ∧ character ≤ 90 then some (character - 65 + 10)
  else if 97 ≤ character ∧ character ≤ 122 then some (character - 97 + 10)
  else none

/-- The bytes that are spelled by a text, where `hex_decode` does not return zero for it. -/
def hexDecode : Bytes → Option Bytes
  | [] => some []
  | [_] => none
  | high :: low :: rest => do
    let high ← hexValue high
    let low ← hexValue low
    let rest ← hexDecode rest
    pure (((high <<< 4) ||| low) :: rest)

example : hexDecode (ascii "0aFF") = some [0x0A, 0xFF] := by decide

def kNonceTimeout : Int := 60 * 60 * 1000
def kNonceSize : Nat := 40

/-- `Time()`: the milliseconds of the clock in 32 bits. -/
def time32 (now : Nat) : UInt32 := UInt32.ofNat now

def littleEndian (number : UInt32) : Bytes :=
  [number.toUInt8, (number >>> 8).toUInt8, (number >>> 16).toUInt8, (number >>> 24).toUInt8]

def fromLittleEndian : Bytes → UInt32
  | [first, second, third, fourth] =>
    (fourth.toUInt32 <<< 24) + (third.toUInt32 <<< 16) + (second.toUInt32 <<< 8) + first.toUInt32
  | _ => 0

def timeSince (now : Nat) (earlier : UInt32) : Int := (time32 now - earlier).toInt32.toInt

/-- `ComputeHmac` with MD5, before its hexadecimal encoding. -/
abbrev HmacMd5 := Bytes → Bytes → { digest : Bytes // digest.length = 16 }

variable (hmac : HmacMd5) (nonceKey : Bytes)

def generateNonce (now : Nat) : Bytes :=
  let input := littleEndian (time32 now)
  hexEncode input ++ hexEncode (hmac nonceKey input).val

def validateNonce (now : Nat) (nonce : Bytes) : Bool :=
  if nonce.length ≠ kNonceSize then false
  else
    match hexDecode (nonce.take 8) with
    | none => false
    | some input =>
      if input.length ≠ 4 then false
      else if nonce.drop 8 ≠ hexEncode (hmac nonceKey input).val then false
      else timeSince now (fromLittleEndian input) < kNonceTimeout

/-! ## Which nonces are valid -/

theorem hexDigit_decode (byte : UInt8) : ∃ high low,
    hexValue (hexDigit ((byte >>> 4) &&& 0xF)) = some high ∧
      hexValue (hexDigit (byte &&& 0xF)) = some low ∧ (high <<< 4) ||| low = byte := by
  have all : ∀ number : Fin 256, let byte := UInt8.ofNat number
      hexValue (hexDigit ((byte >>> 4) &&& 0xF)) = some ((byte >>> 4) &&& 0xF) ∧
        hexValue (hexDigit (byte &&& 0xF)) = some (byte &&& 0xF) ∧
          (((byte >>> 4) &&& 0xF) <<< 4) ||| (byte &&& 0xF) = byte := by decide +kernel
  have here := all ⟨byte.toNat, byte.toNat_lt⟩
  rw [UInt8.ofNat_toNat] at here
  exact ⟨_, _, here⟩

@[simp] theorem hexDecode_hexEncode (bytes : Bytes) : hexDecode (hexEncode bytes) = some bytes := by
  induction bytes with
  | nil => rfl
  | cons byte rest induction =>
    rcases hexDigit_decode byte with ⟨high, low, isHigh, isLow, joined⟩
    simp [hexEncode, hexDecode, isHigh, isLow, induction, joined]

@[simp] theorem hexEncode_length (bytes : Bytes) :
    (hexEncode bytes).length = 2 * bytes.length := by
  induction bytes with
  | nil => rfl
  | cons byte rest induction =>
    rw [hexEncode, List.length_cons, List.length_cons, List.length_cons, induction]
    omega

theorem fromLittleEndian_littleEndian (number : UInt32) :
    fromLittleEndian (littleEndian number) = number := by
  have low := Bytes.uint24_join number
  rw [UInt32.add_assoc] at low
  simp only [fromLittleEndian, littleEndian]
  rw [UInt32.add_assoc, UInt32.add_assoc, low, Bytes.uint32_join]

theorem timeSince_time32 {now time : Nat} (past : time ≤ now) (near : now - time < 2 ^ 31) :
    timeSince now (time32 time) = now - time := by
  have difference : time32 now - time32 time = UInt32.ofNat (now - time) := by
    rw [time32, time32, UInt32.ofNat_sub past]
  rw [timeSince, difference, UInt32.toInt32_ofNat', Int32.toInt_ofNat_of_lt near]
  omega

/-- The nonce is what this server generates at a time that is at most the time-out ago. -/
def IssuedRecently (now : Nat) (nonce : Bytes) : Prop :=
  ∃ time ≤ now, (now : Int) - time ≤ kNonceTimeout ∧ nonce = generateNonce hmac nonceKey time

/-- The nonce has the HMAC of the bytes that its first characters spell. -/
def Genuine (nonce : Bytes) : Prop :=
  ∃ input, hexDecode (nonce.take 8) = some input ∧
    nonce.drop 8 = hexEncode (hmac nonceKey input).val

/-- The nonce starts with the time stamp, in the server's spelling, of a time less than half of
the range of the clock ago. -/
def CurrentStamp (now : Nat) (nonce : Bytes) : Prop :=
  ∃ time ≤ now, now - time < 2 ^ 31 ∧ nonce.take 8 = hexEncode (littleEndian (time32 time))

variable {hmac nonceKey}

theorem genuine_of_validateNonce {now : Nat} {nonce : Bytes}
    (valid : validateNonce hmac nonceKey now nonce) : Genuine hmac nonceKey nonce := by
  unfold validateNonce at valid
  split at valid
  · cases valid
  split at valid
  · cases valid
  · rename_i input decoded
    split at valid
    · cases valid
    split at valid
    · cases valid
    · rename_i sameTail
      exact ⟨input, decoded, not_not.mp sameTail⟩

theorem generateNonce_stamp (now : Nat) :
    (generateNonce hmac nonceKey now).take 8 = hexEncode (littleEndian (time32 now)) := by
  have short : (hexEncode (littleEndian (time32 now))).length = 8 := hexEncode_length _
  rw [generateNonce, ← short, List.take_left]

theorem time32_eq_of_generateNonce_eq {first second : Nat}
    (same : generateNonce hmac nonceKey first = generateNonce hmac nonceKey second) :
    time32 first = time32 second := by
  have stamps := congrArg (fun nonce => (hexDecode (nonce.take 8)).map fromLittleEndian) same
  simpa [generateNonce_stamp, fromLittleEndian_littleEndian] using stamps

theorem issuedRecently_of_validateNonce {now : Nat} {nonce : Bytes}
    (valid : validateNonce hmac nonceKey now nonce) (current : CurrentStamp now nonce) :
    IssuedRecently hmac nonceKey now nonce := by
  rcases current with ⟨time, past, near, stamp⟩
  have decoded : hexDecode (nonce.take 8) = some (littleEndian (time32 time)) := by
    rw [stamp, hexDecode_hexEncode]
  simp only [validateNonce, decoded, fromLittleEndian_littleEndian, timeSince_time32 past near]
    at valid
  split at valid
  · cases valid
  split at valid
  · cases valid
  split at valid
  · cases valid
  · rename_i sameTail
    refine ⟨time, past, ?_, ?_⟩
    · exact (of_decide_eq_true valid).le
    · rw [generateNonce, ← stamp, ← not_not.mp sameTail, List.take_append_drop]

theorem timeSince_lt_kNonceTimeout {now time : Nat} (past : time ≤ now) :
    timeSince now (time32 time) < kNonceTimeout ↔
      (now - time) % 2 ^ 32 < 3600000 ∨ 2 ^ 31 ≤ (now - time) % 2 ^ 32 := by
  have difference : time32 now - time32 time = UInt32.ofNat (now - time) := by
    rw [time32, time32, UInt32.ofNat_sub past]
  rw [timeSince, difference, UInt32.toInt32_ofNat', Int32.toInt_ofNat', kNonceTimeout,
    Int.bmod_def, Int32.size]
  omega

/-- A nonce of this server is valid for one hour, and again while the clock of 32 bits takes its
time for a time to come. -/
theorem validateNonce_generateNonce_iff (hmac : HmacMd5) (nonceKey : Bytes) {now time : Nat}
    (past : time ≤ now) :
    validateNonce hmac nonceKey now (generateNonce hmac nonceKey time) ↔
      (now - time) % 2 ^ 32 < 3600000 ∨ 2 ^ 31 ≤ (now - time) % 2 ^ 32 := by
  have stamp := @generateNonce_stamp hmac nonceKey time
  have length : (generateNonce hmac nonceKey time).length = kNonceSize := by
    have digest := (hmac nonceKey (littleEndian (time32 time))).property
    rw [generateNonce, List.length_append, hexEncode_length, hexEncode_length, digest]
    rfl
  have tail : (generateNonce hmac nonceKey time).drop 8 =
      hexEncode (hmac nonceKey (littleEndian (time32 time))).val :=
    List.drop_left' (hexEncode_length _)
  rw [validateNonce, if_neg (not_not.mpr length), stamp, hexDecode_hexEncode]
  simp only [tail, ne_eq, not_true_eq_false, if_false, fromLittleEndian_littleEndian]
  have four : (littleEndian (time32 time)).length = 4 := rfl
  rw [if_neg (not_not.mpr four), decide_eq_true_iff]
  exact timeSince_lt_kNonceTimeout past

theorem validateNonce_afterHalfTheClock :
    validateNonce (fun _ _ => ⟨List.replicate 16 0, rfl⟩) [] (2 ^ 31 + 5)
        (generateNonce (fun _ _ => ⟨List.replicate 16 0, rfl⟩) [] 5) ↔
      (2 ^ 31 + 5 - 5) % 2 ^ 32 < 3600000 ∨ 2 ^ 31 ≤ (2 ^ 31 + 5 - 5) % 2 ^ 32 :=
  validateNonce_generateNonce_iff (fun _ _ => ⟨List.replicate 16 0, rfl⟩) [] (by decide)

end ZyWebRtc.Turn
