import ZyWebRtc.Foundation.ByteString

namespace ZyWebRtc.Srtp

/-! The key of crypto parameters: `inline:` followed by the master key and salt in strict
base64. -/

/-! ## Base64, in its strictest interpretation -/

/-- What a character stands for. -/
inductive DecodedChar
  | value (sextet : UInt8)
  | padding
  | whitespace
  | illegal
  deriving DecidableEq

def decodeTable (char : UInt8) : DecodedChar :=
  if 65 ≤ char ∧ char ≤ 90 then .value (char - 65)
  else if 97 ≤ char ∧ char ≤ 122 then .value (char - 71)
  else if 48 ≤ char ∧ char ≤ 57 then .value (char + 4)
  else if char = 43 then .value 62
  else if char = 47 then .value 63
  else if char = 61 then .padding
  else if (9 ≤ char ∧ char ≤ 13) ∨ char = 32 then .whitespace
  else .illegal

/-- Up to four characters that were decoded, whether padding completes them, and what follows
them. -/
structure Quantum where
  sextets : List UInt8
  padded : Bool
  rest : Bytes
  deriving DecidableEq

/-- Illegal padding is left for what follows. -/
def endQuantum (sextets : List UInt8) (padLength : Nat) (padStart rest : Bytes) : Quantum :=
  { sextets := sextets
    padded := sextets.length + padLength = 4
    rest := if sextets.length + padLength = 4 ∨ padLength = 0 then rest else padStart }

def getNextQuantum (sextets : List UInt8) (padLength : Nat) (padStart : Bytes) :
    Bytes → Quantum
  | [] => endQuantum sextets padLength padStart []
  | char :: rest =>
    if 4 ≤ sextets.length then endQuantum sextets padLength padStart (char :: rest)
    else
      match decodeTable char with
      | .value sextet =>
        if 0 < padLength then endQuantum sextets padLength padStart (char :: rest)
        else getNextQuantum (sextets ++ [sextet]) padLength padStart rest
      | .padding =>
        if sextets.length < 2 ∨ 4 ≤ sextets.length + padLength then
          endQuantum sextets padLength padStart (char :: rest)
        else
          getNextQuantum sextets (padLength + 1)
            (if padLength = 0 then char :: rest else padStart) rest
      | .whitespace => endQuantum sextets padLength padStart (char :: rest)
      | .illegal => endQuantum sextets padLength padStart (char :: rest)

def firstByte (first second : UInt8) : UInt8 := (first <<< 2) ||| ((second >>> 4) &&& 0x3)

def secondByte (second third : UInt8) : UInt8 :=
  ((second <<< 4) &&& (0xf0 : UInt8)) ||| ((third >>> 2) &&& 0xf)

def thirdByte (third fourth : UInt8) : UInt8 := ((third <<< 6) &&& (0xc0 : UInt8)) ||| fourth

/-- The bytes of a quantum, and the bits that are left over. The characters that it lacks count
as zero. -/
def quantumBytes : List UInt8 → Bytes × UInt8
  | [] => ([], firstByte 0 0)
  | [first] => ([], firstByte first 0)
  | [first, second] => ([firstByte first second], secondByte second 0)
  | [first, second, third] =>
    ([firstByte first second, secondByte second third], thirdByte third 0)
  | first :: second :: third :: fourth :: _ =>
    ([firstByte first second, secondByte second third, thirdByte third fourth], 0)

/-- The loop of `DecodeFromArray`, with `DO_STRICT`. Every quantum that does not end it takes
four characters, so their number is enough fuel. -/
def decodeFromArray : (fuel : Nat) → Bytes → Bytes → Option Bytes
  | _, [], result => some result
  | 0, _, _ => none
  | fuel + 1, data, result =>
    let quantum := getNextQuantum [] 0 [] data
    let decoded := quantumBytes quantum.sextets
    if quantum.sextets.length < 4 then
      if decoded.2 = 0 ∧ quantum.padded = true ∧ quantum.rest = [] then
        some (result ++ decoded.1)
      else none
    else decodeFromArray fuel quantum.rest (result ++ decoded.1)

def base64Decode (data : Bytes) : Option Bytes := decodeFromArray data.length data []

example : base64Decode [84, 87, 70, 61] = none := by decide

def SRTP_MASTER_KEY_LEN : Nat := 30

def inlineMethod : Bytes := [105, 110, 108, 105, 110, 101, 58]

def parseKeyParams (keyParams : Bytes) (length : Nat) : Option Bytes :=
  if keyParams.take inlineMethod.length = inlineMethod then
    match base64Decode (keyParams.drop inlineMethod.length) with
    | some key => if key.length = length then some key else none
    | none => none
  else none

theorem parseKeyParams_nil (length : Nat) : parseKeyParams [] length = none := by
  rw [parseKeyParams, if_neg (by decide)]

end ZyWebRtc.Srtp
