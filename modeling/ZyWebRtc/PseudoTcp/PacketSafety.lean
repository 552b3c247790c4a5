import ZyWebRtc.PseudoTcp.Reassembly

namespace ZyWebRtc.PseudoTcp

/-! What a packet can make `PseudoTcp` read and compute, whatever its bytes are. -/

open List UInt32

variable (env : Environment)

/-! ## Reads -/

section

variable (buffer : Nat → UInt8)

/-- A byte of the packet. There is none outside of it. -/
def readAt (len position : Nat) : Option UInt8 :=
  if position < len then some (buffer position) else none

def readLong (len offset : Nat) : Option UInt32 := do
  let first ← readAt buffer len offset
  let second ← readAt buffer len (offset + 1)
  let third ← readAt buffer len (offset + 2)
  let fourth ← readAt buffer len (offset + 3)
  return (first.toUInt32 <<< 24) + (second.toUInt32 <<< 16) + (third.toUInt32 <<< 8) +
    fourth.toUInt32

def readShort (len offset : Nat) : Option UInt16 := do
  let first ← readAt buffer len offset
  let second ← readAt buffer len (offset + 1)
  return (first.toUInt16 <<< 8) + second.toUInt16

/-- `parse` with checked reads. The data of the segment are not read here. -/
def readSegment (len : Nat) : Option Segment := do
  let conv ← readLong buffer len 0
  let seq ← readLong buffer len 4
  let ack ← readLong buffer len 8
  let flags ← readAt buffer len 13
  let wnd ← readShort buffer len 14
  let tsval ← readLong buffer len 16
  let tsecr ← readLong buffer len 20
  return {
    conv, seq, ack, flags, wnd, tsval, tsecr
    data := fun index => buffer (headerSize.toNat + index)
    len := UInt32.ofNat len - headerSize }

theorem readAt_inside {len position : Nat} (inside : position < len) :
    readAt buffer len position = some (buffer position) := if_pos inside

theorem readLong_inside {len offset : Nat} (inside : offset + 3 < len) :
    readLong buffer len offset = some (bytesToLong buffer offset) := by
  rw [readLong, readAt_inside buffer (by omega), readAt_inside buffer (by omega),
    readAt_inside buffer (by omega), readAt_inside buffer inside]
  rfl

theorem readShort_inside {len offset : Nat} (inside : offset + 1 < len) :
    readShort buffer len offset = some (bytesToShort buffer offset) := by
  rw [readShort, readAt_inside buffer (by omega), readAt_inside buffer inside]
  rfl

theorem readSegment_inside {len : Nat} (whole : 24 ≤ len) :
    readSegment buffer len = some (parseSegment buffer (UInt32.ofNat len)) := by
  rw [readSegment, readLong_inside buffer (by omega), readLong_inside buffer (by omega),
    readLong_inside buffer (by omega), readAt_inside buffer (by omega),
    readShort_inside buffer (by omega), readLong_inside buffer (by omega),
    readLong_inside buffer (by omega)]
  rfl

theorem le_of_readSegment {buffer : Nat → UInt8} {len : Nat} {seg : Segment}
    (read : readSegment buffer len = some seg) : 24 ≤ len := by
  by_contra short
  have last : readLong buffer len 20 = none := by
    have outside : readAt buffer len 23 = none := if_neg (by omega)
    simp [readLong, outside]
  simp [readSegment, last] at read

/-- The length of an option stays zero when the options end before it. -/
def readOptLen (len stop position : Nat) : Option UInt8 :=
  if position < stop then readAt buffer len position else some 0

def readScale (len content : Nat) (kind optLen swndScale : UInt8) :
    Option UInt8 :=
  if kind = tcpOptWndScale ∧ optLen = 1 then readAt buffer len content else some swndScale

/-- `parseOptions` with checked reads, of the bytes from `position` up to `stop`. Without fuel the
loop has not ended. -/
def readOptions (buffer : Nat → UInt8) (len stop : Nat) :
    (fuel position : Nat) → (specified : Bool) → (swndScale : UInt8) → Option (Option Bool × UInt8)
  | 0, _, _, _ => none
  | fuel + 1, position, specified, swndScale =>
    if position = stop then some (some specified, swndScale)
    else do
      let kind ← readAt buffer len position
      if kind = tcpOptEol then return (some specified, swndScale)
      else if kind = tcpOptNoop then
        readOptions buffer len stop fuel (position + 1) specified swndScale
      else
        let optLen ← readOptLen buffer len stop (position + 1)
        let content := min (position + 2) stop
        if optLen.toNat ≤ stop - content then
          let applied ← readScale buffer len content kind optLen swndScale
          readOptions buffer len stop fuel (content + optLen.toNat)
            (specified || kind == tcpOptWndScale) applied
        else return (none, swndScale)

def between (position stop : Nat) : Bytes :=
  dataBytes (fun index => buffer (position + index)) (stop - position)

@[simp] theorem length_between (position stop : Nat) :
    (between buffer position stop).length = stop - position := by
  rw [between, dataBytes, length_map, length_range]

theorem between_cons {position stop : Nat} (more : position < stop) :
    between buffer position stop = buffer position :: between buffer (position + 1) stop := by
  rw [between, dataBytes, show stop - position = stop - (position + 1) + 1 by omega,
    range_succ_eq_map, map_cons, List.map_map]
  refine congrArg₂ _ rfl (map_congr_left fun index _ => ?_)
  change buffer (position + (index + 1)) = buffer (position + 1 + index)
  congr 1
  omega

theorem between_self {position stop : Nat} (ended : stop ≤ position) :
    between buffer position stop = [] := by
  apply eq_nil_of_length_eq_zero
  rw [length_between]
  omega

theorem drop_between (position stop count : Nat) :
    (between buffer position stop).drop count = between buffer (position + count) stop := by
  apply ext_getElem
  · rw [length_drop, length_between, length_between]
    omega
  · intro index front back
    rw [getElem_drop]
    simp only [between, dataBytes, getElem_map, getElem_range]
    congr 1
    omega

theorem tail_between (position stop : Nat) :
    (between buffer position stop).tail = between buffer (min (position + 1) stop) stop := by
  rcases Nat.lt_or_ge position stop with more | ended
  · rw [between_cons buffer more, tail_cons, min_eq_left more]
  · rw [between_self buffer ended, between_self buffer (by omega), tail_nil]

theorem headD_between (position stop : Nat) :
    (between buffer position stop).headD 0 = if position < stop then buffer position else 0 := by
  split
  next more => rw [between_cons buffer more, headD_cons]
  next ended => rw [between_self buffer (not_lt.mp ended), headD_nil]

theorem readScale_eq {len stop content : Nat} (inside : stop ≤ len)
    {optLen : UInt8} (fits : optLen.toNat ≤ stop - content) (kind swndScale : UInt8) :
    readScale buffer len content kind optLen swndScale =
      some (applyOption kind ((between buffer content stop).take optLen.toNat) swndScale) := by
  have length : ((between buffer content stop).take optLen.toNat).length = optLen.toNat := by
    rw [length_take, length_between, min_eq_left fits]
  have one : optLen = 1 ↔ optLen.toNat = 1 := by
    rw [← UInt8.toNat_inj]
    rfl
  rw [applyOption, length, readScale]
  split
  next scale =>
    have single := one.mp scale.2
    rw [single] at fits ⊢
    rw [if_pos ⟨scale.1, rfl⟩, between_cons buffer (by omega), readAt_inside buffer (by omega)]
    rfl
  next other =>
    rw [if_neg fun scale => other ⟨scale.1, one.mpr scale.2⟩]

theorem readOptions_eq {len stop : Nat} (inside : stop ≤ len)
    (fuel : Nat) {position : Nat} (before : position ≤ stop) (enough : stop - position < fuel)
    {rounds : Nat} (enoughRounds : stop - position ≤ rounds) (specified : Bool)
    (swndScale : UInt8) :
    readOptions buffer len stop fuel position specified swndScale =
      some (parseOptionsLoop rounds (between buffer position stop) specified swndScale) := by
  induction fuel generalizing position rounds specified swndScale with
  | zero => exact absurd enough (Nat.not_lt_zero _)
  | succ fuel induction =>
    rw [readOptions]
    split
    next ended =>
      rw [between_self buffer ended.ge]
      cases rounds <;> rfl
    next more =>
      cases rounds with
      | zero => exact absurd enoughRounds (by omega)
      | succ rounds =>
        rw [readAt_inside buffer (by omega), between_cons buffer (by omega), parseOptionsLoop]
        change (if _ then _ else if _ then _ else _) = _
        split
        · rfl
        split
        · exact induction (by omega) (by omega) (by omega) specified swndScale
        · have optLenRead : readOptLen buffer len stop (position + 1) =
              some ((between buffer (position + 1) stop).headD 0) := by
            rw [headD_between, readOptLen]
            split
            · exact readAt_inside buffer (by omega)
            · rfl
          rw [optLenRead, tail_between]
          generalize (between buffer (position + 1) stop).headD 0 = optLen
          dsimp only [Option.bind_eq_bind, Option.bind_some]
          rw [length_between]
          split
          next fits =>
            rw [readScale_eq buffer inside fits, Option.bind_some, drop_between]
            exact induction (by omega) (by omega) (by omega) _ _
          next => rfl

end

/-- What becomes of a packet: it is turned away unread, or it is passed on as a segment whose
header and options were read inside of it and whose length is what is behind the header. -/
def ParsesSafely (tcp : PseudoTcp) (buffer : Nat → UInt8) (len : Nat) : Prop :=
  (len < 12 ∨ maxPacket.toNat < len) ∧ notifyPacket env buffer len tcp = (false, tcp) ∨
    ∃ seg, readSegment buffer len = some seg ∧
      notifyPacket env buffer len tcp = process env seg tcp ∧
      seg.len.toNat + headerSize.toNat = len ∧
      (seg.len ≠ 0 → ∀ specified swndScale, ∃ fuel,
        readOptions buffer len (headerSize.toNat + seg.len.toNat) fuel (headerSize.toNat + 1)
            specified swndScale =
          some (parseOptionsLoop (seg.len - 1).toNat
            (dataBytes (fun index => seg.data (index + 1)) (seg.len - 1).toNat)
            specified swndScale))

theorem parsesSafely_iff_length (tcp : PseudoTcp) (buffer : Nat → UInt8) (len : Nat) :
    ParsesSafely env tcp buffer len ↔ len < 12 ∨ headerSize.toNat ≤ len := by
  have maximum : maxPacket.toNat = 65535 := rfl
  have header : headerSize.toNat = 24 := rfl
  constructor
  · rintro (⟨short | long, _⟩ | ⟨seg, read, _⟩)
    · exact .inl short
    · exact .inr (by omega)
    · exact .inr (le_of_readSegment read)
  · rintro (short | whole)
    · refine .inl ⟨.inl short, ?_⟩
      have tiny : UInt32.ofNat len < 12 := by
        rw [lt_iff_toNat_lt, toNat_ofNat']
        change _ < 12
        omega
      rw [notifyPacket, if_neg (by omega), parse, if_pos tiny]
    · rcases Nat.lt_or_ge maxPacket.toNat len with long | fits
      · exact .inl ⟨.inr long, by rw [notifyPacket, if_pos long]⟩
      · have length : (UInt32.ofNat len).toNat = len := by
          rw [toNat_ofNat']
          omega
        have notTiny : ¬UInt32.ofNat len < 12 := by
          rw [lt_iff_toNat_lt, length]
          change ¬len < 12
          omega
        have dataLength : (UInt32.ofNat len - headerSize).toNat = len - 24 := by
          rw [UInt32.toNat_sub_of_le _ _ (by rw [le_iff_toNat_le, length]; exact whole),
            length, header]
        refine .inr ⟨_, readSegment_inside buffer whole, ?_, ?_, ?_⟩
        · rw [notifyPacket, if_neg (not_lt.mpr fits), parse, if_neg notTiny]
        · change (UInt32.ofNat len - headerSize).toNat + _ = _
          omega
        · rintro some_data specified swndScale
          change UInt32.ofNat len - headerSize ≠ 0 at some_data
          have positive : 0 < (UInt32.ofNat len - headerSize).toNat :=
            lt_iff_toNat_lt.mp (UInt32.pos_iff_ne_zero.mpr some_data)
          have fewer : (UInt32.ofNat len - headerSize - 1).toNat = len - 25 := by
            rw [UInt32.toNat_sub_of_le _ _ (by rw [le_iff_toNat_le]; exact positive),
              dataLength]
            rfl
          have options : dataBytes (fun index => buffer (24 + (index + 1))) (len - 25) =
              between buffer 25 (24 + (len - 24)) := by
            rw [between, show 24 + (len - 24) - 25 = len - 25 by omega]
            congr 1
            funext index
            rw [Nat.add_comm index 1, ← Nat.add_assoc]
          refine ⟨len, ?_⟩
          change readOptions buffer len (24 + (UInt32.ofNat len - headerSize).toNat) len 25 _ _ =
            some (parseOptionsLoop (UInt32.ofNat len - headerSize - 1).toNat
              (dataBytes (fun index => buffer (24 + (index + 1)))
                (UInt32.ofNat len - headerSize - 1).toNat) _ _)
          rw [dataLength, fewer, options]
          exact readOptions_eq buffer (by omega) len (by omega) (by omega) (by omega) _ _

/-! ## The scale of the peer's window -/

/-- Every window that the peer may announce can be scaled: the shift is by less than 32 bits, and
no bit is lost. -/
def ScaleSafe (swndScale : UInt8) : Prop :=
  ∀ window : UInt16, swndScale.toNat < 32 ∧ window.toNat * 2 ^ swndScale.toNat < 2 ^ 32

theorem scaleSafe_iff (swndScale : UInt8) : ScaleSafe swndScale ↔ swndScale.toNat ≤ 16 := by
  constructor
  · intro safe
    by_contra large
    have all := (safe 0xFFFF).2
    have power : 2 ^ 17 ≤ 2 ^ swndScale.toNat := Nat.pow_le_pow_right (by decide) (by omega)
    change 65535 * _ < _ at all
    omega
  · rintro small window
    have power : 2 ^ swndScale.toNat ≤ 2 ^ 16 := Nat.pow_le_pow_right (by decide) small
    have bound := window.toNat_lt
    refine ⟨by omega, ?_⟩
    calc window.toNat * 2 ^ swndScale.toNat
        ≤ window.toNat * 2 ^ 16 := Nat.mul_le_mul_left _ power
      _ < 2 ^ 32 := by omega

/-- The options announce a scale or none. What is announced does not depend on the scale before,
and nothing is announced when no option was a window scale. -/
theorem exists_announced (fuel : Nat) (data : Bytes) :
    ∃ announced : Option UInt8, (∀ specified swndScale,
        (parseOptionsLoop fuel data specified swndScale).2 = announced.getD swndScale) ∧
      (∀ specified swndScale, (parseOptionsLoop fuel data specified swndScale).1 = some false →
          specified = false ∧ announced = none) := by
  induction fuel generalizing data with
  | zero => exact ⟨none, fun _ _ => rfl, fun _ _ same => ⟨Option.some.inj same, rfl⟩⟩
  | succ fuel induction =>
    cases data with
    | nil => exact ⟨none, fun _ _ => rfl, fun _ _ same => ⟨Option.some.inj same, rfl⟩⟩
    | cons kind rest =>
      simp only [parseOptionsLoop]
      split
      · exact ⟨none, fun _ _ => rfl, fun _ _ same => ⟨Option.some.inj same, rfl⟩⟩
      split
      · exact induction rest
      split
      · rcases induction (rest.tail.drop (rest.headD 0).toNat) with ⟨later, scale, unspecified⟩
        by_cases applied : kind = tcpOptWndScale ∧ (rest.tail.take (rest.headD 0).toNat).length = 1
        · refine ⟨some (later.getD ((rest.tail.take (rest.headD 0).toNat).headD 0)), ?_, ?_⟩
          · intro specified swndScale
            rw [scale, applyOption, if_pos applied]
            rfl
          · intro specified swndScale same
            have wrong := (unspecified _ _ same).1
            rw [applied.1, beq_self_eq_true, Bool.or_true] at wrong
            exact absurd wrong.symm Bool.false_ne_true
        · refine ⟨later, ?_, ?_⟩
          · intro specified swndScale
            rw [scale, applyOption, if_neg applied]
          · intro specified swndScale same
            rcases unspecified _ _ same with ⟨neither, nothing⟩
            exact ⟨(Bool.or_eq_false_iff.mp neither).1, nothing⟩
      · exact ⟨none, fun _ _ => rfl, fun _ _ wrong => absurd wrong nofun⟩

/-- The scale that options announce, and 0 when they announce none. -/
def announcedScale (data : Bytes) : UInt8 := (parseOptionsLoop data.length data false 0).2

variable {tcp : PseudoTcp}

theorem scaleSafe_parseOptions (data : Bytes) (safe : ScaleSafe tcp.swndScale) :
    ScaleSafe (parseOptions data tcp).swndScale ↔ (announcedScale data).toNat ≤ 16 := by
  rcases exists_announced data.length data with ⟨announced, scale, unspecified⟩
  have zeroSafe : ScaleSafe 0 := (scaleSafe_iff 0).mpr (by decide)
  rw [announcedScale, scale]
  have before := scale false tcp.swndScale
  have nothing := unspecified false tcp.swndScale
  unfold parseOptions
  revert before nothing
  generalize parseOptionsLoop data.length data false tcp.swndScale = outcome
  rcases outcome with ⟨specified, swndScale⟩
  intro before nothing
  dsimp only at before nothing
  split
  next same =>
    rcases Prod.mk.inj same with ⟨rfl, rfl⟩
    have none_announced := (nothing rfl).2
    rw [none_announced] at before ⊢
    refine iff_of_true ?_ (Nat.zero_le _)
    split
    · exact zeroSafe
    · rw [before]
      exact safe
  next other =>
    rcases Prod.mk.inj other with ⟨rfl, rfl⟩
    change ScaleSafe swndScale ↔ _
    rw [before]
    cases announced with
    | none => exact iff_of_true safe (Nat.zero_le _)
    | some value => exact scaleSafe_iff value

/-! ## Calls -/

theorem processAck_swndScale (now : UInt32) (seg : Segment) (tcp : PseudoTcp) :
    (processAck env now seg tcp).2.swndScale = tcp.swndScale := by
  have measured : (advanceUna now seg (updateRoundTrip now seg tcp)).swndScale = tcp.swndScale := by
    change (updateRoundTrip now seg tcp).swndScale = _
    unfold updateRoundTrip
    split <;> rfl
  unfold processAck
  split
  · have resent := (transmit_connection env 0 now
      (advanceUna now seg (updateRoundTrip now seg tcp))).swndScale
    unfold valuableAck
    dsimp only
    split
    · split
      · exact measured
      · split
        all_goals
          next equal =>
            rw [equal] at resent
            exact resent.trans measured
    · exact measured
  · split
    · unfold duplicateAck
      dsimp only
      split
      · rfl
      · split
        · have resent := (transmit_connection env 0 now { tcp with
            sndWnd := seg.wnd.toUInt32 <<< tcp.swndScale.toUInt32
            dupAcks := tcp.dupAcks + 1 }).swndScale
          split
          · split
            all_goals
              next equal =>
                rw [equal] at resent
                exact resent
          · split <;> rfl
        · rfl
    · rfl

theorem processData_swndScale (seg : Segment) (tcp : PseudoTcp) :
    (processData env seg tcp).swndScale = tcp.swndScale := by
  unfold processData
  dsimp only
  generalize takeData _ _ tcp.toIncoming = outcome
  rcases outcome with ⟨taken, incoming⟩
  dsimp only
  generalize (if taken = .inOrder true then SendFlags.immediateAck else ackFlags seg tcp) = sflags
  have sent := (attemptSend_connection env sflags { tcp with toIncoming := incoming }).swndScale
  generalize attemptSend env sflags { tcp with toIncoming := incoming } = after at sent
  split
  · unfold notifyReadable
    split <;> exact sent
  · exact sent

theorem confirm_swndScale (bConnect : Bool) (tcp : PseudoTcp) :
    (notifyWriteable (confirmConnect bConnect tcp)).swndScale = tcp.swndScale := by
  unfold notifyWriteable confirmConnect
  dsimp only
  split <;> split <;> rfl

theorem process_swndScale {seg : Segment} (conv : seg.conv = tcp.conv)
    (stillOpen : tcp.state ≠ .closed) (notReset : seg.flags &&& flagRst = 0) :
    (process env seg tcp).2.swndScale = (processControl seg (noteTraffic env tcp)).2.swndScale := by
  rw [process, if_neg (not_not.mpr conv)]
  dsimp only
  rw [if_neg (show (noteTraffic env tcp).state ≠ .closed from stillOpen),
    if_neg (not_not.mpr notReset)]
  generalize processControl seg (noteTraffic env tcp) = outcome
  rcases outcome with ⟨_ | bConnect, control⟩
  · rfl
  · have acked : (processAck env (tcp.now env) seg (updateTimestamp seg control)).2.swndScale =
        control.swndScale := by
      rw [processAck_swndScale]
      unfold updateTimestamp
      split <;> rfl
    revert acked
    dsimp only
    generalize processAck env (tcp.now env) seg (updateTimestamp seg control) = outcome
    rcases outcome with ⟨_ | _, after⟩
    · exact id
    · intro acked
      dsimp only at acked ⊢
      rw [processData_swndScale, confirm_swndScale, acked]

def optionsOf (seg : Segment) : Bytes :=
  dataBytes (fun index => seg.data (index + 1)) (seg.len - 1).toNat

/-- A segment is taken for a connect message, and its options are parsed. -/
structure Connects (seg : Segment) (tcp : PseudoTcp) : Prop where
  conv : seg.conv = tcp.conv
  stillOpen : tcp.state ≠ .closed
  notReset : seg.flags &&& flagRst = 0
  control : seg.flags &&& flagCtl ≠ 0
  some_data : seg.len ≠ 0
  code : seg.data 0 = ctlConnect

theorem scaleSafe_process_iff (seg : Segment) (safe : ScaleSafe tcp.swndScale) :
    ScaleSafe (process env seg tcp).2.swndScale ↔
      (Connects seg tcp → (announcedScale (optionsOf seg)).toNat ≤ 16) := by
  by_cases conv : seg.conv = tcp.conv
  · by_cases stillOpen : tcp.state = .closed
    · rw [process, if_neg (not_not.mpr conv)]
      dsimp only
      rw [if_pos (show (noteTraffic env tcp).state = .closed from stillOpen)]
      exact iff_of_true safe fun wrong => absurd stillOpen wrong.stillOpen
    by_cases notReset : seg.flags &&& flagRst = 0
    · rw [process_swndScale env conv stillOpen notReset]
      by_cases options : seg.flags &&& flagCtl ≠ 0 ∧ seg.len ≠ 0 ∧ seg.data 0 = ctlConnect
      · rcases options with ⟨control, some_data, code⟩
        have parsed : (processControl seg (noteTraffic env tcp)).2.swndScale =
            (parseOptions (optionsOf seg) (noteTraffic env tcp)).swndScale := by
          rw [processControl, if_neg control, if_neg some_data, if_pos code]
          dsimp only [optionsOf]
          split <;> rfl
        rw [parsed, scaleSafe_parseOptions (optionsOf seg) (show ScaleSafe
          (noteTraffic env tcp).swndScale from safe)]
        exact ⟨fun small _ => small,
          fun small => small ⟨conv, stillOpen, notReset, control, some_data, code⟩⟩
      · have unchanged : (processControl seg (noteTraffic env tcp)).2.swndScale =
            tcp.swndScale := by
          unfold processControl
          split
          · rfl
          next control =>
            split
            · rfl
            next some_data =>
              rw [if_neg fun code => options ⟨control, some_data, code⟩]
              rfl
        rw [unchanged]
        exact iff_of_true safe
          fun wrong => absurd ⟨wrong.control, wrong.some_data, wrong.code⟩ options
    · rw [process, if_neg (not_not.mpr conv)]
      dsimp only
      rw [if_neg (show (noteTraffic env tcp).state ≠ .closed from stillOpen), if_pos notReset]
      exact iff_of_true safe fun wrong => absurd wrong.notReset notReset
  · rw [process, if_pos conv]
    exact iff_of_true safe fun wrong => absurd wrong.conv conv

/-- A call parses its packet safely, and every later window of the peer can be scaled. -/
def InputSafe (tcp : PseudoTcp) (operation : Operation) : Prop :=
  (∀ buffer len, operation = .notifyPacket buffer len → ParsesSafely env tcp buffer len) ∧
    ScaleSafe (step env tcp operation).swndScale

/-- No packet ends inside its header, and no connect message announces a scale above 16. -/
def WellFormedPacket (tcp : PseudoTcp) : Operation → Prop
  | .notifyPacket buffer len =>
    (len < 12 ∨ headerSize.toNat ≤ len) ∧ (headerSize.toNat ≤ len ∧ len ≤ maxPacket.toNat →
        Connects (parseSegment buffer (UInt32.ofNat len)) tcp →
          (announcedScale (optionsOf (parseSegment buffer (UInt32.ofNat len)))).toNat ≤ 16)
  | _ => True

theorem notifyPacket_inputSafe_iff {buffer : Nat → UInt8} {len : Nat}
    (safe : ScaleSafe tcp.swndScale) :
    InputSafe env tcp (.notifyPacket buffer len) ↔
      WellFormedPacket tcp (.notifyPacket buffer len) := by
  have maximum : maxPacket.toNat = 65535 := rfl
  have parses : (∀ buffer' len', Operation.notifyPacket buffer len =
      Operation.notifyPacket buffer' len' → ParsesSafely env tcp buffer' len') ↔
        len < 12 ∨ headerSize.toNat ≤ len := by
    rw [← parsesSafely_iff_length env tcp buffer len]
    constructor
    · exact fun all => all buffer len rfl
    · rintro parsed buffer' len' same
      rcases Operation.notifyPacket.inj same with ⟨rfl, rfl⟩
      exact parsed
  rw [InputSafe, WellFormedPacket, parses]
  apply and_congr_right
  rintro lengths
  change ScaleSafe (notifyPacket env buffer len tcp).2.swndScale ↔ _
  rw [notifyPacket]
  split
  next long => exact iff_of_true safe fun inside => absurd inside.2 (not_le.mpr long)
  next fits =>
    have length : (UInt32.ofNat len).toNat = len := by
      rw [toNat_ofNat']
      omega
    rw [parse]
    split
    next tiny =>
      have order := lt_iff_toNat_lt.mp tiny
      rw [length] at order
      change len < 12 at order
      change _ ↔ (24 ≤ len ∧ _ → _)
      exact iff_of_true safe fun inside => absurd inside.1 (by omega)
    next enough =>
      rw [UInt32.not_lt, le_iff_toNat_le, length] at enough
      change 12 ≤ len at enough
      rw [scaleSafe_process_iff env _ safe]
      have whole := lengths.resolve_left (not_lt.mpr enough)
      exact ⟨fun small _ => small, fun small => small ⟨whole, not_lt.mp fits⟩⟩

theorem step_swndScale {operation : Operation}
    (other : ∀ buffer len, operation ≠ .notifyPacket buffer len) :
    (step env tcp operation).swndScale = tcp.swndScale := by
  cases operation with
  | connect =>
    change (connect env tcp).2.swndScale = _
    unfold connect
    split
    · rfl
    · exact (attemptSend_connection env .none _).swndScale
  | notifyMTU mtu =>
    change (notifyMTU mtu tcp).swndScale = _
    unfold notifyMTU
    dsimp only
    split <;> rfl
  | setNoDelay value => rfl
  | setAckDelay value => rfl
  | close force => rfl
  | recv len =>
    change (recv env len tcp).2.swndScale = _
    unfold recv
    split
    · rfl
    · split
      · rfl
      · dsimp only
        split
        · dsimp only
          split
          · exact (attemptSend_connection env .immediateAck _).swndScale
          · rfl
        · rfl
  | send buffer =>
    change (send env buffer tcp).2.swndScale = _
    unfold send
    split
    · rfl
    · split
      · rfl
      · exact (attemptSend_connection env .none _).swndScale
  | notifyClock now =>
    have resent : (retransmit env now tcp).2.swndScale = tcp.swndScale := by
      have sent := (transmit_connection env 0 now tcp).swndScale
      unfold retransmit
      split
      · split
        all_goals
          next equal =>
            rw [equal] at sent
            exact sent
      · rfl
    change (notifyClock env now tcp).swndScale = _
    unfold notifyClock
    split
    · rfl
    · revert resent
      generalize retransmit env now tcp = outcome
      rcases outcome with ⟨_ | _, after⟩
      · exact id
      · intro resent
        have probed : (probeWindow env now after).2.swndScale = after.swndScale := by
          unfold probeWindow
          split
          · split
            · rfl
            · exact (packet_sameStream env (after.sndNxt - 1) 0 0 0 after).swndScale
          · rfl
        dsimp only at resent ⊢
        revert probed
        generalize probeWindow env now after = outcome
        rcases outcome with ⟨_ | _, last⟩
        · exact fun probed => probed.trans resent
        · intro probed
          dsimp only at probed ⊢
          unfold sendDelayedAck
          split
          · exact (packet_sameStream env _ _ _ _ _).swndScale.trans (probed.trans resent)
          · exact probed.trans resent
  | notifyPacket buffer len => exact absurd rfl (other buffer len)

theorem inputSafe_iff (tcp : PseudoTcp) (operation : Operation) (safe : ScaleSafe tcp.swndScale) :
    InputSafe env tcp operation ↔ WellFormedPacket tcp operation := by
  by_cases packet : ∃ buffer len, operation = .notifyPacket buffer len
  · rcases packet with ⟨buffer, len, rfl⟩
    exact notifyPacket_inputSafe_iff env safe
  · have other : ∀ buffer len, operation ≠ .notifyPacket buffer len :=
      fun buffer len same => packet ⟨buffer, len, same⟩
    have wellFormed : WellFormedPacket tcp operation := by
      unfold WellFormedPacket
      split
      next buffer len => exact absurd rfl (other buffer len)
      next => trivial
    refine iff_of_true ⟨fun buffer len same => absurd same (other buffer len), ?_⟩ wellFormed
    rw [step_swndScale env other]
    exact safe

/-- In a run, every packet is parsed safely and every announced window can be scaled exactly when
no packet ends inside its header and no connect message announces a scale above 16. -/
theorem inputSafe_iff_wellFormedPacket (conv now : UInt32) (memory : Nat → UInt8)
    (operations : List Operation) :
    Run.Allowed (step env) (InputSafe env) (create conv now memory) operations ↔
      Run.Allowed (step env) WellFormedPacket (create conv now memory) operations :=
  @Run.allowed_iff_of_invariant _ _ (step env) (fun _ _ => True) (InputSafe env) WellFormedPacket
    (fun tcp => ScaleSafe tcp.swndScale)
    (fun tcp operation safe _ => inputSafe_iff env tcp operation safe)
    (fun _ _ _ _ safe => safe.2) _ operations ((scaleSafe_iff 0).mpr (by decide))
    (Run.allowed_true (step env) _ operations)

/-- Of a packet of 12 bytes, the rest of the header is read from behind it, and its data would be
longer than four gigabytes. A connect message may ask for shifts by 255 bits. -/
theorem not_inputSafe_shortPacket :
    ¬Run.Allowed (step stillWorld) (InputSafe stillWorld) (create 0 0 fun _ => 0)
        [deliver (List.replicate 12 0)] ∧
      (parseSegment (asMemory (List.replicate 12 0)) 12).len = 4294967284 ∧
      ¬Run.Allowed (step stillWorld) (InputSafe stillWorld) (create 0 0 fun _ => 0)
        [deliver (headerBytes 0 0 flagCtl ++ [ctlConnect, tcpOptWndScale, 1, 255])] := by
  refine ⟨?_, by decide, ?_⟩
  · rintro ⟨⟨parses, _⟩, _⟩
    have lengths := (parsesSafely_iff_length stillWorld _ _ _).mp (parses _ _ rfl)
    exact absurd lengths (by decide)
  · rintro ⟨⟨_, safe⟩, _⟩
    rw [scaleSafe_iff] at safe
    exact absurd safe (by decide +kernel)

end ZyWebRtc.PseudoTcp
