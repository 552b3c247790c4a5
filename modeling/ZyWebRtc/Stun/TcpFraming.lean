import ZyWebRtc.Stun.RoundTrip
import ZyWebRtc.Stun.TcpSocket

namespace ZyWebRtc.Stun

/-! The messages that `AsyncStunTCPSocket` sends and signals: on the way they are followed by
their padding, and every cut of the stream into received chunks gives them back. -/

open List Option Bytes

/-- The message is as long as its header says. -/
def Complete (message : Bytes) : Prop :=
  ∃ padBytes, getExpectedLength message = some (message.length, padBytes)

def framed (message : Bytes) : Bytes :=
  message ++ List.replicate (((getExpectedLength message).map Prod.snd).getD 0) 0

/-- The bytes are not yet a message with its padding. -/
def Unfinished (data : Bytes) : Prop :=
  data.length < 4 ∨ ∃ expectedPktLen padBytes,
    getExpectedLength data = some (expectedPktLen, padBytes) ∧
      data.length < expectedPktLen + padBytes

theorem expectedLength_bounds (msgType pktLen : UInt16) :
    4 ≤ (expectedLength msgType pktLen).1 ∧ (expectedLength msgType pktLen).2 < 4 ∧
      (expectedLength msgType pktLen).1 + (expectedLength msgType pktLen).2 < kTcpBufSize := by
  have bound := pktLen.toNat_lt
  simp only [expectedLength, kStunHeaderSize, kTurnChannelDataHdrSize, kTcpBufSize,
    kTcpMaxPacketSize]
  split
  · simp only
    omega
  · by_cases aligned : (4 + pktLen.toNat) % 4 = 0
    · simp only [aligned, if_true]
      omega
    · simp only [aligned, if_false]
      omega

theorem getExpectedLength_bounds {data : Bytes} {expectedPktLen padBytes : Nat}
    (expected : getExpectedLength data = some (expectedPktLen, padBytes)) :
    4 ≤ expectedPktLen ∧ padBytes < 4 ∧ expectedPktLen + padBytes < kTcpBufSize := by
  simp only [getExpectedLength, bind_eq_bind, bind_eq_some_iff, Option.pure_def,
    Option.some.injEq] at expected
  rcases expected with ⟨pktLen, -, msgType, -, same⟩
  have bounds := expectedLength_bounds msgType pktLen
  rw [same] at bounds
  exact bounds

theorem exists_getExpectedLength {data : Bytes} (header : 4 ≤ data.length) :
    ∃ expectedPktLen padBytes, getExpectedLength data = some (expectedPktLen, padBytes) := by
  have lengthInside : 2 + 2 ≤ data.length := header
  have typeInside : 0 + 2 ≤ data.length := by omega
  rcases Bytes.exists_uint16At lengthInside with ⟨pktLen, lengthAt⟩
  rcases Bytes.exists_uint16At typeInside with ⟨msgType, typeAt⟩
  exact ⟨_, _, by
    rw [getExpectedLength, lengthAt, typeAt]
    rfl⟩

theorem getExpectedLength_append {data : Bytes} (header : 4 ≤ data.length) (rest : Bytes) :
    getExpectedLength (data ++ rest) = getExpectedLength data := by
  have byte {offset : Nat} (inside : offset < 4) :
      (data ++ rest).byteAt offset = data.byteAt offset :=
    List.getElem?_append_left (by omega)
  simp only [getExpectedLength, Bytes.uint16At]
  rw [byte (by omega), byte (by omega), byte (by omega), byte (by omega)]

namespace Complete

variable {message : Bytes}

theorem header (complete : Complete message) : 4 ≤ message.length := by
  rcases complete with ⟨padBytes, expected⟩
  exact (getExpectedLength_bounds expected).1

theorem framed_length (complete : Complete message) :
    ∃ padBytes, getExpectedLength message = some (message.length, padBytes) ∧
      framed message = message ++ List.replicate padBytes 0 ∧
      (framed message).length = message.length + padBytes := by
  rcases complete with ⟨padBytes, expected⟩
  have same : framed message = message ++ List.replicate padBytes 0 := by
    rw [framed, expected]
    rfl
  refine ⟨padBytes, expected, same, ?_⟩
  rw [same, length_append, length_replicate]

end Complete

/-! ## Received bytes -/

theorem processInput_unfinished {data : Bytes} (unfinished : Unfinished data)
    (iterations : Nat) : processInput (iterations + 1) data = some ([], data) := by
  rw [processInput]
  split
  · rfl
  · next header =>
      rcases unfinished with short | ⟨expectedPktLen, padBytes, expected, fewer⟩
      · exact absurd short header
      · rw [expected]
        simp [fewer]

theorem processInput_framed {message : Bytes} (complete : Complete message) (rest : Bytes)
    (iterations : Nat) :
    processInput (iterations + 1) (framed message ++ rest) =
      (processInput iterations rest).map fun result => (message :: result.1, result.2) := by
  rcases complete.framed_length with ⟨padBytes, expected, same, total⟩
  have header := complete.header
  have long : ¬ (framed message ++ rest).length < 4 := by
    rw [length_append]
    omega
  have expectedHere : getExpectedLength (framed message ++ rest) =
      some (message.length, padBytes) := by
    rw [same, append_assoc, getExpectedLength_append header, expected]
  have enough : ¬ (framed message ++ rest).length < message.length + padBytes := by
    rw [length_append]
    omega
  have first : (framed message ++ rest).take message.length = message := by
    rw [same, append_assoc]
    exact take_left
  have others : (framed message ++ rest).drop (message.length + padBytes) = rest := by
    rw [← total]
    exact drop_left
  rw [processInput, if_neg long, expectedHere]
  simp only [bind_eq_bind, bind_some, enough, if_false, first, others]
  cases processInput iterations rest <;> rfl

theorem exists_processInput {iterations : Nat} :
    ∀ {data : Bytes}, data.length < iterations → ∃ packets rest,
      processInput iterations data = some (packets, rest) ∧ Unfinished rest := by
  induction iterations with
  | zero => exact fun none => absurd none (Nat.not_lt_zero _)
  | succ iterations induction =>
    intro data enough
    rw [processInput]
    by_cases short : data.length < 4
    · exact ⟨[], data, if_pos short, .inl short⟩
    rw [if_neg short]
    rcases exists_getExpectedLength (not_lt.mp short) with ⟨expectedPktLen, padBytes, expected⟩
    have bounds := getExpectedLength_bounds expected
    by_cases fewer : data.length < expectedPktLen + padBytes
    · refine ⟨[], data, ?_, .inr ⟨expectedPktLen, padBytes, expected, fewer⟩⟩
      simp [expected, fewer]
    · have less : (data.drop (expectedPktLen + padBytes)).length < iterations := by
        rw [length_drop]
        omega
      rcases induction less with ⟨packets, rest, result, unfinished⟩
      refine ⟨data.take expectedPktLen :: packets, rest, ?_, unfinished⟩
      simp [expected, fewer, result]

/-- Of a stream of messages, the loop signals those that have arrived as a whole. -/
theorem processInput_stream {messages : List Bytes} :
    ∀ {iterations : Nat} {data later : Bytes}, (∀ message ∈ messages, Complete message) →
      data ++ later = messages.flatMap framed → data.length < iterations →
      ∃ arrived waiting rest, messages = arrived ++ waiting ∧
        processInput iterations data = some (arrived, rest) ∧
        rest ++ later = waiting.flatMap framed ∧ Unfinished rest := by
  induction messages with
  | nil =>
    intro iterations data later _ stream enough
    have empty := append_eq_nil_iff.mp stream
    obtain ⟨fewer, same⟩ : ∃ fewer, iterations = fewer + 1 := ⟨iterations - 1, by omega⟩
    have unfinished : Unfinished data := .inl (by rw [empty.1]; exact Nat.zero_lt_succ _)
    refine ⟨[], [], data, rfl, ?_, stream, unfinished⟩
    rw [same, processInput_unfinished unfinished]
  | cons message others induction =>
    intro iterations data later complete stream enough
    obtain ⟨fewer, same⟩ : ∃ fewer, iterations = fewer + 1 := ⟨iterations - 1, by omega⟩
    rw [flatMap_cons] at stream
    have completeFirst := complete message mem_cons_self
    rcases completeFirst.framed_length with ⟨padBytes, expected, padded, total⟩
    by_cases arrived : (framed message).length ≤ data.length
    · have inFront : framed message <+: data :=
        prefix_of_prefix_length_le ⟨_, stream.symm⟩ (prefix_append data later) arrived
      rcases inFront with ⟨after, dataEq⟩
      have afterStream : after ++ later = others.flatMap framed := by
        rw [← dataEq, append_assoc] at stream
        exact append_cancel_left stream
      have enoughAfter : after.length < fewer := by
        have lengths := congrArg List.length dataEq
        have header := completeFirst.header
        rw [length_append] at lengths
        omega
      rcases induction (fun other member => complete other (mem_cons_of_mem _ member))
        afterStream enoughAfter with ⟨arrivedAfter, waiting, rest, split, result, restEq,
          unfinished⟩
      refine ⟨message :: arrivedAfter, waiting, rest, by rw [split]; rfl, ?_, restEq, unfinished⟩
      rw [same, ← dataEq, processInput_framed completeFirst, result]
      rfl
    · have unfinished : Unfinished data := by
        by_cases short : data.length < 4
        · exact .inl short
        · refine .inr ⟨message.length, padBytes, ?_, by omega⟩
          rw [← getExpectedLength_append (not_lt.mp short) later, stream, padded,
            append_assoc, getExpectedLength_append completeFirst.header, expected]
      refine ⟨[], message :: others, data, rfl, ?_, stream, unfinished⟩
      rw [same, processInput_unfinished unfinished]

/-! ## Runs of a connection -/

theorem Unfinished.length_lt {data : Bytes} (unfinished : Unfinished data) :
    data.length < kTcpBufSize := by
  rcases unfinished with short | ⟨expectedPktLen, padBytes, expected, fewer⟩
  · exact lt_trans short (by decide)
  · exact lt_trans fewer (getExpectedLength_bounds expected).2.2

theorem not_unfinished_framed {message : Bytes} (complete : Complete message) (rest : Bytes) :
    ¬ Unfinished (framed message ++ rest) := by
  rcases complete.framed_length with ⟨padBytes, expected, same, total⟩
  have header := complete.header
  rintro (short | ⟨expectedPktLen, padBytesHere, expectedHere, fewer⟩)
  · rw [length_append] at short
    omega
  · rw [same, append_assoc, getExpectedLength_append header, expected] at expectedHere
    cases expectedHere
    rw [length_append] at fewer
    omega

theorem flushOutBuffer_append (room : SocketRoom) (outBuffer : Bytes) :
    (flushOutBuffer room outBuffer).2.1 ++ (flushOutBuffer room outBuffer).2.2 = outBuffer := by
  cases room with
  | none => rfl
  | some room => exact take_append_drop room outBuffer

theorem flushOutBuffer_nothing {room : SocketRoom} {outBuffer : Bytes}
    (status : (flushOutBuffer room outBuffer).1 ≤ 0) :
    (flushOutBuffer room outBuffer).2.1 = [] := by
  cases room with
  | none => rfl
  | some room =>
    change min (room : Int) outBuffer.length ≤ 0 at status
    change outBuffer.take room = []
    apply eq_nil_of_length_eq_zero
    rw [length_take]
    omega

/-- `Send` takes a complete message as a whole, with its padding, or leaves the stream as it
is. -/
theorem send_cases (packet : Bytes) (room : SocketRoom) (outBuffer : Bytes) :
    ∃ status bytes outBufferAfter,
      send packet room outBuffer = some (status, bytes, outBufferAfter) ∧
      ((outBuffer = [] ∧ status = packet.length ∧ Complete packet ∧
          bytes ++ outBufferAfter = framed packet) ∨
        (¬ (outBuffer = [] ∧ status = packet.length) ∧ bytes = [] ∧
          outBufferAfter = outBuffer)) := by
  rw [send]
  by_cases size : kTcpBufSize < packet.length ∨ packet.length < 4
  · exact ⟨-1, [], outBuffer, if_pos size, .inr ⟨fun taken => by omega, rfl, rfl⟩⟩
  rw [if_neg size]
  by_cases blocked : outBuffer ≠ []
  · exact ⟨packet.length, [], outBuffer, if_pos blocked,
      .inr ⟨fun taken => blocked taken.1, rfl, rfl⟩⟩
  rw [if_neg blocked, not_not.mp blocked]
  have header : 4 ≤ packet.length := by omega
  rcases exists_getExpectedLength header with ⟨expectedPktLen, padBytes, expected⟩
  have bounds := getExpectedLength_bounds expected
  rw [expected]
  by_cases whole : packet.length ≠ expectedPktLen
  · refine ⟨-1, [], [], ?_, .inr ⟨fun taken => by omega, rfl, rfl⟩⟩
    simp [whole]
  · have complete : Complete packet := ⟨padBytes, by rw [expected, not_not.mp whole]⟩
    have padded : framed packet = packet ++ List.replicate padBytes 0 := by
      rw [framed, expected]
      rfl
    have room₁ : packet.length < kTcpBufSize := by omega
    have room₂ : packet.length + padBytes < kTcpBufSize := by omega
    have appended := flushOutBuffer_append room (framed packet)
    simp only [bind_eq_bind, bind_some, whole, if_false, appendToOutBuffer,
      length_nil, Nat.zero_add, nil_append, room₁, if_true, length_replicate,
      room₂, ← padded]
    by_cases status : (flushOutBuffer room (framed packet)).1 ≤ 0
    · rw [if_pos status]
      refine ⟨_, _, _, rfl, .inr ⟨fun taken => ?_, flushOutBuffer_nothing status, rfl⟩⟩
      omega
    · rw [if_neg status]
      exact ⟨_, _, _, rfl, .inl ⟨trivial, rfl, complete, appended⟩⟩

namespace TcpConnection

/-- The messages that are not signalled yet are those whose bytes are on the way. -/
structure Carries (connection : TcpConnection) : Prop where
  complete : ∀ message ∈ connection.sent, Complete message
  stream : ∃ waiting, connection.sent = connection.signalled ++ waiting ∧
    connection.inBuffer ++ (connection.inFlight ++ connection.outBuffer) = waiting.flatMap framed
  unfinished : Unfinished connection.inBuffer

theorem carries_new : Carries new where
  complete := nofun
  stream := ⟨[], rfl, rfl⟩
  unfinished := .inl (by decide)

variable {connection : TcpConnection}

variable (carries : connection.Carries)

include carries

theorem Carries.send (packet : Bytes) (room : SocketRoom) :
    ∃ next, connection.step (.send packet room) = some next ∧ next.Carries := by
  rcases send_cases packet room connection.outBuffer with
    ⟨status, bytes, outBuffer, result, taken | left⟩
  · rcases taken with ⟨empty, statusEq, complete, padded⟩
    rcases carries.stream with ⟨waiting, sent, onTheWay⟩
    refine ⟨_, by rw [step, result]; rfl, ?_⟩
    rw [if_pos ⟨empty, statusEq⟩]
    exact {
      complete := by
        intro message member
        rcases mem_append.mp member with earlier | last
        · exact carries.complete message earlier
        · rw [mem_singleton.mp last]
          exact complete
      stream := by
        refine ⟨waiting ++ [packet], by rw [sent, append_assoc], ?_⟩
        rw [empty, append_nil] at onTheWay
        rw [flatMap_append, ← onTheWay, append_assoc connection.inFlight, padded,
          flatMap_singleton, append_assoc]
      unfinished := carries.unfinished }
  · rcases left with ⟨notTaken, none, same⟩
    refine ⟨_, by rw [step, result]; rfl, ?_⟩
    rw [if_neg notTaken, none, same, append_nil]
    exact carries

theorem Carries.writeEvent (room : SocketRoom) :
    ∃ next, connection.step (.writeEvent room) = some next ∧ next.Carries := by
  rw [step]
  by_cases empty : connection.outBuffer = []
  · exact ⟨connection, if_pos empty, carries⟩
  · rw [if_neg empty]
    rcases carries.stream with ⟨waiting, sent, onTheWay⟩
    refine ⟨_, rfl, { carries with stream := ⟨waiting, sent, ?_⟩ }⟩
    change connection.inBuffer ++ (connection.inFlight ++
      (flushOutBuffer room connection.outBuffer).2.1 ++
        (flushOutBuffer room connection.outBuffer).2.2) = _
    rw [append_assoc connection.inFlight, flushOutBuffer_append]
    exact onTheWay

theorem Carries.readEvent (count : Nat) :
    ∃ next, connection.step (.readEvent count) = some next ∧ next.Carries := by
  rcases carries.stream with ⟨waiting, sent, onTheWay⟩
  let received := min count (kTcpBufSize - connection.inBuffer.length)
  have stream : (connection.inBuffer ++ connection.inFlight.take received) ++
      (connection.inFlight.drop received ++ connection.outBuffer) = waiting.flatMap framed := by
    rw [append_assoc, ← append_assoc (connection.inFlight.take received), take_append_drop]
    exact onTheWay
  have complete : ∀ message ∈ waiting, Complete message := fun message member =>
    carries.complete message (sent ▸ mem_append_right _ member)
  rcases processInput_stream complete stream (Nat.lt_succ_self _) with
    ⟨arrived, waitingAfter, rest, split, result, restEq, unfinished⟩
  have read : onReadEvent (connection.inFlight.take received) connection.inBuffer =
      some (arrived, rest) := by
    rw [onReadEvent]
    simp only [result, bind_eq_bind, bind_some, Option.pure_def,
      not_le.mpr unfinished.length_lt, if_false]
  refine ⟨_, by simp only [step]; rw [read]; rfl, ?_⟩
  exact {
    complete := carries.complete
    stream := ⟨waitingAfter, by rw [sent, split, append_assoc], restEq⟩
    unfinished := unfinished }

theorem Carries.step (event : TcpEvent) :
    ∃ next, connection.step event = some next ∧ next.Carries := by
  cases event with
  | send packet room => exact carries.send packet room
  | writeEvent room => exact carries.writeEvent room
  | readEvent count => exact carries.readEvent count

theorem Carries.signalled_eq (flushed : connection.outBuffer = [])
    (arrived : connection.inFlight = []) :
    connection.signalled = connection.sent ∧ connection.inBuffer = [] := by
  rcases carries.stream with ⟨waiting, sent, onTheWay⟩
  rw [flushed, arrived, append_nil, append_nil] at onTheWay
  cases waiting with
  | nil => exact ⟨by rw [sent, append_nil], onTheWay⟩
  | cons message others =>
    have complete : Complete message :=
      carries.complete message (sent ▸ mem_append_right _ mem_cons_self)
    have unfinished := carries.unfinished
    rw [onTheWay, flatMap_cons] at unfinished
    exact absurd unfinished (not_unfinished_framed complete _)

end TcpConnection

/-- In every run, the messages that `Send` takes while no bytes wait are signalled in their order,
each as it was sent, as soon as it has arrived with its padding; and the loop over the received
bytes ends on every input. -/
theorem signalled_sent (events : List TcpEvent) :
    (∃ connection, Run.reached TcpConnection.step .new events = some connection ∧
      (∃ waiting, connection.sent = connection.signalled ++ waiting ∧
        connection.inBuffer ++ (connection.inFlight ++ connection.outBuffer) =
          waiting.flatMap framed) ∧
      Unfinished connection.inBuffer ∧
      (connection.outBuffer = [] → connection.inFlight = [] →
        connection.signalled = connection.sent ∧ connection.inBuffer = [])) ∧
    ∀ data : Bytes, ∃ packets rest,
      processInput (data.length + 1) data = some (packets, rest) ∧ Unfinished rest := by
  constructor
  · have permitted : Run.Permitted TcpConnection.step (fun _ _ => True) .new events :=
      Run.permitted_of_forall TcpConnection.step (fun _ _ _ => trivial) .new
    rcases Run.invariant_reached TcpConnection.step
      (fun _ event carries _ => TcpConnection.Carries.step carries event)
      TcpConnection.carries_new permitted with ⟨connection, run, carries⟩
    exact ⟨connection, run, carries.stream, carries.unfinished, carries.signalled_eq⟩
  · exact fun data => exists_processInput (Nat.lt_succ_self _)

def answered (connection : TcpConnection) : List TcpEvent → List Bytes
  | [] => []
  | event :: events =>
    let others := ((connection.step event).map fun next => answered next events).getD []
    match event with
    | .send packet room =>
      if (send packet room connection.outBuffer).map Prod.fst = some (packet.length : Int) then
        packet :: others
      else others
    | .writeEvent _ | .readEvent _ => others

/-- A message comes while bytes of the one before it wait. -/
def blockedSend : List TcpEvent :=
  [.send [0x40, 0, 0, 1, 7] (some 3), .send [0x40, 1, 0, 0] (some 100), .writeEvent (some 100),
    .readEvent 100]

theorem not_signalled_blockedSend :
    ¬ (∀ connection, Run.reached TcpConnection.step .new blockedSend = some connection →
      connection.outBuffer = [] → connection.inFlight = [] →
        connection.signalled = answered .new blockedSend) := by
  decide +kernel

/-- The packets of the chunks that arrive one after the other, and the bytes that are left. -/
def onReadEvents : (inBuffer : Bytes) → (chunks : List Bytes) → Option (List Bytes × Bytes)
  | inBuffer, [] => some ([], inBuffer)
  | inBuffer, received :: chunks => do
    let (packets, inBuffer) ← onReadEvent received inBuffer
    let (later, inBuffer) ← onReadEvents inBuffer chunks
    pure (packets ++ later, inBuffer)

theorem processInput_succ {iterations : Nat} {data : Bytes} {result : List Bytes × Bytes}
    (processed : processInput iterations data = some result) :
    processInput (iterations + 1) data = some result := by
  induction iterations generalizing data result with
  | zero => cases processed
  | succ iterations induction =>
    rw [processInput] at processed ⊢
    split_ifs at processed ⊢ with short
    · exact processed
    simp only [bind_eq_bind, bind_eq_some_iff] at processed ⊢
    rcases processed with ⟨expected, isExpected, rest⟩
    refine ⟨expected, isExpected, ?_⟩
    split_ifs at rest ⊢ with fewer
    · exact rest
    rcases bind_eq_some_iff.mp rest with ⟨later, processedLater, same⟩
    exact bind_eq_some_iff.mpr ⟨later, induction processedLater, same⟩

theorem processInput_of_le {iterations enough : Nat} {data : Bytes} {result : List Bytes × Bytes}
    (processed : processInput iterations data = some result) (le : iterations ≤ enough) :
    processInput enough data = some result :=
  Nat.le_induction processed (fun _ _ => processInput_succ) enough le

/-- What the loop leaves can be processed together with the bytes that arrive later. -/
theorem processInput_append {iterations : Nat} {later : Bytes} {more : List Bytes}
    {left : Bytes} :
    ∀ {data : Bytes} {packets : List Bytes} {rest : Bytes} {iterations' : Nat},
      processInput iterations data = some (packets, rest) →
      processInput iterations' (rest ++ later) = some (more, left) →
      processInput (iterations' + iterations) (data ++ later) = some (packets ++ more, left) := by
  induction iterations with
  | zero => exact fun none => nomatch none
  | succ iterations induction =>
    intro data packets rest iterations' processed onwards
    have stays (same : some ([], data) = some (packets, rest)) :
        processInput (iterations' + (iterations + 1)) (data ++ later) =
          some (packets ++ more, left) := by
      cases same
      exact processInput_of_le onwards (Nat.le_add_right _ _)
    rw [processInput] at processed
    split_ifs at processed with short
    · exact stays processed
    simp only [bind_eq_bind, bind_eq_some_iff] at processed
    rcases processed with ⟨⟨expectedPktLen, padBytes⟩, expected, processed⟩
    split_ifs at processed with fewer
    · exact stays processed
    rcases bind_eq_some_iff.mp processed with ⟨⟨packets, rest⟩, processedRest, same⟩
    cases same
    have enough := not_lt.mp fewer
    have whole : ¬ (data ++ later).length < 4 := by
      rw [length_append]
      omega
    have reaches : ¬ (data ++ later).length < expectedPktLen + padBytes := by
      rw [length_append]
      omega
    have first := getExpectedLength_append (not_lt.mp short) later
    rw [← Nat.add_assoc, processInput, if_neg whole, first, expected]
    simp only [bind_eq_bind, bind_some, if_neg reaches, drop_append_of_le_length enough,
      take_append_of_le_length (Nat.le_trans (Nat.le_add_right _ padBytes) enough),
      induction processedRest onwards, Option.pure_def, cons_append]

theorem onReadEvents_append {chunks : List Bytes} :
    ∀ {inBuffer : Bytes}, Unfinished inBuffer → ∃ packets rest,
      onReadEvents inBuffer chunks = some (packets, rest) ∧ Unfinished rest ∧
        ∃ iterations, processInput iterations (inBuffer ++ chunks.flatten) =
          some (packets, rest) := by
  induction chunks with
  | nil =>
    intro inBuffer unfinished
    refine ⟨[], inBuffer, rfl, unfinished, 1, ?_⟩
    rw [flatten_nil, append_nil]
    exact processInput_unfinished unfinished 0
  | cons received chunks induction =>
    intro inBuffer unfinished
    rcases exists_processInput (Nat.lt_succ_self (inBuffer ++ received).length) with
      ⟨packets, rest, processed, restUnfinished⟩
    rcases induction restUnfinished with ⟨later, last, read, lastUnfinished, iterations, whole⟩
    have joined := processInput_append processed whole
    rw [append_assoc, ← flatten_cons] at joined
    refine ⟨packets ++ later, last, ?_, lastUnfinished, _, joined⟩
    have event : onReadEvent received inBuffer = some (packets, rest) := by
      rw [onReadEvent, processed]
      simp only [bind_eq_bind, bind_some, if_neg (not_le.mpr restUnfinished.length_lt)]
      rfl
    rw [onReadEvents, event]
    simp only [bind_eq_bind, bind_some, read, Option.pure_def]

/-- However a stream of arbitrary bytes is cut into chunks, the packets that are signalled for them
and the bytes that are left are those of the whole stream. -/
theorem onReadEvents_flatten (chunks : List Bytes) : ∃ packets rest,
    onReadEvents [] chunks = some (packets, rest) ∧
      processInput (chunks.flatten.length + 1) chunks.flatten = some (packets, rest) := by
  rcases @onReadEvents_append chunks [] (.inl (by decide)) with
    ⟨packets, rest, read, -, iterations, whole⟩
  rcases exists_processInput (Nat.lt_succ_self chunks.flatten.length) with
    ⟨packets', rest', processed, -⟩
  have same := (processInput_of_le whole (le_max_left _ _)).symm.trans
    (processInput_of_le processed (le_max_right _ _))
  exact ⟨packets, rest, read, same ▸ processed⟩

/-! ## STUN messages on a stream -/

namespace StunMessage

/-- A message of `AddAttribute` calls whose type is none of ChannelData. -/
structure Built (message : StunMessage) : Prop where
  isStun : message.type &&& 0xC000 = 0
  isNew : message.transactionId.length = 12
  added : (new message.messageClass message.type message.transactionId).addAttributes
    message.attrs = some message
  encodable : ∀ attr ∈ message.attrs, attr.value.Encodable
  fits : StunAttribute.totalSize message.attrs < 2 ^ 16

theorem Built.read_written {message : StunMessage} (built : message.Built) {written : Bytes}
    (isWritten : message.write = some written) :
    read message.messageClass written = some (message, []) ∧ Complete written ∧
      framed written = written := by
  rcases addAttributes_eq_some message.attrs built.added (by simpa [new] using built.fits) with
    ⟨allowed, -, -, -, -, total⟩
  rw [new, UInt16.toNat_zero, Nat.zero_add] at total
  change ∀ attr ∈ message.attrs, attr.Allowed message.messageClass at allowed
  rcases StunAttribute.readAttributes_writeAll built.isNew message.attrs allowed built.encodable
    built.fits with ⟨body, bodyWritten, bodyLength, bodyRead⟩
  rw [write, bodyWritten] at isWritten
  cases isWritten
  have topBitClear : message.type &&& 0x8000 = 0 := by
    rw [show (0x8000 : UInt16) = 0xC000 &&& 0x8000 from rfl, ← UInt16.and_assoc, built.isStun,
      UInt16.zero_and]
  have length : (message.header ++ body).length = kStunHeaderSize + message.length.toNat := by
    rw [length_append, bodyLength, total, header]
    simp [isLegacy, built.isNew, kStunLegacyTransactionIdLength, kStunHeaderSize]
  have expected : getExpectedLength (message.header ++ body) =
      some ((message.header ++ body).length, 0) := by
    have typeAt : (message.header ++ body).uint16At 0 = some message.type := by
      rw [header, append_assoc, uint16At_uint16Bytes]
    have lengthAt : (message.header ++ body).uint16At (2 + 0) = some message.length := by
      rw [header, append_assoc, append_assoc]
      exact (uint16At_append (uint16Bytes message.type) _ 0).trans (uint16At_uint16Bytes _ _)
    rw [getExpectedLength, lengthAt, typeAt, length]
    exact congrArg some (if_pos built.isStun)
  refine ⟨?_, ⟨0, expected⟩, ?_⟩
  · rw [read_header topBitClear built.isNew (bodyLength.trans total.symm), bodyRead]
    rfl
  · rw [framed, expected]
    exact append_nil _

end StunMessage

/-- However a stream of written STUN messages is cut into chunks, the receiver reads the messages
that were sent, and no bytes are left. -/
theorem onReadEvents_written {messages : List StunMessage} {written : List Bytes}
    (built : ∀ message ∈ messages, message.Built)
    (isWritten : Forall₂ (fun message packet => message.write = some packet) messages written)
    {chunks : List Bytes} (stream : chunks.flatten = written.flatten) :
    onReadEvents [] chunks = some (written, []) ∧
      Forall₂ (fun message packet => StunMessage.read message.messageClass packet =
        some (message, [])) messages written := by
  have each := ((forall₂_and_left ..).mpr ⟨built, isWritten⟩).imp
    fun _ _ both => both.1.read_written both.2
  have framing : ∀ packet ∈ written, Complete packet ∧ framed packet = packet :=
    ((forall₂_and_left ..).mp (each.imp fun _ _ both => ⟨both.2, both.1⟩).flip).1
  refine ⟨?_, each.imp fun _ _ both => both.1⟩
  have same : chunks.flatten ++ [] = written.flatMap framed := by
    rw [append_nil, stream, flatMap_congr fun packet member => (framing packet member).2]
    exact (@flatMap_id _ written).symm
  rcases processInput_stream (fun packet member => (framing packet member).1) same
    (Nat.lt_succ_self _) with ⟨arrived, waiting, rest, split, processed, restEq, unfinished⟩
  have none : waiting = [] := by
    cases waiting with
    | nil => rfl
    | cons packet others =>
      have complete := (framing packet (split ▸ mem_append_right _ mem_cons_self)).1
      rw [append_nil] at restEq
      rw [restEq, flatMap_cons] at unfinished
      exact absurd unfinished (not_unfinished_framed complete _)
  rw [none, append_nil] at split restEq
  rw [← split, restEq] at processed
  rcases @onReadEvents_append chunks [] (.inl (by decide)) with ⟨packets, last, read, -, _, whole⟩
  have equal := (processInput_of_le whole (le_max_left _ _)).symm.trans
    (processInput_of_le processed (le_max_right _ _))
  exact read.trans equal

def priorityRequest : StunMessage :=
  { StunMessage.new .iceMessage 1 (List.replicate 12 5) with
    attrs := [⟨STUN_ATTR_PRIORITY, .uint32 7⟩], length := 8 }

theorem onReadEvents_written_priorityRequest : ∃ packet,
    onReadEvents [] [packet.take 3, packet.drop 3 ++ packet] = some ([packet, packet], []) ∧
      Forall₂ (fun message packet => StunMessage.read message.messageClass packet =
        some (message, [])) [priorityRequest, priorityRequest] [packet, packet] := by
  obtain ⟨packet, isWritten⟩ : ∃ packet, priorityRequest.write = some packet := ⟨_, rfl⟩
  have built : priorityRequest.Built := ⟨by decide, by decide, by decide, by decide, by decide⟩
  exact ⟨packet, onReadEvents_written (by simp [built]) (by simp [isWritten])
    (by simp [← append_assoc])⟩

end ZyWebRtc.Stun
