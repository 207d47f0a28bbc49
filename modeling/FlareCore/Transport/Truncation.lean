import FlareCore.Transport.Limits
import Mathlib.Data.List.Infix

/-!
# Where a stream ends

TCP and QUIC read the same format with two readers that were written separately.  On any content,
in any pieces, both deliver the same frames, and both agree on whether a stream has ended properly
or has failed, with one exception: a stream that ends after one, two or three bytes of a length.
TCP takes it for the end of the connection, although its documentation keeps that for a stream
without any of these bytes; QUIC reports a failure (`same_reports_iff`).
-/

namespace FlareCore.Transport

open FlareCore.Common FlareCore.Foundations FlareCore.Client

set_option autoImplicit false

/-! ## What an observer can tell apart -/

/-- The classes of events after which nothing is reported. -/
inductive Ending where
  | disconnected
  | error
  deriving DecidableEq

/-- The class of a terminal event. -/
def Ending.ofEvent : ConnectionEvent → Option Ending
  | .disconnected _ => some .disconnected
  | .error _ => some .error
  | .connected | .message _ => none

/-- The two runs deliver the same frames, and one terminal event of the same class follows. -/
def SameReports (events others : List ConnectionEvent) : Prop :=
  ∃ frames last otherLast ending,
    events = List.map ConnectionEvent.message frames ++ [last] ∧
    others = List.map ConnectionEvent.message frames ++ [otherLast] ∧
    Ending.ofEvent last = some ending ∧ Ending.ofEvent otherLast = some ending

theorem sameReports_singleton_iff {event other : ConnectionEvent} :
    SameReports [event] [other] ↔
      ∃ ending, Ending.ofEvent event = some ending ∧ Ending.ofEvent other = some ending := by
  constructor
  · rintro ⟨frames, last, otherLast, ending, events, others, classes⟩
    cases frames with
    | nil =>
        obtain ⟨rfl, -⟩ := List.cons.inj events
        obtain ⟨rfl, -⟩ := List.cons.inj others
        exact ⟨ending, classes⟩
    | cons data frames =>
        have lengths := congrArg List.length events
        simp at lengths
  · rintro ⟨ending, classes⟩
    exact ⟨[], event, other, ending, rfl, rfl, classes⟩

/-- A frame in front of both runs changes nothing. -/
theorem sameReports_cons_iff {data : Bytes} {events others : List ConnectionEvent} :
    SameReports (.message data :: events) (.message data :: others) ↔
      SameReports events others := by
  constructor
  · rintro ⟨frames, last, otherLast, ending, first, second, isEnding, otherEnding⟩
    cases frames with
    | nil =>
        obtain ⟨rfl, -⟩ := List.cons.inj first
        cases isEnding
    | cons front frames =>
        exact ⟨frames, last, otherLast, ending, (List.cons.inj first).2, (List.cons.inj second).2,
          isEnding, otherEnding⟩
  · rintro ⟨frames, last, otherLast, ending, rfl, rfl, classes⟩
    exact ⟨data :: frames, last, otherLast, ending, rfl, rfl, classes⟩

/-! ## Failures that are not taken for a disconnection -/

/-- A text does not contain another with a character that it lacks. -/
theorem containsText_eq_false {text part : String} (c : Char) (occurs : c ∈ part.toList)
    (lacks : c ∉ text.toList) : containsText text part = false := by
  rw [containsText, List.any_eq_false]
  intro rest isTail starts
  have ofRest : c ∈ rest := (List.isPrefixOf_iff_prefix.mp starts).subset occurs
  exact lacks (((List.mem_tails rest _).mp isTail).subset ofRest)

/-- Only a text with one of these letters can be taken for that of a disconnection. -/
theorem readFailureEvent_eq_error {error : FlareError}
    (lacks : ∀ c ∈ ['p', 'C', 'B'], c ∉ error.text.toList) :
    readFailureEvent error = .error error := by
  unfold readFailureEvent
  rw [containsText_eq_false 'p' (by decide) (lacks 'p' (by decide)),
    containsText_eq_false 'C' (by decide) (lacks 'C' (by decide)),
    containsText_eq_false 'B' (by decide) (lacks 'B' (by decide))]
  rfl

theorem not_mem_toString {c : Char} (noDigit : ¬c.isDigit) (number : Nat) :
    c ∉ (toString number).toList := by
  intro member
  rw [Nat.toString_eq_repr, Nat.toList_repr] at member
  exact noDigit (Nat.isDigit_of_mem_toDigits (by decide) (by decide) member)

theorem readFailureEvent_frameTooLarge (length : Nat) :
    readFailureEvent (frameTooLarge length) = .error (frameTooLarge length) := by
  have around : ∀ c ∈ ['p', 'C', 'B'], ¬c.isDigit ∧ c ∉ "IO 错误: ".toList ∧
      c ∉ "Frame too large: ".toList ∧ c ∉ " bytes (max ".toList ∧ c ∉ ")".toList := by
    simp only [List.mem_cons, List.not_mem_nil, or_false]
    rintro c (rfl | rfl | rfl) <;> decide
  apply readFailureEvent_eq_error
  intro c member
  obtain ⟨noDigit, outside⟩ := around c member
  have digits := not_mem_toString noDigit
  simp only [FlareError.text, frameTooLarge, String.toList_append, List.mem_append, digits, outside,
    or_self, not_false_eq_true]

theorem readFailureEvent_earlyEof :
    readFailureEvent (.io "early eof") = .error (.io "early eof") := by
  apply readFailureEvent_eq_error
  simp only [List.mem_cons, List.not_mem_nil, or_false]
  rintro c (rfl | rfl | rfl) <;> decide

/-! ## One read -/

section OneRead

variable {stream other : ChunkedStream UInt8}

/-- Four bytes are the length that is read from them. -/
theorem lengthBytes_lengthOfBytes {header : Bytes} (four : header.length = 4) :
    lengthBytes (lengthOfBytes header) = header := by
  obtain ⟨first, second, third, fourth, rfl⟩ := List.length_eq_four.mp four
  have bounds := And.intro first.toNat_lt (And.intro second.toNat_lt
    (And.intro third.toNat_lt fourth.toNat_lt))
  simp only [lengthBytes, lengthOfBytes, List.foldl_cons, List.foldl_nil, List.cons.injEq,
    ← UInt8.toNat_inj, UInt8.toNat_ofNat', and_true]
  omega

/-- Once a length has arrived, the two readers come to the same result: the same frame, with
the same content behind it, or a failure. -/
theorem reads_alike (long : 4 ≤ stream.content.length) (same : stream.content = other.content) :
    (∃ data rest otherRest, readLengthPrefixed stream = (.ok data, rest) ∧
      readStream other = (.ok data, otherRest) ∧ rest.content = otherRest.content ∧
      (data ≠ [] → data.length ≤ maxFrameLength ∧
        stream.content = lengthBytes data.length ++ data ++ rest.content)) ∨
    ∃ error rest otherError otherRest, readLengthPrefixed stream = (.error error, rest) ∧
      readStream other = (.error otherError, otherRest) ∧
      readFailureEvent error = .error error := by
  obtain ⟨body, header, left⟩ := ChunkedStream.readExact_eq_ok long
  obtain ⟨otherBody, otherHeader, otherLeft⟩ := ChunkedStream.readExact_eq_ok (same ▸ long)
  rw [← same] at otherHeader otherLeft
  have sameBody : body.content = otherBody.content := left.trans otherLeft.symm
  have four : (stream.content.take 4).length = 4 := List.length_take_of_le long
  have isLength := lengthBytes_lengthOfBytes four
  unfold readLengthPrefixed readStream
  rw [header, otherHeader]
  dsimp only
  generalize lengthOfBytes (stream.content.take 4) = length at isLength ⊢
  by_cases isEmpty : length = 0
  · left
    refine ⟨[], body, otherBody, if_pos isEmpty, if_pos isEmpty, sameBody, ?_⟩
    exact fun nonempty => absurd rfl nonempty
  rw [if_neg isEmpty, if_neg isEmpty]
  by_cases large : length > maxFrameLength
  · right
    exact ⟨_, _, _, _, if_pos large, if_pos large, readFailureEvent_frameTooLarge length⟩
  rw [if_neg large, if_neg (show ¬length > 10 * 1024 * 1024 from large)]
  by_cases complete : length ≤ body.content.length
  · obtain ⟨rest, filled, remaining⟩ := ChunkedStream.readExact_eq_ok complete
    obtain ⟨otherRest, otherFilled, otherRemaining⟩ :=
      ChunkedStream.readExact_eq_ok (sameBody ▸ complete)
    rw [← sameBody] at otherFilled otherRemaining
    left
    refine ⟨body.content.take length, rest, otherRest, ?_, ?_,
      remaining.trans otherRemaining.symm, fun _ => ⟨?_, ?_⟩⟩
    · rw [filled]
    · rw [otherFilled]
    · rw [List.length_take_of_le complete]
      exact Nat.not_lt.mp large
    · rw [List.length_take_of_le complete, isLength, remaining, left, List.append_assoc,
        List.take_append_drop, List.take_append_drop]
  · have short : body.content.length < length := Nat.not_le.mp complete
    rw [ChunkedStream.readExact_eq_error short, ChunkedStream.readExact_eq_error (sameBody ▸ short)]
    right
    exact ⟨_, _, _, _, rfl, rfl, readFailureEvent_earlyEof⟩

end OneRead

/-! ## The loops -/

/-- The content stops after some bytes of a length, but not all of them, and what comes before
are frames with bytes. -/
def EndsWithinLength (content : Bytes) : Prop :=
  ∃ frames bytes part, writeFrames frames = .ok bytes ∧ (∀ data ∈ frames, data ≠ []) ∧
    content = bytes ++ part ∧ part ≠ [] ∧ part.length < 4

theorem endsWithinLength_of_short {content : Bytes} (short : content.length < 4) :
    EndsWithinLength content ↔ content ≠ [] := by
  constructor
  · rintro ⟨frames, bytes, part, -, -, rfl, some, -⟩ isEmpty
    exact some (List.append_eq_nil_iff.mp isEmpty).2
  · intro some
    refine ⟨[], [], content, rfl, fun data member => ?_, rfl, some, short⟩
    exact absurd member List.not_mem_nil

/-- If a length has arrived, the content begins with a frame that is read. -/
theorem EndsWithinLength.reads {stream : ChunkedStream UInt8}
    (within : EndsWithinLength stream.content) (long : 4 ≤ stream.content.length) :
    ∃ data rest, readLengthPrefixed stream = (.ok data, rest) ∧ data ≠ [] ∧
      EndsWithinLength rest.content := by
  obtain ⟨frames, bytes, part, written, nonempty, carried, some, short⟩ := within
  cases frames with
  | nil =>
      obtain rfl := Except.ok.inj written
      rw [carried, List.nil_append] at long
      omega
  | cons data frames =>
      obtain ⟨small, more, others, rfl⟩ := writeFrames_cons_eq_ok written
      rw [List.append_assoc] at carried
      obtain ⟨rest, read, left⟩ := readLengthPrefixed_eq small carried
      refine ⟨data, rest, read, nonempty data List.mem_cons_self, ?_⟩
      exact ⟨frames, more, part, others, fun data member =>
        nonempty data (List.mem_cons_of_mem _ member), left, some, short⟩

theorem EndsWithinLength.cons {data rest : Bytes} (within : EndsWithinLength rest)
    (nonempty : data ≠ []) (small : data.length ≤ maxFrameLength) :
    EndsWithinLength (lengthBytes data.length ++ data ++ rest) := by
  obtain ⟨frames, bytes, part, written, others, rfl, some, short⟩ := within
  refine ⟨data :: frames, lengthBytes data.length ++ data ++ bytes, part, ?_, ?_, ?_, some, short⟩
  · unfold writeFrames
    rw [writeLengthPrefixed_eq_ok_iff.mpr ⟨small, rfl⟩, written]
    rfl
  · exact List.forall_mem_cons.mpr ⟨nonempty, others⟩
  · rw [List.append_assoc _ bytes]

/-- Content that consists of frames does not stop within a length. -/
theorem not_endsWithinLength_of_written {frames : List Bytes} {content : Bytes}
    (written : writeFrames frames = .ok content) : ¬EndsWithinLength content := by
  induction frames generalizing content with
  | nil =>
      obtain rfl := Except.ok.inj written
      rw [endsWithinLength_of_short (by decide)]
      exact fun some => some rfl
  | cons data frames inductionHypothesis =>
      obtain ⟨small, more, others, rfl⟩ := writeFrames_cons_eq_ok written
      intro within
      rw [← ChunkedStream.content_whole (lengthBytes _ ++ _ ++ _)] at within
      obtain ⟨rest, read, left⟩ := readLengthPrefixed_eq small (ChunkedStream.content_whole _)
      obtain ⟨_, after, again, -, later⟩ := within.reads (by
        rw [ChunkedStream.content_whole, List.append_assoc, List.length_append]
        exact Nat.le_add_right 4 _)
      rw [(Prod.mk.inj (again.symm.trans read)).2, left] at later
      exact inductionHypothesis others later

namespace StreamTransport

variable {transport : StreamTransport} {stream other : ChunkedStream UInt8} {rounds : Nat}

theorem receive_of_failed {error : FlareError} {rest : ChunkedStream UInt8}
    (read : transport.read stream = (.error error, rest)) :
    transport.receive (rounds + 1) stream = [transport.failureEvent error] := by
  rw [receive, read]

theorem receive_of_ended {rest : ChunkedStream UInt8}
    (read : transport.read stream = (.ok [], rest)) :
    transport.receive (rounds + 1) stream = [transport.endEvent] := by
  rw [receive, read]
  exact if_pos rfl

theorem receive_of_read {data : Bytes} {rest : ChunkedStream UInt8}
    (read : transport.read stream = (.ok data, rest)) (nonempty : data ≠ []) :
    transport.receive (rounds + 1) stream = .message data :: transport.receive rounds rest := by
  rw [receive, read]
  exact if_neg nonempty

/-- A stream that stops before a whole length: QUIC tells whether there was something of it. -/
theorem sameReports_receive_of_short (short : stream.content.length < 4)
    (same : stream.content = other.content) :
    SameReports (tcp.receive (rounds + 1) stream) (quic.receive (rounds + 1) other) ↔
      stream.content = [] := by
  have read : tcp.read stream = (.ok [], .ended) := by
    show readLengthPrefixed stream = _
    rw [readLengthPrefixed, ChunkedStream.readExact_eq_error short]
  have otherHeader : other.readExact 4 = .error stream.content := by
    rw [same]
    exact ChunkedStream.readExact_eq_error (same ▸ short)
  rw [receive_of_ended read]
  cases content : stream.content with
  | nil =>
      have otherRead : quic.read other = (.ok [], .ended) := by
        show readStream other = _
        rw [readStream, otherHeader, content]
      rw [receive_of_ended otherRead, sameReports_singleton_iff]
      exact iff_of_true ⟨.disconnected, rfl, rfl⟩ rfl
  | cons first part =>
      have otherRead : quic.read other =
          (.error (.io "Stream closed while reading length prefix"), .ended) := by
        show readStream other = _
        rw [readStream, otherHeader, content]
      rw [receive_of_failed otherRead, sameReports_singleton_iff]
      refine iff_of_false ?_ (List.cons_ne_nil _ _)
      rintro ⟨ending, isEnding, otherEnding⟩
      cases isEnding
      cases otherEnding

/-- The loops report the same unless the content stops within a length. -/
theorem sameReports_receive_iff (enough : stream.content.length < rounds)
    (same : stream.content = other.content) :
    SameReports (tcp.receive rounds stream) (quic.receive rounds other) ↔
      ¬EndsWithinLength stream.content := by
  -- on the rounds: a frame that both read is taken off the front of both streams
  induction rounds generalizing stream other with
  | zero => exact absurd enough (Nat.not_lt_zero _)
  | succ rounds inductionHypothesis =>
      by_cases short : stream.content.length < 4
      · rw [sameReports_receive_of_short short same, endsWithinLength_of_short short, not_not]
      have long : 4 ≤ stream.content.length := Nat.not_lt.mp short
      obtain ⟨data, rest, otherRest, read, otherRead, left, isFrame⟩ |
        ⟨error, rest, otherError, otherRest, read, otherRead, isError⟩ := reads_alike long same
      · by_cases isEmpty : data = []
        · subst isEmpty
          rw [@receive_of_ended tcp _ _ _ read, @receive_of_ended quic _ _ _ otherRead,
            sameReports_singleton_iff]
          refine iff_of_true ⟨.disconnected, rfl, rfl⟩ fun within => ?_
          obtain ⟨data, after, again, nonempty, -⟩ := within.reads long
          exact nonempty (Except.ok.inj (Prod.mk.inj (again.symm.trans read)).1)
        · obtain ⟨small, carried⟩ := isFrame isEmpty
          have shorter : rest.content.length < rounds := by
            have lengths := congrArg List.length carried
            rw [List.length_append, List.length_append, show (lengthBytes data.length).length = 4
              from rfl] at lengths
            omega
          rw [@receive_of_read tcp _ _ _ _ read isEmpty,
            @receive_of_read quic _ _ _ _ otherRead isEmpty,
            sameReports_cons_iff, inductionHypothesis shorter left, not_iff_not]
          constructor
          · intro within
            rw [carried]
            exact within.cons isEmpty small
          · intro within
            obtain ⟨_, after, again, -, later⟩ := within.reads long
            rwa [(Prod.mk.inj (again.symm.trans read)).2] at later
      · rw [@receive_of_failed tcp _ _ _ _ read, @receive_of_failed quic _ _ _ _ otherRead]
        have failure : tcp.failureEvent error = .error error := isError
        rw [failure, sameReports_singleton_iff]
        refine iff_of_true ⟨.error, rfl, rfl⟩ fun within => ?_
        obtain ⟨data, after, again, -⟩ := within.reads long
        cases (Prod.mk.inj (again.symm.trans read)).1

end StreamTransport

/-- **TCP and QUIC deliver the same frames and end in the same class of terminal event, however
the bytes arrive at either of them, exactly if the content does not stop within a length.** -/
theorem same_reports_iff {stream other : ChunkedStream UInt8}
    (same : stream.content = other.content) :
    SameReports (StreamTransport.tcp.receiverTask stream)
        (StreamTransport.quic.receiverTask other) ↔
      ¬EndsWithinLength stream.content := by
  unfold StreamTransport.receiverTask
  rw [← same]
  exact StreamTransport.sameReports_receive_iff (Nat.lt_succ_self _) same

/-- A stream that ends on the boundary of a frame, in two ways of arriving. -/
theorem same_reports_iff_cut :
    cutStream.content = (ChunkedStream.whole cutStream.content).content ∧
      SameReports (StreamTransport.tcp.receiverTask cutStream)
        (StreamTransport.quic.receiverTask (.whole cutStream.content)) := by
  have same : cutStream.content = (ChunkedStream.whole cutStream.content).content :=
    (ChunkedStream.content_whole _).symm
  have written : writeFrames [[104, 105], [33]] = .ok cutStream.content := by
    decide
  exact ⟨same, (same_reports_iff same).mpr (not_endsWithinLength_of_written written)⟩

/-- One frame, and two bytes of the length of another. -/
def brokenStream : ChunkedStream UInt8 :=
  .whole [0, 0, 0, 1, 104, 0, 0]

/-- **A stream that stops within a length has ended for TCP, and has failed for QUIC.** -/
theorem broken_length_reports_differ :
    ¬∀ stream other : ChunkedStream UInt8, stream.content = other.content →
      SameReports (StreamTransport.tcp.receiverTask stream)
        (StreamTransport.quic.receiverTask other) := by
  intro always
  have small : ([104] : Bytes).length ≤ maxFrameLength := by
    decide
  have reports := always brokenStream brokenStream rfl
  obtain ⟨rest, read, left⟩ := @StreamTransport.read_eq .tcp brokenStream [104] [0, 0] small rfl
  obtain ⟨otherRest, otherRead, otherLeft⟩ :=
    @StreamTransport.read_eq .quic brokenStream [104] [0, 0] small rfl
  have short : rest.content.length < 4 := by
    rw [left]
    decide
  have rounds : brokenStream.content.length = 6 + 1 := rfl
  unfold StreamTransport.receiverTask at reports
  rw [rounds, StreamTransport.receive_of_read read (List.cons_ne_nil _ _),
    StreamTransport.receive_of_read otherRead (List.cons_ne_nil _ _), sameReports_cons_iff,
    StreamTransport.sameReports_receive_of_short short (left.trans otherLeft.symm), left] at reports
  exact absurd reports (List.cons_ne_nil _ _)

end FlareCore.Transport
