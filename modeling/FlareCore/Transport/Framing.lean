import FlareCore.Foundations.ChunkedStream
import FlareCore.Client.Core
import Mathlib.Data.List.TakeWhile

/-!
# Frames on a byte stream

TCP carries bytes, not frames.  A frame is sent as the number of its bytes, in four bytes with
the highest first, followed by the bytes themselves, and neither end writes or reads one of more
than ten megabytes.

The reader returns the bytes of the next frame, and it returns no bytes at the end of the stream.
A frame without bytes looks the same, so the receive loop takes it for the end: it reports that
the peer has closed the connection and reads no further.  What the loop reports depends on
nothing but the frames that were written (`events_eq`), and it is all of them exactly if none is
empty (`delivered_iff`).
-/

namespace FlareCore.Transport

open FlareCore.Common FlareCore.Foundations FlareCore.Client

set_option autoImplicit false

/-! ## Numbers on the wire -/

/-- `(length as u32).to_be_bytes()`. -/
def lengthBytes (length : Nat) : Bytes :=
  [UInt8.ofNat (length / 2 ^ 24), UInt8.ofNat (length / 2 ^ 16), UInt8.ofNat (length / 2 ^ 8),
    UInt8.ofNat length]

/-- `u32::from_be_bytes`. -/
def lengthOfBytes (bytes : Bytes) : Nat :=
  bytes.foldl (fun length byte => length * 256 + byte.toNat) 0

/-- A length is read back up to what four bytes can hold. -/
theorem lengthOfBytes_lengthBytes (length : Nat) :
    lengthOfBytes (lengthBytes length) = length % 2 ^ 32 := by
  simp only [lengthOfBytes, lengthBytes, List.foldl_cons, List.foldl_nil, UInt8.toNat_ofNat']
  omega

/-! ## Writing -/

/-- `MAX_FRAME_LENGTH`. -/
def maxFrameLength : Nat :=
  10 * 1024 * 1024

def frameTooLarge (length : Nat) : FlareError :=
  .io ("Frame too large: " ++ toString length ++ " bytes (max " ++ toString maxFrameLength ++ ")")

/-- The bytes that `write_length_prefixed` writes. -/
def writeLengthPrefixed (data : Bytes) : Result Bytes :=
  if data.length > maxFrameLength then .error (frameTooLarge data.length)
  else .ok (lengthBytes data.length ++ data)

theorem writeLengthPrefixed_eq_ok_iff {data bytes : Bytes} :
    writeLengthPrefixed data = .ok bytes ↔
      data.length ≤ maxFrameLength ∧ bytes = lengthBytes data.length ++ data := by
  unfold writeLengthPrefixed
  split_ifs with large
  · refine iff_of_false (fun written => ?_) fun both => ?_
    · cases written
    · omega
  · constructor
    · intro written
      exact ⟨Nat.not_lt.mp large, (Except.ok.inj written).symm⟩
    · rintro ⟨-, rfl⟩
      rfl

/-- The bytes of one frame after the other, if all of them are accepted. -/
def writeFrames : List Bytes → Result Bytes
  | [] => .ok []
  | data :: frames => do
      let first ← writeLengthPrefixed data
      let rest ← writeFrames frames
      return first ++ rest

theorem writeFrames_cons_eq_ok {data bytes : Bytes} {frames : List Bytes}
    (written : writeFrames (data :: frames) = .ok bytes) :
    data.length ≤ maxFrameLength ∧ ∃ rest, writeFrames frames = .ok rest ∧
      bytes = lengthBytes data.length ++ data ++ rest := by
  unfold writeFrames at written
  cases first : writeLengthPrefixed data with
  | error error =>
      rw [first] at written
      cases written
  | ok head =>
      rw [first] at written
      cases others : writeFrames frames with
      | error error =>
          rw [others] at written
          cases written
      | ok rest =>
          rw [others] at written
          obtain ⟨small, rfl⟩ := writeLengthPrefixed_eq_ok_iff.mp first
          exact ⟨small, rest, rfl, (Except.ok.inj written).symm⟩

/-- Every frame takes at least the four bytes of its length. -/
theorem length_le_of_writeFrames {frames : List Bytes} {bytes : Bytes}
    (written : writeFrames frames = .ok bytes) : frames.length ≤ bytes.length := by
  induction frames generalizing bytes with
  | nil => exact Nat.zero_le _
  | cons data frames inductionHypothesis =>
      obtain ⟨-, rest, others, rfl⟩ := writeFrames_cons_eq_ok written
      have shorter := inductionHypothesis others
      simp only [List.length_append, List.length_cons, lengthBytes, List.length_nil]
      omega

/-! ## Reading -/

/-- `read_length_prefixed`; a stream that ends within the length counts as ended, one that ends
within the bytes is an error. -/
def readLengthPrefixed (stream : ChunkedStream UInt8) : Result Bytes × ChunkedStream UInt8 :=
  match stream.readExact 4 with
  | .error _ => (.ok [], .ended)
  | .ok (header, rest) =>
      let length := lengthOfBytes header
      if length = 0 then (.ok [], rest)
      else if length > maxFrameLength then (.error (frameTooLarge length), rest)
      else
        match rest.readExact length with
        | .error _ => (.error (.io "early eof"), .ended)
        | .ok (payload, rest) => (.ok payload, rest)

variable {stream : ChunkedStream UInt8}

theorem readLengthPrefixed_of_ended (isEnded : stream.content = []) :
    readLengthPrefixed stream = (.ok [], .ended) := by
  have short : stream.content.length < 4 := by
    rw [isEnded]
    decide
  rw [readLengthPrefixed, ChunkedStream.readExact_eq_error short]

/-- The length of a frame is read, and the rest of the stream stays. -/
theorem readExact_lengthBytes {length : Nat} {more : Bytes}
    (carried : stream.content = lengthBytes length ++ more) :
    ∃ rest, stream.readExact 4 = .ok (lengthBytes length, rest) ∧ rest.content = more := by
  have four : (lengthBytes length).length = 4 := rfl
  have long : 4 ≤ stream.content.length := by
    rw [carried, List.length_append, four]
    omega
  obtain ⟨rest, read, left⟩ := ChunkedStream.readExact_eq_ok long
  refine ⟨rest, ?_, ?_⟩
  · rw [read, carried, ← four, List.take_left]
  · rw [left, carried, ← four, List.drop_left]

/-- The bytes of a frame are read, however they arrive. -/
theorem readLengthPrefixed_eq {data more : Bytes} (small : data.length ≤ maxFrameLength)
    (carried : stream.content = lengthBytes data.length ++ data ++ more) :
    ∃ rest, readLengthPrefixed stream = (.ok data, rest) ∧ rest.content = more := by
  rw [List.append_assoc] at carried
  obtain ⟨body, read, left⟩ := readExact_lengthBytes carried
  have length_eq : lengthOfBytes (lengthBytes data.length) = data.length := by
    rw [lengthOfBytes_lengthBytes]
    exact Nat.mod_eq_of_lt (Nat.lt_of_le_of_lt small (by decide))
  rw [readLengthPrefixed, read]
  dsimp only
  rw [length_eq]
  by_cases isEmpty : data = []
  · subst isEmpty
    exact ⟨body, rfl, left⟩
  · have long : data.length ≤ body.content.length := by
      rw [left, List.length_append]
      omega
    obtain ⟨rest, filled, remaining⟩ := ChunkedStream.readExact_eq_ok long
    rw [if_neg (fun none => isEmpty (List.eq_nil_of_length_eq_zero none)),
      if_neg (Nat.not_lt.mpr small), filled]
    refine ⟨rest, ?_, ?_⟩
    · rw [left, List.take_left]
    · rw [remaining, left, List.drop_left]

/-! ## The receive loop -/

/-- `str::contains`. -/
def containsText (text part : String) : Bool :=
  text.toList.tails.any fun rest => part.toList.isPrefixOf rest

/-- What the loop reports for a failed read. -/
def readFailureEvent (error : FlareError) : ConnectionEvent :=
  if containsText error.text "peer disconnected" || containsText error.text "Connection reset" ||
      containsText error.text "Broken pipe" then .disconnected error.text
  else .error error

def closedByPeer : ConnectionEvent :=
  .disconnected "TCP connection closed by peer"

/-- The loop of `receiver_task`, for a connection with an observer that is not closed from this
side, and for at most so many frames. -/
def receive : Nat → ChunkedStream UInt8 → List ConnectionEvent
  | 0, _ => []
  | frames + 1, stream =>
      match readLengthPrefixed stream with
      | (.ok data, rest) =>
          if data = [] then [closedByPeer] else .message data :: receive frames rest
      | (.error error, _) => [readFailureEvent error]

/-- `receiver_task`: every frame takes some of the content, so this many rounds are enough. -/
def receiverTask (stream : ChunkedStream UInt8) : List ConnectionEvent :=
  receive (stream.content.length + 1) stream

/-- The loop reports the frames up to the first empty one, and then the end. -/
theorem receive_eq {rounds : Nat} {frames : List Bytes} {bytes : Bytes}
    (written : writeFrames frames = .ok bytes) (carried : stream.content = bytes)
    (enough : frames.length < rounds) :
    receive rounds stream = (frames.takeWhile (· ≠ [])).map .message ++ [closedByPeer] := by
  induction frames generalizing rounds stream bytes with
  | nil =>
      obtain ⟨rounds, rfl⟩ := Nat.exists_eq_succ_of_ne_zero (Nat.ne_of_gt enough)
      have isEnded : stream.content = [] := carried.trans (Except.ok.inj written).symm
      rw [receive, readLengthPrefixed_of_ended isEnded]
      rfl
  | cons data frames inductionHypothesis =>
      obtain ⟨rounds, rfl⟩ :=
        Nat.exists_eq_succ_of_ne_zero (Nat.ne_of_gt (Nat.zero_lt_of_lt enough))
      obtain ⟨small, more, others, rfl⟩ := writeFrames_cons_eq_ok written
      obtain ⟨rest, read, left⟩ := readLengthPrefixed_eq small carried
      rw [receive, read]
      dsimp only
      by_cases isEmpty : data = []
      · rw [if_pos isEmpty, List.takeWhile_cons_of_neg (by simp [isEmpty])]
        rfl
      · rw [if_neg isEmpty, List.takeWhile_cons_of_pos (by simp [isEmpty]),
          inductionHypothesis others left (Nat.lt_of_succ_lt_succ enough)]
        rfl

/-- What is reported depends on the frames that were written, not on how they arrive. -/
theorem events_eq {frames : List Bytes} {bytes : Bytes} (written : writeFrames frames = .ok bytes)
    (carried : stream.content = bytes) :
    receiverTask stream = (frames.takeWhile (· ≠ [])).map .message ++ [closedByPeer] := by
  refine receive_eq written carried ?_
  rw [carried]
  exact Nat.lt_succ_of_le (length_le_of_writeFrames written)

/-- **The frames that were written are delivered in order, and then the end of the connection is
reported once, exactly if none of them is empty**, whatever the pieces in which they arrive. -/
theorem delivered_iff {frames : List Bytes} {bytes : Bytes}
    (written : writeFrames frames = .ok bytes) (carried : stream.content = bytes) :
    (∃ reason, receiverTask stream = frames.map .message ++ [.disconnected reason]) ↔
      ∀ data ∈ frames, data ≠ [] := by
  rw [events_eq written carried]
  constructor
  · rintro ⟨reason, same⟩
    have lengths := congrArg List.length same
    simp only [List.length_append, List.length_map, List.length_singleton,
      Nat.add_right_cancel_iff] at lengths
    have all : frames.takeWhile (· ≠ []) = frames :=
      (List.takeWhile_prefix _).eq_of_length lengths
    intro data member
    exact of_decide_eq_true (List.takeWhile_eq_self_iff.mp all data member)
  · intro nonempty
    have all : frames.takeWhile (· ≠ []) = frames :=
      List.takeWhile_eq_self_iff.mpr fun data member => decide_eq_true (nonempty data member)
    exact ⟨_, by rw [all]; rfl⟩

/-- Two frames in three pieces, cut within a length and within a frame. -/
def cutStream : ChunkedStream UInt8 where
  chunks := [[0, 0], [0, 2, 104, 105, 0, 0, 0], [1, 33]]
  nonempty := by decide

theorem delivered_iff_cut :
    writeFrames [[104, 105], [33]] = .ok cutStream.content ∧
      ∃ reason, receiverTask cutStream =
        [[104, 105], [33]].map .message ++ [.disconnected reason] :=
  ⟨by decide, (delivered_iff (by decide) rfl).mpr (by decide)⟩

/-- An empty frame between two others. -/
def interruptedStream : ChunkedStream UInt8 :=
  .whole [0, 0, 0, 1, 104, 0, 0, 0, 0, 0, 0, 0, 1, 105]

/-- **A frame without bytes ends the connection, and what follows it is not delivered.** -/
theorem empty_frame_ends_stream :
    writeFrames [[104], [], [105]] = .ok interruptedStream.content ∧
      ¬∃ reason, receiverTask interruptedStream =
        [[104], [], [105]].map .message ++ [.disconnected reason] := by
  have written : writeFrames [[104], [], [105]] = .ok interruptedStream.content := by
    decide
  refine ⟨written, ?_⟩
  rintro ⟨reason, same⟩
  have events : receiverTask interruptedStream = [.message [104], closedByPeer] :=
    events_eq written rfl
  have lengths := congrArg List.length (events.symm.trans same)
  rw [List.length_append] at lengths
  exact absurd lengths (by simp)

end FlareCore.Transport
