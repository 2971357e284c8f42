import ShutterGateway.Frame.Basic

/-!
Frames in a stream of bytes that arrives in pieces. Bytes that have arrived and are not yet part
of a frame wait in a buffer. A place in the stream where no frame starts is handled by a policy:
either one byte is dropped and the next place is tried, or the stream is given up.
-/

namespace ShutterGateway

/-- What to do at a place in the stream where no frame starts. -/
inductive ResyncPolicy where
  /-- Drop one byte and try the next place. -/
  | dropByte
  /-- Give the connection up. -/
  | reconnect
  deriving DecidableEq, Repr, Inhabited

/-- Why the reading of a stream ended early. -/
inductive StreamError where
  /-- No frame starts at the current place. -/
  | frame (error : FrameError)
  /-- The stream ended inside a frame. -/
  | bytesRemaining
  deriving DecidableEq, Repr

namespace StreamError

/-- The wording of a stream error. -/
def message : StreamError → String
  | frame error => "frame error: " ++ error.message
  | bytesRemaining => "I/O error: bytes remaining on stream"

end StreamError

/-- How the bytes of a stream fall apart: the frames in order, the error that ended the
reading, and the bytes that wait for more. -/
structure Framing where
  frames : List Frame
  error? : Option StreamError
  left : Bytes
  deriving DecidableEq, Repr

namespace Framing

/-- The framing of a stream with one more frame in front. -/
def cons (frame : Frame) (framing : Framing) : Framing :=
  { framing with frames := frame :: framing.frames }

end Framing

namespace ResyncPolicy

/-- Takes one frame off the buffer. The first component is the frame, `none` when more bytes are
needed; the second is the buffer that is left. -/
def next (policy : ResyncPolicy) (buffer : Bytes) : Except FrameError (Option Frame × Bytes) :=
  match policy, buffer, Frame.decodeLeading buffer with
  | _, _, .ok (some (frame, used)) => .ok (some frame, buffer.drop used)
  | _, _, .ok none => .ok (none, buffer)
  | .dropByte, _ :: rest, .error _ => next .dropByte rest
  | _, _, .error e => .error e
  termination_by structural buffer

/-- Takes all complete frames off the buffer. At most `fuel` frames are taken; the number of
bytes in the buffer is enough, since each frame takes some. -/
def drain (policy : ResyncPolicy) : Nat → Bytes → Framing
  | 0, buffer => ⟨[], none, buffer⟩
  | fuel + 1, buffer =>
    match policy.next buffer with
    | .error e => ⟨[], some (.frame e), buffer⟩
    | .ok (none, left) => ⟨[], none, left⟩
    | .ok (some frame, left) => (policy.drain fuel left).cons frame

/-- Adds bytes to the buffer and takes all complete frames off it. -/
def feed (policy : ResyncPolicy) (buffer arrived : Bytes) : Framing :=
  policy.drain (buffer ++ arrived).length (buffer ++ arrived)

/-- Takes all complete frames off the buffer at the end of the stream, where no byte may be left
over. -/
def finish (policy : ResyncPolicy) (buffer : Bytes) : Framing :=
  let framing := policy.feed buffer []
  match framing.error? with
  | some _ => framing
  | none => if framing.left = [] then framing else { framing with error? := some .bytesRemaining }

end ResyncPolicy

namespace Frame

/-- Writes a frame behind the bytes of an output buffer. A frame that cannot be written leaves
the buffer as it was. -/
def append (buffer : Bytes) (frame : Frame) : Bytes × Option FrameError :=
  match frame.encode with
  | .ok bytes => (buffer ++ bytes, none)
  | .error e => (buffer, some e)

end Frame

end ShutterGateway
