import Mathlib.Data.Nat.Notation

/-!
# Protocol constants shared by the framing and stream layers
-/

namespace StructuredStreams

/-- The frame types of the stream protocol, in wire order. -/
inductive FrameType where
  | empty
  | stream
  | ack
  | padding
  | decongestion
  | detach
  | reset
  | close
  | settings
  | priority
  deriving DecidableEq, Repr

/-- The underlying byte of a frame type. -/
def FrameType.toUnderlying : FrameType → UInt8
  | .empty => 0
  | .stream => 1
  | .ack => 2
  | .padding => 3
  | .decongestion => 4
  | .detach => 5
  | .reset => 6
  | .close => 7
  | .settings => 8
  | .priority => 9

/-- The number of entries of the read handler table. -/
def maxFrameCount : Nat := 10

end StructuredStreams
