import StructuredStreams.Foundation.ByteCodec
import StructuredStreams.Protocol

/-!
# Frame headers

The ten frame header records of the framing layer, each with the writer and
the reader that the serialization library derives from its field list: fields
in declaration order, optional and variable-size fields present or sized as
the flag byte says, and a trailing catch-all field that takes the rest of the
buffer.  The library itself is the parameter `Fusionary`.
-/

namespace StructuredStreams

open ByteCodec

/-- What the external serialization library provides for plain fields:
fixed-width integers and byte arrays, and strings and vectors that carry
their own length. -/
structure Fusionary where
  uint : (width : Nat) → FixedCodec width (BitVec (8 * width))
  bigUint : (width : Nat) → FixedCodec width (BitVec (8 * width))
  byteArray : (count : Nat) → FixedCodec count (Vector UInt8 count)
  string : Codec Bytes
  vector : Codec (List (BitVec 64))

/-- A library instance: network byte order, and lists announced element by
element. -/
def Fusionary.networkOrder : Fusionary where
  uint := bigEndian
  bigUint := bigEndian
  byteArray := rawBytes
  string := listOf
    { write := fun value => [value]
      read := readByte
      read_write := fun _ _ => rfl }
  vector := listOf (bigEndian 8).toCodec

structure EmptyFrameHeader where
  deriving DecidableEq, Repr

structure StreamFrameHeader where
  flags : BitVec 8
  streamId : BitVec 32
  parentStreamId : Option (BitVec 32)
  usid : Option (Vector UInt8 24)
  streamOffset : BitVec 64
  frame : Option Bytes
  deriving DecidableEq, Repr

structure AckFrameHeader where
  sentEntropy : BitVec 8
  receivedEntropy : BitVec 8
  missingPackets : BitVec 8
  leastUnackedPacket : BitVec 64
  largestObservedPacket : BitVec 64
  largestObservedDeltaTime : BitVec 32
  nacks : List (BitVec 64)
  deriving DecidableEq, Repr

structure PaddingFrameHeader where
  length : BitVec 16
  frame : Bytes
  deriving DecidableEq, Repr

structure DecongestionFrameHeader where
  subtype : BitVec 8
  deriving DecidableEq, Repr

structure DetachFrameHeader where
  lsid : BitVec 32
  deriving DecidableEq, Repr

structure ResetFrameHeader where
  lsid : BitVec 32
  errorCode : BitVec 32
  reasonPhrase : Bytes
  deriving DecidableEq, Repr

structure CloseFrameHeader where
  errorCode : BitVec 32
  reasonPhrase : Bytes
  finalAckFrame : AckFrameHeader
  deriving DecidableEq, Repr

structure SettingsFrameHeader where
  numberOfSettings : BitVec 16
  deriving DecidableEq, Repr

structure PriorityFrameHeader where
  lsid : BitVec 32
  priorityValue : BitVec 32
  deriving DecidableEq, Repr

namespace StreamFrameHeader

/-- Bit 6 of the flags announces the parent stream id. -/
def hasParentStreamId (flags : BitVec 8) : Bool := flags.getLsbD 6

/-- Bit 5 of the flags announces the unique stream id. -/
def hasUsid (flags : BitVec 8) : Bool := flags.getLsbD 5

/-- Bit 1 of the flags announces the data. -/
def hasData (flags : BitVec 8) : Bool := flags.getLsbD 1

/-- Bits 2 to 4 of the flags choose the width of the stream offset. -/
def offsetWidth (flags : BitVec 8) : Nat :=
  match ((flags >>> 2) &&& 7#8).toNat with
  | 0 => 0
  | size => size + 1

/-- The offset as it survives a field of the announced width. -/
def announcedOffset (flags : BitVec 8) (offset : BitVec 64) : BitVec 64 :=
  (offset.setWidth (8 * offsetWidth flags)).setWidth 64

def write (lib : Fusionary) (header : StreamFrameHeader) : Bytes :=
  FrameType.stream.toUnderlying ::
    ((lib.uint 1).write header.flags ++
      ((lib.uint 4).write header.streamId ++
        (writeOptional (hasParentStreamId header.flags)
            (lib.uint 4).toCodec 0 header.parentStreamId ++
          (writeOptional (hasUsid header.flags)
              (lib.byteArray 24).toCodec (Vector.replicate 24 0)
              header.usid ++
            ((lib.uint (offsetWidth header.flags)).write
                (header.streamOffset.setWidth _) ++
              writeOptional (hasData header.flags)
                lib.string [] header.frame)))))

def read (lib : Fusionary) : Reader StreamFrameHeader := do
  expectByte FrameType.stream.toUnderlying
  let flags ← (lib.uint 1).read
  let streamId ← (lib.uint 4).read
  let parentStreamId ←
    readOptional (hasParentStreamId flags) (lib.uint 4).toCodec
  let usid ← readOptional (hasUsid flags) (lib.byteArray 24).toCodec
  let streamOffset ← (lib.uint (offsetWidth flags)).read
  let frame ← readOptional (hasData flags) lib.string
  return {
    flags, streamId, parentStreamId, usid,
    streamOffset := streamOffset.setWidth 64, frame }

/-- The header as its own flag byte announces it: optional fields are there
exactly when their bit is set, and the offset is cut to its width. -/
def announced (header : StreamFrameHeader) : StreamFrameHeader :=
  { header with
    parentStreamId :=
      if hasParentStreamId header.flags then
        some (header.parentStreamId.getD 0)
      else none
    usid :=
      if hasUsid header.flags then
        some (header.usid.getD (Vector.replicate 24 0))
      else none
    streamOffset := announcedOffset header.flags header.streamOffset
    frame :=
      if hasData header.flags then some (header.frame.getD []) else none }

/-- The fields of the header are the ones its flag byte announces. -/
structure FlagsAgree (header : StreamFrameHeader) : Prop where
  parentStreamId :
    header.parentStreamId.isSome = hasParentStreamId header.flags
  usid : header.usid.isSome = hasUsid header.flags
  streamOffset :
    header.streamOffset.toNat < 2 ^ (8 * offsetWidth header.flags)
  frame : header.frame.isSome = hasData header.flags

end StreamFrameHeader

namespace EmptyFrameHeader

def write (_header : EmptyFrameHeader) : Bytes :=
  [FrameType.empty.toUnderlying]

def read : Reader EmptyFrameHeader := do
  expectByte FrameType.empty.toUnderlying
  return {}

end EmptyFrameHeader

namespace AckFrameHeader

def write (lib : Fusionary) (header : AckFrameHeader) : Bytes :=
  FrameType.ack.toUnderlying ::
    ((lib.bigUint 1).write header.sentEntropy ++
      ((lib.bigUint 1).write header.receivedEntropy ++
        ((lib.bigUint 1).write header.missingPackets ++
          ((lib.bigUint 8).write header.leastUnackedPacket ++
            ((lib.bigUint 8).write header.largestObservedPacket ++
              ((lib.bigUint 4).write header.largestObservedDeltaTime ++
                lib.vector.write header.nacks))))))

def read (lib : Fusionary) : Reader AckFrameHeader := do
  expectByte FrameType.ack.toUnderlying
  let sentEntropy ← (lib.bigUint 1).read
  let receivedEntropy ← (lib.bigUint 1).read
  let missingPackets ← (lib.bigUint 1).read
  let leastUnackedPacket ← (lib.bigUint 8).read
  let largestObservedPacket ← (lib.bigUint 8).read
  let largestObservedDeltaTime ← (lib.bigUint 4).read
  let nacks ← lib.vector.read
  return {
    sentEntropy, receivedEntropy, missingPackets, leastUnackedPacket,
    largestObservedPacket, largestObservedDeltaTime, nacks }

end AckFrameHeader

namespace PaddingFrameHeader

def write (lib : Fusionary) (header : PaddingFrameHeader) : Bytes :=
  FrameType.padding.toUnderlying ::
    ((lib.bigUint 2).write header.length ++ header.frame)

def read (lib : Fusionary) : Reader PaddingFrameHeader := do
  expectByte FrameType.padding.toUnderlying
  let length ← (lib.bigUint 2).read
  let frame ← readRest
  return { length, frame }

end PaddingFrameHeader

namespace DecongestionFrameHeader

def write (lib : Fusionary) (header : DecongestionFrameHeader) : Bytes :=
  FrameType.decongestion.toUnderlying ::
    (lib.bigUint 1).write header.subtype

def read (lib : Fusionary) : Reader DecongestionFrameHeader := do
  expectByte FrameType.decongestion.toUnderlying
  let subtype ← (lib.bigUint 1).read
  return { subtype }

end DecongestionFrameHeader

namespace DetachFrameHeader

def write (lib : Fusionary) (header : DetachFrameHeader) : Bytes :=
  FrameType.detach.toUnderlying :: (lib.bigUint 4).write header.lsid

def read (lib : Fusionary) : Reader DetachFrameHeader := do
  expectByte FrameType.detach.toUnderlying
  let lsid ← (lib.bigUint 4).read
  return { lsid }

end DetachFrameHeader

namespace ResetFrameHeader

def write (lib : Fusionary) (header : ResetFrameHeader) : Bytes :=
  FrameType.reset.toUnderlying ::
    ((lib.uint 4).write header.lsid ++
      ((lib.bigUint 4).write header.errorCode ++
        lib.string.write header.reasonPhrase))

def read (lib : Fusionary) : Reader ResetFrameHeader := do
  expectByte FrameType.reset.toUnderlying
  let lsid ← (lib.uint 4).read
  let errorCode ← (lib.bigUint 4).read
  let reasonPhrase ← lib.string.read
  return { lsid, errorCode, reasonPhrase }

end ResetFrameHeader

namespace CloseFrameHeader

def write (lib : Fusionary) (header : CloseFrameHeader) : Bytes :=
  FrameType.close.toUnderlying ::
    ((lib.bigUint 4).write header.errorCode ++
      (lib.string.write header.reasonPhrase ++
        header.finalAckFrame.write lib))

def read (lib : Fusionary) : Reader CloseFrameHeader := do
  expectByte FrameType.close.toUnderlying
  let errorCode ← (lib.bigUint 4).read
  let reasonPhrase ← lib.string.read
  let finalAckFrame ← AckFrameHeader.read lib
  return { errorCode, reasonPhrase, finalAckFrame }

end CloseFrameHeader

namespace SettingsFrameHeader

def write (lib : Fusionary) (header : SettingsFrameHeader) : Bytes :=
  FrameType.settings.toUnderlying ::
    (lib.bigUint 2).write header.numberOfSettings

def read (lib : Fusionary) : Reader SettingsFrameHeader := do
  expectByte FrameType.settings.toUnderlying
  let numberOfSettings ← (lib.bigUint 2).read
  return { numberOfSettings }

end SettingsFrameHeader

namespace PriorityFrameHeader

def write (lib : Fusionary) (header : PriorityFrameHeader) : Bytes :=
  FrameType.priority.toUnderlying ::
    ((lib.uint 4).write header.lsid ++
      (lib.uint 4).write header.priorityValue)

def read (lib : Fusionary) : Reader PriorityFrameHeader := do
  expectByte FrameType.priority.toUnderlying
  let lsid ← (lib.uint 4).read
  let priorityValue ← (lib.uint 4).read
  return { lsid, priorityValue }

end PriorityFrameHeader

/-- The header of a frame of any of the ten types. -/
inductive FrameHeader where
  | empty (header : EmptyFrameHeader)
  | stream (header : StreamFrameHeader)
  | ack (header : AckFrameHeader)
  | padding (header : PaddingFrameHeader)
  | decongestion (header : DecongestionFrameHeader)
  | detach (header : DetachFrameHeader)
  | reset (header : ResetFrameHeader)
  | close (header : CloseFrameHeader)
  | settings (header : SettingsFrameHeader)
  | priority (header : PriorityFrameHeader)
  deriving DecidableEq, Repr

namespace FrameHeader

def type : FrameHeader → FrameType
  | .empty _ => .empty
  | .stream _ => .stream
  | .ack _ => .ack
  | .padding _ => .padding
  | .decongestion _ => .decongestion
  | .detach _ => .detach
  | .reset _ => .reset
  | .close _ => .close
  | .settings _ => .settings
  | .priority _ => .priority

/-- The bytes `packet_frame_t::write` puts into the output buffer. -/
def write (lib : Fusionary) : FrameHeader → Bytes
  | .empty header => header.write
  | .stream header => header.write lib
  | .ack header => header.write lib
  | .padding header => header.write lib
  | .decongestion header => header.write lib
  | .detach header => header.write lib
  | .reset header => header.write lib
  | .close header => header.write lib
  | .settings header => header.write lib
  | .priority header => header.write lib

/-- `packet_frame_t::read` for the frame class of the given type: the header
read, and the buffer advanced past it. -/
def read (lib : Fusionary) : FrameType → Reader FrameHeader
  | .empty => .empty <$> EmptyFrameHeader.read
  | .stream => .stream <$> StreamFrameHeader.read lib
  | .ack => .ack <$> AckFrameHeader.read lib
  | .padding => .padding <$> PaddingFrameHeader.read lib
  | .decongestion => .decongestion <$> DecongestionFrameHeader.read lib
  | .detach => .detach <$> DetachFrameHeader.read lib
  | .reset => .reset <$> ResetFrameHeader.read lib
  | .close => .close <$> CloseFrameHeader.read lib
  | .settings => .settings <$> SettingsFrameHeader.read lib
  | .priority => .priority <$> PriorityFrameHeader.read lib

end FrameHeader

end StructuredStreams
