import StructuredStreams.Foundation.FlagWord
import StructuredStreams.Foundation.SlotTable
import StructuredStreams.Service.Negotiation
import StructuredStreams.Shell.Session

/-!
# Terminal modes on the wire

`termpack` writes a `termios` structure into an archive under numbers that do
not depend on the system, and `termunpack` reads it back on another system.
Both go through the flags one by one: the tables of the two functions are
transcribed separately, line by line.  The warnings about unknown speeds are
left out.
-/

namespace StructuredStreams.Shell

open ByteCodec FlagWord

-- Terminal input flags.
def tBrkint : BitVec 32 := 0x0001
def tIcrnl : BitVec 32 := 0x0002
def tIgnbrk : BitVec 32 := 0x0004
def tIgncr : BitVec 32 := 0x0008
def tIgnpar : BitVec 32 := 0x0010
def tInlcr : BitVec 32 := 0x0020
def tInpck : BitVec 32 := 0x0040
def tIstrip : BitVec 32 := 0x0080
def tIxany : BitVec 32 := 0x0100
def tIxoff : BitVec 32 := 0x0200
def tIxon : BitVec 32 := 0x0400
def tParmrk : BitVec 32 := 0x0800
def tIuclc : BitVec 32 := 0x1000

-- Terminal output flags.
def tOpost : BitVec 32 := 0x0001
def tOlcuc : BitVec 32 := 0x0002
def tOnlcr : BitVec 32 := 0x0004
def tOcrnl : BitVec 32 := 0x0008
def tOnocr : BitVec 32 := 0x0010
def tOnlret : BitVec 32 := 0x0020

-- Terminal control flags.
def tCs8 : BitVec 32 := 0x0001
def tCstopb : BitVec 32 := 0x0002
def tParenb : BitVec 32 := 0x0004
def tParodd : BitVec 32 := 0x0008
def tHupcl : BitVec 32 := 0x0010
def tClocal : BitVec 32 := 0x0020

-- Terminal local flags.
def tEcho : BitVec 32 := 0x0001
def tEchoe : BitVec 32 := 0x0002
def tEchok : BitVec 32 := 0x0004
def tEchonl : BitVec 32 := 0x0008
def tIcanon : BitVec 32 := 0x0010
def tIexten : BitVec 32 := 0x0020
def tIsig : BitVec 32 := 0x0040
def tNoflsh : BitVec 32 := 0x0080
def tTostop : BitVec 32 := 0x0100

-- Special character indexes.
def tVeof : Nat := 0
def tVeol : Nat := 1
def tVerase : Nat := 2
def tVintr : Nat := 3
def tVkill : Nat := 4
def tVquit : Nat := 5
def tVstart : Nat := 6
def tVstop : Nat := 7
def tVsusp : Nat := 8
def tNccs : Nat := 9

/-- The constants of `<termios.h>`.  `IUCLC` and `OLCUC` are not defined
everywhere. -/
structure TermiosConstants where
  /-- The bits of `tcflag_t`. -/
  width : Nat
  brkint : BitVec width
  icrnl : BitVec width
  ignbrk : BitVec width
  igncr : BitVec width
  ignpar : BitVec width
  inlcr : BitVec width
  inpck : BitVec width
  istrip : BitVec width
  ixany : BitVec width
  ixoff : BitVec width
  ixon : BitVec width
  parmrk : BitVec width
  iuclc : Option (BitVec width)
  opost : BitVec width
  olcuc : Option (BitVec width)
  onlcr : BitVec width
  ocrnl : BitVec width
  onocr : BitVec width
  onlret : BitVec width
  csize : BitVec width
  cs7 : BitVec width
  cs8 : BitVec width
  cstopb : BitVec width
  parenb : BitVec width
  parodd : BitVec width
  hupcl : BitVec width
  clocal : BitVec width
  echo : BitVec width
  echoe : BitVec width
  echok : BitVec width
  echonl : BitVec width
  icanon : BitVec width
  iexten : BitVec width
  isig : BitVec width
  noflsh : BitVec width
  tostop : BitVec width
  /-- Speeds are numbers of the type `speed_t`. -/
  b0 : Nat
  b50 : Nat
  b75 : Nat
  b110 : Nat
  b134 : Nat
  b150 : Nat
  b200 : Nat
  b300 : Nat
  b600 : Nat
  b1200 : Nat
  b1800 : Nat
  b2400 : Nat
  b4800 : Nat
  b9600 : Nat
  b19200 : Nat
  b38400 : Nat
  /-- The size of `c_cc`. -/
  nccs : Nat
  veof : Fin nccs
  veol : Fin nccs
  verase : Fin nccs
  vintr : Fin nccs
  vkill : Fin nccs
  vquit : Fin nccs
  vstart : Fin nccs
  vstop : Fin nccs
  vsusp : Fin nccs

namespace TermiosConstants

variable (host : TermiosConstants)

/-- The input flags that the protocol encodes. -/
def inputFlags : List (BitVec host.width) :=
  [host.brkint, host.icrnl, host.ignbrk, host.igncr, host.ignpar,
    host.inlcr, host.inpck, host.istrip, host.ixany, host.ixoff,
    host.ixon, host.parmrk] ++
    host.iuclc.toList

def outputFlags : List (BitVec host.width) :=
  [host.opost] ++ host.olcuc.toList ++
    [host.onlcr, host.ocrnl, host.onocr, host.onlret]

/-- The control flags beside the character size. -/
def controlFlags : List (BitVec host.width) :=
  [host.cstopb, host.parenb, host.parodd, host.hupcl, host.clocal]

def localFlags : List (BitVec host.width) :=
  [host.echo, host.echoe, host.echok, host.echonl, host.icanon,
    host.iexten, host.isig, host.noflsh, host.tostop]

def speeds : List Nat :=
  [host.b0, host.b50, host.b75, host.b110, host.b134, host.b150,
    host.b200, host.b300, host.b600, host.b1200, host.b1800, host.b2400,
    host.b4800, host.b9600, host.b19200, host.b38400]

/-- The indexes of the special characters. -/
def characters : List (Fin host.nccs) :=
  [host.veof, host.veol, host.verase, host.vintr, host.vkill, host.vquit,
    host.vstart, host.vstop, host.vsusp]

end TermiosConstants

/-- A system whose flags are distinct single bits of their words.  The speeds
differ as the labels of a `switch` have to. -/
structure Platform extends TermiosConstants where
  input : DistinctBits toTermiosConstants.inputFlags
  output : DistinctBits toTermiosConstants.outputFlags
  control : DistinctBits toTermiosConstants.controlFlags
  locals : DistinctBits toTermiosConstants.localFlags
  /-- The two character sizes are values within `CSIZE`. -/
  sizes_within : cs7 &&& csize = cs7 ∧ cs8 &&& csize = cs8
  sizes_ne : cs7 ≠ cs8
  /-- No other control flag is within `CSIZE`. -/
  control_outside :
    ∀ flag ∈ toTermiosConstants.controlFlags, ¬ Sets flag csize
  speeds_nodup : toTermiosConstants.speeds.Nodup

/-- A `termios` structure without its system-specific parts. -/
structure Termios (host : TermiosConstants) where
  cIflag : BitVec host.width
  cOflag : BitVec host.width
  cCflag : BitVec host.width
  cLflag : BitVec host.width
  cIspeed : Nat
  cOspeed : Nat
  cCc : Fin host.nccs → UInt8

namespace TermiosConstants

variable (host : TermiosConstants)

/-- The cases of the `switch` in `termpackspeed`. -/
def speedPacking : List (Nat × UInt32) :=
  [(host.b0, 0),
    (host.b50, 50),
    (host.b75, 75),
    (host.b110, 110),
    (host.b134, 134),
    (host.b150, 150),
    (host.b200, 200),
    (host.b300, 300),
    (host.b600, 600),
    (host.b1200, 1200),
    (host.b1800, 1800),
    (host.b2400, 2400),
    (host.b4800, 4800),
    (host.b9600, 9600),
    (host.b19200, 19200),
    (host.b38400, 38400)]

def termpackspeed (speed : Nat) : UInt32 :=
  (host.speedPacking.lookup speed).getD 9600

def inputPacking : List (BitVec host.width × BitVec 32) :=
  [(host.brkint, tBrkint),
    (host.icrnl, tIcrnl),
    (host.ignbrk, tIgnbrk),
    (host.igncr, tIgncr),
    (host.ignpar, tIgnpar),
    (host.inlcr, tInlcr),
    (host.inpck, tInpck),
    (host.istrip, tIstrip),
    (host.ixany, tIxany),
    (host.ixoff, tIxoff),
    (host.ixon, tIxon),
    (host.parmrk, tParmrk)] ++
    -- `#ifdef IUCLC`
    (host.iuclc.map fun iuclc => (iuclc, tIuclc)).toList

def outputPacking : List (BitVec host.width × BitVec 32) :=
  [(host.opost, tOpost)] ++
    -- `#ifdef OLCUC`
    (host.olcuc.map fun olcuc => (olcuc, tOlcuc)).toList ++
    [(host.onlcr, tOnlcr),
      (host.ocrnl, tOcrnl),
      (host.onocr, tOnocr),
      (host.onlret, tOnlret)]

def controlPacking : List (BitVec host.width × BitVec 32) :=
  [(host.cstopb, tCstopb),
    (host.parenb, tParenb),
    (host.parodd, tParodd),
    (host.hupcl, tHupcl),
    (host.clocal, tClocal)]

def localPacking : List (BitVec host.width × BitVec 32) :=
  [(host.echo, tEcho),
    (host.echoe, tEchoe),
    (host.echok, tEchok),
    (host.echonl, tEchonl),
    (host.icanon, tIcanon),
    (host.iexten, tIexten),
    (host.isig, tIsig),
    (host.noflsh, tNoflsh),
    (host.tostop, tTostop)]

def characterPacking : List (Fin host.nccs × Nat) :=
  [(host.veof, tVeof),
    (host.veol, tVeol),
    (host.verase, tVerase),
    (host.vintr, tVintr),
    (host.vkill, tVkill),
    (host.vquit, tVquit),
    (host.vstart, tVstart),
    (host.vstop, tVstop),
    (host.vsusp, tVsusp)]

/-- The character size comes before the other control flags. -/
def packSize (cflag : BitVec host.width) : BitVec 32 :=
  if cflag &&& host.csize = host.cs8 then 0 ||| tCs8 else 0

/-- The values that `termpack` writes. -/
def packModes (tios : Termios host) : TerminalModes where
  iflag := .ofBitVec (translate host.inputPacking tios.cIflag 0)
  oflag := .ofBitVec (translate host.outputPacking tios.cOflag 0)
  cflag :=
    .ofBitVec
      (translate host.controlPacking tios.cCflag
        (host.packSize tios.cCflag))
  lflag := .ofBitVec (translate host.localPacking tios.cLflag 0)
  ispeed := host.termpackspeed tios.cIspeed
  ospeed := host.termpackspeed tios.cOspeed
  cc :=
    SlotTable.gather host.characterPacking tios.cCc
      (List.replicate tNccs 0)

/-- The cases of the `switch` in `termunpackspeed`. -/
def speedUnpacking : List (UInt32 × Nat) :=
  [(0, host.b0),
    (50, host.b50),
    (75, host.b75),
    (110, host.b110),
    (134, host.b134),
    (150, host.b150),
    (200, host.b200),
    (300, host.b300),
    (600, host.b600),
    (1200, host.b1200),
    (1800, host.b1800),
    (2400, host.b2400),
    (4800, host.b4800),
    (9600, host.b9600),
    (19200, host.b19200),
    (38400, host.b38400)]

def termunpackspeed (speed : UInt32) : Nat :=
  (host.speedUnpacking.lookup speed).getD host.b9600

def inputUnpacking : List (BitVec 32 × BitVec host.width) :=
  [(tBrkint, host.brkint),
    (tIcrnl, host.icrnl),
    (tIgnbrk, host.ignbrk),
    (tIgncr, host.igncr),
    (tIgnpar, host.ignpar),
    (tInlcr, host.inlcr),
    (tInpck, host.inpck),
    (tIstrip, host.istrip),
    (tIxany, host.ixany),
    (tIxoff, host.ixoff),
    (tIxon, host.ixon),
    (tParmrk, host.parmrk)] ++
    -- `#ifdef IUCLC`
    (host.iuclc.map fun iuclc => (tIuclc, iuclc)).toList

def outputUnpacking : List (BitVec 32 × BitVec host.width) :=
  [(tOpost, host.opost)] ++
    -- `#ifdef OLCUC`
    (host.olcuc.map fun olcuc => (tOlcuc, olcuc)).toList ++
    [(tOnlcr, host.onlcr),
      (tOcrnl, host.ocrnl),
      (tOnocr, host.onocr),
      (tOnlret, host.onlret)]

def controlUnpacking : List (BitVec 32 × BitVec host.width) :=
  [(tCstopb, host.cstopb),
    (tParenb, host.parenb),
    (tParodd, host.parodd),
    (tHupcl, host.hupcl),
    (tClocal, host.clocal)]

def localUnpacking : List (BitVec 32 × BitVec host.width) :=
  [(tEcho, host.echo),
    (tEchoe, host.echoe),
    (tEchok, host.echok),
    (tEchonl, host.echonl),
    (tIcanon, host.icanon),
    (tIexten, host.iexten),
    (tIsig, host.isig),
    (tNoflsh, host.noflsh),
    (tTostop, host.tostop)]

def characterUnpacking : List (Fin host.nccs × Nat) :=
  [(host.veof, tVeof),
    (host.veol, tVeol),
    (host.verase, tVerase),
    (host.vintr, tVintr),
    (host.vkill, tVkill),
    (host.vquit, tVquit),
    (host.vstart, tVstart),
    (host.vstop, tVstop),
    (host.vsusp, tVsusp)]

def unpackSize (cflag : BitVec 32) : BitVec host.width :=
  if Sets cflag tCs8 then 0 ||| host.cs8 else 0 ||| host.cs7

/-- The loop that appends zeros until there are nine characters. -/
def padCharacters (cc : Bytes) : Bytes :=
  cc ++ List.replicate (tNccs - cc.length) 0

/-- What `termunpack` makes of the values it read, starting from a cleared
structure. -/
def unpackModes (modes : TerminalModes) : Termios host where
  cIflag := translate host.inputUnpacking modes.iflag.toBitVec 0
  cOflag := translate host.outputUnpacking modes.oflag.toBitVec 0
  cCflag :=
    translate host.controlUnpacking modes.cflag.toBitVec
      (host.unpackSize modes.cflag.toBitVec)
  cLflag := translate host.localUnpacking modes.lflag.toBitVec 0
  cIspeed := host.termunpackspeed modes.ispeed
  cOspeed := host.termunpackspeed modes.ospeed
  cCc :=
    SlotTable.scatter host.characterUnpacking (padCharacters modes.cc) 0
      fun _ => 0

end TermiosConstants

/-- What the serialization library provides. -/
structure Archive where
  uint32 : Codec UInt32
  byteArray : Codec Bytes

namespace Archive

variable (archive : Archive) (host : TermiosConstants)

/-- `xs << iflag << oflag << cflag << lflag << ispeed << ospeed << cc` -/
def writeModes (modes : TerminalModes) : Bytes :=
  archive.uint32.write modes.iflag ++
    (archive.uint32.write modes.oflag ++
      (archive.uint32.write modes.cflag ++
        (archive.uint32.write modes.lflag ++
          (archive.uint32.write modes.ispeed ++
            (archive.uint32.write modes.ospeed ++
              archive.byteArray.write modes.cc)))))

/-- `xs >> iflag >> oflag >> cflag >> lflag >> ispeed >> ospeed >> cc` -/
def readModes : Reader TerminalModes :=
  archive.uint32.read >>= fun iflag =>
  archive.uint32.read >>= fun oflag =>
  archive.uint32.read >>= fun cflag =>
  archive.uint32.read >>= fun lflag =>
  archive.uint32.read >>= fun ispeed =>
  archive.uint32.read >>= fun ospeed =>
  archive.byteArray.read >>= fun cc =>
  pure ⟨iflag, oflag, cflag, lflag, ispeed, ospeed, cc⟩

def termpack (tios : Termios host) : Bytes :=
  archive.writeModes (host.packModes tios)

def termunpack : Reader (Termios host) :=
  host.unpackModes <$> archive.readModes

theorem readModes_writeModes (modes : TerminalModes) (rest : Bytes) :
    archive.readModes (archive.writeModes modes ++ rest) =
      .ok (modes, rest) := by
  simp only [readModes, writeModes, List.append_assoc, Codec.read_bind]
  rfl

theorem termunpack_termpack (tios : Termios host) (rest : Bytes) :
    archive.termunpack host (archive.termpack host tios ++ rest) =
      .ok (host.unpackModes (host.packModes tios), rest) :=
  map_apply_ok (archive.readModes_writeModes _ rest)

end Archive

section Compact

open Service

/-- A byte array below 256 bytes is announced by its length.  A longer one,
for which this format is not meant, is marked byte by byte. -/
def writeBlob (data : Bytes) : Bytes :=
  if data.length < 256 then 0xc4 :: UInt8.ofNat data.length :: data
  else 0xc1 :: writeList oneByte data

def readBlob : Reader Bytes :=
  readByte >>= fun head =>
    if head = 0xc4 then
      readByte >>= fun size => readBytes size.toNat
    else if head = 0xc1 then (listOf oneByte).read
    else fun _ => .error "Not a byte array"

private theorem readBlob_writeBlob (data rest : Bytes) :
    readBlob (writeBlob data ++ rest) = .ok (data, rest) := by
  rw [writeBlob, readBlob]
  split
  · next short =>
      have size : (UInt8.ofNat data.length).toNat = data.length :=
        UInt8.toNat_ofNat_of_lt' short
      rw [List.cons_append, List.cons_append, readByte_bind, if_pos rfl,
        readByte_bind, size, readBytes, if_pos (by simp), List.take_left,
        List.drop_left]
  · rw [List.cons_append, readByte_bind]
    exact (listOf oneByte).read_write data rest

/-- An archive of the compact format. -/
def Archive.compact : Archive where
  uint32 :=
    Flurry.compact.uint32.convert UInt32.toBitVec UInt32.ofBitVec
      fun _ => rfl
  byteArray :=
    { write := writeBlob
      read := readBlob
      read_write := readBlob_writeBlob }

end Compact

end StructuredStreams.Shell
