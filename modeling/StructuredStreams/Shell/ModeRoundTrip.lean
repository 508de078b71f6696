import StructuredStreams.Foundation.Table
import StructuredStreams.Shell.Termios

/-!
# Terminal modes survive the wire

`SameModes` says what `termunpack` restores of the modes that `termpack` was
given: every flag of the protocol, the character size where it is `CS8`, the
speeds of the table and the special characters.  Each word of flags goes
through a faithful table and back; the character size is kept out of the
table of the control flags because it lies within `CSIZE`.
-/

namespace StructuredStreams.Shell

open ByteCodec FlagWord

/-- The speeds that the protocol does not know become 9600. -/
def TermiosConstants.carriedSpeed
    (host : TermiosConstants) (speed : Nat) : Nat :=
  if speed ∈ host.speeds then speed else host.b9600

/-- The modes `unpacked` are what the protocol carries of `tios`. -/
structure SameModes
    (platform : Platform)
    (tios unpacked : Termios platform.toTermiosConstants) : Prop where
  input : SameFlags platform.inputFlags tios.cIflag unpacked.cIflag
  onlyInput : OnlyFlags platform.inputFlags unpacked.cIflag
  output : SameFlags platform.outputFlags tios.cOflag unpacked.cOflag
  onlyOutput : OnlyFlags platform.outputFlags unpacked.cOflag
  characterSize :
    unpacked.cCflag &&& platform.csize =
      if tios.cCflag &&& platform.csize = platform.cs8 then platform.cs8
      else platform.cs7
  control : SameFlags platform.controlFlags tios.cCflag unpacked.cCflag
  onlyControl :
    OnlyFlags (platform.csize :: platform.controlFlags) unpacked.cCflag
  locals : SameFlags platform.localFlags tios.cLflag unpacked.cLflag
  onlyLocals : OnlyFlags platform.localFlags unpacked.cLflag
  ispeed : unpacked.cIspeed = platform.carriedSpeed tios.cIspeed
  ospeed : unpacked.cOspeed = platform.carriedSpeed tios.cOspeed
  characters :
    ∀ index ∈ platform.characters, unpacked.cCc index = tios.cCc index
  otherCharacters :
    ∀ index ∉ platform.characters, unpacked.cCc index = 0

section Tables

variable (host : TermiosConstants)

private theorem inputPacking_fst :
    host.inputPacking.map Prod.fst = host.inputFlags := by
  rw [TermiosConstants.inputPacking, TermiosConstants.inputFlags]
  cases host.iuclc <;> rfl

private theorem outputPacking_fst :
    host.outputPacking.map Prod.fst = host.outputFlags := by
  rw [TermiosConstants.outputPacking, TermiosConstants.outputFlags]
  cases host.olcuc <;> rfl

private theorem controlPacking_fst :
    host.controlPacking.map Prod.fst = host.controlFlags :=
  rfl

private theorem localPacking_fst :
    host.localPacking.map Prod.fst = host.localFlags :=
  rfl

private theorem inputUnpacking_eq :
    host.inputUnpacking = host.inputPacking.map Prod.swap := by
  rw [TermiosConstants.inputPacking, TermiosConstants.inputUnpacking]
  cases host.iuclc <;> rfl

private theorem outputUnpacking_eq :
    host.outputUnpacking = host.outputPacking.map Prod.swap := by
  rw [TermiosConstants.outputPacking, TermiosConstants.outputUnpacking]
  cases host.olcuc <;> rfl

private theorem controlUnpacking_eq :
    host.controlUnpacking = host.controlPacking.map Prod.swap :=
  rfl

private theorem localUnpacking_eq :
    host.localUnpacking = host.localPacking.map Prod.swap :=
  rfl

end Tables

private theorem inputValues_distinct :
    DistinctBits
      [tBrkint, tIcrnl, tIgnbrk, tIgncr, tIgnpar, tInlcr, tInpck, tIstrip,
        tIxany, tIxoff, tIxon, tParmrk, tIuclc] :=
  distinctBits_of_positions (List.range 13) rfl (by decide) (by decide)

private theorem outputValues_distinct :
    DistinctBits [tOpost, tOlcuc, tOnlcr, tOcrnl, tOnocr, tOnlret] :=
  distinctBits_of_positions (List.range 6) rfl (by decide) (by decide)

private theorem controlValues_distinct :
    DistinctBits [tCs8, tCstopb, tParenb, tParodd, tHupcl, tClocal] :=
  distinctBits_of_positions (List.range 6) rfl (by decide) (by decide)

private theorem localValues_distinct :
    DistinctBits
      [tEcho, tEchoe, tEchok, tEchonl, tIcanon, tIexten, tIsig, tNoflsh,
        tTostop] :=
  distinctBits_of_positions (List.range 9) rfl (by decide) (by decide)

namespace Platform

variable (platform : Platform)

private theorem inputPacking_faithful : Faithful platform.inputPacking := by
  constructor
  · rw [inputPacking_fst]
    exact platform.input
  · refine inputValues_distinct.sublist ?_
    rw [TermiosConstants.inputPacking]
    cases platform.iuclc with
    | none => exact List.sublist_append_left _ [tIuclc]
    | some iuclc => exact List.Sublist.refl _

private theorem outputPacking_faithful : Faithful platform.outputPacking := by
  constructor
  · rw [outputPacking_fst]
    exact platform.output
  · refine outputValues_distinct.sublist ?_
    rw [TermiosConstants.outputPacking]
    cases platform.olcuc with
    | none => exact (List.sublist_cons_self tOlcuc _).cons_cons tOpost
    | some olcuc => exact List.Sublist.refl _

private theorem controlPacking_faithful
    : Faithful platform.controlPacking where
  sources := platform.control
  targets := controlValues_distinct.sublist (List.sublist_cons_self tCs8 _)

private theorem localPacking_faithful : Faithful platform.localPacking where
  sources := platform.locals
  targets := localValues_distinct

end Platform

section CharacterSize

variable (platform : Platform) (cflag : BitVec platform.width)

private theorem controlPacking_not_sets_size :
    ∀ entry ∈ platform.controlPacking, ¬ Sets entry.2 tCs8 :=
  fun _ member =>
    controlValues_distinct.not_sets (List.mem_map_of_mem member)

private theorem packSize_eq :
    platform.packSize cflag =
      if cflag &&& platform.csize = platform.cs8 then tCs8 else 0 := by
  simp [TermiosConstants.packSize]

private theorem unpackSize_eq (packed : BitVec 32) :
    platform.unpackSize packed =
      if Sets packed tCs8 then platform.cs8 else platform.cs7 := by
  simp [TermiosConstants.unpackSize]

/-- The character size is packed into none of the other flags. -/
theorem packSize_not_sets :
    ∀ entry ∈ platform.controlPacking,
      ¬ Sets (platform.packSize cflag) entry.2 := by
  intro entry member
  rw [packSize_eq]
  split
  · rw [sets_comm]
    exact controlPacking_not_sets_size platform entry member
  · exact not_sets_zero entry.2

private theorem sets_packed_size :
    Sets
        (translate platform.controlPacking cflag
          (platform.packSize cflag))
        tCs8 ↔
      cflag &&& platform.csize = platform.cs8 := by
  rw [Sets, translate_and (controlPacking_not_sets_size platform),
    packSize_eq]
  split
  · next eightBits => exact iff_of_true (by decide) eightBits
  · next other => exact iff_of_false (by decide) other

private theorem unpackSize_within (packed : BitVec 32) :
    platform.unpackSize packed &&& platform.csize =
      platform.unpackSize packed := by
  rw [unpackSize_eq]
  split
  · exact platform.sizes_within.2
  · exact platform.sizes_within.1

private theorem controlUnpacking_not_sets_size :
    ∀ entry ∈ platform.controlUnpacking, ¬ Sets entry.2 platform.csize := by
  intro entry member
  rw [controlUnpacking_eq, List.mem_map] at member
  obtain ⟨source, sourceMember, rfl⟩ := member
  apply platform.control_outside
  rw [← controlPacking_fst]
  exact List.mem_map_of_mem sourceMember

/-- The character size is unpacked into none of the other flags. -/
theorem unpackSize_not_sets (packed : BitVec 32) :
    ∀ entry ∈ platform.controlPacking,
      ¬ Sets (platform.unpackSize packed) entry.1 := by
  intro entry member set
  have overlap := sets_comm.mp (set.of_within (unpackSize_within platform _))
  exact platform.control_outside entry.1 (List.mem_map_of_mem member) overlap

private theorem unpacked_size (packed : BitVec 32) :
    translate platform.controlUnpacking packed
          (platform.unpackSize packed) &&& platform.csize =
      platform.unpackSize packed := by
  rw [translate_and (controlUnpacking_not_sets_size platform)]
  exact unpackSize_within platform packed

end CharacterSize

section Speeds

variable (platform : Platform)

private theorem speedPacking_distinct : DistinctKeys platform.speedPacking :=
  platform.speeds_nodup

private theorem speedUnpacking_distinct (host : TermiosConstants) :
    DistinctKeys (host.speedPacking.map Prod.swap) := by
  have keys :
      (host.speedPacking.map Prod.swap).map Prod.fst =
        [0, 50, 75, 110, 134, 150, 200, 300, 600, 1200, 1800, 2400, 4800,
          9600, 19200, 38400] :=
    rfl
  rw [DistinctKeys, keys]
  decide

private theorem speedPacking_lookup_eq_none_iff
    {host : TermiosConstants} {speed : Nat} :
    host.speedPacking.lookup speed = none ↔ speed ∉ host.speeds :=
  lookup_eq_none_iff_not_mem

private theorem speedUnpacking_eq (host : TermiosConstants) :
    host.speedUnpacking = host.speedPacking.map Prod.swap :=
  rfl

private theorem termunpackspeed_termpackspeed
    (host : TermiosConstants) (speed : Nat) :
    host.termunpackspeed (host.termpackspeed speed) =
      host.carriedSpeed speed := by
  rw [TermiosConstants.termunpackspeed, TermiosConstants.termpackspeed,
    TermiosConstants.carriedSpeed, speedUnpacking_eq]
  cases found : host.speedPacking.lookup speed with
  | none =>
      rw [if_neg (speedPacking_lookup_eq_none_iff.mp found)]
      rfl
  | some packed =>
      have listed : speed ∈ host.speeds := by
        by_contra unlisted
        rw [speedPacking_lookup_eq_none_iff.mpr unlisted] at found
        cases found
      rw [if_pos listed, Option.getD_some,
        lookup_map_swap (speedUnpacking_distinct host) found]
      rfl

private theorem termpackspeed_carriedSpeed (speed : Nat) :
    platform.termpackspeed (platform.carriedSpeed speed) =
      platform.termpackspeed speed := by
  rw [TermiosConstants.carriedSpeed]
  split
  · rfl
  · next unlisted =>
      have member : (platform.b9600, 9600) ∈ platform.speedPacking := by
        simp [TermiosConstants.speedPacking]
      rw [TermiosConstants.termpackspeed, TermiosConstants.termpackspeed,
        speedPacking_lookup_eq_none_iff.mpr unlisted,
        (speedPacking_distinct platform).lookup_eq_some member]
      rfl

end Speeds

section Characters

variable (host : TermiosConstants)

/-- The protocol numbers its characters from zero on. -/
theorem characterPacking_snd :
    host.characterPacking.map Prod.snd = List.range tNccs :=
  rfl

private theorem packed_character
    (cc : Fin host.nccs → UInt8) {entry : Fin host.nccs × Nat}
    (member : entry ∈ host.characterPacking) :
    (SlotTable.gather host.characterPacking cc
      (List.replicate tNccs 0)).getD entry.2 0 = cc entry.1 := by
  have distinct : (host.characterPacking.map Prod.snd).Nodup := by
    rw [characterPacking_snd]
    exact List.nodup_range
  have bound : entry.2 < (List.replicate tNccs (0 : UInt8)).length := by
    rw [List.length_replicate, ← List.mem_range, ← characterPacking_snd]
    exact List.mem_map_of_mem member
  rw [List.getD_eq_getElem?_getD,
    SlotTable.gather_getElem? distinct cc member bound]
  rfl

private theorem padCharacters_packed (cc : Fin host.nccs → UInt8) :
    TermiosConstants.padCharacters
        (SlotTable.gather host.characterPacking cc
          (List.replicate tNccs 0)) =
      SlotTable.gather host.characterPacking cc
        (List.replicate tNccs 0) := by
  rw [TermiosConstants.padCharacters, SlotTable.gather_length,
    List.length_replicate, Nat.sub_self, List.replicate_zero,
    List.append_nil]

private theorem unpacked_character
    (tios : Termios host) (index : Fin host.nccs) :
    (index ∈ host.characters →
        (host.unpackModes (host.packModes tios)).cCc index =
          tios.cCc index) ∧
      (index ∉ host.characters →
        (host.unpackModes (host.packModes tios)).cCc index = 0) := by
  have unpacked :
      (host.unpackModes (host.packModes tios)).cCc =
        SlotTable.scatter host.characterPacking
          (SlotTable.gather host.characterPacking tios.cCc
            (List.replicate tNccs 0))
          0 fun _ => 0 := by
    rw [← padCharacters_packed]
    rfl
  rw [unpacked,
    SlotTable.scatter_apply fun _ => packed_character host tios.cCc]
  constructor
  · intro member
    exact if_pos member
  · intro absent
    exact if_neg absent

end Characters

section Modes

variable {platform : Platform}

/-- A word of flags that goes through the wire keeps the flags of its table
and nothing else. -/
theorem word_round_trip
    {flags : List (BitVec platform.width)}
    {packing : List (BitVec platform.width × BitVec 32)}
    {unpacking : List (BitVec 32 × BitVec platform.width)}
    (faithful : Faithful packing)
    (encoded : packing.map Prod.fst = flags)
    (reversed : unpacking = packing.map Prod.swap)
    (word : BitVec platform.width) :
    SameFlags flags word
        (translate unpacking
          (UInt32.ofBitVec (translate packing word 0)).toBitVec 0) ∧
      OnlyFlags flags
        (translate unpacking
          (UInt32.ofBitVec (translate packing word 0)).toBitVec 0) := by
  have targets : unpacking.map Prod.snd = flags := by
    rw [reversed, List.map_map, ← encoded]
    rfl
  constructor
  · rw [← encoded, reversed]
    exact
      faithful.sameFlags_back word (fun _ _ => not_sets_zero _)
        (fun _ _ => not_sets_zero _)
  · rw [← targets]
    exact onlyFlags_translate

theorem sameModes_round_trip
    (tios : Termios platform.toTermiosConstants) :
    SameModes platform tios
      (platform.unpackModes (platform.packModes tios)) := by
  obtain ⟨input, onlyInput⟩ :=
    word_round_trip platform.inputPacking_faithful (inputPacking_fst _)
      (inputUnpacking_eq _) tios.cIflag
  obtain ⟨output, onlyOutput⟩ :=
    word_round_trip platform.outputPacking_faithful (outputPacking_fst _)
      (outputUnpacking_eq _) tios.cOflag
  obtain ⟨locals, onlyLocals⟩ :=
    word_round_trip platform.localPacking_faithful (localPacking_fst _)
      (localUnpacking_eq _) tios.cLflag
  have size :=
    unpackSize_within platform (platform.packModes tios).cflag.toBitVec
  refine
    ⟨input, onlyInput, output, onlyOutput, ?_, ?_, ?_, locals, onlyLocals,
      termunpackspeed_termpackspeed _ _, termunpackspeed_termpackspeed _ _,
      fun index => (unpacked_character _ tios index).1,
      fun index => (unpacked_character _ tios index).2⟩
  · refine (unpacked_size platform _).trans ?_
    rw [unpackSize_eq]
    exact if_congr (sets_packed_size platform tios.cCflag) rfl rfl
  · exact
      platform.controlPacking_faithful.sameFlags_back tios.cCflag
        (packSize_not_sets platform tios.cCflag)
        (unpackSize_not_sets platform _)
  · exact onlyFlags_translate_within size

/-- What `termpack` writes is determined by what the protocol carries. -/
theorem SameModes.packModes_eq
    {tios unpacked : Termios platform.toTermiosConstants}
    (same : SameModes platform tios unpacked) :
    platform.packModes unpacked = platform.packModes tios := by
  have input := translate_congr (inputPacking_fst _) same.input 0
  have output := translate_congr (outputPacking_fst _) same.output 0
  have locals := translate_congr (localPacking_fst _) same.locals 0
  have size :
      platform.packSize unpacked.cCflag = platform.packSize tios.cCflag := by
    rw [packSize_eq, packSize_eq, same.characterSize]
    split
    · rw [if_pos rfl]
    · rw [if_neg platform.sizes_ne]
  have control :=
    translate_congr (controlPacking_fst _) same.control
      (platform.packSize tios.cCflag)
  have characters :
      ∀ entry ∈ platform.characterPacking,
        unpacked.cCc entry.1 = tios.cCc entry.1 :=
    fun _ member => same.characters _ (List.mem_map_of_mem member)
  rw [TermiosConstants.packModes, TermiosConstants.packModes, input, output,
    size, control, locals, same.ispeed, same.ospeed,
    termpackspeed_carriedSpeed, termpackspeed_carriedSpeed,
    SlotTable.gather_congr characters]

end Modes

/-- Unpacking what was packed restores the modes that the protocol carries,
and these are packed as they were before. -/
theorem terminal_modes_round_trip
    (platform : Platform) (archive : Archive)
    (tios : Termios platform.toTermiosConstants) (rest : Bytes) :
    ∃ unpacked,
      archive.termunpack _ (archive.termpack _ tios ++ rest) =
          .ok (unpacked, rest) ∧
        SameModes platform tios unpacked ∧
        archive.termpack _ unpacked = archive.termpack _ tios := by
  have same := sameModes_round_trip tios
  exact
    ⟨_, archive.termunpack_termpack _ tios rest, same,
      congrArg archive.writeModes same.packModes_eq⟩

def TermiosConstants.linux : TermiosConstants where
  width := 32
  brkint := 0x2
  icrnl := 0x100
  ignbrk := 0x1
  igncr := 0x80
  ignpar := 0x4
  inlcr := 0x40
  inpck := 0x10
  istrip := 0x20
  ixany := 0x800
  ixoff := 0x1000
  ixon := 0x400
  parmrk := 0x8
  iuclc := some 0x200
  opost := 0x1
  olcuc := some 0x2
  onlcr := 0x4
  ocrnl := 0x8
  onocr := 0x10
  onlret := 0x20
  csize := 0x30
  cs7 := 0x20
  cs8 := 0x30
  cstopb := 0x40
  parenb := 0x100
  parodd := 0x200
  hupcl := 0x400
  clocal := 0x800
  echo := 0x8
  echoe := 0x10
  echok := 0x20
  echonl := 0x40
  icanon := 0x2
  iexten := 0x8000
  isig := 0x1
  noflsh := 0x80
  tostop := 0x100
  b0 := 0
  b50 := 1
  b75 := 2
  b110 := 3
  b134 := 4
  b150 := 5
  b200 := 6
  b300 := 7
  b600 := 8
  b1200 := 9
  b1800 := 10
  b2400 := 11
  b4800 := 12
  b9600 := 13
  b19200 := 14
  b38400 := 15
  nccs := 32
  veof := 4
  veol := 11
  verase := 2
  vintr := 0
  vkill := 3
  vquit := 1
  vstart := 8
  vstop := 9
  vsusp := 10

def Platform.linux : Platform where
  toTermiosConstants := .linux
  input :=
    distinctBits_of_positions [1, 8, 0, 7, 2, 6, 4, 5, 11, 12, 10, 3, 9]
      rfl (by decide) (by decide)
  output :=
    distinctBits_of_positions [0, 1, 2, 3, 4, 5] rfl (by decide)
      (by decide)
  control :=
    distinctBits_of_positions [6, 8, 9, 10, 11] rfl (by decide) (by decide)
  locals :=
    distinctBits_of_positions [3, 4, 5, 6, 1, 15, 0, 7, 8] rfl (by decide)
      (by decide)
  sizes_within := ⟨rfl, rfl⟩
  sizes_ne := by decide
  control_outside := by
    have outside :
        ∀ flag ∈ [0x40#32, 0x100#32, 0x200#32, 0x400#32, 0x800#32],
          ¬ Sets flag 0x30#32 := by
      simp [Sets]
    exact outside
  speeds_nodup := by decide

/-- Eight bits at a speed that the protocol does not know. -/
def linuxModes : Termios Platform.linux.toTermiosConstants where
  cIflag := 0x4500
  cOflag := 0x5
  cCflag := 0xcbf
  cLflag := 0x8a3b
  cIspeed := 15
  cOspeed := 4098
  cCc := fun index => UInt8.ofNat index

theorem terminal_modes_round_trip_linux :
    ∃ unpacked,
      Archive.compact.termunpack _
            (Archive.compact.termpack _ linuxModes ++ [7]) =
          .ok (unpacked, [7]) ∧
        SameModes .linux linuxModes unpacked ∧
        Archive.compact.termpack _ unpacked =
          Archive.compact.termpack _ linuxModes :=
  terminal_modes_round_trip .linux .compact linuxModes [7]

end StructuredStreams.Shell
