import DriversAdapter.Base.Memory
import DriversAdapter.Base.Word

/-! Firmware files of the OSAL, read block after block. A block is the last one where the offset
behind it, as a sum of 32 bits, is not below the size. -/
namespace DriversAdapter.Osal
open DriversAdapter.Base

def hdfFwBlockSize : UInt32 := 64

/-- A file, of which a read delivers what is asked for up to its end. -/
structure FwFile where
  content : Bytes
  size : Nat

def FwFile.read (file : FwFile) (offset count : Nat) : Block :=
  chunk file.content offset (min count (file.size - offset))

/-- A descriptor stands for its file; -1 is none. -/
structure OsalFwDesc where
  fd : Option FwFile
  offset : UInt32
  openFlag : Bool

structure OsalFirmware where
  fwSize : UInt32
  para : Option OsalFwDesc

/-- A block, with what the buffer it points to holds when the call returns. -/
structure OsalFwBlock where
  data : Block
  dataSize : UInt32
  curOffset : UInt32
  endFlag : Bool

structure FwRequestOutcomes where
  realpath : Bool
  opened : Bool
  fstat : Bool
  osalMemCalloc : Bool

section Code

def osalRequestFirmware (out : FwRequestOutcomes) (file : FwFile) : Int × OsalFirmware :=
  if out.realpath = false then (hdfFailure,⟨0,none⟩)
  else if out.opened = false then (hdfFailure,⟨0,none⟩)
  else if out.fstat = false then (hdfFailure,⟨0,none⟩)
  else if out.osalMemCalloc = false then (hdfErrMallocFail,⟨0,none⟩)
  else (hdfSuccess,⟨UInt32.ofNat file.size,some ⟨some file,0,true⟩⟩)

def osalSeekFirmware (fwPara : OsalFirmware) (offset : UInt32) : Int × OsalFirmware :=
  if fwPara.fwSize ≤ offset then (hdfErrInvalidParam,fwPara)
  else match fwPara.para with
  | none => (hdfErrInvalidParam,fwPara)
  | some fw => (hdfSuccess,{fwPara with para := some {fw with offset := offset}})

/-- How much a block holds, and whether it is the last one. -/
def blockSize (fwSize offset : UInt32) : UInt32 × Bool :=
  if fwSize ≤ offset + hdfFwBlockSize then (fwSize - offset,true) else (hdfFwBlockSize,false)

def osalReadFirmware (fwPara : OsalFirmware) (block : OsalFwBlock) :
    Int × OsalFwBlock × OsalFirmware :=
  match fwPara.para with
  | none => (hdfErrInvalidParam,block,fwPara)
  | some fw =>
    if fw.openFlag = false then (hdfErrInvalidParam,block,fwPara)
    else if fwPara.fwSize ≤ fw.offset then
      (hdfErrInvalidParam,{block with endFlag := false,dataSize := hdfFwBlockSize},fwPara)
    else
      let bounds := blockSize fwPara.fwSize fw.offset
      match fw.fd with
      | none => (hdfErrInvalidParam,{block with endFlag := bounds.2,dataSize := bounds.1},fwPara)
      | some file =>
        let data := file.read fw.offset.toNat bounds.1.toNat
        if UInt32.ofNat data.length ≠ bounds.1 then
          (hdfFailure,⟨data,bounds.1,block.curOffset,bounds.2⟩,fwPara)
        else (hdfSuccess,⟨data,bounds.1,fw.offset,bounds.2⟩,
          {fwPara with para := some {fw with offset := fw.offset + bounds.1}})

end Code

/-- The blocks of calls up to one that sets the end flag, if so many calls get there and none of
them fails. -/
def readFirmware : Nat → OsalFirmware → Option (List OsalFwBlock)
  | 0, _ => none
  | calls + 1, fwPara =>
    let done := osalReadFirmware fwPara ⟨[],0,0,false⟩
    if done.1 ≠ hdfSuccess then none
    else if done.2.1.endFlag then some [done.2.1]
    else (readFirmware calls done.2.2).map (done.2.1::·)

/-- A file that is open, at an offset in it. -/
def FwFile.at (file : FwFile) (offset : UInt32) : OsalFirmware :=
  ⟨UInt32.ofNat file.size,some ⟨some file,offset,true⟩⟩

/-- The last block begins here when blocks are counted from the offset. -/
def lastBlock (size offset : Nat) : Nat := offset + 64 * ((size - 1 - offset) / 64)

/-- These blocks are the content from the offset on, only the last one has the end flag, and no
offset in them wraps. -/
structure FwFile.Whole (file : FwFile) (offset : Nat) (blocks : List OsalFwBlock) : Prop where
  content : (blocks.map OsalFwBlock.data).flatten =
    chunk file.content offset (file.size - offset)
  flags : ∀ i block, blocks[i]? = some block → (block.endFlag = true ↔ i + 1 = blocks.length)
  offsets : ∀ block ∈ blocks, block.curOffset.toNat + hdfFwBlockSize.toNat < 2^32 ∧
    block.curOffset.toNat + block.dataSize.toNat < 2^32

/-- The calls come to their end without an error, and with the whole file. -/
def FwFile.Delivered (file : FwFile) (fwPara : OsalFirmware) (offset : Nat) : Prop :=
  ∃ calls blocks, readFirmware calls fwPara = some blocks ∧ file.Whole offset blocks

section Read
variable {file : FwFile} {offset : UInt32} (size : file.size < 2^32)
variable (inside : offset.toNat < file.size) (block : OsalFwBlock)

include size in
theorem fwSize_toNat : (UInt32.ofNat file.size).toNat = file.size := by
  rw [UInt32.toNat_ofNat']
  exact Nat.mod_eq_of_lt size

theorem behind_toNat (low : offset.toNat + 64 < 2^32) :
    (offset + hdfFwBlockSize).toNat = offset.toNat + 64 := by
  rw [UInt32.toNat_add]
  exact Nat.mod_eq_of_lt low

include size inside in
theorem read_at : osalReadFirmware (file.at offset) block =
    let bounds := blockSize (UInt32.ofNat file.size) offset
    let data := file.read offset.toNat bounds.1.toNat
    if UInt32.ofNat data.length ≠ bounds.1 then
      (hdfFailure,⟨data,bounds.1,block.curOffset,bounds.2⟩,file.at offset)
    else (hdfSuccess,⟨data,bounds.1,offset,bounds.2⟩,file.at (offset + bounds.1)) := by
  have before : ¬ UInt32.ofNat file.size ≤ offset := by
    rw [UInt32.le_iff_toNat_le,fwSize_toNat size]
    exact Nat.not_le.mpr inside
  have opened : ¬ true = false := Bool.true_eq_false.mp
  unfold osalReadFirmware FwFile.at
  dsimp only
  rw [if_neg opened,if_neg before]

include size in
/-- A block that is not the last one. -/
theorem read_middle (before : offset.toNat + 64 < file.size) :
    osalReadFirmware (file.at offset) block =
      (hdfSuccess,⟨chunk file.content offset.toNat 64,hdfFwBlockSize,offset,false⟩,
        file.at (offset + hdfFwBlockSize)) := by
  have bounds : blockSize (UInt32.ofNat file.size) offset = (hdfFwBlockSize,false) := by
    unfold blockSize
    rw [if_neg]
    rw [UInt32.le_iff_toNat_le,fwSize_toNat size,behind_toNat (by omega)]
    omega
  have whole : min hdfFwBlockSize.toNat (file.size - offset.toNat) = 64 := by
    show min 64 _ = 64
    omega
  rw [read_at size (by omega),bounds]
  simp only [FwFile.read,whole,chunk_length]
  rfl

include size inside in
theorem read_last (low : offset.toNat + 64 < 2^32) (last : file.size ≤ offset.toNat + 64) :
    ∃ after, osalReadFirmware (file.at offset) block =
      (hdfSuccess,⟨chunk file.content offset.toNat (file.size - offset.toNat),
        UInt32.ofNat file.size - offset,offset,true⟩,after) := by
  have bounds : blockSize (UInt32.ofNat file.size) offset =
      (UInt32.ofNat file.size - offset,true) := by
    unfold blockSize
    rw [if_pos]
    rw [UInt32.le_iff_toNat_le,fwSize_toNat size,behind_toNat low]
    exact last
  have rest : (UInt32.ofNat file.size - offset).toNat = file.size - offset.toNat := by
    rw [UInt32.toNat_sub_of_le,fwSize_toNat size]
    rw [UInt32.le_iff_toNat_le,fwSize_toNat size]
    omega
  rw [read_at size inside,bounds]
  simp only [FwFile.read,rest,Nat.min_self,chunk_length]
  rw [if_neg]
  · exact ⟨_,rfl⟩
  · rw [not_not,← rest,UInt32.ofNat_toNat]

include size inside in
/-- The sum wraps: the block seems to be a whole one, and the file is too short for it. -/
theorem read_wrapped (high : 2^32 ≤ offset.toNat + 64) :
    (osalReadFirmware (file.at offset) block).1 = hdfFailure := by
  have wrapped : (offset + hdfFwBlockSize).toNat = offset.toNat + 64 - 2^32 := by
    have word := offset.toNat_lt
    rw [UInt32.toNat_add]
    show (offset.toNat + 64) % 2^32 = _
    omega
  have bounds : blockSize (UInt32.ofNat file.size) offset = (hdfFwBlockSize,false) := by
    have word := offset.toNat_lt
    unfold blockSize
    rw [if_neg]
    rw [UInt32.le_iff_toNat_le,fwSize_toNat size,wrapped]
    omega
  have short : UInt32.ofNat (min hdfFwBlockSize.toNat (file.size - offset.toNat)) ≠
      hdfFwBlockSize := by
    intro same
    have count := congrArg UInt32.toNat same
    have block : hdfFwBlockSize.toNat = 64 := rfl
    rw [UInt32.toNat_ofNat',block] at count
    omega
  rw [read_at size inside,bounds]
  simp only [FwFile.read,chunk_length]
  rw [if_pos short]

end Read

section Blocks
variable {file : FwFile} (size : file.size < 2^32)

theorem lastBlock_here (offset : Nat) (inside : offset < file.size)
    (last : file.size ≤ offset + 64) : lastBlock file.size offset = offset := by
  have none : (file.size - 1 - offset) / 64 = 0 := Nat.div_eq_of_lt (by omega)
  rw [lastBlock,none,Nat.mul_zero,Nat.add_zero]

theorem lastBlock_behind (offset : Nat) (before : offset + 64 < file.size) :
    lastBlock file.size offset = lastBlock file.size (offset + 64) := by
  have one : file.size - 1 - offset = file.size - 1 - (offset + 64) + 64 := by omega
  unfold lastBlock
  rw [one,Nat.add_div_right _ (Nat.succ_pos 63)]
  show offset + 64 * ((file.size - 1 - (offset + 64)) / 64 + 1) = _
  omega

theorem readFirmware_last {fwPara after : OsalFirmware} {block : OsalFwBlock} (calls : Nat)
    (done : osalReadFirmware fwPara ⟨[],0,0,false⟩ = (hdfSuccess,block,after))
    (ends : block.endFlag = true) : readFirmware (calls + 1) fwPara = some [block] := by
  unfold readFirmware
  rw [done]
  dsimp only
  rw [if_neg (not_not.mpr rfl),if_pos ends]

theorem readFirmware_more {fwPara after : OsalFirmware} {block : OsalFwBlock} (calls : Nat)
    (done : osalReadFirmware fwPara ⟨[],0,0,false⟩ = (hdfSuccess,block,after))
    (more : block.endFlag = false) :
    readFirmware (calls + 1) fwPara = (readFirmware calls after).map (block::·) := by
  have goes : ¬ block.endFlag = true := by simp [more]
  rw [readFirmware,done]
  dsimp only
  rw [if_neg (not_not.mpr rfl),if_neg goes]

include size in
theorem whole_last (offset : UInt32) (inside : offset.toNat < file.size)
    (low : offset.toNat + 64 < 2^32) :
    file.Whole offset.toNat [⟨chunk file.content offset.toNat (file.size - offset.toNat),
      UInt32.ofNat file.size - offset,offset,true⟩] := by
  have rest : (UInt32.ofNat file.size - offset).toNat = file.size - offset.toNat := by
    rw [UInt32.toNat_sub_of_le,fwSize_toNat size]
    rw [UInt32.le_iff_toNat_le,fwSize_toNat size]
    omega
  refine ⟨List.append_nil _,fun i block here => ?_,fun block member => ?_⟩
  · cases i with
    | zero =>
      cases here
      exact iff_of_true rfl rfl
    | succ i => contradiction
  · rw [List.mem_singleton.mp member]
    dsimp only
    rw [rest]
    exact ⟨low,by omega⟩

theorem whole_cons (offset : UInt32) (before : offset.toNat + 64 < file.size)
    (low : offset.toNat + 64 < 2^32) (blocks : List OsalFwBlock)
    (whole : file.Whole (offset.toNat + 64) blocks) :
    file.Whole offset.toNat
      (⟨chunk file.content offset.toNat 64,hdfFwBlockSize,offset,false⟩::blocks) := by
  have some_block : blocks ≠ [] := by
    rintro rfl
    have length := congrArg List.length whole.content
    rw [chunk_length] at length
    simp at length
    omega
  refine ⟨?_,fun i block here => ?_,fun block member => ?_⟩
  · have together : 64 + (file.size - (offset.toNat + 64)) = file.size - offset.toNat := by omega
    rw [List.map_cons,List.flatten_cons,whole.content,chunk_append,together]
  · cases i with
    | zero =>
      cases here
      have length := List.length_pos_of_ne_nil some_block
      refine iff_of_false Bool.false_ne_true ?_
      rw [List.length_cons]
      omega
    | succ i =>
      rw [whole.flags i block here,List.length_cons]
      omega
  · rcases List.mem_cons.mp member with rfl | later
    · exact ⟨low,low⟩
    · exact whole.offsets block later

include size in
/-- Every block up to the last begins low enough: by induction on what is left of the file. -/
theorem delivered_of_low (left : Nat) (offset : UInt32) (rest : file.size - offset.toNat = left)
    (inside : offset.toNat < file.size) (low : lastBlock file.size offset.toNat + 64 < 2^32) :
    file.Delivered (file.at offset) offset.toNat := by
  induction left using Nat.strong_induction_on generalizing offset with
  | _ left ih =>
    by_cases last : file.size ≤ offset.toNat + 64
    · rw [lastBlock_here offset.toNat inside last] at low
      obtain ⟨after,done⟩ := read_last size inside ⟨[],0,0,false⟩ low last
      exact ⟨1,_,readFirmware_last 0 done rfl,whole_last size offset inside low⟩
    · have before : offset.toNat + 64 < file.size := Nat.not_le.mp last
      have room : offset.toNat + 64 < 2^32 := before.trans size
      have next := behind_toNat room
      have done := read_middle size ⟨[],0,0,false⟩ before
      rw [lastBlock_behind offset.toNat before,← next] at low
      obtain ⟨calls,blocks,ran,whole⟩ :=
        ih _ (by omega) (offset + hdfFwBlockSize) rfl (by omega) low
      rw [next] at whole
      refine ⟨calls + 1,_,?_,whole_cons offset before room blocks whole⟩
      rw [readFirmware_more calls done rfl,ran]
      rfl

include size in
/-- However many calls there are, they do not get past a last block that begins too high. -/
theorem readFirmware_high (calls : Nat) (offset : UInt32) (inside : offset.toNat < file.size)
    (high : 2^32 ≤ lastBlock file.size offset.toNat + 64) :
    readFirmware calls (file.at offset) = none := by
  induction calls generalizing offset with
  | zero => rfl
  | succ calls ih =>
    by_cases last : file.size ≤ offset.toNat + 64
    · rw [lastBlock_here offset.toNat inside last] at high
      have failed : hdfFailure ≠ hdfSuccess := by decide
      unfold readFirmware
      dsimp only
      rw [read_wrapped size inside ⟨[],0,0,false⟩ high,if_pos failed]
    · have before : offset.toNat + 64 < file.size := Nat.not_le.mp last
      have next := behind_toNat (before.trans size)
      rw [lastBlock_behind offset.toNat before,← next] at high
      rw [readFirmware_more calls (read_middle size ⟨[],0,0,false⟩ before) rfl,
        ih (offset + hdfFwBlockSize) (by omega) high]
      rfl

end Blocks

/-- The start that is sought, if one is. -/
def seekStart (fwPara : OsalFirmware) (start : Option UInt32) : Int × OsalFirmware :=
  match start with
  | none => (hdfSuccess,fwPara)
  | some offset => osalSeekFirmware fwPara offset

theorem request_success (out : FwRequestOutcomes) (file : FwFile)
    (ok : (osalRequestFirmware out file).1 = hdfSuccess) :
    (osalRequestFirmware out file).2 = file.at 0 := by
  have failed : hdfFailure ≠ hdfSuccess := by decide
  have malloc : hdfErrMallocFail ≠ hdfSuccess := by decide
  unfold osalRequestFirmware at ok ⊢
  split_ifs at ok ⊢
  · exact absurd ok failed
  · exact absurd ok failed
  · exact absurd ok failed
  · exact absurd ok malloc
  · rfl

theorem seekStart_success (file : FwFile) (lower : 1 ≤ file.size) (size : file.size < 2^32)
    (start : Option UInt32) (ok : (seekStart (file.at 0) start).1 = hdfSuccess) :
    (start.getD 0).toNat < file.size ∧
      (seekStart (file.at 0) start).2 = file.at (start.getD 0) := by
  cases start with
  | none => exact ⟨lower,rfl⟩
  | some offset =>
    have param : hdfErrInvalidParam ≠ hdfSuccess := by decide
    by_cases outside : UInt32.ofNat file.size ≤ offset
    · unfold seekStart osalSeekFirmware FwFile.at at ok
      dsimp only at ok
      rw [if_pos outside] at ok
      exact absurd ok param
    · refine ⟨?_,?_⟩
      · rw [UInt32.le_iff_toNat_le,fwSize_toNat size] at outside
        exact Nat.not_le.mp outside
      · unfold seekStart osalSeekFirmware FwFile.at
        dsimp only
        rw [if_neg outside]
        rfl

/-- A file that has been requested, and sought in or not, is read whole exactly where the last
block begins more than a block below the end of the offsets. -/
theorem osalReadFirmware_delivered_iff (out : FwRequestOutcomes) (file : FwFile)
    (lower : 1 ≤ file.size) (size : file.size < 2^32) (start : Option UInt32)
    (requested : (osalRequestFirmware out file).1 = hdfSuccess)
    (accepted : (seekStart (osalRequestFirmware out file).2 start).1 = hdfSuccess) :
    file.Delivered (seekStart (osalRequestFirmware out file).2 start).2 (start.getD 0).toNat ↔
      lastBlock file.size (start.getD 0).toNat + 64 < 2^32 := by
  rw [request_success out file requested] at accepted ⊢
  obtain ⟨inside,sought⟩ := seekStart_success file lower size start accepted
  rw [sought]
  constructor
  · rintro ⟨calls,blocks,ran,_⟩
    by_contra high
    rw [readFirmware_high size calls _ inside (Nat.not_lt.mp high)] at ran
    contradiction
  · exact delivered_of_low size _ _ rfl inside

theorem osalReadFirmware_delivered_short :
    FwFile.Delivered ⟨fun _ => 7,100⟩
      (seekStart (osalRequestFirmware ⟨true,true,true,true⟩ ⟨fun _ => 7,100⟩).2 (some 10)).2 10 :=
  (osalReadFirmware_delivered_iff ⟨true,true,true,true⟩ ⟨fun _ => 7,100⟩ (by decide) (by decide)
    (some 10) (by decide) (by decide)).mpr (by decide)

/-- One byte less than 4 GiB, from the start. -/
theorem osalReadFirmware_not_delivered :
    ¬ FwFile.Delivered ⟨fun _ => 7,2^32 - 1⟩
      (seekStart (osalRequestFirmware ⟨true,true,true,true⟩ ⟨fun _ => 7,2^32 - 1⟩).2 none).2 0 := by
  rintro ⟨calls,blocks,ran,_⟩
  have high : readFirmware calls (FwFile.at ⟨fun _ => 7,2^32 - 1⟩ 0) = none :=
    readFirmware_high (by decide) calls 0 (by decide) (by decide)
  exact absurd (high.symm.trans ran) (Option.some_ne_none blocks).symm

end DriversAdapter.Osal
