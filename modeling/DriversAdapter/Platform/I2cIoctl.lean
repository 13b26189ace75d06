import DriversAdapter.Platform.I2cRdwr
import DriversAdapter.Semantics.Machine

/-! The I/O controls of an I2C device file. An address is looked at for the mode that the file
has when it is set; the mode changes by itself. -/
namespace DriversAdapter.Platform
open DriversAdapter.Base DriversAdapter.Semantics

inductive I2cIoctlCmd
  | client
  | clientForce
  | rdwr
  | sixteenBitReg
  | sixteenBitData
  | tenbit
  | pec
  | retries
  | timeout
  | other (cmd : Int32)
  deriving DecidableEq

/-- A call, with what a combined transfer finds at its argument. -/
structure I2cRequest where
  cmd : I2cIoctlCmd
  arg : UInt32
  wrap : I2cIoctlWrap
  user : Bytes
  world : I2cRdwrWorld

structure I2cReply where
  ret : Int
  user : Bytes

namespace I2cClient
variable {Handle : Type}

/-- `I2cFsOpen` takes the client as the allocator gives it, and the handle. -/
def opened (handle : Handle) : I2cClient Handle := ⟨handle,0,0⟩

def setFlag (client : I2cClient Handle) (flag : UInt16) (arg : UInt32) : I2cClient Handle :=
  if arg = 0 then {client with flags := client.flags &&& ~~~flag}
  else {client with flags := client.flags ||| flag}

def Ten (client : I2cClient Handle) : Prop := client.flags &&& i2cMTen ≠ 0

instance (client : I2cClient Handle) : Decidable client.Ten := inferInstanceAs (Decidable (_ ≠ _))

def i2cFsIoctl (request : I2cRequest) (client : I2cClient Handle) : I2cReply × I2cClient Handle :=
  match request.cmd with
  | .client | .clientForce =>
    if (¬ client.Ten ∧ 0xfe < request.arg) ∨ 0x3ff < request.arg then
      (⟨-einval,request.user⟩,client)
    else (⟨0,request.user⟩,{client with addr := request.arg.toUInt16})
  | .rdwr =>
    let done := i2cIoctlReadWrite request.world client
      (if request.arg = 0 then none else some request.wrap) request.user
    (⟨done.ret,done.user⟩,client)
  | .sixteenBitReg => (⟨0,request.user⟩,client.setFlag i2cM16BitReg request.arg)
  | .sixteenBitData => (⟨0,request.user⟩,client.setFlag i2cM16BitData request.arg)
  | .tenbit => (⟨0,request.user⟩,client.setFlag i2cMTen request.arg)
  | .pec | .retries | .timeout | .other _ => (⟨-einval,request.user⟩,client)

/-- The address would be taken for the mode that the file has. -/
def Addressed (client : I2cClient Handle) : Prop :=
  client.addr ≤ 0x3ff ∧ (¬ client.Ten → client.addr ≤ 0xfe)

instance (client : I2cClient Handle) : Decidable client.Addressed :=
  inferInstanceAs (Decidable (_ ∧ (_ → _)))

/-- A file leaves the ten-bit mode only with an address of seven bits. -/
def KeepsMode (request : I2cRequest) (client : I2cClient Handle) : Prop :=
  request.cmd = .tenbit → request.arg = 0 → client.addr ≤ 0xfe

section Flags
variable {client : I2cClient Handle} {flag : UInt16} {arg : UInt32}

theorem setFlag_addr : (client.setFlag flag arg).addr = client.addr := by
  unfold setFlag
  split_ifs <;> rfl

theorem setFlag_other (apart : flag &&& i2cMTen = 0) (kept : ~~~flag &&& i2cMTen = i2cMTen) :
    (client.setFlag flag arg).Ten ↔ client.Ten := by
  unfold setFlag Ten
  split_ifs
  · dsimp only
    rw [UInt16.and_assoc,kept]
  · have spread : (client.flags ||| flag) &&& i2cMTen =
        client.flags &&& i2cMTen ||| flag &&& i2cMTen :=
      UInt16.toBitVec_inj.1 BitVec.and_or_distrib_right
    dsimp only
    rw [spread,apart,UInt16.or_zero]

theorem setFlag_ten : (client.setFlag i2cMTen arg).Ten ↔ arg ≠ 0 := by
  have some_bit : i2cMTen ≠ 0 := by decide
  unfold setFlag Ten
  split_ifs with clear
  · exact iff_of_false (not_not.mpr (clear_and_self client.flags i2cMTen)) (not_not.mpr clear)
  · refine iff_of_true (fun none => some_bit ?_) clear
    exact (set_and_self client.flags i2cMTen).symm.trans none

end Flags

section Addressed
variable {client : I2cClient Handle} {request : I2cRequest}

theorem addressed_same {other : I2cClient Handle} (addr : other.addr = client.addr)
    (ten : other.Ten ↔ client.Ten) (valid : client.Addressed) : other.Addressed := by
  unfold Addressed
  rw [addr,ten]
  exact valid

theorem toUInt16_le (arg : UInt32) (most : UInt16) (small : arg ≤ most.toUInt32) :
    arg.toUInt16 ≤ most := by
  have bound : arg.toNat ≤ most.toNat := UInt32.le_iff_toNat_le.mp small
  rw [UInt16.le_iff_toNat_le,UInt32.toNat_toUInt16]
  exact (Nat.mod_le _ _).trans bound

/-- A call keeps the address valid exactly where it does not leave the mode of a long one. -/
theorem ioctl_addressed_iff (valid : client.Addressed) :
    (i2cFsIoctl request client).2.Addressed ↔ KeepsMode request client := by
  obtain ⟨cmd,arg,wrap,user,world⟩ := request
  cases cmd with
  | client | clientForce =>
    refine iff_of_true ?_ (fun other => by cases other)
    simp only [i2cFsIoctl]
    split_ifs with refused
    · exact valid
    · obtain ⟨seven,ten⟩ := not_or.mp refused
      refine ⟨toUInt16_le arg 0x3ff (UInt32.not_lt.mp ten),fun short => ?_⟩
      exact toUInt16_le arg 0xfe (UInt32.not_lt.mp fun long => seven ⟨short,long⟩)
  | rdwr | pec | retries | timeout | other =>
    exact iff_of_true valid (fun other => by cases other)
  | sixteenBitReg =>
    exact iff_of_true (addressed_same setFlag_addr (setFlag_other (by decide) (by decide)) valid)
      (fun other => by cases other)
  | sixteenBitData =>
    exact iff_of_true (addressed_same setFlag_addr (setFlag_other (by decide) (by decide)) valid)
      (fun other => by cases other)
  | tenbit =>
    have most := valid.1
    unfold Addressed KeepsMode i2cFsIoctl
    dsimp only
    rw [setFlag_addr,setFlag_ten,not_not,imp_iff_right rfl]
    exact and_iff_right most

theorem ioctl_rejected (refused : (i2cFsIoctl request client).1.ret ≠ 0) :
    (i2cFsIoctl request client).2 = client := by
  obtain ⟨cmd,arg,wrap,user,world⟩ := request
  cases cmd with
  | client | clientForce =>
    simp only [i2cFsIoctl] at refused ⊢
    split_ifs at refused ⊢
    · rfl
    · exact absurd rfl refused
  | rdwr | pec | retries | timeout | other => rfl
  | sixteenBitReg | sixteenBitData | tenbit => exact absurd rfl refused

end Addressed

/-- A valid address, and a call that is rejected changes neither it nor the flags. -/
def Consistent (client : I2cClient Handle) : Prop :=
  client.Addressed ∧ ∀ request, (i2cFsIoctl request client).1.ret ≠ 0 →
    (i2cFsIoctl request client).2 = client

/-- A file is consistent all along exactly the runs that leave the ten-bit mode with a short
address only. -/
theorem i2cFsIoctl_consistent_iff (handle : Handle) (requests : List I2cRequest) :
    (∀ k, (Machine.run i2cFsIoctl (requests.take k) (opened handle)).2.Consistent) ↔
      Machine.MeetsAll i2cFsIoctl KeepsMode requests (opened handle) := by
  have seven : (0 : UInt16) ≤ 0xfe := by decide
  have ten : (0 : UInt16) ≤ 0x3ff := by decide
  have initially : (opened handle).Addressed := ⟨ten,fun _ => seven⟩
  rw [← Machine.run_always_iff i2cFsIoctl KeepsMode Addressed
    (fun _ _ valid => ioctl_addressed_iff valid) requests _ initially]
  exact forall_congr' fun k => and_iff_left fun request refused => ioctl_rejected refused

/-- A call that is not a combined transfer. -/
def plain (cmd : I2cIoctlCmd) (arg : UInt32) : I2cRequest :=
  ⟨cmd,arg,⟨none,0⟩,zeroed,⟨none,true,none,true,fun _ => none,⟨0,zeroed⟩,fun _ => none⟩⟩

/-- The ten-bit mode is entered, used and left. -/
theorem i2cFsIoctl_not_addressed : ¬ (Machine.run i2cFsIoctl
    [plain .tenbit 1,plain .client 0x3ff,plain .tenbit 0] (opened ())).2.Addressed := by
  decide

end I2cClient

end DriversAdapter.Platform
