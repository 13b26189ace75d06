import DriversAdapter.Base.Word
import DriversAdapter.Semantics.Lookup
import DriversAdapter.Semantics.Touches

/-! The pins of the bes GPIO controller. The configuration says of GPIO numbers which hardware pins
they are, and an interrupt goes the other way, through a table that has 0 for all other numbers. -/
namespace DriversAdapter.Platform
open DriversAdapter.Base DriversAdapter.Semantics DriversAdapter.Semantics.Touching

def decimalNum : UInt32 := 10
def octalNum : UInt32 := 8

def relPin (realPin : UInt32) : UInt32 := realPin / decimalNum * octalNum + realPin % decimalNum

/-- The elements of the arrays of the configuration at one index, as far as they can be read. -/
structure GpioElems where
  pin : Option UInt32
  realPin : Option UInt32
  config : Option UInt32

/-- The resource interface and what it reads from the device's node. -/
structure GpioDri where
  valid : Bool
  pinNum : Option UInt32
  elems : Nat → GpioElems

def GpioDri.vector (dri : GpioDri) : List GpioElems :=
  (List.range (dri.pinNum.getD 0).toNat).map dri.elems

/-- `g_gpioPinReflectionMap`, as all that follows its first entry. -/
abbrev PinReflectionMap := Nat → UInt32

section Code

def readPins : List GpioElems → PinReflectionMap → Touching (Int × PinReflectionMap)
  | [], map => pure (hdfSuccess,map)
  | ⟨some pin,some realPin,some _⟩::rest, map => do
    let map ← write map pin.toNat (relPin realPin)
    readPins rest map
  | _::_, map => pure (hdfFailure,map)

def getGpioDeviceResource (dri : GpioDri) (map : PinReflectionMap) :
    Touching (Int × PinReflectionMap) :=
  if dri.valid = false then pure (hdfErrInvalidObject,map)
  else match dri.pinNum with
  | none => pure (hdfFailure,map)
  | some _ => readPins dri.vector map

-- `HAL_GPIO_PIN_LED_NUM` of the chip's kit, the number of its pins
variable (halGpioPinLedNum : UInt32)

/-- The GPIO number that the callback gets for an interrupt of a hardware pin. -/
def oemGpioIrqHdl (map : PinReflectionMap) (pin : UInt32) : Option Nat :=
  if halGpioPinLedNum ≤ pin then none else Lookup.first map halGpioPinLedNum.toNat pin

end Code

def PinReflectionMap.zero : PinReflectionMap := fun _ => 0

def GpioElems.entry (elems : GpioElems) : Option (Nat × UInt32) :=
  match elems.pin, elems.realPin with
  | some pin, some realPin => some (pin.toNat,relPin realPin)
  | _, _ => none

/-- The GPIO numbers that are configured, with their hardware pins. -/
def GpioDri.configured (dri : GpioDri) : List (Nat × UInt32) :=
  dri.vector.filterMap GpioElems.entry

/-- The hardware pin that a GPIO number has by its last entry. -/
def GpioDri.halPin (dri : GpioDri) (gpio : Nat) : Option UInt32 :=
  Lookup.given dri.configured gpio

/-- All GPIO numbers are in the table, no two have one hardware pin, and numbers that are not
configured come behind the one that has the hardware pin 0. -/
structure GpioDri.Distinct (dri : GpioDri) (halGpioPinLedNum : UInt32) : Prop where
  inside : ∀ entry ∈ dri.configured, entry.1 < halGpioPinLedNum.toNat
  apart : ∀ pin gpio other, pin < halGpioPinLedNum → dri.halPin gpio = some pin →
    dri.halPin other = some pin → gpio = other
  covered : 0 < halGpioPinLedNum → ∀ gpio < halGpioPinLedNum.toNat, dri.halPin gpio = none →
    ∃ other < gpio, dri.halPin other = some 0

/-- What is read is written in its order, and nothing else is touched. -/
theorem readPins_accepted (vector : List GpioElems) (map : PinReflectionMap)
    (accepted : (readPins vector map).value.1 = hdfSuccess) :
    (readPins vector map).value.2 = Lookup.fill (vector.filterMap GpioElems.entry) map ∧
      ∀ size, (readPins vector map).Within size ↔
        ∀ entry ∈ vector.filterMap GpioElems.entry, entry.1 < size := by
  have failed : hdfFailure ≠ hdfSuccess := by decide
  induction vector generalizing map with
  | nil =>
    refine ⟨rfl,fun size => iff_of_true ?_ fun entry none => nomatch none⟩
    exact within_pure _
  | cons elems rest ih =>
    obtain ⟨pin,realPin,config⟩ := elems
    rcases pin with _ | pin
    · exact absurd accepted failed
    rcases realPin with _ | realPin
    · exact absurd accepted failed
    rcases config with _ | config
    · exact absurd accepted failed
    have written : (write map pin.toNat (relPin realPin)).value =
        Function.update map pin.toNat (relPin realPin) := by
      funext k
      rw [value_write,Function.update_apply]
    obtain ⟨filled,within⟩ := ih _ accepted
    refine ⟨?_,fun size => ?_⟩
    · rw [readPins,value_bind,filled,written]
      rfl
    · have entries : (⟨some pin,some realPin,some config⟩::rest).filterMap GpioElems.entry =
          (pin.toNat,relPin realPin)::rest.filterMap GpioElems.entry := List.filterMap_cons_some rfl
      rw [readPins,within_bind,within_write,within size,entries,List.forall_mem_cons]

theorem getGpioDeviceResource_accepted (dri : GpioDri) (map : PinReflectionMap)
    (accepted : (getGpioDeviceResource dri map).value.1 = hdfSuccess) :
    getGpioDeviceResource dri map = readPins dri.vector map := by
  have object : hdfErrInvalidObject ≠ hdfSuccess := by decide
  have failed : hdfFailure ≠ hdfSuccess := by decide
  unfold getGpioDeviceResource at accepted ⊢
  by_cases valid : dri.valid = false
  · rw [if_pos valid] at accepted
    exact absurd accepted object
  · rw [if_neg valid] at accepted ⊢
    cases number : dri.pinNum with
    | none =>
      rw [number] at accepted
      exact absurd accepted failed
    | some _ => rfl

theorem oemGpioIrqHdl_eq_some (halGpioPinLedNum : UInt32) (map : PinReflectionMap) (pin : UInt32)
    (gpio : Nat) :
    oemGpioIrqHdl halGpioPinLedNum map pin = some gpio ↔
      pin < halGpioPinLedNum ∧ Lookup.first map halGpioPinLedNum.toNat pin = some gpio := by
  unfold oemGpioIrqHdl
  by_cases above : halGpioPinLedNum ≤ pin
  · rw [if_pos above]
    exact iff_of_false (Option.some_ne_none gpio).symm
      fun both => UInt32.not_lt.mpr above both.1
  · rw [if_neg above]
    exact (and_iff_right (UInt32.not_le.mp above)).symm

/-- The table of an accepted configuration stays in its bounds, and turns each interrupt into the
GPIO number that has the pin and every other into none, exactly where the numbers are distinct. -/
theorem oemGpioIrqHdl_routed_iff (halGpioPinLedNum : UInt32) (dri : GpioDri)
    (accepted : (getGpioDeviceResource dri .zero).value.1 = hdfSuccess) :
    ((getGpioDeviceResource dri .zero).Within halGpioPinLedNum.toNat ∧
      ∀ pin gpio, oemGpioIrqHdl halGpioPinLedNum (getGpioDeviceResource dri .zero).value.2 pin =
        some gpio ↔ pin < halGpioPinLedNum ∧ dri.halPin gpio = some pin) ↔
      dri.Distinct halGpioPinLedNum := by
  have same := getGpioDeviceResource_accepted dri .zero accepted
  rw [same] at accepted ⊢
  obtain ⟨filled,within⟩ := readPins_accepted dri.vector .zero accepted
  have found (pin : UInt32) (gpio : Nat) :=
    oemGpioIrqHdl_eq_some halGpioPinLedNum (Lookup.fill dri.configured fun _ => 0) pin gpio
  have given := Lookup.first_given_iff dri.configured 0 halGpioPinLedNum.toNat
    (· < halGpioPinLedNum)
  rw [within,filled]
  constructor
  · rintro ⟨inside,routed⟩
    obtain ⟨apart,covered⟩ := (given inside).mp fun pin gpio below => by
      have both := (found pin gpio).symm.trans (routed pin gpio)
      rwa [and_iff_right below,and_iff_right below] at both
    exact ⟨inside,apart,covered⟩
  · intro distinct
    refine ⟨distinct.inside,fun pin gpio => ?_⟩
    have right := (given distinct.inside).mpr ⟨distinct.apart,distinct.covered⟩ pin gpio
    exact (found pin gpio).trans (and_congr_right right)

/-- Two GPIO numbers of a kit with 16 pins: 0 is the port 0's pin 0, and 1 the port 1's pin 3. -/
def GpioDri.kit : GpioDri where
  valid := true
  pinNum := some 2
  elems i := ⟨some i.toUInt32,some (i.toUInt32 * 13),some 1⟩

theorem oemGpioIrqHdl_routed_kit :
    ((getGpioDeviceResource .kit .zero).Within 16 ∧
      ∀ pin gpio, oemGpioIrqHdl 16 (getGpioDeviceResource .kit .zero).value.2 pin =
        some gpio ↔ pin < 16 ∧ GpioDri.kit.halPin gpio = some pin) ↔
      GpioDri.kit.Distinct 16 :=
  oemGpioIrqHdl_routed_iff 16 .kit (by decide)

def GpioDri.fifth : GpioDri where
  valid := true
  pinNum := some 1
  elems _ := ⟨some 5,some 0,some 1⟩

/-- The interrupt of the pin of the GPIO number 5 is reported as one of the GPIO number 0. -/
theorem oemGpioIrqHdl_not_routed :
    (getGpioDeviceResource .fifth .zero).value.1 = hdfSuccess ∧
      GpioDri.fifth.halPin 5 = some 0 ∧ GpioDri.fifth.halPin 0 = none ∧
      oemGpioIrqHdl 16 (getGpioDeviceResource .fifth .zero).value.2 0 = some 0 := by
  decide

end DriversAdapter.Platform
