namespace QuarkMeteoStation

/-! `I2C.c`: register transfers to the one slave, over the `qm_i2c_master_*`
calls. -/

namespace I2C

/-- `I2C_error_t`. -/
inductive Error
  | ok
  | uninitialized
  | initFailed
  | writeFailed
  | readFailed
  deriving DecidableEq, Repr

structure State where
  error : Error
  slaveAddr : UInt8
  deriving DecidableEq, Repr

def State.initial : State where
  error := .uninitialized
  slaveAddr := 0

/-- The source stores `STATUS_OK` over the failure it has just recorded. -/
def init (devAddr : UInt8) (configStatus : Int32) (state : State) : State :=
  let state := { state with slaveAddr := devAddr }
  let state :=
    if configStatus ≠ 0 then { state with error := .initFailed } else state
  { state with error := .ok }

/-- How `qm_i2c_master_read` comes back: a failed transfer may have stored some
of the bytes. -/
structure MasterRead (size : Nat) where
  status : Int32
  received : List UInt8
  fits : received.length ≤ size
  complete : status = 0 → received.length = size

/-- How the two bus calls of a register read come back. -/
structure Transfer (size : Nat) where
  writeStatus : Int32
  masterRead : MasterRead size

def Transfer.Succeeds {size : Nat} (transfer : Transfer size) : Prop :=
  transfer.writeStatus = 0 ∧ transfer.masterRead.status = 0

instance {size : Nat} (transfer : Transfer size) :
    Decidable transfer.Succeeds :=
  inferInstanceAs (Decidable (_ ∧ _))

def MasterRead.store {size : Nat} (masterRead : MasterRead size)
    (buf : Vector UInt8 size) : Vector UInt8 size :=
  Vector.ofFn fun index => masterRead.received.getD index buf[index]

/-- The register address travels on the bus only. -/
def read {size : Nat} (transfer : Transfer size) (buf : Vector UInt8 size)
    (state : State) : Vector UInt8 size × State :=
  if transfer.writeStatus ≠ 0 then
    (buf, { state with error := .writeFailed })
  else
    let buf := transfer.masterRead.store buf
    if transfer.masterRead.status ≠ 0 then
      (buf, { state with error := .readFailed })
    else (buf, { state with error := .ok })

/-- The local byte is not initialised: `stack` is what it happens to hold. -/
def readByte (transfer : Transfer 1) (stack : UInt8) (state : State) :
    UInt8 × State :=
  let (buf, state) := read transfer #v[stack] state
  (buf[0], state)

/-- How the two bus calls of a register write come back. -/
def write (addressStatus dataStatus : Int32) (state : State) : State :=
  if addressStatus ≠ 0 then { state with error := .writeFailed }
  else if dataStatus ≠ 0 then { state with error := .writeFailed }
  else { state with error := .ok }

theorem read_error_iff {size : Nat} (transfer : Transfer size)
    (buf : Vector UInt8 size) (state : State) :
    (read transfer buf state).2.error = .ok ↔ transfer.Succeeds := by
  unfold read Transfer.Succeeds
  by_cases written : transfer.writeStatus = 0
  · by_cases received : transfer.masterRead.status = 0
    · simp [written, received]
    · simp [written, received]
  · simp [written]

end I2C

end QuarkMeteoStation
