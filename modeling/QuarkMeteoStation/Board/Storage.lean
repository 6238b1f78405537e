import Mathlib.Data.List.GetD
import QuarkMeteoStation.Board
import QuarkMeteoStation.GUI
import QuarkMeteoStation.Library.Lockstep

namespace QuarkMeteoStation

open Library

/-! Storage that nothing initialises: the six structs of `main` and the locals
of two drivers. Two runs that differ in nothing else are taken side by side. -/

namespace I2C

variable {size : Nat}

/-- The transfer stores a byte at this index. -/
def Transfer.Brings (transfer : Transfer size) (index : Nat) : Prop :=
  transfer.writeStatus = 0 ∧ index < transfer.masterRead.received.length

instance (transfer : Transfer size) (index : Nat) :
    Decidable (transfer.Brings index) :=
  inferInstanceAs (Decidable (_ ∧ _))

theorem read_snd_eq (transfer : Transfer size) (first second : Vector UInt8 size)
    (state : State) :
    (read transfer first state).2 = (read transfer second state).2 := by
  unfold read
  split
  next => rfl
  next =>
    dsimp only
    split <;> rfl

/-- A byte that the transfer does not store is the one from the stack. -/
theorem get_read (transfer : Transfer size) (stack : Vector UInt8 size)
    (state : State) (index : Fin size) :
    (read transfer stack state).1.get index =
      if transfer.Brings index then transfer.masterRead.received.getD index 0
      else stack.get index := by
  unfold read
  by_cases written : transfer.writeStatus = 0
  · have stored : (transfer.masterRead.store stack).get index =
        transfer.masterRead.received.getD index (stack.get index) := by
      unfold MasterRead.store
      exact Vector.getElem_ofFn index.isLt
    have found : (if transfer.Brings index then
        transfer.masterRead.received.getD index 0 else stack.get index) =
          transfer.masterRead.received.getD index (stack.get index) := by
      by_cases brought : index.val < transfer.masterRead.received.length
      · rw [if_pos ⟨written, brought⟩, List.getD_eq_getElem _ _ brought,
          List.getD_eq_getElem _ _ brought]
      · rw [if_neg fun brings => brought brings.2,
          List.getD_eq_default _ _ (Nat.not_lt.mp brought)]
    rw [if_neg (not_not_intro written), found, ← stored]
    dsimp only
    split <;> rfl
  · rw [if_pos written, if_neg fun brings => written brings.1]

theorem readByte_fst (transfer : Transfer 1) (stack : UInt8) (state : State) :
    (readByte transfer stack state).1 =
      if transfer.Brings 0 then transfer.masterRead.received.getD 0 0
      else stack :=
  get_read transfer #v[stack] state 0

end I2C

namespace BMP280

theorem detect_snd_eq (transfer : I2C.Transfer 1) (first second : UInt8)
    (i2c : I2C.State) :
    (detect transfer first i2c).2 = (detect transfer second i2c).2 :=
  I2C.read_snd_eq transfer #v[first] #v[second] i2c

/-- The answer depends on the stack only where no byte came. -/
theorem detect_fst_eq_iff (transfer : I2C.Transfer 1) (first second : UInt8)
    (i2c : I2C.State) :
    (detect transfer first i2c).1 = (detect transfer second i2c).1 ↔
      transfer.Brings 0 ∨ (first = bmp280Id ↔ second = bmp280Id) := by
  by_cases brings : transfer.Brings 0
  · simp only [detect, I2C.readByte_fst, brings, if_true, true_or]
  · simp only [detect, I2C.readByte_fst, brings, if_false, false_or]
    by_cases firstId : first = bmp280Id <;>
      by_cases secondId : second = bmp280Id <;> simp [firstId, secondId]

/-- The bits of a byte of a measurement that `merge` does not shift out. -/
def keptBits (index : Fin measDataSize) (byte : UInt8) : UInt8 :=
  if index.val = 2 ∨ index.val = 5 then byte >>> 4 else byte

/-- What the transfer leaves of a measurement is the same on both stacks. -/
def Covers (transfer : I2C.Transfer measDataSize)
    (first second : Vector UInt8 measDataSize) : Prop :=
  ∀ index : Fin measDataSize, transfer.Brings index ∨
    keptBits index (first.get index) = keptBits index (second.get index)

instance (transfer : I2C.Transfer measDataSize)
    (first second : Vector UInt8 measDataSize) :
    Decidable (Covers transfer first second) :=
  inferInstanceAs (Decidable (∀ _ : Fin measDataSize, _ ∨ _))

theorem merge_congr (msb lsb : UInt8) {first second : UInt8}
    (same : first >>> 4 = second >>> 4) :
    merge msb lsb first = merge msb lsb second := by
  have widened : ∀ byte : UInt8,
      byte.toUInt32 >>> 4 = (byte >>> 4).toUInt32 := fun byte =>
    (UInt8.toUInt32_shiftRight byte 4).symm
  rw [merge, merge, widened, widened, same]

theorem readMeasurementRegs_eq_of_covers
    {transfer : I2C.Transfer measDataSize}
    {first second : Vector UInt8 measDataSize}
    (covers : Covers transfer first second) (state : State)
    (i2c : I2C.State) :
    readMeasurementRegs transfer first state i2c =
      readMeasurementRegs transfer second state i2c := by
  have kept : ∀ index : Fin measDataSize,
      keptBits index ((I2C.read transfer first i2c).1.get index) =
        keptBits index ((I2C.read transfer second i2c).1.get index) := by
    intro index
    rw [I2C.get_read, I2C.get_read]
    rcases covers index with brings | same
    · rw [if_pos brings, if_pos brings]
    · split
      · rfl
      · exact same
  have after := I2C.read_snd_eq transfer first second i2c
  simp only [readMeasurementRegs, after]
  generalize (I2C.read transfer first i2c).1 = left at kept
  generalize (I2C.read transfer second i2c).1 = right at kept
  have pressure : merge left[0] left[1] left[2] =
      merge right[0] right[1] right[2] := by
    rw [show left[0] = right[0] from kept ⟨0, by decide⟩,
      show left[1] = right[1] from kept ⟨1, by decide⟩]
    exact merge_congr _ _ (kept ⟨2, by decide⟩)
  have temperature : merge left[3] left[4] left[5] =
      merge right[3] right[4] right[5] := by
    rw [show left[3] = right[3] from kept ⟨3, by decide⟩,
      show left[4] = right[4] from kept ⟨4, by decide⟩]
    exact merge_congr _ _ (kept ⟨5, by decide⟩)
  rw [pressure, temperature]

end BMP280

/-- What the stack holds where the drivers' locals come to lie. -/
structure Garbage where
  buffer : Vector UInt8 BMP280.measDataSize
  byte : UInt8

/-- What one step meets outside the program. -/
inductive Outside
  | timerCallback
  | mainStep (levels : Nat → QmGpioState)
      (transfer : I2C.Transfer BMP280.measDataSize)
  | detect (transfer : I2C.Transfer 1)

/-- What a step shows to the outside. -/
inductive Emission
  | lcd (writes : List HD44780.Write)
  | uart (messages : List (List UInt8))
  | detected (detect : BMP280.Detect)
  deriving DecidableEq, Repr

namespace Board

def shown (board : Board) : GUI.Shown where
  bmp280Meas := board.station.data.bmp280Meas
  ds18b20Meas := board.station.data.ds18b20Meas
  dht11Meas := board.station.data.dht11Meas

/-- A step of `main` or its interrupt, or a call of `BMP280_detect`. -/
def advance (wiring : Wiring) (period : UpdatePeriod) (board : Board) :
    Outside × Garbage → Board
  | (.timerCallback, _) => board.step wiring period .timerCallback
  | (.mainStep levels transfer, garbage) =>
      board.step wiring period (.mainStep ⟨levels, transfer, garbage.buffer⟩)
  | (.detect transfer, garbage) =>
      { board with i2c := (BMP280.detect transfer garbage.byte board.i2c).2 }

def emission (lcd : HD44780.Config) (board : Board) :
    Outside × Garbage → Option Emission
  | (.timerCallback, _) => none
  | (.mainStep _ _, _) =>
      let data := board.station.data
      match board.station.control.point with
      | .connectToServer =>
          some (.uart [(ESP.connectToServer data.buffers).2])
      | .sendMeasurements =>
          some (.uart
            (ESP.sendMeasurements data.averages.published data.buffers).2)
      | .guiUpdate => some (.lcd (GUI.update lcd board.shown))
      | _ => none
  | (.detect transfer, garbage) =>
      some (.detected (BMP280.detect transfer garbage.byte board.i2c).1)

def observed (wiring : Wiring) (period : UpdatePeriod)
    (lcd : HD44780.Config) : Machine Board (Outside × Garbage) Emission where
  start := fun board => board.station.Started
  step := advance wiring period
  output := emission lcd

/-- Two boards at the start that differ in the structs of `main` only. -/
structure StartedAlike (first second : Board) : Prop where
  firstStarted : first.station.Started
  secondStarted : second.station.Started
  port : first.port = second.port
  i2c : first.i2c = second.i2c
  bmp280 : first.bmp280 = second.bmp280
  dataFrame : first.dataFrame = second.dataFrame

abbrev Pair := (Outside × Garbage) × (Outside × Garbage)

/-- Wherever the step reads storage that may not have been written, the two
runs hold the same there. -/
def HoldsSame (boards : Board × Board) (pair : Pair) : Prop :=
  match pair.1.1 with
  | .timerCallback => True
  | .mainStep _ transfer =>
      match boards.1.station.control.point with
      | .getBMP280 =>
          BMP280.Covers transfer pair.1.2.buffer pair.2.2.buffer
      | .sendMeasurements =>
          boards.1.station.data.averages.dht11MeasAvg.humidity =
            boards.2.station.data.averages.dht11MeasAvg.humidity
      | .guiUpdate =>
          boards.1.station.data.ds18b20Meas = boards.2.station.data.ds18b20Meas
      | _ => True
  | .detect transfer =>
      transfer.Brings 0 ∨
        (pair.1.2.byte = BMP280.bmp280Id ↔ pair.2.2.byte = BMP280.bmp280Id)

instance (boards : Board × Board) (pair : Pair) :
    Decidable (HoldsSame boards pair) := by
  unfold HoldsSame
  split
  · infer_instance
  · split <;> infer_instance
  · infer_instance

/-- The step writes `DS18B20_meas`. -/
def ReadsDS18B20 (board : Board) (input : Outside × Garbage) : Prop :=
  match input.1 with
  | .mainStep _ _ => board.station.control.point = .getTemperature
  | _ => False

/-- The step writes `DHT11_meas_avg`. -/
def PublishesDHT11 (board : Board) (input : Outside × Garbage) : Prop :=
  match input.1 with
  | .mainStep _ _ =>
      board.station.control.point = .averageUpdateDHT11 ∧
        board.station.data.dht11Meas.Valid
  | _ => False

/-- What the step shows hangs on nothing that the runs do not share: where it
reads storage that nothing need have written, that has been written by then, or
the stacks agree on it. -/
def Determined (wiring : Wiring) (period : UpdatePeriod)
    (lcd : HD44780.Config) (first second : Board) (earlier : List Pair)
    (pair : Pair) : Prop :=
  let run := observed wiring period lcd
  match pair.1.1 with
  | .timerCallback => True
  | .mainStep _ transfer =>
      match (run.exec first (earlier.map Prod.fst)).station.control.point with
      | .getBMP280 =>
          BMP280.Covers transfer pair.1.2.buffer pair.2.2.buffer
      | .sendMeasurements =>
          run.Sometime PublishesDHT11 first (earlier.map Prod.fst) ∨
            first.station.data.averages.dht11MeasAvg.humidity =
              second.station.data.averages.dht11MeasAvg.humidity
      | .guiUpdate =>
          run.Sometime ReadsDS18B20 first (earlier.map Prod.fst) ∨
            first.station.data.ds18b20Meas = second.station.data.ds18b20Meas
      | _ => True
  | .detect transfer =>
      transfer.Brings 0 ∨
        (pair.1.2.byte = BMP280.bmp280Id ↔ pair.2.2.byte = BMP280.bmp280Id)

/-- Every measurement read finds the same in both runs. -/
def Covered (boards : Board × Board) (pair : Pair) : Prop :=
  match pair.1.1 with
  | .mainStep _ transfer =>
      boards.1.station.control.point = .getBMP280 →
        BMP280.Covers transfer pair.1.2.buffer pair.2.2.buffer
  | _ => True

instance (boards : Board × Board) (pair : Pair) :
    Decidable (Covered boards pair) := by
  unfold Covered
  split <;> infer_instance

end Board

end QuarkMeteoStation
