import QuarkMeteoStation.Board.Storage
import QuarkMeteoStation.GUI.Memory
import QuarkMeteoStation.HD44780.Shared

namespace QuarkMeteoStation

open Library
open HD44780 (Attached Write pulsesOf)

/-! The whole of `main` on its one port: the display is written to through the
same registers as the sensor lines are driven through. -/

namespace Drivers

section Writes

variable (lines : Lines)

/-- The bytes the display is sent in these calls. -/
def lcdWrites (config : HD44780.Config) : List Call → List Write
  | [] => []
  | .lcdInit type entryModeFlags onOffFlags :: calls =>
      let config : HD44780.Config :=
        { pins := lines.lcd
          type := type
          entryModeFlags := entryModeFlags
          onOffFlags := onOffFlags }
      HD44780.init config ++ lcdWrites config calls
  | .lcd call :: calls => call.writes config ++ lcdWrites config calls
  | _ :: calls => lcdWrites config calls

end Writes

section Pulses

variable {lines : Lines} {drivers : Drivers} {pulses : List HD44780.Pulse}

theorem lcd_valid (valid : lines.Valid) : lines.lcd.Valid where
  distinct := (List.nodup_append.mp valid.distinct).1
  inPort := fun pin member => valid.inPort pin (List.mem_append_left _ member)

theorem sensor_apart (valid : lines.Valid) {pin : UInt8}
    (sensor : pin ∈ lines.sensors) :
    pin.toNat < 32 ∧ pin ∉ lines.lcd.toList := by
  have inPort := valid.inPort pin (List.mem_append_right _ sensor)
  exact ⟨by omega, sensor_not_lcd valid sensor⟩

theorem onewire_apart (valid : lines.Valid) :
    lines.onewire.onewirePin.toNat < 32 ∧
      lines.onewire.onewirePin ∉ lines.lcd.toList :=
  sensor_apart valid (by simp [Lines.sensors])

theorem dht11_apart (valid : lines.Valid) :
    lines.dht11.dht11Pin.toNat < 32 ∧
      lines.dht11.dht11Pin ∉ lines.lcd.toList :=
  sensor_apart valid (by simp [Lines.sensors])

theorem onewire_unaffected (valid : lines.Valid) :
    Port.Unaffected lines.onewire.onewirePin (Attached lines.lcd pulses) :=
  HD44780.attached_unaffected (onewire_apart valid).1 (onewire_apart valid).2
    pulses

theorem dht11_unaffected (valid : lines.Valid) :
    Port.Unaffected lines.dht11.dht11Pin (Attached lines.lcd pulses) :=
  HD44780.attached_unaffected (dht11_apart valid).1 (dht11_apart valid).2
    pulses

theorem onewire_init_attached (valid : lines.Valid) {port : Port}
    (attached : Attached lines.lcd pulses port) :
    Attached lines.lcd pulses (Onewire.init lines.onewire port) := by
  obtain ⟨inPort, other⟩ := onewire_apart valid
  exact (attached.setInput inPort other).clearPin inPort other

theorem dht11_init_attached (valid : lines.Valid) {port : Port}
    (attached : Attached lines.lcd pulses port) :
    Attached lines.lcd pulses (DHT11.init lines.dht11 port) := by
  obtain ⟨inPort, other⟩ := dht11_apart valid
  exact (attached.setInput inPort other).clearPin inPort other

/-- What one call shows the display. -/
theorem attached_perform (valid : lines.Valid)
    (lcd : drivers.lcd.pins = lines.lcd) (call : Call)
    (attached : Attached lines.lcd pulses drivers.port) :
    Attached lines.lcd
      (pulses ++ (lcdWrites lines drivers.lcd [call]).flatMap pulsesOf)
      (perform lines drivers call).port := by
  cases call with
  | lcdInit type entryModeFlags onOffFlags =>
      simpa [lcdWrites, perform] using attached.writeAll (lcd_valid valid) _
  | lcd call =>
      simpa [lcdWrites, perform, lcd] using
        attached.writeAll (lcd_valid valid) (call.writes drivers.lcd)
  | onewireInit =>
      simpa [lcdWrites, perform] using onewire_init_attached valid attached
  | onewireReset =>
      simpa [lcdWrites, perform] using
        Onewire.unaffected_reset (onewire_unaffected valid) attached
  | onewireWriteByte byte =>
      simpa [lcdWrites, perform] using
        Onewire.unaffected_writeByte (onewire_unaffected valid) attached byte
  | onewireReadByte =>
      simpa [lcdWrites, perform] using
        Onewire.unaffected_readByte (onewire_unaffected valid) attached
  | requestConversion =>
      simpa [lcdWrites, perform] using
        Onewire.unaffected_requestConversion (onewire_unaffected valid) attached
  | getTemperature =>
      simpa [lcdWrites, perform] using
        Onewire.unaffected_getTemperature (onewire_unaffected valid) attached
  | dht11Init =>
      simpa [lcdWrites, perform] using dht11_init_attached valid attached
  | dht11GetMeasurement =>
      simpa [lcdWrites, perform] using DHT11.unaffected_getMeasurement
        (dht11_unaffected valid) attached drivers.dataFrame

theorem lcdWrites_cons (call : Call) (calls : List Call) :
    lcdWrites lines drivers.lcd (call :: calls) =
      lcdWrites lines drivers.lcd [call] ++
        lcdWrites lines (perform lines drivers call).lcd calls := by
  cases call <;> simp [lcdWrites, perform]

theorem lcd_perform (lcd : drivers.lcd.pins = lines.lcd) (call : Call) :
    (perform lines drivers call).lcd.pins = lines.lcd := by
  cases call with
  | lcdInit type entryModeFlags onOffFlags => rfl
  | _ => exact lcd

theorem attached_run (valid : lines.Valid)
    (lcd : drivers.lcd.pins = lines.lcd) (calls : List Call)
    (attached : Attached lines.lcd pulses drivers.port) :
    Attached lines.lcd
      (pulses ++ (lcdWrites lines drivers.lcd calls).flatMap pulsesOf)
      (run lines calls drivers).port := by
  induction calls generalizing drivers pulses with
  | nil => simpa [lcdWrites, run] using attached
  | cons call calls induction =>
      have rest := induction (lcd_perform lcd call)
        (attached_perform valid lcd call attached)
      rw [lcdWrites_cons, List.flatMap_append, ← List.append_assoc]
      exact rest

theorem attached_gpioSetup (valid : lines.Valid) (port : Port) :
    Attached lines.lcd []
      (gpioSetup lines.lcd { port with accesses := [] }) := by
  have outputs : ∀ pin ∈ lines.lcd.toList, Port.isSet
      (gpioSetup lines.lcd { port with accesses := [] }).direction pin =
        true := by
    intro pin member
    rw [isSet_gpioSetup valid]
    exact decide_eq_true member
  refine ⟨⟨outputs, outputs, ?_⟩, ?_, rfl⟩
  · intro access member
    rw [List.mem_singleton.mp member]
    exact outputs
  · simp [HD44780.Logged, gpioSetup, Port.setConfig, Port.record]

/-- Whatever is called and in whatever order, the display's six lines are driven
throughout and it is shown the pulses of its own bytes and no other. -/
theorem display_undisturbed (valid : lines.Valid) (before : Drivers)
    (type : Option HD44780.DisplayType) (entryModeFlags onOffFlags : UInt8)
    (calls : List Call) :
    let performed := startup type entryModeFlags onOffFlags ++ calls
    let after := (run lines performed (setUp lines before)).port
    HD44780.fallingEdges lines.lcd after.accesses =
        (lcdWrites lines before.lcd performed).flatMap pulsesOf ∧
      ∀ access ∈ after.accesses, ∀ pin ∈ lines.lcd.toList,
        Port.isSet access.1 pin = true := by
  intro performed after
  have initialised := @attached_run lines
    { setUp lines before with lcd.pins := lines.lcd } [] valid rfl performed
    (attached_gpioSetup valid before.port)
  exact ⟨initialised.edges, initialised.accesses⟩

/-- The station's own pins, through a reading of each sensor. -/
theorem display_undisturbed_configured :
    HD44780.fallingEdges Lines.configured.lcd
        (run .configured
          (startup (some .display20x2) 0x02 0x04 ++
            [.requestConversion, .dht11GetMeasurement,
              .lcd (.writeChar 0x48), .getTemperature])
          (setUp .configured ⟨Board.zeroed.port, .configured, ⟨0⟩⟩)).port.accesses =
      (lcdWrites .configured .configured
        (startup (some .display20x2) 0x02 0x04 ++
          [.requestConversion, .dht11GetMeasurement, .lcd (.writeChar 0x48),
            .getTemperature])).flatMap pulsesOf :=
  (display_undisturbed Lines.configured_valid
    ⟨Board.zeroed.port, .configured, ⟨0⟩⟩ _ _ _ _).1

end Pulses

end Drivers

namespace Firmware

/-- The port when `main` enters its loop: set up, the display initialised, the
sensor lines released and the layout drawn. -/
def boot (lines : Lines) (config : HD44780.Config) (port : Port) : Port :=
  let port := gpioSetup lines.lcd { port with accesses := [] }
  let port := HD44780.writeAll lines.lcd (HD44780.init config) port
  let port := Onewire.init lines.onewire port
  let port := DHT11.init lines.dht11 port
  HD44780.writeAll lines.lcd (GUI.init config) port

/-- A step of the board, with what `GUI_update` writes to the display. -/
def step (lines : Lines) (config : HD44780.Config) (period : UpdatePeriod)
    (board : Board) (input : Board.Input) : Board :=
  let next := board.step lines.toWiring period input
  match input with
  | .timerCallback => next
  | .mainStep _ =>
      if board.station.control.point = .guiUpdate then
        { next with
          port := HD44780.writeAll lines.lcd (GUI.update config board.shown)
            next.port }
      else next

structure Booted (lines : Lines) (config : HD44780.Config) (board : Board) :
    Prop where
  started : board.station.Started
  port : ∃ port, board.port = boot lines config port

def machine (lines : Lines) (config : HD44780.Config) (period : UpdatePeriod) :
    Machine Board Board.Input Event where
  start := Booted lines config
  step := step lines config period
  output := fun board input =>
    board.station.event (board.action lines.toWiring input)

variable {lines : Lines} {config : HD44780.Config} {period : UpdatePeriod}

theorem station_step (board : Board) (input : Board.Input) :
    (step lines config period board input).station =
      board.station.step period (board.action lines.toWiring input) := by
  cases input with
  | timerCallback => rfl
  | mainStep around =>
      simp only [step]
      split <;> rfl

/-- The display does not change what the station does. -/
def simulation (lines : Lines) (config : HD44780.Config)
    (period : UpdatePeriod) :
    Simulation (machine lines config period) (Station.machine period) where
  state := Board.station
  input := fun board input => board.action lines.toWiring input
  start := fun _ booted => booted.started
  step := station_step
  output := fun _ _ => rfl

/-- What the updates of a run have drawn, oldest first. -/
def drawn (history : List Event) : List GUI.Shown :=
  history.filterMap fun
    | .guiUpdate bmp280Meas ds18b20Meas dht11Meas =>
        some ⟨bmp280Meas, ds18b20Meas, dht11Meas⟩
    | _ => none

/-- All the display has been sent when `history` has happened. -/
def written (config : HD44780.Config) (history : List Event) : List Write :=
  HD44780.init config ++ GUI.init config ++
    (drawn history).flatMap (GUI.update config)

theorem attached_boot (valid : lines.Valid) (config : HD44780.Config)
    (port : Port) :
    Attached lines.lcd ((written config []).flatMap pulsesOf)
      (boot lines config port) := by
  have initialised := (Drivers.attached_gpioSetup valid port).writeAll
    (Drivers.lcd_valid valid) (HD44780.init config)
  have released := Drivers.dht11_init_attached valid
    (Drivers.onewire_init_attached valid initialised)
  simpa [boot, written, drawn] using
    released.writeAll (Drivers.lcd_valid valid) (GUI.init config)

section Step

variable {board : Board} {pulses : List HD44780.Pulse}

theorem attached_drive (valid : lines.Valid)
    (attached : Attached lines.lcd pulses board.port) (around : Surroundings) :
    Attached lines.lcd pulses
      (board.drive lines.toWiring around).2.port := by
  have facing : Attached lines.lcd pulses (board.facing around) :=
    ⟨⟨attached.configured, attached.outputs, attached.accesses⟩,
      attached.logged, attached.edges⟩
  unfold Board.drive
  cases board.station.control.point with
  | requestConversion =>
      exact Onewire.unaffected_requestConversion
        (Drivers.onewire_unaffected valid) facing
  | getTemperature =>
      exact Onewire.unaffected_getTemperature
        (Drivers.onewire_unaffected valid) facing
  | getDHT11 =>
      exact DHT11.unaffected_getMeasurement
        (Drivers.dht11_unaffected valid) facing board.dataFrame
  | _ => exact attached

theorem drawn_append (history later : List Event) :
    drawn (history ++ later) = drawn history ++ drawn later :=
  List.filterMap_append ..

theorem written_append (config : HD44780.Config) (history later : List Event) :
    written config (history ++ later) =
      written config history ++ (drawn later).flatMap (GUI.update config) := by
  simp only [written, drawn_append, List.flatMap_append, List.append_assoc]

theorem drawn_call (station : Station) (readings : Readings) :
    drawn (station.call readings).toList =
      if station.control.point = .guiUpdate then
        [⟨station.data.bmp280Meas, station.data.ds18b20Meas,
          station.data.dht11Meas⟩]
      else [] := by
  unfold Station.call
  cases point : station.control.point with
  | testUpdateState =>
      by_cases requested : station.control.updateState = .updateRequest <;>
        simp [requested, drawn]
  | _ => simp [drawn]

/-- A step writes to the display what its event says it draws. -/
theorem attached_step (valid : lines.Valid) {history : List Event}
    (attached : Attached lines.lcd
      ((written config history).flatMap pulsesOf) board.port)
    (input : Board.Input) :
    Attached lines.lcd
      ((written config (history ++
        ((machine lines config period).output board input).toList)).flatMap
          pulsesOf)
      ((machine lines config period).step board input).port := by
  cases input with
  | timerCallback =>
      have silent : drawn [Event.timerCallback] = [] := rfl
      simpa [machine, step, Board.step, Station.event, Board.action,
        written_append, silent] using attached
  | mainStep around =>
      have driven := attached_drive valid attached around
      rw [written_append]
      simp only [machine, Station.event, Board.action, drawn_call, step,
        Board.step]
      by_cases updating : board.station.control.point = .guiUpdate
      · rw [if_pos updating, if_pos updating, List.flatMap_append]
        have drew := driven.writeAll (Drivers.lcd_valid valid)
          (GUI.update config board.shown)
        simpa [Board.shown] using drew
      · rw [if_neg updating, if_neg updating]
        simpa using driven

/-- In every run the display is shown the layout and the updates, whatever the
sensor lines do in between. -/
theorem attached_exec (valid : lines.Valid) {initial : Board}
    (booted : Booted lines config initial) (inputs : List Board.Input) :
    Attached lines.lcd
      ((written config ((machine lines config period).trace initial
        inputs)).flatMap pulsesOf)
      ((machine lines config period).exec initial inputs).port := by
  refine (machine lines config period).historyInvariant (fun _ => True)
    (fun history board => Attached lines.lcd
      ((written config history).flatMap pulsesOf) board.port) ?_
    initial ?_ inputs (fun _ _ => trivial)
  · intro history board input _ attached
    exact attached_step valid attached input
  · obtain ⟨port, entered⟩ := booted.port
    rw [entered]
    exact attached_boot valid config port

end Step

/-- In every run of `main`, with the timer's interrupt anywhere in it and any
sensors on the lines, a display that was not left out of phase holds the screen
of the readings drawn so far, from any memory it had before. -/
theorem display_shows (valid : lines.Valid) {initial : Board}
    (booted : Booted lines .configured initial) (inputs : List Board.Input)
    {interface : HD44780.Interface}
    (inPhase : ∀ high, interface = .pending high → high = 3)
    (controller : HD44780.Controller) (before : HD44780.Screen)
    {seen : List (HD44780.Pulse × HD44780.Nibble)}
    (pulses : seen.map Prod.fst = HD44780.fallingEdges lines.lcd
      ((machine lines .configured period).exec initial inputs).port.accesses) :
    let after := (machine lines .configured period).exec initial inputs
    let history := (machine lines .configured period).trace initial inputs
    (controller.receiveAll
        (HD44780.Interface.machine.trace interface seen)).ddram =
        (GUI.screenAfter before (drawn history)).ddram ∧
      ∀ access ∈ after.port.accesses, ∀ pin ∈ lines.lcd.toList,
        Port.isSet access.1 pin = true := by
  intro after history
  have attached := @attached_exec lines .configured period valid initial booted
    inputs
  refine ⟨?_, attached.accesses⟩
  apply GUI.ddram_received inPhase
  rw [pulses, attached.edges, written, List.append_assoc]

/-- The station's board as it enters the loop. -/
def booted : Board :=
  { Board.zeroed with
    port := boot .configured .configured Board.zeroed.port }

theorem booted_booted : Booted .configured .configured booted where
  started := Station.zeroed_started
  port := ⟨Board.zeroed.port, rfl⟩

/-- A first cycle without an answer on any line. -/
def firstCycle : List Board.Input :=
  List.replicate 11 (.mainStep
    ⟨fun _ => .high, ⟨-5, ⟨0, List.replicate 6 0, by decide, fun _ => rfl⟩⟩,
      Vector.replicate _ 0⟩)

/-- It is seen by a display that was interrupted half way through a function
set and whose undriven lines are low. -/
theorem display_shows_first_cycle :
    ((⟨fun _ => 0xFF, fun _ => 0, true, 0, ⟨false, false⟩⟩ :
        HD44780.Controller).receiveAll
      (HD44780.Interface.machine.trace (.pending 3)
        ((HD44780.fallingEdges Lines.configured.lcd
          ((machine .configured .configured .configured).exec booted
            firstCycle).port.accesses).map fun pulse => (pulse, 0)))).ddram =
      (GUI.screenAfter ⟨fun _ => 0, 0⟩ (drawn
        ((machine .configured .configured .configured).trace booted
          firstCycle))).ddram := by
  have shown (pulses : List HD44780.Pulse) :
      (pulses.map fun pulse => (pulse, (0 : HD44780.Nibble))).map Prod.fst =
        pulses := by
    rw [List.map_map]
    exact List.map_id pulses
  exact (display_shows Lines.configured_valid booted_booted firstCycle
    (fun _ same => (HD44780.Interface.pending.inj same).symm)
    ⟨fun _ => 0xFF, fun _ => 0, true, 0, ⟨false, false⟩⟩ ⟨fun _ => 0, 0⟩
    (shown _)).1

end Firmware

end QuarkMeteoStation
