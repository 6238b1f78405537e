import QuarkMeteoStation.Library.Announced
import QuarkMeteoStation.Library.CString
import QuarkMeteoStation.Library.Checked
import QuarkMeteoStation.Library.Decimal
import QuarkMeteoStation.Library.FixedPoint
import QuarkMeteoStation.Library.FlatJson
import QuarkMeteoStation.Library.HttpFrame
import QuarkMeteoStation.Library.Machine
import QuarkMeteoStation.Library.Lockstep
import QuarkMeteoStation.Library.Mean
import QuarkMeteoStation.Library.Overwrite
import QuarkMeteoStation.Library.Procedure
import QuarkMeteoStation.Library.Progress
import QuarkMeteoStation.Library.Simulation
import QuarkMeteoStation.Library.Waveform
import QuarkMeteoStation.Utoa
import QuarkMeteoStation.Measurements
import QuarkMeteoStation.Average
import QuarkMeteoStation.Average.Window
import QuarkMeteoStation.Average.Exact
import QuarkMeteoStation.Average.Outdoor
import QuarkMeteoStation.UART
import QuarkMeteoStation.ESP
import QuarkMeteoStation.ESP.Payload
import QuarkMeteoStation.ESP.Report
import QuarkMeteoStation.ESP.Bounds
import QuarkMeteoStation.ESP.Framing
import QuarkMeteoStation.ESP.Modem
import QuarkMeteoStation.GPIO
import QuarkMeteoStation.GPIO.Pins
import QuarkMeteoStation.GPIO.OpenDrain
import QuarkMeteoStation.HD44780
import QuarkMeteoStation.HD44780.Text
import QuarkMeteoStation.HD44780.Screen
import QuarkMeteoStation.HD44780.Display
import QuarkMeteoStation.HD44780.Controller
import QuarkMeteoStation.HD44780.Panels
import QuarkMeteoStation.HD44780.Pulses
import QuarkMeteoStation.HD44780.Bus
import QuarkMeteoStation.GUI
import QuarkMeteoStation.GUI.Text
import QuarkMeteoStation.GUI.Numerals
import QuarkMeteoStation.GUI.Fields
import QuarkMeteoStation.GUI.Screen
import QuarkMeteoStation.GUI.Memory
import QuarkMeteoStation.Onewire
import QuarkMeteoStation.DS18B20
import QuarkMeteoStation.Onewire.Script
import QuarkMeteoStation.Onewire.Slots
import QuarkMeteoStation.DS18B20.Registers
import QuarkMeteoStation.DS18B20.Session
import QuarkMeteoStation.DHT11
import QuarkMeteoStation.DHT11.Frames
import QuarkMeteoStation.DHT11.Corruption
import QuarkMeteoStation.DHT11.Timed
import QuarkMeteoStation.DHT11.Reception
import QuarkMeteoStation.I2C
import QuarkMeteoStation.I2C.Controller
import QuarkMeteoStation.I2C.Master
import QuarkMeteoStation.I2C.Transfers
import QuarkMeteoStation.I2C.Registers
import QuarkMeteoStation.I2C.Refusals
import QuarkMeteoStation.I2C.Returns
import QuarkMeteoStation.BMP280
import QuarkMeteoStation.BMP280.Bus
import QuarkMeteoStation.BMP280.Vendor
import QuarkMeteoStation.BMP280.Compensation
import QuarkMeteoStation.Main
import QuarkMeteoStation.Main.Control
import QuarkMeteoStation.Main.Ticks
import QuarkMeteoStation.Main.Shares
import QuarkMeteoStation.Main.Agreement
import QuarkMeteoStation.Main.Protocol
import QuarkMeteoStation.Main.Ledger
import QuarkMeteoStation.Main.PacedRun
import QuarkMeteoStation.Main.Cycles
import QuarkMeteoStation.Main.Rhythm
import QuarkMeteoStation.Main.Requests
import QuarkMeteoStation.Main.Schedule
import QuarkMeteoStation.Main.Pace
import QuarkMeteoStation.Main.Uploads
import QuarkMeteoStation.Main.Reopened
import QuarkMeteoStation.Main.Freshness
import QuarkMeteoStation.Main.Telemetry
import QuarkMeteoStation.Board
import QuarkMeteoStation.Board.Contamination
import QuarkMeteoStation.Board.Lines
import QuarkMeteoStation.HD44780.Shared
import QuarkMeteoStation.HD44780.Busy
import QuarkMeteoStation.Board.Storage
import QuarkMeteoStation.Board.Agreement
import QuarkMeteoStation.Board.Determined
import QuarkMeteoStation.Board.Firmware
