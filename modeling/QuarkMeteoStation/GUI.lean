import QuarkMeteoStation.HD44780
import QuarkMeteoStation.Measurements

namespace QuarkMeteoStation

open Library

/-! `GUI.c`: the layout of the display and the fields drawn into it. -/

namespace GUI

open HD44780

def drawLayout (config : Config) : List Write :=
  writeString (ascii "I: ") ++
  gotoxy config 2 1 ++
  writeString (ascii "P: ") ++
  gotoxy config 1 12 ++
  writeString (ascii "O: ") ++
  gotoxy config 2 15 ++
  writeString (ascii "H: ")

def temperatureText (temperature : Int32) : List Write :=
  writeInteger (temperature / 100) 0 ++
  [writeChar 46] ++
  writeInteger (temperature % 100) 2 ++
  writeString (ascii "C ")

def pressureText (pressure : UInt32) : List Write :=
  writeInteger (pressure / 100).toInt32 0 ++
  [writeChar 46] ++
  writeInteger (pressure % 100).toInt32 2 ++
  writeString (ascii "hPa ")

def drawBMP280 (config : Config) (meas : BMP280Meas) : List Write :=
  gotoxy config 1 4 ++
  temperatureText meas.temperature ++
  gotoxy config 2 4 ++
  pressureText meas.pressure

def outdoorText (meas : DS18B20Meas) : List Write :=
  (if meas.sign = .negative then [writeChar 45] else [writeChar 32]) ++
  writeInteger meas.integer.toUInt32.toInt32 0 ++
  [writeChar 46] ++
  writeInteger meas.fraction.toUInt32.toInt32 2 ++
  writeString (ascii "C ")

def drawDS18B20 (config : Config) (meas : DS18B20Meas) : List Write :=
  gotoxy config 1 14 ++ outdoorText meas

def humidityText (humidity : UInt8) : List Write :=
  writeInteger humidity.toUInt32.toInt32 0 ++ writeString (ascii "%")

def drawDHT11 (config : Config) (meas : DHT11Meas) : List Write :=
  gotoxy config 2 18 ++ humidityText meas.humidity

def init (config : Config) : List Write :=
  clear config ++ drawLayout config

/-- The structs `GUI_init` was given pointers to. -/
structure Shown where
  bmp280Meas : BMP280Meas
  ds18b20Meas : DS18B20Meas
  dht11Meas : DHT11Meas
  deriving DecidableEq, Repr

def update (config : Config) (shown : Shown) : List Write :=
  drawBMP280 config shown.bmp280Meas ++
  drawDS18B20 config shown.ds18b20Meas ++
  drawDHT11 config shown.dht11Meas

end GUI

end QuarkMeteoStation
