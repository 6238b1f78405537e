import QuarkMeteoStation.ESP.Framing
import QuarkMeteoStation.Library.Announced

namespace QuarkMeteoStation.ESP

open Library
open Library.Announced
open Library.Decimal

universe u

/-! The AT module on the UART and the server behind it are no part of the
sources, and nothing comes back from them. What the driver counts on is stated
here of an arbitrary module and an arbitrary server. -/

/-- A module that is fed the bytes on the UART and outputs the blocks it sends
over its connection. -/
structure Modem (State : Type u) where
  machine : Machine State UInt8 (List UInt8)
  /-- The next byte begins a command. -/
  Waiting : (connected : Bool) → State → Prop
  /-- The prompt for a block of that length has been given. -/
  Prompting : (length : Nat) → State → Prop

/-- The longest block the firmware takes with one command. -/
def maxSendSize : Nat := 2048

/-- The two commands as the firmware documents them, each done with before the
next byte comes. -/
structure Modem.Documented {State : Type u} (modem : Modem State) : Prop where
  /-- The module gets a connection to the server, or has one still. -/
  connects : ∀ connected state, modem.Waiting connected state →
    modem.Waiting true (modem.machine.exec state connectText) ∧
      modem.machine.trace state connectText = []
  /-- A connected module asks for the bytes of a block. -/
  prompts : ∀ length state, 0 < length → length ≤ maxSendSize →
    modem.Waiting true state →
      modem.Prompting length
          (modem.machine.exec state (sendATText length)) ∧
        modem.machine.trace state (sendATText length) = []
  /-- It sends them as they are; the server may close the connection then. -/
  sends : ∀ block state, modem.Prompting block.length state →
    (∃ connected,
        modem.Waiting connected (modem.machine.exec state block)) ∧
      modem.machine.trace state block = [block]

theorem Modem.Documented.request {State : Type u} {modem : Modem State}
    (documented : modem.Documented) {state : State}
    (waiting : modem.Waiting true state) {block : List UInt8}
    (nonempty : 0 < block.length) (short : block.length ≤ maxSendSize) :
    let bytes := sendATText block.length ++ block
    (∃ connected, modem.Waiting connected (modem.machine.exec state bytes)) ∧
      modem.machine.trace state bytes = [block] := by
  obtain ⟨prompting, quiet⟩ :=
    documented.prompts block.length state nonempty short waiting
  obtain ⟨waits, sent⟩ := documented.sends block _ prompting
  simp only [Machine.exec_append, Machine.trace_append, quiet, sent]
  exact ⟨waits, rfl⟩

def requestLine : List UInt8 :=
  ascii "POST " ++ apiPath ++ ascii " HTTP/1.1"

/-- A server takes a request on its API path by its length field, and the four
numbers from the JSON object in it. -/
structure Serves (server : List UInt8 → Option Report) : Prop where
  post : ∀ (frame : HttpFrame.Frame) report,
    (∀ line ∈ frame.head, line ≠ [] ∧ (13 : UInt8) ∉ line) →
    frame.head.head? = some requestLine →
    frame.field? contentLengthField = some (numeral frame.body.length) →
    readReport frame.body = some report →
      server frame.render = some report

/-- A request is understood as it is meant unless it is below zero indoors. -/
theorem Serves.postText {server : List UInt8 → Option Report}
    (serves : Serves server) {meas : Measurements}
    (nonnegative : 0 ≤ meas.bmp280Meas.temperature.toInt) :
    server (postText (jsonText meas)) = some (reportOf meas) := by
  have upper := meas.bmp280Meas.temperature.toInt_lt
  have read := readReport_jsonText meas
  rw [Int.emod_eq_of_lt nonnegative (by omega)] at read
  rw [postText_eq_render]
  exact serves.post (requestFrame (jsonText meas)) _
    (requestFrame_plain (jsonText meas)) rfl
    (field?_requestFrame (jsonText meas)) read

section Instances

def startCommand : List UInt8 := ascii "AT+CIPSTART="

def sendCommand : List UInt8 := ascii "AT+CIPSEND="

/-- Only a connected module has a use for data. -/
def atCommand (connected : Bool) (line : List UInt8) : Bool × Nat :=
  if startCommand.isPrefixOf line then (true, 0)
  else if connected && sendCommand.isPrefixOf line then
    (connected, (parseNat? (line.drop sendCommand.length)).getD 0)
  else (connected, 0)

/-- A module that gets through whenever it is asked to. -/
def listening : Modem (Receiver Bool) where
  machine := Receiver.machine atCommand
  Waiting connected receiver := receiver = Receiver.idle connected
  Prompting length receiver :=
    0 < length ∧ receiver = Receiver.opened (true, length)

theorem atCommand_send (length : Nat) :
    atCommand true (sendCommand ++ numeral length) = (true, length) := by
  have other : startCommand.isPrefixOf (sendCommand ++ numeral length) =
      false := by
    simp [startCommand, sendCommand, ascii, List.isPrefixOf]
  have opens : sendCommand.isPrefixOf (sendCommand ++ numeral length) =
      true := by
    rw [List.isPrefixOf_iff_prefix]
    exact List.prefix_append _ _
  simp [atCommand, other, opens, parseNat?_numeral]

theorem listening_documented : listening.Documented where
  connects := by
    intro connected receiver waiting
    subst waiting
    have text : connectText = connectText.dropLast.dropLast ++ [13, 10] := by
      decide +kernel
    have understood : atCommand connected connectText.dropLast.dropLast =
        (true, 0) := by
      cases connected <;> decide +kernel
    rw [text]
    obtain ⟨opened, quiet⟩ := @Receiver.line Bool atCommand connected
      connectText.dropLast.dropLast (by decide +kernel)
    rw [understood] at opened
    exact ⟨opened, quiet⟩
  prompts := by
    intro length receiver positive short waiting
    subst waiting
    have plain : (13 : UInt8) ∉ sendCommand ++ numeral length := by
      have digits : (13 : UInt8) ∉ numeral length := by
        intro member
        exact absurd (isDigit_of_mem_numeral member) (by decide)
      have name : (13 : UInt8) ∉ sendCommand := by decide
      simp [digits, name]
    have text : sendATText length =
        sendCommand ++ numeral length ++ [13, 10] := rfl
    obtain ⟨opened, quiet⟩ := @Receiver.line Bool atCommand true _ plain
    rw [atCommand_send] at opened
    rw [text]
    exact ⟨⟨positive, opened⟩, quiet⟩
  sends := by
    intro block receiver prompting
    obtain ⟨positive, rfl⟩ := prompting
    obtain ⟨waits, sent⟩ := @Receiver.block Bool atCommand true block
      (List.ne_nil_of_length_pos positive)
    exact ⟨⟨true, waits⟩, sent⟩

def recorded (block : List UInt8) : Option Report := do
  let frame ← HttpFrame.read? block
  readReport frame.body

theorem recorded_serves : Serves recorded where
  post := by
    intro frame report plain opens length read
    simp [recorded, HttpFrame.read?_render frame plain, read]

end Instances

end QuarkMeteoStation.ESP
