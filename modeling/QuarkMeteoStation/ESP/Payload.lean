import QuarkMeteoStation.ESP
import QuarkMeteoStation.Library.FlatJson

namespace QuarkMeteoStation.ESP

open Library
open Library.Decimal

/-! What the assembled buffers hold, for every contents of the averages. -/

def unsignedTemperature (meas : BMP280Meas) : UInt32 :=
  UInt32.ofInt meas.temperature.toInt

def magnitude (meas : DS18B20Meas) : Nat :=
  meas.integer.toNat * 100 + meas.fraction.toNat

def outdoorNumeral (meas : DS18B20Meas) : List UInt8 :=
  (if meas.sign = .negative then ascii "-" else []) ++ numeral (magnitude meas)

def payload (meas : Measurements) : List FlatJson.Member :=
  [(ascii "name", deviceName),
    (ascii "Ti", numeral (unsignedTemperature meas.bmp280Meas).toNat),
    (ascii "P", numeral meas.bmp280Meas.pressure.toNat),
    (ascii "To", outdoorNumeral meas.ds18b20Meas),
    (ascii "RH", numeral meas.dht11Meas.humidity.toNat)]

def jsonText (meas : Measurements) : List UInt8 :=
  FlatJson.renderObject (payload meas)

def postText (json : List UInt8) : List UInt8 :=
  ascii "POST " ++ apiPath ++ ascii " HTTP/1.1\r\nHost:" ++ hostAddress ++
    ascii "\r\nContent-Length:" ++ numeral json.length ++
    ascii "\r\nContent-Type:application/json\r\n\r\n" ++ json ++ ascii "\r\n"

def sendATText (length : Nat) : List UInt8 :=
  ascii "AT+CIPSEND=" ++ numeral length ++ ascii "\r\n"

def connectText : List UInt8 :=
  ascii "AT+CIPSTART=\"TCP\",\"" ++ hostAddress ++ ascii "\"," ++ hostPort ++
    ascii "\r\n"

/-- `now` is `start` after assembling `text` in the target, with numerals of
at most `digits` bytes, terminator included, passing through `utoa_buffer`. -/
structure Assembled (target : Target) (start now : Buffers)
    (text : List UInt8) (digits : Nat) : Prop where
  built : Buffer.Built (start.get target) (now.get target) text
  frame : ∀ other, other ≠ target → now.get other = start.get other
  scratch : now.utoaBuffer.written = max start.utoaBuffer.written digits

namespace Assembled

variable {target : Target} {start now : Buffers} {text : List UInt8}
variable {digits : Nat}

theorem strcpy (start : Buffers) (target : Target) (source : List UInt8)
    (nulFree : (0 : UInt8) ∉ source) :
    Assembled target start (start.strcpy target source) source 0 where
  built := by
    simpa [Buffers.strcpy] using Buffer.Built.strcpy (start.get target) nulFree
  frame := fun _ different => Buffers.get_set_other start different _
  scratch := by simp [Buffers.strcpy]

theorem strcat (assembled : Assembled target start now text digits)
    (source : List UInt8) (nulFree : (0 : UInt8) ∉ source) :
    Assembled target start (now.strcat target source) (text ++ source)
      digits where
  built := by simpa [Buffers.strcat] using assembled.built.strcat nulFree
  frame := fun other different =>
    (Buffers.get_set_other now different _).trans
      (assembled.frame other different)
  scratch := by simpa [Buffers.strcat] using assembled.scratch

theorem strcatNumber (assembled : Assembled target start now text digits)
    (number : UInt32) :
    Assembled target start (now.strcatNumber target number)
      (text ++ numeral number.toNat)
      (max digits ((numeral number.toNat).length + 1)) := by
  let converted : Buffers :=
    { now with utoaBuffer := utoa number now.utoaBuffer }
  have targets : ∀ target, converted.get target = now.get target := by
    intro target
    cases target <;> rfl
  have holds := utoa_holds number now.utoaBuffer
  have ready : Assembled target start converted text
      (max digits ((numeral number.toNat).length + 1)) := by
    refine ⟨?_, ?_, ?_⟩
    · rw [targets]
      exact assembled.built
    · intro other different
      rw [targets]
      exact assembled.frame other different
    · simp only [converted, utoa_written, assembled.scratch]
      omega
  have appends : now.strcatNumber target number =
      converted.strcat target (numeral number.toNat) := by
    simp only [Buffers.strcatNumber, holds.cstring_eq, converted]
  rw [appends]
  exact ready.strcat _ holds.nulFree

end Assembled

theorem toNat_temperature16 (meas : DS18B20Meas) :
    (UInt16.ofNat (meas.integer.toNat * 100 +
      meas.fraction.toNat)).toUInt32.toNat = magnitude meas := by
  have integerBound := meas.integer.toNat_lt
  have fractionBound := meas.fraction.toNat_lt
  simp only [UInt16.toNat_toUInt32, UInt16.toNat_ofNat', magnitude]
  omega

/-- The longest numeral, terminator included, that passes through
`utoa_buffer` while the JSON text is assembled. -/
def jsonDigits (meas : Measurements) : Nat :=
  max (max (max
    ((numeral (unsignedTemperature meas.bmp280Meas).toNat).length + 1)
    ((numeral meas.bmp280Meas.pressure.toNat).length + 1))
    ((numeral (magnitude meas.ds18b20Meas)).length + 1))
    ((numeral meas.dht11Meas.humidity.toNat).length + 1)

private theorem jsonText_eq (meas : Measurements) :
    jsonText meas =
      ascii "\x7b\"name\":\"" ++ deviceName ++ ascii "\",\"Ti\":\"" ++
        numeral (unsignedTemperature meas.bmp280Meas).toNat ++
        ascii "\",\"P\":\"" ++ numeral meas.bmp280Meas.pressure.toNat ++
        ascii "\",\"To\":\"" ++ outdoorNumeral meas.ds18b20Meas ++
        ascii "\",\"RH\":\"" ++ numeral meas.dht11Meas.humidity.toNat ++
        ascii "\"\x7d" := by
  simp [jsonText, payload, FlatJson.renderObject, FlatJson.renderMembers,
    FlatJson.renderMember, FlatJson.renderString, ascii, deviceName]

theorem prepareJson_built (meas : Measurements) (buffers : Buffers) :
    Assembled .temp buffers (prepareJson meas buffers) (jsonText meas)
      (jsonDigits meas) := by
  have opened := (((Assembled.strcpy buffers .temp
    (ascii "\x7b\"name\":\"") (by decide)).strcat
    deviceName (by decide)).strcat
    (ascii "\",\"Ti\":\"") (by decide)).strcatNumber
    (unsignedTemperature meas.bmp280Meas)
  have pressured := (opened.strcat (ascii "\",\"P\":\"")
    (by decide)).strcatNumber meas.bmp280Meas.pressure
  have outdoorName := pressured.strcat (ascii "\",\"To\":\"")
    (by decide)
  have signed : ∀ {now text digits}, Assembled .temp buffers now text digits →
      Assembled .temp buffers
        (if meas.ds18b20Meas.sign = .negative then
          now.strcat .temp (ascii "-") else now)
        (text ++ if meas.ds18b20Meas.sign = .negative then ascii "-" else [])
        digits := by
    intro now text digits built
    split
    · exact built.strcat _ (by decide)
    · simpa using built
  have outdoor := (signed outdoorName).strcatNumber (UInt16.ofNat
    (meas.ds18b20Meas.integer.toNat * 100 +
      meas.ds18b20Meas.fraction.toNat)).toUInt32
  have closed := ((outdoor.strcat (ascii "\",\"RH\":\"")
    (by decide)).strcatNumber meas.dht11Meas.humidity.toUInt32).strcat
    (ascii "\"\x7d") (by decide)
  rw [jsonText_eq]
  simp only [toNat_temperature16, UInt8.toNat_toUInt32, Nat.zero_max] at closed
  simpa [prepareJson, outdoorNumeral, jsonDigits, unsignedTemperature]
    using closed

theorem length_numeral_uint8 (byte : UInt8) :
    (numeral byte.toNat).length ≤ 3 := by
  rw [length_numeral_le_iff (by decide)]
  have bound := byte.toNat_lt
  omega

theorem length_numeral_magnitude (meas : DS18B20Meas) :
    (numeral (magnitude meas)).length ≤ 5 := by
  rw [length_numeral_le_iff (by decide)]
  have integerBound := meas.integer.toNat_lt
  have fractionBound := meas.fraction.toNat_lt
  simp only [magnitude]
  omega

theorem length_outdoorNumeral (meas : DS18B20Meas) :
    (outdoorNumeral meas).length ≤ 6 := by
  have bound := length_numeral_magnitude meas
  have dash : (ascii "-").length = 1 := by decide
  unfold outdoorNumeral
  split <;> simp only [List.length_append, dash, List.length_nil] <;> omega

theorem length_jsonText (meas : Measurements) :
    (jsonText meas).length =
      47 + (numeral (unsignedTemperature meas.bmp280Meas).toNat).length +
        (numeral meas.bmp280Meas.pressure.toNat).length +
        (outdoorNumeral meas.ds18b20Meas).length +
        (numeral meas.dht11Meas.humidity.toNat).length := by
  rw [jsonText_eq]
  simp [ascii, deviceName]
  omega

theorem length_jsonText_le (meas : Measurements) :
    (jsonText meas).length ≤ 76 := by
  have indoor := length_numeral_uint32 (unsignedTemperature meas.bmp280Meas)
  have pressure := length_numeral_uint32 meas.bmp280Meas.pressure
  have outdoor := length_outdoorNumeral meas.ds18b20Meas
  have humidity := length_numeral_uint8 meas.dht11Meas.humidity
  rw [length_jsonText]
  omega

theorem length_postText (json : List UInt8) :
    (postText json).length = 110 + (numeral json.length).length + json.length := by
  simp [postText, ascii, apiPath, hostAddress]
  omega

theorem length_postText_jsonText_le (meas : Measurements) :
    (postText (jsonText meas)).length ≤ 188 := by
  have bound := length_jsonText_le meas
  have digits : (numeral (jsonText meas).length).length ≤ 2 := by
    rw [length_numeral_le_iff (by decide)]
    omega
  rw [length_postText]
  omega

theorem writeString_of_holds {string : Buffer} {text : List UInt8}
    (holds : string.Holds text) (short : text.length < 256) :
    writeString string = text := by
  obtain ⟨rest, stored⟩ := holds.stored
  have length : (UInt8.ofNat string.strlen).toNat = text.length := by
    rw [holds.strlen_eq, UInt8.toNat_ofNat']
    omega
  simp only [writeString, length, stored]
  simp

theorem preparePostRequest_assembled (meas : Measurements)
    (buffers : Buffers) :
    Assembled .post (prepareJson meas buffers) (preparePostRequest meas buffers)
      (postText (jsonText meas))
      ((numeral (jsonText meas).length).length + 1) := by
  have json := (prepareJson_built meas buffers).built.holds
  have bound := length_jsonText_le meas
  have opened := ((((Assembled.strcpy (prepareJson meas buffers) .post
    (ascii "POST ") (by decide)).strcat
    apiPath (by decide)).strcat
    (ascii " HTTP/1.1\r\nHost:") (by decide)).strcat
    hostAddress (by decide)).strcat
    (ascii "\r\nContent-Length:") (by decide)
  have tempKept := opened.frame .temp (by decide)
  have counted := (opened.strcatNumber
    (UInt8.ofNat (jsonText meas).length).toUInt32).strcat
    (ascii "\r\nContent-Type:application/json\r\n\r\n") (by decide)
  have closed := (counted.strcat _ json.nulFree).strcat
    (ascii "\r\n") (by decide)
  have payloadLength :
      (UInt8.ofNat (jsonText meas).length).toUInt32.toNat =
        (jsonText meas).length := by
    rw [UInt8.toNat_toUInt32, UInt8.toNat_ofNat']
    omega
  have length := json.strlen_eq
  have content := json.cstring_eq
  simp only [Buffers.get] at length content
  rw [payloadLength] at closed
  simpa [preparePostRequest, length, content, postText] using closed

/-- The AT command is assembled over the JSON text in `temp_buffer`. -/
theorem writeTcpSendAT_spec (buffers : Buffers) {text : List UInt8}
    (holds : buffers.postBuffer.Holds text) (short : text.length < 65536) :
    Assembled .temp buffers (writeTcpSendAT buffers).1 (sendATText text.length)
        ((numeral text.length).length + 1) ∧
      (writeTcpSendAT buffers).2 = sendATText text.length := by
  have postLength : (UInt16.ofNat text.length).toUInt32.toNat = text.length := by
    rw [UInt16.toNat_toUInt32, UInt16.toNat_ofNat']
    omega
  have assembled := ((Assembled.strcpy buffers .temp
    (ascii "AT+CIPSEND=") (by decide)).strcatNumber
    (UInt16.ofNat text.length).toUInt32).strcat
    (ascii "\r\n") (by decide)
  rw [postLength] at assembled
  have final : Assembled .temp buffers (writeTcpSendAT buffers).1
      (sendATText text.length) ((numeral text.length).length + 1) := by
    simpa [writeTcpSendAT, holds.strlen_eq, sendATText] using assembled
  refine ⟨final, ?_⟩
  have digits : (numeral text.length).length ≤ 5 := by
    rw [length_numeral_le_iff (by decide)]
    omega
  have bound : (sendATText text.length).length < 256 := by
    simp [sendATText, ascii]
    omega
  have message : (writeTcpSendAT buffers).2 =
      writeString ((writeTcpSendAT buffers).1.get .temp) := by
    simp only [writeTcpSendAT, Buffers.get]
  rw [message]
  exact writeString_of_holds final.built.holds bound

theorem connectToServer_spec (buffers : Buffers) :
    Assembled .temp buffers (connectToServer buffers).1 connectText 0 ∧
      (connectToServer buffers).2 = connectText := by
  have assembled : Assembled .temp buffers (connectToServer buffers).1
      connectText 0 :=
    ((((Assembled.strcpy buffers .temp
      (ascii "AT+CIPSTART=\"TCP\",\"") (by decide)).strcat
      hostAddress (by decide)).strcat
      (ascii "\",") (by decide)).strcat
      hostPort (by decide)).strcat
      (ascii "\r\n") (by decide)
  have message : (connectToServer buffers).2 =
      writeString ((connectToServer buffers).1.get .temp) := by
    simp only [connectToServer, Buffers.get]
  have short : connectText.length < 256 := by decide
  refine ⟨assembled, ?_⟩
  rw [message]
  exact writeString_of_holds assembled.built.holds short

theorem sendMeasurements_messages (meas : Measurements) (buffers : Buffers) :
    (sendMeasurements meas buffers).2 =
      [sendATText (postText (jsonText meas)).length,
        postText (jsonText meas)] := by
  have bound := length_postText_jsonText_le meas
  have post := (preparePostRequest_assembled meas buffers).built.holds
  obtain ⟨assembled, message⟩ :=
    writeTcpSendAT_spec (preparePostRequest meas buffers) post (by omega)
  have kept := assembled.frame .post (by decide)
  simp only [Buffers.get] at kept post
  have request := writeString_of_holds post (by omega)
  simp only [sendMeasurements, message, kept, request]

theorem parseObject?_jsonText (meas : Measurements) :
    FlatJson.parseObject? (jsonText meas) = some (payload meas) := by
  have digitsPlain : ∀ number, (numeral number).all FlatJson.isPlain = true := by
    intro number
    apply List.all_eq_true.mpr
    intro byte member
    have digit := isDigit_of_mem_numeral member
    simp only [isDigit, Bool.and_eq_true, decide_eq_true_eq] at digit
    have notQuote : byte ≠ 34 := by
      rintro rfl
      exact absurd digit.1 (by decide)
    have notBackslash : byte ≠ 92 := by
      rintro rfl
      exact absurd digit.2 (by decide)
    simp only [FlatJson.isPlain, Bool.and_eq_true, decide_eq_true_eq, bne_iff_ne]
    refine ⟨⟨⟨?_, ?_⟩, notQuote⟩, notBackslash⟩ <;> omega
  have outdoorPlain :
      (outdoorNumeral meas.ds18b20Meas).all FlatJson.isPlain = true := by
    have dash : (ascii "-").all FlatJson.isPlain = true := by decide
    unfold outdoorNumeral
    split <;> simp [List.all_append, digitsPlain, dash]
  apply FlatJson.parseObject?_render
  · simp [payload]
  · intro member memberIn
    simp only [payload, List.mem_cons, List.not_mem_nil, or_false] at memberIn
    rcases memberIn with rfl | rfl | rfl | rfl | rfl
    · exact ⟨rfl, rfl⟩
    · exact ⟨rfl, digitsPlain _⟩
    · exact ⟨rfl, digitsPlain _⟩
    · exact ⟨rfl, outdoorPlain⟩
    · exact ⟨rfl, digitsPlain _⟩

def frostyMeasurements : Measurements where
  bmp280Meas := { pressure := 101325, temperature := -5 }
  ds18b20Meas := { sign := .negative, integer := 3, fraction := 7 }
  dht11Meas := { humidity := 45, temperature := 20 }

end QuarkMeteoStation.ESP
