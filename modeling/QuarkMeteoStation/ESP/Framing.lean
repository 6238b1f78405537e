import QuarkMeteoStation.ESP.Report
import QuarkMeteoStation.Library.HttpFrame

namespace QuarkMeteoStation.ESP

open Library
open Library.Decimal

/-! The two length fields of an upload: the one in the AT command that announces
the request, and the one in the request that announces the payload. -/

def contentLengthField : List UInt8 := ascii "Content-Length:"

def requestFrame (json : List UInt8) : HttpFrame.Frame where
  head := [ascii "POST " ++ apiPath ++ ascii " HTTP/1.1",
    ascii "Host:" ++ hostAddress,
    contentLengthField ++ numeral json.length,
    ascii "Content-Type:application/json"]
  body := json

theorem postText_eq_render (json : List UInt8) :
    postText json = (requestFrame json).render := by
  simp [postText, requestFrame, HttpFrame.Frame.render, HttpFrame.renderHead,
    HttpFrame.crlf, contentLengthField, ascii]

theorem requestFrame_plain (json : List UInt8) :
    ∀ line ∈ (requestFrame json).head,
      line ≠ [] ∧ (13 : UInt8) ∉ line := by
  have digits : (13 : UInt8) ∉ numeral json.length := by
    intro member
    exact absurd (isDigit_of_mem_numeral member) (by decide)
  have field : (13 : UInt8) ∉ contentLengthField := by decide
  have name : contentLengthField ≠ [] := by decide
  intro line member
  simp only [requestFrame, List.mem_cons, List.not_mem_nil, or_false] at member
  rcases member with rfl | rfl | rfl | rfl
  · decide
  · decide
  · exact ⟨by simp [name], by simp [field, digits]⟩
  · decide

theorem read?_postText (json : List UInt8) :
    HttpFrame.read? (postText json) = some (requestFrame json) := by
  rw [postText_eq_render]
  exact HttpFrame.read?_render _ (requestFrame_plain json)

theorem field?_requestFrame (json : List UInt8) :
    (requestFrame json).field? contentLengthField =
      some (numeral json.length) := by
  simp [HttpFrame.Frame.field?, requestFrame, contentLengthField, ascii,
    hostAddress, List.find?, List.isPrefixOf]

/-- What the two messages of an upload of `json` say about each other. -/
def Framed (json : List UInt8) (messages : List (List UInt8)) : Prop :=
  ∃ request, messages =
      [ascii "AT+CIPSEND=" ++ numeral request.length ++ ascii "\r\n", request] ∧
    ∃ frame, HttpFrame.read? request = some frame ∧ frame.body = json ∧
      frame.field? contentLengthField = some (numeral json.length)

/-- A length the source keeps in a `uint8_t`. -/
def Untruncated (length : Nat) : Prop :=
  (UInt8.ofNat length).toNat = length

theorem untruncated_of_lt {length : Nat} (short : length < 256) :
    Untruncated length := by
  rw [Untruncated, UInt8.toNat_ofNat']
  exact Nat.mod_eq_of_lt short

theorem framed_postText (json : List UInt8) :
    Framed json [sendATText (postText json).length, postText json] :=
  ⟨postText json, rfl, requestFrame json, read?_postText json, rfl,
    field?_requestFrame json⟩

theorem strlen_preparedJson (meas : Measurements) (buffers : Buffers) :
    (prepareJson meas buffers).tempBuffer.strlen ≤ 76 := by
  rw [Buffer.strlen]
  exact Nat.le_trans (Nat.le_of_eq (congrArg _ (preparedJson_eq meas buffers)))
    (length_jsonText_le meas)

/-- After an upload `temp_buffer` holds the AT command and `post_buffer` the
request, and the UART has been given all of both. -/
theorem sendMeasurements_strlen (meas : Measurements) (buffers : Buffers) :
    let after := (sendMeasurements meas buffers).1
    after.tempBuffer.cstring = sendATText (postText (jsonText meas)).length ∧
      after.postBuffer.cstring = postText (jsonText meas) := by
  have bound := length_postText_jsonText_le meas
  have post := (preparePostRequest_assembled meas buffers).built.holds
  obtain ⟨assembled, -⟩ :=
    writeTcpSendAT_spec (preparePostRequest meas buffers) post (by omega)
  have kept := assembled.frame .post (by decide)
  simp only [Buffers.get] at kept post
  refine ⟨assembled.built.holds.cstring_eq, ?_⟩
  rw [sendMeasurements]
  simp only [kept]
  exact post.cstring_eq

theorem length_sendATText_le (meas : Measurements) :
    (sendATText (postText (jsonText meas)).length).length ≤ 16 := by
  have bound := length_postText_jsonText_le meas
  have digits : (numeral (postText (jsonText meas)).length).length ≤ 3 := by
    rw [length_numeral_le_iff (by decide)]
    omega
  simp only [sendATText, List.length_append]
  have front : (ascii "AT+CIPSEND=").length = 11 := by decide
  have back : (ascii "\r\n").length = 2 := by decide
  omega

/-- Both length fields of an upload are exact, and none of the lengths that pass
through a `uint8_t` loses a bit there. -/
theorem sendMeasurements_framed (meas : Measurements) (buffers : Buffers) :
    let after := (sendMeasurements meas buffers).1
    Framed (preparedJson meas buffers) (sendMeasurements meas buffers).2 ∧
      Untruncated (prepareJson meas buffers).tempBuffer.strlen ∧
      Untruncated after.tempBuffer.strlen ∧
      Untruncated after.postBuffer.strlen := by
  intro after
  obtain ⟨command, request⟩ := sendMeasurements_strlen meas buffers
  have jsonLength := strlen_preparedJson meas buffers
  have commandLength := length_sendATText_le meas
  have requestLength := length_postText_jsonText_le meas
  refine ⟨?_, untruncated_of_lt (by omega), ?_, ?_⟩
  · rw [preparedJson_eq, sendMeasurements_messages]
    exact framed_postText (jsonText meas)
  · apply untruncated_of_lt
    rw [Buffer.strlen, command]
    omega
  · apply untruncated_of_lt
    rw [Buffer.strlen, request]
    omega

end QuarkMeteoStation.ESP
