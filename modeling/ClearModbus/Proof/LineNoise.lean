import ClearModbus.Proof.CrcDetection
import ClearModbus.Proof.ResponseLength

/-!
# Noise on an RTU line

The CRC tells a damaged frame from the frame, but the client first has to find where the frame ends,
and it learns that from the damaged bytes. When the bytes that tell the length are spared, the call
raises `ModbusCRCError` and leaves what follows on the line; otherwise a call that returns has taken
a wrong number of bytes.
-/

namespace ClearModbus

open BitString (differingBits)
open ModbusRTUFrame (InAdjacentBytes)

namespace ModbusRtuClient

/-- The rules find the end of every response that belongs to the request. -/
theorem responseLength_wire {request : BuiltinRequest} {response : ResponsePDU}
    (h : Answers request response) (unitId : Int) :
    responseLength (.builtin request) (ModbusRTUFrame.wire ⟨unitId, response.wire⟩) =
      some (ModbusRTUFrame.wire ⟨unitId, response.wire⟩).length := by
  generalize hwire : ModbusRTUFrame.wire ⟨unitId, response.wire⟩ = wire
  have hconsumes := consumes_receiveResponse h unitId
  rw [hwire] at hconsumes
  obtain ⟨sizes, -, hrun⟩ := hconsumes ⟨true, wire, [], [], false⟩ [] rfl
    (List.append_nil wire).symm
  have htakes := takes_receiveResponse (.builtin request) ⟨true, wire, [], [], false⟩ rfl
  dsimp only at htakes
  cases hlength : responseLength (.builtin request) wire with
  | none =>
      rw [hlength] at htakes
      obtain ⟨final, herror, -⟩ := htakes
      rw [hrun] at herror
      cases herror
  | some length =>
      rw [hlength] at htakes
      obtain ⟨hle, _, htaken⟩ := htakes
      rw [hrun] at htaken
      have hvalue : wire = wire.take length := Except.ok.inj (Prod.mk.inj htaken).1
      have hcount := congrArg List.length hvalue
      rw [List.length_take] at hcount
      exact congrArg some (by omega)

/-- A damaged frame has the length of the frame when the bytes that tell it are spared. -/
theorem responseLength_of_spared {request : BuiltinRequest} {response : ResponsePDU} {unitId : Int}
    (h : Answers request response) (rest : Bytes) {data : Bytes}
    (hlength : (ModbusRTUFrame.wire ⟨unitId, response.wire⟩).length = data.length)
    (hexception : isExceptionFunctionCode (data.getD 1 0).toNat =
      isExceptionFunctionCode ((ModbusRTUFrame.wire ⟨unitId, response.wire⟩).getD 1 0).toNat)
    (hagree : AgreeAt (sizePositions (.builtin request)
      (ModbusRTUFrame.wire ⟨unitId, response.wire⟩))
      (ModbusRTUFrame.wire ⟨unitId, response.wire⟩) data) :
    responseLength (.builtin request) (data ++ rest) = some data.length := by
  have hwire := responseLength_wire h unitId
  have hmin : 1 < (ModbusRTUFrame.wire ⟨unitId, response.wire⟩).length :=
    lt_of_lt_of_le (by decide) (ModbusRTUFrame.minRtuFrameSize_le_length_wire h.wire_ne_nil)
  rw [← hlength]
  refine responseLength_congr hwire (by rw [List.length_append]; omega) ?_ ?_
  · rw [← hexception, List.getD_append _ _ _ _ (by omega)]
  · intro position hposition
    have hlt := lt_of_mem_sizePositions hwire position hposition
    rw [List.getElem?_append_left (by omega)]
    exact hagree position hposition

section Damage

variable {registry : CustomFunctionCodeRegistry} {client : ModbusRtuClient}
  {request : BuiltinRequest} {unitId : Option Int}

/-- What takes exactly a byte string with a wrong CRC raises. -/
theorem onLine_of_crcError (shortReadError : PyError) (hunit : IsByte (unitId.getD client.unitId))
    {data rest : Bytes}
    (hlength : responseLength (.builtin request) (data ++ rest) = some data.length)
    {error : PyError} (hdecode : ModbusRTUFrame.decode data = .error error) :
    onLine registry client (.builtin request) unitId shortReadError (data ++ rest) =
      (.error error, rest) := by
  rw [onLine, encodeRequest_eq request hunit]
  dsimp only
  rw [hlength]
  dsimp only
  rw [List.take_left, List.drop_left, ModbusRTUCodec.decodeResponse, hdecode]
  rfl

/-- A call that returns has found the end of a frame. -/
theorem exists_length_of_onLine {data left : Bytes} {response : ResponsePDU}
    {shortReadError : PyError}
    (h : onLine registry client (.builtin request) unitId shortReadError data =
      (.ok response, left)) :
    ∃ length, responseLength (.builtin request) data = some length ∧ left = data.drop length ∧
      length ≤ data.length := by
  rw [onLine] at h
  split at h
  · cases h
  · rename_i payload hpayload
    split at h
    · rename_i length hlength
      obtain ⟨-, rfl⟩ := Prod.mk.inj h
      exact ⟨length, hlength, rfl, le_length_of_responseLength hlength⟩
    · cases h

theorem decode_of_damage {frame : ModbusRTUFrame} (hpdu : frame.pdu ≠ []) {data : Bytes}
    (hlength : frame.wire.length = data.length) (hne : frame.wire ≠ data)
    (herror : InAdjacentBytes frame.wire data ∨ Odd (differingBits frame.wire data).card) :
    ModbusRTUFrame.decode data =
      .error (.modbusCRCError "RTU frame CRC does not match payload") := by
  apply ModbusRTUFrame.decode_eq_crcError
  · rw [← hlength]
    exact ModbusRTUFrame.minRtuFrameSize_le_length_wire hpdu
  · have hremainder := ModbusRTUFrame.foldl_crc16Step_ne hlength hne herror 0xFFFF
    rw [ModbusRTUFrame.foldl_crc16Step_wire] at hremainder
    exact hremainder.symm

end Damage

/-- **Noise on the line**, within two adjacent bytes of a response or in an odd number of its bits.
A call that returns all the same has not taken exactly the damaged frame; and when the bytes that
tell the length and the bit of an exception response are spared, the call raises `ModbusCRCError`
and leaves what follows the frame. -/
theorem noise_detected (registry : CustomFunctionCodeRegistry) (client : ModbusRtuClient)
    (unitId : Option Int) (hunit : IsByte (unitId.getD client.unitId)) {request : BuiltinRequest}
    {response : ResponsePDU} (hanswers : Answers request response) {wire data : Bytes}
    (hwire : wire = ModbusRTUFrame.wire ⟨unitId.getD client.unitId, response.wire⟩)
    (hlength : wire.length = data.length) (hne : wire ≠ data)
    (hnoise : InAdjacentBytes wire data ∨ Odd (differingBits wire data).card) {port : SerialPort}
    {rest : Bytes} (hconnected : port.connected = true) (hincoming : port.incoming = data ++ rest) :
    (∀ returned final,
      Exec.runOn (execute registry client serialTransport (.builtin request) unitId) port =
        (.ok returned, final) → final.incoming ≠ rest) ∧
    (isExceptionFunctionCode (data.getD 1 0).toNat = isExceptionFunctionCode (wire.getD 1 0).toNat →
      AgreeAt (sizePositions (.builtin request) wire) wire data →
      ∃ message final,
        Exec.runOn (execute registry client serialTransport (.builtin request) unitId) port =
          (.error (.modbusCRCError message), final) ∧ final.incoming = rest) := by
  subst hwire
  have hdecode := decode_of_damage hanswers.wire_ne_nil hlength hne hnoise
  obtain ⟨last, hrun, hlast⟩ :=
    runOn_execute registry client (.builtin request) unitId hconnected
  rw [hincoming] at hrun hlast
  constructor
  · rintro returned final hreturned rfl
    rw [hrun] at hreturned
    obtain ⟨houtcome, rfl⟩ := Prod.mk.inj hreturned
    have hline : onLine registry client (.builtin request) unitId port.shortReadError
        (data ++ last.incoming) = (.ok returned, last.incoming) := Prod.ext houtcome hlast.symm
    obtain ⟨length, htaken, hleft, hle⟩ := exists_length_of_onLine hline
    have hcount := congrArg List.length hleft
    rw [List.length_drop, List.length_append] at hcount
    rw [List.length_append] at hle
    obtain rfl : length = data.length := by omega
    rw [onLine_of_crcError port.shortReadError hunit htaken hdecode] at houtcome
    cases houtcome
  · intro hexception hagree
    have hfound := responseLength_of_spared hanswers rest hlength hexception hagree
    have hline : onLine registry client (.builtin request) unitId port.shortReadError
        (data ++ rest) = (.error _, rest) :=
      onLine_of_crcError port.shortReadError hunit hfound hdecode
    rw [hline] at hrun hlast
    exact ⟨_, last, hrun, hlast⟩

/-- One flipped bit in the value of an echo, with a byte behind the frame. -/
theorem noise_detected_echo :
    let port : SerialPort :=
      ⟨true, [0x01, 0x06, 0x00, 0x04, 0x00, 0x06, 0x89, 0xC9] ++ [0xAA], [], [], false⟩
    (∀ returned final, Exec.runOn (execute .empty ⟨1⟩ serialTransport
        (.builtin (.writeSingleRegister ⟨4, 7, by decide, by decide⟩)) none) port =
          (.ok returned, final) → final.incoming ≠ [0xAA]) ∧
    ∃ message final, Exec.runOn (execute .empty ⟨1⟩ serialTransport
        (.builtin (.writeSingleRegister ⟨4, 7, by decide, by decide⟩)) none) port =
          (.error (.modbusCRCError message), final) ∧ final.incoming = [0xAA] := by
  intro port
  have hwire : ([0x01, 0x06, 0x00, 0x04, 0x00, 0x07, 0x89, 0xC9] : Bytes) =
      ModbusRTUFrame.wire ⟨1, ResponsePDU.wire (.writeSingleRegister ⟨0x06, 4, 7⟩)⟩ := by
    decide +kernel
  have hinside : InAdjacentBytes [0x01, 0x06, 0x00, 0x04, 0x00, 0x07, 0x89, 0xC9]
      [0x01, 0x06, 0x00, 0x04, 0x00, 0x06, 0x89, 0xC9] := ⟨5, by decide⟩
  obtain ⟨hreturned, hraised⟩ := noise_detected .empty ⟨1⟩ none (by decide)
    (.writeSingleRegister ⟨4, 7, by decide, by decide⟩ 4 7 (by decide) (by decide)) hwire
      (by decide)
    (by decide) (Or.inl hinside) (rfl : port.connected = true) rfl
  exact ⟨hreturned, hraised rfl nofun⟩

/-- One flipped bit in the byte count of a register whose value happens to be the CRC of an empty
response: the call returns no registers and leaves the CRC of the frame. -/
example : Exec.runOn (execute .empty ⟨1⟩ serialTransport
    (.builtin (.readHoldingRegisters ⟨0, 1, by decide, by decide⟩)) none)
    ⟨true, [0x01, 0x03, 0x00, 0x20, 0xF0, 0xA1, 0xC0], [], [], false⟩ =
      (.ok (.readRegisters ⟨0x03, []⟩), ⟨true, [0xA1, 0xC0],
        [0x01, 0x03, 0x00, 0x00, 0x00, 0x01, 0x84, 0x0A], [2, 1, 2], false⟩) := by
  rfl

end ModbusRtuClient

end ClearModbus
