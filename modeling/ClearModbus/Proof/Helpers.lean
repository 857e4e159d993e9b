import ClearModbus.Proof.Delivered
import ClearModbus.ClientHelpers

/-!
# What the high-level operations return

An operation that returns has decoded a delivered PDU in the context of its own request and has
passed the comparisons of its own. Together these leave one gap: a read of holding or input
registers takes the byte count of the response as it is, so a well-formed reply of another length is
returned.
-/

namespace ClearModbus

inductive HelperCall where
  | readCoils (address count : Int)
  | readDiscreteInputs (address count : Int)
  | readHoldingRegisters (address count : Int)
  | readInputRegisters (address count : Int)
  | readWriteMultipleRegisters (readAddress readCount writeAddress : Int) (values : List Int)
  | writeSingleCoil (address : Int) (value : PyObject)
  | writeSingleRegister (address value : Int)
  | writeMultipleCoils (address : Int) (values : List PyObject)
  | writeMultipleRegisters (address : Int) (values : List Int)
  | maskWriteRegister (address andMask orMask : Int)

namespace HelperCall

def request : HelperCall → Except PyError BuiltinRequest
  | .readCoils address count =>
      .readCoils <$> ReadRequest.postInit 0x01 maxReadBits address count
  | .readDiscreteInputs address count =>
      .readDiscreteInputs <$> ReadRequest.postInit 0x02 maxReadBits address count
  | .readHoldingRegisters address count =>
      .readHoldingRegisters <$> ReadRequest.postInit 0x03 maxReadRegisters address count
  | .readInputRegisters address count =>
      .readInputRegisters <$> ReadRequest.postInit 0x04 maxReadRegisters address count
  | .readWriteMultipleRegisters readAddress readCount writeAddress values =>
      .readWriteMultipleRegisters <$>
        ReadWriteMultipleRegistersRequest.postInit readAddress readCount writeAddress values
  | .writeSingleCoil address value =>
      .writeSingleCoil <$> WriteSingleCoilRequest.postInit address value
  | .writeSingleRegister address value =>
      .writeSingleRegister <$> WriteSingleRegisterRequest.postInit address value
  | .writeMultipleCoils address values =>
      .writeMultipleCoils <$> WriteMultipleCoilsRequest.postInit address values
  | .writeMultipleRegisters address values =>
      .writeMultipleRegisters <$> WriteMultipleRegistersRequest.postInit address values
  | .maskWriteRegister address andMask orMask =>
      .maskWriteRegister <$> MaskWriteRegisterRequest.postInit address andMask orMask

variable {σ : Type}

def run (execute : Execute σ) (unitId : Option Int) : HelperCall → Exec PyError σ ResponsePDU
  | .readCoils address count => do
      let response ← ModbusClientOperations.readCoils execute address count unitId
      return .readBits response
  | .readDiscreteInputs address count => do
      let response ← ModbusClientOperations.readDiscreteInputs execute address count unitId
      return .readBits response
  | .readHoldingRegisters address count => do
      let response ← ModbusClientOperations.readHoldingRegisters execute address count unitId
      return .readRegisters response
  | .readInputRegisters address count => do
      let response ← ModbusClientOperations.readInputRegisters execute address count unitId
      return .readRegisters response
  | .readWriteMultipleRegisters readAddress readCount writeAddress values => do
      let response ← ModbusClientOperations.readWriteMultipleRegisters execute readAddress readCount
        writeAddress values unitId
      return .readRegisters response
  | .writeSingleCoil address value => do
      let response ← ModbusClientOperations.writeSingleCoil execute address value unitId
      return .writeSingleCoil response
  | .writeSingleRegister address value => do
      let response ← ModbusClientOperations.writeSingleRegister execute address value unitId
      return .writeSingleRegister response
  | .writeMultipleCoils address values => do
      let response ← ModbusClientOperations.writeMultipleCoils execute address values unitId
      return .writeMultipleCoils response
  | .writeMultipleRegisters address values => do
      let response ← ModbusClientOperations.writeMultipleRegisters execute address values unitId
      return .writeMultipleRegisters response
  | .maskWriteRegister address andMask orMask => do
      let response ← ModbusClientOperations.maskWriteRegister execute address andMask orMask unitId
      return .maskWriteRegister response

inductive IsAnsweredBy : HelperCall → ResponsePDU → Prop where
  | readCoils (address : Int) {count : Int} {values : List Bool}
      (hcount : (values.length : Int) = count) :
      IsAnsweredBy (.readCoils address count) (.readBits ⟨0x01, values⟩)
  | readDiscreteInputs (address : Int) {count : Int} {values : List Bool}
      (hcount : (values.length : Int) = count) :
      IsAnsweredBy (.readDiscreteInputs address count) (.readBits ⟨0x02, values⟩)
  | readHoldingRegisters (address : Int) {count : Int} {values : List Int}
      (hcount : (values.length : Int) = count) :
      IsAnsweredBy (.readHoldingRegisters address count) (.readRegisters ⟨0x03, values⟩)
  | readInputRegisters (address : Int) {count : Int} {values : List Int}
      (hcount : (values.length : Int) = count) :
      IsAnsweredBy (.readInputRegisters address count) (.readRegisters ⟨0x04, values⟩)
  | readWriteMultipleRegisters (readAddress writeAddress : Int) (written : List Int) {count : Int}
      {values : List Int} (hcount : (values.length : Int) = count) :
      IsAnsweredBy (.readWriteMultipleRegisters readAddress count writeAddress written)
        (.readRegisters ⟨0x17, values⟩)
  | writeSingleCoil (address : Int) (value : Bool) :
      IsAnsweredBy (.writeSingleCoil address (.bool value))
        (.writeSingleCoil ⟨0x05, address, value⟩)
  | writeSingleRegister (address value : Int) :
      IsAnsweredBy (.writeSingleRegister address value)
        (.writeSingleRegister ⟨0x06, address, value⟩)
  | writeMultipleCoils (address : Int) (values : List PyObject) :
      IsAnsweredBy (.writeMultipleCoils address values)
        (.writeMultipleCoils ⟨0x0F, address, values.length⟩)
  | writeMultipleRegisters (address : Int) (values : List Int) :
      IsAnsweredBy (.writeMultipleRegisters address values)
        (.writeMultipleRegisters ⟨0x10, address, values.length⟩)
  | maskWriteRegister (address andMask orMask : Int) :
      IsAnsweredBy (.maskWriteRegister address andMask orMask)
        (.maskWriteRegister ⟨0x16, address, andMask, orMask⟩)

/-- Whenever the operation returns from the state, its response answers the call. -/
def AnsweredFrom (call : HelperCall) (execute : Execute σ) (unitId : Option Int) (state : σ) :
    Prop :=
  ∀ response final, Exec.runOn (call.run execute unitId) state = (.ok response, final) →
    call.IsAnsweredBy response

end HelperCall

/-- The request reads holding or input registers, and a reply with an even byte count that is not
twice the requested count has been delivered for it. -/
def OtherCountDelivered (request : BuiltinRequest) (delivered : Bytes → Prop) : Prop :=
  ∃ count, ReadsRegisters request count ∧ ∃ data : Bytes, data.length < 256 ∧ data.length % 2 = 0 ∧
    (data.length : Int) ≠ 2 * count ∧
    delivered (byte request.functionCode :: UInt8.ofNat data.length :: data)

variable {σ : Type} {execute : Execute σ} {unitId : Option Int} {state final : σ}

/-- A comparison is passed exactly by the field that was written. -/
theorem runOn_requireEcho_eq_ok_iff {α β : Type} [DecidableEq α] {echoed expected : α}
    {message : String} {next : Unit → Exec PyError σ β} {value : β} :
    Exec.runOn (liftM (requireEcho echoed expected message) >>= next) state = (.ok value, final) ↔
      echoed = expected ∧ Exec.runOn (next ()) state = (.ok value, final) := by
  rw [requireEcho, Exec.runOn_liftM_bind]
  by_cases hecho : echoed = expected
  · rw [if_neg (not_not.mpr hecho), and_iff_right hecho]
  · rw [if_pos hecho]
    simp [hecho]

theorem runOn_requireEchoes_eq_ok_iff {α β ρ : Type} [DecidableEq α] [DecidableEq β]
    {echoed expected : α} {other otherExpected : β} {message otherMessage : String}
    {response value : ρ} :
    Exec.runOn (liftM (requireEcho echoed expected message) >>= fun _ =>
      liftM (requireEcho other otherExpected otherMessage) >>= fun _ =>
        (pure response : Exec PyError σ ρ)) state = (.ok value, final) ↔
      echoed = expected ∧ other = otherExpected ∧ response = value ∧ state = final := by
  rw [runOn_requireEcho_eq_ok_iff, runOn_requireEcho_eq_ok_iff, Exec.runOn_pure, Prod.mk.injEq,
    Except.ok.injEq]

theorem runOn_request_eq_ok_iff {builtin : BuiltinRequest} {response : ResponsePDU} :
    Exec.runOn (ModbusClientOperations.request execute builtin unitId) state =
        (.ok response, final) ↔
      Exec.runOn (execute (.builtin builtin) unitId) state = (.ok response, final) ∧
        ∀ exception, response ≠ .exception exception := by
  rw [ModbusClientOperations.request, Exec.runOn_bind_eq_ok_iff]
  constructor
  · rintro ⟨middle, after, hexecute, h⟩
    obtain ⟨_, hraise, h⟩ := Exec.runOn_liftM_bind_eq_ok_iff.mp h
    cases h
    refine ⟨hexecute, ?_⟩
    rintro exception rfl
    cases hraise
  · rintro ⟨hexecute, hnormal⟩
    refine ⟨response, final, hexecute, Exec.runOn_liftM_bind_eq_ok_iff.mpr ⟨(), ?_, rfl⟩⟩
    cases response with
    | exception exception => exact absurd rfl (hnormal exception)
    | _ => rfl

/-- A response that is not an exception comes from the decoder of the requested function. -/
theorem exists_payload {registry : CustomFunctionCodeRegistry} {builtin : BuiltinRequest}
    {response : ResponsePDU} {pdu : Bytes}
    (hdecode : decodeResponsePdu registry pdu (.builtin builtin) = .ok response)
    (hnormal : ∀ exception, response ≠ .exception exception) :
    ∃ payload, pdu = byte builtin.functionCode :: payload ∧
      decodeNormalResponse registry builtin.functionCode payload (.builtin builtin) =
        .ok response := by
  rcases exists_cons_of_decodeResponsePdu hdecode with ⟨exception, rfl⟩ | hcons
  · exact absurd rfl (hnormal exception)
  · obtain ⟨head, payload, rfl, hhead, hpayload⟩ := hcons
    exact ⟨payload, by rw [← hhead, byte_toNat], hpayload⟩

/-- What a client guarantees: it returns what some delivered PDU is decoded to, and a register read
returns what its delivered PDU is decoded to. -/
structure Delivers (registry : CustomFunctionCodeRegistry) (execute : Execute σ)
    (unitId : Option Int) (state : σ) (delivered : Bytes → Prop) : Prop where
  sound : ∀ (request : BuiltinRequest) (response : ResponsePDU) (final : σ),
    Exec.runOn (execute (.builtin request) unitId) state = (.ok response, final) →
      ∃ pdu, delivered pdu ∧ decodeResponsePdu registry pdu (.builtin request) = .ok response
  complete : ∀ (request : BuiltinRequest) (count : Int) (data : Bytes) (response : ResponsePDU),
    ReadsRegisters request count → data.length < 256 →
      delivered (byte request.functionCode :: UInt8.ofNat data.length :: data) →
      decodeResponsePdu registry (byte request.functionCode :: UInt8.ofNat data.length :: data)
        (.builtin request) = .ok response →
      ∃ final, Exec.runOn (execute (.builtin request) unitId) state = (.ok response, final)

variable {registry : CustomFunctionCodeRegistry} {delivered : Bytes → Prop}

/-- What comes before the comparisons of an operation: the constructor has accepted the arguments,
and a delivered PDU has been decoded. -/
theorem exists_decoded {ρ α : Type} {construct : Except PyError ρ} (wrap : ρ → BuiltinRequest)
    (next : ρ → ResponsePDU → Exec PyError σ α) (wrapResponse : α → ResponsePDU)
    {builtin : BuiltinRequest} {response : ResponsePDU}
    (hdelivers : Delivers registry execute unitId state delivered)
    (haccepted : wrap <$> construct = .ok builtin)
    (hrun : Exec.runOn
      ((liftM construct >>= fun pdu =>
        ModbusClientOperations.request execute (wrap pdu) unitId >>= next pdu) >>= fun returned =>
          pure (wrapResponse returned)) state = (.ok response, final)) :
    ∃ inner decoded returned payload after, construct = .ok inner ∧ wrap inner = builtin ∧
      wrapResponse returned = response ∧ delivered (byte builtin.functionCode :: payload) ∧
      decodeNormalResponse registry (wrap inner).functionCode payload (.builtin (wrap inner)) =
        .ok decoded ∧
      Exec.runOn (next inner decoded) after = (.ok returned, final) := by
  obtain ⟨inner, hinner, rfl⟩ := Except.map_eq_ok_iff.mp haccepted
  obtain ⟨returned, last, hreturned, hlast⟩ := Exec.runOn_bind_eq_ok_iff.mp hrun
  cases hlast
  rw [hinner, Exec.runOn_liftM_bind] at hreturned
  obtain ⟨decoded, after, hrequest, hnext⟩ := Exec.runOn_bind_eq_ok_iff.mp hreturned
  obtain ⟨hexecute, hnormal⟩ := runOn_request_eq_ok_iff.mp hrequest
  obtain ⟨pdu, hdelivered, hdecode⟩ := hdelivers.sound _ _ _ hexecute
  obtain ⟨payload, rfl, hpayload⟩ := exists_payload hdecode hnormal
  exact ⟨inner, decoded, returned, payload, after, hinner, rfl, rfl, hdelivered, hpayload, hnext⟩

/-- A register read either has the requested count or was delivered with another one. -/
theorem count_eq_or_otherCountDelivered {builtin : BuiltinRequest} {count : Int} {payload : Bytes}
    {response : ReadRegistersResponse} (hreads : ReadsRegisters builtin count)
    (hdelivered : delivered (byte builtin.functionCode :: payload))
    (hdecode : ReadRegistersResponse.decode builtin.functionCode payload = .ok response) :
    (response.values.length : Int) = count ∨ OtherCountDelivered builtin delivered := by
  obtain ⟨-, hlt, -, rfl⟩ := ReadRegistersResponse.decode_eq_ok_iff.mp hdecode
  by_cases hcount : (response.values.length : Int) = count
  · exact .inl hcount
  · refine .inr ⟨count, hreads, words response.values, ?_, ?_, ?_, ?_⟩
    · rw [length_words]
      omega
    · rw [length_words]
      omega
    · rw [length_words]
      omega
    · rw [length_words]
      exact hdelivered

/-- A read of bits returns as many as it has asked for. -/
theorem exists_bits {functionCode address count : Int}
    {wrap : ReadRequest functionCode maxReadBits → BuiltinRequest} {builtin : BuiltinRequest}
    {response : ResponsePDU} (hdelivers : Delivers registry execute unitId state delivered)
    (hdecodes : ∀ inner payload,
      decodeNormalResponse registry (wrap inner).functionCode payload (.builtin (wrap inner)) =
        .readBits <$> ReadBitsResponse.decode functionCode payload inner.count)
    (haccepted : wrap <$> ReadRequest.postInit functionCode maxReadBits address count = .ok builtin)
    (hrun : Exec.runOn
      ((liftM (ReadRequest.postInit functionCode maxReadBits address count) >>= fun pdu =>
        ModbusClientOperations.request execute (wrap pdu) unitId >>= fun response =>
          liftM (expectReadBits response)) >>= fun returned => pure (.readBits returned)) state =
            (.ok response, final)) :
    ∃ values : List Bool, response = .readBits ⟨functionCode, values⟩ ∧
      (values.length : Int) = count := by
  obtain ⟨inner, decoded, ⟨code, values⟩, payload, after, hinner, rfl, rfl, -, hdecode, hexpect⟩ :=
    exists_decoded wrap _ .readBits hdelivers haccepted hrun
  obtain ⟨rfl, rfl⟩ := ReadRequest.postInit_eq_ok_iff.mp hinner
  rw [hdecodes] at hdecode
  obtain ⟨bits, hbits, rfl⟩ := Except.map_eq_ok_iff.mp hdecode
  cases hexpect
  obtain ⟨hcode, hcount⟩ := ReadBitsResponse.eq_of_decode
    (Int.le_trans (by decide) inner.count_valid.1) hbits
  cases hcode
  exact ⟨values, rfl, hcount⟩

/-- A read of registers returns what was delivered, of whatever count. -/
theorem exists_registers {functionCode address count : Int}
    {wrap : ReadRequest functionCode maxReadRegisters → BuiltinRequest} {builtin : BuiltinRequest}
    {response : ResponsePDU} (hdelivers : Delivers registry execute unitId state delivered)
    (hreads : ∀ inner, ReadsRegisters (wrap inner) inner.count)
    (haccepted : wrap <$> ReadRequest.postInit functionCode maxReadRegisters address count =
      .ok builtin)
    (hrun : Exec.runOn
      ((liftM (ReadRequest.postInit functionCode maxReadRegisters address count) >>= fun pdu =>
        ModbusClientOperations.request execute (wrap pdu) unitId >>= fun response =>
          liftM (expectReadRegisters response)) >>= fun returned =>
            pure (.readRegisters returned)) state = (.ok response, final)) :
    ∃ values : List Int, response = .readRegisters ⟨builtin.functionCode, values⟩ ∧
      ((values.length : Int) = count ∨ OtherCountDelivered builtin delivered) := by
  obtain ⟨inner, decoded, ⟨code, values⟩, payload, after, hinner, rfl, rfl, hdelivered, hdecode,
    hexpect⟩ := exists_decoded wrap _ .readRegisters hdelivers haccepted hrun
  obtain ⟨rfl, rfl⟩ := ReadRequest.postInit_eq_ok_iff.mp hinner
  rw [(hreads inner).decodeNormalResponse_eq] at hdecode
  obtain ⟨registers, hregisters, rfl⟩ := Except.map_eq_ok_iff.mp hdecode
  cases hexpect
  have hcases := count_eq_or_otherCountDelivered (hreads inner) hdelivered hregisters
  obtain ⟨hcode, -⟩ := ReadRegistersResponse.decode_eq_ok_iff.mp hregisters
  cases hcode
  exact ⟨values, rfl, hcases⟩

namespace HelperCall

variable {builtin : BuiltinRequest} {response : ResponsePDU}

theorem readCoils_answered (hdelivers : Delivers registry execute unitId state delivered)
    {address count : Int}
    (haccepted : (readCoils address count).request = .ok builtin) :
    (readCoils address count).AnsweredFrom execute unitId state := by
  intro response final hrun
  obtain ⟨values, rfl, hcount⟩ := exists_bits hdelivers (fun _ _ => rfl) haccepted hrun
  exact .readCoils address hcount

theorem readDiscreteInputs_answered (hdelivers : Delivers registry execute unitId state delivered)
    {address count : Int}
    (haccepted : (readDiscreteInputs address count).request = .ok builtin) :
    (readDiscreteInputs address count).AnsweredFrom execute unitId state := by
  intro response final hrun
  obtain ⟨values, rfl, hcount⟩ := exists_bits hdelivers (fun _ _ => rfl) haccepted hrun
  exact .readDiscreteInputs address hcount

theorem readHoldingRegisters_answered (hdelivers : Delivers registry execute unitId state delivered)
    {address count : Int} (haccepted : (readHoldingRegisters address count).request = .ok builtin)
    (hrun : Exec.runOn ((readHoldingRegisters address count).run execute unitId) state =
      (.ok response, final)) :
    (readHoldingRegisters address count).IsAnsweredBy response ∨
      OtherCountDelivered builtin delivered := by
  obtain ⟨values, rfl, hcases⟩ := exists_registers hdelivers .holding haccepted hrun
  obtain ⟨inner, -, rfl⟩ := Except.map_eq_ok_iff.mp haccepted
  exact hcases.imp_left (.readHoldingRegisters address)

theorem readInputRegisters_answered (hdelivers : Delivers registry execute unitId state delivered)
    {address count : Int} (haccepted : (readInputRegisters address count).request = .ok builtin)
    (hrun : Exec.runOn ((readInputRegisters address count).run execute unitId) state =
      (.ok response, final)) :
    (readInputRegisters address count).IsAnsweredBy response ∨
      OtherCountDelivered builtin delivered := by
  obtain ⟨values, rfl, hcases⟩ := exists_registers hdelivers .input haccepted hrun
  obtain ⟨inner, -, rfl⟩ := Except.map_eq_ok_iff.mp haccepted
  exact hcases.imp_left (.readInputRegisters address)

theorem readWriteMultipleRegisters_answered
    (hdelivers : Delivers registry execute unitId state delivered)
    {readAddress readCount writeAddress : Int} {written : List Int}
    (haccepted : (readWriteMultipleRegisters readAddress readCount writeAddress written).request =
      .ok builtin) :
    (readWriteMultipleRegisters readAddress readCount writeAddress written).AnsweredFrom execute
      unitId state := by
  intro response final hrun
  obtain ⟨inner, decoded, ⟨code, values⟩, payload, after, hinner, rfl, rfl, -, hdecode, hexpect⟩ :=
    exists_decoded .readWriteMultipleRegisters _ .readRegisters hdelivers haccepted hrun
  obtain ⟨rfl, rfl, rfl, rfl⟩ := ReadWriteMultipleRegistersRequest.postInit_eq_ok_iff.mp hinner
  have hcompared : decodeReadWriteMultipleRegistersResponse 0x17 payload
      (.builtin (.readWriteMultipleRegisters inner)) = .ok decoded := hdecode
  rw [decodeReadWriteMultipleRegistersResponse] at hcompared
  obtain ⟨registers, hregisters, hcompared⟩ := Except.bind_eq_ok_iff.mp hcompared
  split at hcompared
  · cases hcompared
  · rename_i hcount
    cases hcompared
    cases hexpect
    obtain ⟨hcode, -⟩ := ReadRegistersResponse.decode_eq_ok_iff.mp hregisters
    cases hcode
    exact .readWriteMultipleRegisters inner.readAddress inner.writeAddress inner.values
      (not_not.mp hcount)

theorem writeSingleCoil_answered (hdelivers : Delivers registry execute unitId state delivered)
    {address : Int} {value : PyObject}
    (haccepted : (writeSingleCoil address value).request = .ok builtin) :
    (writeSingleCoil address value).AnsweredFrom execute unitId state := by
  intro response final hrun
  obtain ⟨inner, decoded, returned, payload, after, hinner, rfl, rfl, -, hdecode, hcompare⟩ :=
    exists_decoded .writeSingleCoil _ .writeSingleCoil hdelivers haccepted hrun
  obtain ⟨rfl, rfl⟩ := WriteSingleCoilRequest.postInit_eq_ok_iff.mp hinner
  obtain ⟨echo, hecho, rfl⟩ := Except.map_eq_ok_iff.mp hdecode
  obtain ⟨haddress, hvalue, rfl, rfl⟩ := runOn_requireEchoes_eq_ok_iff.mp hcompare
  have hcode := WriteSingleCoilResponse.functionCode_of_decode hecho
  obtain ⟨_, _, _⟩ := echo
  cases hcode
  cases haddress
  cases hvalue
  exact .writeSingleCoil inner.address inner.value

theorem writeSingleRegister_answered (hdelivers : Delivers registry execute unitId state delivered)
    {address value : Int}
    (haccepted : (writeSingleRegister address value).request = .ok builtin) :
    (writeSingleRegister address value).AnsweredFrom execute unitId state := by
  intro response final hrun
  obtain ⟨inner, decoded, returned, payload, after, hinner, rfl, rfl, -, hdecode, hcompare⟩ :=
    exists_decoded .writeSingleRegister _ .writeSingleRegister hdelivers haccepted hrun
  obtain ⟨rfl, rfl⟩ := WriteSingleRegisterRequest.postInit_eq_ok_iff.mp hinner
  obtain ⟨echo, hecho, rfl⟩ := Except.map_eq_ok_iff.mp hdecode
  obtain ⟨haddress, hvalue, rfl, rfl⟩ := runOn_requireEchoes_eq_ok_iff.mp hcompare
  have hcode := WriteSingleRegisterResponse.functionCode_of_decode hecho
  obtain ⟨_, _, _⟩ := echo
  cases hcode
  cases haddress
  cases hvalue
  exact .writeSingleRegister inner.address inner.value

theorem writeMultipleCoils_answered (hdelivers : Delivers registry execute unitId state delivered)
    {address : Int} {values : List PyObject}
    (haccepted : (writeMultipleCoils address values).request = .ok builtin) :
    (writeMultipleCoils address values).AnsweredFrom execute unitId state := by
  intro response final hrun
  obtain ⟨inner, decoded, returned, payload, after, hinner, rfl, rfl, -, hdecode, hcompare⟩ :=
    exists_decoded .writeMultipleCoils _ .writeMultipleCoils hdelivers haccepted hrun
  obtain ⟨rfl, rfl⟩ := WriteMultipleCoilsRequest.postInit_eq_ok_iff.mp hinner
  obtain ⟨echo, hecho, rfl⟩ := Except.map_eq_ok_iff.mp hdecode
  obtain ⟨haddress, hcount, rfl, rfl⟩ := runOn_requireEchoes_eq_ok_iff.mp hcompare
  have hcode := WriteMultipleResponse.functionCode_of_decode hecho
  obtain ⟨_, _, _⟩ := echo
  cases hcode
  cases haddress
  cases hcount
  exact .writeMultipleCoils inner.address (inner.values.map .bool)

theorem writeMultipleRegisters_answered
    (hdelivers : Delivers registry execute unitId state delivered)
    {address : Int} {values : List Int}
    (haccepted : (writeMultipleRegisters address values).request = .ok builtin) :
    (writeMultipleRegisters address values).AnsweredFrom execute unitId state := by
  intro response final hrun
  obtain ⟨inner, decoded, returned, payload, after, hinner, rfl, rfl, -, hdecode, hcompare⟩ :=
    exists_decoded .writeMultipleRegisters _ .writeMultipleRegisters hdelivers haccepted hrun
  obtain ⟨rfl, rfl⟩ := WriteMultipleRegistersRequest.postInit_eq_ok_iff.mp hinner
  obtain ⟨echo, hecho, rfl⟩ := Except.map_eq_ok_iff.mp hdecode
  obtain ⟨haddress, hcount, rfl, rfl⟩ := runOn_requireEchoes_eq_ok_iff.mp hcompare
  have hcode := WriteMultipleResponse.functionCode_of_decode hecho
  obtain ⟨_, _, _⟩ := echo
  cases hcode
  cases haddress
  cases hcount
  exact .writeMultipleRegisters inner.address inner.values

theorem maskWriteRegister_answered (hdelivers : Delivers registry execute unitId state delivered)
    {address andMask orMask : Int}
    (haccepted : (maskWriteRegister address andMask orMask).request = .ok builtin) :
    (maskWriteRegister address andMask orMask).AnsweredFrom execute unitId state := by
  intro response final hrun
  obtain ⟨inner, decoded, returned, payload, after, hinner, rfl, rfl, -, hdecode, hcompare⟩ :=
    exists_decoded .maskWriteRegister _ .maskWriteRegister hdelivers haccepted hrun
  obtain ⟨rfl, rfl, rfl⟩ := MaskWriteRegisterRequest.postInit_eq_ok_iff.mp hinner
  obtain ⟨echo, hecho, rfl⟩ := Except.map_eq_ok_iff.mp hdecode
  obtain ⟨haddress, hcompare⟩ := runOn_requireEcho_eq_ok_iff.mp hcompare
  obtain ⟨hand, hor, rfl, rfl⟩ := runOn_requireEchoes_eq_ok_iff.mp hcompare
  have hcode := MaskWriteRegisterResponse.functionCode_of_decode hecho
  obtain ⟨_, _, _, _⟩ := echo
  cases hcode
  cases haddress
  cases hand
  cases hor
  exact .maskWriteRegister inner.address inner.andMask inner.orMask

/-- Every returned response answers its call, unless another count was delivered. -/
theorem isAnsweredBy_of_run (hdelivers : Delivers registry execute unitId state delivered)
    {call : HelperCall} (haccepted : call.request = .ok builtin)
    (hrun : Exec.runOn (call.run execute unitId) state = (.ok response, final)) :
    call.IsAnsweredBy response ∨ OtherCountDelivered builtin delivered := by
  cases call with
  | readCoils => exact .inl (readCoils_answered hdelivers haccepted _ _ hrun)
  | readDiscreteInputs => exact .inl (readDiscreteInputs_answered hdelivers haccepted _ _ hrun)
  | readHoldingRegisters => exact readHoldingRegisters_answered hdelivers haccepted hrun
  | readInputRegisters => exact readInputRegisters_answered hdelivers haccepted hrun
  | readWriteMultipleRegisters =>
      exact .inl (readWriteMultipleRegisters_answered hdelivers haccepted _ _ hrun)
  | writeSingleCoil => exact .inl (writeSingleCoil_answered hdelivers haccepted _ _ hrun)
  | writeSingleRegister => exact .inl (writeSingleRegister_answered hdelivers haccepted _ _ hrun)
  | writeMultipleCoils => exact .inl (writeMultipleCoils_answered hdelivers haccepted _ _ hrun)
  | writeMultipleRegisters =>
      exact .inl (writeMultipleRegisters_answered hdelivers haccepted _ _ hrun)
  | maskWriteRegister => exact .inl (maskWriteRegister_answered hdelivers haccepted _ _ hrun)

/-- A delivered register reply is decoded with the count it has. -/
theorem decodeResponsePdu_registers (registry : CustomFunctionCodeRegistry)
    {builtin : BuiltinRequest}
    {count : Int} (hreads : ReadsRegisters builtin count) {values : List Int}
    (hlt : values.length < 128) (hvalues : ∀ value ∈ values, IsRegisterValue value) :
    decodeResponsePdu registry
        (byte builtin.functionCode :: UInt8.ofNat (2 * values.length) :: words values)
        (.builtin builtin) = .ok (.readRegisters ⟨builtin.functionCode, values⟩) := by
  have hhead : ((byte builtin.functionCode).toNat : Int) = builtin.functionCode := by
    cases hreads <;> rfl
  have hdecode : ReadRegistersResponse.decode builtin.functionCode
      (UInt8.ofNat (2 * values.length) :: words values) = .ok ⟨builtin.functionCode, values⟩ :=
    ReadRegistersResponse.decode_eq_ok_iff.mpr ⟨rfl, hlt, hvalues, rfl⟩
  rw [decodeResponsePdu_cons hhead, hreads.decodeNormalResponse_eq, hdecode]
  rfl

/-- A read of registers returns the register response it executes to. -/
theorem runOn_registers {functionCode address count : Int}
    (wrap : ReadRequest functionCode maxReadRegisters → BuiltinRequest)
    {inner : ReadRequest functionCode maxReadRegisters} {response : ReadRegistersResponse}
    (hinner : ReadRequest.postInit functionCode maxReadRegisters address count = .ok inner)
    (hexecute : Exec.runOn (execute (.builtin (wrap inner)) unitId) state =
      (.ok (.readRegisters response), final)) :
    Exec.runOn
      ((liftM (ReadRequest.postInit functionCode maxReadRegisters address count) >>= fun pdu =>
        ModbusClientOperations.request execute (wrap pdu) unitId >>= fun response =>
          liftM (expectReadRegisters response)) >>= fun returned =>
            pure (ResponsePDU.readRegisters returned)) state =
              (.ok (.readRegisters response), final) := by
  have hrequest := runOn_request_eq_ok_iff.mpr ⟨hexecute, fun _ => nofun⟩
  apply Exec.runOn_bind_ok
  rw [hinner, Exec.runOn_liftM_bind]
  exact Exec.runOn_bind_ok hrequest

theorem runOn_run_of_execute {call : HelperCall} {builtin : BuiltinRequest} {count : Int}
    (hreads : ReadsRegisters builtin count) (haccepted : call.request = .ok builtin)
    {response : ReadRegistersResponse}
    (hexecute : Exec.runOn (execute (.builtin builtin) unitId) state =
      (.ok (.readRegisters response), final)) :
    Exec.runOn (call.run execute unitId) state = (.ok (.readRegisters response), final) ∧
      (call.IsAnsweredBy (.readRegisters response) → (response.values.length : Int) = count) := by
  cases hreads with
  | holding inner =>
      cases call with
      | readHoldingRegisters address count =>
          obtain ⟨_, hinner, heq⟩ := Except.map_eq_ok_iff.mp haccepted
          cases heq
          refine ⟨runOn_registers .readHoldingRegisters hinner hexecute, fun hanswered => ?_⟩
          obtain ⟨-, rfl⟩ := ReadRequest.postInit_eq_ok_iff.mp hinner
          cases hanswered with
          | readHoldingRegisters address hcount => exact hcount
      | _ =>
          obtain ⟨_, -, heq⟩ := Except.map_eq_ok_iff.mp haccepted
          cases heq
  | input inner =>
      cases call with
      | readInputRegisters address count =>
          obtain ⟨_, hinner, heq⟩ := Except.map_eq_ok_iff.mp haccepted
          cases heq
          refine ⟨runOn_registers .readInputRegisters hinner hexecute, fun hanswered => ?_⟩
          obtain ⟨-, rfl⟩ := ReadRequest.postInit_eq_ok_iff.mp hinner
          cases hanswered with
          | readInputRegisters address hcount => exact hcount
      | _ =>
          obtain ⟨_, -, heq⟩ := Except.map_eq_ok_iff.mp haccepted
          cases heq

/-- Delivering another count is the one way for a wrong response to be returned. -/
theorem answeredFrom_iff (hdelivers : Delivers registry execute unitId state delivered)
    {call : HelperCall} {builtin : BuiltinRequest} (haccepted : call.request = .ok builtin) :
    call.AnsweredFrom execute unitId state ↔ ¬OtherCountDelivered builtin delivered := by
  constructor
  · rintro hanswered ⟨count, hreads, data, hlt, heven, hcount, hdelivered⟩
    have hdata := words_decodeAll heven
    have hvalues : ∀ value ∈ (Words.decodeAll data).map Int.ofNat, IsRegisterValue value :=
      fun value => isRegisterValue_of_mem_decodeAll
    generalize (Words.decodeAll data).map Int.ofNat = values at hdata hvalues
    subst hdata
    rw [length_words] at hlt hcount hdelivered
    have hdecode := decodeResponsePdu_registers registry hreads (by omega) hvalues
    rw [← length_words] at hdelivered hdecode
    obtain ⟨final, hexecute⟩ := hdelivers.complete builtin count (words values) _ hreads
      (by rw [length_words]; exact hlt) hdelivered hdecode
    obtain ⟨hrun, hlength⟩ := runOn_run_of_execute hreads haccepted hexecute
    have hsame := hlength (hanswered _ _ hrun)
    have hsame : (values.length : Int) = count := hsame
    omega
  · intro hother response final hrun
    exact (isAnsweredBy_of_run hdelivers haccepted hrun).resolve_right hother

end HelperCall

theorem ModbusTcpClient.delivers (registry : CustomFunctionCodeRegistry) (client : ModbusTcpClient)
    (unitId : Option Int) (stream : TCPStream) :
    Delivers registry (ModbusTcpClient.execute registry tcpTransport) unitId (client, stream)
      (client.Delivered unitId stream) where
  sound _ _ _ h := delivered_of_execute h
  complete request count data response _ hlt hdelivered hdecode := by
    refine execute_of_delivered hdelivered (List.cons_ne_nil _ _) ?_ hdecode
    simp only [List.length_cons]
    omega

theorem ModbusRtuClient.delivers (registry : CustomFunctionCodeRegistry) (client : ModbusRtuClient)
    (unitId : Option Int) (port : SerialPort) :
    Delivers registry (ModbusRtuClient.execute registry client serialTransport) unitId port
      (client.Delivered unitId port) where
  sound _ _ _ h := delivered_of_execute h
  complete request count data response hreads hlt hdelivered hdecode := by
    have hhead : ((byte request.functionCode).toNat : Int) = request.functionCode := by
      cases hreads <;> rfl
    exact execute_of_delivered hreads hhead (toNat_ofNat_of_lt hlt).symm hdelivered hdecode

namespace HelperCall

/-- Over either client, an operation returns only responses that answer its call exactly when no
reply with another register count has been delivered to a read of holding or input registers. -/
theorem answeredFrom_iff_not_otherCountDelivered {call : HelperCall} {builtin : BuiltinRequest}
    (haccepted : call.request = .ok builtin) (registry : CustomFunctionCodeRegistry)
    (unitId : Option Int) :
    (∀ (client : ModbusTcpClient) (stream : TCPStream),
      call.AnsweredFrom (ModbusTcpClient.execute registry tcpTransport) unitId (client, stream) ↔
        ¬OtherCountDelivered builtin (client.Delivered unitId stream)) ∧
    ∀ (client : ModbusRtuClient) (port : SerialPort),
      call.AnsweredFrom (ModbusRtuClient.execute registry client serialTransport) unitId port ↔
        ¬OtherCountDelivered builtin (client.Delivered unitId port) :=
  ⟨fun client stream => answeredFrom_iff (client.delivers registry unitId stream) haccepted,
    fun client port => answeredFrom_iff (client.delivers registry unitId port) haccepted⟩

/-- One register is returned for the one that was requested. -/
theorem answeredFrom_readHoldingRegisters :
    (HelperCall.readHoldingRegisters 0 1).AnsweredFrom
      (ModbusTcpClient.execute .empty tcpTransport) none
        (⟨1, 1⟩, ⟨true, [0, 1, 0, 0, 0, 5, 1, 3, 2, 0, 7], false, []⟩) := by
  have haccepted : (HelperCall.readHoldingRegisters 0 1).request =
      .ok (.readHoldingRegisters ⟨0, 1, by decide, by decide⟩) := rfl
  apply ((answeredFrom_iff_not_otherCountDelivered haccepted .empty none).1 _ _).mpr
  rintro ⟨count, hreads, data, hlt, -, hother, -, -, -, rest, hincoming⟩
  cases hreads
  rw [ModbusTCPFrame.wire, List.append_assoc] at hincoming
  have hframe : ([0, 1, 0, 0, 0, 5, 1] : Bytes) ++ [3, 2, 0, 7] = _ ++ _ := hincoming
  obtain ⟨-, hpdu⟩ := List.append_inj hframe rfl
  obtain ⟨-, htail⟩ := List.cons.inj hpdu
  obtain ⟨hcount, -⟩ := List.cons.inj htail
  have hlength : 2 = data.length := (congrArg UInt8.toNat hcount).trans (toNat_ofNat_of_lt hlt)
  rw [← hlength] at hother
  exact hother rfl

/-- One register is returned for the two that were requested. -/
theorem not_answeredFrom_one_of_two_registers :
    (∃ builtin, (HelperCall.readHoldingRegisters 0 2).request = .ok builtin) ∧
      ¬(HelperCall.readHoldingRegisters 0 2).AnsweredFrom
        (ModbusTcpClient.execute .empty tcpTransport) none
          (⟨1, 1⟩, ⟨true, [0, 1, 0, 0, 0, 5, 1, 3, 2, 0, 7], false, []⟩) := by
  refine ⟨⟨_, rfl⟩, fun hanswered => ?_⟩
  have hrun : (Exec.runOn ((HelperCall.readHoldingRegisters 0 2).run
      (ModbusTcpClient.execute .empty tcpTransport) none)
        (⟨1, 1⟩, ⟨true, [0, 1, 0, 0, 0, 5, 1, 3, 2, 0, 7], false, []⟩)).1 =
      .ok (.readRegisters ⟨0x03, [7]⟩) := rfl
  have hresponse := hanswered (.readRegisters ⟨0x03, [7]⟩) _ (Prod.ext hrun rfl)
  cases hresponse with
  | readHoldingRegisters address hcount => exact absurd hcount (by decide)

end HelperCall

end ClearModbus
