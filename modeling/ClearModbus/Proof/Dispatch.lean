import ClearModbus.Proof.Areas
import ClearModbus.Proof.Identification
import ClearModbus.Device

/-!
# What one request does

`Handles` lists the outcomes of `handle_request`: a rejected request is answered with
`ILLEGAL_DATA_ADDRESS` and leaves the datastore as it was, and every other request is answered
normally from the blocks it reads and writes. Every property of the server is derived from this one
case analysis.
-/

namespace ClearModbus

namespace ModbusTcpServer

open MemoryDataStore DataArea

/-- Some range the request reads or writes is not covered by one block of its area, the block it
writes is readonly, or it asks for one object that is not configured. -/
def Rejected (server : ModbusTcpServer) (store : MemoryDataStore) : BuiltinRequest → Prop
  | .readCoils request => store.coils.NotCovered request.address request.count
  | .readDiscreteInputs request => store.discreteInputs.NotCovered request.address request.count
  | .readHoldingRegisters request => store.holdingRegisters.NotCovered request.address request.count
  | .readInputRegisters request => store.inputRegisters.NotCovered request.address request.count
  | .writeSingleCoil request =>
      store.coils.NotCovered request.address 1 ∨ store.coils.CoveredReadOnly request.address 1
  | .writeSingleRegister request =>
      store.holdingRegisters.NotCovered request.address 1 ∨
        store.holdingRegisters.CoveredReadOnly request.address 1
  | .writeMultipleCoils request =>
      store.coils.NotCovered request.address request.values.length ∨
        store.coils.CoveredReadOnly request.address request.values.length
  | .writeMultipleRegisters request =>
      store.holdingRegisters.NotCovered request.address request.values.length ∨
        store.holdingRegisters.CoveredReadOnly request.address request.values.length
  | .maskWriteRegister request =>
      store.holdingRegisters.NotCovered request.address 1 ∨
        store.holdingRegisters.CoveredReadOnly request.address 1
  | .readWriteMultipleRegisters request =>
      store.holdingRegisters.NotCovered request.readAddress request.readCount ∨
        store.holdingRegisters.NotCovered request.writeAddress request.values.length ∨
        store.holdingRegisters.CoveredReadOnly request.writeAddress request.values.length
  | .readDeviceIdentification request =>
      request.readCode = 4 ∧ request.objectId ∉ server.deviceIdentification.keys

inductive Handles (server : ModbusTcpServer) (store : MemoryDataStore) :
    BuiltinRequest → ResponsePDU → MemoryDataStore → Prop where
  | rejected (request : BuiltinRequest) (h : server.Rejected store request) :
      Handles server store request
        (.exception ⟨request.functionCode, ExceptionCode.illegalDataAddress.code⟩) store
  | readCoils (request : ReadCoilsRequest) (values : List Bool)
      (h : store.coils.Reads request.address request.count values) :
      Handles server store (.readCoils request) (.readBits ⟨0x01, values⟩) store
  | readDiscreteInputs (request : ReadDiscreteInputsRequest) (values : List Bool)
      (h : store.discreteInputs.Reads request.address request.count values) :
      Handles server store (.readDiscreteInputs request) (.readBits ⟨0x02, values⟩) store
  | readHoldingRegisters (request : ReadHoldingRegistersRequest) (values : List Int)
      (h : store.holdingRegisters.Reads request.address request.count values) :
      Handles server store (.readHoldingRegisters request) (.readRegisters ⟨0x03, values⟩) store
  | readInputRegisters (request : ReadInputRegistersRequest) (values : List Int)
      (h : store.inputRegisters.Reads request.address request.count values) :
      Handles server store (.readInputRegisters request) (.readRegisters ⟨0x04, values⟩) store
  | writeSingleCoil (request : WriteSingleCoilRequest) (area : DataArea Bool)
      (h : store.coils.Writes request.address [request.value] area) :
      Handles server store (.writeSingleCoil request)
        (.writeSingleCoil ⟨0x05, request.address, request.value⟩) { store with coils := area }
  | writeSingleRegister (request : WriteSingleRegisterRequest) (area : DataArea Int)
      (h : store.holdingRegisters.Writes request.address [request.value] area) :
      Handles server store (.writeSingleRegister request)
        (.writeSingleRegister ⟨0x06, request.address, request.value⟩)
        { store with holdingRegisters := area }
  | writeMultipleCoils (request : WriteMultipleCoilsRequest) (area : DataArea Bool)
      (h : store.coils.Writes request.address request.values area) :
      Handles server store (.writeMultipleCoils request)
        (.writeMultipleCoils ⟨0x0F, request.address, request.values.length⟩)
        { store with coils := area }
  | writeMultipleRegisters (request : WriteMultipleRegistersRequest) (area : DataArea Int)
      (h : store.holdingRegisters.Writes request.address request.values area) :
      Handles server store (.writeMultipleRegisters request)
        (.writeMultipleRegisters ⟨0x10, request.address, request.values.length⟩)
        { store with holdingRegisters := area }
  | maskWriteRegister (request : MaskWriteRegisterRequest) (value : Int) (area : DataArea Int)
      (hread : store.holdingRegisters.Reads request.address 1 [value])
      (hwrite : store.holdingRegisters.Writes request.address
        [maskedValue value request.andMask request.orMask] area) :
      Handles server store (.maskWriteRegister request)
        (.maskWriteRegister ⟨0x16, request.address, request.andMask, request.orMask⟩)
        { store with holdingRegisters := area }
  | readWriteMultipleRegisters (request : ReadWriteMultipleRegistersRequest) (area : DataArea Int)
      (values : List Int)
      (hwrite : store.holdingRegisters.Writes request.writeAddress request.values area)
      (hread : area.Reads request.readAddress request.readCount values) :
      Handles server store (.readWriteMultipleRegisters request) (.readRegisters ⟨0x17, values⟩)
        { store with holdingRegisters := area }
  | readDeviceIdentification (request : ReadDeviceIdentificationRequest)
      (response : ReadDeviceIdentificationResponse) (hcode : response.readCode = request.readCode)
      (hconfigured : ¬(request.readCode = 4 ∧
        request.objectId ∉ server.deviceIdentification.keys))
      (h : readDeviceIdentification request server.deviceIdentification =
        .ok (.readDeviceIdentification response)) :
      Handles server store (.readDeviceIdentification request) (.readDeviceIdentification response)
        store

variable {server : ModbusTcpServer} {store after : MemoryDataStore}

theorem runOn_handleRequest_of_ok {request : RequestPDU} {response : ResponsePDU}
    (h : Exec.runOn (server.dispatch request) store = (.ok response, after)) :
    Exec.runOn (server.handleRequest request) store = (.ok response, after) := by
  rw [handleRequest, handleRequestOver, Exec.runOn_tryCatch, h]

def IsAddressError (error : PyError) : Prop :=
  (∃ address count, error = .invalidAddressError address count) ∨
    ∃ address, error = .readOnlyDataBlockError address

theorem runOn_handleRequest_of_addressError {request : RequestPDU} {error : PyError}
    (h : Exec.runOn (server.dispatch request) store = (.error error, after))
    (herror : IsAddressError error) :
    Exec.runOn (server.handleRequest request) store =
      (.ok (.exception ⟨request.functionCode, ExceptionCode.illegalDataAddress.code⟩), after) := by
  rw [handleRequest, handleRequestOver, Exec.runOn_tryCatch, h]
  rcases herror with ⟨address, count, rfl⟩ | ⟨address, rfl⟩
  · rfl
  · rfl

theorem runOn_getCoils (address count : Int) (store : MemoryDataStore) :
    Exec.runOn (getCoils address count) store = (store.coils.getValues address count, store) := by
  rw [getCoils, Exec.runOn_bind, Exec.runOn_get]
  rfl

theorem runOn_getDiscreteInputs (address count : Int) (store : MemoryDataStore) :
    Exec.runOn (getDiscreteInputs address count) store =
      (store.discreteInputs.getValues address count, store) := by
  rw [getDiscreteInputs, Exec.runOn_bind, Exec.runOn_get]
  rfl

theorem runOn_getHoldingRegisters (address count : Int) (store : MemoryDataStore) :
    Exec.runOn (getHoldingRegisters address count) store =
      (store.holdingRegisters.getValues address count, store) := by
  rw [getHoldingRegisters, Exec.runOn_bind, Exec.runOn_get]
  rfl

theorem runOn_getInputRegisters (address count : Int) (store : MemoryDataStore) :
    Exec.runOn (getInputRegisters address count) store =
      (store.inputRegisters.getValues address count, store) := by
  rw [getInputRegisters, Exec.runOn_bind, Exec.runOn_get]
  rfl

theorem runOn_setCoils_of_writes (hstore : store.WellFormed) {address : Int} {values : List Bool}
    {area : DataArea Bool} (h : store.coils.Writes address values area) :
    Exec.runOn (setCoils address (values.map .bool)) store =
      (.ok (), { store with coils := area }) := by
  rw [runOn_setCoils, setValues_of_writes hstore.coils (mapM_validateBit values) h]
  rfl

theorem runOn_setHoldingRegisters_of_writes (hstore : store.WellFormed) {address : Int}
    {values : List Int} {area : DataArea Int} (hvalues : ∀ value ∈ values, IsRegisterValue value)
    (h : store.holdingRegisters.Writes address values area) :
    Exec.runOn (setHoldingRegisters address (values.map .int)) store =
      (.ok (), { store with holdingRegisters := area }) := by
  rw [runOn_setHoldingRegisters,
    setValues_of_writes hstore.holdingRegisters (mapM_validateRegister hvalues) h]
  rfl

/-- A write that is not covered or hits a readonly block raises before anything is stored. -/
theorem exists_addressError_of_setValues {α : Type} {validate : PyObject → Except PyError α}
    {area : DataArea α} (harea : area.WellFormed) {address : Int} {values : List PyObject}
    (h : area.NotCovered address values.length ∨ area.CoveredReadOnly address values.length) :
    ∃ error, area.setValues validate address values = .error error ∧ IsAddressError error := by
  rcases h with h | h
  · exact ⟨_, setValues_of_notCovered harea h, .inl ⟨_, _, rfl⟩⟩
  · exact ⟨_, setValues_of_coveredReadOnly harea h, .inr ⟨_, rfl⟩⟩

theorem exists_addressError_of_setCoils (hstore : store.WellFormed) {address : Int}
    {values : List PyObject}
    (h : store.coils.NotCovered address values.length ∨
      store.coils.CoveredReadOnly address values.length) :
    ∃ error, Exec.runOn (setCoils address values) store = (.error error, store) ∧
      IsAddressError error := by
  obtain ⟨error, hset, herror⟩ := exists_addressError_of_setValues hstore.coils h
  exact ⟨error, by rw [runOn_setCoils, hset]; rfl, herror⟩

theorem exists_addressError_of_setHoldingRegisters (hstore : store.WellFormed) {address : Int}
    {values : List PyObject}
    (h : store.holdingRegisters.NotCovered address values.length ∨
      store.holdingRegisters.CoveredReadOnly address values.length) :
    ∃ error, Exec.runOn (setHoldingRegisters address values) store = (.error error, store) ∧
      IsAddressError error := by
  obtain ⟨error, hset, herror⟩ := exists_addressError_of_setValues hstore.holdingRegisters h
  exact ⟨error, by rw [runOn_setHoldingRegisters, hset]; rfl, herror⟩

theorem testBit_eq_false_of_le {value : Int} (h : IsRegisterValue value) {position : Nat}
    (hposition : 16 ≤ position) : value.testBit position = false := by
  obtain ⟨bits, rfl⟩ := Int.eq_ofNat_of_zero_le h.1
  have hlt : bits < 2 ^ 16 := by
    have := lt_of_isRegisterValue h
    omega
  exact Nat.testBit_eq_false_of_lt (lt_of_lt_of_le hlt (Nat.pow_le_pow_right (by decide) hposition))

theorem testBit_maskedValue (value andMask orMask : Int) (position : Nat) :
    (maskedValue value andMask orMask).testBit position =
      (value.testBit position && andMask.testBit position ||
        orMask.testBit position && (!andMask.testBit position && decide (position < 16))) := by
  have hall : (0xFFFF : Int).testBit position = decide (position < 16) :=
    Nat.testBit_two_pow_sub_one 16 position
  rw [maskedValue, Int.testBit_lor, Int.testBit_land, Int.testBit_land, Int.testBit_land,
    Int.testBit_lnot, hall]

theorem maskedValue_eq (value : Int) {andMask orMask : Int} (hand : IsRegisterValue andMask)
    (hor : IsRegisterValue orMask) :
    maskedValue value andMask orMask = maskedCell value andMask orMask := by
  -- With masks that are not negative the result is a natural number, determined by its bits.
  have hnat : ∃ bits : Nat, maskedValue value andMask orMask = bits := by
    obtain ⟨andBits, rfl⟩ := Int.eq_ofNat_of_zero_le hand.1
    obtain ⟨orBits, rfl⟩ := Int.eq_ofNat_of_zero_le hor.1
    cases value <;> exact ⟨_, rfl⟩
  obtain ⟨bits, hbits⟩ := hnat
  rw [hbits]
  congr 1
  apply Nat.eq_of_testBit_eq
  intro position
  have hbit : bits.testBit position = (maskedValue value andMask orMask).testBit position := by
    rw [hbits]
    rfl
  rw [hbit, testBit_maskedValue]
  by_cases hposition : position < 16
  · rw [maskedCell, Nat.testBit_ofBits_lt _ _ hposition]
    cases andMask.testBit position <;> simp [hposition]
  · rw [maskedCell, Nat.testBit_ofBits_ge _ _ (Nat.le_of_not_lt hposition),
      testBit_eq_false_of_le hand (Nat.le_of_not_lt hposition)]
    simp [hposition]

/-- A mask write stores a 16-bit value, whatever the cell held before. -/
theorem isRegisterValue_maskedValue (value : Int) {andMask orMask : Int}
    (hand : IsRegisterValue andMask) (hor : IsRegisterValue orMask) :
    IsRegisterValue (maskedValue value andMask orMask) := by
  have hlt : maskedCell value andMask orMask < 2 ^ 16 := Nat.ofBits_lt_two_pow _
  rw [maskedValue_eq value hand hor]
  exact ⟨by omega, by change (_ : Int) ≤ 65535; omega⟩

def Answered (server : ModbusTcpServer) (store : MemoryDataStore) (request : BuiltinRequest) :
    Prop :=
  ∃ response after, Exec.runOn (server.handleRequest (.builtin request)) store =
    (.ok response, after) ∧ Handles server store request response after

theorem answered_ok {request : BuiltinRequest} {response : ResponsePDU}
    (h : Handles server store request response after)
    (hdispatch : Exec.runOn (server.dispatch (.builtin request)) store = (.ok response, after)) :
    Answered server store request :=
  ⟨response, after, runOn_handleRequest_of_ok hdispatch, h⟩

theorem answered_rejected {request : BuiltinRequest} {error : PyError}
    (h : server.Rejected store request)
    (hdispatch : Exec.runOn (server.dispatch (.builtin request)) store = (.error error, store))
    (herror : IsAddressError error) : Answered server store request :=
  ⟨_, store, runOn_handleRequest_of_addressError hdispatch herror, .rejected request h⟩

/-- A request that reads one range is answered by the values or by the rejection. -/
theorem answered_read {α : Type} {area : DataArea α} (harea : area.WellFormed)
    {request : BuiltinRequest} {address count : Int}
    {program : Exec PyError MemoryDataStore (List α)}
    (hprogram : Exec.runOn program store = (area.getValues address count, store))
    {respond : List α → ResponsePDU}
    (hdispatch : server.dispatch (.builtin request) =
      program >>= fun values => pure (respond values))
    (hrejected : area.NotCovered address count → server.Rejected store request)
    (hanswer : ∀ values, area.Reads address count values →
      Handles server store request (respond values) store) : Answered server store request := by
  by_cases hcovered : area.NotCovered address count
  · have hget : Exec.runOn program store =
        (.error (.invalidAddressError address count), store) := by
      rw [hprogram, getValues_of_notCovered harea hcovered]
    refine answered_rejected (hrejected hcovered) ?_ (.inl ⟨address, count, rfl⟩)
    rw [hdispatch]
    exact Exec.runOn_bind_error hget
  · obtain ⟨values, hreads⟩ := exists_reads_of_not_notCovered hcovered
    have hget : Exec.runOn program store = (.ok values, store) := by
      rw [hprogram, getValues_of_reads harea hreads]
    apply answered_ok (hanswer values hreads)
    rw [hdispatch]
    exact Exec.runOn_bind_ok hget

/-- A request that writes one range echoes it or is rejected. -/
theorem answered_write {α : Type} {area : DataArea α} {request : BuiltinRequest} {address : Int}
    {values : List α} {program : Exec PyError MemoryDataStore Unit} {response : ResponsePDU}
    {install : DataArea α → MemoryDataStore}
    (hraises : area.NotCovered address values.length ∨ area.CoveredReadOnly address values.length →
      ∃ error, Exec.runOn program store = (.error error, store) ∧ IsAddressError error)
    (hwrites : ∀ after, area.Writes address values after →
      Exec.runOn program store = (.ok (), install after))
    (hdispatch : server.dispatch (.builtin request) = program >>= fun _ => pure response)
    (hrejected :
      area.NotCovered address values.length ∨ area.CoveredReadOnly address values.length →
        server.Rejected store request)
    (hanswer : ∀ after, area.Writes address values after →
      Handles server store request response (install after)) : Answered server store request := by
  by_cases hfailed :
      area.NotCovered address values.length ∨ area.CoveredReadOnly address values.length
  · obtain ⟨error, hset, herror⟩ := hraises hfailed
    refine answered_rejected (hrejected hfailed) ?_ herror
    rw [hdispatch]
    exact Exec.runOn_bind_error hset
  · obtain ⟨hcovered, hwritable⟩ := not_or.mp hfailed
    obtain ⟨after, hafter⟩ := exists_writes hcovered hwritable
    apply answered_ok (hanswer after hafter)
    rw [hdispatch]
    exact Exec.runOn_bind_ok (hwrites after hafter)

theorem answered_writeCoils (hstore : store.WellFormed) {request : BuiltinRequest} {address : Int}
    {values : List Bool} {response : ResponsePDU}
    (hdispatch : server.dispatch (.builtin request) = do
      setCoils address (values.map .bool)
      return response)
    (hrejected : store.coils.NotCovered address values.length ∨
      store.coils.CoveredReadOnly address values.length → server.Rejected store request)
    (hanswer : ∀ after, store.coils.Writes address values after →
      Handles server store request response { store with coils := after }) :
    Answered server store request := by
  apply answered_write _ (fun after => runOn_setCoils_of_writes hstore) hdispatch hrejected hanswer
  rw [← List.length_map PyObject.bool]
  exact exists_addressError_of_setCoils hstore

theorem answered_writeHoldingRegisters (hstore : store.WellFormed) {request : BuiltinRequest}
    {address : Int} {values : List Int} {response : ResponsePDU}
    (hvalues : ∀ value ∈ values, IsRegisterValue value)
    (hdispatch : server.dispatch (.builtin request) = do
      setHoldingRegisters address (values.map .int)
      return response)
    (hrejected : store.holdingRegisters.NotCovered address values.length ∨
      store.holdingRegisters.CoveredReadOnly address values.length → server.Rejected store request)
    (hanswer : ∀ after, store.holdingRegisters.Writes address values after →
      Handles server store request response { store with holdingRegisters := after }) :
    Answered server store request := by
  apply answered_write _ (fun after => runOn_setHoldingRegisters_of_writes hstore hvalues) hdispatch
    hrejected hanswer
  rw [← List.length_map PyObject.int]
  exact exists_addressError_of_setHoldingRegisters hstore

/-- The read of a mask write finds the block its write needs, so it fails alone only when the cell
is not covered. -/
theorem handles_maskWriteRegister (server : ModbusTcpServer) (hstore : store.WellFormed)
    (request : MaskWriteRegisterRequest) : Answered server store (.maskWriteRegister request) := by
  by_cases hcovered : store.holdingRegisters.NotCovered request.address 1
  · have hget : Exec.runOn (getHoldingRegisters request.address 1) store =
        (.error (.invalidAddressError request.address 1), store) := by
      rw [runOn_getHoldingRegisters, getValues_of_notCovered hstore.holdingRegisters hcovered]
    exact answered_rejected (.inl hcovered) (Exec.runOn_bind_error hget) (.inl ⟨_, _, rfl⟩)
  · obtain ⟨values, hreads⟩ := exists_reads_of_not_notCovered hcovered
    obtain ⟨value, rfl⟩ : ∃ value, values = [value] :=
      List.length_eq_one_iff.mp (by have := hreads.length; omega)
    have hget : Exec.runOn (getHoldingRegisters request.address 1) store =
        (.ok [value], store) := by
      rw [runOn_getHoldingRegisters, getValues_of_reads hstore.holdingRegisters hreads]
    have hfirst : Exec.runOn (liftM (getItem [value] 0) : Exec PyError MemoryDataStore Int) store =
        (.ok value, store) := rfl
    have hvalue : ∀ masked ∈ [maskedValue value request.andMask request.orMask],
        IsRegisterValue masked := by
      simpa using isRegisterValue_maskedValue value request.andMask_valid request.orMask_valid
    by_cases hreadonly : store.holdingRegisters.CoveredReadOnly request.address 1
    · have hset : ∃ error, Exec.runOn (setHoldingRegisters request.address
          [.int (maskedValue value request.andMask request.orMask)]) store =
            (.error error, store) ∧ IsAddressError error :=
        exists_addressError_of_setHoldingRegisters hstore (.inr hreadonly)
      obtain ⟨error, hset, herror⟩ := hset
      exact answered_rejected (.inr hreadonly) ((Exec.runOn_bind_ok hget).trans
        ((Exec.runOn_bind_ok hfirst).trans (Exec.runOn_bind_error hset))) herror
    · have hwrites : ∃ area, store.holdingRegisters.Writes request.address
          [maskedValue value request.andMask request.orMask] area :=
        exists_writes hcovered hreadonly
      obtain ⟨area, hwrites⟩ := hwrites
      have hset := runOn_setHoldingRegisters_of_writes hstore hvalue hwrites
      rw [List.map_singleton] at hset
      exact answered_ok (.maskWriteRegister request value area hreads hwrites)
        ((Exec.runOn_bind_ok hget).trans
          ((Exec.runOn_bind_ok hfirst).trans (Exec.runOn_bind_ok hset)))

/-- The first read rejects a bad read range before anything is written, and the second one finds the
same block because the write keeps the shapes. -/
theorem handles_readWriteMultipleRegisters (server : ModbusTcpServer) (hstore : store.WellFormed)
    (request : ReadWriteMultipleRegistersRequest) :
    Answered server store (.readWriteMultipleRegisters request) := by
  by_cases hread : store.holdingRegisters.NotCovered request.readAddress request.readCount
  · have hget : Exec.runOn (getHoldingRegisters request.readAddress request.readCount) store =
        (.error (.invalidAddressError request.readAddress request.readCount), store) := by
      rw [runOn_getHoldingRegisters, getValues_of_notCovered hstore.holdingRegisters hread]
    exact answered_rejected (.inl hread) (Exec.runOn_bind_error hget) (.inl ⟨_, _, rfl⟩)
  · obtain ⟨before, hbefore⟩ := exists_reads_of_not_notCovered hread
    have hget : Exec.runOn (getHoldingRegisters request.readAddress request.readCount) store =
        (.ok before, store) := by
      rw [runOn_getHoldingRegisters, getValues_of_reads hstore.holdingRegisters hbefore]
    by_cases hrejected :
        store.holdingRegisters.NotCovered request.writeAddress request.values.length ∨
          store.holdingRegisters.CoveredReadOnly request.writeAddress request.values.length
    · have hset : ∃ error,
          Exec.runOn (setHoldingRegisters request.writeAddress (request.values.map .int)) store =
            (.error error, store) ∧ IsAddressError error := by
        apply exists_addressError_of_setHoldingRegisters hstore
        rw [List.length_map]
        exact hrejected
      obtain ⟨error, hset, herror⟩ := hset
      exact answered_rejected (.inr hrejected)
        ((Exec.runOn_bind_ok hget).trans (Exec.runOn_bind_error hset)) herror
    · obtain ⟨hcovered, hwritable⟩ := not_or.mp hrejected
      obtain ⟨area, hwrites⟩ := exists_writes hcovered hwritable
      have harea := hwrites.wellFormed hstore.holdingRegisters
      obtain ⟨values, hreads⟩ := exists_reads_of_not_notCovered
        (mt (notCovered_congr hwrites.sameShape _ _).mp hread)
      have hagain : Exec.runOn (getHoldingRegisters request.readAddress request.readCount)
          { store with holdingRegisters := area } =
            (.ok values, { store with holdingRegisters := area }) := by
        rw [runOn_getHoldingRegisters, getValues_of_reads harea hreads]
      exact answered_ok (.readWriteMultipleRegisters request area values hwrites hreads)
        ((Exec.runOn_bind_ok hget).trans ((Exec.runOn_bind_ok
          (runOn_setHoldingRegisters_of_writes hstore request.values_valid hwrites)).trans
            (Exec.runOn_bind_ok hagain)))

theorem handles_readDeviceIdentification (server : ModbusTcpServer) (store : MemoryDataStore)
    (request : ReadDeviceIdentificationRequest) :
    Answered server store (.readDeviceIdentification request) := by
  by_cases hrejected : request.readCode = 4 ∧ request.objectId ∉ server.deviceIdentification.keys
  · have hread : readDeviceIdentification request server.deviceIdentification =
        .ok (.exception ⟨0x2B, ExceptionCode.illegalDataAddress.code⟩) := by
      rw [readDeviceIdentification, if_pos hrejected]
    apply answered_ok (.rejected (.readDeviceIdentification request) hrejected)
    change Exec.runOn (liftM (readDeviceIdentification request server.deviceIdentification))
      store = _
    rw [hread]
    rfl
  · obtain ⟨items, -, -, hselect⟩ := server.deviceIdentification.exists_sortedObjects
    obtain ⟨response, hread, hcode, -, -⟩ := exists_readDeviceIdentification request
      server.deviceIdentification hrejected (hselect request.readCode request.objectId)
    apply answered_ok (.readDeviceIdentification request response hcode hrejected hread)
    change Exec.runOn (liftM (readDeviceIdentification request server.deviceIdentification))
      store = _
    rw [hread]
    rfl

theorem answered (server : ModbusTcpServer) (hstore : store.WellFormed) (request : BuiltinRequest) :
    Answered server store request := by
  cases request with
  | readCoils request =>
      exact answered_read hstore.coils (runOn_getCoils _ _ store) rfl id (.readCoils request)
  | readDiscreteInputs request =>
      exact answered_read hstore.discreteInputs (runOn_getDiscreteInputs _ _ store) rfl id
        (.readDiscreteInputs request)
  | readHoldingRegisters request =>
      exact answered_read hstore.holdingRegisters (runOn_getHoldingRegisters _ _ store) rfl id
        (.readHoldingRegisters request)
  | readInputRegisters request =>
      exact answered_read hstore.inputRegisters (runOn_getInputRegisters _ _ store) rfl id
        (.readInputRegisters request)
  | writeSingleCoil request =>
      have hdispatch : server.dispatch (.builtin (.writeSingleCoil request)) = do
          setCoils request.address ([request.value].map .bool)
          return .writeSingleCoil ⟨0x05, request.address, request.value⟩ := rfl
      exact answered_writeCoils hstore hdispatch id (.writeSingleCoil request)
  | writeSingleRegister request =>
      have hdispatch : server.dispatch (.builtin (.writeSingleRegister request)) = do
          setHoldingRegisters request.address ([request.value].map .int)
          return .writeSingleRegister ⟨0x06, request.address, request.value⟩ := rfl
      have hvalue : ∀ value ∈ [request.value], IsRegisterValue value := by
        simpa using request.value_valid
      exact answered_writeHoldingRegisters hstore hvalue hdispatch id (.writeSingleRegister request)
  | writeMultipleCoils request =>
      exact answered_writeCoils hstore rfl id (.writeMultipleCoils request)
  | writeMultipleRegisters request =>
      exact answered_writeHoldingRegisters hstore request.values_valid rfl id
        (.writeMultipleRegisters request)
  | maskWriteRegister request => exact handles_maskWriteRegister server hstore request
  | readWriteMultipleRegisters request =>
      exact handles_readWriteMultipleRegisters server hstore request
  | readDeviceIdentification request =>
      exact handles_readDeviceIdentification server store request

end ModbusTcpServer

end ClearModbus
