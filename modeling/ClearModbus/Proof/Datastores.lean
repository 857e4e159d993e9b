import ClearModbus.Server

/-!
# Servers over related datastores

Two datastores whose methods answer alike on related states make two servers that answer alike.
-/

namespace ClearModbus

variable {σ τ : Type}

/-- The methods of both datastores answer alike on related states and keep them related. -/
structure ModbusDataStore.Simulates (rel : σ → τ → Prop) (datastore : ModbusDataStore σ)
    (datastore' : ModbusDataStore τ) : Prop where
  getHoldingRegisters : ∀ address count, Exec.Simulates rel
    (datastore.getHoldingRegisters address count) (datastore'.getHoldingRegisters address count)
  setHoldingRegisters : ∀ address values, Exec.Simulates rel
    (datastore.setHoldingRegisters address values) (datastore'.setHoldingRegisters address values)
  getInputRegisters : ∀ address count, Exec.Simulates rel
    (datastore.getInputRegisters address count) (datastore'.getInputRegisters address count)
  getCoils : ∀ address count, Exec.Simulates rel
    (datastore.getCoils address count) (datastore'.getCoils address count)
  setCoils : ∀ address values, Exec.Simulates rel
    (datastore.setCoils address values) (datastore'.setCoils address values)
  getDiscreteInputs : ∀ address count, Exec.Simulates rel
    (datastore.getDiscreteInputs address count) (datastore'.getDiscreteInputs address count)

namespace ModbusTcpServer

variable {rel : σ → τ → Prop} {datastore : ModbusDataStore σ} {datastore' : ModbusDataStore τ}

theorem simulates_dispatchOver (h : datastore.Simulates rel datastore') (server : ModbusTcpServer)
    (request : RequestPDU) :
    Exec.Simulates rel (server.dispatchOver datastore request)
      (server.dispatchOver datastore' request) := by
  cases request with
  | custom request => exact .pure _
  | builtin request =>
      cases request with
      | readCoils request => exact (h.getCoils _ _).bind fun _ => .pure _
      | readDiscreteInputs request => exact (h.getDiscreteInputs _ _).bind fun _ => .pure _
      | readHoldingRegisters request => exact (h.getHoldingRegisters _ _).bind fun _ => .pure _
      | readInputRegisters request => exact (h.getInputRegisters _ _).bind fun _ => .pure _
      | writeSingleCoil request => exact (h.setCoils _ _).bind fun _ => .pure _
      | writeSingleRegister request => exact (h.setHoldingRegisters _ _).bind fun _ => .pure _
      | writeMultipleCoils request => exact (h.setCoils _ _).bind fun _ => .pure _
      | writeMultipleRegisters request => exact (h.setHoldingRegisters _ _).bind fun _ => .pure _
      | maskWriteRegister request =>
          refine (h.getHoldingRegisters _ _).bind fun registers => ?_
          refine (Exec.Simulates.liftM (getItem registers 0)).bind fun value => ?_
          exact (h.setHoldingRegisters _ _).bind fun _ => .pure _
      | readWriteMultipleRegisters request =>
          refine (h.getHoldingRegisters _ _).bind fun _ => ?_
          refine (h.setHoldingRegisters _ _).bind fun _ => ?_
          exact (h.getHoldingRegisters _ _).bind fun _ => .pure _
      | readDeviceIdentification request => exact .liftM _

theorem simulates_handleRequestOver (h : datastore.Simulates rel datastore')
    (server : ModbusTcpServer) (request : RequestPDU) :
    Exec.Simulates rel (server.handleRequestOver datastore request)
      (server.handleRequestOver datastore' request) := by
  refine (simulates_dispatchOver h server request).tryCatch fun error => ?_
  cases error with
  | invalidAddressError address count => exact .pure _
  | readOnlyDataBlockError address => exact .pure _
  | invalidValueError value => exact .pure _
  | _ => exact .throw _

end ModbusTcpServer

end ClearModbus
