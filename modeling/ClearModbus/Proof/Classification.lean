import ClearModbus.Proof.Dispatch

/-!
# Failed requests

In every state reached by datastore writes and requests, a request is answered with an exception
exactly when it is rejected, the exception is `ILLEGAL_DATA_ADDRESS`, and the datastore stays as it
was.
-/

namespace ClearModbus

/-- One step of a datastore that is served: a write to it, or a request to some server. -/
inductive ServerStep : MemoryDataStore → MemoryDataStore → Prop where
  | write {store after : MemoryDataStore} (h : DatastoreWrite store after) : ServerStep store after
  | request (server : ModbusTcpServer) (request : RequestPDU) (store : MemoryDataStore) :
      ServerStep store (Exec.runOn (server.handleRequest request) store).2

namespace ModbusTcpServer

variable {server : ModbusTcpServer} {store after : MemoryDataStore} {request : BuiltinRequest}
  {response : ResponsePDU}

theorem Handles.wellFormed (hstore : store.WellFormed)
    (h : Handles server store request response after) : after.WellFormed := by
  obtain ⟨hholding, hinput, hcoils, hdiscrete⟩ := hstore
  cases h with
  | writeSingleCoil request area h =>
      exact ⟨hholding, hinput, h.wellFormed hcoils, hdiscrete⟩
  | writeSingleRegister request area h =>
      exact ⟨h.wellFormed hholding, hinput, hcoils, hdiscrete⟩
  | writeMultipleCoils request area h =>
      exact ⟨hholding, hinput, h.wellFormed hcoils, hdiscrete⟩
  | writeMultipleRegisters request area h =>
      exact ⟨h.wellFormed hholding, hinput, hcoils, hdiscrete⟩
  | maskWriteRegister request value area hread hwrite =>
      exact ⟨hwrite.wellFormed hholding, hinput, hcoils, hdiscrete⟩
  | readWriteMultipleRegisters request area values hwrite hread =>
      exact ⟨hwrite.wellFormed hholding, hinput, hcoils, hdiscrete⟩
  | _ => exact ⟨hholding, hinput, hcoils, hdiscrete⟩

/-- A rejected request has one outcome only. -/
theorem Handles.eq_of_rejected (hstore : store.WellFormed)
    (h : Handles server store request response after) (hrejected : server.Rejected store request) :
    response = .exception ⟨request.functionCode, ExceptionCode.illegalDataAddress.code⟩ ∧
      after = store := by
  cases h with
  | rejected _ _ => exact ⟨rfl, rfl⟩
  | readCoils request values h => exact absurd hrejected h.not_notCovered
  | readDiscreteInputs request values h => exact absurd hrejected h.not_notCovered
  | readHoldingRegisters request values h => exact absurd hrejected h.not_notCovered
  | readInputRegisters request values h => exact absurd hrejected h.not_notCovered
  | writeSingleCoil request area h =>
      exact absurd hrejected (not_or.mpr ⟨h.not_notCovered, h.not_coveredReadOnly hstore.coils⟩)
  | writeSingleRegister request area h =>
      exact absurd hrejected
        (not_or.mpr ⟨h.not_notCovered, h.not_coveredReadOnly hstore.holdingRegisters⟩)
  | writeMultipleCoils request area h =>
      exact absurd hrejected (not_or.mpr ⟨h.not_notCovered, h.not_coveredReadOnly hstore.coils⟩)
  | writeMultipleRegisters request area h =>
      exact absurd hrejected
        (not_or.mpr ⟨h.not_notCovered, h.not_coveredReadOnly hstore.holdingRegisters⟩)
  | maskWriteRegister request value area hread hwrite =>
      exact absurd hrejected
        (not_or.mpr ⟨hread.not_notCovered, hwrite.not_coveredReadOnly hstore.holdingRegisters⟩)
  | readWriteMultipleRegisters request area values hwrite hread =>
      rcases hrejected with hread' | hcovered | hreadonly
      · exact absurd ((DataArea.notCovered_congr hwrite.sameShape _ _).mpr hread')
          hread.not_notCovered
      · exact absurd hcovered hwrite.not_notCovered
      · exact absurd hreadonly (hwrite.not_coveredReadOnly hstore.holdingRegisters)
  | readDeviceIdentification request response hcode hconfigured h =>
      exact absurd hrejected hconfigured

theorem Handles.rejected_of_exception {exception : ExceptionResponse}
    (h : Handles server store request (.exception exception) after) :
    server.Rejected store request := by
  cases h with
  | rejected _ h => exact h

theorem wellFormed_step (hstore : store.WellFormed) (h : ServerStep store after) :
    after.WellFormed := by
  cases h with
  | write h => exact MemoryDataStore.wellFormed_write hstore h
  | request server request =>
      cases request with
      | builtin request =>
          obtain ⟨response, final, hrun, hhandles⟩ := answered server hstore request
          rw [hrun]
          exact hhandles.wellFormed hstore
      | custom request => exact hstore

theorem wellFormed_steps (hstore : store.WellFormed)
    (h : Relation.ReflTransGen ServerStep store after) : after.WellFormed := by
  induction h with
  | refl => exact hstore
  | tail _ hstep ih => exact wellFormed_step ih hstep

/-- Exceptions are exactly the rejections, and a rejected request changes nothing. -/
theorem handleRequest_exception_iff {holdingRegisters inputRegisters : List RegisterBlock}
    {coils discreteInputs : List BitBlock} {initial : MemoryDataStore}
    (hinit : MemoryDataStore.init holdingRegisters inputRegisters coils discreteInputs =
      .ok initial)
    (hrun : Relation.ReflTransGen ServerStep initial store) (server : ModbusTcpServer)
    (request : BuiltinRequest) :
    ∃ response after, Exec.runOn (server.handleRequest (.builtin request)) store =
        (.ok response, after) ∧
      ((∃ exception, response = .exception exception) ↔ server.Rejected store request) ∧
      (server.Rejected store request →
        response = .exception ⟨request.functionCode, ExceptionCode.illegalDataAddress.code⟩ ∧
          after = store) ∧
      ∀ functionCode, response ≠
        .exception ⟨functionCode, ExceptionCode.illegalDataValue.code⟩ := by
  have hstore := wellFormed_steps (MemoryDataStore.wellFormed_init hinit) hrun
  obtain ⟨response, after, hanswer, hhandles⟩ := answered server hstore request
  refine ⟨response, after, hanswer, ⟨?_, ?_⟩, hhandles.eq_of_rejected hstore, ?_⟩
  · rintro ⟨exception, rfl⟩
    exact hhandles.rejected_of_exception
  · intro hrejected
    exact ⟨_, (hhandles.eq_of_rejected hstore hrejected).1⟩
  · rintro functionCode rfl
    have heq := (hhandles.eq_of_rejected hstore hhandles.rejected_of_exception).1
    simp [ExceptionCode.code] at heq

theorem handleRequest_exception_iff_readonly :
    ∃ store, MemoryDataStore.init [⟨0, [70000], true⟩] [] [] [] = .ok store ∧
      ∃ response after, Exec.runOn (handleRequest ⟨.empty⟩ (.builtin (.writeSingleRegister
        ⟨0, 7, by decide, by decide⟩))) store = (.ok response, after) ∧
        response = .exception ⟨0x06, ExceptionCode.illegalDataAddress.code⟩ ∧ after = store := by
  have hinit : MemoryDataStore.init [⟨0, [70000], true⟩] [] [] [] = .ok _ := rfl
  obtain ⟨response, after, hanswer, -, hrejected, -⟩ := handleRequest_exception_iff hinit .refl
    ⟨.empty⟩ (.writeSingleRegister ⟨0, 7, by decide, by decide⟩)
  refine ⟨_, hinit, response, after, hanswer, hrejected (.inr ?_)⟩
  exact ⟨⟨0, [70000], true⟩, List.mem_singleton.mpr rfl, rfl, rfl⟩

end ModbusTcpServer

end ClearModbus
