import ClearModbus.Protocol.Mbap
import ClearModbus.Transport

namespace ClearModbus

structure ModbusTcpClient where
  unitId : Int
  transactionId : Int
  deriving DecidableEq, Repr

namespace ModbusTcpClient

/-- `_next_transaction_id`: the counter before the call, and the counter after it. -/
def nextTransactionId (client : ModbusTcpClient) : Int × ModbusTcpClient :=
  let next := client.transactionId + 1
  (client.transactionId, { client with transactionId := if next > 0xFFFF then 1 else next })

variable {σ : Type}

def exchange (registry : CustomFunctionCodeRegistry) (transport : Transport σ)
    (request : RequestPDU) (transactionId unitId : Int) : Exec PyError σ ResponsePDU := do
  let payload ← ModbusTCPCodec.encodeRequest request transactionId unitId
  transport.send payload
  let data ← transport.receive 7
  let header ← MBAPHeader.decode data
  let pdu ← transport.receive (header.length - 1)
  let head ← header.encode
  ModbusTCPCodec.decodeResponse registry (head ++ pdu) request transactionId unitId

def execute (registry : CustomFunctionCodeRegistry) (transport : Transport σ)
    (request : RequestPDU) (unitId : Option Int) :
    Exec PyError (ModbusTcpClient × σ) ResponsePDU := do
  let client ← Exec.onFst get
  let unitId := unitId.getD client.unitId
  let (nextTransactionId, client) := client.nextTransactionId
  Exec.onFst (set client)
  Exec.onSnd (exchange registry transport request nextTransactionId unitId)

end ModbusTcpClient

end ClearModbus
