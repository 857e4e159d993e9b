import ClearModbus.Session

/-!
# A client that connects again

`connect` gives up the connection the transport holds and opens another one, and the client keeps
its transaction counter. What was on its way on the old connection is lost with it, and what the
server still sends there reaches nobody.
-/

namespace ClearModbus

/-- A client with its connection, or the time without one, and what came before it. -/
structure ReconnectingClient where
  session : Session
  earlier : List Session
  deriving DecidableEq

inductive ConnectionAction where
  | session (action : SessionAction)
  /-- `connect` opens a connection, after it has closed the one there was. -/
  | connect
  /-- `connect` raises after it has closed the connection there was. -/
  | connectFails
  | close
  /-- The stream ends. -/
  | lost
  deriving DecidableEq

namespace ReconnectingClient

def unused (client : ModbusTcpClient) (connected : Bool) : Session :=
  { client, stream := ⟨connected, [], false, []⟩, calls := [], inTransit := [], unanswered := []
    frames := [] }

def fresh (unitId : Int) : ReconnectingClient := ⟨unused ⟨unitId, 1⟩ false, []⟩

def reopen (state : ReconnectingClient) (connected : Bool) : ReconnectingClient :=
  ⟨unused state.session.client connected, state.earlier ++ [state.session]⟩

def step (registry : CustomFunctionCodeRegistry) (state : ReconnectingClient) :
    ConnectionAction → Option ReconnectingClient
  | .session action =>
      (state.session.step registry action).map fun session => { state with session }
  | .connect => some (state.reopen true)
  | .connectFails => some (state.reopen false)
  | .close => some (if state.session.stream.connected then state.reopen false else state)
  | .lost =>
      some { state with
        session := { state.session with stream := { state.session.stream with atEof := true } } }

end ReconnectingClient

end ClearModbus
