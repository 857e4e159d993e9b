import ClearModbus.Datastore.Objects
import ClearModbus.Device
import ClearModbus.Server

/-!
# An application with its simulators and its lists

An application creates lists and changes them, builds simulators from profiles over them, and calls
the simulators, as do their clients. All lists are objects of one heap.
-/

namespace ClearModbus

namespace StoreObject

def perform (server : ModbusTcpServer) (store : StoreObject) (objects : ListObjects) :
    Operation → Output × ListObjects
  | .request request =>
      (Exec.runOn (server.handleRequestOver store.methods (.builtin request.1)) objects).map
        .response id
  | .getHoldingRegisters address count =>
      (Exec.runOn (store.getHoldingRegisters address count) objects).map .registers id
  | .getInputRegisters address count =>
      (Exec.runOn (store.getInputRegisters address count) objects).map .registers id
  | .getCoils address count =>
      (Exec.runOn (store.getCoils address count) objects).map .bits id
  | .getDiscreteInputs address count =>
      (Exec.runOn (store.getDiscreteInputs address count) objects).map .bits id
  | .setHoldingRegisters address values =>
      (Exec.runOn (store.setHoldingRegisters address values) objects).map .done id
  | .setCoils address values =>
      (Exec.runOn (store.setCoils address values) objects).map .done id
  | .setInputRegisters address values =>
      (Exec.runOn (store.setInputRegisters address values) objects).map .done id
  | .setDiscreteInputs address values =>
      (Exec.runOn (store.setDiscreteInputs address values) objects).map .done id

end StoreObject

inductive ApplicationEvent where
  /-- A simulator was built, from a profile whose lists held this. -/
  | built (profile : SimulatorProfile)
  | performed (index : Nat) (operation : Operation) (output : Output)

structure Application where
  objects : ListObjects
  simulators : List StoreObject
  history : List ApplicationEvent

inductive ApplicationAction where
  | newRegisters (values : List Int)
  | newBits (values : List Bool)
  | changeRegisters (ref : Heap.Ref) (values : List Int)
  | changeBits (ref : Heap.Ref) (values : List Bool)
  /-- `ModbusSimulator.from_profile`. -/
  | fromProfile (profile : ProfileObject)
  | perform (index : Nat) (operation : Operation)

namespace Application

def fresh (objects : ListObjects) : Application := ⟨objects, [], []⟩

def build (application : Application) (profile : ProfileObject) : Application :=
  match profile.toDatastore application.objects with
  | (.ok store, objects) =>
      ⟨objects, application.simulators ++ [store],
        application.history ++ [.built (profile.load application.objects)]⟩
  | (.error _, objects) => { application with objects }

def step (server : ModbusTcpServer) (application : Application) :
    ApplicationAction → Option Application
  | .newRegisters values =>
      some { application with
        objects := { application.objects with
          registers := (application.objects.registers.alloc values).2 } }
  | .newBits values =>
      some { application with
        objects := { application.objects with bits := (application.objects.bits.alloc values).2 } }
  | .changeRegisters ref values =>
      some { application with
        objects := { application.objects with
          registers := application.objects.registers.update ref values } }
  | .changeBits ref values =>
      some { application with
        objects := { application.objects with bits := application.objects.bits.update ref values } }
  | .fromProfile profile => some (application.build profile)
  | .perform index operation =>
      application.simulators[index]?.map fun store =>
        let (output, objects) := store.perform server application.objects operation
        { application with
          objects, history := application.history ++ [.performed index operation output] }

/-- The list of no block is changed but through its datastore, and the lists of a profile exist. -/
def Permits (application : Application) : ApplicationAction → Prop
  | .changeRegisters ref _ => ∀ store ∈ application.simulators, ref ∉ store.registerRefs
  | .changeBits ref _ => ∀ store ∈ application.simulators, ref ∉ store.bitRefs
  | .fromProfile profile =>
      (∀ range ∈ profile.holdingRegisters ++ profile.inputRegisters,
        application.objects.registers.Valid range.values) ∧
      ∀ range ∈ profile.coils ++ profile.discreteInputs,
        application.objects.bits.Valid range.values
  | _ => True

instance (application : Application) : DecidablePred application.Permits
  | .newRegisters _ => .isTrue trivial
  | .newBits _ => .isTrue trivial
  | .changeRegisters ref _ =>
      inferInstanceAs (Decidable (∀ store ∈ application.simulators, ref ∉ store.registerRefs))
  | .changeBits ref _ =>
      inferInstanceAs (Decidable (∀ store ∈ application.simulators, ref ∉ store.bitRefs))
  | .fromProfile _ => inferInstanceAs (Decidable (_ ∧ _))
  | .perform _ _ => .isTrue trivial

def ofBuilt : ApplicationEvent → Option SimulatorProfile
  | .built profile => some profile
  | .performed _ _ _ => none

def ofPerformed (index : Nat) : ApplicationEvent → Option (Operation × Output)
  | .built _ => none
  | .performed other operation output => if other = index then some (operation, output) else none

def profiles (application : Application) : List SimulatorProfile :=
  application.history.filterMap ofBuilt

def performed (application : Application) (index : Nat) : List (Operation × Output) :=
  application.history.filterMap (ofPerformed index)

end Application

end ClearModbus
