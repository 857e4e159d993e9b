import ClearModbus.Proof.Delivered

/-!
# The RTU client on any bytes

How many bytes a call takes off the line follows from the request and from the bytes themselves, and
from nothing else: the inference of response lengths is a function of what is there. A call whose
response is there decodes exactly these bytes and leaves the others, and a call whose response is
not there has used up the line.
-/

namespace ClearModbus

namespace ModbusRtuClient

def available (size : Nat) (data : Bytes) : Option Nat :=
  if size ≤ data.length then some size else none

def objectsLength : Nat → Bytes → Option Nat
  | 0, _ => some 0
  | count + 1, data => do
      let header ← available 2 data
      let value ← available (data.getD 1 0).toNat (data.drop header)
      let rest ← objectsLength count ((data.drop header).drop value)
      return header + (value + rest)

def identificationLength (data : Bytes) : Option Nat := do
  let header ← available 6 data
  let objects ← objectsLength (data.getD 5 0).toNat (data.drop header)
  let crc ← available 2 ((data.drop header).drop objects)
  return header + (objects + crc)

def byteCountLength (data : Bytes) : Option Nat := do
  let byteCount ← available 1 data
  let rest ← available ((data.getD 0 0).toNat + 2) (data.drop byteCount)
  return byteCount + rest

def bodyLength (request : RequestPDU) (functionCode : UInt8) (data : Bytes) : Option Nat :=
  if isExceptionFunctionCode functionCode.toNat then available 3 data
  else
    match fixedRtuResponseSize request, request with
    | some size, _ => available (size.toNat - 2) data
    | none, .builtin (.readDeviceIdentification _) => identificationLength data
    | none, _ => byteCountLength data

/-- The length of the response frame the bytes start with, if all of it is there. -/
def responseLength (request : RequestPDU) (data : Bytes) : Option Nat := do
  let front ← available 2 data
  let body ← bodyLength request (data.getD 1 0) (data.drop front)
  return front + body

/-- What a call gives and leaves, as a function of the bytes on the line and of the error that a
read raises when they are too few. -/
def onLine (registry : CustomFunctionCodeRegistry) (client : ModbusRtuClient) (request : RequestPDU)
    (unitId : Option Int) (shortReadError : PyError) (data : Bytes) :
    Except PyError ResponsePDU × Bytes :=
  match ModbusRTUCodec.encodeRequest request (unitId.getD client.unitId) with
  | .error error => (.error error, data)
  | .ok _ =>
      match responseLength request data with
      | some length =>
          (ModbusRTUCodec.decodeResponse registry (data.take length) request
            (unitId.getD client.unitId), data.drop length)
      | none => (.error shortReadError, [])

theorem available_eq_some_iff {size length : Nat} {data : Bytes} :
    available size data = some length ↔ size ≤ data.length ∧ length = size := by
  rw [available]
  split
  · rename_i hle
    simp [hle, eq_comm]
  · rename_i hlt
    simp [hlt]

def Takes (program : Exec PyError SerialPort Bytes) (length : Bytes → Option Nat) : Prop :=
  ∀ port : SerialPort, port.connected = true →
    match length port.incoming with
    | some count => count ≤ port.incoming.length ∧ ∃ sizes,
        Exec.runOn program port =
          (.ok (port.incoming.take count), { port with
            incoming := port.incoming.drop count, requested := port.requested ++ sizes })
    | none => ∃ final, Exec.runOn program port = (.error port.shortReadError, final) ∧
        final.incoming = []

namespace Takes

variable {program : Exec PyError SerialPort Bytes} {length : Bytes → Option Nat}

theorem congr {length' : Bytes → Option Nat} (h : Takes program length)
    (heq : ∀ data, length' data = length data) : Takes program length' := by
  intro port hconnected
  rw [heq]
  exact h port hconnected

theorem pure_nil : Takes (pure []) fun _ => some 0 := by
  intro port _
  refine ⟨Nat.zero_le _, [], ?_⟩
  rw [Exec.runOn_pure, List.append_nil]
  rfl

theorem receive {size : Nat} (hsize : 0 < size) :
    Takes (serialTransport.receive size) (available size) := by
  intro port hconnected
  have hrun : Exec.runOn (serialTransport.receive size) port =
      if size ≤ port.incoming.length then
        (.ok (port.incoming.take size), { port with
          incoming := port.incoming.drop size, requested := port.requested ++ [(size : Int)] })
      else (.error port.shortReadError, { port with
          incoming := port.incoming.drop size
          requested := port.requested ++ [(size : Int)] }) := by
    change Exec.runOn (SerialTransport.receive size) port = _
    rw [SerialTransport.receive, Exec.runOn_bind, Exec.runOn_modify]
    dsimp only
    rw [Exec.runOn_bind, Exec.runOn_get]
    dsimp only
    rw [hconnected, if_neg (by decide), if_neg (by omega), Exec.runOn_bind, Exec.runOn_set]
    dsimp only
    rw [Int.toNat_natCast, List.length_take]
    by_cases hle : size ≤ port.incoming.length
    · rw [if_neg (by omega), if_pos hle, Exec.runOn_pure]
    · rw [if_pos (by omega), if_neg hle]
      rfl
  rw [hrun, available]
  by_cases hle : size ≤ port.incoming.length
  · rw [if_pos hle, if_pos hle]
    exact ⟨hle, _, rfl⟩
  · rw [if_neg hle, if_neg hle]
    exact ⟨_, rfl, List.drop_eq_nil_of_le (by omega)⟩

/-- One after the other, where the second part depends on the bytes the first has taken. -/
theorem append {next : Bytes → Exec PyError SerialPort Bytes} (length' : Bytes → Bytes → Option Nat)
    (h : Takes program length)
    (hnext : ∀ data count, length data = some count →
      Takes (next (data.take count)) (length' data)) :
    Takes (do
        let front ← program
        let back ← next front
        return front ++ back)
      fun data => do
        let front ← length data
        let back ← length' data (data.drop front)
        return front + back := by
  intro port hconnected
  have hfirst := h port hconnected
  dsimp only
  cases hcount : length port.incoming with
  | none =>
      rw [hcount] at hfirst
      obtain ⟨final, hrun, hfinal⟩ := hfirst
      exact ⟨final, Exec.runOn_bind_error hrun, hfinal⟩
  | some count =>
      rw [hcount] at hfirst
      obtain ⟨hle, sizes, hrun⟩ := hfirst
      have hsecond := hnext port.incoming count hcount
        { port with
          incoming := port.incoming.drop count, requested := port.requested ++ sizes } hconnected
      rw [Option.bind_eq_bind, Option.bind_some, Exec.runOn_bind_ok hrun]
      dsimp only at hsecond
      cases hback : length' port.incoming (port.incoming.drop count) with
      | none =>
          rw [hback] at hsecond
          obtain ⟨final, hrest, hfinal⟩ := hsecond
          exact ⟨final, Exec.runOn_bind_error hrest, hfinal⟩
      | some back =>
          rw [hback] at hsecond
          obtain ⟨hback, more, hrest⟩ := hsecond
          rw [List.length_drop] at hback
          refine ⟨by omega, sizes ++ more, ?_⟩
          rw [Exec.runOn_bind_ok hrest, Exec.runOn_pure, List.take_add, List.drop_drop,
            List.append_assoc]

theorem liftM_bind {α : Type} {result : Except PyError α} {value : α}
    {next : α → Exec PyError SerialPort Bytes} (hresult : result = .ok value)
    (hnext : Takes (next value) length) : Takes (liftM result >>= next) length := by
  intro port hconnected
  rw [hresult, Exec.runOn_liftM_bind]
  exact hnext port hconnected

end Takes

theorem length_take_of_available {size count : Nat} {data : Bytes}
    (h : available size data = some count) : (data.take count).length = size := by
  obtain ⟨hle, rfl⟩ := available_eq_some_iff.mp h
  rw [List.length_take, Nat.min_eq_left hle]

theorem getItem_take {size count index : Nat} {data : Bytes} (h : available size data = some count)
    (hindex : index < size) : getItem (data.take count) index = .ok (data.getD index 0) := by
  have hlength := length_take_of_available h
  obtain ⟨hle, rfl⟩ := available_eq_some_iff.mp h
  rw [getItem_natCast (by omega), List.getElem_take, List.getD_eq_getElem _ _ (by omega)]

theorem takes_value (valueLength : UInt8) :
    Takes (if valueLength ≠ 0 then serialTransport.receive valueLength.toNat else pure [])
      (available valueLength.toNat) := by
  split
  · rename_i hne
    apply Takes.receive
    rw [Nat.pos_iff_ne_zero]
    exact fun hzero => hne (UInt8.toNat_inj.mp hzero)
  · rename_i hzero
    rw [not_not.mp hzero]
    exact Takes.pure_nil.congr fun data => if_pos (Nat.zero_le _)

theorem takes_receiveObjects (count : Nat) :
    Takes (receiveObjects serialTransport count) (objectsLength count) := by
  induction count with
  | zero => exact Takes.pure_nil.congr fun data => rfl
  | succ count ih =>
      have hprogram : receiveObjects serialTransport (count + 1) = (do
          let objectHeader ← serialTransport.receive (2 : Nat)
          let object ← (do
            let valueLength ← getItem objectHeader 1
            let value ←
              (if valueLength ≠ 0 then serialTransport.receive valueLength.toNat else pure [])
            let rest ← receiveObjects serialTransport count
            return value ++ rest)
          return objectHeader ++ object) := by
        simp only [receiveObjects, bind_assoc, pure_bind, List.append_assoc]
        rfl
      rw [hprogram]
      refine (Takes.append
        (fun data rest => do
          let value ← available (data.getD 1 0).toNat rest
          let rest ← objectsLength count (rest.drop value)
          return value + rest)
        (.receive (by decide)) fun data front hfront => ?_).congr fun data => ?_
      · refine .liftM_bind (getItem_take hfront (by decide : 1 < 2)) ?_
        exact .append (fun _ => objectsLength count) (takes_value _) fun _ _ _ => ih
      · simp only [objectsLength, Option.bind_eq_bind, Option.bind_assoc]
        rfl

theorem takes_receiveReadDeviceIdentificationResponse :
    Takes (receiveReadDeviceIdentificationResponse serialTransport) identificationLength := by
  have hprogram : receiveReadDeviceIdentificationResponse serialTransport = (do
      let header ← serialTransport.receive (6 : Nat)
      let body ← (do
        let objectCount ← getItem header 5
        let objects ← receiveObjects serialTransport objectCount.toNat
        let crc ← serialTransport.receive (2 : Nat)
        return objects ++ crc)
      return header ++ body) := by
    simp only [receiveReadDeviceIdentificationResponse, bind_assoc, pure_bind, List.append_assoc]
    rfl
  rw [hprogram]
  refine (Takes.append
    (fun data rest => do
      let objects ← objectsLength (data.getD 5 0).toNat rest
      let crc ← available 2 (rest.drop objects)
      return objects + crc)
    (.receive (by decide)) fun data front hfront => ?_).congr fun data => ?_
  · refine .liftM_bind (getItem_take hfront (by decide : 5 < 6)) ?_
    exact .append (fun _ => available 2) (takes_receiveObjects _) fun _ _ _ => .receive (by decide)
  · simp only [identificationLength, Option.bind_eq_bind, Option.bind_assoc]
    rfl

theorem responseSize_of_available {request : RequestPDU} {data : Bytes} {count : Nat}
    (h : available 2 data = some count) :
    rtuResponseSizeFromPrefix (data.take count) request =
      .ok (if isExceptionFunctionCode (data.getD 1 0).toNat then some rtuExceptionResponseSize
        else fixedRtuResponseSize request) := by
  have hlength := length_take_of_available h
  rw [rtuResponseSizeFromPrefix, if_neg (not_not.mpr (by rw [hlength]; rfl))]
  rw [show ((1 : Int)) = ((1 : Nat) : Int) from rfl, getItem_take h (by decide), Except.ok_bind]
  split <;> rfl

theorem two_lt_fixedRtuResponseSize {request : RequestPDU} {size : Int}
    (h : fixedRtuResponseSize request = some size) : 2 < size := by
  unfold fixedRtuResponseSize at h
  split at h <;> cases h <;> decide

theorem takes_byteCountBody :
    Takes
      (do
        let byteCountData ← serialTransport.receive (1 : Nat)
        let rest ← (do
          let byteCount ← getItem byteCountData 0
          let responseSize ← rtuByteCountResponseSize byteCount.toNat
          serialTransport.receive (responseSize - rtuResponsePrefixSize - 1))
        return byteCountData ++ rest)
      byteCountLength := by
  refine .append (fun data => available ((data.getD 0 0).toNat + 2)) (.receive (by decide))
    fun data count hcount => ?_
  refine .liftM_bind (getItem_take hcount (by decide : 0 < 1)) ?_
  have hsize : rtuByteCountResponseSize ((data.getD 0 0).toNat : Int) =
      .ok (rtuResponsePrefixSize + 1 + (data.getD 0 0).toNat + 2) :=
    if_neg (Int.not_lt.mpr (Int.natCast_nonneg _))
  refine .liftM_bind hsize ?_
  have hprefix : rtuResponsePrefixSize = 2 := rfl
  have hrest : rtuResponsePrefixSize + 1 + ((data.getD 0 0).toNat : Int) + 2 -
      rtuResponsePrefixSize - 1 = (((data.getD 0 0).toNat + 2 : Nat) : Int) := by
    push_cast
    omega
  rw [hrest]
  exact .receive (by omega)

theorem takes_body (request : RequestPDU) {functionCode : UInt8}
    (hnormal : ¬isExceptionFunctionCode functionCode.toNat = true) :
    Takes
      (match fixedRtuResponseSize request, request with
        | none, .builtin (.readDeviceIdentification _) =>
            receiveReadDeviceIdentificationResponse serialTransport
        | none, _ => do
            let byteCountData ← serialTransport.receive (1 : Nat)
            let rest ← (do
              let byteCount ← getItem byteCountData 0
              let responseSize ← rtuByteCountResponseSize byteCount.toNat
              serialTransport.receive (responseSize - rtuResponsePrefixSize - 1))
            return byteCountData ++ rest
        | some responseSize, _ => serialTransport.receive (responseSize - rtuResponsePrefixSize))
      (bodyLength request functionCode) := by
  unfold bodyLength
  simp only [if_neg hnormal]
  cases hfixed : fixedRtuResponseSize request with
  | some size =>
      have hpos := two_lt_fixedRtuResponseSize hfixed
      have hprefix : rtuResponsePrefixSize = 2 := rfl
      have hsize : size - rtuResponsePrefixSize = ((size.toNat - 2 : Nat) : Int) := by omega
      dsimp only
      rw [hsize]
      exact .receive (by omega)
  | none =>
      cases request with
      | custom request => exact takes_byteCountBody
      | builtin request =>
          cases request with
          | readDeviceIdentification request => exact takes_receiveReadDeviceIdentificationResponse
          | _ => exact takes_byteCountBody

/-- The bytes of a response are those the rules say. -/
theorem takes_receiveResponse (request : RequestPDU) :
    Takes (receiveResponse serialTransport request) (responseLength request) := by
  have hprogram : receiveResponse serialTransport request = (do
      let prefixData ← serialTransport.receive (2 : Nat)
      let body ← (do
        let responseSize ← rtuResponseSizeFromPrefix prefixData request
        match responseSize, request with
        | none, .builtin (.readDeviceIdentification _) =>
            receiveReadDeviceIdentificationResponse serialTransport
        | none, _ => do
            let byteCountData ← serialTransport.receive (1 : Nat)
            let rest ← (do
              let byteCount ← getItem byteCountData 0
              let responseSize ← rtuByteCountResponseSize byteCount.toNat
              serialTransport.receive (responseSize - rtuResponsePrefixSize - 1))
            return byteCountData ++ rest
        | some responseSize, _ => serialTransport.receive (responseSize - rtuResponsePrefixSize))
      return prefixData ++ body) := by
    rw [receiveResponse]
    simp only [bind_assoc]
    congr 1
    funext prefixData
    congr 1
    funext responseSize
    split <;> simp only [bind_assoc, pure_bind, List.append_assoc, Nat.cast_one]
  rw [hprogram]
  refine (Takes.append (fun data => bodyLength request (data.getD 1 0)) (.receive (by decide))
    fun data front hfront => ?_).congr fun data => rfl
  refine .liftM_bind (responseSize_of_available hfront) ?_
  by_cases hexception : isExceptionFunctionCode (data.getD 1 0).toNat = true
  · have hlength : bodyLength request (data.getD 1 0) = available 3 :=
      funext fun rest => if_pos hexception
    rw [hlength, if_pos hexception]
    exact .receive (by decide : 0 < 3)
  · rw [if_neg hexception]
    exact takes_body request hexception

theorem le_length_of_responseLength {request : RequestPDU} {length : Nat} {data : Bytes}
    (h : responseLength request data = some length) : length ≤ data.length := by
  have htakes := takes_receiveResponse request ⟨true, data, [], [], false⟩ rfl
  dsimp only at htakes
  rw [h] at htakes
  exact htakes.1

def objectPositions : Nat → Bytes → List Nat
  | 0, _ => []
  | count + 1, data =>
      1 :: (objectPositions count ((data.drop 2).drop (data.getD 1 0).toNat)).map
        (2 + (data.getD 1 0).toNat + ·)

/-- The positions of the bytes that tell the length of a response, apart from the function code. -/
def sizePositions (request : RequestPDU) (data : Bytes) : List Nat :=
  if isExceptionFunctionCode (data.getD 1 0).toNat then []
  else
    match fixedRtuResponseSize request, request with
    | some _, _ => []
    | none, .builtin (.readDeviceIdentification _) =>
        7 :: (objectPositions (data.getD 7 0).toNat (data.drop 8)).map (8 + ·)
    | none, _ => [2]

def AgreeAt (positions : List Nat) (data data' : Bytes) : Prop :=
  ∀ position ∈ positions, data'[position]? = data[position]?

theorem AgreeAt.drop {positions : List Nat} {data data' : Bytes} {offset : Nat}
    (h : AgreeAt (positions.map (offset + ·)) data data') :
    AgreeAt positions (data.drop offset) (data'.drop offset) := by
  intro position hposition
  rw [List.getElem?_drop, List.getElem?_drop]
  exact h _ (List.mem_map_of_mem hposition)

theorem AgreeAt.getD_eq {positions : List Nat} {data data' : Bytes} {position : Nat}
    (h : AgreeAt positions data data') (hposition : position ∈ positions) :
    data'.getD position 0 = data.getD position 0 := by
  rw [List.getD_eq_getElem?_getD, List.getD_eq_getElem?_getD, h position hposition]

theorem available_of_le {size : Nat} {data : Bytes} (h : size ≤ data.length) :
    available size data = some size := if_pos h

/-- As long as the value lengths agree and the bytes are there, so does the length of the
objects. -/
theorem objectsLength_congr {count length : Nat} {data data' : Bytes}
    (h : objectsLength count data = some length) (hle : length ≤ data'.length)
    (hagree : AgreeAt (objectPositions count data) data data') :
    objectsLength count data' = some length := by
  induction count generalizing length data data' with
  | zero =>
      cases h
      rfl
  | succ count ih =>
      obtain ⟨header, hheader, h⟩ := Option.bind_eq_some_iff.mp h
      obtain ⟨value, hvalue, h⟩ := Option.bind_eq_some_iff.mp h
      obtain ⟨rest, hrest, h⟩ := Option.bind_eq_some_iff.mp h
      cases h
      obtain ⟨-, rfl⟩ := available_eq_some_iff.mp hheader
      obtain ⟨-, rfl⟩ := available_eq_some_iff.mp hvalue
      have hlength := hagree.getD_eq (List.mem_cons_self : 1 ∈ objectPositions (count + 1) data)
      have hpositions : AgreeAt ((objectPositions count
          ((data.drop 2).drop (data.getD 1 0).toNat)).map (2 + (data.getD 1 0).toNat + ·))
          data data' := fun position hposition => hagree position (List.mem_cons_of_mem _ hposition)
      have htail := hpositions.drop
      rw [← List.drop_drop, ← List.drop_drop] at htail
      rw [objectsLength, available_of_le (by omega), Option.bind_eq_bind, Option.bind_some, hlength,
        available_of_le (by rw [List.length_drop]; omega), Option.bind_some,
        ih hrest (by rw [List.length_drop, List.length_drop]; omega) htail]
      rfl

theorem identificationLength_congr {length : Nat} {data data' : Bytes}
    (h : identificationLength data = some length) (hle : length ≤ data'.length)
    (hcount : data'.getD 5 0 = data.getD 5 0)
    (hagree : AgreeAt (objectPositions (data.getD 5 0).toNat (data.drop 6)) (data.drop 6)
      (data'.drop 6)) :
    identificationLength data' = some length := by
  obtain ⟨header, hheader, h⟩ := Option.bind_eq_some_iff.mp h
  obtain ⟨objects, hobjects, h⟩ := Option.bind_eq_some_iff.mp h
  obtain ⟨crc, hcrc, h⟩ := Option.bind_eq_some_iff.mp h
  cases h
  obtain ⟨-, rfl⟩ := available_eq_some_iff.mp hheader
  obtain ⟨-, rfl⟩ := available_eq_some_iff.mp hcrc
  have hsame := objectsLength_congr hobjects (by rw [List.length_drop]; omega) hagree
  rw [identificationLength, available_of_le (by omega), Option.bind_eq_bind, Option.bind_some,
    hcount,
    hsame, Option.bind_some, available_of_le (by rw [List.length_drop, List.length_drop]; omega)]
  rfl

theorem byteCountLength_congr {length : Nat} {data data' : Bytes}
    (h : byteCountLength data = some length) (hle : length ≤ data'.length)
    (hcount : data'.getD 0 0 = data.getD 0 0) : byteCountLength data' = some length := by
  obtain ⟨byteCount, hbyteCount, h⟩ := Option.bind_eq_some_iff.mp h
  obtain ⟨rest, hrest, h⟩ := Option.bind_eq_some_iff.mp h
  cases h
  obtain ⟨-, rfl⟩ := available_eq_some_iff.mp hbyteCount
  obtain ⟨-, rfl⟩ := available_eq_some_iff.mp hrest
  rw [byteCountLength, available_of_le (by omega), Option.bind_eq_bind, Option.bind_some, hcount,
    available_of_le (by rw [List.length_drop]; omega)]
  rfl

theorem getD_drop (offset position : Nat) (data : Bytes) :
    (data.drop offset).getD position 0 = data.getD (offset + position) 0 := by
  rw [List.getD_eq_getElem?_getD, List.getElem?_drop, List.getD_eq_getElem?_getD]

theorem byteCountLength_drop_congr {length : Nat} {data data' : Bytes}
    (h : byteCountLength (data.drop 2) = some length) (hle : length ≤ (data'.drop 2).length)
    (hagree : AgreeAt [2] data data') : byteCountLength (data'.drop 2) = some length := by
  refine byteCountLength_congr h hle ?_
  rw [getD_drop, getD_drop]
  exact hagree.getD_eq List.mem_cons_self

/-- As long as the bytes that tell it agree, so does the length of the response. -/
theorem responseLength_congr {request : RequestPDU} {length : Nat} {data data' : Bytes}
    (h : responseLength request data = some length) (hle : length ≤ data'.length)
    (hexception : isExceptionFunctionCode (data'.getD 1 0).toNat =
      isExceptionFunctionCode (data.getD 1 0).toNat)
    (hagree : AgreeAt (sizePositions request data) data data') :
    responseLength request data' = some length := by
  obtain ⟨front, hfront, h⟩ := Option.bind_eq_some_iff.mp h
  obtain ⟨body, hbody, h⟩ := Option.bind_eq_some_iff.mp h
  cases h
  obtain ⟨-, rfl⟩ := available_eq_some_iff.mp hfront
  suffices hsame : bodyLength request (data'.getD 1 0) (data'.drop 2) = some body by
    rw [responseLength, available_of_le (by omega), Option.bind_eq_bind, Option.bind_some, hsame]
    rfl
  have hrest : body ≤ (data'.drop 2).length := by
    rw [List.length_drop]
    omega
  unfold bodyLength at hbody ⊢
  unfold sizePositions at hagree
  rw [hexception]
  by_cases hcode : isExceptionFunctionCode (data.getD 1 0).toNat = true
  · rw [if_pos hcode] at hbody ⊢
    obtain ⟨-, rfl⟩ := available_eq_some_iff.mp hbody
    exact available_of_le hrest
  · rw [if_neg hcode] at hbody hagree ⊢
    cases hfixed : fixedRtuResponseSize request with
    | some size =>
        rw [hfixed] at hbody
        obtain ⟨-, rfl⟩ := available_eq_some_iff.mp hbody
        exact available_of_le hrest
    | none =>
        rw [hfixed] at hbody hagree
        cases request with
        | custom request => exact byteCountLength_drop_congr hbody hrest hagree
        | builtin request =>
            cases request with
            | readDeviceIdentification request =>
                have hcount := hagree.getD_eq List.mem_cons_self
                refine identificationLength_congr hbody hrest ?_ ?_
                · rw [getD_drop, getD_drop]
                  exact hcount
                · have hpositions : AgreeAt ((objectPositions (data.getD 7 0).toNat
                      (data.drop 8)).map (8 + ·)) data data' :=
                    fun position hposition => hagree position (List.mem_cons_of_mem _ hposition)
                  rw [getD_drop, List.drop_drop, List.drop_drop]
                  exact hpositions.drop
            | _ => exact byteCountLength_drop_congr hbody hrest hagree

theorem lt_of_mem_objectPositions {count length : Nat} {data : Bytes}
    (h : objectsLength count data = some length) :
    ∀ position ∈ objectPositions count data, position < length := by
  induction count generalizing length data with
  | zero => exact fun _ hposition => absurd hposition List.not_mem_nil
  | succ count ih =>
      obtain ⟨header, hheader, h⟩ := Option.bind_eq_some_iff.mp h
      obtain ⟨value, hvalue, h⟩ := Option.bind_eq_some_iff.mp h
      obtain ⟨rest, hrest, h⟩ := Option.bind_eq_some_iff.mp h
      cases h
      obtain ⟨-, rfl⟩ := available_eq_some_iff.mp hheader
      obtain ⟨-, rfl⟩ := available_eq_some_iff.mp hvalue
      intro position hposition
      rcases List.mem_cons.mp hposition with rfl | hposition
      · omega
      · obtain ⟨inner, hinner, rfl⟩ := List.mem_map.mp hposition
        have hlt := ih hrest inner hinner
        omega

theorem lt_of_mem_sizePositions {request : RequestPDU} {length : Nat} {data : Bytes}
    (h : responseLength request data = some length) :
    ∀ position ∈ sizePositions request data, position < length := by
  obtain ⟨front, hfront, h⟩ := Option.bind_eq_some_iff.mp h
  obtain ⟨body, hbody, h⟩ := Option.bind_eq_some_iff.mp h
  cases h
  obtain ⟨-, rfl⟩ := available_eq_some_iff.mp hfront
  have hbyteCount : byteCountLength (data.drop 2) = some body →
      ∀ position ∈ [2], position < 2 + body := by
    intro h position hposition
    obtain ⟨byteCount, hbyteCount, h⟩ := Option.bind_eq_some_iff.mp h
    obtain ⟨rest, -, h⟩ := Option.bind_eq_some_iff.mp h
    cases h
    obtain ⟨-, rfl⟩ := available_eq_some_iff.mp hbyteCount
    rw [List.mem_singleton.mp hposition]
    omega
  unfold bodyLength at hbody
  unfold sizePositions
  split
  · exact fun _ hposition => absurd hposition List.not_mem_nil
  · rename_i hcode
    rw [if_neg hcode] at hbody
    cases hfixed : fixedRtuResponseSize request with
    | some size => exact fun _ hposition => absurd hposition List.not_mem_nil
    | none =>
        rw [hfixed] at hbody
        cases request with
        | custom request => exact hbyteCount hbody
        | builtin request =>
            cases request with
            | readDeviceIdentification request =>
                obtain ⟨header, hheader, h⟩ := Option.bind_eq_some_iff.mp hbody
                obtain ⟨objects, hobjects, h⟩ := Option.bind_eq_some_iff.mp h
                obtain ⟨crc, -, h⟩ := Option.bind_eq_some_iff.mp h
                cases h
                obtain ⟨-, rfl⟩ := available_eq_some_iff.mp hheader
                rw [getD_drop, List.drop_drop] at hobjects
                intro position hposition
                rcases List.mem_cons.mp hposition with rfl | hposition
                · omega
                · obtain ⟨inner, hinner, rfl⟩ := List.mem_map.mp hposition
                  have hlt := lt_of_mem_objectPositions hobjects inner hinner
                  omega
            | _ => exact hbyteCount hbody

/-- A connected port takes the call for the function of its bytes. -/
theorem runOn_execute (registry : CustomFunctionCodeRegistry) (client : ModbusRtuClient)
    (request : RequestPDU) (unitId : Option Int) {port : SerialPort}
    (hconnected : port.connected = true) :
    ∃ final, Exec.runOn (execute registry client serialTransport request unitId) port =
        ((onLine registry client request unitId port.shortReadError port.incoming).1, final) ∧
      final.incoming =
        (onLine registry client request unitId port.shortReadError port.incoming).2 := by
  rw [onLine, execute]
  cases hpayload : ModbusRTUCodec.encodeRequest request (unitId.getD client.unitId) with
  | error error => exact ⟨port, rfl, rfl⟩
  | ok payload =>
      rw [Exec.runOn_liftM_bind]
      dsimp only
      rw [Exec.runOn_bind_ok (runOn_send hconnected payload)]
      have htakes := takes_receiveResponse request
        { port with written := port.written ++ payload } hconnected
      dsimp only at htakes
      cases hlength : responseLength request port.incoming with
      | none =>
          rw [hlength] at htakes
          obtain ⟨final, hrun, hfinal⟩ := htakes
          exact ⟨final, Exec.runOn_bind_error hrun, hfinal⟩
      | some count =>
          rw [hlength] at htakes
          obtain ⟨hle, sizes, hrun⟩ := htakes
          rw [Exec.runOn_bind_ok hrun, Exec.runOn_liftM]
          exact ⟨_, rfl, rfl⟩

/-- What lies behind the response is not looked at. -/
theorem responseLength_take_append {request : RequestPDU} {length : Nat} {data : Bytes}
    (h : responseLength request data = some length) (rest : Bytes) :
    responseLength request (data.take length ++ rest) = some length := by
  have hle := le_length_of_responseLength h
  have htwo : 2 ≤ length := by
    obtain ⟨front, hfront, hbody⟩ := Option.bind_eq_some_iff.mp h
    obtain ⟨body, -, hlength⟩ := Option.bind_eq_some_iff.mp hbody
    cases hlength
    obtain ⟨-, rfl⟩ := available_eq_some_iff.mp hfront
    omega
  have hsame : ∀ position < length, (data.take length ++ rest)[position]? = data[position]? := by
    intro position hposition
    rw [List.getElem?_append_left (by rw [List.length_take]; omega),
      List.getElem?_take_of_lt hposition]
  refine responseLength_congr h ?_ ?_ fun position hposition =>
    hsame position (lt_of_mem_sizePositions h position hposition)
  · rw [List.length_append, List.length_take]
    omega
  · rw [List.getD_eq_getElem?_getD, hsame 1 (by omega), ← List.getD_eq_getElem?_getD]

/-- **A call is a function of the bytes of its response**, whatever they are: it decodes the bytes
the rules find and leaves the others, or uses the line up and raises what the read that came up
short does; and when the response is there, neither that nor what lies behind it changes
anything. -/
theorem execute_on_line (registry : CustomFunctionCodeRegistry) (client : ModbusRtuClient)
    (request : RequestPDU) (unitId : Option Int) {port : SerialPort}
    (hconnected : port.connected = true) :
    (∃ final, Exec.runOn (execute registry client serialTransport request unitId) port =
        ((onLine registry client request unitId port.shortReadError port.incoming).1, final) ∧
      final.incoming =
        (onLine registry client request unitId port.shortReadError port.incoming).2) ∧
    ∀ payload length rest error,
      ModbusRTUCodec.encodeRequest request (unitId.getD client.unitId) = .ok payload →
      responseLength request port.incoming = some length →
      onLine registry client request unitId error (port.incoming.take length ++ rest) =
        ((onLine registry client request unitId port.shortReadError port.incoming).1, rest) := by
  refine ⟨runOn_execute registry client request unitId hconnected, ?_⟩
  intro payload length rest error hpayload hlength
  have htaken : (port.incoming.take length).length = length := by
    rw [List.length_take]
    exact Nat.min_eq_left (le_length_of_responseLength hlength)
  unfold onLine
  rw [hpayload, hlength, responseLength_take_append hlength rest]
  dsimp only
  rw [List.take_left' htaken, List.drop_left' htaken]

/-- Two of three announced registers, and `asyncio.timeout` that ends the read. -/
theorem execute_on_line_short :
    onLine .empty ⟨1⟩ (.builtin (.readHoldingRegisters ⟨0, 3, by decide, by decide⟩)) none
        .modbusTimeoutError [0x01, 0x03, 0x06, 0x00, 0x01, 0x00, 0x02] =
          (.error .modbusTimeoutError, []) ∧
      ∃ final, Exec.runOn (execute .empty ⟨1⟩ serialTransport
        (.builtin (.readHoldingRegisters ⟨0, 3, by decide, by decide⟩)) none)
        ⟨true, [0x01, 0x03, 0x06, 0x00, 0x01, 0x00, 0x02], [], [], true⟩ =
          (.error .modbusTimeoutError, final) ∧ final.incoming = [] :=
  ⟨rfl, (execute_on_line .empty ⟨1⟩ (.builtin (.readHoldingRegisters ⟨0, 3, by decide, by decide⟩))
    none rfl).1⟩

end ModbusRtuClient

end ClearModbus
