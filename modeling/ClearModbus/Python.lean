import ClearModbus.Lib.Words
import ClearModbus.Lib.Exec

/-!
# The Python the code is written in

Exceptions, `bytes`, sequence indexing and slicing, and the `struct` formats the package uses.
Python integers are `Int`; an operation that can raise returns `Except PyError`.
-/

namespace ClearModbus

abbrev Bytes := List UInt8

/-- A Python object as far as the code looks at its type. -/
inductive PyObject where
  | int (value : Int)
  | bool (value : Bool)
  | other (text : String)
  deriving DecidableEq, Repr

inductive PyError where
  | valueError (message : String)
  | indexError
  | keyError
  | structError
  | incompleteReadError
  /-- One that no `except` of the package names, `ConnectionError` and `TimeoutError` apart. -/
  | osError
  | modbusConnectionError
  | modbusTimeoutError
  | modbusTransportError
  | modbusFrameError (message : String)
  | modbusCRCError (message : String)
  | modbusPDUError (message : String)
  | modbusResponseMismatchError (message : String)
  | modbusExceptionResponseError (functionCode exceptionCode : Int)
  | invalidAddressError (address count : Int)
  | invalidValueError (value : PyObject)
  | readOnlyDataBlockError (address : Int)
  deriving DecidableEq, Repr

/-- A guard that hands the checked fact to what follows it. -/
def check (p : Prop) [Decidable p] (error : PyError) : Except PyError (PLift p) :=
  if h : p then .ok ⟨h⟩ else .error error

theorem check_pos {p : Prop} [Decidable p] (error : PyError) (h : p) :
    check p error = .ok ⟨h⟩ := dif_pos h

theorem check_neg {p : Prop} [Decidable p] (error : PyError) (h : ¬p) :
    check p error = .error error := dif_neg h

theorem raisesOnly_check_of {p : Prop} [Decidable p] {error : PyError} {q : PyError → Prop}
    (h : q error) : (check p error).RaisesOnly q := by
  by_cases hp : p
  · rw [check_pos error hp]
    exact trivial
  · rw [check_neg error hp]
    exact h

def PyError.IsValueError : PyError → Prop
  | .valueError _ => True
  | _ => False

theorem PyError.isValueError_iff {error : PyError} :
    error.IsValueError ↔ ∃ message, error = .valueError message := by
  cases error <;> simp [IsValueError]

/-- The results that raise nothing but `ValueError` raise exactly when some message comes out. -/
theorem exists_valueError_iff {α : Type} {result : Except PyError α}
    (h : result.RaisesOnly PyError.IsValueError) :
    (∃ message, result = .error (.valueError message)) ↔ ¬∃ value, result = .ok value := by
  cases result with
  | ok value => simp
  | error raised =>
      obtain ⟨message, rfl⟩ := PyError.isValueError_iff.mp h
      simp

section Sequences

variable {α : Type}

/-- `values[index]`: a negative index counts from the end. -/
def getItem (values : List α) (index : Int) : Except PyError α :=
  let position := if index < 0 then index + values.length else index
  if position < 0 then .error .indexError
  else
    match values[position.toNat]? with
    | some value => .ok value
    | none => .error .indexError

def clampIndex (length : Nat) (index : Int) : Nat :=
  if index < 0 then (index + length).toNat else min index.toNat length

def slice (values : List α) (start stop : Int) : List α :=
  (values.take (clampIndex values.length stop)).drop (clampIndex values.length start)

def sliceAssign (values : List α) (start stop : Int) (new : List α) : List α :=
  let low := clampIndex values.length start
  let high := max low (clampIndex values.length stop)
  values.take low ++ new ++ values.drop high

theorem getItem_natCast {values : List α} {index : Nat} (h : index < values.length) :
    getItem values (index : Int) = .ok values[index] := by
  have hnonneg : ¬(index : Int) < 0 := by omega
  simp [getItem, hnonneg, h]

theorem getItem_natCast_eq_ok_iff {values : List α} {index : Nat} {value : α} :
    getItem values (index : Int) = .ok value ↔ values[index]? = some value := by
  have hnonneg : ¬(index : Int) < 0 := by omega
  cases hvalue : values[index]? <;> simp [getItem, hnonneg, hvalue]

theorem getItem_map {β : Type} (f : α → β) (values : List α) (index : Int) :
    getItem (values.map f) index = f <$> getItem values index := by
  rw [getItem, getItem, List.length_map]
  generalize (if index < 0 then index + values.length else index) = position
  rw [List.getElem?_map]
  split
  · rfl
  · cases values[position.toNat]? with
    | some value => rfl
    | none => rfl

theorem getItem_append_cons (front : List α) (value : α) (rest : List α) :
    getItem (front ++ value :: rest) (front.length : Int) = .ok value := by
  rw [getItem_natCast (by simp)]
  simp

theorem clampIndex_natCast {length index : Nat} (h : index ≤ length) :
    clampIndex length (index : Int) = index := by
  have hnonneg : ¬(index : Int) < 0 := by omega
  simp [clampIndex, hnonneg, h]

theorem slice_natCast {values : List α} {start stop : Nat} (hstart : start ≤ values.length)
    (hstop : stop ≤ values.length) :
    slice values (start : Int) (stop : Int) = (values.take stop).drop start := by
  rw [slice, clampIndex_natCast hstart, clampIndex_natCast hstop]

theorem slice_append (front values rest : List α) :
    slice (front ++ values ++ rest) (front.length : Int) ((front ++ values).length : Nat) =
      values := by
  rw [slice_natCast (by simp) (by simp), List.take_left, List.drop_left]

theorem sliceAssign_natCast {values new : List α} {start : Nat}
    (h : start + new.length ≤ values.length) :
    sliceAssign values (start : Int) ((start : Int) + new.length) new =
      values.take start ++ new ++ values.drop (start + new.length) := by
  have hstop : ((start : Int) + new.length) = ((start + new.length : Nat) : Int) := by
    push_cast
    rfl
  rw [sliceAssign, hstop, clampIndex_natCast h, clampIndex_natCast (by omega : start ≤ _),
    max_eq_right (by omega)]

end Sequences

/-- `bytes([value, ...])`. -/
def bytesOf : List Int → Except PyError Bytes
  | [] => .ok []
  | value :: values => do
      let _ ← check (0 ≤ value ∧ value < 256) (.valueError "bytes must be in range(0, 256)")
      let rest ← bytesOf values
      return UInt8.ofNat value.toNat :: rest

/-- A value packed with format `B` or `>H`. -/
inductive Field where
  | u8 (value : Int)
  | u16 (value : Int)
  deriving DecidableEq, Repr

def Field.Fits : Field → Prop
  | .u8 value => 0 ≤ value ∧ value < 256
  | .u16 value => 0 ≤ value ∧ value < 65536

instance : DecidablePred Field.Fits := fun field => by
  cases field <;> unfold Field.Fits <;> infer_instance

def Field.bytes : Field → Bytes
  | .u8 value => [UInt8.ofNat value.toNat]
  | .u16 value => Words.encode value.toNat

def pack : List Field → Except PyError Bytes
  | [] => .ok []
  | field :: fields => do
      let _ ← check field.Fits .structError
      let rest ← pack fields
      return field.bytes ++ rest

def unpackHH : Bytes → Except PyError (Int × Int)
  | [a, b, c, d] => .ok (Words.decode a b, Words.decode c d)
  | _ => .error .structError

def unpackHHH : Bytes → Except PyError (Int × Int × Int)
  | [a, b, c, d, e, f] => .ok (Words.decode a b, Words.decode c d, Words.decode e f)
  | _ => .error .structError

def unpackHHHB : Bytes → Except PyError (Int × Int × Int × Int)
  | [a, b, c, d, e, f, g] =>
      .ok (Words.decode a b, Words.decode c d, Words.decode e f, g.toNat)
  | _ => .error .structError

def unpackFromHH : Bytes → Except PyError (Int × Int)
  | a :: b :: c :: d :: _ => .ok (Words.decode a b, Words.decode c d)
  | _ => .error .structError

def unpackFromHHHH : Bytes → Except PyError (Int × Int × Int × Int)
  | a :: b :: c :: d :: e :: f :: g :: h :: _ =>
      .ok (Words.decode a b, Words.decode c d, Words.decode e f, Words.decode g h)
  | _ => .error .structError

def unpackWords (count : Int) (data : Bytes) : Except PyError (List Int) :=
  if (data.length : Int) = 2 * count then .ok ((Words.decodeAll data).map Int.ofNat)
  else .error .structError

theorem bytesOf_eq_ok {values : List Int} (h : ∀ value ∈ values, 0 ≤ value ∧ value < 256) :
    bytesOf values = .ok (values.map fun value => UInt8.ofNat value.toNat) := by
  induction values with
  | nil => rfl
  | cons value values ih =>
      rw [bytesOf, check_pos _ (h value List.mem_cons_self),
        ih fun other hother => h other (List.mem_cons_of_mem _ hother)]
      rfl

theorem pack_eq_ok {fields : List Field} (h : ∀ field ∈ fields, field.Fits) :
    pack fields = .ok (fields.flatMap Field.bytes) := by
  induction fields with
  | nil => rfl
  | cons field fields ih =>
      rw [pack, check_pos _ (h field List.mem_cons_self),
        ih fun other hother => h other (List.mem_cons_of_mem _ hother)]
      rfl

theorem forall_fits_of_pack {fields : List Field} {data : Bytes} (h : pack fields = .ok data) :
    ∀ field ∈ fields, field.Fits := by
  induction fields generalizing data with
  | nil => exact fun _ hmem => absurd hmem List.not_mem_nil
  | cons field fields ih =>
      rw [pack] at h
      obtain ⟨hfits, -, h⟩ := Except.bind_eq_ok_iff.mp h
      obtain ⟨rest, hrest, -⟩ := Except.bind_eq_ok_iff.mp h
      exact List.forall_mem_cons.mpr ⟨hfits.down, ih hrest⟩

end ClearModbus
