import ClearModbus.Protocol.Response

namespace ClearModbus

abbrev RequestDecoder := Bytes → Except PyError RequestPDU

abbrev ResponseDecoder := Bytes → RequestPDU → Except PyError ResponsePDU

/-- Registry for custom function-code decoders; each table is a `dict` from function codes. -/
structure CustomFunctionCodeRegistry where
  requestDecoders : List (Int × RequestDecoder)
  responseDecoders : List (Int × ResponseDecoder)

namespace CustomFunctionCodeRegistry

def empty : CustomFunctionCodeRegistry := ⟨[], []⟩

/-- The format `02X` of a value that is not negative. -/
def formatHex (value : Int) : String :=
  let digits := (Nat.toDigits 16 value.toNat).map Char.toUpper
  String.ofList (List.replicate (2 - digits.length) '0' ++ digits)

def registerRequestDecoder (functionCode : Int) (decoder : RequestDecoder) :
    Exec PyError CustomFunctionCodeRegistry Unit := do
  if ¬(0 ≤ functionCode ∧ functionCode ≤ 0x7F) then
    throw (.valueError "function_code must be between 0x00 and 0x7F.")
  else
    let registry ← get
    if (registry.requestDecoders.lookup functionCode).isSome then
      throw (.valueError
        ("Request decoder already registered for 0x" ++ formatHex functionCode))
    else
      set { registry with
        requestDecoders := registry.requestDecoders ++ [(functionCode, decoder)] }

def registerResponseDecoder (functionCode : Int) (decoder : ResponseDecoder) :
    Exec PyError CustomFunctionCodeRegistry Unit := do
  if ¬(0 ≤ functionCode ∧ functionCode ≤ 0x7F) then
    throw (.valueError "function_code must be between 0x00 and 0x7F.")
  else
    let registry ← get
    if (registry.responseDecoders.lookup functionCode).isSome then
      throw (.valueError
        ("Response decoder already registered for 0x" ++ formatHex functionCode))
    else
      set { registry with
        responseDecoders := registry.responseDecoders ++ [(functionCode, decoder)] }

inductive Registration where
  | requestDecoder (functionCode : Int) (decoder : RequestDecoder)
  | responseDecoder (functionCode : Int) (decoder : ResponseDecoder)

def Registration.perform : Registration → Exec PyError CustomFunctionCodeRegistry Unit
  | .requestDecoder functionCode decoder => registerRequestDecoder functionCode decoder
  | .responseDecoder functionCode decoder => registerResponseDecoder functionCode decoder

def afterRegistrations (registrations : List Registration) : CustomFunctionCodeRegistry :=
  registrations.foldl
    (fun registry registration => (Exec.runOn registration.perform registry).2) empty

def decodeRequest (registry : CustomFunctionCodeRegistry) (functionCode : Int) (payload : Bytes) :
    Except PyError (Option RequestPDU) :=
  match registry.requestDecoders.lookup functionCode with
  | none => .ok none
  | some decoder => some <$> decoder payload

def decodeResponse (registry : CustomFunctionCodeRegistry) (functionCode : Int) (payload : Bytes)
    (request : RequestPDU) : Except PyError (Option ResponsePDU) :=
  match registry.responseDecoders.lookup functionCode with
  | none => .ok none
  | some decoder => some <$> decoder payload request

end CustomFunctionCodeRegistry

end ClearModbus
