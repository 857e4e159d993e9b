import Mathlib.Tactic

/-!
# Big-endian 16-bit words

A word is two bytes, high byte first. The decoder takes the bytes two at a time, so on a byte string
of even length it is inverse to the encoder, and on words below `2 ^ 16` the encoder is inverse to
it.
-/

namespace Words

/-- The two big-endian bytes of a natural number, modulo `2 ^ 16`. -/
def encode (value : Nat) : List UInt8 :=
  [UInt8.ofNat (value / 256), UInt8.ofNat value]

def decode (high low : UInt8) : Nat := high.toNat * 256 + low.toNat

def encodeAll (values : List Nat) : List UInt8 := values.flatMap encode

def decodeAll : List UInt8 → List Nat
  | high :: low :: rest => decode high low :: decodeAll rest
  | _ => []

theorem decode_lt (high low : UInt8) : decode high low < 65536 := by
  have hhigh := high.toNat_lt
  have hlow := low.toNat_lt
  unfold decode
  omega

@[simp]
theorem length_encode (value : Nat) : (encode value).length = 2 := rfl

theorem decode_encode {value : Nat} (hvalue : value < 65536) :
    decode (UInt8.ofNat (value / 256)) (UInt8.ofNat value) = value := by
  simp only [decode, UInt8.toNat_ofNat']
  omega

@[simp]
theorem encode_decode (high low : UInt8) : encode (decode high low) = [high, low] := by
  have hlow := low.toNat_lt
  have hdiv : decode high low / 256 = high.toNat := by
    unfold decode
    omega
  have hmod : UInt8.ofNat (decode high low) = low := by
    apply UInt8.toNat_inj.mp
    simp only [UInt8.toNat_ofNat', decode]
    omega
  rw [encode, hdiv, hmod, UInt8.ofNat_toNat]

@[simp]
theorem encodeAll_cons (value : Nat) (values : List Nat) :
    encodeAll (value :: values) = encode value ++ encodeAll values := rfl

@[simp]
theorem length_encodeAll (values : List Nat) :
    (encodeAll values).length = 2 * values.length := by
  induction values with
  | nil => rfl
  | cons value values ih =>
      rw [encodeAll_cons, List.length_append, ih, length_encode, List.length_cons]
      omega

theorem length_decodeAll (data : List UInt8) : (decodeAll data).length = data.length / 2 := by
  induction data using decodeAll.induct with
  | case1 high low rest ih =>
      simp only [decodeAll, List.length_cons, ih]
      omega
  | case2 data hdata =>
      match data, hdata with
      | [], _ => rfl
      | [_], _ => simp [decodeAll]
      | high :: low :: rest, hdata => exact absurd rfl (hdata high low rest)

theorem lt_of_mem_decodeAll {data : List UInt8} {value : Nat} (hmem : value ∈ decodeAll data) :
    value < 65536 := by
  induction data using decodeAll.induct with
  | case1 high low rest ih =>
      rw [decodeAll, List.mem_cons] at hmem
      rcases hmem with rfl | hmem
      · exact decode_lt high low
      · exact ih hmem
  | case2 data hdata =>
      rw [decodeAll] at hmem
      · cases hmem
      · exact hdata

theorem decodeAll_encodeAll {values : List Nat} (hvalues : ∀ value ∈ values, value < 65536) :
    decodeAll (encodeAll values) = values := by
  induction values with
  | nil => rfl
  | cons value values ih =>
      have hhead := hvalues value List.mem_cons_self
      have htail := ih fun other hother => hvalues other (List.mem_cons_of_mem _ hother)
      change decode _ _ :: decodeAll (encodeAll values) = _
      rw [decode_encode hhead, htail]

theorem encodeAll_decodeAll {data : List UInt8} (heven : data.length % 2 = 0) :
    encodeAll (decodeAll data) = data := by
  induction data using decodeAll.induct with
  | case1 high low rest ih =>
      have hrest : rest.length % 2 = 0 := by
        simp only [List.length_cons] at heven
        omega
      rw [decodeAll, encodeAll_cons, encode_decode, ih hrest]
      rfl
  | case2 data hdata =>
      match data, hdata with
      | [], _ => rfl
      | [_], _ => simp at heven
      | high :: low :: rest, hdata => exact absurd rfl (hdata high low rest)

end Words
