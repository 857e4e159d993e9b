import ClearModbus.Lib.Exec

/-!
# Exact codecs

A fallible encoder and a fallible decoder are exact for a set of values when each undoes the other:
the values of the set survive a round trip, and so does every string that is decoded. A codec has
both halves as soon as one layout describes what is encoded and everything that is decoded.
-/

namespace Codec

variable {ε α β : Type}

structure Exact (encode : α → Except ε β) (decode : β → Except ε α) (valid : α → Prop) : Prop where
  decode_encode : ∀ value, valid value → ∃ data, encode value = .ok data ∧ decode data = .ok value
  encode_decode : ∀ data value, decode data = .ok value → encode value = .ok data

theorem exact_of_layout {encode : α → Except ε β} {decode : β → Except ε α} {valid : α → Prop}
    {layout : α → β} (hencode : ∀ value, valid value → encode value = .ok (layout value))
    (hdecode : ∀ data value, decode data = .ok value ↔ valid value ∧ data = layout value) :
    Exact encode decode valid where
  decode_encode value hvalue :=
    ⟨layout value, hencode value hvalue, (hdecode _ _).mpr ⟨hvalue, rfl⟩⟩
  encode_decode data value h := by
    obtain ⟨hvalue, rfl⟩ := (hdecode _ _).mp h
    exact hencode value hvalue

end Codec
