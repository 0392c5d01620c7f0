import Mathlib.Data.List.Basic

/-!
# Texts and their bytes

* `utf8Bytes` — the bytes of a text.
* `fromUtf8` — the text of some bytes, if there is one.
* `fromUtf8_eq_some` — a text is read from its own bytes, and from no others.

Nothing here is about a particular service.
-/

namespace SsoGateway.Lib

/-- The bytes of a text in UTF-8. -/
def utf8Bytes (s : String) : List UInt8 := s.toByteArray.data.toList

/-- The text whose bytes in UTF-8 these are. -/
def fromUtf8 (bytes : List UInt8) : Option String := String.fromUTF8? ⟨bytes.toArray⟩

@[simp] theorem fromUtf8_utf8Bytes (s : String) : fromUtf8 (utf8Bytes s) = some s := by
  unfold fromUtf8 utf8Bytes
  simp only [String.fromUTF8?, Array.toArray_toList, dif_pos s.isValidUTF8]
  rfl

/-- A text is read from its own bytes, and from no others. -/
theorem fromUtf8_eq_some {bytes : List UInt8} {s : String} :
    fromUtf8 bytes = some s ↔ bytes = utf8Bytes s := by
  constructor
  · intro h
    unfold fromUtf8 String.fromUTF8? at h
    split at h
    · obtain rfl := Option.some.inj h
      simp [utf8Bytes, String.fromUTF8]
    · simp at h
  · rintro rfl
    exact fromUtf8_utf8Bytes s

/-- Different texts have different bytes. -/
theorem utf8Bytes_injective : Function.Injective utf8Bytes := fun s s' h => by
  have hread := fromUtf8_utf8Bytes s
  rw [h, fromUtf8_utf8Bytes] at hread
  exact (Option.some.inj hread).symm

end SsoGateway.Lib
