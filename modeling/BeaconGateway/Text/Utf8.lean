/-!
# Text as bytes

## Main definitions

* `utf8Bytes` — the bytes of a text in UTF-8;
* `ofUtf8Bytes?` — the text in a row of bytes, `none` if they are not UTF-8.
-/

namespace BeaconGateway

/-- The bytes of a text in UTF-8. -/
def utf8Bytes (s : String) : List UInt8 :=
  s.toUTF8.data.toList

/-- The text in a row of bytes, `none` if they are not UTF-8. -/
def ofUtf8Bytes? (bytes : List UInt8) : Option String :=
  String.fromUTF8? ⟨bytes.toArray⟩

theorem length_utf8Bytes (s : String) : (utf8Bytes s).length = s.utf8ByteSize := by
  rw [utf8Bytes, Array.length_toList]; rfl

/-- The bytes of a text read back as the text. -/
theorem ofUtf8Bytes?_utf8Bytes (s : String) : ofUtf8Bytes? (utf8Bytes s) = some s := by
  have h : (⟨(utf8Bytes s).toArray⟩ : ByteArray) = s.toByteArray := by
    simp [utf8Bytes]
  rw [ofUtf8Bytes?, h, String.fromUTF8?, dif_pos s.isValidUTF8]
  rfl

end BeaconGateway
