import Delegation.Text.Utf8

/-!
# Bytes of texts

The bytes of a text stand for this text and no other one.
-/

namespace Delegation
namespace Text

theorem mk_utf8String (text : String) :
    (⟨(utf8String text).toArray⟩ : ByteArray) = text.toByteArray := by
  rw [← String.utf8Encode_toList, List.utf8Encode]
  apply ByteArray.ext
  rw [List.data_toByteArray]
  rfl

/-- The bytes of a text are read as the text. -/
@[simp] theorem ofUtf8?_utf8String (text : String) :
    ofUtf8? (utf8String text) = some text := by
  rw [ofUtf8?, mk_utf8String, String.fromUTF8?, dif_pos text.isValidUTF8]
  rfl

end Text
end Delegation
