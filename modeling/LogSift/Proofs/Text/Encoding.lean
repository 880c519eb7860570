import LogSift.Proofs.Text.Boundary
import LogSift.Text.Utf8
/-!
# The bytes of a text

The bytes of a text are those of its characters one after the other
(`encode_ofList`), so there are as many of them as its length in bytes
says, and the bytes of two texts in a row are those of the first and then
those of the second.
-/


namespace LogSift

namespace Text

/-- Reading an array of bytes from an index on yields what has been read and
then the others. -/
theorem toList_loop (bytes : ByteArray) (i : Nat) (read : List UInt8) :
    ByteArray.toList.loop bytes i read = read.reverse ++ bytes.data.toList.drop i := by
  fun_induction ByteArray.toList.loop bytes i read with
  | case1 i read hlt ih =>
    have hindex : i < bytes.data.toList.length := hlt
    have hget : bytes.get! i = bytes.data.toList[i] := by
      change bytes.data[i]! = bytes.data.toList[i]
      rw [getElem!_pos bytes.data i hlt, Array.getElem_toList]
    rw [ih, List.drop_eq_getElem_cons hindex, hget]
    simp
  | case2 i read hlt =>
    have hend : bytes.data.toList.length ≤ i := Nat.le_of_not_lt hlt
    rw [List.drop_eq_nil_of_le hend]
    simp

/-- **The bytes of a text** are those of its characters. -/
theorem encode_ofList (cs : List Char) :
    Utf8.encode (String.ofList cs) = cs.flatMap String.utf8EncodeChar := by
  have hbytes : (String.ofList cs).toUTF8.data.toList = cs.flatMap String.utf8EncodeChar := by
    rw [String.toUTF8, String.toByteArray_ofList, List.utf8Encode, List.data_toByteArray]
  rw [Utf8.encode, ByteArray.toList, toList_loop, hbytes]
  rfl

/-- There are as many of them as the text is long. -/
theorem length_encode (cs : List Char) :
    (Utf8.encode (String.ofList cs)).length = byteLength cs := by
  rw [encode_ofList]
  induction cs with
  | nil => rfl
  | cons c cs ih =>
    rw [List.flatMap_cons, List.length_append, ih, String.length_utf8EncodeChar, byteLength_cons]

theorem encode_append (front back : List Char) :
    Utf8.encode (String.ofList (front ++ back)) =
      Utf8.encode (String.ofList front) ++ Utf8.encode (String.ofList back) := by
  rw [encode_ofList, encode_ofList, encode_ofList, List.flatMap_append]

end Text

end LogSift
