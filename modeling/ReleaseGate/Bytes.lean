/-
ReleaseGate/Bytes.lean

Single bytes of a content.
-/

namespace ReleaseGate

/-- The byte at a position; `none` behind the end. -/
def byteAt? (data : ByteArray) (i : Nat) : Option UInt8 :=
  if h : i < data.size then some data[i] else none

/-- The byte at a position; zero behind the end. -/
def byteAt (data : ByteArray) (i : Nat) : UInt8 := (byteAt? data i).getD 0

theorem toList_loop (data : ByteArray) (i : Nat) (done : List UInt8) :
    ByteArray.toList.loop data i done = done.reverse ++ data.data.toList.drop i := by
  fun_induction ByteArray.toList.loop data i done with
  | case1 i done h ih =>
    have hi : i < data.data.toList.length := h
    have hget : data.get! i = data.data.toList[i] := by
      show data.data[i]! = _
      rw [getElem!_pos data.data i h]
      rfl
    rw [ih, List.drop_eq_getElem_cons hi, hget, List.reverse_cons, List.append_assoc]
    rfl
  | case2 i done h =>
    have hi : data.data.toList.length ≤ i := Nat.le_of_not_lt h
    rw [List.drop_eq_nil_of_le hi, List.append_nil]

/-- The bytes of a content as a list. -/
theorem toList_eq_data (data : ByteArray) : data.toList = data.data.toList := toList_loop data 0 []

end ReleaseGate
