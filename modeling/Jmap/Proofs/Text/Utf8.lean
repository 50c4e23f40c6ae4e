import Jmap.Text.Utf8

namespace Jmap.Utf8

/-! The bytes of a text are those of its characters, one after the other. -/

theorem toList_loop (bytes : ByteArray) (index : Nat) (made : List UInt8) :
    ByteArray.toList.loop bytes index made = made.reverse ++ bytes.data.toList.drop index := by
  fun_induction ByteArray.toList.loop bytes index made with
  | case1 index made inside ih =>
    have inside : index < bytes.data.toList.length := inside
    have front : bytes.get! index = bytes.data.toList[index] := by
      simp only [ByteArray.get!, Array.getElem_toList]
      exact getElem!_pos bytes.data index inside
    rw [ih, List.drop_eq_getElem_cons inside, front]
    simp
  | case2 index made outside =>
    rw [List.drop_eq_nil_of_le (Nat.not_lt.1 outside), List.append_nil]

theorem encode_eq (text : String) :
    encode text = text.toList.flatMap String.utf8EncodeChar := by
  rw [encode, ByteArray.toList, toList_loop, String.toUTF8_eq_toByteArray,
    ← String.utf8Encode_toList, List.utf8Encode, List.toList_data_toByteArray]
  simp

theorem continuation?_ofNat {low : Nat} (fits : low < 0x40) :
    continuation? (UInt8.ofNat (low + 0x80)) = some low := by
  have size : (UInt8.ofNat (low + 0x80)).toNat = low + 0x80 := by
    simp only [UInt8.toNat_ofNat']
    omega
  have inRange : 0x80 ≤ UInt8.ofNat (low + 0x80) ∧ UInt8.ofNat (low + 0x80) < 0xC0 := by
    simp only [UInt8.le_iff_toNat_le, UInt8.lt_iff_toNat_lt, size]
    exact ⟨by simp, by simp; omega⟩
  rw [continuation?, if_pos inRange, size, Nat.add_sub_cancel]

theorem scalar?_toNat {least : Nat} {char : Char} (large : least ≤ char.toNat) :
    scalar? least char.toNat = some char := by
  rw [scalar?, if_pos ⟨large, char.valid⟩, Char.ofNat_toNat]

theorem toNat_marked (bits mark : Nat) (fits : bits + mark < 0x100) :
    (UInt8.ofNat (bits + mark)).toNat = bits + mark := by
  simp only [UInt8.toNat_ofNat']
  omega

theorem toNat_lt (char : Char) : char.toNat < 0x110000 := by
  have valid := char.valid
  simp only [UInt32.isValidChar, Nat.isValidChar] at valid
  change char.val.toNat < 0x110000
  omega

theorem front?_utf8EncodeChar (char : Char) (rest : Bytes) :
    front? (String.utf8EncodeChar char ++ rest) =
      some (char, (String.utf8EncodeChar char).length) := by
  have bound := toNat_lt char
  have back (least code : Nat) (large : least ≤ char.toNat) (same : code = char.toNat) :
      scalar? least code = some char := same ▸ scalar?_toNat large
  rw [String.utf8EncodeChar, show char.val.toNat = char.toNat from rfl]
  generalize width : char.toNat = code at *
  -- One case for each number of bytes.
  by_cases one : code ≤ 0x7f
  · have lead := toNat_marked code 0 (by omega)
    simp only [Nat.add_zero] at lead
    simp only [one, if_true, List.cons_append, front?, lead]
    rw [if_pos (by omega), ← width, Char.ofNat_toNat]
    rfl
  rw [if_neg one]
  by_cases two : code ≤ 0x7ff
  · have lead := toNat_marked (code / 64 % 0x20) 0xc0 (by omega)
    simp only [two, if_true, List.cons_append, front?, lead, List.map_cons]
    rw [if_neg (by omega), if_neg (by omega), continuation?_ofNat (by omega)]
    simp only [if_pos (show code / 64 % 0x20 + 0xc0 < 0xE0 by omega)]
    rw [back _ _ (by omega) (by omega)]
    rfl
  rw [if_neg two]
  by_cases three : code ≤ 0xffff
  · have lead := toNat_marked (code / 4096 % 0x10) 0xe0 (by omega)
    simp only [three, if_true, List.cons_append, front?, lead, List.map_cons]
    rw [if_neg (by omega), if_neg (by omega), continuation?_ofNat (by omega),
      continuation?_ofNat (by omega)]
    simp only [if_neg (show ¬code / 4096 % 0x10 + 0xe0 < 0xE0 by omega),
      if_pos (show code / 4096 % 0x10 + 0xe0 < 0xF0 by omega)]
    rw [back _ _ (by omega) (by omega)]
    rfl
  rw [if_neg three]
  have lead := toNat_marked (code / 262144 % 0x08) 0xf0 (by omega)
  simp only [List.cons_append, front?, lead, List.map_cons]
  rw [if_neg (by omega), if_neg (by omega), continuation?_ofNat (by omega),
    continuation?_ofNat (by omega), continuation?_ofNat (by omega)]
  simp only [if_neg (show ¬code / 262144 % 0x08 + 0xf0 < 0xE0 by omega),
    if_neg (show ¬code / 262144 % 0x08 + 0xf0 < 0xF0 by omega)]
  rw [back _ _ (by omega) (by omega)]
  rfl

theorem decodeFrom_append (skipped rest : Bytes) :
    decodeFrom skipped.length (skipped ++ rest) = decodeFrom 0 rest := by
  induction skipped with
  | nil => rfl
  | cons byte skipped ih => exact ih

theorem decodeFrom_utf8EncodeChar (char : Char) (rest : Bytes) :
    decodeFrom 0 (String.utf8EncodeChar char ++ rest) = some char :: decodeFrom 0 rest := by
  have front := front?_utf8EncodeChar char rest
  cases bytes : String.utf8EncodeChar char with
  | nil => exact absurd bytes String.utf8EncodeChar_ne_nil
  | cons lead others =>
    rw [bytes] at front
    simp only [List.cons_append] at front ⊢
    rw [decodeFrom, front]
    simp only [List.length_cons, Nat.add_sub_cancel]
    rw [decodeFrom_append]

theorem decode_encode (text : String) : decode (encode text) = text.toList.map some := by
  rw [encode_eq, decode]
  induction text.toList with
  | nil => rfl
  | cons char chars ih =>
    rw [List.flatMap_cons, decodeFrom_utf8EncodeChar, ih, List.map_cons]

end Jmap.Utf8
