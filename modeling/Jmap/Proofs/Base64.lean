import Mathlib.Algebra.Group.Nat.Defs
import Mathlib.Data.List.Basic
import Jmap.Operation.Blob
import Jmap.Proofs.Dict

/-!
Base64 text holds the bits of its bytes, six to a character. Each string of bytes has one such
text, and nothing else is decoded.
-/

namespace Jmap

namespace Base64

open Utf8 (Bytes)

variable {width value left right x y z w : Nat} {char : Char} {text : List Char} {bytes : Bytes}

theorem value?_digit (small : value < 64) : value? (digit value) = some value := by
  have each : ∀ value : Fin 64, value? (digit value) = some value.val := by decide +kernel
  exact each ⟨value, small⟩

theorem digit_of_value? (found : value? char = some value) : value < 64 ∧ digit value = char := by
  have length : alphabet.length = 64 := by decide +kernel
  obtain ⟨bound, same, -⟩ := List.findIdx?_eq_some_iff_getElem.1 found
  refine ⟨length ▸ bound, ?_⟩
  rw [digit, List.getD_eq_getElem?_getD, List.getElem?_eq_getElem bound]
  exact eq_of_beq same

theorem value?_padding : value? '=' = none := by decide +kernel

theorem digit_ne_padding (small : value < 64) : digit value ≠ '=' := by
  intro same
  have found := value?_digit small
  rw [same, value?_padding] at found
  cases found

/-! Decoding what has been encoded, four characters at a time. -/

theorem decodeChars?_one (smallX : x < 64) (smallY : y < 64) :
    decodeChars? [digit x, digit y, '=', '='] =
      if (x * 64 + y) % 16 = 0 then some [UInt8.ofNat ((x * 64 + y) / 16)] else none := by
  simp only [decodeChars?, value?_digit smallX, value?_digit smallY, Option.bind_eq_bind,
    Option.bind_some]

theorem decodeChars?_two (smallX : x < 64) (smallY : y < 64) (smallZ : z < 64) :
    decodeChars? [digit x, digit y, digit z, '='] =
      if (x * 4096 + y * 64 + z) % 4 = 0 then
        some [UInt8.ofNat ((x * 4096 + y * 64 + z) / 1024),
          UInt8.ofNat ((x * 4096 + y * 64 + z) / 4 % 256)]
      else none := by
  rw [decodeChars?]
  · simp only [value?_digit smallX, value?_digit smallY, value?_digit smallZ,
      Option.bind_eq_bind, Option.bind_some]
  · exact digit_ne_padding smallZ

theorem decodeChars?_three (smallX : x < 64) (smallY : y < 64) (smallZ : z < 64)
    (smallW : w < 64) (decoded : decodeChars? text = some bytes) :
    decodeChars? (digit x :: digit y :: digit z :: digit w :: text) =
      some (UInt8.ofNat ((x * 262144 + y * 4096 + z * 64 + w) / 65536) ::
        UInt8.ofNat ((x * 262144 + y * 4096 + z * 64 + w) / 256 % 256) ::
        UInt8.ofNat ((x * 262144 + y * 4096 + z * 64 + w) % 256) :: bytes) := by
  rw [decodeChars?]
  · simp only [value?_digit smallX, value?_digit smallY, value?_digit smallZ,
      value?_digit smallW, decoded, Option.bind_eq_bind, Option.bind_some]
  · exact fun _ padding _ => digit_ne_padding smallW padding
  · exact fun padding _ => digit_ne_padding smallW padding

theorem decodeChars?_encodeChars (bytes : Bytes) :
    decodeChars? (encodeChars bytes) = some bytes := by
  fun_induction encodeChars bytes with
  | case1 => rfl
  | case2 a bits =>
    have bound : bits < 256 := a.toNat_lt
    have whole : bits / 4 * 64 + bits % 4 * 16 = bits * 16 := by omega
    rw [decodeChars?_one (by omega) (by omega), whole, if_pos (by omega),
      Nat.mul_div_cancel _ (by omega), UInt8.ofNat_toNat]
  | case3 a b bits =>
    have first := a.toNat_lt
    have second := b.toNat_lt
    have high : bits / 256 = a.toNat := by omega
    have low : bits % 256 = b.toNat := by omega
    have whole : bits / 1024 * 4096 + bits / 16 % 64 * 64 + bits % 16 * 4 = bits * 4 := by omega
    rw [decodeChars?_two (by omega) (by omega) (by omega), whole, if_pos (by omega),
      show bits * 4 / 1024 = bits / 256 by omega, Nat.mul_div_cancel _ (by omega), high, low,
      UInt8.ofNat_toNat, UInt8.ofNat_toNat]
  | case4 a b c rest bits ih =>
    have first := a.toNat_lt
    have second := b.toNat_lt
    have third := c.toNat_lt
    have high : bits / 65536 = a.toNat := by omega
    have middle : bits / 256 % 256 = b.toNat := by omega
    have low : bits % 256 = c.toNat := by omega
    have whole : bits / 262144 * 262144 + bits / 4096 % 64 * 4096 + bits / 64 % 64 * 64 +
        bits % 64 = bits := by omega
    rw [decodeChars?_three (by omega) (by omega) (by omega) (by omega) ih, whole, high, middle,
      low, UInt8.ofNat_toNat, UInt8.ofNat_toNat, UInt8.ofNat_toNat]

/-- The lowest bits of a number, the highest of them first. -/
def bits : (width : Nat) → (value : Nat) → List Bool
  | 0, _ => []
  | width + 1, value => value.testBit width :: bits width value

@[simp] theorem length_bits (width value : Nat) : (bits width value).length = width := by
  induction width with
  | zero => rfl
  | succ width ih => exact congrArg (· + 1) ih

theorem bits_eq_iff :
    bits width left = bits width right ↔
      ∀ place < width, left.testBit place = right.testBit place := by
  induction width with
  | zero => simp [bits]
  | succ width ih =>
    rw [bits, bits, List.cons.injEq, ih]
    constructor
    · rintro ⟨highest, lower⟩ place bound
      rcases Nat.lt_succ_iff_lt_or_eq.1 bound with below | rfl
      · exact lower place below
      · exact highest
    · intro same
      exact ⟨same width (by omega), fun place bound => same place (by omega)⟩

theorem bits_inj (smallLeft : left < 2 ^ width) (smallRight : right < 2 ^ width) :
    bits width left = bits width right ↔ left = right := by
  refine ⟨fun same => ?_, congrArg _⟩
  apply Nat.eq_of_testBit_eq
  intro place
  rcases Nat.lt_or_ge place width with below | beyond
  · exact bits_eq_iff.1 same place below
  · have power : 2 ^ width ≤ 2 ^ place := Nat.pow_le_pow_right (by decide) beyond
    rw [Nat.testBit_lt_two_pow (by omega), Nat.testBit_lt_two_pow (by omega)]

theorem bits_append (lower : Nat) (small : right < 2 ^ lower) :
    bits width left ++ bits lower right = bits (width + lower) (2 ^ lower * left + right) := by
  induction width with
  | zero =>
    rw [Nat.zero_add]
    apply bits_eq_iff.2
    intro place bound
    rw [Nat.testBit_two_pow_mul_add _ small, if_pos bound]
  | succ width ih =>
    rw [Nat.succ_add, bits, List.cons_append, ih, bits]
    congr 1
    rw [Nat.testBit_two_pow_mul_add _ small, if_neg (by omega), Nat.add_sub_cancel]

theorem bits_zero (width : Nat) : bits width 0 = List.replicate width false := by
  induction width with
  | zero => rfl
  | succ width ih => rw [bits, ih, Nat.zero_testBit, List.replicate_succ]

theorem length_flatMap_bits {α : Type} (number : α → Nat) (values : List α) :
    (values.flatMap (fun value => bits width (number value))).length = width * values.length := by
  induction values with
  | nil => rfl
  | cons value values ih =>
    rw [List.flatMap_cons, List.length_append, length_bits, ih, List.length_cons, Nat.mul_succ,
      Nat.add_comm]

/-! Digits that hold the bits of one byte, of two, and of three. -/

theorem bits_byte_iff (a : UInt8) (smallX : x < 64) (smallY : y < 64) :
    bits 6 x ++ bits 6 y = bits 8 a.toNat ++ List.replicate 4 false ↔
      x * 64 + y = a.toNat * 16 := by
  have first := a.toNat_lt
  rw [← bits_zero, bits_append 6 smallY, bits_append 4 (by decide),
    bits_inj (by omega) (by omega)]
  omega

theorem bits_pair_iff (a b : UInt8) (smallX : x < 64) (smallY : y < 64) (smallZ : z < 64) :
    bits 6 x ++ (bits 6 y ++ bits 6 z) =
        bits 8 a.toNat ++ (bits 8 b.toNat ++ List.replicate 2 false) ↔
      x * 4096 + y * 64 + z = a.toNat * 1024 + b.toNat * 4 := by
  have first := a.toNat_lt
  have second := b.toNat_lt
  rw [← bits_zero, bits_append 6 smallZ, bits_append 12 (by omega), bits_append 2 (by decide),
    bits_append 10 (by omega), bits_inj (by omega) (by omega)]
  omega

theorem bits_triple_iff (a b c : UInt8) (smallX : x < 64) (smallY : y < 64) (smallZ : z < 64)
    (smallW : w < 64) :
    bits 6 x ++ (bits 6 y ++ (bits 6 z ++ bits 6 w)) =
        bits 8 a.toNat ++ (bits 8 b.toNat ++ bits 8 c.toNat) ↔
      x * 262144 + y * 4096 + z * 64 + w = a.toNat * 65536 + b.toNat * 256 + c.toNat := by
  have first := a.toNat_lt
  have second := b.toNat_lt
  have third := c.toNat_lt
  rw [bits_append 6 smallW, bits_append 12 (by omega), bits_append 18 (by omega),
    bits_append 8 third, bits_append 16 (by omega), bits_inj (by omega) (by omega)]
  omega

/-- Digits and padding in fours. The digits hold the bits of the bytes, and two zeros for each
sign of padding. -/
structure Spells (text : List Char) (bytes : Bytes) : Prop where
  fours : text.length % 4 = 0
  digits : ∃ (values : List Nat) (padding : Nat),
    text = values.map digit ++ List.replicate padding '=' ∧
    (∀ value ∈ values, value < 64) ∧ padding ≤ 2 ∧
    values.flatMap (bits 6) =
      bytes.flatMap (fun byte => bits 8 byte.toNat) ++ List.replicate (2 * padding) false

theorem spells_nil : Spells [] [] := ⟨rfl, [], 0, rfl, nofun, by decide, rfl⟩

theorem spells_byte {a : UInt8} (smallX : x < 64) (smallY : y < 64)
    (same : x * 64 + y = a.toNat * 16) : Spells [digit x, digit y, '=', '='] [a] where
  fours := by simp
  digits := by
    refine ⟨[x, y], 2, rfl, by simp [smallX, smallY], by decide, ?_⟩
    simpa using (bits_byte_iff a smallX smallY).2 same

theorem spells_pair {a b : UInt8} (smallX : x < 64) (smallY : y < 64) (smallZ : z < 64)
    (same : x * 4096 + y * 64 + z = a.toNat * 1024 + b.toNat * 4) :
    Spells [digit x, digit y, digit z, '='] [a, b] where
  fours := by simp
  digits := by
    refine ⟨[x, y, z], 1, rfl, by simp [smallX, smallY, smallZ], by decide, ?_⟩
    simpa using (bits_pair_iff a b smallX smallY smallZ).2 same

theorem Spells.cons {a b c : UInt8} (smallX : x < 64) (smallY : y < 64) (smallZ : z < 64)
    (smallW : w < 64)
    (same : x * 262144 + y * 4096 + z * 64 + w = a.toNat * 65536 + b.toNat * 256 + c.toNat)
    (others : Spells text bytes) :
    Spells (digit x :: digit y :: digit z :: digit w :: text) (a :: b :: c :: bytes) where
  fours := by
    have fours := others.fours
    simp only [List.length_cons]
    omega
  digits := by
    obtain ⟨values, padding, rfl, small, few, held⟩ := others.digits
    refine ⟨x :: y :: z :: w :: values, padding, rfl, ?_, few, ?_⟩
    · simpa [smallX, smallY, smallZ, smallW] using small
    · have front := (bits_triple_iff a b c smallX smallY smallZ smallW).2 same
      simp only [List.flatMap_cons, held, ← List.append_assoc] at front ⊢
      rw [front]

theorem spells_of_decodeChars? (decoded : decodeChars? text = some bytes) :
    Spells text bytes := by
  fun_induction decodeChars? text generalizing bytes with
  | case1 =>
    cases decoded
    exact spells_nil
  | case2 a b =>
    simp only [Option.bind_eq_bind, Option.bind_eq_some_iff] at decoded
    obtain ⟨x, first, y, second, found⟩ := decoded
    obtain ⟨smallX, rfl⟩ := digit_of_value? first
    obtain ⟨smallY, rfl⟩ := digit_of_value? second
    split at found
    · rename_i zeros
      cases found
      apply spells_byte smallX smallY
      simp only [UInt8.toNat_ofNat']
      omega
    · cases found
  | case3 a b c unpadded =>
    simp only [Option.bind_eq_bind, Option.bind_eq_some_iff] at decoded
    obtain ⟨x, first, y, second, z, third, found⟩ := decoded
    obtain ⟨smallX, rfl⟩ := digit_of_value? first
    obtain ⟨smallY, rfl⟩ := digit_of_value? second
    obtain ⟨smallZ, rfl⟩ := digit_of_value? third
    split at found
    · rename_i zeros
      cases found
      apply spells_pair smallX smallY smallZ
      simp only [UInt8.toNat_ofNat']
      omega
    · cases found
  | case4 a b c d rest unpadded unpadded' ih =>
    simp only [Option.bind_eq_bind, Option.bind_eq_some_iff] at decoded
    obtain ⟨x, first, y, second, z, third, w, fourth, others, decoded, found⟩ := decoded
    obtain ⟨smallX, rfl⟩ := digit_of_value? first
    obtain ⟨smallY, rfl⟩ := digit_of_value? second
    obtain ⟨smallZ, rfl⟩ := digit_of_value? third
    obtain ⟨smallW, rfl⟩ := digit_of_value? fourth
    cases found
    apply (ih decoded).cons smallX smallY smallZ smallW
    simp only [UInt8.toNat_ofNat']
    omega
  | case5 => cases decoded

theorem Spells.exists_digits (spelled : Spells text bytes) :
    ∃ (values : List Nat) (padding : Nat),
      text = values.map digit ++ List.replicate padding '=' ∧
      (∀ value ∈ values, value < 64) ∧ padding ≤ 2 ∧
      6 * values.length = 8 * bytes.length + 2 * padding ∧
      values.flatMap (bits 6) =
        bytes.flatMap (fun byte => bits 8 byte.toNat) ++ List.replicate (2 * padding) false := by
  obtain ⟨values, padding, same, small, few, held⟩ := spelled.digits
  refine ⟨values, padding, same, small, few, ?_, held⟩
  have digits : (values.flatMap (bits 6)).length = 6 * values.length :=
    length_flatMap_bits id values
  rw [← digits, held, List.length_append, length_flatMap_bits, List.length_replicate]

theorem Spells.eq_encodeChars (spelled : Spells text bytes) : text = encodeChars bytes := by
  fun_induction encodeChars bytes generalizing text with
  | case1 =>
    obtain ⟨values, padding, rfl, -, few, lengths, -⟩ := spelled.exists_digits
    rw [List.length_nil] at lengths
    obtain ⟨rfl, none⟩ : padding = 0 ∧ values.length = 0 := by omega
    rw [List.length_eq_zero_iff.1 none]
    rfl
  | case2 a =>
    obtain ⟨values, padding, rfl, small, few, lengths, held⟩ := spelled.exists_digits
    rw [List.length_singleton] at lengths
    obtain ⟨rfl, two⟩ : padding = 2 ∧ values.length = 2 := by omega
    obtain ⟨x, y, rfl⟩ := List.length_eq_two.1 two
    have smallX := small x (by simp)
    have smallY := small y (by simp)
    have same := (bits_byte_iff a smallX smallY).1 (by simpa using held)
    rw [show a.toNat / 4 = x by omega, show a.toNat % 4 * 16 = y by omega]
    rfl
  | case3 a b =>
    obtain ⟨values, padding, rfl, small, few, lengths, held⟩ := spelled.exists_digits
    rw [List.length_cons, List.length_singleton] at lengths
    obtain ⟨rfl, three⟩ : padding = 1 ∧ values.length = 3 := by omega
    obtain ⟨x, y, z, rfl⟩ := List.length_eq_three.1 three
    have smallX := small x (by simp)
    have smallY := small y (by simp)
    have smallZ := small z (by simp)
    have same := (bits_pair_iff a b smallX smallY smallZ).1 (by simpa using held)
    have high : (a.toNat * 256 + b.toNat) / 1024 = x := by omega
    have middle : (a.toNat * 256 + b.toNat) / 16 % 64 = y := by omega
    have low : (a.toNat * 256 + b.toNat) % 16 * 4 = z := by omega
    rw [high, middle, low]
    rfl
  | case4 a b c rest number =>
    rename_i ih
    obtain ⟨values, padding, rfl, small, few, lengths, held⟩ := spelled.exists_digits
    have four : 4 ≤ values.length := by
      simp only [List.length_cons] at lengths
      omega
    obtain ⟨x, y, z, w, others, rfl⟩ : ∃ x y z w others, values = x :: y :: z :: w :: others := by
      match values, four with
      | x :: y :: z :: w :: others, _ => exact ⟨x, y, z, w, others, rfl⟩
    have smallX := small x (by simp)
    have smallY := small y (by simp)
    have smallZ := small z (by simp)
    have smallW := small w (by simp)
    -- The bits of four digits are as many as those of three bytes.
    have split :
        (bits 6 x ++ (bits 6 y ++ (bits 6 z ++ bits 6 w))) ++ others.flatMap (bits 6) =
          (bits 8 a.toNat ++ (bits 8 b.toNat ++ bits 8 c.toNat)) ++
            (rest.flatMap (fun byte => bits 8 byte.toNat) ++
              List.replicate (2 * padding) false) := by
      simpa only [List.flatMap_cons, List.append_assoc] using held
    obtain ⟨front, back⟩ := List.append_inj split (by simp)
    have same := (bits_triple_iff a b c smallX smallY smallZ smallW).1 front
    have kept : Spells (others.map digit ++ List.replicate padding '=') rest := by
      refine ⟨?_, others, padding, rfl, fun value member => small value (by simp [member]), few,
        back⟩
      have fours := spelled.fours
      simp only [List.map_cons, List.cons_append, List.length_cons] at fours
      omega
    have whole : number = x * 262144 + y * 4096 + z * 64 + w := same.symm
    rw [← ih kept, show number / 262144 = x by omega, show number / 4096 % 64 = y by omega,
      show number / 64 % 64 = z by omega, show number % 64 = w by omega]
    rfl

theorem decodeChars?_eq_some_iff : decodeChars? text = some bytes ↔ text = encodeChars bytes := by
  constructor
  · intro decoded
    exact (spells_of_decodeChars? decoded).eq_encodeChars
  · rintro rfl
    exact decodeChars?_encodeChars bytes

theorem spells_iff : Spells text bytes ↔ text = encodeChars bytes := by
  constructor
  · exact Spells.eq_encodeChars
  · rintro rfl
    exact spells_of_decodeChars? (decodeChars?_encodeChars bytes)

theorem eq_encode_iff {text : String} : text = encode bytes ↔ text.toList = encodeChars bytes := by
  rw [encode, ← String.toList_inj, String.toList_ofList]

end Base64

theorem Operation.exists_upload (session : Session) (account : String) (data : Utf8.Bytes)
    (contentType : String) :
    ∃ upload fetch, (uploadBlob session account data contentType).invocations = [upload, fetch] ∧
      upload.method = .blobUpload ∧
      upload.arguments.find? "create" = some (.ofMembers [("0", .ofMembers
        [("data", .arr [.ofMembers [("data:asBase64", .str (Base64.encode data))]]),
          ("type", .str contentType)])]) := by
  refine ⟨_, _, rfl, rfl, ?_⟩
  exact (Dict.find?_ofList (by simp)).2 (.tail _ (.head _))

/-- Base64 is decoded if and only if it is the text that spells the bytes, digit by digit. So
what an upload sends inside a request is the data of the caller, and the same text brings the
data back. -/
theorem inline_data_kept :
    (∀ text bytes,
      (Base64.decode? text = some bytes ↔ text = Base64.encode bytes) ∧
      (text = Base64.encode bytes ↔ Base64.Spells text.toList bytes)) ∧
    ∀ session account data contentType, ∃ upload fetch text,
      (Operation.uploadBlob session account data contentType).invocations = [upload, fetch] ∧
      upload.method = .blobUpload ∧
      upload.arguments.find? "create" = some (.ofMembers [("0", .ofMembers
        [("data", .arr [.ofMembers [("data:asBase64", .str text)]]),
          ("type", .str contentType)])]) ∧
      Base64.decode? text = some data ∧
      ∀ blob : Blob, { blob with asText := none, asBase64 := some text }.bytes? =
        some (some data) := by
  have decoded (text : String) (bytes : Utf8.Bytes) :
      Base64.decode? text = some bytes ↔ text = Base64.encode bytes := by
    rw [Base64.decode?, Base64.decodeChars?_eq_some_iff, Base64.eq_encode_iff]
  constructor
  · intro text bytes
    refine ⟨decoded text bytes, ?_⟩
    rw [Base64.eq_encode_iff, Base64.spells_iff]
  · intro session account data contentType
    obtain ⟨upload, fetch, sent, method, create⟩ :=
      Operation.exists_upload session account data contentType
    have back := (decoded (Base64.encode data) data).2 rfl
    exact ⟨upload, fetch, Base64.encode data, sent, method, create, back,
      fun _ => congrArg some back⟩

/-- Sixteen bits leave two zeros in the last digit. Another digit there, no padding, and padding
by one more sign are refused. -/
theorem inline_data_kept_with_zeros :
    Base64.decode? "+/8=" = some [251, 255] ∧ Base64.Spells "+/8=".toList [251, 255] ∧
    (∀ text ∈ ["+/9=", "+/8", "+/8=\n", "+/8=="], Base64.decode? text ≠ some [251, 255]) := by
  obtain ⟨decoded, spelled⟩ := inline_data_kept.1 "+/8=" [251, 255]
  have same : "+/8=" = Base64.encode [251, 255] := by decide +kernel
  refine ⟨decoded.2 same, spelled.1 same, fun text member => ?_⟩
  rw [Ne, (inline_data_kept.1 text [251, 255]).1, ← same]
  rintro rfl
  revert member
  decide

end Jmap
