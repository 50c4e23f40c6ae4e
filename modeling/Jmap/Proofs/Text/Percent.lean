import Jmap.Proofs.Text.Utf8
import Jmap.Text.Percent

/-!
Percent encoding loses nothing: where no percent sign stands for itself, decoding gives the bytes
of the text back. What is written is made of unreserved characters and of encoded bytes.
-/

namespace Jmap.Percent

open Utf8 (Bytes)

theorem digit?_upperDigit {value : Nat} (small : value < 16) :
    digit? (upperDigit value) = some value := by
  rcases value with _ | _ | _ | _ | _ | _ | _ | _ | _ | _ | _ | _ | _ | _ | _ | _ | value
  all_goals first | rfl | omega

theorem decode_triple (byte : UInt8) (rest : List Char) :
    decode (encodeByte byte ++ rest) = byte :: decode rest := by
  have bound := byte.toNat_lt
  have high : digit? (upperDigit (byte.toNat / 16)) = some (byte.toNat / 16) :=
    digit?_upperDigit (by omega)
  have low : digit? (upperDigit (byte.toNat % 16)) = some (byte.toNat % 16) :=
    digit?_upperDigit (by omega)
  have whole : byte.toNat / 16 * 16 + byte.toNat % 16 = byte.toNat := by omega
  simp only [encodeByte, List.cons_append, List.nil_append, decode, high, low, whole,
    UInt8.ofNat_toNat]

theorem decode_bytes (bytes : Bytes) (rest : List Char) :
    decode (bytes.flatMap encodeByte ++ rest) = bytes ++ decode rest := by
  induction bytes with
  | nil => rfl
  | cons byte bytes ih =>
    rw [List.flatMap_cons, List.append_assoc, decode_triple, ih, List.cons_append]

theorem decode_cons {char : Char} (unmarked : char ≠ '%') (rest : List Char) :
    decode (char :: rest) = Utf8.encode (String.singleton char) ++ decode rest := by
  match rest with
  | [] => simp [decode]
  | [next] =>
    simp [decode, Utf8.encode_eq]
  | high :: low :: rest =>
    rw [decode]
    intro x y h
    exact absurd h unmarked

theorem decode_encodeChar (char : Char) (rest : List Char) :
    decode (encodeChar char ++ rest) = Utf8.encode (String.singleton char) ++ decode rest :=
  decode_bytes _ rest

theorem decode_encode {plain : Char → Bool} (marked : plain '%' = false) (text : List Char) :
    decode (encode plain text) = Utf8.encode (String.ofList text) := by
  induction text with
  | nil => simp [encode, decode, Utf8.encode_eq]
  | cons char text ih =>
    have split : encode plain (char :: text) =
        (if plain char then [char] else encodeChar char) ++ encode plain text := rfl
    have bytes : Utf8.encode (String.ofList (char :: text)) =
        Utf8.encode (String.singleton char) ++ Utf8.encode (String.ofList text) := by
      simp [Utf8.encode_eq]
    rw [split, bytes, ← ih]
    split
    · rename_i kept
      exact decode_cons (fun same => by rw [same, marked] at kept; cases kept) _
    · exact decode_encodeChar char _

def Unreserved (char : Char) : Prop :=
  ('A' ≤ char ∧ char ≤ 'Z') ∨ ('a' ≤ char ∧ char ≤ 'z') ∨ ('0' ≤ char ∧ char ≤ '9') ∨
    char ∈ ['-', '.', '_', '~']

instance (char : Char) : Decidable (Unreserved char) :=
  inferInstanceAs (Decidable (_ ∨ _ ∨ _ ∨ _))

def UpperHex (char : Char) : Prop := ('0' ≤ char ∧ char ≤ '9') ∨ ('A' ≤ char ∧ char ≤ 'F')

instance (char : Char) : Decidable (UpperHex char) := inferInstanceAs (Decidable (_ ∨ _))

inductive Escaped : List Char → Prop
  | nil : Escaped []
  | plain {char : Char} {rest : List Char} (unreserved : Unreserved char)
      (others : Escaped rest) : Escaped (char :: rest)
  | byte {high low : Char} {rest : List Char} (highDigit : UpperHex high)
      (lowDigit : UpperHex low) (others : Escaped rest) : Escaped ('%' :: high :: low :: rest)

theorem unreserved_of_isUnreserved {char : Char} (kept : isUnreserved char = true) :
    Unreserved char := by
  have kept : (((((char.isUpper || char.isLower) || char.isDigit) || char == '-') || char == '.') ||
      char == '_' || char == '~') = true := kept
  simp only [Bool.or_eq_true, beq_iff_eq] at kept
  rcases kept with (((((upper | lower) | digit) | rfl) | rfl) | rfl) | rfl
  · exact .inl (of_decide_eq_true upper)
  · exact .inr (.inl ((Bool.and_eq_true_iff.1 lower).imp of_decide_eq_true of_decide_eq_true))
  · exact .inr (.inr (.inl
      ((Bool.and_eq_true_iff.1 digit).imp of_decide_eq_true of_decide_eq_true)))
  all_goals exact .inr (.inr (.inr (by decide)))

theorem UpperHex.unreserved {char : Char} (digit : UpperHex char) : Unreserved char := by
  rcases digit with number | letter
  · exact .inr (.inr (.inl number))
  · exact .inl ⟨letter.1, Char.le_trans letter.2 (by decide)⟩

theorem upperHex_upperDigit {value : Nat} (small : value < 16) : UpperHex (upperDigit value) := by
  rcases value with _ | _ | _ | _ | _ | _ | _ | _ | _ | _ | _ | _ | _ | _ | _ | _ | value
  all_goals first | decide | omega

theorem Escaped.append {front back : List Char} (first : Escaped front) (second : Escaped back) :
    Escaped (front ++ back) := by
  induction first with
  | nil => exact second
  | plain unreserved _ ih => exact .plain unreserved ih
  | byte high low _ ih => exact .byte high low ih

theorem escaped_bytes (bytes : Bytes) : Escaped (bytes.flatMap encodeByte) := by
  induction bytes with
  | nil => exact .nil
  | cons byte bytes ih =>
    have bound := byte.toNat_lt
    exact .byte (upperHex_upperDigit (by omega)) (upperHex_upperDigit (by omega)) ih

theorem escaped_encode (text : List Char) : Escaped (encode isUnreserved text) := by
  induction text with
  | nil => exact .nil
  | cons char text ih =>
    rw [encode, List.flatMap_cons]
    refine Escaped.append ?_ ih
    split
    · rename_i kept
      exact .plain (unreserved_of_isUnreserved kept) .nil
    · exact escaped_bytes _

theorem Escaped.not_mem {text : List Char} {char : Char} (escaped : Escaped text)
    (reserved : ¬Unreserved char) (unmarked : char ≠ '%') : char ∉ text := by
  induction escaped with
  | nil => nofun
  | plain unreserved _ ih =>
    rintro (_ | ⟨_, member⟩)
    · exact reserved unreserved
    · exact ih member
  | byte high low _ ih =>
    rintro (_ | ⟨_, _ | ⟨_, _ | ⟨_, member⟩⟩⟩)
    · exact unmarked rfl
    · exact reserved high.unreserved
    · exact reserved low.unreserved
    · exact ih member

theorem Escaped.mem {text : List Char} {char : Char} (escaped : Escaped text)
    (member : char ∈ text) : Unreserved char ∨ char = '%' := by
  refine Decidable.byContradiction (fun neither => ?_)
  obtain ⟨reserved, unmarked⟩ := not_or.1 neither
  exact escaped.not_mem reserved unmarked member

theorem bounds_of_between {low char high : Char} (range : low ≤ char ∧ char ≤ high)
    (least : 0x20 < low.toNat) (most : high.toNat < 0x7F) :
    0x20 < char.toNat ∧ char.toNat < 0x7F :=
  ⟨Nat.lt_of_lt_of_le least range.1, Nat.lt_of_le_of_lt range.2 most⟩

theorem Unreserved.bounds {char : Char} (unreserved : Unreserved char) :
    0x20 < char.toNat ∧ char.toNat < 0x7F := by
  rcases unreserved with range | range | range | mark
  · exact bounds_of_between range (by decide) (by decide)
  · exact bounds_of_between range (by decide) (by decide)
  · exact bounds_of_between range (by decide) (by decide)
  · simp only [List.mem_cons, List.not_mem_nil, or_false] at mark
    rcases mark with rfl | rfl | rfl | rfl
    all_goals decide

theorem encode_of_plain {plain : Char → Bool} {text : List Char}
    (kept : ∀ char ∈ text, plain char = true) : encode plain text = text := by
  induction text with
  | nil => rfl
  | cons char text ih =>
    obtain ⟨first, others⟩ := List.forall_mem_cons.1 kept
    rw [encode, List.flatMap_cons, if_pos first]
    exact congrArg (char :: ·) (ih others)

theorem encode_append (plain : Char → Bool) (front back : List Char) :
    encode plain (front ++ back) = encode plain front ++ encode plain back :=
  List.flatMap_append

theorem one_lt_length_encodeChar (char : Char) : 1 < (encodeChar char).length := by
  have bytes : Utf8.encode (String.singleton char) ≠ [] := by
    simp [Utf8.encode_eq, String.utf8EncodeChar_ne_nil]
  obtain ⟨byte, others, eq⟩ := List.exists_cons_of_ne_nil bytes
  rw [encodeChar, eq, List.flatMap_cons, List.length_append]
  exact Nat.lt_of_lt_of_le (by decide : 1 < 3) (Nat.le_add_right _ _)

theorem length_le_length_encode (plain : Char → Bool) (text : List Char) :
    text.length ≤ (encode plain text).length := by
  induction text with
  | nil => exact Nat.le_refl 0
  | cons char text ih =>
    have longer := one_lt_length_encodeChar char
    rw [encode, List.flatMap_cons, List.length_append, List.length_cons, Nat.add_comm]
    refine Nat.add_le_add ?_ ih
    split
    · exact Nat.le_refl 1
    · omega

/-- What is encoded gets longer, so a text that stays is plain. -/
theorem plain_of_encode_eq {plain : Char → Bool} {text : List Char}
    (same : encode plain text = text) : ∀ char ∈ text, plain char = true := by
  induction text with
  | nil => nofun
  | cons char text ih =>
    have rest := length_le_length_encode plain text
    rw [encode, List.flatMap_cons] at same
    by_cases kept : plain char = true
    · rw [if_pos kept] at same
      exact List.forall_mem_cons.2 ⟨kept, ih (List.cons.inj same).2⟩
    · have longer := one_lt_length_encodeChar char
      have lengths := congrArg List.length same
      rw [if_neg kept, List.length_append, List.length_cons] at lengths
      rw [encode] at rest
      omega

theorem not_mem_encode {plain : Char → Bool} {text : List Char} {char : Char}
    (reserved : ¬Unreserved char) (unmarked : char ≠ '%') (absent : char ∉ text) :
    char ∉ encode plain text := by
  intro member
  obtain ⟨source, present, member⟩ := List.mem_flatMap.1 member
  split at member
  · exact absent (List.mem_singleton.1 member ▸ present)
  · exact (escaped_bytes _).not_mem reserved unmarked member

end Jmap.Percent
