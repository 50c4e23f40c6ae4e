import Jmap.Json.Printer
import Jmap.Proofs.Json.Wire
import Jmap.Proofs.Text.Utf8

/-!
The text of a value reads as the outline of that value, whatever its strings hold, as long
as its numbers are integers and it nests no deeper than a reader can keep.
-/

namespace Jmap.Json

mutual

def Integral : Json → Prop
  | .null | .bool _ | .str _ => True
  | .int value => -9223372036854775808 ≤ value ∧ value < 18446744073709551616
  | .float _ => False
  | .arr items => IntegralItems items
  | .obj members => IntegralMembers members

def IntegralItems : List Json → Prop
  | [] => True
  | item :: items => Integral item ∧ IntegralItems items

def IntegralMembers : List (String × Json) → Prop
  | [] => True
  | (_, value) :: members => Integral value ∧ IntegralMembers members

end

mutual

def depth : Json → Nat
  | .null | .bool _ | .int _ | .float _ | .str _ => 0
  | .arr items => depthItems items + 1
  | .obj members => depthMembers members + 1

def depthItems : List Json → Nat
  | [] => 0
  | item :: items => max (depth item) (depthItems items)

def depthMembers : List (String × Json) → Nat
  | [] => 0
  | (_, value) :: members => max (depth value) (depthMembers members)

end

variable {items : List Json} {members : List (String × Json)}

theorem integralItems_iff : IntegralItems items ↔ ∀ item ∈ items, item.Integral := by
  induction items with
  | nil => simp [IntegralItems]
  | cons item items ih => rw [IntegralItems, ih, List.forall_mem_cons]

theorem integralMembers_iff : IntegralMembers members ↔ ∀ member ∈ members, member.2.Integral := by
  induction members with
  | nil => simp [IntegralMembers]
  | cons member members ih => rw [IntegralMembers, ih, List.forall_mem_cons]

theorem depthItems_le_iff {bound : Nat} :
    depthItems items ≤ bound ↔ ∀ item ∈ items, item.depth ≤ bound := by
  induction items with
  | nil => simp [depthItems]
  | cons item items ih => rw [depthItems, Nat.max_le, ih, List.forall_mem_cons]

theorem depthMembers_le_iff {bound : Nat} :
    depthMembers members ≤ bound ↔ ∀ member ∈ members, member.2.depth ≤ bound := by
  induction members with
  | nil => simp [depthMembers]
  | cons member members ih => rw [depthMembers, Nat.max_le, ih, List.forall_mem_cons]

/-- A value that can be kept inside some containers, its numbers being integers. -/
def Fits (around : Nat) (value : Json) : Prop :=
  value.Integral ∧ value.depth + around ≤ Outline.deepest

namespace Fits

variable {around : Nat}

theorem str (text : String) (room : around ≤ Outline.deepest) : (Json.str text).Fits around :=
  ⟨trivial, by rwa [depth, Nat.zero_add]⟩

theorem arr (room : around < Outline.deepest) (each : ∀ item ∈ items, item.Fits (around + 1)) :
    (Json.arr items).Fits around := by
  have shallow : depthItems items ≤ Outline.deepest - (around + 1) :=
    depthItems_le_iff.2 (fun item member => Nat.le_sub_of_add_le (each item member).2)
  refine ⟨integralItems_iff.2 (fun item member => (each item member).1), ?_⟩
  rw [depth]
  omega

theorem obj (room : around < Outline.deepest)
    (each : ∀ member ∈ members, member.2.Fits (around + 1)) : (Json.obj members).Fits around := by
  have shallow : depthMembers members ≤ Outline.deepest - (around + 1) :=
    depthMembers_le_iff.2 (fun member present => Nat.le_sub_of_add_le (each member present).2)
  refine ⟨integralMembers_iff.2 (fun member present => (each member present).1), ?_⟩
  rw [depth]
  omega

end Fits

namespace Outline

def unitOf (char : Char) : StringUnit :=
  if char.toNat < 0x20 ∧ char ∉ ['\x08', '\x0c', '\n', '\r', '\t'] then .escaped char.toNat
  else .char char

theorem hexValue?_hexDigit (value : Nat) :
    hexValue? (some (hexDigit value)) = some (value % 16) := by
  have each : ∀ digit < 16, hexValue? (some (Nat.digitChar digit)) = some digit := by decide
  exact each (value % 16) (Nat.mod_lt value (by decide))

theorem scanUnits_escape (char : Char) (rest : Symbols) :
    scanUnits ((escape char).map some ++ rest) =
      (unitOf char :: (scanUnits rest).1, (scanUnits rest).2) := by
  by_cases special : char ∈ ['"', '\\', '\x08', '\x0c', '\n', '\r', '\t']
  · simp only [List.mem_cons, List.not_mem_nil, or_false] at special
    rcases special with rfl | rfl | rfl | rfl | rfl | rfl | rfl <;> rfl
  · simp only [List.mem_cons, List.not_mem_nil, or_false, not_or] at special
    obtain ⟨quote, backslash, backspace, feed, line, carriage, tab⟩ := special
    simp only [escape, quote, backslash, backspace, feed, line, carriage, tab, if_false]
    by_cases control : char.toNat < 0x20
    · have code : (char.toNat / 16) % 16 * 16 + char.toNat % 16 = char.toNat := by omega
      simp [unitOf, control, backspace, feed, line, carriage, tab, scanUnits, hexValue?_hexDigit,
        show hexValue? (some '0') = some 0 from rfl, code]
    · simp [unitOf, control, scanUnits, backslash]

theorem scanUnits_quoted (text : List Char) (rest : Symbols) :
    scanUnits ((text.flatMap escape).map some ++ some '"' :: rest) =
      (text.map unitOf, .ok rest) := by
  induction text with
  | nil => rfl
  | cons char text ih =>
    rw [List.flatMap_cons, List.map_append, List.append_assoc, scanUnits_escape, ih, List.map_cons]

theorem charsOfUnits?_unitOf (char : Char) (units : List StringUnit) :
    charsOfUnits? (unitOf char :: units) = (charsOfUnits? units).map (char :: ·) := by
  by_cases control : char.toNat < 0x20 ∧ char ∉ ['\x08', '\x0c', '\n', '\r', '\t']
  · have low : isHighSurrogate char.toNat = false ∧ isLowSurrogate char.toNat = false := by
      simp only [isHighSurrogate, isLowSurrogate, Bool.and_eq_false_iff, decide_eq_false_iff_not]
      omega
    rw [unitOf, if_pos control]
    cases units with
    | nil => simp [charsOfUnits?, low]
    | cons unit units => cases unit <;> simp [charsOfUnits?, low]
  · rw [unitOf, if_neg control, charsOfUnits?]

theorem charsOfUnits?_map_unitOf (text : List Char) :
    charsOfUnits? (text.map unitOf) = some text := by
  induction text with
  | nil => rfl
  | cons char text ih => rw [List.map_cons, charsOfUnits?_unitOf, ih, Option.map_some]

theorem scanQuoted_quote (text : String) (rest : Symbols) :
    scanQuoted ((text.toList.flatMap escape ++ ['"']).map some ++ rest) =
      .closed (some text) rest := by
  have units := scanUnits_quoted text.toList rest
  rw [scanQuoted, List.map_append, List.append_assoc, List.map_singleton, List.singleton_append,
    units]
  simp only [charsOfUnits?_map_unitOf, Option.map_some, String.ofList_toList]

def Stops (rest : Symbols) : Prop :=
  ∀ symbol ∈ rest.head?,
    isDigit symbol = false ∧ symbol ≠ some '.' ∧ symbol ≠ some 'e' ∧ symbol ≠ some 'E'

variable {rest : Symbols}

theorem scanDigits_append (digits : List Char) (all : ∀ digit ∈ digits, digit.isDigit = true)
    (stops : Stops rest) :
    scanDigits (digits.map some ++ rest) =
      (digits.map (fun digit => digit.toNat - '0'.toNat), rest) := by
  induction digits with
  | nil =>
    cases rest with
    | nil => rfl
    | cons symbol rest =>
      obtain ⟨noDigit, -⟩ := stops symbol rfl
      cases symbol with
      | none => rfl
      | some char => simp [scanDigits, noDigit]
  | cons digit digits ih =>
    rw [List.forall_mem_cons] at all
    have own : isDigit (some digit) = true := by
      simpa [isDigit, Char.isDigit, Char.le_def] using all.1
    simp [scanDigits, own, ih all.2]

theorem natOfDigits_toDigits (number : Nat) :
    natOfDigits ((Nat.toDigits 10 number).map (fun digit => digit.toNat - '0'.toNat)) = number := by
  have digits : Nat.ofDigitChars 10 (Nat.toDigits 10 number) 0 = number :=
    Nat.ofDigitChars_ten_toDigits
  rw [Nat.ofDigitChars_eq_foldl] at digits
  simp only [natOfDigits, List.foldl_map, Nat.mul_comm _ 10]
  exact digits

theorem exists_toDigits_eq_cons {number : Nat} (positive : 0 < number) :
    ∃ digit others, Nat.toDigits 10 number = Nat.digitChar digit :: others ∧
      0 < digit ∧ digit < 10 := by
  induction number using Nat.strongRecOn with
  | _ number ih =>
    rw [Nat.toDigits_eq_if (by decide)]
    split
    · rename_i small
      exact ⟨number, [], rfl, positive, small⟩
    · rename_i large
      obtain ⟨digit, others, same, first⟩ := ih (number / 10) (by omega) (by omega)
      exact ⟨digit, others ++ [Nat.digitChar (number % 10)], by rw [same]; rfl, first⟩

theorem scanWhole_toDigits (number : Nat) (stops : Stops rest) :
    scanWhole ((Nat.toDigits 10 number).map some ++ rest) =
      .ok ((Nat.toDigits 10 number).map (fun digit => digit.toNat - '0'.toNat), rest) := by
  by_cases zero : number = 0
  · subst zero
    rw [Nat.toDigits_zero]
    cases rest with
    | nil => rfl
    | cons symbol rest =>
      obtain ⟨noDigit, -⟩ := stops symbol rfl
      simp [scanWhole, noDigit]
  · have scanned := scanDigits_append (Nat.toDigits 10 number)
      (fun digit => Nat.isDigit_of_mem_toDigits (by decide) (by decide)) stops
    obtain ⟨digit, others, same, positive, small⟩ :=
      exists_toDigits_eq_cons (Nat.pos_of_ne_zero zero)
    rw [same] at scanned ⊢
    simp only [List.map_cons, List.cons_append] at scanned ⊢
    rw [scanWhole, scanSomeDigits, scanned]
    simp [Nat.ne_of_gt positive]

theorem scanNumber_toDigits (negative : Bool) (number : Nat) (stops : Stops rest) :
    scanNumber negative ((Nat.toDigits 10 number).map some ++ rest) =
      .ok (⟨negative, (Nat.toDigits 10 number).map (fun digit => digit.toNat - '0'.toNat), [],
        none⟩, rest) := by
  have fraction : scanFraction rest = .ok ([], rest) := by
    cases rest with
    | nil => rfl
    | cons symbol rest =>
      obtain ⟨-, noPoint, -⟩ := stops symbol rfl
      rw [scanFraction]
      simpa using noPoint
  have exponent : scanExponent rest = .ok (none, rest) := by
    cases rest with
    | nil => rfl
    | cons symbol rest =>
      obtain ⟨-, -, small, large⟩ := stops symbol rfl
      rw [scanExponent]
      · simpa using small
      · simpa using large
  rw [scanNumber, scanWhole_toDigits number stops]
  simp only [bind, Except.bind, fraction, exponent]

theorem numberOutline_toDigits (negative : Bool) (number : Nat) (stops : Stops rest)
    (fits : if negative then 0 < number ∧ number ≤ 9223372036854775808
      else number < UInt64.size) :
    numberOutline negative ((Nat.toDigits 10 number).map some ++ rest) =
      (.int (if negative then -number else number), some rest) := by
  rw [numberOutline, scanNumber_toDigits negative number stops]
  simp only [NumberText.value?, natOfDigits_toDigits]
  rw [if_pos ⟨rfl, rfl, fits⟩]

theorem toList_toString_ofNat (number : Nat) :
    (toString (number : Int)).toList = Nat.toDigits 10 number := by
  rw [Int.toString_eq_repr, Int.repr_eq_if, if_pos (by omega), Int.toNat_natCast,
    Nat.toList_repr]

theorem toList_toString_negative {number : Nat} (positive : 0 < number) :
    (toString (-number : Int)).toList = '-' :: Nat.toDigits 10 number := by
  rw [Int.toString_eq_repr, Int.repr_eq_if, if_neg (by omega), Int.neg_neg,
    Int.toNat_natCast, String.toList_append, Nat.toList_repr]
  rfl

theorem skipBlanks_cons {symbol : Option Char} (visible : isBlank symbol = false) :
    skipBlanks (symbol :: rest) = symbol :: rest := by
  rw [skipBlanks, List.dropWhile_cons_of_neg (by simp [visible])]

theorem digitChar_opens : ∀ digit < 10,
    Nat.digitChar digit ∉ ['n', 't', 'f', '"', '-', '[', '\x7b', ']', '\x7d'] ∧
      isDigit (some (Nat.digitChar digit)) = true ∧
      isBlank (some (Nat.digitChar digit)) = false := by
  decide

theorem toDigits_opens (number : Nat) : ∃ digit others,
    Nat.toDigits 10 number = Nat.digitChar digit :: others ∧ digit < 10 := by
  by_cases zero : number = 0
  · subst zero
    exact ⟨0, [], rfl, by decide⟩
  · obtain ⟨digit, others, same, -, small⟩ := exists_toDigits_eq_cons (Nat.pos_of_ne_zero zero)
    exact ⟨digit, others, same, small⟩

theorem exists_chars_eq_cons (value : Json) (integral : value.Integral) :
    ∃ first others, chars value = first :: others ∧ isBlank (some first) = false ∧
      first ≠ ']' ∧ first ≠ '\x7d' := by
  cases value with
  | null => exact ⟨_, _, rfl, by decide⟩
  | bool value => cases value <;> exact ⟨_, _, rfl, by decide⟩
  | str text => exact ⟨_, _, rfl, by decide⟩
  | arr items => exact ⟨_, _, rfl, by decide⟩
  | obj members => exact ⟨_, _, rfl, by decide⟩
  | float value => cases integral
  | int value =>
    rw [chars]
    rcases Int.eq_nat_or_neg value with ⟨number, rfl | rfl⟩
    · obtain ⟨digit, others, same, small⟩ := toDigits_opens number
      obtain ⟨other, -, visible⟩ := digitChar_opens digit small
      rw [toList_toString_ofNat, same]
      exact ⟨_, _, rfl, visible, by simp_all⟩
    · by_cases zero : number = 0
      · subst zero
        exact ⟨'0', [], rfl, by decide⟩
      · rw [toList_toString_negative (Nat.pos_of_ne_zero zero)]
        exact ⟨_, _, rfl, by decide⟩

theorem scanValue_int (value : Int) (integral : (Json.int value).Integral) (fuel levels : Nat)
    (stops : Stops rest) :
    scanValue (fuel + 1) levels ((toString value).toList.map some ++ rest) =
      (.int value, some rest) := by
  obtain ⟨least, most⟩ := integral
  by_cases negative : value < 0
  · obtain ⟨number, rfl⟩ : ∃ number : Nat, value = -number := ⟨value.natAbs, by omega⟩
    have positive : 0 < number := by omega
    have outline := numberOutline_toDigits true number stops ⟨positive, by omega⟩
    rw [toList_toString_negative positive]
    exact outline
  · obtain ⟨number, rfl⟩ : ∃ number : Nat, value = number := ⟨value.natAbs, by omega⟩
    have outline := numberOutline_toDigits false number stops (by
      simp only [Bool.false_eq_true, if_false, UInt64.size]
      omega)
    obtain ⟨digit, others, same, small⟩ := toDigits_opens number
    obtain ⟨other, isDigit, -⟩ := digitChar_opens digit small
    rw [toList_toString_ofNat]
    rw [same] at outline ⊢
    simp only [List.map_cons, List.cons_append] at outline ⊢
    rw [scanValue, if_pos isDigit, outline]
    · rfl
    all_goals
      intro opens
      exact other (Option.some.inj opens ▸ by simp)

theorem scanWord_append (value : Outline) (letters : List Char) (rest : Symbols) :
    scanWord value letters (letters.map some ++ rest) = (value, some rest) := by
  induction letters with
  | nil => rfl
  | cons letter letters ih =>
    rw [List.map_cons, List.cons_append, scanWord, if_pos rfl, ih]

theorem stops_cons {char : Char} (other : char = ',' ∨ char = ']' ∨ char = '\x7d') :
    Stops (some char :: rest) := by
  intro symbol first
  cases first
  rcases other with rfl | rfl | rfl <;> decide

theorem exists_itemChars_eq_cons {item : Json} (items : List Json) (integral : item.Integral) :
    ∃ first others, itemChars (item :: items) = first :: others ∧
      isBlank (some first) = false ∧ first ≠ ']' := by
  obtain ⟨first, others, same, visible, noEnd, -⟩ := exists_chars_eq_cons item integral
  cases items with
  | nil => exact ⟨first, others, by rw [itemChars, same], visible, noEnd⟩
  | cons next items =>
    have joined : itemChars (item :: next :: items) =
        chars item ++ ',' :: itemChars (next :: items) := rfl
    exact ⟨first, _, by rw [joined, same]; rfl, visible, noEnd⟩

theorem exists_memberChars_eq_cons (member : String × Json) (members : List (String × Json)) :
    ∃ others, memberChars (member :: members) = '"' :: others := by
  obtain ⟨key, value⟩ := member
  cases members with
  | nil => exact ⟨_, rfl⟩
  | cons next members => exact ⟨_, rfl⟩

theorem scanValue_arr {first : Char} {others : Symbols} (visible : isBlank (some first) = false)
    (noEnd : first ≠ ']') (fuel levels : Nat) :
    scanValue (fuel + 1) levels (some '[' :: some first :: others) =
      (atDepth levels
        (.arr (scanItems fuel (levels - 1) (some first :: others)).1
          (scanItems fuel (levels - 1) (some first :: others)).2.1),
        (scanItems fuel (levels - 1) (some first :: others)).2.2) := by
  rw [scanValue, skipBlanks_cons visible]
  split
  · rename_i ends
    exact absurd (Option.some.inj (List.cons.inj ends).1) noEnd
  · rfl

theorem scanValue_obj (others : Symbols) (fuel levels : Nat) :
    scanValue (fuel + 1) levels (some '\x7b' :: some '"' :: others) =
      (atDepth levels
        (.obj (scanMembers fuel (levels - 1) (some '"' :: others)).1
          (scanMembers fuel (levels - 1) (some '"' :: others)).2.1),
        (scanMembers fuel (levels - 1) (some '"' :: others)).2.2) := rfl

variable {fuel levels : Nat} {value : Outline} {first : Char} {others after : Symbols}

theorem scanItems_last (noEnd : first ≠ ']')
    (scanned : scanValue fuel levels (some first :: others) = (value, some (some ']' :: rest))) :
    scanItems (fuel + 1) levels (some first :: others) = ([value], .closed, some rest) := by
  rw [scanItems, scanned]
  · rfl
  · simp
  · simpa using noEnd

theorem scanItems_next (noEnd : first ≠ ']') {second : Char}
    (visible : isBlank (some second) = false)
    (scanned : scanValue fuel levels (some first :: others) =
      (value, some (some ',' :: some second :: after))) :
    scanItems (fuel + 1) levels (some first :: others) =
      (value :: (scanItems fuel levels (some second :: after)).1,
        (scanItems fuel levels (some second :: after)).2) := by
  rw [scanItems, scanned]
  · simp only [skipBlanks_cons (show isBlank (some ',') = false by decide),
      skipBlanks_cons visible]
  · simp
  · simpa using noEnd

theorem scanMembers_last (key : String) (visible : isBlank (some first) = false)
    (scanned : scanValue fuel levels (some first :: others) = (value, some (some '\x7d' :: rest))) :
    scanMembers (fuel + 1) levels
      ((quote key).map some ++ some ':' :: some first :: others) =
      ([(some key, value)], .closed, some rest) := by
  rw [quote, List.map_cons, List.cons_append, scanMembers, scanQuoted_quote]
  simp only [skipBlanks_cons (show isBlank (some ':') = false by decide), skipBlanks_cons visible,
    scanned]
  rfl

theorem scanMembers_next (key : String) (visible : isBlank (some first) = false)
    (scanned : scanValue fuel levels (some first :: others) =
      (value, some (some ',' :: some '"' :: after))) :
    scanMembers (fuel + 1) levels
      ((quote key).map some ++ some ':' :: some first :: others) =
      ((some key, value) :: (scanMembers fuel levels (some '"' :: after)).1,
        (scanMembers fuel levels (some '"' :: after)).2) := by
  rw [quote, List.map_cons, List.cons_append, scanMembers, scanQuoted_quote]
  simp only [skipBlanks_cons (show isBlank (some ':') = false by decide), skipBlanks_cons visible,
    scanned]
  rfl

mutual

/-- Each value takes two steps for each of its characters at most: one that chooses among the
kinds of values, one that moves along a container. -/
theorem scanValue_chars : (value : Json) → value.Integral → (fuel levels : Nat) →
    (rest : Symbols) → 2 * (chars value).length ≤ fuel → value.depth ≤ levels → Stops rest →
      scanValue fuel levels ((chars value).map some ++ rest) = (whole .closed value, some rest)
  | value, integral, 0, _, _, enough, _, _ => by
    obtain ⟨first, others, same, -⟩ := exists_chars_eq_cons value integral
    rw [same] at enough
    simp at enough
  | .null, _, fuel + 1, _, rest, _, _, _ => scanWord_append .null ['u', 'l', 'l'] rest
  | .bool true, _, fuel + 1, _, rest, _, _, _ => scanWord_append (.bool true) ['r', 'u', 'e'] rest
  | .bool false, _, fuel + 1, _, rest, _, _, _ =>
    scanWord_append (.bool false) ['a', 'l', 's', 'e'] rest
  | .int value, integral, fuel + 1, levels, rest, _, _, stops =>
    scanValue_int value integral fuel levels stops
  | .str text, _, fuel + 1, levels, rest, _, _, _ => by
    rw [chars, quote, List.map_cons, List.cons_append, scanValue, quotedOutline,
      scanQuoted_quote, whole]
  | .arr [], _, fuel + 1, levels, rest, _, shallow, _ => by
    rw [depth] at shallow
    change (atDepth levels _, _) = _
    rw [atDepth, if_neg (by omega), whole, wholeItems]
    rfl
  | .arr (item :: items), integral, fuel + 1, levels, rest, enough, shallow, _ => by
    rw [depth] at shallow
    have scanned := scanItems_chars item items integral fuel (levels - 1) rest
      (by simp only [chars, List.length_cons, List.length_append] at enough; omega) (by omega)
    obtain ⟨first, others, same, visible, noEnd⟩ := exists_itemChars_eq_cons items integral.1
    rw [chars]
    simp only [List.map_cons, List.map_append, List.cons_append, List.append_assoc, List.map_nil,
      List.nil_append]
    rw [same] at scanned ⊢
    simp only [List.map_cons, List.cons_append] at scanned ⊢
    rw [scanValue_arr visible noEnd, scanned, atDepth, if_neg (by omega), whole]
  | .obj [], _, fuel + 1, levels, rest, _, shallow, _ => by
    rw [depth] at shallow
    change (atDepth levels _, _) = _
    rw [atDepth, if_neg (by omega), whole, wholeMembers]
    rfl
  | .obj (member :: members), integral, fuel + 1, levels, rest, enough, shallow, _ => by
    rw [depth] at shallow
    have scanned := scanMembers_chars member members integral fuel (levels - 1) rest
      (by simp only [chars, List.length_cons, List.length_append] at enough; omega) (by omega)
    obtain ⟨others, same⟩ := exists_memberChars_eq_cons member members
    rw [chars]
    simp only [List.map_cons, List.map_append, List.cons_append, List.append_assoc, List.map_nil,
      List.nil_append]
    rw [same] at scanned ⊢
    simp only [List.map_cons, List.cons_append] at scanned ⊢
    rw [scanValue_obj, scanned, atDepth, if_neg (by omega), whole]

theorem scanItems_chars : (item : Json) → (items : List Json) → IntegralItems (item :: items) →
    (fuel levels : Nat) → (rest : Symbols) →
      2 * (itemChars (item :: items)).length + 1 ≤ fuel → depthItems (item :: items) ≤ levels →
        scanItems fuel levels ((itemChars (item :: items)).map some ++ some ']' :: rest) =
          (wholeItems .closed (item :: items), .closed, some rest)
  | item, items, integral, 0, _, _, enough, _ => by simp at enough
  | item, [], integral, fuel + 1, levels, rest, enough, shallow => by
    rw [depthItems] at shallow
    obtain ⟨first, others, same, -, noEnd, -⟩ := exists_chars_eq_cons item integral.1
    have last : itemChars [item] = chars item := rfl
    rw [last] at enough ⊢
    have scanned := scanValue_chars item integral.1 fuel levels (some ']' :: rest) (by omega)
      (by omega) (stops_cons (.inr (.inl rfl)))
    rw [same] at scanned ⊢
    exact scanItems_last noEnd scanned
  | item, next :: items, integral, fuel + 1, levels, rest, enough, shallow => by
    rw [depthItems] at shallow
    obtain ⟨first, others, same, -, noEnd, -⟩ := exists_chars_eq_cons item integral.1
    obtain ⟨second, more, nextSame, visible, -⟩ := exists_itemChars_eq_cons items integral.2.1
    have joined : itemChars (item :: next :: items) =
        chars item ++ ',' :: itemChars (next :: items) := rfl
    rw [joined] at enough ⊢
    simp only [List.length_append, List.length_cons] at enough
    have scanned := scanValue_chars item integral.1 fuel levels
      (some ',' :: ((itemChars (next :: items)).map some ++ some ']' :: rest)) (by omega)
      (by omega) (stops_cons (.inl rfl))
    have scannedRest := scanItems_chars next items integral.2 fuel levels rest (by omega) (by omega)
    rw [List.map_append, List.map_cons, List.append_assoc, List.cons_append]
    rw [same, nextSame] at scanned ⊢
    rw [nextSame] at scannedRest
    simp only [List.map_cons, List.cons_append] at scanned scannedRest ⊢
    rw [scanItems_next noEnd visible scanned, scannedRest]
    rfl

theorem scanMembers_chars : (member : String × Json) → (members : List (String × Json)) →
    IntegralMembers (member :: members) → (fuel levels : Nat) → (rest : Symbols) →
      2 * (memberChars (member :: members)).length + 1 ≤ fuel →
        depthMembers (member :: members) ≤ levels →
          scanMembers fuel levels
            ((memberChars (member :: members)).map some ++ some '\x7d' :: rest) =
            (wholeMembers .closed (member :: members), .closed, some rest)
  | member, members, integral, 0, _, _, enough, _ => by simp at enough
  | (key, value), [], integral, fuel + 1, levels, rest, enough, shallow => by
    rw [depthMembers] at shallow
    obtain ⟨first, others, same, visible, -⟩ := exists_chars_eq_cons value integral.1
    have last : memberChars [(key, value)] = quote key ++ ':' :: chars value := rfl
    rw [last] at enough ⊢
    simp only [List.length_append, List.length_cons] at enough
    have scanned := scanValue_chars value integral.1 fuel levels (some '\x7d' :: rest) (by omega)
      (by omega) (stops_cons (.inr (.inr rfl)))
    rw [List.map_append, List.map_cons, List.append_assoc, List.cons_append]
    rw [same] at scanned ⊢
    exact scanMembers_last key visible scanned
  | (key, value), next :: members, integral, fuel + 1, levels, rest, enough, shallow => by
    rw [depthMembers] at shallow
    obtain ⟨first, others, same, visible, -⟩ := exists_chars_eq_cons value integral.1
    obtain ⟨more, nextSame⟩ := exists_memberChars_eq_cons next members
    have joined : memberChars ((key, value) :: next :: members) =
        quote key ++ ':' :: (chars value ++ ',' :: memberChars (next :: members)) := rfl
    rw [joined] at enough ⊢
    simp only [List.length_append, List.length_cons] at enough
    have scanned := scanValue_chars value integral.1 fuel levels
      (some ',' :: ((memberChars (next :: members)).map some ++ some '\x7d' :: rest)) (by omega)
      (by omega) (stops_cons (.inl rfl))
    have scannedRest :=
      scanMembers_chars next members integral.2 fuel levels rest (by omega) (by omega)
    simp only [List.map_append, List.map_cons, List.append_assoc, List.cons_append]
    rw [same, nextSame] at scanned ⊢
    rw [nextSame] at scannedRest
    simp only [List.map_cons, List.cons_append] at scanned scannedRest ⊢
    rw [scanMembers_next key visible scanned, scannedRest]
    rfl

end

theorem ofBytes_render {value : Json} (fits : value.Fits 0) :
    ofBytes (Utf8.encode value.render) = ⟨whole .closed value, true⟩ := by
  obtain ⟨integral, shallow⟩ := fits
  have symbols : Utf8.decode (Utf8.encode value.render) = (chars value).map some := by
    rw [Utf8.decode_encode, render, String.toList_ofList]
  obtain ⟨first, others, same, visible, -⟩ := exists_chars_eq_cons value integral
  have noBlank : skipBlanks ((chars value).map some) = (chars value).map some := by
    rw [same, List.map_cons, skipBlanks_cons visible]
  have enough : 2 * (chars value).length ≤ 2 * ((chars value).map some).length + 2 := by
    rw [List.length_map]
    omega
  have scanned := scanValue_chars value integral _ deepest [] enough shallow
    (fun _ first => nomatch first)
  rw [List.append_nil] at scanned
  rw [ofBytes, symbols, ofSymbols, noBlank, scanned]
  rfl

end Outline

end Jmap.Json
