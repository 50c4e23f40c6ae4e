import Mathlib.Algebra.Group.Nat.Defs
import Jmap.Date.Text
import Jmap.Proofs.Date.Calendar

namespace Jmap

namespace Date

open Text

variable {value width : Nat} {digits rest : Chars}

theorem toNat_of_isDigit {char : Char} (digit : isDigit char = true) :
    48 ≤ char.toNat ∧ char.toNat ≤ 57 := by
  simpa [isDigit, Char.le_def, UInt32.le_iff_toNat_le] using digit

theorem isBlank_of_isDigit {char : Char} (digit : isDigit char = true) : isBlank char = false := by
  have bounds := toNat_of_isDigit digit
  simp only [isBlank, Bool.or_eq_false_iff, Bool.and_eq_false_iff, decide_eq_false_iff_not,
    beq_eq_false_iff_ne]
  omega

structure Numeral (value : Nat) (digits : Chars) : Prop where
  all : ∀ digit ∈ digits, isDigit digit = true
  nonempty : digits ≠ []
  value : natOfDigits digits = value

def Stops (rest : Chars) : Prop := ∀ char ∈ rest.head?, isDigit char = false

theorem stops_nil : Stops [] := nofun

theorem stops_cons {char : Char} (noDigit : isDigit char = false) : Stops (char :: rest) := by
  intro first found
  cases found
  exact noDigit

theorem natOfDigits_toDigits (value : Nat) : natOfDigits (Nat.toDigits 10 value) = value := by
  have digits : Nat.ofDigitChars 10 (Nat.toDigits 10 value) 0 = value :=
    Nat.ofDigitChars_ten_toDigits
  rw [Nat.ofDigitChars_eq_foldl] at digits
  simp only [natOfDigits, digitValue, Nat.mul_comm _ 10]
  exact digits

theorem natOfDigits_zeros (zeros : Nat) :
    natOfDigits (List.replicate zeros '0' ++ digits) = natOfDigits digits := by
  induction zeros with
  | zero => rfl
  | succ zeros ih =>
    rw [List.replicate_succ, List.cons_append, ← ih]
    rfl

theorem toList_padded (width value : Nat) : (padded width value).toList =
    List.replicate (width - (Nat.toDigits 10 value).length) '0' ++ Nat.toDigits 10 value := by
  have digits : (toString value).toList = Nat.toDigits 10 value := Nat.toList_repr
  rw [padded, String.toList_append, String.toList_ofList, ← String.length_toList, digits]

theorem numeral_padded (width value : Nat) : Numeral value (padded width value).toList where
  all := by
    intro digit member
    rw [toList_padded, List.mem_append] at member
    rcases member with zero | own
    · rw [List.eq_of_mem_replicate zero]
      rfl
    · have isDigit := Nat.isDigit_of_mem_toDigits (by decide) (by decide) own
      simpa [Date.isDigit, Char.isDigit, Char.le_def] using isDigit
  nonempty := by simp [toList_padded]
  value := by rw [toList_padded, natOfDigits_zeros, natOfDigits_toDigits]

theorem length_padded (positive : 0 < width) (bound : value < 10 ^ width) :
    (padded width value).toList.length = width := by
  have short := (Nat.length_toDigits_le_iff (b := 10) (by decide) positive).2 bound
  rw [toList_padded, List.length_append, List.length_replicate]
  omega

namespace Numeral

theorem exists_cons (numeral : Numeral value digits) :
    ∃ first others, digits = first :: others ∧ isDigit first = true := by
  obtain ⟨first, others, rfl⟩ := List.exists_cons_of_ne_nil numeral.nonempty
  exact ⟨first, others, rfl, numeral.all first List.mem_cons_self⟩

theorem skipBlanks_append (numeral : Numeral value digits) :
    skipBlanks (digits ++ rest) = digits ++ rest := by
  obtain ⟨first, others, rfl, digit⟩ := numeral.exists_cons
  rw [List.cons_append, skipBlanks, List.dropWhile_cons_of_neg]
  simp [isBlank_of_isDigit digit]

theorem takeWhile_append (numeral : Numeral value digits) (stops : Stops rest) :
    (digits ++ rest).takeWhile isDigit = digits := by
  rw [List.takeWhile_append_of_pos numeral.all]
  cases rest with
  | nil => simp
  | cons char rest => simp [stops char rfl]

theorem dropWhile_append (numeral : Numeral value digits) (stops : Stops rest) :
    (digits ++ rest).dropWhile isDigit = rest := by
  rw [List.dropWhile_append_of_pos numeral.all]
  cases rest with
  | nil => rfl
  | cons char rest => simp [stops char rfl]

theorem readNumber?_of_takeWhile (numeral : Numeral value digits)
    (found : ((digits ++ rest).take width).takeWhile isDigit = digits) :
    readNumber? width (digits ++ rest) = some (value, rest) := by
  have notEmpty : digits.isEmpty = false := by simpa using numeral.nonempty
  simp [readNumber?, found, notEmpty, numeral.value]

theorem readNumber?_append (numeral : Numeral value digits) (full : digits.length = width) :
    readNumber? width (digits ++ rest) = some (value, rest) := by
  apply numeral.readNumber?_of_takeWhile
  rw [List.take_left' full]
  have whole := numeral.takeWhile_append stops_nil
  rwa [List.append_nil] at whole

theorem readLong?_append (numeral : Numeral value digits) (stops : Stops rest) :
    readLong? (digits ++ rest) = some (value, rest) := by
  apply numeral.readNumber?_of_takeWhile
  rw [List.take_length, numeral.takeWhile_append stops]

theorem readPart?_append (numeral : Numeral value digits) (full : digits.length = 2)
    {least most : Nat} (lower : least ≤ value) (upper : value ≤ most) :
    readPart? least most (digits ++ rest) = some (value, rest) := by
  rw [readPart?, numeral.skipBlanks_append, numeral.readNumber?_append full]
  simp [lower, upper]

theorem readPair?_append (numeral : Numeral value digits) (full : digits.length = 2)
    {most : Char} (upper : value < 10 * (most.toNat - 47)) :
    readPair? most (digits ++ rest) = some (value, rest) := by
  match digits, full with
  | [tens, ones], _ =>
    have first := numeral.all tens (by simp)
    have second := numeral.all ones (by simp)
    have same : digitValue tens * 10 + digitValue ones = value := by
      simpa [natOfDigits] using numeral.value
    have within : tens ≤ most := by
      rw [digitValue, digitValue] at same
      rw [Char.le_def, UInt32.le_iff_toNat_le]
      change tens.toNat ≤ most.toNat
      have firstBounds := toNat_of_isDigit first
      have secondBounds := toNat_of_isDigit second
      simp only [Char.reduceToNat] at same
      omega
    simp [readPair?, first, second, within, same]

end Numeral

theorem readMark?_cons {mark : Char} (visible : isBlank mark = false) :
    readMark? mark (mark :: rest) = some rest := by
  simp [readMark?, skipBlanks, visible]

theorem readYear?_append {value : Nat} (numeral : Numeral value digits)
    (full : digits.length = 4) : readYear? (digits ++ rest) = some ((value : Int), rest) := by
  have found : readNumber? 4 (digits ++ rest) = some (value, rest) :=
    numeral.readNumber?_append full
  obtain ⟨first, others, rfl, digit⟩ := numeral.exists_cons
  rw [readYear?, numeral.skipBlanks_append]
  rw [List.cons_append] at found ⊢
  split
  · rename_i same
    cases same
    cases digit
  · rename_i same
    cases same
    cases digit
  · rw [found]
    rfl

theorem readYear?_minus (text : Chars) :
    readYear? ('-' :: text) = (readLong? text).map (fun (year, rest) => (-(year : Int), rest)) :=
  rfl

theorem readYear?_plus (text : Chars) :
    readYear? ('+' :: text) = (readLong? text).map (fun (year, rest) => ((year : Int), rest)) :=
  rfl

theorem readYear?_yearText (year : Int) (stops : Stops rest) :
    readYear? ((yearText year).toList ++ rest) = some (year, rest) := by
  rw [yearText]
  split
  · have full := @length_padded year.toNat 4 (by decide) (by omega)
    have same : (year.toNat : Int) = year := by omega
    rw [readYear?_append (numeral_padded 4 year.toNat) full, same]
  · have found := (numeral_padded 4 year.natAbs).readLong?_append stops
    split
    · have same : -(year.natAbs : Int) = year := by omega
      have sign : "-".toList = ['-'] := rfl
      rw [String.toList_append, sign, List.append_assoc, List.singleton_append, readYear?_minus,
        found]
      exact congrArg (fun told => some (told, rest)) same
    · have same : (year.natAbs : Int) = year := by omega
      have sign : "+".toList = ['+'] := rfl
      rw [String.toList_append, sign, List.append_assoc, List.singleton_append, readYear?_plus,
        found]
      exact congrArg (fun told => some (told, rest)) same

theorem Numeral.readFraction?_append (numeral : Numeral value digits) {width : Nat}
    (full : digits.length = width) (short : width ≤ 9) (stops : Stops rest) :
    readFraction? ('.' :: (digits ++ rest)) = some (value * Nat.pow 10 (9 - width), rest) := by
  obtain ⟨first, others, listed, digit⟩ := numeral.exists_cons
  have one : readNumber? 1 (digits ++ rest) = some (natOfDigits [first], others ++ rest) := by
    simp [readNumber?, listed, digit]
  have all : ((digits ++ rest).takeWhile isDigit).take 9 = digits := by
    rw [numeral.takeWhile_append stops, List.take_of_length_le (by omega)]
  simp only [readFraction?, one, all, numeral.value, full, numeral.dropWhile_append stops]
  rfl

theorem readFraction?_fractionText {nanos : Nat} (bound : nanos < 1000000000)
    (stops : Stops rest) (noPoint : ∀ char ∈ rest.head?, char ≠ '.') :
    readFraction? ((fractionText nanos).toList ++ rest) = some (nanos, rest) := by
  have point {value width : Nat} (positive : 0 < width) (short : width ≤ 9)
      (fits : value < 10 ^ width) (same : value * Nat.pow 10 (9 - width) = nanos) :
      readFraction? (("." ++ padded width value).toList ++ rest) = some (nanos, rest) := by
    have found := (numeral_padded width value).readFraction?_append (length_padded positive fits)
      short stops
    rw [same] at found
    have mark : ".".toList = ['.'] := rfl
    rw [String.toList_append, List.append_assoc, mark, List.singleton_append, found]
  rw [fractionText]
  split
  · rename_i none
    subst none
    cases rest with
    | nil => rfl
    | cons char rest =>
      have other := noPoint char rfl
      simp [readFraction?, other]
  · split
    · exact point (by decide) (by decide) (by omega) (by simp; omega)
    · split
      · exact point (by decide) (by decide) (by omega) (by simp; omega)
      · exact point (by decide) (by decide) bound (by simp)

theorem exists_offsetText_eq_cons (offset : Int) : ∃ first others,
    (offsetText offset).toList = first :: others ∧
      isDigit first = false ∧ first ≠ '.' ∧ isBlank first = false := by
  rw [offsetText]
  split
  · exact ⟨'Z', [], rfl, by decide⟩
  · split
    · exact ⟨'-', _, by simp only [String.toList_append, List.append_assoc]; rfl, by decide⟩
    · exact ⟨'+', _, by simp only [String.toList_append, List.append_assoc]; rfl, by decide⟩

theorem readOffset?_offsetText {offset : Int} (bound : offset.natAbs < 1440) :
    readOffset? ((offsetText offset).toList ++ rest) = some (offset, rest) := by
  have hours (later : Chars) : readPair? '9' ((padded 2 (offset.natAbs / 60)).toList ++ later) =
      some (offset.natAbs / 60, later) :=
    (numeral_padded 2 _).readPair?_append (length_padded (by decide) (by omega)) (by simp; omega)
  have minutes : readPair? '5' ((padded 2 (offset.natAbs % 60)).toList ++ rest) =
      some (offset.natAbs % 60, rest) :=
    (numeral_padded 2 _).readPair?_append (length_padded (by decide) (by omega)) (by simp; omega)
  have colon : (':' :: ((padded 2 (offset.natAbs % 60)).toList ++ rest)).dropWhile
      (fun char => char = ':' || isBlank char) =
        (padded 2 (offset.natAbs % 60)).toList ++ rest := by
    obtain ⟨first, others, listed, digit⟩ := (numeral_padded 2 (offset.natAbs % 60)).exists_cons
    have visible := isBlank_of_isDigit digit
    have noColon : first ≠ ':' := by
      rintro rfl
      cases digit
    simp [listed, visible, noColon]
  have few : offset.natAbs / 60 < 24 := by omega
  have mark : ":".toList = [':'] := rfl
  rw [offsetText]
  split
  · rename_i zero
    subst zero
    rfl
  · split
    · have sign : "-".toList = ['-'] := rfl
      have same : -1 * (((offset.natAbs / 60 : Nat) : Int) * 60 + (offset.natAbs % 60 : Nat)) =
          offset := by omega
      simp only [String.toList_append, sign, mark, List.append_assoc, List.cons_append,
        List.nil_append, readOffset?, hours, minutes, colon, few, Option.bind_eq_bind,
        Option.bind_some, if_true, same]
    · have sign : "+".toList = ['+'] := rfl
      have same : 1 * (((offset.natAbs / 60 : Nat) : Int) * 60 + (offset.natAbs % 60 : Nat)) =
          offset := by omega
      simp only [String.toList_append, sign, mark, List.append_assoc, List.cons_append,
        List.nil_append, readOffset?, hours, minutes, colon, few, Option.bind_eq_bind,
        Option.bind_some, if_true, same]

theorem readPart?_bounds {least most : Nat} {text : Chars}
    (found : readPart? least most text = some (value, rest)) : least ≤ value ∧ value ≤ most := by
  obtain ⟨⟨number, later⟩, -, found⟩ := Option.bind_eq_some_iff.1 found
  dsimp only at found
  split at found
  · rename_i within
    cases found
    exact within
  · cases found

theorem digitValue_le {char : Char} (digit : isDigit char = true) : digitValue char ≤ 9 := by
  have bounds := toNat_of_isDigit digit
  simp only [digitValue, Char.reduceToNat]
  omega

theorem natOfDigits_lt (all : ∀ digit ∈ digits, isDigit digit = true) :
    natOfDigits digits < 10 ^ digits.length := by
  -- The digits follow a number that has been read before them.
  have general (start : Nat) :
      digits.foldl (fun value digit => value * 10 + digitValue digit) start <
        (start + 1) * 10 ^ digits.length := by
    induction digits generalizing start with
    | nil => simp
    | cons digit digits ih =>
      rw [List.forall_mem_cons] at all
      have last := digitValue_le all.1
      have others := ih all.2 (start * 10 + digitValue digit)
      rw [List.foldl_cons, List.length_cons, Nat.pow_succ', ← Nat.mul_assoc]
      exact Nat.lt_of_lt_of_le others (Nat.mul_le_mul_right _ (by omega))
  have whole := general 0
  rwa [Nat.zero_add, Nat.one_mul] at whole

theorem readFraction?_lt {text : Chars} {nanos : Nat}
    (found : readFraction? text = some (nanos, rest)) : nanos < 1000000000 := by
  unfold readFraction? at found
  split at found
  · rename_i later
    obtain ⟨⟨_, _⟩, -, found⟩ := Option.bind_eq_some_iff.1 found
    cases found
    have all : ∀ digit ∈ (later.takeWhile isDigit).take 9, isDigit digit = true :=
      fun digit member => List.all_eq_true.1 List.all_takeWhile digit (List.mem_of_mem_take member)
    have short : ((later.takeWhile isDigit).take 9).length ≤ 9 := List.length_take_le _ _
    have bound := natOfDigits_lt all
    generalize (later.takeWhile isDigit).take 9 = digits at *
    calc natOfDigits digits * 10 ^ (9 - digits.length)
      _ < 10 ^ digits.length * 10 ^ (9 - digits.length) :=
        Nat.mul_lt_mul_of_pos_right bound (Nat.pow_pos (by decide))
      _ = 1000000000 := by rw [← Nat.pow_add, Nat.add_sub_cancel' short]
  · cases found
    decide

theorem readPair?_lt {text : Chars} {most : Char}
    (found : readPair? most text = some (value, rest)) : value < 10 * (most.toNat - 47) := by
  unfold readPair? at found
  split at found
  · rename_i tens ones later
    split at found
    · rename_i digits
      obtain ⟨first, second, within⟩ := digits
      cases found
      have least := toNat_of_isDigit first
      have last := digitValue_le second
      rw [Char.le_def, UInt32.le_iff_toNat_le] at within
      change tens.toNat ≤ most.toNat at within
      have tensValue : digitValue tens = tens.toNat - 48 := rfl
      omega
    · cases found
  · cases found

theorem readOffset?_lt {text : Chars} {offset : Int}
    (found : readOffset? text = some (offset, rest)) : offset.natAbs < 1440 := by
  have signed {sign : Int} (one : sign.natAbs = 1) {text : Chars}
      (found : (do
        let (hours, rest) ← readPair? '9' text
        let (minutes, rest) ←
          readPair? '5' (rest.dropWhile (fun char => char = ':' || isBlank char))
        if hours < 24 then some (sign * (hours * 60 + minutes), rest) else none) =
          some (offset, rest)) : offset.natAbs < 1440 := by
    obtain ⟨⟨hours, _⟩, -, found⟩ := Option.bind_eq_some_iff.1 found
    obtain ⟨⟨minutes, _⟩, minutesRead, found⟩ := Option.bind_eq_some_iff.1 found
    have few := readPair?_lt minutesRead
    dsimp only at found
    split at found
    · cases found
      rw [Int.natAbs_mul, one]
      simp only [Char.reduceToNat] at few
      omega
    · cases found
  unfold readOffset? at found
  split at found
  · cases found
    decide
  · cases found
    decide
  · exact signed rfl found
  · exact signed rfl found
  · exact signed rfl found
  · split at found
    · cases found
      decide
    · cases found
  · cases found

end Date

open Date Text

/-- A time that a text can tell: the day stands in the calendar where it is told and in UTC, the
offset is less than a day, and only the last second of a minute is a leap second. -/
structure OffsetTime.Regular (time : OffsetTime) : Prop where
  onCalendar : time.instant.onCalendar = true
  notBefore : firstYear ≤ (Day.ofNumber ((time.instant.seconds + time.offset * 60) / 86400)).year
  notAfter : (Day.ofNumber ((time.instant.seconds + time.offset * 60) / 86400)).year ≤ lastYear
  offset : time.offset.natAbs < 1440
  nanos : time.instant.nanos < 2000000000
  leap : 1000000000 ≤ time.instant.nanos →
    (time.instant.seconds + time.offset * 60) % 60 = 59

namespace OffsetTime

variable {time : OffsetTime}

def parts (day : Day) (hour minute second nanos : Nat) (offset : Int) : Chars :=
  (yearText day.year).toList ++ '-' :: ((padded 2 day.month).toList ++
    '-' :: ((padded 2 day.day).toList ++ 'T' :: ((padded 2 hour).toList ++
    ':' :: ((padded 2 minute).toList ++ ':' :: ((padded 2 second).toList ++
    ((fractionText nanos).toList ++ (offsetText offset).toList))))))

theorem toList_render (time : OffsetTime) :
    let told := time.instant.seconds + time.offset * 60
    let second := (told % 86400).toNat
    let leap := 1000000000 ≤ time.instant.nanos
    time.render.toList = parts (.ofNumber (told / 86400)) (second / 3600) (second / 60 % 60)
      (second % 60 + if leap then 1 else 0)
      (if leap then time.instant.nanos - 1000000000 else time.instant.nanos) time.offset := by
  have dash : "-".toList = ['-'] := rfl
  have colon : ":".toList = [':'] := rfl
  have separator : "T".toList = ['T'] := rfl
  simp only [render, parts, String.toList_append, dash, colon, separator, List.append_assoc,
    List.cons_append, List.nil_append]

theorem day_le_of_exists {day : Day} (real : day.exists = true) :
    1 ≤ day.month ∧ day.month ≤ 12 ∧ 1 ≤ day.day ∧ day.day ≤ 31 := by
  have most : daysInMonth day.year day.month ≤ 31 := by
    rw [daysInMonth]
    repeat' split
    all_goals decide
  simp only [Day.exists, Bool.and_eq_true, decide_eq_true_eq] at real
  omega

theorem bind_of_some {α β : Type} {value : α} {first : Option α} (found : first = some value)
    {next : α → Option β} : (first >>= next) = next value := by
  rw [found]
  rfl

theorem ofText?_parts {text : String} {day : Day} {hour minute second nanos : Nat} {offset : Int}
    (same : text.toList = parts day hour minute second nanos offset)
    (real : day.exists = true) (hours : hour ≤ 23) (minutes : minute ≤ 59) (seconds : second ≤ 60)
    (fraction : nanos < 1000000000) (offsets : offset.natAbs < 1440)
    (onCalendar : (OffsetTime.of day
      (hour * 3600 + minute * 60 + if second = 60 then 59 else second)
      (nanos + if second = 60 then 1000000000 else 0) offset).instant.onCalendar = true) :
    ofText? text = some (OffsetTime.of day
      (hour * 3600 + minute * 60 + if second = 60 then 59 else second)
      (nanos + if second = 60 then 1000000000 else 0) offset) := by
  obtain ⟨firstMonth, lastMonth, firstDay, lastDay⟩ := day_le_of_exists real
  obtain ⟨first, others, listed, noDigit, noPoint, visible⟩ := exists_offsetText_eq_cons offset
  have part {least most value : Nat} (lower : least ≤ value) (upper : value ≤ most)
      (fits : value < 10 ^ 2) (rest : Chars) :
      readPart? least most ((padded 2 value).toList ++ rest) = some (value, rest) :=
    (numeral_padded 2 value).readPart?_append (length_padded (by decide) fits) lower upper
  have mark {char : Char} (visible : isBlank char = false) (rest : Chars) :
      readMark? char (char :: rest) = some rest := readMark?_cons visible
  have stops : Stops (offsetText offset).toList := by
    rw [listed]
    exact stops_cons noDigit
  have offsetRead : readOffset? (skipBlanks (offsetText offset).toList) = some (offset, []) := by
    have unblank : skipBlanks (offsetText offset).toList = (offsetText offset).toList := by
      simp [listed, skipBlanks, visible]
    have found := @readOffset?_offsetText [] offset offsets
    rwa [List.append_nil, ← unblank] at found
  have fractionRead := readFraction?_fractionText fraction stops (by
    rw [listed]
    rintro _ ⟨⟩
    exact noPoint)
  rw [ofText?, same, parts]
  refine (bind_of_some (readYear?_yearText day.year (stops_cons rfl))).trans ?_
  refine (bind_of_some (mark rfl _)).trans ?_
  refine (bind_of_some (part firstMonth lastMonth (by omega) _)).trans ?_
  refine (bind_of_some (mark rfl _)).trans ?_
  refine (bind_of_some (part firstDay lastDay (by omega) _)).trans ?_
  refine (bind_of_some rfl).trans ?_
  refine (bind_of_some (part (Nat.zero_le hour) hours (by omega) _)).trans ?_
  refine (bind_of_some (mark rfl _)).trans ?_
  refine (bind_of_some (part (Nat.zero_le minute) minutes (by omega) _)).trans ?_
  refine (bind_of_some (mark rfl _)).trans ?_
  refine (bind_of_some (part (Nat.zero_le second) seconds (by omega) _)).trans ?_
  refine (bind_of_some fractionRead).trans ?_
  refine (bind_of_some offsetRead).trans ?_
  exact if_pos ⟨rfl, real, onCalendar⟩

theorem of_parts (regular : time.Regular) :
    let told := time.instant.seconds + time.offset * 60
    let second := (told % 86400).toNat
    let leap := 1000000000 ≤ time.instant.nanos
    let shown := second % 60 + if leap then 1 else 0
    OffsetTime.of (.ofNumber (told / 86400))
      (second / 3600 * 3600 + second / 60 % 60 * 60 + if shown = 60 then 59 else shown)
      ((if leap then time.instant.nanos - 1000000000 else time.instant.nanos) +
        if shown = 60 then 1000000000 else 0) time.offset = time := by
  obtain ⟨-, -, -, -, -, leapSecond⟩ := regular
  obtain ⟨⟨seconds, nanos⟩, offset⟩ := time
  simp only [OffsetTime.of, Day.number_ofNumber] at leapSecond ⊢
  congr 2
  · split <;> split <;> omega
  · split <;> split <;> omega

theorem ofText?_render (regular : time.Regular) : ofText? time.render = some time := by
  have same := of_parts regular
  have real := Day.exists_ofNumber regular.notBefore regular.notAfter
  have nanos := regular.nanos
  have found := ofText?_parts time.toList_render real (by omega) (by omega)
    (by split <;> omega) (by split <;> omega) regular.offset
  simp only at same
  rw [same] at found
  exact found regular.onCalendar

theorem regular_of {day : Day} {secondOfDay nanos : Nat} {offset : Int}
    (real : day.exists = true) (within : secondOfDay < 86400) (offsets : offset.natAbs < 1440)
    (fraction : nanos < 2000000000) (leap : 1000000000 ≤ nanos → secondOfDay % 60 = 59)
    (onCalendar : (OffsetTime.of day secondOfDay nanos offset).instant.onCalendar = true) :
    (OffsetTime.of day secondOfDay nanos offset).Regular := by
  have told : (day.number * 86400 + secondOfDay - offset * 60 + offset * 60) / 86400 =
      day.number := by omega
  have years : firstYear ≤ day.year ∧ day.year ≤ lastYear := by
    simp only [Day.exists, Bool.and_eq_true, decide_eq_true_eq] at real
    omega
  refine ⟨onCalendar, ?_, ?_, offsets, fraction, fun large => ?_⟩
  · simp only [OffsetTime.of, told, Day.ofNumber_number real, years]
  · simp only [OffsetTime.of, told, Day.ofNumber_number real, years]
  · have last := leap large
    simp only [OffsetTime.of]
    omega

theorem regular_of_ofText? {text : String} (found : ofText? text = some time) :
    time.Regular := by
  rw [ofText?] at found
  obtain ⟨⟨year, _⟩, -, found⟩ := Option.bind_eq_some_iff.1 found
  obtain ⟨_, -, found⟩ := Option.bind_eq_some_iff.1 found
  obtain ⟨⟨month, _⟩, -, found⟩ := Option.bind_eq_some_iff.1 found
  obtain ⟨_, -, found⟩ := Option.bind_eq_some_iff.1 found
  obtain ⟨⟨day, _⟩, -, found⟩ := Option.bind_eq_some_iff.1 found
  obtain ⟨_, -, found⟩ := Option.bind_eq_some_iff.1 found
  obtain ⟨⟨hour, _⟩, hourRead, found⟩ := Option.bind_eq_some_iff.1 found
  obtain ⟨_, -, found⟩ := Option.bind_eq_some_iff.1 found
  obtain ⟨⟨minute, _⟩, minuteRead, found⟩ := Option.bind_eq_some_iff.1 found
  obtain ⟨_, -, found⟩ := Option.bind_eq_some_iff.1 found
  obtain ⟨⟨second, _⟩, secondRead, found⟩ := Option.bind_eq_some_iff.1 found
  obtain ⟨⟨nanos, _⟩, nanosRead, found⟩ := Option.bind_eq_some_iff.1 found
  obtain ⟨⟨offset, _⟩, offsetRead, found⟩ := Option.bind_eq_some_iff.1 found
  obtain ⟨⟨-, real, onCalendar⟩, same⟩ := Option.ite_none_right_eq_some.1 found
  cases same
  have hours := readPart?_bounds hourRead
  have minutes := readPart?_bounds minuteRead
  have seconds := readPart?_bounds secondRead
  have fraction := readFraction?_lt nanosRead
  refine regular_of real ?_ (readOffset?_lt offsetRead) ?_ ?_ onCalendar
  · split <;> omega
  · split <;> omega
  · split <;> omega

theorem Regular.utc (regular : time.Regular) : OffsetTime.Regular ⟨time.instant, 0⟩ := by
  obtain ⟨onCalendar, -, -, -, nanos, leap⟩ := regular
  have told : (time.instant.seconds + 0 * 60) / 86400 = time.instant.seconds / 86400 := by omega
  obtain ⟨notBefore, notAfter⟩ := Bool.and_eq_true_iff.1 onCalendar
  refine ⟨onCalendar, ?_, ?_, (by decide : (0 : Int).natAbs < 1440), nanos, fun large => ?_⟩
  · rw [told]
    exact of_decide_eq_true notBefore
  · rw [told]
    exact of_decide_eq_true notAfter
  · have last := leap large
    dsimp only
    omega

end OffsetTime

end Jmap
