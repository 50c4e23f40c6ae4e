import Jmap.Toml.Quoted
import Jmap.Toml.Scalar

namespace Jmap.Toml

variable {char letter : Char} {text rest : Chars} {chars : Chars} {quotes count : Nat}

/-! Escapes, which are the same in strings of one line and of several. -/

theorem charOf?_hexDigits (escaped : needsEscape char = true) :
    charOf? ['0', '0', hexDigit (char.toNat / 16), hexDigit char.toNat] = some char := by
  have all : ∀ code : Fin 128,
      charOf? ['0', '0', hexDigit (code / 16), hexDigit code] = some (Char.ofNat code) := by
    decide +kernel
  have small : char.toNat < 128 := by
    simp only [needsEscape, Bool.or_eq_true, Bool.and_eq_true, decide_eq_true_eq, beq_iff_eq]
      at escaped
    rcases escaped with ⟨⟨below, -⟩, -⟩ | rfl
    · omega
    · decide
  simpa using all ⟨char.toNat, small⟩

inductive Escaped (char : Char) : Chars → Prop
  | letter (letter : Char) (means : escape? letter = some char) (visible : letter ≠ '\n' ∧
      letter ≠ '\r' ∧ isSpace letter = false) : Escaped char ['\\', letter]
  | code (digits : needsEscape char = true) :
      Escaped char ['\\', 'u', '0', '0', hexDigit (char.toNat / 16), hexDigit char.toNat]
  | plain (visible : isControl char = false) (noBackslash : char ≠ '\\') : Escaped char [char]

theorem escaped_escape (char : Char) : Escaped char (escape char) := by
  by_cases named : char ∈ ['\x08', '\t', '\n', '\x0c', '\r', '\\']
  · simp only [List.mem_cons, List.not_mem_nil, or_false] at named
    rcases named with rfl | rfl | rfl | rfl | rfl | rfl
    all_goals exact .letter _ rfl (by decide)
  · simp only [List.mem_cons, List.not_mem_nil, or_false, not_or] at named
    obtain ⟨noBackspace, noTab, noLine, noFeed, noReturn, noBackslash⟩ := named
    simp only [escape, noBackspace, noTab, noLine, noFeed, noReturn, noBackslash, if_false]
    split
    · rename_i digits
      exact .code digits
    · rename_i visible
      refine .plain ?_ noBackslash
      simpa [needsEscape, isControl, noTab, noLine] using visible

theorem scanBasic_letter (means : escape? letter = some char) :
    scanBasic ('\\' :: letter :: rest) = (scanBasic rest).push char := by
  rw [scanBasic]
  · rw [means]
    rfl
  all_goals
    intros
    subst_vars
    cases means

theorem scanBasic_plain (visible : isControl char = false) (noQuote : char ≠ '"')
    (noBackslash : char ≠ '\\') : scanBasic (char :: rest) = (scanBasic rest).push char := by
  rw [scanBasic]
  · simp [visible, noBackslash]
  all_goals simp [*]

theorem scanBasic_escaped {written : Chars} (escaped : Escaped char written)
    (noQuote : char ≠ '"') : scanBasic (written ++ rest) = (scanBasic rest).push char := by
  cases escaped with
  | letter letter means _ => exact scanBasic_letter means
  | code digits =>
    simp only [List.cons_append, List.nil_append, scanBasic, charOf?_hexDigits digits]
    rfl
  | plain visible noBackslash => exact scanBasic_plain visible noQuote noBackslash

theorem scanBasic_escapeLine (text rest : Chars) :
    scanBasic (escapeLine text ++ '"' :: rest) = some (text, rest) := by
  induction text with
  | nil => rfl
  | cons char text ih =>
    rw [escapeLine, List.flatMap_cons, ← escapeLine, List.append_assoc]
    split
    · rename_i same
      rw [same, List.cons_append, List.cons_append, List.nil_append, scanBasic_letter rfl, ih]
      rfl
    · rename_i noQuote
      rw [scanBasic_escaped (escaped_escape char) noQuote, ih]
      rfl

theorem scanLiteral_append (visible : ∀ char ∈ text, isControl char = false ∧ char ≠ '\'')
    (rest : Chars) : scanLiteral (text ++ '\'' :: rest) = some (text, rest) := by
  induction text with
  | nil => rfl
  | cons char text ih =>
    rw [List.forall_mem_cons] at visible
    simp only [List.cons_append, scanLiteral, visible.1.1, visible.1.2, ih visible.2]
    rfl

/-- Up to two quotes do not end a string, if one alone never does. -/
theorem scan_quotes {scan : Chars → Scanned} {mark : Char}
    (single : ∀ rest, (∀ more, rest ≠ mark :: mark :: more) →
      scan (mark :: rest) = (scan rest).push mark)
    (few : quotes ≤ 2) (apart : rest.head? ≠ some mark) {more : Chars}
    (scanned : scan rest = some (chars, more)) :
    scan (List.replicate quotes mark ++ rest) =
      some (List.replicate quotes mark ++ chars, more) := by
  have first : ∀ others, rest ≠ mark :: others := fun others same => apart (by rw [same]; rfl)
  have one : scan (mark :: rest) = some (mark :: chars, more) := by
    rw [single rest (fun others => first (mark :: others)), scanned]
    rfl
  obtain rfl | rfl | rfl : quotes = 0 ∨ quotes = 1 ∨ quotes = 2 := by omega
  · exact scanned
  · exact one
  · have two : ∀ others, mark :: rest ≠ mark :: mark :: others := fun others same =>
      first others (List.cons.inj same).2
    change scan (mark :: mark :: rest) = some (mark :: mark :: chars, more)
    rw [single _ two, one]
    rfl

theorem kept_of_visible (visible : isControl char = false ∨ char = '\n') :
    char ≠ '\r' ∧ (isControl char && char != '\n') = false := by
  constructor
  · rintro rfl
    revert visible
    decide
  · rcases visible with visible | rfl
    · rw [visible, Bool.false_and]
    · rfl

theorem scanLongBasic_letter (means : escape? letter = some char)
    (visible : letter ≠ '\n' ∧ letter ≠ '\r' ∧ isSpace letter = false) :
    scanLongBasic false ('\\' :: letter :: rest) = (scanLongBasic false rest).push char := by
  have inside : endsLine (letter :: rest) = false := by
    rw [endsLine, skipSpaces, List.dropWhile_cons_of_neg (by simp [visible.2.2])]
    split <;> simp_all
  rw [scanLongBasic]
  · simp [inside, means]
  all_goals
    intros
    subst_vars
    cases means

theorem scanLongBasic_plain (visible : isControl char = false ∨ char = '\n')
    (noQuote : char ≠ '"') (noBackslash : char ≠ '\\') :
    scanLongBasic false (char :: rest) = (scanLongBasic false rest).push char := by
  obtain ⟨noReturn, kept⟩ := kept_of_visible visible
  rw [scanLongBasic]
  · simp [kept, noBackslash]
  all_goals simp [*]

theorem scanLongBasic_quote (few : ∀ more, rest ≠ '"' :: '"' :: more) :
    scanLongBasic false ('"' :: rest) = (scanLongBasic false rest).push '"' := by
  rw [scanLongBasic]
  · rfl
  all_goals simp [few]

theorem scanLongBasic_escaped {written : Chars} (escaped : Escaped char written)
    (noQuote : char ≠ '"') :
    scanLongBasic false (written ++ rest) = (scanLongBasic false rest).push char := by
  cases escaped with
  | letter letter means visible => exact scanLongBasic_letter means visible
  | code digits =>
    simp only [List.cons_append, List.nil_append, scanLongBasic, charOf?_hexDigits digits]
    rfl
  | plain visible noBackslash => exact scanLongBasic_plain (.inl visible) noQuote noBackslash

theorem head?_escaped {written : Chars} (escaped : Escaped char written) (noQuote : char ≠ '"') :
    (written ++ rest).head? ≠ some '"' := by
  cases escaped with
  | letter _ _ _ => simp
  | code _ => simp
  | plain _ _ => simpa using noQuote

theorem scanLongBasic_escapeLines (few : quotes ≤ 2) (text rest : Chars) :
    scanLongBasic false (List.replicate quotes '"' ++
        (escapeLines quotes text ++ '"' :: '"' :: '"' :: '\n' :: rest)) =
      some (List.replicate quotes '"' ++ text, '\n' :: rest) := by
  -- The quotes that came last are not read yet: with those that follow they may end the string.
  induction text generalizing quotes with
  | nil =>
    obtain rfl | rfl | rfl : quotes = 0 ∨ quotes = 1 ∨ quotes = 2 := by omega
    all_goals rfl
  | cons char text ih =>
    have afresh := ih (Nat.zero_le 2)
    simp only [List.replicate_zero, List.nil_append] at afresh
    rw [escapeLines]
    split
    · rename_i same
      subst same
      split
      · rename_i full
        have escaped : scanLongBasic false ('\\' :: '"' :: (escapeLines 0 text ++
            '"' :: '"' :: '"' :: '\n' :: rest)) = some ('"' :: text, '\n' :: rest) := by
          rw [scanLongBasic_letter rfl (by decide), afresh]
          rfl
        exact scan_quotes (fun _ => scanLongBasic_quote) few (by simp) escaped
      · have next := @ih (quotes + 1) (by omega)
        rw [List.replicate_succ', List.append_assoc, List.append_assoc] at next
        exact next
    · rename_i noQuote
      split
      · rename_i same
        subst same
        refine scan_quotes (fun _ => scanLongBasic_quote) few (by simp) ?_
        rw [List.cons_append, scanLongBasic_plain (.inr rfl) (by decide) (by decide), afresh]
        rfl
      · rw [List.append_assoc]
        refine scan_quotes (fun _ => scanLongBasic_quote) few
          (head?_escaped (escaped_escape char) noQuote) ?_
        rw [scanLongBasic_escaped (escaped_escape char) noQuote, afresh]
        rfl

theorem le_longestRun (mark : Char) (text : Chars) : count ≤ longestRun mark count text := by
  induction text generalizing count with
  | nil => exact Nat.le_refl _
  | cons char text ih =>
    rw [longestRun]
    split
    · exact Nat.le_trans (Nat.le_succ count) ih
    · exact Nat.le_max_left ..

theorem not_mem_of_longestRun {mark : Char} (none : longestRun mark 0 text = 0) :
    mark ∉ text := by
  induction text with
  | nil => exact List.not_mem_nil
  | cons char text ih =>
    rw [longestRun] at none
    split at none
    · have run : 0 + 1 ≤ longestRun mark (0 + 1) text := le_longestRun mark text
      omega
    · rename_i different
      have rest : longestRun mark 0 text = 0 := by omega
      exact List.not_mem_cons_of_ne_of_not_mem (Ne.symm different) (ih rest)

theorem scanLongLiteral_plain (visible : isControl char = false ∨ char = '\n')
    (noQuote : char ≠ '\'') :
    scanLongLiteral (char :: rest) = (scanLongLiteral rest).push char := by
  obtain ⟨noReturn, kept⟩ := kept_of_visible visible
  rw [scanLongLiteral]
  · simp [kept]
  all_goals simp [*]

theorem scanLongLiteral_quote (few : ∀ more, rest ≠ '\'' :: '\'' :: more) :
    scanLongLiteral ('\'' :: rest) = (scanLongLiteral rest).push '\'' := by
  rw [scanLongLiteral]
  · rfl
  all_goals simp [few]

theorem scanLongLiteral_append (few : longestRun '\'' quotes text ≤ 2)
    (visible : ∀ char ∈ text, isControl char = false ∨ char = '\n') (rest : Chars) :
    scanLongLiteral (List.replicate quotes '\'' ++
        (text ++ '\'' :: '\'' :: '\'' :: '\n' :: rest)) =
      some (List.replicate quotes '\'' ++ text, '\n' :: rest) := by
  induction text generalizing quotes with
  | nil =>
    obtain rfl | rfl | rfl : quotes = 0 ∨ quotes = 1 ∨ quotes = 2 := by
      rw [longestRun] at few
      omega
    all_goals rfl
  | cons char text ih =>
    rw [List.forall_mem_cons] at visible
    rw [longestRun] at few
    split at few
    · rename_i same
      subst same
      have next := ih few visible.2
      rw [List.replicate_succ', List.append_assoc, List.append_assoc] at next
      exact next
    · rename_i noQuote
      have afresh := @ih 0 (by omega) visible.2
      simp only [List.replicate_zero, List.nil_append] at afresh
      refine scan_quotes (fun _ => scanLongLiteral_quote) (by omega) (by simpa using noQuote) ?_
      rw [List.cons_append, scanLongLiteral_plain visible.1 noQuote, afresh]
      rfl

theorem visible_of_not_needsEscape (free : needsEscape char = false) :
    isControl char = false ∨ char = '\n' := by
  by_cases line : char = '\n'
  · exact .inr line
  · exact .inl (by simpa [needsEscape, isControl, line] using free)

theorem trimFirstLine_firstLine
    (starts : '\n' ∉ text → rest.head? ≠ some '\n' ∧ rest.head? ≠ some '\r') :
    trimFirstLine (firstLine text ++ rest) = rest := by
  rw [firstLine]
  split
  · rfl
  · rename_i single
    obtain ⟨noLine, noReturn⟩ := starts (by simpa using single)
    rw [List.nil_append, trimFirstLine.eq_def]
    split <;> simp_all

theorem head?_escapeLines (single : '\n' ∉ text) :
    (escapeLines 0 text ++ '"' :: rest).head? ≠ some '\n' ∧
      (escapeLines 0 text ++ '"' :: rest).head? ≠ some '\r' := by
  cases text with
  | nil => simp [escapeLines]
  | cons char text =>
    rw [List.mem_cons, not_or] at single
    rw [escapeLines, if_neg (Ne.symm single.1)]
    split
    · simp
    · generalize written : escape char = letters
      have escaped : Escaped char letters := written ▸ escaped_escape char
      cases escaped with
      | letter _ _ _ => simp
      | code _ => simp
      | plain visible _ =>
        obtain ⟨noReturn, -⟩ := kept_of_visible (.inl visible)
        simp [Ne.symm single.1, noReturn]

theorem scanString?_basic (text rest : Chars) :
    scanString? ('"' :: (escapeLine text ++ '"' :: '\n' :: rest)) = some (text, '\n' :: rest) := by
  rw [scanString?]
  · exact scanBasic_escapeLine text _
  · cases text with
    | nil => simp [escapeLine]
    | cons char text =>
      rw [escapeLine, List.flatMap_cons]
      split
      · simp
      · rename_i noQuote
        intro more same
        rw [List.append_assoc] at same
        exact head?_escaped (escaped_escape char) noQuote (congrArg List.head? same)

theorem scanString?_longBasic (text rest : Chars) :
    scanString? ('"' :: '"' :: '"' :: (firstLine text ++
      (escapeLines 0 text ++ '"' :: '"' :: '"' :: '\n' :: rest))) = some (text, '\n' :: rest) := by
  rw [scanString?, trimFirstLine_firstLine head?_escapeLines]
  exact scanLongBasic_escapeLines (Nat.zero_le 2) text rest

theorem scanString?_literal (visible : ∀ char ∈ text, isControl char = false ∧ char ≠ '\'')
    (rest : Chars) :
    scanString? ('\'' :: (text ++ '\'' :: '\n' :: rest)) = some (text, '\n' :: rest) := by
  rw [scanString?]
  · exact scanLiteral_append visible _
  · cases text with
    | nil => simp
    | cons char text => simp [(visible char List.mem_cons_self).2]

theorem scanString?_longLiteral (few : longestRun '\'' 0 text ≤ 2)
    (visible : ∀ char ∈ text, isControl char = false ∨ char = '\n') (rest : Chars) :
    scanString? ('\'' :: '\'' :: '\'' :: (firstLine text ++
      (text ++ '\'' :: '\'' :: '\'' :: '\n' :: rest))) = some (text, '\n' :: rest) := by
  rw [scanString?, trimFirstLine_firstLine ?_]
  · exact scanLongLiteral_append few visible rest
  · cases text with
    | nil => simp
    | cons char text =>
      intro single
      rw [List.mem_cons, not_or] at single
      obtain ⟨noReturn, -⟩ := kept_of_visible (visible char List.mem_cons_self)
      simp [Ne.symm single.1, noReturn]

theorem scanString?_quote (text rest : Chars) :
    scanString? (quote text ++ '\n' :: rest) = some (text, '\n' :: rest) := by
  have basic := scanString?_basic text rest
  have longBasic := scanString?_longBasic text rest
  have visible (free : text.any needsEscape = false) :
      ∀ char ∈ text, isControl char = false ∨ char = '\n' := fun char member =>
    visible_of_not_needsEscape (by simpa using List.any_eq_false.1 free char member)
  rw [quote]
  split
  · simpa using basic
  split
  · rename_i literal
    simp only [Bool.and_eq_true, Bool.not_eq_true', beq_iff_eq] at literal
    obtain ⟨⟨free, singles⟩, oneLine⟩ := literal
    have noLine : '\n' ∉ text := by simpa using oneLine
    have plain := @scanString?_literal text (fun char member =>
      ⟨(visible free char member).resolve_right (fun same => noLine (same ▸ member)),
        fun same => not_mem_of_longestRun singles (same ▸ member)⟩) rest
    simpa using plain
  split
  · simpa using longBasic
  split
  · rename_i literal
    simp only [Bool.and_eq_true, Bool.not_eq_true', decide_eq_true_eq] at literal
    have plain := scanString?_longLiteral literal.2 (visible literal.1) rest
    simpa using plain
  split
  · simpa using longBasic
  · simpa using basic

end Jmap.Toml
