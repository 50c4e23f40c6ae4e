import Mathlib.Data.List.Basic
import Jmap.Proofs.Json.Text
import Jmap.Proofs.Toml.Quoted
import Jmap.Toml.Reader

namespace Jmap.Toml

open Json

variable {char other : Char} {rest : Chars}

theorem ne_of_isDigit (numeral : char.isDigit = true) (apart : other.isDigit = false) :
    char ≠ other := by
  rintro rfl
  exact Bool.false_ne_true (apart.symm.trans numeral)

theorem digits?_of_isDigit {digits : Chars} (nonempty : digits ≠ [])
    (all : ∀ digit ∈ digits, digit.isDigit = true) :
    digits? Char.isDigit digits = some digits := by
  induction digits with
  | nil => exact absurd rfl nonempty
  | cons digit digits ih =>
    rw [List.forall_mem_cons] at all
    cases digits with
    | nil => simp [digits?, all.1]
    | cons next digits =>
      have apart : next ≠ '_' := ne_of_isDigit (all.2 next List.mem_cons_self) rfl
      rw [digits?, if_pos all.1, ih (List.cons_ne_nil _ _) all.2]
      · rfl
      · simp
      · simp [apart]

theorem hexDigit?_of_isDigit (numeral : char.isDigit = true) :
    hexDigit? char = some (char.toNat - '0'.toNat) := by
  have range : '0' ≤ char ∧ char ≤ '9' := by
    simpa [Char.isDigit, Char.le_def] using numeral
  rw [hexDigit?, if_pos range]

theorem isDigit_of_mem_toDigits {number : Nat} :
    ∀ digit ∈ Nat.toDigits 10 number, digit.isDigit = true := fun _ =>
  Nat.isDigit_of_mem_toDigits (by decide) (by decide)

theorem numberOf_toDigits (number : Nat) : numberOf 10 (Nat.toDigits 10 number) = number := by
  have same := @Nat.ofDigitChars_ten_toDigits number
  rw [Nat.ofDigitChars_eq_foldl] at same
  rw [numberOf]
  refine Eq.trans (List.foldl_ext _ _ _ (fun value digit listed => ?_)) same
  rw [hexDigit?_of_isDigit (isDigit_of_mem_toDigits digit listed), Nat.mul_comm, Option.getD_some]

theorem exists_toDigits (number : Nat) :
    ∃ first others, Nat.toDigits 10 number = first :: others ∧ first.isDigit = true ∧
      (first = '0' → others = []) := by
  rcases Nat.eq_zero_or_pos number with rfl | positive
  · exact ⟨'0', [], rfl, rfl, fun _ => rfl⟩
  · obtain ⟨digit, others, same, low, high⟩ := Outline.exists_toDigits_eq_cons positive
    have all : ∀ digit : Fin 10, 0 < digit.val →
        (Nat.digitChar digit).isDigit = true ∧ Nat.digitChar digit ≠ '0' := by decide
    obtain ⟨numeral, notZero⟩ := all ⟨digit, high⟩ low
    exact ⟨_, others, same, numeral, fun zero => absurd zero notZero⟩

theorem decimal?_toDigits (number : Nat) : decimal? (Nat.toDigits 10 number) = some number := by
  obtain ⟨first, others, same, -, single⟩ := exists_toDigits number
  have nonempty : Nat.toDigits 10 number ≠ [] := same ▸ List.cons_ne_nil first others
  rw [decimal?, digits?_of_isDigit nonempty isDigit_of_mem_toDigits]
  simp only [Option.bind_eq_bind, Option.bind_some]
  split
  · rename_i zeros
    rw [same, List.cons.injEq] at zeros
    exact absurd (single zeros.1) (by simp [zeros.2])
  · rw [numberOf_toDigits]

theorem integer?_toDigits (number : Nat) : integer? (Nat.toDigits 10 number) = some ↑number := by
  have decimal := decimal?_toDigits number
  obtain ⟨first, others, same, numeral, single⟩ := exists_toDigits number
  rw [same] at decimal ⊢
  have unsigned : splitSign (first :: others) = (none, first :: others) := by
    rw [splitSign] <;> simp [ne_of_isDigit numeral (rfl : '+'.isDigit = false),
      ne_of_isDigit numeral (rfl : '-'.isDigit = false)]
  rw [integer?]
  · simp only [unsigned, decimal]
    rfl
  all_goals
    intro more same
    obtain ⟨zero, later⟩ := List.cons.inj same
    cases (single zero).symm.trans later

theorem ofWord?_toDigits (value : UInt64) :
    ofWord? (Nat.toDigits 10 value.toNat) = some (.integer value.toNat) := by
  have range : inRange (value.toNat : Int) = true := by
    have bound := value.toNat_lt
    simp only [inRange, Bool.and_eq_true, decide_eq_true_eq]
    omega
  have integer := integer?_toDigits value.toNat
  obtain ⟨first, others, same, numeral, -⟩ := exists_toDigits value.toNat
  rw [same] at integer ⊢
  have noTrue : first :: others ≠ "true".toList := fun same =>
    ne_of_isDigit numeral (rfl : 't'.isDigit = false) (List.cons.inj same).1
  have noFalse : first :: others ≠ "false".toList := fun same =>
    ne_of_isDigit numeral (rfl : 'f'.isDigit = false) (List.cons.inj same).1
  rw [ofWord?, if_neg noTrue, if_neg noFalse, integer]
  exact if_pos range

theorem takeWord_toDigits (number : Nat) (rest : Chars) :
    takeWord (Nat.toDigits 10 number ++ '\n' :: rest) = (Nat.toDigits 10 number, '\n' :: rest) := by
  have all : ∀ digit ∈ Nat.toDigits 10 number, isWordChar digit = true := fun digit listed => by
    simp [isWordChar, Char.isAlphanum, isDigit_of_mem_toDigits digit listed]
  rw [takeWord, List.takeWhile_append_of_pos all, List.dropWhile_append_of_pos all]
  simp [isWordChar]

inductive Scalar where
  | text (value : String)
  | number (value : UInt64)

namespace Scalar

def chars : Scalar → Chars
  | .text value => quote value.toList
  | .number value => Nat.toDigits 10 value.toNat

def toml : Scalar → Toml
  | .text value => .string value
  | .number value => .integer value.toNat

def json : Scalar → Json
  | .text value => .str value
  | .number value => .int value.toNat

theorem outline_toml (scalar : Scalar) : scalar.toml.outline = .ofJson scalar.json := by
  cases scalar <;> simp [toml, json, outline, Outline.ofJson]

end Scalar

theorem quote_cases (text : Chars) :
    ∃ others, quote text = '"' :: others ∨ quote text = '\'' :: others := by
  rw [quote]
  repeat' split
  all_goals simp

theorem scanValue?_scalar (scalar : Scalar) (fuel levels : Nat) (rest : Chars) :
    scanValue? (fuel + 1) levels (scalar.chars ++ '\n' :: rest) =
      some (scalar.toml, '\n' :: rest) := by
  cases scalar with
  | text value =>
    have scanned := scanString?_quote value.toList rest
    obtain ⟨others, double | single⟩ := quote_cases value.toList
    · rw [double] at scanned
      simp only [Scalar.chars, double, List.cons_append, scanValue?] at scanned ⊢
      rw [scanned]
      simp [Scalar.toml]
    · rw [single] at scanned
      simp only [Scalar.chars, single, List.cons_append, scanValue?] at scanned ⊢
      rw [scanned]
      simp [Scalar.toml]
  | number value =>
    have word := takeWord_toDigits value.toNat rest
    obtain ⟨first, others, same, numeral, -⟩ := exists_toDigits value.toNat
    have apart (mark : Char) (noDigit : mark.isDigit = false) : first ≠ mark :=
      ne_of_isDigit numeral noDigit
    rw [Scalar.chars, same, List.cons_append, scanValue?]
    · rw [← List.cons_append, ← same, word]
      simp [ofWord?_toDigits, Scalar.toml]
    all_goals simp [apart '[' rfl, apart '\x7b' rfl, apart '"' rfl, apart '\'' rfl]

theorem skipSpaces_cons (visible : isSpace char = false) :
    skipSpaces (char :: rest) = char :: rest :=
  List.dropWhile_cons_of_neg (by simp [visible])

theorem Scalar.skipSpaces_append (scalar : Scalar) (rest : Chars) :
    skipSpaces (scalar.chars ++ rest) = scalar.chars ++ rest := by
  cases scalar with
  | text value =>
    obtain ⟨others, double | single⟩ := quote_cases value.toList
    · rw [chars, double]
      exact skipSpaces_cons rfl
    · rw [chars, single]
      exact skipSpaces_cons rfl
  | number value =>
    obtain ⟨first, others, same, numeral, -⟩ := exists_toDigits value.toNat
    rw [chars, same]
    refine skipSpaces_cons ?_
    simp [isSpace, ne_of_isDigit numeral (rfl : ' '.isDigit = false),
      ne_of_isDigit numeral (rfl : '\t'.isDigit = false)]

end Jmap.Toml
