import Mathlib.Data.List.Basic

/-!
# Texts

Texts are lists of characters.  The operations are the ones of Kotlin's
standard library: a replacement goes through the text from left to right and
does not overlap itself, and a number is read digit by digit.
-/

namespace JellyfinTv.Library

abbrev Text := List Char

/-- The rest of a replacement, with the characters of an occurrence that
are still to be left out. -/
def replaceFrom (old new : Text) : Nat → Text → Text
  | _, [] => []
  | skipped + 1, _ :: rest => replaceFrom old new skipped rest
  | 0, char :: rest =>
      if old.isPrefixOf (char :: rest) then
        new ++ replaceFrom old new (old.length - 1) rest
      else
        char :: replaceFrom old new 0 rest

/-- `replace`, for a text that is not empty. -/
def replace (old new text : Text) : Text :=
  replaceFrom old new 0 text

section Replacement

variable {old new : Text}

theorem replaceFrom_append (skipped rest : Text) :
    replaceFrom old new skipped.length (skipped ++ rest) =
      replaceFrom old new 0 rest := by
  induction skipped with
  | nil =>
      rfl
  | cons char skipped inductionHypothesis =>
      rw [List.length_cons, List.cons_append, replaceFrom,
        inductionHypothesis]

/-- An occurrence at the beginning is replaced. -/
theorem replace_append_self (nonempty : old ≠ []) (rest : Text) :
    replace old new (old ++ rest) = new ++ replace old new rest := by
  obtain ⟨char, others, rfl⟩ := List.exists_cons_of_ne_nil nonempty
  have occurs :
      (char :: others).isPrefixOf (char :: (others ++ rest)) = true :=
    List.isPrefixOf_iff_prefix.mpr (List.prefix_append (char :: others) rest)
  rw [replace, List.cons_append, replaceFrom, if_pos occurs,
    List.length_cons, Nat.add_sub_cancel, replaceFrom_append]
  rfl

/-- A character where no occurrence begins is kept. -/
theorem replace_cons_of_absent {char : Char} {rest : Text}
    (other : ¬old <+: char :: rest) :
    replace old new (char :: rest) = char :: replace old new rest := by
  have absent : ¬old.isPrefixOf (char :: rest) = true := by
    rwa [List.isPrefixOf_iff_prefix]
  rw [replace, replaceFrom, if_neg absent]
  rfl

/-- A beginning where no occurrence begins is kept. -/
theorem replace_append_of_absent {front rest : Text}
    (other :
      ∀ tail, tail ≠ [] → tail <:+ front → ¬old <+: tail ++ rest) :
    replace old new (front ++ rest) = front ++ replace old new rest := by
  induction front with
  | nil =>
      rfl
  | cons char front inductionHypothesis =>
      have here := other (char :: front) (List.cons_ne_nil _ _)
        List.suffix_rfl
      rw [List.cons_append] at here
      rw [List.cons_append, replace_cons_of_absent here,
        List.cons_append]
      congr 1
      apply inductionHypothesis
      intro tail nonempty suffix
      exact other tail nonempty (suffix.trans (List.suffix_cons _ _))

end Replacement

/-- `substring(0, indexOf(char))`. -/
def before (char : Char) (text : Text) : Text :=
  text.take (text.idxOf char)

/-- `substring(indexOf(char) + 1)`. -/
def behind (char : Char) (text : Text) : Text :=
  text.drop (text.idxOf char + 1)

section Parts

variable {char : Char} {front rest : Text}

theorem idxOf_first (absent : char ∉ front) :
    (front ++ char :: rest).idxOf char = front.length := by
  rw [List.idxOf_append, if_neg absent, List.idxOf_cons_self,
    Nat.zero_add]

theorem before_first (absent : char ∉ front) :
    before char (front ++ char :: rest) = front := by
  rw [before, idxOf_first absent, List.take_left]

theorem behind_first (absent : char ∉ front) :
    behind char (front ++ char :: rest) = rest := by
  rw [behind, idxOf_first absent, List.append_cons]
  exact List.drop_left' List.length_append

/-- A text with a character is split at the first one. -/
theorem exists_first {text : Text} (member : char ∈ text) :
    ∃ front rest, text = front ++ char :: rest ∧ char ∉ front := by
  induction text with
  | nil =>
      cases member
  | cons first rest inductionHypothesis =>
      by_cases here : char = first
      · subst here
        exact ⟨[], rest, rfl, List.not_mem_nil⟩
      · obtain ⟨front, others, rfl, absent⟩ :=
          inductionHypothesis ((List.mem_cons.mp member).resolve_left here)
        exact
          ⟨first :: front, others, rfl,
            List.not_mem_cons_of_ne_of_not_mem here absent⟩

theorem notMem_before {text : Text} (member : char ∈ text) :
    char ∉ before char text := by
  obtain ⟨front, rest, rfl, absent⟩ := exists_first member
  rwa [before_first absent]

end Parts

/-- The digits zero of the scripts with decimal digits, among the characters
of one UTF-16 unit. -/
def zeros : List Nat :=
  [0x30, 0x660, 0x6F0, 0x7C0, 0x966, 0x9E6, 0xA66, 0xAE6, 0xB66, 0xBE6,
    0xC66, 0xCE6, 0xD66, 0xDE6, 0xE50, 0xED0, 0xF20, 0x1040, 0x1090,
    0x17E0, 0x1810, 0x1946, 0x19D0, 0x1A80, 0x1A90, 0x1B50, 0x1BB0,
    0x1C40, 0x1C50, 0xA620, 0xA8D0, 0xA900, 0xA9D0, 0xA9F0, 0xAA50,
    0xABF0, 0xFF10]

/-- `Character.digit(char, 10)`. -/
def digit (char : Char) : Option Nat :=
  (zeros.find? fun first =>
    first ≤ char.toNat && char.toNat < first + 10).map fun first =>
      char.toNat - first

/-- The number with the digits behind those of another one. -/
def readDigits : Nat → Text → Option Nat
  | number, [] => some number
  | number, char :: rest =>
      (digit char).bind fun value => readDigits (10 * number + value) rest

/-- A number of 32 bits. -/
def inInt (number : Int) : Option Int :=
  if -2147483648 ≤ number ∧ number < 2147483648 then some number else none

/-- The sign of a number and its digits. -/
def signed : Text → Int × Text
  | '-' :: digits => (-1, digits)
  | '+' :: digits => (1, digits)
  | digits => (1, digits)

/-- `toIntOrNull`: the digits of a number, with a sign or without. -/
def toIntOrNull (text : Text) : Option Int :=
  let (sign, digits) := signed text
  if digits.isEmpty then none
  else
    (readDigits 0 digits).bind fun number => inInt (sign * number)

/-- The ten digits of ASCII. -/
def digitChar (value : Fin 10) : Char :=
  Char.ofNat (48 + value)

/-- The number with the decimal digits behind those of another one. -/
def decimalFrom (number : Nat) (digits : List (Fin 10)) : Nat :=
  digits.foldl (fun number value => 10 * number + value) number

theorem digit_digitChar (value : Fin 10) :
    digit (digitChar value) = some value.val := by
  revert value
  decide

/-- A character that is no digit differs from all digits. -/
theorem digitChar_ne {char : Char} (other : digit char = none)
    (value : Fin 10) : digitChar value ≠ char := by
  rintro rfl
  rw [digit_digitChar] at other
  cases other

theorem readDigits_map_digitChar (digits : List (Fin 10)) (number : Nat) :
    readDigits number (digits.map digitChar) =
      some (decimalFrom number digits) := by
  induction digits generalizing number with
  | nil =>
      rfl
  | cons value rest inductionHypothesis =>
      rw [List.map_cons, readDigits, digit_digitChar, Option.bind_some,
        inductionHypothesis]
      rfl

/-- A text with another character is not read. -/
theorem readDigits_of_mem {char : Char} {text : Text} (member : char ∈ text)
    (other : digit char = none) (number : Nat) :
    readDigits number text = none := by
  induction text generalizing number with
  | nil =>
      cases member
  | cons first rest inductionHypothesis =>
      rw [readDigits]
      rcases List.mem_cons.mp member with rfl | later
      · rw [other, Option.bind_none]
      · cases digit first with
        | none =>
            rfl
        | some value =>
            exact inductionHypothesis later _

/-- A digit is no sign. -/
theorem signed_digitChar_cons (value : Fin 10) (rest : Text) :
    signed (digitChar value :: rest) = (1, digitChar value :: rest) := by
  have unsigned : ∀ value, digitChar value ≠ '-' ∧ digitChar value ≠ '+' :=
    by decide
  obtain ⟨minus, plus⟩ := unsigned value
  unfold signed
  split
  next same =>
    exact absurd (List.cons.inj same).1 minus
  next same =>
    exact absurd (List.cons.inj same).1 plus
  next =>
    rfl

theorem toIntOrNull_digitChar_cons (value : Fin 10) (rest : Text) :
    toIntOrNull (digitChar value :: rest) =
      (readDigits 0 (digitChar value :: rest)).bind fun number =>
        inInt number := by
  simp only [toIntOrNull, signed_digitChar_cons, List.isEmpty_cons,
    Bool.false_eq_true, if_false, Int.one_mul]

/-- A number of decimal digits is read if it has 32 bits. -/
theorem toIntOrNull_map_digitChar {digits : List (Fin 10)}
    (nonempty : digits ≠ []) :
    toIntOrNull (digits.map digitChar) = inInt (decimalFrom 0 digits) := by
  have read := readDigits_map_digitChar digits 0
  obtain ⟨value, rest, rfl⟩ := List.exists_cons_of_ne_nil nonempty
  rw [List.map_cons] at read ⊢
  rw [toIntOrNull_digitChar_cons, read, Option.bind_some]

/-- Digits and then another character are no number. -/
theorem toIntOrNull_append_of_mem {digits : List (Fin 10)}
    (nonempty : digits ≠ []) {char : Char} {rest : Text}
    (member : char ∈ rest) (other : digit char = none) :
    toIntOrNull (digits.map digitChar ++ rest) = none := by
  have unread :
      readDigits 0 (digits.map digitChar ++ rest) = none :=
    readDigits_of_mem (List.mem_append_right _ member) other 0
  obtain ⟨value, others, rfl⟩ := List.exists_cons_of_ne_nil nonempty
  rw [List.map_cons, List.cons_append] at unread ⊢
  rw [toIntOrNull_digitChar_cons, unread, Option.bind_none]

end JellyfinTv.Library
