import Mathlib.Data.List.TakeWhile
import SentenceGraph.Json.Printer
import SentenceGraph.Json.Reader
import SentenceGraph.Proofs.Spelling

/-!
# Strings and numbers of JSON texts

A string, a word or a number that was written is read back from the front of a text, and what follows
it is left over. A string ends at its closing quote, since the quotes in it are escaped. A number
ends at the first character that cannot belong to it: what follows a value in a text is its end, a
comma, a line feed or a closing bracket.
-/

namespace SentenceGraph.Json

open Decimal

/-! ### Strings -/

section Strings

theorem hexValue?_hexDigit {value : Nat} (small : value < 16) :
    hexValue? (Text.hexDigit value) = some value := by
  have each : ∀ value < 16, hexValue? (Text.hexDigit value) = some value := by decide
  exact each value small

theorem readUnit_hexDigits {unit : Nat} (small : unit < 65536) (rest : List Char) :
    readUnit (Text.hexDigits 4 unit ++ rest) = some (unit, rest) := by
  have digits : Text.hexDigits 4 unit =
      [Text.hexDigit (unit / 4096 % 16), Text.hexDigit (unit / 256 % 16),
        Text.hexDigit (unit / 16 % 16), Text.hexDigit (unit / 1 % 16)] := rfl
  have value (place : Nat) := hexValue?_hexDigit (Nat.mod_lt (unit / place) (by decide : 16 > 0))
  simp only [digits, List.cons_append, List.nil_append, readUnit, value]
  simp
  omega

theorem readUnitEscape_hexDigits {character : Char} (control : character.toNat < 0x20)
    (rest : List Char) :
    readUnitEscape (Text.hexDigits 4 character.toNat ++ rest) = some (character, rest) := by
  have read := readUnit_hexDigits (Nat.lt_trans control (by decide)) rest
  have noHigh : ¬0xD800 ≤ character.toNat := by omega
  have noLow : ¬0xDC00 ≤ character.toNat := by omega
  simp [readUnitEscape, read, noHigh, noLow, Char.ofNat_toNat]

/-- Control characters are escaped by a letter or by number, quotes and backslashes by themselves. -/
theorem readStringChar_escapeChar (character : Char) (rest : List Char) :
    readStringChar (escapeChar character ++ rest) = some (character, rest) := by
  simp only [escapeChar, beq_iff_eq]
  split_ifs with _ backslash _ _ _ _ _ control
  all_goals try (subst character; rfl)
  · exact readUnitEscape_hexDigits control rest
  · rw [List.singleton_append, readStringChar]
    · simp [control]
    all_goals simp [backslash]

/-- What is written for a character does not start with the closing quote. -/
theorem exists_escapeChar_eq_cons (character : Char) :
    ∃ first others, escapeChar character = first :: others ∧ first ≠ '"' := by
  simp only [escapeChar, beq_iff_eq]
  split_ifs with quote
  all_goals first
    | exact ⟨_, _, rfl, by decide⟩
    | exact ⟨_, _, rfl, quote⟩

theorem readString_escaped {steps : Nat} {content : List Char} (rest : List Char)
    (enough : content.length ≤ steps) :
    readString steps (content.flatMap escapeChar ++ '"' :: rest) = some (content, rest) := by
  induction content generalizing steps with
  | nil => cases steps <;> rfl
  | cons character content inductionHypothesis =>
      rcases exists_escapeChar_eq_cons character with ⟨first, others, written, noQuote⟩
      have read := readStringChar_escapeChar character
        (content.flatMap escapeChar ++ '"' :: rest)
      cases steps with
      | zero => simp at enough
      | succ steps =>
          have more := inductionHypothesis (Nat.le_of_succ_le_succ enough)
          rw [List.flatMap_cons, List.append_assoc, readString, read]
          · simp [more]
          · simp [written, noQuote]

end Strings

/-! ### Numbers -/

/-- What may follow a value: the end of the text, a comma, a line feed or a closing bracket. -/
def Closes (rest : List Char) : Prop :=
  ∀ character ∈ rest.head?, character ∈ [',', '\n', ']', '\x7d']

theorem closes_nil : Closes [] := by
  simp [Closes]

theorem closes_cons {character : Char} (closing : character ∈ [',', '\n', ']', '\x7d'])
    (rest : List Char) : Closes (character :: rest) := by
  simpa [Closes] using closing

theorem Closes.imp {P : Char → Prop} {rest : List Char} (closes : Closes rest)
    (each : ∀ character ∈ [',', '\n', ']', '\x7d'], P character) :
    ∀ character ∈ rest.head?, P character :=
  fun character character_mem => each character (closes character character_mem)

/-- A text that does not go on with a digit. -/
def DigitsEnd (rest : List Char) : Prop :=
  ∀ character ∈ rest.head?, character.isDigit = false

theorem Closes.digitsEnd {rest : List Char} (closes : Closes rest) : DigitsEnd rest :=
  closes.imp (by simp)

theorem digitsEnd_cons {character : Char} (noDigit : character.isDigit = false)
    (rest : List Char) : DigitsEnd (character :: rest) := by
  simpa [DigitsEnd] using noDigit

theorem spanDigits_append {digits rest : List Char}
    (allDigits : ∀ character ∈ digits, character.isDigit = true) (ends : DigitsEnd rest) :
    spanDigits (digits ++ rest) = (digits, rest) := by
  have taken : rest.takeWhile Char.isDigit = [] := by
    cases rest with
    | nil => rfl
    | cons character rest => simp [ends character rfl]
  have dropped : rest.dropWhile Char.isDigit = rest := by
    cases rest with
    | nil => rfl
    | cons character rest => simp [ends character rfl]
  simp only [spanDigits, List.takeWhile_append_of_pos allDigits,
    List.dropWhile_append_of_pos allDigits, taken, dropped, List.append_nil]

/-- Digits before a point: a zero by itself, or digits that start with another one. -/
structure IsWhole (digits : List Char) : Prop where
  start : digits = ['0'] ∨ ∃ first others, digits = first :: others ∧ first ≠ '0'
  allDigits : ∀ character ∈ digits, character.isDigit = true

theorem isWhole_toDigits (number : Nat) : IsWhole (Nat.toDigits 10 number) := by
  refine ⟨?_, fun _ => isDigit_of_mem_toDigits⟩
  rcases Nat.eq_zero_or_pos number with rfl | positive
  · exact Or.inl rfl
  · exact Or.inr (exists_toDigits_eq_cons positive)

theorem IsWhole.exists_eq_cons {digits : List Char} (whole : IsWhole digits) :
    ∃ first others, digits = first :: others ∧ first.isDigit = true := by
  rcases whole.start with rfl | ⟨first, others, rfl, _⟩
  · exact ⟨'0', [], rfl, rfl⟩
  · exact ⟨first, others, rfl, whole.allDigits first List.mem_cons_self⟩

theorem IsWhole.readWhole {digits rest : List Char} (whole : IsWhole digits)
    (ends : DigitsEnd rest) : readWhole (digits ++ rest) = some (digits, rest) := by
  have span := spanDigits_append whole.allDigits ends
  rcases whole.start with rfl | ⟨first, others, rfl, nonzero⟩
  · rfl
  · rw [Json.readWhole]
    · rw [span]
    · simp [nonzero]

theorem readFraction_of_noPoint {rest : List Char} (noPoint : ∀ mark ∈ rest.head?, mark ≠ '.') :
    readFraction rest = ([], rest) := by
  cases rest with
  | nil => rfl
  | cons character rest =>
      rw [readFraction]
      simpa using noPoint

theorem readFraction_of_closes {rest : List Char} (closes : Closes rest) :
    readFraction rest = ([], rest) :=
  readFraction_of_noPoint (closes.imp (by simp))

theorem readFraction_append {fraction rest : List Char} (notEmpty : fraction ≠ [])
    (allDigits : ∀ character ∈ fraction, character.isDigit = true) (ends : DigitsEnd rest) :
    readFraction ('.' :: (fraction ++ rest)) = (fraction, rest) := by
  have span := spanDigits_append allDigits ends
  cases fraction with
  | nil => contradiction
  | cons first fraction => simp only [readFraction, span]

theorem readExponent_of_noMark {rest : List Char}
    (noMark : ∀ mark ∈ rest.head?, mark ≠ 'e' ∧ mark ≠ 'E') :
    readExponent rest = (none, rest) := by
  cases rest with
  | nil => rfl
  | cons character rest => simp [readExponent, noMark character rfl]

theorem readExponent_of_closes {rest : List Char} (closes : Closes rest) :
    readExponent rest = (none, rest) :=
  readExponent_of_noMark (closes.imp (by simp))

theorem readExponent_append {digits rest : List Char} (negative : Bool) (notEmpty : digits ≠ [])
    (allDigits : ∀ character ∈ digits, character.isDigit = true) (ends : DigitsEnd rest) :
    readExponent ('e' :: (if negative then '-' else '+') :: (digits ++ rest)) =
      (some (if negative then -(ofDigits digits : Int) else ofDigits digits), rest) := by
  have span := spanDigits_append allDigits ends
  cases digits with
  | nil => contradiction
  | cons first digits =>
      rw [List.cons_append] at span
      cases negative with
      | false => simp [readExponent, span]
      | true => simp [readExponent, span]

section Numerals

variable {rest : List Char} {numeral : Numeral}

theorem isWhole_whole (numeral : Numeral) : IsWhole numeral.whole :=
  ⟨numeral.whole_eq, fun character character_mem =>
    numeral.digits character (List.mem_append_left _ character_mem)⟩

theorem readExponent_exponentChars (closes : Closes rest) :
    readExponent (numeral.exponentChars ++ rest) = (numeral.power?, rest) := by
  rw [Numeral.exponentChars, Numeral.power?]
  cases scale : numeral.exponent with
  | none =>
      exact readExponent_of_closes closes
  | some exponent =>
      rcases numeral.exponentDigits exponent scale with ⟨notEmpty, allDigits⟩
      exact readExponent_append exponent.1 notEmpty allDigits closes.digitsEnd

theorem digitsEnd_exponentChars (closes : Closes rest) :
    DigitsEnd (numeral.exponentChars ++ rest) := by
  rw [Numeral.exponentChars]
  split
  · exact closes.digitsEnd
  · exact digitsEnd_cons rfl _

theorem readFraction_fractionChars (closes : Closes rest) :
    readFraction (numeral.fractionChars ++ (numeral.exponentChars ++ rest)) =
      (numeral.fraction, numeral.exponentChars ++ rest) := by
  rw [Numeral.fractionChars]
  split
  · rename_i whole
    rw [whole]
    apply readFraction_of_noPoint
    rw [Numeral.exponentChars]
    split
    · exact closes.imp (by simp)
    · simp
  · rename_i notEmpty
    apply readFraction_append notEmpty _ (digitsEnd_exponentChars closes)
    intro character character_mem
    exact numeral.digits character (List.mem_append_right _ character_mem)

theorem digitsEnd_fractionChars (closes : Closes rest) :
    DigitsEnd (numeral.fractionChars ++ (numeral.exponentChars ++ rest)) := by
  rw [Numeral.fractionChars]
  split
  · exact digitsEnd_exponentChars closes
  · exact digitsEnd_cons rfl _

variable {R : Type} [Quantity R]

/-- A numeral is read as the quantity that its digits and its exponent stand for. -/
theorem readMagnitude_numeral (negative : Bool) (closes : Closes rest) :
    (readMagnitude negative (numeral.chars ++ rest) : Option (Value R × List Char)) =
      some (.real (Quantity.ofDecimal negative numeral.significand numeral.scale), rest) := by
  have broken : ¬(numeral.fraction.isEmpty && numeral.power?.isNone) = true := by
    simpa [Numeral.power?, imp_iff_not_or] using numeral.broken
  rw [readMagnitude, Numeral.chars, List.append_assoc, List.append_assoc,
    (isWhole_whole numeral).readWhole (digitsEnd_fractionChars closes)]
  simp only [Option.bind_eq_bind, Option.bind_some, readFraction_fractionChars closes,
    readExponent_exponentChars closes, if_neg broken]
  rfl

theorem readMagnitude_toDigits (negative : Bool) (number : Nat) (closes : Closes rest) :
    (readMagnitude negative (Nat.toDigits 10 number ++ rest) : Option (Value R × List Char)) =
      some (.int (if negative then -number else number), rest) := by
  have noFraction := readFraction_of_closes closes
  have noExponent := readExponent_of_closes closes
  rw [readMagnitude, (isWhole_toDigits number).readWhole closes.digitsEnd]
  simp [noFraction, noExponent, ofDigits_toDigits]

/-- A number is told from the words by its first digit. -/
theorem readAtom_signed (negative : Bool) {first : Char} (digit : first.isDigit = true)
    (others : List Char) :
    (readAtom (if negative then '-' :: first :: others else first :: others) :
      Option (Value R × List Char)) = readMagnitude negative (first :: others) := by
  have other : ∀ letter : Char, letter.isDigit = false → letter ≠ first := by
    rintro letter noDigit rfl
    rw [noDigit] at digit
    contradiction
  have noWord : ('n' == first) = false ∧ ('t' == first) = false ∧ ('f' == first) = false ∧
      ('N' == first) = false ∧ ('I' == first) = false ∧ ('-' == first) = false := by
    simp [other]
  cases negative with
  | false =>
      have found : (words : List (List Char × Value R)).find?
          (fun word => word.1.isPrefixOf (first :: others)) = none := by
        simp [words, List.isPrefixOf, noWord]
      have noSign : ∀ rest, first :: others ≠ '-' :: rest := by
        intro rest same
        exact other '-' rfl (List.cons.inj same).1.symm
      rw [if_neg (by decide), readAtom, found]
      exact noSign
  | true =>
      have found : (words : List (List Char × Value R)).find?
          (fun word => word.1.isPrefixOf ('-' :: first :: others)) = none := by
        simp [words, List.isPrefixOf, noWord]
      rw [if_pos rfl, readAtom, found]

/-! ### Atoms -/

/-- No word begins another one. -/
theorem readAtom_word {word : List Char × Value R} (word_mem : word ∈ (words : List _))
    (rest : List Char) : readAtom (word.1 ++ rest) = some (word.2, rest) := by
  simp only [words, List.mem_cons, List.not_mem_nil, or_false] at word_mem
  rcases word_mem with rfl | rfl | rfl | rfl | rfl | rfl
  all_goals rfl

theorem readAtom_integerChars (number : Int) (closes : Closes rest) :
    (readAtom (integerChars number ++ rest) : Option (Value R × List Char)) =
      some (.int number, rest) := by
  rcases (isWhole_toDigits number.natAbs).exists_eq_cons with ⟨first, others, written, digit⟩
  -- The sign is told apart from the digits first, and is put back into the number below.
  have signed (negative : Bool) :=
    (readAtom_signed (R := R) negative digit (others ++ rest)).trans
      (by rw [← List.cons_append, ← written, readMagnitude_toDigits negative number.natAbs closes])
  rw [integerChars, written]
  split
  · rename_i below
    have read := signed true
    rw [if_pos rfl, if_pos rfl] at read
    rw [List.cons_append, List.cons_append, read]
    congr 3
    omega
  · rename_i notBelow
    have read := signed false
    rw [if_neg (by decide), if_neg (by decide)] at read
    rw [List.cons_append, read]
    congr 3
    omega

theorem readAtom_withSign (negative : Bool) (closes : Closes rest) :
    (readAtom ((withSign negative numeral.chars).toList ++ rest) : Option (Value R × List Char)) =
      some (.real (Quantity.ofDecimal negative numeral.significand numeral.scale), rest) := by
  rcases (isWhole_whole numeral).exists_eq_cons with ⟨first, others, written, digit⟩
  have spelled : numeral.chars ++ rest =
      first :: (others ++ (numeral.fractionChars ++ numeral.exponentChars) ++ rest) := by
    rw [Numeral.chars, written]
    simp
  have signed := readAtom_signed (R := R) negative digit
    (others ++ (numeral.fractionChars ++ numeral.exponentChars) ++ rest)
  rw [← spelled, readMagnitude_numeral negative closes] at signed
  rw [withSign, String.toList_ofList]
  cases negative with
  | false => exact signed
  | true => exact signed

end Numerals

/-! ### Quantities -/

section Quantities

variable {R : Type} [Quantity R] {rest : List Char} {quantity : R} {negative : Bool}
  {numeral : Numeral}

/-- What the literal of a quantity is read as. -/
def reread (quantity : R) : R :=
  match readAtom (writeReal quantity) with
  | some (.real read, _) => read
  | _ => quantity

/-- A quantity is written as a numeral or as one of the words for what is no number. -/
def IsNumeric (quantity : R) : Prop :=
  Quantity.nonFinite? quantity = none →
    ∃ negative numeral, Quantity.text quantity = withSign negative (Numeral.chars numeral)

theorem isNumeric_float (value : Float) : IsNumeric value := by
  intro finite
  change (Binary.ofFloat value).nonFinite? = none at finite
  change ∃ negative numeral, (Binary.ofFloat value).text = withSign negative (Numeral.chars numeral)
  cases parts : Binary.ofFloat value with
  | notANumber => simp [parts, Binary.nonFinite?] at finite
  | infinite negative => simp [parts, Binary.nonFinite?] at finite
  | finite negative mantissa exponent =>
      exact ⟨negative, exists_numeral_text negative mantissa exponent⟩

theorem readAtom_writeReal_of_numeral (finite : Quantity.nonFinite? quantity = none)
    (spelled : Quantity.text quantity = withSign negative numeral.chars) (closes : Closes rest) :
    (readAtom (writeReal quantity ++ rest) : Option (Value R × List Char)) =
      some (.real (Quantity.ofDecimal negative numeral.significand numeral.scale), rest) := by
  rw [writeReal, finite]
  simp only [spelled]
  exact readAtom_withSign negative closes

theorem reread_of_numeral (finite : Quantity.nonFinite? quantity = none)
    (spelled : Quantity.text quantity = withSign negative numeral.chars) :
    reread quantity = Quantity.ofDecimal negative numeral.significand numeral.scale := by
  have read := readAtom_writeReal_of_numeral finite spelled closes_nil
  rw [List.append_nil] at read
  rw [reread, read]

theorem readAtom_writeReal (numeric : IsNumeric quantity) (closes : Closes rest) :
    readAtom (writeReal quantity ++ rest) = some (.real (reread quantity), rest) := by
  cases finite : Quantity.nonFinite? quantity with
  | none =>
      rcases numeric finite with ⟨negative, numeral, spelled⟩
      rw [readAtom_writeReal_of_numeral finite spelled closes, reread_of_numeral finite spelled]
  | some kind =>
      have isWord : (writeReal quantity, Value.real (Quantity.ofNonFinite kind)) ∈
          (words : List (List Char × Value R)) := by
        rw [writeReal, finite]
        cases kind with
        | notANumber => simp [words]
        | infinite negative => cases negative <;> simp [words]
      have read := readAtom_word isWord []
      rw [List.append_nil] at read
      rw [readAtom_word isWord rest, reread, read]

end Quantities

end SentenceGraph.Json
