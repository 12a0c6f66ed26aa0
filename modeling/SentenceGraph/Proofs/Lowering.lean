import Mathlib.Data.List.Basic
import SentenceGraph.Text.DecimalDigit
import SentenceGraph.Text.Lowercase
import SentenceGraph.Text.WordChar

/-!
# What lowercase leaves alone

Lowercase maps some letters to others. A class of characters that has nothing to do with these
letters is the same before and after: a text has a member of it exactly if its lowercase form has
one. The tables of the text layer decide which classes these are; the decimal digits of all scripts
are one of them, and they are characters of words.
-/

namespace SentenceGraph.Text

/-- The codes of the letters that are mapped and those of their images. Zero is among them, which
stands for an image that is no character. -/
def mappedCodes : List (Nat × Nat) :=
  [(0, 0), (0x41, 0x5A), (0x61, 0x7A), (0x130, 0x130), (0x307, 0x307), (0x3A3, 0x3A3),
      (0x3C2, 0x3C3)] ++
    lowercaseRuns.toList.flatMap fun run =>
      [(run.first, run.last), ((run.first + run.shift).toNat, (run.last + run.shift).toNat)]

/-- A letter that lowercase maps, or an image of one. -/
def IsMapped (letter : Char) : Prop :=
  ∃ codes ∈ mappedCodes, codes.1 ≤ letter.toNat ∧ letter.toNat ≤ codes.2

/-- A class of characters that has nothing to do with letters that are mapped. -/
def IsUncased (choice : Char → Bool) : Prop :=
  ∀ letter, IsMapped letter → choice letter = false

section Mapped

variable {letter : Char} {before after : List Char}

theorem toNat_ofNat (code : Nat) :
    (Char.ofNat code).toNat = code ∨ (Char.ofNat code).toNat = 0 := by
  by_cases valid : code.isValidChar
  · left
    rw [Char.ofNat, dif_pos valid]
    rfl
  · right
    rw [Char.ofNat, dif_neg valid]
    rfl

theorem isMapped_of_toNat {first last : Nat} (codes_mem : (first, last) ∈ mappedCodes)
    (low : first ≤ letter.toNat) (high : letter.toNat ≤ last) : IsMapped letter :=
  ⟨_, codes_mem, low, high⟩

theorem isMapped_of_covers {run : LowercaseRun} (run_mem : run ∈ lowercaseRuns)
    (covers : run.covers letter.toNat = true) :
    IsMapped letter ∧ IsMapped (Char.ofNat (letter.toNat + run.shift).toNat) := by
  have listed : ∀ codes ∈ [(run.first, run.last),
      ((run.first + run.shift).toNat, (run.last + run.shift).toNat)], codes ∈ mappedCodes := by
    intro codes codes_mem
    apply List.mem_append_right
    exact List.mem_flatMap.mpr ⟨run, Array.mem_toList_iff.mpr run_mem, codes_mem⟩
  simp only [List.forall_mem_cons] at listed
  rcases listed with ⟨letters, images, _⟩
  simp only [LowercaseRun.covers, Bool.and_eq_true, decide_eq_true_eq] at covers
  rcases covers with ⟨⟨low, high⟩, _⟩
  refine ⟨isMapped_of_toNat letters low high, ?_⟩
  rcases toNat_ofNat (letter.toNat + run.shift).toNat with same | none
  · apply isMapped_of_toNat images
    · omega
    · omega
  · have zero : (0, 0) ∈ mappedCodes := by simp [mappedCodes]
    apply isMapped_of_toNat zero
    · omega
    · omega

theorem toLower_cases {code : Nat} (ascii : code < 0x80) :
    (Char.ofNat code).toLower = Char.ofNat code ∨
      IsMapped (Char.ofNat code) ∧ IsMapped (Char.ofNat code).toLower := by
  have letters : ∀ code < 0x80, (Char.ofNat code).toLower = Char.ofNat code ∨
      (0x41 ≤ (Char.ofNat code).toNat ∧ (Char.ofNat code).toNat ≤ 0x5A) ∧
        (0x61 ≤ (Char.ofNat code).toLower.toNat ∧ (Char.ofNat code).toLower.toNat ≤ 0x7A) := by
    decide
  rcases letters code ascii with same | ⟨upper, lower⟩
  · exact Or.inl same
  · have capitals : (0x41, 0x5A) ∈ mappedCodes := by simp [mappedCodes]
    have smalls : (0x61, 0x7A) ∈ mappedCodes := by simp [mappedCodes]
    right
    constructor
    · exact isMapped_of_toNat capitals upper.1 upper.2
    · exact isMapped_of_toNat smalls lower.1 lower.2

theorem lowerLetter_cases (letter : Char) :
    lowerLetter letter = letter ∨ IsMapped letter ∧ IsMapped (lowerLetter letter) := by
  rw [lowerLetter]
  split
  · rename_i ascii
    have lower := toLower_cases ascii
    rwa [Char.ofNat_toNat] at lower
  · split
    · rename_i run found
      rw [Array.find?_eq_some_iff_append] at found
      rcases found with ⟨covers, earlier, later, split, _⟩
      have run_mem : run ∈ lowercaseRuns := by
        rw [split]
        simp
      exact Or.inr (isMapped_of_covers run_mem covers)
    · exact Or.inl rfl

theorem lowerAt_cases (before : List Char) (letter : Char) (after : List Char) :
    lowerAt before letter after = [letter] ∨
      IsMapped letter ∧ ∀ lower ∈ lowerAt before letter after, IsMapped lower := by
  have dotted : IsMapped '\u0130' ∧ IsMapped 'i' ∧ IsMapped '\u0307' := by
    simp [IsMapped, mappedCodes]
  have sigma : IsMapped 'Σ' ∧ IsMapped 'ς' ∧ IsMapped 'σ' := by
    simp [IsMapped, mappedCodes]
  rw [lowerAt]
  split
  · rename_i isDotted
    rw [beq_iff_eq.mp isDotted]
    refine Or.inr ⟨dotted.1, ?_⟩
    simpa using dotted.2
  · split
    · rename_i isSigma
      rw [beq_iff_eq.mp isSigma]
      refine Or.inr ⟨sigma.1, ?_⟩
      intro lower lower_mem
      rw [List.mem_singleton.mp lower_mem]
      split
      · exact sigma.2.1
      · exact sigma.2.2
    · rcases lowerLetter_cases letter with same | ⟨mapped, image⟩
      · rw [same]
        exact Or.inl rfl
      · refine Or.inr ⟨mapped, ?_⟩
        intro lower lower_mem
        rw [List.mem_singleton.mp lower_mem]
        exact image

end Mapped

namespace IsUncased

variable {choice : Char → Bool}

theorem any_lowerAt (uncased : IsUncased choice) (before : List Char) (letter : Char)
    (after : List Char) : (lowerAt before letter after).any choice = choice letter := by
  rcases lowerAt_cases before letter after with same | ⟨mapped, images⟩
  · simp [same]
  · rw [uncased letter mapped, List.any_eq_false]
    intro lower lower_mem
    simp [uncased lower (images lower lower_mem)]

theorem any_lowerAfter (uncased : IsUncased choice) (before characters : List Char) :
    (lowerAfter before characters).any choice = characters.any choice := by
  induction characters generalizing before with
  | nil => rfl
  | cons letter after inductionHypothesis =>
      rw [lowerAfter, List.any_append, uncased.any_lowerAt, inductionHypothesis, List.any_cons]

theorem any_lowercase (uncased : IsUncased choice) (text : String) :
    (lowercase text).toList.any choice = text.toList.any choice := by
  rw [lowercase, String.toList_ofList, uncased.any_lowerAfter]

end IsUncased

/-! ### Decimal digits -/

/-- Whether two ranges of codes have no member in common. -/
def areApart (range other : Nat × Nat) : Bool :=
  range.2.blt other.1 || other.2.blt range.1

def isWithin (range other : Nat × Nat) : Bool :=
  other.1.ble range.1 && range.2.ble other.2

/-- The codes of decimal digits: those of ASCII, and the ranges of the table. -/
def digitCodes : List (Nat × Nat) :=
  (0x30, 0x39) :: digitRanges.toList

theorem exists_range_of_isDecimalDigit {character : Char}
    (digit : isDecimalDigit character = true) :
    ∃ range ∈ digitCodes, range.1 ≤ character.toNat ∧ character.toNat ≤ range.2 := by
  rw [isDecimalDigit, digitValue?] at digit
  split at digit
  · split at digit
    · rename_i plain
      exact ⟨_, List.mem_cons_self, Char.isDigit_iff_toNat.mp plain⟩
    · contradiction
  · rw [Option.isSome_map, Array.find?_isSome] at digit
    rcases digit with ⟨range, range_mem, inside⟩
    rw [Bool.and_eq_true, decide_eq_true_eq, decide_eq_true_eq] at inside
    exact ⟨range, List.mem_cons_of_mem _ (Array.mem_toList_iff.mpr range_mem), inside⟩

theorem isUncased_isDecimalDigit : IsUncased isDecimalDigit := by
  have apart : (digitCodes.all fun digits => mappedCodes.all (areApart digits)) = true := by
    decide +kernel
  simp only [List.all_eq_true, areApart, Bool.or_eq_true, Nat.blt_eq] at apart
  intro letter mapped
  rw [Bool.eq_false_iff]
  intro digit
  rcases mapped with ⟨codes, codes_mem, low, high⟩
  rcases exists_range_of_isDecimalDigit digit with ⟨digits, digits_mem, below, above⟩
  rcases apart digits digits_mem codes codes_mem with before | after
  · omega
  · omega

/-- The digits of a text are digits of its words. -/
theorem isWordChar_of_isDecimalDigit {character : Char}
    (digit : isDecimalDigit character = true) : isWordChar character = true := by
  have within : (digitRanges.toList.all fun digits =>
      Nat.ble 0x80 digits.1 && wordRanges.toList.any (isWithin digits)) = true := by
    decide +kernel
  simp only [List.all_eq_true, Bool.and_eq_true, List.any_eq_true, isWithin, Nat.ble_eq] at within
  rcases exists_range_of_isDecimalDigit digit with ⟨digits, digits_mem, low, high⟩
  rcases List.mem_cons.mp digits_mem with rfl | listed
  · have plain : character.isDigit = true := Char.isDigit_iff_toNat.mpr ⟨low, high⟩
    rw [isWordChar, if_pos (by omega), Char.isAlphanum, plain]
    simp
  · rcases within digits listed with ⟨beyond, letters, letters_mem, below, above⟩
    rw [isWordChar, if_neg (by omega), CodeRanges.holds, Array.any_eq_true']
    refine ⟨letters, Array.mem_toList_iff.mp letters_mem, ?_⟩
    simp
    omega

end SentenceGraph.Text
