import Mathlib.Algebra.GroupWithZero.Nat
import SentenceGraph.Proofs.Routing
import SentenceGraph.Proofs.Spelling
import SentenceGraph.Report

/-!
# Lines of outlines

An outline has a line for each entry that it renders and one for each item of a list. Keys and texts
are copied into their lines as they are, so that a line feed in one of them ends its line early and
what follows it looks like a line of its own. Nothing else adds lines: the other scalars are written
without line feeds, and within a list that is an item of a list, texts are quoted.
-/

namespace SentenceGraph

namespace Text

/-- The number of line feeds in a text. -/
def lineFeeds (text : String) : Nat :=
  text.toList.count '\n'

@[simp]
theorem lineFeeds_append (first second : String) :
    lineFeeds (first ++ second) = lineFeeds first + lineFeeds second := by
  simp [lineFeeds]

theorem lineFeeds_eq_zero_iff {text : String} : lineFeeds text = 0 ↔ '\n' ∉ text.toList :=
  List.count_eq_zero

theorem lineFeeds_join (texts : List String) :
    lineFeeds (String.join texts) = (texts.map lineFeeds).sum := by
  induction texts with
  | nil => rfl
  | cons text texts inductionHypothesis => simp [String.join_cons, inductionHypothesis]

/-- There is one more piece than separators. -/
theorem length_split (text : String) : (split '\n' text).length = lineFeeds text + 1 := by
  have pieces : ∀ characters, (splitAt '\n' characters).length = characters.count '\n' + 1 := by
    intro characters
    induction characters with
    | nil => rfl
    | cons character rest inductionHypothesis =>
        cases pieces : splitAt '\n' rest with
        | nil => simp [pieces] at inductionHypothesis
        | cons piece others =>
            rw [pieces] at inductionHypothesis
            by_cases newline : character = '\n'
            · simp [splitAt, pieces, newline, ← inductionHypothesis]
            · simp [splitAt, pieces, newline, ← inductionHypothesis]
  simp [split, lineFeeds, pieces]

/-- Lines that are each ended by a line feed are found again if they have no other line feed. -/
theorem split_join_lines {lines : List String} (whole : ∀ line ∈ lines, '\n' ∉ line.toList) :
    split '\n' (String.join (lines.map (· ++ "\n"))) = lines ++ [""] := by
  induction lines with
  | nil => rfl
  | cons line lines inductionHypothesis =>
      rcases List.forall_mem_cons.mp whole with ⟨first, others⟩
      have pieces := inductionHypothesis others
      have spelled : (String.join ((line :: lines).map (· ++ "\n"))).toList =
          line.toList ++ '\n' :: (String.join (lines.map (· ++ "\n"))).toList := by
        simp
      rw [split] at pieces ⊢
      rw [spelled, splitAt_append first, List.map_cons, pieces]
      simp

theorem newline_not_mem_intercalate {separator : String} {parts : List String}
    (separatorPlain : '\n' ∉ separator.toList) (partsPlain : ∀ part ∈ parts, '\n' ∉ part.toList) :
    '\n' ∉ (separator.intercalate parts).toList := by
  induction parts with
  | nil => simp
  | cons part parts inductionHypothesis =>
      rcases List.forall_mem_cons.mp partsPlain with ⟨partPlain, othersPlain⟩
      have others := inductionHypothesis othersPlain
      cases parts with
      | nil => simpa using partPlain
      | cons next parts => simp_all [String.intercalate_cons_cons]

theorem newline_not_mem_hexDigits (width value : Nat) : '\n' ∉ hexDigits width value := by
  have digit : ∀ value < 16, hexDigit value ≠ '\n' := by decide
  simp only [hexDigits, List.mem_map, not_exists, not_and]
  intro place _
  exact digit _ (Nat.mod_lt _ (by decide))

theorem newline_not_mem_quoteChar {mark : Char} (plain : mark ≠ '\n') (character : Char) :
    '\n' ∉ quoteChar mark character := by
  by_cases newline : character = '\n'
  · subst newline
    simp [quoteChar, Ne.symm plain]
  · simp only [quoteChar, escapeCodePoint]
    split_ifs
    all_goals simp [Ne.symm newline, newline_not_mem_hexDigits]

theorem newline_not_mem_quoted (text : String) : '\n' ∉ (quoted text).toList := by
  have plain : quoteMark text.toList ≠ '\n' := by
    rw [quoteMark]
    split
    · decide
    · decide
  simp [quoted, Ne.symm plain, newline_not_mem_quoteChar plain]

end Text

namespace Decimal

theorem newline_not_mem_integerText (number : Int) : '\n' ∉ (integerText number).toList := by
  have plain : '\n' ∉ Nat.toDigits 10 number.natAbs := by
    intro newline_mem
    have digit := isDigit_of_mem_toDigits newline_mem
    contradiction
  rw [integerText, integerChars, String.toList_ofList]
  split
  · simp [plain]
  · exact plain

theorem newline_not_mem_text (value : Float) : '\n' ∉ (Quantity.text value).toList := by
  have signed : ∀ negative magnitude, '\n' ∉ magnitude →
      '\n' ∉ (withSign negative magnitude).toList := by
    intro negative magnitude plain
    cases negative with
    | false => simpa [withSign] using plain
    | true => simpa [withSign] using plain
  change '\n' ∉ (Binary.ofFloat value).text.toList
  cases Binary.ofFloat value with
  | notANumber => decide
  | infinite negative => exact signed negative _ (by decide)
  | finite negative mantissa exponent =>
      rcases exists_numeral_text negative mantissa exponent with ⟨numeral, written⟩
      rw [written]
      apply signed
      intro newline_mem
      rcases numeral.cases_of_mem_chars newline_mem with digit | mark
      · contradiction
      · simp at mark

end Decimal

namespace Value

mutual

/-- No literal has a line feed: texts are quoted in it. -/
theorem newline_not_mem_literal : ∀ value : Value Float, '\n' ∉ value.literal.toList
  | .null => by simp [literal]
  | .bool truth => by cases truth <;> simp [literal]
  | .int number => Decimal.newline_not_mem_integerText number
  | .real quantity => Decimal.newline_not_mem_text quantity
  | .text content => Text.newline_not_mem_quoted content
  | .list items => by
      have comma : '\n' ∉ ", ".toList := by decide
      have plain := Text.newline_not_mem_intercalate comma (newline_not_mem_itemLiterals items)
      simpa [literal] using plain
  | .object members => by
      have comma : '\n' ∉ ", ".toList := by decide
      have plain := Text.newline_not_mem_intercalate comma (newline_not_mem_memberLiterals members)
      simpa [literal] using plain

theorem newline_not_mem_itemLiterals :
    ∀ items : List (Value Float), ∀ part ∈ itemLiterals items, '\n' ∉ part.toList
  | [] => by simp [itemLiterals]
  | item :: rest => by
      simp only [itemLiterals, List.forall_mem_cons]
      exact ⟨newline_not_mem_literal item, newline_not_mem_itemLiterals rest⟩

theorem newline_not_mem_memberLiterals :
    ∀ members : List (String × Value Float), ∀ part ∈ memberLiterals members, '\n' ∉ part.toList
  | [] => by simp [memberLiterals]
  | (key, value) :: rest => by
      simp only [memberLiterals, List.forall_mem_cons]
      refine ⟨?_, newline_not_mem_memberLiterals rest⟩
      simp [Text.newline_not_mem_quoted, newline_not_mem_literal value]

end

/-- A value that is no text is written without line feeds, whatever it holds. -/
theorem lineFeeds_scalarText {value : Value Float} (noText : ∀ content, value ≠ .text content) :
    Text.lineFeeds value.scalarText = 0 := by
  have plain := Text.lineFeeds_eq_zero_iff.mpr (newline_not_mem_literal value)
  cases value with
  | text content => exact absurd rfl (noText content)
  | null => decide
  | bool truth => cases truth <;> decide
  | _ => exact plain

end Value

namespace Outline

variable {R : Type}

mutual

/-- How many lines there are below the line of an entry with this value. -/
def lineCount : Value R → Nat
  | .object members => entryCount members
  | .list items => itemCount items
  | _ => 0

/-- The entries of an object, with the entries and the items below them. -/
def entryCount : List (String × Value R) → Nat
  | [] => 0
  | (_, value) :: rest => 1 + lineCount value + entryCount rest

/-- The items of a list, with the entries below them. A list that is an item is a line by itself. -/
def itemCount : List (Value R) → Nat
  | [] => 0
  | .list _ :: rest => 1 + itemCount rest
  | item :: rest => 1 + lineCount item + itemCount rest

end

mutual

/-- The texts that are copied into the lines of a value. -/
def copiedTexts : Value R → List String
  | .object members => memberTexts members
  | .list items => itemTexts items
  | .text content => [content]
  | _ => []

/-- The keys and texts that are copied into the lines of an object. -/
def memberTexts : List (String × Value R) → List String
  | [] => []
  | (key, value) :: rest => key :: (copiedTexts value ++ memberTexts rest)

/-- The texts that are copied into the lines of a list: none of a list that is an item. -/
def itemTexts : List (Value R) → List String
  | [] => []
  | .list _ :: rest => itemTexts rest
  | item :: rest => copiedTexts item ++ itemTexts rest

end

section Counting

variable [Quantity R]

mutual

theorem length_memberLines (depth : Nat) :
    ∀ members : List (String × Value R), (memberLines depth members).length = entryCount members
  | [] => by simp [memberLines, entryCount]
  | (_, .object members) :: rest => by
      simp [memberLines, entryCount, lineCount, length_memberLines (depth + 1) members,
        length_memberLines depth rest]
      omega
  | (_, .list items) :: rest => by
      simp [memberLines, entryCount, lineCount, length_itemLines depth items,
        length_memberLines depth rest]
      omega
  | (_, .null) :: rest | (_, .bool _) :: rest | (_, .int _) :: rest | (_, .real _) :: rest
  | (_, .text _) :: rest => by
      simp [memberLines, entryCount, lineCount, length_memberLines depth rest, Nat.add_comm]

theorem length_itemLines (depth : Nat) :
    ∀ items : List (Value R), (itemLines depth items).length = itemCount items
  | [] => by simp [itemLines, itemCount]
  | .object members :: rest => by
      simp [itemLines, itemCount, lineCount, length_memberLines (depth + 2) members,
        length_itemLines depth rest]
      omega
  | .null :: rest | .bool _ :: rest | .int _ :: rest | .real _ :: rest | .text _ :: rest
  | .list _ :: rest => by
      simp [itemLines, itemCount, lineCount, length_itemLines depth rest, Nat.add_comm]

end

end Counting

/-- The marks of the lines. -/
theorem lineFeeds_marks :
    Text.lineFeeds ":" = 0 ∧ Text.lineFeeds ": " = 0 ∧ Text.lineFeeds "  -" = 0 ∧
      Text.lineFeeds "  - " = 0 := by
  decide

@[simp]
theorem lineFeeds_indentation (depth : Nat) : Text.lineFeeds (indentation depth) = 0 := by
  simp [Text.lineFeeds_eq_zero_iff, indentation]

mutual

/-- The lines of an object have the line feeds of the texts that are copied into them. -/
theorem lineFeeds_memberLines (depth : Nat) :
    ∀ members : List (String × Value Float),
      ((memberLines depth members).map Text.lineFeeds).sum =
        ((memberTexts members).map Text.lineFeeds).sum
  | [] => by simp [memberLines, memberTexts]
  | (_, .object members) :: rest => by
      simp [memberLines, memberTexts, copiedTexts, lineFeeds_memberLines (depth + 1) members,
        lineFeeds_memberLines depth rest, lineFeeds_marks]
  | (_, .list items) :: rest => by
      simp [memberLines, memberTexts, copiedTexts, lineFeeds_itemLines depth items,
        lineFeeds_memberLines depth rest, lineFeeds_marks]
  | (_, .text _) :: rest => by
      simp [memberLines, memberTexts, copiedTexts, Value.scalarText, Value.inline,
        lineFeeds_memberLines depth rest, lineFeeds_marks, Nat.add_assoc]
  | (_, .null) :: rest | (_, .bool _) :: rest | (_, .int _) :: rest | (_, .real _) :: rest => by
      simp [memberLines, memberTexts, copiedTexts, Value.lineFeeds_scalarText,
        lineFeeds_memberLines depth rest, lineFeeds_marks]

theorem lineFeeds_itemLines (depth : Nat) :
    ∀ items : List (Value Float),
      ((itemLines depth items).map Text.lineFeeds).sum =
        ((itemTexts items).map Text.lineFeeds).sum
  | [] => by simp [itemLines, itemTexts]
  | .object members :: rest => by
      simp [itemLines, itemTexts, copiedTexts, lineFeeds_memberLines (depth + 2) members,
        lineFeeds_itemLines depth rest, lineFeeds_marks]
  | .text _ :: rest => by
      simp [itemLines, itemTexts, copiedTexts, Value.scalarText, Value.inline,
        lineFeeds_itemLines depth rest, lineFeeds_marks]
  | .null :: rest | .bool _ :: rest | .int _ :: rest | .real _ :: rest | .list _ :: rest => by
      simp [itemLines, itemTexts, copiedTexts, Value.lineFeeds_scalarText,
        lineFeeds_itemLines depth rest, lineFeeds_marks]

end

/-- An outline has a line feed for each of its lines and for each line feed of a copied text. -/
theorem lineFeeds_print (depth : Nat) (members : List (String × Value Float)) :
    Text.lineFeeds (print depth members) =
      entryCount members + ((memberTexts members).map Text.lineFeeds).sum := by
  have ended : ∀ lines : List String,
      ((lines.map (· ++ "\n")).map Text.lineFeeds).sum =
        lines.length + (lines.map Text.lineFeeds).sum := by
    intro lines
    have one : Text.lineFeeds "\n" = 1 := by decide
    induction lines with
    | nil => rfl
    | cons line lines inductionHypothesis =>
        simp only [List.map_cons, List.sum_cons, List.length_cons, inductionHypothesis,
          Text.lineFeeds_append, one]
        omega
  rw [print, Text.lineFeeds_join, ended, length_memberLines, lineFeeds_memberLines]

/-- No line of an outline has a line feed if none of the copied texts has one. -/
theorem newline_not_mem_memberLines {depth : Nat} {members : List (String × Value Float)}
    (plain : ∀ copied ∈ memberTexts members, '\n' ∉ copied.toList) :
    ∀ line ∈ memberLines depth members, '\n' ∉ line.toList := by
  have none : ((memberTexts members).map Text.lineFeeds).sum = 0 := by
    simpa [List.sum_eq_zero_iff_forall_eq_nat, Text.lineFeeds_eq_zero_iff] using plain
  rw [← lineFeeds_memberLines depth] at none
  simpa [List.sum_eq_zero_iff_forall_eq_nat, Text.lineFeeds_eq_zero_iff] using none

/-! ### The texts of a report -/

theorem copiedTexts_subset_memberTexts {members : List (String × Value R)} {key : String}
    {value : Value R} (member_mem : (key, value) ∈ members) :
    copiedTexts value ⊆ memberTexts members := by
  induction members with
  | nil => simp at member_mem
  | cons member members inductionHypothesis =>
      rcases List.mem_cons.mp member_mem with rfl | further
      · simp [memberTexts]
      · have later := inductionHypothesis further
        simp [memberTexts, List.subset_cons_of_subset, List.subset_append_of_subset_right, later]

theorem memberTexts_subset_itemTexts {items : List (Value R)} {members : List (String × Value R)}
    (members_mem : .object members ∈ items) : memberTexts members ⊆ itemTexts items := by
  induction items with
  | nil => simp at members_mem
  | cons item items inductionHypothesis =>
      rcases List.mem_cons.mp members_mem with rfl | further
      · simp [itemTexts, copiedTexts]
      · have later := inductionHypothesis further
        cases item with
        | list inner => simpa [itemTexts] using later
        | _ => simp [itemTexts, List.subset_append_of_subset_right, later]

/-- The sentence, its language and the definitions of its words are copied into an outline. -/
theorem copied_of_report (report : Report Float) :
    report.text ∈ memberTexts report.document ∧
      report.provenance.language ∈ memberTexts report.document ∧
      ∀ token ∈ report.tokens, copiedTexts token.definition ⊆ memberTexts report.document := by
  refine ⟨?_, ?_, ?_⟩
  · have shown : ("original_text", .text report.text) ∈ report.document := by
      simp [Report.document]
    exact copiedTexts_subset_memberTexts shown (by simp [copiedTexts])
  · have shown : ("metadata", report.metadata) ∈ report.document := by
      simp [Report.document]
    exact copiedTexts_subset_memberTexts shown
      (by simp [Report.metadata, copiedTexts, memberTexts])
  · intro token token_mem
    have shown : ("tokens", .list (report.tokens.map Token.toSummary)) ∈ report.document := by
      simp [Report.document]
    have summary : token.toSummary ∈ report.tokens.map Token.toSummary :=
      List.mem_map_of_mem token_mem
    have tokens := copiedTexts_subset_memberTexts shown
    have inTokens := memberTexts_subset_itemTexts summary
    have defined : ("definition", token.definition) ∈
        [("word", .text token.word), ("pos", token.tag), ("definition", token.definition),
          ("synonyms", .list token.synonyms)] := by
      simp
    have inToken := copiedTexts_subset_memberTexts defined
    rw [copiedTexts] at tokens
    exact List.Subset.trans inToken (List.Subset.trans inTokens tokens)

/-- An outline of an object is made of the lines of its entries and of the items of their lists,
with one line feed for each, if and only if no key or text that is copied into them has a line feed;
otherwise there are as many more. The sentence, its language and the definitions of its words are
copied. -/
theorem print_lines (depth : Nat) (members : List (String × Value Float)) (report : Report Float) :
    Text.lineFeeds (print depth members) =
        entryCount members + ((memberTexts members).map Text.lineFeeds).sum ∧
      (Text.lineFeeds (print depth members) = entryCount members ↔
        ∀ copied ∈ memberTexts members, '\n' ∉ copied.toList) ∧
      (Text.split '\n' (print depth members) = memberLines depth members ++ [""] ↔
        ∀ copied ∈ memberTexts members, '\n' ∉ copied.toList) ∧
      report.text ∈ memberTexts report.document ∧
      report.provenance.language ∈ memberTexts report.document ∧
      ∀ token ∈ report.tokens, copiedTexts token.definition ⊆ memberTexts report.document := by
  have counted := lineFeeds_print depth members
  have exact : Text.lineFeeds (print depth members) = entryCount members ↔
      ∀ copied ∈ memberTexts members, '\n' ∉ copied.toList := by
    rw [counted, Nat.add_eq_left, List.sum_eq_zero_iff_forall_eq_nat]
    simp [Text.lineFeeds_eq_zero_iff]
  refine ⟨counted, exact, ⟨?_, ?_⟩, copied_of_report report⟩
  · intro pieces
    have length := congrArg List.length pieces
    rw [Text.length_split, List.length_append, length_memberLines] at length
    exact exact.mp (Nat.add_right_cancel length)
  · intro plain
    exact Text.split_join_lines (newline_not_mem_memberLines plain)

/-- A sentence with a line feed in it is printed like two entries. -/
theorem forged_entry :
    print 0 ([("original_text", .text "a\nb: c")] : List (String × Value Float)) =
        print 0 ([("original_text", .text "a"), ("b", .text "c")] : List (String × Value Float)) ∧
      entryCount ([("original_text", .text "a\nb: c")] : List (String × Value Float)) = 1 ∧
      Text.lineFeeds
        (print 0 ([("original_text", .text "a\nb: c")] : List (String × Value Float))) = 2 := by
  decide +kernel

end Outline

end SentenceGraph
