import SentenceGraph.Proofs.MarkupReading
import SentenceGraph.Report
import SentenceGraph.Rendering

/-!
# What a processor reports of XML documents

Before a processor reads a document, it makes all line ends alike. Carriage returns are characters
of XML, so they are written into the content of elements as they are, and there the processor takes
them for line ends. Therefore what it reports is the document with other texts: without the
characters that XML cannot carry, and with a line feed for each carriage return that does not stand
before one.

The line ends of what is written are made alike piece by piece. That is possible since no piece ends
in a carriage return, but for the content of an element, which is followed by a tag.
-/

namespace SentenceGraph.Markup

/-! ### Line ends -/

theorem unifyLineEnds_append {plain : List Char} (noReturn : '\r' ∉ plain) (rest : List Char) :
    unifyLineEnds (plain ++ rest) = plain ++ unifyLineEnds rest := by
  induction plain with
  | nil => rfl
  | cons character plain inductionHypothesis =>
      rw [List.mem_cons, not_or] at noReturn
      rw [List.cons_append, unifyLineEnds, if_neg (Ne.symm noReturn.1),
        inductionHypothesis noReturn.2, List.cons_append]

theorem not_mem_unifyLineEnds (characters : List Char) : '\r' ∉ unifyLineEnds characters := by
  induction characters with
  | nil => simp [unifyLineEnds]
  | cons character characters inductionHypothesis =>
      rw [unifyLineEnds]
      split
      · split
        · exact inductionHypothesis
        · simpa using inductionHypothesis
      · rename_i other
        simpa [Ne.symm other] using inductionHypothesis

theorem unifyLineEnds_eq_self_iff {characters : List Char} :
    unifyLineEnds characters = characters ↔ '\r' ∉ characters := by
  constructor
  · intro same
    rw [← same]
    exact not_mem_unifyLineEnds characters
  · intro noReturn
    have unified := unifyLineEnds_append noReturn []
    simpa [unifyLineEnds] using unified

theorem isXmlChar_of_mem_unifyLineEnds {characters : List Char}
    (valid : ∀ character ∈ characters, isXmlChar character = true) :
    ∀ character ∈ unifyLineEnds characters, isXmlChar character = true := by
  induction characters with
  | nil => simp [unifyLineEnds]
  | cons character characters inductionHypothesis =>
      rw [List.forall_mem_cons] at valid
      have later := inductionHypothesis valid.2
      rw [unifyLineEnds]
      split
      · split
        · exact later
        · exact List.forall_mem_cons.mpr ⟨rfl, later⟩
      · exact List.forall_mem_cons.mpr ⟨valid.1, later⟩

theorem escapeChar_return : escapeChar '\r' = ['\r'] := rfl

theorem not_mem_escapeChar {character : Char} (other : character ≠ '\r') :
    '\r' ∉ escapeChar character := by
  rw [escapeChar]
  split
  · decide
  · split
    · decide
    · split
      · decide
      · simpa using Ne.symm other

/-- Escaping neither makes nor hides a line feed at the start of a text. -/
theorem head?_escaped_eq_newline_iff {characters rest : List Char}
    (tag : rest.head? ≠ some '\n') :
    (characters.flatMap escapeChar ++ rest).head? = some '\n' ↔ characters.head? = some '\n' := by
  cases characters with
  | nil => simpa using tag
  | cons character characters =>
      rw [List.flatMap_cons, List.append_assoc, escapeChar]
      split
      · rename_i same
        simp [beq_iff_eq.mp same]
      · split
        · rename_i same
          simp [beq_iff_eq.mp same]
        · split
          · rename_i same
            simp [beq_iff_eq.mp same]
          · simp

/-- The line ends of content that a tag follows. -/
theorem unifyLineEnds_escaped (characters : List Char) {rest : List Char}
    (tag : rest.head? ≠ some '\n') :
    unifyLineEnds (characters.flatMap escapeChar ++ rest) =
      (unifyLineEnds characters).flatMap escapeChar ++ unifyLineEnds rest := by
  induction characters with
  | nil => rfl
  | cons character characters inductionHypothesis =>
      by_cases isReturn : character = '\r'
      · subst isReturn
        rw [List.flatMap_cons, escapeChar_return, List.singleton_append, List.cons_append,
          unifyLineEnds, if_pos rfl, unifyLineEnds, if_pos rfl]
        simp only [head?_escaped_eq_newline_iff tag, inductionHypothesis]
        split
        · rfl
        · rfl
      · rw [List.flatMap_cons, List.append_assoc,
          unifyLineEnds_append (not_mem_escapeChar isReturn), inductionHypothesis, unifyLineEnds,
          if_neg isReturn, List.flatMap_cons, List.append_assoc]

/-! ### Documents -/

/-- What a processor reports of a text. -/
def reportedText (content : String) : String :=
  String.ofList (unifyLineEnds (content.toList.filter isXmlChar))

theorem filter_reportedText (content : String) :
    (reportedText content).toList.filter isXmlChar = (reportedText content).toList := by
  rw [reportedText, String.toList_ofList, List.filter_eq_self]
  apply isXmlChar_of_mem_unifyLineEnds
  intro character character_mem
  exact (List.mem_filter.mp character_mem).2

/-- Only a carriage return makes a difference between a text and what is reported of it, apart from
the characters that XML cannot carry. -/
theorem reportedText_eq_iff {content : String} :
    reportedText content = String.ofList (content.toList.filter isXmlChar) ↔
      '\r' ∉ content.toList := by
  rw [reportedText, ← String.toList_inj, String.toList_ofList, String.toList_ofList,
    unifyLineEnds_eq_self_iff, List.mem_filter]
  have valid : isXmlChar '\r' = true := rfl
  simp [valid]

variable {R : Type} [Quantity R]

mutual

/-- A document with the texts that a processor reports. -/
def reported : Value R → Value R
  | .null => .null
  | .object members => .object (reportedMembers members)
  | .list items => .list (reportedItems items)
  | value => .text (reportedText value.scalarText)

def reportedItems : List (Value R) → List (Value R)
  | [] => []
  | item :: rest => reported item :: reportedItems rest

def reportedMembers : List (String × Value R) → List (String × Value R)
  | [] => []
  | (key, value) :: rest => (key, reported value) :: reportedMembers rest

end

theorem IsName.not_mem_return {name : String} (named : IsName name) : '\r' ∉ name.toList := by
  intro here
  exact absurd (named.isNameChar '\r' here) (by decide)

/-- The tags around the content of an element have no carriage return. -/
theorem IsName.not_mem_return_tags {name : String} (named : IsName name) (depth : Nat) :
    '\r' ∉ (indentation depth ++ "<" ++ name ++ ">").toList ∧
      '\r' ∉ (indentation depth ++ "</" ++ name ++ ">").toList ∧
      '\r' ∉ ("</" ++ name ++ ">").toList := by
  simp [indentation, named.not_mem_return]

theorem unifyLineEnds_line {line : String} (noReturn : '\r' ∉ line.toList) (rest : List Char) :
    unifyLineEnds ('\n' :: line.toList ++ rest) = '\n' :: line.toList ++ unifyLineEnds rest := by
  apply unifyLineEnds_append
  simpa using noReturn

theorem contentOfText_reportedText (content : String) :
    contentOfText (reportedText content) =
      String.ofList ((unifyLineEnds (content.toList.filter isXmlChar)).flatMap escapeChar) := by
  rw [contentOfText, filter_reportedText, reportedText, String.toList_ofList]

theorem unifyLineEnds_scalar (depth : Nat) {name : String} (named : IsName name)
    (content : String) (rest : List Char) :
    unifyLineEnds
        (spell [indentation depth ++ "<" ++ name ++ ">" ++ contentOfText content ++ "</" ++ name ++
          ">"] ++ rest) =
      spell [indentation depth ++ "<" ++ name ++ ">" ++ contentOfText (reportedText content) ++
        "</" ++ name ++ ">"] ++ unifyLineEnds rest := by
  rcases named.not_mem_return_tags depth with ⟨opening, _, closing⟩
  have parts : ∀ written : String,
      spell [indentation depth ++ "<" ++ name ++ ">" ++ written ++ "</" ++ name ++ ">"] =
        '\n' :: (indentation depth ++ "<" ++ name ++ ">").toList ++
          (written.toList ++ ("</" ++ name ++ ">").toList) := by
    intro written
    simp
  have tag : (("</" ++ name ++ ">").toList ++ rest).head? ≠ some '\n' := by
    simp
  rw [parts, parts, List.append_assoc, unifyLineEnds_line opening, List.append_assoc,
    contentOfText, String.toList_ofList, unifyLineEnds_escaped _ tag,
    unifyLineEnds_append closing, contentOfText_reportedText, String.toList_ofList,
    List.append_assoc, List.append_assoc]

/-- The line ends of an element that lines are written into, if those of the lines are known. -/
theorem unifyLineEnds_container (depth : Nat) {name : String} (named : IsName name)
    {lines unified : List String}
    (inner : ∀ rest, unifyLineEnds (spell lines ++ rest) = spell unified ++ unifyLineEnds rest)
    (rest : List Char) :
    unifyLineEnds
        (spell ((indentation depth ++ "<" ++ name ++ ">") ::
          (lines ++ [indentation depth ++ "</" ++ name ++ ">"])) ++ rest) =
      spell ((indentation depth ++ "<" ++ name ++ ">") ::
        (unified ++ [indentation depth ++ "</" ++ name ++ ">"])) ++ unifyLineEnds rest := by
  rcases named.not_mem_return_tags depth with ⟨opening, closing, _⟩
  simp only [spell_cons, spell_append, spell_nil, List.append_nil, List.append_assoc]
  rw [unifyLineEnds_line opening, inner, unifyLineEnds_line closing]

mutual

/-- Elements are written as a processor passes them on, but for the texts in them. -/
theorem unifyLineEnds_element (depth : Nat) {name : String} (named : IsName name) :
    ∀ (value : Value R) (rest : List Char),
      unifyLineEnds (spell (elementLines depth name value) ++ rest) =
        spell (elementLines depth name (reported value)) ++ unifyLineEnds rest
  | .null, rest => by
      rw [reported, unifyLineEnds_append]
      simp [elementLines, indentation, named.not_mem_return]
  | .object members, rest => by
      rw [reported, elementLines, elementLines]
      exact unifyLineEnds_container depth named (unifyLineEnds_members (depth + 1) members) rest
  | .list items, rest => by
      rw [reported, elementLines, elementLines]
      exact unifyLineEnds_container depth named (unifyLineEnds_items (depth + 1) items) rest
  | .bool truth, rest => unifyLineEnds_scalar depth named _ rest
  | .int number, rest => unifyLineEnds_scalar depth named _ rest
  | .real quantity, rest => unifyLineEnds_scalar depth named _ rest
  | .text content, rest => unifyLineEnds_scalar depth named _ rest

theorem unifyLineEnds_items (depth : Nat) :
    ∀ (items : List (Value R)) (rest : List Char),
      unifyLineEnds (spell (itemLines depth items) ++ rest) =
        spell (itemLines depth (reportedItems items)) ++ unifyLineEnds rest
  | [], rest => by rw [reportedItems, itemLines, spell_nil, List.nil_append, List.nil_append]
  | item :: items, rest => by
      rw [reportedItems, itemLines, itemLines, spell_append, spell_append, List.append_assoc,
        unifyLineEnds_element depth isName_itemName item, unifyLineEnds_items depth items,
        List.append_assoc]

theorem unifyLineEnds_members (depth : Nat) :
    ∀ (members : List (String × Value R)) (rest : List Char),
      unifyLineEnds (spell (memberLines depth members) ++ rest) =
        spell (memberLines depth (reportedMembers members)) ++ unifyLineEnds rest
  | [], rest => by rw [reportedMembers, memberLines, spell_nil, List.nil_append, List.nil_append]
  | (key, value) :: members, rest => by
      rw [reportedMembers, memberLines, memberLines, spell_append, spell_append, List.append_assoc,
        unifyLineEnds_element depth (isName_elementName key) value,
        unifyLineEnds_members depth members, List.append_assoc]

end

theorem unifyLineEnds_print (members : List (String × Value R)) :
    String.ofList (unifyLineEnds (print rootName members).toList) =
      print rootName (reportedMembers members) := by
  have noReturn : '\r' ∉ prolog.toList := by decide
  have unified := unifyLineEnds_element 0 isName_rootName (.object members) []
  rw [List.append_nil, unifyLineEnds, List.append_nil, reported] at unified
  rw [print_eq, unifyLineEnds_append noReturn, unified, ← print_eq, String.ofList_toList]

/-- The document that is printed is reported with the texts that a processor makes of its own. -/
theorem exists_process?_print (members : List (String × Value R)) :
    ∃ children, process? (print rootName members) = some (.element rootName children) ∧
      Mirrors (.object (reportedMembers members)) children := by
  rcases exists_readsAs_element 0 isName_rootName (.object (reportedMembers members)) with
    ⟨children, reads, mirrors, _⟩
  refine ⟨children, ?_, mirrors⟩
  rcases reads [] quiet_nil with ⟨nodes, _, added, readsNodes⟩
  have assembled := readsNodes [] []
  rw [List.append_nil, readFrom_nil, readFrom] at assembled
  have starts : prolog.toList.isPrefixOf (print rootName (reportedMembers members)).toList = true := by
    rw [print_eq, List.isPrefixOf_iff_prefix]
    exact List.prefix_append _ _
  rw [process?, unifyLineEnds_print, read?, if_pos starts, print_eq, List.drop_left, assembled]
  simp only [added]
  rfl

theorem mirrors_reported_text {content : String} {nodes : List Node} :
    Mirrors (reported (.text content : Value R)) nodes ↔
      nodes = textNodes (reportedText content) := by
  have shown : Mirrors (reported (.text content : Value R)) nodes ↔
      nodes = textNodes (String.ofList ((reportedText content).toList.filter isXmlChar)) := Iff.rfl
  rw [shown, filter_reportedText, String.ofList_toList]

/-- Every member that is a text has its element. -/
theorem element_mem_of_membersMirror {members : List (String × Value R)} {nodes : List Node}
    {key content : String} (mirrors : MembersMirror (reportedMembers members) nodes)
    (member_mem : (key, .text content) ∈ members) :
    .element (elementName key) (textNodes (reportedText content)) ∈ nodes := by
  induction members generalizing nodes with
  | nil => simp at member_mem
  | cons member members inductionHypothesis =>
      rcases member with ⟨name, value⟩
      rw [reportedMembers, MembersMirror] at mirrors
      rcases mirrors with ⟨children, others, rfl, here, there⟩
      rcases List.mem_cons.mp member_mem with same | further
      · cases same
        rw [mirrors_reported_text.mp here]
        exact List.mem_cons_self
      · exact List.mem_cons_of_mem _ (inductionHypothesis there further)

/-- A processor reports the document of an object with other texts: without the characters that XML
cannot carry, and with unified line ends. This is the text itself without these characters if and
only if there is no carriage return in it. So it is with the sentence in the document of a report. -/
theorem process_unifies_texts :
    (∀ members : List (String × Value R), ∃ children,
      process? (print rootName members) = some (.element rootName children) ∧
        Mirrors (.object (reportedMembers members)) children) ∧
    (∀ (content : String) (nodes : List Node),
      Mirrors (reported (.text content : Value R)) nodes ↔
        nodes = textNodes (reportedText content)) ∧
    (∀ content : String,
      reportedText content = String.ofList (content.toList.filter isXmlChar) ↔
        '\r' ∉ content.toList) ∧
    ∀ report : Report R, ∃ children,
      process? (Document.render report.document .xml) = some (.element rootName children) ∧
        .element "original_text" (textNodes (reportedText report.text)) ∈ children := by
  refine ⟨exists_process?_print, fun _ _ => mirrors_reported_text, fun _ => reportedText_eq_iff, ?_⟩
  intro report
  rcases exists_process?_print report.document with ⟨children, processed, mirrors⟩
  refine ⟨children, processed, ?_⟩
  have shown : ("original_text", .text report.text) ∈ report.document := by
    simp [Report.document]
  have named : elementName "original_text" = "original_text" := by decide +kernel
  rw [Mirrors] at mirrors
  have element := element_mem_of_membersMirror mirrors shown
  rw [named] at element
  exact List.mem_of_mem_filter element

/-- A carriage return is a character of XML, and yet it does not come back. -/
theorem carriage_return_lost :
    ∃ children,
      process? (print rootName ([("original_text", .text "a\rb")] : List (String × Value Float))) =
        some (.element rootName children) ∧
      significant children = [.element "original_text" [.text "a\nb"]] ∧
      String.ofList ("a\rb".toList.filter isXmlChar) = "a\rb" ∧ "a\nb" ≠ "a\rb" := by
  rcases exists_process?_print ([("original_text", .text "a\rb")] : List (String × Value Float))
    with ⟨children, processed, mirrors⟩
  have named : elementName "original_text" = "original_text" := by decide +kernel
  have text : textNodes (reportedText "a\rb") = [.text "a\nb"] := by
    have same : reportedText "a\rb" = "a\nb" := by decide +kernel
    rw [same]
    rfl
  simp only [reportedMembers, Mirrors, MembersMirror] at mirrors
  rcases mirrors with ⟨inner, others, found, here, rfl⟩
  rw [mirrors_reported_text.mp here, text, named] at found
  exact ⟨children, processed, found, by decide +kernel, by decide +kernel⟩

end SentenceGraph.Markup
