import Mathlib.Data.List.Basic
import Mathlib.Data.List.TakeWhile
import SentenceGraph.Markup.Reader

/-!
# Pieces of XML documents

What the reader makes of a name, of each kind of tag and of a text, when they are followed by
anything else (`readFrom`). A key always becomes a name, and a name is read up to the first
character that cannot belong to it. Whatever is read consists of characters of XML.
-/

namespace SentenceGraph.Markup

/-! ### Names -/

/-- A name of ASCII letters, digits and underscores that does not start with a digit. -/
def IsName (name : String) : Prop :=
  ∃ first others, name.toList = first :: others ∧ (first.isAlpha = true ∨ first = '_') ∧
    ∀ character ∈ others, isNameChar character = true

theorem toNat_of_isAlpha {character : Char} (letter : character.isAlpha = true) :
    65 ≤ character.toNat ∧ character.toNat ≤ 90 ∨ 97 ≤ character.toNat ∧ character.toNat ≤ 122 := by
  have code : (character.isUpper || character.isLower) = true := letter
  rw [Bool.or_eq_true] at code
  rcases code with upper | lower
  · left
    have bounds : (65 ≤ character.val ∧ character.val ≤ 90) := of_decide_eq_true upper
    exact ⟨UInt32.le_iff_toNat_le.mp bounds.1, UInt32.le_iff_toNat_le.mp bounds.2⟩
  · right
    have bounds : (decide (97 ≤ character.val) && decide (character.val ≤ 122)) = true := lower
    simpa [UInt32.le_iff_toNat_le] using bounds

theorem toNat_of_isDigit {character : Char} (digit : character.isDigit = true) :
    48 ≤ character.toNat ∧ character.toNat ≤ 57 := by
  simpa [Char.isDigit, UInt32.le_iff_toNat_le] using digit

theorem isNameChar_iff {character : Char} :
    isNameChar character = true ↔
      character.isAlpha = true ∨ character.isDigit = true ∨ character = '_' := by
  simp [isNameChar, Char.isAlphanum, or_assoc]

theorem isXmlChar_of_isNameChar {character : Char} (named : isNameChar character = true) :
    isXmlChar character = true := by
  have bounds : 0x20 ≤ character.toNat ∧ character.toNat ≤ 0xD7FF := by
    rcases isNameChar_iff.mp named with letter | digit | rfl
    · have code := toNat_of_isAlpha letter
      omega
    · have code := toNat_of_isDigit digit
      omega
    · decide
  simp [isXmlChar, bounds]

theorem IsName.isNameChar {name : String} (named : IsName name) :
    ∀ character ∈ name.toList, isNameChar character = true := by
  rcases named with ⟨first, others, spelled, start, rest⟩
  rw [spelled, List.forall_mem_cons]
  refine ⟨isNameChar_iff.mpr ?_, rest⟩
  rcases start with letter | underscore
  · exact Or.inl letter
  · exact Or.inr (Or.inr underscore)

theorem isName_itemName : IsName itemName :=
  ⟨'i', ['t', 'e', 'm'], rfl, Or.inl rfl, List.all_eq_true.mp rfl⟩

theorem isName_rootName : IsName rootName :=
  ⟨'n', ['l', 'c', 'o', 'm', 'p', 'i', 'l', 'e', 'r'], rfl, Or.inl rfl, List.all_eq_true.mp rfl⟩

/-- Every key becomes a name. -/
theorem isName_elementName (key : String) : IsName (elementName key) := by
  rw [IsName, elementName, nameChars, String.toList_ofList]
  have replaced : ∀ character ∈
      key.toList.map (fun character => if Markup.isNameChar character then character else '_'),
      Markup.isNameChar character = true := by
    intro character character_mem
    rcases List.mem_map.mp character_mem with ⟨original, _, rfl⟩
    split
    · assumption
    · decide
  split
  · exact ⟨'_', [], rfl, Or.inr rfl, by simp⟩
  · rename_i first others spelled
    rw [spelled] at replaced
    split
    · exact ⟨'_', first :: others, by rw [spelled], Or.inr rfl, replaced⟩
    · rename_i noDigit
      refine ⟨first, others, spelled, ?_, fun other other_mem =>
        replaced other (List.mem_cons_of_mem _ other_mem)⟩
      rcases isNameChar_iff.mp (replaced first (by simp)) with letter | digit | underscore
      · exact Or.inl letter
      · exact absurd digit noDigit
      · exact Or.inr underscore

/-- A name is read up to the first character that cannot belong to it. -/
theorem IsName.readName? {name : String} (named : IsName name) (rest : List Char)
    (ends : ∀ character ∈ rest.head?, Markup.isNameChar character = false) :
    Markup.readName? (name.toList ++ rest) = some (name, rest) := by
  have taken : (name.toList ++ rest).takeWhile Markup.isNameChar = name.toList := by
    rw [List.takeWhile_append_of_pos named.isNameChar]
    cases rest with
    | nil => simp
    | cons character rest => simp [ends character rfl]
  have dropped : (name.toList ++ rest).dropWhile Markup.isNameChar = rest := by
    rw [List.dropWhile_append_of_pos named.isNameChar]
    cases rest with
    | nil => rfl
    | cons character rest => simp [ends character rfl]
  rcases named with ⟨first, others, spelled, start, _⟩
  have noDigit : ¬ first.isDigit = true := by
    intro digit
    have digitCode := toNat_of_isDigit digit
    rcases start with letter | rfl
    · have letterCode := toNat_of_isAlpha letter
      omega
    · contradiction
  rw [Markup.readName?, taken, dropped, spelled]
  simp only
  rw [if_neg noDigit, ← spelled, String.ofList_toList]

/-! ### Pieces -/

/-- Reading from a text, when some elements are open. -/
def readFrom (children : List Node) (outer : List (String × List Node)) (characters : List Char) :
    Option (List Node) :=
  (pieces? characters).bind (assemble children outer)

/-- Adds the characters of a text to the nodes before it. -/
def addText (nodes : List Node) (content : List Char) : List Node :=
  content.foldl addCharacter nodes

variable {children siblings : List Node} {outer : List (String × List Node)} {name : String}
  {rest : List Char}

theorem pieces?_nil : pieces? [] = some [] := by
  rw [pieces?]
  rfl

theorem readFrom_nil : readFrom children [] [] = some children := by
  rw [readFrom, pieces?_nil]
  rfl

theorem readFrom_piece {characters : List Char} {piece : Piece}
    (found : readPiece? characters = some (piece, rest)) :
    readFrom children outer characters =
      (pieces? rest).bind fun later => assemble children outer (piece :: later) := by
  rw [readFrom, pieces?]
  split
  · rename_i same
    cases found.symm.trans same
    rw [Option.bind_map]
    rfl
  · rename_i nothing
    cases found.symm.trans nothing

/-- A tag that starts with a name is no closing tag. -/
theorem IsName.ne_slash (named : IsName name) (characters : List Char) :
    name.toList ++ rest = '/' :: characters → False := by
  rcases named with ⟨first, others, spelled, start, _⟩
  intro same
  rw [spelled] at same
  cases same
  rcases start with letter | underscore
  · exact absurd letter (by decide)
  · exact absurd underscore (by decide)

theorem readFrom_opening (named : IsName name) :
    readFrom children outer ('<' :: (name.toList ++ '>' :: rest)) =
      readFrom [] ((name, children) :: outer) rest := by
  have read := named.readName? ('>' :: rest) (by simp; decide)
  have found : readPiece? ('<' :: (name.toList ++ '>' :: rest)) = some (.opening name, rest) := by
    rw [readPiece?, readTag?.eq_2 _ named.ne_slash, read]
    rfl
  rw [readFrom_piece found]
  rfl

theorem readFrom_single (named : IsName name) :
    readFrom children outer ('<' :: (name.toList ++ '/' :: '>' :: rest)) =
      readFrom (children ++ [.element name []]) outer rest := by
  have read := named.readName? ('/' :: '>' :: rest) (by simp; decide)
  have found : readPiece? ('<' :: (name.toList ++ '/' :: '>' :: rest)) =
      some (.single name, rest) := by
    rw [readPiece?, readTag?.eq_2 _ named.ne_slash, read]
    rfl
  rw [readFrom_piece found]
  rfl

theorem readFrom_closing (named : IsName name) :
    readFrom children ((name, siblings) :: outer) ('<' :: '/' :: (name.toList ++ '>' :: rest)) =
      readFrom (siblings ++ [.element name children]) outer rest := by
  have read := named.readName? ('>' :: rest) (by simp; decide)
  have found : readPiece? ('<' :: '/' :: (name.toList ++ '>' :: rest)) =
      some (.closing name, rest) := by
    rw [readPiece?, readTag?, read]
    rfl
  rw [readFrom_piece found]
  simp only [assemble, beq_self_eq_true, if_true]
  rfl

/-- A character of a text, written as it is or as an entity, is read as itself. -/
theorem readPiece?_escapeChar {character : Char} (valid : isXmlChar character = true) :
    readPiece? (escapeChar character ++ rest) = some (.character character, rest) := by
  by_cases ampersand : character = '&'
  · subst ampersand
    rfl
  by_cases less : character = '<'
  · subst less
    rfl
  by_cases greater : character = '>'
  · subst greater
    rfl
  simp [escapeChar, readPiece?, ampersand, less, greater, valid]

theorem readFrom_text {content : List Char}
    (valid : ∀ character ∈ content, isXmlChar character = true) :
    readFrom children outer (content.flatMap escapeChar ++ rest) =
      readFrom (addText children content) outer rest := by
  induction content generalizing children with
  | nil => rfl
  | cons character content inductionHypothesis =>
      rw [List.flatMap_cons, List.append_assoc,
        readFrom_piece (readPiece?_escapeChar (valid character (by simp)))]
      exact inductionHypothesis fun other other_mem =>
        valid other (List.mem_cons_of_mem _ other_mem)

/-! ### Characters -/

/-- Everything that is read is made of characters of XML. -/
def ReadsXml (characters rest : List Char) : Prop :=
  ∃ written, characters = written ++ rest ∧ ∀ character ∈ written, isXmlChar character = true

theorem ReadsXml.of_append {characters rest : List Char} (written : List Char)
    (valid : ∀ character ∈ written, isXmlChar character = true)
    (reads : ReadsXml characters (written ++ rest)) : ReadsXml characters rest := by
  rcases reads with ⟨before, rfl, validBefore⟩
  refine ⟨before ++ written, by rw [List.append_assoc], ?_⟩
  rw [List.forall_mem_append]
  exact ⟨validBefore, valid⟩

theorem readsXml_of_readName? {characters rest : List Char} {name : String}
    (found : readName? characters = some (name, rest)) : ReadsXml characters rest := by
  rw [readName?] at found
  split at found
  · split at found
    · contradiction
    · cases found
      refine ⟨characters.takeWhile isNameChar, List.takeWhile_append_dropWhile.symm, ?_⟩
      intro character character_mem
      exact isXmlChar_of_isNameChar (List.mem_takeWhile_imp character_mem)
  · contradiction

theorem ReadsXml.cons {characters rest : List Char} (reads : ReadsXml characters rest)
    {character : Char} (valid : isXmlChar character = true) :
    ReadsXml (character :: characters) rest := by
  rcases reads with ⟨written, rfl, validWritten⟩
  exact ⟨character :: written, rfl, List.forall_mem_cons.mpr ⟨valid, validWritten⟩⟩

theorem readsXml_of_readTag? {characters rest : List Char} {piece : Piece}
    (found : readTag? characters = some (piece, rest)) : ReadsXml characters rest := by
  rw [readTag?.eq_def] at found
  split at found
  · split at found
    · rename_i name after named
      cases found
      have reads := readsXml_of_readName? named
      exact (reads.of_append ['>'] (List.all_eq_true.mp rfl)).cons rfl
    · contradiction
  · split at found
    · rename_i named
      cases found
      exact (readsXml_of_readName? named).of_append ['>'] (List.all_eq_true.mp rfl)
    · rename_i named
      cases found
      exact (readsXml_of_readName? named).of_append ['/', '>'] (List.all_eq_true.mp rfl)
    · contradiction

theorem readsXml_of_readEntity? {characters rest : List Char} {piece : Piece}
    (found : readEntity? characters = some (piece, rest)) : ReadsXml characters rest := by
  rw [readEntity?.eq_def] at found
  split at found
  · cases found
    exact ⟨['a', 'm', 'p', ';'], rfl, List.all_eq_true.mp rfl⟩
  · cases found
    exact ⟨['l', 't', ';'], rfl, List.all_eq_true.mp rfl⟩
  · cases found
    exact ⟨['g', 't', ';'], rfl, List.all_eq_true.mp rfl⟩
  · contradiction

theorem readsXml_of_readPiece? {characters rest : List Char} {piece : Piece}
    (found : readPiece? characters = some (piece, rest)) : ReadsXml characters rest := by
  rw [readPiece?.eq_def] at found
  split at found
  · exact (readsXml_of_readTag? found).cons rfl
  · exact (readsXml_of_readEntity? found).cons rfl
  · rename_i character after _ _
    split at found
    · rename_i plain
      rw [Bool.and_eq_true] at plain
      cases found
      exact ⟨[character], rfl, by simpa using plain.2⟩
    · contradiction
  · contradiction

theorem isXmlChar_of_pieces? {characters : List Char} {pieces : List Piece}
    (cut : pieces? characters = some pieces) :
    ∀ character ∈ characters, isXmlChar character = true := by
  induction characters using pieces?.induct generalizing pieces with
  | case1 characters piece rest found inductionHypothesis =>
      rw [pieces?] at cut
      split at cut
      · rename_i same
        cases found.symm.trans same
        rcases Option.map_eq_some_iff.mp cut with ⟨later, cutRest, _⟩
        rcases readsXml_of_readPiece? found with ⟨written, rfl, valid⟩
        exact List.forall_mem_append.mpr ⟨valid, inductionHypothesis cutRest⟩
      · rename_i nothing
        cases found.symm.trans nothing
  | case2 characters nothing empty =>
      rw [List.isEmpty_iff.mp empty]
      simp
  | case3 characters nothing more =>
      rw [pieces?] at cut
      split at cut
      · rename_i found
        cases nothing.symm.trans found
      · rw [if_neg more] at cut
        contradiction

theorem isXmlChar_of_read? {document : String} {node : Node} (found : read? document = some node) :
    ∀ character ∈ document.toList, isXmlChar character = true := by
  rw [read?] at found
  split at found
  · rename_i starts
    rcases List.isPrefixOf_iff_prefix.mp starts with ⟨rest, whole⟩
    rw [← whole, List.drop_left] at found
    rw [← whole, List.forall_mem_append]
    refine ⟨List.all_eq_true.mp rfl, ?_⟩
    split at found
    · rename_i nodes assembled
      rcases Option.bind_eq_some_iff.mp assembled with ⟨pieces, cut, _⟩
      exact isXmlChar_of_pieces? cut
    · contradiction
  · contradiction

end SentenceGraph.Markup
