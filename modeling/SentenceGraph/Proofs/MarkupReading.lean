import SentenceGraph.Proofs.MarkupPieces

/-!
# XML documents read back

What is written for a document is well-formed XML, and reading it gives a tree of the shape of the
document: `Mirrors` says that without regard to the white space between the children of an element.

Reading is done piece by piece, so the induction over the document is stated for any text that
follows and any elements that are open (`ReadsAs`). It carries that the nodes read so far do not end
in a text that means something (`Quiet`), since the line breaks and the indentation of the next
element will be added to such a text.
-/

namespace SentenceGraph.Markup

variable {children : List Node} {outer : List (String × List Node)} {name : String}
  {rest : List Char}

/-! ### Nodes -/

/-- Nodes that do not end in a text that means something. -/
def Quiet (nodes : List Node) : Prop :=
  ∀ content, nodes.getLast? = some (.text content) → (Node.text content).isBlank = true

/-- The nodes of an element that holds nothing but a text. -/
def textNodes (content : String) : List Node :=
  if content = "" then [] else [.text content]

theorem quiet_nil : Quiet [] := by
  simp [Quiet]

theorem quiet_append_element (nodes : List Node) (name : String) (children : List Node) :
    Quiet (nodes ++ [.element name children]) := by
  simp [Quiet]

theorem significant_append (first second : List Node) :
    significant (first ++ second) = significant first ++ significant second :=
  List.filter_append ..

theorem addCharacter_space {nodes : List Node} {character : Char} (quiet : Quiet nodes)
    (space : isSpace character = true) :
    Quiet (addCharacter nodes character) ∧
      significant (addCharacter nodes character) = significant nodes := by
  rw [addCharacter]
  split
  · rename_i content last
    have blank := quiet content last
    have split := List.dropLast_append_getLast? _ last
    have longer : (Node.text (content.push character)).isBlank = true := by
      simpa [Node.isBlank, space] using blank
    constructor
    · simpa [Quiet] using longer
    · conv_rhs => rw [← split]
      simp [significant, blank, longer]
  · have alone : (Node.text (String.singleton character)).isBlank = true := by
      simpa [Node.isBlank] using space
    constructor
    · simpa [Quiet] using alone
    · simp [significant, alone]

/-- White space after quiet nodes changes nothing that means something. -/
theorem addText_space {nodes : List Node} {gap : List Char} (quiet : Quiet nodes)
    (space : ∀ character ∈ gap, isSpace character = true) :
    Quiet (addText nodes gap) ∧ significant (addText nodes gap) = significant nodes := by
  induction gap generalizing nodes with
  | nil => exact ⟨quiet, rfl⟩
  | cons character gap inductionHypothesis =>
      rcases addCharacter_space quiet (space character (by simp)) with ⟨quiet', same⟩
      rw [← same]
      exact inductionHypothesis quiet' fun other other_mem =>
        space other (List.mem_cons_of_mem _ other_mem)

theorem addText_text (start : String) (content : List Char) :
    addText [.text start] content = [.text (start ++ String.ofList content)] := by
  induction content generalizing start with
  | nil => simp [addText]
  | cons character content inductionHypothesis =>
      have pushed : addCharacter [.text start] character = [.text (start.push character)] := rfl
      have same : start.push character ++ String.ofList content =
          start ++ String.ofList (character :: content) := by
        rw [← String.toList_inj]
        simp
      rw [addText, List.foldl_cons, pushed, ← addText, inductionHypothesis, same]

theorem addText_nil (content : List Char) :
    addText [] content = textNodes (String.ofList content) := by
  cases content with
  | nil => rfl
  | cons character content =>
      have started : addCharacter [] character = [.text (String.singleton character)] := rfl
      have same : String.singleton character ++ String.ofList content =
          String.ofList (character :: content) := by
        rw [← String.toList_inj]
        simp
      have notEmpty : String.ofList (character :: content) ≠ "" := by
        simp [← String.toList_inj]
      rw [addText, List.foldl_cons, started, ← addText, addText_text, same, textNodes,
        if_neg notEmpty]

/-! ### Elements -/

/-- What a text is read as: nodes that are added to quiet ones before them, but for white space. -/
def ReadsAs (written : List Char) (added : List Node) : Prop :=
  ∀ children, Quiet children → ∃ next, Quiet next ∧
    significant next = significant children ++ added ∧
      ∀ outer rest, readFrom children outer (written ++ rest) = readFrom next outer rest

theorem ReadsAs.nil : ReadsAs [] [] := by
  intro children quiet
  exact ⟨children, quiet, by simp, fun _ _ => rfl⟩

theorem ReadsAs.append {first second : List Char} {firstAdded secondAdded : List Node}
    (firstReads : ReadsAs first firstAdded) (secondReads : ReadsAs second secondAdded) :
    ReadsAs (first ++ second) (firstAdded ++ secondAdded) := by
  intro children quiet
  rcases firstReads children quiet with ⟨between, quietBetween, added, reads⟩
  rcases secondReads between quietBetween with ⟨next, quietNext, addedNext, readsNext⟩
  refine ⟨next, quietNext, ?_, ?_⟩
  · rw [addedNext, added, List.append_assoc]
  · intro outer rest
    rw [List.append_assoc, reads, readsNext]

/-- The line break and the indentation before a tag. -/
def gap (depth : Nat) : List Char :=
  '\n' :: List.replicate (2 * depth) ' '

theorem isSpace_of_mem_gap {depth : Nat} {character : Char}
    (character_mem : character ∈ gap depth) : isSpace character = true := by
  rcases List.mem_cons.mp character_mem with rfl | spaces
  · rfl
  · rw [List.eq_of_mem_replicate spaces]
    rfl

theorem addText_gap (depth : Nat) {nodes : List Node} (quiet : Quiet nodes) :
    Quiet (addText nodes (gap depth)) ∧
      significant (addText nodes (gap depth)) = significant nodes := by
  apply addText_space quiet
  intro character character_mem
  exact isSpace_of_mem_gap character_mem

theorem readFrom_gap (depth : Nat) :
    readFrom children outer (gap depth ++ rest) =
      readFrom (addText children (gap depth)) outer rest := by
  have plain : (gap depth).flatMap escapeChar = gap depth := by
    simp [gap, List.flatMap_replicate, escapeChar]
  have valid : ∀ character ∈ gap depth, isXmlChar character = true := by
    intro character character_mem
    rcases List.mem_cons.mp character_mem with rfl | spaces
    · rfl
    · rw [List.eq_of_mem_replicate spaces]
      rfl
  rw [← readFrom_text valid, plain]

/-- Text between the tags of an element, after a line break and indentation. -/
theorem readsAs_element (depth : Nat) {inside : List Char} {inner : List Node}
    (named : IsName name)
    (reads : ∀ outer rest, readFrom [] outer (inside ++ rest) = readFrom inner outer rest) :
    ReadsAs (gap depth ++ '<' :: (name.toList ++ '>' :: (inside ++ '<' :: '/' ::
      (name.toList ++ ['>'])))) [.element name inner] := by
  intro children quiet
  have same := (addText_gap depth quiet).2
  refine ⟨_, quiet_append_element (addText children (gap depth)) name inner, ?_, ?_⟩
  · rw [significant_append, same]
    rfl
  · intro outer rest
    simp only [List.append_assoc, List.cons_append, List.nil_append]
    rw [readFrom_gap, readFrom_opening named, reads, readFrom_closing named]

theorem readsAs_single (depth : Nat) (named : IsName name) :
    ReadsAs (gap depth ++ '<' :: (name.toList ++ ['/', '>'])) [.element name []] := by
  intro children quiet
  have same := (addText_gap depth quiet).2
  refine ⟨_, quiet_append_element (addText children (gap depth)) name [], ?_, ?_⟩
  · rw [significant_append, same]
    rfl
  · intro outer rest
    simp only [List.append_assoc, List.cons_append, List.nil_append]
    rw [readFrom_gap, readFrom_single named]

/-! ### Documents -/

variable {R : Type} [Quantity R]

mutual

/-- The nodes inside an element show a value: those of an object and of a list are elements for its
members and its items, up to white space, and those of a scalar are the text of the scalar, without
the characters that XML cannot carry. -/
def Mirrors : Value R → List Node → Prop
  | .null, nodes => nodes = []
  | .object members, nodes => MembersMirror members (significant nodes)
  | .list items, nodes => ItemsMirror items (significant nodes)
  | value, nodes => nodes = textNodes (String.ofList (value.scalarText.toList.filter isXmlChar))

def ItemsMirror : List (Value R) → List Node → Prop
  | [], nodes => nodes = []
  | item :: rest, nodes =>
      ∃ children others, nodes = .element itemName children :: others ∧ Mirrors item children ∧
        ItemsMirror rest others

def MembersMirror : List (String × Value R) → List Node → Prop
  | [], nodes => nodes = []
  | (key, value) :: rest, nodes =>
      ∃ children others, nodes = .element (elementName key) children :: others ∧
        Mirrors value children ∧ MembersMirror rest others

end

mutual

/-- The names of the elements of a node. -/
def Node.names : Node → List String
  | .element name children => name :: namesOf children
  | .text _ => []

def namesOf : List Node → List String
  | [] => []
  | node :: rest => node.names ++ namesOf rest

end

theorem namesOf_append (first second : List Node) :
    namesOf (first ++ second) = namesOf first ++ namesOf second := by
  induction first with
  | nil => rfl
  | cons node first inductionHypothesis =>
      rw [List.cons_append, namesOf, inductionHypothesis, namesOf, List.append_assoc]

theorem namesOf_significant (nodes : List Node) : namesOf (significant nodes) = namesOf nodes := by
  induction nodes with
  | nil => rfl
  | cons node nodes inductionHypothesis =>
      cases node with
      | element name children =>
          have kept : significant (.element name children :: nodes) =
              .element name children :: significant nodes := rfl
          rw [kept, namesOf, inductionHypothesis, namesOf]
      | text content =>
          rw [namesOf, Node.names, List.nil_append, ← inductionHypothesis]
          cases blank : (Node.text content).isBlank with
          | true => simp [significant, blank]
          | false => simp [significant, blank, namesOf, Node.names]

/-- The characters of lines, each after a line break. -/
def spell (lines : List String) : List Char :=
  lines.flatMap fun line => '\n' :: line.toList

@[simp]
theorem spell_append (first second : List String) :
    spell (first ++ second) = spell first ++ spell second :=
  List.flatMap_append

@[simp]
theorem spell_cons (line : String) (lines : List String) :
    spell (line :: lines) = '\n' :: line.toList ++ spell lines := rfl

@[simp]
theorem spell_nil : spell [] = [] := rfl

theorem toList_indentation (depth : Nat) :
    '\n' :: (indentation depth).toList = gap depth := by
  rw [indentation, String.toList_ofList, gap]

theorem toList_intercalate_lines (first : String) (lines : List String) :
    ("\n".intercalate (first :: lines)).toList = first.toList ++ spell lines := by
  induction lines generalizing first with
  | nil => simp
  | cons second lines inductionHypothesis =>
      rw [String.intercalate_cons_cons, String.toList_append, inductionHypothesis]
      simp

theorem readsAs_null (depth : Nat) (named : IsName name) :
    ReadsAs (spell (elementLines depth name (.null : Value R))) [.element name []] := by
  have read := readsAs_single depth named
  simpa [elementLines, ← toList_indentation] using read

/-- The lines of an element between whose tags there are lines that can be read. -/
theorem readsAs_container (depth : Nat) {lines : List String} {added : List Node}
    (named : IsName name) (reads : ReadsAs (spell lines) added) :
    ∃ inner, significant inner = added ∧
      ReadsAs
        (spell ((indentation depth ++ "<" ++ name ++ ">") ::
          (lines ++ [indentation depth ++ "</" ++ name ++ ">"])))
        [.element name inner] := by
  rcases reads [] quiet_nil with ⟨next, quiet, found, readsNext⟩
  have same := (addText_gap depth quiet).2
  refine ⟨addText next (gap depth), same.trans found, ?_⟩
  have inside : ∀ outer rest,
      readFrom [] outer (spell lines ++ gap depth ++ rest) =
        readFrom (addText next (gap depth)) outer rest := by
    intro outer rest
    rw [List.append_assoc, readsNext, readFrom_gap]
  have read := readsAs_element depth named inside
  simpa [← toList_indentation] using read

theorem readsAs_scalar (depth : Nat) (named : IsName name) (content : String) :
    ReadsAs
      (spell
        [indentation depth ++ "<" ++ name ++ ">" ++ contentOfText content ++ "</" ++ name ++ ">"])
      [.element name (textNodes (String.ofList (content.toList.filter isXmlChar)))] := by
  have inside : ∀ outer rest,
      readFrom [] outer ((contentOfText content).toList ++ rest) =
        readFrom (textNodes (String.ofList (content.toList.filter isXmlChar))) outer rest := by
    intro outer rest
    rw [contentOfText, String.toList_ofList, readFrom_text (by simp), addText_nil]
  have read := readsAs_element depth named inside
  simpa [← toList_indentation] using read

/-- Nodes of names only. -/
def AreNamed (nodes : List Node) : Prop :=
  ∀ name ∈ namesOf nodes, IsName name

theorem areNamed_append {first second : List Node} (firstNamed : AreNamed first)
    (secondNamed : AreNamed second) : AreNamed (first ++ second) := by
  intro name name_mem
  rw [namesOf_append] at name_mem
  rcases List.mem_append.mp name_mem with here | there
  · exact firstNamed name here
  · exact secondNamed name there

theorem areNamed_element (named : IsName name) {inner : List Node} (innerNamed : AreNamed inner) :
    AreNamed [.element name inner] := by
  intro other other_mem
  rw [namesOf, Node.names, namesOf, List.append_nil] at other_mem
  rcases List.mem_cons.mp other_mem with rfl | deeper
  · exact named
  · exact innerNamed other deeper

theorem areNamed_of_significant {inner added : List Node} (found : significant inner = added)
    (addedNamed : AreNamed added) : AreNamed inner := by
  rwa [AreNamed, ← namesOf_significant, found]

theorem areNamed_textNodes (content : String) : AreNamed (textNodes content) := by
  rw [textNodes]
  split
  · simp [AreNamed, namesOf]
  · simp [AreNamed, namesOf, Node.names]

mutual

/-- The lines of a value are read as one element that mirrors it. -/
theorem exists_readsAs_element (depth : Nat) {name : String} (named : IsName name) :
    ∀ value : Value R, ∃ inner,
      ReadsAs (spell (elementLines depth name value)) [.element name inner] ∧
        Mirrors value inner ∧ AreNamed inner
  | .null => ⟨[], readsAs_null depth named, by rw [Mirrors], by simp [AreNamed, namesOf]⟩
  | .object members => by
      rcases exists_readsAs_members (depth + 1) members with ⟨added, reads, mirrors, allNamed⟩
      rcases readsAs_container depth named reads with ⟨inner, found, whole⟩
      refine ⟨inner, ?_, ?_, areNamed_of_significant found allNamed⟩
      · rwa [elementLines]
      · rwa [Mirrors, found]
  | .list items => by
      rcases exists_readsAs_items (depth + 1) items with ⟨added, reads, mirrors, allNamed⟩
      rcases readsAs_container depth named reads with ⟨inner, found, whole⟩
      refine ⟨inner, ?_, ?_, areNamed_of_significant found allNamed⟩
      · rwa [elementLines]
      · rwa [Mirrors, found]
  | .bool truth => ⟨_, readsAs_scalar depth named _, rfl, areNamed_textNodes _⟩
  | .int number => ⟨_, readsAs_scalar depth named _, rfl, areNamed_textNodes _⟩
  | .real quantity => ⟨_, readsAs_scalar depth named _, rfl, areNamed_textNodes _⟩
  | .text content => ⟨_, readsAs_scalar depth named _, rfl, areNamed_textNodes _⟩

theorem exists_readsAs_items (depth : Nat) :
    ∀ items : List (Value R), ∃ added, ReadsAs (spell (itemLines depth items)) added ∧
      ItemsMirror items added ∧ AreNamed added
  | [] => ⟨[], .nil, by rw [ItemsMirror], by simp [AreNamed, namesOf]⟩
  | item :: rest => by
      rcases exists_readsAs_element depth isName_itemName item with ⟨inner, reads, mirrors, named⟩
      rcases exists_readsAs_items depth rest with ⟨added, readsRest, mirrorsRest, namedRest⟩
      refine ⟨.element itemName inner :: added, ?_, ?_, ?_⟩
      · rw [itemLines, spell_append]
        exact reads.append readsRest
      · rw [ItemsMirror]
        exact ⟨inner, added, rfl, mirrors, mirrorsRest⟩
      · exact areNamed_append (areNamed_element isName_itemName named) namedRest

theorem exists_readsAs_members (depth : Nat) :
    ∀ members : List (String × Value R), ∃ added,
      ReadsAs (spell (memberLines depth members)) added ∧ MembersMirror members added ∧
        AreNamed added
  | [] => ⟨[], .nil, by rw [MembersMirror], by simp [AreNamed, namesOf]⟩
  | (key, value) :: rest => by
      have keyNamed := isName_elementName key
      rcases exists_readsAs_element depth keyNamed value with ⟨inner, reads, mirrors, named⟩
      rcases exists_readsAs_members depth rest with ⟨added, readsRest, mirrorsRest, namedRest⟩
      refine ⟨.element (elementName key) inner :: added, ?_, ?_, ?_⟩
      · rw [memberLines, spell_append]
        exact reads.append readsRest
      · rw [MembersMirror]
        exact ⟨inner, added, rfl, mirrors, mirrorsRest⟩
      · exact areNamed_append (areNamed_element keyNamed named) namedRest

end

theorem print_eq (root : String) (members : List (String × Value R)) :
    (print root members).toList =
      prolog.toList ++ spell (elementLines 0 root (.object members)) := by
  rw [print, toList_intercalate_lines, elementLines]
  simp [indentation]

/-- The document of an object is read back as the root element, inside which there is what mirrors
the members. All its elements have names of letters, digits and underscores, and all its characters
are characters of XML. -/
theorem print_reads_back (members : List (String × Value R)) :
    ∃ children, read? (print rootName members) = some (.element rootName children) ∧
      Mirrors (.object members) children ∧
      (∀ name ∈ (Node.element rootName children).names, IsName name) ∧
      ∀ character ∈ (print rootName members).toList, isXmlChar character = true := by
  rcases exists_readsAs_element 0 isName_rootName (.object members) with
    ⟨children, reads, mirrors, named⟩
  rcases reads [] quiet_nil with ⟨nodes, _, added, readsNodes⟩
  have assembled := readsNodes [] []
  rw [List.append_nil, readFrom_nil] at assembled
  have found : read? (print rootName members) = some (.element rootName children) := by
    have starts : prolog.toList.isPrefixOf (print rootName members).toList = true := by
      rw [print_eq, List.isPrefixOf_iff_prefix]
      exact List.prefix_append _ _
    rw [read?, if_pos starts, print_eq, List.drop_left]
    rw [readFrom] at assembled
    rw [assembled]
    simp only [added]
    rfl
  refine ⟨children, found, mirrors, ?_, isXmlChar_of_read? found⟩
  simpa [AreNamed, namesOf] using areNamed_element isName_rootName named

end SentenceGraph.Markup
