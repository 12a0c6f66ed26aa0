import SentenceGraph.Proofs.Exact
import SentenceGraph.Proofs.JsonReading
import SentenceGraph.Rendering

/-!
# JSON renderings of documents

The JSON rendering of a document is read as that document, so that no two documents share a
rendering. This goes for quantities as far as their literals tell them apart. Whatever quantities
are, values that are written alike are alike up to their quantities, and the quantities in the same
places have the same literals.
-/

namespace SentenceGraph.Json

open Decimal

variable {R : Type} [Quantity R]

/-! ### Literals -/

/-- How a quantity is written. -/
def literal (quantity : R) : String :=
  String.ofList (writeReal quantity)

variable {layout : Layout} {depth : Nat} {value other : Value R} {rest otherRest : List Char}

/-- Two texts that start with values of the same level are equal only if the values are written
alike. -/
theorem write_append_inj (readable : IsReadable value) (otherReadable : IsReadable other)
    (closes : Closes rest) (otherCloses : Closes otherRest)
    (same : write layout depth value ++ rest = write layout depth other ++ otherRest) :
    write layout depth value = write layout depth other ∧ rest = otherRest ∧
      value.mapReals reread = other.mapReals reread := by
  have read := readValue_write layout depth value
    (2 * ((write layout depth value).length + (write layout depth other).length)) rest readable
    closes (by omega)
  have otherRead := readValue_write layout depth other
    (2 * ((write layout depth value).length + (write layout depth other).length)) otherRest
    otherReadable otherCloses (by omega)
  rw [same, otherRead] at read
  rcases Prod.mk.inj (Option.some.inj read) with ⟨alike, rfl⟩
  exact ⟨List.append_cancel_right same, rfl, alike.symm⟩

theorem alike_of_write (readable : IsReadable value) (otherReadable : IsReadable other)
    (same : write layout depth value = write layout depth other) :
    value.mapReals reread = other.mapReals reread :=
  (write_append_inj readable otherReadable closes_nil closes_nil (congrArg (· ++ []) same)).2.2

theorem writeString_append_inj {content other : String}
    (same : writeString content ++ rest = writeString other ++ otherRest) :
    content = other ∧ rest = otherRest := by
  have enough : (writeString content).length ≤
      (writeString content).length + (writeString other).length := by omega
  have otherEnough : (writeString other).length ≤
      (writeString content).length + (writeString other).length := by omega
  have read := readString_writeString content rest enough
  have otherRead := readString_writeString other otherRest otherEnough
  have inside : content.toList.flatMap escapeChar ++ '"' :: rest =
      other.toList.flatMap escapeChar ++ '"' :: otherRest := by
    simpa [writeString] using same
  rw [inside, otherRead] at read
  simpa [eq_comm, String.toList_inj] using read

theorem closes_writeItems (layout : Layout) (depth : Nat) (items : List (Value R)) :
    Closes (writeItems layout depth items) := by
  cases items with
  | nil => exact closes_nil
  | cons item items =>
      rw [writeItems]
      exact closes_cons (by simp) _

theorem closes_writeMembers (layout : Layout) (depth : Nat) (members : List (String × Value R)) :
    Closes (writeMembers layout depth members) := by
  cases members with
  | nil => exact closes_nil
  | cons member members =>
      rw [writeMembers]
      exact closes_cons (by simp) _

theorem writeItems_of_write {items others : List (Value R)}
    (alike : Value.mapItemReals (reread : R → R) items = Value.mapItemReals reread others)
    (same : write layout depth (.list items) = write layout depth (.list others)) :
    writeItems layout (depth + 1) items = writeItems layout (depth + 1) others := by
  cases items with
  | nil =>
      cases others with
      | nil => rfl
      | cons other others => simp [Value.mapItemReals] at alike
  | cons item items =>
      cases others with
      | nil => simp [Value.mapItemReals] at alike
      | cons other others =>
          rw [write, write] at same
          have inside := List.append_cancel_right
            (List.append_cancel_right (List.cons.inj same).2)
          rw [List.append_assoc, List.append_assoc] at inside
          simpa [writeItems] using List.append_cancel_left inside

theorem writeMembers_of_write {members others : List (String × Value R)}
    (alike : Value.mapMemberReals (reread : R → R) members = Value.mapMemberReals reread others)
    (same : write layout depth (.object members) = write layout depth (.object others)) :
    writeMembers layout (depth + 1) members = writeMembers layout (depth + 1) others := by
  cases members with
  | nil =>
      cases others with
      | nil => rfl
      | cons other others => simp [Value.mapMemberReals] at alike
  | cons member members =>
      cases others with
      | nil => simp [Value.mapMemberReals] at alike
      | cons other others =>
          rw [write, write] at same
          have inside := List.append_cancel_right
            (List.append_cancel_right (List.cons.inj same).2)
          simpa [writeMembers] using inside

mutual

/-- Values that are written alike have the same literals in the same places. -/
theorem literals_of_write (layout : Layout) (depth : Nat) :
    ∀ value other : Value R, IsReadable value → IsReadable other →
      write layout depth value = write layout depth other →
      value.mapReals literal = other.mapReals literal
  | .null, other, readable, otherReadable, same
  | .bool _, other, readable, otherReadable, same
  | .int _, other, readable, otherReadable, same
  | .text _, other, readable, otherReadable, same => by
      have alike := alike_of_write readable otherReadable same
      cases other
      all_goals simp [Value.mapReals] at alike ⊢
      all_goals exact alike
  | .real quantity, other, readable, otherReadable, same => by
      have alike := alike_of_write readable otherReadable same
      cases other with
      | real otherQuantity =>
          rw [write, write] at same
          rw [Value.mapReals, Value.mapReals, literal, literal, same]
      | _ => simp [Value.mapReals] at alike
  | .list items, other, readable, otherReadable, same => by
      have alike := alike_of_write readable otherReadable same
      cases other with
      | list others =>
          rw [Value.mapReals, Value.mapReals, Value.list.injEq] at alike ⊢
          exact itemLiterals_of_write layout (depth + 1) items others readable otherReadable
            (writeItems_of_write alike same)
      | _ => simp [Value.mapReals] at alike
  | .object members, other, readable, otherReadable, same => by
      have alike := alike_of_write readable otherReadable same
      cases other with
      | object others =>
          rw [Value.mapReals, Value.mapReals, Value.object.injEq] at alike ⊢
          exact memberLiterals_of_write layout (depth + 1) members others readable otherReadable
            (writeMembers_of_write alike same)
      | _ => simp [Value.mapReals] at alike

theorem itemLiterals_of_write (layout : Layout) (depth : Nat) :
    ∀ items others : List (Value R), IsReadable (.list items) → IsReadable (.list others) →
      writeItems layout depth items = writeItems layout depth others →
      Value.mapItemReals literal items = Value.mapItemReals literal others
  | [], others, readable, othersReadable, same => by
      cases others with
      | nil => rfl
      | cons other others => simp [writeItems] at same
  | item :: items, others, readable, othersReadable, same => by
      cases others with
      | nil => simp [writeItems] at same
      | cons other others =>
          have cut : write layout depth item ++ writeItems layout depth items =
              write layout depth other ++ writeItems layout depth others := by
            simpa [writeItems] using same
          rcases readable.cases_items with ⟨itemReadable, itemsReadable⟩
          rcases othersReadable.cases_items with ⟨otherReadable, othersReadable⟩
          rcases write_append_inj itemReadable otherReadable (closes_writeItems layout depth items)
            (closes_writeItems layout depth others) cut with ⟨itemSame, itemsSame, _⟩
          rw [Value.mapItemReals, Value.mapItemReals,
            literals_of_write layout depth item other itemReadable otherReadable itemSame,
            itemLiterals_of_write layout depth items others itemsReadable othersReadable itemsSame]

theorem memberLiterals_of_write (layout : Layout) (depth : Nat) :
    ∀ members others : List (String × Value R), IsReadable (.object members) →
      IsReadable (.object others) →
      writeMembers layout depth members = writeMembers layout depth others →
      Value.mapMemberReals literal members = Value.mapMemberReals literal others
  | [], others, readable, othersReadable, same => by
      cases others with
      | nil => rfl
      | cons other others => simp [writeMembers] at same
  | (key, value) :: members, others, readable, othersReadable, same => by
      cases others with
      | nil => simp [writeMembers] at same
      | cons other others =>
          rcases other with ⟨otherKey, other⟩
          have cut : writeString key ++
                ':' :: ' ' :: (write layout depth value ++ writeMembers layout depth members) =
              writeString otherKey ++
                ':' :: ' ' :: (write layout depth other ++ writeMembers layout depth others) := by
            simpa [writeMembers] using same
          rcases writeString_append_inj cut with ⟨rfl, after⟩
          have afterKey := (List.cons.inj (List.cons.inj after).2).2
          rcases readable.cases_members with ⟨valueReadable, membersReadable⟩
          rcases othersReadable.cases_members with ⟨otherReadable, othersReadable⟩
          rcases write_append_inj valueReadable otherReadable
            (closes_writeMembers layout depth members) (closes_writeMembers layout depth others)
            afterKey with ⟨valueSame, membersSame, _⟩
          rw [Value.mapMemberReals, Value.mapMemberReals,
            literals_of_write layout depth value other valueReadable otherReadable valueSame,
            memberLiterals_of_write layout depth members others membersReadable othersReadable
              membersSame]

end

/-! ### Documents -/

theorem render_json (document : Document R) :
    document.render (.ofRequest (some "json")) = print .document (.object document) := by
  have json : Format.ofRequest (some "json") = .json := by decide +kernel
  rw [json, Document.render]

theorem eq_of_reread {document : Document R}
    (same : ∀ quantity ∈ (Value.object document).reals, reread quantity = quantity) :
    (Value.object document).mapReals reread = .object document :=
  Value.mapReals_eq_self _ same

theorem literals_of_render {document other : Document R}
    (readable : IsReadable (.object document)) (otherReadable : IsReadable (.object other))
    (same : document.render (.ofRequest (some "json")) =
      other.render (.ofRequest (some "json"))) :
    (Value.object document).mapReals literal = (Value.object other).mapReals literal := by
  rw [render_json, render_json, print, print] at same
  exact literals_of_write .document 0 _ _ readable otherReadable (String.ofList_injective same)

/-- The JSON rendering of a document is read as the document, with its entries in their order, and
with the quantities that the literals in it stand for: as it is, if these are its own quantities.
Documents of one rendering have the same literals in the same places, and are the same if the
literals stand for their quantities. Binary numbers are always written as literals. -/
theorem render_reads_back (document other : Document R)
    (readable : IsReadable (.object document)) (otherReadable : IsReadable (.object other)) :
    read? (document.render (.ofRequest (some "json"))) =
        some ((Value.object document).mapReals reread) ∧
      ((∀ quantity ∈ (Value.object document).reals, reread quantity = quantity) →
        read? (document.render (.ofRequest (some "json"))) = some (.object document)) ∧
      (document.render (.ofRequest (some "json")) = other.render (.ofRequest (some "json")) →
        (Value.object document).mapReals literal = (Value.object other).mapReals literal ∧
          ((∀ quantity ∈ (Value.object document).reals ++ (Value.object other).reals,
            reread quantity = quantity) → document = other)) ∧
      ∀ binary : Float, IsNumeric binary := by
  have read := read?_print .document readable
  have otherRead := read?_print .document otherReadable
  rw [← render_json] at read otherRead
  refine ⟨read, ?_, ?_, isNumeric_float⟩
  · intro same
    rw [read, eq_of_reread same]
  · intro alike
    refine ⟨literals_of_render readable otherReadable alike, ?_⟩
    intro same
    rw [List.forall_mem_append] at same
    rw [alike, otherRead, eq_of_reread same.1, eq_of_reread same.2] at read
    exact (Value.object.inj (Option.some.inj read)).symm

/-- Rational numbers that are written with two places. -/
def Hundredths := ℚ

instance : Quantity Hundredths :=
  { exactQuantity with text := exactQuantity.fixedText 2 }

def hundredths (units : Int) : Hundredths :=
  mkRat units 100

/-- A score next to a text with a quote and a line feed in it. -/
def scored : Document Hundredths :=
  [("confidence_score", .real (hundredths 95)), ("original_text", .text "say \"dogs\"\n"),
    ("suggestions", .list [.null, .int (-1), .object []])]

theorem exists_numeral_hundredths : ∃ numeral : Numeral,
    Quantity.text (hundredths 95) = withSign false numeral.chars ∧ numeral.significand = 95 ∧
      numeral.scale = -2 := by
  have allDigits : ∀ character ∈ ['0'] ++ ['9', '5'], character.isDigit = true := by simp
  refine ⟨.positional ['0'] ['9', '5'] (Or.inl rfl) allDigits (by simp), ?_, ?_, ?_⟩
  · rw [Numeral.chars_positional]
    decide +kernel
  · simp [Numeral.significand, Numeral.positional, ofDigits]
  · simp [Numeral.scale, Numeral.power?, Numeral.positional]

theorem render_reads_back_scored :
    IsReadable (.object scored) ∧ IsReadable (.object ([] : Document Hundredths)) ∧
      read? (scored.render (.ofRequest (some "json"))) = some (.object scored) := by
  rcases exists_numeral_hundredths with ⟨numeral, spelled, significand, scale⟩
  have readable : IsReadable (.object scored) := by
    constructor
    · simp [scored, Value.KeysDistinct, Value.MemberKeysDistinct, Value.ItemKeysDistinct]
    · have numeric : IsNumeric (hundredths 95) := fun _ => ⟨false, numeral, spelled⟩
      simp [scored, Value.reals, Value.memberReals, Value.itemReals, numeric]
  have nothing : IsReadable (.object ([] : Document Hundredths)) := by
    constructor
    · simp [Value.KeysDistinct, Value.MemberKeysDistinct]
    · simp [Value.reals, Value.memberReals]
  have same : reread (hundredths 95) = hundredths 95 := by
    rw [reread_of_numeral rfl spelled, significand, scale]
    change (1 : ℚ) * (95 : Nat) * (10 : ℚ) ^ (-2 : Int) = mkRat 95 100
    norm_num [Rat.mkRat_eq_div]
  refine ⟨readable, nothing, (render_reads_back scored [] readable nothing).2.1 ?_⟩
  simp [scored, Value.reals, Value.memberReals, Value.itemReals, same]

end SentenceGraph.Json
