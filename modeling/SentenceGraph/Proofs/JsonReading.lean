import Mathlib.Data.List.Nodup
import SentenceGraph.Proofs.Contents
import SentenceGraph.Proofs.JsonPieces

/-!
# JSON texts read back

Reading what was written for a value gives the value back, with its members in their order, if the
keys of each object in it are distinct. Quantities are written as literals, and what is read is the
quantity that the literal stands for (`reread`).

The induction over the value is stated for any text that may follow a value, and for any number of
steps that is at least twice the length of what was written.
-/

namespace SentenceGraph.Json

open Decimal

variable {R : Type} [Quantity R] {rest : List Char}

/-- A value that is read back: its keys are distinct, and its quantities are written as literals. -/
structure IsReadable (value : Value R) : Prop where
  distinct : value.KeysDistinct
  numeric : ∀ quantity ∈ value.reals, IsNumeric quantity

namespace IsReadable

theorem real {quantity : R} (readable : IsReadable (.real quantity)) : IsNumeric quantity :=
  readable.numeric quantity (by simp [Value.reals])

theorem cases_items {item : Value R} {items : List (Value R)}
    (readable : IsReadable (.list (item :: items))) :
    IsReadable item ∧ IsReadable (.list items) := by
  rcases readable with ⟨distinct, numeric⟩
  rw [Value.KeysDistinct, Value.ItemKeysDistinct] at distinct
  rw [Value.reals, Value.itemReals, List.forall_mem_append] at numeric
  refine ⟨⟨distinct.1, numeric.1⟩, ⟨?_, ?_⟩⟩
  · rw [Value.KeysDistinct]
    exact distinct.2
  · rw [Value.reals]
    exact numeric.2

theorem cases_members {key : String} {value : Value R} {members : List (String × Value R)}
    (readable : IsReadable (.object ((key, value) :: members))) :
    IsReadable value ∧ IsReadable (.object members) := by
  rcases readable with ⟨distinct, numeric⟩
  rw [Value.KeysDistinct, Value.MemberKeysDistinct, List.map_cons, List.nodup_cons] at distinct
  rw [Value.reals, Value.memberReals, List.forall_mem_append] at numeric
  refine ⟨⟨distinct.2.1, numeric.1⟩, ⟨?_, ?_⟩⟩
  · rw [Value.KeysDistinct]
    exact ⟨distinct.1.2, distinct.2.2⟩
  · rw [Value.reals]
    exact numeric.2

theorem nodup_keys {members : List (String × Value R)} (readable : IsReadable (.object members)) :
    (members.map Prod.fst).Nodup := by
  have distinct := readable.distinct
  rw [Value.KeysDistinct] at distinct
  exact distinct.1

end IsReadable

/-! ### How values start -/

/-- The first characters of words and numbers. -/
def IsAtomStart (character : Char) : Prop :=
  character.isDigit = true ∨ character ∈ ['-', 'n', 't', 'f', 'N', 'I']

theorem IsAtomStart.ne {character mark : Char} (start : IsAtomStart character)
    (noDigit : mark.isDigit = false) (apart : mark ∉ ['-', 'n', 't', 'f', 'N', 'I']) :
    character ≠ mark := by
  rintro rfl
  rcases start with digit | letter
  · rw [noDigit] at digit
    contradiction
  · exact apart letter

def StartsAtom (characters : List Char) : Prop :=
  ∃ first others, characters = first :: others ∧ IsAtomStart first

theorem startsAtom_bool (truth : Bool) : StartsAtom (if truth then "true" else "false").toList := by
  cases truth with
  | false => exact ⟨'f', _, rfl, Or.inr (by simp)⟩
  | true => exact ⟨'t', _, rfl, Or.inr (by simp)⟩

theorem startsAtom_integerChars (number : Int) : StartsAtom (integerChars number) := by
  rcases (isWhole_toDigits number.natAbs).exists_eq_cons with ⟨first, others, written, digit⟩
  rw [integerChars, written]
  split
  · exact ⟨'-', _, rfl, Or.inr (by simp)⟩
  · exact ⟨first, others, rfl, Or.inl digit⟩

theorem startsAtom_writeReal {quantity : R} (numeric : IsNumeric quantity) :
    StartsAtom (writeReal quantity) := by
  rw [writeReal]
  cases finite : Quantity.nonFinite? quantity with
  | none =>
      rcases numeric finite with ⟨negative, numeral, spelled⟩
      rcases (isWhole_whole numeral).exists_eq_cons with ⟨first, others, written, digit⟩
      simp only [spelled, withSign, String.toList_ofList, Numeral.chars, written]
      cases negative with
      | false => exact ⟨first, _, rfl, Or.inl digit⟩
      | true => exact ⟨'-', _, rfl, Or.inr (by simp)⟩
  | some kind =>
      cases kind with
      | notANumber => exact ⟨'N', _, rfl, Or.inr (by simp)⟩
      | infinite negative =>
          cases negative with
          | false => exact ⟨'I', _, rfl, Or.inr (by simp)⟩
          | true => exact ⟨'-', _, rfl, Or.inr (by simp)⟩

theorem readValue_of_startsAtom {characters rest : List Char} {value : Value R} {steps : Nat}
    (starts : StartsAtom characters) (read : readAtom (characters ++ rest) = some (value, rest))
    (enough : 2 * characters.length ≤ steps) :
    readValue steps (characters ++ rest) = some (value, rest) := by
  rcases starts with ⟨first, others, rfl, start⟩
  have noQuote : first ≠ '"' := start.ne rfl (by decide)
  have noBracket : first ≠ '[' := start.ne rfl (by decide)
  have noBrace : first ≠ '\x7b' := start.ne rfl (by decide)
  cases steps with
  | zero => simp at enough
  | succ steps =>
      rw [← read, List.cons_append, readValue]
      all_goals simp [noQuote, noBracket, noBrace]

/-- A text that starts with neither white space nor the end of a list. -/
def StartsValue (characters : List Char) : Prop :=
  ∃ first others, characters = first :: others ∧ isGap first = false ∧ first ≠ ']'

theorem StartsAtom.startsValue {characters : List Char} (starts : StartsAtom characters) :
    StartsValue characters := by
  rcases starts with ⟨first, others, rfl, start⟩
  have noSpace : first ≠ ' ' := start.ne rfl (by decide)
  have noTab : first ≠ '\t' := start.ne rfl (by decide)
  have noFeed : first ≠ '\n' := start.ne rfl (by decide)
  have noReturn : first ≠ '\r' := start.ne rfl (by decide)
  exact ⟨first, others, rfl, by simp [isGap, noSpace, noTab, noFeed, noReturn],
    start.ne rfl (by decide)⟩

theorem startsValue_write (layout : Layout) (depth : Nat) :
    ∀ value : Value R, IsReadable value → StartsValue (write layout depth value)
  | .null, _ => by
      rw [write]
      exact ⟨'n', _, rfl, by decide⟩
  | .bool truth, _ => by
      rw [write]
      cases truth with
      | false => exact ⟨'f', _, rfl, by decide⟩
      | true => exact ⟨'t', _, rfl, by decide⟩
  | .int number, _ => by
      rw [write]
      exact (startsAtom_integerChars number).startsValue
  | .real quantity, readable => by
      rw [write]
      exact (startsAtom_writeReal readable.real).startsValue
  | .text content, _ => by
      rw [write]
      exact ⟨'"', _, rfl, by decide⟩
  | .list [], _ | .list (_ :: _), _ => by
      rw [write]
      exact ⟨'[', _, rfl, by decide⟩
  | .object [], _ | .object (_ :: _), _ => by
      rw [write]
      exact ⟨'\x7b', _, rfl, by decide⟩

theorem skipGap_of_startsValue {characters : List Char} (starts : StartsValue characters)
    (rest : List Char) : skipGap (characters ++ rest) = characters ++ rest := by
  rcases starts with ⟨first, others, rfl, noGap, _⟩
  simp [skipGap, noGap]

theorem skipGap_append {gap : List Char} (allGap : ∀ character ∈ gap, isGap character = true)
    (rest : List Char) : skipGap (gap ++ rest) = skipGap rest :=
  List.dropWhile_append_of_pos allGap

theorem isGap_of_mem_newLine {width depth : Nat} {character : Char}
    (character_mem : character ∈ newLine width depth) : isGap character = true := by
  rcases List.mem_cons.mp character_mem with rfl | space
  · rfl
  · rw [List.eq_of_mem_replicate space]
    rfl

theorem skipGap_edge (layout : Layout) (depth : Nat) (rest : List Char) :
    skipGap (layout.edge depth ++ rest) = skipGap rest := by
  apply skipGap_append
  cases layout with
  | oneLine => simp [Layout.edge]
  | indented width => exact fun _ => isGap_of_mem_newLine

theorem skipGap_gap (layout : Layout) (depth : Nat) (rest : List Char) :
    skipGap (layout.gap depth ++ rest) = skipGap rest := by
  apply skipGap_append
  cases layout with
  | oneLine => simp [Layout.gap, isGap]
  | indented width => exact fun _ => isGap_of_mem_newLine

theorem closes_edge (layout : Layout) (depth : Nat) {rest : List Char} (closes : Closes rest) :
    Closes (layout.edge depth ++ rest) := by
  cases layout with
  | oneLine => exact closes
  | indented width => exact closes_cons (by simp) _

/-! ### One step of the reader -/

section Steps

variable {characters more : List Char} {value item : Value R} {items : List (Value R)}
  {steps : Nat}

theorem length_le_escaped (content : List Char) :
    content.length ≤ (content.flatMap escapeChar).length := by
  induction content with
  | nil => simp
  | cons character content inductionHypothesis =>
      rcases exists_escapeChar_eq_cons character with ⟨first, others, written, _⟩
      simp only [List.flatMap_cons, written, List.length_append, List.length_cons]
      omega

theorem readString_writeString (content : String) (rest : List Char)
    (enough : (writeString content).length ≤ steps) :
    readString steps (content.toList.flatMap escapeChar ++ '"' :: rest) =
      some (content.toList, rest) := by
  have longer := length_le_escaped content.toList
  simp only [writeString, List.length_cons, List.length_append] at enough
  exact readString_escaped rest (by omega)

theorem readValue_writeString (content : String) (rest : List Char)
    (enough : 2 * (writeString content).length ≤ steps) :
    (readValue steps (writeString content ++ rest) : Option (Value R × List Char)) =
      some (.text content, rest) := by
  cases steps with
  | zero => simp [writeString] at enough
  | succ steps =>
      have shorter : (writeString content).length ≤ steps := by omega
      have read := readString_writeString content rest shorter
      simp [writeString, readValue, read]

theorem readValue_list (layout : Layout) (depth : Nat) (starts : StartsValue characters)
    (read : readItems steps (characters ++ more) = some (items, rest)) :
    readValue (steps + 1) ('[' :: (layout.edge depth ++ (characters ++ more))) =
      some (.list items, rest) := by
  have here := skipGap_of_startsValue starts more
  rcases starts with ⟨first, others, rfl, _, notEnd⟩
  rw [List.cons_append] at here read
  simp only [readValue, skipGap_edge, List.cons_append, here]
  split
  · rename_i same
    exact absurd (List.cons.inj same).1 notEnd
  · simp [read]

theorem readItems_last (layout : Layout) (depth : Nat)
    (read : readValue steps characters = some (item, layout.edge depth ++ ']' :: rest)) :
    readItems (steps + 1) characters = some ([item], rest) := by
  have closing : skipGap (']' :: rest) = ']' :: rest := rfl
  simp [readItems, read, skipGap_edge, closing]

theorem readItems_more (layout : Layout) (depth : Nat) {next : List Char}
    (starts : StartsValue next)
    (read : readValue steps characters =
      some (item, ',' :: (layout.gap depth ++ (next ++ more))))
    (readMore : readItems steps (next ++ more) = some (items, rest)) :
    readItems (steps + 1) characters = some (item :: items, rest) := by
  have comma : skipGap (',' :: (layout.gap depth ++ (next ++ more))) =
      ',' :: (layout.gap depth ++ (next ++ more)) := rfl
  simp only [readItems, read, Option.bind_eq_bind, Option.bind_some, comma, skipGap_gap,
    skipGap_of_startsValue starts, readMore]
  rfl

omit [Quantity R] in
theorem setMember_of_new {known : List (String × Value R)} {key : String}
    (new : key ∉ known.map Prod.fst) (value : Value R) :
    setMember known key value = known ++ [(key, value)] := by
  rw [setMember, if_neg]
  simpa using new

section Members

variable {known : List (String × Value R)} {key : String} {written : List Char}

theorem readMembers_last (layout : Layout) (depth : Nat) (new : key ∉ known.map Prod.fst)
    (starts : StartsValue written) (enough : (writeString key).length ≤ steps)
    (read : readValue steps (written ++ more) =
      some (value, layout.edge depth ++ '\x7d' :: rest)) :
    readMembers (steps + 1) known (writeString key ++ ':' :: ' ' :: (written ++ more)) =
      some (known ++ [(key, value)], rest) := by
  have readKey := readString_writeString key (':' :: ' ' :: (written ++ more)) enough
  have colon : skipGap (':' :: ' ' :: (written ++ more)) = ':' :: ' ' :: (written ++ more) := rfl
  have space : skipGap (' ' :: (written ++ more)) = written ++ more :=
    skipGap_of_startsValue starts more
  have closing : skipGap ('\x7d' :: rest) = '\x7d' :: rest := rfl
  simp [writeString, readMembers, readKey, colon, space, read, setMember_of_new new, skipGap_edge,
    closing]

theorem readMembers_more (layout : Layout) (depth : Nat) {next after : List Char}
    (new : key ∉ known.map Prod.fst) (starts : StartsValue written) (nextStarts : StartsValue next)
    (enough : (writeString key).length ≤ steps)
    (read : readValue steps (written ++ more) =
      some (value, ',' :: (layout.gap depth ++ (next ++ after)))) :
    readMembers (steps + 1) known (writeString key ++ ':' :: ' ' :: (written ++ more)) =
      readMembers steps (known ++ [(key, value)]) (next ++ after) := by
  have readKey := readString_writeString key (':' :: ' ' :: (written ++ more)) enough
  have colon : skipGap (':' :: ' ' :: (written ++ more)) = ':' :: ' ' :: (written ++ more) := rfl
  have space : skipGap (' ' :: (written ++ more)) = written ++ more :=
    skipGap_of_startsValue starts more
  have comma : skipGap (',' :: (layout.gap depth ++ (next ++ after))) =
      ',' :: (layout.gap depth ++ (next ++ after)) := rfl
  simp [writeString, readMembers, readKey, colon, space, read, setMember_of_new new, skipGap_gap,
    comma, skipGap_of_startsValue nextStarts]

end Members

theorem startsValue_writeString (content : String) : StartsValue (writeString content) :=
  ⟨'"', _, rfl, by decide⟩

theorem readValue_object (layout : Layout) (depth : Nat) {key : String}
    {members : List (String × Value R)}
    (read : readMembers steps [] (writeString key ++ more) = some (members, rest)) :
    readValue (steps + 1) ('\x7b' :: (layout.edge depth ++ (writeString key ++ more))) =
      some (.object members, rest) := by
  have here := skipGap_of_startsValue (startsValue_writeString key) more
  have quoted : writeString key ++ more =
      '"' :: (key.toList.flatMap escapeChar ++ '"' :: more) := by
    simp [writeString]
  rw [quoted] at read here
  simp only [readValue, skipGap_edge, quoted, here]
  simp [read]

end Steps

/-- The items of a list from its first one on. -/
def itemsText (layout : Layout) (depth : Nat) : List (Value R) → List Char
  | [] => []
  | item :: rest => write layout depth item ++ writeItems layout depth rest

/-- The members of an object from its first one on. -/
def membersText (layout : Layout) (depth : Nat) : List (String × Value R) → List Char
  | [] => []
  | (key, value) :: rest =>
      writeString key ++ ':' :: ' ' :: (write layout depth value ++ writeMembers layout depth rest)

theorem writeItems_cons (layout : Layout) (depth : Nat) (item : Value R) (items : List (Value R)) :
    writeItems layout depth (item :: items) =
      ',' :: (layout.gap depth ++ itemsText layout depth (item :: items)) := by
  simp [writeItems, itemsText]

theorem writeMembers_cons (layout : Layout) (depth : Nat) (member : String × Value R)
    (members : List (String × Value R)) :
    writeMembers layout depth (member :: members) =
      ',' :: (layout.gap depth ++ membersText layout depth (member :: members)) := by
  simp [writeMembers, membersText]

theorem startsValue_membersText (layout : Layout) (depth : Nat) (member : String × Value R)
    (members : List (String × Value R)) :
    StartsValue (membersText layout depth (member :: members)) := by
  rw [membersText]
  exact ⟨'"', _, rfl, by decide⟩

theorem startsValue_itemsText (layout : Layout) (depth : Nat) {item : Value R}
    (items : List (Value R)) (readable : IsReadable item) :
    StartsValue (itemsText layout depth (item :: items)) := by
  rcases startsValue_write layout depth item readable with ⟨first, others, written, starts⟩
  rw [itemsText, written]
  exact ⟨first, _, rfl, starts⟩

-- The reader spends a step on each value and one more on each item or member around it, and every
-- item and member is at least one character: twice what is left to write bounds what is left to read.
mutual

/-- A value is read back, with what its literals stand for, from the front of a text. -/
theorem readValue_write (layout : Layout) (depth : Nat) :
    ∀ (value : Value R) (steps : Nat) (rest : List Char), IsReadable value → Closes rest →
      2 * (write layout depth value).length ≤ steps →
      readValue steps (write layout depth value ++ rest) = some (value.mapReals reread, rest)
  | .null, _, _, _, _, enough => by
      have word : ("null".toList, Value.null) ∈ (words : List (List Char × Value R)) := by
        simp [words]
      rw [write] at enough ⊢
      rw [Value.mapReals]
      exact readValue_of_startsAtom ⟨'n', _, rfl, Or.inr (by simp)⟩ (readAtom_word word _) enough
  | .bool truth, _, _, _, _, enough => by
      have word : ((if truth then "true" else "false").toList, Value.bool truth) ∈
          (words : List (List Char × Value R)) := by
        cases truth <;> simp [words]
      rw [write] at enough ⊢
      rw [Value.mapReals]
      exact readValue_of_startsAtom (startsAtom_bool truth) (readAtom_word word _) enough
  | .int number, _, _, _, closes, enough => by
      rw [write] at enough ⊢
      rw [Value.mapReals]
      exact readValue_of_startsAtom (startsAtom_integerChars number)
        (readAtom_integerChars number closes) enough
  | .real quantity, _, _, readable, closes, enough => by
      rw [write] at enough ⊢
      rw [Value.mapReals]
      exact readValue_of_startsAtom (startsAtom_writeReal readable.real)
        (readAtom_writeReal readable.real closes) enough
  | .text content, _, _, _, _, enough => by
      rw [write] at enough ⊢
      rw [Value.mapReals]
      exact readValue_writeString content _ enough
  | .list [], steps, _, _, _, enough => by
      cases steps with
      | zero => simp [write] at enough
      | succ steps => simp [write, readValue, skipGap, isGap, Value.mapReals, Value.mapItemReals]
  | .list (item :: items), steps, rest, readable, _, enough => by
      have written : write layout depth (.list (item :: items)) ++ rest =
          '[' :: (layout.edge (depth + 1) ++ (itemsText layout (depth + 1) (item :: items) ++
            (layout.edge depth ++ ']' :: rest))) := by
        simp [write, itemsText]
      cases steps with
      | zero => simp [write] at enough
      | succ steps =>
          have read := readItems_write layout (depth + 1) depth (item :: items) steps rest (by simp)
            readable (by simp [write, itemsText] at enough ⊢; omega)
          have starts := startsValue_itemsText layout (depth + 1) items readable.cases_items.1
          rw [written, Value.mapReals]
          exact readValue_list layout (depth + 1) starts read
  | .object [], steps, _, _, _, enough => by
      cases steps with
      | zero => simp [write] at enough
      | succ steps => simp [write, readValue, skipGap, isGap, Value.mapReals, Value.mapMemberReals]
  | .object ((key, value) :: members), steps, rest, readable, _, enough => by
      have written : write layout depth (.object ((key, value) :: members)) ++ rest =
          '\x7b' :: (layout.edge (depth + 1) ++
            (membersText layout (depth + 1) ((key, value) :: members) ++
              (layout.edge depth ++ '\x7d' :: rest))) := by
        simp [write, membersText]
      cases steps with
      | zero => simp [write] at enough
      | succ steps =>
          have read := readMembers_write layout (depth + 1) depth ((key, value) :: members) [] steps
            rest (by simp) readable readable.nodup_keys
            (by simp [write, membersText] at enough ⊢; omega)
          rw [written, Value.mapReals]
          rw [membersText, List.append_assoc] at read ⊢
          exact readValue_object layout (depth + 1) read

/-- The items of a list are read back, through the closing bracket. -/
theorem readItems_write (layout : Layout) (depth outer : Nat) :
    ∀ (items : List (Value R)) (steps : Nat) (rest : List Char), items ≠ [] →
      IsReadable (.list items) → 2 * (itemsText layout depth items).length + 1 ≤ steps →
      readItems steps (itemsText layout depth items ++ (layout.edge outer ++ ']' :: rest)) =
        some (Value.mapItemReals reread items, rest)
  | [], _, _, given, _, _ => by contradiction
  | _ :: _, 0, _, _, _, enough => by simp at enough
  | [item], steps + 1, rest, _, readable, enough => by
      have closes := closes_edge layout outer (closes_cons (by simp) rest : Closes (']' :: rest))
      simp only [itemsText, writeItems, List.append_nil] at enough ⊢
      have read := readValue_write layout depth item steps _ readable.cases_items.1 closes (by omega)
      simp only [Value.mapItemReals]
      exact readItems_last layout outer read
  | item :: next :: items, steps + 1, rest, _, readable, enough => by
      rcases readable.cases_items with ⟨itemReadable, nextReadable⟩
      rw [itemsText, writeItems_cons] at enough ⊢
      simp only [List.length_append, List.length_cons] at enough
      have read := readValue_write layout depth item steps
        (',' :: (layout.gap depth ++ (itemsText layout depth (next :: items) ++
          (layout.edge outer ++ ']' :: rest)))) itemReadable (closes_cons (by simp) _) (by omega)
      have more := readItems_write layout depth outer (next :: items) steps rest (by simp)
        nextReadable (by omega)
      have starts := startsValue_itemsText layout depth items nextReadable.cases_items.1
      rw [Value.mapItemReals]
      apply readItems_more layout depth starts _ more
      simpa using read

/-- The members of an object are read back after those before them, through the closing brace. -/
theorem readMembers_write (layout : Layout) (depth outer : Nat) :
    ∀ (members known : List (String × Value R)) (steps : Nat) (rest : List Char), members ≠ [] →
      IsReadable (.object members) → (known.map Prod.fst ++ members.map Prod.fst).Nodup →
      2 * (membersText layout depth members).length + 1 ≤ steps →
      readMembers steps known
          (membersText layout depth members ++ (layout.edge outer ++ '\x7d' :: rest)) =
        some (known ++ Value.mapMemberReals reread members, rest)
  -- A key read before is written over in its place, so the keys still to come must be new ones.
  | [], _, _, _, given, _, _, _ => by contradiction
  | _ :: _, _, 0, _, _, _, _, enough => by simp at enough
  | [(key, value)], known, steps + 1, rest, _, readable, new, enough => by
      have closes := closes_edge layout outer
        (closes_cons (by simp) rest : Closes ('\x7d' :: rest))
      have newKey : key ∉ known.map Prod.fst := by
        intro old
        exact List.disjoint_of_nodup_append new old List.mem_cons_self
      simp only [membersText, writeMembers, List.append_nil, List.length_append, List.length_cons]
        at enough
      have valueReadable := readable.cases_members.1
      have read := readValue_write layout depth value steps _ valueReadable closes (by omega)
      have ends := readMembers_last layout outer newKey
        (startsValue_write layout depth value valueReadable) (by omega) read
      simpa [membersText, writeMembers, Value.mapMemberReals] using ends
  | (key, value) :: next :: members, known, steps + 1, rest, _, readable, new, enough => by
      have newKey : key ∉ known.map Prod.fst := by
        intro old
        exact List.disjoint_of_nodup_append new old List.mem_cons_self
      rcases readable.cases_members with ⟨valueReadable, nextReadable⟩
      simp only [membersText, List.length_append, List.length_cons] at enough
      rw [writeMembers_cons] at enough
      simp only [List.length_append, List.length_cons] at enough
      have read := readValue_write layout depth value steps
        (',' :: (layout.gap depth ++ (membersText layout depth (next :: members) ++
          (layout.edge outer ++ '\x7d' :: rest)))) valueReadable (closes_cons (by simp) _)
        (by omega)
      have goesOn := readMembers_more layout depth newKey
        (startsValue_write layout depth value valueReadable)
        (startsValue_membersText layout depth next members) (by omega) read
      have more := readMembers_write layout depth outer (next :: members)
        (known ++ [(key, value.mapReals reread)]) steps rest (by simp) nextReadable
        (by simpa using new) (by omega)
      rw [more] at goesOn
      rw [membersText, writeMembers_cons, Value.mapMemberReals]
      simpa using goesOn

end

/-- What is written for a value in any layout is read as the value, with what its literals stand
for. -/
theorem read?_print (layout : Layout) {value : Value R} (readable : IsReadable value) :
    read? (print layout value) = some (value.mapReals reread) := by
  have starts := skipGap_of_startsValue (startsValue_write layout 0 value readable) []
  have read := readValue_write layout 0 value (2 * (write layout 0 value).length + 1) [] readable
    closes_nil (by omega)
  have nothing : skipGap [] = [] := rfl
  rw [List.append_nil] at starts read
  rw [read?, print, String.toList_ofList]
  simp [starts, read, nothing]

end SentenceGraph.Json
