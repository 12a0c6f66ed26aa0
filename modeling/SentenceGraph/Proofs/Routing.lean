import SentenceGraph.Server

/-!
# Paths of sessions

A path is cut at its slashes, after those at its end were dropped. So there is a path for every
session whose identifier has no slashes, and none for any other session: an escaped slash is one as
well, since escapes are resolved first.
-/

namespace SentenceGraph

namespace Text

theorem splitAt_of_not_mem {separator : Char} {characters : List Char}
    (whole : separator ∉ characters) : splitAt separator characters = [characters] := by
  induction characters with
  | nil => rfl
  | cons character rest inductionHypothesis =>
      rw [List.mem_cons, not_or] at whole
      have different : (character == separator) = false := beq_false_of_ne (Ne.symm whole.1)
      simp only [splitAt, inductionHypothesis whole.2, different, Bool.false_eq_true, if_false]

theorem splitAt_append {separator : Char} {piece rest : List Char}
    (whole : separator ∉ piece) :
    splitAt separator (piece ++ separator :: rest) = piece :: splitAt separator rest := by
  induction piece with
  | nil => simp only [List.nil_append, splitAt, beq_self_eq_true, if_true]
  | cons character piece inductionHypothesis =>
      rw [List.mem_cons, not_or] at whole
      have different : (character == separator) = false := beq_false_of_ne (Ne.symm whole.1)
      simp only [List.cons_append, splitAt, inductionHypothesis whole.2, different,
        Bool.false_eq_true, if_false]

/-- The pieces of a text do not hold the separator. -/
theorem not_mem_of_mem_splitAt {separator : Char} {characters piece : List Char}
    (piece_mem : piece ∈ splitAt separator characters) : separator ∉ piece := by
  induction characters generalizing piece with
  | nil => simp_all [splitAt]
  | cons character rest inductionHypothesis =>
      rw [splitAt] at piece_mem
      split at piece_mem
      · -- A separator starts a new piece.
        rcases List.mem_cons.mp piece_mem with rfl | later
        · exact List.not_mem_nil
        · exact inductionHypothesis later
      · rename_i different
        have apart : separator ≠ character := fun same => different (beq_iff_eq.mpr same.symm)
        cases pieces : splitAt separator rest with
        | nil =>
            rw [pieces] at piece_mem
            simpa [List.mem_singleton.mp piece_mem] using apart
        | cons first others =>
            rw [pieces] at piece_mem inductionHypothesis
            rcases List.mem_cons.mp piece_mem with rfl | later
            · have earlier := inductionHypothesis List.mem_cons_self
              simp [apart, earlier]
            · exact inductionHypothesis (List.mem_cons_of_mem _ later)

theorem not_mem_of_mem_split {separator : Char} {text piece : String}
    (piece_mem : piece ∈ split separator text) : separator ∉ piece.toList := by
  rcases List.mem_map.mp piece_mem with ⟨characters, characters_mem, rfl⟩
  rw [String.toList_ofList]
  exact not_mem_of_mem_splitAt characters_mem

theorem dropTrailingSlashes_append {start ending : String} (given : ending ≠ "")
    (plain : '/' ∉ ending.toList) : dropTrailingSlashes (start ++ ending) = start ++ ending := by
  have kept : ending.toList.reverse.dropWhile (· == '/') = ending.toList.reverse := by
    cases backwards : ending.toList.reverse with
    | nil => rfl
    | cons last rest =>
        have last_mem : last ∈ ending.toList := by
          rw [← List.mem_reverse, backwards]
          exact List.mem_cons_self
        have different : last ≠ '/' := by
          rintro rfl
          exact plain last_mem
        simp [different]
  have longer : ending.toList.reverse ≠ [] := by
    intro empty
    exact given (String.toList_inj.mp (List.reverse_eq_nil_iff.mp empty))
  rw [dropTrailingSlashes, String.toList_append, List.reverse_append, List.dropWhile_append, kept,
    if_neg (by simpa using longer), ← List.reverse_append, List.reverse_reverse,
    ← String.toList_append, String.ofList_toList]

end Text

namespace Route

theorem ofSegments_eq_session {segments : List String} {id : String}
    (routed : ofSegments segments = some (.session id)) :
    segments = ["", "api", "sessions", id] := by
  unfold ofSegments at routed
  split at routed
  · cases routed
  · cases routed
  · cases routed
    rfl
  · cases routed

/-- The identifier of a session in a path has no slashes. -/
theorem slash_not_mem_of_ofPath {path id : String} (routed : ofPath path = some (.session id)) :
    '/' ∉ id.toList := by
  rw [ofPath] at routed
  split at routed
  · cases routed
  · have segments := ofSegments_eq_session routed
    have last : id ∈ Text.split '/' (Text.dropTrailingSlashes path) := by simp [segments]
    exact Text.not_mem_of_mem_split last

theorem ofPath_session {id : String} (given : id ≠ "") (plain : '/' ∉ id.toList) :
    ofPath ("/api/sessions/" ++ id) = some (.session id) := by
  have longer : ∀ short : String, short.length < 2 → "/api/sessions/" ++ id ≠ short := by
    rintro short bound rfl
    rw [String.length_append] at bound
    have start : "/api/sessions/".length = 14 := rfl
    omega
  have notRoot := beq_false_of_ne (longer "/" (by decide))
  have notEmpty := beq_false_of_ne (longer "" (by decide))
  have segments : Text.split '/' ("/api/sessions/" ++ id) = ["", "api", "sessions", id] := by
    have spelled : ("/api/sessions/" ++ id).toList =
        [] ++ '/' :: ("api".toList ++ '/' :: ("sessions".toList ++ '/' :: id.toList)) := by
      rw [String.toList_append]
      rfl
    rw [Text.split, spelled, Text.splitAt_append (by simp), Text.splitAt_append (by decide),
      Text.splitAt_append (by decide), Text.splitAt_of_not_mem plain]
    simp only [List.map_cons, List.map_nil, String.ofList_toList]
  rw [ofPath, Text.dropTrailingSlashes_append given plain, segments]
  simp only [notRoot, notEmpty, Bool.or_self, Bool.false_eq_true, if_false, ofSegments]

/-- An empty identifier leaves nothing but a slash behind, which is dropped. -/
theorem ofPath_sessions : ofPath "/api/sessions/" = none := by
  decide +kernel

end Route

end SentenceGraph
