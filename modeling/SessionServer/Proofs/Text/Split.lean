import SessionServer.Text.Blank

/-!
Splitting a text at its separators is undone by putting the separators back, and there is no other way
to put the pieces together.
-/

namespace SessionServer.Text

theorem splitAll_of_not_mem {separator : Char} {piece : List Char} (absent : separator ∉ piece) :
    splitAll separator piece = [piece] := by
  induction piece with
  | nil => rfl
  | cons c rest ih =>
    rw [List.mem_cons, not_or] at absent
    rw [splitAll, if_neg (Ne.symm absent.1), ih absent.2]

theorem splitAll_append_cons {separator : Char} {piece : List Char} (rest : List Char)
    (absent : separator ∉ piece) :
    splitAll separator (piece ++ separator :: rest) = piece :: splitAll separator rest := by
  induction piece with
  | nil => rw [List.nil_append, splitAll, if_pos rfl]
  | cons c front ih =>
    rw [List.mem_cons, not_or] at absent
    rw [List.cons_append, splitAll, if_neg (Ne.symm absent.1), ih absent.2]

/-- The pieces on both sides of a separator are those of the whole. -/
theorem splitAll_append (separator : Char) (first rest : List Char) :
    splitAll separator (first ++ separator :: rest) =
      splitAll separator first ++ splitAll separator rest := by
  induction first with
  | nil => exact if_pos rfl
  | cons c front ih =>
    rw [List.cons_append, splitAll, splitAll, ih]
    by_cases same : c = separator
    · rw [if_pos same, if_pos same, List.cons_append]
    · rw [if_neg same, if_neg same]
      cases pieces : splitAll separator front with
      | nil => exact absurd pieces (splitAll_ne_nil separator front)
      | cons piece others => rfl

/-- Only a text without separators is one piece. -/
theorem eq_of_splitAll_singleton {separator : Char} {chars piece : List Char}
    (split : splitAll separator chars = [piece]) : chars = piece ∧ separator ∉ piece := by
  induction chars generalizing piece with
  | nil =>
    obtain rfl := List.singleton_inj.mp split
    exact ⟨rfl, List.not_mem_nil⟩
  | cons c rest ih =>
    rw [splitAll] at split
    by_cases same : c = separator
    · rw [if_pos same] at split
      exact absurd (List.cons.inj split).2 (splitAll_ne_nil separator rest)
    · rw [if_neg same] at split
      cases pieces : splitAll separator rest with
      | nil => exact absurd pieces (splitAll_ne_nil separator rest)
      | cons first others =>
        rw [pieces] at split
        obtain ⟨rfl, rfl⟩ := List.cons.inj split
        obtain ⟨rfl, absent⟩ := ih pieces
        exact ⟨rfl, by simp [Ne.symm same, absent]⟩

/-- A text of several pieces is its first piece, a separator, and what the others are made of. -/
theorem eq_of_splitAll_cons_cons {separator : Char} {chars piece next : List Char}
    {others : List (List Char)} (split : splitAll separator chars = piece :: next :: others) :
    ∃ rest, chars = piece ++ separator :: rest ∧ separator ∉ piece ∧
      splitAll separator rest = next :: others := by
  induction chars generalizing piece with
  | nil => cases split
  | cons c tail ih =>
    rw [splitAll] at split
    by_cases same : c = separator
    · rw [if_pos same] at split
      obtain ⟨rfl, pieces⟩ := List.cons.inj split
      exact ⟨tail, by rw [same, List.nil_append], List.not_mem_nil, pieces⟩
    · rw [if_neg same] at split
      cases pieces : splitAll separator tail with
      | nil => exact absurd pieces (splitAll_ne_nil separator tail)
      | cons first later =>
        rw [pieces] at split
        obtain ⟨rfl, rfl⟩ := List.cons.inj split
        obtain ⟨rest, rfl, absent, remaining⟩ := ih pieces
        exact ⟨rest, rfl, by simp [Ne.symm same, absent], remaining⟩

/-- The pieces of a text are those that are put together to it with separators in between, where no piece
has a separator itself. -/
theorem splitAll_eq_iff {separator : Char} {chars : List Char} {pieces : List (List Char)} :
    splitAll separator chars = pieces ↔
      pieces ≠ [] ∧ (∀ piece ∈ pieces, separator ∉ piece) ∧
        List.intercalate [separator] pieces = chars := by
  constructor
  · intro split
    refine ⟨split ▸ splitAll_ne_nil separator chars, ?_⟩
    induction pieces generalizing chars with
    | nil => exact absurd split (splitAll_ne_nil separator chars)
    | cons piece others ih =>
      cases others with
      | nil =>
        obtain ⟨rfl, absent⟩ := eq_of_splitAll_singleton split
        exact ⟨List.forall_mem_singleton.mpr absent, List.intercalate_singleton⟩
      | cons next others =>
        obtain ⟨rest, rfl, absent, later⟩ := eq_of_splitAll_cons_cons split
        obtain ⟨absentLater, same⟩ := ih later
        refine ⟨List.forall_mem_cons.mpr ⟨absent, absentLater⟩, ?_⟩
        rw [List.intercalate_cons_cons, same, List.append_assoc, List.singleton_append]
  · rintro ⟨nonempty, absent, rfl⟩
    induction pieces with
    | nil => exact absurd rfl nonempty
    | cons piece others ih =>
      obtain ⟨here, later⟩ := List.forall_mem_cons.mp absent
      cases others with
      | nil => rw [List.intercalate_singleton, splitAll_of_not_mem here]
      | cons next others =>
        rw [List.intercalate_cons_cons, List.append_assoc, List.singleton_append,
          splitAll_append_cons _ here, ih (List.cons_ne_nil next others) later]

/-- The pieces of a text have no characters of their own. -/
theorem mem_of_mem_splitAll {separator c : Char} {chars piece : List Char}
    (cut : piece ∈ splitAll separator chars) (member : c ∈ piece) : c ∈ chars := by
  induction chars generalizing piece with
  | nil =>
    rw [splitAll, List.mem_singleton] at cut
    exact cut ▸ member
  | cons first rest ih =>
    rw [splitAll] at cut
    by_cases same : first = separator
    · rw [if_pos same] at cut
      rcases List.mem_cons.mp cut with rfl | later
      · cases member
      · exact List.mem_cons_of_mem _ (ih later member)
    · rw [if_neg same] at cut
      cases pieces : splitAll separator rest with
      | nil => exact absurd pieces (splitAll_ne_nil separator rest)
      | cons next others =>
        rw [pieces] at cut ih
        rcases List.mem_cons.mp cut with rfl | later
        · rcases List.mem_cons.mp member with rfl | inNext
          · exact List.mem_cons_self
          · exact List.mem_cons_of_mem _ (ih List.mem_cons_self inNext)
        · exact List.mem_cons_of_mem _ (ih (List.mem_cons_of_mem _ later) member)

/-- A character that is in no piece and is not the separator is not in the whole either. -/
theorem not_mem_intercalate {separator c : Char} {pieces : List (List Char)} (other : c ≠ separator)
    (absent : ∀ piece ∈ pieces, c ∉ piece) : c ∉ List.intercalate [separator] pieces := by
  induction pieces with
  | nil => exact List.not_mem_nil
  | cons piece others ih =>
    obtain ⟨here, later⟩ := List.forall_mem_cons.mp absent
    cases others with
    | nil =>
      rw [List.intercalate_singleton]
      exact here
    | cons next others =>
      rw [List.intercalate_cons_cons, List.mem_append, List.mem_append, List.mem_singleton, not_or, not_or]
      exact ⟨⟨here, other⟩, ih later⟩

end SessionServer.Text
