/-
Text in pieces with a separator between them: cutting it apart and putting it together.

Cutting undoes putting together wherever no piece holds the separator, and of no pieces at all it
makes one that is empty.
-/

namespace GrantKeeper
namespace Text

/-- The pieces of a text between the places of a separator: one more than it has separators. -/
def pieces (separator : Char) : List Char → List (List Char)
  | [] => [[]]
  | c :: cs =>
    if c = separator then [] :: pieces separator cs
    else
      match pieces separator cs with
      | [] => [[c]]
      | p :: ps => (c :: p) :: ps

def joined (separator : Char) (parts : List (List Char)) : List Char :=
  [separator].intercalate parts

theorem pieces_ne_nil (separator : Char) (cs : List Char) : pieces separator cs ≠ [] := by
  cases cs with
  | nil => simp [pieces]
  | cons c cs =>
    simp only [pieces]
    split
    · simp
    · split <;> simp

theorem not_mem_of_mem_pieces {separator : Char} {cs p : List Char} (h : p ∈ pieces separator cs) :
    separator ∉ p := by
  induction cs generalizing p with
  | nil => simp_all [pieces]
  | cons c cs ih =>
    simp only [pieces] at h
    split at h
    · rcases List.mem_cons.mp h with rfl | h
      · simp
      · exact ih h
    · next hc =>
      split at h
      · next hp => exact absurd hp (pieces_ne_nil _ _)
      · next q qs hp =>
        rcases List.mem_cons.mp h with rfl | h
        · have := ih (hp ▸ List.mem_cons_self)
          simp [this, Ne.symm hc]
        · exact ih (hp ▸ List.mem_cons_of_mem _ h)

/-- A text without the separator is one piece. -/
theorem pieces_of_not_mem {separator : Char} {cs : List Char} (h : separator ∉ cs) :
    pieces separator cs = [cs] := by
  induction cs with
  | nil => rfl
  | cons c cs ih =>
    rw [List.mem_cons, not_or] at h
    rw [pieces, if_neg (Ne.symm h.1), ih h.2]

/-- The pieces of two texts with a separator between them are those of the one and those of the
other. -/
theorem pieces_append_cons (separator : Char) (cs ds : List Char) :
    pieces separator (cs ++ separator :: ds) = pieces separator cs ++ pieces separator ds := by
  induction cs with
  | nil => simp [pieces]
  | cons c cs ih =>
    by_cases hc : c = separator
    · simp [pieces, hc, ih]
    · simp only [List.cons_append, pieces, if_neg hc, ih]
      cases h : pieces separator cs with
      | nil => exact absurd h (pieces_ne_nil _ _)
      | cons p ps => simp

/-- The pieces of texts put together are the pieces of each. -/
theorem pieces_joined (separator : Char) {parts : List (List Char)} (h : parts ≠ []) :
    pieces separator (joined separator parts) = parts.flatMap (pieces separator) := by
  induction parts with
  | nil => exact absurd rfl h
  | cons p ps ih =>
    cases ps with
    | nil => simp [joined]
    | cons q qs =>
      have step : joined separator (p :: q :: qs) = p ++ separator :: joined separator (q :: qs) := by
        simp [joined, List.intercalate_cons_cons]
      rw [step, pieces_append_cons, ih (by simp)]
      rfl

end Text
end GrantKeeper
