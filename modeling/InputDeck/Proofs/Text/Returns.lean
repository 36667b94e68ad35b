import InputDeck.Proofs.Text.Lines
import InputDeck.Proofs.Text.Trimming

/-!
# Carriage returns before newlines

A text whose newlines become a carriage return and a newline is cut into the same lines: every raw
line has the content it had, and what closes it is exchanged in the same way.
-/

namespace InputDeck.Text

/-- The text with a carriage return before every newline. -/
def withReturns (t : Text) : Text := t.flatMap fun c => if c = '\n' then ['\r', '\n'] else [c]

/-- A newline gets its carriage return. -/
theorem withReturns_newline (rest : Text) :
    withReturns ('\n' :: rest) = '\r' :: '\n' :: withReturns rest := rfl

/-- Any other character stays as it is. -/
theorem withReturns_cons {c : Char} (goesOn : c ≠ '\n') (rest : Text) :
    withReturns (c :: rest) = c :: withReturns rest := by
  simp [withReturns, goesOn]

/-- Every part of a text gets its own carriage returns. -/
theorem withReturns_append (first second : Text) :
    withReturns (first ++ second) = withReturns first ++ withReturns second :=
  List.flatMap_append

/-- A text without newlines stays as it is. -/
theorem withReturns_eq_self {t : Text} (noNewline : '\n' ∉ t) : withReturns t = t := by
  induction t with
  | nil => rfl
  | cons c rest inductionHypothesis =>
    rw [List.mem_cons, not_or] at noNewline
    rw [withReturns_cons (Ne.symm noNewline.1), inductionHypothesis noNewline.2]

/-- Line ends stay line ends. -/
theorem isLineEnd_of_mem_withReturns {ending : Text}
    (ends : ∀ c ∈ ending, isLineEnd c = true) : ∀ c ∈ withReturns ending, isLineEnd c = true := by
  intro c member
  obtain ⟨old, oldMember, inside⟩ := List.mem_flatMap.1 member
  split at inside
  · have either : c = '\r' ∨ c = '\n' := by simpa using inside
    rcases either with rfl | rfl <;> rfl
  · rw [List.mem_singleton.1 inside]
    exact ends old oldMember

/-- The raw lines of the text are those it had, each with its carriage return. -/
theorem rawLines_withReturns (t : Text) :
    rawLines (withReturns t) = (rawLines t).map withReturns := by
  induction t with
  | nil => rfl
  | cons c rest inductionHypothesis =>
    by_cases newline : c = '\n'
    · subst newline
      have ended : rawLines ('\n' :: withReturns rest) = ['\n'] :: rawLines (withReturns rest) := by
        simp [rawLines]
      rw [withReturns_newline, rawLines_cons (by decide) ended, inductionHypothesis]
      simp [rawLines, withReturns]
    · rw [withReturns_cons newline]
      cases cut : rawLines rest with
      | nil =>
        obtain rfl := (rawLines_eq_nil_iff rest).1 cut
        simp [rawLines, newline, withReturns]
      | cons line others =>
        rw [cut] at inductionHypothesis
        rw [rawLines_cons newline inductionHypothesis, rawLines_cons newline cut, List.map_cons,
          withReturns_cons newline]

section Line

variable {raw : Text} (noNewline : '\n' ∉ dropLineEnds raw)

include noNewline

/-- A line is its content and what closes it, and only this part gets carriage returns. -/
theorem withReturns_line : withReturns raw =
    dropLineEnds raw ++ withReturns (raw.drop (dropLineEnds raw).length) := by
  have parts := congrArg withReturns (dropLineEnds_append_drop raw)
  rw [withReturns_append, withReturns_eq_self noNewline] at parts
  exact parts.symm

/-- The content of a line stays the same. -/
theorem dropLineEnds_withReturns : dropLineEnds (withReturns raw) = dropLineEnds raw := by
  have closes := isLineEnd_of_mem_withReturns fun c (member : c ∈ raw.drop _) =>
    inClass_of_mem_drop_dropEndWhile member
  rw [withReturns_line noNewline]
  exact dropEndWhile_append_of_within
    (fun _ last => not_inClass_of_getLast_dropEndWhile last) closes

/-- What closes a line gets its carriage return. -/
theorem drop_withReturns : (withReturns raw).drop (dropLineEnds raw).length =
    withReturns (raw.drop (dropLineEnds raw).length) := by
  rw [withReturns_line noNewline, List.drop_left]

end Line

end InputDeck.Text
