import InputDeck.Text.Lines

/-!
# Lines of a text

A raw line holds a newline at its end or nowhere, and what closes a line is cut off behind the
longest part of it that does not end in a line end. So the content of a line never holds a
newline, and content and ending together are the line. A text that ends its line can be cut into
raw lines on its own, whatever follows it.
-/

namespace InputDeck.Text

/-- What is kept is the beginning of the text. -/
theorem dropEndWhile_append_drop (inClass : Char → Bool) (t : Text) :
    dropEndWhile inClass t ++ t.drop (dropEndWhile inClass t).length = t := by
  induction t with
  | nil => rfl
  | cons c rest inductionHypothesis =>
    unfold dropEndWhile
    split
    · split <;> simp
    · rename_i kept _
      simpa using inductionHypothesis

/-- What is kept does not end in the class. -/
theorem not_inClass_of_getLast_dropEndWhile {inClass : Char → Bool} {t : Text} {c : Char}
    (last : (dropEndWhile inClass t).getLast? = some c) : inClass c = false := by
  induction t with
  | nil => simp [dropEndWhile] at last
  | cons first rest inductionHypothesis =>
    unfold dropEndWhile at last
    split at last
    · split at last
      · simp at last
      · rename_i firstKept
        simp only [List.getLast?_singleton, Option.some.injEq] at last
        simpa [last] using firstKept
    · rename_i kept nonempty
      rw [List.getLast?_cons_of_ne_nil nonempty] at last
      exact inductionHypothesis last

/-- What is cut off is in the class. -/
theorem inClass_of_mem_drop_dropEndWhile {inClass : Char → Bool} {t : Text} {c : Char}
    (member : c ∈ t.drop (dropEndWhile inClass t).length) : inClass c = true := by
  induction t with
  | nil => cases member
  | cons first rest inductionHypothesis =>
    unfold dropEndWhile at member
    split at member
    · rename_i nothing
      rw [nothing] at inductionHypothesis
      split at member
      · rename_i firstInClass
        rcases List.mem_cons.1 member with rfl | later
        · exact firstInClass
        · exact inductionHypothesis later
      · exact inductionHypothesis member
    · exact inductionHypothesis member

/-- Content and ending together are the line. -/
theorem dropLineEnds_append_drop (raw : Text) :
    dropLineEnds raw ++ raw.drop (dropLineEnds raw).length = raw :=
  dropEndWhile_append_drop isLineEnd raw

/-- A raw line is not empty, and a newline stands only at its end. -/
theorem mem_rawLines {t raw : Text} (member : raw ∈ rawLines t) :
    raw ≠ [] ∧ '\n' ∉ raw.dropLast := by
  induction t generalizing raw with
  | nil => simp [rawLines] at member
  | cons c rest inductionHypothesis =>
    unfold rawLines at member
    split at member
    · rcases List.mem_cons.1 member with rfl | later
      · simp
      · exact inductionHypothesis later
    · rename_i notNewline
      split at member
      · obtain rfl := List.mem_singleton.1 member
        simp
      · rename_i line others cut
        rw [cut] at inductionHypothesis
        rcases List.mem_cons.1 member with rfl | later
        · obtain ⟨nonempty, noNewline⟩ := inductionHypothesis List.mem_cons_self
          refine ⟨by simp, ?_⟩
          rw [List.dropLast_cons_of_ne_nil nonempty, List.mem_cons, not_or]
          exact ⟨Ne.symm notNewline, noNewline⟩
        · exact inductionHypothesis (List.mem_cons_of_mem line later)

/-- The content of a raw line holds no newline: its last character is no line end, and every
other one stands before the end of the line. -/
theorem newline_not_mem_dropLineEnds {t raw : Text} (member : raw ∈ rawLines t) :
    '\n' ∉ dropLineEnds raw := by
  intro inside
  have written := dropLineEnds_append_drop raw
  rcases List.eq_nil_or_concat (dropLineEnds raw) with empty | ⟨early, last, content⟩
  · simp [empty] at inside
  · rw [List.concat_eq_append] at content
    have lastKept : isLineEnd last = false := by
      apply not_inClass_of_getLast_dropEndWhile (t := raw)
      rw [← dropLineEnds, content, List.getLast?_concat]
    have lastDiffers : '\n' ≠ last := by
      rintro rfl
      simp [isLineEnd] at lastKept
    rw [content, List.mem_append, List.mem_singleton] at inside
    apply (mem_rawLines member).2
    rw [← written, content, List.append_assoc,
      List.dropLast_append_of_ne_nil (by simp)]
    exact List.mem_append_left _ (inside.resolve_right lastDiffers)

/-- The text is empty or ends with a newline. -/
def EndsLine (t : Text) : Prop := ∀ c, t.getLast? = some c → c = '\n'

/-- What follows the first character of a text that ends its line ends it as well. -/
theorem EndsLine.tail {c : Char} {rest : Text} (ends : EndsLine (c :: rest)) : EndsLine rest := by
  intro last found
  apply ends
  rw [List.getLast?_cons, found]
  rfl

/-- Only the empty text has no raw lines. -/
theorem rawLines_eq_nil_iff (t : Text) : rawLines t = [] ↔ t = [] := by
  constructor
  · intro none
    rw [← flatten_rawLines t, none]
    rfl
  · rintro rfl
    rfl

/-- A line that is ended and goes on behind its first character has a first raw line there. -/
theorem EndsLine.exists_rawLines {c : Char} {rest : Text} (ends : EndsLine (c :: rest))
    (goesOn : c ≠ '\n') : ∃ line others, rawLines rest = line :: others := by
  apply List.exists_cons_of_ne_nil
  rw [ne_eq, rawLines_eq_nil_iff]
  rintro rfl
  exact goesOn (ends c rfl)

/-- A character that ends no line joins the line behind it. -/
theorem rawLines_cons {c : Char} {rest line : Text} {others : List Text} (goesOn : c ≠ '\n')
    (cut : rawLines rest = line :: others) : rawLines (c :: rest) = (c :: line) :: others := by
  simp [rawLines, goesOn, cut]

/-- In front of any other text, a text that ends its line keeps its raw lines. -/
theorem rawLines_append {first : Text} (ends : EndsLine first) (second : Text) :
    rawLines (first ++ second) = rawLines first ++ rawLines second := by
  induction first with
  | nil => rfl
  | cons c rest inductionHypothesis =>
    have joined := inductionHypothesis ends.tail
    by_cases newline : c = '\n'
    · simp [rawLines, newline, joined]
    · obtain ⟨line, others, cut⟩ := ends.exists_rawLines newline
      rw [cut] at joined
      rw [List.cons_append, rawLines_cons newline joined, rawLines_cons newline cut]
      rfl

/-- A raw line that is not the last ends with its newline. -/
theorem getLast?_of_mem_dropLast_rawLines {t raw : Text}
    (member : raw ∈ (rawLines t).dropLast) : raw.getLast? = some '\n' := by
  induction t generalizing raw with
  | nil => cases member
  | cons c rest inductionHypothesis =>
    unfold rawLines at member
    split at member
    · rename_i newline
      cases cut : rawLines rest with
      | nil =>
        rw [cut] at member
        cases member
      | cons line others =>
        rw [cut] at member inductionHypothesis
        rcases List.mem_cons.1 member with rfl | later
        · rw [newline]
          rfl
        · exact inductionHypothesis later
    · split at member
      · cases member
      · rename_i line others cut
        rw [cut] at inductionHypothesis
        cases others with
        | nil => cases member
        | cons second more =>
          rcases List.mem_cons.1 member with rfl | later
          · rw [List.getLast?_cons, inductionHypothesis List.mem_cons_self]
            rfl
          · exact inductionHypothesis (List.mem_cons_of_mem _ later)

/-- A text with a newline at its end or nowhere is one raw line. -/
theorem rawLines_eq_singleton {raw : Text} (nonempty : raw ≠ []) (noNewline : '\n' ∉ raw.dropLast) :
    rawLines raw = [raw] := by
  induction raw with
  | nil => exact absurd rfl nonempty
  | cons c rest inductionHypothesis =>
    cases rest with
    | nil => simp [rawLines]
    | cons next more =>
      rw [List.dropLast_cons_of_ne_nil (List.cons_ne_nil _ _), List.mem_cons, not_or] at noNewline
      exact rawLines_cons (Ne.symm noNewline.1)
        (inductionHypothesis (List.cons_ne_nil _ _) noNewline.2)

/-- A raw line on its own is one raw line. -/
theorem rawLines_of_mem {t raw : Text} (member : raw ∈ rawLines t) : rawLines raw = [raw] := by
  obtain ⟨nonempty, noNewline⟩ := mem_rawLines member
  exact rawLines_eq_singleton nonempty noNewline

/-- Raw lines of which all but the last are ended are the raw lines of their text. -/
theorem rawLines_flatten {raws : List Text} (each : ∀ raw ∈ raws, rawLines raw = [raw])
    (ends : ∀ raw ∈ raws.dropLast, EndsLine raw) : rawLines raws.flatten = raws := by
  induction raws with
  | nil => rfl
  | cons raw rest inductionHypothesis =>
    obtain ⟨first, later⟩ := List.forall_mem_cons.1 each
    cases rest with
    | nil => rw [List.flatten_singleton, first]
    | cons second more =>
      rw [List.dropLast_cons_of_ne_nil (List.cons_ne_nil _ _)] at ends
      obtain ⟨firstEnds, laterEnd⟩ := List.forall_mem_cons.1 ends
      rw [List.flatten_cons, rawLines_append firstEnds, first,
        inductionHypothesis later laterEnd, List.singleton_append]

/-- A raw line of a text can be exchanged for another, if that one ends its line where it did. -/
theorem rawLines_exchange {t raw raw' : Text} {first second : List Text}
    (cut : rawLines t = first ++ raw :: second) (one : rawLines raw' = [raw'])
    (ends : raw.getLast? = some '\n' → EndsLine raw') :
    rawLines (first ++ raw' :: second).flatten = first ++ raw' :: second := by
  have each : ∀ line ∈ first ++ raw :: second, rawLines line = [line] :=
    fun line member => rawLines_of_mem (cut ▸ member)
  have ended : ∀ line ∈ (first ++ raw :: second).dropLast, line.getLast? = some '\n' :=
    fun line member => getLast?_of_mem_dropLast_rawLines (cut ▸ member)
  rw [List.dropLast_append_of_ne_nil (List.cons_ne_nil _ _)] at ended
  apply rawLines_flatten
  · intro line member
    rcases List.mem_append.1 member with before | behind
    · exact each line (List.mem_append_left _ before)
    · rcases List.mem_cons.1 behind with rfl | later
      · exact one
      · exact each line (List.mem_append_right _ (List.mem_cons_of_mem _ later))
  · rw [List.dropLast_append_of_ne_nil (List.cons_ne_nil _ _)]
    have newline : ∀ {line : Text}, line.getLast? = some '\n' → EndsLine line := by
      intro line last c found
      exact Option.some.inj (found.symm.trans last)
    intro line member
    rcases List.mem_append.1 member with before | behind
    · exact newline (ended line (List.mem_append_left _ before))
    · cases second with
      | nil => cases behind
      | cons next more =>
        rw [List.dropLast_cons_of_ne_nil (List.cons_ne_nil _ _)] at behind ended
        rcases List.mem_cons.1 behind with rfl | later
        · exact ends (ended raw (List.mem_append_right _ List.mem_cons_self))
        · exact newline (ended line (List.mem_append_right _ (List.mem_cons_of_mem _ later)))

/-- A text that ends its line has as many raw lines as newlines. -/
theorem length_rawLines {t : Text} (ends : EndsLine t) : (rawLines t).length = t.count '\n' := by
  induction t with
  | nil => rfl
  | cons c rest inductionHypothesis =>
    have counted := inductionHypothesis ends.tail
    by_cases newline : c = '\n'
    · simp [rawLines, newline, counted]
    · obtain ⟨line, others, cut⟩ := ends.exists_rawLines newline
      rw [List.count_cons_of_ne newline, ← counted, rawLines_cons newline cut, cut]
      rfl

end InputDeck.Text
