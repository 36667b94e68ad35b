import InputDeck.Proofs.Report.Stages

/-!
# What is left of a text

A reader of a pipeline answers with an ending of the text: with the text that is left, or with the
text that begins where the fault lies. So whatever it answers, the bytes in front of that ending
stand at the beginning of the text.
-/

namespace InputDeck

/-- The text that is left, or that begins where the fault lies. -/
def Read.rest {α : Type} : Read α → Text
  | .ok (_, rest) => rest
  | .error fault => fault.rest

namespace Rule

variable {t ending rest : Text}

/-- An ending of a text stands behind the bytes in front of it. -/
theorem exists_before (ends : ending <:+ t) :
    ∃ before, t = before ++ ending ∧ positionOf t ending = before.byteLength := by
  obtain ⟨before, rfl⟩ := ends
  refine ⟨before, rfl, ?_⟩
  rw [positionOf, Text.byteLength_append, Nat.add_sub_cancel]

/-- A part of the text stands between the positions where it begins and where the rest does. -/
theorem positionOf_append {part : Text} (ends : part ++ rest <:+ t) :
    positionOf t (part ++ rest) + part.byteLength = positionOf t rest := by
  obtain ⟨before, rfl⟩ := ends
  simp only [positionOf, Text.byteLength_append]
  omega

/-- An ending begins further ahead behind a longer beginning. -/
theorem positionOf_behind (before : Text) (ends : ending <:+ rest) :
    positionOf (before ++ rest) ending = before.byteLength + positionOf rest ending := by
  obtain ⟨part, rfl⟩ := ends
  simp only [positionOf, Text.byteLength_append]
  omega

/-- One character further the rest behind it begins. -/
theorem positionOf_cons {c : Char} (ends : c :: rest <:+ t) :
    positionOf t (c :: rest) + c.utf8Size = positionOf t rest := by
  have moved : positionOf t ([c] ++ rest) + Text.byteLength [c] = positionOf t rest :=
    positionOf_append ends
  simpa [Text.byteLength] using moved

/-- What is left is further ahead the shorter it is. -/
theorem positionOf_lt (ends : ending <:+ t) (left : rest <:+ ending)
    (shorter : rest.length < ending.length) :
    positionOf t ending < positionOf t rest ∧ positionOf t rest ≤ t.byteLength := by
  obtain ⟨part, rfl⟩ := left
  have moved := positionOf_append ends
  have positive : 0 < Text.byteLength part := by
    cases part with
    | nil => simp at shorter
    | cons c part =>
      have := c.utf8Size_pos
      simp only [Text.byteLength]
      omega
  refine ⟨by omega, Nat.sub_le _ _⟩

/-- What follows the first character of an ending is an ending. -/
theorem suffix_of_cons {c : Char} (ends : c :: rest <:+ t) : rest <:+ t :=
  (List.suffix_cons c rest).trans ends

/-- What is left behind white space is an ending. -/
theorem suffix_trimStart (ends : ending <:+ t) : Text.trimStart ending <:+ t :=
  (List.dropWhile_suffix Text.isBlank).trans ends

/-- An argument is at fault where it begins. -/
theorem rest_of_argument_error {fault : ReadFault} (failed : argument t = .error fault) :
    fault.rest = t := by
  unfold argument at failed
  split at failed
  · cases failed
    rfl
  · split at failed
    · split at failed
      · cases failed
      · cases failed
        rfl
    · split at failed
      · simp only at failed
        split at failed
        · cases failed
        · cases failed
          rfl
      · cases failed
        rfl

/-- Reading an argument leaves an ending. -/
theorem rest_argument (t : Text) : (argument t).rest <:+ t := by
  cases read : argument t with
  | error fault =>
    exact rest_of_argument_error read ▸ List.suffix_refl fault.rest
  | ok taken =>
    obtain ⟨written, split, -⟩ := exists_of_argument read
    exact split ▸ List.suffix_append written taken.2

/-- What is left behind an argument is an ending. -/
theorem suffix_of_argument {found : Argument} (ends : ending <:+ t)
    (read : argument ending = .ok (found, rest)) : rest <:+ t := by
  have left := rest_argument ending
  rw [read] at left
  exact left.trans ends

/-- What is left behind an argument and the white space around it is an ending. -/
theorem suffix_behind_argument {found : Argument} (ends : ending <:+ t)
    (read : argument (Text.trimStart ending) = .ok (found, rest)) : Text.trimStart rest <:+ t :=
  suffix_trimStart (suffix_of_argument (suffix_trimStart ends) read)

/-- Reading arguments leaves an ending. -/
theorem rest_argumentsFrom (t : Text) : (argumentsFrom t).rest <:+ t := by
  fun_induction argumentsFrom t with
  | case1 t fault failed =>
    have left := rest_argument (Text.trimStart t)
    rw [failed] at left
    exact left.trans (suffix_trimStart (List.suffix_refl t))
  | case2 => exact List.nil_suffix
  | case3 t first after one others fault failed remaining _ inductionHypothesis =>
    have next := suffix_behind_argument (List.suffix_refl t) one
    rw [remaining] at next
    rw [failed] at inductionHypothesis
    exact inductionHypothesis.trans (suffix_of_cons next)
  | case4 t first after one others more last taken remaining _ inductionHypothesis =>
    have next := suffix_behind_argument (List.suffix_refl t) one
    rw [remaining] at next
    rw [taken] at inductionHypothesis
    exact inductionHypothesis.trans (suffix_of_cons next)
  | case5 t first after one others remaining =>
    have next := suffix_behind_argument (List.suffix_refl t) one
    rw [remaining] at next
    exact suffix_of_cons next
  | case6 t first after one c others remaining =>
    have next := suffix_behind_argument (List.suffix_refl t) one
    rwa [remaining] at next

/-- Reading arguments with their closing parenthesis leaves an ending. -/
theorem rest_arguments (t : Text) : (arguments t).rest <:+ t := by
  unfold arguments
  split
  · rename_i rest closes
    have next := suffix_trimStart (List.suffix_refl t)
    rw [closes] at next
    exact suffix_of_cons next
  · exact rest_argumentsFrom t

/-- Reading a stage leaves an ending. -/
theorem rest_stage (t : Text) : (stage t).rest <:+ t := by
  have next : Text.trimStart (t.dropWhile inName) <:+ t :=
    suffix_trimStart (List.dropWhile_suffix inName)
  unfold stage Text.spanWhile
  simp only
  split
  · exact List.suffix_refl t
  · split
    · exact List.nil_suffix
    · rename_i c inner remaining
      rw [remaining] at next
      split
      · have left := rest_arguments inner
        split
        · rename_i fault failed
          rw [failed] at left
          exact left.trans (suffix_of_cons next)
        · rename_i arguments behind closed
          rw [closed] at left
          split
          · exact List.suffix_refl t
          · exact left.trans (suffix_of_cons next)
      · exact next

/-- What is left behind a stage is an ending. -/
theorem suffix_of_stage {operation : Operation} (ends : ending <:+ t)
    (read : stage ending = .ok (operation, rest)) : rest <:+ t := by
  have left := rest_stage ending
  rw [read] at left
  exact left.trans ends

/-- What is left behind a stage and the white space around it is an ending. -/
theorem suffix_behind_stage {operation : Operation} (ends : ending <:+ t)
    (read : stage (Text.trimStart ending) = .ok (operation, rest)) : Text.trimStart rest <:+ t :=
  suffix_trimStart (suffix_of_stage (suffix_trimStart ends) read)

/-- What is left behind a stage and a chain token is an ending. -/
theorem suffix_behind_chain {operation : Operation} {chain behind : Text} (ends : ending <:+ t)
    (read : stage (Text.trimStart ending) = .ok (operation, rest))
    (chained : Text.after? chain (Text.trimStart rest) = some behind) : behind <:+ t := by
  have next := suffix_behind_stage ends read
  rw [(Text.after?_eq_some_iff _ _ _).1 chained] at next
  exact (List.suffix_append chain behind).trans next

/-- Stages are at fault where an ending of the text begins. -/
theorem rest_of_stages_error {chain : Text} {fault : ReadFault}
    (failed : stages chain t = .error fault) : fault.rest <:+ t := by
  fun_induction stages chain t with
  | case1 t begins first one =>
    cases failed
    have left := rest_stage begins
    rw [one] at left
    exact left.trans (suffix_trimStart (List.suffix_refl t))
  | case2 | case5 => cases failed
  | case3 t begins operation rest one c others remaining missing =>
    cases failed
    have next := suffix_behind_stage (List.suffix_refl t) one
    rwa [remaining] at next
  | case4 t begins operation rest one c others remaining behind chained _ first later
      inductionHypothesis =>
    cases failed
    rw [← remaining] at chained
    exact (inductionHypothesis later).trans (suffix_behind_chain (List.suffix_refl t) one chained)

end Rule

end InputDeck
