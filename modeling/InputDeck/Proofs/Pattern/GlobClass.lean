import InputDeck.Pattern.Glob

/-!
# Classes of a glob

Behind its opening bracket a class is written as a caret or an exclamation mark, or neither of
them, then the characters that it lists, one at least, and a closing bracket. A backslash may stand
before any listed character and stands before a backslash; a closing bracket without one is listed
only in the first place. Two listed characters with a plain hyphen between them are the ends of a
range, and every other character is listed for itself: so is a hyphen at either end.

The length of a class is measured by looking for its closing bracket alone, and a character is
matched by going through its ranges. Both come to the same closing bracket.
-/

namespace InputDeck.Glob

/-- A character that a class lists, with a backslash before it or without one. -/
inductive Listed where
  | plain (c : Char)
  | escaped (c : Char)

namespace Listed

/-- The character that is listed. -/
def char : Listed → Char
  | plain c => c
  | escaped c => c

/-- How a listed character is written. -/
def source : Listed → Text
  | plain c => [c]
  | escaped c => ['\\', c]

/-- Whether a character can be listed, in the first place or further on. -/
def Stands (first : Bool) : Listed → Prop
  | plain c => c ≠ '\\' ∧ (c = ']' → first = true)
  | escaped _ => True

end Listed

/-- A plain character is written as it is. -/
@[simp]
theorem Listed.source_plain (c : Char) : (Listed.plain c).source = [c] := rfl

/-- An escaped character is written behind its backslash. -/
@[simp]
theorem Listed.source_escaped (c : Char) : (Listed.escaped c).source = ['\\', c] := rfl

/-- How the listed characters are written. -/
def listing (content : List Listed) : Text := content.flatMap Listed.source

/-- What can be listed up to the closing bracket, from the first place or from further on. -/
inductive Content : Bool → List Listed → Prop
  | done : Content false []
  | cons {first : Bool} {a : Listed} {rest : List Listed} (stands : a.Stands first)
      (later : Content false rest) : Content first (a :: rest)

/-- The ranges of a class; a character that is listed for itself is a range of one. -/
def ranges : List Listed → List (Char × Char)
  | low :: .plain '-' :: high :: rest => (low.char, high.char) :: ranges rest
  | only :: rest => (only.char, only.char) :: ranges rest
  | [] => []

/-- The ways of writing a class behind its opening bracket: whether it is negated, and what it
lists. -/
inductive WritesClass : Bool → List Listed → Text → Prop
  | positive {content : List Listed} (contentListed : Content true content)
      (unsigned : ∀ c rest, content = .plain c :: rest → c ≠ '^' ∧ c ≠ '!') :
      WritesClass false content (listing content ++ [']'])
  | negative {sign : Char} {content : List Listed} (isSign : sign = '^' ∨ sign = '!')
      (contentListed : Content true content) :
      WritesClass true content (sign :: (listing content ++ [']']))

/-- Listed characters are written one behind the other. -/
@[simp]
theorem listing_cons (a : Listed) (rest : List Listed) :
    listing (a :: rest) = a.source ++ listing rest := List.flatMap_cons

/-- Going for the closing bracket passes over everything that is listed. -/
theorem membersLength?_listing {first : Bool} {content : List Listed}
    (contentListed : Content first content) (rest : Text) :
    membersLength? first (listing content ++ ']' :: rest) =
      some ((listing content).length + 1) := by
  induction contentListed with
  | done => simp [listing, membersLength?]
  | @cons first a later stands _ inductionHypothesis =>
    rw [listing_cons]
    cases a with
    | plain c =>
      obtain ⟨noBackslash, stays⟩ := stands
      have further : ¬(c = ']' ∧ first = false) := by
        rintro ⟨closes, behind⟩
        rw [stays closes] at behind
        cases behind
      simp only [Listed.source_plain, List.cons_append, List.nil_append]
      rw [membersLength?, if_neg noBackslash, if_neg further, inductionHypothesis]
      · rfl
      · intro lone
        exact absurd lone noBackslash
    | escaped c =>
      simp only [Listed.source_escaped, List.cons_append, List.nil_append]
      rw [membersLength?, if_pos rfl, List.tail_cons, inductionHypothesis]
      · rfl
      · simp

/-- What lies before the closing bracket that is found is listed. -/
theorem content_of_membersLength? {first : Bool} {body : Text} {length : Nat}
    (measured : membersLength? first body = some length) :
    ∃ content rest, body = listing content ++ ']' :: rest ∧ Content first content ∧
      length = (listing content).length + 1 := by
  fun_induction membersLength? first body generalizing length with
  | case1 => cases measured
  | case2 => cases measured
  | case3 first rest notLone inductionHypothesis =>
    cases rest with
    | nil => exact (notLone rfl rfl).elim
    | cons c rest =>
      obtain ⟨before, further, rfl⟩ := Option.map_eq_some_iff.1 measured
      obtain ⟨content, remaining, split, contentListed, rfl⟩ := inductionHypothesis further
      rw [List.tail_cons] at split
      refine ⟨.escaped c :: content, remaining, ?_, .cons trivial contentListed, rfl⟩
      simp [split]
  | case4 first c rest _ _ closes =>
    obtain ⟨rfl, rfl⟩ := closes
    cases measured
    exact ⟨[], rest, rfl, .done, rfl⟩
  | case5 first c rest _ noBackslash stays inductionHypothesis =>
    obtain ⟨before, further, rfl⟩ := Option.map_eq_some_iff.1 measured
    obtain ⟨content, remaining, rfl, contentListed, rfl⟩ := inductionHypothesis further
    refine ⟨.plain c :: content, remaining, rfl, .cons ⟨noBackslash, ?_⟩ contentListed, rfl⟩
    intro closes
    cases first with
    | true => rfl
    | false => exact absurd ⟨closes, rfl⟩ stays

/-- A sign is taken off a negated class, and nothing off any other. -/
theorem splitNegation_append {negated : Bool} {content : List Listed} {written : Text}
    (writes : WritesClass negated content written) (rest : Text) :
    splitNegation (written ++ rest) = (negated, listing content ++ ']' :: rest) := by
  cases writes with
  | @positive content contentListed unsigned =>
    cases contentListed with
    | @cons _ a later _ _ =>
      cases a with
      | plain c =>
        obtain ⟨notCaret, notMark⟩ := unsigned c later rfl
        simp [splitNegation, negates, notCaret, notMark]
      | escaped c => simp [splitNegation, negates]
  | @negative sign content isSign contentListed =>
    have negation : negates sign = true := by simpa [negates] using isSign
    simp [splitNegation, negation]

/-- A written class lists its content from the first place on. -/
theorem WritesClass.content {negated : Bool} {content : List Listed} {written : Text}
    (writes : WritesClass negated content written) : Content true content := by
  cases writes with
  | positive contentListed _ => exact contentListed
  | negative _ contentListed => exact contentListed

/-- A class is measured up to its closing bracket. -/
theorem classLength?_append {negated : Bool} {content : List Listed} {written : Text}
    (writes : WritesClass negated content written) (rest : Text) :
    classLength? (written ++ rest) = some written.length := by
  have measured := membersLength?_listing writes.content rest
  rw [classLength?, splitNegation_append writes]
  simp only [measured]
  cases writes with
  | positive _ _ => simp
  | negative _ _ => simp

/-- A class that can be measured is written in front of what follows. -/
theorem writesClass_of_classLength? {body : Text} {length : Nat}
    (measured : classLength? body = some length) :
    ∃ negated content written rest, body = written ++ rest ∧
      WritesClass negated content written ∧ length = written.length := by
  cases body with
  | nil => simp [classLength?, splitNegation, membersLength?] at measured
  | cons c later =>
    cases negation : negates c with
    | true =>
      simp only [classLength?, splitNegation, negation, ite_true] at measured
      obtain ⟨before, members, rfl⟩ := Option.map_eq_some_iff.1 measured
      obtain ⟨content, rest, rfl, contentListed, rfl⟩ := content_of_membersLength? members
      have isSign : c = '^' ∨ c = '!' := by simpa [negates] using negation
      exact ⟨true, content, _, rest, by simp, .negative isSign contentListed, by simp⟩
    | false =>
      simp only [classLength?, splitNegation, negation, Bool.false_eq_true, ite_false] at measured
      obtain ⟨before, members, rfl⟩ := Option.map_eq_some_iff.1 measured
      obtain ⟨content, rest, split, contentListed, rfl⟩ := content_of_membersLength? members
      refine ⟨false, content, _, rest, by simp [split], .positive contentListed ?_, by simp⟩
      rintro d more rfl
      cases split
      simpa [negates] using negation

/-- A listed character is read behind its backslash if it has one. -/
theorem unescape?_source {first : Bool} {a : Listed} {x : Char} {before : Text}
    (stands : a.Stands first) (source : a.source = x :: before) (rest : Text) :
    unescape? x (before ++ rest) = some (a.char, rest) := by
  cases a with
  | plain c =>
    cases source
    exact if_neg stands.1
  | escaped c =>
    cases source
    exact if_pos rfl

/-- No listed character closes the class. -/
theorem not_closes_of_stands {first : Bool} {a : Listed} {x : Char} {before : Text}
    (stands : a.Stands first) (source : a.source = x :: before) : ¬(x = ']' ∧ first = false) := by
  rintro ⟨closes, further⟩
  cases a with
  | plain c =>
    cases source
    rw [stands.2 closes] at further
    cases further
  | escaped c =>
    cases source
    exact absurd closes (by decide)

/-- Something is written for every listed character. -/
theorem Listed.exists_source (a : Listed) : ∃ x before, a.source = x :: before := by
  cases a with
  | plain c => exact ⟨c, [], rfl⟩
  | escaped c => exact ⟨'\\', [c], rfl⟩

/-- Two characters with a hyphen between them are the ends of a range. -/
theorem member?_range {first : Bool} {low high : Listed} {x : Char} {before : Text}
    (lowStands : low.Stands first) (source : low.source = x :: before)
    (highStands : high.Stands false) (rest : Text) :
    member? x (before ++ '-' :: (high.source ++ rest)) = some ((low.char, high.char), rest) := by
  obtain ⟨y, behind, highSource⟩ := high.exists_source
  have lowRead := unescape?_source lowStands source ('-' :: (high.source ++ rest))
  have highRead := unescape?_source highStands highSource rest
  have opens : y ≠ ']' := fun closes => not_closes_of_stands highStands highSource ⟨closes, rfl⟩
  rw [highSource] at lowRead ⊢
  rw [member?, lowRead]
  simp [opens, highRead]

/-- A character that no hyphen and further character follow is listed for itself. -/
theorem member?_single {first : Bool} {only : Listed} {x : Char} {before rest : Text}
    (stands : only.Stands first) (source : only.source = x :: before)
    (noRange : ∀ y others, rest = '-' :: y :: others → y = ']') :
    member? x (before ++ rest) = some ((only.char, only.char), rest) := by
  rw [member?, unescape?_source stands source]
  split
  · rename_i read
    cases read
  · rename_i low others read
    cases read
    split
    · rename_i y others
      rw [if_pos (noRange y others rfl)]
    · rfl

/-- A member that does not close the class adds its range to those before. -/
theorem matchMembers?_member {negated first hit : Bool} {c x : Char} {rest remaining : Text}
    {range : Char × Char} (stays : ¬(x = ']' ∧ first = false))
    (taken : member? x rest = some (range, remaining)) :
    matchMembers? negated c first hit (x :: rest) =
      matchMembers? negated c false (hit || (range.1 ≤ c && c ≤ range.2)) remaining := by
  rw [matchMembers?, if_neg stays]
  split
  · rename_i read
    rw [taken] at read
    cases read
  · rename_i low high behind read
    rw [taken] at read
    cases read
    rfl

/-- Whether one of the ranges holds the character. -/
def holds (ranges : List (Char × Char)) (c : Char) : Bool :=
  ranges.any fun range => range.1 ≤ c && c ≤ range.2

/-- What was found before and one more range hold what the first of all ranges and the others do. -/
theorem holds_cons (hit : Bool) (range : Char × Char) (others : List (Char × Char)) (c : Char) :
    (hit || holds (range :: others) c) =
      ((hit || (range.1 ≤ c && c ≤ range.2)) || holds others c) := by
  rw [holds, List.any_cons, Bool.or_assoc, holds]

/-- A hyphen that is no range's is the last of what is listed. -/
theorem closes_behind_hyphen {later : List Listed} {rest others : Text} {y : Char}
    (notRange : ∀ high more, later = .plain '-' :: high :: more → False)
    (same : listing later ++ ']' :: rest = '-' :: y :: others) : y = ']' := by
  cases later with
  | nil => cases same
  | cons a more =>
    cases a with
    | plain d =>
      cases more with
      | nil =>
        cases same
        rfl
      | cons high more =>
        obtain ⟨rfl, -⟩ := List.cons.inj same
        exact (notRange high more rfl).elim
    | escaped d => cases same

/-- Going through the ranges comes to the closing bracket behind everything that is listed. -/
theorem matchMembers?_listing (negated : Bool) (c : Char) {first hit : Bool}
    {content : List Listed} (contentListed : Content first content) (rest : Text) :
    matchMembers? negated c first hit (listing content ++ ']' :: rest) =
      if (hit || holds (ranges content) c) = negated then none else some rest := by
  fun_induction ranges content generalizing first hit with
  | case1 low high later inductionHypothesis =>
    cases contentListed with
    | cons lowStands behind =>
      cases behind with
      | cons _ behind =>
        cases behind with
        | cons highStands behind =>
          obtain ⟨x, before, source⟩ := low.exists_source
          have taken := member?_range lowStands source highStands (listing later ++ ']' :: rest)
          have split : listing (low :: .plain '-' :: high :: later) ++ ']' :: rest =
              x :: (before ++ '-' :: (high.source ++ (listing later ++ ']' :: rest))) := by
            simp [source]
          rw [split, matchMembers?_member (not_closes_of_stands lowStands source) taken,
            inductionHypothesis behind, holds_cons]
  | case2 only later notRange inductionHypothesis =>
    cases contentListed with
    | cons stands behind =>
      obtain ⟨x, before, source⟩ := only.exists_source
      have noRange : ∀ y others, listing later ++ ']' :: rest = '-' :: y :: others → y = ']' :=
        fun y others => closes_behind_hyphen notRange
      have taken := member?_single stands source noRange
      have split : listing (only :: later) ++ ']' :: rest =
          x :: (before ++ (listing later ++ ']' :: rest)) := by
        simp [source]
      rw [split, matchMembers?_member (not_closes_of_stands stands source) taken,
        inductionHypothesis behind, holds_cons]
  | case3 =>
    cases contentListed with
    | done => cases hit <;> cases negated <;> simp [listing, matchMembers?, holds]

/-- A class takes the characters that its ranges hold, or a negated one those that they do not, and
leaves what follows its closing bracket. -/
theorem matchClass?_append {negated : Bool} {content : List Listed} {written : Text}
    (writes : WritesClass negated content written) (rest : Text) (c : Char) :
    matchClass? (written ++ rest) c =
      if holds (ranges content) c = negated then none else some rest := by
  rw [matchClass?, splitNegation_append writes]
  exact matchMembers?_listing negated c writes.content rest

end InputDeck.Glob
