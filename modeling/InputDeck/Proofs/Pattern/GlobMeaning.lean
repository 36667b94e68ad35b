import InputDeck.Proofs.Pattern.GlobClass
import InputDeck.Proofs.Pattern.GlobMatching

/-!
# What a glob means

A glob is a row of items, and covers a name that can be cut into consecutive pieces, one for each
item in its turn. A star takes any piece, also the empty one; every other item takes a piece of one
character: a question mark any character, a class one that it lists or, negated, one that it does
not, and all else the character itself. An opening bracket that no class begins with and a
backslash at the end are such characters too.

Every glob can be written in this way, and the match that is run covers exactly the names that can
be cut so.
-/

namespace InputDeck.Glob

/-- A part of a glob by what it means. -/
inductive Item where
  | anyText
  | anyChar
  | char (c : Char)
  | oneOf (negated : Bool) (content : List Listed)

/-- The pieces of a name that an item takes. -/
inductive Item.Matches : Item → Text → Prop
  | anyText (piece : Text) : Matches .anyText piece
  | anyChar (c : Char) : Matches .anyChar [c]
  | char (c : Char) : Matches (.char c) [c]
  | oneOf {negated : Bool} {content : List Listed} {c : Char}
      (listed : (∃ range ∈ ranges content, range.1 ≤ c ∧ c ≤ range.2) ↔ negated = false) :
      Matches (.oneOf negated content) [c]

/-- The ways of writing a row of items. -/
inductive Writes : List Item → Text → Prop
  | nil : Writes [] []
  | star {items : List Item} {t : Text} (later : Writes items t) :
      Writes (.anyText :: items) ('*' :: t)
  | questionMark {items : List Item} {t : Text} (later : Writes items t) :
      Writes (.anyChar :: items) ('?' :: t)
  | escaped {c : Char} {items : List Item} {t : Text} (later : Writes items t) :
      Writes (.char c :: items) ('\\' :: c :: t)
  | trailingBackslash : Writes [.char '\\'] ['\\']
  | closedClass {negated : Bool} {content : List Listed} {written : Text} {items : List Item}
      {t : Text} (closed : WritesClass negated content written) (later : Writes items t) :
      Writes (.oneOf negated content :: items) ('[' :: (written ++ t))
  | unclosed {items : List Item} {t : Text}
      (noClass : ∀ negated content written rest, WritesClass negated content written →
        t ≠ written ++ rest) (later : Writes items t) : Writes (.char '[' :: items) ('[' :: t)
  | plain {c : Char} {items : List Item} {t : Text}
      (plain : c ≠ '*' ∧ c ≠ '?' ∧ c ≠ '\\' ∧ c ≠ '[') (later : Writes items t) :
      Writes (.char c :: items) (c :: t)

/-- The name can be cut into pieces that the items take one by one. -/
def Cut (items : List Item) (name : Text) : Prop :=
  ∃ pieces, pieces.flatten = name ∧ List.Forall₂ Item.Matches items pieces

/-- Nothing is left to cut where the items end. -/
theorem cut_nil_iff (name : Text) : Cut [] name ↔ name = [] := by
  constructor
  · rintro ⟨pieces, rfl, matched⟩
    cases matched
    rfl
  · rintro rfl
    exact ⟨[], rfl, .nil⟩

/-- The first item takes the first piece. -/
theorem cut_cons_iff (item : Item) (items : List Item) (name : Text) :
    Cut (item :: items) name ↔
      ∃ piece rest, name = piece ++ rest ∧ item.Matches piece ∧ Cut items rest := by
  constructor
  · rintro ⟨pieces, rfl, matched⟩
    cases matched with
    | @cons _ piece _ later first others =>
      exact ⟨piece, later.flatten, rfl, first, later, rfl, others⟩
  · rintro ⟨piece, rest, rfl, first, later, rfl, others⟩
    exact ⟨piece :: later, rfl, .cons first others⟩

/-- The items that parts of a glob were read from; stars side by side are one part. -/
inductive Reads : List GlobToken → List Item → Prop
  | nil : Reads [] []
  | star {tokens : List GlobToken} {items : List Item} (later : Reads tokens items) :
      Reads (.star :: tokens) (.anyText :: items)
  | starAgain {tokens : List GlobToken} {items : List Item}
      (later : Reads (.star :: tokens) items) : Reads (.star :: tokens) (.anyText :: items)
  | single {token : GlobToken} {item : Item} {tokens : List GlobToken} {items : List Item}
      (notStar : token ≠ .star)
      (alike : ∀ piece, item.Matches piece ↔ ∃ c, piece = [c] ∧ accepts token c = true)
      (later : Reads tokens items) : Reads (token :: tokens) (item :: items)

/-- A star in front of one more covers no more. -/
theorem explore_star_again (others : List GlobToken) (name : Text) :
    (∃ early late, name = early ++ late ∧ explore (.star :: others) late = true) ↔
      explore (.star :: others) name = true := by
  constructor
  · rintro ⟨early, late, rfl, found⟩
    obtain ⟨between, last, rfl, covered⟩ := (explore_star_iff _ _).1 found
    exact (explore_star_iff _ _).2 ⟨early ++ between, last, by simp, covered⟩
  · intro found
    exact ⟨[], name, rfl, found⟩

/-- The full search finds the names that can be cut. -/
theorem explore_iff_cut {tokens : List GlobToken} {items : List Item} (reads : Reads tokens items)
    (name : Text) : explore tokens name = true ↔ Cut items name := by
  induction reads generalizing name with
  | nil => rw [explore, cut_nil_iff, List.isEmpty_iff]
  | star _ inductionHypothesis =>
    simp only [explore_star_iff, cut_cons_iff, inductionHypothesis]
    constructor
    · rintro ⟨early, late, split, cut⟩
      exact ⟨early, late, split, .anyText early, cut⟩
    · rintro ⟨early, late, split, -, cut⟩
      exact ⟨early, late, split, cut⟩
  | starAgain _ inductionHypothesis =>
    rw [← explore_star_again, cut_cons_iff]
    simp only [inductionHypothesis]
    constructor
    · rintro ⟨early, late, split, cut⟩
      exact ⟨early, late, split, .anyText early, cut⟩
    · rintro ⟨early, late, split, -, cut⟩
      exact ⟨early, late, split, cut⟩
  | @single token item others items notStar alike _ inductionHypothesis =>
    simp only [cut_cons_iff, alike]
    cases name with
    | nil =>
      rw [explore_nil, List.all_cons]
      simp [notStar]
    | cons c rest =>
      rw [explore_single notStar, Bool.and_eq_true, inductionHypothesis]
      constructor
      · rintro ⟨accepted, cut⟩
        exact ⟨[c], rest, rfl, ⟨c, rfl, accepted⟩, cut⟩
      · rintro ⟨_, later, split, ⟨d, rfl, accepted⟩, cut⟩
        cases split
        exact ⟨accepted, cut⟩

/-- A character stands for itself. -/
theorem matches_char_iff (expected : Char) (piece : Text) :
    (Item.char expected).Matches piece ↔
      ∃ c, piece = [c] ∧ accepts (.char expected) c = true := by
  constructor
  · rintro ⟨⟩
    exact ⟨expected, rfl, beq_self_eq_true expected⟩
  · rintro ⟨c, rfl, same⟩
    rw [eq_of_beq same]
    exact .char c

/-- A class that is read up to its closing bracket takes what is listed, or what is not. -/
theorem matches_oneOf_iff {negated : Bool} {content : List Listed} {written : Text}
    (closed : WritesClass negated content written) (rest : Text) (piece : Text) :
    (Item.oneOf negated content).Matches piece ↔
      ∃ c, piece = [c] ∧ accepts (.charClass (written ++ rest)) c = true := by
  have accepted : ∀ c, accepts (.charClass (written ++ rest)) c = true ↔
      ((∃ range ∈ ranges content, range.1 ≤ c ∧ c ≤ range.2) ↔ negated = false) := by
    intro c
    have held : holds (ranges content) c = true ↔
        ∃ range ∈ ranges content, range.1 ≤ c ∧ c ≤ range.2 := by
      simp [holds]
    rw [accepts, matchClass?_append closed, ← held]
    cases holds (ranges content) c <;> cases negated <;> simp
  constructor
  · rintro ⟨⟩
    rename_i c listed
    exact ⟨c, rfl, (accepted c).2 listed⟩
  · rintro ⟨c, rfl, taken⟩
    exact .oneOf ((accepted c).1 taken)

/-- A star is read as one with the star behind it, if there is one. -/
theorem tokens_star (t : Text) :
    tokens ('*' :: t) =
      match tokens t with
      | .star :: others => .star :: others
      | others => .star :: others := by
  rw [tokens.eq_def]
  rfl

/-- A star is read as a part of its own, or as one with the star behind it. -/
theorem exists_tokens_star (t : Text) :
    ∃ others, tokens ('*' :: t) = .star :: others ∧
      (tokens t = .star :: others ∨ tokens t = others) := by
  rw [tokens_star]
  split
  · rename_i others same
    exact ⟨others, rfl, .inl same⟩
  · exact ⟨tokens t, rfl, .inr rfl⟩

/-- A question mark is read as any character. -/
theorem tokens_questionMark (t : Text) : tokens ('?' :: t) = .any :: tokens t := by
  rw [tokens.eq_def]
  simp

/-- A character is read as it is behind a backslash. -/
theorem tokens_escaped (c : Char) (t : Text) : tokens ('\\' :: c :: t) = .char c :: tokens t := by
  rw [tokens.eq_def]
  simp

/-- A class that can be measured is read up to its closing bracket. -/
theorem tokens_class {t : Text} {length : Nat} (measured : classLength? t = some length) :
    tokens ('[' :: t) = .charClass t :: tokens (t.drop length) := by
  rw [tokens.eq_def]
  simp [measured]

/-- An opening bracket is read alone where nothing closes it. -/
theorem tokens_unclosed {t : Text} (unmeasured : classLength? t = none) :
    tokens ('[' :: t) = .char '[' :: tokens t := by
  rw [tokens.eq_def]
  simp [unmeasured]

/-- A character without a meaning of its own is read as it is. -/
theorem tokens_plain {c : Char} (plain : c ≠ '*' ∧ c ≠ '?' ∧ c ≠ '\\' ∧ c ≠ '[') (t : Text) :
    tokens (c :: t) = .char c :: tokens t := by
  obtain ⟨noStar, noMark, noBackslash, noBracket⟩ := plain
  rw [tokens.eq_def]
  simp [noStar, noMark, noBackslash, noBracket]

/-- An opening bracket has no closing one exactly where no class is written. -/
theorem classLength?_eq_none_iff (t : Text) :
    classLength? t = none ↔ ∀ negated content written rest,
      WritesClass negated content written → t ≠ written ++ rest := by
  constructor
  · rintro unmeasured negated content written rest closed rfl
    rw [classLength?_append closed] at unmeasured
    cases unmeasured
  · intro noClass
    cases measured : classLength? t with
    | none => rfl
    | some length =>
      obtain ⟨negated, content, written, rest, split, closed, -⟩ :=
        writesClass_of_classLength? measured
      exact absurd split (noClass negated content written rest closed)

/-- The parts of a written row of items are read from these items. -/
theorem reads_tokens {items : List Item} {glob : Text} (writes : Writes items glob) :
    Reads (tokens glob) items := by
  induction writes with
  | nil =>
    rw [tokens]
    exact .nil
  | @star items t _ inductionHypothesis =>
    obtain ⟨others, read, same | same⟩ := exists_tokens_star t
    · rw [read]
      exact .starAgain (same ▸ inductionHypothesis)
    · rw [read]
      exact .star (same ▸ inductionHypothesis)
  | @questionMark items t _ inductionHypothesis =>
    have alike : ∀ piece, Item.anyChar.Matches piece ↔
        ∃ c, piece = [c] ∧ accepts .any c = true := by
      intro piece
      constructor
      · rintro ⟨⟩
        exact ⟨_, rfl, rfl⟩
      · rintro ⟨c, rfl, -⟩
        exact .anyChar c
    rw [tokens_questionMark]
    exact .single (by simp) alike inductionHypothesis
  | @escaped c items t _ inductionHypothesis =>
    rw [tokens_escaped]
    exact .single (by simp) (matches_char_iff c) inductionHypothesis
  | trailingBackslash =>
    rw [tokens]
    exact .single (by simp) (matches_char_iff '\\') .nil
  | @closedClass negated content written items t closed _ inductionHypothesis =>
    rw [tokens_class (classLength?_append closed t), List.drop_left]
    exact .single (by simp) (matches_oneOf_iff closed t) inductionHypothesis
  | @unclosed items t noClass _ inductionHypothesis =>
    rw [tokens_unclosed ((classLength?_eq_none_iff t).2 noClass)]
    exact .single (by simp) (matches_char_iff '[') inductionHypothesis
  | @plain c items t isPlain _ inductionHypothesis =>
    rw [tokens_plain isPlain]
    exact .single (by simp) (matches_char_iff c) inductionHypothesis

/-- Every glob is written from some row of items. -/
theorem exists_writes (glob : Text) : ∃ items, Writes items glob := by
  fun_induction tokens glob with
  | case1 => exact ⟨[], .nil⟩
  | case2 => exact ⟨_, .trailingBackslash⟩
  | case3 => exact ⟨_, .trailingBackslash⟩
  | case4 c rest _ inductionHypothesis =>
    obtain ⟨items, later⟩ := inductionHypothesis
    exact ⟨_, .escaped later⟩
  | case5 rest _ _ _ _ inductionHypothesis | case6 rest _ _ _ inductionHypothesis =>
    obtain ⟨items, later⟩ := inductionHypothesis
    exact ⟨_, .star later⟩
  | case7 rest _ _ _ inductionHypothesis =>
    obtain ⟨items, later⟩ := inductionHypothesis
    exact ⟨_, .questionMark later⟩
  | case8 rest length measured _ _ _ _ inductionHypothesis =>
    obtain ⟨items, later⟩ := inductionHypothesis
    obtain ⟨negated, content, written, behind, rfl, closed, rfl⟩ :=
      writesClass_of_classLength? measured
    rw [List.drop_left] at later
    exact ⟨_, .closedClass closed later⟩
  | case9 rest unmeasured _ _ _ _ inductionHypothesis =>
    obtain ⟨items, later⟩ := inductionHypothesis
    exact ⟨_, .unclosed ((classLength?_eq_none_iff rest).1 unmeasured) later⟩
  | case10 c rest _ noBackslash noStar noMark noBracket inductionHypothesis =>
    obtain ⟨items, later⟩ := inductionHypothesis
    exact ⟨_, .plain ⟨noStar, noMark, noBackslash, noBracket⟩ later⟩

/-- A glob covers exactly the names that can be cut into consecutive pieces that its items take one
by one, and every glob is written from such items. Whether it covers a name is always answered, and
the answer is that of the full search for every star, though the match returns only to the last
star it has passed. -/
theorem covers_iff_cut (glob : Text) :
    (∃ items, Writes items glob) ∧
    (∀ items, Writes items glob → ∀ name, covers glob name = true ↔
      ∃ pieces, pieces.flatten = name ∧ List.Forall₂ Item.Matches items pieces) ∧
    ∀ name, covers glob name = explore (tokens glob) name := by
  refine ⟨exists_writes glob, ?_, covers_eq_explore glob⟩
  intro items writes name
  rw [covers_eq_explore, explore_iff_cut (reads_tokens writes)]
  exact Iff.rfl

/-- A negated class that lists a closing bracket and a hyphen, a star, and two characters that mean
themselves: a star behind a backslash and an opening bracket that nothing closes. -/
theorem covers_beyond_class :
    Writes [.oneOf true [.plain ']', .plain 'a', .plain '-'], .anyText, .char '*', .char '[']
        "[!]a-]*\\*[".toList ∧
      covers "[!]a-]*\\*[".toList "b*]*[".toList = true := by
  have noClass : ∀ negated content written rest, WritesClass negated content written →
      ([] : Text) ≠ written ++ rest := (classLength?_eq_none_iff []).1 (by decide +kernel)
  have written : WritesClass true [.plain ']', .plain 'a', .plain '-'] "!]a-]".toList := by
    refine .negative (.inr rfl) (.cons ⟨by decide, fun _ => rfl⟩ (.cons ⟨by decide, ?_⟩
      (.cons ⟨by decide, ?_⟩ .done)))
    · decide
    · decide
  have writes : Writes _ "[!]a-]*\\*[".toList :=
    .closedClass written (.star (.escaped (.unclosed noClass .nil)))
  refine ⟨writes, ((covers_iff_cut _).2.1 _ writes _).2 ⟨[['b'], "*]".toList, ['*'], ['[']], rfl, ?_⟩⟩
  refine .cons (.oneOf ?_) (.cons (.anyText _) (.cons (.char '*') (.cons (.char '[') .nil)))
  decide

end InputDeck.Glob
