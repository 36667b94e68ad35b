import InputDeck.Proofs.Pattern.GlobMeaning

/-!
# Three readers of a glob

A glob is read by its check, by the division into parts, and by the match of a character against a
class, which goes through the class again. All three come to the same closing brackets. So the
check refuses exactly the globs of which a part is an opening bracket or a last backslash that
stands for itself, and what is matched against a class is decided by the text up to the bracket at
which its length was measured, and by nothing behind it.
-/

namespace InputDeck.Glob

/-- The parts of a glob one by one, each with the text that it is read from. -/
def readings : Text → List (GlobToken × Text)
  | [] => []
  | ['\\'] => [(.char '\\', ['\\'])]
  | c :: rest =>
    if c = '\\' then
      match rest with
      | [] => []
      | escaped :: rest => (.char escaped, ['\\', escaped]) :: readings rest
    else if c = '*' then (.star, ['*']) :: readings rest
    else if c = '?' then (.any, ['?']) :: readings rest
    else if c = '[' then
      match classLength? rest with
      | some length => (.charClass rest, '[' :: rest.take length) :: readings (rest.drop length)
      | none => (.char '[', ['[']) :: readings rest
    else (.char c, [c]) :: readings rest
termination_by glob => glob.length
decreasing_by
  all_goals simp only [List.length_cons, List.length_drop]
  all_goals omega

/-- Parts in which neighbouring stars are one. -/
def joinStars : List GlobToken → List GlobToken
  | [] => []
  | .star :: rest =>
    match joinStars rest with
    | .star :: others => .star :: others
    | others => .star :: others
  | token :: rest => token :: joinStars rest

/-- The fault of a glob with such a part: an opening bracket for want of a closing one, or a last
backslash, that stands for itself. -/
def strayFault? (reading : GlobToken × Text) : Option GlobFault :=
  if reading = (.char '[', ['[']) then some .unmatchedBracket
  else if reading = (.char '\\', ['\\']) then some .trailingBackslash
  else none

/-- What follows the members of a class is what is left behind their measured length. -/
theorem skipClass?_eq (first : Bool) (body : Text) :
    skipClass? first body = (membersLength? first body).map body.drop := by
  fun_induction skipClass? first body with
  | case1 => simp [membersLength?]
  | case2 => simp [membersLength?]
  | case3 first rest notLone inductionHypothesis =>
    cases rest with
    | nil => exact (notLone rfl rfl).elim
    | cons c rest =>
      rw [List.tail_cons] at inductionHypothesis ⊢
      rw [inductionHypothesis, membersLength?, if_pos rfl, List.tail_cons, Option.map_map]
      · rfl
      · simp
  | case4 first c rest _ _ closes =>
    obtain ⟨rfl, rfl⟩ := closes
    simp [membersLength?]
  | case5 first c rest _ noBackslash stays inductionHypothesis =>
    rw [inductionHypothesis, membersLength?, if_neg noBackslash, if_neg stays, Option.map_map]
    · rfl
    · intro lone
      exact absurd lone noBackslash

/-- What is left of the members of a class is what is left of the class. -/
theorem drop_membersLength? (body : Text) :
    (membersLength? true (splitNegation body).2).map (splitNegation body).2.drop =
      (classLength? body).map body.drop := by
  rw [classLength?]
  cases body with
  | nil => simp [splitNegation, membersLength?]
  | cons c rest =>
    rw [splitNegation]
    split
    · simp [Function.comp_def]
    · simp

/-- The check goes on behind an escaped character. -/
theorem fault?_escaped (c : Char) (t : Text) : fault? ('\\' :: c :: t) = fault? t := by
  rw [fault?]
  · simp
  · simp

/-- The check goes on behind a class, and fails where nothing closes it. -/
theorem fault?_bracket (t : Text) :
    fault? ('[' :: t) =
      (classLength? t).elim (some .unmatchedBracket) fun length => fault? (t.drop length) := by
  have skipped := (skipClass?_eq true (splitNegation t).2).trans (drop_membersLength? t)
  rw [fault?]
  · simp only [↓Char.isValue, Char.reduceEq, if_false, if_true]
    split
    · rename_i missing
      rw [skipped, Option.map_eq_none_iff] at missing
      rw [missing, Option.elim_none]
    · rename_i remaining found
      rw [skipped] at found
      obtain ⟨length, measured, rfl⟩ := Option.map_eq_some_iff.1 found
      rw [measured, Option.elim_some]
  · simp

/-- The check goes on behind any other character. -/
theorem fault?_other {c : Char} (other : c ≠ '\\' ∧ c ≠ '[') (t : Text) :
    fault? (c :: t) = fault? t := by
  rw [fault?, if_neg other.1, if_neg other.2]
  intro lone
  exact absurd lone other.1

/-- The texts that the parts are read from are the glob. -/
theorem flatMap_readings (glob : Text) : (readings glob).flatMap Prod.snd = glob := by
  fun_induction readings glob with
  | case1 => rfl
  | case2 => rfl
  | case3 lone => exact (lone rfl rfl).elim
  | case4 _ _ _ inductionHypothesis | case5 _ _ _ inductionHypothesis
  | case6 _ _ _ _ inductionHypothesis | case7 _ _ _ _ _ _ _ inductionHypothesis
  | case8 _ _ _ _ _ _ inductionHypothesis | case9 _ _ _ _ _ _ _ inductionHypothesis =>
    simp [inductionHypothesis]

/-- A bracket behind a backslash is no stray one. -/
example : readings "\\[[".toList = [(.char '[', ['\\', '[']), (.char '[', ['['])] := by decide +kernel

/-- The parts of a glob are those that are read one by one, with neighbouring stars as one. -/
theorem tokens_eq_joinStars (glob : Text) :
    tokens glob = joinStars ((readings glob).map Prod.fst) := by
  fun_induction readings glob with
  | case1 =>
    rw [tokens]
    rfl
  | case2 =>
    rw [tokens]
    rfl
  | case3 lone => exact (lone rfl rfl).elim
  | case4 c rest _ inductionHypothesis =>
    rw [tokens_escaped, inductionHypothesis]
    rfl
  | case5 rest _ _ inductionHypothesis =>
    rw [tokens_star, inductionHypothesis]
    rfl
  | case6 rest _ _ _ inductionHypothesis =>
    rw [tokens_questionMark, inductionHypothesis]
    rfl
  | case7 rest length measured _ _ _ _ inductionHypothesis =>
    rw [tokens_class measured, inductionHypothesis]
    rfl
  | case8 rest unmeasured _ _ _ _ inductionHypothesis =>
    rw [tokens_unclosed unmeasured, inductionHypothesis]
    rfl
  | case9 c rest _ noBackslash noStar noMark noBracket inductionHypothesis =>
    rw [tokens_plain ⟨noStar, noMark, noBackslash, noBracket⟩, inductionHypothesis]
    rfl

/-- The check finds the first part that stands for itself for want of more text. -/
theorem fault?_eq_findSome? (glob : Text) :
    fault? glob = (readings glob).findSome? strayFault? := by
  fun_induction readings glob with
  | case1 =>
    rw [fault?]
    rfl
  | case2 =>
    rw [fault?]
    rfl
  | case3 lone => exact (lone rfl rfl).elim
  | case4 c rest _ inductionHypothesis =>
    rw [fault?_escaped, inductionHypothesis]
    simp [strayFault?]
  | case5 rest _ _ inductionHypothesis =>
    rw [fault?_other (by decide), inductionHypothesis]
    rfl
  | case6 rest _ _ _ inductionHypothesis =>
    rw [fault?_other (by decide), inductionHypothesis]
    rfl
  | case7 rest length measured _ _ _ _ inductionHypothesis =>
    rw [fault?_bracket, measured, Option.elim_some, inductionHypothesis]
    simp [strayFault?]
  | case8 rest unmeasured _ _ _ _ inductionHypothesis =>
    rw [fault?_bracket, unmeasured]
    rfl
  | case9 c rest _ noBackslash noStar noMark noBracket inductionHypothesis =>
    rw [fault?_other ⟨noBackslash, noBracket⟩, inductionHypothesis]
    simp [strayFault?, noBackslash, noBracket]

/-- What is taken off the beginning of a class leaves its closing bracket where it is. -/
def KeepsBracket (first : Bool) (body remaining : Text) : Prop :=
  ∃ passed, body = passed ++ remaining ∧
    membersLength? first body = (membersLength? false remaining).map (· + passed.length)

/-- Two pieces that are taken off one after the other are one piece. -/
theorem KeepsBracket.trans {first : Bool} {body between remaining : Text}
    (one : KeepsBracket first body between) (two : KeepsBracket false between remaining) :
    KeepsBracket first body remaining := by
  obtain ⟨passed, rfl, measured⟩ := one
  obtain ⟨further, rfl, again⟩ := two
  refine ⟨passed ++ further, by simp, ?_⟩
  rw [measured, again, Option.map_map]
  congr 1
  funext length
  simp only [Function.comp_apply, List.length_append]
  omega

/-- A character of a class, or one with its backslash, is no closing bracket. -/
theorem keepsBracket_unescape? {first : Bool} {c taken : Char} {rest remaining : Text}
    (stays : ¬(c = ']' ∧ first = false)) (read : unescape? c rest = some (taken, remaining)) :
    KeepsBracket first (c :: rest) remaining := by
  unfold unescape? at read
  split at read
  · rename_i backslash
    subst backslash
    cases rest with
    | nil => cases read
    | cons escaped rest =>
      obtain ⟨rfl, rfl⟩ := Prod.mk.inj (Option.some.inj read)
      refine ⟨['\\', escaped], rfl, ?_⟩
      rw [membersLength?, if_pos rfl, List.tail_cons]
      · rfl
      · simp
  · rename_i noBackslash
    cases read
    refine ⟨[c], rfl, ?_⟩
    rw [membersLength?, if_neg noBackslash, if_neg stays]
    · rfl
    · exact fun lone => absurd lone noBackslash

/-- A range of a class goes up to the closing bracket at most. -/
theorem keepsBracket_member? {first : Bool} {c : Char} {range : Char × Char}
    {rest remaining : Text} (stays : ¬(c = ']' ∧ first = false))
    (read : member? c rest = some (range, remaining)) :
    KeepsBracket first (c :: rest) remaining := by
  unfold member? at read
  split at read
  · cases read
  · rename_i low behind one
    have lowEnd := keepsBracket_unescape? stays one
    split at read
    · rename_i next others
      split at read
      · cases read
        exact lowEnd
      · rename_i noBracket
        split at read
        · cases read
        · rename_i high final two
          cases read
          have passed : unescape? '-' (next :: others) = some ('-', next :: others) := by
            simp [unescape?]
          have hyphen : KeepsBracket false ('-' :: next :: others) (next :: others) :=
            keepsBracket_unescape? (by simp) passed
          exact lowEnd.trans (hyphen.trans (keepsBracket_unescape? (by simp [noBracket]) two))
    · cases read
      exact lowEnd

/-- A match leaves what stands behind the closing bracket that is found by going for it alone. -/
theorem measured_of_matchMembers? {negated : Bool} {c : Char} {first hit : Bool}
    {body rest : Text} (matched : matchMembers? negated c first hit body = some rest) :
    ∃ length, membersLength? first body = some length ∧ rest = body.drop length := by
  fun_induction matchMembers? negated c first hit body with
  | case1 => cases matched
  | case2 first hit low behind closes _ =>
    obtain ⟨rfl, rfl⟩ := closes
    cases matched
    exact ⟨1, by simp [membersLength?], rfl⟩
  | case3 => cases matched
  | case4 => cases matched
  | case5 first hit low behind stays _ _ remaining taken _ inductionHypothesis =>
    obtain ⟨passed, split, measured⟩ := keepsBracket_member? stays taken
    obtain ⟨length, later, rfl⟩ := inductionHypothesis matched
    refine ⟨length + passed.length, by rw [measured, later]; rfl, ?_⟩
    rw [split, Nat.add_comm, List.drop_length_add_append]

/-- A character that is taken by a class leaves what stands behind the measured length. -/
theorem measured_of_matchClass? {body rest : Text} {c : Char}
    (matched : matchClass? body c = some rest) :
    ∃ length, classLength? body = some length ∧ rest = body.drop length := by
  have inside : matchMembers? (splitNegation body).1 c true false (splitNegation body).2 =
    some rest := matched
  obtain ⟨length, measured, left⟩ := measured_of_matchMembers? inside
  have same := drop_membersLength? body
  rw [measured, Option.map_some, ← left] at same
  obtain ⟨whole, found, behind⟩ := Option.map_eq_some_iff.1 same.symm
  exact ⟨whole, found, behind.symm⟩

/-- The check, the parts and the match of classes agree on a glob. The texts of the parts are the
glob, and the parts are those that are matched, with neighbouring stars as one. The check passes
exactly if no part is an opening bracket for want of a closing one or a last backslash. A class is
matched only if its length can be measured. Then what its text lists up to the closing bracket
decides which characters it takes, whatever stands behind the bracket, and that is what is left of
the glob. -/
theorem readers_agree (glob : Text) :
    ((readings glob).flatMap Prod.snd = glob ∧
      tokens glob = joinStars ((readings glob).map Prod.fst)) ∧
    (fault? glob = none ↔
      (.char '[', ['[']) ∉ readings glob ∧ (.char '\\', ['\\']) ∉ readings glob) ∧
    ∀ body c,
      (classLength? body = none → matchClass? body c = none) ∧
      ∀ length, classLength? body = some length →
        (∀ rest, matchClass? body c = some rest → rest = body.drop length) ∧
        ∃ negated content, WritesClass negated content (body.take length) ∧
          ∀ behind, matchClass? (body.take length ++ behind) c =
            if holds (ranges content) c = negated then none else some behind := by
  refine ⟨⟨flatMap_readings glob, tokens_eq_joinStars glob⟩, ?_, ?_⟩
  · rw [fault?_eq_findSome?, List.findSome?_eq_none_iff]
    constructor
    · intro calm
      exact ⟨fun member => absurd (calm _ member) (by decide),
        fun member => absurd (calm _ member) (by decide)⟩
    · rintro ⟨noBracket, noBackslash⟩ reading member
      rw [strayFault?, if_neg, if_neg]
      · rintro rfl
        exact noBackslash member
      · rintro rfl
        exact noBracket member
  · intro body c
    constructor
    · intro unmeasured
      rw [Option.eq_none_iff_forall_ne_some]
      intro rest matched
      obtain ⟨length, measured, -⟩ := measured_of_matchClass? matched
      rw [unmeasured] at measured
      cases measured
    · intro length measured
      constructor
      · intro rest matched
        obtain ⟨other, again, rfl⟩ := measured_of_matchClass? matched
        rw [measured] at again
        cases again
        rfl
      · obtain ⟨negated, content, written, behind, rfl, writes, rfl⟩ :=
          writesClass_of_classLength? measured
        rw [List.take_left]
        exact ⟨negated, content, writes, fun behind => matchClass?_append writes behind c⟩

end InputDeck.Glob
