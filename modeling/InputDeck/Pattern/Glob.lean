import InputDeck.Text.Basic

/-!
# File name globs

A glob covers a whole name: a star stands for any characters, a question mark for any one, a
class in brackets for one of its members, or for one that is none of them behind a caret or an
exclamation mark, and a backslash takes the next character as it is. A closing bracket that
stands first in a class is a member, and so is a hyphen before the closing bracket. An opening
bracket without a closing one, and a backslash at the end, stand for themselves when a name is
matched; the check of a glob refuses both.

Matching keeps one place to return to, the text behind the last star. A star that was passed
earlier never needs to be tried again, because the later one can take whatever the earlier one
could have taken more. The measure of the match is that place first, then the text, then the
glob, and each step makes it smaller.
-/

namespace InputDeck

/-- A part of a glob. A class is kept with all of the glob behind its opening bracket. -/
inductive GlobToken where
  | star
  | any
  | char (c : Char)
  | charClass (body : Text)
deriving DecidableEq

/-- What the check of a glob refuses. -/
inductive GlobFault where
  | trailingBackslash
  | unmatchedBracket
deriving DecidableEq

/-- What a fault of a glob reads like. -/
def GlobFault.message : GlobFault → String
  | trailingBackslash => "trailing '\\'"
  | unmatchedBracket => "unmatched '['"

namespace Glob

/-- Whether the character negates a class it stands first in. -/
def negates (c : Char) : Bool := c == '^' || c == '!'

/-- A class without the negation, and whether there was one. -/
def splitNegation : Text → Bool × Text
  | [] => (false, [])
  | c :: rest => if negates c then (true, rest) else (false, c :: rest)

/-- A negation takes at most one character. -/
theorem length_splitNegation_le (body : Text) :
    (splitNegation body).2.length ≤ body.length := by
  unfold splitNegation
  split
  · simp
  · split <;> simp

/-- The length of the members up to and including the closing bracket. -/
def membersLength? : Bool → Text → Option Nat
  | _, [] => none
  | _, ['\\'] => none
  | first, c :: rest =>
    if c = '\\' then (membersLength? false rest.tail).map (· + 2)
    else if c = ']' ∧ first = false then some 1
    else (membersLength? false rest).map (· + 1)
termination_by _ body => body.length
decreasing_by
  · simp only [List.length_cons, List.length_tail]
    omega
  · simp

/-- The length of a class behind its opening bracket, with the closing bracket. -/
def classLength? (body : Text) : Option Nat :=
  let (negated, members) := splitNegation body
  (membersLength? true members).map (· + if negated then 1 else 0)

/-- A character, or the one behind a backslash, and what follows. -/
def unescape? (c : Char) (rest : Text) : Option (Char × Text) :=
  if c = '\\' then
    match rest with
    | [] => none
    | escaped :: rest => some (escaped, rest)
  else some (c, rest)

/-- Taking a character as it is leaves no more text. -/
theorem length_unescape?_le {c escaped : Char} {rest remaining : Text}
    (taken : unescape? c rest = some (escaped, remaining)) : remaining.length ≤ rest.length := by
  unfold unescape? at taken
  split at taken
  · split at taken
    · simp at taken
    · simp only [Option.some.injEq, Prod.mk.injEq] at taken
      obtain ⟨-, rfl⟩ := taken
      simp
  · simp only [Option.some.injEq, Prod.mk.injEq] at taken
    obtain ⟨-, rfl⟩ := taken
    simp

/-- A member of a class as a range, and what follows. A hyphen makes a range unless the closing
bracket follows it. -/
def member? (c : Char) (rest : Text) : Option ((Char × Char) × Text) :=
  match unescape? c rest with
  | none => none
  | some (low, rest) =>
    match rest with
    | '-' :: next :: others =>
      if next = ']' then some ((low, low), rest)
      else
        match unescape? next others with
        | none => none
        | some (high, others) => some ((low, high), others)
    | rest => some ((low, low), rest)

/-- A member takes at least one character. -/
theorem length_member?_le {c : Char} {range : Char × Char} {rest remaining : Text}
    (taken : member? c rest = some (range, remaining)) : remaining.length ≤ rest.length := by
  unfold member? at taken
  split at taken
  · simp at taken
  · rename_i low tail first
    have bounded := length_unescape?_le first
    split at taken
    · rename_i next others
      split at taken
      · simp only [Option.some.injEq, Prod.mk.injEq] at taken
        obtain ⟨-, rfl⟩ := taken
        exact bounded
      · split at taken
        · simp at taken
        · rename_i high final second
          simp only [Option.some.injEq, Prod.mk.injEq] at taken
          obtain ⟨-, rfl⟩ := taken
          have shorter := length_unescape?_le second
          simp only [List.length_cons] at bounded
          omega
    · simp only [Option.some.injEq, Prod.mk.injEq] at taken
      obtain ⟨-, rfl⟩ := taken
      exact bounded

/-- Goes through the members of a class up to the closing bracket. The answer is the text behind
it if the class takes the character; `hit` says whether a member before did. -/
def matchMembers? (negated : Bool) (c : Char) : Bool → Bool → Text → Option Text
  | _, _, [] => none
  | first, hit, low :: rest =>
    if low = ']' ∧ first = false then if hit ≠ negated then some rest else none
    else
      match taken : member? low rest with
      | none => none
      | some ((low, high), remaining) =>
        have _shorter := length_member?_le taken
        matchMembers? negated c false (hit || (low ≤ c && c ≤ high)) remaining
termination_by _ _ body => body.length
decreasing_by
  simp only [List.length_cons]
  omega

/-- The text behind a class, if the class takes the character. -/
def matchClass? (body : Text) (c : Char) : Option Text :=
  let (negated, members) := splitNegation body
  matchMembers? negated c true false members

/-- The parts of a glob. Stars that stand side by side are one. -/
def tokens : Text → List GlobToken
  | [] => []
  | ['\\'] => [.char '\\']
  | c :: rest =>
    if c = '\\' then
      match rest with
      | [] => []
      | escaped :: rest => .char escaped :: tokens rest
    else if c = '*' then
      match tokens rest with
      | .star :: others => .star :: others
      | others => .star :: others
    else if c = '?' then .any :: tokens rest
    else if c = '[' then
      match classLength? rest with
      | some length => .charClass rest :: tokens (rest.drop length)
      | none => .char '[' :: tokens rest
    else .char c :: tokens rest
termination_by glob => glob.length
decreasing_by
  all_goals simp only [List.length_cons, List.length_drop]
  all_goals omega

/-- Whether a part takes the character. -/
def accepts (token : GlobToken) (c : Char) : Bool :=
  match token with
  | .star => true
  | .any => true
  | .char expected => expected == c
  | .charClass body => (matchClass? body c).isSome

/-- The place to return to: the parts behind the last star, and the text it has reached. -/
structure Retry (t : Text) where
  tokens : List GlobToken
  reached : Text
  bounded : t.length ≤ reached.length

/-- How much text the last star has left, or more than all text without a star. -/
def Retry.measure {t : Text} : Option (Retry t) → Nat
  | none => t.length + 1
  | some retry => retry.reached.length

/-- Behind a star, what counts is the text that the star has left. -/
theorem Retry.measure_some {t : Text} (retry : Retry t) :
    Retry.measure (some retry) = retry.reached.length := rfl

/-- The last star has at least the text itself left. -/
theorem Retry.length_le_measure {t : Text} (retry : Option (Retry t)) :
    t.length ≤ Retry.measure retry := by
  cases retry with
  | none => exact Nat.le_succ _
  | some r => exact r.bounded

/-- Carrying the place to return to past a character the glob took. -/
def Retry.advance {c : Char} {rest : Text} (retry : Option (Retry (c :: rest))) :
    Option (Retry rest) :=
  retry.map fun r => ⟨r.tokens, r.reached, Nat.le_of_succ_le r.bounded⟩

/-- Carrying the place to return to along leaves no more behind the last star. -/
theorem Retry.measure_advance_le {c : Char} {rest : Text} (retry : Option (Retry (c :: rest))) :
    Retry.measure (Retry.advance retry) ≤ Retry.measure retry := by
  cases retry with
  | none => exact Nat.le_succ _
  | some r => exact Nat.le_refl _

/-- The other parts, if the first one takes the character. -/
def takeChar? (parts : List GlobToken) (c : Char) : Option (List GlobToken) :=
  match parts with
  | [] => none
  | token :: others => if accepts token c then some others else none

/-- Whether the parts cover the text, returning to the last star where they do not. -/
def matchFrom (parts : List GlobToken) (t : Text) (retry : Option (Retry t)) : Bool :=
  match t with
  | [] => parts.all (· == .star)
  | c :: rest =>
    match parts with
    | .star :: others => matchFrom others (c :: rest) (some ⟨others, c :: rest, Nat.le_refl _⟩)
    | parts =>
      match takeChar? parts c with
      | some others => matchFrom others rest (Retry.advance retry)
      | none =>
        match retry with
        | some ⟨again, _ :: reached, _⟩ =>
          matchFrom again reached (some ⟨again, reached, Nat.le_refl _⟩)
        | _ => false
termination_by (Retry.measure retry, t.length, parts.length)
decreasing_by
  · have bounded := Retry.length_le_measure retry
    simp only [Prod.lex_def, Retry.measure_some, List.length_cons, true_and] at *
    omega
  · have bounded := Retry.measure_advance_le retry
    simp only [Prod.lex_def, List.length_cons]
    omega
  · simp only [Prod.lex_def, Retry.measure_some, List.length_cons]
    omega

/-- Whether the glob covers the name. -/
def covers (glob name : Text) : Bool := matchFrom (tokens glob) name none

/-- What follows the closing bracket of a class. -/
def skipClass? : Bool → Text → Option Text
  | _, [] => none
  | _, ['\\'] => none
  | first, c :: rest =>
    if c = '\\' then skipClass? false rest.tail
    else if c = ']' ∧ first = false then some rest
    else skipClass? false rest
termination_by _ body => body.length
decreasing_by
  · simp only [List.length_cons, List.length_tail]
    omega
  · simp

/-- What follows a class is shorter than the class. -/
theorem length_skipClass?_lt {first : Bool} {body rest : Text}
    (skipped : skipClass? first body = some rest) : rest.length < body.length := by
  fun_induction skipClass? first body with
  | case1 => simp at skipped
  | case2 => simp at skipped
  | case3 first tail _ inductionHypothesis =>
    have shorter := inductionHypothesis skipped
    simp only [List.length_tail, List.length_cons] at *
    omega
  | case4 first tail _ _ closes =>
    simp only [Option.some.injEq] at skipped
    subst skipped
    simp
  | case5 first c tail _ _ _ inductionHypothesis =>
    have shorter := inductionHypothesis skipped
    simp only [List.length_cons]
    omega

/-- The first fault of a glob. -/
def fault? : Text → Option GlobFault
  | [] => none
  | ['\\'] => some .trailingBackslash
  | c :: rest =>
    if c = '\\' then fault? rest.tail
    else if c = '[' then
      match skipped : skipClass? true (splitNegation rest).2 with
      | none => some .unmatchedBracket
      | some remaining =>
        have _shorter := length_skipClass?_lt skipped
        have _bounded := length_splitNegation_le rest
        fault? remaining
    else fault? rest
termination_by glob => glob.length
decreasing_by
  all_goals simp only [List.length_cons, List.length_tail]
  all_goals omega

end Glob

end InputDeck
