import InputDeck.Template.Cursor
import InputDeck.Proofs.Template.Placement

/-!
# Matching delimiters

The search for a closing delimiter counts the pairs that are open. It ends at the first character
at which more has been closed than opened, and only if there is such a character. What it has
passed until then is a text of pairs, where every opening delimiter has its closing one further
on; so a search that begins behind one of them ends earlier. Until the search ends, the count is
what has been opened less what has been closed, and never falls below zero.
-/

namespace InputDeck

section

variable (openDelimiter closeDelimiter : Char)

/-- The texts in which all delimiters stand in pairs, one pair inside or behind another. -/
inductive Paired : Text → Prop
  | nil : Paired []
  | plain {c : Char} {rest : Text} (other : c ≠ openDelimiter ∧ c ≠ closeDelimiter)
      (later : Paired rest) : Paired (c :: rest)
  | pair {inner rest : Text} (inside : Paired inner) (later : Paired rest) :
      Paired (openDelimiter :: (inner ++ closeDelimiter :: rest))

/-- More is closed in the text than opened. -/
def Overcloses (t : Text) : Prop := t.count openDelimiter < t.count closeDelimiter

/-- At the offset stands a character up to which, from `start` on, more is closed than opened. -/
def OverclosedAt (line : Text) (start offset : Nat) : Prop :=
  ∃ before read c behind, line = before ++ (read ++ c :: behind) ∧
    Text.byteLength before = start ∧ offset = start + Text.byteLength read ∧
    Overcloses openDelimiter closeDelimiter (read ++ [c])

/-- A text that closes as many pairs as are open, with pairs around each of the closing
delimiters. -/
inductive PairedFrom : Nat → Text → Prop
  | whole {t : Text} (paired : Paired openDelimiter closeDelimiter t) : PairedFrom 0 t
  | closes {depth : Nat} {first rest : Text}
      (paired : Paired openDelimiter closeDelimiter first) (later : PairedFrom depth rest) :
      PairedFrom (depth + 1) (first ++ closeDelimiter :: rest)

end

variable {openDelimiter closeDelimiter : Char}

namespace PairedFrom

variable {depth : Nat} {t : Text}

/-- A character that is no delimiter may stand in front. -/
theorem plain {c : Char} (other : c ≠ openDelimiter ∧ c ≠ closeDelimiter)
    (paired : PairedFrom openDelimiter closeDelimiter depth t) :
    PairedFrom openDelimiter closeDelimiter depth (c :: t) := by
  cases paired with
  | whole paired => exact .whole (.plain other paired)
  | closes first later => exact .closes (.plain other first) later

/-- An opening delimiter in front makes a pair with the first closing one. -/
theorem opened (paired : PairedFrom openDelimiter closeDelimiter (depth + 1) t) :
    PairedFrom openDelimiter closeDelimiter depth (openDelimiter :: t) := by
  cases paired with
  | @closes _ inner _ inside later =>
    cases later with
    | whole later => exact .whole (.pair inside later)
    | @closes _ between rest second later =>
      have joined := PairedFrom.closes (.pair inside second) later
      simpa using joined

end PairedFrom

/-- A balanced text stands in pairs around the closing delimiters of what is open already. -/
theorem pairedFrom_of_balancedFrom {depth : Nat} {body : Text}
    (balanced : balancedFrom openDelimiter closeDelimiter depth body = true) :
    PairedFrom openDelimiter closeDelimiter depth body := by
  induction body generalizing depth with
  | nil =>
    obtain rfl : depth = 0 := by simpa [balancedFrom] using balanced
    exact .whole .nil
  | cons c rest inductionHypothesis =>
    unfold balancedFrom at balanced
    split at balanced
    case isTrue opens =>
      subst opens
      exact (inductionHypothesis balanced).opened
    case isFalse notOpen =>
      split at balanced
      case isTrue closes =>
        subst closes
        cases depth with
        | zero => cases balanced
        | succ depth => exact .closes .nil (inductionHypothesis balanced)
      case isFalse notClose => exact (inductionHypothesis balanced).plain ⟨notOpen, notClose⟩

/-- Text in pairs leaves as many pairs open as there were before it. -/
theorem balancedFrom_append_of_paired (differ : openDelimiter ≠ closeDelimiter) {first : Text}
    (paired : Paired openDelimiter closeDelimiter first) (depth : Nat) (rest : Text) :
    balancedFrom openDelimiter closeDelimiter depth (first ++ rest) =
      balancedFrom openDelimiter closeDelimiter depth rest := by
  induction paired generalizing depth rest with
  | nil => rfl
  | plain other _ inductionHypothesis =>
    simp [balancedFrom, other, inductionHypothesis]
  | pair _ _ inside later =>
    simp [balancedFrom, inside, later, Ne.symm differ]

/-- The balanced texts are the texts in pairs. -/
theorem balancedFrom_zero_iff_paired (differ : openDelimiter ≠ closeDelimiter) (body : Text) :
    balancedFrom openDelimiter closeDelimiter 0 body = true ↔
      Paired openDelimiter closeDelimiter body := by
  constructor
  · intro balanced
    cases pairedFrom_of_balancedFrom balanced with
    | whole paired => exact paired
  · intro paired
    have left := balancedFrom_append_of_paired differ paired 0 []
    rw [List.append_nil] at left
    rw [left]
    rfl

/-- The search ends exactly behind a text in pairs. -/
theorem findClose_eq_some_iff_paired (differ : openDelimiter ≠ closeDelimiter)
    (t body following : Text) :
    findClose openDelimiter closeDelimiter 0 t = some (body, following) ↔
      t = body ++ closeDelimiter :: following ∧ Paired openDelimiter closeDelimiter body := by
  rw [findClose_eq_some_iff differ, balancedFrom_zero_iff_paired differ]

/-- In pairs, every opening delimiter has its closing one behind a text in pairs. -/
theorem Paired.exists_close (differ : openDelimiter ≠ closeDelimiter) {body read inner : Text}
    (paired : Paired openDelimiter closeDelimiter body)
    (split : body = read ++ openDelimiter :: inner) :
    ∃ inside rest, inner = inside ++ closeDelimiter :: rest ∧
      Paired openDelimiter closeDelimiter inside := by
  induction paired generalizing read inner with
  | nil => simp at split
  | plain other _ inductionHypothesis =>
    cases read with
    | nil =>
      cases split
      exact absurd rfl other.1
    | cons =>
      cases split
      exact inductionHypothesis rfl
  | @pair first rest paired _ inside later =>
    cases read with
    | nil =>
      cases split
      exact ⟨first, rest, rfl, paired⟩
    | cons d read =>
      obtain ⟨-, split⟩ := List.cons.inj split
      -- The opening delimiter stands between those of the first pair or behind them.
      rcases List.append_eq_append_iff.1 split with ⟨more, rfl, behind⟩ | ⟨more, rfl, behind⟩
      · cases more with
        | nil =>
          cases behind
          exact absurd rfl differ
        | cons =>
          cases behind
          exact later rfl
      · cases more with
        | nil =>
          cases behind
          exact absurd rfl differ
        | cons =>
          cases behind
          obtain ⟨content, further, rfl, closed⟩ := inside rfl
          exact ⟨content, further ++ closeDelimiter :: rest, by simp, closed⟩

/-- An opening delimiter is one pair more to close. -/
theorem findClose_open (depth : Nat) (rest : Text) :
    findClose openDelimiter closeDelimiter depth (openDelimiter :: rest) =
      (findClose openDelimiter closeDelimiter (depth + 1) rest).map
        fun (body, following) => (openDelimiter :: body, following) := by
  simp [findClose]

/-- A closing delimiter is one pair less to close. -/
theorem findClose_close (differ : openDelimiter ≠ closeDelimiter) (depth : Nat) (rest : Text) :
    findClose openDelimiter closeDelimiter (depth + 1) (closeDelimiter :: rest) =
      (findClose openDelimiter closeDelimiter depth rest).map
        fun (body, following) => (closeDelimiter :: body, following) := by
  simp [findClose, Ne.symm differ]

/-- Any other character leaves as many pairs to close. -/
theorem findClose_plain {c : Char} (other : c ≠ openDelimiter ∧ c ≠ closeDelimiter) (depth : Nat)
    (rest : Text) :
    findClose openDelimiter closeDelimiter depth (c :: rest) =
      (findClose openDelimiter closeDelimiter depth rest).map
        fun (body, following) => (c :: body, following) := by
  simp [findClose, other]

/-- Whatever the text closes was open before or has been opened in it. -/
def ClosesWithin (openDelimiter closeDelimiter : Char) (depth : Nat) (t : Text) : Prop :=
  ∀ read, read <+: t → read.count closeDelimiter ≤ depth + read.count openDelimiter

/-- What holds of the beginnings of a text can be said of those behind its first character. -/
theorem closesWithin_cons_iff (depth : Nat) (c : Char) (t : Text) :
    ClosesWithin openDelimiter closeDelimiter depth (c :: t) ↔
      ∀ read, read <+: t →
        (c :: read).count closeDelimiter ≤ depth + (c :: read).count openDelimiter := by
  constructor
  · intro within read begins
    exact within (c :: read) (List.cons_prefix_cons.2 ⟨rfl, begins⟩)
  · intro within read begins
    rcases List.prefix_cons_iff.1 begins with rfl | ⟨later, rfl, further⟩
    · simp
    · exact within later further

/-- Behind an opening delimiter one pair more may be closed. -/
theorem closesWithin_open_iff (differ : openDelimiter ≠ closeDelimiter) (depth : Nat) (t : Text) :
    ClosesWithin openDelimiter closeDelimiter depth (openDelimiter :: t) ↔
      ClosesWithin openDelimiter closeDelimiter (depth + 1) t := by
  rw [closesWithin_cons_iff]
  refine forall₂_congr fun read _ => ?_
  rw [List.count_cons_self, List.count_cons_of_ne differ]
  omega

/-- Behind a closing delimiter one pair less may be closed, if there is one. -/
theorem closesWithin_close_iff (differ : openDelimiter ≠ closeDelimiter) (depth : Nat) (t : Text) :
    ClosesWithin openDelimiter closeDelimiter (depth + 1) (closeDelimiter :: t) ↔
      ClosesWithin openDelimiter closeDelimiter depth t := by
  rw [closesWithin_cons_iff]
  refine forall₂_congr fun read _ => ?_
  rw [List.count_cons_self, List.count_cons_of_ne (Ne.symm differ)]
  omega

/-- Without a pair that is open a text must not begin with a closing delimiter. -/
theorem not_closesWithin_close (differ : openDelimiter ≠ closeDelimiter) (t : Text) :
    ¬ClosesWithin openDelimiter closeDelimiter 0 (closeDelimiter :: t) := by
  intro within
  have first := (closesWithin_cons_iff 0 closeDelimiter t).1 within [] List.nil_prefix
  simp [List.count_cons_of_ne (Ne.symm differ)] at first

/-- Behind any other character as many pairs may be closed. -/
theorem closesWithin_plain_iff {c : Char} (other : c ≠ openDelimiter ∧ c ≠ closeDelimiter)
    (depth : Nat) (t : Text) :
    ClosesWithin openDelimiter closeDelimiter depth (c :: t) ↔
      ClosesWithin openDelimiter closeDelimiter depth t := by
  rw [closesWithin_cons_iff]
  refine forall₂_congr fun read _ => ?_
  rw [List.count_cons_of_ne other.1, List.count_cons_of_ne other.2]

/-- The search finds nothing exactly in a text that closes no more than is open. -/
theorem findClose_eq_none_iff (differ : openDelimiter ≠ closeDelimiter) (depth : Nat) (t : Text) :
    findClose openDelimiter closeDelimiter depth t = none ↔
      ClosesWithin openDelimiter closeDelimiter depth t := by
  induction t generalizing depth with
  | nil => simp [findClose, ClosesWithin]
  | cons c rest inductionHypothesis =>
    by_cases opens : c = openDelimiter
    · subst opens
      rw [findClose_open, Option.map_eq_none_iff, inductionHypothesis,
        closesWithin_open_iff differ]
    · by_cases closes : c = closeDelimiter
      · subst closes
        cases depth with
        | zero => simp [findClose, opens, not_closesWithin_close differ]
        | succ depth =>
          rw [findClose_close differ, Option.map_eq_none_iff, inductionHypothesis,
            closesWithin_close_iff differ]
      · rw [findClose_plain ⟨opens, closes⟩, Option.map_eq_none_iff, inductionHypothesis,
          closesWithin_plain_iff ⟨opens, closes⟩]

/-- The search passes over a text that closes no more than is open, and then has open what was
open before and what the text has opened less what it has closed. -/
theorem findClose_append_of_closesWithin (differ : openDelimiter ≠ closeDelimiter) {depth : Nat}
    {read : Text} (within : ClosesWithin openDelimiter closeDelimiter depth read) (rest : Text) :
    findClose openDelimiter closeDelimiter depth (read ++ rest) =
      (findClose openDelimiter closeDelimiter
        (depth + read.count openDelimiter - read.count closeDelimiter) rest).map
          fun (body, following) => (read ++ body, following) := by
  induction read generalizing depth with
  | nil => simp
  | cons c read inductionHypothesis =>
    rw [List.cons_append]
    by_cases opens : c = openDelimiter
    · subst opens
      rw [findClose_open, inductionHypothesis ((closesWithin_open_iff differ _ _).1 within),
        List.count_cons_self, List.count_cons_of_ne differ]
      simp [Nat.add_assoc, Nat.add_comm 1, Function.comp_def]
    · by_cases closes : c = closeDelimiter
      · subst closes
        cases depth with
        | zero => exact absurd within (not_closesWithin_close differ read)
        | succ depth =>
          rw [findClose_close differ,
            inductionHypothesis ((closesWithin_close_iff differ _ _).1 within),
            List.count_cons_self, List.count_cons_of_ne (Ne.symm differ)]
          simp [Function.comp_def, Nat.add_right_comm]
      · rw [findClose_plain ⟨opens, closes⟩,
          inductionHypothesis ((closesWithin_plain_iff ⟨opens, closes⟩ _ _).1 within),
          List.count_cons_of_ne opens, List.count_cons_of_ne closes]
        simp [Function.comp_def]

namespace Paired

variable {body : Text}

/-- Text in pairs closes as much as it opens. -/
theorem count_eq (differ : openDelimiter ≠ closeDelimiter)
    (paired : Paired openDelimiter closeDelimiter body) :
    body.count closeDelimiter = body.count openDelimiter := by
  induction paired with
  | nil => rfl
  | plain other _ inductionHypothesis =>
    rw [List.count_cons_of_ne other.1, List.count_cons_of_ne other.2, inductionHypothesis]
  | pair _ _ inside later =>
    rw [List.count_cons_of_ne differ, List.count_cons_self, List.count_append, List.count_append,
      List.count_cons_self, List.count_cons_of_ne (Ne.symm differ), inside, later]
    omega

/-- Text in pairs closes no more than it has opened. -/
theorem closesWithin (differ : openDelimiter ≠ closeDelimiter)
    (paired : Paired openDelimiter closeDelimiter body) :
    ClosesWithin openDelimiter closeDelimiter 0 body := by
  rw [← findClose_eq_none_iff differ, Option.eq_none_iff_forall_ne_some]
  rintro ⟨first, rest⟩ found
  obtain ⟨rfl, earlier⟩ := (findClose_eq_some_iff_paired differ _ _ _).1 found
  have balanced := (balancedFrom_zero_iff_paired differ _).2 paired
  rw [balancedFrom_append_of_paired differ earlier] at balanced
  simp [balancedFrom, Ne.symm differ] at balanced

end Paired

/-- Where the search ends, more is closed than opened for the first time. -/
theorem overcloses_of_findClose (differ : openDelimiter ≠ closeDelimiter)
    {t body following : Text}
    (found : findClose openDelimiter closeDelimiter 0 t = some (body, following)) :
    Overcloses openDelimiter closeDelimiter (body ++ [closeDelimiter]) := by
  obtain ⟨-, paired⟩ := (findClose_eq_some_iff_paired differ _ _ _).1 found
  simp [Overcloses, paired.count_eq differ, Ne.symm differ]

/-- A beginning of the text that closes more than it opens reaches to where the search ends. -/
theorem prefix_of_overcloses (differ : openDelimiter ≠ closeDelimiter)
    {body following read behind : Text} {c : Char}
    (found : findClose openDelimiter closeDelimiter 0 (read ++ c :: behind) =
      some (body, following))
    (beyond : Overcloses openDelimiter closeDelimiter (read ++ [c])) : body <+: read := by
  obtain ⟨split, paired⟩ := (findClose_eq_some_iff_paired differ _ _ _).1 found
  rcases List.append_eq_append_iff.1 split with ⟨more, rfl, rest⟩ | ⟨more, rfl, -⟩
  · cases more with
    | nil => simp
    | cons d more =>
      cases rest
      have within := paired.closesWithin differ (read ++ [c]) ⟨more, by simp⟩
      rw [Overcloses] at beyond
      omega
  · exact ⟨more, rfl⟩

namespace Text

variable {first second : Text}

/-- The beginning of a text takes no more bytes than the text. -/
theorem byteLength_le_of_prefix (begins : first <+: second) :
    byteLength first ≤ byteLength second := by
  obtain ⟨rest, rfl⟩ := begins
  rw [byteLength_append]
  exact Nat.le_add_right _ _

/-- Of two beginnings of a text, the one with no more bytes is the beginning of the other. -/
theorem prefix_of_byteLength_le {t : Text} (begins : first <+: t) (alsoBegins : second <+: t)
    (shorter : byteLength first ≤ byteLength second) : first <+: second := by
  rcases List.prefix_or_prefix_of_prefix begins alsoBegins with within | ⟨more, rfl⟩
  · exact within
  · cases more with
    | nil => simp
    | cons c more =>
      have positive := byteLength_pos_of_ne_nil (List.cons_ne_nil c more)
      rw [byteLength_append] at shorter
      omega

end Text

section

variable {line before t : Text} {start : Nat}

/-- The offset that is found stands behind the text that the search passes over. -/
theorem closeOffset?_eq_some_iff (cut : line.cut? start = some (before, t)) (offset : Nat) :
    closeOffset? openDelimiter closeDelimiter line start = some offset ↔
      ∃ body following, findClose openDelimiter closeDelimiter 0 t = some (body, following) ∧
        offset = start + Text.byteLength body := by
  simp only [closeOffset?, cut, Option.bind_some, Option.map_eq_some_iff, Prod.exists]
  exact exists₂_congr fun body following => and_congr_right fun _ => eq_comm

/-- No offset is found exactly if the search finds nothing behind the start. -/
theorem closeOffset?_eq_none_iff (cut : line.cut? start = some (before, t)) :
    closeOffset? openDelimiter closeDelimiter line start = none ↔
      findClose openDelimiter closeDelimiter 0 t = none := by
  simp [closeOffset?, cut]

/-- More is closed than opened at an offset where this is so in the text behind the start. -/
theorem overclosedAt_iff (cut : line.cut? start = some (before, t)) (offset : Nat) :
    OverclosedAt openDelimiter closeDelimiter line start offset ↔
      ∃ read c behind, t = read ++ c :: behind ∧ offset = start + Text.byteLength read ∧
        Overcloses openDelimiter closeDelimiter (read ++ [c]) := by
  constructor
  · rintro ⟨other, read, c, behind, split, length, place, beyond⟩
    have again := (Text.cut?_eq_some_iff line start _ _).2 ⟨split, length⟩
    rw [cut] at again
    cases again
    exact ⟨read, c, behind, rfl, place, beyond⟩
  · rintro ⟨read, c, behind, rfl, place, beyond⟩
    obtain ⟨split, length⟩ := (Text.cut?_eq_some_iff _ _ _ _).1 cut
    exact ⟨before, read, c, behind, split, length, place, beyond⟩

/-- A search that ends does so at the first offset at which more is closed than opened. -/
theorem overclosedAt_first (differ : openDelimiter ≠ closeDelimiter)
    (cut : line.cut? start = some (before, t)) {body following : Text}
    (found : findClose openDelimiter closeDelimiter 0 t = some (body, following)) :
    OverclosedAt openDelimiter closeDelimiter line start (start + Text.byteLength body) ∧
      ∀ other, OverclosedAt openDelimiter closeDelimiter line start other →
        start + Text.byteLength body ≤ other := by
  obtain ⟨split, -⟩ := (findClose_eq_some_iff_paired differ _ _ _).1 found
  constructor
  · exact (overclosedAt_iff cut _).2
      ⟨body, closeDelimiter, following, split, rfl, overcloses_of_findClose differ found⟩
  · intro other beyond
    obtain ⟨read, c, behind, rfl, rfl, closes⟩ := (overclosedAt_iff cut other).1 beyond
    have passed := prefix_of_overcloses differ found closes
    exact Nat.add_le_add_left (Text.byteLength_le_of_prefix passed) start

/-- A search finds nothing exactly where nowhere more is closed than opened. -/
theorem findClose_eq_none_iff_overclosedAt (differ : openDelimiter ≠ closeDelimiter)
    (cut : line.cut? start = some (before, t)) :
    findClose openDelimiter closeDelimiter 0 t = none ↔
      ∀ offset, ¬OverclosedAt openDelimiter closeDelimiter line start offset := by
  constructor
  · intro missing offset beyond
    obtain ⟨read, c, behind, rfl, -, beyond⟩ := (overclosedAt_iff cut offset).1 beyond
    have within := (findClose_eq_none_iff differ 0 _).1 missing (read ++ [c]) ⟨behind, by simp⟩
    rw [Overcloses] at beyond
    omega
  · intro nowhere
    rw [Option.eq_none_iff_forall_ne_some]
    rintro ⟨body, following⟩ found
    exact nowhere _ (overclosedAt_first differ cut found).1

/-- What is read up to the end of the search closes no more than it opens. -/
theorem closesWithin_of_reached (differ : openDelimiter ≠ closeDelimiter) {read : Text}
    (rest : Text)
    (reached : ∀ body following,
      findClose openDelimiter closeDelimiter 0 (read ++ rest) = some (body, following) →
        Text.byteLength read ≤ Text.byteLength body) :
    ClosesWithin openDelimiter closeDelimiter 0 read := by
  intro early begins
  cases search : findClose openDelimiter closeDelimiter 0 (read ++ rest) with
  | none =>
    exact (findClose_eq_none_iff differ 0 _).1 search early
      (begins.trans (List.prefix_append read rest))
  | some found =>
    obtain ⟨body, following⟩ := found
    obtain ⟨split, paired⟩ := (findClose_eq_some_iff_paired differ _ _ _).1 search
    have inside : read <+: body :=
      Text.prefix_of_byteLength_le (List.prefix_append read rest) ⟨_, split.symm⟩
        (reached body following search)
    exact paired.closesWithin differ early (begins.trans inside)

/-- The offset that is found is the first one at which more is closed than opened. -/
theorem closeOffset?_eq_some_iff_first (differ : openDelimiter ≠ closeDelimiter)
    (cut : line.cut? start = some (before, t)) (offset : Nat) :
    closeOffset? openDelimiter closeDelimiter line start = some offset ↔
      OverclosedAt openDelimiter closeDelimiter line start offset ∧
        ∀ other, OverclosedAt openDelimiter closeDelimiter line start other → offset ≤ other := by
  rw [closeOffset?_eq_some_iff cut]
  constructor
  · rintro ⟨body, following, found, rfl⟩
    exact overclosedAt_first differ cut found
  · rintro ⟨beyond, first⟩
    cases search : findClose openDelimiter closeDelimiter 0 t with
    | none =>
      exact absurd beyond ((findClose_eq_none_iff_overclosedAt differ cut).1 search offset)
    | some found =>
      obtain ⟨here, least⟩ := overclosedAt_first differ cut search
      exact ⟨found.1, found.2, rfl, Nat.le_antisymm (first _ here) (least offset beyond)⟩

/-- Behind an opening delimiter that the search passes, another search ends earlier. -/
theorem exists_earlier_close (differ : openDelimiter ≠ closeDelimiter)
    {read inside rest following : Text}
    (closed : Paired openDelimiter closeDelimiter inside) :
    ∃ earlier,
      closeOffset? openDelimiter closeDelimiter
        (before ++ (read ++ openDelimiter :: (inside ++ closeDelimiter :: rest) ++ following))
        (Text.byteLength before + Text.byteLength (read ++ [openDelimiter])) = some earlier ∧
      earlier < Text.byteLength before +
        Text.byteLength (read ++ openDelimiter :: (inside ++ closeDelimiter :: rest)) := by
  have innerCut : Text.cut?
      (before ++ (read ++ openDelimiter :: (inside ++ closeDelimiter :: rest) ++ following))
      (Text.byteLength before + Text.byteLength (read ++ [openDelimiter])) =
        some (before ++ (read ++ [openDelimiter]),
          inside ++ closeDelimiter :: (rest ++ following)) :=
    (Text.cut?_eq_some_iff _ _ _ _).2 ⟨by simp, Text.byteLength_append _ _⟩
  have found := (findClose_eq_some_iff_paired differ _ _ _).2
    ⟨(rfl : inside ++ closeDelimiter :: (rest ++ following) = _), closed⟩
  refine ⟨_, (closeOffset?_eq_some_iff innerCut _).2 ⟨inside, _, found, rfl⟩, ?_⟩
  have positive := closeDelimiter.utf8Size_pos
  simp only [Text.byteLength_append, Text.byteLength]
  omega

end

/-- The search for a closing delimiter from an offset of a line on finds the first offset at which
more is closed than opened, and nothing if there is none. What stands before it is text in pairs:
no beginning closes more than it opens, every opening delimiter is closed in it, and a search from
behind one of them ends earlier. As far as the search goes, the pairs that it counts as open are
those opened less those closed, and these are never more. -/
theorem closing_delimiter_matches (differ : openDelimiter ≠ closeDelimiter)
    {line before t : Text} {start : Nat} (cut : line.cut? start = some (before, t)) :
    (∀ offset, closeOffset? openDelimiter closeDelimiter line start = some offset ↔
      OverclosedAt openDelimiter closeDelimiter line start offset ∧
        ∀ other, OverclosedAt openDelimiter closeDelimiter line start other → offset ≤ other) ∧
    (closeOffset? openDelimiter closeDelimiter line start = none ↔
      ∀ offset, ¬OverclosedAt openDelimiter closeDelimiter line start offset) ∧
    (∀ offset, closeOffset? openDelimiter closeDelimiter line start = some offset →
      ∃ body, line.slice? start offset = some body ∧ Paired openDelimiter closeDelimiter body ∧
        (∀ read, read <+: body → ¬Overcloses openDelimiter closeDelimiter read) ∧
        ∀ read inner, body = read ++ openDelimiter :: inner →
          (∃ inside rest, inner = inside ++ closeDelimiter :: rest ∧
            Paired openDelimiter closeDelimiter inside) ∧
          ∃ earlier, closeOffset? openDelimiter closeDelimiter line
              (start + Text.byteLength (read ++ [openDelimiter])) = some earlier ∧
            earlier < offset) ∧
    ∀ read rest, t = read ++ rest →
      (∀ offset, closeOffset? openDelimiter closeDelimiter line start = some offset →
        start + Text.byteLength read ≤ offset) →
      read.count closeDelimiter ≤ read.count openDelimiter ∧
        findClose openDelimiter closeDelimiter 0 t =
          (findClose openDelimiter closeDelimiter
            (read.count openDelimiter - read.count closeDelimiter) rest).map
              fun (body, following) => (read ++ body, following) := by
  refine ⟨closeOffset?_eq_some_iff_first differ cut, ?_, ?_, ?_⟩
  · rw [closeOffset?_eq_none_iff cut]
    exact findClose_eq_none_iff_overclosedAt differ cut
  · intro offset isFound
    obtain ⟨body, following, found, rfl⟩ := (closeOffset?_eq_some_iff cut offset).1 isFound
    obtain ⟨rfl, rfl⟩ := (Text.cut?_eq_some_iff _ _ _ _).1 cut
    obtain ⟨rfl, paired⟩ := (findClose_eq_some_iff_paired differ _ _ _).1 found
    refine ⟨body, ?_, paired, ?_, ?_⟩
    · exact (Text.slice?_eq_some_iff _ _ _ _).2
        ⟨before, closeDelimiter :: following, by simp, rfl, rfl⟩
    · intro read begins beyond
      have within := paired.closesWithin differ read begins
      rw [Overcloses] at beyond
      omega
    · rintro read inner rfl
      obtain ⟨inside, rest, rfl, closed⟩ := paired.exists_close differ rfl
      exact ⟨⟨inside, rest, rfl, closed⟩, exists_earlier_close differ closed⟩
  · rintro read rest rfl reached
    have within : ClosesWithin openDelimiter closeDelimiter 0 read := by
      refine closesWithin_of_reached differ rest fun body following found => ?_
      have bounded := reached _ ((closeOffset?_eq_some_iff cut _).2 ⟨body, following, found, rfl⟩)
      omega
    refine ⟨by simpa using within read (List.prefix_refl read), ?_⟩
    simpa using findClose_append_of_closesWithin differ within rest

/-- A marker with a pair inside of it, behind a letter of two bytes, closes behind that pair. -/
theorem close_behind_inner_pair :
    '(' ≠ ')' ∧ Text.cut? "$(ä(b)c)d)".toList 2 = some ("$(".toList, "ä(b)c)d)".toList) ∧
      closeOffset? '(' ')' "$(ä(b)c)d)".toList 2 = some 8 ∧ Paired '(' ')' "ä(b)c".toList ∧
      ∃ earlier, closeOffset? '(' ')' "$(ä(b)c)d)".toList 5 = some earlier ∧ earlier < 8 := by
  have differ : '(' ≠ ')' := by decide
  have cut : Text.cut? "$(ä(b)c)d)".toList 2 = some ("$(".toList, "ä(b)c)d)".toList) := by
    decide +kernel
  have found : closeOffset? '(' ')' "$(ä(b)c)d)".toList 2 = some 8 := by decide +kernel
  obtain ⟨-, -, matched, -⟩ := closing_delimiter_matches differ cut
  obtain ⟨body, sliced, paired, -, inner⟩ := matched 8 found
  obtain rfl : "ä(b)c".toList = body := by
    have same : Text.slice? "$(ä(b)c)d)".toList 2 8 = some "ä(b)c".toList := by decide +kernel
    exact Option.some.inj (same.symm.trans sliced)
  exact ⟨differ, cut, found, paired, (inner ['ä'] "b)c".toList rfl).2⟩

end InputDeck
