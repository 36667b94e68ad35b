import InputDeck.Proofs.Text.Trimming
import InputDeck.Proofs.Template.DeclaredSlots

/-!
# Markers inside markers

Only slots stand inside a formula, and no marker begins inside the declaration of a slot: such a
deck is malformed. The name of a slot is not looked into. A prefix and the opening delimiter may
stand there, and they then go with the name, also where the slot itself stands inside a formula.
White space is cut off from a declaration before it is looked into, so a prefix or delimiter that
is white space escapes as well.
-/

namespace InputDeck

namespace MarkerStyle

/-- One of the two prefixes. -/
def IsMark (style : MarkerStyle) (mark : Char) : Prop :=
  mark = style.variableMark ∨ mark = style.formulaMark

/-- In a text a character stands before the opening delimiter, behind `before`. -/
def OpensBehind (style : MarkerStyle) (mark : Char) (before t : Text) : Prop :=
  ∃ after, t = before ++ mark :: style.openDelimiter :: after

/-- In a text a prefix stands before the opening delimiter. -/
def HasOpening (style : MarkerStyle) (t : Text) : Prop :=
  ∃ mark, style.IsMark mark ∧ [mark, style.openDelimiter] <:+: t

/-- Neither a prefix nor the opening delimiter is white space or a tilde. -/
structure Plain (style : MarkerStyle) : Prop where
  visibleMark : ∀ mark, style.IsMark mark → Text.isBlank mark = false
  visibleDelimiter : Text.isBlank style.openDelimiter = false
  tildeNoMark : ∀ mark, style.IsMark mark → mark ≠ '~'
  tildeNoDelimiter : style.openDelimiter ≠ '~'

variable {style : MarkerStyle} {mark : Char}

/-- An opening stands behind some text. -/
theorem hasOpening_iff (t : Text) :
    style.HasOpening t ↔ ∃ mark before, style.IsMark mark ∧ style.OpensBehind mark before t := by
  constructor
  · rintro ⟨mark, isMark, before, after, rfl⟩
    exact ⟨mark, before, isMark, after, by simp⟩
  · rintro ⟨mark, before, isMark, after, rfl⟩
    exact ⟨mark, isMark, before, after, by simp⟩

/-- An opening is found in every text that has it inside. -/
theorem HasOpening.mono {t whole : Text} (opens : style.HasOpening t) (inside : t <:+: whole) :
    style.HasOpening whole := by
  obtain ⟨mark, isMark, found⟩ := opens
  exact ⟨mark, isMark, found.trans inside⟩

/-- Trimming leaves every opening that is no white space. -/
theorem Plain.hasOpening_trim_iff (plain : style.Plain) (t : Text) :
    style.HasOpening (Text.trim t) ↔ style.HasOpening t := by
  refine exists_congr fun mark => and_congr_right fun isMark => ?_
  exact Text.neighbours_trim_iff (plain.visibleMark mark isMark) plain.visibleDelimiter t

end MarkerStyle

namespace Slot.Declared

variable {style : MarkerStyle} {s : Slot} {mark : Char} {before : Text}

/-- An opening between the delimiters of a slot does not stand behind the first tilde, where the
declaration would hold it, unless trimming the declaration takes a part of it away. -/
theorem opening_in_name (declared : s.Declared style) (isMark : style.IsMark mark)
    (opens : style.OpensBehind mark before s.body) :
    '~' ∉ before ∨ Text.isBlank mark = true ∨ Text.isBlank style.openDelimiter = true := by
  obtain ⟨after, written⟩ := opens
  cases declared with
  | bare whole _ =>
    simp only at written
    rw [written] at whole
    exact .inl fun tilde => whole (List.mem_append_left _ tilde)
  | @declaring nameText declarationText _ first _ _ unmarked _ =>
    simp only at written
    by_contra escapes
    simp only [not_or, not_not, Bool.not_eq_true] at escapes
    obtain ⟨tilde, visibleMark, visibleDelimiter⟩ := escapes
    have inside : [mark, style.openDelimiter] <:+: declarationText := by
      rcases List.append_eq_append_iff.1 written with ⟨later, rfl, behind⟩ | ⟨within, rfl, -⟩
      · cases later with
        | nil =>
          rw [List.append_nil] at tilde
          exact absurd tilde first
        | cons c later =>
          obtain ⟨-, rfl⟩ := List.cons.inj behind
          exact ⟨later, after, by simp⟩
      · exact absurd (List.mem_append_left _ tilde) first
    exact unmarked mark isMark ((Text.neighbours_trim_iff visibleMark visibleDelimiter _).2 inside)

/-- With plain marks the text between the delimiters has an opening exactly if the name has one. -/
theorem hasOpening_iff (declared : s.Declared style) (plain : style.Plain) :
    style.HasOpening s.body ↔ style.HasOpening s.name := by
  constructor
  · intro opens
    obtain ⟨mark, before, isMark, opensBehind⟩ := (MarkerStyle.hasOpening_iff _).1 opens
    have inName := declared.opening_in_name isMark opensBehind
    rw [plain.visibleMark mark isMark, plain.visibleDelimiter] at inName
    have noTilde : '~' ∉ before := inName.resolve_right (by simp)
    cases declared with
    | bare _ _ => exact (plain.hasOpening_trim_iff _).2 opens
    | @declaring nameText declarationText _ _ _ _ _ _ =>
      obtain ⟨after, written⟩ := opensBehind
      refine (plain.hasOpening_trim_iff _).2 ⟨mark, isMark, ?_⟩
      -- Neither character of the opening is the tilde, so all of it stands before the tilde.
      have opening : '~' ∉ before ++ [mark, style.openDelimiter] := by
        simp [noTilde, (plain.tildeNoMark mark isMark).symm, plain.tildeNoDelimiter.symm]
      have split : nameText ++ '~' :: declarationText =
          before ++ [mark, style.openDelimiter] ++ after := by
        simpa using written
      rcases List.append_eq_append_iff.1 split with ⟨later, same, behind⟩ | ⟨within, rfl, -⟩
      · cases later with
        | nil =>
          rw [List.append_nil] at same
          exact ⟨before, [], by simp [same]⟩
        | cons c later =>
          obtain ⟨rfl, -⟩ := List.cons.inj behind
          rw [same] at opening
          exact absurd (by simp) opening
      · exact ⟨before, within, rfl⟩
  · cases declared with
    | bare _ _ => exact (plain.hasOpening_trim_iff _).1
    | @declaring nameText declarationText _ _ _ _ _ _ =>
      intro opens
      exact ((plain.hasOpening_trim_iff _).1 opens).mono ⟨[], '~' :: declarationText, rfl⟩

end Slot.Declared

/-- A prefix of formulas before an opening delimiter stands between the delimiters of a slot, or
behind the slot: what is around the text of a slot neither is this prefix nor opens. -/
theorem Slot.opens_or_behind {style : MarkerStyle} {s : Slot} {rest before after : Text}
    (written : s.source style ++ rest =
      before ++ style.formulaMark :: style.openDelimiter :: after) :
    (∃ inner, before = style.variableMark :: style.openDelimiter :: inner ∧
        style.OpensBehind style.formulaMark inner s.body) ∨
      ∃ later, before = s.source style ++ later ∧
        rest = later ++ style.formulaMark :: style.openDelimiter :: after := by
  obtain ⟨notOpen, notClose⟩ := style.formulaMark_not_delimiter
  have unfolded : style.variableMark :: style.openDelimiter ::
      (s.body ++ style.closeDelimiter :: rest) =
        before ++ style.formulaMark :: style.openDelimiter :: after := by
    simpa [source] using written
  rcases before with _ | ⟨first, _ | ⟨second, inner⟩⟩
  · exact absurd (List.cons.inj unfolded).1 style.marks_differ
  · exact absurd (List.cons.inj (List.cons.inj unfolded).2).1.symm notOpen
  · simp only [List.cons_append, List.cons.injEq] at unfolded
    obtain ⟨rfl, rfl, tail⟩ := unfolded
    rcases List.append_eq_append_iff.1 tail with ⟨later, rfl, behind⟩ | ⟨within, same, behind⟩
    · cases later with
      | nil => exact absurd (List.cons.inj behind).1.symm notClose
      | cons closing later =>
        obtain ⟨rfl, rfl⟩ := List.cons.inj behind
        exact .inr ⟨later, by simp [source], rfl⟩
    · rcases within with _ | ⟨mark, _ | ⟨delimiter, within⟩⟩
      · exact absurd (List.cons.inj behind).1 notClose
      · exact absurd (List.cons.inj (List.cons.inj behind).2).1 style.delimiters_differ
      · simp only [List.cons_append, List.cons.injEq] at behind
        obtain ⟨rfl, rfl, -⟩ := behind
        exact .inl ⟨inner, rfl, within, same⟩

/-- In the body of a formula every prefix of formulas before an opening delimiter stands between the
delimiters of a slot. -/
theorem Part.exists_slot_opens {style : MarkerStyle} {parts : List Part} {before : Text}
    (scanned : Scanned style parts)
    (opens : style.OpensBehind style.formulaMark before (Piece.body style parts)) :
    ∃ earlier s later inner, parts = earlier ++ .slot s :: later ∧
      before = Piece.body style earlier ++ style.variableMark :: style.openDelimiter :: inner ∧
      style.OpensBehind style.formulaMark inner s.body := by
  obtain ⟨after, written⟩ := opens
  induction scanned generalizing before with
  | nil => simp [Piece.body] at written
  | @char c parts plain _ inductionHypothesis =>
    obtain ⟨behind, rfl, rest⟩ := MarkerStyle.exists_behind_plain (.inr rfl) plain written
    obtain ⟨earlier, s, later, inner, rfl, rfl, opens⟩ := inductionHypothesis rest
    exact ⟨.char c :: earlier, s, later, inner, rfl, rfl, opens⟩
  | @slot s parts _ _ _ inductionHypothesis =>
    rcases s.opens_or_behind written with ⟨inner, rfl, opens⟩ | ⟨behind, rfl, rest⟩
    · exact ⟨[], s, parts, inner, rfl, rfl, opens⟩
    · obtain ⟨earlier, other, later, inner, rfl, rfl, opens⟩ := inductionHypothesis rest
      exact ⟨.slot s :: earlier, other, later, inner, rfl, by simp [Piece.body, source], opens⟩

namespace Line

variable {style : MarkerStyle} {t : Text} {lines : List Line}

/-- Raw lines that are not read have a malformed marker. -/
theorem malformed_of_ofRaws? {number : Nat} {raws : List Text} {error : TemplateError}
    (failed : ofRaws? style number raws = .error error) :
    ∃ line column fault, error = .malformedMarker line column fault := by
  induction raws generalizing number with
  | nil => cases failed
  | cons raw rest inductionHypothesis =>
    unfold ofRaws? at failed
    split at failed
    · cases failed
      exact ⟨_, _, _, rfl⟩
    · exact inductionHypothesis ((map_eq_error_iff _ _ _).1 failed)

/-- A prefix of formulas that opens in the body of a reported formula stands between the delimiters
of a reported slot in this body. -/
theorem exists_slot_opens {place : Position} {parts : List Part} {before : Text}
    (scanned : scan style t = .ok lines)
    (member : (place, .formula parts) ∈ located style 0 1 lines)
    (opens : style.OpensBehind style.formulaMark before (Piece.body style parts)) :
    ∃ s ∈ (Piece.formula parts).slots style place, ∃ (slot : Slot) (inner : Text),
      s.name = slot.name ∧ slot.Declared style ∧ s.Encloses style t slot.body ∧
        style.OpensBehind style.formulaMark inner slot.body ∧
          ((place.advance [style.formulaMark, style.openDelimiter]).advance before).offset =
            s.span.start +
              Text.byteLength (style.variableMark :: style.openDelimiter :: inner) := by
  obtain ⟨pieces, rowScanned, inRow⟩ :=
    exists_scanned_row scanned member (fun _ => Piece.noConfusion)
  obtain ⟨earlier, slot, later, inner, rfl, rfl, inSlot⟩ :=
    Part.exists_slot_opens (rowScanned.inside inRow) opens
  have declared : slot.Declared style :=
    declared_of_mem_located scanned member (s := slot) (by simp [Piece.HasSlot])
  let inside := place.advance [style.formulaMark, style.openDelimiter]
  let here := inside.advance (Piece.body style earlier)
  have isPart : (here, Part.slot slot) ∈
      inside.locate (Part.source style) (earlier ++ .slot slot :: later) :=
    (Position.mem_locate_iff _ _ _ _).2 ⟨earlier, later, rfl, rfl⟩
  have written : (Piece.formula (earlier ++ .slot slot :: later)).source style =
      [style.formulaMark, style.openDelimiter] ++ Piece.body style earlier ++
        slot.source style ++ (Piece.body style later ++ [style.closeDelimiter]) := by
    simp [Piece.source, Piece.body, Part.source]
  have holds := holds_of_mem_located member
  rw [source_of_scan scanned, written] at holds
  have slotHolds := Position.holds_part holds
  rw [Position.advance_append] at slotHolds
  refine ⟨slot.occurrence style here, List.mem_filterMap.2 ⟨_, isPart, rfl⟩, slot, inner, rfl,
    declared, slotHolds, inSlot, ?_⟩
  rw [Position.advance_append]
  rfl

/-- A deck is malformed, or prefixes before the opening delimiter are hidden in names alone. Such a
prefix between the delimiters of a slot does not stand behind the first tilde, white space as a
prefix or delimiter apart; with plain marks it stands in the name. A prefix of formulas in the body
of a formula stands between the delimiters of a slot there. -/
theorem openings_hide_in_names (style : MarkerStyle) (t : Text) :
    (∃ number column fault, scan style t = .error (.malformedMarker number column fault)) ∨
      ∃ lines, scan style t = .ok lines ∧
        (∀ s ∈ slots style lines, ∃ content, s.Encloses style t content ∧
          (∀ mark before, style.IsMark mark → style.OpensBehind mark before content →
            '~' ∉ before ∨ Text.isBlank mark = true ∨ Text.isBlank style.openDelimiter = true) ∧
          (style.Plain → (style.HasOpening content ↔ style.HasOpening s.name))) ∧
        ∀ f ∈ formulas style lines, ∃ content, f.body.Holds t content ∧
          ∀ before, style.OpensBehind style.formulaMark before content →
            ∃ s ∈ slots style lines, f.body.contains s.span = true ∧
              (∃ slotContent inner, s.Encloses style t slotContent ∧
                style.OpensBehind style.formulaMark inner slotContent ∧
                f.body.start + Text.byteLength before = s.span.start +
                  Text.byteLength (style.variableMark :: style.openDelimiter :: inner)) ∧
              (style.Plain → style.HasOpening s.name) := by
  cases scanned : scan style t with
  | error error =>
    obtain ⟨number, column, fault, rfl⟩ := malformed_of_ofRaws? scanned
    exact .inl ⟨number, column, fault, rfl⟩
  | ok lines =>
    refine .inr ⟨lines, rfl, ?_, ?_⟩
    · intro s member
      obtain ⟨place, slot, rfl, holds, declared⟩ := exists_declared_slot scanned member
      exact ⟨slot.body, holds, fun mark before => declared.opening_in_name,
        declared.hasOpening_iff⟩
    · intro f member
      obtain ⟨place, piece, located, formulaOf⟩ := (mem_formulas_iff _ _ _).1 member
      obtain ⟨parts, rfl, rfl⟩ := (Piece.mem_formulas_iff _ _ _ _).1 formulaOf
      refine ⟨Piece.body style parts, body_holds scanned located, ?_⟩
      intro before opens
      obtain ⟨s, slotOf, slot, inner, named, declared, encloses, inSlot, offset⟩ :=
        exists_slot_opens scanned located opens
      have reported := (mem_slots_iff _ _ _).2 ⟨place, _, located, slotOf⟩
      refine ⟨s, reported, Piece.slot_part_of_body slotOf,
        ⟨slot.body, inner, encloses, inSlot, offset⟩, ?_⟩
      intro plain
      rw [named]
      refine (declared.hasOpening_iff plain).1 ?_
      exact (MarkerStyle.hasOpening_iff _).2 ⟨_, inner, .inr rfl, inSlot⟩

/-- A slot in the name of a slot is read as a part of the name, and so is a formula in the name of a
slot inside a formula. -/
theorem markers_hidden_in_names :
    (∃ lines, scan .standard "$\x7ba$\x7bb\x7d\x7d".toList = .ok lines ∧
      ∃ s ∈ slots .standard lines, s.name = "a$\x7bb\x7d".toList ∧
        s.Encloses .standard "$\x7ba$\x7bb\x7d\x7d".toList "a$\x7bb\x7d".toList ∧
        MarkerStyle.standard.OpensBehind '$' ['a'] "a$\x7bb\x7d".toList) ∧
    ∃ lines, scan .standard "@\x7b2*$\x7ba@\x7b1\x7d\x7d\x7d".toList = .ok lines ∧
      ∃ f ∈ formulas .standard lines,
        f.body.Holds "@\x7b2*$\x7ba@\x7b1\x7d\x7d\x7d".toList "2*$\x7ba@\x7b1\x7d\x7d".toList ∧
        MarkerStyle.standard.OpensBehind '@' "2*$\x7ba".toList "2*$\x7ba@\x7b1\x7d\x7d".toList := by
  have slotScanned : scan .standard "$\x7ba$\x7bb\x7d\x7d".toList = .ok
      [⟨[.slot ⟨"a$\x7bb\x7d".toList, "a$\x7bb\x7d".toList, .unconstrained⟩], []⟩] := by decide +kernel
  have formulaScanned : scan .standard "@\x7b2*$\x7ba@\x7b1\x7d\x7d\x7d".toList = .ok
      [⟨[.formula [.char '2', .char '*',
        .slot ⟨"a@\x7b1\x7d".toList, "a@\x7b1\x7d".toList, .unconstrained⟩]], []⟩] := by decide +kernel
  constructor
  · refine ⟨_, slotScanned, _, List.mem_singleton_self _, rfl, ?_, ?_⟩
    · exact ⟨[], [], rfl, rfl, rfl⟩
    · exact ⟨"b\x7d".toList, rfl⟩
  · refine ⟨_, formulaScanned, _, List.mem_singleton_self _, ?_, ?_⟩
    · exact ⟨"@\x7b".toList, "\x7d".toList, rfl, rfl, rfl⟩
    · exact ⟨"1\x7d\x7d".toList, rfl⟩

end Line

end InputDeck
