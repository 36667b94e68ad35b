import InputDeck.Proofs.Text.Trimming
import InputDeck.Proofs.Template.Declarations
import InputDeck.Proofs.Template.DeclaredSlots

/-!
# Domains and the declarations they are read from

A declaration in square brackets is an interval, one in braces is a set, and any other is a literal.
The parts of an interval are its ends, in order, and a default between them if there are three; the
parts of a set are not empty. What a variable of a deck is declared to take is written in one of its
slots.
-/

namespace InputDeck

namespace Slot

/-- What stands between a first and a last character is enclosed by them. -/
theorem eq_of_enclosed? {first last : Char} {t content : Text}
    (enclosed : enclosed? first last t = some content) : t = first :: (content ++ [last]) := by
  cases t with
  | nil => cases enclosed
  | cons c rest =>
    rw [enclosed?] at enclosed
    split at enclosed
    · rename_i ends
      cases enclosed
      rw [ends.1, List.dropLast_append_getLast? last ends.2]
    · cases enclosed

/-- The parts of an interval or of a set, which commas separate. -/
def elements (content : Text) : List Text := (Text.splitOnChar ',' content).map Text.trim

/-- There is at least one part. -/
theorem elements_ne_nil (content : Text) : elements content ≠ [] := by
  rw [elements, ne_eq, List.map_eq_nil_iff]
  exact Text.splitOnChar_ne_nil ',' content

/-- A part has no white space at its ends. -/
theorem trim_of_mem_elements {content part : Text} (member : part ∈ elements content) :
    Text.trim part = part := by
  obtain ⟨t, -, rfl⟩ := List.mem_map.1 member
  exact Text.trim_trim t

end Slot

namespace Domain

/-- The numbers of an interval. -/
def numbers : Domain → List Float
  | range low high preset => low :: high :: preset.toList
  | _ => []

/-- The declaration that a domain is read from. -/
inductive WrittenAs : Text → Domain → Prop
  /-- A literal is not in brackets. -/
  | fixed {literal : Text} (noInterval : Slot.enclosed? '[' ']' literal = none)
      (noSet : Slot.enclosed? '\x7b' '\x7d' literal = none) : WrittenAs literal (.fixed literal)
  /-- The ends of an interval are in order, with its default between them. -/
  | range {content : Text} {low high : Float} {preset : Option Float}
      (reads : List.Forall₂ (fun part x => Slot.rangePart? part = .ok x) (Slot.elements content)
        (numbers (.range low high preset)))
      (ordered : ¬high < low) (within : ∀ x ∈ preset, ¬x < low ∧ ¬high < x) :
      WrittenAs ('[' :: (content ++ [']'])) (.range low high preset)
  /-- The elements of a set are not empty. -/
  | set {content : Text} (nonempty : ∀ item ∈ Slot.elements content, item ≠ []) :
      WrittenAs ('\x7b' :: (content ++ ['\x7d'])) (.set (Slot.elements content))

/-- An interval is read from its content. -/
theorem writtenAs_of_range? {content : Text} {domain : Domain}
    (read : Slot.range? content = .ok domain) :
    domain.WrittenAs ('[' :: (content ++ [']'])) := by
  unfold Slot.range? at read
  split at read
  · rename_i lowPart highPart parts
    obtain ⟨low, lowRead, read⟩ := (bind_eq_ok_iff _ _ _).1 read
    obtain ⟨high, highRead, read⟩ := (bind_eq_ok_iff _ _ _).1 read
    split at read
    · cases read
    · rename_i ordered
      cases read
      refine .range ?_ ordered (by simp)
      rw [Slot.elements, parts]
      exact .cons lowRead (.cons highRead .nil)
  · rename_i lowPart highPart presetPart parts
    obtain ⟨low, lowRead, read⟩ := (bind_eq_ok_iff _ _ _).1 read
    obtain ⟨high, highRead, read⟩ := (bind_eq_ok_iff _ _ _).1 read
    obtain ⟨preset, presetRead, read⟩ := (bind_eq_ok_iff _ _ _).1 read
    split at read
    · cases read
    · rename_i ordered
      split at read
      · cases read
      · rename_i inside
        cases read
        refine .range ?_ ordered (by simpa [not_or] using inside)
        rw [Slot.elements, parts]
        exact .cons lowRead (.cons highRead (.cons presetRead .nil))
  · cases read

/-- A domain is read from its declaration. -/
theorem writtenAs_of_domain? {name declaration : Text} {domain : Domain}
    (stands : Slot.domain? name declaration = .ok domain) : domain.WrittenAs declaration := by
  unfold Slot.domain? at stands
  split at stands
  · rename_i content interval
    rw [Slot.eq_of_enclosed? interval]
    exact writtenAs_of_range? ((mapError_eq_ok_iff _ _ _).1 stands)
  · rename_i noInterval
    split at stands
    · rename_i content set
      simp only at stands
      split at stands
      · cases stands
      · rename_i noneEmpty
        cases stands
        rw [Slot.eq_of_enclosed? set]
        refine .set fun item member empty => noneEmpty ?_
        exact List.any_eq_true.2 ⟨item, member, List.isEmpty_iff.2 empty⟩
    · rename_i noSet
      cases stands
      exact .fixed noInterval noSet

end Domain

/-- A slot has a name without white space at its ends, and it is bare or its domain is read from a
declaration. -/
theorem Slot.Declared.name_and_domain {style : MarkerStyle} {slot : Slot}
    (declared : slot.Declared style) :
    (slot.name ≠ [] ∧ Text.trim slot.name = slot.name) ∧
      (slot.domain = .unconstrained ∨
        ∃ nameText declarationText, slot.body = nameText ++ '~' :: declarationText ∧
          '~' ∉ nameText ∧ Text.trim declarationText ≠ [] ∧
          slot.domain.WrittenAs (Text.trim declarationText)) := by
  cases declared with
  | bare whole named => exact ⟨⟨named, Text.trim_trim _⟩, .inl rfl⟩
  | declaring first named nonempty unmarked stands =>
    exact ⟨⟨named, Text.trim_trim _⟩,
      .inr ⟨_, _, rfl, first, nonempty, Domain.writtenAs_of_domain? stands⟩⟩

namespace Template

variable {style : MarkerStyle} {t : Text} {template : Template}

/-- What a variable is declared to take is written in one of its slots, unless nothing is
declared. -/
theorem exists_declaring_slot (read : ofText? style t = .ok template) {v : Variable}
    (member : v ∈ template.declared) :
    v.domain = .unconstrained ∨
      ∃ s ∈ template.slots, s.name = v.name ∧ s.domain = v.domain := by
  have merged := (Variable.merged_of_collect (collect_of_ofText? read)).1
  have domain := merged.domain_eq member
  cases found : Declaration.first? v.name (template.slots.map SlotOccurrence.declaration) with
  | none =>
    rw [found] at domain
    exact .inl domain
  | some first =>
    rw [found] at domain
    obtain ⟨listed, name, -⟩ := Declaration.of_first? found
    obtain ⟨s, slot, rfl⟩ := List.mem_map.1 listed
    exact .inr ⟨s, slot, name, domain.symm⟩

/-- The domain of a variable is read from a declaration in one of its slots, behind the first tilde,
unless nothing is declared. -/
theorem exists_declaration (read : ofText? style t = .ok template) {v : Variable}
    (member : v ∈ template.declared) :
    v.domain = .unconstrained ∨
      ∃ s ∈ template.slots, s.name = v.name ∧ ∃ nameText declarationText,
        s.Encloses style t (nameText ++ '~' :: declarationText) ∧ '~' ∉ nameText ∧
          v.domain.WrittenAs (Text.trim declarationText) := by
  rcases exists_declaring_slot read member with bare | ⟨s, inDeck, name, domain⟩
  · exact .inl bare
  · have reads := reads_of_ofText? read
    have reported := inDeck
    rw [slots, reads.style_eq] at reported
    obtain ⟨place, slot, rfl, holds, declared⟩ := Line.exists_declared_slot reads.scanned reported
    rw [← domain]
    rcases declared.name_and_domain.2 with
      bare | ⟨nameText, declarationText, body, first, -, written⟩
    · exact .inl bare
    · rw [Slot.source, body] at holds
      exact .inr ⟨_, inDeck, name, nameText, declarationText, holds, first, written⟩

end Template

end InputDeck
