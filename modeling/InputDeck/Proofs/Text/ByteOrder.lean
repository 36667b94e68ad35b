import Mathlib.Data.List.Lex
import Mathlib.Data.Char
import InputDeck.Proofs.Text.Bytes
import InputDeck.Report.Directory

/-!
# The order of texts

Texts are compared character by character and by the codes of the characters, and a text stands
before every longer one that begins with it. A character with a smaller code has smaller bytes:
where two characters have as many bytes, the bits of their codes are compared in order, and where
one has fewer, its first byte is smaller. So the order of texts is also that of their bytes.
-/

namespace InputDeck.Text

/-- Rows of bytes are compared at the first place where their numbers differ. -/
theorem cons_lt_cons {m n : Nat} {bytes others : List UInt8} (first : m < 256) (second : n < 256)
    (less : m < n ∨ m = n ∧ bytes < others) : UInt8.ofNat m :: bytes < UInt8.ofNat n :: others := by
  rw [List.cons_lt_cons_iff, UInt8.lt_iff_toNat_lt, toNat_byte first, toNat_byte second]
  exact less.imp id fun ⟨same, later⟩ => ⟨congrArg _ same, later⟩

/-- The character with the smaller code has the smaller bytes, whatever follows. -/
theorem Spells.append_lt_append {bytes others : List UInt8} {code larger : Nat}
    (spells : Spells bytes code) (spellsLarger : Spells others larger) (less : code < larger)
    (s t : List UInt8) : bytes ++ s < others ++ t := by
  cases spells with
  | one => cases spellsLarger <;> exact cons_lt_cons (by omega) (by omega) (.inl (by omega))
  | @two top low =>
    cases spellsLarger with
    | one => omega
    | @two top' low' =>
      -- as many bytes in both, so the first bits that differ decide
      refine cons_lt_cons (by omega) (by omega) ?_
      by_cases tops : top = top'
      · exact .inr ⟨by omega, cons_lt_cons (by omega) (by omega) (.inl (by omega))⟩
      · exact .inl (by omega)
    | _ => exact cons_lt_cons (by omega) (by omega) (.inl (by omega))
  | @three top middle low =>
    cases spellsLarger with
    | @three top' middle' low' =>
      refine cons_lt_cons (by omega) (by omega) ?_
      by_cases tops : top = top'
      · refine .inr ⟨by omega, cons_lt_cons (by omega) (by omega) ?_⟩
        by_cases middles : middle = middle'
        · exact .inr ⟨by omega, cons_lt_cons (by omega) (by omega) (.inl (by omega))⟩
        · exact .inl (by omega)
      · exact .inl (by omega)
    | four => exact cons_lt_cons (by omega) (by omega) (.inl (by omega))
    | _ => omega
  | @four top upper middle low =>
    cases spellsLarger with
    | @four top' upper' middle' low' =>
      refine cons_lt_cons (by omega) (by omega) ?_
      by_cases tops : top = top'
      · refine .inr ⟨by omega, cons_lt_cons (by omega) (by omega) ?_⟩
        by_cases uppers : upper = upper'
        · refine .inr ⟨by omega, cons_lt_cons (by omega) (by omega) ?_⟩
          by_cases middles : middle = middle'
          · exact .inr ⟨by omega, cons_lt_cons (by omega) (by omega) (.inl (by omega))⟩
          · exact .inl (by omega)
        · exact .inl (by omega)
      · exact .inl (by omega)
    | _ => omega

/-- The smaller text has the smaller bytes. -/
theorem toBytes_lt_toBytes {s t : Text} (less : s < t) : toBytes s < toBytes t := by
  induction less with
  | @nil c rest =>
    obtain ⟨byte, others, written⟩ :=
      List.exists_cons_of_ne_nil (String.utf8EncodeChar_ne_nil (c := c))
    rw [toBytes, toBytes, List.flatMap_nil, List.flatMap_cons, written]
    exact .nil
  | rel less =>
    exact (spells_utf8EncodeChar _).append_lt_append (spells_utf8EncodeChar _) less _ _
  | @cons c s t _ inductionHypothesis =>
    rw [toBytes, toBytes, List.flatMap_cons, List.flatMap_cons]
    exact List.Lex.append_left _ inductionHypothesis _

/-- A text stands before another or is equal to it in the order of the characters. -/
theorem atMost_iff (s t : Text) : atMost s t = true ↔ s ≤ t := by
  rw [← not_lt]
  fun_induction atMost s t with
  | case1 => simp
  | case2 => simp
  | case3 c s d t inductionHypothesis =>
    rw [List.cons_lt_cons_iff, Bool.or_eq_true, Bool.and_eq_true, inductionHypothesis,
      decide_eq_true_iff, beq_iff_eq]
    rcases lt_trichotomy c d with before | rfl | behind
    · simp [before, before.asymm, before.ne']
    · simp
    · simp [behind, behind.asymm, behind.ne']

end InputDeck.Text
