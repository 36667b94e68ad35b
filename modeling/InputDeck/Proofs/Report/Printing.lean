import InputDeck.Proofs.Report.Pipelines

/-!
# Reading a printed pipeline

The writer of text between quotes has more escapes than its reader. A tabulator and a newline are
read back from theirs, and so is every character that can be shown alone, a quote and a backslash
included. Of any other escape the reader drops the backslash alone: what was written for a null
character is read as `0`, for a carriage return as `r`, and for any other character as its code point
in braces behind a `u`.

So a printed rule is written as one with texts that were reread, and is read back as itself
exactly if its texts are made of characters that are kept.
-/

namespace InputDeck

namespace Text

/-- A character that is read as itself when it has been written between quotes. -/
def Kept (c : Char) : Prop :=
  c = '\t' ∨ c = '\n' ∨ (isPrintable c = true ∧ extendsGrapheme c = false)

instance (c : Char) : Decidable (Kept c) :=
  inferInstanceAs (Decidable (c = '\t' ∨ c = '\n' ∨ _))

/-- What is read where a character has been written between quotes. -/
def rereadChar (c : Char) : Text := if Kept c then [c] else (quotedChar c).tail

/-- What is read where a text has been written between quotes. -/
def reread (t : Text) : Text := t.flatMap rereadChar

/-- A hexadecimal digit is neither a backslash nor a quote. -/
theorem plain_of_mem_toDigits (n : Nat) : ∀ d ∈ Nat.toDigits 16 n, d ≠ '\\' ∧ d ≠ '"' := by
  have digit : ∀ n < 16, Nat.digitChar n ≠ '\\' ∧ Nat.digitChar n ≠ '"' := by decide
  induction n using Nat.strongRecOn with
  | _ n inductionHypothesis =>
    by_cases small : n < 16
    · rw [Nat.toDigits_of_lt_base small]
      simp [digit n small]
    · rw [Nat.toDigits_of_base_le (by decide) (Nat.le_of_not_lt small)]
      intro d member
      rcases List.mem_append.1 member with early | last
      · exact inductionHypothesis (n / 16) (by omega) d early
      · rw [List.mem_singleton.1 last]
        exact digit (n % 16) (Nat.mod_lt n (by decide))

/-- A character that is not kept is written as a backslash, a character that the reader takes for
itself behind it, and others that are no escapes and no quotes; without the backslash they are not
the character. -/
theorem quotedChar_of_not_kept {c : Char} (lost : ¬Kept c) :
    ∃ letter others, quotedChar c = '\\' :: letter :: others ∧ (letter ≠ 'n' ∧ letter ≠ 't') ∧
      (∀ d ∈ others, d ≠ '\\' ∧ d ≠ '"') ∧ letter :: others ≠ [c] := by
  have code : ∃ letter others, escapedCode c = '\\' :: letter :: others ∧
      (letter ≠ 'n' ∧ letter ≠ 't') ∧ (∀ d ∈ others, d ≠ '\\' ∧ d ≠ '"') ∧
      letter :: others ≠ [c] := by
    refine ⟨'u', '\x7b' :: (Nat.toDigits 16 c.toNat ++ ['\x7d']), rfl, by decide, ?_, by simp⟩
    intro d member
    rcases List.mem_cons.1 member with rfl | inside
    · decide
    · rcases List.mem_append.1 inside with digit | closing
      · exact plain_of_mem_toDigits c.toNat d digit
      · rw [List.mem_singleton.1 closing]
        decide
  unfold quotedChar
  split
  · rename_i null
    subst null
    exact ⟨'0', [], rfl, by decide, by simp, by decide⟩
  split
  · rename_i tabulator
    exact absurd (.inl tabulator) lost
  split
  · rename_i carriageReturn
    subst carriageReturn
    exact ⟨'r', [], rfl, by decide, by simp, by decide⟩
  split
  · rename_i newline
    exact absurd (.inr (.inl newline)) lost
  split
  · rename_i quote
    subst quote
    exact absurd (.inr (.inr (by decide +kernel))) lost
  split
  · rename_i backslash
    subst backslash
    exact absurd (.inr (.inr (by decide +kernel))) lost
  split
  · exact code
  split
  · rename_i alone printable
    exact absurd (.inr (.inr ⟨printable, Bool.eq_false_iff.2 alone⟩)) lost
  · exact code

/-- A character is read as itself exactly if it is kept, and at least one is read for each. -/
theorem rereadChar_cases (c : Char) :
    (Kept c ∧ rereadChar c = [c]) ∨ (¬Kept c ∧ rereadChar c ≠ [c] ∧ rereadChar c ≠ []) := by
  by_cases kept : Kept c
  · exact .inl ⟨kept, if_pos kept⟩
  · obtain ⟨letter, others, written, -, -, changed⟩ := quotedChar_of_not_kept kept
    rw [rereadChar, if_neg kept, written]
    exact .inr ⟨kept, changed, List.cons_ne_nil letter others⟩

/-- Characters are read back one behind the other. -/
theorem reread_cons (c : Char) (rest : Text) :
    reread (c :: rest) = rereadChar c ++ reread rest := List.flatMap_cons

/-- What is read has as many characters as what was written, at least. -/
theorem length_le_reread (t : Text) : t.length ≤ (reread t).length := by
  induction t with
  | nil => exact Nat.le_refl 0
  | cons c rest inductionHypothesis =>
    have positive : 0 < (rereadChar c).length := by
      rcases rereadChar_cases c with ⟨-, same⟩ | ⟨-, -, nonempty⟩
      · simp [same]
      · exact List.length_pos_iff.2 nonempty
    rw [reread_cons, List.length_append, List.length_cons]
    omega

/-- A text is read back as itself exactly if all its characters are kept. -/
theorem reread_eq_self_iff (t : Text) : reread t = t ↔ ∀ c ∈ t, Kept c := by
  induction t with
  | nil => simp [reread]
  | cons c rest inductionHypothesis =>
    rw [List.forall_mem_cons, ← inductionHypothesis, reread_cons]
    rcases rereadChar_cases c with ⟨kept, same⟩ | ⟨lost, changed, nonempty⟩
    · simp [kept, same]
    · -- If more than one character were read here, the whole would be longer than the text.
      refine ⟨?_, fun both => absurd both.1 lost⟩
      intro same
      obtain ⟨d, others, written⟩ := List.exists_cons_of_ne_nil nonempty
      rw [written, List.cons_append] at same
      obtain ⟨rfl, behind⟩ := List.cons.inj same
      have long := length_le_reread rest
      have total := congrArg List.length behind
      rw [List.length_append] at total
      have none : others = [] := List.length_eq_zero_iff.1 (by omega)
      rw [written, none] at changed
      exact absurd rfl changed

end Text

open Text (Kept)

/-- A character that is kept is written between quotes as the reader takes it. -/
theorem WritesQuoted.kept {c : Char} {content written : Text} (kept : Kept c)
    (later : WritesQuoted '"' content written) :
    WritesQuoted '"' (c :: content) (Text.quotedChar c ++ written) := by
  unfold Text.quotedChar
  split
  · rename_i null
    subst null
    exact absurd kept (by decide +kernel)
  split
  · rename_i tabulator
    subst tabulator
    exact .tabulator later
  split
  · rename_i carriageReturn
    subst carriageReturn
    exact absurd kept (by decide +kernel)
  split
  · rename_i newline
    subst newline
    exact .newline later
  split
  · rename_i quote
    subst quote
    exact .escaped (by decide) later
  split
  · rename_i backslash
    subst backslash
    exact .escaped (by decide) later
  rename_i noTabulator _ noNewline noQuote noBackslash
  obtain ⟨printable, alone⟩ := (kept.resolve_left noTabulator).resolve_left noNewline
  rw [if_neg (by simp [alone]), if_pos printable]
  exact .plain ⟨noBackslash, noQuote⟩ later

/-- Characters that are neither backslashes nor quotes are written as they are. -/
theorem WritesQuoted.plain_append {plain content written : Text}
    (allPlain : ∀ d ∈ plain, d ≠ '\\' ∧ d ≠ '"') (later : WritesQuoted '"' content written) :
    WritesQuoted '"' (plain ++ content) (plain ++ written) := by
  induction plain with
  | nil => exact later
  | cons d rest inductionHypothesis =>
    obtain ⟨first, others⟩ := List.forall_mem_cons.1 allPlain
    exact .plain first (inductionHypothesis others)

/-- A text is written between quotes as what is read there. -/
theorem writesQuoted_reread (t : Text) :
    WritesQuoted '"' (Text.reread t) (t.flatMap Text.quotedChar) := by
  induction t with
  | nil => exact .nil
  | cons c rest inductionHypothesis =>
    rw [Text.reread_cons, List.flatMap_cons]
    by_cases kept : Kept c
    · rw [Text.rereadChar, if_pos kept]
      exact inductionHypothesis.kept kept
    · obtain ⟨letter, others, written, noEscape, allPlain, -⟩ := Text.quotedChar_of_not_kept kept
      rw [Text.rereadChar, if_neg kept, written]
      exact .escaped noEscape (inductionHypothesis.plain_append allPlain)

namespace Operation

/-- The operation that is read where an operation has been written. -/
def reread : Operation → Operation
  | grep pattern files => grep (Text.reread pattern) (Text.reread files)
  | get index => get index
  | cut delimiter index => cut (Text.reread delimiter) index
  | replace old new => replace (Text.reread old) (Text.reread new)
  | substring start stop => substring (Text.reread start) (Text.reread stop)
  | asNumeric => asNumeric

/-- All characters of the texts of an operation are kept. -/
def Kept (operation : Operation) : Prop :=
  ∀ t, .text t ∈ operation.arguments → ∀ c ∈ t, Text.Kept c

/-- An operation is read back as itself exactly if the characters of its texts are kept. -/
theorem reread_eq_self_iff (operation : Operation) :
    operation.reread = operation ↔ operation.Kept := by
  cases operation <;> simp [reread, Kept, arguments, Text.reread_eq_self_iff]

/-- What is read has the operator of what was written. -/
theorem operator_reread (operation : Operation) : operation.reread.operator = operation.operator := by
  cases operation <;> rfl

end Operation

/-- A text is written as an argument that may differ from it. -/
theorem writesArgument_quoted (t : Text) : WritesArgument (.text (Text.reread t)) (Text.quoted t) :=
  .text (.inl rfl) (writesQuoted_reread t)

/-- An integer is written as an argument. -/
theorem writesArgument_renderInt (n : Int64) : WritesArgument (.integer n) (renderInt n.toInt) :=
  .integer (writesInteger_renderInt n)

/-- One argument is a row of arguments. -/
theorem writesArguments_one {first : Argument} {written : Text}
    (writes : WritesArgument first written) : WritesArguments [first] written := by
  simpa using WritesArguments.last Text.blank_nil writes Text.blank_nil

/-- Two arguments with a comma and a space between them are a row of arguments. -/
theorem writesArguments_two {first second : Argument} {written later : Text}
    (writes : WritesArgument first written) (writesLater : WritesArgument second later) :
    WritesArguments [first, second] (written ++ [',', ' '] ++ later) := by
  have last := WritesArguments.last Text.blank_space writesLater Text.blank_nil
  simpa using WritesArguments.cons Text.blank_nil writes Text.blank_nil last

/-- The arguments of an operation are written as those that are read. -/
theorem writesArguments_render (operation : Operation) :
    WritesArguments operation.reread.arguments operation.renderArguments := by
  cases operation with
  | grep pattern files =>
    exact writesArguments_two (writesArgument_quoted pattern) (writesArgument_quoted files)
  | get index => exact writesArguments_one (writesArgument_renderInt index)
  | cut delimiter index =>
    exact writesArguments_two (writesArgument_quoted delimiter) (writesArgument_renderInt index)
  | replace old new =>
    exact writesArguments_two (writesArgument_quoted old) (writesArgument_quoted new)
  | substring start stop =>
    exact writesArguments_two (writesArgument_quoted start) (writesArgument_quoted stop)
  | asNumeric => exact .nil Text.blank_nil

/-- A name is one way of writing it. -/
theorem writesName_self (name : Text) : WritesName name name := by
  induction name with
  | nil => exact .nil
  | cons c rest inductionHypothesis => exact .letter rfl inductionHypothesis

/-- An operation is written as the one that is read. -/
theorem writesStage_render (operation : Operation) :
    WritesStage operation.reread operation.render := by
  have named := writesName_self operation.reread.operator.name.toList
  have called := WritesStage.call named Text.blank_nil (writesArguments_render operation)
  rwa [operation.operator_reread, List.nil_append] at called

/-- White space may stand in front of a pipeline. -/
theorem WritesPipeline.behind_gap {chain gap t : Text} {operations : List Operation}
    (blank : Text.Blank gap) (writes : WritesPipeline chain operations t) :
    WritesPipeline chain operations (gap ++ t) := by
  cases writes with
  | last blankBefore one blankBehind =>
    rw [← List.append_assoc]
    exact .last (List.forall_mem_append.2 ⟨blank, blankBefore⟩) one blankBehind
  | cons blankBefore one blankBehind others =>
    rw [← List.append_assoc]
    exact .cons (List.forall_mem_append.2 ⟨blank, blankBefore⟩) one blankBehind others

/-- A pipeline is written as the one that is read. -/
theorem writesPipeline_render {pipeline : List Operation} (nonempty : pipeline ≠ []) :
    WritesPipeline defaultChain (pipeline.map Operation.reread) (renderPipeline pipeline) := by
  induction pipeline with
  | nil => exact absurd rfl nonempty
  | cons first rest inductionHypothesis =>
    cases rest with
    | nil =>
      have written : WritesPipeline defaultChain [first.reread] ([] ++ (first.render ++ [])) :=
        .last Text.blank_nil (writesStage_render first) Text.blank_nil
      simpa [renderPipeline, Text.join] using written
    | cons second others =>
      have later := (inductionHypothesis (List.cons_ne_nil second others)).behind_gap
        Text.blank_space
      have written := WritesPipeline.cons Text.blank_nil (writesStage_render first)
        Text.blank_space later
      simpa [renderPipeline, Text.join, defaultChain] using written

namespace Rule

/-- A text writes one pipeline alone. -/
theorem writesPipeline_unique {chain t : Text} {first second : List Operation}
    (visible : Text.Visible chain) (nonempty : chain ≠ [])
    (writesFirst : WritesPipeline chain first t) (writesSecond : WritesPipeline chain second t) :
    first = second := by
  obtain ⟨found, read, same⟩ := exists_stages_of_writesPipeline visible nonempty writesFirst
  obtain ⟨others, again, alike⟩ := exists_stages_of_writesPipeline visible nonempty writesSecond
  rw [read] at again
  cases again
  rw [← same, ← alike]

/-- A pipeline that is admitted has a first stage. -/
theorem pipeline_ne_nil (rule : Rule) : rule.pipeline ≠ [] := by
  intro empty
  have admitted := rule.admitted
  rw [empty] at admitted
  cases admitted

/-- A printed rule is read as the rule with the operations that are read for its own. -/
theorem ofText?_render_iff (rule other : Rule) :
    ofText? other.output rule.render defaultChain = .ok other ↔
      other.pipeline = rule.pipeline.map Operation.reread := by
  have printed := writesPipeline_render rule.pipeline_ne_nil
  rw [ofText?_eq_ok_iff_writes visible_defaultChain (by decide)]
  constructor
  · exact fun writes => writesPipeline_unique visible_defaultChain (by decide) writes printed
  · intro same
    rw [same]
    exact printed

/-- A printed rule is read back as itself exactly if each character of its texts is a tabulator, a
newline or a character that can be shown alone. -/
theorem printed_rule_reads_back_iff (rule : Rule) :
    ofText? rule.output rule.render defaultChain = .ok rule ↔
      ∀ operation ∈ rule.pipeline, operation.Kept := by
  have pointwise := List.map_inj_left (f := Operation.reread) (g := id) (l := rule.pipeline)
  rw [List.map_id] at pointwise
  rw [ofText?_render_iff, eq_comm, pointwise]
  exact forall₂_congr fun operation _ => operation.reread_eq_self_iff

/-- A carriage return in a printed rule is read as the letter of its escape. -/
theorem printed_return_reads_as_letter :
    ∃ rule other : Rule, rule.pipeline = [.grep "a\rb".toList "*".toList] ∧
      other.pipeline = [.grep "arb".toList "*".toList] ∧
      ofText? rule.output rule.render defaultChain = .ok other ∧ rule ≠ other :=
  ⟨⟨"k".toList, [.grep "a\rb".toList "*".toList], by decide +kernel⟩,
    ⟨"k".toList, [.grep "arb".toList "*".toList], by decide +kernel⟩, rfl, rfl,
    by decide +kernel, by decide +kernel⟩

end Rule

end InputDeck
