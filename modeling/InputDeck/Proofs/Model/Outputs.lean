import Mathlib.Data.List.Nodup
import InputDeck.Json.Description
import InputDeck.Model.Basic
import InputDeck.Proofs.Outcome
import InputDeck.Proofs.Entries
import InputDeck.Proofs.Report.Batches
import InputDeck.Proofs.Report.Pipelines

/-!
# The outputs of a model

Loading a model takes the outputs of its description one after another. An output becomes the rule
that its pipeline reads as, or it is skipped and a notice says so. So every output is in one place:
the rules and the skipped outputs together are the outputs of the description, each of them there
once. A model that was loaded therefore has one rule for a name at most, and what a batch answers
under a name is what the rule of this name answers.
-/

namespace InputDeck

/-- A rule stands under the output it is read for. -/
theorem Rule.output_of_ofText? {output t chain : Text} {rule : Rule}
    (read : Rule.ofText? output t chain = .ok rule) : rule.output = output := by
  unfold Rule.ofText? at read
  split at read
  · cases read
  · split at read
    · cases read
    · exact ((Rule.admit_eq_ok_iff _ _ _ _).1 read).1

/-- The rule of an output of a description, if its pipeline can be read. -/
def Description.ruleOf? (description : Description) (entry : Text × Text) : Option Rule :=
  (Rule.ofText? entry.1 entry.2 description.chain).toOption

/-- The output as it is skipped, if its pipeline cannot be read. -/
def Description.skipOf? (description : Description) (entry : Text × Text) : Option SkippedOutput :=
  match Rule.ofText? entry.1 entry.2 description.chain with
  | .ok _ => none
  | .error error => some ⟨entry.1, error⟩

/-- A notice that an output of a model is skipped. -/
structure SkipNotice where
  model : Text
  skipped : SkippedOutput
deriving DecidableEq

/-- How far loading a model has come. -/
structure Loading where
  rules : List Rule
  skipped : List SkippedOutput
  notices : List SkipNotice

namespace Loading

/-- Loading begins with nothing. -/
def start : Loading := ⟨[], [], []⟩

/-- Takes one more output, as a rule or as a skipped output of which a notice is given. -/
def take (description : Description) (loading : Loading) (entry : Text × Text) : Loading :=
  match Rule.ofText? entry.1 entry.2 description.chain with
  | .ok rule => { loading with rules := loading.rules ++ [rule] }
  | .error error =>
    { loading with
      skipped := loading.skipped ++ [⟨entry.1, error⟩]
      notices := loading.notices ++ [⟨description.id, ⟨entry.1, error⟩⟩] }

/-- Takes outputs one after another. -/
def run (description : Description) (loading : Loading) (entries : List (Text × Text)) : Loading :=
  entries.foldl (take description) loading

/-- What loading has taken of some outputs: the rules of those that can be read, the others as
skipped, and a notice for each of these, all in the order of the outputs. -/
structure HasTaken (description : Description) (entries : List (Text × Text))
    (loading : Loading) : Prop where
  rules_eq : loading.rules = entries.filterMap description.ruleOf?
  skipped_eq : loading.skipped = entries.filterMap description.skipOf?
  notices_eq : loading.notices = loading.skipped.map (⟨description.id, ·⟩)

/-- One more output is taken behind those that were taken before. -/
theorem HasTaken.take {description : Description} {entries : List (Text × Text)}
    {loading : Loading} (taken : loading.HasTaken description entries) (entry : Text × Text) :
    (loading.take description entry).HasTaken description (entries ++ [entry]) := by
  obtain ⟨rules, skipped, notices⟩ := taken
  cases read : Rule.ofText? entry.1 entry.2 description.chain with
  | ok rule =>
    constructor
    · simp [Loading.take, Description.ruleOf?, read, rules, Except.toOption]
    · simp [Loading.take, Description.skipOf?, read, skipped]
    · simp [Loading.take, read, notices]
  | error error =>
    constructor
    · simp [Loading.take, Description.ruleOf?, read, rules, Except.toOption]
    · simp [Loading.take, Description.skipOf?, read, skipped]
    · simp [Loading.take, read, notices]

/-- When loading ends, all outputs are taken. -/
theorem hasTaken_run (description : Description) (entries : List (Text × Text)) :
    (start.run description entries).HasTaken description entries := by
  induction entries using List.reverseRecOn with
  | nil => exact ⟨rfl, rfl, rfl⟩
  | append_singleton entries entry inductionHypothesis =>
    have step := inductionHypothesis.take entry
    rwa [run, List.foldl_concat]

end Loading

namespace Description

variable (description : Description)

/-- Rules are read from the outputs that can be read, and the others are skipped. -/
theorem readRules_eq (entries : List (Text × Text)) :
    Model.readRules description.chain entries =
      (entries.filterMap description.ruleOf?, entries.filterMap description.skipOf?) := by
  induction entries with
  | nil => rfl
  | cons entry rest inductionHypothesis =>
    cases read : Rule.ofText? entry.1 entry.2 description.chain <;>
      simp [Model.readRules, inductionHypothesis, ruleOf?, skipOf?, read, Except.toOption]

/-- An output becomes a rule exactly if its pipeline reads as this rule. -/
theorem ruleOf?_eq_some_iff (entry : Text × Text) (rule : Rule) :
    description.ruleOf? entry = some rule ↔
      Rule.ofText? entry.1 entry.2 description.chain = .ok rule := by
  unfold ruleOf?
  cases Rule.ofText? entry.1 entry.2 description.chain <;> simp [Except.toOption]

/-- An output is skipped exactly with the error of its pipeline. -/
theorem skipOf?_eq_some_iff (entry : Text × Text) (skipped : SkippedOutput) :
    description.skipOf? entry = some skipped ↔
      skipped.output = entry.1 ∧
        Rule.ofText? entry.1 entry.2 description.chain = .error skipped.error := by
  unfold skipOf?
  obtain ⟨output, error⟩ := skipped
  cases Rule.ofText? entry.1 entry.2 description.chain with
  | ok rule => simp
  | error other => simp [eq_comm]

/-- The names of the rules and of the skipped outputs are the names of the outputs, in another
order. -/
theorem names_perm (entries : List (Text × Text)) :
    ((entries.filterMap description.ruleOf?).map Rule.output ++
        (entries.filterMap description.skipOf?).map SkippedOutput.output).Perm
      (entries.map Prod.fst) := by
  induction entries with
  | nil => exact .refl []
  | cons entry rest inductionHypothesis =>
    cases read : Rule.ofText? entry.1 entry.2 description.chain with
    | ok rule =>
      have named : rule.output = entry.1 := Rule.output_of_ofText? read
      simpa [ruleOf?, skipOf?, read, Except.toOption, named] using inductionHypothesis
    | error error =>
      simpa [ruleOf?, skipOf?, read, Except.toOption] using
        List.perm_middle.trans (inductionHypothesis.cons entry.1)

end Description

namespace Model

/-- Among rules with distinct names, the first one found under a name is the one that has it. -/
theorem find?_eq_some_iff_of_distinct {rules : List Rule}
    (distinct : (rules.map Rule.output).Nodup) {name : Text} {isNamed : Rule → Bool}
    (named : ∀ rule, isNamed rule = true ↔ rule.output = name) (rule : Rule) :
    rules.find? isNamed = some rule ↔ rule ∈ rules ∧ rule.output = name := by
  constructor
  · intro found
    exact ⟨List.mem_of_find?_eq_some found, (named rule).1 (List.find?_some found)⟩
  · rintro ⟨member, itsName⟩
    obtain ⟨before, after, rfl⟩ := List.append_of_mem member
    refine List.find?_eq_some_iff_append.2 ⟨(named rule).2 itsName, before, after, rfl, ?_⟩
    intro earlier present
    have apart : earlier.output ≠ rule.output := by
      rw [List.map_append, List.nodup_append] at distinct
      exact distinct.2.2 _ (List.mem_map_of_mem present) _ (by simp)
    simpa [← Bool.not_eq_true, named, itsName] using apart

section Distinct

variable {model : Model} (distinct : (model.rules.map Rule.output).Nodup)

include distinct

/-- A rule is found under its own name, and under no other. -/
theorem rule?_eq_some_iff (name : Text) (rule : Rule) :
    model.rule? name = some rule ↔ rule ∈ model.rules ∧ rule.output = name :=
  find?_eq_some_iff_of_distinct distinct (fun _ => beq_iff_eq) rule

/-- The rule of a name is the last of its name as well as the first. -/
theorem lastRule?_eq_rule? (name : Text) : lastRule? model.rules name = model.rule? name := by
  have distinctBackwards : (model.rules.reverse.map Rule.output).Nodup := by
    rwa [List.map_reverse, List.nodup_reverse]
  apply Option.ext
  intro rule
  rw [rule?_eq_some_iff distinct, lastRule?,
    find?_eq_some_iff_of_distinct distinctBackwards (fun _ => decide_eq_true_iff),
    List.mem_reverse]

/-- A model answers once for each of its rules, in their order. -/
theorem keys_extract (engine : Engine) (workdir : Workdir) :
    (model.extract engine workdir).keys = model.rules.map Rule.output := by
  rw [extract, keys_extractAll]
  exact Entries.eraseDups_of_nodup distinct

/-- A model answers under a name what the rule of the name answers. -/
theorem find?_extract (engine : Engine) (workdir : Workdir) (name : Text) :
    (model.extract engine workdir).find? name =
      (model.rule? name).map fun rule => (rule.extract engine workdir).toOption := by
  rw [extract, find?_extractAll, lastRule?_eq_rule? distinct]

end Distinct

/-- No rule is found under a name that no rule has. -/
theorem rule?_eq_none {model : Model} {name : Text}
    (absent : name ∉ model.rules.map Rule.output) : model.rule? name = none := by
  rw [rule?, List.find?_eq_none]
  intro rule member named
  exact absent (List.mem_map.2 ⟨rule, member, eq_of_beq named⟩)

/-- A model and its skipped outputs are loaded from a description: loading ends with them and has
given one notice for each skipped output, every output is a rule or skipped and not both, and
nothing else is there. -/
structure LoadedFrom (description : Description) (model : Model)
    (skipped : List SkippedOutput) : Prop where
  loading_eq : Loading.start.run description description.outputs.pairs =
    ⟨model.rules, skipped, skipped.map (⟨description.id, ·⟩)⟩
  rules_eq : model.rules = description.outputs.pairs.filterMap description.ruleOf?
  skipped_eq : skipped = description.outputs.pairs.filterMap description.skipOf?
  /-- An output is a rule, the one its pipeline reads as, or it is skipped with the error of its
  pipeline. -/
  placed : ∀ entry ∈ description.outputs.pairs,
    (∃ rule, Rule.ofText? entry.1 entry.2 description.chain = .ok rule ∧ rule ∈ model.rules ∧
        rule.output = entry.1 ∧ entry.1 ∉ skipped.map SkippedOutput.output) ∨
      ∃ error, Rule.ofText? entry.1 entry.2 description.chain = .error error ∧
        ⟨entry.1, error⟩ ∈ skipped ∧ entry.1 ∉ model.rules.map Rule.output
  names_perm : (model.rules.map Rule.output ++ skipped.map SkippedOutput.output).Perm
    description.outputs.keys
  distinct : (model.rules.map Rule.output).Nodup

/-- Reading the outputs of a description loads them. -/
theorem loadedFrom (description : Description) (style : MarkerStyle) :
    LoadedFrom description
      ⟨description.id, style, description.outputs.pairs.filterMap description.ruleOf?⟩
      (description.outputs.pairs.filterMap description.skipOf?) := by
  have perm := description.names_perm description.outputs.pairs
  have distinct := perm.nodup_iff.2 description.outputs.distinct
  obtain ⟨rulesDistinct, -, apart⟩ := List.nodup_append.1 distinct
  refine ⟨?_, rfl, rfl, ?_, perm, rulesDistinct⟩
  · have taken := Loading.hasTaken_run description description.outputs.pairs
    rw [← taken.rules_eq, ← taken.skipped_eq, ← taken.notices_eq]
  · intro entry member
    cases read : Rule.ofText? entry.1 entry.2 description.chain with
    | ok rule =>
      have kept : rule ∈ description.outputs.pairs.filterMap description.ruleOf? :=
        List.mem_filterMap.2 ⟨entry, member, (description.ruleOf?_eq_some_iff entry rule).2 read⟩
      have named := Rule.output_of_ofText? read
      refine .inl ⟨rule, rfl, kept, named, ?_⟩
      intro alsoSkipped
      exact apart _ (List.mem_map_of_mem kept) _ alsoSkipped named
    | error error =>
      have left : ⟨entry.1, error⟩ ∈ description.outputs.pairs.filterMap description.skipOf? :=
        List.mem_filterMap.2
          ⟨entry, member, (description.skipOf?_eq_some_iff entry _).2 ⟨rfl, read⟩⟩
      refine .inr ⟨error, rfl, left, ?_⟩
      intro alsoKept
      exact apart _ alsoKept _ (List.mem_map_of_mem left) rfl

/-- A text that is decoded as a description with a sound style makes a model that keeps every
output, whatever the decoder. Each output is its rule or is skipped with its error, in the order of
the description, and a notice is given for each skipped one. No two rules share a name, so with
every engine for expressions the model answers in every directory under the names of its rules, in
their order, each with what its own rule finds. -/
theorem loading_keeps_every_output {decoder : Decoder} {t : Text} {description : Description}
    {style : MarkerStyle} (described : decoder.decode? t = some description)
    (styled : MarkerStyle.ofFields? description.variableMark description.formulaMark
      description.delimiters description.commentMark = .ok style) :
    ∃ model skipped, Model.ofText? decoder t = .ok (model, skipped) ∧
      model.id = description.id ∧ model.style = style ∧ LoadedFrom description model skipped ∧
      (∀ engine workdir, (model.extract engine workdir).keys = model.rules.map Rule.output ∧
        ∀ name, (model.extract engine workdir).find? name =
          (model.rule? name).map fun rule => (rule.extract engine workdir).toOption) ∧
      (∀ rule ∈ model.rules, model.rule? rule.output = some rule) ∧
      (∀ one ∈ skipped, model.rule? one.output = none) ∧
      ∀ name, name ∉ description.outputs.keys → model.rule? name = none := by
  have loaded := loadedFrom description style
  refine ⟨_, _, ?_, rfl, rfl, loaded, ?_, ?_, ?_, ?_⟩
  · rw [Model.ofText?, described]
    simp only [ofDescription?, styled, description.readRules_eq]
    rfl
  · intro engine workdir
    exact ⟨keys_extract loaded.distinct engine workdir,
      find?_extract loaded.distinct engine workdir⟩
  · exact fun rule member => (rule?_eq_some_iff loaded.distinct _ rule).2 ⟨member, rfl⟩
  · intro one member
    obtain ⟨entry, present, isSkipped⟩ := List.mem_filterMap.1 member
    obtain ⟨named, failed⟩ := (description.skipOf?_eq_some_iff entry one).1 isSkipped
    rw [named]
    rcases loaded.placed entry present with ⟨rule, read, -⟩ | ⟨error, -, -, absent⟩
    · rw [read] at failed
      cases failed
    · exact rule?_eq_none absent
  · intro name unknown
    apply rule?_eq_none
    intro present
    exact unknown (loaded.names_perm.subset (List.mem_append_left _ present))

/-- A description with an output that can be read and one that cannot. -/
def mixedDescription : Description where
  id := "m".toList
  variableMark := "$".toList
  formulaMark := "@".toList
  delimiters := "\x7b\x7d".toList
  commentMark := "#".toList
  chain := "|".toList
  outputs :=
    ⟨[("t".toList, "get(0)".toList), ("k".toList, "grep(\"a\", \"*\") | get(0)".toList)], by simp⟩

/-- The text of this description. -/
def mixedText : Text :=
  ("\x7b\"id\": \"m\", \"output\": \x7b\"t\": \"get(0)\"," ++
    "\"k\": \"grep(\\\"a\\\", \\\"*\\\") | get(0)\"\x7d\x7d").toList

/-- An output that cannot be read is skipped, and the one behind it is there. -/
theorem loading_skips_one_output :
    Decoder.json.decode? mixedText = some mixedDescription ∧
      MarkerStyle.ofFields? mixedDescription.variableMark mixedDescription.formulaMark
        mixedDescription.delimiters mixedDescription.commentMark = .ok .standard ∧
      ∃ model skipped, Model.ofText? .json mixedText = .ok (model, skipped) ∧
        model.rules.map Rule.output = ["k".toList] ∧
        skipped = [⟨"t".toList, ⟨0, .notSearchFirst .get⟩⟩] ∧
        model.rule? "t".toList = none := by
  have described : Decoder.json.decode? mixedText = some mixedDescription := by decide +kernel
  have styled : MarkerStyle.ofFields? mixedDescription.variableMark mixedDescription.formulaMark
      mixedDescription.delimiters mixedDescription.commentMark = .ok .standard := by decide +kernel
  obtain ⟨model, skipped, read, -, -, loaded, -, -, passed, -⟩ :=
    loading_keeps_every_output described styled
  have skippedOutputs : skipped = [⟨"t".toList, ⟨0, .notSearchFirst .get⟩⟩] := by
    rw [loaded.skipped_eq]
    decide +kernel
  refine ⟨described, styled, model, skipped, read, ?_, skippedOutputs, ?_⟩
  · rw [loaded.rules_eq]
    decide +kernel
  · exact passed ⟨"t".toList, ⟨0, .notSearchFirst .get⟩⟩ (by simp [skippedOutputs])

end Model

end InputDeck
