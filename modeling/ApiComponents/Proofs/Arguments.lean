import Mathlib.Data.List.Basic
import Mathlib.Data.List.TakeDrop
import ApiComponents.CommandLine.Invocation

/-! # What arguments come to

An option that takes a value takes the argument behind it, if that can be a value and fits; else
the reading ends with a mistake. Whatever options a reading finds were mentioned by an argument, and
a flag without a letter can only be mentioned by its name. From that follows what the arguments of
a command can come to.
-/

namespace ApiComponents.CommandLine

/-! ## Options with values -/

section

variable {topic : Topic} {given later : Given} {argument value : String} {rest : List String}

theorem Given.addOption?_of_new {name : String} {accepts : String → Bool}
    (new : given.options.lookup name = none) (fits : accepts value = true) :
    given.addOption? name accepts value =
      some { given with options := given.options.insert name value } := by
  unfold Given.addOption?
  rw [new, fits, if_neg (by decide)]

theorem Given.addOption?_of_unfit {name : String} {accepts : String → Bool}
    (unfit : accepts value = false) : given.addOption? name accepts value = none := by
  unfold Given.addOption?
  rw [if_pos (.inr (by rw [unfit]; decide))]

theorem readArguments_value {rule : OptionRule} {title : String} {accepts : String → Bool}
    (apart : argument ≠ "--") (mentioned : mention topic.options argument = .option rule none)
    (valued : rule.kind = .value title accepts) (detached : isDetachedValue value = true)
    (added : given.addOption? rule.name accepts value = some later) :
    readArguments topic given (argument :: value :: rest) = readArguments topic later rest := by
  rw [readArguments, if_neg apart, mentioned]
  simp only [valued, detached, if_true, added]

theorem readArguments_misfit {rule : OptionRule} {title : String} {accepts : String → Bool}
    (apart : argument ≠ "--") (mentioned : mention topic.options argument = .option rule none)
    (valued : rule.kind = .value title accepts)
    (misfit : isDetachedValue value = false ∨ given.addOption? rule.name accepts value = none) :
    readArguments topic given (argument :: value :: rest) = .mistake := by
  rw [readArguments, if_neg apart, mentioned]
  rcases misfit with attached | refused
  · simp only [valued, attached, Bool.false_eq_true, if_false]
  · simp only [valued, refused]
    split <;> rfl

/-- The argument can stand for a path behind an option. -/
def StandsForPath (argument : String) : Prop := isDetachedValue argument = true ∧ argument ≠ ""

variable {letter : Char} {name title about : String}

theorem readArguments_path (apart : argument ≠ "--")
    (mentioned : mention topic.options argument = .option (pathOption letter name title about) none)
    (new : given.options.lookup name = none) (path : StandsForPath value) :
    readArguments topic given (argument :: value :: rest) =
      readArguments topic { given with options := given.options.insert name value } rest := by
  refine readArguments_value apart mentioned rfl path.1 ?_
  exact Given.addOption?_of_new new (decide_eq_true path.2)

theorem readArguments_noPath (apart : argument ≠ "--")
    (mentioned : mention topic.options argument = .option (pathOption letter name title about) none)
    (noPath : ¬ StandsForPath value) :
    readArguments topic given (argument :: value :: rest) = .mistake := by
  refine readArguments_misfit apart mentioned rfl ?_
  cases detached : isDetachedValue value with
  | false => exact .inl rfl
  | true =>
      refine .inr (Given.addOption?_of_unfit (decide_eq_false ?_))
      exact fun some => noPath ⟨detached, some⟩

end

/-! ## Commands with an input path -/

theorem ofArguments_of_topic (name : String) {topic : Topic}
    (known : Topic.ofName? name = some topic) (runs : topic.name ≠ Topic.help.name)
    (arguments : List String) :
    Invocation.ofArguments (name :: arguments) = topic.invocation arguments := by
  rw [Invocation.ofArguments, known]
  simp only [if_neg runs]

theorem ofArguments_validate {input : String} (path : StandsForPath input) :
    Invocation.ofArguments ["validate", "-i", input] = .run (.validate input) := by
  have read : readArguments Topic.validate {} ["-i", input] =
      readArguments Topic.validate { options := [("input", input)] } [] :=
    readArguments_path (by decide) rfl rfl path
  rw [ofArguments_of_topic "validate" rfl (by decide), Topic.invocation, read]
  rfl

theorem ofArguments_validate_noPath {input : String} (noPath : ¬ StandsForPath input) :
    Invocation.ofArguments ["validate", "-i", input] = .misuse := by
  have read : readArguments Topic.validate {} ["-i", input] = .mistake :=
    readArguments_noPath (by decide) rfl noPath
  rw [ofArguments_of_topic "validate" rfl (by decide), Topic.invocation, read]

/-- The arguments for an output format, if one is wanted. -/
def formatArguments : Option TextFormat → List String
  | none => []
  | some .yaml => ["--format", "yaml"]
  | some .json => ["--format", "json"]

theorem ofArguments_convert {input : String} (path : StandsForPath input)
    (format : Option TextFormat) :
    Invocation.ofArguments (["convert", "-i", input, "-o", "-"] ++ formatArguments format) =
      .run (.convert (some input) (some "-") format) := by
  have readInput :
      readArguments Topic.convert {} (["-i", input, "-o", "-"] ++ formatArguments format) =
        readArguments Topic.convert { options := [("input", input)] }
          ("-o" :: "-" :: formatArguments format) :=
    readArguments_path (by decide) rfl rfl path
  have apart : "-o" ≠ "--" := by decide
  have dash : StandsForPath "-" := ⟨rfl, by decide⟩
  have readOutput : readArguments Topic.convert { options := [("input", input)] }
        ("-o" :: "-" :: formatArguments format) =
      readArguments Topic.convert
        { options := Entries.insert "output" "-" [("input", input)] } (formatArguments format) :=
    readArguments_path apart rfl rfl dash
  rw [List.cons_append, ofArguments_of_topic "convert" rfl (by decide), Topic.invocation, readInput,
    readOutput]
  rcases format with _ | _ | _
  · rfl
  all_goals
    rw [formatArguments, readArguments_value (by decide) rfl rfl (by decide +kernel)
      (Given.addOption?_of_new rfl rfl)]
    rfl

theorem ofArguments_convert_noPath {input : String} (noPath : ¬ StandsForPath input)
    (format : Option TextFormat) :
    Invocation.ofArguments (["convert", "-i", input, "-o", "-"] ++ formatArguments format) =
      .misuse := by
  have read : readArguments Topic.convert {}
        (["-i", input, "-o", "-"] ++ formatArguments format) = .mistake :=
    readArguments_noPath (by decide) rfl noPath
  rw [List.cons_append, ofArguments_of_topic "convert" rfl (by decide), Topic.invocation, read]

/-! ## Options that are found -/

section

variable {topic : Topic} {given later found : Given} {arguments : List String} {name : String}

theorem Given.lookup_of_addOption? {added value : String} {accepts : String → Bool}
    (adds : given.addOption? added accepts value = some later) (apart : name ≠ added) :
    later.options.lookup name = given.options.lookup name := by
  unfold Given.addOption? at adds
  split at adds
  · cases adds
  · cases adds
    rw [Entries.lookup_insert, if_neg apart]

theorem Given.options_of_addOperand? {rule : Option OperandRule} {text : String}
    (added : given.addOperand? rule text = some later) : later.options = given.options := by
  unfold Given.addOperand? at added
  split at added
  · split at added
    · cases added
      rfl
    · cases added
  · cases added

theorem options_of_readOperands (read : readOperands topic given arguments = .done found) :
    found.options = given.options := by
  fun_induction readOperands topic given arguments with
  | case1 given =>
      cases read
      rfl
  | case2 given text rest later added ih => rw [ih read, Given.options_of_addOperand? added]
  | case3 => cases read

/-- The argument mentions an option of the name; a flag is mentioned without a value. -/
def Mentions (topic : Topic) (argument name : String) : Prop :=
  ∃ rule attached, mention topic.options argument = .option rule attached ∧ rule.name = name ∧
    (rule.kind = .flag → attached = none)

/-- An option that a reading finds was given before or is mentioned by one of its arguments. -/
theorem mentioned_of_readArguments (read : readArguments topic given arguments = .done found)
    (new : given.options.lookup name = none) (present : found.options.lookup name ≠ none) :
    ∃ argument ∈ arguments, Mentions topic argument name := by
  fun_induction readArguments topic given arguments with
  | case1 given =>
      cases read
      exact absurd new present
  | case2 given rest =>
      rw [options_of_readOperands read] at present
      exact absurd new present
  | case4 given text rest _ _ later added ih =>
      rw [← Given.options_of_addOperand? added] at new
      exact List.exists_mem_cons_of_exists (ih read new)
  | case8 given text rest _ rule flag later added mentioned ih =>
      by_cases named : rule.name = name
      · exact ⟨text, List.mem_cons_self, rule, none, mentioned, named, fun _ => rfl⟩
      · rw [← Given.lookup_of_addOption? added (Ne.symm named)] at new
        exact List.exists_mem_cons_of_exists (ih read new)
  | case10 given text rest _ rule title accepts value valued later added mentioned ih =>
      by_cases named : rule.name = name
      · refine ⟨text, List.mem_cons_self, rule, some value, mentioned, named, fun flag => ?_⟩
        rw [valued] at flag
        cases flag
      · rw [← Given.lookup_of_addOption? added (Ne.symm named)] at new
        exact List.exists_mem_cons_of_exists (ih read new)
  | case13 given text _ rule title accepts valued value rest _ later added mentioned ih =>
      by_cases named : rule.name = name
      · exact ⟨text, List.mem_cons_self, rule, none, mentioned, named, fun _ => rfl⟩
      · -- the value is passed over with its option
        rw [← Given.lookup_of_addOption? added (Ne.symm named)] at new
        exact List.exists_mem_cons_of_exists (List.exists_mem_cons_of_exists (ih read new))
  | case3 | case5 | case6 | case7 | case9 | case11 | case12 | case14 | case15 | case16 => cases read

/-- What an argument mentions is one of the options, by its letter or by its name. -/
theorem option_of_mention {options : List OptionRule} {argument : String} {rule : OptionRule}
    {attached : Option String} (mentioned : mention options argument = .option rule attached) :
    rule ∈ options ∧ (rule.letter ≠ none ∨ ∃ text value, argument.toList = '-' :: '-' :: text ∧
      splitValue text = (rule.name.toList, value) ∧ value.map String.ofList = attached) := by
  unfold mention at mentioned
  split at mentioned
  · next text dashes =>
      cases divided : splitValue text with
      | mk front value =>
          cases found : options.find? fun rule => decide (rule.name.toList = front) with
          | none =>
              simp only [divided, found] at mentioned
              cases mentioned
          | some known =>
              simp only [divided, found] at mentioned
              obtain ⟨rfl, values⟩ := Mention.option.inj mentioned
              have named : known.name.toList = front := by simpa using List.find?_some found
              rw [← named] at divided
              exact ⟨List.mem_of_find?_eq_some found, .inr ⟨text, value, dashes, divided, values⟩⟩
  · next letter text _ _ =>
      cases found : options.find? fun rule => decide (rule.letter = some letter) with
      | none =>
          rw [found] at mentioned
          cases mentioned
      | some known =>
          have lettered : known.letter = some letter := by simpa using List.find?_some found
          have same : known = rule := by
            rw [found] at mentioned
            simp only at mentioned
            split at mentioned <;> exact (Mention.option.inj mentioned).1
          rw [← same]
          exact ⟨List.mem_of_find?_eq_some found, .inl (by rw [lettered]; exact nofun)⟩
  · cases mentioned

theorem eq_of_splitValue {text front : List Char} (split : splitValue text = (front, none)) :
    front = text := by
  unfold splitValue at split
  rw [List.span_eq_takeWhile_dropWhile] at split
  have whole : text.takeWhile (fun c => decide (c ≠ '=')) ++ text.dropWhile _ = text :=
    List.takeWhile_append_dropWhile
  cases behind : text.dropWhile (fun c => decide (c ≠ '=')) with
  | nil =>
      rw [behind] at split whole
      cases split
      rw [← List.append_nil (List.takeWhile _ text)]
      exact whole
  | cons c value =>
      have sign : c = '=' := by
        have stops := List.head?_dropWhile_not (fun c => decide (c ≠ '=')) text
        rw [behind] at stops
        simpa using stops
      rw [behind, sign] at split
      cases split

/-- A flag without a letter is mentioned by its name only. -/
theorem eq_of_mention {options : List OptionRule} {argument : String} {rule : OptionRule}
    (mentioned : mention options argument = .option rule none) (noLetter : rule.letter = none) :
    argument = "--" ++ rule.name := by
  rcases (option_of_mention mentioned).2 with lettered | ⟨text, value, dashes, divided, bare⟩
  · exact absurd noLetter lettered
  · rw [Option.map_eq_none_iff.mp bare] at divided
    apply String.toList_injective
    rw [dashes, ← eq_of_splitValue divided, String.toList_append]
    rfl

end

/-! ## What a topic can ask for -/

section

variable {arguments : List String} {command : Command}

/-- A command comes from a reading of the arguments to their end. -/
theorem exists_of_invocation {topic : Topic} (asked : topic.invocation arguments = .run command) :
    ∃ given, readArguments topic {} arguments = .done given ∧
      given.command? topic.name = some command := by
  unfold Topic.invocation at asked
  split at asked
  · next given read =>
      split at asked
      · next command named =>
          cases asked
          exact ⟨given, read, named⟩
      · cases asked
  all_goals cases asked

theorem validate_of_asked (asked : Invocation.ofArguments ("validate" :: arguments) = .run command) :
    ∃ input, command = .validate input := by
  rw [ofArguments_of_topic "validate" rfl (by decide)] at asked
  obtain ⟨given, -, named⟩ := exists_of_invocation asked
  obtain ⟨input, -, rfl⟩ := Option.map_eq_some_iff.mp named
  exact ⟨input, rfl⟩

theorem inspect_of_asked (asked : Invocation.ofArguments ("inspect" :: arguments) = .run command) :
    ∃ input format, command = .inspect input format := by
  rw [ofArguments_of_topic "inspect" rfl (by decide)] at asked
  obtain ⟨given, -, named⟩ := exists_of_invocation asked
  obtain ⟨input, -, rfl⟩ := Option.map_eq_some_iff.mp named
  exact ⟨input, _, rfl⟩

/-- Without the flag that forces it nothing asks to replace a settings file. -/
theorem init_of_asked (unforced : "--force" ∉ arguments)
    (asked : Invocation.ofArguments ("init" :: arguments) = .run command) :
    command = .init false := by
  rw [ofArguments_of_topic "init" rfl (by decide)] at asked
  obtain ⟨given, read, named⟩ := exists_of_invocation asked
  obtain rfl : .init (given.options.lookup "force").isSome = command := Option.some.inj named
  cases forced : given.options.lookup "force" with
  | none => rfl
  | some value =>
      obtain ⟨argument, member, rule, attached, mentioned, force, alone⟩ :=
        mentioned_of_readArguments read rfl (by rw [forced]; exact Option.some_ne_none value)
      have rules : rule ∈ Topic.init.options := (option_of_mention mentioned).1
      rcases List.mem_cons.mp rules with rfl | other
      · cases alone rfl
        have spelled : argument = "--force" := eq_of_mention mentioned rfl
        exact absurd (spelled ▸ member) unforced
      · rw [List.mem_singleton.mp other] at force
        exact absurd force (by decide)

end

end ApiComponents.CommandLine
