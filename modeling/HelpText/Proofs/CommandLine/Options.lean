import HelpText.CommandLine.Invocation
import Mathlib.Data.List.Induction
import Mathlib.Data.List.Nodup
import Mathlib.Data.List.TakeWhile
import Mathlib.Logic.Function.Basic

/-!
Options and where they stand. An option in one word is told from an operand by the word alone, and
what it says does not depend on what was said before it. Main statement: however options are mixed
with the two directories, the arguments are read as the same, or refused for the same reason.
-/

namespace HelpText

namespace CommandLine

/-- An option in one word: a flag on its own if it takes no value, and otherwise with its value
behind an equals sign. -/
structure Given where
  flag : Flag
  spelling : Text
  value : Option Text := none
  isSpelling : (spelling, flag) ∈ spellings := by decide
  takesValue : value = none ↔ flag.arity = .none := by decide
  isChoice : flag ≠ .help ∧ flag ≠ .version := by decide
  deriving DecidableEq

namespace Given

def word (given : Given) : Text :=
  match given.value with
  | none => given.spelling
  | some value => given.spelling ++ '=' :: value

def found (given : Given) : Found :=
  ⟨given.flag, !separatorWord.isPrefixOf given.spelling, given.value⟩

/-- The word of an option with its role. -/
def sorted (given : Given) : Word := ⟨given.word, .flag given.found⟩

end Given

section Roles

theorem equals_not_mem_spelling : ∀ item ∈ spellings, '=' ∉ item.1 := by decide

theorem flagOf?_spelling : ∀ item ∈ spellings, flagOf? item.1 = some item.2 := by decide

theorem role_spelling : ∀ item ∈ spellings,
    role item.1 = .ok (.flag ⟨item.2, !separatorWord.isPrefixOf item.1, none⟩) := by decide

/-- Flags with a value have long spellings only. -/
theorem exists_long_spelling : ∀ item ∈ spellings, item.2.arity ≠ .none →
    item.1 = '-' :: '-' :: item.1.drop 2 := by decide

theorem role_spelling_value {spelling : Text} {flag : Flag} (h : (spelling, flag) ∈ spellings)
    (harity : flag.arity ≠ .none) (value : Text) :
    role (spelling ++ '=' :: value) =
      .ok (.flag ⟨flag, !separatorWord.isPrefixOf spelling, some value⟩) := by
  have hequals : '=' ∉ spelling := equals_not_mem_spelling _ h
  have hflag : flagOf? spelling = some flag := flagOf?_spelling _ h
  have hlong : spelling = '-' :: '-' :: spelling.drop 2 := exists_long_spelling _ h harity
  -- No flag is spelt with an equals sign, so the word is taken apart at its first one.
  have hnone : flagOf? (spelling ++ '=' :: value) = none := by
    rw [flagOf?, Option.map_eq_none_iff, List.find?_eq_none]
    intro item hitem hword
    have hword : item.1 = spelling ++ '=' :: value := of_decide_eq_true hword
    apply equals_not_mem_spelling item hitem
    rw [hword]
    exact List.mem_append_right _ List.mem_cons_self
  have hbefore : ∀ c ∈ spelling, decide (c ≠ '=') = true := by
    intro c hc
    apply decide_eq_true
    rintro rfl
    exact hequals hc
  have hsplit : splitValue (spelling ++ '=' :: value) = (spelling, some value) := by
    rw [splitValue, List.takeWhile_append_of_pos hbefore, List.dropWhile_append_of_pos hbefore]
    simp
  have hseparator : spelling ++ '=' :: value ≠ separatorWord := by
    intro hword
    have hin : '=' ∈ separatorWord := hword ▸ List.mem_append_right _ List.mem_cons_self
    exact absurd hin (by decide)
  obtain ⟨letters, rfl⟩ : ∃ letters, spelling = '-' :: '-' :: letters := ⟨_, hlong⟩
  rw [List.cons_append, List.cons_append] at hnone hsplit hseparator ⊢
  rw [role.eq_def, if_neg hseparator]
  simp only [hnone, hsplit, hflag]
  rfl

/-- An option is told by its word. -/
theorem Given.role_word (given : Given) : role given.word = .ok (.flag given.found) := by
  cases hvalue : given.value with
  | none =>
    have hrole := role_spelling _ given.isSpelling
    rw [Given.word, Given.found, hvalue]
    exact hrole
  | some value =>
    have harity : given.flag.arity ≠ .none := by
      intro hnone
      rw [given.takesValue.mpr hnone] at hvalue
      cases hvalue
    rw [Given.word, Given.found, hvalue]
    exact role_spelling_value given.isSpelling harity value

theorem role_operand {text : Text} (h : text.head? ≠ some '-') : role text = .ok .operand := by
  have hseparator : text ≠ separatorWord := by
    rintro rfl
    exact h rfl
  rw [role, if_neg hseparator]
  rintro c rest rfl
  exact h rfl

theorem sortWords_options (options : List Given) (rest : List Text) :
    sortWords (options.map Given.word ++ rest) =
      (sortWords rest).map (options.map Given.sorted ++ ·) := by
  induction options with
  | nil => cases hrest : sortWords rest <;> simp [hrest, Except.map]
  | cons given options ih =>
    rw [List.map_cons, List.cons_append, sortWords, given.role_word]
    simp only [ih]
    cases sortWords rest <;> rfl

theorem sortWords_operand {text : Text} (h : text.head? ≠ some '-') (rest : List Text) :
    sortWords (text :: rest) = (sortWords rest).map (⟨text, .operand⟩ :: ·) := by
  rw [sortWords, role_operand h]

end Roles

section Taking

/-- Takes options one after the other. -/
def Choices.addOptions (choices : Choices) : List Given → Except Halt Choices
  | [] => .ok choices
  | given :: rest =>
    match choices.add given.flag given.value with
    | .ok choices => choices.addOptions rest
    | .error halt => .error halt

theorem Choices.addOptions_append (choices : Choices) (first second : List Given) :
    choices.addOptions (first ++ second) =
      match choices.addOptions first with
      | .ok choices => choices.addOptions second
      | .error halt => .error halt := by
  induction first generalizing choices with
  | nil => rfl
  | cons given first ih =>
    rw [List.cons_append, addOptions, addOptions]
    cases choices.add given.flag given.value with
    | error halt => rfl
    | ok choices => exact ih choices

/-- An option is taken by itself, whatever stands before it and behind it. -/
theorem addWords_sorted (given : Given) (afterOperand : Bool) (progress : Progress)
    (rest : List Word) :
    progress.addWords afterOperand (given.sorted :: rest) =
      match progress.choices.add given.flag given.value with
      | .ok choices => { progress with choices }.addWords false rest
      | .error halt => .error halt := by
  obtain ⟨flag, spelling, value, hspelling, hvalue, hchoice⟩ := given
  cases value with
  | some value =>
    -- With its value in its own word a flag takes none of the words behind it.
    have harity : flag.arity ≠ .none := by
      intro hnone
      cases hvalue.mpr hnone
    have hadd (isShort : Bool) :
        progress.choices.addWithValue flag isShort value =
          progress.choices.add flag (some value) := by
      rw [Choices.addWithValue]
      split
      · next hnone => exact absurd hnone harity
      · rfl
    cases hchoices : progress.choices.add flag (some value) with
    | error halt => simp only [Given.sorted, Given.found, Progress.addWords, hadd, hchoices]
    | ok choices => simp only [Given.sorted, Given.found, Progress.addWords, hadd, hchoices]
  | none =>
    -- Without a value it expects none.
    have harity : flag.arity = .none := hvalue.mp rfl
    cases hchoices : progress.choices.add flag none with
    | error halt => simp only [Given.sorted, Given.found, Progress.addWords, harity, hchoices]
    | ok choices => simp only [Given.sorted, Given.found, Progress.addWords, harity, hchoices]

theorem addWords_options (options : List Given) (afterOperand : Bool) (progress : Progress)
    (rest : List Word) :
    progress.addWords afterOperand (options.map Given.sorted ++ rest) =
      match progress.choices.addOptions options with
      | .ok choices => { progress with choices }.addWords (afterOperand && options.isEmpty) rest
      | .error halt => .error halt := by
  induction options generalizing afterOperand progress with
  | nil => rw [List.isEmpty_nil, Bool.and_true]; rfl
  | cons given options ih =>
    rw [List.map_cons, List.cons_append, addWords_sorted, Choices.addOptions]
    cases progress.choices.add given.flag given.value with
    | error halt => rfl
    | ok choices => simp only [ih, List.isEmpty_cons, Bool.and_false, Bool.false_and]

/-- The two directories with options before, between and behind them. -/
def mixed (source destination : Text) (before between behind : List Given) : List Text :=
  before.map Given.word ++
    source :: (between.map Given.word ++ destination :: behind.map Given.word)

theorem sortWords_mixed {source destination : Text} (hsource : source.head? ≠ some '-')
    (hdestination : destination.head? ≠ some '-') (before between behind : List Given) :
    sortWords (mixed source destination before between behind) =
      .ok (before.map Given.sorted ++ ⟨source, .operand⟩ ::
        (between.map Given.sorted ++ ⟨destination, .operand⟩ ::
          (behind.map Given.sorted ++ []))) := by
  have hbehind : sortWords (behind.map Given.word) = .ok (behind.map Given.sorted ++ []) := by
    have hsorted := sortWords_options behind []
    rwa [List.append_nil] at hsorted
  rw [mixed, sortWords_options, sortWords_operand hsource, sortWords_options,
    sortWords_operand hdestination, hbehind]
  rfl

/-- All that counts of where options stand is their order. -/
theorem read_mixed {source destination : Text} (hsource : source.head? ≠ some '-')
    (hdestination : destination.head? ≠ some '-') (before between behind : List Given) :
    Arguments.read (mixed source destination before between behind) =
      (({} : Choices).addOptions (before ++ between ++ behind)).map fun choices => {
        source := Path.read source
        destination := some (Path.read destination)
        choices } := by
  have hfirst (choices : Choices) : ({ choices } : Progress).addOperand source (some source) =
      { operands := [some source], choices } := rfl
  have hsecond (choices : Choices) :
      ({ operands := [some source], choices } : Progress).addOperand destination
        (some destination) = { operands := [some source, some destination], choices } := rfl
  simp only [Arguments.read, sortWords_mixed hsource hdestination, addWords_options,
    Choices.addOptions_append]
  -- Each part of the options may end the reading; what is left otherwise is what was chosen.
  cases ({} : Choices).addOptions before with
  | error halt => rfl
  | ok early =>
    simp only [Progress.addWords, hfirst, addWords_options]
    cases early.addOptions between with
    | error halt => rfl
    | ok choices =>
      simp only [hsecond]
      cases choices.addOptions behind <;> rfl

end Taking

section Meaning

/-- What was said for a flag, if anything: its value, or none. A value equal to the separator counts
as none. -/
def saidFor (options : List Given) (flag : Flag) : Option (Option Text) :=
  (options.find? (·.flag = flag)).map fun given => given.value.filter (· ≠ separatorWord)

/-- Whether the whole texts are asked for, or why the word for that is refused. -/
def fullOf : Option (Option Text) → Except Settings.Fault (Option Bool)
  | none => .ok none
  | some none => .ok (some true)
  | some (some word) => (Settings.readBoolean word).map some

/-- The choices in which each flag has its own place. -/
def Choices.ofSaid (said : Flag → Option (Option Text)) (full : Option Bool) : Choices where
  overrides := {
    full
    license := (said .license).map (·.getD [])
    sort := (said .noSort).map fun _ => false
    strictNames := (said .strictNames).map fun _ => true
    outputName := (said .outputName).map (·.getD [])
    logLevel := (said .logLevel).map (·.getD [])
    logFile := (said .logFile).bind (·.map Path.read) }
  settingsFile := (said .settingsFile).map (·.map Path.read)
  logFile := (said .logFile).map (·.map Path.read)
  verbose := (said .verbose).isSome

/-- What options mean, or why they are refused. -/
def meaning (said : Flag → Option (Option Text)) : Except Halt Choices :=
  match fullOf (said .full) with
  | .ok full => .ok (.ofSaid said full)
  | .error fault => .error (.refused (.notBoolean fault))

theorem Choices.add_full (choices : Choices) (value : Option Text) :
    choices.add .full value =
      match fullOf (some (value.filter (· ≠ separatorWord))) with
      | .ok full => .ok { choices with overrides := { choices.overrides with full } }
      | .error fault => .error (.refused (.notBoolean fault)) := by
  simp only [Choices.add]
  cases value.filter (· ≠ separatorWord) with
  | none => rfl
  | some word =>
    simp only [fullOf]
    cases Settings.readBoolean word with
    | error fault => rfl
    | ok full => rfl

/-- A flag that was not given before puts what it says in its own place. -/
theorem meaning_update {said : Flag → Option (Option Text)} {flag : Flag}
    (hsaid : said flag = none) (hchoice : flag ≠ .help ∧ flag ≠ .version) (value : Option Text) :
    meaning (Function.update said flag (some (value.filter (· ≠ separatorWord)))) =
      match meaning said with
      | .ok choices => choices.add flag value
      | .error halt => .error halt := by
  by_cases hfull : flag = .full
  · subst hfull
    rw [meaning, meaning, Function.update_self, hsaid, fullOf]
    simp only [Choices.add_full]
    cases fullOf (some (value.filter (· ≠ separatorWord))) with
    | error fault => rfl
    | ok full => rfl
  · -- No other flag has a say in whether the options are refused.
    rw [meaning, meaning, Function.update_of_ne (Ne.symm hfull)]
    cases fullOf (said .full) with
    | error fault => rfl
    | ok full =>
      cases flag with
      | help => exact absurd rfl hchoice.1
      | version => exact absurd rfl hchoice.2
      | full => exact absurd rfl hfull
      | license => rfl
      | settingsFile => rfl
      | noSort => rfl
      | strictNames => rfl
      | outputName => rfl
      | logLevel => rfl
      | logFile => rfl
      | verbose => rfl

theorem saidFor_eq_none {options : List Given} {flag : Flag}
    (h : flag ∉ options.map Given.flag) : saidFor options flag = none := by
  rw [saidFor, Option.map_eq_none_iff, List.find?_eq_none]
  intro given hgiven hflag
  exact h (List.mem_map.mpr ⟨given, hgiven, of_decide_eq_true hflag⟩)

theorem saidFor_concat {options : List Given} {given : Given}
    (h : given.flag ∉ options.map Given.flag) :
    saidFor (options ++ [given]) =
      Function.update (saidFor options) given.flag
        (some (given.value.filter (· ≠ separatorWord))) := by
  funext flag
  rw [saidFor, List.find?_append, Option.map_or, Function.update_apply]
  by_cases hflag : flag = given.flag
  · have hnone := saidFor_eq_none h
    rw [saidFor] at hnone
    rw [if_pos hflag, hflag, hnone]
    simp
  · have hlast : [given].find? (·.flag = flag) = none := by
      simp [Ne.symm hflag]
    rw [if_neg hflag, hlast]
    exact Option.or_none

/-- Taking options one after the other comes to what they mean together, as long as no flag is given
twice. -/
theorem addOptions_eq_meaning (options : List Given) (h : (options.map Given.flag).Nodup) :
    ({} : Choices).addOptions options = meaning (saidFor options) := by
  -- From the end: nothing that stands before the last option has its flag.
  induction options using List.reverseRecOn with
  | nil => rfl
  | append_singleton options given ih =>
    rw [List.map_append, List.nodup_append] at h
    obtain ⟨hoptions, -, happart⟩ := h
    have hnew : given.flag ∉ options.map Given.flag := fun hflag =>
      happart _ hflag _ (List.mem_singleton_self _) rfl
    calc ({} : Choices).addOptions (options ++ [given])
        = (match meaning (saidFor options) with
          | .ok choices => choices.add given.flag given.value
          | .error halt => .error halt) := by
          rw [Choices.addOptions_append, ih hoptions]
          cases meaning (saidFor options) with
          | error halt => rfl
          | ok choices =>
            simp only [Choices.addOptions]
            cases choices.add given.flag given.value <;> rfl
      _ = meaning (saidFor (options ++ [given])) := by
          rw [saidFor_concat hnew, meaning_update (saidFor_eq_none hnew) given.isChoice]

theorem saidFor_eq_some_iff {options : List Given} (h : (options.map Given.flag).Nodup)
    {flag : Flag} {said : Option Text} :
    saidFor options flag = some said ↔
      ∃ given ∈ options, given.flag = flag ∧ given.value.filter (· ≠ separatorWord) = said := by
  rw [saidFor, Option.map_eq_some_iff]
  constructor
  · rintro ⟨given, hfound, hsaid⟩
    have hflag := List.find?_some hfound
    exact ⟨given, List.mem_of_find?_eq_some hfound, of_decide_eq_true hflag, hsaid⟩
  · rintro ⟨given, hgiven, rfl, hsaid⟩
    obtain ⟨first, hfirst⟩ : ∃ first, options.find? (·.flag = given.flag) = some first := by
      apply Option.isSome_iff_exists.mp
      rw [List.find?_isSome]
      exact ⟨given, hgiven, decide_eq_true rfl⟩
    -- Only one of the options has the flag.
    have hflag := List.find?_some hfirst
    have hsame : first = given :=
      List.inj_on_of_nodup_map h (List.mem_of_find?_eq_some hfirst) hgiven (of_decide_eq_true hflag)
    exact ⟨first, hfirst, hsame ▸ hsaid⟩

theorem saidFor_perm {options others : List Given} (h : others.Perm options)
    (hnodup : (options.map Given.flag).Nodup) : saidFor others = saidFor options := by
  have hothers : (others.map Given.flag).Nodup := (h.map Given.flag).nodup_iff.mpr hnodup
  funext flag
  ext said
  rw [saidFor_eq_some_iff hothers, saidFor_eq_some_iff hnodup]
  simp only [h.mem_iff]

end Meaning

section Interleaving

variable {source destination : Text} {options before between behind : List Given}

/-- Whatever stands where, the arguments hold the two directories and what the options mean. -/
theorem read_mixed_perm (hsource : source.head? ≠ some '-')
    (hdestination : destination.head? ≠ some '-') (hnodup : (options.map Given.flag).Nodup)
    (hperm : (before ++ between ++ behind).Perm options) :
    Arguments.read (mixed source destination before between behind) =
      (meaning (saidFor options)).map fun choices => {
        source := Path.read source
        destination := some (Path.read destination)
        choices } := by
  have hgiven : ((before ++ between ++ behind).map Given.flag).Nodup :=
    (hperm.map Given.flag).nodup_iff.mpr hnodup
  rw [read_mixed hsource hdestination, addOptions_eq_meaning _ hgiven, saidFor_perm hperm hnodup]

/-- However options are mixed with the two directories, what they mean is read, or the same fault is
found in them; and the invocation does what it does with the directories first. -/
theorem read_interleaved (hsource : source.head? ≠ some '-')
    (hdestination : destination.head? ≠ some '-') (hnodup : (options.map Given.flag).Nodup)
    (hperm : (before ++ between ++ behind).Perm options) :
    Arguments.read (mixed source destination before between behind) =
        ((meaning (saidFor options)).map fun choices => {
          source := Path.read source
          destination := some (Path.read destination)
          choices }) ∧
      ∀ console s, invoke console (mixed source destination before between behind) s =
        invoke console (source :: destination :: options.map Given.word) s := by
  have hread := read_mixed_perm hsource hdestination hnodup hperm
  refine ⟨hread, ?_⟩
  intro console s
  have hbehind : ([] ++ [] ++ options).Perm options := .refl options
  have hsame : Arguments.read (mixed source destination before between behind) =
      Arguments.read (source :: destination :: options.map Given.word) :=
    hread.trans (read_mixed_perm hsource hdestination hnodup hbehind).symm
  rw [invoke, invoke, hsame]

/-- Two values with an equals sign or the separator in them, a word that asks for no whole texts,
and a flag without a value, around two directories. -/
theorem read_interleaved_around :
    let unchanged : Given := ⟨.full, .of "--full", some (.of "no"), by decide, by decide, by decide⟩
    let verbose : Given := ⟨.verbose, .of "-v", none, by decide, by decide, by decide⟩
    let license : Given :=
      ⟨.license, .of "--license", some (.of "a=b c"), by decide, by decide, by decide⟩
    let logFile : Given :=
      ⟨.logFile, .of "--log-file", some (.of "--"), by decide, by decide, by decide⟩
    Arguments.read (mixed (.of "docs") (.of "out") [logFile, unchanged] [verbose] [license]) =
        .ok {
          source := Path.read (.of "docs")
          destination := some (Path.read (.of "out"))
          choices := {
            overrides := { full := some false, license := some (.of "a=b c") }
            logFile := some none
            verbose := true } } ∧
      ∀ s, run (mixed (.of "docs") (.of "out") [logFile, unchanged] [verbose] [license]) s =
        run [.of "docs", .of "out", .of "-v", .of "--license=a=b c", .of "--full=no",
          .of "--log-file=--"] s := by
  intro unchanged verbose license logFile
  have hnodup : ([verbose, license, unchanged, logFile].map Given.flag).Nodup := by decide
  have hperm : ([logFile, unchanged] ++ [verbose] ++ [license]).Perm
      [verbose, license, unchanged, logFile] := by decide
  have hsource : (Text.of "docs").head? ≠ some '-' := by decide
  have hdestination : (Text.of "out").head? ≠ some '-' := by decide
  obtain ⟨hread, hsame⟩ := read_interleaved hsource hdestination hnodup hperm
  exact ⟨hread, hsame consoleLine⟩

end Interleaving

end CommandLine

end HelpText
