import FlowTesting.CommandLine.Arguments
import Mathlib.Data.List.Nodup

set_option autoImplicit false

/-!
# Configurations on the command line

Every setting has a flag and a variable of its own, and both take the value as it is written for
help texts. A configuration is known by the written values of its settings, so it can be put
together from them one at a time, in any order and from either source.
-/

namespace FlowTesting

attribute [ext] Image Configuration

/-- Whether a duration is a number of seconds that can be written. -/
def Duration.IsExpressible (duration : Duration) : Prop :=
  ∃ seconds < Setting.secondsBound, duration = .ofSeconds seconds

structure Configuration.IsExpressible (configuration : Configuration) : Prop where
  warmup : configuration.warmup.IsExpressible
  timeout : configuration.timeout.IsExpressible
  pollInterval : configuration.pollInterval.IsExpressible

theorem Duration.seconds_ofSeconds (seconds : Nat) : (ofSeconds seconds).seconds = seconds :=
  Nat.mul_div_cancel seconds (by decide)

theorem Configuration.isExpressible_default : Configuration.IsExpressible {} where
  warmup := ⟨60, by decide, rfl⟩
  timeout := ⟨300, by decide, rfl⟩
  pollInterval := ⟨30, by decide, rfl⟩

theorem PassPolicy.parse_text (policy : PassPolicy) : parse policy.text = .ok policy := by
  cases policy <;> decide +kernel

namespace Setting

section Names

theorem ofFlagName?_flagName (setting : Setting) : ofFlagName? setting.flagName = some setting := by
  cases setting <;> decide

theorem equals_notMem_flagName (setting : Setting) : '=' ∉ setting.flagName.toList := by
  cases setting <;> decide

theorem map_variableName_all : all.map variableName =
    ["AGGREGATOR_NAMESPACE", "LOG_OUTPUT_ENDPOINT", "SIMULATOR_IMAGE", "SIMULATOR_TAG",
      "SIMULATOR_PULL_POLICY", "AGGREGATOR_IMAGE", "AGGREGATOR_TAG", "AGGREGATOR_PULL_POLICY",
      "WARMUP_SECS", "TIMEOUT_SECS", "POLL_INTERVAL_SECS", "SLICE_PASS_POLICY"] := by
  decide +kernel

theorem variableName_injective : Function.Injective variableName := by
  have distinct : (all.map variableName).Nodup := by
    rw [map_variableName_all]
    decide
  exact fun left right same =>
    List.inj_on_of_nodup_map distinct left.mem_all right.mem_all same

end Names

section Values

theorem digits_of_lt {characters : List Char} {value : Nat}
    (areDigits : ∀ character ∈ characters, character.isDigit = true)
    (small : Nat.ofDigitChars 10 characters value < secondsBound) :
    digits value characters = .ok (Nat.ofDigitChars 10 characters value) := by
  induction characters generalizing value with
  | nil => rfl
  | cons character rest ih =>
    obtain ⟨isDigit, areDigitsRest⟩ := List.forall_mem_cons.mp areDigits
    rw [Nat.ofDigitChars_cons, Nat.mul_comm] at small ⊢
    -- No beginning of a number is greater than the number.
    have next : value * 10 + (character.toNat - '0'.toNat) < secondsBound := by
      rw [Nat.ofDigitChars_eq_ofDigitChars_zero] at small
      exact Nat.lt_of_le_of_lt (Nat.le_trans (Nat.le_mul_of_pos_left _ (Nat.pow_pos (by decide)))
        (Nat.le_add_right _ _)) small
    simp only [digits, isDigit, Bool.not_true, Bool.false_eq_true, ↓reduceIte, next]
    exact ih areDigitsRest small

theorem seconds_toString {number : Nat} (small : number < secondsBound) :
    seconds (toString number) = .ok number := by
  have characters : (toString number).toList = Nat.toDigits 10 number := by simp
  have areDigits : ∀ character ∈ Nat.toDigits 10 number, character.isDigit = true :=
    fun character member => Nat.isDigit_of_mem_toDigits (by decide) (by decide) member
  have value : Nat.ofDigitChars 10 (Nat.toDigits 10 number) 0 = number :=
    Nat.ofDigitChars_ten_toDigits
  have read := digits_of_lt areDigits (value.symm ▸ small)
  rw [value] at read
  rw [seconds, characters]
  cases written : Nat.toDigits 10 number with
  | nil => exact absurd written Nat.toDigits_ne_nil
  | cons character rest =>
    rw [written] at read areDigits
    split
    next impossible => cases impossible
    next signed =>
      obtain ⟨rfl, -⟩ := List.cons.inj signed
      exact absurd (areDigits '+' List.mem_cons_self) (by decide)
    next signed =>
      obtain ⟨rfl, -⟩ := List.cons.inj signed
      exact absurd (areDigits '+' List.mem_cons_self) (by decide)
    next => exact read

theorem duration_toString {duration : Duration} (expressible : duration.IsExpressible) :
    Setting.duration (toString duration.seconds) = .ok duration := by
  obtain ⟨seconds, small, rfl⟩ := expressible
  rw [Duration.seconds_ofSeconds, Setting.duration, seconds_toString small]
  rfl

theorem value?_apply_of_ne {configuration after : Configuration} {setting other : Setting}
    {value : String} (applied : setting.apply value configuration = .ok after)
    (differs : other ≠ setting) : other.value? after = other.value? configuration := by
  cases setting with
  | aggregatorNamespace | logOutputEndpoint | simulatorImage | simulatorTag | simulatorPullPolicy
  | aggregatorImage | aggregatorTag | aggregatorPullPolicy =>
    obtain rfl := Except.ok.inj applied
    cases other <;> first | rfl | exact absurd rfl differs
  | warmupSeconds | timeoutSeconds | pollIntervalSeconds | slicePassPolicy =>
    simp only [apply, Except.map] at applied
    split at applied
    next => cases applied
    next =>
      obtain rfl := Except.ok.inj applied
      cases other <;> first | rfl | exact absurd rfl differs

/-- A setting takes the value that it has in a configuration. -/
theorem exists_apply_of_value? {source : Configuration} {setting : Setting} {value : String}
    (expressible : source.IsExpressible) (valued : setting.value? source = some value)
    (configuration : Configuration) :
    ∃ after, setting.apply value configuration = .ok after ∧
      (configuration.IsExpressible → after.IsExpressible) ∧ setting.value? after = some value := by
  cases setting with
  | aggregatorNamespace | logOutputEndpoint | simulatorImage | simulatorTag | simulatorPullPolicy
  | aggregatorImage | aggregatorTag | aggregatorPullPolicy =>
    exact ⟨_, rfl, fun durations => ⟨durations.warmup, durations.timeout, durations.pollInterval⟩,
      rfl⟩
  | warmupSeconds =>
    obtain rfl := Option.some.inj valued
    have read := duration_toString expressible.warmup
    exact ⟨_, congrArg (Except.map _) read, fun durations =>
      ⟨expressible.warmup, durations.timeout, durations.pollInterval⟩, rfl⟩
  | timeoutSeconds =>
    obtain rfl := Option.some.inj valued
    have read := duration_toString expressible.timeout
    exact ⟨_, congrArg (Except.map _) read, fun durations =>
      ⟨durations.warmup, expressible.timeout, durations.pollInterval⟩, rfl⟩
  | pollIntervalSeconds =>
    obtain rfl := Option.some.inj valued
    have read := duration_toString expressible.pollInterval
    exact ⟨_, congrArg (Except.map _) read, fun durations =>
      ⟨durations.warmup, durations.timeout, expressible.pollInterval⟩, rfl⟩
  | slicePassPolicy =>
    obtain rfl := Option.some.inj valued
    have read := source.passPolicy.parse_text
    exact ⟨_, congrArg (fun policy => (Except.mapError ValueFault.policy policy).map _) read,
      fun durations => ⟨durations.warmup, durations.timeout, durations.pollInterval⟩, rfl⟩

/-- Only a setting that has no value by default can lack one. -/
theorem value?_default_of_none {configuration : Configuration} {setting : Setting}
    (absent : setting.value? configuration = none) : setting.value? {} = none := by
  cases setting with
  | logOutputEndpoint => rfl
  | _ => cases absent

end Values

end Setting

section Views

theorem Duration.IsExpressible.eq_of_toString {left right : Duration}
    (expressible : left.IsExpressible) (expressibleRight : right.IsExpressible)
    (same : toString left.seconds = toString right.seconds) : left = right := by
  have read := Setting.duration_toString expressible
  rw [same, Setting.duration_toString expressibleRight] at read
  exact (Except.ok.inj read).symm

theorem PassPolicy.eq_of_text {left right : PassPolicy} (same : left.text = right.text) :
    left = right := by
  have read := left.parse_text
  rw [same, right.parse_text] at read
  exact (Except.ok.inj read).symm

/-- A configuration is known by what is written of its settings. -/
theorem Configuration.eq_of_value? {left right : Configuration} (expressible : left.IsExpressible)
    (expressibleRight : right.IsExpressible)
    (same : ∀ setting : Setting, setting.value? left = setting.value? right) : left = right := by
  have warmup := expressible.warmup.eq_of_toString expressibleRight.warmup
    (Option.some.inj (same .warmupSeconds))
  have timeout := expressible.timeout.eq_of_toString expressibleRight.timeout
    (Option.some.inj (same .timeoutSeconds))
  have pollInterval := expressible.pollInterval.eq_of_toString expressibleRight.pollInterval
    (Option.some.inj (same .pollIntervalSeconds))
  have policy := PassPolicy.eq_of_text (Option.some.inj (same .slicePassPolicy))
  have simulator : left.simulatorImage = right.simulatorImage :=
    Image.ext (Option.some.inj (same .simulatorImage)) (Option.some.inj (same .simulatorTag))
      (Option.some.inj (same .simulatorPullPolicy))
  have aggregator : left.aggregatorImage = right.aggregatorImage :=
    Image.ext (Option.some.inj (same .aggregatorImage)) (Option.some.inj (same .aggregatorTag))
      (Option.some.inj (same .aggregatorPullPolicy))
  exact Configuration.ext (Option.some.inj (same .aggregatorNamespace)) (same .logOutputEndpoint)
    simulator aggregator warmup timeout pollInterval policy

end Views

/-- A reader that waits for no value. -/
def ArgumentReader.between (configuration : Configuration) (given : List Setting) :
    ArgumentReader :=
  { options := { configuration }, given }

/-- Whether a configuration has the given settings from a source and the others by default. -/
structure Configuration.Takes (source : Configuration) (given : List Setting)
    (configuration : Configuration) : Prop where
  expressible : configuration.IsExpressible
  told : ∀ setting ∈ given, setting.value? configuration = setting.value? source
  untold : ∀ setting, setting ∉ given → setting.value? configuration = setting.value? {}

namespace Configuration.Takes

variable {source configuration : Configuration} {given : List Setting}

theorem start (source : Configuration) : source.Takes [] {} where
  expressible := isExpressible_default
  told _ member := absurd member List.not_mem_nil
  untold _ _ := rfl

/-- The settings of which the source has no value need not be told. -/
theorem eq_source (takes : source.Takes given configuration) (expressible : source.IsExpressible)
    (all : ∀ setting : Setting, setting.value? source ≠ none → setting ∈ given) :
    configuration = source := by
  refine Configuration.eq_of_value? takes.expressible expressible (fun setting => ?_)
  by_cases told : setting ∈ given
  · exact takes.told setting told
  · have absent : setting.value? source = none := Classical.not_not.mp (mt (all setting) told)
    rw [takes.untold setting told, absent, Setting.value?_default_of_none absent]

/-- One more setting is taken over. -/
theorem exists_accept (takes : source.Takes given configuration) (expressible : source.IsExpressible)
    {setting : Setting} {value : String} (valued : setting.value? source = some value)
    (fresh : setting ∉ given) :
    ∃ after, (ArgumentReader.between configuration given).accept setting value =
        .ok (.between after (setting :: given)) ∧ source.Takes (setting :: given) after := by
  obtain ⟨after, applied, durations, same⟩ :=
    Setting.exists_apply_of_value? expressible valued configuration
  have notGiven : given.contains setting = false := by simpa using fresh
  have accepted : (ArgumentReader.between configuration given).accept setting value =
      .ok (.between after (setting :: given)) := by
    simp only [ArgumentReader.accept, ArgumentReader.between, notGiven, Bool.false_eq_true,
      ↓reduceIte, applied]
  have takesAfter : source.Takes (setting :: given) after :=
    { expressible := durations takes.expressible
      told := by
        intro other member
        by_cases here : other = setting
        · rw [here, same, valued]
        · rw [Setting.value?_apply_of_ne applied here]
          exact takes.told other ((List.mem_cons.mp member).resolve_left here)
      untold := by
        intro other absent
        obtain ⟨differs, before⟩ := not_or.mp (mt List.mem_cons.mpr absent)
        rw [Setting.value?_apply_of_ne applied differs]
        exact takes.untold other before }
  exact ⟨after, accepted, takesAfter⟩

end Configuration.Takes

namespace Setting

/-- A setting as an argument, with the value that a configuration has for it. -/
def argument? (configuration : Configuration) (setting : Setting) : Option String :=
  (setting.value? configuration).map (fun value => "--" ++ setting.flagName ++ "=" ++ value)

/-- An environment that has the variables of some settings, as a configuration has them. -/
def exported (configuration : Configuration) (settings : List Setting) (name : String) :
    Option String :=
  (settings.find? (fun setting => setting.variableName == name)).bind (·.value? configuration)

theorem ofLong_append {name : List Char} (isName : '=' ∉ name) (value : List Char) :
    ArgumentForm.ofLong (name ++ '=' :: value) =
      .long (String.ofList name) (some (String.ofList value)) := by
  have differs : ∀ character ∈ name, (character != '=') = true :=
    fun character member => bne_iff_ne.mpr (fun same => isName (same ▸ member))
  have taken : (name ++ '=' :: value).takeWhile (· != '=') = name := by
    simp [List.takeWhile_append_of_pos differs]
  simp only [ArgumentForm.ofLong, taken, List.drop_left]

theorem ofArgument_argument (setting : Setting) (value : String) :
    ArgumentForm.ofArgument ("--" ++ setting.flagName ++ "=" ++ value) =
      .long setting.flagName (some value) := by
  have characters : ("--" ++ setting.flagName ++ "=" ++ value).toList =
      '-' :: '-' :: (setting.flagName.toList ++ '=' :: value.toList) := by simp
  have long := ofLong_append setting.equals_notMem_flagName value.toList
  rw [ArgumentForm.ofArgument, characters]
  cases written : setting.flagName.toList ++ '=' :: value.toList with
  | nil => simp at written
  | cons first rest =>
    rw [written, String.ofList_toList, String.ofList_toList] at long
    exact long

theorem eq_of_find?_variableName {settings : List Setting} {setting other : Setting}
    (found : settings.find? (fun next => next.variableName == setting.variableName) = some other) :
    other = setting :=
  variableName_injective (beq_iff_eq.mp
    (List.find?_some (p := fun next : Setting => next.variableName == setting.variableName) found))

theorem exported_of_mem {configuration : Configuration} {settings : List Setting}
    {setting : Setting} (member : setting ∈ settings) :
    exported configuration settings setting.variableName = setting.value? configuration := by
  cases found : settings.find? (fun other => other.variableName == setting.variableName) with
  | none => exact absurd BEq.rfl (List.find?_eq_none.mp found setting member)
  | some other =>
    obtain rfl := eq_of_find?_variableName found
    rw [exported, found, Option.bind_some]

theorem exported_of_notMem {configuration : Configuration} {settings : List Setting}
    {setting : Setting} (absent : setting ∉ settings) :
    exported configuration settings setting.variableName = none := by
  cases found : settings.find? (fun other => other.variableName == setting.variableName) with
  | none => rw [exported, found, Option.bind_none]
  | some other =>
    obtain rfl := eq_of_find?_variableName found
    exact absurd (List.mem_of_find?_eq_some found) absent

end Setting

namespace ArgumentReader

/-- Whether a reader has taken over what a source has of some settings, and nothing else. -/
structure TakesOver (source : Configuration) (settings given : List Setting)
    (configuration : Configuration) (told : List Setting) : Prop where
  takes : source.Takes told configuration
  kept : given ⊆ told
  only : told ⊆ settings ++ given
  told : ∀ setting ∈ settings, setting.value? source ≠ none → setting ∈ told

/-- Whether reading goes on after some settings have been taken over. -/
def Advances (source : Configuration) (settings given : List Setting)
    (result : Except ArgumentFault ArgumentReader) : Prop :=
  ∃ configuration told, result = .ok (between configuration told) ∧
    TakesOver source settings given configuration told

variable {source configuration : Configuration} {given : List Setting} {setting : Setting}

namespace Advances

theorem skip (takes : source.Takes given configuration)
    (nothing : setting.value? source ≠ none → setting ∈ given) :
    Advances source [setting] given (.ok (between configuration given)) :=
  ⟨configuration, given, rfl, takes, List.Subset.refl given, List.subset_append_right _ _,
    List.forall_mem_singleton.mpr nothing⟩

theorem accept (expressible : source.IsExpressible) (takes : source.Takes given configuration)
    {value : String} (valued : setting.value? source = some value) (fresh : setting ∉ given) :
    Advances source [setting] given ((between configuration given).accept setting value) := by
  obtain ⟨after, accepted, takesAfter⟩ := takes.exists_accept expressible valued fresh
  exact ⟨after, setting :: given, accepted, takesAfter, List.subset_cons_self _ _,
    List.Subset.refl _, List.forall_mem_singleton.mpr (fun _ => List.mem_cons_self)⟩

/-- Settings are taken over one after the other. -/
theorem foldlM {step : ArgumentReader → Setting → Except ArgumentFault ArgumentReader}
    {settings : List Setting} (distinct : settings.Nodup) (takes : source.Takes given configuration)
    (advances : ∀ setting ∈ settings, ∀ {configuration : Configuration} {told : List Setting},
      given ⊆ told → (setting ∈ told → setting ∈ given) → source.Takes told configuration →
        Advances source [setting] told (step (between configuration told) setting)) :
    Advances source settings given (settings.foldlM step (between configuration given)) := by
  induction settings generalizing given configuration with
  | nil =>
    exact ⟨configuration, given, rfl, takes, List.Subset.refl given, List.Subset.refl given, nofun⟩
  | cons setting rest ih =>
    obtain ⟨notAgain, distinctRest⟩ := List.nodup_cons.mp distinct
    obtain ⟨advancesHere, advancesRest⟩ := List.forall_mem_cons.mp advances
    obtain ⟨next, told, stepped, here⟩ := advancesHere (List.Subset.refl given) id takes
    obtain ⟨toldHere, -⟩ := List.forall_mem_cons.mp here.told
    -- None of the settings to come has been given by the first one.
    have later : ∀ other ∈ rest, other ∈ told → other ∈ given := by
      intro other member inTold
      cases here.only inTold with
      | head => exact absurd member notAgain
      | tail _ inGiven => exact inGiven
    obtain ⟨after, toldAfter, folded, there⟩ := ih distinctRest here.takes
      (fun other member _ _ kept fresh => advancesRest other member
        (List.Subset.trans here.kept kept) (fun inTold => later other member (fresh inTold)))
    have only : toldAfter ⊆ setting :: rest ++ given := by
      intro other inTold
      cases List.mem_append.mp (there.only inTold) with
      | inl inRest => exact List.mem_append_left _ (.tail _ inRest)
      | inr inTold =>
        cases here.only inTold with
        | head => exact List.mem_cons_self
        | tail _ inGiven => exact List.mem_append_right _ inGiven
    have reads : (setting :: rest).foldlM step (between configuration given) =
        .ok (between after toldAfter) := by
      rw [List.foldlM_cons, stepped]
      exact folded
    exact ⟨after, toldAfter, reads, there.takes, List.Subset.trans here.kept there.kept, only,
      List.forall_mem_cons.mpr ⟨fun present => there.kept (toldHere present), there.told⟩⟩

end Advances

theorem read_argument (setting : Setting) (value : String) :
    (between configuration given).read ("--" ++ setting.flagName ++ "=" ++ value) =
      (between configuration given).accept setting value := by
  simp only [read, between, Setting.ofArgument_argument, Bool.false_eq_true, ↓reduceIte, readLong,
    Setting.ofFlagName?_flagName, settle]
  rfl

theorem advances_read (expressible : source.IsExpressible) {flags : List Setting}
    (distinct : flags.Nodup) :
    Advances source flags [] ((flags.filterMap (Setting.argument? source)).foldlM read {}) := by
  rw [List.foldlM_filterMap]
  apply Advances.foldlM distinct (.start source)
  intro flag _ configuration told _ fresh takes
  cases valued : flag.value? source with
  | none =>
    have unwritten : Setting.argument? source flag = none := by rw [Setting.argument?, valued]; rfl
    rw [unwritten]
    exact .skip takes (fun present => absurd valued present)
  | some value =>
    have written : Setting.argument? source flag =
        some ("--" ++ flag.flagName ++ "=" ++ value) := by rw [Setting.argument?, valued]; rfl
    rw [written]
    dsimp only
    rw [read_argument]
    exact .accept expressible takes valued (fun member => List.not_mem_nil (fresh member))

theorem advances_readVariable (expressible : source.IsExpressible)
    (takes : source.Takes given configuration) {environment : String → Option String}
    (agrees : ∀ setting : Setting, setting ∉ given →
      environment setting.variableName = setting.value? source)
    (settings : List Setting) (distinct : settings.Nodup) :
    Advances source settings given
      (settings.foldlM (readVariable environment) (between configuration given)) := by
  apply Advances.foldlM distinct takes
  intro setting _ configuration told kept fresh takes
  by_cases inTold : setting ∈ told
  · have skipped : readVariable environment (between configuration told) setting =
        .ok (between configuration told) := by
      simp [readVariable, between, inTold]
    rw [skipped]
    exact .skip takes (fun _ => inTold)
  · have valueOf := agrees setting (mt (@kept setting) inTold)
    cases valued : setting.value? source with
    | none =>
      have skipped : readVariable environment (between configuration told) setting =
          .ok (between configuration told) := by
        simp [readVariable, between, inTold, valueOf, valued]
      rw [skipped]
      exact .skip takes (fun present => absurd valued present)
    | some value =>
      have accepts : readVariable environment (between configuration told) setting =
          (between configuration told).accept setting value := by
        simp [readVariable, between, inTold, valueOf, valued]
      rw [accepts]
      exact .accept expressible takes valued inTold

end ArgumentReader

/-- Each setting may be given by its flag or by its variable, in any order of the flags. -/
theorem every_configuration_expressible {configuration : Configuration}
    (expressible : configuration.IsExpressible) {flags assigned : List Setting}
    (each : (flags ++ assigned).Perm Setting.all) {environment : String → Option String}
    (agrees : ∀ setting : Setting, environment setting.variableName =
      Setting.exported configuration assigned setting.variableName) :
    Options.parse (flags.filterMap (Setting.argument? configuration)) environment =
      .ok { definitionOnly := false, configuration } := by
  have distinct : (flags ++ assigned).Nodup := each.nodup_iff.mpr (by decide)
  obtain ⟨read, told, reads, flagged⟩ := ArgumentReader.advances_read expressible
    (List.nodup_append.mp distinct).1
  have others : ∀ setting : Setting, setting ∉ told →
      environment setting.variableName = setting.value? configuration := by
    intro setting absent
    rw [agrees]
    by_cases inAssigned : setting ∈ assigned
    · exact Setting.exported_of_mem inAssigned
    · have flag : setting ∈ flags :=
        (List.mem_append.mp (each.mem_iff.mpr setting.mem_all)).resolve_right inAssigned
      have valueless : setting.value? configuration = none :=
        Classical.not_not.mp (mt (flagged.told setting flag) absent)
      rw [Setting.exported_of_notMem inAssigned, valueless]
  obtain ⟨after, given, completes, complete⟩ :=
    ArgumentReader.advances_readVariable expressible flagged.takes others
      Setting.all (by decide)
  obtain rfl := complete.takes.eq_source expressible
    (fun setting => complete.told setting setting.mem_all)
  rw [Options.parse, reads]
  exact congrArg (Except.map ArgumentReader.options) completes

/-- The longest timeout can be given, here between variables and other flags. -/
theorem longest_timeout_expressible :
    let configuration : Configuration :=
      { logOutputEndpoint? := some "http://logs/?a=b", timeout := .ofSeconds 18446744073709551615,
        passPolicy := .deactivate }
    let flags : List Setting := [.slicePassPolicy, .logOutputEndpoint, .timeoutSeconds]
    let assigned : List Setting := [.warmupSeconds, .aggregatorNamespace, .simulatorTag,
      .simulatorImage, .simulatorPullPolicy, .aggregatorPullPolicy, .aggregatorImage,
      .aggregatorTag, .pollIntervalSeconds]
    flags.filterMap (Setting.argument? configuration) =
        ["--slice-pass-policy=deactivate", "--log-output-endpoint=http://logs/?a=b",
          "--timeout-secs=18446744073709551615"] ∧
      Setting.exported configuration assigned "WARMUP_SECS" = some "60" ∧
      Options.parse (flags.filterMap (Setting.argument? configuration))
        (Setting.exported configuration assigned) =
          .ok { definitionOnly := false, configuration } :=
  ⟨by decide +kernel, by decide +kernel, every_configuration_expressible
    { warmup := ⟨60, by decide, rfl⟩
      timeout := ⟨18446744073709551615, by decide, rfl⟩
      pollInterval := ⟨30, by decide, rfl⟩ } (by decide) (fun _ => rfl)⟩

end FlowTesting
