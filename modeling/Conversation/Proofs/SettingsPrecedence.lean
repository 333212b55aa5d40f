import Conversation.Program

/-!
Which settings take effect. A command comes before the environment, the environment before the
file that it names, and the file before the standard settings. The environment is read twice,
though: by the settings, which pass over words that name nothing, and by the arguments, for which
such a word is a usage error. And every word for a truth value counts, as a no if it says nothing
else.
-/

namespace Conversation

/-- A variable that an option is taken from, since it has not been given, has a word that the
option does not take. -/
def Environment.refuses {α : Type} (environment : Environment) (key : String)
    (read : String → Option α) (given : Option α) : Bool :=
  given.isNone && (environment.get? key).any fun word => (read word).isNone

namespace Command

/-- Why a command is refused in an environment. -/
def refusal? (environment : Environment) : Command → Option UsageError
  | .compile _ format loops _ =>
      if environment.refuses Settings.formatVariable OutputFormat.ofName? format then
        some .invalidValue
      else if environment.refuses Settings.loopsVariable LoopMode.ofWord? loops then
        some .invalidLoopMode
      else none
  | .inspect _ loops =>
      if environment.refuses Settings.loopsVariable LoopMode.ofWord? loops then
        some .invalidLoopMode
      else none
  | .config => none

/-- The command with the options that are not given taken from the environment. -/
def completed (environment : Environment) : Command → Command
  | .compile file format loops trace =>
      .compile file
        (format.or ((environment.get? Settings.formatVariable).bind OutputFormat.ofName?))
        (loops.or ((environment.get? Settings.loopsVariable).bind LoopMode.ofWord?)) trace
  | .inspect file loops =>
      .inspect file (loops.or ((environment.get? Settings.loopsVariable).bind LoopMode.ofWord?))
  | .config => .config

end Command

namespace CommandLine

variable {environment : Environment}

namespace Given

theorem orVariable_format (given : Given) :
    given.orVariable environment .format given.format.isSome Settings.formatVariable =
      if environment.refuses Settings.formatVariable OutputFormat.ofName? given.format then
        .error .invalidValue
      else .ok { given with
        format := given.format.or
          ((environment.get? Settings.formatVariable).bind OutputFormat.ofName?) } := by
  obtain ⟨file, format, loops, trace, noColor, pending, fileMet, separated⟩ := given
  unfold orVariable Environment.refuses assign
  cases environment.get? Settings.formatVariable with
  | none => cases format <;> simp
  | some word =>
      cases format with
      | some format => simp
      | none => cases h : OutputFormat.ofName? word <;> simp [h]

theorem orVariable_loops (given : Given) :
    given.orVariable environment .loops given.loops.isSome Settings.loopsVariable =
      if environment.refuses Settings.loopsVariable LoopMode.ofWord? given.loops then
        .error .invalidLoopMode
      else .ok { given with
        loops := given.loops.or
          ((environment.get? Settings.loopsVariable).bind LoopMode.ofWord?) } := by
  obtain ⟨file, format, loops, trace, noColor, pending, fileMet, separated⟩ := given
  unfold orVariable Environment.refuses assign
  cases environment.get? Settings.loopsVariable with
  | none => cases loops <;> simp
  | some word =>
      cases loops with
      | some loops => simp
      | none => cases h : LoopMode.ofWord? word <;> simp [h]

theorem withEnvironment_nil (given : Given) (verb : Verb) :
    given.withEnvironment [] verb = .ok given := by
  cases verb <;> rfl

/-- The command that has been given, taken together with an environment, is refused or completed. -/
theorem command_withEnvironment {given : Given} {verb : Verb} {command : Command}
    (h : given.command verb = .ok command) (noColor : Bool) :
    (given.withEnvironment environment verb >>= fun given' => given'.command verb >>= fun command' =>
        pure (⟨command', noColor || given'.noColor⟩ : Invocation)) =
      match command.refusal? environment with
      | some error => .error error
      | none => .ok ⟨command.completed environment, noColor || given.noColor⟩ := by
  cases verb with
  | config =>
      obtain rfl : Command.config = command := Except.ok.inj h
      rfl
  | compile =>
      cases hfile : given.file with
      | none => simp [Given.command, hfile] at h
      | some file =>
          obtain rfl : Command.compile file given.format given.loops given.trace = command := by
            simpa [Given.command, hfile] using h
          simp only [withEnvironment, if_true, Verb.takesFile, orVariable_format, Command.refusal?,
            bind, Except.bind]
          by_cases hformat : environment.refuses Settings.formatVariable OutputFormat.ofName?
            given.format
          · simp [hformat]
          · by_cases hloops : environment.refuses Settings.loopsVariable LoopMode.ofWord? given.loops
            · simp [hformat, hloops, orVariable_loops]
            · simp [hformat, hloops, orVariable_loops, Given.command, hfile, Command.completed,
                pure, Except.pure]
  | inspect =>
      cases hfile : given.file with
      | none => simp [Given.command, hfile] at h
      | some file =>
          obtain rfl : Command.inspect file given.loops = command := by
            simpa [Given.command, hfile] using h
          simp only [withEnvironment, Verb.takesFile, orVariable_loops, Command.refusal?,
            reduceCtorEq, if_false, if_true, pure, Except.pure, bind, Except.bind]
          by_cases hloops : environment.refuses Settings.loopsVariable LoopMode.ofWord? given.loops
          · simp [hloops]
          · simp [hloops, Given.command, hfile, Command.completed]

end Given

theorem parseVerb_eq {verb : Verb} {noColor : Bool} {args : List String} {invocation : Invocation}
    (h : parseVerb [] verb noColor args = .ok invocation) :
    parseVerb environment verb noColor args =
      match invocation.command.refusal? environment with
      | some error => .error error
      | none => .ok ⟨invocation.command.completed environment, invocation.noColor⟩ := by
  unfold parseVerb at h ⊢
  cases hgiven : args.foldlM (Given.next verb) Given.nothing with
  | error error => simp [hgiven, bind, Except.bind] at h
  | ok given =>
      cases hsettled : given.settle with
      | error error => simp [hgiven, hsettled, bind, Except.bind] at h
      | ok settled =>
          cases hcommand : settled.command verb with
          | error error =>
              simp [hgiven, hsettled, Given.withEnvironment_nil, hcommand, bind, Except.bind] at h
          | ok command =>
              obtain rfl : ⟨command, noColor || settled.noColor⟩ = invocation := by
                simpa [hgiven, hsettled, Given.withEnvironment_nil, hcommand, bind, Except.bind,
                  pure, Except.pure] using h
              simpa [hgiven, hsettled, bind, Except.bind] using
                Given.command_withEnvironment hcommand noColor

/-- A variable only makes a difference for options that the arguments do not give. -/
theorem parse_eq {args : List String} {invocation : Invocation}
    (h : parse [] args = .ok invocation) :
    parse environment args =
      match invocation.command.refusal? environment with
      | some error => .error error
      | none => .ok ⟨invocation.command.completed environment, invocation.noColor⟩ := by
  unfold parse at h ⊢
  generalize hcolor : false = noColor at h ⊢
  clear hcolor
  induction args generalizing noColor with
  | nil => simp [parseFrom] at h
  | cons text rest ih =>
      unfold parseFrom at h ⊢
      split at h
      · next verb hverb => exact parseVerb_eq h
      · split at h
        case h_2 =>
          cases noColor with
          | true => cases h
          | false => exact ih true h
        all_goals cases h

end CommandLine

namespace Settings

/-- The settings of the file that the environment names, or the standard ones. -/
def stored (decode : SettingsReader) (surroundings : Surroundings) :
    Except SettingsError Settings :=
  match surroundings.environment.get? fileVariable with
  | some file => ofFile decode surroundings.read file
  | none => .ok standard

theorem loadWith_eq (decode : SettingsReader) (surroundings : Surroundings) :
    loadWith decode surroundings =
      (stored decode surroundings).map fun settings =>
        settings.withEnvironment surroundings.environment := by
  unfold loadWith stored
  cases surroundings.environment.get? fileVariable with
  | none => rfl
  | some file => cases hfile : ofFile decode surroundings.read file <;> simp [hfile] <;> rfl

/-- The truth value that a word names, in letters of any case. -/
def truth? (word : String) : Option Bool :=
  if saysYes word then some true
  else if word = "0" || Text.lowercase word = "false" then some false
  else none

/-- Takes over what the environment says in words that name a value. All other words are passed
over, those for truth values too. -/
def withNamed (settings : Settings) (environment : Environment) : Settings where
  loops := ((environment.get? loopsVariable).bind LoopMode.ofWord?).getD settings.loops
  format := ((environment.get? formatVariable).bind OutputFormat.ofWord?).getD settings.format
  color := ((environment.get? colorVariable).bind truth?).getD settings.color
  trace := ((environment.get? traceVariable).bind truth?).getD settings.trace

/-- A variable for a truth value has a word that names none. -/
def misnamed (environment : Environment) (key : String) : Bool :=
  (environment.get? key).any fun word => (truth? word).isNone

/-- A word that names no truth value turns off what would be on without it. -/
theorem getD_saysYes_eq_iff (environment : Environment) (key : String) (before : Bool) :
    ((environment.get? key).map saysYes).getD before =
        ((environment.get? key).bind truth?).getD before ↔
      ¬ (misnamed environment key ∧ before) := by
  unfold misnamed
  cases environment.get? key with
  | none => simp
  | some word =>
      simp only [truth?, Option.map_some, Option.getD_some, Option.bind_some, Option.any_some]
      cases hyes : saysYes word <;> cases hno : (word = "0" || Text.lowercase word = "false" : Bool)
        <;> cases before <;> simp_all

end Settings

theorem OutputFormat.ofWord?_of_ofName? {word : String} {format : OutputFormat}
    (h : ofName? word = some format) : ofWord? word = some format := by
  unfold ofName? at h
  split at h
  · exact h ▸ (by decide +kernel : ofWord? "text" = some .text)
  · exact h ▸ (by decide +kernel : ofWord? "json" = some .json)
  · exact h ▸ (by decide +kernel : ofWord? "dot" = some .dot)
  · cases h

theorem Except.eq_ok_of_toOption {ε α : Type} {result : Except ε α} {value : α}
    (h : result.toOption = some value) : result = .ok value := by
  cases result with
  | error error => cases h
  | ok given => exact congrArg Except.ok (Option.some.inj h)

namespace Command

def bare : Command → Command
  | .compile file _ _ _ => .compile file none none false
  | .inspect file _ => .inspect file none
  | .config => .config

end Command

namespace Invocation

/-- The settings that take effect: what the arguments say comes before what is set. An inspection
has neither a format nor a trace. -/
def overriding (invocation : Invocation) (settings : Settings) : Settings :=
  match invocation.command with
  | .compile _ format loops trace =>
      { loops := loops.getD settings.loops
        format := format.getD settings.format
        color := settings.color && !invocation.noColor
        trace := trace || settings.trace }
  | .inspect _ loops =>
      { Settings.standard with
        loops := loops.getD settings.loops
        color := settings.color && !invocation.noColor }
  | .config => settings

/-- Whether the settings decide about a trace: a compilation has one if they say so. -/
def tracesIfSet (invocation : Invocation) : Bool :=
  match invocation.command with
  | .compile _ _ _ trace => !trace
  | _ => false

end Invocation

namespace Program

/-- The report on a command when everything else is settled. -/
def report (surroundings : Surroundings) (settings : Settings) (command : Command) : Report :=
  let outcome := command.run surroundings settings settings.color
  let trace :=
    (outcome.trace.map fun events => Listing.trace settings.color events ++ "\n").getD ""
  match outcome.output with
  | .ok output => ⟨0, output ++ "\n", trace⟩
  | .error error => ⟨1, "", trace ++ errorLine settings.color error.text⟩

/-- In an environment that does not refuse a command, the arguments and the settings take the same
value from a variable. -/
theorem getD_or_variable {α : Type} {environment : Environment} {key : String}
    {read readSettings : String → Option α} {given : Option α}
    (hread : ∀ word value, read word = some value → readSettings word = some value)
    (hallowed : environment.refuses key read given = false) (before : α) :
    (given.or ((environment.get? key).bind read)).getD
        (((environment.get? key).bind readSettings).getD before) =
      given.getD (((environment.get? key).bind readSettings).getD before) := by
  cases given with
  | some value => rfl
  | none =>
      cases hword : environment.get? key with
      | none => rfl
      | some word =>
          cases hvalue : read word with
          | none => simp [Environment.refuses, hword, hvalue] at hallowed
          | some value => simp [hvalue, hread word value hvalue]

theorem run_completed {surroundings : Surroundings} {invocation : Invocation}
    {stored : Settings} (hcommand : invocation.command ≠ .config)
    (hallowed : invocation.command.refusal? surroundings.environment = none)
    (colored : Bool) :
    (invocation.command.completed surroundings.environment).run surroundings
        (stored.withEnvironment surroundings.environment) colored =
      invocation.command.bare.run surroundings
        (invocation.overriding (stored.withEnvironment surroundings.environment)) colored := by
  obtain ⟨command, noColor⟩ := invocation
  cases command with
  | config => exact absurd rfl hcommand
  | inspect file loops =>
      have hloops : surroundings.environment.refuses Settings.loopsVariable LoopMode.ofWord?
          loops = false := by
        simpa [Command.refusal?] using hallowed
      have hmode := getD_or_variable (fun _ _ => id) hloops stored.loops
      simp only [Command.completed, Command.bare, Command.run, Invocation.overriding,
        Settings.withEnvironment, hmode, Option.getD_none]
  | compile file format loops trace =>
      have hformat : surroundings.environment.refuses Settings.formatVariable
          OutputFormat.ofName? format = false :=
        Bool.eq_false_iff.mpr fun h => by simp [Command.refusal?, h] at hallowed
      have hloops : surroundings.environment.refuses Settings.loopsVariable LoopMode.ofWord?
          loops = false :=
        Bool.eq_false_iff.mpr fun h => by simp [Command.refusal?, hformat, h] at hallowed
      have hmode := getD_or_variable (fun _ _ => id) hloops stored.loops
      have hview := getD_or_variable (fun _ _ => OutputFormat.ofWord?_of_ofName?) hformat
        stored.format
      simp only [Command.completed, Command.bare, Command.run, Invocation.overriding,
        Settings.withEnvironment, hmode, hview, Option.getD_none, Bool.false_or]

theorem color_overriding {invocation : Invocation} (hcommand : invocation.command ≠ .config)
    (settings : Settings) :
    (invocation.overriding settings).color = (settings.color && !invocation.noColor) := by
  obtain ⟨command, noColor⟩ := invocation
  cases command with
  | config => exact absurd rfl hcommand
  | _ => rfl

/-- The words of the environment count in full exactly if none of them turns off what it does not
name. -/
theorem overriding_withEnvironment_eq_iff {invocation : Invocation}
    (hcommand : invocation.command ≠ .config) (stored : Settings) (environment : Environment) :
    invocation.overriding (stored.withEnvironment environment) =
        invocation.overriding (stored.withNamed environment) ↔
      ¬ (Settings.misnamed environment Settings.colorVariable ∧ stored.color ∧
          ¬ invocation.noColor) ∧
        ¬ (Settings.misnamed environment Settings.traceVariable ∧ stored.trace ∧
          invocation.tracesIfSet) := by
  have hcolor := Settings.getD_saysYes_eq_iff environment Settings.colorVariable stored.color
  have htrace := Settings.getD_saysYes_eq_iff environment Settings.traceVariable stored.trace
  obtain ⟨command, noColor⟩ := invocation
  cases command with
  | config => exact absurd rfl hcommand
  | inspect file loops =>
      cases noColor <;>
        simp [Invocation.overriding, Settings.withEnvironment, Settings.withNamed,
          Invocation.tracesIfSet, hcolor]
  | compile file format loops trace =>
      cases noColor <;> cases trace <;>
        simp [Invocation.overriding, Settings.withEnvironment, Settings.withNamed,
          Invocation.tracesIfSet, hcolor, htrace]

theorem runWith_eq {decode : SettingsReader} {surroundings : Surroundings} {args : List String}
    {invocation : Invocation} {stored : Settings}
    (hargs : CommandLine.parse [] args = .ok invocation)
    (hcommand : invocation.command ≠ .config)
    (hstored : Settings.stored decode surroundings = .ok stored) :
    runWith decode surroundings args =
      match invocation.command.refusal? surroundings.environment with
      | some error => .error error
      | none => .ok (report surroundings
          (invocation.overriding (stored.withEnvironment surroundings.environment))
          invocation.command.bare) := by
  have hload : Settings.loadWith decode surroundings =
      .ok (stored.withEnvironment surroundings.environment) := by
    rw [Settings.loadWith_eq, hstored]
    rfl
  simp only [runWith, CommandLine.parse_eq hargs, hload, bind, Except.bind]
  cases hrefusal : invocation.command.refusal? surroundings.environment with
  | some error => rfl
  | none =>
      simp only [report, run_completed hcommand hrefusal, color_overriding hcommand]
      split <;> simp_all [pure, Except.pure]

/-- The settings that take effect on a compilation or an inspection, when the arguments are
otherwise in order and the file of settings can be read, in whichever way it is read. The run is
refused if a variable has a word that its option, not being given, does not take. Otherwise the
arguments come before the environment, this before the file and the file before the standard
settings, and every word of the environment that names no truth value counts as a no: it is as if
such words were passed over exactly if none of them turns off colors or a trace. -/
theorem run_of_settings {decode : SettingsReader} {surroundings : Surroundings}
    {args : List String} {invocation : Invocation} {stored : Settings}
    (hargs : CommandLine.parse [] args = .ok invocation)
    (hcommand : invocation.command ≠ .config)
    (hstored : Settings.stored decode surroundings = .ok stored) :
    runWith decode surroundings args =
        (match invocation.command.refusal? surroundings.environment with
         | some error => .error error
         | none => .ok (report surroundings
            (invocation.overriding (stored.withEnvironment surroundings.environment))
            invocation.command.bare)) ∧
      (invocation.overriding (stored.withEnvironment surroundings.environment) =
          invocation.overriding (stored.withNamed surroundings.environment) ↔
        ¬ (Settings.misnamed surroundings.environment Settings.colorVariable ∧ stored.color ∧
            ¬ invocation.noColor) ∧
          ¬ (Settings.misnamed surroundings.environment Settings.traceVariable ∧ stored.trace ∧
            invocation.tracesIfSet)) :=
  ⟨runWith_eq hargs hcommand hstored,
    overriding_withEnvironment_eq_iff hcommand stored surroundings.environment⟩

/-- Surroundings with a file of settings, and with words for all settings but the trace. -/
def draft : Surroundings where
  environment := [(Settings.fileVariable, "draft.yaml"), (Settings.loopsVariable, "ONCE"),
    (Settings.formatVariable, "json"), (Settings.colorVariable, "never")]
  read file :=
    .ok (if file = "draft.yaml" then
        "compiler:\n  repeat: once\noutput:\n  format: dot\n  trace: true\n"
      else "\x7b\"name\": \"Draft\", \"activities\": [\"end\"]\x7d")
  input := .ok ""

/-- The arguments decide about the loops, the environment about the format and the file about the
trace. The word of the environment for colors is no truth value and turns them off. -/
theorem draft_run :
    Settings.stored Settings.ofYaml draft = .ok ⟨.once, .dot, true, true⟩ ∧
    run draft ["compile", "draft.json", "--repeat", "loop"] =
      .ok (report draft ⟨.loop, .json, false, true⟩ (.compile "draft.json" none none false)) ∧
    Invocation.overriding ⟨.compile "draft.json" none (some .loop) false, false⟩
        (Settings.withEnvironment ⟨.once, .dot, true, true⟩ draft.environment) ≠
      Invocation.overriding ⟨.compile "draft.json" none (some .loop) false, false⟩
        (Settings.withNamed ⟨.once, .dot, true, true⟩ draft.environment) := by
  have hargs : CommandLine.parse [] ["compile", "draft.json", "--repeat", "loop"] =
      .ok ⟨.compile "draft.json" none (some .loop) false, false⟩ :=
    Except.eq_ok_of_toOption (by decide +kernel)
  have hstored : Settings.stored Settings.ofYaml draft = .ok ⟨.once, .dot, true, true⟩ :=
    Except.eq_ok_of_toOption (by decide +kernel)
  have hallowed : Command.refusal? draft.environment
      (.compile "draft.json" none (some .loop) false) = none := by decide +kernel
  have heffect : Invocation.overriding ⟨.compile "draft.json" none (some .loop) false, false⟩
      (Settings.withEnvironment ⟨.once, .dot, true, true⟩ draft.environment) =
        ⟨.loop, .json, false, true⟩ := by decide +kernel
  have hmisnamed : Settings.misnamed draft.environment Settings.colorVariable = true := by
    decide +kernel
  obtain ⟨hrun, hnamed⟩ := run_of_settings hargs (by decide) hstored
  rw [hallowed, heffect] at hrun
  refine ⟨hstored, hrun, fun hsame => ?_⟩
  exact (hnamed.mp hsame).1 ⟨hmisnamed, rfl, by decide⟩

/-- A word that names no format is passed over by the settings, but the arguments refuse it: the
run is not the one without the variable. -/
theorem format_refused :
    run { draft with environment := [(Settings.formatVariable, "svg")] }
        ["--no-color", "compile", "draft.json"] = .error .invalidValue ∧
      run { draft with environment := [] } ["--no-color", "compile", "draft.json"] =
        .ok (report { draft with environment := [] } ⟨.loop, .text, false, false⟩
          (.compile "draft.json" none none false)) := by
  have hargs : CommandLine.parse [] ["--no-color", "compile", "draft.json"] =
      .ok ⟨.compile "draft.json" none none false, true⟩ :=
    Except.eq_ok_of_toOption (by decide +kernel)
  have hrefusal : Command.refusal? [(Settings.formatVariable, "svg")]
      (.compile "draft.json" none none false) = some .invalidValue := by decide +kernel
  have hstored (environment : Environment) (h : environment.get? Settings.fileVariable = none) :
      Settings.stored Settings.ofYaml { draft with environment := environment } =
        .ok .standard := by
    rw [Settings.stored, h]
  constructor
  · rw [run, runWith_eq hargs (by decide) (hstored _ (by decide +kernel)), hrefusal]
  · exact runWith_eq hargs (by decide) (hstored [] rfl)

end Program

end Conversation
