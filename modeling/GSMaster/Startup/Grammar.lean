import GSMaster.Startup.CommandLine

/-!
# The grammar of the command line

An argument vector of documented options, each with its value where it needs
one. The parser does not know which arguments are values: it takes every value
for an option whose second character begins an option's name, and it finds out
that a value is missing by reading through NULL.
-/

namespace GSMaster.Startup

open GSMaster.Text GSMaster.Lists

/-- Whether the documentation has a value behind an option, in pointed brackets. -/
inductive ValueRule where
  | never
  | may
  | must
  deriving DecidableEq, Repr

/--
The documented options and their values. A file name behind `-logtcp` can be
left out, and the one behind `-motd` is not read.
-/
def CommandOption.rule : CommandOption → Option ValueRule
  | .debug | .sendack | .quickvalidate => some .never
  | .motd | .logtcp => some .may
  | .help | .rconpassword => none
  | _ => some .must

/-- The name of an option as the documentation has it. -/
def CommandOption.name : CommandOption → CString
  | .debug => ascii "debug"
  | .help => ascii "help"
  | .sendack => ascii "sendack"
  | .quickvalidate => ascii "quickvalidate"
  | .validationrequired => ascii "validationrequired"
  | .timestamp => ascii "timestamp"
  | .httpenable => ascii "httpenable"
  | .rconpassword => ascii "rconpassword"
  | .heartbeatinterval => ascii "heartbeatinterval"
  | .minimumheartbeats => ascii "minimumheartbeats"
  | .ip => ascii "ip"
  | .port => ascii "port"
  | .tcpport => ascii "tcpport"
  | .serverlisttimer => ascii "serverlisttimer"
  | .serverlist => ascii "serverlist"
  | .masterlist => ascii "masterlist"
  | .motd => ascii "motd"
  | .logtcp => ascii "logtcp"
  | .generateserverlist => ascii "generateserverlist"
  | .cwd => ascii "cwd"

/-- The argument that an option is written as. -/
def CommandOption.text (option : CommandOption) : CString :=
  45 :: option.name

/-- A documented option with the value that goes with it. -/
structure GivenOption where
  option : CommandOption
  value : Option CString
  documented : option.rule ≠ none
  unvalued : option.rule = some .never → value = none
  valued : option.rule = some .must → value ≠ none

/-- The arguments of an option. -/
def GivenOption.args (given : GivenOption) : List CString :=
  given.option.text :: given.value.toList

/-- The arguments of options, one behind the other. -/
def argsOf (options : List GivenOption) : List CString :=
  options.flatMap GivenOption.args

/-- No option is given twice. -/
def Distinct (options : List GivenOption) : Prop :=
  (options.map GivenOption.option).Nodup

instance (options : List GivenOption) : Decidable (Distinct options) :=
  inferInstanceAs (Decidable (options.map GivenOption.option).Nodup)

/-! ## The rounds of the parser -/

theorem optionOf_name (option : CommandOption) :
    optionOf option.name = if option = .debug then none else some option := by
  cases option <;> decide

theorem isNamed_debug (option : CommandOption) :
    isNamed option.name (ascii "debug") = decide (option = .debug) := by
  cases option <;> decide

/-- The settings with a given value of `debug`. -/
def Settings.withDebug (settings : Settings) (debug : Int) : Settings :=
  { settings with debug := debug }

/-- What the first argument makes of `debug`. -/
def CommandOption.debugFlag (option : CommandOption) : Int :=
  if option = .debug then 1 else 0

theorem testDebug_first (settings : Settings) (option : CommandOption) :
    testDebug (settings.withDebug 3) option.name = settings.withDebug option.debugFlag := by
  have first : (settings.withDebug 3).debug = 3 := rfl
  rw [testDebug, if_pos first, isNamed_debug, CommandOption.debugFlag]
  by_cases debug : option = .debug <;> simp [debug, Settings.withDebug]

theorem testDebug_later {settings : Settings} (later : settings.debug ≠ 3) (tail : CString) :
    testDebug settings tail = settings :=
  if_neg later

/-- An option as an argument goes to its own branch. -/
theorem parseArgument_text (settings : Settings) (option : CommandOption)
    (next : Option CString) :
    parseArgument settings option.text next =
      option.apply (testDebug settings option.name) next := by
  rw [CommandOption.text, parseArgument]
  simp only [optionOf_name]
  by_cases first : option = .debug
  · rw [if_pos first, first]
    rfl
  · rw [if_neg first]

/-- What a branch stores that has a value behind its option. -/
def CommandOption.store (option : CommandOption) (value : CString) (settings : Settings) :
    Settings :=
  match option.apply settings (some value) with
  | .ok after => after
  | .error _ => settings

theorem CommandOption.store_httpenable (value : CString) (settings : Settings) :
    CommandOption.httpenable.store value settings =
      if isDashed value then settings
      else
        { settings with
          httpdlFilename := strlcpy settings.httpdlFilename value maxPath
          bHttpEnable := true } := by
  simp only [CommandOption.store, CommandOption.apply]
  split_ifs <;> rfl

theorem CommandOption.apply_some {option : CommandOption} (goes : option ≠ .help)
    (settings : Settings) (value : CString) :
    option.apply settings (some value) = .ok (option.store value settings) := by
  cases option with
  | help => exact absurd rfl goes
  | httpenable =>
      rw [CommandOption.store_httpenable, CommandOption.apply]
      split_ifs <;> rfl
  | _ => rfl

/-- No branch stores in `debug`. -/
theorem CommandOption.store_debug (option : CommandOption) (value : CString)
    (settings : Settings) : (option.store value settings).debug = settings.debug := by
  cases option with
  | httpenable =>
      rw [CommandOption.store_httpenable]
      split_ifs <;> rfl
  | _ => rfl

/-- Two different options store in different variables. -/
theorem CommandOption.store_comm {first second : CommandOption} (apart : first ≠ second)
    (value other : CString) (settings : Settings) :
    first.store value (second.store other settings) =
      second.store other (first.store value settings) := by
  have http {option : CommandOption} (apart : .httpenable ≠ option) (value other : CString) :
      CommandOption.httpenable.store value (option.store other settings) =
        option.store other (CommandOption.httpenable.store value settings) := by
    rw [CommandOption.store_httpenable, CommandOption.store_httpenable]
    split_ifs
    · rfl
    · cases option with
      | httpenable => exact absurd rfl apart
      | _ => rfl
  cases first with
  | httpenable => exact http apart value other
  | _ => cases second with
    | httpenable => exact (http (Ne.symm apart) other value).symm
    | _ => first
      | exact absurd rfl apart
      | rfl

/-- Without a file name `-logtcp` reads the argument behind it all the same. -/
theorem GivenOption.apply_eq (given : GivenOption)
    (named : given.option = .logtcp → given.value ≠ none) (settings : Settings)
    (rest : List CString) :
    given.option.apply settings (given.value.toList ++ rest).head? =
      .ok (given.option.store (given.value.getD []) settings) := by
  have goes : given.option ≠ .help := by
    intro help
    exact given.documented (congrArg CommandOption.rule help)
  cases value : given.value with
  | some text =>
      rw [Option.toList_some, List.singleton_append, List.head?_cons, Option.getD_some]
      exact CommandOption.apply_some goes settings text
  | none =>
      have valued : given.option.rule ≠ some .must := fun must => given.valued must value
      have notLogtcp : given.option ≠ .logtcp := fun logtcp => named logtcp value
      have documented := given.documented
      generalize given.option = option at *
      cases option with
      | debug | sendack | quickvalidate | motd => rfl
      | help | rconpassword => exact absurd rfl documented
      | logtcp => exact absurd rfl notLogtcp
      | _ => exact absurd rfl valued

/-- The value is no option, and there is something to compare with the names. -/
def IsPlain (value : CString) : Prop :=
  value ≠ [] ∧ ∀ row ∈ optionNames, isNamed value.tail row.1 = false

theorem optionOf_eq_none_iff {tail : CString} :
    optionOf tail = none ↔ ∀ row ∈ optionNames, isNamed tail row.1 = false := by
  rw [optionOf, Option.map_eq_none_iff, List.find?_eq_none]
  simp only [Bool.not_eq_true]

theorem parseArgument_plain {settings : Settings} (later : settings.debug ≠ 3) {value : CString}
    (plain : IsPlain value) (next : Option CString) :
    parseArgument settings value next = .ok settings := by
  obtain ⟨some, unnamed⟩ := plain
  cases value with
  | nil => exact absurd rfl some
  | cons c tail =>
      have none : optionOf tail = none := optionOf_eq_none_iff.mpr unnamed
      rw [parseArgument]
      simp only [none, testDebug_later later]

/-- A plain value behind its option. -/
theorem parseArguments_value {settings : Settings} (later : settings.debug ≠ 3)
    {value : Option CString} (plain : ∀ text ∈ value, IsPlain text) (rest : List CString) :
    parseArguments settings (value.toList ++ rest) = parseArguments settings rest := by
  cases value with
  | none => rfl
  | some text =>
      rw [Option.toList_some, List.singleton_append, parseArguments,
        parseArgument_plain later (plain text rfl)]
      rfl

/-! ## A whole vector -/

/-- Every value is plain, and `-logtcp` has its file name. -/
structure IsOrderly (options : List GivenOption) : Prop where
  plain : ∀ given ∈ options, ∀ text ∈ given.value, IsPlain text
  named : ∀ given ∈ options, given.option = .logtcp → given.value ≠ none

/-- What an option with its value stores. -/
def GivenOption.effect (settings : Settings) (given : GivenOption) : Settings :=
  given.option.store (given.value.getD []) settings

theorem GivenOption.effect_debug (settings : Settings) (given : GivenOption) :
    (given.effect settings).debug = settings.debug :=
  CommandOption.store_debug given.option _ settings

theorem CommandOption.debugFlag_ne (option : CommandOption) : option.debugFlag ≠ 3 := by
  rw [CommandOption.debugFlag]
  split_ifs <;> decide

namespace IsOrderly

theorem tail {given : GivenOption} {rest : List GivenOption}
    (orderly : IsOrderly (given :: rest)) : IsOrderly rest :=
  ⟨fun other member => orderly.plain other (List.mem_cons_of_mem _ member),
    fun other member => orderly.named other (List.mem_cons_of_mem _ member)⟩

theorem perm {options other : List GivenOption} (orderly : IsOrderly options)
    (same : other.Perm options) : IsOrderly other :=
  ⟨fun given member => orderly.plain given (same.mem_iff.mp member),
    fun given member => orderly.named given (same.mem_iff.mp member)⟩

/-- The rounds of an option and its value, whatever the first of them makes of `debug`. -/
theorem round {given : GivenOption} {rest : List GivenOption}
    (orderly : IsOrderly (given :: rest)) {settings tested : Settings}
    (test : testDebug settings given.option.name = tested) (later : tested.debug ≠ 3) :
    parseArguments settings (argsOf (given :: rest)) =
      parseArguments (given.effect tested) (argsOf rest) := by
  have named := orderly.named given (List.mem_cons_self ..)
  have plain := orderly.plain given (List.mem_cons_self ..)
  have stored : (given.effect tested).debug ≠ 3 := by
    rw [GivenOption.effect_debug]
    exact later
  rw [argsOf, List.flatMap_cons, GivenOption.args, List.cons_append, parseArguments,
    parseArgument_text, test, given.apply_eq named]
  exact parseArguments_value stored plain (argsOf rest)

theorem parse {options : List GivenOption} (orderly : IsOrderly options)
    {settings : Settings} (later : settings.debug ≠ 3) :
    parseArguments settings (argsOf options) =
      .ok (options.foldl GivenOption.effect settings) := by
  induction options generalizing settings with
  | nil => rfl
  | cons given rest ih =>
      have stored : (given.effect settings).debug ≠ 3 := by
        rw [GivenOption.effect_debug]
        exact later
      rw [orderly.round (testDebug_later later _) later, ih orderly.tail stored]
      rfl

/-- The whole command line: the first option decides about `debug`. -/
theorem parseCommandLine_cons {given : GivenOption} {rest : List GivenOption}
    (orderly : IsOrderly (given :: rest)) (settings : Settings) (program : CString) :
    parseCommandLine settings (program :: argsOf (given :: rest)) =
      .ok ((given :: rest).foldl GivenOption.effect
        (settings.withDebug given.option.debugFlag)) := by
  have long : 2 ≤ (program :: argsOf (given :: rest)).length := by
    simp [argsOf, GivenOption.args]
  have later := given.option.debugFlag_ne
  rw [parseCommandLine, if_pos long]
  change parseArguments (settings.withDebug 3) (argsOf (given :: rest)) = _
  have stored : (given.effect (settings.withDebug given.option.debugFlag)).debug ≠ 3 := by
    rw [GivenOption.effect_debug]
    exact later
  rw [orderly.round (testDebug_first settings given.option) later, orderly.tail.parse stored]
  rfl

end IsOrderly

/-- The order of distinct options makes no difference to what they store. -/
theorem foldl_effect_perm {options other : List GivenOption} (distinct : Distinct options)
    (same : other.Perm options) (settings : Settings) :
    other.foldl GivenOption.effect settings = options.foldl GivenOption.effect settings := by
  refine same.foldl_eq' (fun first inFirst second inSecond settings => ?_) settings
  by_cases equal : first.option = second.option
  · have one := List.inj_on_of_nodup_map distinct (same.mem_iff.mp inFirst)
      (same.mem_iff.mp inSecond) equal
    rw [one]
  · exact CommandOption.store_comm (Ne.symm equal) _ _ settings

theorem foldl_effect_debug (options : List GivenOption) (settings : Settings) :
    (options.foldl GivenOption.effect settings).debug = settings.debug := by
  induction options generalizing settings with
  | nil => rfl
  | cons given rest ih => rw [List.foldl_cons, ih, GivenOption.effect_debug]

/-! ## The whole grammar -/

/--
What is expected of a vector of options that have their values: no value is
taken for an option, the parser comes to its end, and any other order of the
options leaves the same settings.
-/
structure ReadsWell (settings : Settings) (program : CString) (options : List GivenOption) :
    Prop where
  untaken : ∀ given ∈ options, ∀ value ∈ given.value, optionOf value.tail = none
  parsed : ∃ after, parseCommandLine settings (program :: argsOf options) = .ok after
  ordered : ∀ other : List GivenOption, other.Perm options →
    parseCommandLine settings (program :: argsOf other) =
      parseCommandLine settings (program :: argsOf options)

/-- `-debug` is not there, or nothing else is. -/
def DebugAlone (options : List GivenOption) : Prop :=
  (∃ given ∈ options, given.option = .debug) → options.length ≤ 1

/-- No argument is empty where the parser comes to its end. -/
theorem nonempty_of_parsed {settings after : Settings} {args : List CString}
    (parsed : parseArguments settings args = .ok after) : ∀ arg ∈ args, arg ≠ [] := by
  induction args generalizing settings with
  | nil => exact List.forall_mem_nil _
  | cons arg rest ih =>
      obtain ⟨middle, first, later⟩ := parseArguments_cons.mp parsed
      refine List.forall_mem_cons.mpr ⟨?_, ih later⟩
      rintro rfl
      cases first

/-- Nothing is behind the last argument. -/
theorem last_of_parsed {settings after : Settings} {front : List CString} {last : CString}
    (parsed : parseArguments settings (front ++ [last]) = .ok after) :
    ∃ middle, parseArgument middle last none = .ok after := by
  obtain ⟨middle, later⟩ := parseArguments_append parsed
  obtain ⟨final, stored, done⟩ := parseArguments_cons.mp later
  exact ⟨middle, stored.trans done⟩

theorem argsOf_append (front back : List GivenOption) :
    argsOf (front ++ back) = argsOf front ++ argsOf back :=
  List.flatMap_append

namespace ReadsWell

variable {settings : Settings} {program : CString} {options : List GivenOption}

/-- The loop comes to its end for every order of the options. -/
theorem loop (well : ReadsWell settings program options) {other : List GivenOption}
    (same : other.Perm options) :
    ∃ start after, parseArguments start (argsOf other) = .ok after := by
  obtain ⟨after, parsed⟩ := well.parsed
  rw [← well.ordered other same] at parsed
  exact ⟨_, after, parsed⟩

theorem isOrderly (well : ReadsWell settings program options) : IsOrderly options := by
  constructor
  · intro given member text inValue
    obtain ⟨start, after, parsed⟩ := well.loop (List.Perm.refl options)
    have isArg : text ∈ argsOf options := by
      refine List.mem_flatMap.mpr ⟨given, member, List.mem_cons_of_mem _ ?_⟩
      exact Option.mem_toList.mpr inValue
    exact ⟨nonempty_of_parsed parsed text isArg,
      optionOf_eq_none_iff.mp (well.untaken given member text inValue)⟩
  · intro given member logtcp unnamed
    -- in the order with `-logtcp` at the end there is no argument behind it
    obtain ⟨front, back, rfl⟩ := List.append_of_mem member
    have same : (front ++ back ++ [given]).Perm (front ++ given :: back) := by
      refine (List.perm_append_singleton given (front ++ back)).trans ?_
      exact List.perm_middle.symm
    obtain ⟨start, after, parsed⟩ := well.loop same
    have args : argsOf [given] = [CommandOption.logtcp.text] := by
      rw [argsOf, List.flatMap_singleton, GivenOption.args, unnamed, logtcp]
      rfl
    rw [argsOf_append, args] at parsed
    obtain ⟨middle, stored⟩ := last_of_parsed parsed
    rw [parseArgument_text] at stored
    cases stored

/-- The settings in another order of the options have their `debug`. -/
theorem debugFlag_eq (well : ReadsWell settings program options) {first second : GivenOption}
    {rest other : List GivenOption} (same : (first :: rest).Perm options)
    (swapped : (second :: other).Perm options) :
    first.option.debugFlag = second.option.debugFlag := by
  have equal := (well.ordered _ same).trans (well.ordered _ swapped).symm
  rw [(well.isOrderly.perm same).parseCommandLine_cons,
    (well.isOrderly.perm swapped).parseCommandLine_cons] at equal
  have flags := congrArg Settings.debug (Except.ok.inj equal)
  rw [foldl_effect_debug, foldl_effect_debug] at flags
  exact flags

theorem debugAlone (well : ReadsWell settings program options) (distinct : Distinct options) :
    DebugAlone options := by
  rintro ⟨given, member, debug⟩
  obtain ⟨front, back, rfl⟩ := List.append_of_mem member
  have debugFirst : (given :: (front ++ back)).Perm (front ++ given :: back) :=
    List.perm_middle.symm
  rw [Distinct, ← (debugFirst.map GivenOption.option).nodup_iff, List.map_cons,
    List.nodup_cons] at distinct
  cases others : front ++ back with
  | nil => rw [← debugFirst.length_eq, others, List.length_singleton]
  | cons second rest =>
      -- the order that begins with another option
      rw [others] at debugFirst distinct
      have swapped := (List.Perm.swap given second rest).trans debugFirst
      have flags := well.debugFlag_eq debugFirst swapped
      have apart : second.option ≠ .debug := by
        intro equal
        exact distinct.1 (by rw [debug, ← equal]; exact List.mem_cons_self ..)
      rw [CommandOption.debugFlag, CommandOption.debugFlag, if_pos debug, if_neg apart] at flags
      exact absurd flags (by decide)

end ReadsWell

/-- Two orders of distinct options begin with the same value of `debug`. -/
theorem DebugAlone.debugFlag_eq {options rest : List GivenOption}
    {first second : GivenOption} (alone : DebugAlone (first :: options))
    (same : (second :: rest).Perm (first :: options)) :
    second.option.debugFlag = first.option.debugFlag := by
  by_cases debug : ∃ given ∈ first :: options, given.option = .debug
  · have single : options = [] := by
      have short := alone debug
      rw [List.length_cons] at short
      exact List.eq_nil_of_length_eq_zero (by omega)
    rw [single] at same
    rw [(List.cons.inj (List.perm_singleton.mp same)).1]
  · have none {given : GivenOption} (member : given ∈ first :: options) :
        given.option ≠ .debug := fun equal => debug ⟨given, member, equal⟩
    have secondThere := same.mem_iff.mp (List.mem_cons_self ..)
    rw [CommandOption.debugFlag, CommandOption.debugFlag, if_neg (none secondThere),
      if_neg (none (List.mem_cons_self ..))]

/-- The grammar of vectors in which every option has its value. -/
theorem readsWell_iff (settings : Settings) (program : CString) {options : List GivenOption}
    (distinct : Distinct options) :
    ReadsWell settings program options ↔ IsOrderly options ∧ DebugAlone options := by
  constructor
  · exact fun well => ⟨well.isOrderly, well.debugAlone distinct⟩
  · rintro ⟨orderly, alone⟩
    refine ⟨fun given member value inValue =>
      optionOf_eq_none_iff.mpr (orderly.plain given member value inValue).2, ?_, ?_⟩
    · cases options with
      | nil => exact ⟨settings, rfl⟩
      | cons first rest => exact ⟨_, orderly.parseCommandLine_cons settings program⟩
    · intro other same
      cases options with
      | nil => rw [same.eq_nil]
      | cons first rest =>
          cases other with
          | nil => exact absurd same.symm.eq_nil (List.cons_ne_nil _ _)
          | cons second others =>
              rw [(orderly.perm same).parseCommandLine_cons, orderly.parseCommandLine_cons,
                alone.debugFlag_eq same, foldl_effect_perm distinct same]

/-! ## An option without its value at the end -/

/-- Nothing is read through the NULL behind the arguments or behind the end of one of them. -/
def ReadsInside (parsed : Except ParseStop Settings) : Prop :=
  parsed ≠ .error .nullRead ∧ parsed ≠ .error .pastEnd

/-- The argument is empty, or it is taken for a request for help. -/
def EndsParser (arg : CString) : Prop :=
  arg = [] ∨ optionOf arg.tail = some .help

instance : DecidablePred EndsParser :=
  fun _ => inferInstanceAs (Decidable (_ ∨ _))

theorem EndsParser.stops {arg : CString} (ends : EndsParser arg) (settings : Settings)
    (next : Option CString) :
    parseArgument settings arg next = .error (if arg = [] then .pastEnd else .help) := by
  cases arg with
  | nil => rfl
  | cons c tail =>
      have help : optionOf tail = some .help := ends.resolve_left (List.cons_ne_nil _ _)
      rw [if_neg (List.cons_ne_nil _ _), parseArgument]
      simp only [help]
      rfl

/-- Any other argument that has one behind it. -/
theorem parseArgument_goes {arg : CString} (goes : ¬ EndsParser arg) (settings : Settings)
    (next : CString) : ∃ after, parseArgument settings arg (some next) = .ok after := by
  obtain ⟨nonempty, unhelped⟩ := not_or.mp goes
  cases arg with
  | nil => exact absurd rfl nonempty
  | cons c tail =>
      rw [List.tail_cons] at unhelped
      rw [parseArgument]
      cases taken : optionOf tail with
      | none => exact ⟨_, rfl⟩
      | some option =>
          rw [taken, Option.some.injEq] at unhelped
          exact ⟨_, CommandOption.apply_some unhelped _ next⟩

/-- The parser gets past arguments that do not end it. -/
theorem parseArguments_goes {front : List CString} (goes : ∀ arg ∈ front, ¬ EndsParser arg)
    (settings : Settings) (arg : CString) (back : List CString) :
    ∃ before, parseArguments settings (front ++ arg :: back) =
      parseArguments before (arg :: back) := by
  induction front generalizing settings with
  | nil => exact ⟨settings, rfl⟩
  | cons first rest ih =>
      obtain ⟨next, behind⟩ : ∃ next, (rest ++ arg :: back).head? = some next := by
        cases rest with
        | nil => exact ⟨arg, rfl⟩
        | cons next rest => exact ⟨next, rfl⟩
      obtain ⟨after, went⟩ := parseArgument_goes (goes first (List.mem_cons_self ..)) settings next
      obtain ⟨before, later⟩ := ih (fun other member => goes other (List.mem_cons_of_mem _ member))
        after
      refine ⟨before, ?_⟩
      rw [List.cons_append, parseArguments, behind, went]
      exact later

/-- The first argument that ends the parser decides how it ends. -/
theorem parseArguments_ends {args : List CString} {arg : CString}
    (ends : args.find? (fun arg => EndsParser arg) = some arg) (settings : Settings)
    (last : CString) :
    parseArguments settings (args ++ [last]) =
      .error (if arg = [] then .pastEnd else .help) := by
  obtain ⟨stops, front, back, rfl, goes⟩ := List.find?_eq_some_iff_append.mp ends
  obtain ⟨before, later⟩ := parseArguments_goes
    (fun other member => by simpa using goes other member) settings arg (back ++ [last])
  rw [List.append_assoc, List.cons_append, later, parseArguments,
    (of_decide_eq_true stops).stops]
  rfl

/-- Where none does, the last argument is parsed, with nothing behind it. -/
theorem parseArguments_last {args : List CString}
    (goes : args.find? (fun arg => EndsParser arg) = none) (settings : Settings)
    (last : CString) :
    ∃ before, parseArguments settings (args ++ [last]) = parseArgument before last none := by
  obtain ⟨before, later⟩ := parseArguments_goes
    (fun other member => by simpa using List.find?_eq_none.mp goes other member) settings last []
  refine ⟨before, later.trans ?_⟩
  rw [parseArguments]
  exact bind_pure _

/-- The options whose branches read through `argv[i + 1]` without a test. -/
theorem CommandOption.apply_none {option : CommandOption} (must : option.rule = some .must)
    (settings : Settings) :
    ReadsInside (option.apply settings none) ↔ option = .httpenable ∨ option = .cwd := by
  cases option with
  | debug | sendack | quickvalidate | motd | logtcp | help | rconpassword =>
      exact absurd must (by decide)
  | httpenable | cwd =>
      refine iff_of_true ⟨fun read => ?_, fun read => ?_⟩ (by decide)
      · cases read
      · cases read
  | _ => exact iff_of_false (fun inside => inside.1 rfl) (by decide)

/-- An option ends the parser with its value only. -/
theorem find?_argsOf (options : List GivenOption) :
    (argsOf options).find? (fun arg => EndsParser arg) =
      (options.filterMap GivenOption.value).find? fun value => EndsParser value := by
  have text (given : GivenOption) : ¬ EndsParser given.option.text := by
    refine not_or.mpr ⟨List.cons_ne_nil _ _, ?_⟩
    rw [CommandOption.text, List.tail_cons, optionOf_name]
    split_ifs
    · decide
    · intro help
      exact given.documented (congrArg CommandOption.rule (Option.some.inj help))
  induction options with
  | nil => rfl
  | cons given rest ih =>
      rw [argsOf, List.flatMap_cons, GivenOption.args, List.cons_append,
        List.find?_cons_of_neg (by simpa using text given), List.find?_append]
      cases value : given.value with
      | none =>
          rw [List.filterMap_cons_none value]
          exact ih
      | some found =>
          rw [List.filterMap_cons_some value, Option.toList_some, List.find?_cons,
            List.find?_cons]
          cases decide (EndsParser found) with
          | true => rfl
          | false => exact ih

/--
The last option is one that copes without its value and no value ends the
parser before it; or one does, and the first of these is not an empty one.
-/
def CopesWithout (options : List GivenOption) (cut : CommandOption) : Prop :=
  match (options.filterMap GivenOption.value).find? fun value => EndsParser value with
  | none => cut = .httpenable ∨ cut = .cwd
  | some value => value ≠ []

/-- A last option without its value is read through NULL unless the parser copes with it. -/
theorem cutOff_iff (settings : Settings) (program : CString) (options : List GivenOption)
    {cut : CommandOption} (must : cut.rule = some .must) :
    ReadsInside (parseCommandLine settings (program :: (argsOf options ++ [cut.text]))) ↔
      CopesWithout options cut := by
  rw [parseCommandLine, List.tail_cons, CopesWithout, ← find?_argsOf]
  generalize (if 2 ≤ (program :: (argsOf options ++ [cut.text])).length then
    { settings with debug := 3 } else settings) = start
  cases ends : (argsOf options).find? fun arg => EndsParser arg with
  | none =>
      obtain ⟨before, last⟩ := parseArguments_last ends start cut.text
      rw [last, parseArgument_text]
      exact CommandOption.apply_none must _
  | some arg =>
      rw [parseArguments_ends ends]
      by_cases empty : arg = []
      · exact iff_of_false (fun inside => inside.2 (by rw [if_pos empty]))
          fun filled => filled empty
      · refine iff_of_true ⟨?_, ?_⟩ empty
        · rw [if_neg empty]
          exact fun read => nomatch read
        · rw [if_neg empty]
          exact fun read => nomatch read

/--
A vector of distinct documented options with their values reads well exactly
when every value is plain, `-logtcp` has its file name, and `-debug` is alone.
One whose last option lacks its value is read inside its arguments exactly when
that option is `-httpenable` or `-cwd` and the parser gets to it, or the parser
ends before it with a request for help.
-/
theorem commandLine_grammar_iff (settings : Settings) (program : CString) :
    (∀ options : List GivenOption, Distinct options →
      (ReadsWell settings program options ↔ IsOrderly options ∧ DebugAlone options)) ∧
    ∀ (options : List GivenOption) (cut : CommandOption), cut.rule = some .must →
      (ReadsInside (parseCommandLine settings (program :: (argsOf options ++ [cut.text]))) ↔
        CopesWithout options cut) :=
  ⟨fun _ distinct => readsWell_iff settings program distinct,
    fun options _ must => cutOff_iff settings program options must⟩

/-- `-port 27901`. -/
def givenPort : GivenOption :=
  ⟨.port, some (ascii "27901"), by decide, by decide, by decide⟩

/-- `-sendack`. -/
def givenSendack : GivenOption :=
  ⟨.sendack, none, by decide, by decide, by decide⟩

/-- `-debug`. -/
def givenDebug : GivenOption :=
  ⟨.debug, none, by decide, by decide, by decide⟩

theorem commandLine_grammar_iff_port :
    ReadsWell .initial (ascii "gsmaster") [givenPort, givenSendack] ∧
      ReadsInside (parseCommandLine .initial (ascii "gsmaster" :: (argsOf [givenPort] ++
        [CommandOption.httpenable.text]))) := by
  obtain ⟨whole, cut⟩ := commandLine_grammar_iff .initial (ascii "gsmaster")
  have plain : IsPlain (ascii "27901") := by
    refine ⟨by decide, ?_⟩
    decide
  have goes : ([givenPort].filterMap GivenOption.value).find? (fun value => EndsParser value) =
      none := by
    decide
  refine ⟨(whole _ (by decide)).mpr ⟨⟨?_, ?_⟩, ?_⟩, (cut _ _ rfl).mpr ?_⟩
  · simp [givenPort, givenSendack, plain]
  · simp [givenPort, givenSendack]
  · rintro ⟨given, member, debug⟩
    simp only [List.mem_cons, List.not_mem_nil, or_false] at member
    rcases member with rfl | rfl <;> exact absurd debug (by decide)
  · rw [CopesWithout, goes]
    exact Or.inl rfl

/-- The order decides about debug mode, and `-port` at the end is read through NULL. -/
theorem commandLine_grammar_fails :
    (¬ ∀ (settings : Settings) (program : CString) (options : List GivenOption),
      Distinct options → ReadsWell settings program options) ∧
    ¬ ∀ (settings : Settings) (program : CString) (options : List GivenOption)
      (cut : CommandOption), cut.rule = some .must →
      ReadsInside (parseCommandLine settings (program :: (argsOf options ++ [cut.text]))) := by
  constructor
  · intro always
    have distinct : Distinct [givenDebug, givenSendack] := by decide
    have well := always .initial (ascii "gsmaster") [givenDebug, givenSendack] distinct
    have alone := well.debugAlone distinct ⟨givenDebug, List.mem_cons_self .., rfl⟩
    exact absurd alone (by decide)
  · intro always
    exact (always .initial (ascii "gsmaster") [] .port rfl).1 rfl

end GSMaster.Startup
