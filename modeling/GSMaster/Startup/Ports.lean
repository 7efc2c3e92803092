import GSMaster.Startup.CommandLine

/-!
# The settings that the program runs with

Whatever the command line is, a program that gets past it has settings that fit
into their buffers, and `Check_Port_Boundaries` leaves it two ports that differ
and that `bind` takes as they were written. It keeps the ports that were chosen
where it can.
-/

namespace GSMaster.Startup

open GSMaster.Text GSMaster.Lists GSMaster.Registry

/-! ## The ports -/

def ushrtMax : Int := 65535

/--
The tests of a port in `Check_Port_Boundaries`, and the number that is compared
with the other one.
-/
def checkPort (standard : CString) (number : Int) (bindPort : CString) : CString × Int :=
  let port := if bindPort ≠ [] then atoi bindPort else 0
  if bindPort = [] ∨ port < 1 then (strlcpy bindPort standard 6, number)
  else if port > ushrtMax then (strlcpy bindPort standard 6, number)
  else (bindPort, port)

/-- `Check_Port_Boundaries`. -/
def Settings.checkPortBoundaries (settings : Settings) : Settings :=
  let udp := checkPort (ascii "27900") 27900 settings.bindPort
  let tcp := checkPort (ascii "28900") 28900 settings.bindPortTcp
  if tcp.2 = udp.2 then
    { settings with
      bindPort := strlcpy udp.1 (ascii "27900") 6
      bindPortTcp := strlcpy tcp.1 (ascii "28900") 6 }
  else { settings with bindPort := udp.1, bindPortTcp := tcp.1 }

/-- `(unsigned short)atoi(bind_port)`, the port that is bound. -/
def listenPort (bindPort : CString) : UInt16 :=
  UInt16.ofInt (atoi bindPort)

/-- The text denotes a port. -/
def IsPort (bindPort : CString) : Prop :=
  1 ≤ atoi bindPort ∧ atoi bindPort ≤ ushrtMax

instance (bindPort : CString) : Decidable (IsPort bindPort) :=
  inferInstanceAs (Decidable (_ ∧ _))

/-- Two ports that differ. -/
structure Settings.PortsApart (settings : Settings) : Prop where
  udp : IsPort settings.bindPort
  tcp : IsPort settings.bindPortTcp
  apart : atoi settings.bindPort ≠ atoi settings.bindPortTcp

theorem checkPort_of_isPort {bindPort : CString} (port : IsPort bindPort) (standard : CString)
    (number : Int) : checkPort standard number bindPort = (bindPort, atoi bindPort) := by
  obtain ⟨low, high⟩ := port
  have nonempty : bindPort ≠ [] := by
    rintro rfl
    exact absurd low (by decide)
  unfold checkPort
  simp only [if_pos nonempty]
  rw [if_neg (not_or.mpr ⟨nonempty, not_lt.mpr low⟩), if_neg (not_lt.mpr high)]

/-- A text that denotes no port is replaced by the standard one. -/
theorem checkPort_standard {bindPort : CString} (other : ¬ IsPort bindPort) (standard : CString)
    (number : Int) :
    checkPort standard number bindPort = (strlcpy bindPort standard 6, number) := by
  unfold checkPort
  by_cases empty : bindPort = []
  · exact if_pos (Or.inl empty)
  · simp only [if_pos empty]
    by_cases low : atoi bindPort < 1
    · exact if_pos (Or.inr low)
    · rw [if_neg (not_or.mpr ⟨empty, low⟩)]
      exact if_pos (not_le.mp fun high => other ⟨not_lt.mp low, high⟩)

/-- What the tests leave denotes the number that they compare. -/
theorem checkPort_spec {standard : CString} {number : Int} (denotes : atoi standard = number)
    (port : IsPort standard) (copied : ∀ old, strlcpy old standard 6 = standard)
    (bindPort : CString) :
    IsPort (checkPort standard number bindPort).1 ∧
      atoi (checkPort standard number bindPort).1 = (checkPort standard number bindPort).2 := by
  by_cases chosen : IsPort bindPort
  · rw [checkPort_of_isPort chosen]
    exact ⟨chosen, rfl⟩
  · rw [checkPort_standard chosen, copied]
    exact ⟨port, denotes⟩

namespace Settings

/-- After the checks the two ports differ. -/
theorem checkPortBoundaries_apart (settings : Settings) :
    settings.checkPortBoundaries.PortsApart := by
  obtain ⟨udp, udpNumber⟩ := checkPort_spec (by decide : atoi (ascii "27900") = 27900)
    (by decide) (fun _ => rfl) settings.bindPort
  obtain ⟨tcp, tcpNumber⟩ := checkPort_spec (by decide : atoi (ascii "28900") = 28900)
    (by decide) (fun _ => rfl) settings.bindPortTcp
  have standard : IsPort (ascii "27900") ∧ IsPort (ascii "28900") ∧
      atoi (ascii "27900") ≠ atoi (ascii "28900") := by decide
  unfold checkPortBoundaries
  simp only
  split
  · exact ⟨standard.1, standard.2.1, standard.2.2⟩
  · rename_i apart
    refine ⟨udp, tcp, fun same => apart ?_⟩
    rw [← udpNumber, ← tcpNumber]
    exact same.symm

/-- The checks change nothing exactly where two ports have been chosen that differ. -/
theorem checkPortBoundaries_eq_iff (settings : Settings) :
    settings.checkPortBoundaries = settings ↔ settings.PortsApart := by
  constructor
  · intro same
    rw [← same]
    exact settings.checkPortBoundaries_apart
  · rintro ⟨udp, tcp, apart⟩
    unfold checkPortBoundaries
    rw [checkPort_of_isPort udp, checkPort_of_isPort tcp]
    exact if_neg apart.symm

end Settings

theorem listenPort_toNat {bindPort : CString} (port : IsPort bindPort) :
    ((listenPort bindPort).toNat : Int) = atoi bindPort := by
  obtain ⟨low, high⟩ := port
  unfold ushrtMax at high
  rw [listenPort, UInt16.ofInt, UInt16.toNat_ofNat']
  omega

/-! ## The other settings -/

/--
The texts fit into their buffers, and what an option switches on has what it
needs.
-/
structure Settings.Fits (settings : Settings) : Prop where
  httpdlFilename : settings.httpdlFilename.length < maxPath
  httpdl : settings.bHttpEnable = true →
    settings.httpdlFilename ≠ [] ∧ isDashed settings.httpdlFilename = false
  rconPassword : settings.rconPassword.length < keyLen
  minimumHeartbeats : 1 ≤ settings.minimumHeartbeats
  bindIp : settings.bindIp.length < keyLen
  bindPort : settings.bindPort.length < keyLen
  bindPortTcp : settings.bindPortTcp.length < keyLen
  serverlistFilename : settings.serverlistFilename.length < maxPath
  serverlist : settings.loadServerlist = true → settings.serverlistFilename ≠ []
  masterserverlistFilename : settings.masterserverlistFilename.length < maxPath
  masterlist : settings.loadMasterServerlist = true → settings.masterserverlistFilename ≠ []
  logtcpFilename : settings.logtcpFilename.length < maxPath
  logtcp : settings.logtcpFilename ≠ [] ∧ isDashed settings.logtcpFilename = false
  serverListGenerationPath : settings.serverListGenerationPath.length < maxPath
  generation : settings.bGenerateServerList = true →
    settings.serverListGenerationPath ≠ [] ∧ isDashed settings.serverListGenerationPath = false

theorem strlcpy_length_lt (old source : CString) {size : Nat} (positive : 0 < size) :
    (strlcpy old source size).length < size := by
  rw [strlcpy, if_neg positive.ne', List.length_take]
  omega

theorem isDashed_strlcpy (old source : CString) {size : Nat} (room : 1 < size) :
    isDashed (strlcpy old source size) = isDashed source := by
  rw [strlcpy, if_neg (by omega), isDashed, isDashed, List.head?_take, if_neg (by omega)]

theorem strlcpy_ne_nil (old : CString) {source : CString} (filled : source ≠ []) {size : Nat}
    (room : 1 < size) : strlcpy old source size ≠ [] := by
  rw [strlcpy, if_neg (by omega)]
  refine List.ne_nil_of_length_pos ?_
  rw [List.length_take]
  exact Nat.lt_min.mpr ⟨by omega, List.length_pos_iff.mpr filled⟩

theorem Settings.initial_fits : Settings.initial.Fits := by
  constructor
  all_goals decide

theorem heartbeatMinimum_pos (value : CString) : 1 ≤ heartbeatMinimum value := by
  unfold heartbeatMinimum
  simp only
  split
  · exact UInt32.le_refl 1
  · rename_i enough
    exact UInt32.not_lt.mp enough

/-- The name of the log is the given one, or the standard one where that is no name. -/
theorem logtcpName_fits (settings : Settings) (value : CString) :
    (logtcpName settings value).length < maxPath ∧ logtcpName settings value ≠ [] ∧
      isDashed (logtcpName settings value) = false := by
  unfold logtcpName
  simp only
  split
  · have standard : logtcpDefaultname.take (maxPath - 1) ≠ [] ∧
        isDashed (logtcpDefaultname.take (maxPath - 1)) = false := by decide
    exact ⟨strlcpy_length_lt _ _ (by decide), standard⟩
  · rename_i named
    obtain ⟨nonempty, plain⟩ := not_or.mp named
    exact ⟨strlcpy_length_lt _ _ (by decide), mt List.length_eq_zero_iff.mpr nonempty,
      Bool.eq_false_iff.mpr plain⟩

/-- The step lemma: every branch keeps the settings fit, where its value is not empty. -/
theorem CommandOption.apply_fits {settings after : Settings} (fits : settings.Fits)
    {option : CommandOption} {next : Option CString} (filled : ∀ value ∈ next, value ≠ [])
    (parsed : option.apply settings next = .ok after) : after.Fits := by
  have name (old value : CString) : (strlcpy old value maxPath).length < maxPath :=
    strlcpy_length_lt old value (by decide)
  have key (old value : CString) : (strlcpy old value keyLen).length < keyLen :=
    strlcpy_length_lt old value (by decide)
  have named (old : CString) {value : CString} (given : value ∈ next) :
      strlcpy old value maxPath ≠ [] :=
    strlcpy_ne_nil old (filled value given) (by decide)
  cases option with
  | debug | sendack | quickvalidate | motd | cwd =>
      obtain rfl := Except.ok.inj parsed
      exact { fits with }
  | help => cases parsed
  | httpenable =>
      cases next with
      | none =>
          obtain rfl := Except.ok.inj parsed
          exact fits
      | some value =>
          rw [CommandOption.apply] at parsed
          split at parsed
          · obtain rfl := Except.ok.inj parsed
            exact fits
          · rename_i plain
            obtain rfl := Except.ok.inj parsed
            refine { fits with
              httpdlFilename := name settings.httpdlFilename value
              httpdl := fun _ => ?_ }
            rw [isDashed_strlcpy _ _ (by decide)]
            exact ⟨named settings.httpdlFilename rfl, Bool.eq_false_iff.mpr plain⟩
  | rconpassword =>
      obtain ⟨value, -, rfl⟩ := withValue_ok parsed
      exact { fits with rconPassword := key settings.rconPassword value }
  | minimumheartbeats =>
      obtain ⟨value, -, rfl⟩ := withValue_ok parsed
      exact { fits with minimumHeartbeats := heartbeatMinimum_pos value }
  | ip =>
      obtain ⟨value, -, rfl⟩ := withValue_ok parsed
      exact { fits with bindIp := key settings.bindIp value }
  | port =>
      obtain ⟨value, -, rfl⟩ := withValue_ok parsed
      exact { fits with bindPort := key settings.bindPort value }
  | tcpport =>
      obtain ⟨value, -, rfl⟩ := withValue_ok parsed
      exact { fits with bindPortTcp := key settings.bindPortTcp value }
  | serverlist =>
      obtain ⟨value, rfl, rfl⟩ := withValue_ok parsed
      exact { fits with
        serverlistFilename := name settings.serverlistFilename value
        serverlist := fun _ => named settings.serverlistFilename rfl }
  | masterlist =>
      obtain ⟨value, rfl, rfl⟩ := withValue_ok parsed
      exact { fits with
        masterserverlistFilename := name settings.masterserverlistFilename value
        masterlist := fun _ => named settings.masterserverlistFilename rfl }
  | logtcp =>
      obtain ⟨value, -, rfl⟩ := withValue_ok parsed
      obtain ⟨short, named⟩ := logtcpName_fits settings value
      exact { fits with logtcpFilename := short, logtcp := named }
  | generateserverlist =>
      obtain ⟨value, -, rfl⟩ := withValue_ok parsed
      refine { fits with serverListGenerationPath := ?_, generation := fun on => ?_ }
      · simp only
        split
        · exact name settings.serverListGenerationPath value
        · decide
      · have named := of_decide_eq_true on
        simp only [if_pos named]
        exact ⟨mt List.length_eq_zero_iff.mpr named.1, Bool.eq_false_iff.mpr named.2⟩
  | validationrequired | timestamp | heartbeatinterval | serverlisttimer =>
      obtain ⟨value, -, rfl⟩ := withValue_ok parsed
      exact { fits with }

/-- No branch behind the test for `-debug` stores the mode. -/
theorem CommandOption.apply_debug {settings after : Settings} {option : CommandOption}
    {next : Option CString} (parsed : option.apply settings next = .ok after) :
    after.debug = settings.debug := by
  cases option with
  | help => cases parsed
  | debug | sendack | quickvalidate | motd | cwd =>
      rw [← Except.ok.inj parsed]
  | httpenable =>
      cases next with
      | none => rw [← Except.ok.inj parsed]
      | some value =>
          rw [CommandOption.apply] at parsed
          split at parsed <;> rw [← Except.ok.inj parsed]
  | _ =>
      obtain ⟨value, -, rfl⟩ := withValue_ok parsed
      rfl

theorem testDebug_fits {settings : Settings} (fits : settings.Fits) (tail : CString) :
    (testDebug settings tail).Fits ∧ (testDebug settings tail).debug ≠ 3 := by
  unfold testDebug
  split
  · refine ⟨{ fits with }, ?_⟩
    change (if _ then (1 : Int) else 0) ≠ 3
    split <;> decide
  · rename_i tested
    exact ⟨fits, tested⟩

/-- After an argument the settings fit, and the mode is decided. -/
theorem parseArgument_fits {settings after : Settings} (fits : settings.Fits) {arg : CString}
    {next : Option CString} (filled : ∀ value ∈ next, value ≠ [])
    (parsed : parseArgument settings arg next = .ok after) :
    after.Fits ∧ after.debug ≠ 3 := by
  cases arg with
  | nil => cases parsed
  | cons c tail =>
      obtain ⟨tested, decided⟩ := testDebug_fits fits tail
      rw [parseArgument] at parsed
      split at parsed
      · obtain rfl := Except.ok.inj parsed
        exact ⟨tested, decided⟩
      · refine ⟨CommandOption.apply_fits tested filled parsed, ?_⟩
        rw [CommandOption.apply_debug parsed]
        exact decided

theorem parseArguments_fits {settings after : Settings} (fits : settings.Fits)
    {args : List CString} (filled : ∀ arg ∈ args, arg ≠ [])
    (parsed : parseArguments settings args = .ok after) :
    after.Fits ∧ (args ≠ [] ∨ settings.debug ≠ 3 → after.debug ≠ 3) := by
  induction args generalizing settings with
  | nil =>
      obtain rfl := Except.ok.inj parsed
      exact ⟨fits, fun decided => decided.resolve_left fun some => some rfl⟩
  | cons arg rest ih =>
      obtain ⟨middle, first, later⟩ := parseArguments_cons.mp parsed
      obtain ⟨-, filled⟩ := List.forall_mem_cons.mp filled
      have behind : ∀ value ∈ rest.head?, value ≠ [] := fun value next =>
        filled value (List.mem_of_mem_head? next)
      obtain ⟨fits', decided⟩ := parseArgument_fits fits behind first
      obtain ⟨kept, still⟩ := ih fits' filled later
      exact ⟨kept, fun _ => still (Or.inr decided)⟩

theorem Settings.Fits.checkPortBoundaries {settings : Settings} (fits : settings.Fits) :
    settings.checkPortBoundaries.Fits := by
  have standard : (ascii "27900").length < keyLen ∧ (ascii "28900").length < keyLen := by decide
  have checked (text : CString) (number : Int) {bindPort : CString}
      (short : bindPort.length < keyLen) :
      (checkPort text number bindPort).1.length < keyLen := by
    by_cases port : IsPort bindPort
    · rw [checkPort_of_isPort port]
      exact short
    · rw [checkPort_standard port]
      have cut := strlcpy_length_lt bindPort text (by decide : 0 < 6)
      exact cut.trans (by decide)
  unfold Settings.checkPortBoundaries
  simp only
  split
  · exact { fits with bindPort := standard.1, bindPortTcp := standard.2 }
  · exact { fits with
      bindPort := checked _ _ fits.bindPort
      bindPortTcp := checked _ _ fits.bindPortTcp }

theorem Settings.checkPortBoundaries_debug (settings : Settings) :
    settings.checkPortBoundaries.debug = settings.debug := by
  unfold checkPortBoundaries
  simp only
  split
  · rfl
  · rfl

/-- The ports of two settings that differ are bound as they are. -/
theorem Settings.PortsApart.listenPort {settings : Settings} (apart : settings.PortsApart) :
    listenPort settings.bindPort ≠ 0 ∧ listenPort settings.bindPortTcp ≠ 0 ∧
      listenPort settings.bindPort ≠ listenPort settings.bindPortTcp := by
  have udp := listenPort_toNat apart.udp
  have tcp := listenPort_toNat apart.tcp
  have low := apart.udp.1
  have lowTcp := apart.tcp.1
  refine ⟨fun zero => ?_, fun zero => ?_, fun same => ?_⟩
  · rw [zero] at udp
    exact absurd (udp ▸ low) (by decide)
  · rw [zero] at tcp
    exact absurd (tcp ▸ lowTcp) (by decide)
  · rw [same] at udp
    exact apart.apart (udp.symm.trans tcp)

/--
The program runs with settings that fit: for every command line without an
empty argument that it gets past, all texts fit into their buffers, what is
switched on has its file or path, and it listens on two ports that differ.
Ports that were chosen so are kept, and any others are not.
-/
theorem settings_fit (argv : List CString) (filled : ∀ arg ∈ argv.tail, arg ≠ [])
    (settings : Settings)
    (parsed : parseCommandLine Settings.initial argv = .ok settings) :
    settings.checkPortBoundaries.Fits ∧ settings.checkPortBoundaries.debug ≠ 3 ∧
      (listenPort settings.checkPortBoundaries.bindPort ≠ 0 ∧
        listenPort settings.checkPortBoundaries.bindPortTcp ≠ 0 ∧
        listenPort settings.checkPortBoundaries.bindPort ≠
          listenPort settings.checkPortBoundaries.bindPortTcp) ∧
      (settings.checkPortBoundaries = settings ↔ settings.PortsApart) := by
  have initial := Settings.initial_fits
  have run : settings.Fits ∧ settings.debug ≠ 3 := by
    rw [parseCommandLine] at parsed
    by_cases some : 2 ≤ argv.length
    · rw [if_pos some] at parsed
      have testing : Settings.Fits { Settings.initial with debug := 3 } := { initial with }
      obtain ⟨fits, decided⟩ := parseArguments_fits testing filled parsed
      refine ⟨fits, decided (Or.inl fun none => ?_)⟩
      have length := congrArg List.length none
      rw [List.length_tail, List.length_nil] at length
      omega
    · rw [if_neg some] at parsed
      obtain ⟨fits, decided⟩ := parseArguments_fits initial filled parsed
      exact ⟨fits, decided (Or.inr (by decide))⟩
  refine ⟨run.1.checkPortBoundaries, ?_, settings.checkPortBoundaries_apart.listenPort,
    settings.checkPortBoundaries_eq_iff⟩
  rw [settings.checkPortBoundaries_debug]
  exact run.2

/-- `gsmaster -port 28900` would listen twice on one port; both fall back. -/
theorem settings_fit_port :
    let settings := { Settings.initial with bindPort := ascii "28900" }
    settings.checkPortBoundaries.Fits ∧
      listenPort settings.checkPortBoundaries.bindPort = 27900 := by
  have parsed : parseCommandLine Settings.initial
      [ascii "gsmaster", ascii "-port", ascii "28900"] =
        .ok { Settings.initial with bindPort := ascii "28900" } := by decide
  exact ⟨(settings_fit _ (by decide) _ parsed).1, by decide⟩

end GSMaster.Startup
