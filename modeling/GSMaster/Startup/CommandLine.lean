import GSMaster.Lists.FileList

/-!
# The command line

`ParseCommandLine` tests every argument, whether an option or the value of one,
from its second character on against a fixed order of names. It consumes no
value: a branch looks at the argument behind the one that is tested, and behind
the last one that is the NULL at `argv[argc]`.
-/

namespace GSMaster.Startup

open GSMaster.Text GSMaster.Lists GSMaster.Registry

/-- `KEY_LEN`. -/
def keyLen : Nat := 32

/-- `LOGTCP_DEFAULTNAME`. -/
def logtcpDefaultname : CString := ascii "gspytcp.log"

/-- `serverListGenerationTime`: `DEFAULTSERVERLISTGENERATIONTIME`, or what `atof` reads. -/
inductive GenerationTime where
  | standard
  | atof (text : CString)
  deriving DecidableEq, Repr

/--
The variables that the options set, and the paths that `chdir` has been called
with, of which the last that exists is the working directory.
-/
structure Settings where
  debug : Int
  bSendGameSpyAck : Bool
  bValidateNewserverImmediately : Bool
  validationRequired : Int
  timestamp : Int
  httpdlFilename : CString
  bHttpEnable : Bool
  rconPassword : CString
  heartbeatInterval : UInt64
  minimumHeartbeats : UInt32
  bindIp : CString
  bindPort : CString
  bindPortTcp : CString
  serverListGenerationTime : GenerationTime
  serverlistFilename : CString
  loadServerlist : Bool
  masterserverlistFilename : CString
  loadMasterServerlist : Bool
  bMotd : Bool
  logtcpFilename : CString
  bLogTCP : Bool
  serverListGenerationPath : CString
  bGenerateServerList : Bool
  chdirs : List (Option CString)
  deriving DecidableEq, Repr

/-- The values at the start of the program. -/
def Settings.initial : Settings where
  debug := 0
  bSendGameSpyAck := false
  bValidateNewserverImmediately := false
  validationRequired := 0
  timestamp := 0
  httpdlFilename := []
  bHttpEnable := false
  rconPassword := []
  heartbeatInterval := 300
  minimumHeartbeats := 2
  bindIp := ascii "0.0.0.0"
  bindPort := ascii "27900"
  bindPortTcp := ascii "28900"
  serverListGenerationTime := .standard
  serverlistFilename := []
  loadServerlist := false
  masterserverlistFilename := []
  loadMasterServerlist := false
  bMotd := false
  logtcpFilename := logtcpDefaultname
  bLogTCP := false
  serverListGenerationPath := []
  bGenerateServerList := false
  chdirs := []

/-- The part of the settings that the registry works with. -/
def Settings.config (settings : Settings) : Config where
  bSendGameSpyAck := settings.bSendGameSpyAck
  bValidateNewserverImmediately := settings.bValidateNewserverImmediately
  validationRequired := settings.validationRequired
  heartbeatInterval := settings.heartbeatInterval
  minimumHeartbeats := settings.minimumHeartbeats

/--
What ends the parser before the last argument: the help text, a read through
the NULL behind the arguments, or a read behind the end of an empty argument.
-/
inductive ParseStop where
  | help
  | nullRead
  | pastEnd
  deriving DecidableEq, Repr

/-- The options by their branches; `debug` has its own test in front of the others. -/
inductive CommandOption where
  | debug
  | help
  | sendack
  | quickvalidate
  | validationrequired
  | timestamp
  | httpenable
  | rconpassword
  | heartbeatinterval
  | minimumheartbeats
  | ip
  | port
  | tcpport
  | serverlisttimer
  | serverlist
  | masterlist
  | motd
  | logtcp
  | generateserverlist
  | cwd
  deriving DecidableEq, Repr

/-- The names in the order of the tests. Each is compared over its whole length. -/
def optionNames : List (CString × CommandOption) :=
  [(ascii "?", .help), (ascii "help", .help), (ascii "sendack", .sendack),
    (ascii "quickvalidate", .quickvalidate), (ascii "validationrequired", .validationrequired),
    (ascii "timestamp", .timestamp), (ascii "httpenable", .httpenable),
    (ascii "rconpassword", .rconpassword), (ascii "heartbeatinterval", .heartbeatinterval),
    (ascii "minimumheartbeats", .minimumheartbeats), (ascii "ip", .ip), (ascii "port", .port),
    (ascii "tcpport", .tcpport), (ascii "serverlisttimer", .serverlisttimer),
    (ascii "serverlist", .serverlist), (ascii "masterlist", .masterlist), (ascii "motd", .motd),
    (ascii "logtcp", .logtcp), (ascii "generateserverlist", .generateserverlist),
    (ascii "cwd", .cwd)]

/-- `!strnicmp(argv[i] + 1, name, sizeof(name) - 1)` for the text at `argv[i] + 1`. -/
def isNamed (tail name : CString) : Bool :=
  strnicmpEq tail name name.length

/-- The branch that is taken for an argument. -/
def optionOf (tail : CString) : Option CommandOption :=
  (optionNames.find? fun row => isNamed tail row.1).map Prod.snd

/-- A branch that reads through `argv[i + 1]` whatever it is. -/
def withValue (next : Option CString) (store : CString → Settings) : Except ParseStop Settings :=
  match next with
  | none => .error .nullRead
  | some value => .ok (store value)

/-- The text begins with a `-`. -/
def isDashed (text : CString) : Bool :=
  text.head? == some 45

/-- `heartbeatInterval` after `-heartbeatinterval`: `atol`, and minutes to seconds. -/
def heartbeatMinutes (value : CString) : UInt64 :=
  let heartbeatInterval := UInt64.ofInt (strtol value)
  if heartbeatInterval < 1 then 60 else heartbeatInterval * 60

/-- `minimumHeartbeats` after `-minimumheartbeats`. -/
def heartbeatMinimum (value : CString) : UInt32 :=
  let minimumHeartbeats := UInt32.ofInt (atoi value)
  if minimumHeartbeats < 1 then 1 else minimumHeartbeats

/-- `logtcp_filename` after `-logtcp`. -/
def logtcpName (settings : Settings) (value : CString) : CString :=
  let logtcpFilename := strlcpy settings.logtcpFilename value maxPath
  if logtcpFilename.length = 0 ∨ isDashed logtcpFilename then
    strlcpy logtcpFilename logtcpDefaultname maxPath
  else logtcpFilename

/-- The branches of `ParseCommandLine`; `next` is `argv[i + 1]`. -/
def CommandOption.apply (settings : Settings) (next : Option CString) :
    CommandOption → Except ParseStop Settings
  | .debug => .ok settings
  | .help => .error .help
  | .sendack => .ok { settings with bSendGameSpyAck := true }
  | .quickvalidate => .ok { settings with bValidateNewserverImmediately := true }
  | .validationrequired =>
      withValue next fun value => { settings with validationRequired := atoi value }
  | .timestamp => withValue next fun value => { settings with timestamp := atoi value }
  | .httpenable =>
      match next with
      | none => .ok settings
      | some value =>
          if isDashed value then .ok settings
          else .ok
            { settings with
              httpdlFilename := strlcpy settings.httpdlFilename value maxPath
              bHttpEnable := true }
  | .rconpassword =>
      withValue next fun value =>
        { settings with rconPassword := strlcpy settings.rconPassword value keyLen }
  | .heartbeatinterval =>
      withValue next fun value => { settings with heartbeatInterval := heartbeatMinutes value }
  | .minimumheartbeats =>
      withValue next fun value => { settings with minimumHeartbeats := heartbeatMinimum value }
  | .ip =>
      withValue next fun value => { settings with bindIp := strlcpy settings.bindIp value keyLen }
  | .port =>
      withValue next fun value =>
        { settings with bindPort := strlcpy settings.bindPort value keyLen }
  | .tcpport =>
      withValue next fun value =>
        { settings with bindPortTcp := strlcpy settings.bindPortTcp value keyLen }
  | .serverlisttimer =>
      withValue next fun value =>
        { settings with
          serverListGenerationTime :=
            if value.length = 0 ∨ isDashed value then .standard else .atof value }
  | .serverlist =>
      withValue next fun value =>
        { settings with
          serverlistFilename := strlcpy settings.serverlistFilename value maxPath
          loadServerlist := true }
  | .masterlist =>
      withValue next fun value =>
        { settings with
          masterserverlistFilename := strlcpy settings.masterserverlistFilename value maxPath
          loadMasterServerlist := true }
  | .motd => .ok { settings with bMotd := true }
  | .logtcp =>
      withValue next fun value =>
        { settings with logtcpFilename := logtcpName settings value, bLogTCP := true }
  | .generateserverlist =>
      withValue next fun value =>
        let path := strlcpy settings.serverListGenerationPath value maxPath
        let named := path.length ≠ 0 ∧ ¬ isDashed path
        { settings with
          serverListGenerationPath := if named then path else []
          bGenerateServerList := named }
  -- `chdir(NULL)` fails with `EFAULT`; the path is printed after `ENOENT` only
  | .cwd => .ok { settings with chdirs := settings.chdirs ++ [next] }

/-- The test for `-debug`, which only the first argument gets to. -/
def testDebug (settings : Settings) (tail : CString) : Settings :=
  if settings.debug = 3 then
    { settings with debug := if isNamed tail (ascii "debug") then 1 else 0 }
  else settings

/-- One round of the loop. -/
def parseArgument (settings : Settings) (arg : CString) (next : Option CString) :
    Except ParseStop Settings :=
  match arg with
  | [] => .error .pastEnd
  | _ :: tail =>
      let settings := testDebug settings tail
      match optionOf tail with
      | none => .ok settings
      | some option => option.apply settings next

/-- The loop over the arguments that are left. -/
def parseArguments (settings : Settings) : List CString → Except ParseStop Settings
  | [] => .ok settings
  | arg :: rest => do
      let settings ← parseArgument settings arg rest.head?
      parseArguments settings rest

/-- `ParseCommandLine` for the arguments `argv[0]` to `argv[argc - 1]`. -/
def parseCommandLine (settings : Settings) (argv : List CString) : Except ParseStop Settings :=
  let settings := if 2 ≤ argv.length then { settings with debug := 3 } else settings
  parseArguments settings argv.tail

theorem withValue_ok {next : Option CString} {store : CString → Settings} {settings : Settings}
    (parsed : withValue next store = .ok settings) :
    ∃ value, next = some value ∧ settings = store value := by
  cases next with
  | none => cases parsed
  | some value => exact ⟨value, rfl, (Except.ok.inj parsed).symm⟩

theorem parseArguments_cons {settings after : Settings} {arg : CString} {rest : List CString} :
    parseArguments settings (arg :: rest) = .ok after ↔
      ∃ middle, parseArgument settings arg rest.head? = .ok middle ∧
        parseArguments middle rest = .ok after := by
  rw [parseArguments]
  cases parseArgument settings arg rest.head? with
  | error stop => simp [bind, Except.bind]
  | ok middle => simp [bind, Except.bind]

theorem parseArguments_append {settings after : Settings} {front back : List CString}
    (parsed : parseArguments settings (front ++ back) = .ok after) :
    ∃ middle, parseArguments middle back = .ok after := by
  induction front generalizing settings with
  | nil => exact ⟨settings, parsed⟩
  | cons arg front ih =>
      obtain ⟨middle, -, later⟩ := parseArguments_cons.mp parsed
      exact ih later

end GSMaster.Startup
