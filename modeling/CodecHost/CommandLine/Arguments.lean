import CodecHost.Path

/-! The words of a command line. A command has options, which start with a hyphen
and may take a value, and paths. The words are read from left to right, and the
first one that decides the matter ends the reading: a request for help, or a word
that makes no sense. -/
namespace CodecHost.CommandLine

inductive Command where
  /-- Loads the modules of a directory, recording as many as the capacity allows. -/
  | scan (directory : Path) (capacity : Option Nat)
  /-- Loads modules one by one. -/
  | load (first : Path) (others : List Path)
  /-- Lists what is active once a context is initialized. -/
  | list (config : Option Path) (pluginDirectory : Option Path)
  deriving DecidableEq

structure Invocation where
  verbose : Bool
  command : Command
  deriving DecidableEq

/-- Why a command line names nothing to do. -/
inductive Stop where
  | help
  | version
  | misuse
  deriving DecidableEq

inductive Verb where
  | scan
  | load
  | list
  deriving DecidableEq

/-- Options that take a value. -/
inductive Setting where
  | capacity
  | config
  | pluginDirectory
  deriving DecidableEq

def Verb.name : Verb → String
  | scan => "scan"
  | load => "load"
  | list => "list"

def Verb.all : List Verb := [.scan, .load, .list]

def Verb.ofWord? (word : Bytes) : Option Verb := Verb.all.find? fun v => Utf8.encode v.name = word

/-- The options of a command. -/
def Verb.settings : Verb → List Setting
  | scan => [.capacity]
  | load => []
  | list => [.config, .pluginDirectory]

/-- How many paths a command takes, if there is a limit. -/
def Verb.maxPaths : Verb → Option Nat
  | scan => some 1
  | load => none
  | list => some 0

def Setting.name : Setting → String
  | capacity => "capacity"
  | config => "config"
  | pluginDirectory => "plugin-dir"

/-- What the form of a word says about it. -/
inductive Word where
  /-- What follows is not read as options. -/
  | escape
  /-- An option by its name, with the value that is attached to it. -/
  | long (name : Bytes) (value : Option Bytes)
  /-- Options of one letter each. -/
  | short (letters : Bytes)
  | plain (word : Bytes)

def hyphen : UInt8 := 0x2D

def equals : UInt8 := 0x3D

def Word.of : Bytes → Word
  | [] => .plain []
  | [b] => .plain [b]
  | b :: c :: rest =>
    if b ≠ hyphen then .plain (b :: c :: rest)
    else if c ≠ hyphen then .short (c :: rest)
    else if rest.isEmpty then .escape
    else
      match rest.dropWhile (· ≠ equals) with
      | [] => .long rest none
      | _ :: value => .long (rest.takeWhile (· ≠ equals)) (some value)

/-- What has been read of a command. -/
structure Reading where
  verbose : Bool
  values : List (Setting × Bytes)
  paths : List Path

def Reading.empty : Reading := ⟨false, [], []⟩

/-- The one flag that all commands have. It may be given once. -/
def setVerbose (verbose : Bool) : Except Stop Bool := if verbose then .error .misuse else .ok true

/-- Flags of one letter, one after the other. Only where `versioned` holds may the
version be asked for. -/
def readLetters (versioned : Bool) : Bool → Bytes → Except Stop Bool
  | verbose, [] => .ok verbose
  | verbose, letter :: rest =>
    if letter = 0x76 then do
      let verbose ← setVerbose verbose
      readLetters versioned verbose rest
    else if letter = 0x68 then .error .help
    else if letter = 0x56 ∧ versioned then .error .version
    else .error .misuse

/-- A flag by its name. -/
def readFlag (versioned : Bool) (verbose : Bool) (name : Bytes) : Except Stop Bool :=
  if name = Utf8.encode "verbose" then setVerbose verbose
  else if name = Utf8.encode "help" then .error .help
  else if name = Utf8.encode "version" ∧ versioned then .error .version
  else .error .misuse

/-- Counts are words of 64 bits. -/
def capacityBound : Nat := 0x10000000000000000

/-- A count of slots: digits, perhaps behind a plus sign, of a number that fits in
a word of 64 bits. -/
def capacity? (value : Bytes) : Option Nat :=
  let digits := match value with
    | 0x2B :: rest => rest
    | all => all
  if digits.isEmpty ∨ ¬ digits.all (fun b => 0x30 ≤ b ∧ b ≤ 0x39) then none
  else
    let n := digits.foldl (fun n b => n * 10 + (b.toNat - 0x30)) 0
    if n < capacityBound then some n else none

/-- A value has to suit its option. -/
def Setting.suits (setting : Setting) (value : Bytes) : Bool :=
  match setting with
  | .capacity => (capacity? value).isSome
  | .config | .pluginDirectory => ¬ value.isEmpty

/-- Takes the value of an option, which may be given once. -/
def Reading.setValue (r : Reading) (setting : Setting) (value : Bytes) : Except Stop Reading :=
  if setting.suits value ∧ (r.values.lookup setting).isNone then
    .ok { r with values := r.values ++ [(setting, value)] }
  else .error .misuse

/-- Takes a path, which may not be empty, if the command has room for it. -/
def Reading.addPath (verb : Verb) (r : Reading) (word : Bytes) : Except Stop Reading :=
  let room : Bool := match verb.maxPaths with
    | some limit => r.paths.length < limit
    | none => true
  if room && !word.isEmpty then .ok { r with paths := r.paths ++ [⟨word⟩] } else .error .misuse

/-- The words of a command. `pending` is an option whose value comes next: only a
plain word can be one. -/
def readWords (verb : Verb) : Option Setting → Reading → List Bytes → Except Stop Reading
  | none, r, [] => .ok r
  | some _, _, [] => .error .misuse
  | some setting, r, word :: rest =>
    match Word.of word with
    | .plain value => do
      let r ← r.setValue setting value
      readWords verb none r rest
    | _ => .error .misuse
  | none, r, word :: rest =>
    match Word.of word with
    | .escape => rest.foldlM (Reading.addPath verb) r
    | .plain word => do
      let r ← r.addPath verb word
      readWords verb none r rest
    | .short letters => do
      let verbose ← readLetters false r.verbose letters
      readWords verb none { r with verbose } rest
    | .long name value =>
      match verb.settings.find? fun s => Utf8.encode s.name = name, value with
      | some setting, some value => do
        let r ← r.setValue setting value
        readWords verb none r rest
      | some setting, none => readWords verb (some setting) r rest
      | none, some _ => .error .misuse
      | none, none => do
        let verbose ← readFlag false r.verbose name
        readWords verb none { r with verbose } rest

/-- The command that has been read, if nothing it needs is missing. -/
def Reading.command? (r : Reading) (verb : Verb) : Option Command :=
  match verb, r.paths with
  | .scan, [directory] => some (.scan directory ((r.values.lookup .capacity).bind capacity?))
  | .load, first :: others => some (.load first others)
  | .list, [] =>
    some (.list ((r.values.lookup .config).map Path.mk) ((r.values.lookup .pluginDirectory).map Path.mk))
  | _, _ => none

/-- The words behind `help` name at most one command. -/
def readHelp : List Bytes → Stop
  | [] => .help
  | [word] =>
    if (Verb.ofWord? word).isSome ∨ word = Utf8.encode "help" then .help else .misuse
  | _ :: _ :: _ => .misuse

/-- Everything from the word that names the command on. -/
def readCommand (verbose : Bool) (verb : Verb) (rest : List Bytes) : Except Stop Invocation := do
  let r ← readWords verb none .empty rest
  match r.command? verb with
  | some command => .ok ⟨verbose || r.verbose, command⟩
  | none => .error .misuse

/-- The words before the command are flags. -/
def read (verbose : Bool) : List Bytes → Except Stop Invocation
  | [] => .error .misuse
  | word :: rest =>
    match Word.of word with
    | .plain word =>
      match Verb.ofWord? word with
      | some verb => readCommand verbose verb rest
      | none => if word = Utf8.encode "help" then .error (readHelp rest) else .error .misuse
    | .escape => .error .misuse
    | .short letters => do
      let verbose ← readLetters true verbose letters
      read verbose rest
    | .long _ (some _) => .error .misuse
    | .long name none => do
      let verbose ← readFlag true verbose name
      read verbose rest

/-- What a command line asks for. -/
def parse (words : List Bytes) : Except Stop Invocation := read false words

end CodecHost.CommandLine
