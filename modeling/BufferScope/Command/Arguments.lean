/-
The command line: flags before the command, the command, and its options. Options may be clustered
behind one dash, a value may follow its option in the same word or the next, and nothing may be
given twice. The first thing wrong, or the first request for help, ends the reading.
-/
import BufferScope.Command.Help
import BufferScope.Decimal.Reading
import BufferScope.Effect.Kind

namespace BufferScope.Command

/-! ## Requests -/

/-- A render as it is asked for. -/
structure RenderRequest where
  effect : EffectKind
  input : Option String := none
  output : Option String := none
  seconds : Option Float := none
  framesDirectory : Option String := none
  config : Option String := none
  noWindow : Bool := false
  noDisplay : Bool := false

inductive Action where
  | effects
  | render (request : RenderRequest)

structure Invocation where
  verbose : Bool
  action : Action

/-- Why there is nothing to run. -/
inductive Interruption where
  | help (page : HelpPage)
  | misused
  deriving DecidableEq, Repr

/-! ## Options -/

inductive Flag where
  | verbose
  | help
  | noWindow
  | noDisplay
  deriving DecidableEq, Repr

/-- What takes a value. -/
inductive Parameter where
  | effect
  | input
  | output
  | seconds
  | framesDirectory
  | config
  deriving DecidableEq, Repr

inductive CommandOption where
  | flag (flag : Flag)
  | parameter (parameter : Parameter)
  deriving DecidableEq, Repr

/-- The options that are understood at a place of the command line, by long and by short name. -/
structure Vocabulary where
  long : String → Option CommandOption
  short : Char → Option CommandOption
  page : HelpPage

/-- The options that are understood everywhere. -/
def commonLong (name : String) : Option CommandOption :=
  match name with
  | "verbose" => some (.flag .verbose)
  | "help" => some (.flag .help)
  | _ => none

def commonShort (c : Char) : Option CommandOption :=
  match c with
  | 'v' => some (.flag .verbose)
  | 'h' => some (.flag .help)
  | _ => none

def programVocabulary : Vocabulary := ⟨commonLong, commonShort, .program⟩

def effectsVocabulary : Vocabulary := ⟨commonLong, commonShort, .effects⟩

def renderVocabulary : Vocabulary where
  long
    | "effect" => some (.parameter .effect)
    | "input" => some (.parameter .input)
    | "output" => some (.parameter .output)
    | "seconds" => some (.parameter .seconds)
    | "frames-dir" => some (.parameter .framesDirectory)
    | "config" => some (.parameter .config)
    | "no-window" => some (.flag .noWindow)
    | "no-display" => some (.flag .noDisplay)
    | name => commonLong name
  short
    | 'e' => some (.parameter .effect)
    | 'i' => some (.parameter .input)
    | 'o' => some (.parameter .output)
    | 's' => some (.parameter .seconds)
    | 'c' => some (.parameter .config)
    | c => commonShort c
  page := .render

/-! ## What was given -/

/-- The flags and values read so far. -/
structure Given where
  verbose : Bool := false
  noWindow : Bool := false
  noDisplay : Bool := false
  effect : Option EffectKind := none
  input : Option String := none
  output : Option String := none
  seconds : Option Float := none
  framesDirectory : Option String := none
  config : Option String := none

namespace Given

/-- Sets a value once. -/
def once {α : Type} (current value : Option α) : Except Interruption (Option α) :=
  match current, value with
  | none, some v => .ok (some v)
  | _, _ => .error .misused

/-- A flag may be given once; help ends the reading. -/
def setFlag (g : Given) (page : HelpPage) : Flag → Except Interruption Given
  | .help => .error (.help page)
  | .verbose => if g.verbose then .error .misused else .ok { g with verbose := true }
  | .noWindow => if g.noWindow then .error .misused else .ok { g with noWindow := true }
  | .noDisplay => if g.noDisplay then .error .misused else .ok { g with noDisplay := true }

/-- A path, which must not be empty. -/
def path? (value : String) : Option String := if value.isEmpty then none else some value

def setParameter (g : Given) (value : String) : Parameter → Except Interruption Given
  | .effect => return { g with effect := ← once g.effect (EffectKind.named value).toOption }
  | .input => return { g with input := ← once g.input (path? value) }
  | .output => return { g with output := ← once g.output (path? value) }
  | .seconds => return { g with seconds := ← once g.seconds (Decimal.read? value) }
  | .framesDirectory => return { g with framesDirectory := ← once g.framesDirectory (path? value) }
  | .config => return { g with config := ← once g.config (path? value) }

/-- Reads options behind one dash. A parameter without a value in the word waits for the next. -/
def readCluster (v : Vocabulary) (g : Given) : List Char → Except Interruption (Given × Option Parameter)
  | [] => .ok (g, none)
  | c :: rest =>
    match v.short c with
    | none => .error .misused
    | some (.flag f) => do readCluster v (← g.setFlag v.page f) rest
    | some (.parameter p) =>
      match rest with
      | [] => .ok (g, some p)
      | '=' :: value => (g.setParameter (String.ofList value) p).map (·, none)
      | value => (g.setParameter (String.ofList value) p).map (·, none)

/-- Reads an option by its long name, with a value behind an equals sign if there is one. -/
def readLong (v : Vocabulary) (g : Given) (word : List Char) : Except Interruption (Given × Option Parameter) :=
  let (name, rest) := word.span (· ≠ '=')
  match v.long (String.ofList name), rest with
  | some (.flag f), [] => (g.setFlag v.page f).map (·, none)
  | some (.parameter p), [] => .ok (g, some p)
  | some (.parameter p), _ :: value => (g.setParameter (String.ofList value) p).map (·, none)
  | _, _ => .error .misused

end Given

/-! ## Words -/

/-- What a word of the command line can be. -/
inductive Word where
  | separator
  | long (word : List Char)
  | cluster (letters : List Char)
  | plain

def Word.of (word : String) : Word :=
  match word.toList with
  | ['-', '-'] => .separator
  | '-' :: '-' :: rest => .long rest
  | '-' :: c :: rest => .cluster (c :: rest)
  | _ => .plain

/-- Whether a word can be the value of the option before it. -/
def isValue (word : String) : Bool :=
  match Word.of word with
  | .plain => true
  | _ => false

/-- Reads the options of a command, which takes no other words. -/
def readOptions (v : Vocabulary) (g : Given) : List String → Except Interruption Given
  | [] => .ok g
  | word :: rest => do
    let (g, waiting) ← match Word.of word with
      | .separator => if rest.isEmpty then .ok (g, none) else .error .misused
      | .long name => g.readLong v name
      | .cluster letters => g.readCluster v letters
      | .plain => .error .misused
    match waiting, rest with
    | none, rest => readOptions v g rest
    | some p, value :: rest =>
      if isValue value then readOptions v (← g.setParameter value p) rest else .error .misused
    | some _, [] => .error .misused

/-- The page that words after `help` ask for. -/
def readHelp : List String → Except Interruption Invocation
  | [] => .error (.help .program)
  | ["render"] => .error (.help .render)
  | ["effects"] => .error (.help .effects)
  | ["help"] => .error (.help .help)
  | _ => .error .misused

/-- Reads the words of a command, after those before it. -/
def readCommand (before : Given) (command : String) (words : List String) : Except Interruption Invocation :=
  match command with
  | "effects" => do
    let g ← readOptions effectsVocabulary {} words
    return { verbose := before.verbose || g.verbose, action := .effects }
  | "render" => do
    let g ← readOptions renderVocabulary {} words
    match g.effect with
    | none => .error .misused
    | some effect =>
      let request : RenderRequest :=
        { effect, input := g.input, output := g.output, seconds := g.seconds, framesDirectory := g.framesDirectory,
          config := g.config, noWindow := g.noWindow, noDisplay := g.noDisplay }
      return { verbose := before.verbose || g.verbose, action := .render request }
  | "help" => readHelp words
  | _ => .error .misused

/-- Reads a command line, the words after the program's name. -/
def readInvocation (given : Given) : List String → Except Interruption Invocation
  | [] => .error .misused
  | word :: rest =>
    match Word.of word with
    | .separator => .error .misused
    | .long name => do
      let (g, _) ← given.readLong programVocabulary name
      readInvocation g rest
    | .cluster letters => do
      let (g, _) ← given.readCluster programVocabulary letters
      readInvocation g rest
    | .plain => readCommand given word rest

end BufferScope.Command
