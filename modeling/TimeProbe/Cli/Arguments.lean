import TimeProbe.Binary64.Reading
import TimeProbe.Cli.Options
import TimeProbe.Config.Path
import TimeProbe.Text.Quoted

/-!
# Arguments

The words of a command line are first read one by one: each is a value, the mark
behind which only values stand, or an option. A long option may be shortened as long
as it stays the only one; short ones may be joined, and the last of them may have its
value right behind it. Then the options take their values in order, the first value
left is the host, and every other word is refused at the end.
-/

namespace TimeProbe.Cli

open TimeProbe.Text

/-- The arguments of a run. -/
structure Arguments where
  host : String := "localhost"
  port : Option Int := none
  timeout : String
  nts : Bool := false
  kePort : Int
  caFile : Option String := none
  caseTimeout : Binary64
  /-- The starts of names to choose; one of them may have been taken away. -/
  only : List (Option String) := []
  verbose : Bool := false
  noColor : Bool := false
  /-- The options whose values were taken away. -/
  emptied : List Flag := []

/-- The arguments of an empty command line. -/
def Arguments.default (settings : Settings) : Arguments :=
  { timeout := s!"{settings.defaultTimeoutMs}ms"
    kePort := settings.defaultKePort
    caseTimeout := settings.caseTimeoutSec }

/-- What is wrong with a command line. -/
inductive UsageError
  | ambiguous (word : String) (matching : List String)
  | missingValue (flag : Flag)
  | needlessValue (flag : Flag) (value : String)
  | notAnInteger (flag : Flag) (value : String)
  | notANumber (flag : Flag) (value : String)
  | unrecognized (words : List String)
deriving DecidableEq

namespace UsageError

/-- A complaint about an option. -/
def about (flag : Flag) (complaint : String) : String :=
  "argument " ++ flag.label ++ ": " ++ complaint

/-- What the error says. -/
def message : UsageError → String
  | ambiguous word matching =>
    "ambiguous option: " ++ word ++ " could match " ++ String.intercalate ", " matching
  | missingValue flag => about flag "expected one argument"
  | needlessValue flag value => about flag ("ignored explicit argument " ++ quoted value)
  | notAnInteger flag value => about flag ("invalid int value: " ++ quoted value)
  | notANumber flag value => about flag ("invalid float value: " ++ quoted value)
  | unrecognized words => "unrecognized arguments: " ++ String.intercalate " " words

/-- The usage and the complaint, as they are printed. -/
def text (e : UsageError) : String :=
  String.intercalate "\n" (usage ++ [program ++ ": error: " ++ e.message, ""])

end UsageError

/-- One word of a command line. -/
inductive Token
  | value (word : String)
  /-- The mark behind which only values stand. -/
  | separator
  /-- An option, whether it is spelled short, and what stands behind it in the same word. -/
  | flag (f : Flag) (short : Bool) (attached : Option (List Char))
  /-- A word that looks like an option but is none. -/
  | unknown (word : String)
deriving DecidableEq

/-- Whether a word is a negative decimal number without an exponent. One line feed may
end it. -/
def looksNegative (cs : List Char) : Bool :=
  match cs with
  | '-' :: rest =>
    let body := if rest.getLast? = some '\n' then rest.dropLast else rest
    let whole := body.takeWhile isDigit
    match body.dropWhile isDigit with
    | [] => !whole.isEmpty
    | '.' :: part => !part.isEmpty && part.all isDigit
    | _ => false
  | _ => false

/-- The text before the first equals sign, and the value behind it if there is one. -/
def splitAssigned (word : List Char) : String × Option (List Char) :=
  let name := String.ofList (word.takeWhile (· != '='))
  match word.dropWhile (· != '=') with
  | [] => (name, none)
  | _ :: value => (name, some value)

/-- A word that starts with a dash and is no option: a negative number and a word with
a space are values. -/
def otherWord (word : String) : Token :=
  if looksNegative word.toList || word.toList.contains ' ' then .value word else .unknown word

/-- A word that starts with two dashes and is no complete option. -/
def readShortened (word : String) : Except UsageError Token :=
  let (start, attached) := splitAssigned word.toList
  match Flag.startingWith start with
  | [] => .ok (otherWord word)
  | [(f, _)] => .ok (.flag f false attached)
  | candidates => .error (.ambiguous word (candidates.map (·.2)))

/-- A word that starts with one dash and is no complete option: a short option with
something joined to it. -/
def readJoined (word : String) : Token :=
  match Flag.ofSpelling? (String.ofList (word.toList.take 2)) with
  | some f => .flag f true (word.toList.drop 2)
  | none => otherWord word

/-- Whether a word starts with two dashes. -/
def isLong (word : List Char) : Bool := ['-', '-'].isPrefixOf word

/-- A word in front of the separator. -/
def readWord (word : String) : Except UsageError Token :=
  let cs := word.toList
  if cs.head? ≠ some '-' || cs.length = 1 then .ok (.value word)
  else
    match Flag.ofSpelling? word with
    | some f => .ok (.flag f (!isLong cs) none)
    | none =>
      let (name, attached) := splitAssigned cs
      match attached, Flag.ofSpelling? name with
      | some _, some f => .ok (.flag f (!isLong cs) attached)
      | _, _ => if isLong cs then readShortened word else .ok (readJoined word)

/-- The words of a command line. -/
def readWords : List String → Except UsageError (List Token)
  | [] => .ok []
  | word :: rest =>
    if word = "--" then .ok (.separator :: rest.map .value)
    else do
      let token ← readWord word
      let tokens ← readWords rest
      return token :: tokens

/-- How a group of joined options ends. -/
inductive GroupEnd
  /-- The last option takes no value. -/
  | plain
  /-- An option that takes the next word as its value. -/
  | pending (f : Flag)
  /-- An option with its value. -/
  | given (f : Flag) (value : String)
deriving DecidableEq

/-- The options of a group: one of them, with those in front of it, and the characters
behind it. The characters are the value of the option if it takes one, and else the
letters of further options. -/
def expandJoined (f : Flag) (before : List Flag) :
    List Char → Except UsageError (List Flag × GroupEnd)
  | [] => .ok (if f.takesValue then (before, .pending f) else (before ++ [f], .plain))
  | c :: rest =>
    if f.takesValue then .ok (before, .given f (String.ofList (c :: rest)))
    else
      match Flag.ofSpelling? (String.ofList ['-', c]) with
      | some g => expandJoined g (before ++ [f]) rest
      | none => .error (.needlessValue f (String.ofList (c :: rest)))

/-- The options that one word stands for. Only behind a short option may others follow. -/
def expand (f : Flag) (short : Bool) :
    Option (List Char) → Except UsageError (List Flag × GroupEnd)
  | none => expandJoined f [] []
  | some value =>
    if f.takesValue then .ok ([], .given f (String.ofList value))
    else if short && !value.isEmpty then expandJoined f [] value
    else .error (.needlessValue f (String.ofList value))

/-- Why a command line starts no run. -/
inductive Stop
  | help
  | refused (error : UsageError)
deriving DecidableEq

/-- The arguments so far, whether the host was named, and the words nobody took. -/
structure Progress where
  arguments : Arguments
  hostNamed : Bool := false
  extras : List String := []

namespace Progress

/-- An option without a value. -/
def raise (p : Progress) : Flag → Except Stop Progress
  | .help => .error .help
  | .nts => .ok { p with arguments := { p.arguments with nts := true } }
  | .verbose => .ok { p with arguments := { p.arguments with verbose := true } }
  | .noColor => .ok { p with arguments := { p.arguments with noColor := true } }
  | _ => .ok p

/-- The integer that an option was given. -/
def integer (f : Flag) (value : String) : Except Stop Int :=
  match Numeral.integer? value with
  | some n => .ok n
  | none => .error (.refused (.notAnInteger f value))

/-- The number that an option was given. -/
def number (f : Flag) (value : String) : Except Stop Binary64 :=
  match Binary64.read? value with
  | some x => .ok x
  | none => .error (.refused (.notANumber f value))

/-- An option with a value. -/
def assignValue (p : Progress) (f : Flag) (value : String) : Except Stop Progress :=
  let a := p.arguments
  match f with
  | .port => do return { p with arguments := { a with port := some (← integer f value) } }
  | .kePort => do return { p with arguments := { a with kePort := ← integer f value } }
  | .caseTimeout => do return { p with arguments := { a with caseTimeout := ← number f value } }
  | .timeout => .ok { p with arguments := { a with timeout := value } }
  | .caFile => .ok { p with arguments := { a with caFile := some (Path.normal value) } }
  | .only => .ok { p with arguments := { a with only := a.only ++ [some value] } }
  | .help | .nts | .verbose | .noColor => .ok p

/-- An option whose value was taken away. -/
def empty (p : Progress) (f : Flag) : Progress :=
  let a := p.arguments
  { p with arguments :=
      if f = .only then { a with only := a.only ++ [none] }
      else { a with emptied := f :: a.emptied } }

/-- An option with a value. A value that is the separator is taken away. -/
def assign (p : Progress) (f : Flag) (value : String) : Except Stop Progress :=
  let a := p.arguments
  let p := { p with arguments := { a with emptied := a.emptied.filter (· ≠ f) } }
  if value = "--" then .ok (p.empty f) else p.assignValue f value

/-- A value that belongs to no option: the first one names the host. -/
def word (p : Progress) (value : String) : Progress :=
  if p.hostNamed then { p with extras := p.extras ++ [value] }
  else { p with arguments := { p.arguments with host := value }, hostNamed := true }

/-- A word that nobody took. -/
def extra (p : Progress) (value : String) : Progress := { p with extras := p.extras ++ [value] }

/-- Options without values, in order. -/
def raiseAll (p : Progress) (flags : List Flag) : Except Stop Progress := flags.foldlM raise p

/-- The separator. It goes with the host if the host stands next to it, on either side;
else nobody takes it. -/
def separator (p : Progress) (besideHost : Bool) : Progress :=
  if p.hostNamed && !besideHost then p.extra "--" else p

/-- Takes the words of a command line in order; `besideHost` says whether the last word
was the host. -/
def take (p : Progress) (besideHost : Bool) : List Token → Except Stop Progress
  | [] => .ok p
  | .value v :: rest => take (p.word v) (!p.hostNamed) rest
  | .separator :: rest => take (p.separator besideHost) false rest
  | .unknown w :: rest => take (p.extra w) false rest
  | .flag f short attached :: rest =>
    match expand f short attached with
    | .error e => .error (.refused e)
    | .ok (flags, .plain) => do take (← p.raiseAll flags) false rest
    | .ok (flags, .given g v) => do take (← (← p.raiseAll flags).assign g v) false rest
    | .ok (flags, .pending g) =>
      match rest with
      | .value v :: rest => do take (← (← p.raiseAll flags).assign g v) false rest
      | _ => .error (.refused (.missingValue g))

end Progress

namespace Arguments

/-- The arguments that a command line gives. -/
def parse (settings : Settings) (words : List String) : Except Stop Arguments :=
  match readWords words with
  | .error e => .error (.refused e)
  | .ok tokens => do
    let p ← Progress.take ⟨.default settings, false, []⟩ false tokens
    if p.extras.isEmpty then return p.arguments
    else throw (.refused (.unrecognized p.extras))

end Arguments

end TimeProbe.Cli
