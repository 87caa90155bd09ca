import Downlink.Json.Basic
import Downlink.Text.Numeral

/-! # Argument grammars

Command lines of switches and operands. A switch may be shortened to a beginning
that fits no other one and may carry its value after an equals sign. Single-letter
switches may be joined, and a value may follow the last one directly. After `--`
all words are operands.
-/

namespace Downlink.CommandLine

inductive Effect where
  | help
  | mark
  | store
  deriving DecidableEq, Repr

/-- A switch; without choices it admits any value. -/
structure Switch where
  names : List String
  effect : Effect
  choices : List String
  deriving DecidableEq, Repr

/-- An operand; one that opens a command takes all words after it along. -/
structure Operand where
  name : String
  choices : List String
  opensCommand : Bool
  deriving DecidableEq, Repr

structure Grammar where
  switches : List Switch
  operands : List Operand

/-- Why parsing ends early: help was asked for, or the words do not fit the grammar. -/
inductive Stop where
  | help
  | usage
  deriving DecidableEq, Repr

/-- What a switch or an operand is given: a word, or nothing, which is also what an attached `--`
gives. -/
inductive Value where
  | word (text : String)
  | nothing
  deriving DecidableEq, Repr

def Value.toJson : Value → Json
  | word text => .str text
  | nothing => .arr []

/-- A switch that a word names, and what stands behind it in that word. -/
structure Hit where
  switch : Switch
  name : String
  attached : Option (List Char)

inductive Word where
  | plain (text : String)
  | separator
  | switch (text : String) (hit : Option Hit)

def Word.text : Word → String
  | plain text => text
  | separator => "--"
  | switch text _ => text

/-- The words as they have been assigned, in order; `command` holds the words after the one that
opens a command, and `extras` those that nothing takes. -/
structure Parsed where
  values : List (String × Value)
  command : List String
  extras : List String

namespace Switch

def key (s : Switch) : String :=
  s.names.headD ""

end Switch

namespace Grammar

def named? (g : Grammar) (name : String) : Option Switch :=
  g.switches.find? fun s => s.names.contains name

def cut? (cs : List Char) : Option (String × List Char) :=
  match cs.dropWhile (· != '=') with
  | _ :: value => some (String.ofList (cs.takeWhile (· != '=')), value)
  | [] => none

/-- The switches that a word with two hyphens may abbreviate. -/
def abbreviated (g : Grammar) (cs : List Char) : List Hit :=
  let (front, attached) := match cut? cs with
    | some (front, value) => (front, some value)
    | none => (String.ofList cs, none)
  g.switches.flatMap fun s =>
    (s.names.filter (·.startsWith front)).map fun name => ⟨s, name, attached⟩

/-- The single-letter switch that a word begins with. -/
def joined (g : Grammar) (cs : List Char) : List Hit :=
  match g.named? (String.ofList (cs.take 2)) with
  | some s => [⟨s, String.ofList (cs.take 2), some (cs.drop 2)⟩]
  | none => []

def candidates (g : Grammar) (cs : List Char) : List Hit :=
  match cs with
  | '-' :: '-' :: _ => g.abbreviated cs
  | _ => g.joined cs

/-- The switch that a word names in full, alone or before an equals sign. -/
def fullHit? (g : Grammar) (s : String) : Option Hit :=
  match g.named? s with
  | some switch => some ⟨switch, s, none⟩
  | none => do
    let (name, value) ← cut? s.toList
    return ⟨← g.named? name, name, some value⟩

def isDigit (c : Char) : Bool :=
  (Text.digitValue? c).isSome

/-- A word such as `-1` or `-.5`, which a line feed may end. -/
def isNegativeNumber (cs : List Char) : Bool :=
  match if cs.getLast? = some '\n' then cs.dropLast else cs with
  | '-' :: rest =>
    let whole := rest.takeWhile isDigit
    match rest.dropWhile isDigit with
    | [] => !whole.isEmpty
    | '.' :: places => !places.isEmpty && places.all isDigit
    | _ => false
  | _ => false

/-- What a word before any separator is. -/
def classify? (g : Grammar) (s : String) : Except Stop Word :=
  let cs := s.toList
  if cs.head? ≠ some '-' then .ok (.plain s)
  else
    match g.fullHit? s with
    | some hit => .ok (.switch s (some hit))
    | none =>
      if cs.length = 1 then .ok (.plain s)
      else
        match g.candidates cs with
        | [hit] => .ok (.switch s (some hit))
        | _ :: _ :: _ => .error .usage
        | [] =>
          if isNegativeNumber cs || cs.contains ' ' then .ok (.plain s)
          else .ok (.switch s none)

def words? (g : Grammar) : List String → Except Stop (List Word)
  | [] => .ok []
  | s :: rest =>
    if s = "--" then .ok (.separator :: rest.map .plain)
    else do
      let word ← g.classify? s
      let words ← g.words? rest
      return word :: words

/-- The switches joined in one word. Those in `marks` take no value; that of `last` is attached, or
it is still to come. -/
structure Joined where
  marks : List Switch
  last : Switch
  value : Option (List Char)

/-- Takes apart what stands behind the single-letter switch `s`: it is the value of one that stores,
and more switches behind one that does not. -/
def splitJoined? (g : Grammar) (marks : List Switch) (s : Switch) : List Char → Except Stop Joined
  | [] => .ok ⟨marks, s, none⟩
  | c :: rest =>
    if s.effect = .store then .ok ⟨marks, s, some (c :: rest)⟩
    else
      match g.named? (String.ofList ['-', c]) with
      | some next => g.splitJoined? (marks ++ [s]) next rest
      | none => .error .usage

def joinedOf? (g : Grammar) (hit : Hit) : Except Stop Joined :=
  if hit.switch.effect = .store then .ok ⟨[], hit.switch, hit.attached⟩
  else
    match hit.attached with
    | none => .ok ⟨[], hit.switch, none⟩
    | some text =>
      if text.isEmpty || hit.name.startsWith "--" then .error .usage
      else g.splitJoined? [] hit.switch text

def admit? (choices : List String) (value : String) : Except Stop Value :=
  if choices.isEmpty || choices.contains value then .ok (.word value) else .error .usage

def addValue (p : Parsed) (key : String) (value : Value) : Parsed :=
  { p with values := p.values ++ [(key, value)] }

def mark? (p : Parsed) (s : Switch) : Except Stop Parsed :=
  if s.effect = .help then .error .help else .ok (addValue p s.key .nothing)

def store? (p : Parsed) (s : Switch) (value : String) : Except Stop Parsed :=
  (admit? s.choices value).map (addValue p s.key)

/-- Stores a value that is attached to its switch. -/
def storeAttached? (p : Parsed) (s : Switch) (value : String) : Except Stop Parsed :=
  if value = "--" then .ok (addValue p s.key .nothing) else store? p s value

def addExtra (p : Parsed) (s : String) : Parsed :=
  { p with extras := p.extras ++ [s] }

def takeOperand? (p : Parsed) (o : Operand) (s : String) (rest : List Word) :
    Except Stop Parsed := do
  let p := addValue p o.name (← admit? o.choices s)
  return if o.opensCommand then { p with command := rest.map Word.text } else p

def assign? (g : Grammar) (p : Parsed) : List Operand → List Word → Except Stop Parsed
  | operands, [] => if operands.isEmpty then .ok p else .error .usage
  | operands, .switch s none :: rest => g.assign? (addExtra p s) operands rest
  | operands, .switch _ (some hit) :: rest => do
    let joined ← g.joinedOf? hit
    if joined.last.effect ≠ .store then
      g.assign? (← mark? (← joined.marks.foldlM mark? p) joined.last) operands rest
    else
      match joined.value with
      | some value =>
        let p ← joined.marks.foldlM mark? p
        g.assign? (← storeAttached? p joined.last (String.ofList value)) operands rest
      | none =>
        match rest with
        | .plain value :: rest =>
          let p ← joined.marks.foldlM mark? p
          g.assign? (← store? p joined.last value) operands rest
        | _ => .error .usage
  | [], .plain s :: rest => g.assign? (addExtra p s) [] rest
  | o :: operands, .plain s :: rest => do
    let p ← takeOperand? p o s rest
    if o.opensCommand then return p
    match rest with
    | .separator :: rest => g.assign? p operands rest
    | rest => g.assign? p operands rest
  | [], .separator :: rest => g.assign? (addExtra p "--") [] rest
  | o :: operands, .separator :: .plain s :: rest =>
    if o.opensCommand then .error .usage
    else do g.assign? (← takeOperand? p o s rest) operands rest
  | o :: operands, .separator :: rest => g.assign? (addExtra p "--") (o :: operands) rest

def parse? (g : Grammar) (args : List String) : Except Stop Parsed := do
  g.assign? ⟨[], [], []⟩ g.operands (← g.words? args)

end Grammar

namespace Parsed

def last? (p : Parsed) (key : String) : Option Value :=
  (p.values.filter (·.1 = key)).getLast?.map Prod.snd

def word? (p : Parsed) (key : String) : Option String := do
  match ← p.last? key with
  | .word text => some text
  | .nothing => none

def all (p : Parsed) (key : String) : List Value :=
  (p.values.filter (·.1 = key)).map Prod.snd

def has (p : Parsed) (key : String) : Bool :=
  p.values.any (·.1 = key)

end Parsed

end Downlink.CommandLine
