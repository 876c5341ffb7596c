import WorkflowGraph.Text.Digit
import WorkflowGraph.Text.Quoted

/-!
# Arguments

The arguments of a program are words and options. An option is named by a dash and a letter or by
two dashes and a word, of which any beginning will do that no other option has. Its value stands
behind it, or behind `=` within the same argument; options of one letter without value may be
joined. What follows `--` are words, and so are negative numbers and what holds a blank. Words are
given to the names that a grammar has for them, in order; what is left over is kept as unexpected.
The sign `--` itself stands for no value: an option whose value it is has none, and so has a name
that is given a second such sign.
-/

namespace WorkflowGraph.CommandLine

/-! ## Grammars -/

/-- What an option is for. -/
inductive Purpose where
  /-- Shows how the program is used and ends it. -/
  | help
  /-- Is given or not. -/
  | flag
  /-- Has one of a number of values. -/
  | choice (values : List String)
  deriving DecidableEq

/-- An option. -/
structure Switch where
  /-- The ways to write it, with their dashes. -/
  names : List String
  /-- What it is for. -/
  purpose : Purpose
  deriving DecidableEq

/-- What arguments a program takes. -/
structure Grammar where
  /-- The program as messages name it. -/
  program : String
  switches : List Switch
  /-- The names of the words, all of which have to be given. -/
  words : List String
  /-- The last of the words takes everything that follows it. -/
  passesOn : Bool := false
  deriving DecidableEq

/-- Why a program is not run. -/
inductive Stop where
  /-- It is asked how a program is used. -/
  | help (grammar : Grammar)
  /-- The arguments of a program are wrong. -/
  | misuse (grammar : Grammar) (message : String)
  deriving DecidableEq

/-- Some values, each quoted. -/
def quotedList (values : List String) : String :=
  ", ".intercalate (values.map Text.quoted)

/-- The message for a value that is none of those to choose from. -/
def invalidChoice (name value : String) (choices : List String) : String :=
  s!"argument {name}: invalid choice: {Text.quoted value} (choose from {quotedList choices})"

namespace Switch

/-- The option as messages name it. -/
def title (s : Switch) : String :=
  "/".intercalate s.names

/-- The option has a value. -/
def hasValue (s : Switch) : Bool :=
  match s.purpose with
  | .choice _ => true
  | _ => false

/-- The message for a value that the option does not have. -/
def ignoredValue (s : Switch) (value : String) : String :=
  s!"argument {s.title}: ignored explicit argument {Text.quoted value}"

/-- The message for a value that is missing. -/
def missingValue (s : Switch) : String :=
  s!"argument {s.title}: expected one argument"

end Switch

namespace Grammar

/-- The options under each of their names. -/
def named (g : Grammar) : List (String × Switch) :=
  g.switches.flatMap fun s => s.names.map fun name => (name, s)

/-- The option of a name. -/
def find? (g : Grammar) (name : String) : Option Switch :=
  (g.named.find? (·.1 == name)).map (·.2)

/-- A program that is misused. -/
def misuse {α : Type} (g : Grammar) (message : String) : Except Stop α :=
  .error (.misuse g message)

/-- An option as the line on the use of a program shows it. -/
def usageOfSwitch (s : Switch) : String :=
  let value := match s.purpose with
    | .choice values =>
      let choices := ",".intercalate values
      s!" \x7b{choices}\x7d"
    | _ => ""
  "[" ++ s.names.headD "" ++ value ++ "]"

/-- The line that shows how a program is used. -/
def usage (g : Grammar) : String :=
  let following := if g.passesOn then ["..."] else []
  " ".intercalate (["usage:", g.program] ++ g.switches.map usageOfSwitch ++ g.words ++ following)

end Grammar

namespace Stop

/-- The status with which the program ends. -/
def status : Stop → Nat
  | help _ => 0
  | misuse _ _ => 2

/-- The line that says what is wrong. -/
def line : Stop → String
  | help _ => ""
  | misuse grammar message => s!"{grammar.program}: error: {message}"

/-- The line that shows how the program is used. -/
def usage : Stop → String
  | help grammar => grammar.usage
  | misuse grammar _ => grammar.usage

end Stop

/-! ## Words and options -/

/-- An option as it is written in an argument. -/
structure Written where
  switch : Switch
  /-- The name that is used. -/
  name : List Char
  /-- The value within the argument. -/
  value : Option (List Char)

/-- One argument. -/
inductive Token where
  /-- The sign that only words follow. -/
  | separator
  | word (text : String)
  | option (text : String) (written : Written)
  /-- An option that the program does not have. -/
  | unknown (text : String)

/-- The argument as it was given. -/
def Token.text : Token → String
  | separator => "--"
  | word text => text
  | option text _ => text
  | unknown text => text

/-- The text is a negative number. -/
def isNegativeNumber (cs : List Char) : Bool :=
  match cs with
  | '-' :: rest =>
    let rest := if rest.getLast? = some '\n' then rest.dropLast else rest
    let whole := rest.takeWhile Text.isDigit
    match rest.dropWhile Text.isDigit with
    | [] => !whole.isEmpty
    | '.' :: fraction => !fraction.isEmpty && fraction.all Text.isDigit
    | _ => false
  | _ => false

/-- What stands before the first `=` and what stands after it. -/
def splitValue (cs : List Char) : List Char × Option (List Char) :=
  let name := cs.takeWhile (· != '=')
  match cs.dropWhile (· != '=') with
  | _ :: value => (name, some value)
  | [] => (name, none)

namespace Grammar

/-- The options that an argument abbreviates: by a beginning of a long name, or by a letter with its
value behind it. -/
def abbreviated (g : Grammar) (cs : List Char) : List Written :=
  match cs with
  | '-' :: '-' :: _ =>
    let (beginning, value) := splitValue cs
    (g.named.filter fun n => beginning.isPrefixOf n.1.toList).map fun n =>
      ⟨n.2, n.1.toList, value⟩
  | _ =>
    (g.named.filter fun n => n.1.toList == cs.take 2).map fun n =>
      ⟨n.2, n.1.toList, some (cs.drop 2)⟩

/-- An argument that begins with a dash and is not the whole name of an option. -/
def tokenOfDashed (g : Grammar) (text : String) : Except Stop Token :=
  let cs := text.toList
  let (name, value) := splitValue cs
  match value.bind fun _ => g.find? (String.ofList name) with
  | some switch => .ok (.option text ⟨switch, name, value⟩)
  | none =>
    match g.abbreviated cs with
    | [written] => .ok (.option text written)
    | [] => .ok (if isNegativeNumber cs || cs.contains ' ' then .word text else .unknown text)
    | several =>
      let names := ", ".intercalate (several.map fun w => String.ofList w.name)
      g.misuse s!"ambiguous option: {text} could match {names}"

/-- An argument as a word or an option. -/
def tokenOf (g : Grammar) (text : String) : Except Stop Token :=
  match text.toList with
  | '-' :: _ :: _ =>
    match g.find? text with
    | some switch => .ok (.option text ⟨switch, text.toList, none⟩)
    | none => g.tokenOfDashed text
  | _ => .ok (.word text)

/-- All arguments as words and options. -/
def tokens (g : Grammar) : List String → Except Stop (List Token)
  | [] => .ok []
  | text :: rest =>
    if text = "--" then .ok (.separator :: rest.map .word)
    else do
      let token ← g.tokenOf text
      let more ← g.tokens rest
      pure (token :: more)

end Grammar

/-! ## Reading -/

/-- What the arguments of a program say. -/
structure Reading where
  /-- The options with their values, in order. -/
  options : List (Switch × Option String) := []
  /-- The words that the grammar has names for; a name may have been given none. -/
  words : List (Option String) := []
  /-- What follows the word that takes everything. -/
  following : List String := []
  /-- What is left over. -/
  unexpected : List String := []

/-- The sign that only words follow. -/
def sign : String := "--"

/-- The value that a text is; the sign that only words follow is none. -/
def valueOf (text : String) : Option String :=
  if text = sign then none else some text

/-- What stands before the arguments that remain. -/
inductive Preceding where
  /-- A word that was given to a name. -/
  | word
  /-- The sign that only words follow, which belongs to the next word. -/
  | sign
  /-- Anything else, or nothing. -/
  | other

namespace Grammar

/-- The options that stand in one argument. -/
structure Joined where
  /-- The options with the values that stand within the argument. -/
  options : List (Switch × Option String)
  /-- The last option, if the next argument has to be its value. -/
  waiting : Option Switch := none

/-- The options that an argument joins: letters that follow an option of one letter are options too,
and what follows one that has a value is its value. -/
def joined (g : Grammar) (switch : Switch) : List Char → Except Stop Joined
  | [] =>
    .ok (if switch.hasValue then { options := [], waiting := some switch }
      else { options := [(switch, none)] })
  | c :: rest =>
    let value := String.ofList (c :: rest)
    if switch.hasValue then .ok { options := [(switch, valueOf value)] }
    else
      match g.find? (String.ofList ['-', c]) with
      | none => g.misuse (switch.ignoredValue value)
      | some next => do
        let more ← g.joined next rest
        pure { more with options := (switch, none) :: more.options }

/-- The options of an argument. -/
def optionsOf (g : Grammar) (w : Written) : Except Stop Joined :=
  match w.value with
  | none => g.joined w.switch []
  | some value =>
    let text := String.ofList value
    if w.switch.hasValue then .ok { options := [(w.switch, valueOf text)] }
    else if value.isEmpty || sign.toList.isPrefixOf w.name then
      g.misuse (w.switch.ignoredValue text)
    else g.joined w.switch value

/-- Options are taken in order: one for help ends the program, and a value has to be among those to
choose from. -/
def takeOptions (g : Grammar) : List (Switch × Option String) → Except Stop Unit
  | [] => .ok ()
  | (switch, value) :: rest =>
    match switch.purpose, value with
    | .help, _ => .error (.help g)
    | .choice values, some value =>
      if values.contains value then g.takeOptions rest
      else g.misuse (invalidChoice switch.title value values)
    | _, _ => g.takeOptions rest

/-- The end of the arguments: words that have not been given are asked for. -/
def finish (g : Grammar) (wanted : List String) : Except Stop Reading :=
  if wanted.isEmpty then .ok {}
  else
    let names := ", ".intercalate wanted
    g.misuse s!"the following arguments are required: {names}"

/-- What a name is given by a word. -/
def wordAfter (preceding : Preceding) (text : String) : Option String :=
  match preceding with
  | .sign => some text
  | _ => valueOf text

/-- The reading of the arguments that remain, given the names of the words still wanted. -/
def readFrom (g : Grammar) (wanted : List String) (preceding : Preceding) :
    List Token → Except Stop Reading
  | [] => g.finish wanted
  | .separator :: rest =>
    if g.passesOn && !rest.isEmpty then
      .ok { words := [some sign], following := rest.map Token.text }
    else
      match preceding with
      | .word => g.readFrom wanted .other rest
      | _ =>
        if !wanted.isEmpty && !rest.isEmpty then g.readFrom wanted .sign rest
        else do
          let reading ← g.readFrom wanted .other rest
          pure { reading with unexpected := sign :: reading.unexpected }
  | .word text :: rest =>
    match wanted with
    | [] => do
      let reading ← g.readFrom [] .other rest
      pure { reading with unexpected := text :: reading.unexpected }
    | _ :: wanted =>
      if g.passesOn && wanted.isEmpty then
        .ok { words := [some text], following := rest.map Token.text }
      else do
        let reading ← g.readFrom wanted .word rest
        pure { reading with words := wordAfter preceding text :: reading.words }
  | .unknown text :: rest => do
    let reading ← g.readFrom wanted .other rest
    pure { reading with unexpected := text :: reading.unexpected }
  | .option _ written :: rest => do
    let joined ← g.optionsOf written
    match joined.waiting, rest with
    | none, rest => do
      g.takeOptions joined.options
      let reading ← g.readFrom wanted .other rest
      pure { reading with options := joined.options ++ reading.options }
    | some switch, .word value :: rest => do
      let options := joined.options ++ [(switch, some value)]
      g.takeOptions options
      let reading ← g.readFrom wanted .other rest
      pure { reading with options := options ++ reading.options }
    | some switch, _ => g.misuse switch.missingValue

/-- What arguments say. -/
def read (g : Grammar) (arguments : List String) : Except Stop Reading := do
  g.readFrom g.words .other (← g.tokens arguments)

end Grammar

end WorkflowGraph.CommandLine
