/-
The words of a command line. A word that starts with a dash names an option,
by its full name, by a beginning that no other long option shares, or as a
short option with its value or further short options right behind it; either
may stand behind an equals sign. All words behind a lone `--` are arguments,
and so are a lone dash, a negative number and a word with a blank in it that
names no option.

Reading yields steps in the order in which they take effect. Reading ends at
the first word that cannot be read; steps before it still take effect, for
asking for help comes before a later mistake.
-/
import MockApi.Text.Digit

namespace MockApi

/-- What an option does. -/
inductive OptionKind where
  | help
  | flag
  | value
deriving DecidableEq, Repr

/-- An option by its names, dashes included; the first one identifies it. -/
structure CommandOption where
  names : List Text
  kind : OptionKind
deriving DecidableEq, Repr

namespace CommandOption

def id (o : CommandOption) : Text := o.names.headD []

end CommandOption

/-- A word that names an option. -/
structure OptionWord where
  /-- The option, if there is such a one. -/
  option : Option CommandOption
  /-- The option was named by a short name. -/
  isShort : Bool
  /-- Text given in the same word. -/
  given : Option Text := none

/-- What a word is. -/
inductive CommandWord where
  | argument (t : Text)
  /-- The `--` behind which all words are arguments. -/
  | separator
  | option (o : OptionWord)

/-- What takes effect. -/
inductive CommandStep where
  | help
  | flag (id : Text)
  | value (id t : Text)
  | argument (t : Text)
  /-- A word that nothing expects. -/
  | unexpected
  /-- Nothing behind this was read. -/
  | fault
deriving DecidableEq, Repr

namespace CommandWord

/-- The option of a name. -/
def named? (options : List CommandOption) (name : Text) : Option CommandOption :=
  options.find? fun o => o.names.contains name

/-- The options by their names that start with a text. -/
def startingWith (options : List CommandOption) (start : Text) : List CommandOption :=
  options.flatMap fun o => (o.names.filter start.isPrefixOf).map fun _ => o

/-- A name with two dashes. -/
def isLong (name : Text) : Bool := ("--" : Text).isPrefixOf name

/-- The text before an equals sign, and the text behind it. -/
def splitEquals (word : Text) : Text × Option Text :=
  (Text.before '=' word, Text.after? '=' word)

/-- A negative number, with or without a fraction; a line break may follow. -/
def isNegativeNumber (word : Text) : Bool :=
  match word with
  | .char '-' :: digits =>
    let digits := if digits.getLast? == some '\n' then digits.dropLast else digits
    let whole := digits.takeWhile Text.isDigit
    match digits.drop whole.length with
    | [] => !whole.isEmpty
    | .char '.' :: fraction => !fraction.isEmpty && fraction.all Text.isDigit
    | _ => false
  | _ => false

/-- What a word with a dash in front may mean: every option whose name starts
with it, or the short option that it starts with. -/
def meanings (options : List CommandOption) (word : Text) : List OptionWord :=
  if isLong word then
    let (start, given) := splitEquals word
    (startingWith options start).map fun o =>
      { option := some o, isShort := false, given }
  else
    (named? options (word.take 2)).toList.map fun o =>
      { option := some o, isShort := true, given := some (word.drop 2) }

/-- What a word is, none if it may mean two options. -/
def read? (options : List CommandOption) (word : Text) : Option CommandWord :=
  if word.head? ≠ some '-' ∨ word = "-" then some (.argument word)
  else
    match named? options word with
    | some o => some (.option { option := some o, isShort := !isLong word })
    | none =>
      let (name, given) := splitEquals word
      match given.bind fun _ => named? options name with
      | some o =>
        some (.option { option := some o, isShort := !isLong name, given })
      | none =>
        match meanings options word with
        | _ :: _ :: _ => none
        | [o] => some (.option o)
        | [] =>
          if isNegativeNumber word || word.contains ' ' then some (.argument word)
          else some (.option { option := none, isShort := false })

/-- What the words are, none if one may mean two options. -/
def readAll? (options : List CommandOption) : List Text → Option (List CommandWord)
  | [] => some []
  | word :: rest =>
    if word = "--" then some (.separator :: rest.map .argument)
    else do
      let first ← read? options word
      let others ← readAll? options rest
      return first :: others

-- =============================================================== steps

/-- The steps of an option alone in its word, and the option that still needs
a value. -/
def aloneSteps (o : CommandOption) : List CommandStep × Option CommandOption :=
  match o.kind with
  | .help => ([.help], none)
  | .flag => ([.flag o.id], none)
  | .value => ([], some o)

/-- The steps of an option with text in its word: its value, or short options
one after another, of which the last may still need a value. One that is not
known spoils the word. -/
def givenSteps (options : List CommandOption) (isShort : Bool) (o : CommandOption) :
    Text → List CommandStep × Option CommandOption
  | [] => (if o.kind = .value then [.value o.id []] else [.fault], none)
  | c :: rest =>
    if o.kind = .value then ([.value o.id (c :: rest)], none)
    else
      match if isShort then named? options ['-', c] else none with
      | none => ([.fault], none)
      | some next =>
        let (steps, pending) :=
          if rest.isEmpty then aloneSteps next else givenSteps options isShort next rest
        if steps.contains .fault then ([.fault], none)
        else ((aloneSteps o).1 ++ steps, pending)

/-- The steps of an option word, and the option that still needs a value. -/
def optionSteps (options : List CommandOption) (w : OptionWord) :
    List CommandStep × Option CommandOption :=
  match w.option, w.given with
  | none, _ => ([.unexpected], none)
  | some o, some given => givenSteps options w.isShort o given
  | some o, none => aloneSteps o

/-- The steps of an option word before other words, and the words behind what
it took. A value that is missing leaves no step of the word in effect. -/
def takeOption (options : List CommandOption) (w : OptionWord) (rest : List CommandWord) :
    List CommandStep × List CommandWord :=
  match optionSteps options w, rest with
  | (steps, none), _ => (steps, rest)
  | (steps, some o), .argument value :: rest => (steps ++ [.value o.id value], rest)
  | (_, some _), _ => ([.fault], [])

/-- No option takes words that are not there. -/
theorem takeOption_length (options : List CommandOption) (w : OptionWord)
    (rest : List CommandWord) : (takeOption options w rest).2.length ≤ rest.length := by
  unfold takeOption
  split <;> simp

end CommandWord

end MockApi
