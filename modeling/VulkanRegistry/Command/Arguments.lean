import VulkanRegistry.Storage.Path
import VulkanRegistry.Text.DecimalDigit
import VulkanRegistry.Text.Quoted
import VulkanRegistry.Text.Search

/-!
# Arguments

Switches are written in full or shortened as long as one switch alone is meant.
A switch that takes a value has it after an equals sign or as the next argument,
which then must not look like a switch; a negative number and an argument with a
space in it do not.  The last value counts.  Two hyphens alone end the switches;
after an equals sign they leave a switch without a value, though it is given.

All arguments are classified before any takes effect.  They then take effect in
order, so that a request for help is answered unless an earlier argument is at
fault; arguments that nothing asks for are refused at the end.
-/

namespace VulkanRegistry

/-- The switches of the command line. -/
inductive Switch where
  | help
  | registry
  | listEnums
  | info
  | filter
  deriving DecidableEq, Repr

namespace Switch

/-- The written forms of a switch. -/
def spellings : Switch → List String
  | help => ["-h", "--help"]
  | registry => ["--vk-xml"]
  | listEnums => ["--list-enums"]
  | info => ["--info"]
  | filter => ["--filter"]

/-- Whether a switch takes a value. -/
def takesValue : Switch → Bool
  | registry | info | filter => true
  | help | listEnums => false

/-- All written forms with their switches. -/
def table : List (String × Switch) :=
  [help, registry, listEnums, info, filter].flatMap fun switch =>
    switch.spellings.map fun spelling => (spelling, switch)

/-- All written forms of a switch in one line. -/
def title (switch : Switch) : String :=
  "/".intercalate switch.spellings

end Switch

/-- Why a command line cannot be obeyed. -/
inductive UsageError where
  | ambiguous (argument : String) (candidates : List String)
  | missingValue (switch : Switch)
  | unwantedValue (switch : Switch) (value : String)
  | conflict (switch earlier : Switch)
  | unrecognized (arguments : List String)
  deriving DecidableEq, Repr

/-- How a fault of the command line is reported. -/
def UsageError.message : UsageError → String
  | ambiguous argument candidates =>
      s!"ambiguous option: {argument} could match "
        ++ ", ".intercalate candidates
  | missingValue switch => s!"argument {switch.title}: expected one argument"
  | unwantedValue switch value =>
      s!"argument {switch.title}: ignored explicit argument {Text.quoted value}"
  | conflict switch earlier =>
      s!"argument {switch.title}: not allowed with argument {earlier.title}"
  | unrecognized arguments =>
      "unrecognized arguments: " ++ " ".intercalate arguments

/-- A value that is written in one argument with its switch. -/
inductive Attachment where
  | none
  /-- The text after an equals sign. -/
  | assigned (value : String)
  /-- The letters after a spelling of one letter, or after an equals sign that
  follows it. -/
  | joined (letters : String)
  deriving DecidableEq, Repr

/-- What one argument is. -/
inductive ArgumentClass where
  | plain (text : String)
  | separator
  | recognized (switch : Switch) (attachment : Attachment)
  | unknown (text : String)
  deriving DecidableEq, Repr

namespace ArgumentClass

/-- Whether a text, a line feed at its end aside, is a hyphen before decimal
digits with at most one full stop, which a digit follows. -/
def isNegativeNumber (text : String) : Bool :=
  let isDigit := fun c => (Text.digitValue? c).isSome
  let body := text.toList.drop 1
  let body := if body.getLast? = some '\n' then body.dropLast else body
  let fraction := body.dropWhile isDigit
  text.toList.head? == some '-' &&
    match fraction with
    | [] => !body.isEmpty
    | '.' :: digits => !digits.isEmpty && digits.all isDigit
    | _ => false

/-- Whether a spelling is one hyphen and one letter. -/
def isShort (spelling : String) : Bool :=
  match spelling.toList with
  | ['-', letter] => letter != '-'
  | _ => false

/-- The text before the first equals sign, and what the text after it is to the
spelling. -/
def splitAssignment (text : String) : String × Attachment :=
  match Text.cutAt ['='] text.toList with
  | none => (text, .none)
  | some (head, tail) =>
      let spelling := String.ofList head
      let value := String.ofList tail
      (spelling, if isShort spelling then .joined value else .assigned value)

/-- The spellings that an argument may be short for, with their switches and
what the argument attaches to them. -/
def candidates (text : String) : List (String × Switch × Attachment) :=
  match text.toList with
  | '-' :: '-' :: _ =>
      let (head, attachment) := splitAssignment text
      let meant := Switch.table.filter fun entry =>
        head.toList.isPrefixOf entry.1.toList
      meant.map fun (spelling, switch) => (spelling, switch, attachment)
  | first :: second :: rest =>
      let meant := Switch.table.filter fun entry =>
        entry.1.toList == [first, second]
      meant.map fun (spelling, switch) =>
        (spelling, switch, .joined (String.ofList rest))
  | _ => []

/-- What an argument is, when no separator comes before it. -/
def ofString (text : String) : Except UsageError ArgumentClass :=
  if text.toList.head? != some '-' then .ok (.plain text)
  else
    match Switch.table.lookup text with
    | some switch => .ok (.recognized switch .none)
    | none =>
        if text = "-" then .ok (.plain text)
        else
          let (head, attachment) := splitAssignment text
          match Switch.table.lookup head with
          | some switch => .ok (.recognized switch attachment)
          | none =>
              match candidates text with
              | [(_, switch, attachment)] => .ok (.recognized switch attachment)
              | [] =>
                  if isNegativeNumber text || text.toList.contains ' ' then
                    .ok (.plain text)
                  else .ok (.unknown text)
              | several => .error (.ambiguous text (several.map Prod.fst))

/-- What the arguments of a command line are. -/
def ofList : List String → Except UsageError (List ArgumentClass)
  | [] => .ok []
  | text :: rest =>
      if text = "--" then .ok (.separator :: rest.map .plain)
      else do
        let first ← ofString text
        return first :: (← ofList rest)

end ArgumentClass

/-- What a switch that takes a value has been given. -/
inductive Given (α : Type) where
  /-- The switch does not occur. -/
  | absent
  /-- The switch occurs without a value. -/
  | bare
  | value (a : α)
  deriving DecidableEq, Repr

namespace Given

variable {α β : Type}

/-- Whether the switch occurs. -/
def isGiven : Given α → Bool
  | absent => false
  | bare | value _ => true

/-- The value, changed by a function. -/
def map (f : α → β) : Given α → Given β
  | absent => absent
  | bare => bare
  | value a => value (f a)

/-- What a text attached to a switch gives: two hyphens alone are no value. -/
def ofAttached (text : String) : Given String :=
  if text = "--" then bare else value text

end Given

/-- What a command line asks for. -/
structure Arguments where
  registry : Given Path
  listEnums : Bool
  info : Given String
  filter : Given String
  deriving DecidableEq, Repr

/-- Why a command line is not carried out: it asks for help, or it is at
fault. -/
inductive Interruption where
  | help
  | usage (error : UsageError)
  deriving DecidableEq, Repr

namespace Arguments

/-- The arguments once a switch is given.  A listing and the detail of a group
exclude each other. -/
def give (arguments : Arguments) (switch : Switch) (given : Given String) :
    Except Interruption Arguments :=
  match switch with
  | .help => .error .help
  | .registry => .ok { arguments with registry := given.map Path.ofString }
  | .listEnums =>
      if arguments.info.isGiven then
        .error (.usage (.conflict .listEnums .info))
      else .ok { arguments with listEnums := true }
  | .info =>
      if arguments.listEnums then .error (.usage (.conflict .info .listEnums))
      else .ok { arguments with info := given }
  | .filter => .ok { arguments with filter := given }

/-- The arguments once a switch is given that takes no value.  Letters that are
joined to a switch of one letter, of which there must be some, are such switches
themselves, and `h` alone is one. -/
def turnOn (arguments : Arguments) (switch : Switch) :
    Attachment → Except Interruption Arguments
  | .none => arguments.give switch .bare
  | .assigned value => .error (.usage (.unwantedValue switch value))
  | .joined letters =>
      let others := letters.toList.dropWhile (· == 'h')
      if letters.isEmpty || !others.isEmpty then
        .error (.usage (.unwantedValue switch (String.ofList others)))
      else arguments.give switch .bare

/-- The arguments after the given ones have taken effect in order, where `extra`
are those so far that nothing asks for. -/
def obey (arguments : Arguments) (extra : List String) :
    List ArgumentClass → Except Interruption Arguments
  | [] =>
      if extra.isEmpty then .ok arguments
      else .error (.usage (.unrecognized extra))
  | .plain text :: rest => arguments.obey (extra ++ [text]) rest
  | .unknown text :: rest => arguments.obey (extra ++ [text]) rest
  | .separator :: rest => arguments.obey (extra ++ ["--"]) rest
  | .recognized switch attachment :: rest =>
      if switch.takesValue then
        match attachment, rest with
        | .assigned text, rest | .joined text, rest => do
            (← arguments.give switch (.ofAttached text)).obey extra rest
        | .none, .plain text :: rest => do
            (← arguments.give switch (.value text)).obey extra rest
        | .none, _ => .error (.usage (.missingValue switch))
      else do (← arguments.turnOn switch attachment).obey extra rest

/-- What a command line asks for, when it names no registry and the registry is
at `default`. -/
def parse (default : Path) (line : List String) :
    Except Interruption Arguments :=
  match ArgumentClass.ofList line with
  | .error error => .error (.usage error)
  | .ok classes => obey ⟨.value default, false, .absent, .absent⟩ [] classes

end Arguments

end VulkanRegistry
