/-
  EventEnvelope.CommandLine.Arguments
  ───────────────────────────────────
  **From the arguments of a program to the options they give.**

  Every argument is first looked at on its own (`Word.ofArgument?`): it is an option, something
  that looks like an option but is none, or a plain argument.  An option may be written in full,
  by any beginning of a long name that fits one option only, or, for a short name, with its value
  right behind it; `=` sets a value off.  Two dashes alone end the options.  Then the words are
  read in order (`Reading.ofWords`): an option that takes a value and has none attached takes the
  next plain argument, and what belongs to no option is left over.

  A reading keeps what was given before the first fault, since an option such as help takes
  effect before a fault behind it is noticed.
-/
import EventEnvelope.Text.Digit

namespace EventEnvelope.CommandLine

/-! ## §1. Options. -/

/-- One way to write an option. -/
structure Spelling (κ : Type) where
  name : Text
  option : κ
  takesValue : Bool

/-- All ways to write the options of a command. -/
abbrev OptionTable (κ : Type) := List (Spelling κ)

namespace OptionTable

variable {κ : Type}

/-- The option with exactly this name. -/
def find? (table : OptionTable κ) (name : Text) : Option (Spelling κ) :=
  List.find? (fun s => s.name == name) table

end OptionTable

/-! ## §2. Words. -/

/-- What follows the name of an option within one argument. -/
inductive Attachment
  | nothing
  /-- A value behind `=`. -/
  | value (t : Text)
  /-- Letters right behind a short name: a value or further short names. -/
  | letters (t : Text)

/-- What an argument is on its own. -/
inductive Word (κ : Type)
  | option (spelling : Spelling κ) (attached : Attachment)
  /-- It begins like an option but is none. -/
  | unknown
  | argument (text : Text)
  /-- Two dashes: all that follows is plain arguments. -/
  | separator

/-- The dash that options begin with. -/
def dash : CodePoint := .ofChar '-'

/-- The argument that ends the options. -/
def endOfOptions : Text := [dash, dash]

/-- A text of decimal digits of any script. -/
def isDigitsOrEmpty (t : Text) : Bool := t.all fun c => c.decimalValue?.isSome

/-- Digits with a dash before them and at most one point among or before them.  A line break may
follow. -/
def isNegativeNumber (t : Text) : Bool :=
  let line := if t.getLast? = some (.ofChar '\n') then t.dropLast else t
  match line with
  | [] => false
  | first :: number =>
      first == dash &&
        match Text.splitFirst '.' number with
        | (whole, none) => !whole.isEmpty && isDigitsOrEmpty whole
        | (whole, some places) =>
            isDigitsOrEmpty whole && !places.isEmpty && isDigitsOrEmpty places

namespace Word

variable {κ : Type}

/-- The options that an argument may stand for without naming one in full: long names that begin
so, or a short name with something behind it. -/
def candidates (table : OptionTable κ) : Text → List (Word κ)
  | first :: second :: letters =>
      if second = dash then
        match Text.splitFirst '=' (first :: second :: letters) with
        | (start, none) => (beginning start).map fun s => option s .nothing
        | (start, some value) => (beginning start).map fun s => option s (.value value)
      else
        (table.filter fun s => s.name == [first, second]).map fun s => option s (.letters letters)
  | _ => []
where
  /-- The options whose names begin so. -/
  beginning (start : Text) : OptionTable κ := table.filter fun s => start.isPrefixOf s.name

/-- An argument that begins with a dash and names no option in full; nothing if it may stand for
several options. -/
def ofAbbreviation? (table : OptionTable κ) (t : Text) : Option (Word κ) :=
  match candidates table t with
  | [word] => some word
  | _ :: _ :: _ => none
  | [] => some (if isNegativeNumber t || t.contains (.ofChar ' ') then argument t else unknown)

/-- An argument on its own; nothing if it may stand for several options. -/
def ofArgument? (table : OptionTable κ) (t : Text) : Option (Word κ) :=
  if t.head? ≠ some dash || t = [dash] then some (argument t)
  else
    match table.find? t with
    | some spelling => some (option spelling .nothing)
    | none =>
        match Text.splitFirst '=' t with
        | (name, some value) =>
            match table.find? name with
            | some spelling => some (option spelling (.value value))
            | none => ofAbbreviation? table t
        | (_, none) => ofAbbreviation? table t

/-- All arguments, if none is ambiguous; behind two dashes there are no options. -/
def ofArguments? (table : OptionTable κ) : List Text → Option (List (Word κ))
  | [] => some []
  | t :: rest =>
      if t = endOfOptions then some (separator :: rest.map argument)
      else do
        let word ← ofArgument? table t
        let words ← ofArguments? table rest
        some (word :: words)

/-- A word that begins like an option. -/
def looksLikeOption : Word κ → Bool
  | option _ _ | unknown => true
  | argument _ | separator => false

end Word

/-! ## §3. The options in one word. -/

/-- The options that one word gives: flags, and after them perhaps one option whose value is
attached or still to come. -/
structure Cluster (κ : Type) where
  flags : List κ := []
  last : Option (κ × Option Text) := none
  /-- Letters are left that name no option. -/
  hasStray : Bool := false

namespace Cluster

variable {κ : Type}

/-- A single option with nothing attached. -/
def single (s : Spelling κ) : Cluster κ :=
  if s.takesValue then { last := some (s.option, none) } else { flags := [s.option] }

/-- A single option with a value, which a flag cannot take. -/
def withValue (s : Spelling κ) (value : Text) : Option (Cluster κ) :=
  if s.takesValue then some { last := some (s.option, some value) } else none

/-- A flag in front of a cluster. -/
def prepend (flag : κ) (c : Cluster κ) : Cluster κ := { c with flags := flag :: c.flags }

/-- A short option with letters behind it: the value of an option that takes one, else further
short options, the last of which may have a value behind `=`. -/
def ofLetters (table : OptionTable κ) (s : Spelling κ) : Text → Option (Cluster κ)
  | [] => some (single s)
  | letter :: letters =>
      if s.takesValue then withValue s (letter :: letters)
      else if letter = dash then none
      else
        match table.find? [dash, letter] with
        | none => some { flags := [s.option], hasStray := true }
        | some next =>
            let cluster :=
              if letters.head? = some (.ofChar '=') then withValue next (letters.drop 1)
              else ofLetters table next letters
            cluster.map (prepend s.option)

/-- An option with what is attached to it. -/
def ofOption (table : OptionTable κ) (s : Spelling κ) : Attachment → Option (Cluster κ)
  | .nothing => some (single s)
  | .value t => withValue s t
  | .letters t => ofLetters table s t

end Cluster

/-! ## §4. Readings. -/

/-- An option with the value that it was given; a flag has an empty one. -/
structure Given (κ : Type) where
  option : κ
  value : Text := []

/-- The options that a list of words gives. -/
structure Reading (κ : Type) where
  /-- The options before the first fault, in order. -/
  given : List (Given κ)
  /-- Something belongs to no option. -/
  hasStrays : Bool
  /-- No option lacks a value or has one that it cannot take. -/
  wellFormed : Bool

namespace Reading

variable {κ : Type}

/-- Nothing at all. -/
def empty : Reading κ := ⟨[], false, true⟩

/-- A fault. -/
def faulty : Reading κ := ⟨[], false, false⟩

/-- Options before a reading, and perhaps something that belongs to no option. -/
def prepend (given : List (Given κ)) (stray : Bool) (r : Reading κ) : Reading κ :=
  { r with given := given ++ r.given, hasStrays := stray || r.hasStrays }

/-- The options of a cluster before a reading. -/
def prependCluster (c : Cluster κ) (value : Option (Given κ)) (r : Reading κ) : Reading κ :=
  r.prepend ((c.flags.map fun option => ⟨option, []⟩) ++ value.toList) c.hasStray

/-- The options that words give. -/
def ofWords (table : OptionTable κ) : List (Word κ) → Reading κ
  | [] => empty
  | .option s attached :: rest =>
      match Cluster.ofOption table s attached with
      | none => faulty
      | some cluster =>
          match cluster.last with
          | none => (ofWords table rest).prependCluster cluster none
          | some (option, some value) =>
              (ofWords table rest).prependCluster cluster (some { option, value })
          | some (option, none) =>
              match rest with
              | .argument value :: after =>
                  (ofWords table after).prependCluster cluster (some { option, value })
              | _ => faulty
  | _ :: rest => (ofWords table rest).prepend [] true

end Reading

end EventEnvelope.CommandLine
