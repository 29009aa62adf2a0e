import MaskedList.Table
import MaskedList.Text.Integer

/-!
# Grammars of command lines

A grammar lists the options that a command line may have, the places that its
other arguments fill in order, and the subcommands that may take over.
Arguments are taken one by one, and the first that does not fit decides.

An argument that starts with a hyphen is an option, unless the value that is due
may start with a hyphen itself; a hyphen alone is an ordinary argument.  After
`--` every argument fills a place.
-/

namespace MaskedList
namespace Cli

/-- What a value has to look like. -/
inductive Kind where
  | text
  /-- A signed integer between two bounds. -/
  | integer (low high : Int)
  /-- A natural number below a bound. -/
  | natural (bound : Nat)
  | oneOf (words : List String)
  deriving Repr

def Kind.accepts (text : String) : Kind → Bool
  | .text => true
  | .integer low high =>
    ((Text.readSigned text.toList).filter fun n => low ≤ n && n ≤ high).isSome
  | .natural bound => (Text.readNat bound text.toList).isSome
  | .oneOf words => words.contains text

/-- Something that a command line gives a value to. -/
structure Slot where
  name : String
  kind : Kind := .text
  /-- Whether the value may start with a hyphen. -/
  hyphens : Bool := false
  deriving Repr

/-- An option, written `--name value`, `--name=value` or by its letter. -/
structure Choice extends Slot where
  letter : Option Char := none
  deriving Repr

/-- An argument that is known by where it stands. -/
structure Place extends Slot where
  required : Bool := true
  deriving Repr

structure Grammar where
  choices : List Choice := []
  /-- The required places come first. -/
  places : List Place := []
  subcommands : List String := []
  /-- Whether the version can be asked for. -/
  versioned : Bool := false
  deriving Repr

/-- Why a command line is not carried out. -/
inductive Stop where
  /-- It asks for help. -/
  | help
  /-- It asks for the version. -/
  | version
  /-- It does not fit the grammar. -/
  | misuse
  deriving DecidableEq, Repr

/-- The values given so far, by the names of their slots. -/
abbrev Given := Table String String

/-- What has been taken so far. -/
structure Progress where
  given : Given := []
  /-- The option whose value is due. -/
  pending : Option Choice := none
  /-- How many places are filled. -/
  filled : Nat := 0
  /-- Whether only places are left to fill. -/
  trailing : Bool := false

namespace Progress

/-- Gives a slot its value, which has to be one that it takes, and the first. -/
def give (slot : Slot) (value : String) (progress : Progress) : Except Stop Progress :=
  if slot.kind.accepts value ∧ Table.get? slot.name progress.given = none then
    .ok { progress with given := Table.insert slot.name value progress.given,
                        pending := none }
  else .error .misuse

/-- Fills the next place. -/
def fill (grammar : Grammar) (value : String) (progress : Progress) :
    Except Stop Progress :=
  match grammar.places[progress.filled]? with
  | some place => { progress with filled := progress.filled + 1 }.give place.toSlot value
  | none => .error .misuse

/-- Takes an option with the value attached to it, or waits for its value. -/
def choose (choice : Choice) (attached : Option String) (progress : Progress) :
    Except Stop Progress :=
  match attached with
  | some value => progress.give choice.toSlot value
  | none => .ok { progress with pending := some choice }

/-- Whether the place that is filled next may start with a hyphen. -/
def placeTakesHyphens (grammar : Grammar) (progress : Progress) : Bool :=
  (grammar.places[progress.filled]?.map fun place => place.hyphens).getD false

/-- Takes what stands after two hyphens. -/
def takeLong (grammar : Grammar) (arg : String) (body : List Char)
    (progress : Progress) : Except Stop Progress :=
  let name := String.ofList (body.takeWhile (· ≠ '='))
  let attached := match body.dropWhile (· ≠ '=') with
    | [] => none
    | _ :: value => some (String.ofList value)
  match grammar.choices.find? fun choice => choice.name = name with
  | some choice => progress.choose choice attached
  | none =>
    if name = "help" then
      if attached.isSome then .error .misuse else .error .help
    else if name = "version" ∧ grammar.versioned then
      if attached.isSome then .error .misuse else .error .version
    else if progress.placeTakesHyphens grammar then progress.fill grammar arg
    else .error .misuse

/-- Takes what stands after one hyphen. -/
def takeShort (grammar : Grammar) (arg : String) (letter : Char) (body : List Char)
    (progress : Progress) : Except Stop Progress :=
  if progress.placeTakesHyphens grammar then progress.fill grammar arg
  else
    match grammar.choices.find? fun choice => choice.letter = some letter with
    | some choice =>
      progress.choose choice (match body with
        | [] => none
        | '=' :: value => some (String.ofList value)
        | value => some (String.ofList value))
    | none =>
      if letter = 'h' then .error .help
      else if letter = 'V' ∧ grammar.versioned then .error .version
      else .error .misuse

/-- Takes one argument that names no subcommand. -/
def take (grammar : Grammar) (arg : String) (progress : Progress) :
    Except Stop Progress :=
  if progress.trailing then progress.fill grammar arg
  else
    match progress.pending with
    | some choice =>
      if choice.hyphens then progress.give choice.toSlot arg
      else
        match arg.toList with
        | ['-'] => progress.give choice.toSlot arg
        | '-' :: _ => .error .misuse
        | _ => progress.give choice.toSlot arg
    | none =>
      match arg.toList with
      | ['-', '-'] => .ok { progress with trailing := true }
      | '-' :: '-' :: body => progress.takeLong grammar arg body
      | '-' :: letter :: body => progress.takeShort grammar arg letter body
      | _ => progress.fill grammar arg

/-- Whether an argument hands over to a subcommand. -/
def handsOver (grammar : Grammar) (arg : String) (progress : Progress) : Bool :=
  !progress.trailing && progress.pending.isNone && grammar.subcommands.contains arg

/-- Takes arguments up to the name of a subcommand, which is given back with the
arguments after it. -/
def takeAll (grammar : Grammar) (progress : Progress) :
    List String → Except Stop (Progress × Option (String × List String))
  | [] => if progress.pending.isSome then .error .misuse else .ok (progress, none)
  | arg :: args =>
    if progress.handsOver grammar arg then .ok (progress, some (arg, args))
    else do (← progress.take grammar arg).takeAll grammar args

end Progress

/-- The values that the arguments give, once every required place is filled, and
what is left to a subcommand.  A grammar with subcommands needs one. -/
def Grammar.read (grammar : Grammar) (args : List String) :
    Except Stop (Given × Option (String × List String)) := do
  let (progress, handed) ← Progress.takeAll grammar {} args
  if progress.filled < grammar.places.countP Place.required then throw .misuse
  if handed.isNone ∧ grammar.subcommands ≠ [] then throw .misuse
  return (progress.given, handed)

end Cli
end MaskedList
