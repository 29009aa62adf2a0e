import MaskedList.Cli.Grammar
import MaskedList.Command.Basic
import MaskedList.Config

/-!
# The arguments of the command line tool

The settings of the session come first, then a subcommand with its own
arguments.  Each subcommand stands for one command to the store.
-/

namespace MaskedList
namespace Cli

namespace Given

/-- The text given for a name. -/
def text (name : String) (default : String) (given : Given) : String :=
  (Table.get? name given).getD default

/-- The integer given for a name. -/
def int (name : String) (default : Int) (given : Given) : Int :=
  ((Table.get? name given).bind fun text => Text.readSigned text.toList).getD default

/-- The natural number given for a name. -/
def nat (name : String) (default : Nat) (given : Given) : Nat :=
  (given.int name default).toNat

def key (given : Given) : String :=
  given.text "key" ""

def value (given : Given) : Bytes :=
  Bytes.ofText (given.text "value" "")

/-- The mask, which is empty if none is given. -/
def mask (given : Given) : String :=
  given.text "mask" ""

end Given

/-- What a subcommand takes and the command that it stands for. -/
structure Subcommand where
  name : String
  places : List Place := []
  choices : List Choice := []
  command : Given → Command

def Subcommand.grammar (subcommand : Subcommand) : Grammar :=
  { places := subcommand.places, choices := subcommand.choices }

/-- An integer that is not negative and below a bound. -/
def Kind.below (bound : Nat) : Kind :=
  .integer 0 (bound - 1)

/-- An integer that may be a position. -/
def Kind.offset : Kind :=
  .integer Int32.minValue.toInt Int32.maxValue.toInt

/-- The words for the kinds of a range. -/
def rangeWords : List (String × RangeKind) :=
  [("visible", .visible), ("tagdel", .tagDeleted), ("all", .all)]

/-- The words for the types of values. -/
def typeWords : List (String × ValueType) :=
  [("int", .int), ("uint", .uint), ("long", .long), ("ulong", .ulong),
   ("float", .float), ("double", .double), ("string", .string), ("binary", .binary)]

/-- What a word stands for among the words of a list. -/
def lookup {α : Type} (words : List (String × α)) (default : α) (word : String) : α :=
  ((words.find? fun entry => entry.1 = word).map Prod.snd).getD default

namespace Place

def key : Place := { name := "key" }

def value : Place := { name := "value" }

def mask : Place := { name := "mask" }

def maskIfAny : Place := { name := "mask", required := false }

def valueSize : Place := { name := "value_size", kind := .below UInt32.size }

def position : Place := { name := "pos", kind := .offset, hyphens := true }

def numberIfAny : Place := { name := "num", kind := .below UInt32.size, required := false }

end Place

def subcommands : List Subcommand :=
  [{ name := "ping", command := fun _ => .ping },
   { name := "dump", command := fun _ => .dump },
   { name := "create-list", places := [.key, .valueSize, .maskIfAny],
     command := fun given =>
       .create given.key (UInt32.ofNat (given.nat "value_size" 0)) given.mask .list .binary },
   { name := "create-queue", places := [.key, .valueSize, .maskIfAny],
     command := fun given =>
       .create given.key (UInt32.ofNat (given.nat "value_size" 0)) given.mask .queue .binary },
   { name := "create-sortlist",
     places := [.key, .valueSize,
       { name := "value_type", kind := .oneOf (typeWords.map Prod.fst) }, .maskIfAny],
     command := fun given =>
       .create given.key (UInt32.ofNat (given.nat "value_size" 0)) given.mask .sortList
         (lookup typeWords .binary (given.text "value_type" "")) },
   { name := "clean", places := [.key], command := fun given => .clean given.key },
   { name := "rmkey", places := [.key], command := fun given => .rmKey given.key },
   { name := "stat", places := [.key], command := fun given => .stat given.key },
   { name := "stat-sys", command := fun _ => .statSys },
   { name := "insert",
     places := [.key, .value, .mask, { Place.position with required := false }],
     command := fun given =>
       .insert given.key given.value given.mask
         (Int32.ofInt (given.int "pos" automaticPosition.toInt)) },
   { name := "del", places := [.key, .value],
     command := fun given => .delete given.key given.value },
   { name := "del-by-mask", places := [.key, .mask],
     command := fun given => .deleteByMask given.key given.mask },
   { name := "move", places := [.key, .value, .position],
     command := fun given =>
       .move given.key given.value (Int32.ofInt (given.int "pos" 0)) },
   { name := "mask", places := [.key, .value, .mask],
     command := fun given => .setMask given.key given.value given.mask },
   { name := "tag", places := [.key, .value, { name := "tag", kind := .below UInt8.size }],
     command := fun given =>
       .setTag given.key given.value (UInt8.ofNat (given.nat "tag" 0)) },
   { name := "range", places := [.key],
     choices :=
       [{ name := "kind", kind := .oneOf (rangeWords.map Prod.fst) },
        { name := "mask" },
        { name := "from", kind := .offset, hyphens := true },
        { name := "len", kind := .below UInt32.size }],
     command := fun given =>
       .range given.key (lookup rangeWords .visible (given.text "kind" "")) given.mask
         (Int32.ofInt (given.int "from" 0)) (UInt32.ofNat (given.nat "len" 100)) },
   { name := "count", places := [.key, .maskIfAny],
     command := fun given => .count given.key given.mask },
   { name := "lpush", places := [.key, .value, .maskIfAny],
     command := fun given => .lpush given.key given.value given.mask },
   { name := "rpush", places := [.key, .value, .maskIfAny],
     command := fun given => .rpush given.key given.value given.mask },
   { name := "lpop", places := [.key, .numberIfAny],
     command := fun given => .lpop given.key (UInt32.ofNat (given.nat "num" 1)) },
   { name := "rpop", places := [.key, .numberIfAny],
     command := fun given => .rpop given.key (UInt32.ofNat (given.nat "num" 1)) }]

/-- The settings and the names of the subcommands. -/
def grammar : Grammar where
  choices :=
    [{ name := "host" },
     { name := "read-port", kind := .below UInt16.size, letter := some 'r' },
     { name := "write-port", kind := .below UInt16.size, letter := some 'w' },
     { name := "timeout-ms", kind := .natural UInt64.size, letter := some 't' }]
  subcommands := "help" :: subcommands.map Subcommand.name
  versioned := true

/-- The settings that the arguments give. -/
def settings (given : Given) : Config :=
  let default : Config := {}
  { default with
    host := given.text "host" default.host
    readPort := UInt16.ofNat (given.nat "read-port" default.readPort.toNat)
    writePort := UInt16.ofNat (given.nat "write-port" default.writePort.toNat)
    timeoutMs := UInt64.ofNat (given.nat "timeout-ms" default.timeoutMs.toNat) }

/-- A request for help names at most one subcommand. -/
def help : List String → Stop
  | [] => .help
  | [name] => if grammar.subcommands.contains name then .help else .misuse
  | _ => .misuse

/-- The settings and the command that the arguments ask for. -/
def parse (args : List String) : Except Stop (Config × Command) := do
  match ← grammar.read args with
  | (given, some (name, args)) =>
    if name = "help" then throw (help args)
    match subcommands.find? fun subcommand => subcommand.name = name with
    | some subcommand =>
      let (own, _) ← subcommand.grammar.read args
      return (settings given, subcommand.command own)
    | none => throw .misuse
  | (_, none) => throw .misuse

end Cli
end MaskedList
