import MaskedList.Command.Basic
import MaskedList.Gauge
import MaskedList.Items.Wire
import MaskedList.Response
import MaskedList.Store.Collection
import MaskedList.Table

/-!
# An in-memory store

A store maps keys to collections and answers each command with a response.
Queries leave it as it is, and so does every command that is not answered with
success.
-/

namespace MaskedList

/-- Collections by key. -/
structure Store where
  keys : Table String Collection := []
  /-- How many dumps were asked for. -/
  dumps : UInt32 := 0
  deriving Repr

namespace Store

/-- The width in which every mask is answered. -/
def maskSize : UInt32 := 8

/-- Value slots in one block. -/
def blockSlots : UInt32 := 100

/-- The blocks that so many values take. -/
def blocksFor (used : UInt32) : UInt32 :=
  if used % blockSlots = 0 then used / blockSlots else used / blockSlots + 1

/-- The number of values under a key. -/
def usedBy (collection : Collection) : UInt32 :=
  UInt32.ofNat collection.entries.length

/-- Statistics of one key. -/
def statsOf (collection : Collection) : KeyStats :=
  let used := usedBy collection
  let blocks := blocksFor used
  { valueSize := collection.valueSize
    maskSize := maskSize
    blocks := blocks
    slots := blocks * blockSlots
    slotsUsed := used
    memory := blocks.toUInt64 * blockSlots.toUInt64 *
      (collection.valueSize + maskSize).toUInt64 }

/-- Statistics of the whole store. -/
def stats (store : Store) : StoreStats :=
  let used := (Table.values store.keys).map usedBy
  let values := used.foldl (· + ·) 0
  let blocks := (used.map blocksFor).foldl (· + ·) 0
  { keys := UInt32.ofNat store.keys.length
    values := values
    blocks := blocks
    slots := blocks * blockSlots
    slotsUsed := values
    blockSlots := blockSlots
    tableMemory := UInt64.ofNat store.keys.length * 64
    spareBlocks := 0 }

/-- How many values pass a filter. -/
def countOf (collection : Collection) (filter : String) : MatchCount :=
  { visible := UInt32.ofNat (collection.select .visible filter).length
    tagged := UInt32.ofNat (collection.select .tagDeleted filter).length }

/-- Entries as the payload of a response. -/
def itemsResponse (collection : Collection) (entries : List Entry) : Response :=
  .ok (some (ItemList.encode collection.valueSize maskSize
    (entries.map fun entry => (entry.value, Bytes.ofText entry.mask))))

/-- Answers with what a function makes of the collection at a key. -/
def query (store : Store) (key : String) (answer : Collection → Response) : Response :=
  match Table.get? key store.keys with
  | some collection => answer collection
  | none => .ofStatus .notFound

/-- Changes the collection at a key, unless the change is refused. -/
def change (store : Store) (key : String)
    (update : Collection → Except Status (Response × Collection)) : Response × Store :=
  match Table.get? key store.keys with
  | none => (.ofStatus .notFound, store)
  | some collection =>
    match update collection with
    | .error status => (.ofStatus status, store)
    | .ok (response, collection) =>
      (response, { store with keys := Table.insert key collection store.keys })

/-- A change that answers with success alone. -/
def done (collection : Collection) : Except Status (Response × Collection) :=
  .ok (.ok none, collection)

/-- Changes the entries from the first one with a value on. -/
def changeAt (value : Bytes) (update : Collection → Nat → Collection)
    (collection : Collection) : Except Status (Response × Collection) :=
  match collection.find? value with
  | none => .error .notFound
  | some index => done (update collection index)

/-- Puts a new value in at one of the ends; sorted lists have none. -/
def push (value : Bytes) (update : List Entry → List Entry) (collection : Collection) :
    Except Status (Response × Collection) :=
  if collection.kind = .sortList then .error .typeMismatch
  else if !collection.fits value then .error .invalidParam
  else done { collection with entries := update collection.entries }

/-- Takes values out at one of the ends and answers with them. -/
def pop (num : UInt32) (take : Collection → Nat → List Entry × Collection)
    (collection : Collection) : Except Status (Response × Collection) :=
  if num = 0 then .error .invalidParam
  else
    match take collection num.toNat with
    | ([], _) => .error .empty
    | (taken, left) => .ok (itemsResponse collection taken, left)

/-- Carries out a command and answers it. -/
def execute (store : Store) : Command → Response × Store
  | .ping => (.ok none, store)
  | .dump => (.ok none, { store with dumps := store.dumps + 1 })
  | .stat key =>
    (store.query key fun collection => .ok (some (statsOf collection).encode), store)
  | .statSys => (.ok (some store.stats.encode), store)
  | .range key kind mask start len =>
    let answer (collection : Collection) : Response :=
      if start.toInt < 0 then .ofStatus .invalidParam
      else
        let selected := collection.select kind mask
        itemsResponse collection ((selected.drop start.toInt.toNat).take len.toNat)
    (store.query key answer, store)
  | .count key mask =>
    (store.query key fun collection => .ok (some (countOf collection mask).encode), store)
  | .create key valueSize _ kind type =>
    if valueSize = 0 then (.ofStatus .invalidParam, store)
    else if (Table.get? key store.keys).isSome then (.ofStatus .keyExists, store)
    else
      let collection : Collection := { kind, valueSize, type }
      (.ok none, { store with keys := Table.insert key collection store.keys })
  | .clean key =>
    store.change key fun collection =>
      done { collection with entries := collection.entries.filter fun entry => !entry.tagged }
  | .rmKey key =>
    if (Table.get? key store.keys).isSome then
      (.ok none, { store with keys := Table.erase key store.keys })
    else (.ofStatus .notFound, store)
  | .delete key value =>
    store.change key <| changeAt value fun collection index =>
      { collection with entries := collection.entries.eraseIdx index }
  | .deleteByMask key mask =>
    store.change key fun collection =>
      let stays (entry : Entry) : Bool := !Mask.passes mask entry.mask
      done { collection with entries := collection.entries.filter stays }
  | .insert key value mask pos =>
    store.change key fun collection =>
      if !collection.fits value then .error .invalidParam
      else done (collection.place { value, mask } pos)
  | .move key value pos =>
    store.change key fun collection =>
      if collection.kind = .sortList then .error .typeMismatch
      else
        match collection.find? value with
        | none => .error .notFound
        | some index =>
          match collection.entries[index]? with
          | none => .error .notFound
          | some entry =>
            let rest := { collection with entries := collection.entries.eraseIdx index }
            done (rest.place entry pos)
  | .setMask key value mask =>
    store.change key <| changeAt value fun collection index =>
      { collection with entries := collection.entries.modify index ({ · with mask }) }
  | .setTag key value tag =>
    store.change key <| changeAt value fun collection index =>
      let tagged := tag = tagDeleted
      { collection with entries := collection.entries.modify index ({ · with tagged }) }
  | .lpush key value mask =>
    store.change key <| push value fun entries => { value, mask } :: entries
  | .rpush key value mask =>
    store.change key <| push value fun entries => entries ++ [{ value, mask }]
  | .lpop key num => store.change key <| pop num Collection.popHead
  | .rpop key num => store.change key <| pop num Collection.popTail

end Store
end MaskedList
