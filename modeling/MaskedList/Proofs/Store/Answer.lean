import MaskedList.Proofs.Gauge
import MaskedList.Proofs.Store.Shown
import MaskedList.Session.Requests

/-!
# What a store's answers mean

What the caller of a command is to get is said here by the store's own data: the
statistics that it worked out, the entries that it selected.  `Store.answer` is that
reply.  A sound store's response, read from its frame, is interpreted as just this reply.
-/

namespace MaskedList

namespace Store

/-- What a store has to tell the caller of a command that it carries out. -/
def data (store : Store) : (command : Command) → Option command.opcode.Data
  | .stat key => (Table.get? key store.keys).map statsOf
  | .statSys => some store.stats
  | .count key mask =>
    (Table.get? key store.keys).map fun collection => countOf collection mask
  | .range key kind mask start len =>
    (Table.get? key store.keys).map fun collection =>
      collection.shown (((collection.select kind mask).drop start.toInt.toNat).take len.toNat)
  | .lpop key num =>
    (Table.get? key store.keys).map fun collection =>
      collection.shown (collection.popHead num.toNat).1
  | .rpop key num =>
    (Table.get? key store.keys).map fun collection =>
      collection.shown (collection.popTail num.toNat).1
  | .ping | .dump | .create .. | .clean .. | .rmKey .. | .delete .. | .deleteByMask ..
  | .insert .. | .move .. | .setMask .. | .setTag .. | .lpush .. | .rpush .. => some ()

/-- The reply that a command is to have: the status of the response, and data only after
success. -/
def answer (store : Store) (command : Command) : Reply command.opcode.Data :=
  let status := (store.execute command).1.status
  ⟨status, if status = .ok then store.data command else none⟩

variable {store : Store}

/-- A pop that succeeds answers with what it takes out. -/
theorem decode_pop {key : String} {num : UInt32}
    {take : Collection → Nat → List Entry × Collection} (hsound : store.Sound)
    (htake : ∀ collection num, (take collection num).1 ⊆ collection.entries)
    (hfits : (store.change key (pop num take)).1.Fits)
    (hok : (store.change key (pop num take)).1.status = .ok) :
    ∃ collection, Table.get? key store.keys = some collection ∧
      ItemList.decode (store.change key (pop num take)).1.body =
        .returned (.ok (collection.shown (take collection num.toNat).1)) := by
  rw [Store.change] at hok hfits ⊢
  cases hkey : Table.get? key store.keys with
  | none => simp [hkey, Response.ofStatus] at hok
  | some collection =>
    simp only [hkey, Store.pop] at hok hfits ⊢
    refine ⟨collection, rfl, ?_⟩
    by_cases hnone : num = 0
    · rw [if_pos hnone] at hok
      cases hok
    rw [if_neg hnone] at hok hfits ⊢
    -- nothing to take out is no success
    have hsubset := htake collection num.toNat
    rcases htaken : take collection num.toNat with ⟨_ | ⟨entry, taken⟩, left⟩
    · simp only [htaken] at hok
      cases hok
    · simp only [htaken] at hfits hsubset ⊢
      exact (shows_of_subset hsubset).2 (hsound.get? hkey) hfits

/-- A successful response has the data that its command asks for. -/
theorem readData_execute (hsound : store.Sound) (command : Command)
    (hfits : (store.execute command).1.Fits)
    (hok : (store.execute command).1.status = .ok) :
    ∃ value, store.data command = some value ∧
      command.opcode.readData (store.execute command).1.body = .returned (.ok value) := by
  cases command with
  | statSys => exact ⟨_, rfl, congrArg Ending.returned (StoreStats.decode_encode _)⟩
  | stat key =>
    cases hkey : Table.get? key store.keys with
    | none => simp [Store.execute, Store.query, hkey, Response.ofStatus] at hok
    | some collection =>
      simp only [Store.execute, Store.query, Store.data, hkey]
      exact ⟨_, rfl, congrArg Ending.returned (KeyStats.decode_encode _)⟩
  | count key mask =>
    cases hkey : Table.get? key store.keys with
    | none => simp [Store.execute, Store.query, hkey, Response.ofStatus] at hok
    | some collection =>
      simp only [Store.execute, Store.query, Store.data, hkey]
      exact ⟨_, rfl, congrArg Ending.returned (MatchCount.decode_encode _)⟩
  | range key kind mask start len =>
    cases hkey : Table.get? key store.keys with
    | none => simp [Store.execute, Store.query, hkey, Response.ofStatus] at hok
    | some collection =>
      simp only [Store.execute, Store.query, Store.data, hkey] at hok hfits ⊢
      split at hok
      · cases hok
      · rename_i hstart
        rw [if_neg hstart] at hfits ⊢
        refine ⟨_, rfl, (shows_of_subset fun entry hmem => ?_).2 (hsound.get? hkey) hfits⟩
        exact List.filter_sublist.subset (List.mem_of_mem_drop (List.mem_of_mem_take hmem))
  | lpop key num =>
    obtain ⟨collection, hkey, hdecode⟩ := decode_pop hsound
      (fun _ num => (Collection.takeVisible_subset num _).1) hfits hok
    exact ⟨_, congrArg (Option.map _) hkey, hdecode⟩
  | rpop key num =>
    obtain ⟨collection, hkey, hdecode⟩ := decode_pop hsound
      (fun _ num entry hmem => List.mem_reverse.mp
        ((Collection.takeVisible_subset num _).1 hmem)) hfits hok
    exact ⟨_, congrArg (Option.map _) hkey, hdecode⟩
  | _ => exact ⟨(), rfl, rfl⟩

/-- The response of a sound store, read from its frame, means the reply that the command is
to have. -/
theorem interpret_execute (hsound : store.Sound) (command : Command)
    (hfits : (store.execute command).1.Fits) :
    Session.interpret command.opcode.readData (store.execute command).1.received =
      .returned (.ok (store.answer command)) := by
  rw [Session.interpret, Response.status_received, Response.body_received]
  by_cases hok : (store.execute command).1.status = .ok
  · obtain ⟨value, hdata, hread⟩ := readData_execute hsound command hfits hok
    rw [if_pos hok, hread, answer, hok, hdata]
    rfl
  · rw [if_neg hok, answer, if_neg hok]
    rfl

end Store
end MaskedList
