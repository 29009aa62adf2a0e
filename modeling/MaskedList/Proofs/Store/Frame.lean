import MaskedList.Store.Basic

/-!
# A command changes one key at most

A command that names a key leaves all other keys alone, and one that names none leaves all
of them.  What it makes of the collection under its key is what its change makes of it, and a
change that is refused makes nothing of it.
-/

namespace MaskedList

/-- The key that a command names. -/
def Command.key? : Command → Option String
  | .ping | .dump | .statSys => none
  | .stat key | .range key _ _ _ _ | .count key _ | .create key _ _ _ _ | .clean key
  | .rmKey key | .delete key _ | .deleteByMask key _ | .insert key _ _ _ | .move key _ _
  | .setMask key _ _ | .setTag key _ _ | .lpush key _ _ | .rpush key _ _ | .lpop key _
  | .rpop key _ => some key

namespace Store

/-- Carries out commands one after the other and answers each of them. -/
def executeAll (store : Store) : List Command → List Response × Store
  | [] => ([], store)
  | command :: commands =>
    let (response, next) := store.execute command
    let (responses, last) := next.executeAll commands
    (response :: responses, last)

theorem executeAll_cons (store : Store) (command : Command) (commands : List Command) :
    store.executeAll (command :: commands) =
      ((store.execute command).1 :: ((store.execute command).2.executeAll commands).1,
        ((store.execute command).2.executeAll commands).2) := rfl

variable {store : Store} {key other : String} {collection changed : Collection}
  {update : Collection → Except Status (Response × Collection)} {status : Status}
  {response : Response}

theorem change_of_error (hkey : Table.get? key store.keys = some collection)
    (hupdate : update collection = .error status) :
    store.change key update = (.ofStatus status, store) := by
  simp only [change, hkey, hupdate]

theorem change_of_ok (hkey : Table.get? key store.keys = some collection)
    (hupdate : update collection = .ok (response, changed)) :
    store.change key update =
      (response, { store with keys := Table.insert key changed store.keys }) := by
  simp only [change, hkey, hupdate]

/-- What a change makes of a collection. -/
def outcome (update : Collection → Except Status (Response × Collection))
    (collection : Collection) : Collection :=
  match update collection with
  | .error _ => collection
  | .ok (_, changed) => changed

theorem outcome_changeAt (value : Bytes) (update : Collection → Nat → Collection)
    (collection : Collection) :
    outcome (changeAt value update) collection =
      match collection.find? value with
      | none => collection
      | some index => update collection index := by
  rw [outcome, changeAt]
  cases collection.find? value <;> rfl

theorem get?_change_self (hkey : Table.get? key store.keys = some collection) :
    Table.get? key (store.change key update).2.keys = some (outcome update collection) := by
  rw [outcome]
  cases hupdate : update collection with
  | error status =>
    rw [change_of_error hkey hupdate]
    exact hkey
  | ok answer =>
    rw [change_of_ok hkey hupdate]
    exact Table.get?_insert_self key answer.2 store.keys

theorem get?_change_of_ne (hne : other ≠ key) :
    Table.get? other (store.change key update).2.keys = Table.get? other store.keys := by
  cases hkey : Table.get? key store.keys with
  | none => simp only [change, hkey]
  | some collection =>
    cases hupdate : update collection with
    | error status => rw [change_of_error hkey hupdate]
    | ok answer =>
      rw [change_of_ok hkey hupdate]
      exact Table.get?_insert_of_ne hne answer.2 store.keys

/-! ## What was changed, if a change was made -/

theorem changeAt_eq_ok {value : Bytes} {update : Collection → Nat → Collection}
    (h : changeAt value update collection = .ok (response, changed)) :
    ∃ index, collection.find? value = some index ∧ response = .ok none ∧
      changed = update collection index := by
  rw [changeAt] at h
  split at h
  · cases h
  · rename_i index hfind
    cases h
    exact ⟨index, hfind, rfl, rfl⟩

theorem push_eq_ok {value : Bytes} {update : List Entry → List Entry}
    (h : push value update collection = .ok (response, changed)) :
    collection.kind ≠ .sortList ∧ collection.fits value = true ∧ response = .ok none ∧
      changed = { collection with entries := update collection.entries } := by
  rw [push] at h
  split at h
  · cases h
  split at h
  · cases h
  · rename_i hkind hfits
    cases h
    exact ⟨hkind, by simpa using hfits, rfl, rfl⟩

theorem pop_eq_ok {num : UInt32} {take : Collection → Nat → List Entry × Collection}
    (h : pop num take collection = .ok (response, changed)) :
    num ≠ 0 ∧ (take collection num.toNat).1 ≠ [] ∧
      response = itemsResponse collection (take collection num.toNat).1 ∧
      changed = (take collection num.toNat).2 := by
  rw [pop] at h
  split at h
  · cases h
  · rename_i hnum
    rcases htake : take collection num.toNat with ⟨_ | ⟨entry, taken⟩, left⟩
    · rw [htake] at h
      cases h
    · rw [htake] at h
      cases h
      exact ⟨hnum, List.cons_ne_nil _ _, rfl, rfl⟩

/-! ## Other keys -/

/-- A key that a command does not name is left as it was. -/
theorem get?_execute_of_ne {command : Command} (hne : command.key? ≠ some other) :
    Table.get? other (store.execute command).2.keys = Table.get? other store.keys := by
  have hother : ∀ {key : String}, command.key? = some key → other ≠ key := by
    rintro key hkey rfl
    exact hne hkey
  cases command with
  | ping | dump | stat | statSys | range | count => rfl
  | create key valueSize mask kind type =>
    simp only [execute]
    split
    · rfl
    split
    · rfl
    · exact Table.get?_insert_of_ne (hother rfl) _ _
  | rmKey key =>
    simp only [execute]
    split
    · exact Table.get?_erase_of_ne (hother rfl) _
    · rfl
  | _ => exact get?_change_of_ne (hother rfl)

end Store
end MaskedList
