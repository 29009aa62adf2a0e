import Mathlib.Data.List.InsertIdx
import Mathlib.Data.List.Perm.Basic
import MaskedList.Proofs.Store.Sound

/-!
# What commands may change

The class of a command says whether it may change anything: commands of the read class leave
all keys alone.  One that is not answered with success leaves the whole store alone, however far
it came before it was refused.  Masks, tags and moves work on a single entry, which keeps its
value: `Entry.Edited`.
-/

namespace MaskedList

/-! ## One entry -/

namespace Entry

/-- At most one entry is changed or stands elsewhere, and it keeps its value. -/
inductive Edited : (before after : List Entry) → Prop where
  | unchanged (entries : List Entry) : Edited entries entries
  | one {before after : List Entry} {source target : Nat} {old new : Entry}
      (hold : before[source]? = some old) (hnew : after[target]? = some new)
      (hothers : after.eraseIdx target = before.eraseIdx source)
      (hvalue : new.value = old.value) :
      Edited before after

variable {before after entries : List Entry} {entry : Entry}

/-- An entry and the others make up the entries. -/
theorem perm_cons_eraseIdx {place : Nat} (h : entries[place]? = some entry) :
    (entry :: entries.eraseIdx place).Perm entries := by
  obtain ⟨hplace, rfl⟩ := List.getElem?_eq_some_iff.mp h
  exact List.getElem_cons_eraseIdx_perm hplace

theorem Edited.perm_values (h : Edited before after) :
    (after.map Entry.value).Perm (before.map Entry.value) := by
  cases h with
  | unchanged => exact List.Perm.refl _
  | one hold hnew hothers hvalue =>
    have hafter := (perm_cons_eraseIdx hnew).map Entry.value
    rw [hothers, List.map_cons, hvalue] at hafter
    exact hafter.symm.trans ((perm_cons_eraseIdx hold).map Entry.value)

theorem Edited.modify (entries : List Entry) (place : Nat) {update : Entry → Entry}
    (hvalue : ∀ entry, (update entry).value = entry.value) :
    Edited entries (entries.modify place update) := by
  cases hold : entries[place]? with
  | none =>
    rw [List.modify_eq_self (List.getElem?_eq_none_iff.mp hold)]
    exact .unchanged entries
  | some entry =>
    refine .one hold ?_ (List.eraseIdx_modify_of_eq update place entries) (hvalue entry)
    rw [List.getElem?_modify_eq, hold]
    rfl

theorem Edited.insertIdx_eraseIdx {source target : Nat} (hold : entries[source]? = some entry)
    (htarget : target ≤ (entries.eraseIdx source).length) :
    Edited entries ((entries.eraseIdx source).insertIdx target entry) := by
  refine .one hold ?_ (List.eraseIdx_insertIdx_self entry) rfl
  rw [List.getElem?_insertIdx_self, if_pos htarget]

end Entry

/-- An entry is put in somewhere. -/
theorem Collection.exists_place (collection : Collection) (entry : Entry) (pos : Int32) :
    ∃ index ≤ collection.entries.length, collection.place entry pos =
      { collection with entries := collection.entries.insertIdx index entry } := by
  refine ⟨_, ?_, rfl⟩
  split
  · cases hgreater : collection.entries.findIdx? (collection.isAfter entry.value) with
    | none => exact Nat.le_refl _
    | some index => exact Nat.le_of_lt (List.findIdx?_eq_some_iff_findIdx_eq.mp hgreater).1
  · split
    · exact Nat.le_refl _
    · exact Nat.min_le_right _ _

namespace Store

variable {store : Store} {key : String} {collection : Collection}
  {update : Collection → Except Status (Response × Collection)} {command : Command}

/-! ## Failures -/

/-- A change that is made is answered with success. -/
def Succeeds (result : Except Status (Response × Collection)) : Prop :=
  ∀ answer, result = .ok answer → answer.1.status = .ok

theorem succeeds_error (status : Status) : Succeeds (.error status) := by
  rintro _ ⟨⟩

theorem succeeds_done (collection : Collection) : Succeeds (done collection) := by
  rintro _ ⟨⟩
  rfl

theorem succeeds_changeAt (value : Bytes) (update : Collection → Nat → Collection)
    (collection : Collection) : Succeeds (changeAt value update collection) := by
  intro answer h
  obtain ⟨index, -, hanswer, -⟩ := changeAt_eq_ok h
  rw [hanswer]
  rfl

theorem succeeds_push (value : Bytes) (update : List Entry → List Entry)
    (collection : Collection) : Succeeds (push value update collection) := by
  intro answer h
  obtain ⟨-, -, hanswer, -⟩ := push_eq_ok h
  rw [hanswer]
  rfl

theorem succeeds_pop (num : UInt32) (take : Collection → Nat → List Entry × Collection)
    (collection : Collection) : Succeeds (pop num take collection) := by
  intro answer h
  obtain ⟨-, -, hanswer, -⟩ := pop_eq_ok h
  rw [hanswer]
  rfl

theorem change_of_status_ne_ok (hsucceeds : ∀ collection, Succeeds (update collection))
    (hfailed : (store.change key update).1.status ≠ .ok) :
    (store.change key update).2 = store := by
  cases hkey : Table.get? key store.keys with
  | none => simp only [change, hkey]
  | some collection =>
    cases hupdate : update collection with
    | error status => rw [change_of_error hkey hupdate]
    | ok answer =>
      rw [change_of_ok hkey hupdate] at hfailed
      exact absurd (hsucceeds collection answer hupdate) hfailed

/-- A command that is not answered with success changes nothing at all. -/
theorem execute_of_status_ne_ok (hfailed : (store.execute command).1.status ≠ .ok) :
    (store.execute command).2 = store := by
  cases command with
  | ping | dump => exact absurd rfl hfailed
  | stat | statSys | range | count => rfl
  | create key valueSize mask kind type =>
    rw [execute] at hfailed ⊢
    split
    · rfl
    split
    · rfl
    · rename_i hwidth hfree
      rw [if_neg hwidth, if_neg hfree] at hfailed
      exact absurd rfl hfailed
  | rmKey key =>
    rw [execute] at hfailed ⊢
    split
    · rename_i hthere
      rw [if_pos hthere] at hfailed
      exact absurd rfl hfailed
    · rfl
  | clean | deleteByMask => exact change_of_status_ne_ok (fun _ => succeeds_done _) hfailed
  | delete | setMask | setTag => exact change_of_status_ne_ok (succeeds_changeAt _ _) hfailed
  | lpush | rpush => exact change_of_status_ne_ok (succeeds_push _ _) hfailed
  | lpop | rpop => exact change_of_status_ne_ok (succeeds_pop _ _) hfailed
  | insert key value mask pos =>
    refine change_of_status_ne_ok (fun collection => ?_) hfailed
    split
    · exact succeeds_error _
    · exact succeeds_done _
  | move key value pos =>
    refine change_of_status_ne_ok (fun collection => ?_) hfailed
    -- the entry is taken out only when nothing can be refused any more
    split
    · exact succeeds_error _
    split
    · exact succeeds_error _
    split
    · exact succeeds_error _
    · exact succeeds_done _

/-! ## Classes -/

theorem keys_execute_of_read (hrole : command.role = .read) :
    (store.execute command).2.keys = store.keys := by
  cases command with
  | ping | dump | stat | statSys | range | count => rfl
  | _ => cases hrole

theorem exists_key_of_write (hrole : command.role = .write) :
    ∃ key, command.key? = some key := by
  cases command with
  | ping | dump | stat | statSys | range | count => cases hrole
  | _ => exact ⟨_, rfl⟩

/-! ## Edits -/

theorem get?_change_update (hkey : Table.get? key store.keys = some collection) (value : Bytes)
    {update : Entry → Entry} (hvalue : ∀ entry, (update entry).value = entry.value) :
    ∃ entries, Table.get? key (store.change key <| changeAt value fun collection index =>
        { collection with entries := collection.entries.modify index update }).2.keys =
        some { collection with entries } ∧
      Entry.Edited collection.entries entries := by
  rw [get?_change_self hkey, outcome_changeAt]
  cases collection.find? value with
  | none => exact ⟨collection.entries, rfl, .unchanged _⟩
  | some index => exact ⟨_, rfl, .modify collection.entries index hvalue⟩

theorem get?_execute_move (hkey : Table.get? key store.keys = some collection) (value : Bytes)
    (pos : Int32) :
    ∃ entries, Table.get? key (store.execute (.move key value pos)).2.keys =
        some { collection with entries } ∧
      Entry.Edited collection.entries entries := by
  -- a refusal leaves the store as it is
  have hrefused {status : Status}
      (h : store.execute (.move key value pos) = (.ofStatus status, store)) :
      ∃ entries, Table.get? key (store.execute (.move key value pos)).2.keys =
          some { collection with entries } ∧
        Entry.Edited collection.entries entries :=
    ⟨collection.entries, by rw [h, hkey], .unchanged _⟩
  by_cases hkind : collection.kind = .sortList
  · exact hrefused (change_of_error hkey (if_pos hkind))
  cases hfind : collection.find? value with
  | none => exact hrefused (change_of_error hkey (by simp only [if_neg hkind, hfind]; rfl))
  | some index =>
    have hindex : index < collection.entries.length :=
      (List.findIdx?_eq_some_iff_findIdx_eq.mp hfind).1
    have hentry : collection.entries[index]? = some collection.entries[index] :=
      List.getElem?_eq_getElem hindex
    have hmoved : store.execute (.move key value pos) = _ :=
      change_of_ok hkey (by simp only [if_neg hkind, hfind, hentry]; rfl)
    obtain ⟨target, htarget, hplace⟩ := Collection.exists_place
      { collection with entries := collection.entries.eraseIdx index }
      collection.entries[index] pos
    rw [hmoved, hplace]
    exact ⟨_, Table.get?_insert_self _ _ _, .insertIdx_eraseIdx hentry htarget⟩

/-- Masks, tags and moves edit one entry of the collection that they name. -/
theorem edited_execute (hopcode : command.opcode ∈ [.setMask, .setTag, .move])
    (hkey : Table.get? key store.keys = some collection) :
    ∃ entries, Table.get? key (store.execute command).2.keys = some { collection with entries } ∧
      Entry.Edited collection.entries entries := by
  by_cases hnamed : command.key? = some key
  · cases command with
    | setMask named value mask =>
      obtain rfl : named = key := Option.some.inj hnamed
      exact get?_change_update hkey value fun _ => rfl
    | setTag named value tag =>
      obtain rfl : named = key := Option.some.inj hnamed
      exact get?_change_update hkey value fun _ => rfl
    | move named value pos =>
      obtain rfl : named = key := Option.some.inj hnamed
      exact get?_execute_move hkey value pos
    | _ => simp [Command.opcode] at hopcode
  · exact ⟨collection.entries, by rw [get?_execute_of_ne hnamed, hkey], .unchanged _⟩

/-! ## Runs -/

theorem Sound.executeAll (h : store.Sound) (commands : List Command) :
    (store.executeAll commands).2.Sound := by
  induction commands generalizing store with
  | nil => exact h
  | cons command commands ih => exact ih (h.execute command)

/-- A command keeps to its class. One of the read class leaves the keys as they are, and so does
every one that is not answered with success; one of the write class changes no key but the one
that it names. Masks, tags and moves edit one entry at most and leave the same values. And
whatever is done to an empty store, its values have widths and fit them. -/
theorem commands_keep_to_their_class :
    (∀ (store : Store) (command : Command),
      let after := (store.execute command).2
      (command.role = .read ∨ (store.execute command).1.status ≠ .ok →
        after.keys = store.keys) ∧
      (command.role = .write → ∃ key, command.key? = some key ∧
        ∀ other, other ≠ key → Table.get? other after.keys = Table.get? other store.keys) ∧
      (command.opcode ∈ [.setMask, .setTag, .move] →
        ∀ key collection, Table.get? key store.keys = some collection →
          ∃ entries, Table.get? key after.keys = some { collection with entries } ∧
            Entry.Edited collection.entries entries ∧
            (entries.map Entry.value).Perm (collection.entries.map Entry.value))) ∧
    (∀ commands, ∀ collection ∈ Table.values (({} : Store).executeAll commands).2.keys,
      1 ≤ collection.valueSize ∧
        ∀ entry ∈ collection.entries, entry.value.length ≤ collection.valueSize.toNat) := by
  refine ⟨fun store command => ⟨?_, ?_, ?_⟩, fun commands collection hmem => ?_⟩
  · rintro (hrole | hfailed)
    · exact keys_execute_of_read hrole
    · rw [execute_of_status_ne_ok hfailed]
  · intro hrole
    obtain ⟨key, hnamed⟩ := exists_key_of_write hrole
    refine ⟨key, hnamed, fun other hother => get?_execute_of_ne ?_⟩
    rw [hnamed]
    exact fun heq => hother (Option.some.inj heq).symm
  · intro hopcode key collection hkey
    obtain ⟨entries, hafter, hedited⟩ := edited_execute hopcode hkey
    exact ⟨entries, hafter, hedited, hedited.perm_values⟩
  · obtain ⟨hwidth, hlength⟩ := sound_empty.executeAll commands collection hmem
    exact ⟨UInt32.pos_iff_ne_zero.mpr hwidth, hlength⟩

/-- A job that is not there cannot be moved. One that is there comes to the front and the other
queue stays, and a job that is too long for a new queue is not in it. -/
theorem moved_job_keeps_to_its_queue :
    let queue (values : List Bytes) : Collection :=
      { kind := .queue, valueSize := 2, type := .string
        entries := values.map fun value => { value, mask := "" } }
    let store : Store := { keys := [("jobs", queue [[1], [2], [3]]), ("done", queue [[4]])] }
    let moved := (store.execute (.move "jobs" [3] 0)).2
    (store.execute (.move "jobs" [5] 0)).2.keys = store.keys ∧
      (∃ entries, Table.get? "jobs" moved.keys = some { queue [] with entries } ∧
        (entries.map Entry.value).Perm [[1], [2], [3]]) ∧
      Table.get? "done" moved.keys = some (queue [[4]]) ∧
      ∀ collection ∈ Table.values (({} : Store).executeAll
          [.create "jobs" 2 "" .queue .string, .rpush "jobs" [1, 2, 3] ""]).2.keys,
        ∀ entry ∈ collection.entries, entry.value.length ≤ collection.valueSize.toNat := by
  intro queue store moved
  obtain ⟨hcommands, hreached⟩ := commands_keep_to_their_class
  obtain ⟨hunchanged, -, -⟩ := hcommands store (.move "jobs" [5] 0)
  obtain ⟨-, hothers, hedited⟩ := hcommands store (.move "jobs" [3] 0)
  obtain ⟨entries, hjobs, -, hperm⟩ :=
    hedited (by decide) "jobs" (queue [[1], [2], [3]]) rfl
  obtain ⟨key, hnamed, hkept⟩ := hothers rfl
  have hother : "done" ≠ key := by
    obtain rfl : "jobs" = key := Option.some.inj hnamed
    decide
  exact ⟨hunchanged (.inr (by decide)), ⟨entries, hjobs, hperm⟩, hkept "done" hother,
    fun collection hmem => (hreached _ collection hmem).2⟩

end Store
end MaskedList
