import MaskedList.Proofs.Store.Frame
import Mathlib.Data.List.InsertIdx

/-!
# What every store keeps to

A collection is sound if it is for values of at least one byte and none of its values is
longer than it says.  No command makes a store unsound, whatever it asks for, so a store
that began empty is sound at any time.
-/

namespace MaskedList

namespace Collection

/-- The values have a width, and each of them has room in it. -/
structure Sound (collection : Collection) : Prop where
  valueSize_ne_zero : collection.valueSize ≠ 0
  length_le : ∀ entry ∈ collection.entries, entry.value.length ≤ collection.valueSize.toNat

variable {collection : Collection} {entry : Entry} {entries : List Entry} {num : Nat}

/-- Entries that were there before have room. -/
theorem Sound.subset (h : collection.Sound) (hsubset : entries ⊆ collection.entries) :
    Sound { collection with entries } :=
  ⟨h.valueSize_ne_zero, fun entry hmem => h.length_le entry (hsubset hmem)⟩

/-- Changes of masks and tags leave the values as they are. -/
theorem Sound.modify (h : collection.Sound) (index : Nat) {update : Entry → Entry}
    (hvalue : ∀ entry, (update entry).value = entry.value) :
    Sound { collection with entries := collection.entries.modify index update } := by
  refine ⟨h.valueSize_ne_zero, ?_⟩
  intro entry hmem
  obtain ⟨place, hplace⟩ := List.getElem?_of_mem hmem
  rw [List.getElem?_modify] at hplace
  obtain ⟨old, hold, rfl⟩ := Option.map_eq_some_iff.mp hplace
  have hlength := h.length_le old (List.mem_of_getElem? hold)
  split
  · rwa [hvalue]
  · exact hlength

/-- An entry that has room can go anywhere. -/
theorem Sound.insertIdx (h : collection.Sound)
    (hentry : entry.value.length ≤ collection.valueSize.toNat) (index : Nat) :
    Sound { collection with entries := collection.entries.insertIdx index entry } := by
  refine ⟨h.valueSize_ne_zero, ?_⟩
  intro other hmem
  obtain rfl | hold := List.eq_or_mem_of_mem_insertIdx hmem
  · exact hentry
  · exact h.length_le other hold

theorem Sound.place (h : collection.Sound)
    (hentry : entry.value.length ≤ collection.valueSize.toNat) (pos : Int32) :
    (collection.place entry pos).Sound :=
  h.insertIdx hentry _

/-- What is taken out and what is left are together what was there. -/
theorem perm_takeVisible (num : Nat) (entries : List Entry) :
    ((takeVisible num entries).1 ++ (takeVisible num entries).2).Perm entries := by
  induction num, entries using takeVisible.induct with
  | case1 entries => rw [takeVisible, List.nil_append]
  | case2 num => rw [takeVisible, List.nil_append]
  | case3 num entry entries htagged taken left htake ih =>
    rw [htake] at ih
    rw [takeVisible, if_pos htagged, htake]
    exact List.perm_middle.trans (ih.cons entry)
  | case4 num entry entries htagged taken left htake ih =>
    rw [htake] at ih
    rw [takeVisible, if_neg htagged, htake]
    exact ih.cons entry

theorem takeVisible_subset (num : Nat) (entries : List Entry) :
    (takeVisible num entries).1 ⊆ entries ∧ (takeVisible num entries).2 ⊆ entries := by
  have hperm := perm_takeVisible num entries
  exact ⟨fun entry hmem => hperm.subset (List.mem_append_left _ hmem),
    fun entry hmem => hperm.subset (List.mem_append_right _ hmem)⟩

end Collection

namespace Store

/-- All collections are sound. -/
def Sound (store : Store) : Prop :=
  ∀ collection ∈ Table.values store.keys, collection.Sound

variable {store : Store} {key : String}

theorem sound_empty : Sound {} := by
  intro collection hmem
  cases hmem

theorem Sound.get? {collection : Collection} (h : store.Sound)
    (hkey : Table.get? key store.keys = some collection) : collection.Sound :=
  h collection (Table.mem_values_of_get? hkey)

theorem Sound.insert {collection : Collection} (h : store.Sound) (hnew : collection.Sound) :
    Sound { store with keys := Table.insert key collection store.keys } := by
  intro other hmem
  obtain rfl | hold := Table.eq_or_mem_of_mem_insert hmem
  · exact hnew
  · exact h other hold

/-- A change of a key is sound if it takes sound collections to sound ones. -/
theorem Sound.change {update : Collection → Except Status (Response × Collection)}
    (h : store.Sound)
    (hupdate : ∀ {collection response changed}, collection.Sound →
      update collection = .ok (response, changed) → changed.Sound) :
    (store.change key update).2.Sound := by
  rw [Store.change]
  cases hkey : Table.get? key store.keys with
  | none => exact h
  | some collection =>
    cases hchanged : update collection with
    | error status => simpa [hchanged] using h
    | ok answer =>
      obtain ⟨response, changed⟩ := answer
      simpa [hchanged] using h.insert (hupdate (h.get? hkey) hchanged)

/-- A change that is never refused. -/
theorem Sound.change_done {update : Collection → Collection} (h : store.Sound)
    (hupdate : ∀ {collection}, collection.Sound → (update collection).Sound) :
    (store.change key fun collection => done (update collection)).2.Sound := by
  refine h.change fun hsound hchanged => ?_
  cases hchanged
  exact hupdate hsound

theorem Sound.changeAt {value : Bytes} {update : Collection → Nat → Collection}
    (h : store.Sound)
    (hupdate : ∀ {collection} index, collection.Sound → (update collection index).Sound) :
    (store.change key (changeAt value update)).2.Sound := by
  refine h.change fun hsound hchanged => ?_
  obtain ⟨index, -, -, rfl⟩ := changeAt_eq_ok hchanged
  exact hupdate index hsound

theorem Sound.push {value : Bytes} {update : List Entry → List Entry} (h : store.Sound)
    (hupdate : ∀ {entries entry}, entry ∈ update entries →
      entry.value = value ∨ entry ∈ entries) :
    (store.change key (push value update)).2.Sound := by
  refine h.change fun hsound hchanged => ?_
  obtain ⟨-, hfits, -, rfl⟩ := push_eq_ok hchanged
  refine ⟨hsound.valueSize_ne_zero, ?_⟩
  intro entry hmem
  obtain hnew | hold := hupdate hmem
  · rw [hnew]
    simpa [Collection.fits] using hfits
  · exact hsound.length_le entry hold

theorem Sound.pop {num : UInt32} {take : Collection → Nat → List Entry × Collection}
    (h : store.Sound)
    (htake : ∀ {collection} num, collection.Sound → (take collection num).2.Sound) :
    (store.change key (pop num take)).2.Sound := by
  refine h.change fun hsound hchanged => ?_
  obtain ⟨-, -, -, rfl⟩ := pop_eq_ok hchanged
  exact htake num.toNat hsound

/-- Every command leaves a sound store sound. -/
theorem Sound.execute (h : store.Sound) (command : Command) :
    (store.execute command).2.Sound := by
  cases command with
  | ping | stat | statSys | range | count => exact h
  | dump => exact h
  | create key valueSize mask kind type =>
    simp only [Store.execute]
    split
    · exact h
    · split
      · exact h
      · rename_i hwidth _
        exact h.insert ⟨hwidth, fun entry hmem => by cases hmem⟩
  | rmKey key =>
    simp only [Store.execute]
    split
    · exact fun collection hmem => h collection (Table.mem_of_mem_erase hmem)
    · exact h
  | clean key | deleteByMask key mask =>
    exact h.change_done fun hsound => hsound.subset List.filter_sublist.subset
  | delete key value =>
    exact h.changeAt fun index hsound => hsound.subset (List.eraseIdx_sublist _ _).subset
  | setMask key value mask | setTag key value tag =>
    exact h.changeAt fun index hsound => hsound.modify index fun _ => rfl
  | insert key value mask pos =>
    refine h.change fun hsound hchanged => ?_
    split at hchanged
    · cases hchanged
    · rename_i hfits
      cases hchanged
      exact hsound.place (by simpa [Collection.fits] using hfits) pos
  | move key value pos =>
    refine h.change fun hsound hchanged => ?_
    split at hchanged
    · cases hchanged
    split at hchanged
    · cases hchanged
    split at hchanged
    · cases hchanged
    · rename_i entry hentry
      cases hchanged
      -- the entry had room before it was taken out
      have hlength := hsound.length_le entry (List.mem_of_getElem? hentry)
      exact (hsound.subset (List.eraseIdx_sublist _ _).subset).place hlength pos
  | lpush key value mask =>
    exact h.push fun hmem => (List.mem_cons.mp hmem).imp_left fun heq => by rw [heq]
  | rpush key value mask =>
    exact h.push fun hmem => by
      obtain hold | hnew := List.mem_append.mp hmem
      · exact Or.inr hold
      · rw [List.mem_singleton.mp hnew]
        exact Or.inl rfl
  | lpop key num =>
    exact h.pop fun num hsound => hsound.subset (Collection.takeVisible_subset num _).2
  | rpop key num =>
    refine h.pop fun num hsound => hsound.subset fun entry hmem => ?_
    have hleft := (Collection.takeVisible_subset num _).2 (List.mem_reverse.mp hmem)
    exact List.mem_reverse.mp hleft

end Store
end MaskedList
