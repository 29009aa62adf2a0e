import MaskedList.Proofs.Store.Arrival

/-!
# Sorted lists

A command makes of a sorted list what it makes of its arrivals: the same places are changed,
taken out and put in.  So a sorted list is in order after any commands.
-/

namespace MaskedList

/-- No entry stands before one that is less. -/
def Entry.Sorted (type : ValueType) (entries : List Entry) : Prop :=
  entries.Pairwise fun a b => type.compareValues a.value b.value ≠ .gt

namespace Store

variable {store : Store} {key : String} {valueSize : UInt32} {type : ValueType}
  {arrivals : List Arrival}

theorem find?_arrivals (value : Bytes) :
    (Arrival.collection valueSize type arrivals).find? value =
      arrivals.findIdx? fun arrival => arrival.entry.value = value :=
  List.findIdx?_map

theorem outcome_filter_arrivals (stays : Entry → Bool) :
    outcome (fun collection => done { collection with entries := collection.entries.filter stays })
        (Arrival.collection valueSize type arrivals) =
      Arrival.collection valueSize type (arrivals.filter fun arrival => stays arrival.entry) := by
  simp only [outcome, done, Arrival.collection, List.filter_map]
  rfl

theorem outcome_delete_arrivals (value : Bytes) :
    outcome (changeAt value fun collection index =>
        { collection with entries := collection.entries.eraseIdx index })
        (Arrival.collection valueSize type arrivals) =
      Arrival.collection valueSize type
        (arrivals.eraseP fun arrival => arrival.entry.value = value) := by
  rw [outcome_changeAt, find?_arrivals, List.eraseP_eq_eraseIdx]
  split <;> simp [Arrival.collection, List.eraseIdx_map, *]

theorem outcome_update_arrivals (value : Bytes) (update : Entry → Entry) :
    outcome (changeAt value fun collection index =>
        { collection with entries := collection.entries.modify index update })
        (Arrival.collection valueSize type arrivals) =
      Arrival.collection valueSize type (Arrival.updateFirst value update arrivals) := by
  rw [outcome_changeAt, find?_arrivals, Arrival.updateFirst]
  cases arrivals.findIdx? fun arrival => arrival.entry.value = value with
  | none => rfl
  | some index =>
    exact congrArg (Collection.mk _ _ _) (Arrival.map_modify (fun _ => by rfl) _ _).symm

/-- A sorted list puts a new entry where its arrival settles. -/
theorem place_arrival (entry : Entry) (pos : Int32) (now : Nat) :
    (Arrival.collection valueSize type arrivals).place entry pos =
      Arrival.collection valueSize type (Arrival.settle type ⟨entry, now⟩ arrivals) :=
  congrArg (Collection.mk _ _ _) (Arrival.map_entry_settle ⟨entry, now⟩ arrivals).symm

theorem outcome_insert_arrivals (value : Bytes) (mask : String) (pos : Int32) (now : Nat) :
    outcome (fun collection => if !collection.fits value then .error .invalidParam
        else done (collection.place { value, mask } pos))
        (Arrival.collection valueSize type arrivals) =
      Arrival.collection valueSize type
        (if value.length ≤ valueSize.toNat then
          Arrival.settle type ⟨{ value, mask }, now⟩ arrivals else arrivals) := by
  rw [outcome, place_arrival _ pos now]
  by_cases hfits : value.length ≤ valueSize.toNat
  · simp [Collection.fits, Arrival.collection, hfits, done]
  · simp [Collection.fits, Arrival.collection, hfits]

theorem outcome_pop_arrivals (hnodup : arrivals.Nodup) (listEnd : ListEnd) (num : UInt32) :
    outcome (pop num listEnd.pop) (Arrival.collection valueSize type arrivals) =
      Arrival.collection valueSize type (Arrival.leftBy listEnd num arrivals) := by
  -- without anything to take out all are left
  have hall (hnone : listEnd.picks Arrival.entry num.toNat arrivals = []) :
      Arrival.leftBy listEnd num arrivals = arrivals := by
    rw [Arrival.leftBy, hnone]
    exact List.filter_eq_self.mpr fun _ _ => by simp
  rw [outcome, pop]
  by_cases hnum : num = 0
  · rw [if_pos hnum, hall]
    rw [hnum]
    exact ListEnd.picks_zero
  rw [if_neg hnum, listEnd.pop_eq hnodup rfl num.toNat]
  cases hpicks : listEnd.picks Arrival.entry num.toNat arrivals with
  | nil => simp only [List.map_nil, hall hpicks]
  | cons first picked =>
    rw [Arrival.leftBy, hpicks]
    rfl

/-- A command makes of a sorted list what it makes of its arrivals. -/
theorem get?_execute_arrivals
    (hkey : Table.get? key store.keys = some (Arrival.collection valueSize type arrivals))
    (hnodup : arrivals.Nodup) {command : Command} (hnamed : command.key? = some key)
    (hkept : command ≠ .rmKey key) (now : Nat) :
    Table.get? key (store.execute command).2.keys =
      some (Arrival.collection valueSize type
        (Arrival.after valueSize type now arrivals command)) := by
  have hchange {named : String} {update : Collection → Except Status (Response × Collection)}
      {left : List Arrival} (hnamed : some named = some key)
      (houtcome : outcome update (Arrival.collection valueSize type arrivals) =
        Arrival.collection valueSize type left) :
      Table.get? key (store.change named update).2.keys =
        some (Arrival.collection valueSize type left) := by
    obtain rfl := Option.some.inj hnamed
    rw [get?_change_self hkey, houtcome]
  cases command with
  | ping | dump | statSys => cases hnamed
  | stat | range | count => exact hkey
  | create named =>
    obtain rfl : named = key := Option.some.inj hnamed
    simp only [execute, hkey, Option.isSome_some, if_true]
    split <;> exact hkey
  | rmKey named =>
    obtain rfl : named = key := Option.some.inj hnamed
    exact absurd rfl hkept
  | clean | deleteByMask => exact hchange hnamed (outcome_filter_arrivals _)
  | delete named value => exact hchange hnamed (outcome_delete_arrivals value)
  | insert named value mask pos =>
    exact hchange hnamed (outcome_insert_arrivals value mask pos now)
  | setMask named value | setTag named value =>
    exact hchange hnamed (outcome_update_arrivals value _)
  | move | lpush | rpush => exact hchange hnamed rfl
  | lpop named num => exact hchange hnamed (outcome_pop_arrivals hnodup .head num)
  | rpop named num => exact hchange hnamed (outcome_pop_arrivals hnodup .tail num)

/-- Commands make of a sorted list what they make of its arrivals. -/
theorem get?_executeAll_arrivals {done commands : List Command}
    (hkey : Table.get? key store.keys = some (Arrival.collection valueSize type arrivals))
    (horder : Arrival.InOrder type key done arrivals) (hkept : .rmKey key ∉ commands)
    (hvalues : ∀ value mask pos, .insert key value mask pos ∈ commands →
      value.length ≤ valueSize.toNat → type.Orders value) :
    Table.get? key (store.executeAll commands).2.keys =
      some (Arrival.collection valueSize type
        (Arrival.afterAll valueSize type key done.length arrivals commands)) := by
  induction commands generalizing store done arrivals with
  | nil => exact hkey
  | cons command commands ih =>
    obtain ⟨hcommand, hcommands⟩ := not_or.mp (List.mem_cons.not.mp hkept)
    have hnext : Table.get? key (store.execute command).2.keys =
        some (Arrival.collection valueSize type
          (Arrival.next valueSize type key done.length arrivals command)) := by
      rw [Arrival.next]
      split
      · rename_i hnamed
        exact get?_execute_arrivals hkey horder.nodup hnamed (Ne.symm hcommand) _
      · rename_i hother
        rw [get?_execute_of_ne hother, hkey]
    have hlast := ih hnext
      (horder.next fun value mask pos heq => hvalues value mask pos (heq ▸ List.mem_cons_self ..))
      hcommands
      fun value mask pos hmem => hvalues value mask pos (List.mem_cons_of_mem _ hmem)
    rw [List.length_append, List.length_singleton] at hlast
    exact hlast

/-- A created sorted list has had no arrivals. -/
theorem get?_create_sortList {mask : String}
    (hcreated : (store.execute (.create key valueSize mask .sortList type)).1.status = .ok) :
    Table.get? key (store.execute (.create key valueSize mask .sortList type)).2.keys =
      some (Arrival.collection valueSize type []) := by
  simp only [execute] at hcreated ⊢
  split at hcreated
  · cases hcreated
  split at hcreated
  · cases hcreated
  rename_i hwidth hfree
  rw [if_neg hwidth, if_neg hfree]
  exact Table.get?_insert_self _ _ _

/-- From its creation until it is removed, a sorted list into which only values are inserted
that its type puts in order holds its arrivals after every command, whatever else is done to
it or to other keys.  They are in the order of their values, and of two equal ones the earlier
stands before the later; every time is that of a command that inserted just this value.  So
what the caller of a range is shown is in order too, and moves and pushes change nothing. -/
theorem sorted_list_stays_sorted {mask : String} {commands : List Command}
    (hcreated : (store.execute (.create key valueSize mask .sortList type)).1.status = .ok)
    (hkept : .rmKey key ∉ commands)
    (hvalues : ∀ value mask pos, .insert key value mask pos ∈ commands →
      value.length ≤ valueSize.toNat → type.Orders value) :
    let created := (store.execute (.create key valueSize mask .sortList type)).2
    let last := (created.executeAll commands).2
    let arrivals := Arrival.afterAll valueSize type key 0 [] commands
    let collection := Arrival.collection valueSize type arrivals
    Table.get? key last.keys = some collection ∧
      Entry.Sorted type collection.entries ∧
      (∀ arrival ∈ arrivals, ∃ mask pos,
        commands[arrival.time]? = some (.insert key arrival.entry.value mask pos)) ∧
      (arrivals.Pairwise fun a b =>
        type.compareValues a.entry.value b.entry.value = .eq → a.time < b.time) ∧
      (∀ kind filter start len, 0 ≤ start.toInt →
        ∃ shown, shown.Sublist collection.entries ∧ Entry.Sorted type shown ∧
          last.execute (.range key kind filter start len) =
            (itemsResponse collection shown, last) ∧
          collection.Shows (itemsResponse collection shown) shown) ∧
      (∀ value pos, last.execute (.move key value pos) = (.ofStatus .typeMismatch, last)) ∧
      ∀ (listEnd : ListEnd) value mask,
        last.execute (listEnd.pushCommand key value mask) = (.ofStatus .typeMismatch, last) := by
  intro created last arrivals collection
  have horder : Arrival.InOrder type key ([] ++ commands) arrivals :=
    Arrival.InOrder.nil.afterAll hvalues
  have hkey : Table.get? key last.keys = some collection :=
    get?_executeAll_arrivals (get?_create_sortList hcreated) Arrival.InOrder.nil hkept hvalues
  have hsorted : Entry.Sorted type collection.entries :=
    List.pairwise_map.mpr (horder.precedes.imp Arrival.Precedes.compareValues_ne_gt)
  refine ⟨hkey, hsorted, horder.inserted, horder.precedes.imp Arrival.Precedes.time_lt, ?_, ?_, ?_⟩
  · intro kind filter start len hstart
    have hshown : (((collection.select kind filter).drop start.toInt.toNat).take
        len.toNat).Sublist collection.entries :=
      (List.take_sublist _ _).trans ((List.drop_sublist _ _).trans List.filter_sublist)
    refine ⟨_, hshown, hsorted.sublist hshown, ?_, shows_of_subset hshown.subset⟩
    simp only [execute, query, hkey, if_neg (Int.not_lt.mpr hstart)]
  · intro value pos
    exact change_of_error hkey (if_pos rfl)
  · intro listEnd value mask
    cases listEnd <;> exact change_of_error hkey (if_pos rfl)

/-- Three ways to write ten and a nine: the two tens that are left stand as they came. -/
theorem tens_stay_in_order_of_arrival :
    let created := (({} : Store).execute (.create "scores" 4 "" .sortList .int)).2
    let commands : List Command :=
      [.insert "scores" (Bytes.ofText "10") "a" 0, .insert "scores" (Bytes.ofText " 9") "b" (-1),
        .insert "scores" (Bytes.ofText "010") "c" 0, .insert "scores" (Bytes.ofText "+10") "d" 0,
        .setTag "scores" (Bytes.ofText "010") tagDeleted, .lpop "scores" 1,
        .delete "scores" (Bytes.ofText "10"), .setMask "scores" (Bytes.ofText "+10") "e",
        .move "scores" (Bytes.ofText "+10") 0, .rpush "scores" (Bytes.ofText "7") ""]
    let left : List Arrival :=
      [⟨{ value := Bytes.ofText "010", mask := "c", tagged := true }, 2⟩,
        ⟨{ value := Bytes.ofText "+10", mask := "e" }, 3⟩]
    Table.get? "scores" (created.executeAll commands).2.keys =
        some (Arrival.collection 4 .int left) ∧
      left.Pairwise fun a b =>
        ValueType.int.compareValues a.entry.value b.entry.value = .eq → a.time < b.time := by
  intro created commands left
  have hvalues : ∀ value mask pos, .insert "scores" value mask pos ∈ commands →
      value.length ≤ (4 : UInt32).toNat → ValueType.int.Orders value := by
    intro value mask pos hmem _
    simp only [commands, List.mem_cons, Command.insert.injEq, List.not_mem_nil, reduceCtorEq,
      or_false, true_and] at hmem
    -- all four write an integer
    obtain ⟨rfl, -⟩ | ⟨rfl, -⟩ | ⟨rfl, -⟩ | ⟨rfl, -⟩ := hmem <;>
      simp only [ValueType.Orders] <;> decide +kernel
  have hcreated : (({} : Store).execute (.create "scores" 4 "" .sortList .int)).1.status = .ok :=
    rfl
  have hkept : .rmKey "scores" ∉ commands := by decide +kernel
  have hleft : Arrival.afterAll 4 .int "scores" 0 [] commands = left := by decide +kernel
  obtain ⟨hkey, -, -, hstable, -⟩ :=
    sorted_list_stays_sorted hcreated hkept hvalues
  rw [hleft] at hkey hstable
  exact ⟨hkey, hstable⟩

end Store
end MaskedList
