import Mathlib.Data.List.Nodup
import MaskedList.Proofs.Store.Shown

/-!
# What pops take out

A pop goes along a list from one of its ends and picks untagged entries until it has as many
as were asked for.  Which ones these are is said by their places, so that it is clear of
entries that are the same in all else: `ListEnd.picks`.  A key whose kind has ends and that
has no tagged entries is a double-ended queue, `DequeCall.perform`.
-/

namespace MaskedList

/-- The ends of a list. -/
inductive ListEnd where
  | head
  | tail
  deriving DecidableEq, Repr

namespace ListEnd

variable {α : Type}

/-- A list as it is met on the way from the end. -/
def along : ListEnd → List α → List α
  | .head => id
  | .tail => List.reverse

/-- The command that pops values from the end. -/
def popCommand : ListEnd → (key : String) → (num : UInt32) → Command
  | .head => .lpop
  | .tail => .rpop

/-- The command that pushes a value at the end. -/
def pushCommand : ListEnd → (key : String) → (value : Bytes) → (mask : String) → Command
  | .head => .lpush
  | .tail => .rpush

/-- How a collection pops values from the end. -/
def pop : ListEnd → Collection → (num : Nat) → List Entry × Collection
  | .head => Collection.popHead
  | .tail => Collection.popTail

/-- The first `num` untagged ones on the way from the end. -/
def picks (listEnd : ListEnd) (entry : α → Entry) (num : Nat) (placed : List α) : List α :=
  (listEnd.along (placed.filter fun member => !(entry member).tagged)).take num

theorem mem_along {listEnd : ListEnd} {member : α} {placed : List α} :
    member ∈ listEnd.along placed ↔ member ∈ placed := by
  cases listEnd
  · exact Iff.rfl
  · exact List.mem_reverse

@[simp]
theorem length_along (listEnd : ListEnd) (placed : List α) :
    (listEnd.along placed).length = placed.length := by
  cases listEnd
  · rfl
  · exact List.length_reverse

@[simp]
theorem along_eq_nil {listEnd : ListEnd} {placed : List α} :
    listEnd.along placed = [] ↔ placed = [] := by
  rw [← List.length_eq_zero_iff, length_along, List.length_eq_zero_iff]

section Picks

variable {listEnd : ListEnd} {entry : α → Entry} {num : Nat} {placed : List α} {member : α}

/-- Only untagged members are picked. -/
theorem of_mem_picks (h : member ∈ listEnd.picks entry num placed) :
    member ∈ placed ∧ (entry member).tagged = false := by
  obtain ⟨hmem, huntagged⟩ := List.mem_filter.mp (mem_along.mp (List.mem_of_mem_take h))
  exact ⟨hmem, by simpa using huntagged⟩

@[simp]
theorem picks_zero : listEnd.picks entry 0 placed = [] :=
  List.take_zero

theorem picks_head_cons_of_tagged (h : (entry member).tagged = true) :
    head.picks entry num (member :: placed) = head.picks entry num placed := by
  rw [picks, along, id, List.filter_cons_of_neg (by simp [h])]
  rfl

theorem picks_head_cons_of_untagged (h : ¬ (entry member).tagged = true) :
    head.picks entry (num + 1) (member :: placed) = member :: head.picks entry num placed := by
  rw [picks, along, id, List.filter_cons_of_pos (by simp [h]), List.take_succ_cons]
  rfl

/-- From the tail on, the list is met as its reverse is from the head. -/
theorem picks_tail : tail.picks entry num placed = head.picks entry num placed.reverse := by
  rw [picks, picks, List.filter_reverse]
  rfl

end Picks
end ListEnd

namespace Collection

variable {α : Type} [BEq α] [LawfulBEq α] {entry : α → Entry} {placed : List α}

/-- What is taken out from the head are the picked members, as long as all are different. -/
theorem takeVisible_map (hnodup : placed.Nodup) (num : Nat) :
    takeVisible num (placed.map entry) =
      ((ListEnd.head.picks entry num placed).map entry,
        (placed.filter fun member => member ∉ ListEnd.head.picks entry num placed).map entry) := by
  induction placed generalizing num with
  | nil => cases num <;> simp [takeVisible, ListEnd.picks, ListEnd.along]
  | cons member placed ih =>
    obtain ⟨hfresh, hnodup⟩ := List.nodup_cons.mp hnodup
    cases num with
    | zero => simp [takeVisible, List.filter_eq_self.mpr]
    | succ num =>
      rw [List.map_cons, takeVisible]
      by_cases htagged : (entry member).tagged = true
      · have hleft : member ∉ ListEnd.head.picks entry (num + 1) placed := fun hmem =>
          hfresh (ListEnd.of_mem_picks hmem).1
        rw [if_pos htagged, ih hnodup, ListEnd.picks_head_cons_of_tagged htagged,
          List.filter_cons_of_pos (by simpa using hleft), List.map_cons]
      · rw [if_neg htagged, ih hnodup, ListEnd.picks_head_cons_of_untagged htagged,
          List.filter_cons_of_neg (by simp), List.map_cons]
        -- the others are not the picked one, so they are left or not as before
        have hothers : placed.filter (fun other =>
            other ∉ member :: ListEnd.head.picks entry num placed) =
            placed.filter fun other => other ∉ ListEnd.head.picks entry num placed := by
          refine List.filter_congr fun other hmem => ?_
          have hne : other ≠ member := fun heq => hfresh (heq ▸ hmem)
          simp [hne]
        rw [hothers]

end Collection

namespace ListEnd

variable {α : Type} [BEq α] [LawfulBEq α] {entry : α → Entry} {placed : List α}

/-- A pop takes out the picked members and leaves all others, in their order. -/
theorem pop_eq (listEnd : ListEnd) {collection : Collection} (hnodup : placed.Nodup)
    (hentries : placed.map entry = collection.entries) (num : Nat) :
    listEnd.pop collection num =
      ((listEnd.picks entry num placed).map entry,
        { collection with
          entries := (placed.filter fun member =>
            member ∉ listEnd.picks entry num placed).map entry }) := by
  cases listEnd with
  | head =>
    rw [pop, Collection.popHead, ← hentries, Collection.takeVisible_map hnodup]
  | tail =>
    have htake : Collection.takeVisible num (placed.reverse.map entry) = _ :=
      Collection.takeVisible_map (List.nodup_reverse.mpr hnodup) num
    rw [List.map_reverse] at htake
    rw [pop, Collection.popTail, ← hentries, htake, picks_tail]
    simp only [List.filter_reverse, List.map_reverse, List.reverse_reverse]

/-- What a pop takes out and what it leaves are together what was there. -/
theorem perm_pop (listEnd : ListEnd) (collection : Collection) (num : Nat) :
    ((listEnd.pop collection num).1 ++ (listEnd.pop collection num).2.entries).Perm
      collection.entries := by
  cases listEnd with
  | head => exact Collection.perm_takeVisible num collection.entries
  | tail =>
    have hperm := Collection.perm_takeVisible num collection.entries.reverse
    exact ((List.reverse_perm _).append_left _).trans (hperm.trans (List.reverse_perm _))

end ListEnd

namespace Collection

/-- The entries with their places, which are all different. -/
def placed (collection : Collection) : List (Entry × Nat) :=
  collection.entries.zipIdx

theorem nodup_placed (collection : Collection) : collection.placed.Nodup := by
  refine List.Nodup.of_map Prod.snd ?_
  rw [placed, List.zipIdx_map_snd]
  exact List.nodup_range'

theorem map_fst_placed (collection : Collection) :
    collection.placed.map Prod.fst = collection.entries :=
  List.zipIdx_map_fst 0 collection.entries

end Collection

namespace Store

variable {store : Store} {key : String} {collection : Collection} {num : UInt32}

theorem execute_popCommand (listEnd : ListEnd) :
    store.execute (listEnd.popCommand key num) = store.change key (pop num listEnd.pop) := by
  cases listEnd <;> rfl

theorem execute_pop_zero (hkey : Table.get? key store.keys = some collection)
    (listEnd : ListEnd) :
    store.execute (listEnd.popCommand key 0) = (.ofStatus .invalidParam, store) := by
  rw [execute_popCommand]
  exact change_of_error hkey (if_pos rfl)

theorem execute_pop_of_nil (hkey : Table.get? key store.keys = some collection)
    (hnum : num ≠ 0) {listEnd : ListEnd} (htaken : (listEnd.pop collection num.toNat).1 = []) :
    store.execute (listEnd.popCommand key num) = (.ofStatus .empty, store) := by
  rw [execute_popCommand]
  refine change_of_error hkey ?_
  rcases hpop : listEnd.pop collection num.toNat with ⟨taken, left⟩
  rw [hpop] at htaken
  simp only at htaken
  rw [pop, if_neg hnum, hpop, htaken]

theorem execute_pop_of_ne_nil (hkey : Table.get? key store.keys = some collection)
    (hnum : num ≠ 0) {listEnd : ListEnd} (htaken : (listEnd.pop collection num.toNat).1 ≠ []) :
    store.execute (listEnd.popCommand key num) =
      (itemsResponse collection (listEnd.pop collection num.toNat).1,
        { store with
          keys := Table.insert key (listEnd.pop collection num.toNat).2 store.keys }) := by
  rw [execute_popCommand]
  refine change_of_ok hkey ?_
  rcases hpop : listEnd.pop collection num.toNat with ⟨_ | ⟨first, taken⟩, left⟩
  · simp [hpop] at htaken
  · rw [pop, if_neg hnum, hpop]

/-- A pop by the places of what it takes out and what it leaves. -/
theorem execute_pop (hkey : Table.get? key store.keys = some collection) (hnum : num ≠ 0)
    (listEnd : ListEnd) :
    let picked := listEnd.picks Prod.fst num.toNat collection.placed
    let left := collection.placed.filter fun member => member ∉ picked
    (picked.map Prod.fst ++ left.map Prod.fst).Perm collection.entries ∧
      store.execute (listEnd.popCommand key num) =
        if collection.placed.filter (fun member => !member.1.tagged) = [] then
          (.ofStatus .empty, store)
        else
          (itemsResponse collection (picked.map Prod.fst),
            { store with
              keys := Table.insert key { collection with entries := left.map Prod.fst }
                store.keys }) := by
  intro picked left
  have hpop := listEnd.pop_eq collection.nodup_placed collection.map_fst_placed num.toNat
  have hperm := listEnd.perm_pop collection num.toNat
  rw [hpop] at hperm
  refine ⟨hperm, ?_⟩
  have hpositive : num.toNat ≠ 0 := fun hzero => hnum (UInt32.toNat_inj.mp hzero)
  have hnone : picked = [] ↔ collection.placed.filter (fun member => !member.1.tagged) = [] := by
    simp [picked, ListEnd.picks, List.take_eq_nil_iff, hpositive]
  split
  · rename_i hempty
    refine execute_pop_of_nil hkey hnum ?_
    rw [hpop]
    exact List.map_eq_nil_iff.mpr (hnone.mpr hempty)
  · rename_i hsome
    have htaken : (listEnd.pop collection num.toNat).1 ≠ [] := by
      rw [hpop]
      exact fun heq => hsome (hnone.mp (List.map_eq_nil_iff.mp heq))
    rw [execute_pop_of_ne_nil hkey hnum htaken, hpop]

end Store

/-! ## Keys that are double-ended queues -/

/-- What can be asked of a double-ended queue of values with their masks. -/
inductive DequeCall where
  | push (listEnd : ListEnd) (value : Bytes) (mask : String)
  | pop (listEnd : ListEnd) (num : UInt32)
  deriving DecidableEq, Repr

/-- What a double-ended queue answers. -/
inductive DequeAnswer where
  | pushed
  /-- The popped values with their masks, in the order in which they were popped. -/
  | popped (items : List (Bytes × String))
  /-- There was nothing to pop. -/
  | empty
  /-- No value was asked for. -/
  | refused
  deriving DecidableEq, Repr

namespace DequeCall

/-- What a double-ended queue does. -/
def perform (items : List (Bytes × String)) :
    DequeCall → DequeAnswer × List (Bytes × String)
  | .push .head value mask => (.pushed, (value, mask) :: items)
  | .push .tail value mask => (.pushed, items ++ [(value, mask)])
  | .pop listEnd num =>
    if num = 0 then (.refused, items)
    else if items = [] then (.empty, [])
    else
      let met := listEnd.along items
      (.popped (met.take num.toNat), listEnd.along (met.drop num.toNat))

/-- What a double-ended queue does when it is called several times. -/
def performAll (items : List (Bytes × String)) :
    List DequeCall → List DequeAnswer × List (Bytes × String)
  | [] => ([], items)
  | call :: calls =>
    let (answer, next) := call.perform items
    let (answers, last) := performAll next calls
    (answer :: answers, last)

/-- The command for a call. -/
def command (key : String) : DequeCall → Command
  | .push listEnd value mask => listEnd.pushCommand key value mask
  | .pop listEnd num => listEnd.popCommand key num

/-- Whether a value that is pushed is small enough. -/
def Fits (valueSize : UInt32) : DequeCall → Prop
  | .push _ value _ => value.length ≤ valueSize.toNat
  | .pop _ _ => True

end DequeCall

/-- An item as an entry without a tag. -/
def Entry.ofItem (item : Bytes × String) : Entry :=
  { value := item.1, mask := item.2 }

/-- A deque's answer as a response of a collection. -/
def DequeAnswer.response (collection : Collection) : DequeAnswer → Response
  | .pushed => .ok none
  | .popped items => Store.itemsResponse collection (items.map Entry.ofItem)
  | .empty => .ofStatus .empty
  | .refused => .ofStatus .invalidParam

section Deque

variable {items : List (Bytes × String)}

/-- What a call pops was there, and what it leaves was there or is what it pushes. -/
theorem DequeCall.mem_of_perform (call : DequeCall) (items : List (Bytes × String)) :
    (∀ popped, (call.perform items).1 = .popped popped → popped ⊆ items) ∧
      ∀ item ∈ (call.perform items).2, item ∈ items ∨
        ∃ listEnd, call = .push listEnd item.1 item.2 := by
  cases call with
  | push listEnd value mask =>
    cases listEnd with
    | head =>
      refine ⟨nofun, fun item hmem => ?_⟩
      obtain rfl | hold := List.mem_cons.mp hmem
      · exact Or.inr ⟨.head, rfl⟩
      · exact Or.inl hold
    | tail =>
      refine ⟨nofun, fun item hmem => ?_⟩
      obtain hold | hnew := List.mem_append.mp hmem
      · exact Or.inl hold
      · obtain rfl := List.mem_singleton.mp hnew
        exact Or.inr ⟨.tail, rfl⟩
  | pop listEnd num =>
    rw [perform]
    split
    · exact ⟨nofun, fun item hmem => Or.inl hmem⟩
    split
    · exact ⟨nofun, fun item hmem => by cases hmem⟩
    · refine ⟨?_, fun item hmem => Or.inl ?_⟩
      · rintro popped ⟨⟩ item hmem
        exact ListEnd.mem_along.mp (List.mem_of_mem_take hmem)
      · exact ListEnd.mem_along.mp (List.mem_of_mem_drop (ListEnd.mem_along.mp hmem))

/-- Whatever a deque pops was there at first or was pushed in the meantime. -/
theorem DequeCall.mem_of_popped {calls : List DequeCall} {popped : List (Bytes × String)}
    (h : .popped popped ∈ (performAll items calls).1) :
    ∀ item ∈ popped, item ∈ items ∨ ∃ listEnd, .push listEnd item.1 item.2 ∈ calls := by
  induction calls generalizing items with
  | nil => cases h
  | cons call calls ih =>
    obtain ⟨hpopped, hleft⟩ := call.mem_of_perform items
    intro item hmem
    obtain hnow | hlater := List.mem_cons.mp h
    · exact Or.inl (hpopped popped hnow.symm hmem)
    · obtain hstored | ⟨listEnd, hpushed⟩ := ih hlater item hmem
      · refine (hleft item hstored).imp_right fun ⟨listEnd, hcall⟩ => ⟨listEnd, ?_⟩
        rw [← hcall]
        exact List.mem_cons_self
      · exact Or.inr ⟨listEnd, List.mem_cons_of_mem _ hpushed⟩

/-- Where nothing is tagged, the first entries are taken out and the others left. -/
theorem Collection.takeVisible_ofItem (num : Nat) (items : List (Bytes × String)) :
    takeVisible num (items.map Entry.ofItem) =
      ((items.take num).map Entry.ofItem, (items.drop num).map Entry.ofItem) := by
  induction items generalizing num with
  | nil => cases num <;> simp [takeVisible]
  | cons item items ih =>
    cases num with
    | zero => simp [takeVisible]
    | succ num =>
      rw [List.map_cons, takeVisible, if_neg (by simp [Entry.ofItem]), ih]
      rfl

/-- Where nothing is tagged, a pop takes what it meets first. -/
theorem ListEnd.pop_ofItem {collection : Collection}
    (hentries : collection.entries = items.map Entry.ofItem) (listEnd : ListEnd) (num : Nat) :
    listEnd.pop collection num =
      (((listEnd.along items).take num).map Entry.ofItem,
        { collection with
          entries := (listEnd.along ((listEnd.along items).drop num)).map Entry.ofItem }) := by
  cases listEnd with
  | head =>
    rw [pop, Collection.popHead, hentries, Collection.takeVisible_ofItem]
    rfl
  | tail =>
    rw [pop, Collection.popTail, hentries, ← List.map_reverse, Collection.takeVisible_ofItem]
    simp only [along, List.map_reverse]

namespace Store

variable {store : Store} {key : String} {collection : Collection}

theorem execute_push (hkey : Table.get? key store.keys = some collection)
    (hkind : collection.kind ≠ .sortList) {value : Bytes} (mask : String)
    (hfits : value.length ≤ collection.valueSize.toNat) (listEnd : ListEnd) :
    store.execute (listEnd.pushCommand key value mask) =
      (.ok none, { store with
        keys := Table.insert key
          { collection with
            entries := listEnd.along ({ value, mask } :: listEnd.along collection.entries) }
          store.keys }) := by
  have hroom : ¬ (!collection.fits value) = true := by simpa [Collection.fits] using hfits
  cases listEnd with
  | head => exact change_of_ok hkey (by rw [push, if_neg hkind, if_neg hroom]; rfl)
  | tail =>
    refine change_of_ok hkey ?_
    rw [push, if_neg hkind, if_neg hroom]
    simp [done, ListEnd.along]

/-- A key does what a deque does. -/
theorem execute_dequeCall (hkey : Table.get? key store.keys = some collection)
    (hkind : collection.kind ≠ .sortList)
    (hentries : collection.entries = items.map Entry.ofItem) {call : DequeCall}
    (hfits : call.Fits collection.valueSize) :
    (store.execute (call.command key)).1 = (call.perform items).1.response collection ∧
      Table.get? key (store.execute (call.command key)).2.keys =
        some { collection with entries := (call.perform items).2.map Entry.ofItem } := by
  cases call with
  | push listEnd value mask =>
    rw [DequeCall.command, execute_push hkey hkind mask hfits]
    refine ⟨by cases listEnd <;> rfl, ?_⟩
    rw [Table.get?_insert_self, hentries]
    cases listEnd with
    | head => rfl
    | tail => simp [ListEnd.along, DequeCall.perform, Entry.ofItem]
  | pop listEnd num =>
    rw [DequeCall.command]
    by_cases hnum : num = 0
    · subst hnum
      rw [execute_pop_zero hkey, DequeCall.perform, if_pos rfl]
      exact ⟨rfl, by rw [← hentries]; exact hkey⟩
    have hpop := ListEnd.pop_ofItem hentries listEnd num.toNat
    by_cases hitems : items = []
    · have hnone : (listEnd.pop collection num.toNat).1 = [] := by
        rw [hpop, hitems]
        simp
      rw [execute_pop_of_nil hkey hnum hnone, DequeCall.perform, if_neg hnum, if_pos hitems]
      rw [hitems] at hentries
      exact ⟨rfl, by rw [← hentries]; exact hkey⟩
    · have hpositive : num.toNat ≠ 0 := fun hzero => hnum (UInt32.toNat_inj.mp hzero)
      have hsome : (listEnd.pop collection num.toNat).1 ≠ [] := by
        rw [hpop]
        simp [List.take_eq_nil_iff, hpositive, hitems]
      rw [execute_pop_of_ne_nil hkey hnum hsome, hpop, DequeCall.perform, if_neg hnum,
        if_neg hitems]
      exact ⟨rfl, Table.get?_insert_self _ _ _⟩

/-- A key does what a deque does, as often as it is called. -/
theorem executeAll_dequeCalls (hkey : Table.get? key store.keys = some collection)
    (hkind : collection.kind ≠ .sortList)
    (hentries : collection.entries = items.map Entry.ofItem) {calls : List DequeCall}
    (hfits : ∀ call ∈ calls, call.Fits collection.valueSize) :
    (store.executeAll (calls.map (·.command key))).1 =
        (DequeCall.performAll items calls).1.map (·.response collection) ∧
      Table.get? key (store.executeAll (calls.map (·.command key))).2.keys =
        some { collection with
          entries := (DequeCall.performAll items calls).2.map Entry.ofItem } := by
  induction calls generalizing store items collection with
  | nil => exact ⟨rfl, by rw [List.map_nil, executeAll, hkey, DequeCall.performAll, ← hentries]⟩
  | cons call calls ih =>
    obtain ⟨hcall, hcalls⟩ := List.forall_mem_cons.mp hfits
    obtain ⟨hresponse, hnext⟩ := execute_dequeCall hkey hkind hentries hcall
    -- what is answered depends on the collection's widths only, and these do not change
    have hsame : ∀ answer : DequeAnswer, answer.response
        { collection with entries := (call.perform items).2.map Entry.ofItem } =
          answer.response collection := fun answer => by cases answer <;> rfl
    obtain ⟨hresponses, hlast⟩ := ih hnext hkind rfl hcalls
    rw [List.map_cons, executeAll_cons, DequeCall.performAll]
    refine ⟨?_, hlast⟩
    simp only [hsame] at hresponses
    rw [hresponse, hresponses, List.map_cons]

/-- All that is popped from a deque is shown to the caller, where what is there at first and what
is pushed has room. -/
theorem shows_popped {calls : List DequeCall}
    (hfits : ∀ call ∈ calls, call.Fits collection.valueSize)
    {popped : List (Bytes × String)}
    (hpopped : .popped popped ∈ (DequeCall.performAll items calls).1)
    (hentries : ∀ item ∈ items, ∃ entry ∈ collection.entries, entry.value = item.1) :
    collection.Shows ((DequeAnswer.popped popped).response collection)
      (popped.map Entry.ofItem) := by
  refine ⟨rfl, fun hsound => decode_itemsResponse hsound fun entry hmem => ?_⟩
  obtain ⟨item, hitem, rfl⟩ := List.mem_map.mp hmem
  obtain hstored | ⟨listEnd, hpushed⟩ := DequeCall.mem_of_popped hpopped item hitem
  · obtain ⟨entry, hentry, hvalue⟩ := hentries item hstored
    rw [Entry.ofItem, ← hvalue]
    exact hsound.length_le entry hentry
  · exact hfits _ hpushed

/-- A pop with a number takes the untagged entries that it meets first on the way from its
end, as many as there are up to that number, and shows them to the caller in the order in which
it meets them.  It leaves all entries at other places, in their order; so tagged ones stay, and
which of several equal ones goes is settled.  With no untagged entry it changes nothing.  A
list or a queue without tagged entries does what a double-ended queue does, whatever is pushed
to it and popped from it, and answers the same, with what is popped shown to the caller. -/
theorem pop_takes_outermost_untagged (hkey : Table.get? key store.keys = some collection) :
    (∀ (listEnd : ListEnd) (num : UInt32), num ≠ 0 →
      let untagged := collection.placed.filter fun member => !member.1.tagged
      let picked := (listEnd.along untagged).take num.toNat
      let left := collection.placed.filter fun member => member ∉ picked
      picked.length = min num.toNat untagged.length ∧
        (picked.map Prod.fst ++ left.map Prod.fst).Perm collection.entries ∧
        store.execute (listEnd.popCommand key num) =
          (if untagged = [] then (.ofStatus .empty, store)
          else
            (itemsResponse collection (picked.map Prod.fst),
              { store with
                keys := Table.insert key { collection with entries := left.map Prod.fst }
                  store.keys })) ∧
        (untagged ≠ [] → collection.Shows (store.execute (listEnd.popCommand key num)).1
          (picked.map Prod.fst))) ∧
      (collection.kind ≠ .sortList → (∀ entry ∈ collection.entries, entry.tagged = false) →
        ∀ calls : List DequeCall, (∀ call ∈ calls, call.Fits collection.valueSize) →
          let stored := collection.entries.map fun entry => (entry.value, entry.mask)
          let (responses, last) := store.executeAll (calls.map (·.command key))
          let (answers, items) := DequeCall.performAll stored calls
          responses = answers.map (·.response collection) ∧
            (∀ popped, .popped popped ∈ answers → collection.Shows
              ((DequeAnswer.popped popped).response collection) (popped.map Entry.ofItem)) ∧
            Table.get? key last.keys =
              some { collection with entries := items.map Entry.ofItem }) := by
  refine ⟨?_, ?_⟩
  · intro listEnd num hnum untagged picked left
    obtain ⟨hperm, hexecute⟩ := execute_pop hkey hnum listEnd
    refine ⟨?_, hperm, hexecute, fun hsome => ?_⟩
    · rw [List.length_take, ListEnd.length_along]
    · rw [hexecute, if_neg hsome]
      exact shows_of_subset fun entry hmem => hperm.subset (List.mem_append_left _ hmem)
  · intro hkind huntagged calls hfits
    have hentries : collection.entries =
        (collection.entries.map fun entry => (entry.value, entry.mask)).map Entry.ofItem := by
      rw [List.map_map]
      -- without a tag an entry is its value and its mask
      refine (List.map_id' _).symm.trans (List.map_congr_left fun entry hmem => ?_)
      obtain ⟨value, mask, tagged⟩ := entry
      exact congrArg (Entry.mk value mask) (huntagged _ hmem)
    obtain ⟨hresponses, hlast⟩ := executeAll_dequeCalls hkey hkind hentries hfits
    refine ⟨hresponses, fun popped hpopped => shows_popped hfits hpopped ?_, hlast⟩
    intro item hmem
    obtain ⟨entry, hentry, rfl⟩ := List.mem_map.mp hmem
    exact ⟨entry, hentry, rfl⟩

/-- Of two equal jobs the last one goes, and the two tagged ones stay; and a queue of one job
answers four calls. -/
theorem rpop_takes_last_of_equal :
    let job : Entry := { value := [97], mask := "x" }
    let off : Entry := { job with tagged := true }
    let queue (entries : List Entry) : Collection :=
      { kind := .queue, valueSize := 4, type := .string, entries }
    let store (entries : List Entry) : Store := { keys := [("jobs", queue entries)] }
    let shown : Item := { value := [97, 0, 0, 0], mask := [120, 0, 0, 0, 0, 0, 0, 0] }
    let pushed : Item := { value := [98, 0, 0, 0], mask := [121, 0, 0, 0, 0, 0, 0, 0] }
    let popped := (store [job, off, job, off]).execute (.rpop "jobs" 1)
    popped = (itemsResponse (queue [job, off, job, off]) [job], store [job, off, off]) ∧
      ItemList.decode popped.1.body =
        .returned (.ok { valueSize := 4, maskSize := 8, items := [shown] }) ∧
      ((store [job]).executeAll
          [.rpush "jobs" [98] "y", .lpop "jobs" 1, .rpop "jobs" 2, .lpop "jobs" 1]).1 =
        [.ok none, itemsResponse (queue [job]) [job],
          itemsResponse (queue [job]) [{ value := [98], mask := "y" }], .ofStatus .empty] ∧
      ItemList.decode (itemsResponse (queue [job]) [{ value := [98], mask := "y" }]).body =
        .returned (.ok { valueSize := 4, maskSize := 8, items := [pushed] }) := by
  intro job off queue store shown pushed popped
  have hkey (entries : List Entry) :
      Table.get? "jobs" (store entries).keys = some (queue entries) := rfl
  obtain ⟨hpop, -⟩ := pop_takes_outermost_untagged (hkey [job, off, job, off])
  obtain ⟨-, hdeque⟩ := pop_takes_outermost_untagged (hkey [job])
  obtain ⟨-, -, hlast, hshown⟩ := hpop .tail 1 (by decide)
  obtain ⟨hanswers, hpopped, -⟩ := hdeque (by decide) (by decide)
    [.push .tail [98] "y", .pop .head 1, .pop .tail 2, .pop .head 1]
    (by simp [DequeCall.Fits, queue])
  have hlong : (queue [job, off, job, off]).Sound := ⟨by decide, by decide⟩
  have hshort : (queue [job]).Sound := ⟨by decide, by decide⟩
  exact ⟨hlast, (hshown (by decide)).2 hlong (by decide +kernel), hanswers,
    (hpopped [([98], "y")] (by decide +kernel)).2 hshort (by decide +kernel)⟩

end Store
end Deque
end MaskedList
