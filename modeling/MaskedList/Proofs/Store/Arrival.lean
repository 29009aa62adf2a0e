import MaskedList.Proofs.Store.Order
import MaskedList.Proofs.Store.Pop

/-!
# Arrivals

A sorted list puts a new value before the first greater one, so that values which compare as
equal stand in the order in which they came.  When masks and tags have changed and others have
gone, it is no longer to be seen which came first, and two equal entries are not to be told
apart at all.  So each entry is followed here with the place of the command that inserted it.
These arrivals are always in the order of their values and, among equal ones, of their times.
-/

namespace MaskedList

/-- An entry with the place, among the commands, of the one that inserted it. -/
structure Arrival where
  entry : Entry
  time : Nat
  deriving DecidableEq, Repr

namespace Arrival

/-- Puts an arrival in before the first greater one. -/
def settle (type : ValueType) (new : Arrival) : List Arrival → List Arrival
  | [] => [new]
  | other :: others =>
    if type.compareValues other.entry.value new.entry.value = .gt then new :: other :: others
    else other :: settle type new others

/-- Changes the first arrival with a value. -/
def updateFirst (value : Bytes) (update : Entry → Entry) (arrivals : List Arrival) :
    List Arrival :=
  match arrivals.findIdx? fun arrival => arrival.entry.value = value with
  | none => arrivals
  | some index =>
    arrivals.modify index fun arrival => { arrival with entry := update arrival.entry }

/-- The arrivals that a pop leaves. -/
def leftBy (listEnd : ListEnd) (num : UInt32) (arrivals : List Arrival) : List Arrival :=
  arrivals.filter fun arrival => arrival ∉ listEnd.picks entry num.toNat arrivals

section Runs

variable (valueSize : UInt32) (type : ValueType)

/-- The sorted list of some arrivals. -/
def collection (arrivals : List Arrival) : Collection :=
  { kind := .sortList, valueSize, type, entries := arrivals.map entry }

/-- The arrivals of a sorted list after a command for it. -/
def after (now : Nat) (arrivals : List Arrival) : Command → List Arrival
  | .clean _ => arrivals.filter fun arrival => !arrival.entry.tagged
  | .deleteByMask _ mask =>
    arrivals.filter fun arrival => !Mask.passes mask arrival.entry.mask
  | .delete _ value => arrivals.eraseP fun arrival => arrival.entry.value = value
  | .insert _ value mask _ =>
    if value.length ≤ valueSize.toNat then settle type ⟨{ value, mask }, now⟩ arrivals
    else arrivals
  | .setMask _ value mask => updateFirst value ({ · with mask }) arrivals
  | .setTag _ value tag =>
    let tagged := tag = tagDeleted
    updateFirst value ({ · with tagged }) arrivals
  | .lpop _ num => leftBy .head num arrivals
  | .rpop _ num => leftBy .tail num arrivals
  | .ping | .dump | .stat .. | .statSys | .range .. | .count .. | .create .. | .rmKey ..
  | .move .. | .lpush .. | .rpush .. => arrivals

/-- The arrivals under a key after a command, which may be for another key. -/
def next (key : String) (now : Nat) (arrivals : List Arrival) (command : Command) :
    List Arrival :=
  if command.key? = some key then after valueSize type now arrivals command else arrivals

/-- The arrivals under a key after several commands. -/
def afterAll (key : String) (now : Nat) (arrivals : List Arrival) : List Command → List Arrival
  | [] => arrivals
  | command :: commands =>
    afterAll key (now + 1) (next valueSize type key now arrivals command) commands

end Runs

/-! ## The arrivals are in order -/

/-- What the place of an arrival depends on. -/
def stamp (arrival : Arrival) : Bytes × Nat :=
  (arrival.entry.value, arrival.time)

/-- A change at one place can be made before or after others are read off. -/
theorem map_modify {α β : Type} {f : α → β} {update : α → α} {change : β → β}
    (h : ∀ a, f (update a) = change (f a)) (index : Nat) (list : List α) :
    (list.modify index update).map f = (list.map f).modify index change := by
  induction list generalizing index with
  | nil => simp
  | cons a list ih => cases index <;> simp [h, ih]

/-- The one arrival is less than the other, or they are equal and it was there before. -/
def Precedes (type : ValueType) (a b : Arrival) : Prop :=
  type.compareValues a.entry.value b.entry.value = .lt ∨
    type.compareValues a.entry.value b.entry.value = .eq ∧ a.time < b.time

/-- Arrivals as they are after some commands. -/
structure InOrder (type : ValueType) (key : String) (done : List Command)
    (arrivals : List Arrival) : Prop where
  orders : ∀ arrival ∈ arrivals, type.Orders arrival.entry.value
  inserted : ∀ arrival ∈ arrivals, ∃ mask pos,
    done[arrival.time]? = some (.insert key arrival.entry.value mask pos)
  precedes : arrivals.Pairwise (Precedes type)

variable {type : ValueType} {key : String} {done : List Command} {arrivals : List Arrival}
  {a b new : Arrival}

theorem Precedes.compareValues_ne_gt (h : Precedes type a b) :
    type.compareValues a.entry.value b.entry.value ≠ .gt := by
  obtain hless | ⟨hequal, -⟩ := h
  · simp [hless]
  · simp [hequal]

theorem Precedes.time_lt (h : Precedes type a b)
    (hequal : type.compareValues a.entry.value b.entry.value = .eq) : a.time < b.time := by
  obtain hless | ⟨-, htime⟩ := h
  · rw [hequal] at hless
    cases hless
  · exact htime

theorem mem_settle (h : b ∈ settle type new arrivals) : b = new ∨ b ∈ arrivals := by
  induction arrivals with
  | nil => exact Or.inl (List.mem_singleton.mp h)
  | cons other others ih =>
    rw [settle] at h
    split at h
    · exact List.mem_cons.mp h
    · obtain rfl | hmem := List.mem_cons.mp h
      · exact Or.inr (List.mem_cons_self ..)
      · exact (ih hmem).imp_right (List.mem_cons_of_mem _)

/-- The place of the first greater one is where an arrival settles. -/
theorem map_entry_settle (new : Arrival) (arrivals : List Arrival) :
    (settle type new arrivals).map entry =
      (arrivals.map entry).insertIdx
        (((arrivals.map entry).findIdx? fun old =>
            type.compareValues old.value new.entry.value = .gt).getD
          (arrivals.map entry).length) new.entry := by
  induction arrivals with
  | nil => rfl
  | cons other others ih =>
    rw [settle, List.map_cons, List.findIdx?_cons]
    by_cases hgreater : type.compareValues other.entry.value new.entry.value = .gt
    · simp [hgreater]
    · have hsucc : ∀ (place : Option Nat) (length : Nat),
          (place.map (· + 1)).getD (length + 1) = place.getD length + 1 :=
        fun place _ => by cases place <;> rfl
      rw [if_neg hgreater, if_neg (by simpa using hgreater), List.length_cons, hsucc,
        List.insertIdx_succ_cons, List.map_cons, ih]

/-- The latest arrival is put behind all that are not greater. -/
theorem pairwise_settle (hnew : type.Orders new.entry.value)
    (horders : ∀ arrival ∈ arrivals, type.Orders arrival.entry.value)
    (hlatest : ∀ arrival ∈ arrivals, arrival.time < new.time)
    (hpairwise : arrivals.Pairwise (Precedes type)) :
    (settle type new arrivals).Pairwise (Precedes type) := by
  induction arrivals with
  | nil => exact List.pairwise_singleton _ _
  | cons other others ih =>
    obtain ⟨hother, hothers⟩ := List.forall_mem_cons.mp horders
    obtain ⟨hbefore, hbehind⟩ := List.forall_mem_cons.mp hlatest
    obtain ⟨hfirst, hrest⟩ := List.pairwise_cons.mp hpairwise
    rw [settle]
    split
    · rename_i hgreater
      refine List.pairwise_cons.mpr ⟨fun arrival hmem => Or.inl ?_, hpairwise⟩
      -- the first greater one is less than all behind it
      refine ValueType.compareValues_lt_of_gt hnew hother (horders arrival hmem) hgreater ?_
      obtain rfl | hmem := List.mem_cons.mp hmem
      · simp [ValueType.compareValues_self hother]
      · exact (hfirst arrival hmem).compareValues_ne_gt
    · rename_i hgreater
      refine List.pairwise_cons.mpr ⟨fun arrival hmem => ?_, ih hothers hbehind hrest⟩
      obtain rfl | hmem := mem_settle hmem
      · cases hcompare : type.compareValues other.entry.value arrival.entry.value with
        | lt => exact Or.inl hcompare
        | eq => exact Or.inr ⟨hcompare, hbefore⟩
        | gt => exact absurd hcompare hgreater
      · exact hfirst arrival hmem

namespace InOrder

theorem nil : InOrder type key [] [] where
  orders := fun _ hmem => by cases hmem
  inserted := fun _ hmem => by cases hmem
  precedes := List.Pairwise.nil

/-- All arrivals came with commands that are done. -/
theorem time_lt (h : InOrder type key done arrivals) (hmem : a ∈ arrivals) :
    a.time < done.length := by
  obtain ⟨mask, pos, hcommand⟩ := h.inserted a hmem
  exact (List.getElem?_eq_some_iff.mp hcommand).1

/-- No arrival stands twice, for it does not precede itself. -/
theorem nodup (h : InOrder type key done arrivals) : arrivals.Nodup := by
  refine h.precedes.imp_of_mem fun {a b} hmem _ hprecedes => ?_
  rintro rfl
  exact absurd (hprecedes.time_lt (ValueType.compareValues_self (h.orders a hmem)))
    (Nat.lt_irrefl _)

/-- More commands may have been done. -/
theorem append (h : InOrder type key done arrivals) (command : Command) :
    InOrder type key (done ++ [command]) arrivals := by
  refine ⟨h.orders, fun arrival hmem => ?_, h.precedes⟩
  rw [List.getElem?_append_left (h.time_lt hmem)]
  exact h.inserted arrival hmem

theorem sublist (h : InOrder type key done arrivals) {left : List Arrival}
    (hleft : left.Sublist arrivals) : InOrder type key done left where
  orders := fun arrival hmem => h.orders arrival (hleft.subset hmem)
  inserted := fun arrival hmem => h.inserted arrival (hleft.subset hmem)
  precedes := h.precedes.sublist hleft

/-- Only values and times count. -/
theorem of_map_stamp (h : InOrder type key done arrivals) {others : List Arrival}
    (hothers : others.map stamp = arrivals.map stamp) : InOrder type key done others := by
  have horders : ∀ known ∈ arrivals.map stamp, type.Orders known.1 :=
    List.forall_mem_map.mpr h.orders
  have hinserted : ∀ known ∈ arrivals.map stamp, ∃ mask pos,
      done[known.2]? = some (.insert key known.1 mask pos) :=
    List.forall_mem_map.mpr h.inserted
  have hprecedes : (arrivals.map stamp).Pairwise fun a b =>
      type.compareValues a.1 b.1 = .lt ∨ type.compareValues a.1 b.1 = .eq ∧ a.2 < b.2 :=
    List.pairwise_map.mpr h.precedes
  rw [← hothers] at horders hinserted hprecedes
  exact
    { orders := fun other hmem => horders _ (List.mem_map_of_mem hmem)
      inserted := fun other hmem => hinserted _ (List.mem_map_of_mem hmem)
      precedes := (List.pairwise_map (f := stamp)).mp hprecedes }

theorem updateFirst (h : InOrder type key done arrivals) (value : Bytes)
    {update : Entry → Entry} (hvalue : ∀ entry, (update entry).value = entry.value) :
    InOrder type key done (Arrival.updateFirst value update arrivals) := by
  refine h.of_map_stamp ?_
  rw [Arrival.updateFirst]
  split
  · rfl
  · have hstamp (arrival : Arrival) :
        stamp { arrival with entry := update arrival.entry } = id (stamp arrival) := by
      rw [stamp, hvalue]
      rfl
    rw [map_modify hstamp, List.modify_id]

/-- A value that the last command inserted comes in behind those equal to it. -/
theorem settle (h : InOrder type key done arrivals) {value : Bytes} (mask : String)
    (pos : Int32) (hvalue : type.Orders value) :
    InOrder type key (done ++ [.insert key value mask pos])
      (Arrival.settle type ⟨{ value, mask }, done.length⟩ arrivals) := by
  have hbefore := h.append (.insert key value mask pos)
  refine ⟨fun arrival hmem => ?_, fun arrival hmem => ?_,
    pairwise_settle hvalue h.orders (fun arrival hmem => h.time_lt hmem) h.precedes⟩
  · obtain rfl | hmem := mem_settle hmem
    · exact hvalue
    · exact hbefore.orders arrival hmem
  · obtain rfl | hmem := mem_settle hmem
    · exact ⟨mask, pos, List.getElem?_concat_length⟩
    · exact hbefore.inserted arrival hmem

/-- Every command for the key leaves the arrivals in order. -/
theorem after (h : InOrder type key done arrivals) {valueSize : UInt32} {command : Command}
    (hkey : command.key? = some key)
    (hvalue : ∀ value mask pos, command = .insert key value mask pos →
      value.length ≤ valueSize.toNat → type.Orders value) :
    InOrder type key (done ++ [command])
      (Arrival.after valueSize type done.length arrivals command) := by
  have hbefore := h.append command
  cases command with
  | ping | dump | statSys => cases hkey
  | stat | range | count | create | rmKey | move | lpush | rpush => exact hbefore
  | clean | deleteByMask | lpop | rpop => exact hbefore.sublist List.filter_sublist
  | delete => exact hbefore.sublist (List.eraseP_sublist ..)
  | setMask | setTag =>
    rw [Arrival.after]
    exact hbefore.updateFirst _ fun _ => rfl
  | insert named value mask pos =>
    obtain rfl : named = key := Option.some.inj hkey
    rw [Arrival.after]
    split
    · rename_i hfits
      exact h.settle mask pos (hvalue value mask pos rfl hfits)
    · exact hbefore

/-- A command for another key is none for this one. -/
theorem next (h : InOrder type key done arrivals) {valueSize : UInt32} {command : Command}
    (hvalue : ∀ value mask pos, command = .insert key value mask pos →
      value.length ≤ valueSize.toNat → type.Orders value) :
    InOrder type key (done ++ [command])
      (Arrival.next valueSize type key done.length arrivals command) := by
  rw [Arrival.next]
  split
  · rename_i hkey
    exact h.after hkey hvalue
  · exact h.append command

/-- Any commands leave the arrivals in order. -/
theorem afterAll (h : InOrder type key done arrivals) {valueSize : UInt32}
    {commands : List Command}
    (hvalues : ∀ value mask pos, .insert key value mask pos ∈ commands →
      value.length ≤ valueSize.toNat → type.Orders value) :
    InOrder type key (done ++ commands)
      (Arrival.afterAll valueSize type key done.length arrivals commands) := by
  induction commands generalizing done arrivals with
  | nil => rwa [List.append_nil]
  | cons command commands ih =>
    have hnext := h.next fun value mask pos heq =>
      hvalues value mask pos (heq ▸ List.mem_cons_self ..)
    have hlast := ih hnext fun value mask pos hmem =>
      hvalues value mask pos (List.mem_cons_of_mem _ hmem)
    rw [List.length_append, List.length_singleton, List.append_assoc] at hlast
    exact hlast

end InOrder
end Arrival
end MaskedList
