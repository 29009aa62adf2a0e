import Mathlib.Data.List.Forall2
import MaskedList.Proofs.Gauge
import MaskedList.Proofs.Store.Shown

/-!
# What a mask selects

Ranges, counts, deletions by mask and cleanings all look at masks and tags, each on its own.
They go by one rule, `Mask.Matches`: every field of a filter that is not empty stands at its
place in the mask, where the fields are what is between the colons.  So the entries of a kind
that match a filter, `Collection.matching`, are what ranges show window by window, what counts
count and what deletions by mask take out.
-/

namespace MaskedList

/-! ## Filters -/

namespace Mask

/-- Every field of the filter is empty or the mask has it at the same place. -/
def Matches (filter mask : String) : Prop :=
  ∀ (place : Nat) (field : List Char), (filter.toList.splitOn ':')[place]? = some field →
    field = [] ∨ (mask.toList.splitOn ':')[place]? = some field

/-- The fields of a mask are what its colons divide. -/
theorem fields_eq_splitOn (mask : String) : fields mask = mask.toList.splitOn ':' := by
  rw [fields]
  induction mask.toList with
  | nil => rfl
  | cons c cs ih =>
    rw [List.foldr_cons, ih, List.splitOn_cons_eq_if_modifyHead]
    obtain ⟨field, rest, hsplit⟩ := List.exists_cons_of_ne_nil (List.splitOn_ne_nil ':' cs)
    rw [hsplit]
    by_cases hcolon : c = ':' <;> simp [hcolon]

theorem fieldsMatch_iff {filter mask : List (List Char)} :
    fieldsMatch filter mask = true ↔
      ∀ (place : Nat) (field : List Char), filter[place]? = some field →
        field = [] ∨ mask[place]? = some field := by
  induction filter generalizing mask with
  | nil => simp [fieldsMatch]
  | cons wanted filter ih =>
    rw [fieldsMatch, Bool.and_eq_true, ih]
    -- the first field stands at place zero, the others one place further on
    constructor
    · rintro ⟨hfirst, hrest⟩ (_ | place) field hfield
      · obtain rfl : wanted = field := by simpa using hfield
        simpa [List.head?_eq_getElem?] using hfirst
      · have hplace := hrest place field (by simpa using hfield)
        rwa [List.getElem?_tail] at hplace
    · intro h
      refine ⟨?_, fun place field hfield => ?_⟩
      · simpa [List.head?_eq_getElem?] using h 0 wanted rfl
      · rw [List.getElem?_tail]
        exact h (place + 1) field (by simpa using hfield)

/-- The empty filter is no exception: its only field is empty. -/
theorem matches_empty (mask : String) : Matches "" mask := by
  intro place field hfield
  have hmem : field ∈ [[]] := List.mem_of_getElem? hfield
  exact Or.inl (List.mem_singleton.mp hmem)

theorem passes_iff_matches {filter mask : String} :
    passes filter mask = true ↔ Matches filter mask := by
  rw [passes, Bool.or_eq_true, fieldsMatch_iff, fields_eq_splitOn, fields_eq_splitOn]
  refine or_iff_right_of_imp fun hempty => ?_
  rw [String.isEmpty_iff] at hempty
  subst hempty
  exact matches_empty mask

instance (filter mask : String) : Decidable (Matches filter mask) :=
  decidable_of_iff _ passes_iff_matches

theorem passes_eq_decide (filter mask : String) :
    passes filter mask = decide (Matches filter mask) := by
  rw [Bool.eq_iff_iff, passes_iff_matches, decide_eq_true_eq]

end Mask

/-! ## Selections -/

namespace Collection

variable {collection : Collection} {kind : RangeKind} {filter : String}

/-- The entries of a kind that match a filter, in their order. -/
def matching (collection : Collection) (kind : RangeKind) (filter : String) : List Entry :=
  collection.entries.filter fun entry => kind.shows entry && Mask.Matches filter entry.mask

/-- A collection without the entries that match a filter. -/
def withoutMatching (collection : Collection) (filter : String) : Collection :=
  { collection with
    entries := collection.entries.filter fun entry => ¬ Mask.Matches filter entry.mask }

/-- A collection without its tagged entries. -/
def withoutTagged (collection : Collection) : Collection :=
  { collection with entries := collection.entries.filter fun entry => !entry.tagged }

theorem select_eq_matching : collection.select kind filter = collection.matching kind filter := by
  simp only [select, matching, Mask.passes_eq_decide]

theorem length_matching_le (collection : Collection) (kind : RangeKind) (filter : String) :
    (collection.matching kind filter).length ≤ collection.entries.length :=
  List.length_filter_le _ _

/-- All that match are either tagged or visible. -/
theorem partition_matching_all (collection : Collection) (filter : String) :
    (collection.matching .all filter).partition Entry.tagged =
      (collection.matching .tagDeleted filter, collection.matching .visible filter) := by
  rw [List.partition_eq_filter_filter]
  simp only [matching, List.filter_filter]
  refine Prod.ext (List.filter_congr fun entry _ => ?_) (List.filter_congr fun entry _ => ?_)
  · simp [RangeKind.shows]
  · simp [RangeKind.shows]

theorem matching_withoutMatching :
    (collection.withoutMatching filter).matching kind filter = [] := by
  rw [matching, withoutMatching, List.filter_filter]
  exact List.filter_eq_nil_iff.mpr fun entry _ => by simp

theorem matching_withoutTagged_tagDeleted :
    collection.withoutTagged.matching .tagDeleted filter = [] := by
  rw [matching, withoutTagged, List.filter_filter]
  refine List.filter_eq_nil_iff.mpr fun entry _ => ?_
  cases htagged : entry.tagged <;> simp [RangeKind.shows, htagged]

theorem matching_withoutTagged_visible :
    collection.withoutTagged.matching .visible filter = collection.matching .visible filter := by
  rw [matching, withoutTagged, List.filter_filter, matching]
  refine List.filter_congr fun entry _ => ?_
  rw [RangeKind.shows, Bool.and_right_comm, Bool.and_self]

end Collection

/-! ## Windows -/

/-- A part of a selection that is asked for. -/
structure Window where
  start : Int32
  len : UInt32
  deriving DecidableEq, Repr

namespace Window

variable {α : Type} {window : Window} {windows : List Window} {start stop : Nat}

/-- What is seen of a selection, which is less than asked for where it ends. -/
def on (window : Window) (selected : List α) : List α :=
  (selected.drop window.start.toInt.toNat).take window.len.toNat

theorem on_subset (window : Window) (selected : List α) : window.on selected ⊆ selected :=
  fun _ hmem => List.mem_of_mem_drop (List.mem_of_mem_take hmem)

/-- The command that asks for the window. -/
def command (window : Window) (key : String) (kind : RangeKind) (filter : String) : Command :=
  .range key kind filter window.start window.len

/-- From `start` to `stop`, every window starts where the one before it ends. -/
inductive Consecutive : (start : Nat) → (windows : List Window) → (stop : Nat) → Prop where
  | nil (start : Nat) : Consecutive start [] start
  | cons {start stop : Nat} {window : Window} {windows : List Window}
      (hstart : window.start.toInt = start)
      (hrest : Consecutive (start + window.len.toNat) windows stop) :
      Consecutive start (window :: windows) stop

theorem Consecutive.le (h : Consecutive start windows stop) : start ≤ stop := by
  induction h with
  | nil start => exact Nat.le_refl start
  | cons hstart hrest ih => exact Nat.le_trans (Nat.le_add_right _ _) ih

/-- No window of them starts before the list. -/
theorem Consecutive.start_nonneg (h : Consecutive start windows stop) :
    ∀ window ∈ windows, 0 ≤ window.start.toInt := by
  induction h with
  | nil start => exact List.forall_mem_nil _
  | cons hstart hrest ih => exact List.forall_mem_cons.mpr ⟨hstart ▸ Int.natCast_nonneg _, ih⟩

/-- What is seen through consecutive windows is all between their ends, everything once. -/
theorem Consecutive.flatten_on (h : Consecutive start windows stop) (selected : List α) :
    (windows.map (·.on selected)).flatten = (selected.drop start).take (stop - start) := by
  induction h with
  | nil start => simp
  | @cons start stop window windows hstart hrest ih =>
    have hle := hrest.le
    have hlength : stop - start = window.len.toNat + (stop - (start + window.len.toNat)) := by
      omega
    rw [List.map_cons, List.flatten_cons, ih, on, hstart, Int.toNat_natCast, hlength,
      List.take_add, List.drop_drop]

end Window

namespace Store

variable {store : Store} {key : String} {collection : Collection}

theorem execute_window (hkey : Table.get? key store.keys = some collection) (window : Window)
    (hstart : 0 ≤ window.start.toInt) (kind : RangeKind) (filter : String) :
    store.execute (window.command key kind filter) =
      (itemsResponse collection (window.on (collection.matching kind filter)), store) := by
  simp only [Window.command, execute, query, hkey, if_neg (Int.not_lt.mpr hstart),
    Collection.select_eq_matching, Window.on]

/-- What is seen through a window of a selection is shown to the caller. -/
theorem shows_window (collection : Collection) (window : Window) (kind : RangeKind)
    (filter : String) :
    collection.Shows (itemsResponse collection (window.on (collection.matching kind filter)))
      (window.on (collection.matching kind filter)) :=
  shows_of_subset (List.Subset.trans (window.on_subset _) List.filter_sublist.subset)

theorem executeAll_windows (hkey : Table.get? key store.keys = some collection)
    {windows : List Window} (hstart : ∀ window ∈ windows, 0 ≤ window.start.toInt)
    (kind : RangeKind) (filter : String) :
    store.executeAll (windows.map (·.command key kind filter)) =
      ((windows.map (·.on (collection.matching kind filter))).map (itemsResponse collection),
        store) := by
  induction windows with
  | nil => rfl
  | cons window windows ih =>
    obtain ⟨hfirst, hrest⟩ := List.forall_mem_cons.mp hstart
    rw [List.map_cons, executeAll_cons, execute_window hkey window hfirst, ih hrest]
    rfl

/-- A window as long as can be asked for shows all of a selection. -/
theorem on_longest_window {selected : List Entry} (hlength : selected.length < UInt32.size) :
    Window.on ⟨0, 0xFFFFFFFF⟩ selected = selected :=
  List.take_of_length_le (Nat.le_of_lt_succ hlength)

theorem execute_count (hkey : Table.get? key store.keys = some collection)
    (hcount : collection.entries.length < UInt32.size) (filter : String) :
    ∃ count : MatchCount,
      store.execute (.count key filter) = (.ok (some count.encode), store) ∧
        MatchCount.decode count.encode = .ok count ∧
        count.visible.toNat = (collection.matching .visible filter).length ∧
        count.tagged.toNat = (collection.matching .tagDeleted filter).length := by
  have hfits (kind : RangeKind) : (collection.matching kind filter).length < UInt32.size :=
    Nat.lt_of_le_of_lt (collection.length_matching_le kind filter) hcount
  refine ⟨countOf collection filter, by simp only [execute, query, hkey],
    MatchCount.decode_encode _, ?_, ?_⟩
  · rw [countOf, Collection.select_eq_matching, UInt32.toNat_ofNat_of_lt' (hfits .visible)]
  · rw [countOf, Collection.select_eq_matching, Collection.select_eq_matching,
      UInt32.toNat_ofNat_of_lt' (hfits .tagDeleted)]

theorem execute_deleteByMask (hkey : Table.get? key store.keys = some collection)
    (filter : String) :
    store.execute (.deleteByMask key filter) =
      (.ok none, { store with
        keys := Table.insert key (collection.withoutMatching filter) store.keys }) := by
  rw [execute]
  refine change_of_ok hkey ?_
  simp only [done, Mask.passes_eq_decide, ← decide_not]
  rfl

theorem execute_clean (hkey : Table.get? key store.keys = some collection) :
    store.execute (.clean key) =
      (.ok none, { store with
        keys := Table.insert key collection.withoutTagged store.keys }) := by
  rw [execute]
  exact change_of_ok hkey rfl

/-- What a filter selects under a key is the same to all commands.  The caller of a range is shown
the part of it that the range asks for, so consecutive windows show every entry of it once and in
order.  The visible and the tagged ones are two parts of all of them, and a count tells the
lengths of both.  A deletion by mask takes out all of them and leaves all others in their order; a
cleaning takes out the tagged ones and leaves the visible ones as they are to every filter. -/
theorem commands_agree_on_matching (hkey : Table.get? key store.keys = some collection)
    (hcount : collection.entries.length < UInt32.size) (filter : String) :
    let selected (kind : RangeKind) := collection.matching kind filter
    (∀ kind (window : Window), 0 ≤ window.start.toInt →
      let response := itemsResponse collection (window.on (selected kind))
      store.execute (window.command key kind filter) = (response, store) ∧
        collection.Shows response (window.on (selected kind))) ∧
    (∀ kind,
      let response := itemsResponse collection (selected kind)
      store.execute (.range key kind filter 0 0xFFFFFFFF) = (response, store) ∧
        collection.Shows response (selected kind)) ∧
    (∀ kind (windows : List Window) stop, Window.Consecutive 0 windows stop →
      let shown := windows.map (·.on (selected kind))
      let responses := shown.map (itemsResponse collection)
      store.executeAll (windows.map (·.command key kind filter)) = (responses, store) ∧
        List.Forall₂ collection.Shows responses shown ∧
        shown.flatten = (selected kind).take stop ∧
        ((selected kind).length ≤ stop → shown.flatten = selected kind)) ∧
    (selected .all).partition Entry.tagged = (selected .tagDeleted, selected .visible) ∧
    (∃ count : MatchCount,
      store.execute (.count key filter) = (.ok (some count.encode), store) ∧
        MatchCount.decode count.encode = .ok count ∧
        count.visible.toNat = (selected .visible).length ∧
        count.tagged.toNat = (selected .tagDeleted).length) ∧
    (let after := (store.execute (.deleteByMask key filter)).2
      let left := collection.withoutMatching filter
      (store.execute (.deleteByMask key filter)).1 = .ok none ∧
        Table.get? key after.keys = some left ∧
        left.matching .all filter = [] ∧
        ∀ kind (window : Window), 0 ≤ window.start.toInt →
          after.execute (window.command key kind filter) = (itemsResponse left [], after) ∧
            left.Shows (itemsResponse left []) []) ∧
    (let after := (store.execute (.clean key)).2
      let left := collection.withoutTagged
      (store.execute (.clean key)).1 = .ok none ∧ Table.get? key after.keys = some left ∧
        ∀ other, left.matching .tagDeleted other = [] ∧
          left.matching .visible other = collection.matching .visible other) := by
  intro selected
  have hfits (kind : RangeKind) : (selected kind).length < UInt32.size :=
    Nat.lt_of_le_of_lt (collection.length_matching_le kind filter) hcount
  refine ⟨fun kind window hstart => ⟨execute_window hkey window hstart kind filter,
      shows_window collection window kind filter⟩,
    fun kind => ?_, ?_, collection.partition_matching_all filter,
    execute_count hkey hcount filter, ?_, ?_⟩
  · have hlongest := execute_window hkey ⟨0, 0xFFFFFFFF⟩ (Int.le_refl 0) kind filter
    have hshows := shows_window collection ⟨0, 0xFFFFFFFF⟩ kind filter
    rw [on_longest_window (hfits kind)] at hlongest hshows
    exact ⟨hlongest, hshows⟩
  · intro kind windows stop hwindows shown responses
    have hflatten : shown.flatten = (selected kind).take stop := hwindows.flatten_on (selected kind)
    refine ⟨executeAll_windows hkey hwindows.start_nonneg kind filter, ?_, hflatten,
      fun hstop => ?_⟩
    · rw [List.forall₂_map_left_iff, List.forall₂_same]
      intro entries hmem
      obtain ⟨window, -, rfl⟩ := List.mem_map.mp hmem
      exact shows_window collection window kind filter
    · rw [hflatten, List.take_of_length_le hstop]
  · rw [execute_deleteByMask hkey]
    have hleft := Table.get?_insert_self key (collection.withoutMatching filter) store.keys
    refine ⟨rfl, hleft, Collection.matching_withoutMatching, fun kind window hstart =>
      ⟨?_, shows_of_subset (List.nil_subset _)⟩⟩
    rw [execute_window hleft window hstart, Collection.matching_withoutMatching, Window.on,
      List.drop_nil, List.take_nil]
  · rw [execute_clean hkey]
    exact ⟨rfl, Table.get?_insert_self _ _ _, fun other =>
      ⟨Collection.matching_withoutTagged_tagDeleted, Collection.matching_withoutTagged_visible⟩⟩

/-- Of four jobs two have the second field that a filter asks for, one of them tagged.  Two windows
show them one by one, and what does not match is left. -/
theorem commands_agree_on_second_field :
    let first : Entry := { value := [1], mask := "a:b" }
    let other : Entry := { value := [2], mask := "b" }
    let second : Entry := { value := [3], mask := "c:b:d", tagged := true }
    let shorter : Entry := { value := [4], mask := "a:" }
    let queue (entries : List Entry) : Collection :=
      { kind := .queue, valueSize := 4, type := .string, entries }
    let jobs := queue [first, other, second, shorter]
    let store : Store := { keys := [("jobs", jobs)] }
    let window := store.execute (.range "jobs" .all ":b" 1 2)
    let shown : Item := { value := [3, 0, 0, 0], mask := [99, 58, 98, 58, 100, 0, 0, 0] }
    jobs.entries.length < UInt32.size ∧
      store.executeAll [.range "jobs" .all ":b" 0 1, .range "jobs" .all ":b" 1 2] =
        ([itemsResponse jobs [first], itemsResponse jobs [second]], store) ∧
      ItemList.decode window.1.body =
        .returned (.ok { valueSize := 4, maskSize := 8, items := [shown] }) ∧
      Table.get? "jobs" (store.execute (.deleteByMask "jobs" ":b")).2.keys =
        some (queue [other, shorter]) := by
  intro first other second shorter queue jobs store window shown
  have hcount : jobs.entries.length < UInt32.size := by decide
  have hselected : jobs.matching .all ":b" = [first, second] := by decide +kernel
  have hleft : jobs.withoutMatching ":b" = queue [other, shorter] := by decide +kernel
  obtain ⟨hwindow, -, hwindows, -, -, ⟨-, hdeleted, -⟩, -⟩ :=
    commands_agree_on_matching (show Table.get? "jobs" store.keys = some jobs from rfl) hcount ":b"
  have hconsecutive : Window.Consecutive 0 [⟨0, 1⟩, ⟨1, 2⟩] 3 :=
    .cons rfl (.cons rfl (.nil 3))
  obtain ⟨hshown, -⟩ := hwindows .all _ 3 hconsecutive
  obtain ⟨hresponse, hshows⟩ := hwindow .all ⟨1, 2⟩ (by decide)
  simp only [hselected] at hshown hresponse hshows
  rw [hleft] at hdeleted
  have hsound : jobs.Sound := ⟨by decide, by decide⟩
  have hanswer : window.1 = itemsResponse jobs [second] := congrArg Prod.fst hresponse
  rw [hanswer]
  exact ⟨hcount, hshown, hshows.2 hsound (by decide +kernel), hdeleted⟩

end Store
end MaskedList
