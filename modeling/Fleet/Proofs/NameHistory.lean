import Fleet.Proofs.Directory
import Fleet.Proofs.Rosters

/-!
# The directory as a history of pairs

Pairs are entered and struck in any order, and a pair that is entered drives out each one that shares its
id or its name. What the two maps hold is told by this history: the pairs that were entered and that
nothing has displaced since. Both maps, the count and the answer to a removal agree with it.
-/

namespace Fleet

/-- A pair is entered, or the pair of an id is struck. -/
inductive NameEvent where
  | insert (id name : String)
  | remove (id : String)
deriving DecidableEq

namespace NameEvent

/-- Whether an event leaves no pair of the id and the name that was there: it mentions one of them. -/
def Displaces (id name : String) : NameEvent → Prop
  | .insert other given => other = id ∨ given = name
  | .remove other => other = id

end NameEvent

/-- A pair was entered, and no later event has displaced it. -/
def Stands (events : List NameEvent) (id name : String) : Prop :=
  ∃ earlier later, events = earlier ++ .insert id name :: later ∧
    ∀ event ∈ later, ¬ event.Displaces id name

/-- One more event: the step of the induction over the history. -/
theorem stands_concat {events : List NameEvent} {event : NameEvent} {id name : String} :
    Stands (events ++ [event]) id name ↔
      event = .insert id name ∨ Stands events id name ∧ ¬ event.Displaces id name := by
  constructor
  · rintro ⟨earlier, later, hsplit, hkept⟩
    rcases concat_eq_append_cons.1 hsplit with ⟨-, hlast, -⟩ | ⟨rest, rfl, rfl⟩
    · exact .inl hlast
    · refine .inr ⟨⟨earlier, rest, rfl, ?_⟩, hkept event (by simp)⟩
      exact fun other hother => hkept other (List.mem_append_left _ hother)
  · rintro (rfl | ⟨⟨earlier, later, rfl, hkept⟩, hlast⟩)
    · exact ⟨events, [], rfl, nofun⟩
    · refine ⟨earlier, later ++ [event], by simp, fun other hother => ?_⟩
      rcases List.mem_append.1 hother with hold | hnew
      · exact hkept other hold
      · rw [List.mem_singleton.1 hnew]
        exact hlast

namespace NameMaps

/-- What an event makes of the maps. -/
def next (maps : NameMaps) : NameEvent → NameMaps
  | .insert id name => maps.insert id name
  | .remove id => (maps.remove id).2

/-- The maps after events, from two that are empty. -/
def after (events : List NameEvent) : NameMaps :=
  events.foldl next {}

theorem after_concat (events : List NameEvent) (event : NameEvent) :
    after (events ++ [event]) = (after events).next event := by
  unfold after
  rw [List.foldl_append]
  rfl

theorem TwoWay.next {maps : NameMaps} (h : maps.TwoWay) (event : NameEvent) :
    (maps.next event).TwoWay := by
  cases event with
  | insert id name => exact h.insert id name
  | remove id => exact h.dropId id

/-- Whatever is entered and struck, the maps stay in step. -/
theorem twoWay_after (events : List NameEvent) : (after events).TwoWay := by
  induction events using List.reverseRecOn with
  | nil => exact .empty
  | append_singleton events event ih =>
    rw [after_concat]
    exact ih.next event

/-- An event leaves the pairs that it does not displace, and brings at most its own. -/
theorem TwoWay.nameOf?_next {maps : NameMaps} (h : maps.TwoWay) (event : NameEvent)
    (id name : String) : (maps.next event).nameOf? id = some name ↔
      event = .insert id name ∨ maps.nameOf? id = some name ∧ ¬ event.Displaces id name := by
  cases event with
  | insert other given =>
    rw [NameMaps.next, h.nameOf?_insert, NameEvent.insert.injEq, NameEvent.Displaces]
    by_cases hid : other = id
    · rw [if_pos hid.symm, Option.some.injEq]
      simp [hid]
    · rw [if_neg (Ne.symm hid), Option.filter_eq_some_iff, decide_eq_true_iff, ne_comm]
      simp [hid]
  | remove other =>
    rw [NameMaps.next, remove, nameOf?_dropId, NameEvent.Displaces]
    by_cases hid : other = id
    · simp [hid]
    · simp [hid, Ne.symm hid]

theorem nameOf?_after (events : List NameEvent) (id name : String) :
    (after events).nameOf? id = some name ↔ Stands events id name := by
  induction events using List.reverseRecOn with
  | nil =>
    refine iff_of_false nofun ?_
    rintro ⟨earlier, later, hsplit, -⟩
    simp at hsplit
  | append_singleton events event ih =>
    rw [after_concat, (twoWay_after events).nameOf?_next, stands_concat, ih]

theorem mem_entries_iff (maps : NameMaps) (pair : String × String) :
    pair ∈ maps.names.entries ↔ maps.nameOf? pair.1 = some pair.2 :=
  (Table.get?_eq_some_iff maps.names pair.1 pair.2).symm

theorem isEmpty_iff (maps : NameMaps) : maps.isEmpty = true ↔ maps.names.entries = [] := by
  unfold isEmpty size Table.size
  rw [decide_eq_true_iff, List.length_eq_zero_iff]

end NameMaps

/-- After any events, an id has a name if and only if the name leads to the id, and both if and only if
the pair was entered and no event since has mentioned the id or the name in a pair or struck the id. The
pairs that stand so are as many as are counted, there are none if and only if the maps are empty, and an
id is known if and only if it is in one of them. A removal answers the name that stands for its id, and
strikes no other pair, in either direction. -/
theorem name_maps_hold_standing_pairs (events : List NameEvent) (id name : String) :
    let maps := NameMaps.after events
    (maps.nameOf? id = some name ↔ maps.idOf? name = some id) ∧
      (maps.nameOf? id = some name ↔ Stands events id name) ∧
      (maps.contains id = true ↔ ∃ given, Stands events id given) ∧
      (∃ pairs : List (String × String),
        pairs.Nodup ∧ (∀ pair, pair ∈ pairs ↔ Stands events pair.1 pair.2) ∧
          maps.size = pairs.length ∧ (maps.isEmpty = true ↔ pairs = [])) ∧
      ((maps.remove id).1 = some name ↔ Stands events id name) ∧
      ∀ other given,
        ((maps.remove id).2.nameOf? other = some given ↔ other ≠ id ∧ Stands events other given) ∧
        ((maps.remove id).2.idOf? given = some other ↔ other ≠ id ∧ Stands events other given) := by
  intro maps
  have htwoWay : maps.TwoWay := NameMaps.twoWay_after events
  have hname : ∀ id name, maps.nameOf? id = some name ↔ Stands events id name :=
    NameMaps.nameOf?_after events
  refine ⟨(htwoWay id name).symm, hname id name, ?_, ?_, hname id name, ?_⟩
  · simp only [NameMaps.contains_iff, hname]
  · refine ⟨maps.names.entries, maps.names.nodup_entries, fun pair => ?_, rfl, maps.isEmpty_iff⟩
    rw [NameMaps.mem_entries_iff, hname]
  · intro other given
    have hleft : (maps.remove id).2.nameOf? other = some given ↔
        other ≠ id ∧ Stands events other given := by
      have hnext := htwoWay.nameOf?_next (.remove id) other given
      rw [hname] at hnext
      simpa [NameMaps.next, NameEvent.Displaces, eq_comm, and_comm] using hnext
    exact ⟨hleft, (htwoWay.dropId id other given).trans hleft⟩

/-- The first id takes a new name, and then the second id takes over that name: the old name of the second
id goes, and so does the first id. -/
example :
    let maps := NameMaps.after [.insert "a" "north", .insert "b" "south", .insert "a" "east",
      .insert "b" "east"]
    maps.names.entries = [("b", "east")] ∧ maps.owners.entries = [("east", "b")] ∧
      (maps.remove "b").1 = some "east" := by
  decide +kernel

namespace Directory

/-- What an event makes of the directory. -/
def next (directory : Directory) : NameEvent → Directory
  | .insert id name => directory.insert id name
  | .remove id => (directory.remove id).2

/-- The directory after events, from one without pairs. -/
def after (events : List NameEvent) : Directory :=
  events.foldl next .empty

theorem toNameMaps_next (directory : Directory) (event : NameEvent) :
    (directory.next event).toNameMaps = directory.toNameMaps.next event := by
  cases event <;> rfl

/-- The directory answers as the two maps do that the same history has led to: to be in step is not asked
of them but comes of how they are written. -/
theorem toNameMaps_after (events : List NameEvent) :
    (after events).toNameMaps = NameMaps.after events := by
  induction events using List.reverseRecOn with
  | nil => rfl
  | append_singleton events event ih =>
    have hafter : after (events ++ [event]) = (after events).next event := by
      unfold after
      rw [List.foldl_append]
      rfl
    rw [hafter, toNameMaps_next, ih, NameMaps.after_concat]

end Directory

end Fleet
