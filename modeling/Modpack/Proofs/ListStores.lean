import Modpack.Host.Lists

/-!
# What a growing store of lists keeps

A store extends another when it still has every list of the other with the same content. Adding
a fresh list extends the store, and so does pushing into a list the older store did not have.
This is what keeps lists that belong to host records apart from lists made for new records.
-/
namespace Modpack.ListStore

/-- A store has the lists of an earlier one, with the content they had. -/
def ExtendedBy (before after : ListStore) : Prop :=
  ∀ handle, before.Made handle → after.Made handle ∧ after.read handle = before.read handle

/-- A store extends itself. -/
theorem ExtendedBy.refl (store : ListStore) : store.ExtendedBy store :=
  fun _ made => ⟨made, rfl⟩

/-- Extending twice is extending. -/
theorem ExtendedBy.trans {first middle last : ListStore} (left : first.ExtendedBy middle)
    (right : middle.ExtendedBy last) : first.ExtendedBy last := by
  intro handle made
  obtain ⟨madeMiddle, same⟩ := left handle made
  obtain ⟨madeLast, again⟩ := right handle madeMiddle
  exact ⟨madeLast, again.trans same⟩

/-- A fresh list extends the store. -/
theorem extendedBy_fresh (store : ListStore) (entries : List ListEntry) :
    store.ExtendedBy (store.fresh entries) := by
  intro handle made
  refine ⟨?_, read_fresh made entries⟩
  simp only [Made, fresh, List.length_append] at made ⊢
  omega

/-- The next handle of a store is not one of its lists. -/
theorem not_made_next (store : ListStore) : ¬ store.Made store.next := by
  simp [Made, next]

/-- The next handle of a store is a list once a fresh one was added. -/
theorem made_fresh_next (store : ListStore) (entries : List ListEntry) :
    (store.fresh entries).Made store.next := by
  simp [Made, next, fresh]

/-- A push neither makes a list nor drops one. -/
theorem made_push (store : ListStore) (handle other : ListHandle) (entry : ListEntry) :
    (store.push handle entry).Made other ↔ store.Made other := by
  simp [Made, push]

/-- Add entries at the end of a list, in order. -/
def pushAll (store : ListStore) (handle : ListHandle) (entries : List ListEntry) : ListStore :=
  entries.foldl (fun store entry => store.push handle entry) store

/-- Pushing neither makes lists nor drops them. -/
theorem made_pushAll (store : ListStore) (handle other : ListHandle) (entries : List ListEntry) :
    (store.pushAll handle entries).Made other ↔ store.Made other := by
  induction entries generalizing store with
  | nil => exact Iff.rfl
  | cons entry rest ih => exact (ih _).trans (made_push store handle other entry)

/-- Pushed entries stand at the end of their list, in order. -/
theorem read_pushAll_self {store : ListStore} {handle : ListHandle} (made : store.Made handle)
    (entries : List ListEntry) :
    (store.pushAll handle entries).read handle = store.read handle ++ entries := by
  induction entries generalizing store with
  | nil => simp [pushAll]
  | cons entry rest ih =>
    have still := (made_push store handle handle entry).2 made
    calc (store.pushAll handle (entry :: rest)).read handle
        = (store.push handle entry).read handle ++ rest := ih still
      _ = store.read handle ++ entry :: rest := by
          rw [read_push_self made, List.append_assoc, List.singleton_append]

/-- Pushing leaves all other lists alone. -/
theorem read_pushAll_other {handle other : ListHandle} (apart : handle ≠ other)
    (store : ListStore) (entries : List ListEntry) :
    (store.pushAll handle entries).read other = store.read other := by
  induction entries generalizing store with
  | nil => rfl
  | cons entry rest ih => exact (ih _).trans (read_push_other apart entry)

/-- Pushing into a list that an earlier store did not have keeps what that store had. -/
theorem ExtendedBy.pushAll {before after : ListStore} (extended : before.ExtendedBy after)
    {handle : ListHandle} (fresh : ¬ before.Made handle) (entries : List ListEntry) :
    before.ExtendedBy (after.pushAll handle entries) := by
  intro other made
  have apart : handle ≠ other := by
    rintro rfl
    exact fresh made
  obtain ⟨madeAfter, same⟩ := extended other made
  exact ⟨(made_pushAll after handle other entries).2 madeAfter,
    (read_pushAll_other apart after entries).trans same⟩

end Modpack.ListStore
