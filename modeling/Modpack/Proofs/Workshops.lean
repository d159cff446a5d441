import Modpack.Injection.Items
import Modpack.Proofs.ItemSteps
import Modpack.Proofs.Numbering

/-!
# Workshops

A workshop is a registry of items with the tables and the marks that its passes work on, without an
engine around them. Events are what can happen to it, in any order: a definition is offered, a pass
is tried, missing icons are copied, or the host changes its tables in whatever way. Whatever
happens, the registry is the one that the offers alone lead to, but for the records last written.
-/
namespace Modpack

/-- A registry of items with the tables and marks that its passes work on. -/
structure Workshop where
  /-- The registry. -/
  registry : Registry ItemDefinition
  /-- The tables of the host, and the marks. -/
  state : ItemState

/-- Something that happens to a workshop. -/
inductive WorkshopEvent where
  /-- A definition is offered. -/
  | offer (offer : Offer ItemDefinition)
  /-- A pass is tried. -/
  | inject
  /-- The missing icon of an item is copied, if it can be. -/
  | retry (id : Nat)
  /-- Every missing icon that can be copied is. -/
  | retryAll
  /-- The host has other tables. -/
  | host (tables : Tables)

/-- The definitions an event offers. -/
def WorkshopEvent.offers : WorkshopEvent → List (Offer ItemDefinition)
  | .offer made => [made]
  | _ => []

namespace Workshop

/-- The workshop before anything happened: a registry without entries, no marks, and some tables. -/
def start (base : Nat) (tables : Tables) : Workshop := ⟨.empty base, ⟨tables, .empty⟩⟩

/-- The workshop after a pass was tried. -/
def inject (ids : IdRanges) (workshop : Workshop) : Workshop :=
  match injectItems ids workshop.registry workshop.state with
  | .ok pass => ⟨{ workshop.registry with entries := pass.entries }, pass.state⟩
  | .error _ => workshop

/-- The workshop after an event. -/
def step (ids : IdRanges) (workshop : Workshop) : WorkshopEvent → Workshop
  | .offer offer =>
    { workshop with registry := workshop.registry.accept offer.package offer.definition }
  | .inject => workshop.inject ids
  | .retry id => { workshop with state := (retryIcon id workshop.state).2 }
  | .retryAll => { workshop with state := (retryIcons workshop.state).2 }
  | .host tables => { workshop with state := { workshop.state with tables } }

/-- The workshop after events, in order. -/
def run (ids : IdRanges) (workshop : Workshop) (events : List WorkshopEvent) : Workshop :=
  events.foldl (step ids) workshop

/-- Running events and then more is running all of them. -/
theorem run_append (ids : IdRanges) (workshop : Workshop) (earlier later : List WorkshopEvent) :
    workshop.run ids (earlier ++ later) = (workshop.run ids earlier).run ids later :=
  List.foldl_append

/-- Over a table that is ready a pass is run. -/
theorem inject_of_ready {workshop : Workshop}
    (ready : workshop.state.tables.items.isReady = true) (ids : IdRanges) :
    workshop.inject ids =
      let pass := runPass (itemStep ids) workshop.registry.entries workshop.state
      ⟨{ workshop.registry with entries := pass.entries }, pass.state⟩ := by
  rw [inject, injectItems, if_pos ready]

/-- Over a table that is not ready nothing is done. -/
theorem inject_of_unready {workshop : Workshop}
    (unready : workshop.state.tables.items.isReady = false) (ids : IdRanges) :
    workshop.inject ids = workshop := by
  rw [inject, injectItems, unready]
  rfl

/-! ## The registry -/

/-- The definitions events offer, in order. -/
def offers (events : List WorkshopEvent) : List (Offer ItemDefinition) :=
  events.flatMap WorkshopEvent.offers

/-- Events offer their definitions in order. -/
theorem offers_append (earlier later : List WorkshopEvent) :
    offers (earlier ++ later) = offers earlier ++ offers later :=
  List.flatMap_append

/-- Trying a pass leaves the registry as it is but for the records last written. -/
theorem inject_registry (ids : IdRanges) (workshop : Workshop) :
    (workshop.inject ids).registry.forget = workshop.registry.forget := by
  cases ready : workshop.state.tables.items.isReady with
  | false => rw [inject_of_unready ready]
  | true =>
    rw [inject_of_ready ready]
    exact Registry.forget_of_entries (runPass_entries_forget _ _)

/-- An event adds its offers to the content of the registry and nothing else. -/
theorem step_registry (ids : IdRanges) (workshop : Workshop) (event : WorkshopEvent) :
    (workshop.step ids event).registry.forget =
      (workshop.registry.offerAll event.offers).forget := by
  cases event with
  | offer offer => rfl
  | inject => exact inject_registry ids workshop
  | retry id | retryAll | host tables => rfl

/-- After events the registry has the content that their offers lead to. -/
theorem run_registry (ids : IdRanges) (workshop : Workshop) (events : List WorkshopEvent) :
    (workshop.run ids events).registry.forget =
      (workshop.registry.offerAll (offers events)).forget := by
  induction events generalizing workshop with
  | nil => rfl
  | cons event rest ih =>
    have first := step_registry ids workshop event
    have later := ih (workshop.step ids event)
    rw [Registry.offerAll_forget] at later
    rw [offers, List.flatMap_cons, Registry.offerAll_append, Registry.offerAll_forget, ← first]
    exact later

end Workshop

end Modpack
