import Mathlib.Data.Finset.Sort
import Mathlib.Data.String.Basic
import Modpack.Proofs.ByteOrder
import Modpack.Proofs.Paths

/-!
# Listings in ascending order

A folder lists its names in some order, and sorting them leaves one: a list of texts in ascending
order is told by its members. So what is told name by name along a sorted listing depends neither on
the order of the listing nor on names that tell nothing, and where two listings tell the same but
for one name, what they tell differs in one place at most.
-/
namespace Modpack

/-! ## Ascending lists -/

namespace Text.Ascending

/-- Ascending lists with the same members are the same. -/
theorem eq_of_mem_iff {left right : List String} (first : Ascending left)
    (second : Ascending right) (same : ∀ text, text ∈ left ↔ text ∈ right) : left = right :=
  ((ascending_iff left).1 first).eq_of_mem_iff ((ascending_iff right).1 second) same

/-- A part of an ascending list is ascending. -/
theorem sublist {part whole : List String} (ascending : Ascending whole)
    (within : part.Sublist whole) : Ascending part :=
  List.Pairwise.sublist within ascending

end Text.Ascending

/-- Members of a list can be listed in ascending order. -/
theorem Text.exists_ascending (texts : List String) :
    ∃ sorted, Ascending sorted ∧ ∀ text, text ∈ sorted ↔ text ∈ texts := by
  refine ⟨texts.toFinset.sort, ?_, ?_⟩
  · exact (ascending_iff _).2 texts.toFinset.sortedLT_sort.pairwise
  · intro text
    rw [Finset.mem_sort, List.mem_toFinset]

/-- Sorting a list without repetitions puts it in ascending order. -/
theorem Text.ascending_mergeSort {texts : List String} (once : texts.Nodup) :
    Ascending (texts.mergeSort fun left right => decide (left ≤ right)) := by
  have weakly : (texts.mergeSort fun left right => decide (left ≤ right)).Pairwise
      fun left right => decide (left ≤ right) = true := by
    apply List.pairwise_mergeSort
    · intro first second third below above
      rw [decide_eq_true_eq] at below above ⊢
      exact le_trans below above
    · intro first second
      rw [Bool.or_eq_true, decide_eq_true_eq, decide_eq_true_eq]
      exact le_total first second
  have apart : (texts.mergeSort fun left right => decide (left ≤ right)).Nodup :=
    (List.mergeSort_perm texts _).nodup_iff.2 once
  apply (ascending_iff _).2
  refine (weakly.and apart).imp ?_
  rintro left right ⟨below, differs⟩
  exact lt_of_le_of_ne (of_decide_eq_true below) differs

/-! ## What is told name by name -/

section Told

variable {α : Type}

/-- What is told goes with the names that tell something. -/
theorem forall₂_filterMap {told : String → Option α} {holds : String → α → Prop}
    {names : List String} (each : ∀ name ∈ names, ∀ value, told name = some value →
      holds name value) :
    List.Forall₂ holds (names.filter fun name => (told name).isSome) (names.filterMap told) := by
  induction names with
  | nil => exact .nil
  | cons name rest ih =>
    have later := ih fun other within => each other (List.mem_cons_of_mem _ within)
    rw [List.filter_cons, List.filterMap_cons]
    cases tells : told name with
    | none => exact later
    | some value => exact .cons (each name List.mem_cons_self value tells) later

/-- Values that go with names are what these tell. -/
theorem eq_filterMap_of_forall₂ {told : String → Option α} {names : List String}
    {values : List α}
    (each : List.Forall₂ (fun name value => told name = some value) names values) :
    (∀ name ∈ names, (told name).isSome) ∧ values = names.filterMap told := by
  induction each with
  | nil => exact ⟨List.forall_mem_nil _, rfl⟩
  | cons here _ ih =>
    refine ⟨List.forall_mem_cons.2 ⟨by rw [here]; rfl, ih.1⟩, ?_⟩
    rw [List.filterMap_cons_some here, ← ih.2]

/-- What is told does not depend on names that tell nothing. -/
theorem filterMap_eq_of_covers {told : String → Option α} {left right : List String}
    (first : Text.Ascending left) (second : Text.Ascending right)
    (inFirst : ∀ name, (told name).isSome → name ∈ left)
    (inSecond : ∀ name, (told name).isSome → name ∈ right) :
    left.filterMap told = right.filterMap told := by
  have telling (names : List String) :
      names.filterMap told = (names.filter fun name => (told name).isSome).filterMap told := by
    rw [List.filterMap_filter]
    apply List.filterMap_congr
    intro name _
    cases told name with
    | none => rfl
    | some value => rfl
  rw [telling left, telling right]
  congr 1
  apply (first.sublist List.filter_sublist).eq_of_mem_iff (second.sublist List.filter_sublist)
  intro name
  rw [List.mem_filter, List.mem_filter]
  exact ⟨fun ⟨_, tells⟩ => ⟨inSecond name tells, tells⟩,
    fun ⟨_, tells⟩ => ⟨inFirst name tells, tells⟩⟩

/-- Two lists that are the same but for one place, where they have what is given, if anything. -/
def DifferBy (own own' : Option α) (left right : List α) : Prop :=
  ∃ before after, left = before ++ own.toList ++ after ∧ right = before ++ own'.toList ++ after

/-- A list differs from itself nowhere. -/
theorem DifferBy.refl (own : Option α) (list : List α) (nothing : own = none) :
    DifferBy own own list list := by
  refine ⟨list, [], ?_⟩
  rw [nothing, Option.toList_none, List.append_nil, List.append_nil]
  exact ⟨rfl, rfl⟩

/-- Where the same is told of all names but one, what is told differs by what is told of that. -/
theorem differBy_of_agree {told told' : String → Option α} {left right : List String}
    (first : Text.Ascending left) (second : Text.Ascending right)
    (inFirst : ∀ name, (told name).isSome → name ∈ left)
    (inSecond : ∀ name, (told' name).isSome → name ∈ right) {name : String}
    (agree : ∀ other, other ≠ name → told other = told' other) :
    DifferBy (told name) (told' name) (left.filterMap told) (right.filterMap told') := by
  obtain ⟨names, ascending, members⟩ := Text.exists_ascending (name :: (left ++ right))
  have here : name ∈ names := (members name).2 List.mem_cons_self
  obtain ⟨before, after, rfl⟩ := List.append_of_mem here
  have once := ((Text.ascending_iff _).1 ascending).nodup
  have notBefore : name ∉ before := by
    intro twice
    exact List.disjoint_of_nodup_append once twice List.mem_cons_self
  have notAfter : name ∉ after := (List.nodup_cons.1 (List.nodup_append.1 once).2.1).1
  have same (part : List String) (absent : name ∉ part) :
      part.filterMap told' = part.filterMap told := by
    apply List.filterMap_congr
    intro other member
    refine (agree other ?_).symm
    rintro rfl
    exact absent member
  have split (told : String → Option α) : (before ++ name :: after).filterMap told =
      before.filterMap told ++ (told name).toList ++ after.filterMap told := by
    rw [List.filterMap_append, List.filterMap_cons, List.append_assoc]
    cases told name with
    | none => rfl
    | some value => rfl
  refine ⟨before.filterMap told, after.filterMap told, ?_, ?_⟩
  · rw [← split]
    refine filterMap_eq_of_covers first ascending inFirst ?_
    intro other tells
    exact (members other).2 (List.mem_cons_of_mem _ (List.mem_append_left _ (inFirst other tells)))
  · rw [← same before notBefore, ← same after notAfter, ← split]
    refine filterMap_eq_of_covers second ascending inSecond ?_
    intro other tells
    exact (members other).2
      (List.mem_cons_of_mem _ (List.mem_append_right _ (inSecond other tells)))

end Told

/-! ## The names in a folder -/

namespace Dict

variable {κ α : Type} [DecidableEq κ]

/-- A key holds a value exactly when they stand together. -/
theorem get?_eq_some_iff (dict : Dict κ α) (key : κ) (value : α) :
    dict.get? key = some value ↔ (key, value) ∈ dict.entries := by
  obtain ⟨entries, distinct⟩ := dict
  change find? key entries = some value ↔ (key, value) ∈ entries
  induction entries with
  | nil => simp [find?]
  | cons entry rest ih =>
    obtain ⟨first, later⟩ := List.nodup_cons.1 distinct
    by_cases here : entry.1 = key
    · have absent : (key, value) ∉ rest := by
        intro member
        apply first
        rw [here]
        exact List.mem_map_of_mem (f := Prod.fst) member
      rw [find?, if_pos here, List.mem_cons, or_iff_left absent, Option.some_inj]
      constructor
      · rintro rfl
        rw [← here]
      · rintro rfl
        rfl
    · have apart : (key, value) ≠ entry := by
        rintro rfl
        exact here rfl
      rw [find?, if_neg here, List.mem_cons, or_iff_right apart]
      exact ih later

/-- The order of the entries does not matter to what a key holds. -/
theorem get?_of_perm {left right : Dict κ α} (same : left.entries.Perm right.entries) (key : κ) :
    left.get? key = right.get? key := by
  apply Option.ext
  intro value
  rw [get?_eq_some_iff, get?_eq_some_iff, same.mem_iff]

end Dict

namespace FileTree

/-- What stands below the root is what the tree holds. -/
theorem at?_below (tree : FileTree) (place : List String) (name : String) :
    tree.at? (place ++ [name]) = tree.nodes.get? (place ++ [name]) :=
  if_neg (List.append_ne_nil_of_right_ne_nil place (List.cons_ne_nil name []))

/-- A place ends in a name where what is above it and the name are those of the place. -/
theorem ends_iff {place above : List String} {name : String} :
    place.dropLast = above ∧ place.getLast? = some name ↔ place = above ++ [name] := by
  constructor
  · rintro ⟨rfl, last⟩
    obtain ⟨front, rfl⟩ := List.getLast?_eq_some_iff.1 last
    rw [List.dropLast_concat]
  · rintro rfl
    exact ⟨List.dropLast_concat, List.getLast?_concat⟩

variable (tree : FileTree)

/-- A folder lists the names under which something stands in it. -/
theorem mem_names_iff {path : String} {place : List String} (leads : tree.folder? path = some place)
    (name : String) : name ∈ tree.names path ↔ (tree.at? (place ++ [name])).isSome := by
  have found : tree.find? path = some (place, .folder) := by
    unfold folder? at leads
    split at leads
    · rename_i found
      rw [found, Option.some.inj leads]
    · cases leads
  unfold names
  simp only [found, List.mem_filterMap, List.mem_filter, decide_eq_true_eq]
  rw [at?_below, Option.isSome_iff_exists]
  constructor
  · rintro ⟨entry, ⟨member, above⟩, last⟩
    refine ⟨entry.2, (Dict.get?_eq_some_iff _ _ _).2 ?_⟩
    rw [← ends_iff.1 ⟨above, last⟩]
    exact member
  · rintro ⟨node, held⟩
    have member := (Dict.get?_eq_some_iff _ _ _).1 held
    obtain ⟨above, last⟩ := ends_iff.2 (rfl : place ++ [name] = place ++ [name])
    exact ⟨_, ⟨member, above⟩, last⟩

/-- A folder lists no name twice. -/
theorem nodup_names (path : String) : (tree.names path).Nodup := by
  unfold names
  split
  · rename_i place _
    have distinct : ((tree.nodes.entries.filter fun entry =>
        entry.1.dropLast = place).map Prod.fst).Nodup :=
      tree.nodes.distinct.sublist (List.filter_sublist.map Prod.fst)
    rw [List.Nodup, List.pairwise_filterMap]
    refine (List.pairwise_map.1 distinct).imp_of_mem ?_
    intro first second firstIn secondIn apart name last name' last' same
    have above := of_decide_eq_true (List.mem_filter.1 firstIn).2
    have above' := of_decide_eq_true (List.mem_filter.1 secondIn).2
    rw [← same] at last'
    exact apart ((ends_iff.1 ⟨above, last⟩).trans (ends_iff.1 ⟨above', last'⟩).symm)
  · exact List.nodup_nil

/-- The sorted listing of a folder is ascending. -/
theorem ascending_sortedNames (path : String) : Text.Ascending (tree.sortedNames path) :=
  Text.ascending_mergeSort (tree.nodup_names path)

/-- The sorted listing of a folder has the names under which something stands in it. -/
theorem mem_sortedNames_iff {path : String} {place : List String}
    (leads : tree.folder? path = some place) (name : String) :
    name ∈ tree.sortedNames path ↔ (tree.at? (place ++ [name])).isSome := by
  unfold sortedNames
  rw [List.mem_mergeSort]
  exact tree.mem_names_iff leads name

/-- What is no folder lists nothing. -/
theorem sortedNames_of_none {path : String} (nowhere : tree.folder? path = none) :
    tree.sortedNames path = [] := by
  have nothing : tree.names path = [] := by
    unfold names
    unfold folder? at nowhere
    split
    · rename_i place found
      rw [found] at nowhere
      cases nowhere
    · rfl
  unfold sortedNames
  rw [nothing]
  exact List.mergeSort_nil

/-! ## Listings in another order -/

section Alike

variable {left right : FileTree}

/-- Trees that hold the same in another order have the same at every place. -/
theorem at?_of_perm (same : left.nodes.entries.Perm right.nodes.entries) (place : List String) :
    left.at? place = right.at? place := by
  unfold at?
  rw [Dict.get?_of_perm same place]

/-- A walk looks at what stands at the places on its way. -/
theorem walk?_congr (same : ∀ place, left.at? place = right.at? place)
    (place segments : List String) : left.walk? place segments = right.walk? place segments := by
  induction segments generalizing place with
  | nil => rfl
  | cons segment rest ih =>
    unfold walk?
    rw [same place, ih, ih, ih]

/-- What a path leads to is told by what stands at the places. -/
theorem find?_congr (same : ∀ place, left.at? place = right.at? place)
    (working : left.workingFolder = right.workingFolder) : left.find? = right.find? := by
  funext path
  unfold find? start
  rw [working, walk?_congr same]
  simp only [same]

/-- The sorted listing of a folder is told by what stands at the places. -/
theorem sortedNames_congr (same : ∀ place, left.at? place = right.at? place)
    (working : left.workingFolder = right.workingFolder) :
    left.sortedNames = right.sortedNames := by
  funext path
  have leads : left.folder? path = right.folder? path := by
    unfold folder?
    rw [find?_congr same working]
  cases found : right.folder? path with
  | none =>
    rw [found] at leads
    rw [left.sortedNames_of_none leads, right.sortedNames_of_none found]
  | some place =>
    rw [found] at leads
    apply (left.ascending_sortedNames path).eq_of_mem_iff (right.ascending_sortedNames path)
    intro name
    rw [left.mem_sortedNames_iff leads, right.mem_sortedNames_iff found, same]

end Alike

end FileTree

end Modpack
