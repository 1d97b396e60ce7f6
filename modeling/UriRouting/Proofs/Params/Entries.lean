import Mathlib
import UriRouting.Params

/-! # What a series of entries makes of a map

Giving names values one after the other leaves each name where it first appeared, with the value
that came last. The keys and the value of each key determine a map, so this says which map it is.
-/

namespace UriRouting

theorem insertEntry_of_not_mem {α : Type} {name : String} {entries : List (String × α)}
    (absent : name ∉ entries.map Prod.fst) (value : α) :
    insertEntry name value entries = entries ++ [(name, value)] := by
  induction entries with
  | nil => rfl
  | cons entry later ih =>
      simp only [List.map_cons, List.mem_cons, not_or] at absent
      rw [insertEntry, if_neg (Ne.symm absent.1), ih absent.2, List.cons_append]

theorem lookup_eq_none_iff {α : Type} {name : String} {entries : List (String × α)} :
    entries.lookup name = none ↔ name ∉ entries.map Prod.fst := by
  rw [List.lookup_eq_none_iff, List.mem_map]
  constructor
  · rintro differs ⟨entry, member, rfl⟩
    simpa using differs entry member
  · intro absent entry member
    exact bne_iff_ne.mpr fun same => absent ⟨entry, member, same.symm⟩

theorem mem_of_lookup_eq_some {α : Type} {entries : List (String × α)} {name : String} {value : α}
    (found : entries.lookup name = some value) : (name, value) ∈ entries := by
  obtain ⟨before, after, rfl, -⟩ := List.lookup_eq_some_iff.mp found
  exact List.mem_append_right _ List.mem_cons_self

theorem lookup_map_pair {α : Type} (names : List String) (value : String → α) (name : String) :
    (names.map fun other => (other, value other)).lookup name =
      if name ∈ names then some (value name) else none := by
  induction names with
  | nil => rfl
  | cons other names ih =>
      by_cases same : name = other
      · simp [same]
      · have differs : (name == other) = false := by simpa using same
        simp [List.lookup_cons, differs, same, ih]

theorem eq_of_lookup_eq {α : Type} {a b : List (String × α)}
    (names : a.map Prod.fst = b.map Prod.fst) (distinct : (a.map Prod.fst).Nodup)
    (values : ∀ name, a.lookup name = b.lookup name) : a = b := by
  induction a generalizing b with
  | nil => exact (List.map_eq_nil_iff.mp names.symm).symm
  | cons first later ih =>
      obtain ⟨name, value⟩ := first
      cases b with
      | nil => cases names
      | cons other rest =>
          obtain ⟨otherName, otherValue⟩ := other
          simp only [List.map_cons, List.cons.injEq] at names
          obtain ⟨rfl, names⟩ := names
          obtain ⟨absent, distinct⟩ := List.nodup_cons.mp distinct
          have head : value = otherValue := by simpa using values name
          subst head
          congr 1
          refine ih names distinct fun wanted => ?_
          by_cases same : wanted = name
          · subst same
            rw [lookup_eq_none_iff.mpr absent, lookup_eq_none_iff.mpr (names ▸ absent)]
          · have differs : (wanted == name) = false := by simpa using same
            simpa only [List.lookup_cons, differs] using values wanted

theorem eraseDups_filter (accept : String → Bool) (names : List String) :
    (names.filter accept).eraseDups = names.eraseDups.filter accept := by
  match names with
  | [] => rfl
  | name :: names =>
      have later := eraseDups_filter accept (names.filter fun other => !other == name)
      rw [List.eraseDups_cons, List.filter_cons, List.filter_cons, ← later, List.filter_filter]
      by_cases accepted : accept name = true
      · rw [if_pos accepted, if_pos accepted, List.eraseDups_cons, List.filter_filter]
        simp only [Bool.and_comm]
      · rw [if_neg accepted, if_neg accepted]
        congr 1
        apply List.filter_congr
        intro other _
        by_cases same : other = name
        · subst same
          simp [accepted]
        · simp [same]
termination_by names.length
decreasing_by exact Nat.lt_succ_of_le (List.length_filter_le _ _)

namespace Params

variable {α : Type}

theorem keys_insert (params : Params α) (name : String) (value : α) :
    (params.insert name value).keys =
      if name ∈ params.keys then params.keys else params.keys ++ [name] :=
  map_fst_insertEntry name value params.entries

theorem mem_keys_iff (params : Params α) (name : String) :
    name ∈ params.keys ↔ ∃ value, params.get? name = some value := by
  rw [← Option.ne_none_iff_exists', ne_eq, get?, lookup_eq_none_iff, not_not]
  rfl

theorem get?_eq_some_iff {params : Params α} {name : String} {value : α} :
    params.get? name = some value ↔ (name, value) ∈ params.entries := by
  constructor
  · exact mem_of_lookup_eq_some
  · intro member
    obtain ⟨found, kept⟩ := (params.mem_keys_iff name).mp (List.mem_map_of_mem member)
    have inside := mem_of_lookup_eq_some kept
    rwa [(Prod.mk.inj (List.inj_on_of_nodup_map params.distinct inside member rfl)).2] at kept

/-- A map is determined by its keys, in order, and the value of each. -/
theorem eq_of_get? {a b : Params α} (keys : a.keys = b.keys)
    (values : ∀ name, a.get? name = b.get? name) : a = b :=
  Params.ext (eq_of_lookup_eq keys a.distinct values)

theorem insertAll_cons (params : Params α) (name : String) (value : α)
    (later : List (String × α)) :
    params.insertAll ((name, value) :: later) = (params.insert name value).insertAll later := rfl

/-- New names come after the old ones, in the order in which they first appear. -/
theorem keys_insertAll (params : Params α) (entries : List (String × α)) :
    (params.insertAll entries).keys =
      params.keys ++ ((entries.map Prod.fst).filter (· ∉ params.keys)).eraseDups := by
  induction entries generalizing params with
  | nil => simp [insertAll]
  | cons entry later ih =>
      obtain ⟨name, value⟩ := entry
      rw [insertAll_cons, ih, keys_insert]
      by_cases present : name ∈ params.keys
      · simp [present]
      · simp [present, List.eraseDups_cons, List.filter_filter, and_comm, Bool.beq_eq_decide_eq]

theorem mem_keys_overlay (below above : Params α) (name : String) :
    name ∈ (below.overlay above).keys ↔ name ∈ below.keys ∨ name ∈ above.keys := by
  rw [overlay, keys_insertAll, List.mem_append, List.mem_eraseDups, List.mem_filter, keys]
  by_cases present : name ∈ below.keys <;> simp_all [keys]

theorem keys_ofList (entries : List (String × α)) :
    (ofList entries).keys = (entries.map Prod.fst).eraseDups := by
  rw [ofList, keys_insertAll]
  simp [keys]

theorem isEmpty_ofList {entries : List (String × α)} (filled : entries ≠ []) :
    (ofList entries).isEmpty = false := by
  obtain ⟨entry, member⟩ := List.exists_mem_of_ne_nil entries filled
  have named : entry.1 ∈ (ofList entries).keys := by
    rw [keys_ofList, List.mem_eraseDups]
    exact List.mem_map_of_mem member
  rw [isEmpty, List.isEmpty_eq_false_iff]
  rintro none
  rw [keys, none] at named
  cases named

/-- The last entry of a name decides, and a name without entry keeps its value. -/
theorem get?_insertAll (params : Params α) (entries : List (String × α)) (name : String) :
    (params.insertAll entries).get? name =
      (entries.reverse.lookup name).or (params.get? name) := by
  induction entries generalizing params with
  | nil => rfl
  | cons entry later ih =>
      obtain ⟨first, value⟩ := entry
      rw [insertAll_cons, ih, List.reverse_cons, List.lookup_append, Option.or_assoc]
      congr 1
      by_cases same : name = first
      · subst same
        simp [get?_insert_self]
      · have differs : (name == first) = false := by simpa using same
        simp [get?_insert_of_ne same, List.lookup_cons, differs]

theorem get?_ofList (entries : List (String × α)) (name : String) :
    (ofList entries).get? name = entries.reverse.lookup name := by
  rw [ofList, get?_insertAll]
  exact Option.or_none

/-- The map that a series of entries makes: every name is at the place of its first entry, and has
the value of its last one. -/
structure IsMapOf (params : Params α) (entries : List (String × α)) : Prop where
  order : params.keys = (entries.map Prod.fst).eraseDups
  value : ∀ name, params.get? name = entries.reverse.lookup name

theorem isMapOf_iff {params : Params α} {entries : List (String × α)} :
    params.IsMapOf entries ↔ params = ofList entries := by
  constructor
  · intro made
    exact eq_of_get? (made.order.trans (keys_ofList entries).symm)
      fun name => (made.value name).trans (get?_ofList entries name).symm
  · rintro rfl
    exact ⟨keys_ofList entries, get?_ofList entries⟩

theorem entries_insertAll_of_nodup (params : Params α) (entries : List (String × α))
    (distinct : (params.keys ++ entries.map Prod.fst).Nodup) :
    (params.insertAll entries).entries = params.entries ++ entries := by
  induction entries generalizing params with
  | nil => exact (List.append_nil _).symm
  | cons entry later ih =>
      obtain ⟨name, value⟩ := entry
      have absent : name ∉ params.keys := by
        intro present
        exact (List.nodup_append.mp distinct).2.2 name present name List.mem_cons_self rfl
      have entries : (params.insert name value).entries = params.entries ++ [(name, value)] :=
        insertEntry_of_not_mem absent value
      rw [insertAll_cons, ih, entries, List.append_assoc, List.singleton_append]
      rw [keys_insert, if_neg absent, List.append_assoc]
      exact distinct

theorem entries_ofList {entries : List (String × α)} (distinct : (entries.map Prod.fst).Nodup) :
    (ofList entries).entries = entries :=
  entries_insertAll_of_nodup empty entries distinct

/-- The values of some names, each at the first place of its name. -/
def arrange [Inhabited α] (params : Params α) (names : List String) : Params α :=
  ofList (names.map fun name => (name, params.getD name default))

theorem keys_arrange [Inhabited α] (params : Params α) (names : List String) :
    (params.arrange names).keys = names.eraseDups := by
  rw [arrange, keys_ofList, List.map_map]
  exact congrArg List.eraseDups (List.map_id names)

theorem get?_arrange [Inhabited α] {params : Params α} {names : List String}
    (known : ∀ name, name ∈ params.keys ↔ name ∈ names) (name : String) :
    (params.arrange names).get? name = params.get? name := by
  rw [arrange, get?_ofList, ← List.map_reverse, lookup_map_pair]
  by_cases member : name ∈ names
  · obtain ⟨value, found⟩ := (params.mem_keys_iff name).mp ((known name).mpr member)
    rw [if_pos (List.mem_reverse.mpr member), getD, found, Option.getD_some]
  · rw [if_neg (mt List.mem_reverse.mp member)]
    exact (lookup_eq_none_iff.mpr (mt (known name).mp member)).symm

theorem arrange_eq [Inhabited α] {params : Params α} {names : List String}
    (order : params.keys = names.eraseDups) : params.arrange names = params := by
  refine eq_of_get? ((keys_arrange params names).trans order.symm) (get?_arrange fun name => ?_)
  rw [order, List.mem_eraseDups]

theorem isEmpty_filterKeys_iff (params : Params α) (accept : String → Bool) :
    (params.filterKeys accept).isEmpty = true ↔ ∀ name ∈ params.keys, accept name = false := by
  simp [isEmpty, filterKeys, keys, List.isEmpty_iff]

theorem get?_map {β : Type} (f : α → β) (params : Params α) (name : String) :
    (params.map f).get? name = (params.get? name).map f := by
  change (params.entries.map fun entry => (entry.1, f entry.2)).lookup name =
    (params.entries.lookup name).map f
  induction params.entries with
  | nil => rfl
  | cons entry later ih =>
      rw [List.map_cons, List.lookup_cons, List.lookup_cons, ih]
      cases name == entry.1 <;> rfl

theorem get?_filterKeys (accept : String → Bool) (params : Params α) (name : String) :
    (params.filterKeys accept).get? name = if accept name then params.get? name else none := by
  change (params.entries.filter fun entry => accept entry.1).lookup name =
    if accept name then params.entries.lookup name else none
  induction params.entries with
  | nil => simp
  | cons entry later ih =>
      obtain ⟨first, value⟩ := entry
      rw [List.filter_cons, List.lookup_cons]
      by_cases same : name = first
      · subst same
        by_cases accepted : accept name <;> simp [accepted, ih]
      · have differs : (name == first) = false := by simpa using same
        split <;> simp [List.lookup_cons, differs, ih]

theorem ofList_entries (params : Params α) : ofList params.entries = params :=
  Params.ext (entries_ofList params.distinct)

theorem get?_overlay (below above : Params α) (name : String) :
    (below.overlay above).get? name = (above.get? name).or (below.get? name) := by
  rw [overlay, get?_insertAll, ← get?_ofList, ofList_entries]

theorem eraseDups_keys (params : Params α) : params.keys.eraseDups = params.keys := by
  rw [keys, ← keys_ofList, ofList_entries, keys]

theorem keys_overlay (below above : Params α) :
    (below.overlay above).keys = below.keys ++ above.keys.filter (· ∉ below.keys) := by
  have names := keys_insertAll below above.entries
  rw [eraseDups_filter] at names
  change (below.overlay above).keys = below.keys ++ above.keys.eraseDups.filter (· ∉ below.keys) at names
  rwa [eraseDups_keys] at names

theorem overlay_ofList (below : Params α) (entries : List (String × α)) :
    below.overlay (ofList entries) = below.insertAll entries := by
  apply eq_of_get?
  · rw [keys_overlay, keys_insertAll, keys_ofList, eraseDups_filter]
  · intro name
    rw [get?_overlay, get?_insertAll, get?_ofList]

theorem ofList_append (first second : List (String × α)) :
    ofList (first ++ second) = (ofList first).overlay (ofList second) := by
  rw [overlay_ofList, ofList, insertAll_append, ofList]

theorem ofList_append_singleton (entries : List (String × α)) (name : String) (value : α) :
    ofList (entries ++ [(name, value)]) = (ofList entries).insert name value :=
  insertAll_append empty entries [(name, value)]

theorem overlay_insert (below above : Params α) (name : String) (value : α) :
    below.overlay (above.insert name value) = (below.overlay above).insert name value := by
  have last := ofList_append_singleton above.entries name value
  rw [ofList_entries] at last
  rw [← last, overlay_ofList, insertAll_append]
  rfl

theorem isMapOf_overlay (below above : Params α) :
    (below.overlay above).IsMapOf (below.entries ++ above.entries) := by
  rw [isMapOf_iff, ofList_append, ofList_entries, ofList_entries]

end Params

end UriRouting
