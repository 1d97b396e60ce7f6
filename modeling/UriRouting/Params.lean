/-! # Parameters

Named values in the order in which the names first appeared. Giving a name a second time changes
its value and leaves its place: the map keeps the position of the first occurrence and the value
of the last one. Every operation keeps the names distinct, so a name has one value.
-/

namespace UriRouting

/-- Gives a name a value among entries: at its place if it has one, at the end otherwise. -/
def insertEntry {α : Type} (name : String) (value : α) : List (String × α) → List (String × α)
  | [] => [(name, value)]
  | entry :: later =>
    if entry.1 = name then (name, value) :: later else entry :: insertEntry name value later

theorem map_fst_insertEntry {α : Type} (name : String) (value : α) (entries : List (String × α)) :
    (insertEntry name value entries).map Prod.fst =
      if name ∈ entries.map Prod.fst then entries.map Prod.fst
      else entries.map Prod.fst ++ [name] := by
  induction entries with
  | nil => simp [insertEntry]
  | cons entry later ih =>
    by_cases h : entry.1 = name
    · simp [insertEntry, h]
    · simp only [insertEntry, h, if_false, List.map_cons, ih, List.mem_cons, Ne.symm h, false_or]
      split <;> simp

theorem nodup_insertEntry {α : Type} (name : String) (value : α) {entries : List (String × α)}
    (h : (entries.map Prod.fst).Nodup) : ((insertEntry name value entries).map Prod.fst).Nodup := by
  rw [map_fst_insertEntry]
  split
  · exact h
  · rename_i absent
    refine List.nodup_append.mpr ⟨h, by simp, ?_⟩
    intro other hother last hlast
    rintro rfl
    simp only [List.mem_singleton] at hlast
    exact absent (hlast ▸ hother)

/-- Named values, each name once, in the order of first appearance. -/
structure Params (α : Type) where
  entries : List (String × α)
  distinct : (entries.map Prod.fst).Nodup
  deriving DecidableEq

namespace Params

variable {α β : Type}

def empty : Params α := ⟨[], by simp⟩

instance : Inhabited (Params α) := ⟨empty⟩

@[ext]
theorem ext {a b : Params α} (h : a.entries = b.entries) : a = b := by
  cases a
  cases b
  simp_all

def insert (params : Params α) (name : String) (value : α) : Params α :=
  ⟨insertEntry name value params.entries, nodup_insertEntry name value params.distinct⟩

def insertAll (params : Params α) (entries : List (String × α)) : Params α :=
  entries.foldl (fun made entry => made.insert entry.1 entry.2) params

def ofList (entries : List (String × α)) : Params α :=
  empty.insertAll entries

def get? (params : Params α) (name : String) : Option α :=
  params.entries.lookup name

def getD (params : Params α) (name : String) (fallback : α) : α :=
  (params.get? name).getD fallback

def keys (params : Params α) : List String :=
  params.entries.map Prod.fst

def isEmpty (params : Params α) : Bool :=
  params.entries.isEmpty

/-- Both maps in one; a name that has a value in both takes the second. -/
def overlay (below above : Params α) : Params α :=
  below.insertAll above.entries

/-- The names for which the function gives a value, with that value. -/
def filterMap (f : α → Option β) (params : Params α) : Params β where
  entries := params.entries.filterMap fun entry => (f entry.2).map (entry.1, ·)
  distinct := by
    refine params.distinct.sublist ?_
    generalize params.entries = entries
    induction entries with
    | nil => simp
    | cons entry later ih =>
      cases h : f entry.2 with
      | none => simpa [h] using ih.cons _
      | some value => simpa [h] using ih

def filterKeys (accept : String → Bool) (params : Params α) : Params α where
  entries := params.entries.filter fun entry => accept entry.1
  distinct := params.distinct.sublist (List.filter_sublist.map Prod.fst)

def contains (params : Params α) (name : String) : Bool :=
  (params.get? name).isSome

def map (f : α → β) (params : Params α) : Params β where
  entries := params.entries.map fun entry => (entry.1, f entry.2)
  distinct := by simpa [Function.comp_def] using params.distinct

/-- Whether two maps give the same names the same values, in whatever order. -/
def agrees [BEq α] (a b : Params α) : Bool :=
  a.entries.length == b.entries.length &&
    a.entries.all fun entry => (b.get? entry.1).any (· == entry.2)

@[simp]
theorem entries_empty : (empty : Params α).entries = [] := rfl

@[simp]
theorem entries_insert (params : Params α) (name : String) (value : α) :
    (params.insert name value).entries = insertEntry name value params.entries := rfl

theorem insertAll_append (params : Params α) (first second : List (String × α)) :
    params.insertAll (first ++ second) = (params.insertAll first).insertAll second := by
  simp [insertAll]

theorem get?_insert_self (params : Params α) (name : String) (value : α) :
    (params.insert name value).get? name = some value := by
  simp only [get?, entries_insert]
  generalize params.entries = entries
  induction entries with
  | nil => simp [insertEntry]
  | cons entry later ih =>
    obtain ⟨first, old⟩ := entry
    by_cases h : first = name
    · simp [insertEntry, h]
    · have differs : (name == first) = false := by simpa using Ne.symm h
      simpa [insertEntry, h, List.lookup_cons, differs] using ih

theorem get?_insert_of_ne {name other : String} (h : other ≠ name) (params : Params α) (value : α) :
    (params.insert name value).get? other = params.get? other := by
  simp only [get?, entries_insert]
  generalize params.entries = entries
  have differs : (other == name) = false := by simpa using h
  induction entries with
  | nil => simp [insertEntry, List.lookup_cons, differs]
  | cons entry later ih =>
    obtain ⟨first, old⟩ := entry
    by_cases hname : first = name
    · simp [insertEntry, hname, List.lookup_cons, differs]
    · simp [insertEntry, hname, List.lookup_cons, ih]

end Params

end UriRouting
