import Mathlib
import UriRouting.Command.Module
import UriRouting.Proofs.Failure
import UriRouting.Proofs.Params.Entries

/-! # The router that a module means

A module is asked for one name after the other until it has a router under one, or raises something
else than that the name is missing. Its answers may change with every question, so what it means is
said of the questions in their order.

If they do not change, a module means the router that it has as `router`, or else as `routes`, or else
under the least of all public names, in whatever order it lists its names.
-/

namespace UriRouting.Command

namespace Module

def Has (mod : Module) (asked : List String) (name : String) (router : Router) : Prop :=
  mod.ask asked name = .ok (.router router)

/-- Whether a module has something else under a name, or says that it has nothing. -/
def Lacks (mod : Module) (asked : List String) (name : String) : Prop :=
  mod.ask asked name = .ok .other ∨
    ∃ raised, mod.ask asked name = .error raised ∧ raised.kind = .missing

/-- Whether something else is raised when a module is asked for a name. -/
def Fails (mod : Module) (asked : List String) (name : String) (raised : Raised) : Prop :=
  mod.ask asked name = .error raised ∧ raised.kind ≠ .missing

/-- Whether a module has no router under any of some names, of which it is asked one after the
other. -/
inductive LacksAll (mod : Module) : (asked : List String) → List String → Prop where
  | nil (asked : List String) : LacksAll mod asked []
  | cons {asked : List String} {name : String} {later : List String} (first : mod.Lacks asked name)
      (rest : LacksAll mod (asked ++ [name]) later) : LacksAll mod asked (name :: later)

def Finds (mod : Module) (asked names : List String) (router : Router) : Prop :=
  ∃ before name after, names = before ++ name :: after ∧ mod.LacksAll asked before ∧
    mod.Has (asked ++ before) name router

def Breaks (mod : Module) (asked names : List String) (raised : Raised) : Prop :=
  ∃ before name after, names = before ++ name :: after ∧ mod.LacksAll asked before ∧
    mod.Fails (asked ++ before) name raised

/-- The router that a module means: one of the usual names has it, or the first of the public ones. -/
inductive Chooses (mod : Module) (router : Router) : Prop where
  | usual (finds : mod.Finds [] usualNames router)
  | listed {names : List String} (none : mod.LacksAll [] usualNames)
      (known : mod.publicNames usualNames = .ok names) (finds : mod.Finds usualNames names router)

/-- What keeps a module from being searched: something that is raised when it is asked for a name or
for its names. -/
inductive Stops (mod : Module) (raised : Raised) : Prop where
  | usual (breaks : mod.Breaks [] usualNames raised)
  | names (none : mod.LacksAll [] usualNames) (failed : mod.names usualNames = .error raised)
  | listed {names : List String} (none : mod.LacksAll [] usualNames)
      (known : mod.publicNames usualNames = .ok names) (breaks : mod.Breaks usualNames names raised)

variable {mod : Module} {asked names : List String} {name : String} {router : Router}
  {raised : Raised}

theorem routerNamed_eq_some_iff :
    mod.routerNamed asked name = .ok (some router) ↔ mod.Has asked name router := by
  unfold routerNamed Has
  cases mod.ask asked name with
  | ok value => cases value <;> simp [Attribute.router?]
  | error other => by_cases missing : other.kind = .missing <;> simp [missing]

theorem routerNamed_eq_none_iff :
    mod.routerNamed asked name = .ok none ↔ mod.Lacks asked name := by
  unfold routerNamed Lacks
  cases mod.ask asked name with
  | ok value => cases value <;> simp [Attribute.router?]
  | error other => by_cases missing : other.kind = .missing <;> simp [missing]

theorem routerNamed_eq_error_iff :
    mod.routerNamed asked name = .error raised ↔ mod.Fails asked name raised := by
  unfold routerNamed Fails
  cases mod.ask asked name with
  | ok value => simp
  | error other =>
      by_cases missing : other.kind = .missing
      · simp only [missing, if_true, reduceCtorEq, Except.error.injEq, false_iff, not_and, not_not]
        rintro rfl
        exact missing
      · simp only [missing, if_false, Except.error.injEq, iff_self_and]
        rintro rfl
        exact missing

section Searching

variable {later : List String}

theorem exists_split_cons_iff {P : List String → String → Prop} :
    (∃ before other after, name :: later = before ++ other :: after ∧ mod.LacksAll asked before ∧
        P (asked ++ before) other) ↔
      P asked name ∨ mod.Lacks asked name ∧
        ∃ before other after, later = before ++ other :: after ∧
          mod.LacksAll (asked ++ [name]) before ∧ P (asked ++ [name] ++ before) other := by
  constructor
  · rintro ⟨before, other, after, split, none, holds⟩
    cases none with
    | nil =>
        obtain ⟨rfl, rfl⟩ := List.cons.inj split
        rw [List.append_nil] at holds
        exact .inl holds
    | @cons _ _ rest lacks none =>
        rw [List.cons_append, List.cons.injEq] at split
        obtain ⟨rfl, split⟩ := split
        refine .inr ⟨lacks, rest, other, after, split, none, ?_⟩
        rwa [List.append_assoc]
  · rintro (holds | ⟨lacks, before, other, after, rfl, none, holds⟩)
    · refine ⟨[], name, later, rfl, .nil asked, ?_⟩
      rwa [List.append_nil]
    · refine ⟨name :: before, other, after, rfl, .cons lacks none, ?_⟩
      rwa [List.append_assoc] at holds

theorem finds_cons_iff : mod.Finds asked (name :: later) router ↔
    mod.Has asked name router ∨
      mod.Lacks asked name ∧ mod.Finds (asked ++ [name]) later router :=
  exists_split_cons_iff (P := fun asked name => mod.Has asked name router)

theorem breaks_cons_iff : mod.Breaks asked (name :: later) raised ↔
    mod.Fails asked name raised ∨
      mod.Lacks asked name ∧ mod.Breaks (asked ++ [name]) later raised :=
  exists_split_cons_iff (P := fun asked name => mod.Fails asked name raised)

theorem lacksAll_cons_iff : mod.LacksAll asked (name :: later) ↔
    mod.Lacks asked name ∧ mod.LacksAll (asked ++ [name]) later :=
  ⟨fun | .cons first rest => ⟨first, rest⟩, fun ⟨first, rest⟩ => .cons first rest⟩

/-- A search through names ends with a router, without one, or with what is raised. -/
theorem firstRouter_spec (mod : Module) (asked names : List String) :
    (∀ router, mod.firstRouter asked names = .ok (some router) ↔ mod.Finds asked names router) ∧
      (mod.firstRouter asked names = .ok none ↔ mod.LacksAll asked names) ∧
      ∀ raised, mod.firstRouter asked names = .error raised ↔ mod.Breaks asked names raised := by
  induction names generalizing asked with
  | nil => simp [firstRouter, Finds, Breaks, LacksAll.nil]
  | cons name later ih =>
      simp only [finds_cons_iff, breaks_cons_iff, lacksAll_cons_iff, ← ih (asked ++ [name]),
        ← routerNamed_eq_some_iff, ← routerNamed_eq_none_iff, ← routerNamed_eq_error_iff]
      rw [firstRouter]
      rcases mod.routerNamed asked name with raised | _ | router <;> simp

theorem chooses_iff : mod.Chooses router ↔ mod.Finds [] usualNames router ∨
    mod.LacksAll [] usualNames ∧
      ∃ names, mod.publicNames usualNames = .ok names ∧ mod.Finds usualNames names router := by
  constructor
  · rintro (finds | ⟨none, known, finds⟩)
    · exact .inl finds
    · exact .inr ⟨none, _, known, finds⟩
  · rintro (finds | ⟨none, names, known, finds⟩)
    · exact .usual finds
    · exact .listed none known finds

theorem stops_iff : mod.Stops raised ↔ mod.Breaks [] usualNames raised ∨
    mod.LacksAll [] usualNames ∧ (mod.publicNames usualNames = .error raised ∨
      ∃ names, mod.publicNames usualNames = .ok names ∧ mod.Breaks usualNames names raised) := by
  rw [publicNames, map_eq_error_iff]
  constructor
  · rintro (breaks | ⟨none, failed⟩ | ⟨none, known, breaks⟩)
    · exact .inl breaks
    · exact .inr ⟨none, .inl failed⟩
    · exact .inr ⟨none, .inr ⟨_, known, breaks⟩⟩
  · rintro (breaks | ⟨none, failed | ⟨names, known, breaks⟩⟩)
    · exact .usual breaks
    · exact .names none failed
    · exact .listed none known breaks

theorem findRouter_spec (mod : Module) :
    (∀ router, mod.findRouter = .ok (some router) ↔ mod.Chooses router) ∧
      ∀ raised, mod.findRouter = .error raised ↔ mod.Stops raised := by
  obtain ⟨found, none, failed⟩ := firstRouter_spec mod [] usualNames
  simp only [chooses_iff, stops_iff, ← found, ← none, ← failed, findRouter]
  rcases mod.firstRouter [] usualNames with raised | _ | router
  · simp
  · cases mod.publicNames usualNames with
    | error raised => simp
    | ok names =>
        obtain ⟨found, -, failed⟩ := firstRouter_spec mod usualNames names
        simp [found, failed]
  · simp

end Searching

/-- Whether a module always has the routers of a table, and lists their names. -/
structure IsTable (mod : Module) (table : String → Option Router) : Prop where
  has : ∀ {name router}, table name = some router → ∀ asked, mod.Has asked name router
  lacks : ∀ {name}, table name = none → ∀ asked, mod.Lacks asked name
  lists : ∀ asked, ∃ names, mod.names asked = .ok names ∧
    ∀ name router, table name = some router → name ∈ names

end Module

structure IsLeast (table : String → Option Router) (name : String) (router : Router) : Prop where
  isPublic : isPrivate name = false
  has : table name = some router
  least : ∀ other, isPrivate other = false → table other ≠ none → name ≤ other

inductive Means (table : String → Option Router) (router : Router) : Prop where
  | router (has : table "router" = some router)
  | routes (absent : table "router" = none) (has : table "routes" = some router)
  | least {name : String} (absent : table "router" = none) (neither : table "routes" = none)
      (least : IsLeast table name router)

namespace Module.IsTable

variable {mod : Module} {table : String → Option Router} {router : Router}

theorem routerNamed_eq (is : mod.IsTable table) (asked : List String) (name : String) :
    mod.routerNamed asked name = .ok (table name) := by
  cases entry : table name with
  | none => exact routerNamed_eq_none_iff.mpr (is.lacks entry asked)
  | some router => exact routerNamed_eq_some_iff.mpr (is.has entry asked)

theorem firstRouter_eq (is : mod.IsTable table) (asked names : List String) :
    mod.firstRouter asked names = .ok (names.findSome? table) := by
  induction names generalizing asked with
  | nil => rfl
  | cons name later ih =>
      rw [firstRouter, is.routerNamed_eq, List.findSome?_cons]
      cases table name with
      | none => exact ih (asked ++ [name])
      | some router => rfl

theorem exists_publicNames (is : mod.IsTable table) (asked : List String) :
    ∃ names, mod.publicNames asked = .ok names ∧ names.Pairwise (· ≤ ·) ∧
      ∀ name, table name ≠ none → (name ∈ names ↔ isPrivate name = false) := by
  obtain ⟨names, known, all⟩ := is.lists asked
  refine ⟨(names.mergeSort (· ≤ ·)).filter (!isPrivate ·), ?_, ?_, ?_⟩
  · rw [publicNames, known]
    rfl
  · apply List.Pairwise.filter
    have sorted : (names.mergeSort (· ≤ ·)).Pairwise fun a b => decide (a ≤ b) = true :=
      List.pairwise_mergeSort (fun a b c => by simpa using le_trans)
        (fun a b => by simpa using le_total a b) names
    simpa using sorted
  · intro name present
    obtain ⟨router, entry⟩ := Option.ne_none_iff_exists'.mp present
    rw [List.mem_filter, List.mem_mergeSort, Bool.not_eq_true']
    exact and_iff_right (all name router entry)

theorem isLeast_of_findSome? {names : List String} (sorted : names.Pairwise (· ≤ ·))
    (all : ∀ name, table name ≠ none → (name ∈ names ↔ isPrivate name = false))
    (found : names.findSome? table = some router) : ∃ name, IsLeast table name router := by
  obtain ⟨before, name, after, rfl, entry, none⟩ := List.findSome?_eq_some_iff.mp found
  have present : table name ≠ Option.none := by
    rw [entry]
    exact Option.some_ne_none router
  refine ⟨name, (all name present).mp (by simp), entry, fun other isPublic has => ?_⟩
  rcases List.mem_append.mp ((all other has).mpr isPublic) with early | late
  · exact absurd (none other early) has
  · rcases List.mem_cons.mp late with rfl | late
    · exact le_rfl
    · exact (List.pairwise_cons.mp (List.pairwise_append.mp sorted).2.1).1 other late

theorem findRouter_cases (is : mod.IsTable table) :
    (∃ router, Means table router ∧ mod.findRouter = .ok (some router)) ∨
      (∀ name, isPrivate name = false → table name = none) ∧ mod.findRouter = .ok none := by
  obtain ⟨names, known, sorted, all⟩ := is.exists_publicNames usualNames
  simp only [findRouter, known, is.firstRouter_eq]
  cases first : table "router" with
  | some router =>
      refine .inl ⟨router, .router first, ?_⟩
      simp [usualNames, first]
  | none =>
      cases second : table "routes" with
      | some router =>
          refine .inl ⟨router, .routes first second, ?_⟩
          simp [usualNames, first, second]
      | none =>
          have usual : usualNames.findSome? table = none := by simp [usualNames, first, second]
          rw [usual]
          cases found : names.findSome? table with
          | some router =>
              obtain ⟨name, least⟩ := isLeast_of_findSome? sorted all found
              exact .inl ⟨router, .least first second least, rfl⟩
          | none =>
              refine .inr ⟨fun name isPublic => ?_, rfl⟩
              by_contra present
              have absent := List.findSome?_eq_none_iff.mp found
              exact present (absent name ((all name present).mpr isPublic))

end Module.IsTable

theorem IsLeast.unique {table : String → Option Router} {name otherName : String}
    {router other : Router} (first : IsLeast table name router)
    (second : IsLeast table otherName other) : router = other := by
  have below := first.least otherName second.isPublic (by simp [second.has])
  have above := second.least name first.isPublic (by simp [first.has])
  obtain rfl := le_antisymm below above
  exact Option.some.inj (first.has.symm.trans second.has)

theorem Means.unique {table : String → Option Router} {router other : Router}
    (first : Means table router) (second : Means table other) : router = other := by
  cases first with
  | router has =>
      cases second with
      | router has' => exact Option.some.inj (has.symm.trans has')
      | routes absent _ | least absent _ _ => cases absent.symm.trans has
  | routes absent has =>
      cases second with
      | router has' => cases absent.symm.trans has'
      | routes _ has' => exact Option.some.inj (has.symm.trans has')
      | least _ neither _ => cases neither.symm.trans has
  | least absent neither least =>
      cases second with
      | router has' => cases absent.symm.trans has'
      | routes _ has' => cases neither.symm.trans has'
      | least _ _ least' => exact least.unique least'

theorem Means.exists_public {table : String → Option Router} {router : Router}
    (means : Means table router) : ∃ name, isPrivate name = false ∧ table name = some router := by
  cases means with
  | router has => exact ⟨"router", by decide, has⟩
  | routes _ has => exact ⟨"routes", by decide, has⟩
  | least _ _ least => exact ⟨_, least.isPublic, least.has⟩

namespace Module.IsTable

variable {mod : Module} {table : String → Option Router} {router : Router}

/-- A module with a table means the router that the table means. -/
theorem chooses_iff_means (is : mod.IsTable table) : mod.Chooses router ↔ Means table router := by
  rw [← (findRouter_spec mod).1]
  rcases is.findRouter_cases with ⟨other, means, found⟩ | ⟨none, found⟩
  · rw [found]
    constructor
    · rintro ⟨⟩
      exact means
    · intro means'
      rw [means.unique means']
  · rw [found]
    refine iff_of_false nofun fun means => ?_
    obtain ⟨name, isPublic, has⟩ := means.exists_public
    cases (none name isPublic).symm.trans has

theorem exists_means_iff (is : mod.IsTable table) : (∃ router, Means table router) ↔
    ∃ name router, isPrivate name = false ∧ table name = some router := by
  constructor
  · rintro ⟨router, means⟩
    obtain ⟨name, isPublic, has⟩ := means.exists_public
    exact ⟨name, router, isPublic, has⟩
  · rintro ⟨name, router, isPublic, has⟩
    rcases is.findRouter_cases with ⟨other, means, -⟩ | ⟨none, -⟩
    · exact ⟨other, means⟩
    · cases (none name isPublic).symm.trans has

theorem not_stops (is : mod.IsTable table) (raised : Raised) : ¬ mod.Stops raised := by
  rw [← (findRouter_spec mod).2]
  rcases is.findRouter_cases with ⟨other, -, found⟩ | ⟨-, found⟩ <;> simp [found]

end Module.IsTable

def Module.ofAttributes (attributes : Params Attribute) : Module where
  ask _ name :=
    match attributes.get? name with
    | some value => .ok value
    | none => .error ⟨.missing, "module has no attribute " ++ name, 1⟩
  names _ := .ok attributes.keys

theorem Module.isTable_ofAttributes (attributes : Params Attribute) :
    (ofAttributes attributes).IsTable fun name => (attributes.get? name).bind Attribute.router? := by
  refine ⟨?_, ?_, ?_⟩
  · intro name router entry asked
    obtain ⟨value, found, is⟩ := Option.bind_eq_some_iff.mp entry
    cases value with
    | router own => simp [Has, ofAttributes, found, Option.some.inj is]
    | other => cases is
  · intro name entry asked
    cases found : attributes.get? name with
    | none => simp [Lacks, ofAttributes, found]
    | some value =>
        cases value with
        | router own => simp [found, Attribute.router?] at entry
        | other => simp [Lacks, ofAttributes, found]
  · intro asked
    refine ⟨attributes.keys, rfl, fun name router entry => ?_⟩
    obtain ⟨value, found, -⟩ := Option.bind_eq_some_iff.mp entry
    exact (attributes.mem_keys_iff name).mpr ⟨value, found⟩

end UriRouting.Command
