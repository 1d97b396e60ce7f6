import Mathlib
import UriRouting.Command.Routes
import UriRouting.Proofs.Command.Choosing
import UriRouting.Proofs.Text.Pieces

/-! # Listing the routes of a target

A target means a router or none. If it means one, its routes are listed line by line, up to the first
failure to show a view. If it means none, nothing is listed: there is a complaint, unless something is
raised on the way that is not caught. Only an exception in the import of a module is caught, and that a
module does not have a name.

In a plain world nothing else is ever raised. There a target means a router exactly if the command ends
well, and then the lines are those of the table.
-/

namespace UriRouting.Command

namespace World

/-- Whether a target leads to the import of a module with this result, and to a name in it if the target
has a colon. The first colon is the one that counts. -/
inductive Loads (world : World) (target : String) :
    (holder? : Option String) → Except Raised Module → Prop where
  | member {name holder : String} {result : Except Raised Module}
      (whole : target = name ++ ":" ++ holder) (absent : ':' ∉ name.toList)
      (loaded : world.load world.searchPath name = result) : Loads world target (some holder) result
  | file {directory : String} {result : Except Raised Module} (absent : ':' ∉ target.toList)
      (there : world.isThere target = .ok true) (placed : world.directory target = .ok directory)
      (loaded : world.load (world.searchPathWith directory) (stem target) = result) :
      Loads world target none result

inductive Finds (world : World) (target : String) (router : Router) : Prop where
  | member {holder : String} {mod : Module} (loads : world.Loads target (some holder) (.ok mod))
      (has : mod.Has [] holder router)
  | file {mod : Module} (loads : world.Loads target none (.ok mod)) (chooses : mod.Chooses router)

/-- What is raised on the way to the router of a target and not caught. -/
inductive Stops (world : World) (target : String) (raised : Raised) : Prop where
  | departs {holder? : Option String} (loads : world.Loads target holder? (.error raised))
      (departs : raised.kind = .departure)
  | member {holder : String} {mod : Module} (loads : world.Loads target (some holder) (.ok mod))
      (fails : mod.Fails [] holder raised)
  | file {mod : Module} (loads : world.Loads target none (.ok mod)) (stops : mod.Stops raised)
  | isThere (absent : ':' ∉ target.toList) (failed : world.isThere target = .error raised)
  | directory (absent : ':' ∉ target.toList) (there : world.isThere target = .ok true)
      (failed : world.directory target = .error raised)

inductive ComesTo (world : World) (target : String) : Except Ending Router → Prop where
  | finds {router : Router} (finds : world.Finds target router) : ComesTo world target (.ok router)
  | stops {raised : Raised} (stops : world.Stops target raised) :
      ComesTo world target (.error (.escape "" raised))
  | complains (rest : String) : ComesTo world target (.error (world.complain ("Error" ++ rest)))

def Writes (world : World) (mounts : List Mount) (lines : List String) : Prop :=
  List.Forall₂ (fun mount line => world.row mount = .ok line) mounts lines

/-- Whether an ending is that of listing the routes of a router. What has been written stays if
something is raised. -/
structure Lists (world : World) (router : Router) (ending : Ending) : Prop where
  whole : ∀ lines, world.Writes router.mounts lines → ending = ⟨0, String.join lines, "", none⟩
  part : ∀ before mount after lines raised, router.mounts = before ++ mount :: after →
    world.Writes before lines → world.row mount = .error raised →
      ending = .escape (String.join lines) raised

/-- A world in which modules are tables, and nothing is raised but what the search for a router
catches. -/
structure IsPlain (world : World) : Prop where
  load : ∀ searchPath name,
    (∃ mod table, world.load searchPath name = .ok mod ∧ mod.IsTable table) ∨
      ∃ raised, world.load searchPath name = .error raised ∧ raised.kind ≠ .departure
  isThere : ∀ path, ∃ there, world.isThere path = .ok there
  directory : ∀ path, ∃ directory, world.directory path = .ok directory
  label : ∀ view, world.label view = .ok view.label
  echo : ∀ channel line, world.echo channel line = .ok (line ++ "\n")

variable {world : World} {target : String} {router : Router} {raised : Raised}

/-! What a target comes to -/

theorem cut_of_colon {name holder : String} (whole : target = name ++ ":" ++ holder)
    (absent : ':' ∉ name.toList) :
    Text.cut ':' target.toList = (name.toList, some holder.toList) := by
  rw [whole, String.toList_append, String.toList_append, List.append_assoc]
  exact Text.cut_append absent holder.toList

theorem importModule_of_ok {searchPath : List String} {name : String} {mod : Module}
    (loaded : world.load searchPath name = .ok mod) :
    world.importModule searchPath name = .ok mod := by
  rw [importModule, loaded]

theorem importModule_of_departure {searchPath : List String} {name : String}
    (failed : world.load searchPath name = .error raised) (departs : raised.kind = .departure) :
    world.importModule searchPath name = .error (.escape "" raised) := by
  simp only [importModule, failed, departs, if_true]

theorem importModule_of_exception {searchPath : List String} {name : String}
    (failed : world.load searchPath name = .error raised) (catches : raised.kind ≠ .departure) :
    ∃ rest, world.importModule searchPath name = .error (world.complain ("Error" ++ rest)) := by
  refine ⟨" importing " ++ Text.quoted name ++ ": " ++ raised.text, ?_⟩
  simp only [importModule, failed, catches, if_false, ← String.append_assoc]
  rfl

theorem resolveTarget_of_colon {name holder : String} (whole : target = name ++ ":" ++ holder)
    (absent : ':' ∉ name.toList) :
    world.resolveTarget target = world.resolveAttribute target name holder := by
  rw [resolveTarget, cut_of_colon whole absent]
  dsimp only
  rw [String.ofList_toList, String.ofList_toList]

theorem resolveTarget_of_not_mem (absent : ':' ∉ target.toList) :
    world.resolveTarget target = world.resolveFile target := by
  rw [resolveTarget, Text.cut_of_not_mem absent]

theorem Loads.resolveTarget_of_member {holder : String} {mod : Module}
    (loads : world.Loads target (some holder) (.ok mod)) :
    ∃ rest, world.resolveTarget target =
      world.settle ("Error" ++ rest) (mod.routerNamed [] holder) := by
  cases loads with
  | member whole absent loaded =>
      refine ⟨": " ++ Text.quoted target ++ " is not a Router instance.", ?_⟩
      simp only [resolveTarget_of_colon whole absent, resolveAttribute, importModule_of_ok loaded,
        ← String.append_assoc]
      rfl

theorem Loads.resolveTarget_of_file {mod : Module} (loads : world.Loads target none (.ok mod)) :
    ∃ rest, world.resolveTarget target = world.settle ("Error" ++ rest) mod.findRouter := by
  cases loads with
  | file absent there placed loaded =>
      refine ⟨": no Router instance found in " ++ Text.quoted target ++
        ". Provide an explicit target, e.g. routes:router", ?_⟩
      simp only [resolveTarget_of_not_mem absent, resolveFile, there, placed,
        importModule_of_ok loaded, ← String.append_assoc]
      rfl

theorem Loads.resolveTarget_of_departure {holder? : Option String}
    (loads : world.Loads target holder? (.error raised)) (departs : raised.kind = .departure) :
    world.resolveTarget target = .error (.escape "" raised) := by
  cases loads with
  | member whole absent failed =>
      simp only [resolveTarget_of_colon whole absent, resolveAttribute,
        importModule_of_departure failed departs]
  | file absent there placed failed =>
      simp only [resolveTarget_of_not_mem absent, resolveFile, there, placed,
        importModule_of_departure failed departs]

theorem Loads.resolveTarget_of_exception {holder? : Option String}
    (loads : world.Loads target holder? (.error raised)) (catches : raised.kind ≠ .departure) :
    ∃ rest, world.resolveTarget target = .error (world.complain ("Error" ++ rest)) := by
  cases loads with
  | member whole absent failed =>
      obtain ⟨rest, complains⟩ := importModule_of_exception failed catches
      exact ⟨rest, by
        simp only [resolveTarget_of_colon whole absent, resolveAttribute, complains]⟩
  | file absent there placed failed =>
      obtain ⟨rest, complains⟩ := importModule_of_exception failed catches
      exact ⟨rest, by
        simp only [resolveTarget_of_not_mem absent, resolveFile, there, placed, complains]⟩

theorem Finds.resolveTarget_eq (finds : world.Finds target router) :
    world.resolveTarget target = .ok router := by
  cases finds with
  | member loads has =>
      obtain ⟨rest, resolved⟩ := loads.resolveTarget_of_member
      rw [resolved, Module.routerNamed_eq_some_iff.mpr has]
      rfl
  | file loads chooses =>
      obtain ⟨rest, resolved⟩ := loads.resolveTarget_of_file
      rw [resolved, ((Module.findRouter_spec _).1 _).mpr chooses]
      rfl

theorem Stops.resolveTarget_eq (stops : world.Stops target raised) :
    world.resolveTarget target = .error (.escape "" raised) := by
  cases stops with
  | departs loads departs => exact loads.resolveTarget_of_departure departs
  | member loads fails =>
      obtain ⟨rest, resolved⟩ := loads.resolveTarget_of_member
      rw [resolved, Module.routerNamed_eq_error_iff.mpr fails]
      rfl
  | file loads stops =>
      obtain ⟨rest, resolved⟩ := loads.resolveTarget_of_file
      rw [resolved, ((Module.findRouter_spec _).2 _).mpr stops]
      rfl
  | isThere absent failed => simp only [resolveTarget_of_not_mem absent, resolveFile, failed]
  | directory absent there failed =>
      simp only [resolveTarget_of_not_mem absent, resolveFile, there, failed]

theorem Loads.comesTo {holder? : Option String} {result : Except Raised Module}
    (loads : world.Loads target holder? result) :
    world.ComesTo target (world.resolveTarget target) := by
  cases result with
  | error raised =>
      by_cases departs : raised.kind = .departure
      · rw [loads.resolveTarget_of_departure departs]
        exact .stops (.departs loads departs)
      · obtain ⟨rest, resolved⟩ := loads.resolveTarget_of_exception departs
        rw [resolved]
        exact .complains rest
  | ok mod =>
      cases holder? with
      | some holder =>
          obtain ⟨rest, resolved⟩ := loads.resolveTarget_of_member
          rw [resolved]
          rcases search : mod.routerNamed [] holder with raised | _ | router
          · exact .stops (.member loads (Module.routerNamed_eq_error_iff.mp search))
          · exact .complains rest
          · exact .finds (.member loads (Module.routerNamed_eq_some_iff.mp search))
      | none =>
          obtain ⟨rest, resolved⟩ := loads.resolveTarget_of_file
          obtain ⟨found, failed⟩ := Module.findRouter_spec mod
          rw [resolved]
          rcases search : mod.findRouter with raised | _ | router
          · exact .stops (.file loads ((failed raised).mp search))
          · exact .complains rest
          · exact .finds (.file loads ((found router).mp search))

theorem comesTo_resolveTarget (world : World) (target : String) :
    world.ComesTo target (world.resolveTarget target) := by
  cases cut : Text.cut ':' target.toList with
  | mk name holder? =>
  have absent := Text.not_mem_cut_fst ':' target.toList
  rw [cut] at absent
  cases holder? with
  | some holder =>
      have whole : target = String.ofList name ++ ":" ++ String.ofList holder := by
        rw [← String.toList_inj]
        simpa using Text.eq_of_cut_some cut
      exact (Loads.member whole (by rwa [String.toList_ofList]) rfl).comesTo
  | none =>
      rw [← Text.eq_of_cut_none cut] at absent
      cases there : world.isThere target with
      | error raised =>
          rw [(Stops.isThere absent there).resolveTarget_eq]
          exact .stops (.isThere absent there)
      | ok exists? =>
          cases exists? with
          | false =>
              have missing : world.resolveTarget target = .error (world.complain
                  ("Error" ++ (": file " ++ Text.quoted target ++ " not found."))) := by
                simp only [resolveTarget_of_not_mem absent, resolveFile, there,
                  ← String.append_assoc]
                rfl
              rw [missing]
              exact .complains _
          | true =>
              cases placed : world.directory target with
              | error raised =>
                  rw [(Stops.directory absent there placed).resolveTarget_eq]
                  exact .stops (.directory absent there placed)
              | ok directory => exact (Loads.file absent there placed rfl).comesTo

/-! What is written -/

theorem rows_of_writes {mounts : List Mount} {lines : List String}
    (writes : world.Writes mounts lines) : world.rows mounts = (String.join lines, none) := by
  induction writes with
  | nil => rfl
  | cons first _ ih => simp only [rows, first, ih, String.join_cons]

theorem rows_of_failure {before after : List Mount} {mount : Mount} {lines : List String}
    (writes : world.Writes before lines) (failed : world.row mount = .error raised) :
    world.rows (before ++ mount :: after) = (String.join lines, some raised) := by
  induction writes with
  | nil => simp only [List.nil_append, rows, failed, String.join_nil]
  | cons first _ ih => simp only [List.cons_append, rows, first, ih, String.join_cons]

theorem Finds.lists (finds : world.Finds target router) :
    world.Lists router (world.routes target) := by
  constructor
  · intro lines writes
    simp only [routes, finds.resolveTarget_eq, rows_of_writes writes]
  · intro before mount after lines raised split writes failed
    simp only [routes, finds.resolveTarget_eq, split, rows_of_failure writes failed]

theorem Stops.routes_eq (stops : world.Stops target raised) :
    world.routes target = .escape "" raised := by
  simp only [routes, stops.resolveTarget_eq]

/-- A target that does not mean a router leads to a complaint if nothing is raised. -/
theorem exists_complain (none : ∀ router, ¬ world.Finds target router)
    (quiet : ∀ raised, ¬ world.Stops target raised) :
    ∃ rest, world.routes target = world.complain ("Error" ++ rest) := by
  have comesTo := world.comesTo_resolveTarget target
  unfold routes
  generalize world.resolveTarget target = result at comesTo ⊢
  cases comesTo with
  | finds finds => exact absurd finds (none _)
  | stops stops => exact absurd stops (quiet _)
  | complains rest => exact ⟨rest, rfl⟩

/-! Plain worlds -/

theorem Loads.exists_load {holder? : Option String} {result : Except Raised Module}
    (loads : world.Loads target holder? result) :
    ∃ searchPath name, world.load searchPath name = result := by
  cases loads with
  | member _ _ loaded | file _ _ _ loaded => exact ⟨_, _, loaded⟩

theorem IsPlain.isTable_of_loads (plain : world.IsPlain) {holder? : Option String} {mod : Module}
    (loads : world.Loads target holder? (.ok mod)) : ∃ table, mod.IsTable table := by
  obtain ⟨searchPath, name, loaded⟩ := loads.exists_load
  rcases plain.load searchPath name with ⟨other, table, known, is⟩ | ⟨raised, failed, -⟩
  · obtain rfl := Except.ok.inj (known.symm.trans loaded)
    exact ⟨table, is⟩
  · cases failed.symm.trans loaded

theorem IsPlain.not_stops (plain : world.IsPlain) (raised : Raised) :
    ¬ world.Stops target raised := by
  intro stops
  cases stops with
  | departs loads departs =>
      obtain ⟨searchPath, name, loaded⟩ := loads.exists_load
      rcases plain.load searchPath name with ⟨mod, table, known, -⟩ | ⟨other, failed, catches⟩
      · cases known.symm.trans loaded
      · obtain rfl := Except.error.inj (failed.symm.trans loaded)
        exact catches departs
  | member loads fails =>
      obtain ⟨table, is⟩ := plain.isTable_of_loads loads
      cases (is.routerNamed_eq _ _).symm.trans (Module.routerNamed_eq_error_iff.mpr fails)
  | file loads stops =>
      obtain ⟨table, is⟩ := plain.isTable_of_loads loads
      exact is.not_stops raised stops
  | isThere absent failed =>
      obtain ⟨there, known⟩ := plain.isThere target
      cases known.symm.trans failed
  | directory absent there failed =>
      obtain ⟨directory, known⟩ := plain.directory target
      cases known.symm.trans failed

def listings (router : Router) : String :=
  String.join (router.mounts.map fun mount => listing mount mount.view.label ++ "\n")

theorem IsPlain.writes (plain : world.IsPlain) (mounts : List Mount) :
    world.Writes mounts (mounts.map fun mount => listing mount mount.view.label ++ "\n") := by
  rw [Writes, List.forall₂_map_right_iff, List.forall₂_same]
  intro mount _
  simp only [row, plain.label, plain.echo]

theorem IsPlain.complain_eq (plain : world.IsPlain) (line : String) :
    world.complain line = ⟨1, "", line ++ "\n", none⟩ := by
  rw [complain, plain.echo]

theorem IsPlain.routes_of_finds (plain : world.IsPlain) (finds : world.Finds target router) :
    world.routes target = ⟨0, listings router, "", none⟩ :=
  finds.lists.whole _ (plain.writes router.mounts)

theorem IsPlain.routes_cases (plain : world.IsPlain) (target : String) :
    (∃ router, world.Finds target router ∧ (world.routes target).exitCode = 0) ∨
      (¬ ∃ router, world.Finds target router) ∧
        ∃ rest, world.routes target = ⟨1, "", "Error" ++ rest ++ "\n", none⟩ := by
  by_cases found : ∃ router, world.Finds target router
  · obtain ⟨router, finds⟩ := found
    refine .inl ⟨router, finds, ?_⟩
    rw [plain.routes_of_finds finds]
  · obtain ⟨rest, complains⟩ := exists_complain (not_exists.mp found) plain.not_stops
    exact .inr ⟨found, rest, complains.trans (plain.complain_eq _)⟩

theorem IsPlain.exitCode_eq_zero_iff (plain : world.IsPlain) (target : String) :
    (world.routes target).exitCode = 0 ↔ ∃ router, world.Finds target router := by
  rcases plain.routes_cases target with ⟨router, finds, zero⟩ | ⟨none, rest, complains⟩
  · exact iff_of_true zero ⟨router, finds⟩
  · refine iff_of_false ?_ none
    rw [complains]
    exact Nat.one_ne_zero

theorem Loads.not_mem {result : Except Raised Module} (loads : world.Loads target none result) :
    ':' ∉ target.toList := by
  cases loads
  assumption

theorem finds_of_colon_iff {name holder : String} (whole : target = name ++ ":" ++ holder)
    (absent : ':' ∉ name.toList) : world.Finds target router ↔
      ∃ mod, world.load world.searchPath name = .ok mod ∧ mod.Has [] holder router := by
  constructor
  · intro finds
    cases finds with
    | member loads has =>
        cases loads with
        | member whole' absent' loaded =>
            have same := (cut_of_colon whole' absent').symm.trans (cut_of_colon whole absent)
            rw [Prod.mk.injEq, Option.some.injEq, String.toList_inj, String.toList_inj] at same
            obtain ⟨rfl, rfl⟩ := same
            exact ⟨_, loaded, has⟩
    | file loads => exact absurd (by simp [whole]) loads.not_mem
  · rintro ⟨mod, loaded, has⟩
    exact .member (.member whole absent loaded) has

theorem finds_of_not_mem_iff (absent : ':' ∉ target.toList) : world.Finds target router ↔
    ∃ mod, world.Loads target none (.ok mod) ∧ mod.Chooses router := by
  constructor
  · intro finds
    cases finds with
    | member loads =>
        cases loads with
        | member whole => exact absurd (by simp [whole]) absent
    | file loads chooses => exact ⟨_, loads, chooses⟩
  · rintro ⟨mod, loads, chooses⟩
    exact .file loads chooses

theorem Loads.unique {holder? : Option String} {result other : Except Raised Module}
    (first : world.Loads target holder? result) (second : world.Loads target holder? other) :
    result = other := by
  cases first with
  | member whole absent loaded =>
      cases second with
      | member whole' absent' loaded' =>
          have same := (cut_of_colon whole' absent').symm.trans (cut_of_colon whole absent)
          rw [Prod.mk.injEq, String.toList_inj] at same
          rw [← loaded, ← loaded', same.1]
  | file _ _ placed loaded =>
      cases second with
      | file _ _ placed' loaded' =>
          obtain rfl := Except.ok.inj (placed.symm.trans placed')
          rw [← loaded, ← loaded']

/-- The router of a file whose module is a table is the one that the table means. -/
theorem Loads.finds_iff_means {mod : Module} {table : String → Option Router}
    (loads : world.Loads target none (.ok mod)) (is : mod.IsTable table) :
    world.Finds target router ↔ Means table router := by
  rw [finds_of_not_mem_iff loads.not_mem, ← is.chooses_iff_means]
  constructor
  · rintro ⟨other, also, chooses⟩
    obtain rfl := Except.ok.inj (loads.unique also)
    exact chooses
  · intro chooses
    exact ⟨mod, loads, chooses⟩

theorem IsPlain.exists_finds_iff (plain : world.IsPlain) (absent : ':' ∉ target.toList) :
    (∃ router, world.Finds target router) ↔ ∃ mod table, world.Loads target none (.ok mod) ∧
      mod.IsTable table ∧ ∃ name router, isPrivate name = false ∧ table name = some router := by
  constructor
  · rintro ⟨router, finds⟩
    obtain ⟨mod, loads, -⟩ := (finds_of_not_mem_iff absent).mp finds
    obtain ⟨table, is⟩ := plain.isTable_of_loads loads
    refine ⟨mod, table, loads, is, is.exists_means_iff.mp ⟨router, ?_⟩⟩
    exact (loads.finds_iff_means is).mp finds
  · rintro ⟨mod, table, loads, is, named⟩
    obtain ⟨router, means⟩ := is.exists_means_iff.mpr named
    exact ⟨router, (loads.finds_iff_means is).mpr means⟩

/-- A target that means a router has its routes listed, as far as they can be shown. One that means none
leads to what is raised on the way, or to a complaint. A module that is a table means the router under the
first of the usual names, or else under the least public one. In a plain world the command ends well exactly
if there is a router, and otherwise it complains and lists nothing. -/
theorem routes_lists_or_fails (world : World) (target : String) :
    (∀ router, world.Finds target router → world.Lists router (world.routes target)) ∧
    (∀ raised, world.Stops target raised → world.routes target = .escape "" raised) ∧
    ((∀ router, ¬ world.Finds target router) → (∀ raised, ¬ world.Stops target raised) →
      ∃ rest, world.routes target = world.complain ("Error" ++ rest)) ∧
    (∀ mod table, world.Loads target none (.ok mod) → mod.IsTable table →
      ∀ router, world.Finds target router ↔ Means table router) ∧
    (world.IsPlain →
      (∀ name holder, target = name ++ ":" ++ holder → ':' ∉ name.toList →
        ((world.routes target).exitCode = 0 ↔ ∃ router mod,
          world.load world.searchPath name = .ok mod ∧ mod.Has [] holder router)) ∧
      (':' ∉ target.toList →
        ((world.routes target).exitCode = 0 ↔ ∃ mod table, world.Loads target none (.ok mod) ∧
          mod.IsTable table ∧ ∃ name router, isPrivate name = false ∧ table name = some router)) ∧
      (∀ router, world.Finds target router →
        world.routes target = ⟨0, listings router, "", none⟩) ∧
      ((world.routes target).exitCode ≠ 0 →
        ∃ rest, world.routes target = ⟨1, "", "Error" ++ rest ++ "\n", none⟩)) := by
  refine ⟨fun _ => Finds.lists, fun _ => Stops.routes_eq, exists_complain,
    fun _ _ loads is _ => loads.finds_iff_means is, fun plain => ⟨?_, ?_, ?_, ?_⟩⟩
  · intro name holder whole absent
    rw [plain.exitCode_eq_zero_iff]
    simp only [finds_of_colon_iff whole absent]
  · intro absent
    rw [plain.exitCode_eq_zero_iff, plain.exists_finds_iff absent]
  · intro router finds
    exact plain.routes_of_finds finds
  · intro failed
    rcases plain.routes_cases target with ⟨router, finds, zero⟩ | ⟨-, complains⟩
    · exact absurd zero failed
    · exact complains

def home : View :=
  .plain (.function "home" ⟨[], by decide, by decide⟩ .empty .empty)

def ofModule (mod : Module) : World where
  isThere path := .ok (path = "app.py")
  directory _ := .ok "/"
  searchPath := []
  load _ name :=
    if name = "app" then .ok mod else .error ⟨.exception, "No module named " ++ Text.quoted name, 1⟩
  label view := .ok view.label
  echo _ line := .ok (line ++ "\n")

theorem loads_ofModule (mod : Module) : (ofModule mod).Loads "app.py" none (.ok mod) :=
  .file (by decide) rfl rfl rfl

/-- A module with two routers. The name `b` is the lesser one. -/
def twofold : Params Attribute :=
  .ofList [("z", .router ⟨false, [⟨⟨1, .fixed, "/z"⟩, home⟩], none⟩), ("routes", .other),
    ("b", .router ⟨false, [⟨⟨1, .fixed, "/{id}"⟩, home⟩, ⟨⟨2, .fixed, ""⟩, home⟩], none⟩)]

theorem isPlain_twofold : (ofModule (.ofAttributes twofold)).IsPlain where
  load searchPath name := by
    by_cases known : name = "app"
    · exact .inl ⟨_, _, if_pos known, Module.isTable_ofAttributes twofold⟩
    · exact .inr ⟨_, if_neg known, by simp⟩
  isThere path := ⟨_, rfl⟩
  directory path := ⟨_, rfl⟩
  label view := rfl
  echo channel line := rfl

theorem routes_lists_or_fails_twofold :
    (ofModule (.ofAttributes twofold)).routes "app.py" =
      ⟨0, "/{id}\t1\thome\n(empty)\t0\thome\n", "", none⟩ := by
  obtain ⟨-, -, -, tables, plainly⟩ :=
    routes_lists_or_fails (ofModule (.ofAttributes twofold)) "app.py"
  have isLeast : IsLeast (fun name => (twofold.get? name).bind Attribute.router?) "b"
      ⟨false, [⟨⟨1, .fixed, "/{id}"⟩, home⟩, ⟨⟨2, .fixed, ""⟩, home⟩], none⟩ := by
    refine ⟨by decide, rfl, fun name isPublic has => ?_⟩
    obtain ⟨router, entry⟩ := Option.ne_none_iff_exists'.mp has
    obtain ⟨value, found, is⟩ := Option.bind_eq_some_iff.mp entry
    rw [Params.get?_eq_some_iff, twofold, Params.entries_ofList (by decide)] at found
    simp only [List.mem_cons, Prod.mk.injEq, List.not_mem_nil, or_false] at found
    rcases found with ⟨rfl, -⟩ | ⟨rfl, rfl⟩ | ⟨rfl, -⟩
    · decide
    · cases is
    · exact le_rfl
  have means := (tables _ _ (loads_ofModule _) (Module.isTable_ofAttributes twofold) _).mpr
    (.least rfl rfl isLeast)
  rw [(plainly isPlain_twofold).2.2.1 _ means]
  decide

/-- A module with a router under a public name, and a hook for the names that it does not have, which
cannot be called. The pattern of a route changes the colour of the screen. -/
def hooked : Module where
  ask _ name :=
    if name = "api" then .ok (.router ⟨false, [⟨⟨1, .fixed, "/\x1b[1mx"⟩, home⟩], none⟩)
    else if name = "__getattr__" then .ok .other
    else .error ⟨.exception, "'int' object is not callable", 1⟩
  names _ := .ok ["__getattr__", "api"]

/-- A world in which what is written does not change the colour of the screen. -/
def colourless : World :=
  { ofModule hooked with
    echo _ line :=
      .ok (String.ofList (Text.replace ['\x1b', '[', '1', 'm'] [] line.toList) ++ "\n") }

/-- The file is there, its module is imported and has a router under a public name, and yet the command
fails. Of the same router, given by its name, the command lists a route that it does not have. -/
theorem routes_hooked :
    (colourless.isThere "app.py" = .ok true ∧ colourless.Loads "app.py" none (.ok hooked) ∧
      (∃ name router, isPrivate name = false ∧ ∀ asked, hooked.Has asked name router) ∧
      (colourless.routes "app.py").exitCode ≠ 0) ∧
    ∃ router, colourless.load colourless.searchPath "app" = .ok hooked ∧
      hooked.Has [] "api" router ∧ (colourless.routes "app:api").exitCode = 0 ∧
      (colourless.routes "app:api").output ≠ listings router := by
  refine ⟨⟨rfl, .file (by decide) rfl rfl rfl, ⟨"api", _, by decide, fun _ => rfl⟩, by decide⟩,
    _, rfl, rfl, by decide, by decide⟩

end World

end UriRouting.Command
