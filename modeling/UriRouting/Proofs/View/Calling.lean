import Mathlib
import UriRouting.View.Call
import UriRouting.Proofs.View.Binding

/-! # Which calls fit

Values fit parameters unless one of four things goes wrong, and these are seen in the number of
values by position and in the names of the others. So a view can be such that no call fits that gives
it a value under each name of its signature. For a view that tells what it calls there are three ways
to be so: a name that was bound is that of a parameter which has its value by position, and the
signature tells nothing of it because there is a parameter that collects; a parameter is left that
takes positions only; or one is left that gathers them.
-/

namespace UriRouting

section Mapping

variable {α β : Type} {f : α → Option β} {items : List α}

theorem mapM_eq_some_iff {results : List β} :
    items.mapM f = some results ↔
      List.Forall₂ (fun item result => f item = some result) items results := by
  induction items generalizing results with
  | nil =>
      simp only [List.mapM_nil, List.forall₂_nil_left_iff]
      exact ⟨fun h => (Option.some.inj h).symm, fun h => h ▸ rfl⟩
  | cons item later ih =>
      rw [List.mapM_cons]
      cases first : f item with
      | none => simp [List.forall₂_cons_left_iff, first]
      | some result =>
          cases rest : later.mapM f with
          | none => simp [List.forall₂_cons_left_iff, first, ← ih, rest]
          | some others => simp [List.forall₂_cons_left_iff, first, ← ih, rest, eq_comm]

theorem mapM_eq_none_iff : items.mapM f = none ↔ ∃ item ∈ items, f item = none := by
  induction items with
  | nil => simp
  | cons item later ih =>
      simp only [List.mapM_cons, List.mem_cons, exists_eq_or_imp, ← ih]
      cases f item with
      | none => simp
      | some result => cases later.mapM f <;> simp

end Mapping

theorem Parameter.held?_eq_none_iff {parameter : Parameter} {extra : List Value}
    {collected keywords : Params Value} :
    parameter.held? extra collected keywords = none ↔
      parameter.gathers = false ∧ parameter.collects = false ∧ parameter.default? = none ∧
        (parameter.takesName = true → parameter.name ∉ keywords.keys) := by
  obtain ⟨name, kind, value⟩ := parameter
  have absent : name ∉ keywords.keys ↔ keywords.get? name = none := lookup_eq_none_iff.symm
  cases kind <;> simp [held?, gathers, collects, takesName, absent, and_comm]

namespace Signature

variable {signature : Signature}

theorem takes_of_mem {parameter : Parameter} (member : parameter ∈ signature.parameters) :
    signature.takes parameter.name = parameter.takesName := by
  rw [Bool.eq_iff_iff, takes, List.any_eq_true]
  constructor
  · rintro ⟨other, inside, takes⟩
    obtain ⟨takes, same⟩ := Bool.and_eq_true_iff.mp takes
    rwa [← List.inj_on_of_nodup_map signature.distinct inside member (eq_of_beq same)]
  · intro takes
    exact ⟨parameter, member, by simp [takes]⟩

/-- The ways in which values do not fit parameters, when so many are given by position and the others
under names. -/
inductive Misfits (signature : Signature) (count : Nat) (named : String → Prop) : Prop
  | crowded (more : (leading signature.parameters).length < count)
      (none : ∀ parameter ∈ signature.parameters, parameter.gathers = false)
  | twice (parameter : Parameter) (member : parameter ∈ filled count signature.parameters)
      (takes : parameter.takesName = true) (given : named parameter.name)
  | missing (parameter : Parameter) (member : parameter ∈ unfilled count signature.parameters)
      (own : parameter.gathers = false ∧ parameter.collects = false)
      (needed : parameter.default? = none) (absent : parameter.takesName = true → ¬ named parameter.name)
  | unclaimed (name : String) (given : named name) (untaken : signature.takes name = false)
      (none : ∀ parameter ∈ signature.parameters, parameter.collects = false)

theorem Misfits.congr {count : Nat} {named others : String → Prop}
    (same : ∀ name, others name ↔ named name) :
    signature.Misfits count others ↔ signature.Misfits count named := by
  rw [show others = named from funext fun name => propext (same name)]

theorem fill?_eq_none_iff {positional : List Value} {keywords : Params Value} :
    signature.fill? positional keywords = none ↔
      signature.Misfits positional.length (· ∈ keywords.keys) := by
  have present : ∀ name, keywords.contains name = true ↔ name ∈ keywords.keys := by
    intro name
    rw [Params.contains, Option.isSome_iff_exists, Params.mem_keys_iff]
  have unclaimed : (signature.unclaimed keywords).isEmpty = true ↔
      ∀ name ∈ keywords.keys, signature.takes name = true := by
    simp [Signature.unclaimed, Params.isEmpty_filterKeys_iff]
  simp only [fill?]
  split
  · rename_i fits
    simp only [Bool.and_eq_true, Bool.or_eq_true, List.isEmpty_iff, List.drop_eq_nil_iff,
      List.any_eq_true, unclaimed, List.all_eq_true, Bool.not_eq_true', Bool.and_eq_false_iff] at fits
    obtain ⟨⟨room, claimed⟩, once⟩ := fits
    rw [Option.map_eq_none_iff, mapM_eq_none_iff]
    simp only [Option.map_eq_none_iff, Parameter.held?_eq_none_iff]
    constructor
    · rintro ⟨parameter, member, single, own, needed, absent⟩
      exact .missing parameter member ⟨single, own⟩ needed absent
    · intro misfits
      cases misfits with
      | crowded more none =>
          rcases room with enough | ⟨parameter, member, gathers⟩
          · omega
          · simp [none parameter member] at gathers
      | twice parameter member takes given =>
          rcases once parameter member with other | absent
          · simp [takes] at other
          · simp [(present _).mpr given] at absent
      | missing parameter member own needed absent =>
          exact ⟨parameter, member, own.1, own.2, needed, absent⟩
      | unclaimed name given untaken none =>
          rcases claimed with all | ⟨parameter, member, collects⟩
          · simp [all name given] at untaken
          · simp [none parameter member] at collects
  · rename_i fails
    refine iff_of_true rfl ?_
    simp only [Bool.and_eq_true, Bool.or_eq_true, List.isEmpty_iff, List.drop_eq_nil_iff,
      List.any_eq_true, unclaimed, List.all_eq_true, Bool.not_eq_true', Bool.and_eq_false_iff,
      not_and_or, not_or, not_exists, not_forall, Bool.not_eq_true, exists_prop,
      Bool.not_eq_false] at fails
    rcases fails with (⟨more, none⟩ | ⟨⟨name, given, untaken⟩, none⟩) |
      ⟨parameter, member, takes, given⟩
    · exact .crowded (by omega) fun parameter member =>
        (none parameter).resolve_left (not_not_intro member)
    · exact .unclaimed name given untaken fun parameter member =>
        (none parameter).resolve_left (not_not_intro member)
    · exact .twice parameter member takes ((present _).mp given)

end Signature

namespace View

/-- Whether a body cannot be called with what a view has bound and with values under these names. -/
def Misfits (view : View) (body : Body) (named : String → Prop) : Prop :=
  body.signature.Misfits (body.receiver ++ view.arguments).length fun name =>
    named name ∨ name ∈ view.keywords.keys ∨ name ∈ body.preset.keys

theorem mem_keys_named (view : View) (body : Body) (given : Params Value) (name : String) :
    name ∈ (view.named body given).keys ↔
      name ∈ given.keys ∨ name ∈ view.keywords.keys ∨ name ∈ body.preset.keys := by
  have bound : ((body.preset.overlay view.keywords).map Value.scalar).keys =
      (body.preset.overlay view.keywords).keys := by
    simp [Params.keys, Params.map]
  rw [named, Params.mem_keys_overlay, bound, Params.mem_keys_overlay]
  tauto

/-- Whether no call of a view fits that gives it a value under each name of its signature. -/
def IsUncallable (view : View) : Prop :=
  ∃ left, view.signature = .ok left ∧
    ∃ body ∈ view.callee.bodies, view.Misfits body (· ∈ left.map Parameter.name)

theorem call_eq_misfit_iff {view : View} {given : Params Value} :
    view.call given = .error .misfit ↔
      ∃ body ∈ view.callee.bodies, view.Misfits body (· ∈ given.keys) := by
  have fails : ∀ body : Body,
      body.signature.fill? (view.positional body) (view.named body given) = none ↔
        view.Misfits body (· ∈ given.keys) := by
    intro body
    rw [Signature.fill?_eq_none_iff, positional, List.length_map]
    exact Signature.Misfits.congr (view.mem_keys_named body given)
  simp only [← fails]
  rw [← mapM_eq_none_iff, View.call]
  split <;> rename_i filled <;> simp [filled]

/-- A call under all names of the signature fails for its arguments exactly if that can be seen in
the view. -/
theorem call_eq_misfit_iff_isUncallable {view : View} {left : List Parameter}
    (known : view.signature = .ok left) {given : Params Value}
    (names : ∀ name, name ∈ given.keys ↔ name ∈ left.map Parameter.name) :
    view.call given = .error .misfit ↔ view.IsUncallable := by
  simp only [call_eq_misfit_iff, IsUncallable, known, Except.ok.injEq, exists_eq_left', names]

end View

/-- Whether a callee tells the parameters of a body, but for those that take the receiver. -/
structure Callee.Tells (callee : Callee) (body : Body) : Prop where
  bare : body.preset = .empty
  told : ∃ signature, callee.told = .tells signature ∧
    Leaves body.receiver.length [] body.signature.parameters signature.parameters

theorem Callee.Tells.leaves {view : View} {body : Body} {left : List Parameter}
    (tells : view.callee.Tells body) (known : view.signature = .ok left) :
    Leaves (body.receiver ++ view.arguments).length view.keywords.keys body.signature.parameters
      left := by
  obtain ⟨signature, told, receives⟩ := tells.told
  obtain ⟨other, same, leaves⟩ := leaves_of_signature known
  obtain rfl := Disclosure.tells.inj (same.symm.trans told)
  rw [List.length_append]
  exact receives.trans leaves

namespace Leaves

variable {count : Nat} {names : List String} {signature : Signature} {left : List Parameter}

theorem mem_parameters (leaves : Leaves count names signature.parameters left) {kept : Parameter}
    (member : kept ∈ left) :
    ∃ parameter ∈ signature.parameters, kept.IsLeftOf parameter := by
  obtain ⟨parameter, inside, same⟩ := leaves.exists_original member
  exact ⟨parameter, mem_of_mem_unfilled inside, same⟩

theorem takes_of_mem (leaves : Leaves count names signature.parameters left) {kept : Parameter}
    (member : kept ∈ left) : signature.takes kept.name = kept.takesName := by
  obtain ⟨parameter, inside, same⟩ := leaves.mem_parameters member
  rw [same.name, signature.takes_of_mem inside, same.takesName]

theorem name_ne_of_mem_filled (leaves : Leaves count names signature.parameters left)
    {parameter kept : Parameter} (taken : parameter ∈ filled count signature.parameters)
    (member : kept ∈ left) : kept.name ≠ parameter.name := by
  obtain ⟨original, behind, same⟩ := leaves.exists_original member
  have distinct := signature.distinct
  rw [← filled_append_unfilled count signature.parameters, List.map_append] at distinct
  rw [same.name]
  exact ((List.nodup_append.mp distinct).2.2 _ (List.mem_map_of_mem taken) _
    (List.mem_map_of_mem behind)).symm

theorem exists_collects (leaves : Leaves count names signature.parameters left)
    {parameter : Parameter} (member : parameter ∈ signature.parameters)
    (collects : parameter.collects = true) : ∃ kept ∈ left, kept.collects = true := by
  have kind := eq_of_beq collects
  have behind : parameter ∈ unfilled count signature.parameters :=
    mem_unfilled_of_not_takesPosition member (by simp [Parameter.takesPosition, kind])
  obtain ⟨kept, inside, same⟩ := leaves.exists_kept behind (by simp [Parameter.gathers, kind])
  exact ⟨kept, inside, same.collects.trans collects⟩

theorem forall_collects_iff (leaves : Leaves count names signature.parameters left) :
    (∀ kept ∈ left, kept.collects = false) ↔
      ∀ parameter ∈ signature.parameters, parameter.collects = false := by
  constructor
  · intro own parameter member
    by_contra collects
    obtain ⟨kept, inside, also⟩ := leaves.exists_collects member (eq_true_of_ne_false collects)
    rw [own kept inside] at also
    cases also
  · intro own kept inside
    obtain ⟨parameter, member, same⟩ := leaves.mem_parameters inside
    rw [same.collects, own parameter member]

end Leaves

theorem Parameter.cases_of_not_takesName {parameter : Parameter} (own : parameter.collects = false)
    (nameless : parameter.takesName = false) :
    parameter.kind = .positionalOnly ∨ parameter.gathers = true := by
  obtain ⟨name, kind, value⟩ := parameter
  cases kind <;> simp_all [collects, takesName, gathers]

/-- What keeps the calls of a body whose parameters are told from fitting. -/
inductive View.Blocks (view : View) (body : Body) (left : List Parameter) : Prop
  | shadowed (parameter : Parameter)
      (member : parameter ∈ filled (body.receiver ++ view.arguments).length body.signature.parameters)
      (takes : parameter.takesName = true) (bound : parameter.name ∈ view.keywords.keys)
  /-- A parameter is left that takes positions only, and it needs a value, or nothing collects the
  one under its name. -/
  | nameless (parameter : Parameter) (member : parameter ∈ left)
      (only : parameter.kind = .positionalOnly)
      (fault : parameter.default? = none ∨ ∀ other ∈ left, other.collects = false)
  | gathering (parameter : Parameter) (member : parameter ∈ left) (gathers : parameter.gathers = true)
      (none : ∀ other ∈ left, other.collects = false)

section

variable {view : View} {body : Body} {left : List Parameter}

theorem Callee.Tells.unset (tells : view.callee.Tells body) (name : String) :
    name ∉ body.preset.keys := by
  rw [tells.bare]
  exact List.not_mem_nil

theorem View.blocks_of_misfits (tells : view.callee.Tells body) (known : view.signature = .ok left)
    (misfits : view.Misfits body (· ∈ left.map Parameter.name)) : view.Blocks body left := by
  have leaves := tells.leaves known
  cases misfits with
  | crowded more none =>
      rcases leaves.room with enough | ⟨parameter, member, gathers⟩
      · omega
      · rw [none parameter member] at gathers
        cases gathers
  | twice parameter taken takes given =>
      rcases given with supplied | bound | preset
      · obtain ⟨kept, inside, same⟩ := List.mem_map.mp supplied
        exact absurd same (leaves.name_ne_of_mem_filled taken inside)
      · exact .shadowed parameter taken takes bound
      · exact absurd preset (tells.unset _)
  | missing parameter member own needed absent =>
      obtain ⟨kept, inside, same⟩ := leaves.exists_kept member own.1
      have nameless : parameter.takesName = false := by
        rw [← Bool.not_eq_true]
        intro takes
        exact absent takes (.inl (same.name ▸ List.mem_map_of_mem inside))
      have only : parameter.kind = .positionalOnly := by
        refine (Parameter.cases_of_not_takesName own.2 nameless).resolve_right ?_
        rw [own.1]
        exact Bool.false_ne_true
      exact .nameless kept inside (same.positionalOnly_iff.mpr only)
        (.inl (same.default?.trans needed))
  | unclaimed name given untaken none =>
      have own := leaves.forall_collects_iff.mpr none
      rcases given with supplied | bound | preset
      · obtain ⟨kept, inside, rfl⟩ := List.mem_map.mp supplied
        rw [leaves.takes_of_mem inside] at untaken
        rcases Parameter.cases_of_not_takesName (own kept inside) untaken with only | gathers
        · exact .nameless kept inside only (.inr own)
        · exact .gathering kept inside gathers own
      · rcases leaves.held name bound with ⟨kept, inside, collects⟩ | ⟨kept, inside, only, rfl⟩
        · rw [own kept inside] at collects
          cases collects
        · rw [leaves.takes_of_mem inside, Parameter.takesName, only] at untaken
          cases untaken
      · exact absurd preset (tells.unset _)

theorem View.misfits_of_blocks (tells : view.callee.Tells body) (known : view.signature = .ok left)
    (blocks : view.Blocks body left) : view.Misfits body (· ∈ left.map Parameter.name) := by
  have leaves := tells.leaves known
  cases blocks with
  | shadowed parameter taken takes bound => exact .twice parameter taken takes (.inr (.inl bound))
  | nameless kept inside only fault =>
      have untaken : kept.takesName = false := by
        rw [Parameter.takesName, only]
        rfl
      rcases fault with needed | own
      · obtain ⟨parameter, member, same⟩ := leaves.exists_original inside
        have kind := same.positionalOnly_iff.mp only
        refine .missing parameter member ?_ (same.default?.symm.trans needed) ?_
        · rw [Parameter.gathers, Parameter.collects, kind]
          exact ⟨rfl, rfl⟩
        · intro takes
          rw [← same.takesName, untaken] at takes
          exact absurd takes Bool.false_ne_true
      · refine .unclaimed kept.name (.inl (List.mem_map_of_mem inside)) ?_
          (leaves.forall_collects_iff.mp own)
        rw [leaves.takes_of_mem inside, untaken]
  | gathering kept inside gathers own =>
      refine .unclaimed kept.name (.inl (List.mem_map_of_mem inside)) ?_
        (leaves.forall_collects_iff.mp own)
      rw [leaves.takes_of_mem inside, Parameter.takesName, eq_of_beq gathers]
      rfl

end

/-- A view that tells what it calls is uncallable in these three ways only. -/
theorem View.isUncallable_iff_blocks {view : View} {left : List Parameter}
    (tells : ∀ body ∈ view.callee.bodies, view.callee.Tells body)
    (known : view.signature = .ok left) :
    view.IsUncallable ↔ ∃ body ∈ view.callee.bodies, view.Blocks body left := by
  simp only [IsUncallable, known, Except.ok.injEq, exists_eq_left']
  apply exists_congr
  intro body
  apply and_congr_right
  intro member
  exact ⟨blocks_of_misfits (tells body member) known, misfits_of_blocks (tells body member) known⟩

end UriRouting
