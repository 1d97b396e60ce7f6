import Mathlib
import UriRouting.View.Signature
import UriRouting.Proofs.Params.Entries

/-! # What binding leaves of the parameters

However often values are bound, what the signature says can be said of the callee and of all bound
values together: the parameters in front have their values by position, and the others are left, in
their order, except for one that gathers where positions have been closed. A name that was bound
belongs to a parameter that can only be given by name, which nothing that is bound later can take
away, or it will be collected.

What is not true is that a bound name belongs to one of the parameters that are left. Where one
collects, the name may be that of a parameter in front.
-/

namespace UriRouting

theorem exists_of_forall₂_right {α β : Type} {R : α → β → Prop} {as : List α} {bs : List β}
    (related : List.Forall₂ R as bs) {b : β} (member : b ∈ bs) : ∃ a ∈ as, R a b := by
  induction related with
  | nil => cases member
  | cons first _ ih =>
      rcases List.mem_cons.mp member with rfl | later
      · exact ⟨_, List.mem_cons_self, first⟩
      · obtain ⟨a, inside, holds⟩ := ih later
        exact ⟨a, List.mem_cons_of_mem _ inside, holds⟩

namespace Parameter

@[simp]
theorem name_byName (parameter : Parameter) : parameter.byName.name = parameter.name := by
  unfold byName
  split <;> rfl

@[simp]
theorem default?_byName (parameter : Parameter) :
    parameter.byName.default? = parameter.default? := by
  unfold byName
  split <;> rfl

theorem kind_byName (parameter : Parameter) :
    parameter.byName.kind =
      if parameter.kind = .standard then .keywordOnly else parameter.kind := by
  unfold byName
  split
  · rename_i standard
    rw [if_pos standard]
  · rename_i other
    rw [if_neg other]

@[simp]
theorem takesName_byName (parameter : Parameter) :
    parameter.byName.takesName = parameter.takesName := by
  unfold takesName
  rw [kind_byName]
  cases parameter.kind <;> rfl

@[simp]
theorem gathers_byName (parameter : Parameter) :
    parameter.byName.gathers = parameter.gathers := by
  unfold gathers
  rw [kind_byName]
  cases parameter.kind <;> rfl

@[simp]
theorem collects_byName (parameter : Parameter) :
    parameter.byName.collects = parameter.collects := by
  unfold collects
  rw [kind_byName]
  cases parameter.kind <;> rfl

theorem kind_byName_eq_iff {parameter : Parameter} {kind : ParameterKind}
    (other : kind ≠ .standard) (named : kind ≠ .keywordOnly) :
    parameter.byName.kind = kind ↔ parameter.kind = kind := by
  rw [kind_byName]
  split
  · rename_i standard
    rw [standard]
    exact iff_of_false named.symm other.symm
  · exact Iff.rfl

theorem byName_byName (parameter : Parameter) : parameter.byName.byName = parameter.byName := by
  obtain ⟨name, kind, value⟩ := parameter
  cases kind <;> rfl

theorem staysOpen_append (names others : List String) (parameter : Parameter) :
    parameter.staysOpen (names ++ others) =
      (parameter.staysOpen names && parameter.staysOpen others) := by
  unfold staysOpen
  cases parameter.kind == .standard <;> simp

theorem staysOpen_byName (names : List String) (parameter : Parameter) :
    parameter.byName.staysOpen names = true := by
  unfold staysOpen
  rw [kind_byName]
  split
  · rfl
  · rename_i other
    simp [other]

/-- Whether a parameter is what binding leaves of another one, maybe by name only. -/
def IsLeftOf (left original : Parameter) : Prop :=
  left = original ∨ left = original.byName

section

variable {left original : Parameter}

theorem IsLeftOf.name (same : left.IsLeftOf original) : left.name = original.name := by
  rcases same with rfl | rfl <;> simp

theorem IsLeftOf.takesName (same : left.IsLeftOf original) :
    left.takesName = original.takesName := by
  rcases same with rfl | rfl <;> simp

theorem IsLeftOf.gathers (same : left.IsLeftOf original) : left.gathers = original.gathers := by
  rcases same with rfl | rfl <;> simp

theorem IsLeftOf.collects (same : left.IsLeftOf original) : left.collects = original.collects := by
  rcases same with rfl | rfl <;> simp

theorem IsLeftOf.default? (same : left.IsLeftOf original) : left.default? = original.default? := by
  rcases same with rfl | rfl <;> simp

theorem IsLeftOf.positionalOnly_iff (same : left.IsLeftOf original) :
    left.kind = .positionalOnly ↔ original.kind = .positionalOnly := by
  rcases same with rfl | rfl
  · rfl
  · exact kind_byName_eq_iff nofun nofun

end

end Parameter

section Filling

variable {parameters : List Parameter} {parameter : Parameter}

theorem leading_cons (parameter : Parameter) (later : List Parameter) :
    leading (parameter :: later) =
      if parameter.takesPosition then parameter :: leading later else [] := by
  rw [leading, List.takeWhile_cons]
  rfl

theorem length_filled (count : Nat) (parameters : List Parameter) :
    (filled count parameters).length = min count (leading parameters).length :=
  List.length_take

theorem takesPosition_of_mem_filled {count : Nat} (member : parameter ∈ filled count parameters) :
    parameter.takesPosition = true :=
  List.mem_takeWhile_imp (List.mem_of_mem_take member)

theorem filled_append_unfilled (count : Nat) (parameters : List Parameter) :
    filled count parameters ++ unfilled count parameters = parameters := by
  have front : filled count parameters <+: parameters :=
    (List.take_prefix _ _).trans (List.takeWhile_prefix _)
  rw [unfilled, List.prefix_iff_eq_append.mp front]

theorem mem_or_mem_of_mem {count : Nat} (member : parameter ∈ parameters) :
    parameter ∈ filled count parameters ∨ parameter ∈ unfilled count parameters := by
  rw [← filled_append_unfilled count parameters] at member
  exact List.mem_append.mp member

theorem mem_of_mem_unfilled {count : Nat} (member : parameter ∈ unfilled count parameters) :
    parameter ∈ parameters :=
  List.mem_of_mem_drop member

theorem mem_unfilled_of_not_takesPosition {count : Nat} (member : parameter ∈ parameters)
    (other : parameter.takesPosition = false) : parameter ∈ unfilled count parameters := by
  refine (mem_or_mem_of_mem member).resolve_left fun taken => ?_
  rw [takesPosition_of_mem_filled taken] at other
  cases other

theorem leading_drop {count : Nat} (enough : count ≤ (leading parameters).length) :
    leading (parameters.drop count) = (leading parameters).drop count := by
  induction count generalizing parameters with
  | zero => rfl
  | succ count ih =>
      cases parameters with
      | nil => cases enough
      | cons first later =>
          rw [leading_cons] at enough ⊢
          split at enough
          · rename_i takes
            rw [if_pos takes]
            exact ih (Nat.le_of_succ_le_succ enough)
          · cases enough

theorem unfilled_unfilled (first second : Nat) (parameters : List Parameter) :
    unfilled second (unfilled first parameters) = unfilled (first + second) parameters := by
  have inside : (filled first parameters).length ≤ (leading parameters).length := by
    rw [length_filled]
    exact Nat.min_le_right _ _
  have counts : (filled first parameters).length +
      (filled second (unfilled first parameters)).length =
        (filled (first + second) parameters).length := by
    rw [length_filled second, unfilled, leading_drop inside, List.length_drop, length_filled,
      length_filled]
    omega
  rw [unfilled, unfilled, List.drop_drop, ← unfilled, counts, unfilled]

theorem unfilled_zero (parameters : List Parameter) : unfilled 0 parameters = parameters := rfl

theorem unfilled_succ_cons {first : Parameter} (takes : first.takesPosition = true) (count : Nat)
    (later : List Parameter) : unfilled (count + 1) (first :: later) = unfilled count later := by
  simp only [unfilled, filled, leading_cons, takes, if_true, List.take_succ_cons, List.length_cons,
    List.drop_succ_cons]

theorem unfilled_cons {first : Parameter} (other : first.takesPosition = false) (count : Nat)
    (later : List Parameter) : unfilled count (first :: later) = first :: later := by
  simp [unfilled, filled, leading_cons, other]

end Filling

section Closing

variable {names : List String} {parameters : List Parameter}

theorem closePositions_cons_of_open {first : Parameter} (stays : first.staysOpen names = true)
    (later : List Parameter) :
    closePositions names (first :: later) = first :: closePositions names later := by
  simp [closePositions, stays]

theorem closePositions_cons_of_closed {first : Parameter} (closed : first.staysOpen names = false)
    (later : List Parameter) :
    closePositions names (first :: later) =
      ((first :: later).filter fun parameter => !parameter.gathers).map Parameter.byName := by
  simp [closePositions, closed]

theorem closePositions_eq_self (stay : ∀ parameter ∈ parameters, parameter.staysOpen names = true) :
    closePositions names parameters = parameters := by
  induction parameters with
  | nil => rfl
  | cons first later ih =>
      rw [List.forall_mem_cons] at stay
      rw [closePositions_cons_of_open stay.1, ih stay.2]

theorem closePositions_congr {others : List String} (same : ∀ name, name ∈ others ↔ name ∈ names)
    (parameters : List Parameter) :
    closePositions others parameters = closePositions names parameters := by
  have alike : Parameter.staysOpen others = Parameter.staysOpen names := by
    funext parameter
    have contained : others.contains parameter.name = names.contains parameter.name := by
      rw [Bool.eq_iff_iff, List.contains_iff_mem, List.contains_iff_mem, same]
    rw [Parameter.staysOpen, Parameter.staysOpen, contained]
  rw [closePositions, closePositions, alike]

theorem exists_of_mem_closePositions {kept : Parameter}
    (member : kept ∈ closePositions names parameters) :
    ∃ parameter ∈ parameters, kept.IsLeftOf parameter := by
  rcases List.mem_append.mp member with early | late
  · exact ⟨kept, (List.takeWhile_prefix _).subset early, .inl rfl⟩
  · obtain ⟨parameter, inside, rfl⟩ := List.mem_map.mp late
    exact ⟨parameter, (List.dropWhile_suffix _).subset (List.mem_of_mem_filter inside), .inr rfl⟩

theorem exists_mem_closePositions {parameter : Parameter} (member : parameter ∈ parameters)
    (single : parameter.gathers = false) :
    ∃ kept ∈ closePositions names parameters, kept.IsLeftOf parameter := by
  rw [← List.takeWhile_append_dropWhile (p := Parameter.staysOpen names) (l := parameters),
    List.mem_append] at member
  rcases member with early | late
  · exact ⟨parameter, List.mem_append_left _ early, .inl rfl⟩
  · refine ⟨parameter.byName, List.mem_append_right _ (List.mem_map_of_mem ?_), .inr rfl⟩
    rw [List.mem_filter, single]
    exact ⟨late, rfl⟩

theorem byName_filter_closePositions (names : List String) (parameters : List Parameter) :
    ((closePositions names parameters).filter fun parameter => !parameter.gathers).map
        Parameter.byName =
      (parameters.filter fun parameter => !parameter.gathers).map Parameter.byName := by
  induction parameters with
  | nil => rfl
  | cons first later ih =>
      cases stays : first.staysOpen names with
      | true =>
          rw [closePositions_cons_of_open stays, List.filter_cons, List.filter_cons]
          split
          · rw [List.map_cons, List.map_cons, ih]
          · exact ih
      | false =>
          rw [closePositions_cons_of_closed stays, List.filter_map, List.map_map, List.filter_filter]
          simp [Function.comp_def, Parameter.byName_byName]

theorem closePositions_closePositions (names others : List String) (parameters : List Parameter) :
    closePositions others (closePositions names parameters) =
      closePositions (names ++ others) parameters := by
  induction parameters with
  | nil => rfl
  | cons first later ih =>
      have both := first.staysOpen_append names others
      cases stays : first.staysOpen names with
      | false =>
          rw [stays, Bool.false_and] at both
          rw [closePositions_cons_of_closed stays, closePositions_cons_of_closed both]
          apply closePositions_eq_self
          intro kept member
          obtain ⟨parameter, -, rfl⟩ := List.mem_map.mp member
          exact parameter.staysOpen_byName others
      | true =>
          rw [stays, Bool.true_and] at both
          rw [closePositions_cons_of_open stays]
          cases later? : first.staysOpen others with
          | true =>
              rw [closePositions_cons_of_open later?, closePositions_cons_of_open (both.trans later?),
                ih]
          | false =>
              rw [closePositions_cons_of_closed later?,
                closePositions_cons_of_closed (both.trans later?), List.filter_cons,
                List.filter_cons]
              split
              · rw [List.map_cons, List.map_cons, byName_filter_closePositions]
              · exact byName_filter_closePositions names later

theorem not_gathers_of_mem_closed {kept : Parameter}
    (member : kept ∈ (parameters.filter fun parameter => !parameter.gathers).map Parameter.byName) :
    kept.gathers = false := by
  obtain ⟨parameter, inside, rfl⟩ := List.mem_map.mp member
  simpa using (List.mem_filter.mp inside).2

theorem leading_of_closed {first : Parameter} (closed : first.staysOpen names = false)
    (later : List Parameter) : leading (closePositions names (first :: later)) = [] := by
  have standard : first.kind = .standard := by
    by_contra other
    simp [Parameter.staysOpen, other] at closed
  have single : first.gathers = false := by
    rw [Parameter.gathers, standard]
    rfl
  rw [closePositions_cons_of_closed closed, List.filter_cons, single, Bool.not_false, if_pos rfl,
    List.map_cons, leading_cons, Parameter.takesPosition, Parameter.kind_byName, if_pos standard]
  rfl

theorem length_leading_closePositions_le (names : List String) (parameters : List Parameter) :
    (leading (closePositions names parameters)).length ≤ (leading parameters).length := by
  induction parameters with
  | nil => rfl
  | cons first later ih =>
      cases stays : first.staysOpen names with
      | true =>
          rw [closePositions_cons_of_open stays, leading_cons, leading_cons]
          split
          · exact Nat.succ_le_succ ih
          · rfl
      | false =>
          rw [leading_of_closed stays]
          exact Nat.zero_le _

/-- Where so many values by position can still be bound, closing positions can wait. -/
theorem unfilled_closePositions {count : Nat}
    (room : count ≤ (leading (closePositions names parameters)).length ∨
      ∃ kept ∈ closePositions names parameters, kept.gathers = true) :
    unfilled count (closePositions names parameters) =
      closePositions names (unfilled count parameters) := by
  induction parameters generalizing count with
  | nil => simp [closePositions, unfilled]
  | cons first later ih =>
      cases stays : first.staysOpen names with
      | true =>
          rw [closePositions_cons_of_open stays] at room ⊢
          cases takes : first.takesPosition with
          | false =>
              rw [unfilled_cons takes, unfilled_cons takes, closePositions_cons_of_open stays]
          | true =>
              cases count with
              | zero => rw [unfilled_zero, unfilled_zero, closePositions_cons_of_open stays]
              | succ count =>
                  rw [unfilled_succ_cons takes, unfilled_succ_cons takes]
                  apply ih
                  rcases room with fewer | ⟨kept, member, gathers⟩
                  · rw [leading_cons, if_pos takes] at fewer
                    exact .inl (Nat.le_of_succ_le_succ fewer)
                  · rcases List.mem_cons.mp member with rfl | member
                    · rw [Parameter.takesPosition, eq_of_beq gathers] at takes
                      cases takes
                    · exact .inr ⟨kept, member, gathers⟩
      | false =>
          have none : count = 0 := by
            rcases room with fewer | ⟨kept, member, gathers⟩
            · rw [leading_of_closed stays] at fewer
              exact Nat.le_zero.mp fewer
            · rw [closePositions_cons_of_closed stays] at member
              rw [not_gathers_of_mem_closed member] at gathers
              cases gathers
          rw [none, unfilled_zero, unfilled_zero]

/-- A parameter of a bound name is given by name only from then on, and stays so. -/
theorem exists_keywordOnly_closePositions {parameter : Parameter} (member : parameter ∈ parameters)
    (named : parameter.kind = .keywordOnly ∨
      parameter.takesName = true ∧ parameter.name ∈ names) :
    ∃ kept ∈ closePositions names parameters,
      kept.kind = .keywordOnly ∧ kept.name = parameter.name := by
  have kinds : parameter.kind = .keywordOnly ∨
      parameter.kind = .standard ∧ parameter.staysOpen names = false := by
    rcases named with only | ⟨takes, bound⟩
    · exact .inl only
    · rcases Bool.or_eq_true_iff.mp takes with standard | only
      · exact .inr ⟨eq_of_beq standard, by simp [Parameter.staysOpen, standard, bound]⟩
      · exact .inl (eq_of_beq only)
  have byName : parameter.byName.kind = .keywordOnly := by
    rw [Parameter.kind_byName]
    rcases kinds with only | ⟨standard, -⟩
    · rw [only]
      rfl
    · rw [if_pos standard]
  have single : parameter.gathers = false := by
    rcases kinds with kind | ⟨kind, -⟩ <;> simp [Parameter.gathers, kind]
  rw [← List.takeWhile_append_dropWhile (p := Parameter.staysOpen names) (l := parameters),
    List.mem_append] at member
  rcases member with early | late
  · refine ⟨parameter, List.mem_append_left _ early, kinds.resolve_right ?_, rfl⟩
    rintro ⟨-, closed⟩
    rw [List.mem_takeWhile_imp early] at closed
    cases closed
  · refine ⟨parameter.byName, List.mem_append_right _ (List.mem_map_of_mem ?_), byName,
      parameter.name_byName⟩
    rw [List.mem_filter, single]
    exact ⟨late, rfl⟩

end Closing

/-- Whether a bound name has a parameter whatever will be bound later. -/
def HoldsName (left : List Parameter) (name : String) : Prop :=
  (∃ parameter ∈ left, parameter.collects = true) ∨
    ∃ parameter ∈ left, parameter.kind = .keywordOnly ∧ parameter.name = name

section Holding

variable {left : List Parameter} {name : String}

theorem HoldsName.closePositions (holds : HoldsName left name) (names : List String) :
    HoldsName (closePositions names left) name := by
  rcases holds with ⟨parameter, member, collects⟩ | ⟨parameter, member, named, rfl⟩
  · have single : parameter.gathers = false := by simp [Parameter.gathers, eq_of_beq collects]
    obtain ⟨kept, inside, same⟩ := exists_mem_closePositions member single
    exact .inl ⟨kept, inside, same.collects.trans collects⟩
  · exact .inr (exists_keywordOnly_closePositions member (.inl named))

theorem holdsName_closePositions {names : List String} (accepted : acceptsName left name = true)
    (bound : name ∈ names) : HoldsName (closePositions names left) name := by
  obtain ⟨parameter, member, takes⟩ :=
    List.any_eq_true.mp (Bool.and_eq_true_iff.mp accepted).1
  rcases Bool.or_eq_true_iff.mp takes with collects | takes
  · exact HoldsName.closePositions (.inl ⟨parameter, member, collects⟩) names
  · obtain ⟨takes, same⟩ := Bool.and_eq_true_iff.mp takes
    rw [← eq_of_beq same] at bound ⊢
    exact .inr (exists_keywordOnly_closePositions member (.inr ⟨takes, bound⟩))

theorem HoldsName.unfilled (holds : HoldsName left name) (count : Nat) :
    HoldsName (unfilled count left) name := by
  rcases holds with ⟨parameter, member, collects⟩ | ⟨parameter, member, named, same⟩
  · refine .inl ⟨parameter, mem_unfilled_of_not_takesPosition member ?_, collects⟩
    rw [Parameter.takesPosition, eq_of_beq collects]
    rfl
  · refine .inr ⟨parameter, mem_unfilled_of_not_takesPosition member ?_, named, same⟩
    rw [Parameter.takesPosition, named]
    rfl

end Holding

/-- What is left of some parameters when so many values are bound by position, and values under these
names, all of them at once or in parts. -/
structure Leaves (count : Nat) (names : List String) (parameters left : List Parameter) : Prop where
  left_eq : left = closePositions names (unfilled count parameters)
  room : count ≤ (leading parameters).length ∨
    ∃ parameter ∈ parameters, parameter.gathers = true
  held : ∀ name ∈ names, HoldsName left name

namespace Leaves

variable {count : Nat} {names : List String} {parameters left : List Parameter}

theorem refl (parameters : List Parameter) : Leaves 0 [] parameters parameters where
  left_eq := (closePositions_eq_self fun parameter _ => by simp [Parameter.staysOpen]).symm
  room := .inl (Nat.zero_le _)
  held := by simp

theorem congr (leaves : Leaves count names parameters left) {others : List String}
    (same : ∀ name, name ∈ others ↔ name ∈ names) : Leaves count others parameters left where
  left_eq := by rw [closePositions_congr same, ← leaves.left_eq]
  room := leaves.room
  held name member := leaves.held name ((same name).mp member)

theorem exists_original (leaves : Leaves count names parameters left) {kept : Parameter}
    (member : kept ∈ left) : ∃ parameter ∈ unfilled count parameters, kept.IsLeftOf parameter :=
  exists_of_mem_closePositions (leaves.left_eq ▸ member)

theorem exists_kept (leaves : Leaves count names parameters left) {parameter : Parameter}
    (member : parameter ∈ unfilled count parameters) (single : parameter.gathers = false) :
    ∃ kept ∈ left, kept.IsLeftOf parameter :=
  leaves.left_eq ▸ exists_mem_closePositions member single

theorem of_bindParameters (fits : bindParameters count names parameters = some left) :
    Leaves count names parameters left := by
  simp only [bindParameters] at fits
  split at fits
  · rename_i conditions
    obtain rfl := Option.some.inj fits
    obtain ⟨conditions, accepted⟩ := Bool.and_eq_true_iff.mp conditions
    refine ⟨rfl, ?_, fun name member => ?_⟩
    · simpa using (Bool.and_eq_true_iff.mp conditions).1
    · exact holdsName_closePositions (List.all_eq_true.mp accepted name member) member
  · cases fits

/-- Binding in parts is binding at once. -/
theorem trans (leaves : Leaves count names parameters left) {more : Nat} {others : List String}
    {rest : List Parameter} (leavesMore : Leaves more others left rest) :
    Leaves (count + more) (names ++ others) parameters rest := by
  refine ⟨?_, ?_, ?_⟩
  · rw [← closePositions_closePositions, ← unfilled_unfilled,
      ← unfilled_closePositions (leaves.left_eq ▸ leavesMore.room), ← leaves.left_eq]
    exact leavesMore.left_eq
  · rcases leavesMore.room with fewer | ⟨kept, member, gathers⟩
    · refine leaves.room.imp_left fun enough => ?_
      have behind := length_leading_closePositions_le names (unfilled count parameters)
      rw [← leaves.left_eq, UriRouting.unfilled, length_filled, min_eq_left enough,
        leading_drop enough, List.length_drop] at behind
      omega
    · obtain ⟨parameter, inside, same⟩ := leaves.exists_original member
      exact .inr ⟨parameter, mem_of_mem_unfilled inside, same.gathers.symm.trans gathers⟩
  · intro name member
    rcases List.mem_append.mp member with old | new
    · rw [leavesMore.left_eq]
      exact ((leaves.held name old).unfilled more).closePositions _
    · exact leavesMore.held name new

end Leaves

/-- The signature of a view is what is left by all that has been bound. -/
theorem leaves_of_signature {view : View} {left : List Parameter}
    (known : view.signature = .ok left) :
    ∃ signature, view.callee.told = .tells signature ∧
      Leaves view.arguments.length view.keywords.keys signature.parameters left := by
  induction view generalizing left with
  | plain callee =>
      rw [View.signature] at known
      split at known
      · rename_i signature told
        obtain rfl := Except.ok.inj known
        exact ⟨signature, told, .refl _⟩
      · cases known
  | applied inner arguments keywords shown ih =>
      rw [View.signature] at known
      cases inside : inner.signature with
      | error refusal => rw [inside] at known; cases known
      | ok parameters =>
          obtain ⟨signature, told, leaves⟩ := ih inside
          rw [inside] at known
          simp only at known
          split at known
          · rename_i rest fits
            obtain rfl := Except.ok.inj known
            refine ⟨signature, told, ?_⟩
            rw [View.arguments, List.length_append]
            apply (leaves.trans (.of_bindParameters fits)).congr
            intro name
            rw [View.keywords, Params.mem_keys_overlay, List.mem_append]
          · cases known

end UriRouting
