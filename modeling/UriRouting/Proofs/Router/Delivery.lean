import Mathlib
import UriRouting.Proofs.Router.Following
import UriRouting.Proofs.View.Passing

/-! # What strict mode promises and what a call delivers

Strict mode judges a parameter by its name, and asks first whether it is the name of a placeholder. A
call asks first whether the name is `match`. So the two agree on all names but one: where a
placeholder is named `match`, a parameter of that name has to be annotated as a text, and is given
the match.

They also agree only on parameters that can be given under their names. Strict mode does not see that
a parameter takes positions only, one or many of them, and what a call has for it goes elsewhere.
-/

namespace UriRouting

/-- Whether an argument holds a value, as its own or among others. -/
def Argument.Holds (value : Value) : Argument → Prop
  | .single own => own = value
  | .gathered values => value ∈ values
  | .collected values => ∃ name, values.get? name = some value

namespace Strict

/-- Whether strict mode requires that a parameter of this name is annotated with this hint. -/
def Requires (placeholders : List String) (name : String) (hint : Hint) : Prop :=
  ∀ other?, broken? placeholders name other? = none ↔ other? = some hint

theorem requires_text {placeholders : List String} {name : String}
    (member : name ∈ placeholders) : Requires placeholders name .text := by
  intro other?
  cases other? with
  | none => simp [broken?]
  | some other => by_cases same : other = .text <;> simp [broken?, member, same]

theorem requires_found {placeholders : List String} {name : String} (itself : name = matchName)
    (absent : name ∉ placeholders) : Requires placeholders name .found := by
  subst itself
  intro other?
  cases other? with
  | none => simp [broken?]
  | some other => by_cases same : other = .found <;> simp [broken?, absent, same]

theorem Requires.of_found {placeholders : List String} {name : String}
    (required : Requires placeholders name .found) : name = matchName ∧ name ∉ placeholders := by
  have fine := (required (some .found)).mpr rfl
  by_cases member : name ∈ placeholders
  · simp [broken?, member] at fine
  · by_cases itself : name = matchName
    · exact ⟨itself, member⟩
    · simp [broken?, member, itself, Hint.isModel, Hint.model?] at fine

/-- Whether the values that a call gives under names are those that strict mode promises: the text of a
placeholder for a parameter that is named after one, and the match only where it has to be annotated. -/
structure Gives (placeholders : List String) (left : List Parameter) (found : Match)
    (given : Params Value) : Prop where
  texts : ∀ name ∈ left.map Parameter.name, name ∈ placeholders →
    ∃ text, found.allParams.get? name = some text ∧ given.get? name = some (.scalar (.text text))
  itself : ∀ name, given.get? name = some (.found found) →
    name ∈ left.map Parameter.name ∧ Requires placeholders name .found

/-- Whether the parameters of a body hold what strict mode promises. What a parameter collects is not
promised to be a text. -/
structure Delivers (placeholders : List String) (left : List Parameter) (found : Match)
    (arguments : List (String × Argument)) : Prop where
  texts : ∀ parameter ∈ left, parameter.name ∈ placeholders → parameter.collects = false →
    ∃ text, found.allParams.get? parameter.name = some text ∧
      arguments.lookup parameter.name = some (.single (.scalar (.text text)))
  itself : ∀ entry ∈ arguments, entry.2.Holds (.found found) →
    entry.1 ∈ left.map Parameter.name ∧ Requires placeholders entry.1 .found

/-- Whether the parameters of a signature can hold what strict mode promises for them. -/
structure Suits (placeholders : List String) (left : List Parameter) (found : Match) : Prop where
  itself : ∀ parameter ∈ left, parameter.name = matchName →
    matchName ∉ placeholders ∧ (parameter.takesName = true ∨ parameter.collects = true)
  nameless : ∀ parameter ∈ left, parameter.name ∈ placeholders → parameter.takesName = false →
    parameter.collects = false → parameter.kind = .positionalOnly ∧
      parameter.default? = (found.allParams.get? parameter.name).map Scalar.text

end Strict

theorem Match.eq_matchName_of_gives? {validator : Validator} {found other : Match}
    {hints : Params Hint} {name : String}
    (gives : found.gives? validator hints name = some (.found other)) : name = matchName := by
  unfold gives? at gives
  split at gives
  · assumption
  · split at gives
    · obtain ⟨record, -, impossible⟩ := Option.map_eq_some_iff.mp gives
      cases impossible
    · obtain ⟨text, -, impossible⟩ := Option.map_eq_some_iff.mp gives
      cases impossible

theorem Parameter.IsLeftOf.held?_eq {kept original : Parameter} (same : kept.IsLeftOf original)
    (extra : List Value) (collected keywords : Params Value) :
    kept.held? extra collected keywords = original.held? extra collected keywords := by
  obtain ⟨name, kind, value⟩ := original
  rcases same with rfl | rfl
  · rfl
  · cases kind <;> rfl

theorem Parameter.held?_of_takesName {parameter : Parameter} (extra : List Value)
    {collected keywords : Params Value} {value : Value} (takes : parameter.takesName = true)
    (given : keywords.get? parameter.name = some value) :
    parameter.held? extra collected keywords = some (.single value) := by
  obtain ⟨name, kind, default⟩ := parameter
  cases kind <;> simp_all [held?, takesName]

theorem Signature.eq_of_collects (signature : Signature) {parameter other : Parameter}
    (member : parameter ∈ signature.parameters) (inside : other ∈ signature.parameters)
    (collects : parameter.collects = true) (alike : other.collects = true) : parameter = other := by
  have apart : signature.parameters.Pairwise fun first later =>
      ¬ (first.collects = true ∧ later.collects = true) := by
    refine signature.ordered.imp fun {first later} precedes both => ?_
    rw [eq_of_beq both.1] at precedes
    cases precedes
  by_contra differs
  have : Std.Symm fun first later : Parameter => ¬ (first.collects = true ∧ later.collects = true) :=
    ⟨fun _ _ free both => free both.symm⟩
  exact apart.forall member inside differs ⟨collects, alike⟩

theorem View.ne_found_of_mem_positional {view : View} {body : Body} {value : Value}
    (bound : value ∈ view.positional body) (found : Match) : value ≠ .found found := by
  obtain ⟨scalar, -, rfl⟩ := List.mem_map.mp bound
  exact nofun

structure IsCall (validator : Validator) (view : View) (body : Body) (left : List Parameter)
    (hints : Params Hint) (found : Match) (given : Params Value)
    (arguments : List (String × Argument)) : Prop where
  known : view.signature = .ok left
  tells : view.callee.Tells body
  read : (Plan.make view left hints).keywords validator found = .ok given
  filled : body.signature.fill? (view.positional body) (view.named body given) = some arguments

namespace IsCall

variable {validator : Validator} {view : View} {body : Body} {left : List Parameter}
  {hints : Params Hint} {found : Match} {given : Params Value}
  {arguments : List (String × Argument)} {parameter : Parameter}

section

variable (call : IsCall validator view body left hints found given arguments)

include call

theorem leaves : Leaves (view.positional body).length view.keywords.keys body.signature.parameters
    left := by
  rw [View.positional, List.length_map]
  exact call.tells.leaves call.known

theorem lookup (member : parameter ∈ left) :
    arguments.lookup parameter.name =
      parameter.held? (body.signature.extra (view.positional body))
        (body.signature.unclaimed (view.named body given)) (view.named body given) := by
  obtain ⟨original, behind, same⟩ := call.leaves.exists_original member
  rw [same.name, same.held?_eq]
  exact Signature.lookup_of_fill? call.filled behind

/-- Nothing else that is given by name is a match. -/
theorem eq_matchName {name : String} {other : Match}
    (holds : (view.named body given).get? name = some (.found other)) :
    name = matchName ∧ name ∈ left.map Parameter.name := by
  rw [View.get?_named, Plan.get?_keywords call.read] at holds
  rcases Option.or_eq_some_iff.mp holds with new | ⟨-, bound⟩
  · split at new
    · rename_i member
      exact ⟨Match.eq_matchName_of_gives? new, member⟩
    · cases new
  · obtain ⟨value, -, impossible⟩ := Option.map_eq_some_iff.mp bound
    cases impossible

theorem get?_named {value : Value} (member : parameter ∈ left)
    (gives : found.gives? validator hints parameter.name = some value) :
    (view.named body given).get? parameter.name = some value := by
  rw [View.get?_named, Plan.get?_keywords call.read, if_pos (List.mem_map_of_mem member), gives,
    Option.some_or]

theorem lookup_of_takesName {value : Value} (member : parameter ∈ left)
    (takes : parameter.takesName = true)
    (gives : found.gives? validator hints parameter.name = some value) :
    arguments.lookup parameter.name = some (.single value) := by
  rw [call.lookup member]
  exact Parameter.held?_of_takesName _ takes (call.get?_named member gives)

/-- The match is collected if the parameter of its name does not take it. -/
theorem exists_collecting (member : parameter ∈ left) (itself : parameter.name = matchName)
    (nameless : parameter.takesName = false) :
    ∃ other ∈ left, other.collects = true ∧ ∃ values,
      arguments.lookup other.name = some (.collected values) ∧
        values.get? matchName = some (.found found) := by
  have gives : found.gives? validator hints parameter.name = some (.found found) := if_pos itself
  have holds := call.get?_named member gives
  have untaken : body.signature.takes parameter.name = false :=
    (call.leaves.takes_of_mem member).trans nameless
  have named : parameter.name ∈ (view.named body given).keys :=
    (Params.mem_keys_iff _ _).mpr ⟨_, holds⟩
  obtain ⟨original, inside, collects⟩ :=
    Signature.exists_collects_of_fill? call.filled named untaken
  obtain ⟨other, kept, collecting⟩ := call.leaves.exists_collects inside collects
  refine ⟨other, kept, collecting, body.signature.unclaimed (view.named body given), ?_, ?_⟩
  · rw [call.lookup kept, Parameter.held?, eq_of_beq collecting]
  · rw [← itself, Signature.unclaimed, Params.get?_filterKeys, untaken, holds]
    rfl

theorem suits_of_delivers {placeholders : List String}
    (delivers : Strict.Delivers placeholders left found arguments) :
    Strict.Suits placeholders left found := by
  constructor
  · intro parameter member itself
    cases takes : parameter.takesName with
    | true =>
        have gives : found.gives? validator hints parameter.name = some (.found found) :=
          if_pos itself
        have holds := call.lookup_of_takesName member takes gives
        have required := (delivers.itself _ (mem_of_lookup_eq_some holds) rfl).2.of_found
        exact ⟨itself ▸ required.2, .inl rfl⟩
    | false =>
        obtain ⟨other, inside, collecting, values, holds, collected⟩ :=
          call.exists_collecting member itself takes
        have required :=
          (delivers.itself _ (mem_of_lookup_eq_some holds) ⟨_, collected⟩).2.of_found
        refine ⟨required.1 ▸ required.2, .inr ?_⟩
        obtain ⟨original, own, same⟩ := call.leaves.mem_parameters member
        obtain ⟨collector, apart, alike⟩ := call.leaves.mem_parameters inside
        have one := List.inj_on_of_nodup_map body.signature.distinct own apart (by
          rw [← same.name, ← alike.name, itself]
          exact required.1.symm)
        rw [same.collects, one, ← alike.collects, collecting]
  · intro parameter member placeholder nameless own
    obtain ⟨text, said, holds⟩ := delivers.texts parameter member placeholder own
    rw [call.lookup member, Parameter.held?] at holds
    rcases Parameter.cases_of_not_takesName own nameless with only | gathers
    · rw [only] at holds
      obtain ⟨value, known, same⟩ := Option.map_eq_some_iff.mp holds
      refine ⟨only, ?_⟩
      rw [known, said]
      simpa using same
    · rw [eq_of_beq gathers] at holds
      cases holds

theorem lookup_of_suits {placeholders : List String}
    (suits : Strict.Suits placeholders left found)
    (hinted : ∀ parameter ∈ left, parameter.name ∈ placeholders →
      hints.get? parameter.name = some .text)
    (member : parameter ∈ left) (placeholder : parameter.name ∈ placeholders)
    (own : parameter.collects = false) {text : String}
    (said : found.allParams.get? parameter.name = some text) :
    arguments.lookup parameter.name = some (.single (.scalar (.text text))) := by
  cases takes : parameter.takesName with
  | true =>
      apply call.lookup_of_takesName member takes
      have other : parameter.name ≠ matchName := by
        intro itself
        exact (suits.itself parameter member itself).1 (itself ▸ placeholder)
      simp [Match.gives?, other, hinted parameter member placeholder, Hint.model?, said]
  | false =>
      obtain ⟨only, known⟩ := suits.nameless parameter member placeholder takes own
      rw [call.lookup member, Parameter.held?, only, known, said]
      rfl

theorem eq_matchName_of_holds {placeholders : List String}
    (suits : Strict.Suits placeholders left found) {entry : String × Argument}
    (member : entry ∈ arguments) (holds : entry.2.Holds (.found found)) :
    entry.1 = matchName ∧ entry.1 ∈ left.map Parameter.name := by
  obtain ⟨name, argument⟩ := entry
  rcases Signature.cases_of_mem_fill? call.filled member with
    ⟨value, bound, plain⟩ | ⟨parameter, behind, rfl, held⟩
  · obtain rfl : argument = .single value := plain
    exact absurd holds (View.ne_found_of_mem_positional bound found)
  · cases Parameter.gets_of_held? held with
    | @own value takes given =>
        obtain rfl : value = .found found := holds
        exact call.eq_matchName given
    | default => cases holds
    | extra =>
        exact absurd rfl (View.ne_found_of_mem_positional (List.mem_of_mem_drop holds) found)
    | rest collects untaken =>
        obtain ⟨taken, got⟩ := holds
        rw [untaken] at got
        split at got
        · cases got
        · rename_i free
          obtain ⟨rfl, wanted⟩ := call.eq_matchName got
          obtain ⟨other, inside, itself⟩ := List.mem_map.mp wanted
          have alike : other.collects = true := by
            refine (suits.itself other inside itself).2.resolve_left ?_
            rwa [← call.leaves.takes_of_mem inside, itself]
          obtain ⟨original, apart, same⟩ := call.leaves.mem_parameters inside
          have one := body.signature.eq_of_collects (mem_of_mem_unfilled behind) apart collects
            (same.collects ▸ alike)
          rw [one, ← same.name]
          exact ⟨itself, List.mem_map_of_mem inside⟩

/-- Such a call delivers what strict mode promises exactly if the parameters suit. -/
theorem delivers_iff_suits {placeholders : List String}
    (hinted : ∀ parameter ∈ left, parameter.name ∈ placeholders →
      hints.get? parameter.name = some .text)
    (present : ∀ name ∈ placeholders, name ∈ found.allParams.keys) :
    Strict.Delivers placeholders left found arguments ↔
      Strict.Suits placeholders left found := by
  constructor
  · exact call.suits_of_delivers
  · intro suits
    constructor
    · intro parameter member placeholder own
      obtain ⟨text, said⟩ := (Params.mem_keys_iff _ _).mp (present _ placeholder)
      exact ⟨text, said, call.lookup_of_suits suits hinted member placeholder own said⟩
    · intro entry member holds
      obtain ⟨itself, inside⟩ := call.eq_matchName_of_holds suits member holds
      obtain ⟨parameter, known, same⟩ := List.mem_map.mp inside
      have absent := (suits.itself parameter known (same.trans itself)).1
      exact ⟨inside, Strict.requires_found itself (itself ▸ absent)⟩

end

end IsCall

namespace Strict

/-- What a call gives under names is what strict mode promises, unless a parameter is named `match`
like a placeholder. -/
theorem gives_iff {placeholders : List String} {validator : Validator} {view : View}
    {left : List Parameter} {hints : Params Hint} {found : Match} {given : Params Value}
    (read : (Plan.make view left hints).keywords validator found = .ok given)
    (hinted : ∀ parameter ∈ left, parameter.name ∈ placeholders →
      hints.get? parameter.name = some .text)
    (present : ∀ name ∈ placeholders, name ∈ found.allParams.keys) :
    Gives placeholders left found given ↔
      ¬ (matchName ∈ left.map Parameter.name ∧ matchName ∈ placeholders) := by
  constructor
  · rintro gives ⟨wanted, placeholder⟩
    refine (gives.itself matchName ?_).2.of_found.2 placeholder
    rw [Plan.get?_keywords read, if_pos wanted]
    exact if_pos rfl
  · intro apart
    constructor
    · intro name member placeholder
      obtain ⟨text, said⟩ := (Params.mem_keys_iff _ _).mp (present name placeholder)
      have other : name ≠ matchName := by
        rintro rfl
        exact apart ⟨member, placeholder⟩
      obtain ⟨parameter, inside, rfl⟩ := List.mem_map.mp member
      refine ⟨text, said, ?_⟩
      rw [Plan.get?_keywords read, if_pos member]
      simp [Match.gives?, other, hinted parameter inside placeholder, Hint.model?, said]
    · intro name holds
      rw [Plan.get?_keywords read] at holds
      split at holds
      · rename_i member
        obtain rfl := Match.eq_matchName_of_gives? holds
        exact ⟨member, requires_found rfl fun placeholder => apart ⟨member, placeholder⟩⟩
      · cases holds

/-- A call that reaches a view gives under names what strict mode promised, except where a parameter
is named `match` like a placeholder. If what is called is told, it also holds what was promised,
except for parameters that cannot be given under their names. -/
theorem delivers_iff_of_check {view : View} {route : Route} (accepted : check view route = .ok ())
    {uri : String} {found : Match} (matched : route.matchUri uri = .ok (some found))
    {validator : Validator} {outcome : Outcome}
    (followed : Router.follow validator view found = .ok outcome) :
    ∃ hints left given, view.hints = .ok hints ∧ view.signature = .ok left ∧
      (∀ parameter ∈ left, ∀ hint, Requires route.placeholders parameter.name hint →
        hints.get? parameter.name = some hint) ∧
      (Plan.make view left hints).keywords validator found = .ok given ∧
      view.call given = .ok outcome ∧
      (Gives route.placeholders left found given ↔
        ¬ (matchName ∈ left.map Parameter.name ∧ matchName ∈ route.placeholders)) ∧
      List.Forall₂ (fun body arguments => view.callee.Tells body →
        (Delivers route.placeholders left found arguments ↔
          Suits route.placeholders left found)) view.callee.bodies outcome.arguments := by
  obtain ⟨hints, left, hinted, known, fine⟩ := rules_of_check accepted
  have required : ∀ parameter ∈ left, ∀ hint, Requires route.placeholders parameter.name hint →
      hints.get? parameter.name = some hint :=
    fun parameter member hint required => (required _).mp (fine parameter member)
  have texts : ∀ parameter ∈ left, parameter.name ∈ route.placeholders →
      hints.get? parameter.name = some .text :=
    fun parameter member placeholder => required parameter member _ (requires_text placeholder)
  have present : ∀ name ∈ route.placeholders, name ∈ found.allParams.keys := by
    intro name placeholder
    refine (Params.mem_keys_overlay _ _ _).mpr (.inl ?_)
    rw [Route.keys_of_matchUri matched, List.mem_eraseDups]
    exact placeholder
  have planned := View.plan_eq_ok_iff.mpr ⟨left, hints, known, hinted, rfl⟩
  rw [Router.follow_of_plan planned] at followed
  obtain ⟨given, read, called⟩ := bind_eq_ok_iff.mp (mapError_eq_ok_iff.mp followed)
  obtain ⟨-, filled⟩ := View.call_eq_ok_iff.mp called
  refine ⟨hints, left, given, hinted, known, required, read, called, gives_iff read texts present, ?_⟩
  refine filled.imp fun body arguments done tells => ?_
  have call : IsCall validator view body left hints found given arguments :=
    ⟨known, tells, read, done⟩
  exact call.delivers_iff_suits texts present

def showBoth : View :=
  .plain (.function "show" {
      parameters := [⟨"id", .standard, none⟩, ⟨"match", .standard, none⟩]
      distinct := by decide
      ordered := by decide
    } (.ofList [("id", .direct .text), ("match", .direct .found)]) .empty)

theorem tells_showBoth : ∀ body ∈ showBoth.callee.bodies, showBoth.callee.Tells body := by
  simp only [showBoth, View.callee, Callee.function, List.forall_mem_singleton]
  exact ⟨rfl, _, rfl, .refl _⟩

theorem delivers_showBoth :
    ∃ found arguments left, check showBoth (.ofPattern 1 "/{id}") = .ok () ∧
      (Route.ofPattern 1 "/{id}").matchUri "/1?id=2" = .ok (some found) ∧
      Router.follow .demanding showBoth found = .ok ⟨showBoth.callee, [arguments]⟩ ∧
      showBoth.signature = .ok left ∧
      Delivers (Route.ofPattern 1 "/{id}").placeholders left found arguments := by
  have accepted : check showBoth (.ofPattern 1 "/{id}") = .ok () := by decide
  have matched : (Route.ofPattern 1 "/{id}").matchUri "/1?id=2" =
      .ok (some ⟨.ofPattern 1 "/{id}", .ofList [("id", "1")], .ofList [("id", "2")]⟩) := by decide
  have followed : Router.follow .demanding showBoth
        ⟨.ofPattern 1 "/{id}", .ofList [("id", "1")], .ofList [("id", "2")]⟩ =
      .ok ⟨showBoth.callee, [[("id", .single (.scalar (.text "2"))), ("match", .single (.found
        ⟨.ofPattern 1 "/{id}", .ofList [("id", "1")], .ofList [("id", "2")]⟩))]]⟩ := by decide
  obtain ⟨hints, left, given, -, known, -, -, -, -, delivers⟩ :=
    delivers_iff_of_check accepted matched followed
  obtain ⟨same, -⟩ := List.forall₂_cons.mp delivers
  refine ⟨_, _, left, accepted, matched, followed, known, (same ?_).mpr ?_⟩
  · exact tells_showBoth _ List.mem_cons_self
  · obtain rfl := Except.ok.inj known
    have names : (Route.ofPattern 1 "/{id}").placeholders = ["id"] := by decide
    constructor <;> simp [names, matchName, Parameter.takesName]

/-- A view that takes the match, or something that has its name. -/
def showMatch (hint : Hint) : View :=
  .plain (.function "show" {
      parameters := [⟨"match", .standard, none⟩]
      distinct := by decide
      ordered := by decide
    } (.ofList [("match", .direct hint)]) .empty)

/-- Where a placeholder is named `match`, the parameter has to be a text and is given the match. -/
theorem not_delivers_showMatch :
    ∃ found, check (showMatch .text) (.ofPattern 1 "/{match}") = .ok () ∧
      (Route.ofPattern 1 "/{match}").matchUri "/x" = .ok (some found) ∧
      found.allParams.get? "match" = some "x" ∧
      (∀ validator : Validator, Router.follow validator (showMatch .text) found =
        .ok ⟨(showMatch .text).callee, [[("match", .single (.found found))]]⟩) ∧
      ∀ left, ¬ Delivers (Route.ofPattern 1 "/{match}").placeholders left found
        [("match", .single (.found found))] := by
  have matched : (Route.ofPattern 1 "/{match}").matchUri "/x" =
      .ok (some ⟨.ofPattern 1 "/{match}", .ofList [("match", "x")], .empty⟩) := by decide
  refine ⟨_, by decide, matched, by decide, fun _ => rfl, ?_⟩
  intro left delivers
  have required := (delivers.itself _ List.mem_cons_self rfl).2.of_found
  exact required.2 (by decide)

end Strict

end UriRouting
