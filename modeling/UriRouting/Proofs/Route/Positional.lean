import Mathlib
import UriRouting.Proofs.Route.RoundTrip

/-! # Building by position

The values are written in the order of the placeholders, each into every place where the text of its
placeholder stands. That is its own place and no other as long as the text stands nowhere else in what
has been made so far. Placeholders that were filled already are gone and do no harm. One that comes
later does, if its text ends with the one whose turn it is: it loses its closing brace with that text,
and its own value has no place any more.

So building by position depends on an order that building by name does not have.
-/

namespace UriRouting

/-- Whether no name ends with an opening brace and the name of an earlier placeholder. -/
def Template.IsApartInOrder (template : Template) : Prop :=
  template.names.Pairwise fun earlier later => ¬ '{' :: earlier <:+ later

namespace Route

def encodedValues (values : List String) : List (List Char) :=
  values.map fun value => Percent.encodeChars value.toList

/-- Whether building by position gives the pattern with each value in its own placeholder, whatever
the values are. -/
def FillsOwn (route : Route) : Prop :=
  ∀ values : List String, values.length = route.arity →
    route.build values =
      .ok (String.ofList (fragmentMark :: route.template.spell (encodedValues values)))

theorem map_toList_placeholders (route : Route) :
    route.placeholders.map String.toList = route.template.names := by
  simp [placeholders, placeholderNames, template, Function.comp_def]

theorem nodup_names_iff {route : Route} :
    route.template.names.Nodup ↔ route.placeholders.Nodup := by
  rw [← map_toList_placeholders]
  exact List.nodup_map_iff fun a b same => String.toList_inj.mp same

theorem written_cons_of_ne {name : List Char} {entry : String × String}
    (different : name ≠ entry.1.toList) (entries : List (String × String)) :
    Template.written (entry :: entries) name = Template.written entries name := by
  have differs : (String.ofList name == entry.1) = false := by
    rw [beq_eq_false_iff_ne]
    rintro same
    exact different (by rw [← same, String.toList_ofList])
  rw [Template.written, List.lookup_cons, differs, Template.written]

theorem map_standIn_zip {names : List (List Char)} {values : List String} (distinct : names.Nodup)
    (arity : values.length = names.length) :
    names.map (Template.standIn (Template.written ((names.map String.ofList).zip values))) =
      encodedValues values := by
  induction names generalizing values with
  | nil =>
      obtain rfl := List.length_eq_zero_iff.mp arity
      rfl
  | cons name names ih =>
      obtain ⟨absent, distinct⟩ := List.nodup_cons.mp distinct
      cases values with
      | nil => cases arity
      | cons value values =>
          rw [List.map_cons, List.map_cons, List.zip_cons_cons, encodedValues, List.map_cons,
            ← encodedValues, ← ih distinct (Nat.succ.inj arity)]
          congr 1
          · simp [Template.standIn, Template.written]
          · refine List.map_congr_left fun other member => ?_
            have different : other ≠ (String.ofList name).toList := by
              rw [String.toList_ofList]
              rintro rfl
              exact absent member
            rw [Template.standIn, written_cons_of_ne different, Template.standIn]

theorem map_key_zip {route : Route} {values : List String} (arity : values.length = route.arity) :
    (route.placeholders.zip values).map (fun entry => entry.1.toList) = route.template.names := by
  have names : (route.placeholders.zip values).map Prod.fst = route.placeholders :=
    List.map_fst_zip arity.ge
  rw [← map_toList_placeholders, ← names, List.map_map, names]
  rfl

theorem fillAll_zip {route : Route} (distinct : route.placeholders.Nodup)
    (inOrder : route.template.IsApartInOrder) {values : List String}
    (arity : values.length = route.arity) :
    route.fillAll (route.placeholders.zip values) =
      fragmentMark :: route.template.spell (encodedValues values) := by
  have keys := map_key_zip arity
  have cut := Template.isCut_ofChars route.pattern.toList
  have noClose : ∀ entry ∈ route.placeholders.zip values, '}' ∉ entry.1.toList := by
    intro entry member
    exact cut.names _ (keys ▸ List.mem_map_of_mem member)
  rw [Template.fillAll_eq_of_turns route noClose, Template.write]
  · have slots : values.length = route.template.names.length := by
      rw [arity, ← map_toList_placeholders, List.length_map, Route.arity]
    exact congrArg (fragmentMark :: route.template.spell ·)
      (map_standIn_zip (nodup_names_iff.mpr distinct) slots)
  · intro before entry after split name member open_ tail
    rw [← keys, split, List.map_append, List.map_cons] at member
    rw [Template.IsApartInOrder, ← keys, split, List.map_append, List.map_cons,
      List.pairwise_append, List.pairwise_cons] at inOrder
    rcases List.mem_append.mp member with earlier | here
    · exact absurd earlier (Template.written_eq_none_iff.mp open_)
    · rcases List.mem_cons.mp here with rfl | later
      · have shorter := tail.length_le
        simp at shorter
      · exact inOrder.2.1.1 name later tail

section

variable {key uri : List Char} {entry : String × String} {entries : List (String × String)}

def Outgrows (key : List Char) (value : String) : Prop :=
  key.length + 1 < (Percent.encodeChars value.toList).length

theorem infix_of_infix_fill (long : Outgrows key entry.2) (found : token key <:+: fill uri entry) :
    key ≠ entry.1.toList ∧ token key <:+: uri := by
  obtain ⟨different, before⟩ := Text.infix_of_infix_replace (List.cons_ne_nil _ _)
    (Percent.not_mem_encodeChars (by decide) _) (Percent.not_mem_encodeChars (by decide) _) long
    found
  exact ⟨fun same => different (congrArg token same), before⟩

theorem infix_of_infix_foldl_fill (long : ∀ entry ∈ entries, Outgrows key entry.2)
    (found : token key <:+: entries.foldl fill uri) :
    (∀ entry ∈ entries, key ≠ entry.1.toList) ∧ token key <:+: uri := by
  induction entries generalizing uri with
  | nil => exact ⟨List.forall_mem_nil _, found⟩
  | cons entry later ih =>
      rw [List.forall_mem_cons] at long ⊢
      obtain ⟨absent, before⟩ := ih long.2 found
      obtain ⟨different, earlier⟩ := infix_of_infix_fill long.1 before
      exact ⟨⟨different, absent⟩, earlier⟩

/-- An entry has no effect after an entry whose placeholder ends the text of its own one. -/
theorem foldl_fill_of_suffix {before after : List (String × String)} {name value : String}
    (tail : '{' :: key <:+ '{' :: name.toList) (earlier : ∃ entry ∈ before, entry.1.toList = key)
    (long : ∀ entry ∈ before, Outgrows key entry.2) :
    (before ++ (name, value) :: after).foldl fill uri = (before ++ after).foldl fill uri := by
  have gone : ¬ token name.toList <:+: before.foldl fill uri := by
    intro found
    obtain ⟨more, split⟩ := tail
    have ending : token key <:+: token name.toList :=
      ⟨more, [], by rw [token, token, ← split]; simp⟩
    obtain ⟨entry, member, same⟩ := earlier
    exact (infix_of_infix_foldl_fill long (ending.trans found)).1 entry member same.symm
  rw [List.foldl_append, List.foldl_append, List.foldl_cons, fill, Text.replace_of_not_infix gone]

end

theorem exists_outgrows (key : List Char) : ∃ value, Outgrows key value := by
  have written : Percent.encodeChars (List.replicate (key.length + 2) 'x') =
      List.replicate (key.length + 2) 'x' := by
    refine Percent.encodeChars_of_isUnreserved fun c member => ?_
    rw [List.eq_of_mem_replicate member]
    rfl
  refine ⟨String.ofList (List.replicate (key.length + 2) 'x'), ?_⟩
  rw [Outgrows, String.toList_ofList, written, List.length_replicate]
  exact Nat.lt_succ_self _

section

variable {before after : List (List Char)} {later : List Char}

/-- Values for placeholders in two parts and one between them: one value for that one, and another
for all others. -/
def singleOut (before after : List (List Char)) (other value : String) : List String :=
  before.map (fun _ => other) ++ value :: after.map fun _ => other

theorem length_singleOut {route : Route} (split : route.template.names = before ++ later :: after)
    (other value : String) : (singleOut before after other value).length = route.arity := by
  have count := congrArg List.length split
  rw [← map_toList_placeholders, List.length_map] at count
  rw [Route.arity, count]
  simp [singleOut]

theorem zip_singleOut {route : Route} (split : route.template.names = before ++ later :: after)
    (other value : String) :
    route.placeholders.zip (singleOut before after other value) =
      before.map (fun name => (String.ofList name, other)) ++
        (String.ofList later, value) :: after.map fun name => (String.ofList name, other) := by
  have names : route.placeholders =
      before.map String.ofList ++ String.ofList later :: after.map String.ofList := by
    rw [← List.map_cons, ← List.map_append, ← split]
    rfl
  rw [names, singleOut, List.zip_append (by simp), List.zip_cons_cons, List.zip_map', List.zip_map']

theorem length_spell_singleOut {route : Route}
    (split : route.template.names = before ++ later :: after) (other value : String) :
    (route.template.spell (encodedValues (singleOut before after other value))).length =
      route.template.literals.flatten.length +
        (encodedValues (singleOut before after other "")).flatten.length +
        (Percent.encodeChars value.toList).length := by
  have slots : (encodedValues (singleOut before after other value)).length =
      route.template.slots.length := by
    rw [encodedValues, List.length_map, length_singleOut split, Route.arity, length_placeholders]
  have count := Template.countP_spell (fun _ => true) slots
  simp only [List.countP_true] at count
  rw [count]
  simp only [encodedValues, singleOut, List.map_append, List.map_cons, List.flatten_append,
    List.flatten_cons, List.length_append]
  have nothing : (Percent.encodeChars "".toList).length = 0 := rfl
  omega

/-- If an earlier placeholder ends the text of a later one, the value of that one is lost. -/
theorem not_fillsOwn {route : Route} {earlier : List Char}
    (split : route.template.names = before ++ later :: after) (member : earlier ∈ before)
    (tail : '{' :: earlier <:+ '{' :: later) : ¬ FillsOwn route := by
  intro own
  obtain ⟨long, outgrows⟩ := exists_outgrows earlier
  -- Whatever the value of the later placeholder is, the same URI is built.
  have built (value : String) :
      (before.map (fun name => (String.ofList name, long)) ++
          after.map fun name => (String.ofList name, long)).foldl fill
        (fragmentMark :: route.pattern.toList) =
      fragmentMark :: route.template.spell (encodedValues (singleOut before after long value)) := by
    have arity := length_singleOut split long value
    have whole : route.build (singleOut before after long value) = .ok _ := if_pos arity
    rw [own _ arity, Except.ok.injEq, String.ofList_inj, fillAll, zip_singleOut split,
      foldl_fill_of_suffix (String.toList_ofList.symm ▸ tail)
        ⟨_, List.mem_map_of_mem member, String.toList_ofList⟩] at whole
    · exact whole.symm
    · intro entry inside
      obtain ⟨name, -, rfl⟩ := List.mem_map.mp inside
      exact outgrows
  have lengths := congrArg List.length (List.cons.inj ((built "").symm.trans (built "x"))).2
  rw [length_spell_singleOut split, length_spell_singleOut split] at lengths
  exact absurd (Nat.add_left_cancel lengths) (by decide)

end

theorem pairwise_token_iff {names : List (List Char)} :
    names.Pairwise (fun earlier later => ¬ '{' :: earlier <:+ '{' :: later) ↔
      names.Nodup ∧ names.Pairwise fun earlier later => ¬ '{' :: earlier <:+ later := by
  rw [List.Nodup, ← List.pairwise_and_iff]
  refine List.Pairwise.iff fun {earlier later} => ?_
  rw [List.suffix_cons_iff, not_or, List.cons.injEq, ne_eq]
  tauto

/-- Building by position writes each value into its own placeholder, whatever the values are, exactly
if the names are distinct and none of them ends with an opening brace and an earlier one. -/
theorem fillsOwn_iff (route : Route) :
    FillsOwn route ↔ route.placeholders.Nodup ∧ route.template.IsApartInOrder := by
  rw [← nodup_names_iff, Template.IsApartInOrder, ← pairwise_token_iff]
  constructor
  · intro own
    rw [List.pairwise_iff_forall_sublist]
    intro earlier later pair tail
    obtain ⟨before, rest, split, member, single⟩ := List.cons_sublist_iff.mp pair
    obtain ⟨between, after, rfl⟩ := List.append_of_mem (List.singleton_sublist.mp single)
    rw [← List.append_assoc] at split
    exact not_fillsOwn split (List.mem_append_left _ member) tail own
  · intro apart values arity
    obtain ⟨distinct, inOrder⟩ := pairwise_token_iff.mp apart
    have whole : route.build values = .ok _ := if_pos arity
    rw [whole, fillAll_zip (nodup_names_iff.mp distinct) inOrder arity]

/-- The route of `/{b}/{a{b}`. -/
def nested : Route := .ofPattern 1 "/{b}/\x7ba{b}"

/-- The second placeholder is lost here, because the first one stands inside of it. -/
theorem not_fillsOwn_nested :
    nested.placeholders = ["b", "a\x7bb"] ∧ nested.build ["1", "2"] = .ok "#/1/\x7ba1" ∧
      String.ofList (fragmentMark :: nested.template.spell (encodedValues ["1", "2"])) = "#/1/2" ∧
      ¬ nested.FillsOwn := by
  have built : nested.build ["1", "2"] = .ok "#/1/\x7ba1" := by decide
  have spelled : String.ofList (fragmentMark :: nested.template.spell (encodedValues ["1", "2"])) =
      "#/1/2" := by decide
  refine ⟨by decide, built, spelled, fun own => ?_⟩
  have same := own ["1", "2"] (by decide)
  rw [built, spelled] at same
  exact absurd same (by decide)

end Route

end UriRouting
