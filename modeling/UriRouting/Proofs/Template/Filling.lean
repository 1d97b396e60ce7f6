import Mathlib
import UriRouting.Route
import UriRouting.Proofs.Params.Entries
import UriRouting.Proofs.Percent.RoundTrip
import UriRouting.Proofs.Template.Cut
import UriRouting.Proofs.Template.Division
import UriRouting.Proofs.Text.Occurrence

/-! # Writing values into a pattern

Values are written one after the other, each by replacing the text of its placeholder in what has
been made so far. The result is that of writing all values at once, each into the placeholders of its
name, because the text of a placeholder begins nowhere else: not in a literal, whose braces are never
closed, not in a value, which has no braces, and not inside another placeholder, unless the name of
that one ends with an opening brace and the name that is looked for.
-/

namespace UriRouting.Template

open Route (token)

section Replacing

variable {key new : List Char}

theorem eq_open_of_occurs {c : Char} {rest : List Char} (occurs : token key <+: c :: rest) :
    c = '{' ∧ key ++ ['}'] <+: rest := by
  obtain ⟨same, tail⟩ := List.cons_prefix_cons.mp occurs
  exact ⟨same.symm, tail⟩

theorem replace_append_of_not_mem {before : List Char} (absent : '{' ∉ before)
    (rest : List Char) :
    Text.replace (token key) new (before ++ rest) =
      before ++ Text.replace (token key) new rest := by
  induction before with
  | nil => rfl
  | cons c before ih =>
      simp only [List.mem_cons, not_or] at absent
      have stays : ¬ token key <+: c :: (before ++ rest) :=
        fun occurs => absent.1 (eq_open_of_occurs occurs).1.symm
      rw [List.cons_append, Text.replace_cons_of_not_prefix stays, ih absent.2, List.cons_append]

/-- The text of a placeholder does not begin in a text in front of a closing brace, unless that text
ends with it. -/
theorem replace_append_close {text : List Char} (noClose : '}' ∉ key) (inside : '}' ∉ text)
    (other : ¬ '{' :: key <:+ text) (rest : List Char) :
    Text.replace (token key) new (text ++ '}' :: rest) =
      text ++ '}' :: Text.replace (token key) new rest := by
  induction text with
  | nil =>
      have stays : ¬ token key <+: '}' :: rest :=
        fun occurs => absurd (eq_open_of_occurs occurs).1 (by decide)
      rw [List.nil_append, Text.replace_cons_of_not_prefix stays, List.nil_append]
  | cons c text ih =>
      simp only [List.mem_cons, not_or] at inside
      rw [List.suffix_cons_iff, not_or] at other
      have stays : ¬ token key <+: c :: (text ++ '}' :: rest) := by
        intro occurs
        obtain ⟨rfl, more, split⟩ := eq_open_of_occurs occurs
        have ends := Text.cut_append noClose more
        rw [List.append_assoc, List.singleton_append] at split
        rw [split, Text.cut_append inside.2] at ends
        exact other.1 (congrArg ('{' :: ·) (Prod.ext_iff.mp ends).1.symm)
      rw [List.cons_append, Text.replace_cons_of_not_prefix stays, ih inside.2 other.2,
        List.cons_append]

theorem replace_token_of_ne {name : List Char} (noClose : '}' ∉ key) (inside : '}' ∉ name)
    (different : name ≠ key) (other : ¬ '{' :: key <:+ name) (rest : List Char) :
    Text.replace (token key) new (token name ++ rest) =
      token name ++ Text.replace (token key) new rest := by
  have open_ : '}' ∉ '{' :: name := by simpa using inside
  have suffix : ¬ '{' :: key <:+ '{' :: name := by
    rw [List.suffix_cons_iff, not_or]
    exact ⟨fun same => different (List.cons.inj same).2.symm, other⟩
  have written : ∀ tail, token name ++ tail = '{' :: name ++ '}' :: tail := by simp [token]
  rw [written, written, replace_append_close noClose open_ suffix]

theorem holdsToken_of_infix {text : List Char} (inside : token key <:+: text) :
    HoldsToken text := by
  obtain ⟨before, after, rfl⟩ := inside
  exact ⟨before, key ++ '}' :: after, by simp [token], by simp⟩

end Replacing

/-- What stands for a placeholder: its value, or its own text as long as it has none. -/
def standIn (value? : List Char → Option (List Char)) (name : List Char) : List Char :=
  (value? name).getD (token name)

/-- The pattern with the given values written in, all at once. -/
def write (value? : List Char → Option (List Char)) (template : Template) : List Char :=
  template.spell (template.names.map (standIn value?))

theorem write_nil (value? : List Char → Option (List Char)) (head : List Char) :
    write value? ⟨head, []⟩ = head :=
  List.append_nil head

theorem write_cons (value? : List Char → Option (List Char)) (head : List Char) (slot : Slot)
    (slots : List Slot) :
    write value? ⟨head, slot :: slots⟩ =
      head ++ (standIn value? slot.name ++ write value? ⟨slot.literal, slots⟩) := rfl

theorem write_none (template : Template) : write (fun _ => none) template = template.render := by
  obtain ⟨head, slots⟩ := template
  induction slots generalizing head with
  | nil => exact (write_nil _ head).trans (List.append_nil head).symm
  | cons slot slots ih =>
      rw [write_cons, ih]
      simp [render, renderSlot, standIn, token]

def assign (value? : List Char → Option (List Char)) (key new name : List Char) :
    Option (List Char) :=
  (value? name).or (if name = key then some new else none)

theorem replace_standIn {value? : List Char → Option (List Char)} {key new name : List Char}
    (values : ∀ text, value? name = some text → '{' ∉ text) (noClose : '}' ∉ key)
    (inside : '}' ∉ name) (apart : value? name = none → ¬ '{' :: key <:+ name)
    (rest : List Char) :
    Text.replace (token key) new (standIn value? name ++ rest) =
      standIn (assign value? key new) name ++ Text.replace (token key) new rest := by
  unfold standIn assign
  cases value : value? name with
  | some text => exact replace_append_of_not_mem (values text value) rest
  | none =>
      by_cases wanted : name = key
      · subst wanted
        rw [if_pos rfl]
        exact Text.replace_append (List.cons_ne_nil _ _) new rest
      · rw [if_neg wanted]
        exact replace_token_of_ne noClose inside wanted (apart value) rest

/-- Replacing the text of a placeholder writes its value. Only the placeholders that still have no
value must be told apart from it. -/
theorem replace_write {template : Template} {value? : List Char → Option (List Char)}
    {key new : List Char} (cut : template.IsCut)
    (values : ∀ name text, value? name = some text → '{' ∉ text) (noClose : '}' ∉ key)
    (apart : ∀ name ∈ template.names, value? name = none → ¬ '{' :: key <:+ name) :
    Text.replace (token key) new (template.write value?) =
      template.write (assign value? key new) := by
  obtain ⟨head, slots⟩ := template
  induction slots generalizing head with
  | nil =>
      rw [isCut_nil_iff] at cut
      rw [write_nil, write_nil, Text.replace_of_not_infix (mt holdsToken_of_infix cut)]
  | cons slot slots ih =>
      obtain ⟨noOpen, inside, cut⟩ := isCut_cons_iff.mp cut
      have first := apart slot.name List.mem_cons_self
      have later := ih slot.literal cut fun name member => apart name (List.mem_cons_of_mem _ member)
      rw [write_cons, write_cons, replace_append_of_not_mem noOpen,
        replace_standIn (values slot.name) noClose inside first, later]

def written (entries : List (String × String)) (name : List Char) : Option (List Char) :=
  (entries.lookup (String.ofList name)).map fun value => Percent.encodeChars value.toList

theorem written_eq_none_iff {entries : List (String × String)} {name : List Char} :
    written entries name = none ↔ name ∉ entries.map fun entry => entry.1.toList := by
  rw [written, Option.map_eq_none_iff, lookup_eq_none_iff, List.mem_map, List.mem_map]
  refine not_congr (exists_congr fun entry => and_congr_right fun _ => ?_)
  rw [← String.toList_inj, String.toList_ofList]

theorem assign_written (value? : List Char → Option (List Char)) (entry : String × String)
    (entries : List (String × String)) (name : List Char) :
    (assign value? entry.1.toList (Percent.encodeChars entry.2.toList) name).or
        (written entries name) =
      (value? name).or (written (entry :: entries) name) := by
  obtain ⟨key, value⟩ := entry
  have same : (String.ofList name == key) = decide (name = key.toList) := by
    rw [Bool.beq_eq_decide_eq, decide_eq_decide, ← String.toList_inj, String.toList_ofList]
  unfold assign written
  rw [Option.or_assoc, List.lookup_cons, same]
  by_cases found : name = key.toList <;> simp [found]

theorem foldl_fill_write {template : Template} (cut : template.IsCut)
    {entries : List (String × String)} (noClose : ∀ entry ∈ entries, '}' ∉ entry.1.toList)
    {value? : List Char → Option (List Char)}
    (apart : ∀ before entry after, entries = before ++ entry :: after →
      ∀ name ∈ template.names, (value? name).or (written before name) = none →
        ¬ '{' :: entry.1.toList <:+ name)
    (values : ∀ name text, value? name = some text → '{' ∉ text) :
    entries.foldl Route.fill (template.write value?) =
      template.write fun name => (value? name).or (written entries name) := by
  induction entries generalizing value? with
  | nil => simp [written]
  | cons entry later ih =>
      have first : ∀ name ∈ template.names, value? name = none → ¬ '{' :: entry.1.toList <:+ name := by
        intro name member open_
        exact apart [] entry later rfl name member (by rw [open_]; rfl)
      rw [List.foldl_cons, Route.fill, replace_write cut values (noClose entry List.mem_cons_self)
        first, ih fun other member => noClose other (List.mem_cons_of_mem _ member)]
      · simp only [assign_written]
      · intro before other after split name member open_
        rw [assign_written] at open_
        exact apart (entry :: before) other after (by rw [split, List.cons_append]) name member open_
      · intro name text assigned
        unfold assign at assigned
        rcases Option.or_eq_some_iff.mp assigned with kept | ⟨-, new⟩
        · exact values name text kept
        · split at new
          · rw [← Option.some.inj new]
            exact Percent.not_mem_encodeChars (by decide) _
          · cases new

/-- Filling the placeholders of a route one after the other writes all values at once, if no
placeholder that is still to be filled ends like the one whose turn it is. -/
theorem fillAll_eq_of_turns (route : Route) {entries : List (String × String)}
    (noClose : ∀ entry ∈ entries, '}' ∉ entry.1.toList)
    (apart : ∀ before entry after, entries = before ++ entry :: after →
      ∀ name ∈ route.template.names, written before name = none →
        ¬ '{' :: entry.1.toList <:+ name) :
    route.fillAll entries = Route.fragmentMark :: route.template.write (written entries) := by
  have pattern : Route.fragmentMark :: route.pattern.toList =
      (consChar Route.fragmentMark route.template).write fun _ => none := by
    rw [write_none, render_consChar, Route.template, render_ofChars]
  have cut : (consChar Route.fragmentMark route.template).IsCut :=
    isCut_consChar (by decide) (isCut_ofChars _)
  rw [Route.fillAll, pattern, foldl_fill_write cut noClose ?_ (by simp)]
  · simp only [Option.none_or]
    rfl
  · simp only [Option.none_or]
    exact apart

theorem fillAll_eq (route : Route) {entries : List (String × String)}
    (noClose : ∀ entry ∈ entries, '}' ∉ entry.1.toList)
    (apart : ∀ entry ∈ entries, ∀ name ∈ route.template.names,
      ¬ '{' :: entry.1.toList <:+ name) :
    route.fillAll entries = Route.fragmentMark :: route.template.write (written entries) := by
  refine fillAll_eq_of_turns route noClose ?_
  rintro before entry after rfl name member -
  exact apart entry (List.mem_append_right _ List.mem_cons_self) name member

end UriRouting.Template
