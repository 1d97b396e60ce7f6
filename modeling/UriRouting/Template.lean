import UriRouting.Text.Split

/-! # Patterns cut into literals and placeholders

A pattern is literal text with placeholders in it. A placeholder is a name between braces, and the
name is whatever stands there up to the closing brace: it may be empty, and it may hold an opening
brace. An opening brace that is never closed is literal text, and so is a closing brace that
closes nothing.

Whether an opening brace begins a placeholder depends on what follows it. So a pattern is read from
its end: for what follows each character there are two readings, as plain text and as the inside of
a placeholder that is open, and the character before it chooses.
-/

namespace UriRouting

/-- A placeholder and the literal text after it, up to the next placeholder or to the end. -/
structure Slot where
  name : List Char
  literal : List Char
  deriving Repr, DecidableEq

/-- The literal text before the first placeholder, and the placeholders. -/
structure Template where
  head : List Char
  slots : List Slot
  deriving Repr, DecidableEq

namespace Template

def cons (name : List Char) (after : Template) : Template :=
  ⟨[], ⟨name, after.head⟩ :: after.slots⟩

/-- A literal character in front of a template. -/
def consChar (c : Char) (after : Template) : Template :=
  ⟨c :: after.head, after.slots⟩

structure Reading where
  plain : Template
  /-- Inside of a placeholder: the rest of its name, and the template after its closing brace, if the
  text closes it. -/
  inside : Option (List Char × Template)

/-- The two readings of a text. -/
def read : List Char → Reading
  | [] => ⟨⟨[], []⟩, none⟩
  | c :: rest =>
    let after := read rest
    { plain :=
        if c = '{' then
          match after.inside with
          | some (name, template) => cons name template
          | none => consChar c after.plain
        else consChar c after.plain
      inside :=
        if c = '}' then some ([], after.plain)
        else after.inside.map fun (name, template) => (c :: name, template) }

/-- The template of a pattern (`_PLACEHOLDER_RE`). -/
def ofChars (pattern : List Char) : Template :=
  (read pattern).plain

def names (template : Template) : List (List Char) :=
  template.slots.map Slot.name

def renderSlot (slot : Slot) : List Char :=
  '{' :: slot.name ++ '}' :: slot.literal

/-- The pattern with the given literals and placeholders. -/
def render (template : Template) : List Char :=
  template.head ++ template.slots.flatMap renderSlot

/-- Inside of a placeholder, the name ends at the first closing brace. -/
theorem inside_read (text : List Char) :
    (read text).inside = (Text.cut '}' text).2.map (((Text.cut '}' text).1, ofChars ·)) := by
  induction text with
  | nil => rfl
  | cons c rest ih =>
    by_cases hc : c = '}'
    · simp [read, Text.cut, hc, ofChars]
    · simp [read, Text.cut, hc, ih, Function.comp_def]

theorem ofChars_open {rest name after : List Char}
    (h : Text.cut '}' rest = (name, some after)) :
    ofChars ('{' :: rest) = cons name (ofChars after) := by
  simp [ofChars, read, inside_read, h]

theorem ofChars_unclosed {rest text : List Char} (h : Text.cut '}' rest = (text, none)) :
    ofChars ('{' :: rest) = consChar '{' (ofChars rest) := by
  simp [ofChars, read, inside_read, h]

theorem ofChars_literal {c : Char} (h : c ≠ '{') (rest : List Char) :
    ofChars (c :: rest) = consChar c (ofChars rest) := by
  simp [ofChars, read, h]

theorem render_cons (name : List Char) (after : Template) :
    (cons name after).render = '{' :: name ++ '}' :: after.render := by
  simp [cons, render, renderSlot]

theorem render_consChar (c : Char) (after : Template) :
    (consChar c after).render = c :: after.render := rfl

/-- Nothing of a pattern is lost when it is cut. -/
theorem render_ofChars (pattern : List Char) : (ofChars pattern).render = pattern := by
  match pattern with
  | [] => rfl
  | c :: rest =>
    by_cases hc : c = '{'
    · subst hc
      match h : Text.cut '}' rest with
      | (name, some after) =>
        have hrest := Text.eq_of_cut_some h
        have shorter : after.length < ('{' :: rest).length := by simp [hrest]; omega
        rw [ofChars_open h, render_cons, render_ofChars after, hrest]
        simp
      | (_, none) => rw [ofChars_unclosed h, render_consChar, render_ofChars rest]
    · rw [ofChars_literal hc, render_consChar, render_ofChars rest]
termination_by pattern.length

end Template

end UriRouting
