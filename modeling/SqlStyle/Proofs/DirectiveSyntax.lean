import Mathlib.Data.List.Basic
import Mathlib.Data.List.TakeWhile
import SqlStyle.Directive

/-! # The syntax of directives

A directive is written as white space, a verb, white space, names in parentheses and any tail; each
name stands between white space of its own, and commas part them. `Form` is such a text taken apart,
with the proofs that its parts are what they are called, `Form.chars` puts it together again, and
`Form.directive` is what it says. Reading a comment accepts exactly the texts of forms and returns
what they say (`parse?_eq_some_iff_form`), so no text has two meanings.

The parts keep to themselves because their characters do: white space is no part of a name, and
neither holds a comma or a parenthesis. -/

namespace SqlStyle.Directive

/-- White space, possibly none. -/
structure Gap where
  chars : List Char
  isSpace : ∀ c ∈ chars, Text.isSpace c = true

/-- A name with the white space around it. -/
structure Item where
  before : Gap
  name : String
  after : Gap
  name_ne : name ≠ ""
  isWord : ∀ c ∈ name.toList, Text.isWordChar c = true ∨ c = '-'

def Item.chars (i : Item) : List Char := i.before.chars ++ i.name.toList ++ i.after.chars

def word : Direction → List Char
  | .disable => ['N', 'O', 'L', 'I', 'N', 'T']
  | .enable => ['L', 'I', 'N', 'T']

/-- A directive as it is written. -/
structure Form where
  front : Gap
  direction : Direction
  gap : Gap
  first : Item
  others : List Item
  tail : List Char

namespace Form

def items (f : Form) : List Item := f.first :: f.others

def inside (f : Form) : List Char := [','].intercalate (f.items.map Item.chars)

def chars (f : Form) : List Char :=
  f.front.chars ++ (word f.direction ++ (f.gap.chars ++ '(' :: (f.inside ++ ')' :: f.tail)))

def directive (f : Form) : Directive := ⟨f.direction, f.items.map Item.name⟩

end Form

/-! ## Characters -/

theorem isNameChar_iff (c : Char) : isNameChar c = true ↔ Text.isWordChar c = true ∨ c = '-' := by
  rw [isNameChar, Bool.or_eq_true, beq_iff_eq]

theorem isWord_of_all {cs : List Char} (h : cs.all isNameChar = true) :
    ∀ c ∈ cs, Text.isWordChar c = true ∨ c = '-' :=
  fun c hc => (isNameChar_iff c).mp (List.all_eq_true.mp h c hc)

theorem mem_of_inRanges {ranges : List (Nat × Nat)} {n : Nat} (h : inRanges ranges n = true) :
    n ∈ ranges.flatMap fun r => List.range' r.1 (r.2 + 1 - r.1) := by
  obtain ⟨r, hr, hn⟩ := List.any_eq_true.mp h
  rw [Bool.and_eq_true, decide_eq_true_eq, decide_eq_true_eq] at hn
  exact List.mem_flatMap.mpr ⟨r, hr, List.mem_range'_1.mpr (by omega)⟩

theorem isNameChar_of_isSpace {c : Char} (h : Text.isSpace c = true) : isNameChar c = false := by
  -- there are few spaces, so each is tried
  have hall : ∀ n ∈ ([(0x09, 0x0D), (0x1C, 0x20), (0x85, 0x85), (0xA0, 0xA0), (0x1680, 0x1680),
      (0x2000, 0x200A), (0x2028, 0x2029), (0x202F, 0x202F), (0x205F, 0x205F), (0x3000, 0x3000)] :
        List (Nat × Nat)).flatMap (fun r => List.range' r.1 (r.2 + 1 - r.1)),
      isNameChar (Char.ofNat n) = false := by
    decide +kernel
  simpa using hall c.toNat (mem_of_inRanges h)

/-- Neither white space nor a name holds a comma or a parenthesis. -/
theorem plain_of_item {i : Item} {c : Char} (h : c ∈ i.chars) : c ≠ ',' ∧ c ≠ '(' ∧ c ≠ ')' := by
  have hspace : ∀ c, Text.isSpace c = true → c ≠ ',' ∧ c ≠ '(' ∧ c ≠ ')' := by
    refine fun c hc => ⟨?_, ?_, ?_⟩ <;> rintro rfl <;> exact absurd hc (by decide)
  have hname : ∀ c, isNameChar c = true → c ≠ ',' ∧ c ≠ '(' ∧ c ≠ ')' := by
    refine fun c hc => ⟨?_, ?_, ?_⟩ <;> rintro rfl <;> exact absurd hc (by decide +kernel)
  rw [Item.chars, List.mem_append, List.mem_append] at h
  rcases h with (h | h) | h
  · exact hspace c (i.before.isSpace c h)
  · exact hname c ((isNameChar_iff c).mpr (i.isWord c h))
  · exact hspace c (i.after.isSpace c h)

theorem mem_intercalate {a c : Char} {pieces : List (List Char)} (h : c ∈ [a].intercalate pieces) :
    c = a ∨ ∃ piece ∈ pieces, c ∈ piece := by
  induction pieces with
  | nil => cases h
  | cons piece pieces ih =>
    cases pieces with
    | nil => exact .inr ⟨piece, List.mem_cons_self, by simpa using h⟩
    | cons next pieces =>
      rw [List.intercalate_cons_cons, List.mem_append, List.mem_append, List.mem_singleton] at h
      rcases h with (h | h) | h
      · exact .inr ⟨piece, List.mem_cons_self, h⟩
      · exact .inl h
      · refine (ih h).imp_right ?_
        rintro ⟨other, hm, hc⟩
        exact ⟨other, List.mem_cons_of_mem _ hm, hc⟩

theorem Form.plain_inside (f : Form) : ∀ c ∈ f.inside, c ≠ '(' ∧ c ≠ ')' := by
  intro c hc
  rcases mem_intercalate hc with rfl | ⟨piece, hpiece, hc⟩
  · decide
  · obtain ⟨i, _, rfl⟩ := List.mem_map.mp hpiece
    exact (plain_of_item hc).2

/-! ## What each step of the reading takes -/

theorem dropWhile_append {p : Char → Bool} {front rest : List Char}
    (hfront : ∀ c ∈ front, p c = true) (hrest : ∀ c ∈ rest.head?, p c = false) :
    (front ++ rest).dropWhile p = rest := by
  rw [List.dropWhile_append_of_pos hfront]
  cases rest with
  | nil => rfl
  | cons c rest => rw [List.dropWhile_cons_of_neg (by simp [hrest c rfl])]

theorem exists_gap (cs : List Char) : ∃ g : Gap, cs = g.chars ++ cs.dropWhile Text.isSpace :=
  ⟨⟨cs.takeWhile Text.isSpace, fun _ hc => List.mem_takeWhile_imp hc⟩,
    List.takeWhile_append_dropWhile.symm⟩

theorem afterWord?_eq_some_iff {w cs rest : List Char} :
    afterWord? w cs = some rest ↔ cs = w ++ rest := by
  fun_induction afterWord? w cs with
  | case1 cs => simp
  | case2 c w cs ih => simp [ih]
  | case3 v w c cs hne => simp [Ne.symm hne]
  | case4 v w => simp

theorem verb?_eq_some_iff {cs rest : List Char} {d : Direction} :
    verb? cs = some (d, rest) ↔ cs = word d ++ rest := by
  constructor
  · intro h
    obtain ⟨v, hv, hrest⟩ := List.exists_of_findSome?_eq_some h
    obtain ⟨r, hr, heq⟩ := Option.map_eq_some_iff.mp hrest
    obtain ⟨rfl, rfl⟩ := Prod.mk.inj heq
    have hword : v.1 = word v.2 := by
      simp only [verbs, List.mem_cons, List.not_mem_nil, or_false] at hv
      rcases hv with rfl | rfl <;> rfl
    rw [← hword]
    exact afterWord?_eq_some_iff.mp hr
  · rintro rfl
    cases d <;> simp [verb?, verbs, afterWord?, word]

theorem parenthesized?_eq_some_iff {cs inside : List Char} :
    parenthesized? cs = some inside ↔
      (∀ c ∈ inside, c ≠ '(' ∧ c ≠ ')') ∧ ∃ tail, cs = '(' :: (inside ++ ')' :: tail) := by
  constructor
  · intro h
    unfold parenthesized? at h
    split at h
    · rename_i cs
      split at h
      · rename_i hclose
        cases h
        refine ⟨fun c hc => by simpa using List.mem_takeWhile_imp hc, ?_⟩
        obtain ⟨tail, htail⟩ := List.head?_eq_some_iff.mp hclose
        exact ⟨tail, by rw [← htail, List.takeWhile_append_dropWhile]⟩
      · cases h
    · cases h
  · rintro ⟨hplain, tail, rfl⟩
    have hinside : ∀ c ∈ inside, (c != '(' && c != ')') = true := fun c hc => by
      simpa using hplain c hc
    have hclose : ∀ c ∈ (')' :: tail).head?, (c != '(' && c != ')') = false := by simp
    rw [parenthesized?, dropWhile_append hinside hclose, List.takeWhile_append_of_pos hinside]
    simp

theorem splitAll_eq_splitOn (a : Char) (cs : List Char) :
    Text.splitAll (· == a) cs = cs.splitOn a := by
  induction cs with
  | nil => rfl
  | cons c cs ih =>
    rw [List.splitOn_eq_splitOnP] at ih ⊢
    rw [List.splitOnP_cons_eq_if_modifyHead, Text.splitAll, ih]
    cases hpieces : cs.splitOnP (· == a) with
    | nil => exact absurd hpieces (List.splitOnP_ne_nil _ _)
    | cons piece pieces => rfl

/-! ## Names between white space -/

theorem Item.name_toList_ne (i : Item) : i.name.toList ≠ [] :=
  fun h => i.name_ne (String.toList_eq_nil_iff.mp h)

theorem Item.isName (i : Item) : Directive.isName i.name.toList = true := by
  have hall : i.name.toList.all isNameChar = true :=
    List.all_eq_true.mpr fun c hc => (isNameChar_iff c).mpr (i.isWord c hc)
  simp [Directive.isName, i.name_toList_ne, hall]

theorem Item.trim_chars (i : Item) : Text.trim Text.isSpace i.chars = i.name.toList := by
  have hname : ∀ c ∈ i.name.toList, Text.isSpace c = false := by
    intro c hc
    rw [Bool.eq_false_iff]
    intro hspace
    have hno := isNameChar_of_isSpace hspace
    rw [(isNameChar_iff c).mpr (i.isWord c hc)] at hno
    cases hno
  have hfirst : ∀ c ∈ (i.name.toList ++ i.after.chars).head?, Text.isSpace c = false := by
    intro c hc
    rw [List.head?_append_of_ne_nil _ i.name_toList_ne] at hc
    exact hname c (List.mem_of_mem_head? hc)
  have hlast : ∀ c ∈ i.name.toList.reverse.head?, Text.isSpace c = false :=
    fun c hc => hname c (List.mem_reverse.mp (List.mem_of_mem_head? hc))
  have hafter : ∀ c ∈ i.after.chars.reverse, Text.isSpace c = true :=
    fun c hc => i.after.isSpace c (List.mem_reverse.mp hc)
  rw [Text.trim, Item.chars, List.append_assoc, dropWhile_append i.before.isSpace hfirst,
    List.reverse_append, dropWhile_append hafter hlast, List.reverse_reverse]

/-- A piece that holds a name once it is trimmed is a name with white space around it. -/
theorem exists_item {piece : List Char}
    (h : Directive.isName (Text.trim Text.isSpace piece) = true) :
    ∃ i : Item, i.chars = piece ∧ i.name = String.ofList (Text.trim Text.isSpace piece) := by
  obtain ⟨before, hbefore⟩ := exists_gap piece
  obtain ⟨after, hafter⟩ := exists_gap (piece.dropWhile Text.isSpace).reverse
  rw [Directive.isName, Bool.and_eq_true, Bool.not_eq_true', List.isEmpty_eq_false_iff] at h
  refine ⟨⟨before, String.ofList (Text.trim Text.isSpace piece), ⟨after.chars.reverse, ?_⟩, ?_, ?_⟩,
    ?_, rfl⟩
  · exact fun c hc => after.isSpace c (List.mem_reverse.mp hc)
  · exact fun hempty => h.1 (by simpa using hempty)
  · rw [String.toList_ofList]
    exact isWord_of_all h.2
  · have hmiddle := congrArg List.reverse hafter
    rw [List.reverse_reverse, List.reverse_append] at hmiddle
    simp only [Item.chars, String.toList_ofList, Text.trim, List.append_assoc]
    rw [← hmiddle, ← hbefore]

theorem exists_items {pieces : List (List Char)}
    (h : ∀ piece ∈ pieces, Directive.isName (Text.trim Text.isSpace piece) = true) :
    ∃ items : List Item, items.map Item.chars = pieces ∧
      items.map Item.name = pieces.map fun piece =>
          String.ofList (Text.trim Text.isSpace piece) := by
  induction pieces with
  | nil => exact ⟨[], rfl, rfl⟩
  | cons piece pieces ih =>
    obtain ⟨i, hchars, hname⟩ := exists_item (h piece List.mem_cons_self)
    obtain ⟨items, hitems, hnames⟩ := ih fun other hm => h other (List.mem_cons_of_mem _ hm)
    exact ⟨i :: items, by rw [List.map_cons, hchars, hitems],
      by rw [List.map_cons, List.map_cons, hname, hnames]⟩

/-! ## Reading and writing -/

/-- Reading a comment goes through three steps: the verb, the parentheses, the names. -/
theorem parse?_eq_some {comment : String} {d : Directive} :
    parse? comment = some d ↔ ∃ rest inside,
      verb? (comment.toList.dropWhile Text.isSpace) = some (d.direction, rest) ∧
      parenthesized? (rest.dropWhile Text.isSpace) = some inside ∧
      (∀ piece ∈ inside.splitOn ',', Directive.isName (Text.trim Text.isSpace piece) = true) ∧
      d.names = (inside.splitOn ',').map fun piece =>
          String.ofList (Text.trim Text.isSpace piece) := by
  obtain ⟨direction, names⟩ := d
  simp only [parse?, Option.bind_eq_bind, Option.bind_eq_some_iff, splitAll_eq_splitOn, Prod.exists]
  constructor
  · rintro ⟨verb, rest, hverb, inside, hinside, h⟩
    split at h
    · rename_i hnames
      cases h
      refine ⟨rest, inside, hverb, hinside, ?_, ?_⟩
      · simpa using hnames
      · simp
    · cases h
  · rintro ⟨rest, inside, hverb, hinside, hnames, rfl⟩
    refine ⟨direction, rest, hverb, inside, hinside, ?_⟩
    rw [if_pos (by simpa using hnames)]
    simp

theorem parse?_chars (f : Form) : parse? (String.ofList f.chars) = some f.directive := by
  have hverb : verb? (f.chars.dropWhile Text.isSpace) =
      some (f.direction, f.gap.chars ++ '(' :: (f.inside ++ ')' :: f.tail)) := by
    rw [Form.chars, dropWhile_append f.front.isSpace, verb?_eq_some_iff]
    cases f.direction <;> simp [word] <;> decide
  have hparen : parenthesized?
      ((f.gap.chars ++ '(' :: (f.inside ++ ')' :: f.tail)).dropWhile Text.isSpace) =
      some f.inside := by
    rw [dropWhile_append f.gap.isSpace (by simp; decide), parenthesized?_eq_some_iff]
    exact ⟨f.plain_inside, f.tail, rfl⟩
  have hsplit : f.inside.splitOn ',' = f.items.map Item.chars := by
    refine List.splitOn_intercalate ',' ?_ (by simp [Form.items])
    intro piece hpiece hcomma
    obtain ⟨i, _, rfl⟩ := List.mem_map.mp hpiece
    exact (plain_of_item hcomma).1 rfl
  refine parse?_eq_some.mpr ⟨_, f.inside, ?_, hparen, ?_, ?_⟩
  · rw [String.toList_ofList]
    exact hverb
  · rw [hsplit]
    intro piece hpiece
    obtain ⟨i, _, rfl⟩ := List.mem_map.mp hpiece
    rw [i.trim_chars]
    exact i.isName
  · rw [hsplit, List.map_map]
    refine List.map_congr_left fun i _ => ?_
    rw [Function.comp_apply, i.trim_chars, String.ofList_toList]

theorem exists_form {comment : String} {d : Directive} (h : parse? comment = some d) :
    ∃ f : Form, f.chars = comment.toList ∧ f.directive = d := by
  obtain ⟨rest, inside, hverb, hparen, hnames, hd⟩ := parse?_eq_some.mp h
  obtain ⟨front, hfront⟩ := exists_gap comment.toList
  obtain ⟨gap, hgap⟩ := exists_gap rest
  obtain ⟨_, tail, htail⟩ := parenthesized?_eq_some_iff.mp hparen
  obtain ⟨items, hitems, hitemNames⟩ := exists_items hnames
  cases items with
  | nil =>
    exact absurd hitems.symm (List.splitOnP_ne_nil _ _)
  | cons first others =>
    refine ⟨⟨front, d.direction, gap, first, others, tail⟩, ?_, ?_⟩
    · have hinside : [','].intercalate ((first :: others).map Item.chars) = inside := by
        rw [hitems, List.intercalate_splitOn]
      rw [Form.chars, Form.inside, Form.items, hinside, ← htail, ← hgap,
        ← verb?_eq_some_iff.mp hverb, ← hfront]
    · rw [Form.directive, Form.items, hitemNames, ← hd]

/-- **Directives are read exactly as they are written.** A comment is read as a directive just if it
is the text of a form that says it. Forms with the same text say the same, verb and names in order,
so there is nothing to choose; and any form, whatever its verb, names, white space and tail, is read
back. -/
theorem parse?_eq_some_iff_form :
    (∀ (comment : String) (d : Directive),
      parse? comment = some d ↔ ∃ f : Form, f.chars = comment.toList ∧ f.directive = d) ∧
    (∀ f g : Form, f.chars = g.chars →
      f.direction = g.direction ∧ f.items.map Item.name = g.items.map Item.name) ∧
    ∀ f : Form, parse? (String.ofList f.chars) = some ⟨f.direction, f.items.map Item.name⟩ := by
  refine ⟨?_, ?_, parse?_chars⟩
  · intro comment d
    refine ⟨exists_form, ?_⟩
    rintro ⟨f, hchars, rfl⟩
    have hread := parse?_chars f
    rwa [hchars, String.ofList_toList] at hread
  · intro f g hchars
    have hf := parse?_chars f
    rw [hchars, parse?_chars g] at hf
    obtain ⟨hdirection, hnames⟩ := Directive.mk.inj (Option.some.inj hf)
    exact ⟨hdirection.symm, hnames.symm⟩

/-- White space of several kinds around names with a hyphen and a letter beyond ASCII, and a tail
that holds parentheses and a line end. -/
theorem parse?_eq_some_iff_form_tail :
    let blank : Gap := ⟨[' ', '\u2003'], List.all_eq_true.mp (by decide)⟩
    let none : Gap := ⟨[], List.all_eq_true.mp rfl⟩
    let a : Item := ⟨none, "a-1", blank, by decide, isWord_of_all (by decide +kernel)⟩
    let b : Item := ⟨blank, "b_é", none, by decide, isWord_of_all (by decide +kernel)⟩
    let f : Form := ⟨blank, .disable, none, a, [b], [')', '(', '\n']⟩
    f.chars = [' ', '\u2003', 'N', 'O', 'L', 'I', 'N', 'T', '(', 'a', '-', '1', ' ', '\u2003', ',',
      ' ', '\u2003', 'b', '_', 'é', ')', ')', '(', '\n'] ∧
    parse? (String.ofList f.chars) = some ⟨.disable, ["a-1", "b_é"]⟩ ∧
    ∀ g : Form, f.chars = g.chars →
        g.direction = .disable ∧ g.items.map Item.name = ["a-1", "b_é"] := by
  intro blank none a b f
  obtain ⟨-, hunique, hread⟩ := parse?_eq_some_iff_form
  refine ⟨by decide, hread f, ?_⟩
  intro g hg
  obtain ⟨hdirection, hnames⟩ := hunique f g hg
  exact ⟨hdirection.symm, hnames.symm⟩

end SqlStyle.Directive
