import SqlStyle.Settings.Library

/-! # What fields take

A field takes a value from a datum if the library converts the datum and the value is one that the
field may have: a number above zero, a single character, a space or a tab (`Field.Takes`). The rules
of the fields accept exactly this (`rule_eq_ok`), and each complaint names its field
(`Field.ofField_error`). -/

namespace SqlStyle

theorem exists_eq_ok_of_toOption {ε α β : Type} {x : Except ε α} {f : α → β} {y : β}
    (h : x.toOption.map f = some y) : ∃ a, x = .ok a ∧ f a = y := by
  cases x with
  | error e => cases h
  | ok a => exact ⟨a, rfl, Option.some.inj h⟩

theorem mapError_eq_ok {ε ε' α : Type} {x : Except ε α} {f : ε → ε'} {a : α} :
    x.mapError f = .ok a ↔ x = .ok a := by
  cases x with
  | error e => exact ⟨nofun, nofun⟩
  | ok b => exact ⟨fun h => congrArg _ (Except.ok.inj h), fun h => congrArg _ (Except.ok.inj h)⟩

/-- The error that stands in place of a value. -/
def errorOf? {ε α : Type} : Except ε α → Option ε
  | .ok _ => none
  | .error e => some e

theorem exists_eq_error_of_errorOf? {ε α β : Type} {x : Except ε α} {f : ε → β} {y : β}
    (h : (errorOf? x).map f = some y) : ∃ e, x = .error e ∧ f e = y := by
  cases x with
  | error e => exact ⟨e, rfl, Option.some.inj h⟩
  | ok a => cases h

namespace Checked

variable {α β : Type}

theorem both_eq_ok {a : Checked α} {b : Checked β} {p : α × β} :
    both a b = .ok p ↔ a = .ok p.1 ∧ b = .ok p.2 := by
  cases p
  cases a <;> cases b <;> simp [both]

theorem errors_both (a : Checked α) (b : Checked β) : (both a b).errors = a.errors ++ b.errors := by
  cases a <;> cases b <;> simp [both, errors]

theorem map_eq_ok {ε : Type} {a : Except ε α} {f : α → β} {y : β} :
    a.map f = .ok y ↔ ∃ x, a = .ok x ∧ f x = y := by
  cases a <;> simp [Except.map]

theorem errors_map {a : Checked α} {f : α → β} : errors (Except.map f a) = a.errors := by
  cases a <;> rfl

theorem sorted_eq_ok {a : Checked α} {x : α} : a.sorted = .ok x ↔ a = .ok x := by
  cases a with
  | ok y => exact Iff.rfl
  | error es => exact ⟨nofun, nofun⟩

theorem mem_errors_sorted {a : Checked α} {e : FieldError} :
    e ∈ a.sorted.errors ↔ e ∈ a.errors := by
  cases a with
  | ok y => exact Iff.rfl
  | error es => exact List.mem_mergeSort

theorem ofField_eq_ok {location : String} {r : Except Complaint α} {x : α} :
    ofField location r = .ok x ↔ r = .ok x :=
  mapError_eq_ok

theorem ofField_eq_error {location : String} {r : Except Complaint α} {es : List FieldError}
    (h : ofField location r = .error es) : ∃ complaint, es = [⟨location, complaint⟩] := by
  cases r with
  | ok x => cases h
  | error complaint => cases h; exact ⟨complaint, rfl⟩

/-- All that is wrong with a list is what is wrong with its items. -/
theorem errors_all (cs : List (Checked α)) : (all cs).errors = cs.flatMap errors := by
  induction cs with
  | nil => rfl
  | cons c cs ih => rw [all, errors_map, errors_both, ih, List.flatMap_cons]

theorem all_ne_error_nil {cs : List (Checked α)} (h : ∀ c ∈ cs, c ≠ .error []) :
    all cs ≠ .error [] := by
  induction cs with
  | nil => simp [all]
  | cons c cs ih =>
    obtain ⟨hc, hrest⟩ := List.forall_mem_cons.mp h
    have hall := ih hrest
    cases c <;> cases hcs : all cs <;> simp_all [all, both, Except.map]

/-- A list that fails has complaints, and they are what those of its items are. -/
theorem all_eq_error {cs : List (Checked α)} {P : FieldError → Prop}
    (h : ∀ c ∈ cs, ∀ es, c = .error es → es ≠ [] ∧ ∀ e ∈ es, P e) {errors : List FieldError}
    (hall : all cs = .error errors) : errors ≠ [] ∧ ∀ e ∈ errors, P e := by
  constructor
  · rintro rfl
    exact all_ne_error_nil (fun c hc hnil => (h c hc [] hnil).1 rfl) hall
  · intro e he
    have herrors := errors_all cs
    rw [hall, Checked.errors] at herrors
    rw [herrors] at he
    obtain ⟨c, hc, he⟩ := List.mem_flatMap.mp he
    cases hresult : c with
    | ok x => rw [hresult] at he; cases he
    | error es => rw [hresult] at he; exact (h c hc es hresult).2 e he

end Checked

/-- The field that a complaint is about, be it about the field itself or about an item of it. -/
def FieldError.field (e : FieldError) : String :=
  String.ofList (e.location.toList.takeWhile (· != '.'))

namespace Settings

namespace Field

/-- A field has a value for a datum. -/
def Takes (lib : Library) : (f : Field) → Datum → f.Value → Prop
  | dialect, d, v => lib.choice (Dialect.all.map Dialect.name) d = .ok (Dialect.name v)
  | lineDelimiter, d, c => lib.text d = .ok (String.singleton c)
  | lineLimit, d, n => lib.integer d = .ok (Positive.val n)
  | allowedIndent, d, i => lib.text d = .ok (String.singleton (Indent.char i))
  | tabSize, d, none => d = .null
  | tabSize, d, some n => d ≠ .null ∧ lib.integer d = .ok (Positive.val n)
  | singleQuote, d, b => lib.boolean d = .ok b
  | upperKeyword, d, b => lib.boolean d = .ok b
  | disabledRules, d, names => lib.texts "disabled_rules" d = .ok names
  | debug, d, b => lib.boolean d = .ok b

/-- What is given for a field is valid; that nothing is given always is. -/
def Accepts (lib : Library) (f : Field) (d : Option Datum) : Prop :=
  ∀ given ∈ d, ∃ v, f.Takes lib given v

/-- A field has the value of what is given for it, and else its default. -/
def Has (lib : Library) (f : Field) (d : Option Datum) (s : Settings) : Prop :=
  d.elim (f.get s = f.get {}) fun given => f.Takes lib given (f.get s)

theorem mem_all (f : Field) : f ∈ all := by cases f <;> decide

theorem name_mem (f : Field) : f.name ∈ fieldNames := List.mem_map_of_mem f.mem_all

/-- A location that is the name of a field, or goes on after it with a dot, is that of the field. -/
theorem field_of_location (f : Field) {e : FieldError} {rest : List Char}
    (h : e.location.toList = f.name.toList ++ rest) (hrest : rest.takeWhile (· != '.') = []) :
    e.field = f.name := by
  have hplain : f.name.toList.all (· != '.') = true := by cases f <;> decide
  rw [FieldError.field, h, List.takeWhile_append_of_pos (List.all_eq_true.mp hplain), hrest,
    List.append_nil, String.ofList_toList]

theorem ofField_error (f : Field) {α : Type} {r : Except Complaint α} {es : List FieldError}
    (h : Checked.ofField f.name r = .error es) : es ≠ [] ∧ ∀ e ∈ es, e.field = f.name := by
  obtain ⟨complaint, rfl⟩ := Checked.ofField_eq_error h
  refine ⟨by simp, fun e he => ?_⟩
  obtain rfl := List.mem_singleton.mp he
  exact f.field_of_location (List.append_nil _).symm rfl

end Field

/-! ## Rules -/

section Rules

variable {lib : Library} {d : Datum}

theorem positive_eq_ok {n : Positive} : positive lib d = .ok n ↔ lib.integer d = .ok n.val := by
  unfold positive
  cases h : lib.integer d with
  | error complaint => simp [bind, Except.bind]
  | ok m =>
    obtain ⟨k, hk⟩ := n
    simp only [bind, Except.bind, Except.ok.injEq]
    split <;> simp <;> omega

theorem singleton_eq_iff {s : String} {c : Char} : s = String.singleton c ↔ s.toList = [c] := by
  rw [← String.toList_inj, String.toList_singleton]

theorem delimiter_eq_ok {c : Char} :
    delimiter lib d = .ok c ↔ lib.text d = .ok (String.singleton c) := by
  unfold delimiter
  cases lib.text d with
  | error complaint => simp [bind, Except.bind]
  | ok s =>
    simp only [bind, Except.bind, Except.ok.injEq, singleton_eq_iff]
    split <;> simp_all

theorem indent_eq_ok {i : Indent} :
    indent lib d = .ok i ↔ lib.text d = .ok (String.singleton i.char) := by
  unfold indent
  cases lib.text d with
  | error complaint => simp [bind, Except.bind]
  | ok s =>
    simp only [bind, Except.bind, Except.ok.injEq, singleton_eq_iff]
    split <;> cases i <;> simp_all [Indent.char]

theorem ofName?_eq_some {name : String} {v : Dialect} :
    Dialect.ofName? name = some v ↔ name = v.name := by
  constructor
  · intro h
    have hname : (v.name == name) = true := by
      simpa using List.find?_some (show Dialect.all.find? (·.name == name) = some v from h)
    exact (beq_iff_eq.mp hname).symm
  · rintro rfl
    cases v <;> decide

theorem dialectNamed_eq_ok {v : Dialect} : dialectNamed lib d = .ok v ↔
    lib.choice (Dialect.all.map Dialect.name) d = .ok v.name := by
  unfold dialectNamed
  cases lib.choice (Dialect.all.map Dialect.name) d with
  | error complaint => simp [bind, Except.bind]
  | ok name =>
    simp only [bind, Except.bind, Except.ok.injEq, ← ofName?_eq_some]
    cases Dialect.ofName? name <;> simp

theorem readOptional_eq_none {α : Type} {read : Datum → Except Complaint α} :
    d.readOptional read = .ok none ↔ d = .null := by
  cases d with
  | null => exact ⟨fun _ => rfl, fun _ => rfl⟩
  | _ => simp [Datum.readOptional, Checked.map_eq_ok]

theorem readOptional_eq_some {α : Type} {read : Datum → Except Complaint α} {x : α} :
    d.readOptional read = .ok (some x) ↔ d ≠ .null ∧ read d = .ok x := by
  cases d with
  | null => simp [Datum.readOptional]
  | _ => simp [Datum.readOptional, Checked.map_eq_ok]

/-- The rule of a field gives the values that the field takes. -/
theorem rule_eq_ok {f : Field} {v : f.Value} : rule lib f d = .ok v ↔ f.Takes lib d v := by
  cases f with
  | dialect => exact Checked.ofField_eq_ok.trans dialectNamed_eq_ok
  | lineDelimiter => exact Checked.ofField_eq_ok.trans delimiter_eq_ok
  | lineLimit => exact Checked.ofField_eq_ok.trans positive_eq_ok
  | allowedIndent => exact Checked.ofField_eq_ok.trans indent_eq_ok
  | tabSize =>
    cases v with
    | none => exact Checked.ofField_eq_ok.trans readOptional_eq_none
    | some n =>
      exact Checked.ofField_eq_ok.trans
        (readOptional_eq_some.trans (and_congr_right' positive_eq_ok))
  | singleQuote => exact Checked.ofField_eq_ok
  | upperKeyword => exact Checked.ofField_eq_ok
  | disabledRules => exact Iff.rfl
  | debug => exact Checked.ofField_eq_ok

instance (f : Field) (d : Option Datum) : Decidable (f.Accepts lib d) :=
  decidable_of_iff ((d.all fun given => (rule lib f given).toBool) = true) <| by
    cases d with
    | none => simp [Field.Accepts]
    | some given =>
      simp only [Field.Accepts, ← rule_eq_ok]
      cases h : rule lib f given <;> simp [h, Except.toBool]

end Rules

end Settings

end SqlStyle
