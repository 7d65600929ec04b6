import SqlStyle.Proofs.Promises
import SqlStyle.Settings.Load

/-! # The library that the program runs with keeps its promises

Without keyword arguments of its own, the library looks variables up as the class of settings says.
It then takes the value of a field from the first source that names it (`collect_of_collectible`),
reads each value on its own (`Schema.validate_eq_ok`, `Schema.mem_validate_errors`), and so does all
that a settings library promises (`Library.standard_documented`). -/

namespace SqlStyle

theorem lookup_cons_ite {α : Type} (key : String) (e : String × α) (rest : List (String × α)) :
    (e :: rest).lookup key = if key = e.1 then some e.2 else rest.lookup key := by
  rw [List.lookup_cons]
  split <;> simp_all

theorem find?_reverse_of_length_filter {α : Type} {p : α → Bool} {xs : List α}
    (h : (xs.filter p).length ≤ 1) : xs.reverse.find? p = xs.find? p := by
  rw [← List.head?_filter, ← List.head?_filter, List.filter_reverse]
  match xs.filter p, h with
  | [], _ => rfl
  | [x], _ => rfl

theorem mapM_of_ok {ε α β : Type} {f : α → Except ε β} {g : α → β} {xs : List α}
    (h : ∀ x ∈ xs, f x = .ok (g x)) : xs.mapM f = .ok (xs.map g) := by
  induction xs with
  | nil => rfl
  | cons x xs ih =>
    obtain ⟨hx, hxs⟩ := List.forall_mem_cons.mp h
    rw [List.mapM_cons, hx, ih hxs]
    rfl

/-! ## Text files -/

theorem utf8_decode_eq_ok {contents : ByteArray} {text : String}
    (h : String.fromUTF8? contents = some text) : Encoding.utf8.decode contents = .ok text := by
  unfold Encoding.decode Utf8.decode
  rw [h]
  rfl

namespace Lookup

/-! ## The usual lookup -/

/-- How variables are looked up if no keyword argument changes it. -/
def usual : Lookup := ofConfiguration Settings.configuration

theorem ofArguments_of_avoids {args : Entries} (h : args.Avoids keywords) :
    ofArguments Settings.configuration args = .ok usual := by
  simp only [Entries.Avoids, keywords, List.forall_mem_cons] at h
  simp only [ofArguments, checkLimit, stemIn, targetsFields, isOn, text?, given?, h]
  rfl

theorem checkArguments_of_avoids {args : Entries} (h : args.Avoids keywords) :
    checkArguments args = .ok () := by
  have hkey : args.lookup "_cli_parse_args" = none := h _ (by decide)
  simp only [checkArguments, given?, hkey]

theorem envText_usual {contents : ByteArray} {text : String}
    (h : String.fromUTF8? contents = some text) : usual.envText contents = .ok text := by
  have hname : Encoding.ofName? "utf-8" = some .utf8 := by decide +kernel
  calc usual.envText contents
      = ((Encoding.ofName? "utf-8").elim (.error (.unknownEncoding "utf-8")) .ok >>= fun encoding =>
          (encoding.decode contents).mapError .undecodable) := rfl
    _ = .ok text := by simp only [hname, Option.elim, bind, Except.bind, utf8_decode_eq_ok h]; rfl

/-- The environment file is looked for where the class of settings says. -/
theorem envTexts_usual {o : Outside} {bound : EnvFile.Bound}
    (h : Library.standard.fileBound? o = some bound) :
    ∃ texts, usual.envTexts o.look = .ok texts ∧
      texts.flatMap (EnvFile.parse o.vars) = bound := by
  have hpath : pathOf (.text ".env") = .ok (Path.ofString ".env") := by
    unfold pathOf
    exact if_pos (by decide +kernel)
  have hpaths : pathsIn usual.envFiles = .ok [.text ".env"] := rfl
  simp only [envTexts, hpaths, bind, Except.bind, List.mapM_cons, List.mapM_nil, hpath]
  have hfile : Path.ofString Settings.configuration.envFile = Path.ofString ".env" := rfl
  unfold Library.fileBound? at h
  rw [hfile] at h
  cases hlook : o.look (Path.ofString ".env") with
  | none =>
    rw [hlook] at h
    cases h
    exact ⟨[], rfl, rfl⟩
  | some entry =>
    rw [hlook] at h
    cases entry with
    | directory entries =>
      cases h
      exact ⟨[], rfl, rfl⟩
    | file contents =>
      obtain ⟨text, htext, rfl⟩ := Option.map_eq_some_iff.mp h
      obtain ⟨bytes, rfl, hbytes⟩ := Option.bind_eq_some_iff.mp htext
      exact ⟨[text], by simp only [envText_usual hbytes]; rfl, List.append_nil _⟩

/-! ## Variables by field -/

variable {vars : EnvFile.Bound} {field : String}

theorem variableEntry_usual (honce : Settings.NamesOnce vars)
    (hfield : field ∈ Settings.fieldNames) :
    variableEntry usual vars field =
      (Settings.variableText vars field).elim (.ok none) (entryOf field) := by
  have hvalue : usual.value? vars ("SQLLINT_" ++ field) = Settings.variableText vars field := by
    have hcounts : (fun v : String × Option String => usual.counts v &&
        usual.key v.1 == usual.key ("SQLLINT_" ++ field)) =
        fun v => Settings.isNamedFor field v.1 := rfl
    rw [value?, hcounts, find?_reverse_of_length_filter (honce field hfield)]
    rfl
  have hname : usual.variableName field = .ok ("SQLLINT_" ++ field) := rfl
  simp only [variableEntry, hname, bind, Except.bind, hvalue]
  cases Settings.variableText vars field with
  | none => simp [hasParts, usual, ofConfiguration]
  | some value => simp [usual, ofConfiguration]

theorem entryOf_of_ne (h : field ≠ "disabled_rules") (text : String) :
    entryOf field text = .ok (some (field, .text text)) := by
  simp [entryOf, h]

/-- A variable that can be read says what its text says. -/
theorem variableEntry_of_isReadable (honce : Settings.NamesOnce vars)
    (h : Library.standard.IsReadable vars) (hfield : field ∈ Settings.fieldNames) :
    variableEntry usual vars field =
      .ok ((Library.standard.variableValue vars field).map (field, ·)) := by
  rw [variableEntry_usual honce hfield, Library.variableValue]
  cases htext : Settings.variableText vars field with
  | none => rfl
  | some text =>
    by_cases hrules : field = "disabled_rules"
    · subst hrules
      obtain ⟨d, hd⟩ := Option.isSome_iff_exists.mp (h text htext)
      have hjson : Json.parse? text = some d := hd
      cases d <;> simp [entryOf, Library.datumOf, hd, hjson]
    · simp [entryOf_of_ne hrules, Library.datumOf, hrules]

/-- What variables say about all fields, as entries of a table. -/
def variableEntries (vars : EnvFile.Bound) : Entries :=
  Settings.fieldNames.filterMap fun field =>
    (Library.standard.variableValue vars field).map (field, ·)

theorem eachField_of_isReadable (honce : Settings.NamesOnce vars)
    (h : Library.standard.IsReadable vars) :
    eachField (variableEntry usual vars) = .ok (variableEntries vars) := by
  have hentries := mapM_of_ok fun field hfield => variableEntry_of_isReadable honce h hfield
  simp only [eachField, hentries, bind, Except.bind, List.filterMap_map, variableEntries]
  rfl

/-! ## All sources -/

theorem lowerAscii_of_mem_fieldNames :
    ∀ name ∈ Settings.fieldNames, Text.lowerAscii name = name := by
  decide +kernel

theorem valueIn_cons (field : String) (e : String × Datum) (rest : Entries) :
    valueIn field (e :: rest) =
      if Text.lowerAscii e.1 = field then some e.2 else valueIn field rest := by
  by_cases h : Text.lowerAscii e.1 = field <;> simp [valueIn, h]

theorem valueIn_of_isDeclared {entries : Entries} (h : entries.IsDeclared)
    (hfield : field ∈ Settings.fieldNames) : valueIn field entries = entries.lookup field := by
  induction entries with
  | nil => rfl
  | cons e rest ih =>
    obtain ⟨hfirst, hrest⟩ := List.forall_mem_cons.mp h
    have hiff : Text.lowerAscii e.1 = field ↔ field = e.1 := by
      constructor
      · intro hname
        have hmem := hfirst (hname ▸ hfield)
        rw [← hname, lowerAscii_of_mem_fieldNames _ hmem]
      · intro hname
        rw [← hname, lowerAscii_of_mem_fieldNames _ hfield]
    rw [valueIn_cons, ih hrest, lookup_cons_ite]
    simp only [hiff]

/-- The entries with given values say what the values are. -/
theorem lookup_filterMap (names : List String) (value : String → Option Datum) (field : String) :
    (names.filterMap fun name => (value name).map (name, ·)).lookup field =
      if field ∈ names then value field else none := by
  induction names with
  | nil => rfl
  | cons name names ih =>
    cases hvalue : value name with
    | none =>
      rw [List.filterMap_cons_none (by simp [hvalue]), ih]
      grind
    | some d =>
      rw [List.filterMap_cons_some (by rw [hvalue]; rfl), lookup_cons_ite, ih]
      grind

theorem isDeclared_variableEntries (vars : EnvFile.Bound) : (variableEntries vars).IsDeclared := by
  intro e he _
  obtain ⟨field, hfield, hentry⟩ := List.mem_filterMap.mp he
  obtain ⟨d, -, rfl⟩ := Option.map_eq_some_iff.mp hentry
  exact hfield

/-- Variables say about a field what their value for it is. -/
theorem valueIn_variableEntries (vars : EnvFile.Bound) (hfield : field ∈ Settings.fieldNames) :
    valueIn field (variableEntries vars) = Library.standard.variableValue vars field := by
  rw [valueIn_of_isDeclared (isDeclared_variableEntries vars) hfield, variableEntries,
    lookup_filterMap, if_pos hfield]

/-- The value considered for a field where values can be collected. -/
def valueOf (o : Outside) (args : Entries) (bound : EnvFile.Bound) (field : String) :
    Option Datum :=
  args.lookup field <|> Library.standard.variableValue o.bound field <|>
    Library.standard.variableValue bound field

variable {o : Outside} {args : Entries} {bound : EnvFile.Bound}

/-- Where values can be collected, there is one for each field that some source names. -/
theorem collect_of_collectible (h : Library.standard.Collectible o args bound) :
    collect Settings.configuration o args = .ok (Settings.fieldNames.filterMap fun field =>
      (considered [args, variableEntries o.bound, variableEntries bound, []] field).map
        (field, ·)) := by
  obtain ⟨texts, htexts, rfl⟩ := envTexts_usual h.file
  have hvars : (o.vars.map fun v => (v.1, some v.2)) = o.bound := rfl
  have hloose (file : EnvFile.Bound) : looseEntries usual file = [] := rfl
  simp only [collect, ofArguments_of_avoids h.args_own, checkArguments_of_avoids h.args_own, htexts,
    hvars, eachField_of_isReadable h.vars_once h.vars_readable,
    eachField_of_isReadable h.bound_once h.bound_readable, hloose, bind, Except.bind]
  rfl

theorem lookup_of_collects {values : Entries} (h : Library.standard.Collects o args bound values)
    (f : Settings.Field) : values.lookup f.name = valueOf o args bound f.name := by
  have hvalues := Except.ok.inj (h.collected.symm.trans (collect_of_collectible h.toCollectible))
  rw [hvalues, lookup_filterMap, if_pos f.name_mem]
  simp only [considered, List.findSome?_cons, valueIn_of_isDeclared h.args_declared f.name_mem,
    valueIn_variableEntries _ f.name_mem, valueOf]
  cases args.lookup f.name <;> cases Library.standard.variableValue o.bound f.name <;>
    cases Library.standard.variableValue bound f.name <;> rfl

end Lookup

/-! ## Validation -/

namespace Schema

variable {schema : Schema} {values : Entries}

/-- Settings with given values. -/
def ofParts : (Settings.Field.lineDelimiter.Value × Settings.Field.lineLimit.Value ×
      Settings.Field.allowedIndent.Value × Settings.Field.tabSize.Value) ×
      (Settings.Field.singleQuote.Value × Settings.Field.upperKeyword.Value) ×
      Settings.Field.dialect.Value × Settings.Field.disabledRules.Value ×
      Settings.Field.debug.Value → Settings
  | ((lineDelimiter, lineLimit, allowedIndent, tabSize), (singleQuote, upperKeyword),
      (dialect, disabledRules, debug)) =>
    { dialect, lineDelimiter, lineLimit, allowedIndent, tabSize, singleQuote, upperKeyword,
      disabledRules, debug }

theorem validate_eq (schema : Schema) (values : Entries) :
    schema.validate values = Checked.sorted ((Checked.both
      (Checked.both (schema.reading values .lineDelimiter) (Checked.both
        (schema.reading values .lineLimit) (Checked.both
          (schema.reading values .allowedIndent) (schema.reading values .tabSize))))
      (Checked.both
        (Checked.both (schema.reading values .singleQuote) (schema.reading values .upperKeyword))
        (Checked.both (schema.reading values .dialect) (Checked.both
          (schema.reading values .disabledRules) (schema.reading values .debug))))).map ofParts) :=
  rfl

/-- Settings are made just if every field is read, and then have the values read. -/
theorem validate_eq_ok {s : Settings} : schema.validate values = .ok s ↔
    ∀ f : Settings.Field, schema.reading values f = .ok (f.get s) := by
  rw [validate_eq, Checked.sorted_eq_ok, Checked.map_eq_ok]
  simp only [Checked.both_eq_ok]
  constructor
  · rintro ⟨⟨⟨delimiter, limit, indent, tab⟩, ⟨quote, upper⟩, dialect, rules, debug⟩, hok, rfl⟩
    obtain ⟨⟨hdelimiter, hlimit, hindent, htab⟩, ⟨hquote, hupper⟩, hdialect, hrules, hdebug⟩ := hok
    intro f
    cases f <;> assumption
  · intro h
    refine ⟨((s.lineDelimiter, s.lineLimit, s.allowedIndent, s.tabSize),
      (s.singleQuote, s.upperKeyword), s.dialect, s.disabledRules, s.debug), ?_, rfl⟩
    exact ⟨⟨h .lineDelimiter, h .lineLimit, h .allowedIndent, h .tabSize⟩,
      ⟨h .singleQuote, h .upperKeyword⟩, h .dialect, h .disabledRules, h .debug⟩

theorem mem_validate_errors {e : FieldError} : e ∈ (schema.validate values).errors ↔
    ∃ f : Settings.Field, e ∈ (schema.reading values f).errors := by
  rw [validate_eq, Checked.mem_errors_sorted, Checked.errors_map]
  simp only [Checked.errors_both, List.mem_append]
  constructor
  · grind
  · rintro ⟨f, hf⟩
    cases f <;> simp [hf]

theorem reading_eq_ok {f : Settings.Field} {v : f.Value} : schema.reading values f = .ok v ↔
    (values.lookup f.name).elim (v = f.get schema.base) fun d => schema.rule f d = .ok v := by
  unfold reading
  cases values.lookup f.name with
  | none => exact ⟨fun h => (Except.ok.inj h).symm, fun h => congrArg Except.ok h.symm⟩
  | some d => exact Iff.rfl

theorem mem_reading_errors {f : Settings.Field} {e : FieldError} :
    e ∈ (schema.reading values f).errors ↔
      ∃ d, values.lookup f.name = some d ∧ e ∈ (schema.rule f d).errors := by
  unfold reading
  cases values.lookup f.name with
  | none => exact ⟨nofun, nofun⟩
  | some d => simp

end Schema

/-! ## Conversions -/

theorem readTexts_located {location : String} {d : Datum} {errors : List FieldError}
    (h : d.readTexts location = .error errors) : errors ≠ [] ∧ ∀ e ∈ errors,
      e.location = location ∨ ∃ rest, e.location = location ++ "." ++ rest := by
  unfold Datum.readTexts at h
  split at h
  · refine Checked.all_eq_error (fun c hc es hes => ?_) h
    obtain ⟨p, -, rfl⟩ := List.mem_map.mp hc
    obtain ⟨complaint, rfl⟩ := Checked.ofField_eq_error hes
    refine ⟨by simp, fun e he => .inr ⟨toString p.2, ?_⟩⟩
    rw [List.mem_singleton.mp he]
    rfl
  · cases h
    exact ⟨by simp, fun e he => .inl (by rw [List.mem_singleton.mp he])⟩

/-! ## All promises -/

/-- The library that the program runs with does what its documentation says. -/
theorem Library.standard_documented : Library.standard.Documented where
  collects h := ⟨_, h, Lookup.collect_of_collectible h⟩
  arguments_first h f d hd :=
    ⟨d, by rw [Lookup.lookup_of_collects h, Lookup.valueOf, hd]; rfl, .refl d⟩
  environment_next h f d hargs hd :=
    ⟨d, by rw [Lookup.lookup_of_collects h, Lookup.valueOf, hargs, hd]; rfl, .refl d⟩
  file_last h f d hargs hvars hd :=
    ⟨d, by rw [Lookup.lookup_of_collects h, Lookup.valueOf, hargs, hvars, hd]; rfl, .refl d⟩
  nothing_else h f hargs hvars hbound := by
    rw [Lookup.lookup_of_collects h, Lookup.valueOf, hargs, hvars, hbound]
    rfl
  tables_refused entries := ⟨nofun, nofun, nofun, nofun, nofun⟩
  texts_located h := readTexts_located h
  validate_ok := Schema.validate_eq_ok.trans (forall_congr' fun _ => Schema.reading_eq_ok)
  validate_error {schema values errors} h e := by
    have herrors : (schema.validate values).errors = errors := by
      rw [show schema.validate values = .error errors from h, Checked.errors]
    rw [← herrors, Schema.mem_validate_errors]
    exact exists_congr fun _ => Schema.mem_reading_errors

end SqlStyle
