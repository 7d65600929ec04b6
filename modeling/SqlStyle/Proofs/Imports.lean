import Mathlib.Data.List.Nodup
import SqlStyle.Proofs.Exactness
import SqlStyle.Proofs.Offsets.Text

/-! # Imports: typed, grouped and unique

Every `IMPORT` in the code says what it imports, or it is reported where it stands. The others make
up a row of kinds and names. An import is *regrouped* if its kind differs from the one before it and
occurs earlier, and *repeated* if its name occurs earlier; the check reports the regrouped ones
where their kind starts and the repeated ones where their name starts, each once and in the order of
the row (`imports_exact`). Hence none is reported as regrouped iff the imports of each kind stand
together, and none as repeated iff all names differ. -/

namespace SqlStyle

/-! ## Words -/

namespace Text

/-- Letters that no capital form of several characters is made of alone. -/
def plainLetters : List Char := ['P', 'R', 'O', 'T', 'M', 'D', 'U', 'L', 'E']

theorem expansion_leaves_plainLetters :
    ∀ e ∈ caseExpansions, ∃ n ∈ e.2, Char.ofNat n ∉ plainLetters := by
  decide +kernel

/-- A character becomes one character, or one that is no plain letter is among those it becomes. -/
theorem upperChar_plain {c : Char} (h : ∀ d ∈ upperChar c, d ∈ plainLetters) :
    (upperChar c).length = 1 := by
  unfold upperChar at h ⊢
  split
  · rfl
  · split
    · rfl
    · split
      · rename_i ns hns
        rw [hns] at h
        simp only [*, if_false] at h
        obtain ⟨before, after, hsplit, -⟩ := List.lookup_eq_some_iff.mp hns
        have hmem : (c.toNat, ns) ∈ caseExpansions := by rw [hsplit]; simp
        obtain ⟨n, hn, hout⟩ := expansion_leaves_plainLetters _ hmem
        exact absurd (h _ (List.mem_map_of_mem hn)) hout
      · rfl

/-- A word whose capitals are plain letters keeps its length in upper case. -/
theorem length_of_upper_plain {word : String} (h : ∀ d ∈ (upper word).toList, d ∈ plainLetters) :
    (upper word).length = word.length := by
  rw [upper, String.toList_ofList] at h
  rw [upper, String.length_ofList, List.length_flatMap, ← String.length_toList]
  have hone : word.toList.map (fun c => (upperChar c).length) = word.toList.map fun _ => 1 :=
    List.map_congr_left fun c hc => upperChar_plain fun d hd =>
      h d (List.mem_flatMap.mpr ⟨c, hc, hd⟩)
  rw [hone, List.map_const', List.sum_replicate_nat, Nat.mul_one]

end Text

namespace Scan

/-- Where the word read forward from `p` starts. -/
def wordStart (t : Text) (p : Nat) : Nat := t.runEnd (fun c => c == ' ' || c == '\t') p

/-- A word read forward stops as many characters behind its start as it has. -/
theorem nextWord_stop {t : Text} {p : Nat} (h : p ≤ t.size) :
    (nextWord t p).2 = wordStart t p + (nextWord t p).1.length := by
  have hstart := Text.runEnd_le (fun c => c == ' ' || c == '\t') h
  have hword := t.le_runEnd (fun c => !isWordStop c) (wordStart t p)
  have hstop := Text.runEnd_le (fun c => !isWordStop c) hstart
  simp only [nextWord, Text.slice, String.length_ofList, Array.length_toList, Array.size_extract]
  simp only [wordStart] at hword ⊢
  omega

end Scan

/-! ## Rows of imports -/

/-- Entry `j` of a row differs from the entry before it, but equals an earlier one. -/
def Regrouped {α : Type} (row : List α) (j : Nat) : Prop :=
  row[j]? ≠ row[j - 1]? ∧ ∃ i < j, row[i]? = row[j]?

/-- Entry `j` of a row equals an earlier one. -/
def Repeated {α : Type} (row : List α) (j : Nat) : Prop := ∃ i < j, row[i]? = row[j]?

/-- Equal entries of a row stand together: what is between them equals them. -/
def Contiguous {α : Type} (row : List α) : Prop :=
  ∀ i j k, i < j → j < k → k < row.length → row[i]? = row[k]? → row[j]? = row[k]?

section Rows

variable {α : Type}

instance [DecidableEq α] (row : List α) (j : Nat) : Decidable (Regrouped row j) :=
  inferInstanceAs (Decidable (_ ∧ _))

instance [DecidableEq α] (row : List α) (j : Nat) : Decidable (Repeated row j) :=
  inferInstanceAs (Decidable (∃ i < j, row[i]? = row[j]?))

/-- Whether an entry is repeated does not depend on what follows. -/
theorem repeated_append {row : List α} {j : Nat} (h : j < row.length) (more : List α) :
    Repeated (row ++ more) j ↔ Repeated row j := by
  refine exists_congr fun i => and_congr_right fun hi => ?_
  rw [List.getElem?_append_left (by omega), List.getElem?_append_left h]

theorem regrouped_append {row : List α} {j : Nat} (h : j < row.length) (more : List α) :
    Regrouped (row ++ more) j ↔ Regrouped row j := by
  refine and_congr ?_ (repeated_append h more)
  rw [List.getElem?_append_left h, List.getElem?_append_left (by omega)]

/-- The entry behind a row is repeated if the row has it. -/
theorem repeated_concat (row : List α) (a : α) : Repeated (row ++ [a]) row.length ↔ a ∈ row := by
  rw [List.mem_iff_getElem?, Repeated, List.getElem?_concat_length]
  constructor
  · rintro ⟨i, hi, heq⟩
    exact ⟨i, by rwa [List.getElem?_append_left hi] at heq⟩
  · rintro ⟨i, heq⟩
    have hi : i < row.length := (List.getElem?_eq_some_iff.mp heq).1
    exact ⟨i, hi, by rwa [List.getElem?_append_left hi]⟩

/-- The entry behind a row is regrouped if the row has it, but not as its last. -/
theorem regrouped_concat (row : List α) (a : α) :
    Regrouped (row ++ [a]) row.length ↔ a ∈ row ∧ row.getLast? ≠ some a := by
  have hrepeated := repeated_concat row a
  unfold Repeated at hrepeated
  rw [Regrouped, hrepeated, and_comm]
  refine and_congr_right fun hmem => ?_
  have hpos : 0 < row.length := List.length_pos_of_mem hmem
  rw [List.getElem?_concat_length, List.getElem?_append_left (by omega),
    ← List.getLast?_eq_getElem?]
  exact ne_comm

/-- Nothing is repeated in a row of distinct entries, and only there. -/
theorem nodup_iff_not_repeated (row : List α) : row.Nodup ↔ ∀ j < row.length, ¬ Repeated row j := by
  rw [List.nodup_iff_getElem?_ne_getElem?]
  constructor
  · rintro h j hj ⟨i, hi, heq⟩
    exact h i j hi hj heq
  · intro h i j hi hj heq
    exact h j hj ⟨i, hi, heq⟩

/-- Nothing is regrouped in a row whose equal entries stand together, and only there. -/
theorem contiguous_iff_not_regrouped (row : List α) :
    Contiguous row ↔ ∀ j < row.length, ¬ Regrouped row j := by
  constructor
  · rintro h j hj ⟨hne, i, hi, heq⟩
    have hlt : i < j - 1 := by
      have : i ≠ j - 1 := fun hij => hne (hij ▸ heq.symm)
      omega
    exact hne (h i (j - 1) j hlt (by omega) hj heq).symm
  · intro h i j k hij hjk
    -- an entry that equals one before `j` is not regrouped, so it equals the one right before it,
    -- down to `j`
    induction k, hjk using Nat.le_induction with
    | base =>
      intro hk heq
      exact (by_contra fun hne => h (j + 1) hk ⟨hne, i, by omega, heq⟩ : row[j + 1]? = row[j]?).symm
    | succ k hjk ih =>
      intro hk heq
      have hprev : row[k + 1]? = row[k]? := by_contra fun hne =>
        h (k + 1) hk ⟨hne, i, by omega, heq⟩
      rw [hprev] at heq ⊢
      exact ih (by omega) heq

end Rows

namespace Check

/-- The word `IMPORT`, in any letter case, stands at index `i`. -/
structure ImportWordAt (t : Text) (i : Nat) : Prop where
  starts : ∀ c, 0 < i → t[i - 1]? = some c → Text.isWordChar c = false
  letters : ∀ k letter, "IMPORT".toList[k]? = some letter →
    ∃ c, t[i + k]? = some c ∧ Text.isLetterIgnoringCase letter c = true
  stops : ∀ c, t[i + 6]? = some c → Text.isWordChar c = false

/-- An import that says what it imports, with the indices at which its kind and its name start. -/
structure TypedImport where
  kind : ImportKind
  kindStart : Nat
  name : String
  nameStart : Nat
deriving Repr, DecidableEq

/-- The kind and the name behind the `IMPORT` at index `i`: the two words that follow, if the first
is a kind. -/
def typedAt? (t : Text) (i : Nat) : Option TypedImport :=
  let kindWord := Scan.nextWord t (i + 6)
  (ImportKind.ofWord? kindWord.1).map fun kind =>
    { kind, kindStart := Scan.wordStart t (i + 6)
      name := (Scan.nextWord t kindWord.2).1, nameStart := Scan.wordStart t kindWord.2 }

/-! ## What is found -/

def missingType : String := "Imports should specify the type 'MODULE' or 'PROTO'."

def brokenGroup : String := "PROTO and MODULE inputs should be in separate groups."

def definedTwice (name : String) : String := "\"" ++ name ++ "\" is already defined."

theorem afterLetters?_eq_some {t : Text} {word : List Char} :
    ∀ {i j : Nat}, afterLetters? t word i = some j ↔ j = i + word.length ∧
      ∀ (k : Nat) letter, word[k]? = some letter →
        ∃ c, t[i + k]? = some c ∧ Text.isLetterIgnoringCase letter c = true := by
  induction word with
  | nil =>
    intro i j
    simp only [afterLetters?, List.length_nil, Nat.add_zero, List.getElem?_nil, reduceCtorEq,
      false_implies, implies_true, and_true, Option.some.injEq]
    exact eq_comm
  | cons first word ih =>
    intro i j
    have hletters : (∀ (k : Nat) letter, (first :: word)[k]? = some letter →
        ∃ c, t[i + k]? = some c ∧ Text.isLetterIgnoringCase letter c = true) ↔
        t[i]?.any (Text.isLetterIgnoringCase first) = true ∧
          ∀ (k : Nat) letter, word[k]? = some letter →
          ∃ c, t[i + 1 + k]? = some c ∧ Text.isLetterIgnoringCase letter c = true := by
      rw [Option.any_eq_true]
      constructor
      · intro h
        refine ⟨h 0 first rfl, fun k letter hk => ?_⟩
        rw [Nat.add_assoc, Nat.add_comm 1 k]
        exact h (k + 1) letter hk
      · rintro ⟨hfirst, hrest⟩ k letter hk
        cases k with
        | zero => cases hk; exact hfirst
        | succ k => simpa only [Nat.add_assoc, Nat.add_comm 1 k] using hrest k letter hk
    rw [afterLetters?, hletters, List.length_cons]
    split
    · rename_i hany
      rw [ih, and_iff_right hany, Nat.add_assoc, Nat.add_comm 1]
    · rename_i hany
      simp only [hany, false_and, and_false, reduceCtorEq]

theorem startsWord_iff (t : Text) (i : Nat) :
    Scan.startsWord t i = true ↔ ∀ c, 0 < i → t[i - 1]? = some c → Text.isWordChar c = false := by
  rw [Scan.startsWord, Bool.or_eq_true, beq_iff_eq, Bool.not_eq_true', Option.any_eq_false]
  constructor
  · intro h c hpos hc
    exact (h.resolve_left (by omega)) c hc
  · intro h
    exact (Nat.eq_zero_or_pos i).imp_right fun hpos c hc => h c hpos hc

theorem isImport_iff (t : Text) (i : Nat) : isImport t i = true ↔ ImportWordAt t i := by
  rw [isImport, Bool.and_eq_true, startsWord_iff, Option.any_eq_true]
  simp only [afterLetters?_eq_some, Bool.not_eq_true', Option.any_eq_false]
  constructor
  · rintro ⟨hstarts, j, ⟨rfl, hletters⟩, hstops⟩
    exact ⟨hstarts, hletters, hstops⟩
  · rintro ⟨hstarts, hletters, hstops⟩
    exact ⟨hstarts, i + 6, ⟨rfl, hletters⟩, hstops⟩

instance (t : Text) (i : Nat) : Decidable (ImportWordAt t i) :=
  decidable_of_iff _ (isImport_iff t i)

/-- The indices in the code of a document at which `IMPORT` stands. -/
def importWords (s : Source) : List Nat :=
  (Scan.code s.text s.delimiter).filter fun i => ImportWordAt s.text i

/-- The imports of a document that say what they import, in order. -/
def typedImports (s : Source) : List TypedImport := (importWords s).filterMap (typedAt? s.text)

theorem importWords_bounds {s : Source} {i : Nat} (h : i ∈ importWords s) :
    i + 6 ≤ s.text.size := by
  obtain ⟨hcode, hword⟩ := List.mem_filter.mp h
  have himport := (isImport_iff s.text i).mpr (of_decide_eq_true hword)
  exact isImport_bounds (Nat.le_of_lt (Scan.lt_size_of_mem_code hcode)) himport

theorem length_of_ofWord? {word : String} {kind : ImportKind}
    (h : ImportKind.ofWord? word = some kind) :
    word.length = kind.name.length := by
  have hupper : kind.name = Text.upper word := by simpa using List.find?_some h
  have hplain : ∀ d ∈ kind.name.toList, d ∈ Text.plainLetters := by
    cases kind with
    | protos => simp [ImportKind.name, Text.plainLetters]
    | modules => simp [ImportKind.name, Text.plainLetters]
  rw [hupper] at hplain ⊢
  exact (Text.length_of_upper_plain hplain).symm

/-- Counted back from where the words of an import stop, both start where they do. -/
theorem importAt?_eq {t : Text} {i : Nat} (h : i + 6 ≤ t.size) :
    importAt? t i = (typedAt? t i).map fun m =>
      ⟨m.kind, m.kindStart + m.kind.name.length, m.name, m.nameStart + m.name.length⟩ := by
  have hkind := Scan.nextWord_stop h
  have hname := Scan.nextWord_stop (Scan.nextWord_bounds h).2
  simp only [importAt?, typedAt?, Option.map_map]
  refine Option.map_congr fun kind hword => ?_
  simp only [Function.comp_apply, Import.mk.injEq, true_and]
  exact ⟨by rw [hkind, length_of_ofWord? hword], hname⟩

/-- What is found at the words of a document whose imports form a row, split by what it says. The
entries are those of the row that the words stand for, with their indices. -/
structure ImportsJudged (t : Text) (words : List Nat) (row : List TypedImport)
    (entries : List (TypedImport × Nat)) (found : List Finding) : Prop where
  untyped : found.filter (fun f => f.message = missingType) =
    (words.filter fun i => typedAt? t i = none).map fun (i : Nat) => ⟨i, missingType⟩
  regrouped : found.filter (fun f => f.message = brokenGroup) =
    (entries.filter fun e => Regrouped (row.map (·.kind)) e.2).map fun e =>
      ⟨e.1.kindStart, brokenGroup⟩
  repeated : found.filter (fun f => f.message ≠ missingType ∧ f.message ≠ brokenGroup) =
    (entries.filter fun e => Repeated (row.map (·.name)) e.2).map fun e =>
      ⟨e.1.nameStart, definedTwice e.1.name⟩

theorem brokenGroup_ne_missingType : brokenGroup ≠ missingType := by decide

/-- A name is told by the quote in front. -/
theorem definedTwice_ne (name : String) :
    definedTwice name ≠ missingType ∧ definedTwice name ≠ brokenGroup := by
  have hquote : (definedTwice name).toList.head? = some '"' := by simp [definedTwice]
  constructor
  · intro h
    rw [h] at hquote
    exact absurd hquote (by decide)
  · intro h
    rw [h] at hquote
    exact absurd hquote (by decide)

/-- What is to be found at entry `n` of a row. -/
def TypedImport.verdict (m : TypedImport) (row : List TypedImport) (n : Nat) : List Finding :=
  (if Regrouped (row.map (·.kind)) n then [⟨m.kindStart, brokenGroup⟩] else []) ++
  (if Repeated (row.map (·.name)) n then [⟨m.nameStart, definedTwice m.name⟩] else [])

theorem filter_found (test : Finding → Bool) (P : Prop) [Decidable P] (f : Finding) :
    (if P then [f] else []).filter test = if P ∧ test f = true then [f] else [] := by
  by_cases hP : P
  · simp [hP, List.filter_cons]
  · simp [hP]

namespace ImportsJudged

variable {t : Text} {words : List Nat} {row : List TypedImport} {entries : List (TypedImport × Nat)}
  {found : List Finding} {i : Nat}

theorem nil : ImportsJudged t [] row [] [] :=
  ⟨by simp, by simp, by simp⟩

theorem cons_untyped (h : ImportsJudged t words row entries found) (hi : typedAt? t i = none) :
    ImportsJudged t (i :: words) row entries (⟨i, missingType⟩ :: found) where
  untyped := by
    rw [List.filter_cons_of_pos (by simp), List.filter_cons_of_pos (by simp [hi]),
      List.map_cons, h.untyped]
  regrouped := by
    rw [List.filter_cons_of_neg (by simpa using brokenGroup_ne_missingType.symm), h.regrouped]
  repeated := by
    rw [List.filter_cons_of_neg (by simp), h.repeated]

theorem cons_typed (h : ImportsJudged t words row entries found) {m : TypedImport}
    (hi : typedAt? t i = some m) (n : Nat) :
    ImportsJudged t (i :: words) row ((m, n) :: entries) (m.verdict row n ++ found) where
  untyped := by
    have hverdict : (m.verdict row n).filter (fun f => f.message = missingType) = [] := by
      simp [TypedImport.verdict, filter_found, brokenGroup_ne_missingType,
        (definedTwice_ne m.name).1]
    rw [List.filter_append, hverdict, List.nil_append, h.untyped, List.filter_cons_of_neg
      (by simp [hi])]
  regrouped := by
    have hverdict : (m.verdict row n).filter (fun f => f.message = brokenGroup) =
        if Regrouped (row.map (·.kind)) n then [⟨m.kindStart, brokenGroup⟩] else [] := by
      simp [TypedImport.verdict, filter_found, (definedTwice_ne m.name).2]
    rw [List.filter_append, hverdict, h.regrouped, List.filter_cons]
    simp only [decide_eq_true_eq]
    split
    · rfl
    · rfl
  repeated := by
    have hverdict : (m.verdict row n).filter (fun f => f.message ≠ missingType ∧
        f.message ≠ brokenGroup) =
        if Repeated (row.map (·.name)) n then [⟨m.nameStart, definedTwice m.name⟩] else [] := by
      simp [TypedImport.verdict, filter_found, definedTwice_ne m.name]
    rw [List.filter_append, hverdict, h.repeated, List.filter_cons]
    simp only [decide_eq_true_eq]
    split
    · rfl
    · rfl

end ImportsJudged

/-- What is kept of the imports of a row. -/
def Imported.ofRow (row : List TypedImport) : Imported :=
  ⟨(row.map (·.kind)).reverse, (row.map (·.name)).reverse⟩

theorem Imported.ofRow_concat (row : List TypedImport) (m : TypedImport) :
    Imported.ofRow (row ++ [m]) = ⟨m.kind :: (ofRow row).kinds, m.name :: (ofRow row).names⟩ := by
  simp [ofRow]

/-- What one import is told after others is what its place behind them in the row says. -/
theorem Imported.findings_ofRow (before after : List TypedImport) (m : TypedImport) :
    (ofRow before).findings
        ⟨m.kind, m.kindStart + m.kind.name.length, m.name, m.nameStart + m.name.length⟩ =
      m.verdict (before ++ m :: after) before.length := by
  have hgroup : Regrouped ((before ++ m :: after).map (·.kind)) before.length ↔
      ((ofRow before).kinds.contains m.kind && (ofRow before).kinds.head? != some m.kind) =
          true := by
    have hconcat := regrouped_concat (before.map (·.kind)) m.kind
    rw [← regrouped_append (by simp) (after.map (·.kind)), List.length_map] at hconcat
    simpa [ofRow] using hconcat
  have hname : Repeated ((before ++ m :: after).map (·.name)) before.length ↔
      (ofRow before).names.contains m.name = true := by
    have hconcat := repeated_concat (before.map (·.name)) m.name
    rw [← repeated_append (by simp) (after.map (·.name)), List.length_map] at hconcat
    simpa [ofRow] using hconcat
  simp only [findings, TypedImport.verdict, hgroup, hname, Int.natCast_add, Int.add_sub_cancel]
  rfl

theorem importFindings_cons_untyped {t : Text} {i : Nat} (hi : i + 6 ≤ t.size)
    (htyped : typedAt? t i = none) (seen : Imported) (rest : List Nat) :
    importFindings t seen (i :: rest) = ⟨i, missingType⟩ :: importFindings t seen rest := by
  have hnone : importAt? t i = none := by rw [importAt?_eq hi, htyped, Option.map_none]
  conv_lhs => unfold importFindings
  simp only [hnone]
  rfl

theorem importFindings_cons_typed {t : Text} {i : Nat} (hi : i + 6 ≤ t.size) {m : TypedImport}
    (htyped : typedAt? t i = some m) (before after : List TypedImport) (rest : List Nat) :
    importFindings t (.ofRow before) (i :: rest) =
      m.verdict (before ++ m :: after) before.length ++
          importFindings t (.ofRow (before ++ [m])) rest := by
  have hsome := importAt?_eq hi
  rw [htyped, Option.map_some] at hsome
  rw [Imported.ofRow_concat, ← Imported.findings_ofRow before after m]
  conv_lhs => unfold importFindings
  simp only [hsome]

/-- The words behind a row of imports are judged as its continuation. -/
theorem importFindings_judged {t : Text} (words : List Nat) (hsize : ∀ i ∈ words, i + 6 ≤ t.size) :
    ∀ before : List TypedImport,
      ImportsJudged t words (before ++ words.filterMap (typedAt? t))
        ((words.filterMap (typedAt? t)).zipIdx before.length)
        (importFindings t (.ofRow before) words) := by
  induction words with
  | nil => intro before; exact .nil
  | cons i rest ih =>
    intro before
    rw [List.forall_mem_cons] at hsize
    cases htyped : typedAt? t i with
    | none =>
      rw [List.filterMap_cons_none htyped, importFindings_cons_untyped hsize.1 htyped]
      exact (ih hsize.2 before).cons_untyped htyped
    | some m =>
      have hrest := ih hsize.2 (before ++ [m])
      rw [List.append_assoc, List.singleton_append, List.length_append, List.length_singleton]
        at hrest
      rw [List.filterMap_cons_some htyped, List.zipIdx_cons,
        importFindings_cons_typed hsize.1 htyped before (rest.filterMap (typedAt? t))]
      exact hrest.cons_typed htyped before.length

theorem forall_mem_zipIdx (row : List TypedImport) (P : Nat → Prop) :
    (∀ e ∈ row.zipIdx, P e.2) ↔ ∀ j < row.length, P j := by
  constructor
  · intro h j hj
    exact h (row[j], j) (List.mk_mem_zipIdx_iff_getElem?.mpr (List.getElem?_eq_getElem hj))
  · intro h e he
    have hget := List.mk_mem_zipIdx_iff_getElem?.mp he
    exact h e.2 (List.getElem?_eq_some_iff.mp hget).1

section Consequences

variable {t : Text} {words : List Nat} {row : List TypedImport} {found : List Finding}

/-- Nothing is said about groups iff each kind's imports stand together. -/
theorem ImportsJudged.grouped_iff (h : ImportsJudged t words row row.zipIdx found) :
    (∀ f ∈ found, f.message ≠ brokenGroup) ↔ Contiguous (row.map (·.kind)) := by
  have hnil : (∀ f ∈ found, f.message ≠ brokenGroup) ↔
      found.filter (fun f => f.message = brokenGroup) = [] := by
    simp only [List.filter_eq_nil_iff, decide_eq_true_eq, ne_eq]
  rw [hnil, h.regrouped, List.map_eq_nil_iff, List.filter_eq_nil_iff, contiguous_iff_not_regrouped,
    List.length_map]
  simp only [decide_eq_true_eq]
  exact forall_mem_zipIdx row fun j => ¬ Regrouped (row.map (·.kind)) j

/-- No name is said to be defined already iff all names differ. -/
theorem ImportsJudged.distinct_iff (h : ImportsJudged t words row row.zipIdx found) :
    (∀ f ∈ found, ∀ name, f.message ≠ definedTwice name) ↔ (row.map (·.name)).Nodup := by
  have hnil : (∀ f ∈ found, ∀ name, f.message ≠ definedTwice name) ↔
      found.filter (fun f => f.message ≠ missingType ∧ f.message ≠ brokenGroup) = [] := by
    constructor
    · intro hnone
      refine List.eq_nil_iff_forall_not_mem.mpr fun f hf => ?_
      have hmem := (List.mem_filter.mp hf).1
      rw [h.repeated] at hf
      obtain ⟨e, -, rfl⟩ := List.mem_map.mp hf
      exact hnone _ hmem _ rfl
    · intro hnone f hf name hname
      refine List.filter_eq_nil_iff.mp hnone f hf (decide_eq_true ?_)
      rw [hname]
      exact definedTwice_ne name
  rw [hnil, h.repeated, List.map_eq_nil_iff, List.filter_eq_nil_iff, nodup_iff_not_repeated,
    List.length_map]
  simp only [decide_eq_true_eq]
  exact forall_mem_zipIdx row fun j => ¬ Repeated (row.map (·.name)) j

end Consequences

theorem filter_isImport (s : Source) :
    (Scan.code s.text s.delimiter).filter (isImport s.text) = importWords s :=
  List.filter_congr fun i _ => by rw [Bool.eq_iff_iff, decide_eq_true_iff, isImport_iff]

/-- What the check finds in a document. -/
theorem imports_judged (s : Source) :
    ImportsJudged s.text (importWords s) (typedImports s) (typedImports s).zipIdx
      (importFindings s.text {} (importWords s)) :=
  importFindings_judged (importWords s) (fun _ hi => importWords_bounds hi) []

/-- **Imports are typed, grouped and unique, or reported.** Where the rule is active everywhere, the
check comes to a report, and what its report says is: once for each `IMPORT` that is not followed by
a kind, where it stands, that the type is missing; for each regrouped import, where its kind starts,
that the groups are broken; for each repeated one, where its name starts, that the name is defined
already; each in the order of the document, and nothing else. So the imports of each kind stand
together iff no broken group is reported, and all names differ iff none is reported as defined
already. -/
theorem imports_exact {c : Context} {s : Source}
    (hactive : ∀ p, c.ledger.isActive .imports p = true) :
    (s.Valid → ∀ session, ∃ found, (imports.run c s session).1 = .ok found) ∧
    ∀ session found, (imports.run c s session).1 = .ok found →
      found.failures = [] ∧ (∀ d ∈ found.diagnostics, d.rule = .imports) ∧
      ImportsJudged s.text (importWords s) (typedImports s) (typedImports s).zipIdx found.findings ∧
      ((∀ d ∈ found.diagnostics, d.message ≠ brokenGroup) ↔
        Contiguous ((typedImports s).map (·.kind))) ∧
      ((∀ d ∈ found.diagnostics, ∀ name, d.message ≠ definedTwice name) ↔
        ((typedImports s).map (·.name)).Nodup) := by
  constructor
  · intro hs session
    exact ⟨_, Ledger.report_eq hs c.ledger .imports _⟩
  · intro session found h
    change c.ledger.report .imports s (importFindings s.text {} _) = _ at h
    rw [filter_isImport] at h
    have hinside := importFindings_inside (s := s) {} (importWords s) fun i hi =>
      importWords_bounds hi
    obtain ⟨hfailures, hrules, hfound⟩ := Ledger.report_findings hinside h
    rw [Ledger.filter_active hactive] at hfound
    have hjudged := imports_judged s
    rw [← hfound] at hjudged
    refine ⟨hfailures, hrules, hjudged, ?_, ?_⟩
    · rw [← hjudged.grouped_iff, Report.findings, List.forall_mem_map]
    · rw [← hjudged.distinct_iff, Report.findings, List.forall_mem_map]

/-- An import without a type between two groups: the third import takes up the first kind again,
with a name that the second one has. -/
theorem imports_exact_mixed :
    let c : Context := ⟨{}, Ledger.start [], Toolkit.empty⟩
    let s : Source := { text :=
      "IMPORT PROTO a;import Module b;IMPORT c;IMPORT proto b;".toList.toArray }
    (∀ p, c.ledger.isActive .imports p = true) ∧ ∃ found, (imports.run c s {}).1 = .ok found ∧
      found.findings.filter (fun f => f.message = missingType) = [⟨31, missingType⟩] ∧
      found.findings.filter (fun f => f.message = brokenGroup) = [⟨47, brokenGroup⟩] ∧
      found.findings.filter (fun f => f.message ≠ missingType ∧ f.message ≠ brokenGroup) =
        [⟨53, definedTwice "b"⟩] := by
  intro c s
  have hs : s.Valid := fun width h => by cases h
  have hactive : ∀ p, c.ledger.isActive .imports p = true := fun _ => rfl
  have hwords : importWords s = [0, 15, 31, 40] := by decide +kernel
  have hrow : typedImports s =
      [⟨.protos, 7, "a", 13⟩, ⟨.modules, 22, "b", 29⟩, ⟨.protos, 47, "b", 53⟩] := by
    decide +kernel
  obtain ⟨hreports, hexact⟩ := imports_exact hactive
  obtain ⟨found, hrun⟩ := hreports hs {}
  obtain ⟨-, -, hjudged, -, -⟩ := hexact {} found hrun
  refine ⟨hactive, found, hrun, ?_, ?_, ?_⟩
  · rw [hjudged.untyped, hwords]
    decide +kernel
  · rw [hjudged.regrouped, hrow]
    decide +kernel
  · rw [hjudged.repeated, hrow]
    decide +kernel

end Check

end SqlStyle
