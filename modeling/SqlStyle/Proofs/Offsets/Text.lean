import Mathlib.Algebra.GroupWithZero.Nat
import SqlStyle.Check.Layout
import SqlStyle.Check.Phrase
import SqlStyle.Proofs.Reports

/-! # Checks of the text stay inside it

Every offset that a check of the text alone reports lies in the document: indices of code and of
strings are indices of the text, comments start in it, lines end in it, and a word read forward ends
in it and is not longer than what was read. -/

namespace SqlStyle

/-- Alone on a document the check comes to a report, which has no failure and stays inside. -/
def Check.Clean (check : Check) (c : Context) (s : Source) : Prop :=
  ∃ found, (check.run c s {}).1 = .ok found ∧ found.failures = [] ∧
    ∀ d ∈ found.diagnostics, d.offset ≤ s.text.size

/-- What a ledger lets through of findings inside the document. -/
theorem Ledger.report_clean {s : Source} (hs : s.Valid) (l : Ledger) (rule : Rule)
    {findings : List Finding} (h : ∀ f ∈ findings, f.Inside s) :
    ∃ found, l.report rule s findings = .ok found ∧ found.failures = [] ∧
      ∀ d ∈ found.diagnostics, d.offset ≤ s.text.size :=
  ⟨_, Ledger.report_eq hs l rule findings,
    Report.ofFindings_inside hs rule fun f hf => h f (List.mem_filter.mp hf).1⟩

/-! ## Runs and words -/

namespace Text

theorem le_runEnd (t : Text) (test : Char → Bool) (i : Nat) : i ≤ t.runEnd test i := by
  unfold runEnd
  cases hf : firstBetween (fun j => !t[j]?.any test) i t.size with
  | none => exact Nat.le_max_left _ _
  | some e => exact le_of_firstBetween hf

theorem runEnd_le {t : Text} (test : Char → Bool) {i : Nat} (h : i ≤ t.size) :
    t.runEnd test i ≤ t.size := by
  unfold runEnd
  cases hf : firstBetween (fun j => !t[j]?.any test) i t.size with
  | none => simp only [Option.getD_none]; omega
  | some e => exact Nat.le_of_lt (lt_of_firstBetween hf)

/-- Past the end no run begins. -/
theorem runEnd_le_of_lt {t : Text} {test : Char → Bool} {i : Nat} (h : i < t.runEnd test i) :
    t.runEnd test i ≤ t.size := by
  by_cases hi : i ≤ t.size
  · exact runEnd_le test hi
  · have hempty : firstBetween (fun j => !t[j]?.any test) i t.size = none := by
      rw [firstBetween, Nat.sub_eq_zero_of_le (by omega)]
      rfl
    rw [runEnd, hempty, Option.getD_none] at h
    omega

theorem length_slice_le (t : Text) (start stop : Nat) :
    (t.slice start stop).length ≤ stop - start := by
  rw [slice, String.length_ofList, Array.length_toList, Array.size_extract]
  omega

/-- Splitting loses at least one character per cut. -/
theorem sum_length_splitFrom (delimiter : List Char) (skip : Nat) (cs : List Char) :
    ((splitFrom delimiter skip cs).map fun piece => piece.length + 1).sum ≤ cs.length + 1 := by
  fun_induction splitFrom delimiter skip cs with
  | case1 => simp
  | case2 skip c cs ih =>
    rw [List.length_cons]
    omega
  | case3 c cs h ih =>
    simp only [List.map_cons, List.sum_cons, List.length_nil, List.length_cons]
    omega
  | case4 c cs h hsplit ih => simp
  | case5 c cs h piece pieces hsplit ih =>
    rw [hsplit] at ih
    simp only [List.map_cons, List.sum_cons, List.length_cons] at ih ⊢
    omega

end Text

namespace Scan

/-- A word read forward ends in the text, and is not longer than what was read. -/
theorem nextWord_bounds {t : Text} {p : Nat} (h : p ≤ t.size) :
    p + (nextWord t p).1.length ≤ (nextWord t p).2 ∧ (nextWord t p).2 ≤ t.size := by
  have hblank := t.le_runEnd (fun c => c == ' ' || c == '\t') p
  have hstart := Text.runEnd_le (fun c => c == ' ' || c == '\t') h
  have hword := t.le_runEnd (fun c => !isWordStop c) (t.runEnd (fun c => c == ' ' || c == '\t') p)
  have hstop := Text.runEnd_le (fun c => !isWordStop c) hstart
  have hlen := t.length_slice_le (t.runEnd (fun c => c == ' ' || c == '\t') p)
    (t.runEnd (fun c => !isWordStop c) (t.runEnd (fun c => c == ' ' || c == '\t') p))
  simp only [nextWord]
  omega

/-! ## Pieces -/

theorem stringEnd?_lt {t : Text} {p e : Nat} (h : stringEnd? t p = some e) :
    p < t.size ∧ e < t.size := by
  unfold stringEnd? at h
  split at h
  · cases h
  · rename_i quote hq
    have hp : p < t.size := (Array.getElem?_eq_some_iff.mp hq).1
    split at h
    · cases hf : firstBetween (fun i => t[i]? == some quote && !isEscaped t i) (p + 1) t.size with
      | none =>
        rw [hf, Option.getD_none] at h
        cases h
        exact ⟨hp, by omega⟩
      | some i =>
        rw [hf, Option.getD_some] at h
        cases h
        exact ⟨hp, lt_of_firstBetween hf⟩
    · cases h

/-- The indices of a string or a character of code are indices of the text. -/
def Piece.Inside (t : Text) : Piece → Prop
  | .comment _ _ => True
  | .string start stop => start < t.size ∧ stop < t.size
  | .code index => index < t.size

theorem pieceAt_inside {t : Text} {delimiter : List Char} {i : Nat} (h : i < t.size) :
    (pieceAt t delimiter i).Inside t := by
  unfold pieceAt
  split
  · trivial
  · split
    · rename_i e he
      exact stringEnd?_lt he
    · exact h

theorem piecesFrom_inside (t : Text) (delimiter : List Char) (i : Nat) :
    ∀ piece ∈ piecesFrom t delimiter i, piece.Inside t := by
  fun_induction piecesFrom t delimiter i with
  | case1 i h piece hlt ih =>
    intro other hother
    rcases List.mem_cons.mp hother with rfl | hother
    · exact pieceAt_inside h
    · exact ih other hother
  | case2 i h => intro other hother; cases hother

theorem lt_size_of_mem_code {t : Text} {delimiter : List Char} {i : Nat}
    (h : i ∈ code t delimiter) :
    i < t.size := by
  obtain ⟨piece, hm, hi⟩ := List.mem_filterMap.mp h
  have hin := piecesFrom_inside t delimiter 0 piece hm
  cases piece with
  | code index => cases hi; exact hin
  | comment _ _ => cases hi
  | string _ _ => cases hi

theorem start_lt_of_mem_lineComments (t : Text) (delimiter : List Char) (i : Nat) :
    ∀ c ∈ lineCommentsFrom t delimiter i, c.start < t.size := by
  fun_induction lineCommentsFrom t delimiter i with
  | case1 i h step hlt ih =>
    intro c hc
    rcases List.mem_append.mp hc with hc | hc
    · rw [start_of_lineCommentStep (Option.mem_toList.mp hc)]
      exact h
    · exact ih c hc
  | case2 i h => intro c hc; cases hc

end Scan

namespace Check

variable {c : Context} {s : Source}

theorem ofText_clean (hs : s.Valid) {rule : Rule} {detect : Settings → Source → List Finding}
    (h : ∀ f ∈ detect c.settings s, f.Inside s) : (ofText rule detect).Clean c s :=
  Ledger.report_clean hs c.ledger rule h

theorem inside_of_le {offset : Int} (h0 : 0 ≤ offset) (h : offset ≤ s.text.size)
    (message : String) :
    (⟨offset, message⟩ : Finding).Inside s :=
  ⟨h0, h⟩

theorem inside_of_lt {i : Nat} (h : i < s.text.size) (message : String) :
    (⟨(i : Int), message⟩ : Finding).Inside s :=
  inside_of_le (Int.natCast_nonneg i) (by omega) message

/-! ## Layout -/

theorem overlongLines_bounds (limit : Nat) (lines : List (List Char)) :
    ∀ start, ∀ f ∈ overlongLines limit start lines, 0 ≤ f.offset ∧
      f.offset < start + ((lines.map fun line => line.length + 1).sum : Nat) := by
  induction lines with
  | nil => intro start f hf; cases hf
  | cons line rest ih =>
    intro start f hf
    simp only [List.map_cons, List.sum_cons]
    rcases List.mem_append.mp hf with hf | hf
    · obtain ⟨_, hf⟩ := List.mem_ite_nil_right.mp hf
      rw [List.mem_singleton.mp hf]
      constructor
      · simp only; omega
      · simp only; omega
    · have := ih (start + line.length + 1) f hf
      omega

theorem lineLimit_clean (hs : s.Valid) : lineLimit.Clean c s := by
  refine ofText_clean hs ?_
  intro f hf
  have hbound := overlongLines_bounds _ _ _ f hf
  have hlength := Text.sum_length_splitFrom s.delimiter 0 s.text.toList
  rw [Array.length_toList] at hlength
  rw [linesOf] at hbound
  exact ⟨hbound.1, by omega⟩

theorem significant?_lt {t : Text} {piece : Scan.Piece} (h : piece.Inside t) {last : Nat}
    {closed : Bool} (hsig : significant? t piece = some (last, closed)) : last < t.size := by
  cases piece with
  | comment _ _ => cases hsig
  | string start stop => cases hsig; exact h.2
  | code i =>
    simp only [significant?] at hsig
    split at hsig
    · cases hsig
    · cases hsig; exact h

theorem statementSemicolon_clean (hs : s.Valid) : statementSemicolon.Clean c s := by
  refine ofText_clean hs ?_
  intro f hf
  split at hf
  · rename_i last hlast
    obtain ⟨piece, hm, hsig⟩ := List.mem_filterMap.mp (List.mem_of_getLast? hlast)
    have := significant?_lt (Scan.piecesFrom_inside _ _ _ piece hm) hsig
    rw [List.mem_singleton.mp hf]
    exact inside_of_le (by omega) (by omega) _
  · cases hf

theorem commentStyle_clean (hs : s.Valid) : commentStyle.Clean c s := by
  refine ofText_clean hs ?_
  intro f hf
  split at hf
  · cases hf
  · rename_i first rest hcomments
    obtain ⟨comment, hm, rfl⟩ := List.mem_map.mp hf
    have hmem : comment ∈ Scan.lineComments s.text s.delimiter := by
      rw [hcomments]
      exact List.mem_cons_of_mem _ (List.mem_filter.mp hm).1
    exact inside_of_lt (Scan.start_lt_of_mem_lineComments _ _ _ comment hmem) _

theorem wrongIndents_lt (s : Source) (allowed : Indent) (cs : List Char) :
    ∀ (i : Nat) (inIndent : Bool), ∀ k ∈ wrongIndents s allowed i inIndent cs, k <
        i + cs.length := by
  induction cs with
  | nil => intro i inIndent k hk; cases hk
  | cons ch rest ih =>
    intro i inIndent k hk
    have hrest : ∀ flag, k ∈ wrongIndents s allowed (i + 1) flag rest →
        k < i + (rest.length + 1) := by
      intro flag hm
      have := ih (i + 1) flag k hm
      omega
    rw [List.length_cons]
    unfold wrongIndents at hk
    split at hk
    · exact hrest _ hk
    · split at hk
      · exact hrest _ hk
      · split at hk
        · rcases List.mem_cons.mp hk with rfl | hk
          · omega
          · exact hrest _ hk
        · exact hrest _ hk

theorem uniformIndent_clean (hs : s.Valid) : uniformIndent.Clean c s := by
  refine ofText_clean hs ?_
  intro f hf
  obtain ⟨i, hi, rfl⟩ := List.mem_map.mp hf
  have := wrongIndents_lt s _ _ _ _ i hi
  rw [Array.length_toList] at this
  exact inside_of_lt (by omega) _

theorem strayTabs_lt (s : Source) (cs : List Char) :
    ∀ (i : Nat) (inIndent : Bool), ∀ k ∈ strayTabs s i inIndent cs, k < i + cs.length := by
  induction cs with
  | nil => intro i inIndent k hk; cases hk
  | cons ch rest ih =>
    intro i inIndent k hk
    have hrest : ∀ flag, k ∈ strayTabs s (i + 1) flag rest → k < i + (rest.length + 1) := by
      intro flag hm
      have := ih (i + 1) flag k hm
      omega
    rw [List.length_cons]
    unfold strayTabs at hk
    split at hk
    · exact hrest _ hk
    · split at hk
      · split at hk
        · exact hrest _ hk
        · rcases List.mem_cons.mp hk with rfl | hk
          · omega
          · exact hrest _ hk
      · exact hrest _ hk

theorem tabOutsideIndent_clean (hs : s.Valid) : tabOutsideIndent.Clean c s := by
  refine ofText_clean hs ?_
  intro f hf
  obtain ⟨i, hi, rfl⟩ := List.mem_map.mp hf
  have := strayTabs_lt s _ _ _ i hi
  rw [Array.length_toList] at this
  exact inside_of_lt (by omega) _

theorem quoteStyle_clean (hs : s.Valid) : quoteStyle.Clean c s := by
  refine ofText_clean hs ?_
  intro f hf
  obtain ⟨piece, hm, hfound⟩ := List.mem_filterMap.mp hf
  have hin := Scan.piecesFrom_inside _ _ _ piece hm
  cases piece with
  | string start stop =>
    obtain ⟨_, hfound⟩ := Option.ite_none_right_eq_some.mp hfound
    cases hfound
    exact inside_of_lt hin.1 _
  | comment _ _ => cases hfound
  | code _ => cases hfound

/-! ## Phrases -/

theorem countStar_clean (hs : s.Valid) : countStar.Clean c s := by
  refine ofText_clean hs ?_
  intro f hf
  obtain ⟨i, hi, rfl⟩ := List.mem_map.mp hf
  exact inside_of_lt (Scan.lt_size_of_mem_code (List.mem_filter.mp hi).1) _

/-- A created constant has a name, and the name lies in the text. -/
theorem createdConstant?_bounds {t : Text} {i start stop : Nat}
    (h : createdConstant? t i = some (start, stop)) : start < stop ∧ stop ≤ t.size := by
  have hlt : start < stop := by simpa using List.find?_some h
  obtain ⟨j, _, hj⟩ := List.mem_map.mp (List.mem_of_find?_eq_some h)
  obtain ⟨rfl, rfl⟩ := Prod.mk.inj hj
  exact ⟨hlt, Text.runEnd_le_of_lt hlt⟩

theorem length_lastPart_le (name : List Char) : (lastPart name).length ≤ name.length := by
  rw [lastPart, List.length_reverse]
  exact (List.takeWhile_sublist _).length_le.trans (by rw [List.length_reverse])

theorem constantName_clean (hs : s.Valid) : constantName.Clean c s := by
  refine ofText_clean hs ?_
  intro f hf
  obtain ⟨i, _, hfound⟩ := List.mem_filterMap.mp hf
  split at hfound
  · split at hfound
    · cases hfound
    · rename_i start stop hname
      obtain ⟨hlt, hle⟩ := createdConstant?_bounds hname
      -- the last part starts within the name, because it is no longer than the name
      have hlen := length_lastPart_le (s.text.extract start stop).toList
      have hsize : (s.text.extract start stop).toList.length = min stop s.text.size - start := by
        rw [Array.length_toList, Array.size_extract]
      obtain ⟨_, hfound⟩ := Option.ite_none_left_eq_some.mp hfound
      cases hfound
      exact inside_of_le (by omega) (by omega) _
  · cases hfound

theorem afterLetters?_bounds {t : Text} {word : List Char} :
    ∀ {i j : Nat}, i ≤ t.size → afterLetters? t word i = some j →
        j = i + word.length ∧ j ≤ t.size := by
  induction word with
  | nil => intro i j hi h; cases h; exact ⟨rfl, hi⟩
  | cons letter word ih =>
    intro i j hi h
    unfold afterLetters? at h
    split at h
    · rename_i hletter
      obtain ⟨ch, hch, _⟩ := (Option.any_eq_true _ _).mp hletter
      have hlt : i < t.size := (Array.getElem?_eq_some_iff.mp hch).1
      obtain ⟨rfl, hle⟩ := ih hlt h
      exact ⟨by rw [List.length_cons]; omega, hle⟩
    · cases h

theorem isImport_bounds {t : Text} {i : Nat} (hi : i ≤ t.size) (h : isImport t i = true) :
    i + 6 ≤ t.size := by
  rw [isImport, Bool.and_eq_true] at h
  obtain ⟨j, hj, _⟩ := (Option.any_eq_true _ _).mp h.2
  obtain ⟨rfl, hle⟩ := afterLetters?_bounds hi hj
  exact hle

/-- The words of an import lie in the text, its kind after the word `IMPORT`. -/
structure Import.Inside (t : Text) (m : Import) : Prop where
  kind_ge : 6 ≤ m.kindStop
  kind_le : m.kindStop ≤ t.size
  name_ge : m.name.length ≤ m.nameStop
  name_le : m.nameStop ≤ t.size

theorem importAt?_inside {t : Text} {i : Nat} (hi : i + 6 ≤ t.size) {m : Import}
    (h : importAt? t i = some m) : m.Inside t := by
  have hkind := Scan.nextWord_bounds hi
  have hname := Scan.nextWord_bounds hkind.2
  simp only [importAt?, Option.map_eq_some_iff] at h
  obtain ⟨kind, _, rfl⟩ := h
  constructor <;> dsimp only <;> omega

theorem Imported.findings_inside (seen : Imported) {m : Import} (hm : m.Inside s.text) :
    ∀ f ∈ seen.findings m, f.Inside s := by
  -- the name of a kind is not longer than the word `IMPORT` in front of it
  have hlen : m.kind.name.length ≤ 6 := by cases m.kind <;> decide
  obtain ⟨hkind, hkind', hname, hname'⟩ := hm
  intro f hf
  rcases List.mem_append.mp hf with hf | hf
  · obtain ⟨_, hf⟩ := List.mem_ite_nil_right.mp hf
    rw [List.mem_singleton.mp hf]
    exact inside_of_le (by omega) (by omega) _
  · obtain ⟨_, hf⟩ := List.mem_ite_nil_right.mp hf
    rw [List.mem_singleton.mp hf]
    exact inside_of_le (by omega) (by omega) _

theorem importFindings_inside (seen : Imported) (starts : List Nat)
    (h : ∀ i ∈ starts, i + 6 ≤ s.text.size) :
    ∀ f ∈ importFindings s.text seen starts, f.Inside s := by
  fun_induction importFindings s.text seen starts with
  | case1 seen => intro f hf; cases hf
  | case2 seen i rest hnone ih =>
    intro f hf
    have hi := h i List.mem_cons_self
    rcases List.mem_cons.mp hf with rfl | hf
    · exact inside_of_lt (by omega) _
    · exact ih (fun j hj => h j (List.mem_cons_of_mem _ hj)) f hf
  | case3 seen i rest m hm ih =>
    intro f hf
    have hinside := importAt?_inside (h i List.mem_cons_self) hm
    rcases List.mem_append.mp hf with hf | hf
    · exact seen.findings_inside hinside f hf
    · exact ih (fun j hj => h j (List.mem_cons_of_mem _ hj)) f hf

theorem imports_clean (hs : s.Valid) : imports.Clean c s := by
  refine ofText_clean hs ?_
  refine importFindings_inside {} _ ?_
  intro i hi
  obtain ⟨hcode, himport⟩ := List.mem_filter.mp hi
  exact isImport_bounds (Nat.le_of_lt (Scan.lt_size_of_mem_code hcode)) himport

end Check

end SqlStyle
