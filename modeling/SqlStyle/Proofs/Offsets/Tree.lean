import SqlStyle.Proofs.LookBehind
import SqlStyle.Proofs.Offsets.Text
import SqlStyle.Proofs.ParseFailure

/-! # Checks of tokens and trees stay inside the text

A sound toolkit answers with offsets of the text and never gives up (`Toolkit.SoundOn`). Over one,
no check meets a fault: every node with a place starts at an index of the text, so looking back from
it stays inside, and so does every word found there. Together with the checks of the text this
covers the whole suite (`builtin_clean`). -/

namespace SqlStyle

/-! ## Trees in their place -/

/-- A node that has a place starts at an index of the text, and so does every node below it. -/
inductive Node.Placed (t : Text) : Node → Prop
  | mk {kind : Kind} {name aliasName : String} {start stop : Int} {children : List Node} :
      (0 ≤ start → start < t.size) → (∀ child ∈ children, Placed t child) →
      Placed t (.mk kind name aliasName start stop children)

namespace Node

variable {t : Text} {n : Node}

theorem Placed.start_lt (h : n.Placed t) (hp : n.isPositioned = true) :
    0 ≤ n.start ∧ n.start < t.size := by
  cases h with
  | mk hstart _ =>
    have h0 := of_decide_eq_true hp
    exact ⟨h0, hstart h0⟩

theorem Placed.child (h : n.Placed t) {child : Node} (hm : child ∈ n.children) :
    child.Placed t := by
  cases h with
  | mk _ hchildren => exact hchildren child hm

theorem visitsFrom_placed (pending : List Visit) (h : ∀ v ∈ pending, v.node.Placed t) :
    ∀ v ∈ visitsFrom pending, v.node.Placed t := by
  fun_induction visitsFrom pending with
  | case1 => exact h
  | case2 first rest ih =>
    intro v hv
    rcases List.mem_cons.mp hv with rfl | hv
    · exact h v List.mem_cons_self
    · refine ih ?_ v hv
      intro w hw
      rcases List.mem_append.mp hw with hw | hw
      · obtain ⟨child, hchild, rfl⟩ := List.mem_map.mp hw
        exact (h first List.mem_cons_self).child hchild
      · exact h w (List.mem_cons_of_mem _ hw)

theorem Placed.visit (h : n.Placed t) {v : Visit} (hv : v ∈ n.visits) : v.node.Placed t :=
  visitsFrom_placed _ (by simpa using h) v hv

theorem Placed.mem_walk (h : n.Placed t) {m : Node} (hm : m ∈ n.walk) : m.Placed t := by
  obtain ⟨v, hv, rfl⟩ := List.mem_map.mp hm
  exact h.visit hv

theorem Placed.find? (h : n.Placed t) {kind : Kind} {m : Node} (hm : n.find? kind = some m) :
    m.Placed t :=
  h.mem_walk (List.mem_of_mem_drop (List.mem_of_find?_eq_some hm))

end Node

/-! ## Looking back -/

namespace Scan

/-- Looking back from an index of the text, or from its end, meets no fault. -/
theorem lastBefore_ok (skip : Char → Bool) (t : Text) {n : Nat} (h : n ≤ t.size) :
    ∃ found, lastBefore skip t n = .ok found ∧ ∀ i ∈ found, i < n :=
  ⟨solid? skip t n, lastBefore_eq skip t h, fun _ hi => solid?_lt hi⟩

theorem previousWord_ok {t : Text} {p : Nat} (h : p ≤ t.size) :
    ∃ found, previousWord t p = .ok found ∧ ∀ word ∈ found, word.2 < p :=
  ⟨wordBefore? t p, previousWord_eq h, fun _ hword => wordBefore?_lt hword⟩

end Scan

/-! ## Rules about nodes -/

/-- Something was found, all of it inside the document, and no fault was met. -/
def FindsInside (s : Source) (outcome : Except Fault (List Finding)) : Prop :=
  ∃ found, outcome = .ok found ∧ ∀ f ∈ found, f.Inside s

namespace Check

variable {s : Source} {v : Node.Visit}

theorem findsInside_nil : FindsInside s (.ok []) := ⟨[], rfl, by simp⟩

theorem findsInside_issueIf {wrong : Bool} {offset : Int} (message : String)
    (h : wrong = true → 0 ≤ offset ∧ offset < s.text.size) :
    FindsInside s (.ok (issueIf wrong offset message)) := by
  refine ⟨_, rfl, ?_⟩
  intro f hf
  unfold issueIf at hf
  split at hf
  · rename_i hwrong
    rw [List.mem_singleton.mp hf]
    exact ⟨(h hwrong).1, Int.le_of_lt (h hwrong).2⟩
  · cases hf

theorem start_lt_of_named {t : Text} {n m : Node} {name : String} (h : n.Placed t)
    (hm : m ∈ n.children) (hnamed : isIdentifierNamed name m = true) :
    0 ≤ m.start ∧ m.start < t.size := by
  simp only [isIdentifierNamed, Bool.and_eq_true] at hnamed
  exact (h.child hm).start_lt hnamed.2

theorem firstIdentifier?_start {t : Text} {n m : Node} {name : String} (h : n.Placed t)
    (hm : firstIdentifier? n name = some m) : 0 ≤ m.start ∧ m.start < t.size :=
  start_lt_of_named h (List.mem_of_find?_eq_some hm) (List.find?_some hm)

theorem lastIdentifier?_start {t : Text} {n m : Node} {name : String} (h : n.Placed t)
    (hm : lastIdentifier? n name = some m) : 0 ≤ m.start ∧ m.start < t.size :=
  start_lt_of_named h (List.mem_reverse.mp (List.mem_of_find?_eq_some hm)) (List.find?_some hm)

theorem introducedAlias?_start (h : v.node.Placed s.text) {m : Node}
    (hm : introducedAlias? v = some m) :
    0 ≤ m.start ∧ m.start < s.text.size := by
  unfold introducedAlias? at hm
  split at hm
  · exact lastIdentifier?_start h hm
  · split at hm
    · cases hm
    · exact firstIdentifier?_start h hm
  · cases hm

end Check

/-! ## Reports of node rules -/

namespace Detection

theorem ofVisits_inside {s : Source} {detect : Node.Visit → Except Fault (List Finding)}
    {visits : List Node.Visit} (h : ∀ v ∈ visits, FindsInside s (detect v)) :
    (ofVisits detect visits).fault = none ∧
        ∀ f ∈ (ofVisits detect visits).findings, f.Inside s := by
  induction visits with
  | nil => exact ⟨rfl, by simp [ofVisits]⟩
  | cons v rest ih =>
    obtain ⟨hfault, hrest⟩ := ih fun w hw => h w (List.mem_cons_of_mem _ hw)
    obtain ⟨found, hfound, hinside⟩ := h v List.mem_cons_self
    simp only [ofVisits, hfound]
    refine ⟨hfault, ?_⟩
    intro f hf
    rcases List.mem_append.mp hf with hf | hf
    · exact hinside f hf
    · exact hrest f hf

end Detection

/-! ## Sound toolkits -/

/-- What the toolkit says about a text is about offsets of the text, and it gives up on nothing. -/
structure Toolkit.SoundOn (toolkit : Toolkit) (t : Text) : Prop where
  tokenizes : ∀ fault, toolkit.tokenize t ≠ .error (.gaveUp fault)
  tokens : ∀ tokens, toolkit.tokenize t = .ok tokens →
    ∀ token ∈ tokens, 0 ≤ token.start ∧ token.start ≤ t.size
  roots : ∀ statement ∈ (toolkit.parse t).statements, statement.root.Placed t
  stops : ∀ stop, (toolkit.parse t).stop = some stop →
    ∃ e, stop = .failed e ∧ 0 ≤ e.position ∧ e.position ≤ t.size

theorem Toolkit.SoundOn.statements_ok {toolkit : Toolkit} {t : Text} (h : toolkit.SoundOn t) :
    ∃ statements, (({} : Session).statements toolkit t).1 = .ok statements ∧
      ∀ statement ∈ statements, statement.root.Placed t := by
  cases hstop : (toolkit.parse t).stop with
  | none => exact ⟨_, Session.statements_of_complete hstop, h.roots⟩
  | some stop =>
    obtain ⟨e, rfl, _⟩ := h.stops stop hstop
    exact ⟨[], Session.statements_of_failed hstop, by simp⟩

namespace Check

variable {c : Context} {s : Source}

theorem ofNodes_clean (hs : s.Valid) (ht : c.toolkit.SoundOn s.text) {rule : Rule}
    {detect : Source → Node.Visit → Except Fault (List Finding)}
    (h : ∀ v : Node.Visit, v.node.Placed s.text → FindsInside s (detect s v)) :
    (ofNodes rule detect).Clean c s := by
  by_cases henabled : c.parserEnabled = true
  · obtain ⟨statements, hst, hplaced⟩ := ht.statements_ok
    have hvisits : ∀ v ∈ visitsOf statements, FindsInside s (detect s v) := by
      intro v hv
      obtain ⟨statement, hm, hv⟩ := List.mem_flatMap.mp hv
      exact h v ((hplaced statement hm).visit hv)
    obtain ⟨hfault, hinside⟩ := Detection.ofVisits_inside hvisits
    refine ⟨(Detection.ofVisits (detect s) (visitsOf statements)).report c.ledger rule s, ?_, ?_⟩
    · simp only [ofNodes, henabled, if_true, applyRule_eq, hst, Except.map,
        Detection.applyToVisits_eq hs c.ledger rule (detect s) _ (Report.forSource s) rfl,
        Detection.forSource_merge]
    · rw [Detection.report, hfault]
      exact Report.ofFindings_inside hs rule fun f hf => hinside f (List.mem_filter.mp hf).1
  · refine ⟨Report.forSource s, ?_, rfl, by simp [Report.forSource]⟩
    simp only [ofNodes, henabled]
    rfl

theorem explicitAlias_clean (hs : s.Valid) (ht : c.toolkit.SoundOn s.text) :
    explicitAlias.Clean c s := by
  refine ofNodes_clean hs ht ?_
  intro v hv
  unfold aliasRule
  split
  · exact findsInside_nil
  · rename_i identifier halias
    have hstart := introducedAlias?_start hv halias
    obtain ⟨word, hword, _⟩ :=
      Scan.previousWord_ok (t := s.text) (p := identifier.start.toNat) (by omega)
    rw [hword]
    exact findsInside_issueIf _ fun _ => hstart

theorem tableName_clean (hs : s.Valid) (ht : c.toolkit.SoundOn s.text) : tableName.Clean c s := by
  refine ofNodes_clean hs ht ?_
  intro v hv
  dsimp only
  split
  · exact findsInside_nil
  · rename_i identifier hid
    split at hid
    · obtain ⟨table, htable, hid⟩ := Option.bind_eq_some_iff.mp hid
      exact findsInside_issueIf _ fun _ => firstIdentifier?_start (hv.find? htable) hid
    · cases hid

theorem windowName_clean (hs : s.Valid) (ht : c.toolkit.SoundOn s.text) : windowName.Clean c s := by
  refine ofNodes_clean hs ht ?_
  intro v hv
  split
  · split
    · exact findsInside_nil
    · rename_i name hname
      refine findsInside_issueIf _ ?_
      intro hwrong
      simp only [Bool.and_eq_true] at hwrong
      exact (hv.child (List.mem_of_mem_head? hname)).start_lt hwrong.1.2
  · exact findsInside_nil

theorem functionName_clean (hs : s.Valid) (ht : c.toolkit.SoundOn s.text) :
    functionName.Clean c s := by
  refine ofNodes_clean hs ht ?_
  intro v hv
  split
  · dsimp only
    split
    · exact findsInside_nil
    · rename_i part hpart
      obtain ⟨hwalk, hkind⟩ := List.mem_filter.mp (List.mem_of_getLast? hpart)
      simp only [Bool.and_eq_true] at hkind
      cases hhead : v.node.children.head? with
      | none => simp [hhead] at hwalk
      | some head =>
        rw [hhead] at hwalk
        have hplaced := (hv.child (List.mem_of_mem_head? hhead)).mem_walk hwalk
        exact findsInside_issueIf _ fun _ => hplaced.start_lt hkind.2
  · exact findsInside_nil

theorem dataTypeName_clean (hs : s.Valid) (ht : c.toolkit.SoundOn s.text) :
    dataTypeName.Clean c s := by
  refine ofNodes_clean hs ht ?_
  intro v hv
  split
  · rename_i hnode
    simp only [Bool.and_eq_true] at hnode
    exact findsInside_issueIf _ fun _ => hv.start_lt hnode.1.2
  · exact findsInside_nil

theorem columnName_clean (hs : s.Valid) (ht : c.toolkit.SoundOn s.text) : columnName.Clean c s := by
  refine ofNodes_clean hs ht ?_
  intro v hv
  dsimp only
  split
  · exact findsInside_nil
  · rename_i identifier hid
    split at hid
    · exact findsInside_issueIf _ fun _ => lastIdentifier?_start hv hid
    · cases hid

theorem parameterName_clean (hs : s.Valid) (ht : c.toolkit.SoundOn s.text) :
    parameterName.Clean c s := by
  refine ofNodes_clean hs ht ?_
  intro v hv
  dsimp only
  split
  · exact findsInside_nil
  · rename_i identifier hid
    split at hid
    · have hstart := firstIdentifier?_start hv hid
      split
      · exact findsInside_issueIf _ fun _ => hstart
      · exact findsInside_issueIf _ fun _ => hstart
    · cases hid

theorem isPositioned_of_isPlainJoin {n : Node} (h : isPlainJoin n = true) : n.isPositioned = true :=
  (Bool.and_eq_true_iff.mp h).2

theorem join_clean (hs : s.Valid) (ht : c.toolkit.SoundOn s.text) : join.Clean c s := by
  refine ofNodes_clean hs ht ?_
  intro v hv
  unfold joinRule
  split
  · rename_i hnode
    have hstart := hv.start_lt (isPositioned_of_isPlainJoin hnode)
    obtain ⟨before, hbefore, hlt⟩ := Scan.lastBefore_ok joinSkips s.text
      (n := v.node.start.toNat) (by omega)
    rw [hbefore]
    show FindsInside s (if _ then _ else _)
    split
    · exact findsInside_nil
    · -- the second look back starts behind what the first one found, so inside as well
      have hedge : before.elim 0 (· + 1) ≤ s.text.size := by
        cases before with
        | none => exact Nat.zero_le _
        | some i =>
          have := hlt i rfl
          simp only [Option.elim_some]
          omega
      obtain ⟨word, hword, hwlt⟩ := Scan.previousWord_ok hedge
      rw [hword]
      refine ⟨_, rfl, ?_⟩
      intro f hf
      rw [List.mem_singleton.mp hf]
      cases word with
      | none => exact ⟨hstart.1, Int.le_of_lt hstart.2⟩
      | some w =>
        have := hwlt w rfl
        dsimp only [Finding.Inside]
        split
        · omega
        · omega
  · exact findsInside_nil

theorem expressionParentheses_clean (hs : s.Valid) (ht : c.toolkit.SoundOn s.text) :
    expressionParentheses.Clean c s := by
  refine ofNodes_clean hs ht ?_
  intro v hv
  refine findsInside_issueIf _ ?_
  intro hwrong
  simp only [Bool.and_eq_true] at hwrong
  exact hv.start_lt hwrong.1.2

/-! ## Keywords and the parse -/

theorem keywordsOf_inside (ht : c.toolkit.SoundOn s.text) :
    ∃ keywords, keywordsOf c s = .ok keywords ∧
      ∀ token ∈ keywords, 0 ≤ token.start ∧ token.start ≤ s.text.size := by
  unfold keywordsOf
  split
  · rename_i tokens htokens
    exact ⟨_, rfl, fun token hm => ht.tokens tokens htokens token (List.mem_filter.mp hm).1⟩
  · exact ⟨[], rfl, by simp⟩
  · rename_i fault hgave
    exact absurd hgave (ht.tokenizes fault)

theorem reportKeywords_clean (hs : s.Valid) (ht : c.toolkit.SoundOn s.text) (rule : Rule)
    {detect : List Int → Token → List Finding}
    (h : ∀ starts token, ∀ f ∈ detect starts token, f.offset = token.start) :
    ∃ found, (reportKeywords rule detect c s {}).1 = .ok found ∧ found.failures = [] ∧
      ∀ d ∈ found.diagnostics, d.offset ≤ s.text.size := by
  obtain ⟨statements, hst, _⟩ := ht.statements_ok
  obtain ⟨keywords, hk, hinside⟩ := keywordsOf_inside ht
  rw [reportKeywords_fresh rule detect hst, hk]
  refine Ledger.report_clean hs c.ledger rule ?_
  intro f hf
  obtain ⟨token, hm, hf⟩ := List.mem_flatMap.mp hf
  rw [Finding.Inside, h _ token f hf]
  exact hinside token hm

theorem letterCase_clean (hs : s.Valid) (ht : c.toolkit.SoundOn s.text) : letterCase.Clean c s := by
  refine reportKeywords_clean hs ht _ ?_
  intro starts token f hf
  simp only [wrongCase] at hf
  split at hf
  · cases hf
  · rw [List.mem_singleton.mp hf]

theorem keywordIdentifier_clean (hs : s.Valid) (ht : c.toolkit.SoundOn s.text) :
    keywordIdentifier.Clean c s := by
  by_cases henabled : c.parserEnabled = true
  · simp only [Clean, keywordIdentifier, henabled, if_true]
    refine reportKeywords_clean hs ht _ ?_
    intro starts token f hf
    unfold bareKeyword at hf
    split at hf
    · rw [List.mem_singleton.mp hf]
    · cases hf
  · refine ⟨Report.forSource s, ?_, rfl, by simp [Report.forSource]⟩
    simp only [keywordIdentifier, henabled]
    rfl

theorem parserSucceeds_clean (hs : s.Valid) (ht : c.toolkit.SoundOn s.text) :
    parserSucceeds.Clean c s := by
  have hfresh : ({} : Session).cached? = none := rfl
  cases hstop : (c.toolkit.parse s.text).stop with
  | none =>
    refine ⟨Report.forSource s, ?_, rfl, by simp [Report.forSource]⟩
    simp only [parserSucceeds, hfresh, Session.parse, hstop]
  | some stop =>
    obtain ⟨e, rfl, hposition⟩ := ht.stops stop hstop
    simp only [Clean, parserSucceeds, hfresh, Session.parse, hstop]
    refine Ledger.report_clean hs c.ledger _ ?_
    intro f hf
    rw [List.mem_singleton.mp hf]
    exact hposition

/-- Over a sound toolkit every built-in check comes to a report without failures, inside the
document. -/
theorem builtin_clean (hs : s.Valid) (ht : c.toolkit.SoundOn s.text) {check : Check}
    (h : check ∈ builtin) : check.Clean c s := by
  simp only [builtin, List.mem_cons, List.not_mem_nil, or_false] at h
  rcases h with rfl | rfl | rfl | rfl | rfl | rfl | rfl | rfl | rfl | rfl | rfl | rfl | rfl |
    rfl | rfl | rfl | rfl | rfl | rfl | rfl | rfl
  · exact lineLimit_clean hs
  · exact parserSucceeds_clean hs ht
  · exact statementSemicolon_clean hs
  · exact letterCase_clean hs ht
  · exact commentStyle_clean hs
  · exact explicitAlias_clean hs ht
  · exact uniformIndent_clean hs
  · exact tabOutsideIndent_clean hs
  · exact quoteStyle_clean hs
  · exact tableName_clean hs ht
  · exact windowName_clean hs ht
  · exact functionName_clean hs ht
  · exact dataTypeName_clean hs ht
  · exact columnName_clean hs ht
  · exact parameterName_clean hs ht
  · exact constantName_clean hs
  · exact join_clean hs ht
  · exact imports_clean hs
  · exact expressionParentheses_clean hs ht
  · exact countStar_clean hs
  · exact keywordIdentifier_clean hs ht

end Check

end SqlStyle
