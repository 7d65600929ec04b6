import SqlStyle.Proofs.Exactness
import SqlStyle.Proofs.Keywords

/-! # One verdict for each keyword

Two checks judge the keywords of a document. They run at different times, and each asks anew where
identifiers start, of statements that were kept or of a parse of its own. Whole statements are all
that is ever kept, so both are told the same places (`Session.KeepsWhole.statements_eq`). The one
reports the keywords there, and the other those of the wrong letter case elsewhere: every keyword is
up to one of them alone. -/

namespace SqlStyle

/-- The statements that checks look at: all of a document that parses to its end, and none of any
other. -/
def Parse.units (parse : Parse) : List Statement :=
  match parse.stop with
  | none => parse.statements
  | some _ => []

/-- An identifier with a place in the text starts at an offset. -/
def NamedAt (units : List Statement) (p : Int) : Prop :=
  ∃ unit ∈ units, ∃ n ∈ unit.root.preorder, n.kind = .identifier ∧ 0 ≤ n.start ∧ n.start = p

instance (units : List Statement) (p : Int) : Decidable (NamedAt units p) :=
  inferInstanceAs (Decidable (∃ unit ∈ units, ∃ n ∈ unit.root.preorder, _ ∧ _))

/-- The text has an ASCII letter of the other case than the preferred one. -/
def HasWrongCase (upper : Bool) (text : String) : Prop :=
  ∃ ch ∈ text.toList, if upper then 'a' ≤ ch ∧ ch ≤ 'z' else 'A' ≤ ch ∧ ch ≤ 'Z'

theorem mem_identifierStarts {units : List Statement} {p : Int} :
    p ∈ identifierStarts units ↔ NamedAt units p := by
  simp only [Grammar.identifierStarts_eq, Node.walk_eq_preorder, List.mem_map, List.mem_filter,
    List.mem_flatMap, Bool.and_eq_true, beq_iff_eq, Node.isPositioned, decide_eq_true_eq]
  constructor
  · rintro ⟨n, ⟨⟨unit, hunit, hn⟩, hkind, hplace⟩, hstart⟩
    exact ⟨unit, hunit, n, hn, hkind, hplace, hstart⟩
  · rintro ⟨unit, hunit, n, hn, hkind, hplace, hstart⟩
    exact ⟨n, ⟨⟨unit, hunit, hn⟩, hkind, hplace⟩, hstart⟩

theorem isConsistent_eq_false {upper : Bool} {text : String} :
    Check.isConsistent upper text = false ↔ HasWrongCase upper text := by
  cases upper with
  | true => simp [Check.isConsistent, HasWrongCase, Name.isAllCaps, Text.isLowerAscii]
  | false => simp [Check.isConsistent, HasWrongCase, Name.isLowerSnakeCase, Text.isUpperAscii]

instance (upper : Bool) (text : String) : Decidable (HasWrongCase upper text) :=
  decidable_of_iff _ isConsistent_eq_false

/-! ## Statements that were kept -/

/-- What is kept, if anything is, are all statements of a document that parses to its end. -/
def Session.KeepsWhole (session : Session) (toolkit : Toolkit) (t : Text) : Prop :=
  ∀ statements, session.cached? = some statements →
    (toolkit.parse t).stop = none ∧ statements = (toolkit.parse t).statements

/-- So it is at every point of a run. -/
theorem Session.Faithful.keepsWhole {session : Session} {toolkit : Toolkit} {t : Text}
    (h : session.Faithful toolkit t) : session.KeepsWhole toolkit t := by
  intro statements hkept
  rcases h.cached?_cases with hnone | ⟨hsome, hstop⟩
  · rw [hnone] at hkept
    cases hkept
  · rw [hsome] at hkept
    cases hkept
    exact ⟨hstop, rfl⟩

/-- Kept or parsed now, the statements are the same. -/
theorem Session.KeepsWhole.statements_eq {session : Session} {toolkit : Toolkit} {t : Text}
    (h : session.KeepsWhole toolkit t)
    (hparse : ∀ fault, (toolkit.parse t).stop ≠ some (.gaveUp fault)) :
    (session.statements toolkit t).1 = .ok (toolkit.parse t).units := by
  unfold Session.statements Parse.units
  cases hkept : session.cached? with
  | some statements =>
    obtain ⟨hstop, rfl⟩ := h statements hkept
    simp only [hstop]
  | none =>
    cases hstop : (toolkit.parse t).stop with
    | none => simp only [Session.parse, hstop]
    | some stop =>
      cases stop with
      | failed e => simp only [Session.parse, hstop]
      | gaveUp fault => exact absurd hstop (hparse fault)

namespace Check

/-! ## What the checks list -/

theorem bareKeyword_offsets (units : List Statement) (token : Token) :
    (bareKeyword (identifierStarts units) token).map Finding.offset =
      if NamedAt units token.start then [token.start] else [] := by
  unfold bareKeyword
  simp only [List.contains_iff_mem, mem_identifierStarts]
  split <;> rfl

theorem wrongCase_offsets (upper : Bool) (units : List Statement) (token : Token) :
    (wrongCase upper (identifierStarts units) token).map Finding.offset =
      if ¬ NamedAt units token.start ∧ HasWrongCase upper token.text then [token.start]
      else [] := by
  have hfine :
      ((identifierStarts units).contains token.start || isConsistent upper token.text) = true ↔
        ¬ (¬ NamedAt units token.start ∧ HasWrongCase upper token.text) := by
    rw [Bool.or_eq_true, List.contains_iff_mem, mem_identifierStarts, ← isConsistent_eq_false,
      not_and_or, not_not, Bool.not_eq_false]
  by_cases hwrong : ¬ NamedAt units token.start ∧ HasWrongCase upper token.text
  · rw [if_pos hwrong, wrongCase, if_neg fun h => hfine.mp h hwrong]
    rfl
  · rw [if_neg hwrong, wrongCase, if_pos (hfine.mpr hwrong)]
    rfl

/-- Where a check says something of some tokens only, and once, it lists where these start. -/
theorem flatMap_offsets {detect : Token → List Finding} {test : Token → Prop} [DecidablePred test]
    (h : ∀ token, (detect token).map Finding.offset = if test token then [token.start] else [])
    (keywords : List Token) :
    (keywords.flatMap detect).map Finding.offset =
        (keywords.filter fun token => test token).map Token.start := by
  induction keywords with
  | nil => rfl
  | cons token rest ih =>
    rw [List.flatMap_cons, List.map_append, ih, h]
    by_cases htest : test token
    · simp [htest]
    · simp [htest]

section

variable {c : Context} {s : Source} {session : Session}
  (hparse : ∀ fault, (c.toolkit.parse s.text).stop ≠ some (.gaveUp fault))
  (hsession : session.KeepsWhole c.toolkit s.text)

include hparse hsession

theorem reportKeywords_lists {rule : Rule} (hactive : ∀ p, c.ledger.isActive rule p = true)
    {detect : List Int → Token → List Finding} {test : Token → Prop} [DecidablePred test]
    (htest : ∀ token, (detect (identifierStarts (c.toolkit.parse s.text).units) token).map
      Finding.offset =
      if test token then [token.start] else [])
    {found : Report} (h : (reportKeywords rule detect c s session).1 = .ok found) :
    ∃ keywords, keywordsOf c s = .ok keywords ∧
      found.Lists rule s ((keywords.filter fun token => test token).map Token.start) := by
  rw [reportKeywords_eq rule detect (hsession.statements_eq hparse)] at h
  cases hkeywords : keywordsOf c s with
  | error fault =>
    rw [hkeywords] at h
    cases h
  | ok keywords =>
    rw [hkeywords] at h
    refine ⟨keywords, rfl, ?_⟩
    rw [← flatMap_offsets htest]
    exact Ledger.report_lists hactive h

theorem reportKeywords_reports (hs : s.Valid)
    (htokens : ∀ fault, c.toolkit.tokenize s.text ≠ .error (.gaveUp fault)) (rule : Rule)
    (detect : List Int → Token → List Finding) :
    ∃ found, (reportKeywords rule detect c s session).1 = .ok found := by
  obtain ⟨keywords, hkeywords⟩ := keywordsOf_eq_ok htokens
  rw [reportKeywords_eq rule detect (hsession.statements_eq hparse), hkeywords]
  exact ⟨_, Ledger.report_eq hs c.ledger rule _⟩

end

/-- **Every keyword is judged once.** Let both rules be active everywhere, syntax trees be looked at
and the parser not give up. Whatever was kept of the parse when either check runs, the check of
names lists the keywords that stand where an identifier with a place starts, with none on a document
that does not parse, and the check of letter case lists those other keywords that have a letter of
the wrong case. So no offset has a diagnostic of both. -/
theorem keywords_judged_once (c : Context) (s : Source) (session session' : Session)
    (hnames : ∀ p, c.ledger.isActive .keywordIdentifier p = true)
    (hcases : ∀ p, c.ledger.isActive .letterCase p = true) (henabled : c.parserEnabled = true)
    (hparse : ∀ fault, (c.toolkit.parse s.text).stop ≠ some (.gaveUp fault))
    (hsession : session.KeepsWhole c.toolkit s.text)
    (hsession' : session'.KeepsWhole c.toolkit s.text) :
    (s.Valid → (∀ fault, c.toolkit.tokenize s.text ≠ .error (.gaveUp fault)) →
      ∃ names cases, (keywordIdentifier.run c s session).1 = .ok names ∧
        (letterCase.run c s session').1 = .ok cases) ∧
    ∀ names cases, (keywordIdentifier.run c s session).1 = .ok names →
      (letterCase.run c s session').1 = .ok cases →
      (∀ tokens, c.toolkit.tokenize s.text = .ok tokens →
        names.Lists .keywordIdentifier s (((tokens.filter (·.kind == .keyword)).filter fun token =>
          NamedAt (c.toolkit.parse s.text).units token.start).map Token.start) ∧
        cases.Lists .letterCase s (((tokens.filter (·.kind == .keyword)).filter fun token =>
          ¬ NamedAt (c.toolkit.parse s.text).units token.start ∧
            HasWrongCase c.settings.upperKeyword token.text).map Token.start)) ∧
      ∀ d ∈ names.diagnostics, ∀ e ∈ cases.diagnostics, d.offset ≠ e.offset := by
  have hrun : keywordIdentifier.run c s session =
      reportKeywords .keywordIdentifier bareKeyword c s session :=
    if_pos henabled
  rw [hrun]
  refine ⟨?_, ?_⟩
  · intro hs htokens
    obtain ⟨names, hnamesRun⟩ :=
      reportKeywords_reports hparse hsession hs htokens .keywordIdentifier bareKeyword
    obtain ⟨cases, hcasesRun⟩ := reportKeywords_reports hparse hsession' hs htokens .letterCase
      (wrongCase c.settings.upperKeyword)
    exact ⟨names, cases, hnamesRun, hcasesRun⟩
  · intro names cases hnamesRun hcasesRun
    obtain ⟨keywords, hkeywords, hnamesLists⟩ :=
      reportKeywords_lists hparse hsession hnames (bareKeyword_offsets _) hnamesRun
    obtain ⟨_, hkeywords', hcasesLists⟩ :=
      reportKeywords_lists hparse hsession' hcases
        (wrongCase_offsets c.settings.upperKeyword _) hcasesRun
    obtain rfl := Except.ok.inj (hkeywords.symm.trans hkeywords')
    refine ⟨?_, ?_⟩
    · intro tokens htokens
      have heq : keywordsOf c s = .ok (tokens.filter (·.kind == .keyword)) := by
        rw [keywordsOf, htokens]
      obtain rfl := Except.ok.inj (hkeywords.symm.trans heq)
      exact ⟨hnamesLists, hcasesLists⟩
    · intro d hd e he hoffset
      obtain ⟨a, ha, hastart⟩ := List.mem_map.mp (hnamesLists.offset_mem hd)
      obtain ⟨b, hb, hbstart⟩ := List.mem_map.mp (hcasesLists.offset_mem he)
      have hnamed := of_decide_eq_true (List.mem_filter.mp ha).2
      have hother := (of_decide_eq_true (List.mem_filter.mp hb).2).1
      rw [hbstart, ← hoffset, ← hastart] at hother
      exact hother hnamed

/-- A keyword and a name spelled like one, both in small letters. The check of names finds the
statement kept, and the check of letter case parses anew. -/
theorem keywords_judged_once_keptAndParsed :
    let toolkit : Toolkit :=
      { tokenize := fun _ => .ok [⟨.keyword, 0, 6, "select"⟩, ⟨.keyword, 7, 11, "date"⟩]
        parse := fun _ =>
          ⟨[⟨.mk .select "" "" 0 11 [.mk .identifier "date" "" 7 11 []], 0, 11⟩], none⟩ }
    let s := ({} : Settings).source "select date".toList.toArray none
    let c : Context := ⟨{}, Ledger.start [], toolkit⟩
    ∃ names cases, (keywordIdentifier.run c s (parserSucceeds.run c s {}).2).1 = .ok names ∧
      (letterCase.run c s {}).1 = .ok cases ∧
      (names.diagnostics.map fun d => (d.offset : Int)) = [7] ∧
      (cases.diagnostics.map fun d => (d.offset : Int)) = [0] := by
  intro toolkit s c
  have hfresh := Session.faithful_fresh toolkit s.text
  have hkept := (parserSucceeds_independent c s {} hfresh).2
  obtain ⟨hreports, hjudged⟩ := keywords_judged_once c s _ {} (fun _ => rfl) (fun _ => rfl) rfl
    (fun _ h => by cases h) hkept.keepsWhole hfresh.keepsWhole
  obtain ⟨names, cases, hnames, hcases⟩ := hreports (Source.valid_of_settings _ _ _) fun _ h => by
    cases h
  obtain ⟨hnamesLists, hcasesLists⟩ := (hjudged names cases hnames hcases).1 _ rfl
  refine ⟨names, cases, hnames, hcases, ?_, ?_⟩
  · rw [hnamesLists.diagnostics]
    decide +kernel
  · rw [hcasesLists.diagnostics]
    decide +kernel

end Check

end SqlStyle
