import SqlStyle.Proofs.LookBehind
import SqlStyle.Proofs.UnchangedReports

/-! # Comments in the way of looking back

Whether an alias follows `AS`, and whether a join is written as a comma, is decided by looking back
from a node in the text as it is written. So two documents that differ in a block comment only, the
one with spaces in its place, get the same report on the same tree, unless the comment stands right
before a node and hides what decides: the word `AS`, or the comma or the word `JOIN`
(`comment_unchanged_iff`). -/

namespace SqlStyle

namespace Check

open Scan

/-! ## What the checks find by looking back -/

/-- What is found at a visited node about an alias. -/
def aliasFindings (t : Text) (v : Node.Visit) : List Finding :=
  match introducedAlias? v with
  | none => []
  | some identifier =>
    issueIf (!(wordBefore? t identifier.start.toNat).any fun word => Text.upper word.1 == "AS")
      identifier.start
      "Always use AS keyword before aliases"

/-- What is found at a join that starts at an offset, if a look back from it stops at an index. -/
def joinIssue (t : Text) (before : Option Nat) (start : Int) : List Finding :=
  if before.any fun i => t[i]? == some ',' then []
  else
    let offset : Int := match wordBefore? t (before.elim 0 (· + 1)) with
      | some (word, wordStart) => if Text.upper word == "JOIN" then wordStart else start
      | none => start
    [⟨offset, "Always explicitly indicate the type of join."⟩]

/-- What is found at a visited node about a join. -/
def joinFindings (t : Text) (v : Node.Visit) : List Finding :=
  if isPlainJoin v.node then joinIssue t (solid? joinSkips t v.node.start.toNat) v.node.start
  else []

/-- The comment from `a` up to `b` hides the word `AS` from an alias: only blanks stand between the
comment and the identifier, and the word before the comment is `AS`. -/
def HidesAs (t : Text) (a b : Nat) (v : Node.Visit) : Prop :=
  ∃ identifier, introducedAlias? v = some identifier ∧
    Reaches Text.isBlank t b identifier.start.toNat ∧
    ∃ word wordStart, wordBefore? t a = some (word, wordStart) ∧ Text.upper word = "AS"

/-- The comment from `a` up to `b` hides from a join without a type what it is written as: only
blanks and opening parentheses stand between the comment and the join, and, these apart, a comma or
the word `JOIN` before the comment. -/
def HidesJoin (t : Text) (a b : Nat) (v : Node.Visit) : Prop :=
  isPlainJoin v.node = true ∧ Reaches joinSkips t b v.node.start.toNat ∧
    ∃ i, solid? joinSkips t a = some i ∧
    (t[i]? = some ',' ∨ ∃ word wordStart, wordBefore? t (i + 1) = some (word, wordStart) ∧
      Text.upper word = "JOIN")

section Findings

variable {s : Source} {t : Text} {v : Node.Visit} {a b : Nat}

/-- Looking back from a node in its place meets no fault. -/
theorem aliasRule_eq (hv : v.node.Placed s.text) :
    aliasRule s v = .ok (aliasFindings s.text v) := by
  unfold aliasRule aliasFindings
  cases halias : introducedAlias? v with
  | none => rfl
  | some identifier =>
    have hstart := introducedAlias?_start hv halias
    have hle : identifier.start.toNat ≤ s.text.size := by omega
    simp only [previousWord_eq hle]
    cases wordBefore? s.text identifier.start.toNat with
    | none => rfl
    | some word => rfl

theorem joinRule_eq (hv : v.node.Placed s.text) : joinRule s v = .ok (joinFindings s.text v) := by
  unfold joinRule joinFindings
  by_cases hplain : isPlainJoin v.node = true
  · have hstart := hv.start_lt (isPositioned_of_isPlainJoin hplain)
    have hle : v.node.start.toNat ≤ s.text.size := by omega
    have hedge : (solid? joinSkips s.text v.node.start.toNat).elim 0 (· + 1) ≤ s.text.size := by
      cases hsolid : solid? joinSkips s.text v.node.start.toNat with
      | none => exact Nat.zero_le _
      | some i => exact Nat.le_trans (solid?_lt hsolid) hle
    rw [if_pos hplain, if_pos hplain, lastBefore_eq joinSkips s.text hle]
    show (if _ then _ else _) = _
    rw [previousWord_eq hedge, joinIssue]
    split
    · rfl
    · rfl
  · rw [if_neg hplain, if_neg hplain]

theorem aliasFindings_inside (hv : v.node.Placed s.text) :
    ∀ f ∈ aliasFindings s.text v, f.Inside s := by
  intro f hf
  unfold aliasFindings at hf
  split at hf
  · cases hf
  · rename_i identifier halias
    have hstart := introducedAlias?_start hv halias
    unfold issueIf at hf
    split at hf
    · rw [List.mem_singleton.mp hf]
      exact ⟨hstart.1, Int.le_of_lt hstart.2⟩
    · cases hf

/-- An issue about a join is at the join or, at a word, before it. -/
theorem joinIssue_bounds {before : Option Nat} {start : Int} (h0 : 0 ≤ start)
    (hbefore : ∀ i, before = some i → i < start.toNat) :
    ∀ f ∈ joinIssue t before start, 0 ≤ f.offset ∧ f.offset ≤ start := by
  have hedge : before.elim 0 (· + 1) ≤ start.toNat := by
    cases before with
    | none => exact Nat.zero_le _
    | some i => exact hbefore i rfl
  intro f hf
  unfold joinIssue at hf
  split at hf
  · cases hf
  · rw [List.mem_singleton.mp hf]
    dsimp only
    split
    · rename_i word wordStart hword
      have hlt := wordBefore?_lt hword
      dsimp only at hlt
      split
      · omega
      · omega
    · omega

theorem joinFindings_inside (hv : v.node.Placed s.text) :
    ∀ f ∈ joinFindings s.text v, f.Inside s := by
  intro f hf
  unfold joinFindings at hf
  split at hf
  · rename_i hjoin
    have hstart := hv.start_lt (isPositioned_of_isPlainJoin hjoin)
    have hbounds := joinIssue_bounds hstart.1 (fun i hi => solid?_lt hi) f hf
    exact ⟨hbounds.1, by omega⟩
  · cases hf

/-- With the comment an alias has at least the issues it has without it, and no others just if `AS`
is not hidden. -/
theorem aliasFindings_blankOut (hv : v.node.Placed t) (hlt : a < b)
    (hclosed : b < t.size → CommentBefore t a b)
    (hclear : ∀ identifier, introducedAlias? v = some identifier →
      identifier.start < a ∨ b ≤ identifier.start) :
    (aliasFindings (t.blankOut a b) v).length ≤ (aliasFindings t v).length ∧
      (aliasFindings t v = aliasFindings (t.blankOut a b) v ↔ ¬ HidesAs t a b v) := by
  cases halias : introducedAlias? v with
  | none => simp [aliasFindings, HidesAs, halias]
  | some identifier =>
    have hstart := introducedAlias?_start (s := { text := t }) hv halias
    dsimp only at hstart
    -- what counts is whether the look back from the identifier reaches the comment
    by_cases hreach : Reaches Text.isBlank t b identifier.start.toNat
    · have hcomment : CommentBefore t a b := hclosed (by have := hreach.1; omega)
      simp only [aliasFindings, HidesAs, halias, hcomment.wordBefore?_eq_none hreach,
        hcomment.wordBefore?_blankOut hreach, Option.some.injEq, exists_eq_left', hreach, true_and]
      cases hword : wordBefore? t a with
      | none => simp [issueIf]
      | some word =>
        obtain ⟨word, wordStart⟩ := word
        by_cases has : Text.upper word = "AS"
        · simp [issueIf, has]
        · simp [issueIf, has]
    · have hsame : wordBefore? (t.blankOut a b) identifier.start.toNat =
          wordBefore? t identifier.start.toNat := by
        rcases hclear identifier halias with hbefore | hbehind
        · exact (wordBefore?_agree (agree_blankOut (by omega) (by omega) b) (Nat.le_refl _)).symm
        · exact (hclosed (by omega)).wordBefore?_blankOut_of_not_reaches (by omega) hreach
      simp [aliasFindings, HidesAs, halias, hsame, hreach]

theorem joinIssue_agree {u : Text} {n : Nat} (h : Text.Agree n t u) {before : Option Nat}
    (hbefore : ∀ i, before = some i → i < n) (start : Int) :
    joinIssue t before start = joinIssue u before start := by
  cases before with
  | none => rfl
  | some i =>
    have hi := hbefore i rfl
    simp only [joinIssue, Option.any_some, Option.elim_some, h.same i hi,
      wordBefore?_agree h (n := i + 1) hi]

/-- Behind an index from which two texts agree, a look back that stops there finds the same issue in
both. -/
theorem joinIssue_agreeFrom {u : Text} {q i : Nat} (h : AgreeFrom q t u) (hi : q ≤ i)
    (hsolid : t[i]?.any joinSkips = false) (start : Int) :
    joinIssue t (some i) start = joinIssue u (some i) start := by
  have hblank : t[i]?.any Text.isBlank = false := by
    rw [Option.any_eq_false] at hsolid ⊢
    intro c hc
    exact (Bool.or_eq_false_iff.mp (hsolid c hc)).1
  have hstops : solid? Text.isBlank t (i + 1) = some i := by
    rw [solid?, hblank]
    rfl
  simp only [joinIssue, Option.any_some, Option.elim_some, h.same i hi, h.wordBefore?_eq hi hstops]

theorem length_joinIssue_le (before : Option Nat) (start : Int) :
    (joinIssue t before start).length ≤ 1 := by
  unfold joinIssue
  split
  · exact Nat.zero_le 1
  · exact Nat.le_refl 1

/-- The issue about a join is at its start, unless a comma or the word `JOIN` stands before it. -/
theorem joinIssue_eq_iff {before : Option Nat} {start : Int}
    (hbefore : ∀ i, before = some i → i < start.toNat) :
    joinIssue t before start = [⟨start, "Always explicitly indicate the type of join."⟩] ↔
      ¬ ∃ i, before = some i ∧ (t[i]? = some ',' ∨
        ∃ word wordStart, wordBefore? t (i + 1) = some (word, wordStart) ∧
            Text.upper word = "JOIN") := by
  cases before with
  | none => simp [joinIssue, wordBefore?, solid?]
  | some i =>
    have hi := hbefore i rfl
    simp only [joinIssue, Option.any_some, Option.elim_some, beq_iff_eq, Option.some.injEq,
      exists_eq_left']
    by_cases hcomma : t[i]? = some ','
    · simp [hcomma]
    · cases hword : wordBefore? t (i + 1) with
      | none => simp [hcomma]
      | some word =>
        obtain ⟨word, wordStart⟩ := word
        have hlt := wordBefore?_lt hword
        dsimp only at hlt
        by_cases hjoin : Text.upper word = "JOIN"
        · have hne : (wordStart : Int) ≠ start := by omega
          simp [hcomma, hjoin, hne]
        · simp [hcomma, hjoin]

/-- A comment is no comma, and no word ends with it. -/
theorem joinIssue_comment (h : CommentBefore t a b) (start : Int) :
    joinIssue t (some (b - 1)) start =
        [⟨start, "Always explicitly indicate the type of join."⟩] := by
  have hb : b - 1 + 1 = b := by have := h.lt; omega
  have hword : wordBefore? t b = none :=
    h.wordBefore?_eq_none ⟨Nat.le_refl b, fun i hi hib => by omega⟩
  simp [joinIssue, h.slash, hb, hword]

/-- With the comment a join has at least the issues it has without it, and no others just if the
comment hides neither a comma nor the word `JOIN`. -/
theorem joinFindings_blankOut (hv : v.node.Placed t) (hlt : a < b)
    (hclosed : b < t.size → CommentBefore t a b)
    (hclear : v.node.isPositioned = true → v.node.start < a ∨ b ≤ v.node.start) :
    (joinFindings (t.blankOut a b) v).length ≤ (joinFindings t v).length ∧
      (joinFindings t v = joinFindings (t.blankOut a b) v ↔ ¬ HidesJoin t a b v) := by
  by_cases hplain : isPlainJoin v.node = true
  · have hstart := hv.start_lt (isPositioned_of_isPlainJoin hplain)
    rw [joinFindings, joinFindings, if_pos hplain, if_pos hplain, HidesJoin, and_iff_right hplain]
    by_cases hreach : Reaches joinSkips t b v.node.start.toNat
    · have hcomment : CommentBefore t a b := hclosed (by have := hreach.1; omega)
      have hwith : joinIssue t (solid? joinSkips t v.node.start.toNat) v.node.start =
          [⟨v.node.start, "Always explicitly indicate the type of join."⟩] := by
        rw [hcomment.solid?_eq (by decide) hreach]
        exact joinIssue_comment hcomment _
      have hwithout : joinIssue (t.blankOut a b)
          (solid? joinSkips (t.blankOut a b) v.node.start.toNat) v.node.start =
          joinIssue t (solid? joinSkips t a) v.node.start := by
        rw [hcomment.solid?_blankOut (by decide) hreach]
        exact (joinIssue_agree hcomment.agree (fun i hi => solid?_lt hi) _).symm
      have hbefore : ∀ i, solid? joinSkips t a = some i → i < v.node.start.toNat := by
        intro i hi
        have := solid?_lt hi
        have := hreach.1
        omega
      rw [hwith, hwithout, eq_comm, joinIssue_eq_iff hbefore, and_iff_right hreach]
      exact ⟨length_joinIssue_le _ _, Iff.rfl⟩
    · have hsame : joinIssue (t.blankOut a b) (solid? joinSkips (t.blankOut a b) v.node.start.toNat)
          v.node.start =
          joinIssue t (solid? joinSkips t v.node.start.toNat) v.node.start := by
        rcases hclear (isPositioned_of_isPlainJoin hplain) with hbefore | hbehind
        · have hagree := agree_blankOut (t := t) (a := a) (n := v.node.start.toNat)
            (by omega) (by omega) b
          rw [← solid?_agree hagree joinSkips (Nat.le_refl _)]
          exact (joinIssue_agree hagree (fun i hi => solid?_lt hi) _).symm
        · have hcomment : CommentBefore t a b := hclosed (by omega)
          obtain ⟨i, hi, hsolid⟩ :=
            (reaches_or_stops joinSkips t (q := b) (by omega)).resolve_left hreach
          rw [hsolid, hcomment.agreeFrom.solid?_eq hi hsolid]
          exact (joinIssue_agreeFrom hcomment.agreeFrom hi (solid?_not_skipped hsolid) _).symm
      rw [hsame]
      simp [hreach]
  · have hnone : ∀ u, joinFindings u v = [] := fun u => if_neg hplain
    simp [hnone, HidesJoin, hplain]

end Findings

theorem introducedAlias?_mem {v : Node.Visit} {identifier : Node}
    (h : introducedAlias? v = some identifier) :
    identifier ∈ v.node.children ∧ identifier.isPositioned = true := by
  have hnamed : ∀ {name}, isIdentifierNamed name identifier = true →
      identifier.isPositioned = true :=
    fun hnamed => (Bool.and_eq_true_iff.mp hnamed).2
  unfold introducedAlias? at h
  split at h
  · exact ⟨List.mem_reverse.mp (List.mem_of_find?_eq_some h), hnamed (List.find?_some h)⟩
  · split at h
    · cases h
    · exact ⟨List.mem_of_find?_eq_some h, hnamed (List.find?_some h)⟩
  · cases h

/-! ## One comment more or less -/

/-- No node that has a place starts between two indices. This holds of a comment that overlaps no
leaf, as nodes start where a leaf of theirs does, or else at a word of their own. -/
def StartsOutside (a b : Nat) (statements : List Statement) : Prop :=
  ∀ v ∈ visitsOf statements, v.node.isPositioned = true → v.node.start < a ∨ b ≤ v.node.start

/-- A rule that looks at nodes in their place comes to the same with a range of the text overwritten
just if that makes no difference at any node. -/
theorem unchanged_blankOut_iff {rule : Rule}
    {detect : Source → Node.Visit → Except Fault (List Finding)}
    {findings : Text → Node.Visit → List Finding} {Differs : Node.Visit → Prop}
    (hdetect : ∀ (s : Source) (v : Node.Visit), v.node.Placed s.text →
      detect s v = .ok (findings s.text v) ∧ ∀ f ∈ findings s.text v, f.Inside s)
    {settings : Settings} {toolkit : Toolkit} {s : Source} {session session' : Session}
    {statements : List Statement} {a b : Nat} (hs : s.Valid)
    (hseen : (session.statements toolkit s.text).1 = .ok statements)
    (hseen' : (session'.statements toolkit (s.blankOut a b).text).1 = .ok statements)
    (hplaced : ∀ v ∈ visitsOf statements, v.node.Placed s.text)
    (hfound : ∀ v ∈ visitsOf statements,
      (findings (s.text.blankOut a b) v).length ≤ (findings s.text v).length ∧
        (findings s.text v = findings (s.text.blankOut a b) v ↔ ¬ Differs v)) :
    Unchanged (ofNodes rule detect) settings toolkit s (s.blankOut a b) session session' ↔
      ∀ v ∈ visitsOf statements, ¬ Differs v := by
  have hplaced' : ∀ v ∈ visitsOf statements, v.node.Placed (s.blankOut a b).text :=
    fun v hv => (hplaced v hv).of_size (s.size_blankOut a b)
  have hiff := ofNodes_unchanged_iff rule settings hs (hs.blankOut a b) rfl hseen hseen'
    (fun v hv => hdetect s v (hplaced v hv))
    (fun v hv => hdetect (s.blankOut a b) v (hplaced' v hv))
    fun v hv => (hfound v hv).1
  exact hiff.trans (forall₂_congr fun v hv => (hfound v hv).2)

/-- **Comments are in the way of looking back.** Take a document with a tree whose nodes start in
the text and a block comment in which none of them starts, and the same tree over the document with
that comment overwritten by spaces. The check of aliases comes to the same in both just if the
comment hides the word `AS` from no alias, and the check of joins just if it hides neither a comma
nor the word `JOIN` from a join without a type. -/
theorem comment_unchanged_iff (settings : Settings) (toolkit : Toolkit)
    (session session' : Session) {s : Source} {d : Char} {segs : List Segment} {a b : Nat}
    {statements : List Statement} (hs : s.Valid) (hsegs : Segments s.text d 0 segs)
    (hblock : .block a b ∈ segs) (hseen : (session.statements toolkit s.text).1 = .ok statements)
    (hseen' : (session'.statements toolkit (s.blankOut a b).text).1 = .ok statements)
    (hplaced : ∀ statement ∈ statements, statement.root.Placed s.text)
    (hclear : StartsOutside a b statements) :
    (Unchanged explicitAlias settings toolkit s (s.blankOut a b) session session' ↔
      ∀ v ∈ visitsOf statements, ¬ HidesAs s.text a b v) ∧
    (Unchanged join settings toolkit s (s.blankOut a b) session session' ↔
      ∀ v ∈ visitsOf statements, ¬ HidesJoin s.text a b v) := by
  obtain ⟨hlt, hclosed⟩ := hsegs.commentBefore hblock
  have hvisits : ∀ v ∈ visitsOf statements, v.node.Placed s.text := by
    intro v hv
    obtain ⟨statement, hm, hv⟩ := List.mem_flatMap.mp hv
    exact (hplaced statement hm).visit hv
  constructor
  · refine unchanged_blankOut_iff (fun s v hv => ⟨aliasRule_eq hv, aliasFindings_inside hv⟩) hs
      hseen hseen' hvisits ?_
    intro v hv
    refine aliasFindings_blankOut (hvisits v hv) hlt hclosed fun identifier halias => ?_
    obtain ⟨hchild, hpositioned⟩ := introducedAlias?_mem halias
    obtain ⟨w, hw, rfl⟩ := exists_visit_child hv hchild
    exact hclear w hw hpositioned
  · refine unchanged_blankOut_iff (fun s v hv => ⟨joinRule_eq hv, joinFindings_inside hv⟩) hs hseen
      hseen' hvisits ?_
    intro v hv
    exact joinFindings_blankOut (hvisits v hv) hlt hclosed (hclear v hv)

/-- An alias with a comment right before it and `AS` before that: the check of aliases does not come
to the same without the comment, the check of joins does. -/
theorem comment_unchanged_iff_alias :
    let s : Source := { text := #['A', 'S', '/', '*', '*', '/', 'a'] }
    let root : Node := .mk .aliased "a" "a" 6 7 [.mk .identifier "a" "" 6 7 []]
    let session : Session := { cache := some ⟨[⟨root, 0, 7⟩], true⟩ }
    root.Placed s.text ∧ StartsOutside 2 6 [⟨root, 0, 7⟩] ∧
    ¬ Unchanged explicitAlias {} Toolkit.empty s (s.blankOut 2 6) session session ∧
      Unchanged join {} Toolkit.empty s (s.blankOut 2 6) session session := by
  intro s root session
  have hs : s.Valid := fun width h => by cases h
  have hcomment : Segments s.text '\n' 2 [.block 2 6, .code 6] := by
    refine .step (by decide) (.block ⟨rfl, rfl⟩ (.inl ⟨4, by decide, ⟨rfl, rfl⟩, ?_, rfl⟩)) ?_
    · intro j hj hj'
      omega
    · exact .step (by decide) (segmentAt_code rfl (by decide)) (.done (by decide))
  have hsegs : Segments s.text '\n' 0 [.code 0, .code 1, .block 2 6, .code 6] :=
    .step (by decide) (segmentAt_code rfl (by decide))
      (.step (by decide) (segmentAt_code rfl (by decide)) hcomment)
  have hplaced : root.Placed s.text := by
    refine .mk (fun _ => by decide) fun child hchild => ?_
    rw [List.mem_singleton.mp hchild]
    exact .mk (fun _ => by decide) (by simp)
  have hvisits : visitsOf [⟨root, 0, 7⟩] =
      [⟨0, none, root⟩, ⟨1, some root, .mk .identifier "a" "" 6 7 []⟩] := by
    simp [visitsOf, Statement.visits, Node.visits, Node.visitsFrom, Node.Visit.below, root,
      Node.children]
  have hclear : StartsOutside 2 6 [⟨root, 0, 7⟩] := by
    unfold StartsOutside
    rw [hvisits]
    intro v hv _
    simp only [List.mem_cons, List.not_mem_nil, or_false] at hv
    rcases hv with rfl | rfl
    · exact .inr (by decide)
    · exact .inr (by decide)
  obtain ⟨halias, hjoin⟩ :=
    comment_unchanged_iff {} Toolkit.empty session session hs hsegs (a := 2) (b := 6)
    (by simp) rfl rfl (by simpa using hplaced) hclear
  refine ⟨hplaced, hclear, ?_, ?_⟩
  · rw [halias, hvisits]
    intro h
    refine h _ List.mem_cons_self
      ⟨.mk .identifier "a" "" 6 7 [], rfl, ⟨by decide, fun i hi (hi' : i < 6) => by omega⟩, ?_⟩
    exact ⟨"AS", 0, by decide +kernel, by decide +kernel⟩
  · rw [hjoin, hvisits]
    intro v hv hhides
    have hplain := hhides.1
    simp only [List.mem_cons, List.not_mem_nil, or_false] at hv
    rcases hv with rfl | rfl
    · cases hplain
    · cases hplain

/-- `AS /* c */ a` counts as an alias without `AS` and `, /* c */ u` as a join without a type,
though neither comment overlaps a leaf; with spaces in place of the comment, nothing is found. -/
theorem comment_hides_as_and_comma :
    let s : Source := { text := "SELECT 1 AS /* c */ a FROM t, /* c */ u;".toList.toArray }
    let leaf (name : String) (start stop : Int) : Node := .mk .identifier name "" start stop []
    let root : Node := .mk .select "" "" 20 39
      [.mk .aliased "a" "a" 20 21 [leaf "a" 20 21], .mk .join "" "" 38 39 [leaf "u" 38 39]]
    let session : Session := { cache := some ⟨[⟨root, 0, 39⟩], true⟩ }
    let c : Context := ⟨{}, Ledger.start [], Toolkit.empty⟩
    (∃ r r', (explicitAlias.run c s session).1 = .ok r ∧
      (explicitAlias.run c (s.blankOut 12 19) session).1 = .ok r' ∧
      r.findings = [⟨20, "Always use AS keyword before aliases"⟩] ∧ r'.findings = []) ∧
    ∃ r r', (join.run c s session).1 = .ok r ∧ (join.run c (s.blankOut 30 37) session).1 = .ok r' ∧
      r.findings = [⟨38, "Always explicitly indicate the type of join."⟩] ∧ r'.findings = [] := by
  intro s leaf root session c
  have hs : s.Valid := fun width h => by cases h
  have hvisits : visitsOf [⟨root, 0, 39⟩] = [⟨0, none, root⟩,
      ⟨1, some root, .mk .aliased "a" "a" 20 21 [leaf "a" 20 21]⟩,
      ⟨2, some (.mk .aliased "a" "a" 20 21 [leaf "a" 20 21]), leaf "a" 20 21⟩,
      ⟨1, some root, .mk .join "" "" 38 39 [leaf "u" 38 39]⟩,
      ⟨2, some (.mk .join "" "" 38 39 [leaf "u" 38 39]), leaf "u" 38 39⟩] := by
    simp [visitsOf, Statement.visits, Node.visits, Node.visitsFrom, Node.Visit.below, root, leaf,
      Node.children]
  have hroot : root.Placed s.text := by
    refine .mk (fun _ => by decide)
      (List.forall_mem_cons.mpr ⟨?_, List.forall_mem_singleton.mpr ?_⟩)
    · exact .mk (fun _ => by decide)
        (List.forall_mem_singleton.mpr (.mk (fun _ => by decide) (by simp)))
    · exact .mk (fun _ => by decide)
        (List.forall_mem_singleton.mpr (.mk (fun _ => by decide) (by simp)))
  have hplaced : ∀ u : Source, u.text.size = s.text.size → ∀ v ∈ visitsOf [⟨root, 0, 39⟩],
      v.node.Placed u.text := by
    intro u hu v hv
    obtain ⟨statement, hm, hv⟩ := List.mem_flatMap.mp hv
    rw [List.mem_singleton.mp hm] at hv
    exact (hroot.of_size hu).visit hv
  -- the same tree over three texts: as written, without the first comment, without the second
  have halias : ∀ u : Source, u.Valid → u.text.size = s.text.size →
      ∃ r, (explicitAlias.run c u session).1 = .ok r ∧
      r.findings = (visitsOf [⟨root, 0, 39⟩]).flatMap (aliasFindings u.text) := fun u hvalid hu =>
    ofNodes_findings _ _ hvalid rfl fun v hv =>
      ⟨aliasRule_eq (hplaced u hu v hv), aliasFindings_inside (hplaced u hu v hv)⟩
  have hjoin : ∀ u : Source, u.Valid → u.text.size = s.text.size →
      ∃ r, (join.run c u session).1 = .ok r ∧
      r.findings = (visitsOf [⟨root, 0, 39⟩]).flatMap (joinFindings u.text) := fun u hvalid hu =>
    ofNodes_findings _ _ hvalid rfl fun v hv =>
      ⟨joinRule_eq (hplaced u hu v hv), joinFindings_inside (hplaced u hu v hv)⟩
  rw [hvisits] at halias hjoin
  constructor
  · obtain ⟨r, hr, hfound⟩ := halias s hs rfl
    obtain ⟨r', hr', hfound'⟩ :=
      halias (s.blankOut 12 19) (hs.blankOut 12 19) (s.size_blankOut 12 19)
    refine ⟨r, r', hr, hr', ?_, ?_⟩
    · rw [hfound]
      decide +kernel
    · rw [hfound']
      decide +kernel
  · obtain ⟨r, hr, hfound⟩ := hjoin s hs rfl
    obtain ⟨r', hr', hfound'⟩ :=
      hjoin (s.blankOut 30 37) (hs.blankOut 30 37) (s.size_blankOut 30 37)
    refine ⟨r, r', hr, hr', ?_, ?_⟩
    · rw [hfound]
      decide +kernel
    · rw [hfound']
      decide +kernel

end Check

end SqlStyle
