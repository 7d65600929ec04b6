import SqlStyle.Proofs.Scanning

/-! # Escapes read forward

Whether a quote closes its string is decided by looking back from it: an odd run of backslashes
escapes it. `unpaired?` reads the other way, from the opening quote on, and pairs each backslash
with the character after it. The two meet in one invariant: where a pair may begin, the run of
backslashes before is even. The opening quote is no backslash, so no run reaches past it, and what
stands before it does not matter. -/

namespace SqlStyle.Scan

/-- How many characters stand before the first quote that is not taken by a backslash. A backslash
takes the next character with it, whatever that is. -/
def unpaired? (quote : Char) : List Char → Option Nat
  | '\\' :: _ :: rest => (unpaired? quote rest).map (· + 2)
  | c :: rest => if c = quote then some 0 else (unpaired? quote rest).map (· + 1)
  | [] => none

theorem firstBetween_of_lt (p : Nat → Bool) {lo hi : Nat} (h : lo < hi) :
    firstBetween p lo hi = if p lo then some lo else firstBetween p (lo + 1) hi := by
  obtain ⟨n, rfl⟩ : ∃ n, hi = lo + 1 + n := ⟨hi - lo - 1, by omega⟩
  rw [firstBetween, firstBetween, show lo + 1 + n - lo = n + 1 by omega,
    show lo + 1 + n - (lo + 1) = n by omega, firstFrom]

theorem firstBetween_of_le (p : Nat → Bool) {lo hi : Nat} (h : hi ≤ lo) :
    firstBetween p lo hi = none := by
  rw [firstBetween, Nat.sub_eq_zero_of_le h, firstFrom]

theorem isEscaped_succ (t : Text) (i : Nat) :
    isEscaped t (i + 1) = (t[i]? == some '\\' && !isEscaped t i) := by
  rw [isEscaped, isEscaped, Text.runBefore]
  cases hc : t[i]? with
  | none => rfl
  | some c =>
    by_cases hb : c = '\\'
    · -- one more backslash turns the parity
      have hparity : (t.runBefore (· == '\\') i + 1) % 2 = 1 ↔
          ¬ t.runBefore (· == '\\') i % 2 = 1 := by omega
      rw [hb, Option.any_some, beq_self_eq_true, if_pos rfl, beq_self_eq_true, Bool.true_and,
        Bool.eq_iff_iff]
      simpa using hparity
    · simp [hb]

theorem getElem?_of_drop {t : Text} {i : Nat} {c : Char} {rest : List Char}
    (h : t.toList.drop i = c :: rest) : t[i]? = some c ∧ t.toList.drop (i + 1) = rest := by
  constructor
  · have hhead := congrArg List.head? h
    rwa [List.head?_drop, List.head?_cons, Array.getElem?_toList] at hhead
  · rw [← List.tail_drop, h, List.tail_cons]

/-- Looking back from each quote finds the one that reading forward finds. -/
theorem firstBetween_eq_unpaired? (t : Text) {quote : Char} (hq : quote ≠ '\\') (cs : List Char) :
    ∀ i, t.toList.drop i = cs → isEscaped t i = false →
      firstBetween (fun j => t[j]? == some quote && !isEscaped t j) i t.size =
        (unpaired? quote cs).map (i + ·) := by
  fun_induction unpaired? quote cs with
  | case1 d rest ih =>
    intro i hdrop heven
    obtain ⟨hi, hdrop⟩ := getElem?_of_drop hdrop
    obtain ⟨hd, hdrop⟩ := getElem?_of_drop hdrop
    have hodd : isEscaped t (i + 1) = true := by simp [isEscaped_succ, hi, heven]
    have heven' : isEscaped t (i + 2) = false := by simp [isEscaped_succ t (i + 1), hodd]
    have hlt := lt_size_of_getElem? hd
    rw [firstBetween_of_lt _ (by omega), firstBetween_of_lt _ hlt, ih (i + 2) hdrop heven']
    simp [hi, hodd, hq.symm, Function.comp_def, Nat.add_assoc, Nat.add_comm 2]
  | case2 rest hno =>
    intro i hdrop heven
    obtain ⟨hi, -⟩ := getElem?_of_drop hdrop
    rw [firstBetween_of_lt _ (lt_size_of_getElem? hi)]
    simp [hi, heven]
  | case3 c rest hno hc ih =>
    intro i hdrop heven
    obtain ⟨hi, hdrop⟩ := getElem?_of_drop hdrop
    have hopen : (t[i]? == some quote && !isEscaped t i) = false := by simp [hi, hc]
    rw [firstBetween_of_lt _ (lt_size_of_getElem? hi), hopen, if_neg Bool.false_ne_true]
    by_cases hb : c = '\\'
    · -- a backslash that ends the text has nothing to take
      obtain rfl : rest = [] := by
        cases rest with
        | nil => rfl
        | cons d rest => exact absurd rfl (hno d rest hb)
      rw [firstBetween_of_le _ (by simpa using hdrop)]
      rfl
    · have heven' : isEscaped t (i + 1) = false := by simp [isEscaped_succ, hi, hb]
      rw [ih (i + 1) hdrop heven']
      simp [Function.comp_def, Nat.add_assoc, Nat.add_comm 1]
  | case4 =>
    intro i hdrop _
    rw [firstBetween_of_le _ (by simpa using hdrop)]
    rfl

theorem stringEnd?_of_quote {t : Text} {p : Nat} {quote : Char} (h : OpensString t p quote) :
    stringEnd? t p =
      some (((unpaired? quote (t.toList.drop (p + 1))).map (p + 1 + ·)).getD (t.size - 1)) := by
  have hq : quote ≠ '\\' := by rcases h.2 with rfl | rfl <;> decide
  have hquote : isQuote quote = true := by rcases h.2 with rfl | rfl <;> rfl
  have heven : isEscaped t (p + 1) = false := by simp [isEscaped_succ, h.1, hq]
  rw [stringEnd?, h.1, ← firstBetween_eq_unpaired? t hq _ (p + 1) rfl heven]
  simp only [hquote, if_true]

/-- **String skipping is the forward escape automaton.** At a quote the string goes through the
first quote of the same kind that no backslash takes, reading from the next index on, or through the
last character if there is none. At any other index no string is open. Texts that differ only before
the index get the same answer, however many backslashes stand there. -/
theorem stringEnd?_eq_unpaired? (t : Text) (p : Nat) :
    (∀ quote, OpensString t p quote → stringEnd? t p =
      some (((unpaired? quote (t.toList.drop (p + 1))).map (p + 1 + ·)).getD (t.size - 1))) ∧
    ((∀ quote, ¬ OpensString t p quote) → stringEnd? t p = none) ∧
    ∀ u : Text, u.size = t.size → (∀ i, p ≤ i → u[i]? = t[i]?) →
        stringEnd? u p = stringEnd? t p := by
  refine ⟨fun quote h => stringEnd?_of_quote h, stringEnd?_eq_none, ?_⟩
  intro u hsize hsame
  have hopens : ∀ quote, OpensString u p quote ↔ OpensString t p quote := by
    intro quote
    rw [OpensString, OpensString, hsame p (Nat.le_refl p)]
  have hdrop : u.toList.drop (p + 1) = t.toList.drop (p + 1) := by
    refine List.ext_getElem? fun i => ?_
    rw [List.getElem?_drop, List.getElem?_drop, Array.getElem?_toList, Array.getElem?_toList]
    exact hsame _ (by omega)
  by_cases h : ∃ quote, OpensString t p quote
  · obtain ⟨quote, hquote⟩ := h
    rw [stringEnd?_of_quote hquote, stringEnd?_of_quote ((hopens quote).mpr hquote), hdrop, hsize]
  · have hnone : ∀ quote, ¬ OpensString t p quote := fun quote hquote => h ⟨quote, hquote⟩
    rw [stringEnd?_eq_none hnone, stringEnd?_eq_none fun quote hquote =>
      hnone quote ((hopens quote).mp hquote)]

/-- A quote behind a backslash still opens: in `\'a\'\\'` the first escaped quote is passed over,
and the last one, behind two backslashes, closes. Without the backslash in front nothing changes. -/
theorem stringEnd?_eq_unpaired?_backslashes :
    let t : Text := #['\\', '\'', 'a', '\\', '\'', '\\', '\\', '\'']
    let u : Text := #['x', '\'', 'a', '\\', '\'', '\\', '\\', '\'']
    OpensString t 1 '\'' ∧ stringEnd? t 1 = some 7 ∧ (∀ quote, ¬ OpensString t 2 quote) ∧
      stringEnd? t 2 = none ∧
      u.size = t.size ∧ (∀ i, 1 ≤ i → u[i]? = t[i]?) ∧ stringEnd? u 1 = stringEnd? t 1 := by
  intro t u
  obtain ⟨hquote, -, hsame⟩ := stringEnd?_eq_unpaired? t 1
  have hopens : OpensString t 1 '\'' := ⟨rfl, .inl rfl⟩
  have hother : ∀ quote, ¬ OpensString t 2 quote := by
    rintro quote ⟨ha, hq⟩
    obtain rfl : 'a' = quote := Option.some.inj ha
    exact absurd hq (by decide)
  have hagree : ∀ i, 1 ≤ i → u[i]? = t[i]? := by
    rintro (_ | i) hi
    · exact absurd hi (by decide)
    · rfl
  have hend : stringEnd? t 1 = some 7 := by rw [hquote _ hopens]; decide
  exact ⟨hopens, hend, hother, (stringEnd?_eq_unpaired? t 2).2.1 hother, rfl, hagree,
    hsame u rfl hagree⟩

end SqlStyle.Scan
