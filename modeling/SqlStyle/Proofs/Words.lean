import SqlStyle.Proofs.Imports
import SqlStyle.Proofs.LookBehind
import SqlStyle.Scan.Signed

/-! # Words are read whole

A word read forward is what stands between the spaces and tabs behind an index and the next stop or
the end of the text (`IsNextWord`). A word read backward is a run of letters, numerals and
underscores that only blanks part from the index, and that starts where no such character stands
before it (`IsPreviousWord`). Both readings find that word and where it stands, from every index of
the text and from its end. Backward there is none just if the last character that is no blank is
missing or belongs to no word (`words_read_whole`). -/

namespace SqlStyle

/-! ## Stretches of the text -/

namespace Text

theorem mem_slice {t : Text} {start stop : Nat} {c : Char} :
    c ∈ (t.slice start stop).toList ↔ ∃ i, start ≤ i ∧ i < stop ∧ t[i]? = some c := by
  rw [slice, String.toList_ofList, Array.mem_toList_iff, Array.mem_extract_iff_getElem]
  constructor
  · intro h
    obtain ⟨k, hk, hget⟩ := h
    exact ⟨start + k, by omega, by omega, Array.getElem?_eq_some_iff.mpr ⟨by omega, hget⟩⟩
  · intro h
    obtain ⟨i, hstart, hstop, hget⟩ := h
    obtain ⟨hsize, hi⟩ := Array.getElem?_eq_some_iff.mp hget
    refine ⟨i - start, by omega, ?_⟩
    simpa only [Nat.add_sub_cancel' hstart] using hi

theorem length_slice {t : Text} (start : Nat) {stop : Nat} (h : stop ≤ t.size) :
    (t.slice start stop).length = stop - start := by
  rw [slice, String.length_ofList, Array.length_toList, Array.size_extract, Nat.min_eq_left h]

end Text

namespace Scan

/-- All characters of a stretch pass a test just if a look back goes through it. -/
theorem forall_mem_slice {t : Text} {test : Char → Bool} {a b : Nat} (hab : a ≤ b)
    (hb : b ≤ t.size) :
    (∀ c ∈ (t.slice a b).toList, test c = true) ↔ Reaches test t a b := by
  constructor
  · intro hall
    refine ⟨hab, fun i hi hib => ?_⟩
    have hlt : i < t.size := Nat.lt_of_lt_of_le hib hb
    have hget : t[i]? = some t[i] := Array.getElem?_eq_getElem hlt
    rw [hget, Option.any_some]
    exact hall _ (Text.mem_slice.mpr ⟨i, hi, hib, hget⟩)
  · intro hreach c hc
    obtain ⟨i, hi, hib, hget⟩ := Text.mem_slice.mp hc
    simpa [hget] using hreach.2 i hi hib

/-- Two stretches that start together, pass a test and cannot be continued end together. -/
theorem Reaches.stop_unique {test : Char → Bool} {t : Text} {i a b : Nat} (ha : Reaches test t i a)
    (hb : Reaches test t i b) (hstopa : t[a]?.any test = false) (hstopb : t[b]?.any test = false) :
    a = b := by
  rcases Nat.lt_trichotomy a b with hlt | heq | hlt
  · exact absurd (hb.2 a ha.1 hlt) (Bool.eq_false_iff.mp hstopa)
  · exact heq
  · exact absurd (ha.2 b hb.1 hlt) (Bool.eq_false_iff.mp hstopb)

theorem reaches_runEnd (test : Char → Bool) {t : Text} {i : Nat} (h : i ≤ t.size) :
    Reaches test t i (t.runEnd test i) ∧ t[t.runEnd test i]?.any test = false := by
  unfold Text.runEnd
  cases hf : firstBetween (fun j => !t[j]?.any test) i t.size with
  | none =>
    -- every index up to the end passes, and at the end there is no character
    rw [Option.getD_none, Nat.max_eq_right h, Array.getElem?_eq_none (Nat.le_refl _)]
    refine ⟨⟨h, fun j hj hjs => ?_⟩, rfl⟩
    simpa using firstFrom_eq_none hf j hj (by omega)
  | some e =>
    obtain ⟨hle, -, hfails, hpass⟩ := firstFrom_eq_some hf
    exact ⟨⟨hle, fun j hj hje => by simpa using hpass j hj hje⟩, by simpa using hfails⟩

/-- The run from an index on is the stretch that passes the test and cannot be continued. -/
theorem runEnd_eq_iff {test : Char → Bool} {t : Text} {i e : Nat} (h : i ≤ t.size) :
    t.runEnd test i = e ↔ Reaches test t i e ∧ t[e]?.any test = false := by
  obtain ⟨hreach, hstop⟩ := reaches_runEnd test h
  constructor
  · intro heq
    exact heq ▸ ⟨hreach, hstop⟩
  · intro hrun
    exact hreach.stop_unique hrun.1 hstop hrun.2

theorem solid?_eq_some_iff {skip : Char → Bool} {t : Text} {n i : Nat} :
    solid? skip t n = some i ↔ i < n ∧ t[i]?.any skip = false ∧ Reaches skip t (i + 1) n := by
  constructor
  · intro h
    have hlt := solid?_lt h
    refine ⟨hlt, solid?_not_skipped h, (reaches_or_stops skip t hlt).resolve_right fun hstops => ?_⟩
    obtain ⟨j, hj, hstop⟩ := hstops
    cases h.symm.trans hstop
    omega
  · intro h
    obtain ⟨-, hsolid, hreach⟩ := h
    rw [hreach.solid?_eq, solid?, if_neg (Bool.eq_false_iff.mp hsolid)]

theorem solid?_eq_none_iff {skip : Char → Bool} {t : Text} {n : Nat} :
    solid? skip t n = none ↔ Reaches skip t 0 n := by
  constructor
  · intro h
    refine (reaches_or_stops skip t (Nat.zero_le n)).resolve_right fun hstops => ?_
    obtain ⟨i, -, hstop⟩ := hstops
    cases h.symm.trans hstop
  · intro hreach
    rw [hreach.solid?_eq, solid?]

/-! ## Reading forward -/

/-- What a word read forward ends at. -/
def stopChars : List Char := [' ', '\t', '\n', '\r', ';', '(', ',']

/-- What may stand in front of a word on its line. -/
def gapChars : List Char := [' ', '\t']

theorem isWordStop_iff (c : Char) : isWordStop c = true ↔ c ∈ stopChars := by
  simp [isWordStop, Text.isBlank, stopChars, or_assoc]

theorem isGap_iff (c : Char) : (c == ' ' || c == '\t') = true ↔ c ∈ gapChars := by
  simp [gapChars]

/-- The word that ends at index `stop` is the next one from index `p` on: nothing but spaces and
tabs leads to it, it goes on up to a stop or to the end of the text, and it starts behind the last
of the spaces and tabs. -/
structure IsNextWord (t : Text) (p : Nat) (word : String) (stop : Nat) : Prop where
  le : p + word.length ≤ stop
  eq_slice : word = t.slice (stop - word.length) stop
  led : ∀ c ∈ (t.slice p (stop - word.length)).toList, c ∈ gapChars
  free : ∀ c ∈ word.toList, c ∉ stopChars
  ends : stop = t.size ∨ ∃ c ∈ stopChars, t[stop]? = some c
  starts : ∀ c, t[stop - word.length]? = some c → c ∉ gapChars

theorem IsNextWord.le_size {t : Text} {p : Nat} {word : String} {stop : Nat}
    (h : IsNextWord t p word stop) :
    stop ≤ t.size := by
  rcases h.ends with heq | ⟨c, -, hc⟩
  · exact Nat.le_of_eq heq
  · exact Nat.le_of_lt (lt_size_of_getElem? hc)

theorem isNextWord_nextWord {t : Text} {p : Nat} (h : p ≤ t.size) :
    IsNextWord t p (nextWord t p).1 (nextWord t p).2 := by
  have hstart : wordStart t p ≤ t.size := Text.runEnd_le _ h
  obtain ⟨hgap, hgapEnd⟩ := reaches_runEnd (fun c => c == ' ' || c == '\t') h
  obtain ⟨hrun, hrunEnd⟩ := reaches_runEnd (fun c => !isWordStop c) hstart
  obtain ⟨hle, hsize⟩ := nextWord_bounds h
  have hback : (nextWord t p).2 - (nextWord t p).1.length = wordStart t p := by
    rw [nextWord_stop h, Nat.add_sub_cancel]
  refine ⟨hle, ?eq_slice, ?led, ?free, ?ends, ?starts⟩
  case eq_slice =>
    rw [hback]
    rfl
  case led =>
    rw [hback]
    intro c hc
    exact (isGap_iff c).mp ((forall_mem_slice hgap.1 hstart).mpr hgap c hc)
  case free =>
    intro c hc hstop
    have hfree := (forall_mem_slice hrun.1 hsize).mpr hrun c hc
    rw [(isWordStop_iff c).mpr hstop] at hfree
    cases hfree
  case ends =>
    rcases Nat.eq_or_lt_of_le hsize with heq | hlt
    · exact .inl heq
    · have hget : t[(nextWord t p).2]? = some t[(nextWord t p).2] := Array.getElem?_eq_getElem hlt
      have hends := (Option.any_eq_false _ _).mp hrunEnd _ hget
      exact .inr ⟨_, (isWordStop_iff _).mp (by simpa using hends), hget⟩
  case starts =>
    rw [hback]
    intro c hc hmem
    have hends := (Option.any_eq_false _ _).mp hgapEnd c hc
    rw [(isGap_iff c).mpr hmem] at hends
    cases hends

theorem IsNextWord.nextWord_eq {t : Text} {p : Nat} {word : String} {stop : Nat}
    (h : IsNextWord t p word stop) (hp : p ≤ t.size) : nextWord t p = (word, stop) := by
  have hle := h.le
  have hsize := h.le_size
  have hstart : t.runEnd (fun c => c == ' ' || c == '\t') p = stop - word.length := by
    refine (runEnd_eq_iff hp).mpr
      ⟨(forall_mem_slice (by omega) (by omega)).mp ?_, (Option.any_eq_false _ _).mpr ?_⟩
    · intro c hc
      exact (isGap_iff c).mpr (h.led c hc)
    · intro c hc
      exact Bool.eq_false_iff.mpr fun hgap => h.starts c hc ((isGap_iff c).mp hgap)
  have hstop : t.runEnd (fun c => !isWordStop c) (stop - word.length) = stop := by
    refine (runEnd_eq_iff (by omega)).mpr
      ⟨(forall_mem_slice (by omega) hsize).mp ?_, (Option.any_eq_false _ _).mpr ?_⟩
    · rw [← h.eq_slice]
      intro c hc
      simpa using fun hstop => h.free c hc ((isWordStop_iff c).mp hstop)
    · intro c hc
      rcases h.ends with heq | ⟨d, hd, hget⟩
      · exact absurd (lt_size_of_getElem? hc) (by omega)
      · cases hc.symm.trans hget
        simpa using (isWordStop_iff c).mpr hd
  simp only [nextWord, hstart, hstop]
  rw [← h.eq_slice]

theorem nextWord_eq_iff {t : Text} {p : Nat} (h : p ≤ t.size) {word : String} {stop : Nat} :
    nextWord t p = (word, stop) ↔ IsNextWord t p word stop := by
  constructor
  · intro heq
    simpa [heq] using isNextWord_nextWord h
  · intro hnext
    exact hnext.nextWord_eq h

/-- An index of the text is read from alike as a signed one. -/
theorem signed_nextWord (t : Text) (p : Nat) :
    Signed.nextWord t p = .ok ((nextWord t p).1, ((nextWord t p).2 : Int)) := by
  simp [Signed.nextWord]

/-! ## Reading backward -/

/-- What may part an index from the word before it. -/
def blankChars : List Char := [' ', '\t', '\n', '\r']

theorem isBlank_iff (c : Char) : Text.isBlank c = true ↔ c ∈ blankChars := by
  simp [Text.isBlank, blankChars, or_assoc]

theorem isBlank_of_isWordChar {c : Char} (h : Text.isWordChar c = true) :
    Text.isBlank c = false := by
  refine Bool.eq_false_iff.mpr fun hblank => ?_
  have hmem := (isBlank_iff c).mp hblank
  simp only [blankChars, List.mem_cons, List.not_mem_nil, or_false] at hmem
  rcases hmem with rfl | rfl | rfl | rfl
  · exact absurd h (by decide)
  · exact absurd h (by decide)
  · exact absurd h (by decide)
  · exact absurd h (by decide)

/-- Index `i` holds the last character before index `p` that is no blank. -/
structure IsLastSolid (t : Text) (p i : Nat) (c : Char) : Prop where
  lt : i < p
  get : t[i]? = some c
  solid : c ∉ blankChars
  parted : ∀ d ∈ (t.slice (i + 1) p).toList, d ∈ blankChars

/-- The word that starts at index `start` is the one before index `p`: nothing but blanks parts
them, it is made of word characters, and no word character stands right before it. -/
structure IsPreviousWord (t : Text) (p : Nat) (word : String) (start : Nat) : Prop where
  ne_empty : word ≠ ""
  le : start + word.length ≤ p
  eq_slice : word = t.slice start (start + word.length)
  letters : ∀ c ∈ word.toList, Text.isWordChar c = true
  parted : ∀ c ∈ (t.slice (start + word.length) p).toList, c ∈ blankChars
  starts : ∀ c, 0 < start → t[start - 1]? = some c → Text.isWordChar c = false

theorem reaches_blank_iff {t : Text} {a b : Nat} (hab : a ≤ b) (hb : b ≤ t.size) :
    Reaches Text.isBlank t a b ↔ ∀ c ∈ (t.slice a b).toList, c ∈ blankChars := by
  rw [← forall_mem_slice hab hb]
  exact forall_congr' fun c => imp_congr_right fun _ => isBlank_iff c

theorem solid?_isBlank_iff {t : Text} {p i : Nat} (h : p ≤ t.size) :
    solid? Text.isBlank t p = some i ↔ ∃ c, IsLastSolid t p i c := by
  rw [solid?_eq_some_iff]
  constructor
  · intro hstop
    obtain ⟨hlt, hsolid, hreach⟩ := hstop
    have hi : i < t.size := Nat.lt_of_lt_of_le hlt h
    have hget : t[i]? = some t[i] := Array.getElem?_eq_getElem hi
    refine ⟨t[i], hlt, hget, fun hmem => ?_, (reaches_blank_iff hlt h).mp hreach⟩
    rw [hget, Option.any_some, (isBlank_iff _).mpr hmem] at hsolid
    cases hsolid
  · intro hlast
    obtain ⟨c, hlt, hget, hsolid, hparted⟩ := hlast
    refine ⟨hlt, ?_, (reaches_blank_iff hlt h).mpr hparted⟩
    rw [hget, Option.any_some]
    exact Bool.eq_false_iff.mpr fun hblank => hsolid ((isBlank_iff c).mp hblank)

theorem wordAt?_eq_none_iff {t : Text} {last : Nat} :
    wordAt? t last = none ↔ t[last]?.any Text.isWordChar = false := by
  rw [wordAt?, Text.runBefore]
  by_cases hpass : t[last]?.any Text.isWordChar = true
  · simp [hpass]
  · simp [hpass]

/-- The word that ends with a character is the whole run of word characters that ends with it. -/
theorem wordAt?_eq_some_iff {t : Text} {last start : Nat} {word : String} :
    wordAt? t last = some (word, start) ↔ start ≤ last ∧ word = t.slice start (last + 1) ∧
      Reaches Text.isWordChar t start (last + 1) ∧
      ∀ c, 0 < start → t[start - 1]? = some c → Text.isWordChar c = false := by
  constructor
  · intro h
    unfold wordAt? at h
    split at h
    · cases h
    · rename_i length hlength
      obtain ⟨hle, hall, hend⟩ := runBefore_eq_iff.mp hlength
      cases h
      refine ⟨by omega, rfl, ⟨by omega, fun i hi hlast => hall i hlast (by omega)⟩, ?_⟩
      intro c hpos hget
      exact (Option.any_eq_false _ _).mp (hend (last - length - 1) (by omega)) c hget
  · intro h
    obtain ⟨hle, heq, hreach, hstarts⟩ := h
    have hlength : t.runBefore Text.isWordChar (last + 1) = last - start + 1 := by
      refine runBefore_eq_iff.mpr
        ⟨by omega, fun k hk hstart => hreach.2 k (by omega) hk, fun k hk => ?_⟩
      obtain rfl : start = k + 1 := by omega
      exact (Option.any_eq_false _ _).mpr fun c hget => hstarts c (Nat.succ_pos k) hget
    rw [wordAt?, hlength, heq]
    simp only [Nat.sub_sub_self hle]

theorem wordBefore?_eq_some_iff {t : Text} {p : Nat} (h : p ≤ t.size) {word : String}
    {start : Nat} :
    wordBefore? t p = some (word, start) ↔ IsPreviousWord t p word start := by
  rw [wordBefore?, Option.bind_eq_some_iff]
  constructor
  · intro hfound
    obtain ⟨last, hlast, hword⟩ := hfound
    obtain ⟨hlt, -, hreach⟩ := solid?_eq_some_iff.mp hlast
    obtain ⟨hle, heq, hrun, hstarts⟩ := wordAt?_eq_some_iff.mp hword
    have hlength : start + word.length = last + 1 := by
      rw [heq, Text.length_slice start (by omega)]
      omega
    refine ⟨fun hempty => ?_, by omega, by rwa [hlength], ?_, ?_, hstarts⟩
    · rw [hempty, String.length_empty] at hlength
      omega
    · rw [heq]
      exact (forall_mem_slice (by omega) (by omega)).mpr hrun
    · rw [hlength]
      exact (reaches_blank_iff hlt h).mp hreach
  · intro hword
    have hle := hword.le
    have hpos : 0 < word.length := Nat.pos_of_ne_zero fun hzero =>
      hword.ne_empty (String.length_eq_zero_iff.mp hzero)
    obtain ⟨last, hlast⟩ : ∃ last, start + word.length = last + 1 :=
      ⟨start + word.length - 1, by omega⟩
    have heq := hword.eq_slice
    have hparted := hword.parted
    rw [hlast] at heq hparted
    have hrun : Reaches Text.isWordChar t start (last + 1) := by
      refine (forall_mem_slice (by omega) (by omega)).mp ?_
      rw [← heq]
      exact hword.letters
    have hsolid : t[last]?.any Text.isBlank = false := by
      refine (Option.any_eq_false _ _).mpr fun c hget => isBlank_of_isWordChar ?_
      simpa [hget] using hrun.2 last (by omega) (by omega)
    have hreach : Reaches Text.isBlank t (last + 1) p :=
      (reaches_blank_iff (by omega) h).mpr hparted
    exact ⟨last, solid?_eq_some_iff.mpr ⟨by omega, hsolid, hreach⟩,
      wordAt?_eq_some_iff.mpr ⟨by omega, heq, hrun, hword.starts⟩⟩

theorem wordBefore?_eq_none_iff {t : Text} {p : Nat} (h : p ≤ t.size) :
    wordBefore? t p = none ↔ (∀ c ∈ (t.slice 0 p).toList, c ∈ blankChars) ∨
      ∃ i c, IsLastSolid t p i c ∧ Text.isWordChar c = false := by
  rw [wordBefore?, ← reaches_blank_iff (Nat.zero_le p) h, ← solid?_eq_none_iff]
  cases hsolid : solid? Text.isBlank t p with
  | none => simp
  | some last =>
    obtain ⟨c, hlast⟩ := (solid?_isBlank_iff h).mp hsolid
    rw [Option.bind_some, wordAt?_eq_none_iff, hlast.get, Option.any_some]
    constructor
    · intro hc
      exact .inr ⟨last, c, hlast, hc⟩
    · intro hno
      rcases hno with hnone | ⟨i, d, hi, hd⟩
      · cases hnone
      · cases hsolid.symm.trans ((solid?_isBlank_iff h).mpr ⟨d, hi⟩)
        cases hlast.get.symm.trans hi.get
        exact hd

/-! ## Both directions -/

/-- **Words are read whole, and where they stand.** From every index of a text and from its end,
reading forward meets no fault and comes to the one next word there is. Reading backward meets none
either: it comes to no word just if all that stands before is blank or the last character that is
not belongs to no word, and else to the one previous word there is. -/
theorem words_read_whole {t : Text} {p : Nat} (h : p ≤ t.size) :
    (∃ (word : String) (stop : Nat), Signed.nextWord t p = .ok (word, stop) ∧
      IsNextWord t p word stop) ∧
    (∀ word stop, nextWord t p = (word, stop) ↔ IsNextWord t p word stop) ∧
    ∃ found, previousWord t p = .ok found ∧
      (found = none ↔ (∀ c ∈ (t.slice 0 p).toList, c ∈ blankChars) ∨
        ∃ i c, IsLastSolid t p i c ∧ Text.isWordChar c = false) ∧
      ∀ word start, found = some (word, start) ↔ IsPreviousWord t p word start := by
  refine ⟨⟨_, _, signed_nextWord t p, isNextWord_nextWord h⟩, ?_, ?_⟩
  · intro word stop
    exact nextWord_eq_iff h
  · refine ⟨wordBefore? t p, previousWord_eq h, wordBefore?_eq_none_iff h, ?_⟩
    intro word start
    exact wordBefore?_eq_some_iff h

/-- Words at both ends of a text, read from the blanks between them: the one starts at the first
character, and the other ends behind the last. -/
theorem words_read_whole_atEdges :
    let t : Text := #['a', '1', ' ', '\n', ' ', 'b']
    4 ≤ t.size ∧ nextWord t 4 = ("b", 6) ∧ IsNextWord t 4 "b" 6 ∧
      previousWord t 4 = .ok (some ("a1", 0)) ∧ IsPreviousWord t 4 "a1" 0 := by
  intro t
  have hle : 4 ≤ t.size := by decide
  have hahead : nextWord t 4 = ("b", 6) := by decide
  have hbehind : previousWord t 4 = .ok (some ("a1", 0)) := by rfl
  obtain ⟨-, hnext, found, hfound, -, hprevious⟩ := words_read_whole hle
  cases hbehind.symm.trans hfound
  exact ⟨hle, hahead, (hnext _ _).mp hahead, hbehind, (hprevious _ _).mp rfl⟩

end Scan

end SqlStyle
