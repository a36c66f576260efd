import ClusterLifecycle.Proofs.Instants
import ClusterLifecycle.Proofs.Yaml.Scanning

/-!
# Plain scalars that are written and read

A text that is written plain consists of words with blanks between them, none of which looks like
something else. It is read back as it stands; what follows is the next token, on a line of its own.

Main statement: `Nest.leads_plain` is the step over a scalar that is written plain, such as a
number.
-/

namespace ClusterLifecycle.Yaml

open Printer (blanks)

/-! ## Plain scalars -/

/-- Blanks inside a line are read with the word behind them. -/
theorem readPlainGap_blanks {indent : Int} {text spaces : List Char} {r : Reader}
    {column n fuel : Nat} {c : Char} {rest : List Char} (h : r.At column (blanks n ++ c :: rest))
    (hfuel : n ≤ fuel) (hc : isSpacing c = false ∧ isBreak c = false) :
    readPlainGap indent { text := text, blanks := spaces } fuel r =
      some ({ text := text, blanks := blanks n ++ spaces }, r.advance n) := by
  -- induction on the blanks, each of which is kept for the case that a word follows
  induction n generalizing spaces r column fuel with
  | zero =>
      cases fuel with
      | zero => rfl
      | succ fuel =>
          rw [readPlainGap, h.rest]
          simp [blanks, hc]
          rfl
  | succ n ih =>
      cases fuel with
      | zero => exact absurd hfuel (Nat.not_succ_le_zero _)
      | succ fuel =>
          have hblanks : blanks (n + 1) ++ c :: rest = ' ' :: (blanks n ++ c :: rest) := by
            simp [blanks, List.replicate_succ]
          have hadd : Folding.addBlank { text := text, blanks := spaces } ' ' =
              { text := text, blanks := ' ' :: spaces } := rfl
          have hmove : blanks n ++ ' ' :: spaces = blanks (n + 1) ++ spaces := by
            simp [blanks, List.replicate_succ']
          rw [hblanks] at h
          rw [readPlainGap, h.rest]
          simp only [show isSpacing ' ' = true from rfl, if_true, Bool.false_and,
            Bool.false_eq_true, if_false, hadd]
          rw [ih h.advance_one (Nat.le_of_succ_le_succ hfuel), hmove, Reader.advance_advance,
            Nat.add_comm 1]

/-- Behind a line break blanks do not count. -/
theorem readPlainGap_margin {indent : Int} {f : Folding} {r : Reader} {column n fuel : Nat}
    {rest : List Char} (h : r.At column (blanks n ++ rest)) (hfuel : n ≤ fuel)
    (hrest : Begins rest) (hbroken : f.broken = true) :
    readPlainGap indent f fuel r = some (f, r.advance n) := by
  -- induction on the blanks, none of which is kept
  induction n generalizing r column fuel with
  | zero =>
      cases fuel with
      | zero => rfl
      | succ fuel =>
          rw [readPlainGap, h.rest]
          cases rest with
          | nil => rfl
          | cons c rest =>
              obtain ⟨hspacing, hbreak, -⟩ := hrest c rfl
              simp [blanks, hspacing, hbreak]
              rfl
  | succ n ih =>
      cases fuel with
      | zero => exact absurd hfuel (Nat.not_succ_le_zero _)
      | succ fuel =>
          have hblanks : blanks (n + 1) ++ rest = ' ' :: (blanks n ++ rest) := by
            simp [blanks, List.replicate_succ]
          have hadd : f.addBlank ' ' = f := by
            simp [Folding.addBlank, hbroken]
          rw [hblanks] at h
          rw [readPlainGap, h.rest]
          simp only [show isSpacing ' ' = true from rfl, if_true, hadd,
            show (' ' == '\t') = false from rfl, Bool.and_false, Bool.false_eq_true, if_false]
          rw [ih h.advance_one (Nat.le_of_succ_le_succ hfuel), Reader.advance_advance,
            Nat.add_comm 1]

theorem exists_blanks (cs : List Char) :
    ∃ n more, cs = blanks n ++ more ∧ more.head? ≠ some ' ' := by
  induction cs with
  | nil => exact ⟨0, [], rfl, by simp⟩
  | cons c cs ih =>
      by_cases hc : c = ' '
      · obtain ⟨n, more, hcs, hmore⟩ := ih
        exact ⟨n + 1, more, by rw [hc, hcs]; rfl, hmore⟩
      · exact ⟨0, c :: cs, rfl, by simpa using hc⟩

/-- A text begins with a word; what is behind the blanks that follow begins with another one. -/
theorem exists_word {cs : List Char} (hne : cs ≠ []) (hhead : cs.head? ≠ some ' ')
    (hlast : cs.getLast? ≠ some ' ') :
    ∃ w n more, cs = w ++ (blanks n ++ more) ∧ w ≠ [] ∧ ' ' ∉ w ∧
      (n = 0 ∧ more = [] ∨ 0 < n ∧ more ≠ [] ∧ more.head? ≠ some ' ') := by
  induction cs with
  | nil => exact absurd rfl hne
  | cons c cs ih =>
      have hc : c ≠ ' ' := by simpa using hhead
      cases cs with
      | nil => exact ⟨[c], 0, [], rfl, by simp, by simpa using Ne.symm hc, .inl ⟨rfl, rfl⟩⟩
      | cons d cs =>
          have hlast' : (d :: cs).getLast? ≠ some ' ' := by
            rwa [List.getLast?_cons_cons] at hlast
          by_cases hd : d = ' '
          · obtain ⟨n, more, hcs, hmore⟩ := exists_blanks (d :: cs)
            -- the blanks are some, but they are not all
            have hn : n ≠ 0 := by
              rintro rfl
              rw [← show d :: cs = more from hcs] at hmore
              simp [hd] at hmore
            have hmore' : more ≠ [] := by
              rintro rfl
              rw [hcs, List.append_nil, blanks, List.getLast?_replicate, if_neg hn] at hlast'
              exact hlast' rfl
            exact ⟨[c], n, more, by rw [hcs]; rfl, by simp, by simpa using Ne.symm hc,
              .inr ⟨Nat.pos_of_ne_zero hn, hmore', hmore⟩⟩
          · obtain ⟨w, n, more, hcs, hw, hmem, hmore⟩ := ih (by simp) (by simpa using hd) hlast'
            refine ⟨c :: w, n, more, by rw [hcs]; rfl, by simp, ?_, hmore⟩
            simpa [hmem] using Ne.symm hc

/-- Words with blanks between them, which a reader of plain scalars takes as they stand in front of
the tail. -/
structure IsWords (tail cs : List Char) : Prop where
  ne_nil : cs ≠ []
  head : cs.head? ≠ some ' '
  last : cs.getLast? ≠ some ' '
  chars : ∀ c ∈ cs, c ≠ '\t' ∧ isBreak c = false
  notComment : cs.head? ≠ some '#'
  /-- No comment begins inside. -/
  noComment : ∀ pre more, cs ≠ pre ++ ' ' :: '#' :: more
  /-- No key ends inside. -/
  noKey : ∀ pre post, cs = pre ++ ':' :: post → endsWord (post ++ tail) = false

namespace IsWords

variable {tail w more : List Char} {n : Nat}

/-- The words behind some blanks. -/
theorem rest (h : IsWords tail (w ++ (blanks (n + 1) ++ more))) (hne : more ≠ [])
    (hhead : more.head? ≠ some ' ') : IsWords tail more where
  ne_nil := hne
  head := hhead
  last := by
    have hlast := h.last
    rwa [← List.append_assoc, List.getLast?_append_of_ne_nil _ hne] at hlast
  chars c hc := h.chars c (by simp [hc])
  notComment hhash := by
    obtain ⟨more, rfl⟩ : ∃ rest, more = '#' :: rest := by
      cases more with
      | nil => exact absurd rfl hne
      | cons c rest => exact ⟨rest, by simpa using hhash⟩
    exact h.noComment (w ++ blanks n) more (by simp [blanks, List.replicate_succ'])
  noComment pre post hpost :=
    h.noComment (w ++ (blanks (n + 1) ++ pre)) post (by rw [hpost]; simp)
  noKey pre post hpost := h.noKey (w ++ (blanks (n + 1) ++ pre)) post (by rw [hpost]; simp)

/-- The first word, up to its end. -/
theorem readPlainWord {text spaces : List Char} {r : Reader} {column : Nat}
    (h : IsWords tail (w ++ (blanks n ++ more))) (hw : w ≠ []) (hmem : ' ' ∉ w)
    (hat : r.At column (w ++ (blanks n ++ (more ++ tail))))
    (hend : endsWord (blanks n ++ (more ++ tail)) = true) :
    Yaml.readPlainWord false { text := text, blanks := spaces } r.rest.length r =
      some ({ text := w.reverse ++ (spaces ++ text) }, r.advance w.length) := by
  rw [readPlainWord_eq hat, Folding.foldl_push hw]
  · rw [hat.rest, List.length_append]
    omega
  · intro c hc
    obtain ⟨htab, hbreak⟩ := h.chars c (List.mem_append_left _ hc)
    have hspace : c ≠ ' ' := fun heq => hmem (heq ▸ hc)
    exact ⟨by simp [isSpacing, hspace, htab], hbreak⟩
  · intro pre post hpost
    have := h.noKey pre (post ++ (blanks n ++ more)) (by rw [hpost]; simp)
    simpa only [List.append_assoc] using this
  · exact .inl hend

/-- The first word, and what is behind it. -/
theorem readPlainWords {indent : Int} {text spaces after : List Char} {r : Reader}
    {column fuel : Nat} (h : IsWords ('\n' :: after) (w ++ (blanks n ++ more))) (hw : w ≠ [])
    (hmem : ' ' ∉ w) (hat : r.At column (w ++ (blanks n ++ (more ++ '\n' :: after))))
    (hcolumn : 0 < column) (hmore : more = [] ∨ 0 < n) :
    Yaml.readPlainWords false indent (fuel + 1) { text := text, blanks := spaces } r =
      (readPlainGap indent { text := w.reverse ++ (spaces ++ text) }
        (r.advance w.length).rest.length (r.advance w.length)).bind fun behind =>
          if (behind.2.column : Int) < indent then some behind
          else Yaml.readPlainWords false indent fuel behind.1 behind.2 := by
  have hmarker : r.atDocumentMarker = false := Reader.atDocumentMarker_of_pos hat hcolumn
  have hcomment : r.rest.head? ≠ some '#' := by
    have hhash := h.notComment
    rw [List.head?_append_of_ne_nil _ hw] at hhash
    rwa [hat.rest, List.head?_append_of_ne_nil _ hw]
  -- the word ends at a blank, or at the break if it is the last one
  have hend : endsWord (blanks n ++ (more ++ '\n' :: after)) = true := by
    cases n with
    | zero =>
        obtain rfl := hmore.resolve_right (Nat.lt_irrefl 0)
        rfl
    | succ n => rfl
  have hgap :
      (endsWord (r.advance w.length).rest && !(r.advance w.length).rest.isEmpty) = true := by
    rw [hat.advance.rest, hend]
    cases n <;> cases more <;> rfl
  rw [Yaml.readPlainWords]
  simp only [hmarker, hcomment, beq_iff_eq, Bool.or_eq_true, Bool.false_eq_true, or_self, if_false,
    h.readPlainWord hw hmem hat hend, Option.bind_eq_bind, Option.bind_some, hgap, if_true,
    Bool.not_false, Bool.true_and, decide_eq_true_eq]

end IsWords

/-- Behind the last word the scalar ends with its line, if the next one is not moved in. -/
theorem readPlainGap_break {indent : Int} {text rest : List Char} {r : Reader} {column n : Nat}
    (h : r.At column ('\n' :: (blanks n ++ rest))) (hrest : Begins rest) :
    readPlainGap indent { text := text } r.rest.length r = some
      ({ text := text, broken := true, firstBreak := some '\n' }, r.nextLine.advance n) := by
  have hadd : Folding.addBreak { text := text } '\n' =
      { text := text, broken := true, firstBreak := some '\n' } := rfl
  have hbreak : isSpacing '\n' = false ∧ isBreak '\n' = true := by decide
  have hfuel : r.rest.length = (blanks n ++ rest).length + 1 := by
    rw [h.rest, List.length_cons]
  have hlength : n ≤ (blanks n ++ rest).length := by
    simp [blanks]
  rw [hfuel, readPlainGap, h.rest]
  simp only [hbreak, Bool.false_eq_true, if_false, if_true, hadd]
  exact readPlainGap_margin (h.nextLine hbreak.2) hlength hrest rfl

/-- The words of a plain scalar are read up to the end of the line. -/
theorem readPlainWords_eq {indent : Int} {cs text spaces rest : List Char} {r : Reader}
    {column n fuel : Nat} (hwords : IsWords ('\n' :: (blanks n ++ rest)) cs)
    (h : r.At column (cs ++ '\n' :: (blanks n ++ rest))) (hrest : Begins rest)
    (hn : (n : Int) < indent) (hcolumn : indent ≤ column) (hfuel : cs.length < fuel) :
    ∃ r', r'.At n rest ∧
      readPlainWords false indent fuel { text := text, blanks := spaces } r = some
        ({ text := cs.reverse ++ (spaces ++ text), broken := true, firstBreak := some '\n' },
          r') := by
  -- induction on the length of the text, which gets shorter by a word and the blanks behind it
  induction hlength : cs.length using Nat.strongRecOn generalizing cs text spaces r column fuel with
  | ind length ih =>
  obtain ⟨w, m, more, rfl, hw, hmem, hmore⟩ := exists_word hwords.ne_nil hwords.head hwords.last
  cases fuel with
  | zero => exact absurd hfuel (Nat.not_lt_zero _)
  | succ fuel =>
  have hat : r.At column (w ++ (blanks m ++ (more ++ '\n' :: (blanks n ++ rest)))) := by
    simpa only [List.append_assoc] using h
  rw [hwords.readPlainWords hw hmem hat (by omega) (hmore.imp And.right And.left)]
  rcases hmore with ⟨rfl, rfl⟩ | ⟨hm, hmore, hmoreHead⟩
  · -- the line ends here
    have hline : (r.advance w.length).At (column + w.length) ('\n' :: (blanks n ++ rest)) :=
      hat.advance
    have hnext := (hline.nextLine (by decide)).advance_blanks
    rw [Nat.zero_add] at hnext
    refine ⟨_, hnext, ?_⟩
    rw [readPlainGap_break hline hrest]
    simp [hnext.column, hn, blanks]
  · -- another word follows
    obtain ⟨m, rfl⟩ : ∃ k, m = k + 1 := Nat.exists_eq_add_one_of_ne_zero (Nat.ne_of_gt hm)
    obtain ⟨c, more, rfl⟩ := List.exists_cons_of_ne_nil hmore
    have hc : isSpacing c = false ∧ isBreak c = false := by
      have hchars := hwords.chars c (by simp)
      have hspace : c ≠ ' ' := by simpa using hmoreHead
      exact ⟨by simp [isSpacing, hspace, hchars.1], hchars.2⟩
    have hnext := hat.advance.advance_blanks
    have hless : m + 1 ≤ (r.advance w.length).rest.length := by
      rw [hat.advance.rest, List.length_append]
      simp [blanks]
    have hbehind : ¬ ((((r.advance w.length).advance (m + 1)).column : Int) < indent) := by
      rw [hnext.column]
      omega
    have hshorter : (c :: more).length < (w ++ (blanks (m + 1) ++ c :: more)).length := by
      simp [blanks]
      omega
    obtain ⟨r', hr', hread⟩ := @ih _ (hlength ▸ hshorter) (c :: more)
      (w.reverse ++ (spaces ++ text)) (blanks (m + 1)) _ _ fuel (hwords.rest hmore hmoreHead) hnext
      (by omega) (by omega) rfl
    refine ⟨r', hr', ?_⟩
    rw [readPlainGap_blanks hat.advance hless hc]
    simp only [List.append_nil, Option.bind_some, hbehind, if_false, hread]
    simp [blanks]

namespace Nest

variable {b : Nest} {r : Reader} {column n : Nat} {s : String} {rest : List Char}

/-- A text that is written plain, and the end of its line. -/
theorem leads_plain (hwords : IsWords ('\n' :: (blanks n ++ rest)) s.toList)
    (hlead : ∀ c more, s.toList = c :: more → Printer.isLeadingMark c more.head? = false)
    (h : r.At column (s.toList ++ '\n' :: (blanks n ++ rest))) (hrest : Begins rest)
    (hn : (n : Int) ≤ b.indent) (hcolumn : b.indent < column) :
    ∃ r', r'.At n rest ∧ (b.scanner r false).Leads
      (((b.push (.scalar .plain s)).close n).scanner r' true) := by
  obtain ⟨c, cs, hcs⟩ := List.exists_cons_of_ne_nil hwords.ne_nil
  have hstream : r.rest = c :: (cs ++ '\n' :: (blanks n ++ rest)) := by
    rw [h.rest, hcs, List.cons_append]
  have hmarker : r.atDocumentMarker = false := Reader.atDocumentMarker_of_pos h (by omega)
  have hspacing : isSpacing c = false := by
    have hhead : c ≠ ' ' := by simpa [hcs] using hwords.head
    have htab := (hwords.chars c (by simp [hcs])).1
    simp [isSpacing, hhead, htab]
  have hmark : Printer.isLeadingMark c (cs ++ '\n' :: (blanks n ++ rest)).head? = false := by
    have hc := hlead c cs hcs
    cases cs with
    | nil =>
        -- at the end of the text nothing is there, which separates words like the break
        exact hc
    | cons d cs => exact hc
  have hfuel : s.toList.length < r.rest.length + 1 := by
    rw [h.rest, List.length_append]
    omega
  obtain ⟨r', hr', hread⟩ := @readPlainWords_eq _ _ [] [] _ _ _ _ _ hwords h hrest
    (show (n : Int) < b.indent + 1 by omega) (show b.indent + 1 ≤ (column : Int) by omega) hfuel
  have hscan : (b.scanner r false).scanToken c (cs ++ '\n' :: (blanks n ++ rest)) =
      some ((b.push (.scalar .plain s)).scanner r' true) := by
    rw [Scanner.scanToken_plain rfl hmarker hmark hspacing]
    show (readPlain false (b.indent + 1) r).bind _ = _
    rw [readPlain, hread]
    simp [Folding.result]
    rfl
  refine ⟨r', hr', leads_of_scan hstream hscan hr' hrest ?_⟩
  simp only [List.length_append, List.length_cons]
  omega

end Nest

/-! ### What is written plain -/

theorem hasInnerMark_eq_false {before c : Char} {cs pre post : List Char}
    (h : Printer.hasInnerMark before cs = false) (hcs : cs = pre ++ c :: post) :
    (c = ':' → Printer.isGap post.head? = false) ∧
      (c = '#' → pre.getLast? ≠ some ' ' ∧ (pre = [] → before ≠ ' ')) := by
  -- induction on what stands in front of the mark, whose last character is the one before it
  induction pre generalizing before cs with
  | nil =>
      subst hcs
      simp only [List.nil_append, Printer.hasInnerMark, Bool.or_eq_false_iff] at h
      obtain ⟨⟨hcolon, hhash⟩, -⟩ := h
      constructor
      · rintro rfl
        simpa using hcolon
      · rintro rfl
        refine ⟨by simp, fun _ => ?_⟩
        rintro rfl
        simp [Printer.isGap] at hhash
  | cons d pre ih =>
      subst hcs
      simp only [List.cons_append, Printer.hasInnerMark, Bool.or_eq_false_iff] at h
      obtain ⟨hcolon, hhash⟩ := ih h.2 rfl
      refine ⟨hcolon, fun hc => ?_⟩
      obtain ⟨hlast, hbefore⟩ := hhash hc
      refine ⟨?_, by simp⟩
      cases pre with
      | nil => simpa using hbefore rfl
      | cons e pre => simpa using hlast

section

variable {s : String}

theorem formOf_plain (h : Printer.formOf false s = .plain) :
    Printer.isItself s = true ∧ Printer.hasMarks s.toList = false ∧
      Printer.hasOpenEnd s.toList = false ∧ (∀ c ∈ s.toList, Printer.isBreak c = false) ∧
      Printer.needsEscapes s.toList = false := by
  simp only [Printer.formOf, Bool.false_or] at h
  split at h
  · split at h <;> cases h
  split at h
  · cases h
  next hescapes =>
    split at h
    next hplain =>
      simp only [Bool.and_eq_true, Bool.not_eq_true', List.any_eq_false] at hplain
      simp only [Bool.false_and, Bool.or_false, Bool.or_eq_true, not_or,
        Bool.not_eq_true] at hescapes
      exact ⟨hplain.1.1.1, hplain.1.1.2, hplain.1.2, by simpa using hplain.2, hescapes.1⟩
    next => cases h

theorem formOf_single (h : Printer.formOf false s = .single) :
    '\n' ∉ s.toList ∧ Printer.hasBreakBeforeBlank s.toList = false ∧
      Printer.needsEscapes s.toList = false := by
  simp only [Printer.formOf, Bool.false_or] at h
  split at h
  · split at h <;> cases h
  next hline =>
    split at h
    · cases h
    next hescapes =>
      simp only [Bool.false_and, Bool.or_false, Bool.or_eq_true, not_or,
        Bool.not_eq_true] at hescapes
      exact ⟨by simpa using hline, hescapes.2, hescapes.1⟩

theorem formOf_literal (h : Printer.formOf false s = .literal) :
    '\n' ∈ s.toList ∧ Printer.needsEscapes s.toList = false := by
  simp only [Printer.formOf, Bool.false_or] at h
  split at h
  next hlines =>
    split at h
    · cases h
    next hdouble =>
      simp only [Bool.or_eq_true, not_or, Bool.not_eq_true] at hdouble
      exact ⟨by simpa using hlines, hdouble.1⟩
  next =>
    split at h
    · cases h
    · split at h <;> cases h

/-- All characters are printable. -/
def IsPrintable (cs : List Char) : Prop :=
  ∀ c ∈ cs, Printer.isPrintable c = true

theorem IsPrintable.append {cs ds : List Char} (h : IsPrintable cs) (h' : IsPrintable ds) :
    IsPrintable (cs ++ ds) :=
  fun c hc => (List.mem_append.1 hc).elim (h c) (h' c)

theorem IsPrintable.cons {c : Char} {cs : List Char} (hc : Printer.isPrintable c = true)
    (h : IsPrintable cs) : IsPrintable (c :: cs) :=
  List.forall_mem_cons.2 ⟨hc, h⟩

theorem of_needsEscapes {cs : List Char} (h : Printer.needsEscapes cs = false) :
    IsPrintable cs ∧ Printer.hasBlankBeforeBreak cs = false := by
  simpa [Printer.needsEscapes, IsPrintable] using h

/-- Printable characters break lines for the reader where they do for the writer. -/
theorem isBreak_of_isPrintable {c : Char} (h : Printer.isPrintable c = true) :
    Printer.isBreak c = isBreak c := by
  have hne {d : Char} (hd : c ≠ d) : c.toNat ≠ d.toNat :=
    fun heq => hd (Char.ext (UInt32.toNat_inj.1 heq))
  by_cases hline : c = '\n'
  · rw [hline]
    decide
  by_cases hls : c = '\u2028'
  · rw [hls]
    decide
  by_cases hps : c = '\u2029'
  · rw [hps]
    decide
  -- two breaks of the reader are not printable, and the others are breaks for both
  have hreturn : c.toNat ≠ 0x0D ∧ c.toNat ≠ 0x85 := by
    constructor <;> (intro heq; simp [Printer.isPrintable, heq] at h)
  have hother : c.toNat ≠ 0x0A ∧ c.toNat ≠ 0x2028 ∧ c.toNat ≠ 0x2029 :=
    ⟨hne hline, hne hls, hne hps⟩
  simp [Printer.isBreak, isBreak, hline, hls, hps, hreturn, hother]

theorem ne_tab_of_isPrintable {c : Char} (h : Printer.isPrintable c = true) : c ≠ '\t' := by
  rintro rfl
  exact absurd h (by decide)

/-- A text that is written plain is read as it stands. -/
theorem IsWords.of_plain (h : Printer.formOf false s = .plain) (rest : List Char) :
    IsWords ('\n' :: rest) s.toList ∧
      ∀ c more, s.toList = c :: more → Printer.isLeadingMark c more.head? = false := by
  obtain ⟨hitself, hmarks, hends, hbreaks, hescapes⟩ := formOf_plain h
  obtain ⟨hprintable, -⟩ := of_needsEscapes hescapes
  have hne : s.toList ≠ [] := by
    intro hnil
    obtain rfl : s = "" := String.toList_eq_nil_iff.1 hnil
    exact absurd hitself (by decide)
  obtain ⟨c, cs, hcs⟩ := List.exists_cons_of_ne_nil hne
  rw [hcs] at hmarks hends hbreaks hprintable ⊢
  simp only [Printer.hasMarks, Bool.or_eq_false_iff] at hmarks
  obtain ⟨⟨⟨hlead, hinner⟩, -⟩, -⟩ := hmarks
  have hhead : c ≠ ' ' ∧ (c :: cs).getLast? ≠ some ' ' := by
    constructor
    · rintro rfl
      simp [Printer.hasOpenEnd] at hends
    · intro hlast
      simp [Printer.hasOpenEnd, hlast] at hends
  -- in front of what is no gap no word ends, wherever the line goes on
  have hword {post : List Char} (hgap : Printer.isGap post.head? = false) :
      endsWord (post ++ '\n' :: rest) = false := by
    cases post with
    | nil => cases hgap
    | cons d post =>
        by_contra hend
        have := isGap_of_endsWord (by simpa using hend)
        rw [List.head?_cons] at this hgap
        rw [this] at hgap
        cases hgap
  constructor
  · refine ⟨by simp, by simpa using hhead.1, hhead.2, ?_, ?_, ?_, ?_⟩
    · intro d hd
      refine ⟨ne_tab_of_isPrintable (hprintable d hd), ?_⟩
      rw [← isBreak_of_isPrintable (hprintable d hd)]
      exact hbreaks d hd
    · intro hhash
      obtain rfl : c = '#' := by simpa using hhash
      simp [Printer.isLeadingMark] at hlead
    · intro pre more hpre
      cases pre with
      | nil => exact hhead.1 (List.cons.inj hpre).1
      | cons d pre =>
          have hmore : cs = (pre ++ [' ']) ++ '#' :: more := by simpa using (List.cons.inj hpre).2
          exact ((hasInnerMark_eq_false hinner hmore).2 rfl).1 (by simp)
    · intro pre post hpre
      cases pre with
      | nil =>
          obtain ⟨rfl, rfl⟩ := List.cons.inj hpre
          apply hword
          simpa [Printer.isLeadingMark] using hlead
      | cons d pre => exact hword ((hasInnerMark_eq_false hinner (List.cons.inj hpre).2).1 rfl)
  · intro d more hmore
    obtain ⟨rfl, rfl⟩ := List.cons.inj hmore
    exact hlead

/-- So are the digits of a number. -/
theorem IsWords.of_nat (n : Nat) (rest : List Char) :
    IsWords ('\n' :: rest) (Decimal.encode n) ∧
      ∀ c more, Decimal.encode n = c :: more → Printer.isLeadingMark c more.head? = false := by
  -- no mark that could end a word is a digit
  have hne (d : Char) (hd : d.isDigit = false) : d ∉ Decimal.encode n :=
    fun hmem => Text.ne_of_class (Decimal.isDigit_of_mem_encode hmem) hd rfl
  constructor
  · refine ⟨Decimal.encode_ne_nil n, ?_, ?_, ?_, ?_, ?_, ?_⟩
    · exact fun h => hne ' ' (by decide) (List.mem_of_head? h)
    · exact fun h => hne ' ' (by decide) (List.mem_of_getLast? h)
    · intro c hc
      have hdigit := Decimal.isDigit_of_mem_encode hc
      exact ⟨Text.ne_of_class hdigit (by decide), (spacing_of_class hdigit (by decide)).2⟩
    · exact fun h => hne '#' (by decide) (List.mem_of_head? h)
    · exact fun pre more h => hne '#' (by decide) (by simp [h])
    · intro pre post h
      have hmem : ':' ∈ Decimal.encode n := by simp [h]
      exact absurd hmem (hne ':' (by decide))
  · intro c more h
    have hmem : c ∈ Decimal.encode n := by simp [h]
    exact isLeadingMark_of_class (Decimal.isDigit_of_mem_encode hmem) (by decide) _

end

end ClusterLifecycle.Yaml
