import ClusterLifecycle.Proofs.Yaml.QuotedScalars

/-!
# Characters of what is written

Whatever characters a text has, only printable ones are written of it: the others are escaped. So
every text that is written may be read, and all its line ends are what they are.

Main statement: `IsPrintable.textLines`.
-/

namespace ClusterLifecycle.Yaml

/-! ## Printable characters -/

theorem isPrintable_of_isAlphanum {c : Char} (h : c.isAlphanum = true) :
    Printer.isPrintable c = true :=
  Text.of_ascii (P := fun c => c.isAlphanum = true → Printer.isPrintable c = true)
    (by decide +kernel) (Text.lt_of_isAlphanum h) h

theorem isAllowed_of_isPrintable {c : Char} (h : Printer.isPrintable c = true) :
    isAllowed c = true := by
  simp only [Printer.isPrintable, isAllowed, Bool.or_eq_true, Bool.and_eq_true, decide_eq_true_eq,
    beq_iff_eq, bne_iff_ne] at h ⊢
  have hvalid := toNat_cases c
  omega

/-- No line end is one that would be replaced. -/
theorem unifyBreaks_eq {cs : List Char} (h : IsPrintable cs) : unifyBreaks cs = cs := by
  induction cs with
  | nil => rw [unifyBreaks]
  | cons c cs ih =>
      obtain ⟨hc, hcs⟩ := List.forall_mem_cons.1 h
      have hne (d : Char) (hd : Printer.isPrintable d = false) : c ≠ d := Text.ne_of_class hc hd
      have hreturn := hne '\r' (by decide)
      have hnext := hne '\u0085' (by decide)
      rw [unifyBreaks, ih hcs]
      · exact fun _ heq => absurd heq hreturn
      · exact hreturn
      · exact hnext

/-! ## What is written -/

theorem mem_moveIn {margin : Nat} {fresh : Bool} {cs : List Char} {c : Char}
    (h : c ∈ Printer.moveIn margin fresh cs) : c = ' ' ∨ c ∈ cs := by
  induction cs generalizing fresh with
  | nil => cases h
  | cons d cs ih =>
      rw [Printer.moveIn] at h
      split at h
      · rcases List.mem_cons.1 h with rfl | h
        · exact .inr List.mem_cons_self
        · exact (ih h).imp_right (List.mem_cons_of_mem d)
      · rcases List.mem_append.1 h with h | h
        · split at h
          · exact .inl (mem_blanks h)
          · cases h
        · rcases List.mem_cons.1 h with rfl | h
          · exact .inr List.mem_cons_self
          · exact (ih h).imp_right (List.mem_cons_of_mem d)

namespace IsPrintable

variable {cs : List Char}

theorem blanks (n : Nat) : IsPrintable (Printer.blanks n) := fun c hc => by
  rw [mem_blanks hc]
  decide

theorem moveIn {margin : Nat} {fresh : Bool} (h : IsPrintable cs) :
    IsPrintable (Printer.moveIn margin fresh cs) := fun c hc => by
  rcases mem_moveIn hc with rfl | hmem
  · decide
  · exact h c hmem

theorem singleQuoted (h : IsPrintable cs) : IsPrintable (Printer.singleQuoted cs) := by
  have hquote : Printer.isPrintable '\'' = true := by decide
  refine cons hquote (append (fun c hc => ?_) (cons hquote (by simp [IsPrintable])))
  obtain ⟨d, hd, hc⟩ := List.mem_flatMap.1 hc
  rw [Printer.quoted] at hc
  split at hc
  · obtain rfl : c = '\'' := by simpa using hc
    exact hquote
  · obtain rfl : c = d := by simpa using hc
    exact h c hd

theorem escaped (c : Char) : IsPrintable (Printer.escaped c) := by
  rcases escaped_cases c with ⟨heq, hc, -⟩ | ⟨e, heq, he, -⟩
  · rw [heq]
    exact cons hc (by simp [IsPrintable])
  · rw [heq]
    exact cons (by decide) he

theorem doubleQuoted (cs : List Char) : IsPrintable (Printer.doubleQuoted cs) := by
  refine cons (by decide) (append (fun c hc => ?_) (cons (by decide) (by simp [IsPrintable])))
  obtain ⟨d, -, hc⟩ := List.mem_flatMap.1 hc
  exact escaped d c hc

theorem literalHeader (cs : List Char) : IsPrintable (Printer.literalHeader cs) := by
  -- whatever the text is, no other characters than these are used
  have hmarks : IsPrintable ['|', '2', '-', '+'] := by
    simp [IsPrintable, Printer.isPrintable]
  intro c hc
  apply hmarks
  revert hc
  unfold Printer.literalHeader
  dsimp only
  repeat' split
  all_goals simp +contextual [or_imp]

/-- What is written of a text is printable, whatever its own characters. -/
theorem textLines (margin : Nat) (s : String) : IsPrintable (Printer.textLines margin s) := by
  have hline : IsPrintable ['\n'] := by simp [IsPrintable, Printer.isPrintable]
  unfold Printer.textLines
  dsimp only
  -- each form adds marks of its own, and only the double quotes change characters
  split
  next hform =>
    obtain ⟨-, -, -, -, hescapes⟩ := formOf_plain hform
    exact append (of_needsEscapes hescapes).1 hline
  next hform =>
    obtain ⟨-, -, hescapes⟩ := formOf_single hform
    exact append (moveIn (singleQuoted (of_needsEscapes hescapes).1)) hline
  next => exact append (doubleQuoted _) hline
  next hform =>
    obtain ⟨-, hescapes⟩ := formOf_literal hform
    have hchars := (of_needsEscapes hescapes).1
    refine append (append (literalHeader _) (cons (by decide) (moveIn hchars))) ?_
    unfold Printer.lineEnd
    split
    · simp [IsPrintable]
    · exact hline

end IsPrintable

end ClusterLifecycle.Yaml
