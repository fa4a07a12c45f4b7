import BatchRunner.Toml.Writer

/-!
# Strings are read back

Of the forms in which a string may be written, the writer takes the plainest that holds the text. Whichever it
takes, the reader gives the text back, with all quotes, backslashes, line ends and control characters in it
(`string_writeString`). Two things carry the proof. An escape is read back one character at a time
(`escaped_cases`). And in a string of several lines no three marks stand in a row before those that close it:
the reader takes the first three for the end, and up to two in front of them for text (`closing_append`).
-/

namespace BatchRunner.Toml

open BatchRunner.Text

/-! ## Escapes -/

theorem exactDigits_append {value? : Char → Option Nat} {cs : List Char} {ds : List Nat}
    (h : cs.map value? = ds.map some) (rest : List Char) :
    exactDigits value? cs.length (cs ++ rest) = some (ds, rest) := by
  induction cs generalizing ds with
  | nil =>
    have hds : ds = [] := by simpa using h.symm
    subst hds
    rfl
  | cons c cs ih =>
    cases ds with
    | nil => simp at h
    | cons d ds =>
      simp only [List.map_cons, List.cons.injEq] at h
      simp [exactDigits, h.1, ih h.2]

theorem literal_of_head? {mark : Char} {cs : List Char} (h : cs.head? ≠ some mark) (marks : List Char) :
    literal (mark :: marks) cs = none := by
  cases cs with
  | nil => rfl
  | cons c cs =>
    have hc : mark ≠ c := fun hc => h (by simp [hc])
    simp [literal, hc]

theorem fourHexDigits_spec : ∀ n < 128,
    (fourHexDigits n).length = 4 ∧ (fourHexDigits n).map hexValue? = [0, 0, n / 16, n % 16].map some := by
  decide +kernel

theorem toNat_lt_of_isControl {c : Char} (h : isControl c = true) : c.toNat < 128 := by
  simp only [isControl, Bool.or_eq_true, Bool.and_eq_true, decide_eq_true_eq, beq_iff_eq] at h
  omega

theorem escape_fourHexDigits {c : Char} (h : isControl c = true) (rest : List Char) :
    escape ('u' :: (fourHexDigits c.toNat ++ rest)) = some (c, rest) := by
  have hc : c.toNat < 128 := toNat_lt_of_isControl h
  obtain ⟨hlength, hdigits⟩ := fourHexDigits_spec c.toNat hc
  have hread := exactDigits_append hdigits rest
  rw [hlength] at hread
  have hnumeral : numeral 16 [0, 0, c.toNat / 16, c.toNat % 16] = c.toNat := by
    simp only [numeral, List.foldl_cons, List.foldl_nil]
    omega
  have hcharacter : character? c.toNat = some c := by
    rw [character?, if_pos (Or.inl (by omega)), Char.ofNat_toNat]
  simp [escape, hread, hnumeral, hcharacter]

/-- Whether the characters behind a backslash stand for a character. What starts like a line end would be taken
for one that the backslash hides. -/
structure Escapes (code : List Char) (c : Char) : Prop where
  read : ∀ rest, escape (code ++ rest) = some (c, rest)
  visible : ∀ rest, newline (skipBlanks (code ++ rest)) = none

theorem isVisible_of_not_isControl {c : Char} (h : isControl c = false) (hn : c ≠ '\n') :
    isVisible c = true := by
  simp only [isControl, Bool.or_eq_false_iff, Bool.and_eq_false_iff, decide_eq_false_iff_not, bne_eq_false_iff_eq,
    beq_eq_false_iff_ne] at h
  obtain ⟨hlow, hdelete⟩ := h
  simp only [isVisible, Bool.or_eq_true, Bool.and_eq_true, beq_iff_eq, decide_eq_true_eq, bne_iff_ne]
  rcases hlow with (hlow | htab) | hnewline
  · exact .inr ⟨by omega, hdelete⟩
  · exact .inl htab
  · exact absurd hnewline hn

/-- A character is written either as itself or as a backslash with a code for it. -/
theorem escaped_cases (c : Char) :
    (∃ code, escaped c = '\\' :: code ∧ Escapes code c) ∨
      (escaped c = [c] ∧ isVisible c = true ∧ c ≠ '\\' ∧ c ≠ '"' ∧ c ≠ '\n') := by
  unfold escaped
  split
  · exact .inl ⟨['b'], rfl, fun _ => rfl, fun _ => rfl⟩
  · exact .inl ⟨['t'], rfl, fun _ => rfl, fun _ => rfl⟩
  · exact .inl ⟨['n'], rfl, fun _ => rfl, fun _ => rfl⟩
  · exact .inl ⟨['f'], rfl, fun _ => rfl, fun _ => rfl⟩
  · exact .inl ⟨['r'], rfl, fun _ => rfl, fun _ => rfl⟩
  · exact .inl ⟨['"'], rfl, fun _ => rfl, fun _ => rfl⟩
  · exact .inl ⟨['\\'], rfl, fun _ => rfl, fun _ => rfl⟩
  · rename_i hn _ _ hquote hbackslash
    by_cases hcontrol : isControl c = true
    · rw [if_pos hcontrol]
      exact .inl ⟨'u' :: fourHexDigits c.toNat, rfl, escape_fourHexDigits hcontrol, fun _ => rfl⟩
    · rw [if_neg hcontrol]
      have hc : isControl c = false := by simpa using hcontrol
      exact .inr ⟨rfl, isVisible_of_not_isControl hc hn, hbackslash, hquote, hn⟩

/-! ## Strings on one line -/

theorem basicRest_escaped (cs rest : List Char) :
    ∀ fuel, cs.length ≤ fuel → basicRest fuel (cs.flatMap escaped ++ '"' :: rest) = some (cs, rest) := by
  induction cs with
  | nil => intro fuel _; cases fuel <;> rfl
  | cons c cs ih =>
    intro fuel hfuel
    obtain ⟨fuel, rfl⟩ : ∃ n, fuel = n + 1 := ⟨fuel - 1, by simp at hfuel; omega⟩
    have ih := ih fuel (by simpa using hfuel)
    simp only [List.flatMap_cons, List.append_assoc]
    rcases escaped_cases c with ⟨code, hcode, hc⟩ | ⟨hself, hvisible, hbackslash, hquote, -⟩
    · simp [hcode, basicRest, hc.read, ih]
    · simp [hself, basicRest, hvisible, ih]

theorem length_le_flatMap_escaped (cs : List Char) : cs.length ≤ (cs.flatMap escaped).length := by
  induction cs with
  | nil => simp
  | cons c cs ih =>
    have hc : 0 < (escaped c).length := by
      rcases escaped_cases c with ⟨code, hcode, -⟩ | ⟨hself, -⟩
      · simp [hcode]
      · simp [hself]
    simp only [List.length_cons, List.flatMap_cons, List.length_append]
    omega

theorem literalRest_append {cs : List Char} (h : ∀ c ∈ cs, isVisible c = true ∧ c ≠ '\'') (rest : List Char) :
    literalRest (cs ++ '\'' :: rest) = some (cs, rest) := by
  induction cs with
  | nil => rfl
  | cons c cs ih =>
    have hc := h c (by simp)
    have ih := ih fun d hd => h d (by simp [hd])
    simp [literalRest, hc.1, hc.2, ih]

/-! ## Strings of several lines -/

/-- What follows a string starts with no quote. -/
def Unquoted (rest : List Char) : Prop := rest.head? ≠ some '"' ∧ rest.head? ≠ some '\''

/-- A text as it may be written between the marks of a string of several lines. Where a mark stands for itself,
it starts no run of three. -/
inductive Written (escapes : Bool) (mark : Char) : List Char → List Char → Prop
  | nil : Written escapes mark [] []
  | newline {cs ws} : Written escapes mark cs ws → Written escapes mark ('\n' :: cs) ('\n' :: ws)
  | itself {c cs ws} : isVisible c = true → (escapes = true → c ≠ '\\') → (c = mark → ¬ [mark, mark] <+: ws) →
      Written escapes mark cs ws → Written escapes mark (c :: cs) (c :: ws)
  | escape {c code cs ws} : escapes = true → Escapes code c →
      Written escapes mark cs ws → Written escapes mark (c :: cs) ('\\' :: (code ++ ws))

/-- Behind text that starts no run of three marks, the next three marks close the string; if the text was
nothing but marks, they are read with those that close it. -/
theorem closing_append {mark : Char} {ws rest : List Char} (h : ¬ [mark, mark, mark] <+: ws)
    (hrest : rest.head? ≠ some mark) :
    closing mark (ws ++ mark :: mark :: mark :: rest) =
      if ws = [] ∨ ws = [mark] ∨ ws = [mark, mark] then some (ws, rest) else none := by
  have hone : literal [mark] rest = none := literal_of_head? hrest []
  have htwo : literal [mark, mark] rest = none := literal_of_head? hrest [mark]
  match ws with
  | [] => simp [closing, literal, hone, htwo]
  | [a] =>
    by_cases ha : mark = a
    · subst ha; simp [closing, literal, hone]
    · simp [closing, literal, ha, Ne.symm ha]
  | [a, b] =>
    by_cases ha : mark = a
    · subst ha
      by_cases hb : mark = b
      · subst hb; simp [closing, literal]
      · simp [closing, literal, hb, Ne.symm hb]
    · simp [closing, literal, ha, Ne.symm ha]
  | a :: b :: c :: ws =>
    have hnone (more : List Char) (cs : List Char) : literal (mark :: mark :: mark :: more) (a :: b :: c :: cs) = none := by
      have hrun : ¬ (mark = a ∧ mark = b ∧ mark = c) := by
        rintro ⟨rfl, rfl, rfl⟩
        exact h (by simp)
      simp only [literal]
      grind
    simp [closing, hnone]

section reading

variable {escapes : Bool} {mark : Char} {fuel : Nat} {cs rest : List Char}

theorem multilineRest_of_closing {done : List Char × List Char} (h : closing mark cs = some done) :
    multilineRest escapes mark (fuel + 1) cs = some done := by
  simp [multilineRest, h]

theorem multilineRest_newline (h : closing mark ('\n' :: cs) = none) {text : List Char}
    (hcs : multilineRest escapes mark fuel cs = some (text, rest)) :
    multilineRest escapes mark (fuel + 1) ('\n' :: cs) = some ('\n' :: text, rest) := by
  simp [multilineRest, h, newline, hcs]

theorem newline_eq_none {c : Char} (hvisible : isVisible c = true) : newline (c :: cs) = none := by
  unfold newline
  split
  · rename_i heq
    cases heq
    exact absurd hvisible (by decide)
  · rename_i heq
    cases heq
    exact absurd hvisible (by decide)
  · rfl

theorem multilineRest_itself {c : Char} (hvisible : isVisible c = true) (hc : escapes = true → c ≠ '\\')
    (h : closing mark (c :: cs) = none) {text : List Char}
    (hcs : multilineRest escapes mark fuel cs = some (text, rest)) :
    multilineRest escapes mark (fuel + 1) (c :: cs) = some (c :: text, rest) := by
  have hplain : (escapes && c == '\\') = false := by
    cases escapes with
    | false => rfl
    | true => simpa using hc rfl
  simp [multilineRest, h, hplain, newline_eq_none hvisible, hvisible, hcs]

theorem multilineRest_escape {c : Char} {code : List Char} (hc : Escapes code c)
    (h : closing mark ('\\' :: (code ++ cs)) = none) {text : List Char}
    (hcs : multilineRest true mark fuel cs = some (text, rest)) :
    multilineRest true mark (fuel + 1) ('\\' :: (code ++ cs)) = some (c :: text, rest) := by
  simp [multilineRest, h, hc.visible, hc.read, hcs]

end reading

namespace Written

variable {escapes : Bool} {mark : Char} {cs ws rest : List Char}

theorem not_run (h : Written escapes mark cs ws) (hmark : mark ≠ '\n' ∧ mark ≠ '\\') :
    ¬ [mark, mark, mark] <+: ws := by
  intro hrun
  cases h with
  | nil => simp at hrun
  | newline _ => exact hmark.1 (List.cons_prefix_cons.mp hrun).1
  | itself _ _ hone _ =>
    obtain ⟨hc, hrun⟩ := List.cons_prefix_cons.mp hrun
    exact hone hc.symm hrun
  | escape _ _ _ => exact hmark.2 (List.cons_prefix_cons.mp hrun).1

theorem eq_of_marks (h : Written escapes mark cs ws) (hmark : mark ≠ '\n' ∧ mark ≠ '\\')
    (hws : ∀ c ∈ ws, c = mark) : cs = ws := by
  induction h with
  | nil => rfl
  | newline _ _ => exact absurd (hws '\n' (by simp)).symm hmark.1
  | itself _ _ _ _ ih => rw [ih fun c hc => hws c (by simp [hc])]
  | escape _ _ _ _ => exact absurd (hws '\\' (by simp)).symm hmark.2

/-- The end is found where a text is written to its end, or but for the marks at its end. -/
theorem closing_eq (h : Written escapes mark cs ws) (hmark : mark ≠ '\n' ∧ mark ≠ '\\')
    (hrest : rest.head? ≠ some mark) :
    closing mark (ws ++ mark :: mark :: mark :: rest) = some (cs, rest) ∨
      ws ≠ [] ∧ closing mark (ws ++ mark :: mark :: mark :: rest) = none := by
  rw [closing_append (h.not_run hmark) hrest]
  split
  · rename_i hws
    have hcs : cs = ws := h.eq_of_marks hmark (by rcases hws with rfl | rfl | rfl <;> simp)
    exact .inl (by rw [hcs])
  · rename_i hws
    exact .inr ⟨fun hnil => hws (.inl hnil), rfl⟩

/-- A text is read back up to the marks that close it. -/
theorem read (h : Written escapes mark cs ws) (hmark : mark ≠ '\n' ∧ mark ≠ '\\')
    (hrest : rest.head? ≠ some mark) {fuel : Nat} (hfuel : ws.length < fuel) :
    multilineRest escapes mark fuel (ws ++ mark :: mark :: mark :: rest) = some (cs, rest) := by
  -- On the fuel and not on the text: an escape takes one round for several characters.
  induction fuel generalizing cs ws with
  | zero => omega
  | succ fuel ih =>
    rcases h.closing_eq hmark hrest with hclosing | ⟨hws, hclosing⟩
    · exact multilineRest_of_closing hclosing
    cases h with
    | nil => exact absurd rfl hws
    | newline h => exact multilineRest_newline hclosing (ih h (by simpa using hfuel))
    | itself hvisible hc _ h => exact multilineRest_itself hvisible hc hclosing (ih h (by simpa using hfuel))
    | escape hescapes hc h =>
      subst hescapes
      simp only [List.length_cons, List.length_append] at hfuel
      simp only [List.cons_append, List.append_assoc] at hclosing ⊢
      exact multilineRest_escape hc hclosing (ih h (by omega))

end Written

/-! ## The forms of the writer -/

theorem Written.escaped {c : Char} {cs ws : List Char} (hquote : c ≠ '"') (h : Written true '"' cs ws) :
    Written true '"' (c :: cs) (Toml.escaped c ++ ws) := by
  rcases escaped_cases c with ⟨code, hcode, hc⟩ | ⟨hself, hvisible, hbackslash, -, -⟩
  · rw [hcode]
    exact .escape rfl hc h
  · rw [hself]
    exact .itself hvisible (fun _ => hbackslash) (fun hc => absurd hc hquote) h

theorem not_run_of_ne {mark c : Char} {n : Nat} {ws : List Char} (hn : 0 < n) (hc : c ≠ mark) :
    ¬ List.replicate n mark <+: c :: ws := by
  obtain ⟨n, rfl⟩ := Nat.exists_eq_add_one.mpr hn
  intro hrun
  exact hc (List.cons_prefix_cons.mp hrun).1.symm

/-- With some quotes in front, a body goes on with fewer than make three in a row. -/
theorem multilineBasicBody_run (quotes : Nat) (cs : List Char) (hquotes : quotes ≤ 2) :
    ¬ List.replicate (3 - quotes) '"' <+: multilineBasicBody quotes cs := by
  fun_induction multilineBasicBody quotes cs with
  | case1 => simp; omega
  | case2 _ _ ih => exact not_run_of_ne (by omega) (by decide)
  | case3 _ ih => exact not_run_of_ne (by omega) (by decide)
  | case4 quotes cs hne ih =>
    have ih := ih (by omega)
    obtain ⟨n, hn⟩ : ∃ n, 3 - quotes = n + 1 := ⟨2 - quotes, by omega⟩
    have hn' : 3 - (quotes + 1) = n := by omega
    rw [hn'] at ih
    rw [hn]
    intro hrun
    exact ih (List.cons_prefix_cons.mp hrun).2
  | case5 _ c _ _ hquote ih =>
    rcases escaped_cases c with ⟨code, hcode, -⟩ | ⟨hself, -⟩
    · rw [hcode]
      exact not_run_of_ne (by omega) (by decide)
    · rw [hself]
      exact not_run_of_ne (by omega) hquote

theorem written_multilineBasicBody (quotes : Nat) (cs : List Char) (hquotes : quotes ≤ 2) :
    Written true '"' cs (multilineBasicBody quotes cs) := by
  fun_induction multilineBasicBody quotes cs with
  | case1 => exact .nil
  | case2 _ _ ih => exact .newline (ih (by omega))
  | case3 _ ih =>
    have hquote : Escapes ['"'] '"' := ⟨fun _ => rfl, fun _ => rfl⟩
    exact .escape rfl hquote (ih (by omega))
  | case4 quotes cs hne ih =>
    have hrun : ¬ List.replicate (3 - (quotes + 1)) '"' <+: multilineBasicBody (quotes + 1) cs :=
      multilineBasicBody_run (quotes + 1) cs (by omega)
    have hshort : List.replicate (3 - (quotes + 1)) '"' <+: ['"', '"'] := by
      rcases (by omega : quotes = 0 ∨ quotes = 1) with rfl | rfl <;> decide
    exact .itself rfl (by decide) (fun _ htwo => hrun (hshort.trans htwo)) (ih (by omega))
  | case5 _ _ _ _ hquote ih => exact .escaped hquote (ih (by omega))

theorem max_le_longestRun_go (mark : Char) (cs : List Char) (current longest : Nat) :
    max current longest ≤ longestRun.go mark current longest cs := by
  induction cs generalizing current longest with
  | nil => exact Nat.le_refl _
  | cons c cs ih =>
    simp only [longestRun.go]
    split
    · have ih := ih (current + 1) longest
      omega
    · have ih := ih 0 (max current longest)
      omega

/-- A run at the front makes the run so far longer. -/
theorem run_le_longestRun_go {mark : Char} {cs : List Char} {n : Nat} (h : List.replicate n mark <+: cs)
    (current longest : Nat) : current + n ≤ longestRun.go mark current longest cs := by
  induction n generalizing cs current with
  | zero =>
    have hmax := max_le_longestRun_go mark cs current longest
    omega
  | succ n ih =>
    obtain ⟨cs, rfl⟩ : ∃ more, cs = mark :: more := by
      obtain ⟨more, rfl⟩ := h
      exact ⟨_, rfl⟩
    have ih := ih (List.cons_prefix_cons.mp h).2 (current + 1)
    simp only [longestRun.go, if_true]
    omega

theorem written_of_longestRun {cs : List Char} (h : ∀ c ∈ cs, isVisible c = true ∨ c = '\n') {current longest : Nat}
    (hrun : longestRun.go '\'' current longest cs ≤ 2) : Written false '\'' cs cs := by
  induction cs generalizing current longest with
  | nil => exact .nil
  | cons c cs ih =>
    have ih := @ih fun d hd => h d (by simp [hd])
    simp only [longestRun.go] at hrun
    by_cases hc : c = '\''
    · subst hc
      rw [if_pos rfl] at hrun
      refine .itself rfl (by decide) (fun _ htwo => ?_) (ih hrun)
      have hthree := run_le_longestRun_go (n := 2) htwo (current + 1) longest
      omega
    · rw [if_neg hc] at hrun
      rcases h c (by simp) with hvisible | rfl
      · exact .itself hvisible (fun h => absurd h Bool.false_ne_true) (fun h => absurd h hc) (ih hrun)
      · exact .newline (ih hrun)

theorem isVisible_or_newline {cs : List Char} (h : cs.any isControl = false) :
    ∀ c ∈ cs, isVisible c = true ∨ c = '\n' := by
  intro c hc
  by_cases hn : c = '\n'
  · exact .inr hn
  · exact .inl (isVisible_of_not_isControl (by simpa using List.any_eq_false.mp h c hc) hn)

/-- The line end that opens a string with line ends in it is dropped, and no other one. -/
theorem dropFirstNewline_openingNewline {escapes : Bool} {mark : Char} {cs ws : List Char}
    (h : Written escapes mark cs ws) (hmark : isVisible mark = true) (rest : List Char) :
    dropFirstNewline (openingNewline cs ++ (ws ++ mark :: rest)) = ws ++ mark :: rest := by
  unfold openingNewline
  split
  · rfl
  · rename_i hnone
    have hnewline : newline (ws ++ mark :: rest) = none := by
      cases h with
      | nil => exact newline_eq_none hmark
      | newline _ => simp at hnone
      | itself hvisible _ _ _ => exact newline_eq_none hvisible
      | escape _ _ _ => exact newline_eq_none (by decide)
    simp [dropFirstNewline, hnewline]

theorem StringForm.of_literal {cs : List Char} (h : StringForm.of cs = .literal) :
    ∀ c ∈ cs, isVisible c = true ∧ c ≠ '\'' := by
  have hcs : cs.any isControl = false ∧ cs.contains '\n' = false ∧ cs.contains '\'' = false := by
    simp only [StringForm.of] at h
    grind
  obtain ⟨hcontrol, hnewline, hquote⟩ := hcs
  simp only [List.contains_eq_mem, decide_eq_false_iff_not] at hnewline hquote
  intro c hc
  have hn : c ≠ '\n' := by rintro rfl; exact hnewline hc
  have hq : c ≠ '\'' := by rintro rfl; exact hquote hc
  exact ⟨(isVisible_or_newline hcontrol c hc).resolve_right hn, hq⟩

theorem StringForm.of_multilineLiteral {cs : List Char} (h : StringForm.of cs = .multilineLiteral) :
    cs.any isControl = false ∧ longestRun '\'' cs ≤ 2 := by
  simp only [StringForm.of] at h
  grind

/-- A string that does not start with three marks is one on one line. -/
theorem string_eq_lineString {mark : Char} {cs : List Char} (h : ¬ [mark, mark] <+: cs) :
    string (mark :: cs) = lineString (mark :: cs) := by
  unfold string
  split
  · rename_i heq
    cases heq
    exact absurd (by simp) h
  · rename_i heq
    cases heq
    exact absurd (by simp) h
  · rfl

/-- Text that a mark closes does not start with two of them, if it does not start with one. -/
theorem not_two_marks {mark : Char} {ws rest : List Char} (hws : ws.head? ≠ some mark) (hrest : rest.head? ≠ some mark) :
    ¬ [mark, mark] <+: ws ++ mark :: rest := by
  intro htwo
  cases ws with
  | nil =>
    have hone := (List.cons_prefix_cons.mp htwo).2
    obtain ⟨more, rfl⟩ := hone
    exact hrest rfl
  | cons c ws => exact hws (by rw [(List.cons_prefix_cons.mp htwo).1]; rfl)

theorem head?_flatMap_escaped (cs : List Char) : (cs.flatMap escaped).head? ≠ some '"' := by
  cases cs with
  | nil => simp
  | cons c cs =>
    rcases escaped_cases c with ⟨code, hcode, -⟩ | ⟨hself, -, -, hquote, -⟩
    · simp [hcode]
    · simpa [hself] using hquote

/-- Whatever a string holds, it is read back as it was written. -/
theorem string_writeString (s : String) {rest : List Char} (hrest : Unquoted rest) :
    string (writeString s ++ rest) = some (s, rest) := by
  unfold writeString
  simp only
  split
  case h_1 =>
    have hshort := not_two_marks (head?_flatMap_escaped s.toList) hrest.1
    have hread (fuel : Nat) := basicRest_escaped s.toList rest fuel
    have hlength := length_le_flatMap_escaped s.toList
    simp only [List.cons_append, List.append_assoc, List.nil_append, string_eq_lineString hshort, lineString]
    rw [hread]
    · simp
    · simp only [List.length_append]
      omega
  case h_2 hform =>
    have hplain := StringForm.of_literal hform
    have hhead : s.toList.head? ≠ some '\'' := fun hq => (hplain '\'' (List.mem_of_head? hq)).2 rfl
    have hshort := not_two_marks hhead hrest.2
    simp [string_eq_lineString hshort, lineString, literalRest_append hplain rest]
  case h_3 =>
    have hwritten := written_multilineBasicBody 0 s.toList (by omega)
    have hdrop := dropFirstNewline_openingNewline hwritten rfl ('"' :: '"' :: rest)
    simp only [List.cons_append, List.append_assoc, List.nil_append, string, hdrop]
    rw [hwritten.read (by decide) hrest.1]
    · simp
    · simp only [List.length_append]
      omega
  case h_4 hform =>
    obtain ⟨hcontrol, hrun⟩ := StringForm.of_multilineLiteral hform
    have hwritten := written_of_longestRun (isVisible_or_newline hcontrol) hrun
    have hdrop := dropFirstNewline_openingNewline hwritten rfl ('\'' :: '\'' :: rest)
    simp only [List.cons_append, List.append_assoc, List.nil_append, string, hdrop]
    rw [hwritten.read (by decide) hrest.2]
    · simp
    · simp only [List.length_append]
      omega

end BatchRunner.Toml
