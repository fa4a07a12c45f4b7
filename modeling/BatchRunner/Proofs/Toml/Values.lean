import BatchRunner.Toml.Reader
import BatchRunner.Proofs.Toml.Strings

/-!
# Values are read back

What a setting may hold is a text, a count, a truth value or a list of texts (`Readable`). Each of them is read
back from the form in which it stands behind its key (`value_writeValue`). A count stands where a point in time
or a number with a fraction may stand as well, and the reader tries those first; so the line has to end behind
its digits.
-/

namespace BatchRunner.Toml

open BatchRunner.Text

/-! ## Digits -/

theorem ne_of_isDigit {d c : Char} (hd : d.isDigit = true) (hc : c.isDigit = false) : d ≠ c := by
  rintro rfl
  rw [hd] at hc
  cases hc

theorem digitValue?_of_isDigit {c : Char} (h : c.isDigit = true) : digitValue? c = some (c.toNat - '0'.toNat) := by
  have hrange : '0' ≤ c ∧ c ≤ '9' := by
    simpa [Char.isDigit, Char.le_def] using h
  rw [digitValue?, if_pos hrange]

/-- The digits of a number are read as the number. -/
theorem numeral_toDigits (n : Nat) :
    numeral 10 ((Nat.toDigits 10 n).map fun c => c.toNat - '0'.toNat) = n := by
  have hfold := Nat.ofDigitChars_ten_toDigits (n := n)
  simp only [Nat.ofDigitChars_eq_foldl] at hfold
  simp only [numeral, List.foldl_map]
  simpa only [Nat.mul_comm] using hfold

theorem isDigit_toDigits {n : Nat} {c : Char} (h : c ∈ Nat.toDigits 10 n) : c.isDigit = true :=
  Nat.isDigit_of_mem_toDigits (by omega) (by omega) h

/-- Only zero is written with a leading zero. -/
theorem head?_toDigits {n : Nat} (hn : 0 < n) : (Nat.toDigits 10 n).head? ≠ some '0' := by
  induction n using Nat.strongRecOn with
  | ind n ih =>
    by_cases hsmall : n < 10
    · have hchar : ∀ m < 10, 0 < m → [Nat.digitChar m].head? ≠ some '0' := by decide
      rw [Nat.toDigits_of_lt_base hsmall]
      exact hchar n hsmall hn
    · have ih := ih (n / 10) (by omega) (by omega)
      rw [Nat.toDigits_of_base_le (by omega) (by omega)]
      cases hfront : Nat.toDigits 10 (n / 10) with
      | nil => exact absurd hfront Nat.toDigits_ne_nil
      | cons d ds => simpa [hfront] using ih

section number

variable {rest : List Char}

theorem moreDigits_append {ds : List Char} (h : ∀ c ∈ ds, c.isDigit = true) {fuel : Nat} (hfuel : ds.length ≤ fuel) :
    moreDigits digitValue? fuel (ds ++ '\n' :: rest) =
      some (ds.map fun c => c.toNat - '0'.toNat, '\n' :: rest) := by
  induction ds generalizing fuel with
  | nil =>
    cases fuel with
    | zero => rfl
    | succ fuel => simp [moreDigits, digitValue?]
  | cons d ds ih =>
    obtain ⟨fuel, rfl⟩ : ∃ n, fuel = n + 1 := ⟨fuel - 1, by simp at hfuel; omega⟩
    have hd := h d (by simp)
    have hline : d ≠ '_' := ne_of_isDigit hd rfl
    have hlength : ds.length ≤ fuel := by simpa using hfuel
    have ih := ih (fun c hc => h c (by simp [hc])) hlength
    simp [moreDigits, hline, digitValue?_of_isDigit hd, ih]

/-- All digits of a number are read, up to the end of the line. -/
theorem decimalDigits_toDigits (n : Nat) :
    decimalDigits (Nat.toDigits 10 n ++ '\n' :: rest) =
      some ((Nat.toDigits 10 n).map fun c => c.toNat - '0'.toNat, '\n' :: rest) := by
  by_cases hn : n = 0
  · subst hn; rfl
  have hhead := head?_toDigits (by omega : 0 < n)
  have hdigits (c : Char) (hc : c ∈ Nat.toDigits 10 n) := isDigit_toDigits hc
  cases hds : Nat.toDigits 10 n with
  | nil => exact absurd hds Nat.toDigits_ne_nil
  | cons d ds =>
    rw [hds] at hhead hdigits
    have hd : d ≠ '0' := by simpa using hhead
    have hdigits' (c : Char) (hc : c ∈ ds) := hdigits c (by simp [hc])
    have hlength : ds.length ≤ ds.length + (rest.length + 1) := by omega
    have hmore := @moreDigits_append rest ds hdigits' _ hlength
    simp only [Char.reduceToNat] at hmore
    simp [decimalDigits, hd, digitRun, digitValue?_of_isDigit (hdigits d (by simp)), hmore]

/-- What is left behind a few digits of a line of digits. -/
theorem exactDigits_rest {count : Nat} {ds left : List Char} {read : List Nat} (h : ∀ c ∈ ds, c.isDigit = true)
    (hread : exactDigits digitValue? count (ds ++ '\n' :: rest) = some (read, left)) :
    ∃ more : List Char, left = more ++ '\n' :: rest ∧ ∀ c ∈ more, c.isDigit = true := by
  induction count generalizing ds read with
  | zero =>
    cases hread
    exact ⟨ds, rfl, h⟩
  | succ count ih =>
    cases ds with
    | nil => simp [exactDigits, digitValue?] at hread
    | cons d ds =>
      have hds (c : Char) (hc : c ∈ ds) := h c (by simp [hc])
      simp only [List.cons_append, exactDigits, Option.bind_eq_bind, Option.bind_eq_some_iff, Option.some.injEq,
        Prod.mk.injEq] at hread
      obtain ⟨_, _, answer, hmore, _, rfl⟩ := hread
      exact ih hds hmore

theorem literal_of_digits {mark : Char} {marks ds : List Char} (h : ∀ c ∈ ds, c.isDigit = true)
    (hmark : mark.isDigit = false) (hline : mark ≠ '\n') : literal (mark :: marks) (ds ++ '\n' :: rest) = none := by
  refine literal_of_head? ?_ marks
  cases ds with
  | nil => simpa using hline.symm
  | cons d ds => simpa using ne_of_isDigit (h d (by simp)) hmark

theorem moment_of_digits {ds : List Char} (h : ∀ c ∈ ds, c.isDigit = true) : moment (ds ++ '\n' :: rest) = none := by
  have hdate : date (ds ++ '\n' :: rest) = none := by
    unfold date
    cases hyear : exactDigits digitValue? 4 (ds ++ '\n' :: rest) with
    | none => rfl
    | some answer =>
      obtain ⟨more, hleft, hmore⟩ := exactDigits_rest h hyear
      simp [hleft, literal_of_digits hmore]
  have htime : timeOfDay (ds ++ '\n' :: rest) = none := by
    unfold timeOfDay twoDigits
    cases hhour : exactDigits digitValue? 2 (ds ++ '\n' :: rest) with
    | none => rfl
    | some answer =>
      obtain ⟨more, hleft, hmore⟩ := exactDigits_rest h hhour
      simp only [Option.bind_eq_bind, Option.bind_some]
      split
      · simp [hleft, literal_of_digits hmore]
      · rfl
  simp [moment, hdate, htime]

theorem sign_of_digits {ds : List Char} (h : ∀ c ∈ ds, c.isDigit = true) :
    sign (ds ++ '\n' :: rest) = (false, ds ++ '\n' :: rest) := by
  cases ds with
  | nil => rfl
  | cons d ds =>
    have hd := h d (by simp)
    have hplus : d ≠ '+' := ne_of_isDigit hd rfl
    have hminus : d ≠ '-' := ne_of_isDigit hd rfl
    simp [sign, hplus, hminus]

/-- A number without a point or an exponent is no float. -/
theorem float_toDigits (n : Nat) : float (Nat.toDigits 10 n ++ '\n' :: rest) = none := by
  have hdigits (c : Char) (hc : c ∈ Nat.toDigits 10 n) := isDigit_toDigits hc
  have htail : floatTail ('\n' :: rest) = none := rfl
  simp [float, sign_of_digits hdigits, literal_of_digits hdigits, decimalDigits_toDigits, htail]

theorem markedInteger_toDigits (n : Nat) : markedInteger (Nat.toDigits 10 n ++ '\n' :: rest) = none := by
  by_cases hn : n = 0
  · subst hn; rfl
  have hhead := head?_toDigits (by omega : 0 < n)
  cases hds : Nat.toDigits 10 n with
  | nil => exact absurd hds Nat.toDigits_ne_nil
  | cons d ds =>
    rw [hds] at hhead
    have hd : d ≠ '0' := by simpa using hhead
    simp [markedInteger, hd]

theorem inRange_iff (n : Nat) : inRange n = true ↔ n < 0x8000000000000000 := by
  simp only [inRange, Bool.and_eq_true, decide_eq_true_eq]
  omega

-- The steps rewrite and do not simplify: the bounds of the range are too large to be compared by unfolding.
theorem integer_of_digits {cs : List Char} {ds : List Nat} (hmarked : markedInteger cs = none)
    (hsign : sign cs = (false, cs)) (hdigits : decimalDigits cs = some (ds, rest)) :
    integer cs = if inRange (numeral 10 ds : Nat) then some (((numeral 10 ds : Nat) : Int), rest) else none := by
  unfold integer
  rw [hmarked, hsign]
  dsimp only
  rw [hdigits, Option.bind_eq_bind, Option.bind_some]
  dsimp only
  rw [if_neg Bool.false_ne_true]

theorem integer_toDigits {n : Nat} (hn : n < 0x8000000000000000) :
    integer (Nat.toDigits 10 n ++ '\n' :: rest) = some ((n : Int), '\n' :: rest) := by
  have hsign := @sign_of_digits rest (Nat.toDigits 10 n) fun _ => isDigit_toDigits
  rw [integer_of_digits (markedInteger_toDigits n) hsign (decimalDigits_toDigits n), numeral_toDigits]
  exact if_pos ((inRange_iff n).mpr hn)

/-- A number that fits is read back as it was written. -/
theorem number_toDigits {n : Nat} (hn : n < 0x8000000000000000) :
    number (Nat.toDigits 10 n ++ '\n' :: rest) = some (.integer n, '\n' :: rest) := by
  simp [number, moment_of_digits fun c => isDigit_toDigits, float_toDigits, integer_toDigits hn]

end number

/-! ## Blanks -/

/-- A character with which no blank, comment or line end starts. -/
def Solid (c : Char) : Prop := c ≠ ' ' ∧ c ≠ '\t' ∧ c ≠ '#' ∧ c ≠ '\n' ∧ c ≠ '\r'

instance (c : Char) : Decidable (Solid c) := inferInstanceAs (Decidable (_ ∧ _))

theorem skipBlanks_of_solid {c : Char} (hc : Solid c) (cs : List Char) : skipBlanks (c :: cs) = c :: cs := by
  obtain ⟨hspace, htab, -⟩ := hc
  simp [skipBlanks, hspace, htab]

theorem skipTrailer_of_solid {c : Char} (hc : Solid c) (cs : List Char) : skipTrailer (c :: cs) = c :: cs := by
  simp [skipTrailer, skipBlanks_of_solid hc, hc.2.2.1]

theorem newline_of_solid {c : Char} (hc : Solid c) (cs : List Char) : newline (c :: cs) = none := by
  simp [newline, hc.2.2.2.1, hc.2.2.2.2]

theorem skipLines_of_solid {c : Char} (hc : Solid c) (fuel : Nat) (cs : List Char) :
    skipLines fuel (c :: cs) = c :: cs := by
  cases fuel <;> simp [skipLines, skipTrailer_of_solid hc, newline_of_solid hc]

theorem skipLines_newline {c : Char} (hc : Solid c) {fuel : Nat} (hfuel : 0 < fuel) (cs : List Char) :
    skipLines fuel ('\n' :: c :: cs) = c :: cs := by
  obtain ⟨fuel, rfl⟩ := Nat.exists_eq_add_one.mpr hfuel
  simp [skipLines, skipTrailer, skipBlanks, newline, skipLines_of_solid hc]

theorem skipLines_indented {c : Char} (hc : Solid c) {fuel : Nat} (hfuel : 0 < fuel) (cs : List Char) :
    skipLines fuel ('\n' :: ' ' :: ' ' :: ' ' :: ' ' :: c :: cs) = c :: cs := by
  obtain ⟨fuel, rfl⟩ := Nat.exists_eq_add_one.mpr hfuel
  have hblanks : skipBlanks (' ' :: ' ' :: ' ' :: ' ' :: c :: cs) = c :: cs := by
    simp [skipBlanks, hc.1, hc.2.1]
  have htrailer : skipTrailer (' ' :: ' ' :: ' ' :: ' ' :: c :: cs) = c :: cs := by
    simp [skipTrailer, hblanks, hc.2.2.1]
  have hfirst : newline (skipTrailer ('\n' :: ' ' :: ' ' :: ' ' :: ' ' :: c :: cs)) =
      some (' ' :: ' ' :: ' ' :: ' ' :: c :: cs) := rfl
  simp only [skipLines, hfirst]
  cases fuel <;> simp [skipLines, htrailer, newline_of_solid hc]

/-! ## Lists of texts -/

/-- A string starts with its quote. -/
theorem writeString_cons (s : String) : ∃ c cs, writeString s = c :: cs ∧ (c = '"' ∨ c = '\'') := by
  unfold writeString
  simp only
  split
  · exact ⟨_, _, rfl, .inl rfl⟩
  · exact ⟨_, _, rfl, .inr rfl⟩
  · exact ⟨_, _, rfl, .inl rfl⟩
  · exact ⟨_, _, rfl, .inr rfl⟩

/-- A string is read back whatever characters it has, as either kind of quote closes it. -/
theorem value_writeString (depth : Nat) (s : String) {rest : List Char} (hrest : Unquoted rest) :
    value depth (writeString s ++ rest) = some (.text s, rest) := by
  have hread := string_writeString s hrest
  obtain ⟨c, cs, hcs, hquote⟩ := writeString_cons s
  rw [hcs, List.cons_append] at hread
  rw [hcs, List.cons_append]
  unfold value
  simp [hquote, hread]

theorem solid_of_quote {c : Char} (h : c = '"' ∨ c = '\'') : Solid c ∧ c ≠ ']' := by
  rcases h with rfl | rfl <;> decide

/-- Of a list whose first element comes next, that element is read and then the rest. -/
theorem elements_writeString {depth fuel : Nat} {cs rest : List Char} {s : String} (hrest : Unquoted rest)
    (hcs : skipLines cs.length cs = writeString s ++ rest) :
    elements (value depth) (fuel + 1) cs =
      match skipLines rest.length rest with
      | ',' :: rest => do
        let (values, rest) ← elements (value depth) fuel rest
        some (.text s :: values, rest)
      | ']' :: rest => some ([.text s], rest)
      | _ => none := by
  have hread := value_writeString depth s hrest
  obtain ⟨c, more, hmore, hquote⟩ := writeString_cons s
  rw [hmore, List.cons_append] at hcs hread
  have hc : c ≠ ']' := (solid_of_quote hquote).2
  rw [elements, hcs]
  split
  · rename_i heq
    cases heq
    exact absurd rfl hc
  · rw [hread]
    rfl

theorem elements_writeElements (depth : Nat) (items : List String) (rest : List Char) {fuel : Nat}
    (hfuel : items.length < fuel) :
    elements (value depth) fuel ('\n' :: (writeElements (items.map .text) ++ ']' :: rest)) =
      some (items.map .text, rest) := by
  induction items generalizing fuel with
  | nil =>
    obtain ⟨fuel, rfl⟩ : ∃ n, fuel = n + 1 := ⟨fuel - 1, by omega⟩
    have hskip : skipLines ('\n' :: ']' :: rest).length ('\n' :: ']' :: rest) = ']' :: rest :=
      skipLines_newline (by decide) (by simp) rest
    simp only [List.map_nil, writeElements, List.nil_append, elements, hskip]
  | cons item items ih =>
    obtain ⟨fuel, rfl⟩ : ∃ n, fuel = n + 1 := ⟨fuel - 1, by omega⟩
    have hlength : items.length < fuel := by simpa using hfuel
    have ih := ih hlength
    obtain ⟨c, more, hmore, hquote⟩ := writeString_cons item
    have hcomma (n : Nat) (behind : List Char) : skipLines n (',' :: behind) = ',' :: behind :=
      skipLines_of_solid (by decide) n behind
    let behind : List Char := ',' :: '\n' :: (writeElements (items.map .text) ++ ']' :: rest)
    let lines : List Char := '\n' :: ' ' :: ' ' :: ' ' :: ' ' :: (writeString item ++ behind)
    have hlines : '\n' :: (writeElements ((item :: items).map .text) ++ ']' :: rest) = lines := by
      simp [lines, behind, writeElements, writeValue]
    have hskip : skipLines lines.length lines = writeString item ++ behind := by
      simp only [lines, hmore]
      exact skipLines_indented (solid_of_quote hquote).1 (by simp) _
    have hbehind : Unquoted behind := by constructor <;> simp [behind]
    rw [hlines, elements_writeString hbehind hskip, hcomma]
    simp [ih]

theorem length_le_writeElements (items : List Value) : items.length ≤ (writeElements items).length := by
  induction items with
  | nil => simp
  | cons item items ih =>
    simp only [writeElements, List.length_append, List.length_cons]
    omega

/-! ## Settings -/

/-- The values that settings hold. -/
inductive Readable : Value → Prop
  | text (s : String) : Readable (.text s)
  | integer (n : Nat) : n < 0x8000000000000000 → Readable (.integer n)
  | boolean (b : Bool) : Readable (.boolean b)
  | texts (items : List String) : Readable (.texts items)

theorem toList_toString (n : Nat) : (toString (n : Int)).toList = Nat.toDigits 10 n := by
  have hshown : toString (n : Int) = Nat.repr n := rfl
  rw [hshown, Nat.repr_eq_ofList_toDigits, String.toList_ofList]

/-- A value that begins with a digit is a number. -/
theorem value_of_digits {d : Char} (hd : d.isDigit = true) (depth : Nat) (cs : List Char) :
    value depth (d :: cs) = number (d :: cs) := by
  have hne (c : Char) (hc : c.isDigit = false) : d ≠ c := ne_of_isDigit hd hc
  have hquote : ¬ (d = '"' ∨ d = '\'') := fun h => h.elim (hne '"' rfl) (hne '\'' rfl)
  unfold value
  simp [hquote, hne 't' rfl, hne 'f' rfl, hne '[' rfl, hne '\x7b' rfl]

theorem value_texts (depth : Nat) (items : List String) (rest : List Char) :
    value (depth + 1) (writeValue (.texts items) ++ rest) = some (.texts items, rest) := by
  have hbracket (n : Nat) (behind : List Char) : skipLines n (']' :: behind) = ']' :: behind :=
    skipLines_of_solid (by decide) n behind
  match items with
  | [] => simp [Value.texts, writeValue, value, elements, hbracket]
  | [item] =>
    have hread (n : Nat) : elements (value depth) (n + 1) (writeString item ++ ']' :: rest) =
        some ([.text item], rest) := by
      obtain ⟨c, more, hmore, hquote⟩ := writeString_cons item
      have hskip (n : Nat) : skipLines n (writeString item ++ ']' :: rest) = writeString item ++ ']' :: rest := by
        rw [hmore]
        exact skipLines_of_solid (solid_of_quote hquote).1 n _
      have hbehind : Unquoted (']' :: rest) := by constructor <;> simp
      rw [elements_writeString hbehind (hskip _), hbracket]
      rfl
    simp [Value.texts, writeValue, value, hread]
  | first :: second :: items =>
    have hlength := length_le_writeElements ((first :: second :: items).map .text)
    simp only [Value.texts, List.map_cons, writeValue, value, List.cons_append, List.append_assoc, List.nil_append]
    simp only [Char.reduceEq, or_self, if_false, if_true]
    have hfuel : (first :: second :: items).length <
        ('\n' :: (writeElements ((first :: second :: items).map .text) ++ ']' :: rest)).length + 1 := by
      simp only [List.length_map, List.length_cons, List.length_append] at hlength ⊢
      omega
    have hread := elements_writeElements depth (first :: second :: items) rest hfuel
    simp only [List.map_cons] at hread
    rw [hread]
    rfl

/-- A value does not start with a blank. -/
theorem writeValue_cons {v : Value} (h : Readable v) : ∃ c cs, writeValue v = c :: cs ∧ Solid c := by
  cases h with
  | text s =>
    obtain ⟨c, cs, hcs, hquote⟩ := writeString_cons s
    exact ⟨c, cs, by rw [writeValue, hcs], (solid_of_quote hquote).1⟩
  | integer n hn =>
    cases hds : Nat.toDigits 10 n with
    | nil => exact absurd hds Nat.toDigits_ne_nil
    | cons d ds =>
      have hd : d.isDigit = true := isDigit_toDigits (n := n) (by simp [hds])
      have hne (c : Char) (hc : c.isDigit = false) : d ≠ c := ne_of_isDigit hd hc
      have hsolid : Solid d := ⟨hne _ rfl, hne _ rfl, hne _ rfl, hne _ rfl, hne _ rfl⟩
      exact ⟨d, ds, by rw [writeValue, toList_toString, hds], hsolid⟩
  | boolean b => cases b <;> exact ⟨_, _, rfl, by decide⟩
  | texts items =>
    match items with
    | [] => exact ⟨_, _, rfl, by decide⟩
    | [_] => exact ⟨_, _, rfl, by decide⟩
    | _ :: _ :: _ => exact ⟨_, _, rfl, by decide⟩

/-- A value that ends its line is read back. -/
theorem value_writeValue {v : Value} (h : Readable v) (depth : Nat) (rest : List Char) :
    value (depth + 1) (writeValue v ++ '\n' :: rest) = some (v, '\n' :: rest) := by
  cases h with
  | text s => exact value_writeString (depth + 1) s (by constructor <;> simp)
  | integer n hn =>
    have hread := @number_toDigits rest n hn
    have hdigits (c : Char) (hc : c ∈ Nat.toDigits 10 n) := isDigit_toDigits hc
    simp only [writeValue, toList_toString]
    cases hds : Nat.toDigits 10 n with
    | nil => exact absurd hds Nat.toDigits_ne_nil
    | cons d ds =>
      rw [hds] at hread hdigits
      rw [List.cons_append, value_of_digits (hdigits d (by simp))]
      exact hread
  | boolean b => cases b <;> rfl
  | texts items => exact value_texts depth items _

end BatchRunner.Toml
