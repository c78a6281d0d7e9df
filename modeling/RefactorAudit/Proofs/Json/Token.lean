-- SUMMARY: The JSON reader takes blanks, strings and whole numbers from the front of a text.
import RefactorAudit.Proofs.Json.Spelling
import RefactorAudit.Proofs.Text.Digits

/-!
# Reading tokens

A reader yields a value on a text if it returns the value and leaves what stands behind it,
wherever the text stands. Each part of the reader has one law of this form, and steps that follow
each other pass on what is left of the text.
-/

namespace RefactorAudit.Json

/-- Run in front of `text`, a reader returns `a` and leaves `rest`. -/
def Yields {α : Type} (m : ReadM α) (text : List Char) (a : α) (rest : List Char) : Prop :=
  ∀ offset, ∃ offset', m ⟨text, offset⟩ = (.ok a, ⟨rest, offset'⟩)

/-! ## Steps -/

section steps

variable {α β : Type} {m : ReadM α} {f : α → ReadM β} {a : α} {b : β}
variable {text rest left : List Char} {c : Char}

theorem yields_pure (a : α) (text : List Char) : Yields (pure a) text a text :=
  fun offset => ⟨offset, rfl⟩

theorem yields_bind (hm : Yields m text a rest) (hf : Yields (f a) rest b left) :
    Yields (m >>= f) text b left := by
  intro offset
  obtain ⟨behind, hm⟩ := hm offset
  obtain ⟨after, hf⟩ := hf behind
  refine ⟨after, ?_⟩
  simp only [bind, ExceptT.bind, ExceptT.mk, StateT.bind, hm]
  exact hf

/-- What is done with the cursor may depend on its place only. -/
theorem yields_get {f : Cursor → ReadM β} (hf : ∀ offset, Yields (f ⟨text, offset⟩) text b rest) :
    Yields (get >>= f) text b rest :=
  fun offset => hf offset offset

theorem yields_peek (text : List Char) : Yields ReadM.peek text text.head? text :=
  fun offset => ⟨offset, rfl⟩

theorem yields_eat (c : Char) (text : List Char) : Yields ReadM.eat (c :: text) () text :=
  fun offset => ⟨offset + c.utf8Size, rfl⟩

theorem yields_placed (hm : Yields m text a rest) : Yields (ReadM.placed m) text a rest := by
  intro offset
  obtain ⟨behind, hm⟩ := hm offset
  refine ⟨behind, ?_⟩
  rw [ReadM.placed, hm]

theorem yields_enclosed {end_ : ReadM Unit} (hm : Yields m text a rest)
    (hend : Yields end_ rest () left) : Yields (ReadM.enclosed m end_) text a left := by
  intro offset
  obtain ⟨behind, hm⟩ := hm offset
  obtain ⟨after, hend⟩ := hend behind
  refine ⟨after, ?_⟩
  rw [ReadM.enclosed, hm]
  simp only [hend]

theorem yields_deeper {depth : Nat} (h : depth < ReadM.depthLimit) :
    Yields (ReadM.deeper depth) text () text := by
  rw [ReadM.deeper, if_neg (Nat.not_le.2 h)]
  exact yields_pure () text

/-- A text that begins with something else than a blank. -/
def Opens (text : List Char) : Prop := ∃ c rest, text = c :: rest ∧ ReadM.isSpace c = false

theorem yields_skipBlanks {blanks : List Char} (hblanks : Blank blanks)
    (htext : text = [] ∨ Opens text) :
    Yields ReadM.skipBlanks (blanks ++ text) text.head? text := by
  have hdrop : text.dropWhile ReadM.isSpace = text := by
    rcases htext with rfl | ⟨c, rest, rfl, hc⟩
    · rfl
    · rw [List.dropWhile_cons_of_neg (by simp [hc])]
  intro offset
  refine ⟨offset + ((blanks ++ text).takeWhile ReadM.isSpace).length, ?_⟩
  change (Except.ok (((blanks ++ text).dropWhile ReadM.isSpace).head?),
    (⟨(blanks ++ text).dropWhile ReadM.isSpace, _⟩ : Cursor)) = _
  rw [List.dropWhile_append_of_pos hblanks, hdrop]

end steps

/-! ## Strings -/

section strings

variable {c : Char} {cs digits text body rest : List Char} {n : Nat}

theorem le_bytes (n : Nat) (cs : List Char) : n ≤ cs.foldl (fun n ch => n + ch.utf8Size) n := by
  induction cs generalizing n with
  | nil => exact Nat.le_refl n
  | cons c cs ih => exact Nat.le_trans (Nat.le_add_right _ _) (ih _)

theorem yields_fourHex (h : ReadM.hexNumber digits = some n) :
    Yields ReadM.fourHex (digits ++ rest) n rest := by
  obtain ⟨a, b, c, d, rfl⟩ : ∃ a b c d, digits = [a, b, c, d] := by
    unfold ReadM.hexNumber at h
    split at h
    · exact ⟨_, _, _, _, rfl⟩
    · exact nomatch h
  have hbytes : ¬ ([a, b, c, d] ++ rest).foldl (fun n ch => n + ch.utf8Size) 0 < 4 := by
    have hle := le_bytes (0 + a.utf8Size + b.utf8Size + c.utf8Size + d.utf8Size) rest
    have := a.utf8Size_pos
    have := b.utf8Size_pos
    have := c.utf8Size_pos
    have := d.utf8Size_pos
    simp only [List.cons_append, List.nil_append, List.foldl_cons]
    omega
  refine yields_get fun offset => ?_
  have htake : ([a, b, c, d] ++ rest).take 4 = [a, b, c, d] := rfl
  simp only [if_neg hbytes, htake, h]
  exact fun offset => ⟨_, rfl⟩

theorem yields_expectInPair (c : Char) : Yields (ReadM.expectInPair c) (c :: rest) () rest := by
  refine yields_bind (yields_peek _) ?_
  simp only [List.head?_cons, if_true]
  exact yields_eat c rest

theorem yields_unicodeEscape_of_number (h : ReadM.hexNumber digits = some c.toNat) :
    Yields ReadM.unicodeEscape (digits ++ rest) c rest := by
  have hvalid : c.toNat < 0xD800 ∨ 0xDFFF < c.toNat := c.valid.imp_right And.left
  have hlow : ¬ (decide (0xDC00 ≤ c.toNat) && decide (c.toNat ≤ 0xDFFF)) = true := by
    simp only [Bool.and_eq_true, decide_eq_true_eq]
    omega
  have hplane : (decide (c.toNat < 0xD800) || decide (c.toNat > 0xDBFF)) = true := by
    simp only [Bool.or_eq_true, decide_eq_true_eq]
    omega
  refine yields_bind (yields_fourHex h) ?_
  rw [if_neg hlow, if_pos hplane, Char.ofNat_toNat]
  exact yields_pure c rest

theorem yields_unicodeEscape_of_pair {first second : List Char} {high low : Nat}
    (hfirst : ReadM.hexNumber first = some high) (hge : 0xD800 ≤ high) (hle : high ≤ 0xDBFF)
    (hsecond : ReadM.hexNumber second = some low) (hge' : 0xDC00 ≤ low) (hle' : low ≤ 0xDFFF)
    (hc : c.toNat = (high - 0xD800) * 1024 + (low - 0xDC00) + 0x10000) :
    Yields ReadM.unicodeEscape (first ++ '\\' :: 'u' :: (second ++ rest)) c rest := by
  have hlow : ¬ (decide (0xDC00 ≤ high) && decide (high ≤ 0xDFFF)) = true := by
    simp only [Bool.and_eq_true, decide_eq_true_eq]
    omega
  have hplane : ¬ (decide (high < 0xD800) || decide (high > 0xDBFF)) = true := by
    simp only [Bool.or_eq_true, decide_eq_true_eq]
    omega
  have hpair : ¬ (decide (low < 0xDC00) || decide (low > 0xDFFF)) = true := by
    simp only [Bool.or_eq_true, decide_eq_true_eq]
    omega
  refine yields_bind (yields_fourHex hfirst) ?_
  rw [if_neg hlow, if_neg hplane]
  refine yields_bind (yields_expectInPair _) (yields_bind (yields_expectInPair _) ?_)
  refine yields_bind (yields_fourHex hsecond) ?_
  rw [if_neg hpair, ← hc, Char.ofNat_toNat]
  exact yields_bind (yields_pure _ _) (yields_pure c rest)

/-- The characters behind a backslash are read as the character that they stand for. -/
theorem yields_escape (h : SpellsChar c ('\\' :: text)) :
    Yields ReadM.escape (text ++ rest) c rest := by
  cases h with
  | plain _ hne _ => exact absurd rfl hne
  | @escaped letter h =>
    have hu : letter ≠ 'u' := by
      rintro rfl
      exact absurd h (by simp [ReadM.plainEscape?])
    refine yields_bind (yields_peek _) ?_
    simp only [List.cons_append, List.nil_append, List.head?_cons, h]
    exact yields_bind (yields_eat _ _) (yields_pure _ _)
  | @numbered digits h =>
    exact yields_bind (yields_peek _) (yields_bind (yields_eat _ _)
      (yields_unicodeEscape_of_number h))
  | @paired first second high low hfirst hge hle hsecond hge' hle' hc =>
    rw [List.cons_append, List.append_assoc]
    exact yields_bind (yields_peek _) (yields_bind (yields_eat _ _)
      (yields_unicodeEscape_of_pair hfirst hge hle hsecond hge' hle' hc))

/-- Characters are read up to the quote that ends them. -/
theorem yields_stringRest {fuel : Nat} {read : List Char} (h : SpellsChars cs body)
    (hfuel : body.length < fuel) :
    Yields (ReadM.stringRest fuel read) (body ++ '"' :: rest) (String.ofList (read.reverse ++ cs))
      rest := by
  induction h generalizing fuel read with
  | nil =>
    obtain ⟨fuel, rfl⟩ := Nat.exists_eq_succ_of_ne_zero (Nat.ne_zero_of_lt hfuel)
    rw [List.append_nil]
    exact yields_bind (yields_peek _) (yields_bind (yields_eat _ _) (yields_pure _ _))
  | @cons c cs text body hc _ ih =>
    obtain ⟨fuel, rfl⟩ := Nat.exists_eq_succ_of_ne_zero (Nat.ne_zero_of_lt hfuel)
    rw [List.length_append] at hfuel
    have hread : read.reverse ++ c :: cs = (c :: read).reverse ++ cs := by simp
    rw [hread, List.append_assoc]
    have hescape : ∀ tail, text = '\\' :: tail →
        Yields (ReadM.stringRest (fuel + 1) read) (text ++ (body ++ '"' :: rest))
          (String.ofList ((c :: read).reverse ++ cs)) rest := by
      rintro tail rfl
      refine yields_bind (yields_peek _) (yields_bind (yields_eat _ _) ?_)
      refine yields_bind (yields_escape hc) (ih ?_)
      rw [List.length_cons] at hfuel
      omega
    cases hc with
    | plain hquote hslash hge =>
      rw [ReadM.stringRest]
      refine yields_bind (yields_peek _) ?_
      simp only [List.cons_append, List.nil_append, List.head?_cons]
      refine yields_bind (yields_eat _ _) ?_
      rw [if_neg (Nat.not_lt.2 hge)]
      refine ih ?_
      rw [List.length_singleton] at hfuel
      omega
    | escaped _ => exact hescape _ rfl
    | numbered _ => exact hescape _ rfl
    | paired _ _ _ _ _ _ _ => exact hescape _ rfl

/-- A string is read behind its opening quote. -/
theorem yields_string {s : String} (h : SpellsChars s.toList body) :
    Yields ReadM.string (body ++ '"' :: rest) s rest := by
  have hfuel : body.length < (body ++ '"' :: rest).length + 1 := by
    rw [List.length_append]
    omega
  have hread : Yields (ReadM.stringRest ((body ++ '"' :: rest).length + 1) [])
      (body ++ '"' :: rest) (String.ofList ([].reverse ++ s.toList)) rest :=
    yields_stringRest h hfuel
  rw [List.reverse_nil, List.nil_append, String.ofList_toList] at hread
  exact yields_get fun _ => hread

end strings

/-! ## Numbers -/

/-- What may stand behind a value. -/
def Ends (rest : List Char) : Prop :=
  ∀ c tail, rest = c :: tail → ReadM.isSpace c = true ∨ c = ',' ∨ c = ']' ∨ c = '\x7d'

section numbers

variable {digits rest : List Char} {n : Nat}

theorem ends_nil : Ends [] := fun _ _ h => nomatch h

theorem ends_cons {c : Char} {rest : List Char}
    (h : ReadM.isSpace c = true ∨ c = ',' ∨ c = ']' ∨ c = '\x7d') : Ends (c :: rest) := by
  rintro _ _ ⟨⟩
  exact h

theorem ends_append {blanks : List Char} (hblanks : Blank blanks) (h : Ends rest) :
    Ends (blanks ++ rest) := by
  cases blanks with
  | nil => exact h
  | cons c blanks => exact ends_cons (.inl (hblanks c List.mem_cons_self))

/-- Nothing that may stand behind a number goes on with it. -/
theorem Ends.not_digit (h : Ends rest) {c : Char} {tail : List Char} (hrest : rest = c :: tail) :
    c.isDigit = false ∧ c ≠ '.' ∧ c ≠ 'e' ∧ c ≠ 'E' := by
  have hspace : ReadM.isSpace c = true → c = ' ' ∨ c = '\n' ∨ c = '\t' ∨ c = '\r' := by
    simp [ReadM.isSpace, or_assoc]
  rcases h c tail hrest with h | rfl | rfl | rfl
  · rcases hspace h with rfl | rfl | rfl | rfl <;> decide
  · decide
  · decide
  · decide

theorem yields_digits (hdigits : ∀ d ∈ digits, d.isDigit = true) (h : Ends rest) :
    Yields ReadM.digits (digits ++ rest) digits rest := by
  have hrest : rest.takeWhile ReadM.isDigit = [] ∧ rest.dropWhile ReadM.isDigit = rest := by
    cases rest with
    | nil => exact ⟨rfl, rfl⟩
    | cons c tail =>
      have hc : ¬ ReadM.isDigit c = true := by simp [ReadM.isDigit, (h.not_digit rfl).1]
      exact ⟨List.takeWhile_cons_of_neg hc, List.dropWhile_cons_of_neg hc⟩
  have hall : ∀ d ∈ digits, ReadM.isDigit d = true := hdigits
  have htake : (digits ++ rest).takeWhile ReadM.isDigit = digits := by
    rw [List.takeWhile_append_of_pos hall, hrest.1, List.append_nil]
  have hdrop : (digits ++ rest).dropWhile ReadM.isDigit = rest := by
    rw [List.dropWhile_append_of_pos hall, hrest.2]
  intro offset
  refine ⟨offset + digits.length, ?_⟩
  simp only [ReadM.digits, htake, hdrop]

theorem gather_eq (h : Nat.ofDigitChars 10 digits n ≤ ReadM.wholeLimit) :
    ReadM.gather n digits = (Nat.ofDigitChars 10 digits n, []) := by
  induction digits generalizing n with
  | nil => rw [ReadM.gather, Nat.ofDigitChars_nil]
  | cons d rest ih =>
    have hvalue : n * 10 + ReadM.digitValue d = 10 * n + (d.toNat - '0'.toNat) := by
      rw [ReadM.digitValue, Nat.mul_comm]
    rw [Nat.ofDigitChars_cons] at h ⊢
    have hle := Text.le_ofDigitChars (10 * n + (d.toNat - '0'.toNat)) rest
    rw [ReadM.gather, hvalue, if_neg (Nat.not_lt.2 (Nat.le_trans hle h)), ih h]

theorem yields_finish (h : Ends rest) :
    Yields (ReadM.number.finish false n 0) rest (.int n) rest := by
  refine yields_bind (yields_peek _) ?_
  cases rest with
  | nil => exact yields_pure _ _
  | cons c tail =>
    obtain ⟨-, hpoint, he, hE⟩ := h.not_digit rfl
    rw [List.head?_cons]
    split
    · next heq => exact absurd (Option.some.inj heq) hpoint
    · next heq => exact absurd (Option.some.inj heq) he
    · next heq => exact absurd (Option.some.inj heq) hE
    · exact yields_pure _ _

/-- A whole number is read from its digits. -/
theorem yields_number (hn : n ≤ ReadM.wholeLimit) (h : Ends rest) :
    Yields (ReadM.number false) (Nat.toDigits 10 n ++ rest) (.int n) rest := by
  refine yields_bind (yields_peek _) ?_
  rcases Nat.eq_zero_or_pos n with rfl | hpos
  · refine yields_bind (yields_eat '0' rest) (yields_bind (yields_peek _) ?_)
    cases rest with
    | nil => exact yields_finish h
    | cons c tail =>
      simp only [List.head?_cons]
      rw [if_neg (by simp [(h.not_digit rfl).1])]
      exact yields_finish h
  · obtain ⟨d, digits, hdigits, hd⟩ := Text.exists_toDigits_eq_cons hpos
    have hall : ∀ c ∈ Nat.toDigits 10 n, c.isDigit = true := fun c hc => Text.isDigit_toDigits hc
    have hgather : ReadM.gather 0 (Nat.toDigits 10 n) = (n, []) := by
      rw [gather_eq (by rwa [Nat.ofDigitChars_ten_toDigits]), Nat.ofDigitChars_ten_toDigits]
    rw [hdigits] at hall hgather ⊢
    have hfirst := hall d List.mem_cons_self
    simp only [List.cons_append, List.head?_cons, hfirst, Bool.not_true, Bool.false_eq_true,
      if_false]
    refine yields_bind (yields_digits hall h) ?_
    rw [hgather]
    exact yields_finish h

end numbers

end RefactorAudit.Json
