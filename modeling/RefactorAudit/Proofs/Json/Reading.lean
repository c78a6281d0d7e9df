-- SUMMARY: The JSON reader gets a value back from every text that stands for it.
import RefactorAudit.Proofs.Json.Token
import Mathlib.Data.List.Forall2

/-!
# Reading spelled values

A shape reads a value if it yields it from every spelling of it. The laws of lists, maps and records
build on the ones of their items; the text that is left bounds the steps that a reader may take.
-/

namespace RefactorAudit.Json

/-! ## Brackets and commas -/

section brackets

variable {first : Bool} {before blanks text rest : List Char}

/-- A text that begins like an item of a list. -/
def StartsItem (text : List Char) : Prop :=
  ∃ c rest, text = c :: rest ∧ ReadM.isSpace c = false ∧ c ≠ ']'

theorem StartsItem.append (h : StartsItem text) : StartsItem (text ++ rest) := by
  obtain ⟨c, tail, rfl, hspace, hend⟩ := h
  exact ⟨c, tail ++ rest, rfl, hspace, hend⟩

theorem opens_cons {c : Char} (h : ReadM.isSpace c = false) : Opens (c :: rest) := ⟨c, rest, rfl, h⟩

theorem yields_nextItem (hbefore : Separates first before) (htext : StartsItem text) :
    Yields (ReadM.nextItem first) (before ++ text) true text := by
  obtain ⟨c, tail, rfl, hspace, hend⟩ := htext
  cases hbefore with
  | first hblanks =>
    refine yields_bind (yields_skipBlanks hblanks (.inr (opens_cons hspace))) ?_
    simp only [List.head?_cons]
    exact yields_pure _ _
  | @comma before after hbefore hafter =>
    rw [List.append_assoc, List.cons_append]
    refine yields_bind (yields_skipBlanks hbefore (.inr (opens_cons rfl))) ?_
    refine yields_bind (yields_eat _ _) ?_
    refine yields_bind (yields_skipBlanks hafter (.inr (opens_cons hspace))) ?_
    simp only [List.head?_cons]
    exact yields_pure _ _

theorem yields_nextItem_end (hblanks : Blank blanks) :
    Yields (ReadM.nextItem first) (blanks ++ ']' :: rest) false (']' :: rest) :=
  yields_bind (yields_skipBlanks hblanks (.inr (opens_cons rfl))) (yields_pure _ _)

theorem yields_nextKey (hbefore : Separates first before) :
    Yields (ReadM.nextKey first) (before ++ '"' :: rest) true ('"' :: rest) := by
  cases hbefore with
  | first hblanks =>
    exact yields_bind (yields_skipBlanks hblanks (.inr (opens_cons rfl))) (yields_pure _ _)
  | @comma before after hbefore hafter =>
    rw [List.append_assoc, List.cons_append]
    refine yields_bind (yields_skipBlanks hbefore (.inr (opens_cons rfl))) ?_
    refine yields_bind (yields_eat _ _) ?_
    exact yields_bind (yields_skipBlanks hafter (.inr (opens_cons rfl))) (yields_pure _ _)

theorem yields_nextKey_end (hblanks : Blank blanks) :
    Yields (ReadM.nextKey first) (blanks ++ '\x7d' :: rest) false ('\x7d' :: rest) :=
  yields_bind (yields_skipBlanks hblanks (.inr (opens_cons rfl))) (yields_pure _ _)

theorem yields_key {name : String} {body : List Char} (h : SpellsChars name.toList body) :
    Yields ReadM.key ('"' :: (body ++ '"' :: rest)) name rest :=
  yields_bind (yields_eat _ _) (yields_string h)

theorem yields_colon (hblanks : Blank blanks) :
    Yields ReadM.colon (blanks ++ ':' :: rest) () rest :=
  yields_bind (yields_skipBlanks hblanks (.inr (opens_cons rfl))) (yields_eat _ _)

theorem yields_listEnd : Yields ReadM.listEnd (']' :: rest) () rest :=
  yields_bind (yields_skipBlanks blank_nil (.inr (opens_cons rfl))) (yields_eat _ _)

theorem yields_objectEnd : Yields ReadM.objectEnd ('\x7d' :: rest) () rest :=
  yields_bind (yields_skipBlanks blank_nil (.inr (opens_cons rfl))) (yields_eat _ _)

end brackets

/-! ## Values -/

/-- At a depth of nesting, `shape` reads every text of `v` as `w`: `v` has the fields of objects in
the order of the text, `w` has them in order of their names. -/
structure Reads (shape : Shape) (depth : Nat) (v w : Value) : Prop where
  starts : ∀ text, Spells v text → StartsItem text
  yields : ∀ text fuel blanks rest, Spells v text → text.length < fuel → Blank blanks → Ends rest →
    Yields (ReadM.value fuel depth shape) (blanks ++ (text ++ rest)) w rest

section values

variable {item shape : Shape} {depth fuel n : Nat} {first : Bool} {text rest : List Char}

theorem toList_text_int (n : Nat) : (Number.text (.int n)).toList = Nat.toDigits 10 n :=
  Nat.toList_repr

theorem reads_natural {what : String} {limit : Nat} (hlimit : n ≤ limit)
    (hwhole : n ≤ ReadM.wholeLimit) :
    Reads (.natural what limit) depth (.ofNat n) (.ofNat n) := by
  obtain ⟨d, digits, hdigits⟩ := List.exists_cons_of_ne_nil (Nat.toDigits_ne_nil (n := n) (b := 10))
  have hd : d.isDigit = true := Text.isDigit_toDigits (n := n) (hdigits ▸ List.mem_cons_self)
  have hspace : ReadM.isSpace d = false := by
    rw [Bool.eq_false_iff]
    intro hspace
    simp only [ReadM.isSpace, Bool.or_eq_true, decide_eq_true_eq, or_assoc] at hspace
    rcases hspace with rfl | rfl | rfl | rfl <;> exact absurd hd (by decide)
  have htext : ∀ text, Spells (.ofNat n) text → text = Nat.toDigits 10 n := by
    intro text h
    cases h with
    | number _ => exact toList_text_int n
  refine ⟨?_, ?_⟩
  · intro text h
    rw [htext text h, hdigits]
    refine ⟨d, digits, rfl, hspace, ?_⟩
    rintro rfl
    exact absurd hd (by decide)
  · intro text fuel blanks rest h hfuel hblanks hrest
    obtain rfl := htext text h
    obtain ⟨fuel, rfl⟩ := Nat.exists_eq_succ_of_ne_zero (Nat.ne_zero_of_lt hfuel)
    have hread := yields_number hwhole hrest
    have hminus : d ≠ '-' := by
      rintro rfl
      exact absurd hd (by decide)
    rw [hdigits] at hread ⊢
    rw [ReadM.value]
    refine yields_bind (yields_skipBlanks hblanks (.inr (opens_cons hspace))) ?_
    simp only [List.cons_append, List.head?_cons, hminus, hd, if_true, if_false]
    have hfit : (Number.int n).fit (.natural what limit) = .ok (.ofNat n) :=
      if_pos ⟨Int.natCast_nonneg n, Int.ofNat_le.2 hlimit⟩
    refine yields_placed (yields_bind hread ?_)
    rw [hfit]
    exact yields_pure _ _

theorem Separates.ends {before : List Char} (h : Separates false before) :
    Ends (before ++ rest) := by
  cases h with
  | comma hbefore _ =>
    rw [List.append_assoc]
    exact ends_append hbefore (ends_cons (.inr (.inl rfl)))

theorem SpellsItems.ends {items : List Value} (h : SpellsItems false items text) :
    Ends (text ++ rest) := by
  cases h with
  | nil hblanks =>
    rw [List.append_assoc]
    exact ends_append hblanks (ends_cons (.inr (.inr (.inl rfl))))
  | cons hbefore _ _ =>
    rw [List.append_assoc]
    exact hbefore.ends

theorem SpellsItems.length_pos {items : List Value} (h : SpellsItems false items text) :
    0 < text.length := by
  cases h with
  | nil _ => simp
  | cons hbefore _ _ =>
    cases hbefore with
    | comma _ _ =>
      simp only [List.length_append, List.length_cons]
      omega

theorem SpellsFields.ends {fields : List (String × Value)} (h : SpellsFields false fields text) :
    Ends (text ++ rest) := by
  cases h with
  | nil hblanks =>
    rw [List.append_assoc]
    exact ends_append hblanks (ends_cons (.inr (.inr (.inr rfl))))
  | cons hbefore _ _ _ _ _ =>
    rw [List.append_assoc]
    exact hbefore.ends

/-- The items of a list are read one by one. -/
theorem yields_items {items read : List Value} (hitems : List.Forall₂ (Reads item depth) items read)
    (h : SpellsItems first items text) (hfuel : text.length < fuel) :
    Yields (ReadM.items fuel depth item first) (text ++ rest) read (']' :: rest) := by
  induction hitems generalizing first text fuel with
  | nil =>
    obtain ⟨fuel, rfl⟩ := Nat.exists_eq_succ_of_ne_zero (Nat.ne_zero_of_lt hfuel)
    cases h with
    | nil hblanks =>
      rw [List.append_assoc, ReadM.items]
      exact yields_bind (yields_nextItem_end hblanks) (yields_pure _ _)
  | @cons v w items read hv _ ih =>
    obtain ⟨fuel, rfl⟩ := Nat.exists_eq_succ_of_ne_zero (Nat.ne_zero_of_lt hfuel)
    cases h with
    | @cons _ before _ text _ more hbefore htext hmore =>
      have hstarts := hv.starts text htext
      obtain ⟨c, tail, hcons, -⟩ := hstarts
      have hpos := hmore.length_pos
      simp only [List.length_append, hcons, List.length_cons] at hfuel
      rw [List.append_assoc, List.append_assoc, ReadM.items]
      refine yields_bind (yields_nextItem hbefore (hv.starts text htext).append) ?_
      refine yields_bind (hv.yields text fuel [] (more ++ rest) htext ?_ blank_nil hmore.ends) ?_
      · rw [hcons, List.length_cons]
        omega
      · exact yields_bind (ih hmore (by omega)) (yields_pure _ _)

/-- A container is read by what follows its opening bracket, one level deeper. -/
theorem yields_opened {α : Type} {m : ReadM α} {a : α} {c : Char}
    (hdepth : depth < ReadM.depthLimit) (hm : Yields m text a rest) :
    Yields (ReadM.placed do ReadM.deeper depth; ReadM.eat; m) (c :: text) a rest :=
  yields_placed (yields_bind (yields_deeper hdepth) (yields_bind (yields_eat _ _) hm))

theorem reads_list {items read : List Value} (hdepth : depth < ReadM.depthLimit)
    (hitems : List.Forall₂ (Reads item (depth + 1)) items read) :
    Reads (.list item) depth (.array items) (.array read) := by
  refine ⟨?_, ?_⟩
  · intro text h
    cases h with
    | array _ => exact ⟨'[', _, rfl, rfl, by decide⟩
  · intro text fuel blanks rest h hfuel hblanks hrest
    obtain ⟨fuel, rfl⟩ := Nat.exists_eq_succ_of_ne_zero (Nat.ne_zero_of_lt hfuel)
    cases h with
    | array h =>
      rw [ReadM.value, List.cons_append]
      refine yields_bind (yields_skipBlanks hblanks (.inr (opens_cons rfl))) ?_
      refine yields_opened hdepth ?_
      have hread : Yields (ReadM.items fuel (depth + 1) item true) _ read (']' :: rest) :=
        yields_items hitems h (Nat.lt_of_succ_lt_succ hfuel)
      exact yields_bind (yields_enclosed hread yields_listEnd) (yields_pure _ _)

/-- A shape reads an object if it yields it from the fields that follow the opening brace. -/
theorem reads_object {fields : List (String × Value)} {w : Value}
    (h : ∀ text fuel blanks rest, SpellsFields true fields text → text.length < fuel →
      Blank blanks → Ends rest →
      Yields (ReadM.value (fuel + 1) depth shape) (blanks ++ '\x7b' :: (text ++ rest)) w rest) :
    Reads shape depth (.object fields) w := by
  refine ⟨?_, ?_⟩
  · intro text htext
    cases htext with
    | object _ => exact ⟨'\x7b', _, rfl, rfl, by decide⟩
  · intro text fuel blanks rest htext hfuel hblanks hrest
    obtain ⟨fuel, rfl⟩ := Nat.exists_eq_succ_of_ne_zero (Nat.ne_zero_of_lt hfuel)
    cases htext with
    | object hfields =>
      exact h _ fuel blanks rest hfields (Nat.lt_of_succ_lt_succ hfuel) hblanks hrest

/-- The fields of an object are read one by one. -/
theorem yields_pairs {fields read : List (String × Value)}
    (hfields : List.Forall₂ (fun a b => a.1 = b.1 ∧ Reads item depth a.2 b.2) fields read)
    (h : SpellsFields first fields text) (hfuel : text.length < fuel) :
    Yields (ReadM.pairs fuel depth item first) (text ++ rest) read ('\x7d' :: rest) := by
  induction hfields generalizing first text fuel with
  | nil =>
    obtain ⟨fuel, rfl⟩ := Nat.exists_eq_succ_of_ne_zero (Nat.ne_zero_of_lt hfuel)
    cases h with
    | nil hblanks =>
      rw [List.append_assoc, ReadM.pairs]
      exact yields_bind (yields_nextKey_end hblanks) (yields_pure _ _)
  | @cons a b fields read hab _ ih =>
    obtain ⟨name, w⟩ := b
    obtain ⟨rfl, hv⟩ := hab
    obtain ⟨fuel, rfl⟩ := Nat.exists_eq_succ_of_ne_zero (Nat.ne_zero_of_lt hfuel)
    cases h with
    | @cons _ before name quoted between after v text _ more hbefore hname hbetween hafter htext
        hmore =>
      cases hname with
      | @quoted body hbody =>
        simp only [List.length_append, List.length_cons] at hfuel
        simp only [List.append_assoc, List.cons_append, List.nil_append]
        rw [ReadM.pairs]
        refine yields_bind (yields_nextKey hbefore) (yields_bind (yields_key hbody) ?_)
        refine yields_bind (yields_colon hbetween) ?_
        refine yields_bind (hv.yields text fuel after (more ++ rest) htext (by omega) hafter
          hmore.ends) ?_
        exact yields_bind (ih hmore (by omega)) (yields_pure _ _)

theorem reads_map {fields read : List (String × Value)} (hdepth : depth < ReadM.depthLimit)
    (hfields : List.Forall₂ (fun a b => a.1 = b.1 ∧ Reads item (depth + 1) a.2 b.2) fields read) :
    Reads (.map item) depth (.object fields) (.object (Table.ofList read)) := by
  refine reads_object fun text fuel blanks rest htext hfuel hblanks _ => ?_
  rw [ReadM.value]
  refine yields_bind (yields_skipBlanks hblanks (.inr (opens_cons rfl))) (yields_opened hdepth ?_)
  have hread : Yields (ReadM.pairs fuel (depth + 1) item true) _ read ('\x7d' :: rest) :=
    yields_pairs hfields htext hfuel
  exact yields_bind (yields_enclosed hread yields_objectEnd) (yields_pure _ _)

/-- A field that a record names is read in the shape that the record gives it. -/
def ReadsField (fields : List (String × Bool × Shape)) (depth : Nat)
    (a b : String × Value) : Prop :=
  a.1 = b.1 ∧ ∃ required shape, fields.find? (·.1 = a.1) = some (a.1, required, shape) ∧
    Reads shape depth a.2 b.2

/-- The fields of a record are taken up one by one, as long as none comes twice. -/
theorem yields_known {fields : List (String × Bool × Shape)} {found : Fields}
    {written read : List (String × Value)}
    (hfields : List.Forall₂ (ReadsField fields depth) written read)
    (hnodup : (written.map (·.1)).Nodup)
    (hfresh : ∀ pair ∈ written, found.get? pair.1 = none)
    (hmissing : missingField fields (Table.putAll found read) = none)
    (h : SpellsFields first written text) (hfuel : text.length < fuel) :
    Yields (ReadM.known fuel depth fields found first) (text ++ rest) (Table.putAll found read)
      ('\x7d' :: rest) := by
  induction hfields generalizing first text fuel found with
  | nil =>
    obtain ⟨fuel, rfl⟩ := Nat.exists_eq_succ_of_ne_zero (Nat.ne_zero_of_lt hfuel)
    cases h with
    | nil hblanks =>
      rw [List.append_assoc, ReadM.known]
      refine yields_bind (yields_nextKey_end hblanks) ?_
      have hmissing : missingField fields found = none := hmissing
      simp only [Bool.false_eq_true, if_false, hmissing]
      exact yields_pure _ _
  | @cons a b written read hab _ ih =>
    obtain ⟨name, w⟩ := b
    obtain ⟨rfl, required, shape, hfind, hv⟩ := hab
    obtain ⟨fuel, rfl⟩ := Nat.exists_eq_succ_of_ne_zero (Nat.ne_zero_of_lt hfuel)
    cases h with
    | @cons _ before name quoted between after v text _ more hbefore hname hbetween hafter htext
        hmore =>
      rw [List.map_cons, List.nodup_cons] at hnodup
      have hname' : found.get? name = none := hfresh _ List.mem_cons_self
      have hfresh' : ∀ pair ∈ written, (found.put name w).get? pair.1 = none := by
        intro pair hpair
        rw [Table.get?_put, if_neg]
        · exact hfresh pair (List.mem_cons_of_mem _ hpair)
        · rintro rfl
          exact hnodup.1 (List.mem_map.2 ⟨pair, hpair, rfl⟩)
      cases hname with
      | @quoted body hbody =>
        simp only [List.length_append, List.length_cons] at hfuel
        simp only [List.append_assoc, List.cons_append, List.nil_append]
        rw [ReadM.known]
        refine yields_bind (yields_nextKey hbefore) (yields_bind (yields_key hbody) ?_)
        simp only [hfind, hname', Option.isSome_none, Bool.false_eq_true, if_false]
        refine yields_bind (yields_colon hbetween) ?_
        refine yields_bind (hv.yields text fuel after (more ++ rest) htext (by omega) hafter
          hmore.ends) ?_
        exact ih hnodup.2 hfresh' hmissing hmore (by omega)

theorem reads_record {name : String} {fields : List (String × Bool × Shape)}
    {written read : List (String × Value)} (hdepth : depth < ReadM.depthLimit)
    (hfields : List.Forall₂ (ReadsField fields (depth + 1)) written read)
    (hnodup : (written.map (·.1)).Nodup)
    (hmissing : missingField fields (Table.ofList read) = none) :
    Reads (.record name fields) depth (.object written) (.object (Table.ofList read)) := by
  refine reads_object fun text fuel blanks rest htext hfuel hblanks _ => ?_
  rw [ReadM.value]
  refine yields_bind (yields_skipBlanks hblanks (.inr (opens_cons rfl))) (yields_opened hdepth ?_)
  have hread : Yields (ReadM.known fuel (depth + 1) fields [] true) _ (Table.ofList read)
      ('\x7d' :: rest) := yields_known hfields hnodup (fun _ _ => rfl) hmissing htext hfuel
  exact yields_bind (yields_enclosed hread yields_objectEnd) (yields_pure _ _)

/-- Every text that stands for a value is read as the value that its shape makes of it. -/
theorem readText_eq {shape : Shape} {v w : Value} {text : String} (hreads : Reads shape 0 v w)
    (h : StandsFor text v) : readText shape text = .ok w := by
  obtain ⟨before, inner, after, hbefore, hinner, hafter, htext⟩ := h
  have hends : Ends after := by
    have hafter := ends_append hafter ends_nil
    rwa [List.append_nil] at hafter
  have hfuel : inner.length < 4 * (before ++ (inner ++ after)).length + 8 := by
    simp only [List.length_append]
    omega
  have hblanks : Yields ReadM.skipBlanks after none [] := by
    have hend : Yields ReadM.skipBlanks (after ++ []) none [] := yields_skipBlanks hafter (.inl rfl)
    rwa [List.append_nil] at hend
  have hdocument : Yields (ReadM.document shape) (before ++ (inner ++ after)) w [] := by
    refine yields_get fun offset => ?_
    refine yields_bind (hreads.yields inner _ before after hinner hfuel hbefore hends) ?_
    exact yields_bind hblanks (yields_pure _ _)
  obtain ⟨offset, hresult⟩ := hdocument 0
  have hread : read shape text = .ok w := by
    change (ReadM.document shape { rest := text.toList }).1 = _
    rw [htext, hresult]
  rw [readText, hread]
  rfl

end values

end RefactorAudit.Json
