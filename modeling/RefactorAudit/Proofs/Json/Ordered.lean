-- SUMMARY: The objects in a value that is read are tables in order.
import RefactorAudit.Json.Reader
import RefactorAudit.Proofs.Collection.Canonical
import Mathlib

/-!
# Order of read objects

Whatever text the reader is run on and whatever shape it reads, the objects in the value that it
returns are tables in order of their names, on all levels.
-/

namespace RefactorAudit.Json

variable {α β : Type}

/-- All objects in a value are tables in order. -/
inductive Value.Ordered : Value α → Prop where
  | null : Ordered .null
  | bool (b : Bool) : Ordered (.bool b)
  | number (n : Number α) : Ordered (.number n)
  | string (s : String) : Ordered (.string s)
  | array {items : List (Value α)} : (∀ v ∈ items, v.Ordered) → Ordered (.array items)
  | object {fields : Fields α} : Table.Sorted fields → (∀ field ∈ fields, field.2.Ordered) →
    Ordered (.object fields)

/-- An object built from pairs is in order if their values are. -/
theorem Value.Ordered.ofList {pairs : List (String × Value α)}
    (h : ∀ field ∈ pairs, field.2.Ordered) : Ordered (.object (Table.ofList pairs)) :=
  .object (Table.sorted_ofList pairs) fun field hfield => h field (Table.mem_of_mem_ofList hfield)

theorem Value.Ordered.get? {v field : Value α} {name : String} (h : v.Ordered)
    (hget : v.get? name = some field) : field.Ordered := by
  cases h with
  | object _ hfields => exact hfields _ (Table.mem_of_get? hget)
  | null => exact nomatch hget
  | bool _ => exact nomatch hget
  | number _ => exact nomatch hget
  | string _ => exact nomatch hget
  | array _ => exact nomatch hget

/-! ## What a reader returns -/

/-- Whatever the reader returns on any text satisfies the predicate. -/
def Ensures (m : ReadM α) (P : α → Prop) : Prop := ∀ c a rest, m c = (.ok a, rest) → P a

section ensures

variable {m : ReadM α} {f : α → ReadM β} {P : α → Prop} {Q : β → Prop} {a : α}

theorem ensures_pure (h : P a) : Ensures (pure a) P := by
  intro c b rest heq
  obtain ⟨heq, -⟩ := Prod.mk.inj heq
  exact Except.ok.inj heq ▸ h

theorem ensures_throw (e : Fault) : Ensures (throw e : ReadM α) P :=
  fun _ _ _ heq => nomatch heq

theorem ensures_bind (hm : Ensures m P) (hf : ∀ a, P a → Ensures (f a) Q) :
    Ensures (m >>= f) Q := by
  intro c b rest heq
  simp only [bind, ExceptT.bind, ExceptT.mk, StateT.bind] at heq
  cases hrun : m c with
  | mk result c' =>
    rw [hrun] at heq
    cases result with
    | ok a => exact hf a (hm c a c' hrun) c' b rest heq
    | error e => exact nomatch heq

theorem ensures_then (hf : ∀ a, Ensures (f a) Q) : Ensures (m >>= f) Q := by
  have hm : Ensures m fun _ => True := fun _ _ _ _ => trivial
  exact ensures_bind hm fun a _ => hf a

theorem ensures_fail (p : Problem) : Ensures (ReadM.fail p : ReadM α) P :=
  ensures_then fun _ => ensures_throw _

theorem ensures_failAhead (p : Problem) : Ensures (ReadM.failAhead p : ReadM α) P :=
  ensures_then fun _ => ensures_throw _

theorem ensures_mismatch (how : Mismatch) : Ensures (ReadM.mismatch how : ReadM α) P :=
  ensures_throw _

theorem ensures_placed (hm : Ensures m P) : Ensures (ReadM.placed m) P := by
  intro c a rest heq
  rw [ReadM.placed] at heq
  split at heq
  · exact nomatch heq
  · exact hm c a rest heq

theorem ensures_enclosed {end_ : ReadM Unit} (hm : Ensures m P) :
    Ensures (ReadM.enclosed m end_) P := by
  intro c a rest heq
  cases hrun : m c with
  | mk result c' =>
    cases hend : end_ c' with
    | mk closed c'' =>
      simp only [ReadM.enclosed, hrun, hend] at heq
      cases result with
      | error e => exact nomatch heq
      | ok b =>
        cases closed with
        | error e => exact nomatch heq
        | ok _ =>
          obtain ⟨heq, -⟩ := Prod.mk.inj heq
          exact Except.ok.inj heq ▸ hm c b c' hrun

theorem ensures_liftMismatch {n : Number} {shape : Shape} :
    Ensures (ReadM.liftMismatch (n.fit shape)) Value.Ordered := by
  have hfit : ∀ v, n.fit shape = .ok v → v = .number n := by
    intro v heq
    unfold Number.fit at heq
    split at heq
    · split at heq
      · exact (Except.ok.inj heq).symm
      · exact nomatch heq
    · exact (Except.ok.inj heq).symm
    · exact (Except.ok.inj heq).symm
    · exact nomatch heq
  cases heq : n.fit shape with
  | ok v => exact ensures_pure (hfit v heq ▸ .number n)
  | error how => exact ensures_mismatch how

theorem ensures_wrongType (expected : String) : Ensures (ReadM.wrongType expected : ReadM α) P := by
  refine ensures_placed (ensures_then fun ahead => ?_)
  split
  · exact ensures_then fun _ => ensures_then fun _ => ensures_mismatch _
  · exact ensures_then fun _ => ensures_then fun _ => ensures_mismatch _
  · exact ensures_then fun _ => ensures_then fun _ => ensures_mismatch _
  · exact ensures_then fun _ => ensures_then fun _ => ensures_mismatch _
  · exact ensures_then fun _ => ensures_then fun _ => ensures_mismatch _
  · exact ensures_mismatch _
  · exact ensures_mismatch _
  · split
    · exact ensures_then fun _ => ensures_mismatch _
    · exact ensures_failAhead _
  · exact ensures_failAhead _

end ensures

/-! ## Values -/

/-- The fields found so far are a table in order, and so are the objects in them. -/
def FieldsOrdered (fields : Fields) : Prop :=
  Table.Sorted fields ∧ ∀ field ∈ fields, field.2.Ordered

theorem fieldsOrdered_nil : FieldsOrdered [] := ⟨Table.sorted_nil, fun _ h => nomatch h⟩

theorem FieldsOrdered.put {fields : Fields} {name : String} {v : Value} (h : FieldsOrdered fields)
    (hv : v.Ordered) : FieldsOrdered (fields.put name v) := by
  refine ⟨Table.sorted_put h.1, fun field hfield => ?_⟩
  rcases Table.mem_put hfield with rfl | hfield
  · exact hv
  · exact h.2 field hfield

/-- With this much fuel, every part of the reader returns objects in order only. -/
structure KeepsOrder (fuel : Nat) : Prop where
  value : ∀ depth shape, Ensures (ReadM.value fuel depth shape) Value.Ordered
  items : ∀ depth shape first, Ensures (ReadM.items fuel depth shape first)
    fun items => ∀ v ∈ items, v.Ordered
  pairs : ∀ depth shape first, Ensures (ReadM.pairs fuel depth shape first)
    fun pairs => ∀ field ∈ pairs, field.2.Ordered
  known : ∀ depth fields found first, FieldsOrdered found →
    Ensures (ReadM.known fuel depth fields found first) FieldsOrdered
  inOrder : ∀ depth record fields count index first,
    Ensures (ReadM.inOrder fuel depth record fields count index first)
      fun pairs => ∀ field ∈ pairs, field.2.Ordered

namespace KeepsOrder

variable {fuel : Nat}

theorem array (h : KeepsOrder fuel) (depth : Nat) (shape : Shape) : Ensures
    (do return .array (← ReadM.enclosed (ReadM.items fuel depth shape true) ReadM.listEnd))
    Value.Ordered :=
  ensures_bind (ensures_enclosed (h.items depth shape true)) fun _ h => ensures_pure (.array h)

theorem object (h : KeepsOrder fuel) (depth : Nat) (shape : Shape) : Ensures
    (do return .object (Table.ofList
      (← ReadM.enclosed (ReadM.pairs fuel depth shape true) ReadM.objectEnd)))
    Value.Ordered :=
  ensures_bind (ensures_enclosed (h.pairs depth shape true)) fun _ h => ensures_pure (.ofList h)

theorem value_succ (h : KeepsOrder fuel) (depth : Nat) (shape : Shape) :
    Ensures (ReadM.value (fuel + 1) depth shape) Value.Ordered := by
  rw [ReadM.value]
  refine ensures_then fun ahead => ?_
  cases ahead with
  | none => exact ensures_failAhead _
  | some c =>
    cases shape with
    | any =>
      dsimp only
      split
      · exact ensures_then fun _ => ensures_then fun _ => ensures_pure .null
      · exact ensures_then fun _ => ensures_then fun _ => ensures_pure (.bool true)
      · exact ensures_then fun _ => ensures_then fun _ => ensures_pure (.bool false)
      · exact ensures_then fun _ => ensures_then fun n => ensures_pure (.number n)
      · exact ensures_then fun _ => ensures_then fun s => ensures_pure (.string s)
      · exact ensures_then fun _ => ensures_then fun _ => h.array _ _
      · exact ensures_then fun _ => ensures_then fun _ => h.object _ _
      · split
        · exact ensures_then fun n => ensures_pure (.number n)
        · exact ensures_failAhead _
    | text what =>
      dsimp only
      split
      · exact ensures_then fun _ => ensures_then fun s => ensures_pure (.string s)
      · exact ensures_wrongType _
    | natural what limit =>
      dsimp only
      split
      · exact ensures_placed (ensures_then fun _ => ensures_then fun n => ensures_liftMismatch)
      · split
        · exact ensures_placed (ensures_then fun n => ensures_liftMismatch)
        · exact ensures_wrongType _
    | float =>
      dsimp only
      split
      · exact ensures_placed (ensures_then fun _ => ensures_then fun n => ensures_liftMismatch)
      · split
        · exact ensures_placed (ensures_then fun n => ensures_liftMismatch)
        · exact ensures_wrongType _
    | list item =>
      dsimp only
      split
      · exact ensures_placed (ensures_then fun _ => ensures_then fun _ => h.array _ _)
      · exact ensures_wrongType _
    | map item =>
      dsimp only
      split
      · exact ensures_placed (ensures_then fun _ => ensures_then fun _ => h.object _ _)
      · exact ensures_wrongType _
    | record name fields =>
      dsimp only
      split
      · refine ensures_placed (ensures_then fun _ => ensures_then fun _ => ?_)
        exact ensures_bind (ensures_enclosed (h.inOrder _ _ _ _ _ _))
          fun _ h => ensures_pure (.ofList h)
      · split
        · refine ensures_placed (ensures_then fun _ => ensures_then fun _ => ?_)
          exact ensures_bind (ensures_enclosed (h.known _ _ _ _ fieldsOrdered_nil))
            fun _ h => ensures_pure (.object h.1 h.2)
        · exact ensures_wrongType _
    | nullable item =>
      dsimp only
      split
      · exact ensures_then fun _ => ensures_then fun _ => ensures_pure .null
      · exact h.value depth item

theorem items_succ (h : KeepsOrder fuel) (depth : Nat) (shape : Shape) (first : Bool) :
    Ensures (ReadM.items (fuel + 1) depth shape first) fun items => ∀ v ∈ items, v.Ordered := by
  rw [ReadM.items]
  refine ensures_then fun more => ?_
  split
  · refine ensures_bind (h.value depth shape) fun v hv => ?_
    refine ensures_bind (h.items depth shape false) fun items hitems => ensures_pure ?_
    exact List.forall_mem_cons.2 ⟨hv, hitems⟩
  · exact ensures_pure fun _ h => absurd h List.not_mem_nil

theorem pairs_succ (h : KeepsOrder fuel) (depth : Nat) (shape : Shape) (first : Bool) :
    Ensures (ReadM.pairs (fuel + 1) depth shape first)
      fun pairs => ∀ field ∈ pairs, field.2.Ordered := by
  rw [ReadM.pairs]
  refine ensures_then fun more => ?_
  split
  · refine ensures_then fun name => ensures_then fun _ => ?_
    refine ensures_bind (h.value depth shape) fun v hv => ?_
    refine ensures_bind (h.pairs depth shape false) fun pairs hpairs => ensures_pure ?_
    exact List.forall_mem_cons.2 ⟨hv, hpairs⟩
  · exact ensures_pure fun _ h => absurd h List.not_mem_nil

theorem known_succ (h : KeepsOrder fuel) (depth : Nat) (fields : List (String × Bool × Shape))
    {found : Fields} (first : Bool) (hfound : FieldsOrdered found) :
    Ensures (ReadM.known (fuel + 1) depth fields found first) FieldsOrdered := by
  rw [ReadM.known]
  refine ensures_then fun more => ?_
  split
  · refine ensures_then fun name => ?_
    split
    · next shape _ =>
      split
      · exact ensures_bind (P := fun _ => False) (ensures_mismatch _) fun _ h => h.elim
      · refine ensures_then fun _ => ensures_bind (h.value depth shape) fun v hv => ?_
        exact h.known depth fields (found.put name v) false (hfound.put hv)
    · exact ensures_then fun _ => ensures_then fun _ => ensures_then fun _ =>
        h.known depth fields found false hfound
  · split
    · exact ensures_mismatch _
    · exact ensures_pure hfound

theorem inOrder_succ (h : KeepsOrder fuel) (depth : Nat) (record : String)
    (fields : List (String × Bool × Shape)) (count index : Nat) (first : Bool) :
    Ensures (ReadM.inOrder (fuel + 1) depth record fields count index first)
      fun pairs => ∀ field ∈ pairs, field.2.Ordered := by
  cases fields with
  | nil =>
    rw [ReadM.inOrder]
    · exact ensures_pure fun _ h => absurd h List.not_mem_nil
    · exact Nat.succ_ne_zero fuel
  | cons field rest =>
    obtain ⟨name, required, shape⟩ := field
    rw [ReadM.inOrder]
    refine ensures_then fun more => ?_
    split
    · refine ensures_bind (h.value depth shape) fun v hv => ?_
      refine ensures_bind (h.inOrder depth record rest count (index + 1) false)
        fun pairs hpairs => ensures_pure ?_
      exact List.forall_mem_cons.2 ⟨hv, hpairs⟩
    · split
      · exact ensures_mismatch _
      · exact h.inOrder depth record rest count (index + 1) first

end KeepsOrder

/-- Every part of the reader keeps objects in order. -/
theorem keepsOrder (fuel : Nat) : KeepsOrder fuel := by
  induction fuel with
  | zero =>
    refine ⟨fun _ _ => ?_, fun _ _ _ => ?_, fun _ _ _ => ?_, fun _ _ _ _ _ => ?_,
      fun _ _ _ _ _ _ => ?_⟩
    · rw [ReadM.value]
      exact ensures_fail _
    · rw [ReadM.items]
      exact ensures_fail _
    · rw [ReadM.pairs]
      exact ensures_fail _
    · rw [ReadM.known]
      exact ensures_fail _
    · rw [ReadM.inOrder]
      exact ensures_fail _
  | succ fuel ih =>
    exact ⟨ih.value_succ, ih.items_succ, ih.pairs_succ,
      fun depth fields _ first hfound => ih.known_succ depth fields first hfound, ih.inOrder_succ⟩

/-- A value that is read from a text has its objects in order. -/
theorem ordered_of_readText {shape : Shape} {text : String} {v : Value}
    (h : readText shape text = .ok v) : v.Ordered := by
  have hdocument : Ensures (ReadM.document shape) Value.Ordered := by
    refine ensures_then fun c => ?_
    refine ensures_bind ((keepsOrder _).value 0 shape) fun v hv => ensures_then fun ahead => ?_
    split
    · exact ensures_failAhead _
    · exact ensures_pure hv
  have hread : read shape text = .ok v := by
    rw [readText] at h
    cases hresult : read shape text with
    | ok w => simpa [hresult, Except.mapError] using h
    | error e => simp [hresult, Except.mapError] at h
  exact hdocument _ v _ (Prod.ext hread rfl)

end RefactorAudit.Json
