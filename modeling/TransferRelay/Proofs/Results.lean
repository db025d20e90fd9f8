/-!
# Results that may be faults

Facts about a computation that ends in a result or a fault: how it goes on behind a result
(`ok_bind`), and what its end says of its first part (`exists_of_bind_eq_ok`,
`error_or_exists_of_bind_eq_error`, `exists_of_map_eq_ok`). `EndAlike` compares the ends of two
computations.
-/

namespace TransferRelay

variable {ε α β : Type}

theorem ok_bind (a : α) (f : α → Except ε β) : ((.ok a : Except ε α) >>= f) = f a := rfl

/-- A computation of two parts that has a result has one after its first part. -/
theorem exists_of_bind_eq_ok {x : Except ε α} {f : α → Except ε β} {b : β}
    (h : (x >>= f) = .ok b) : ∃ a, x = .ok a ∧ f a = .ok b := by
  cases x with
  | error e => cases h
  | ok a => exact ⟨a, rfl, h⟩

/-- A computation of two parts that fails does so in its first part or in its second. -/
theorem error_or_exists_of_bind_eq_error {x : Except ε α} {f : α → Except ε β} {e : ε}
    (h : (x >>= f) = .error e) : x = .error e ∨ ∃ a, x = .ok a ∧ f a = .error e := by
  cases x with
  | error e' => exact .inl (congrArg _ (Except.error.inj h))
  | ok a => exact .inr ⟨a, rfl, h⟩

/-- A result that is made of another comes from that other. -/
theorem exists_of_map_eq_ok {x : Except ε α} {f : α → β} {b : β} (h : x.map f = .ok b) :
    ∃ a, x = .ok a ∧ f a = b := by
  cases x with
  | error e => cases h
  | ok a => exact ⟨a, rfl, Except.ok.inj h⟩

/-! ## Two computations -/

/-- Two computations end alike: both in a fault or both in a result, and so related. -/
inductive EndAlike {ε' β : Type} (E : ε → ε' → Prop) (R : α → β → Prop) :
    Except ε α → Except ε' β → Prop
  | error {e : ε} {e' : ε'} (faults : E e e') : EndAlike E R (.error e) (.error e')
  | ok {a : α} {b : β} (results : R a b) : EndAlike E R (.ok a) (.ok b)

theorem EndAlike.map {ε' α' β' : Type} {E : ε → ε' → Prop} {R : α → β → Prop}
    {R' : α' → β' → Prop} {x : Except ε α} {y : Except ε' β} (h : EndAlike E R x y) {f : α → α'}
    {g : β → β'} (hfg : ∀ a b, R a b → R' (f a) (g b)) :
    EndAlike E R' (x.map f) (y.map g) := by
  cases h with
  | error faults => exact .error faults
  | ok results => exact .ok (hfg _ _ results)

end TransferRelay
