import TransferRelay.Proofs.Json.Grammar
import TransferRelay.Proofs.Amount.Numeral

/-!
# Numerals and their numbers

A numeral is read character by character into its parts: `pushes_numeralText`. It is a natural
number exactly if its text is digits and nothing else, of a number that 64 bits hold:
`toNat?_of_numeralText`.
-/

namespace TransferRelay.Json

namespace Numeral

/-- Characters lead from one numeral under way to another. -/
inductive Pushes : Stage → Numeral → List Char → Stage → Numeral → Prop
  | nil {stage : Stage} {n : Numeral} : Pushes stage n [] stage n
  | cons {stage stage' stage'' : Stage} {n n' n'' : Numeral} {c : Char} {cs : List Char}
      (first : n.push stage c = .more stage' n') (rest : Pushes stage' n' cs stage'' n'') :
      Pushes stage n (c :: cs) stage'' n''

variable {stage stage' stage'' : Stage} {n n' n'' : Numeral} {cs cs' : List Char} {ds : List Nat}

theorem Pushes.append (h : Pushes stage n cs stage' n') (h' : Pushes stage' n' cs' stage'' n'') :
    Pushes stage n (cs ++ cs') stage'' n'' := by
  induction h with
  | nil => exact h'
  | cons first _ ih => exact .cons first (ih h')

/-! ## Digits -/

theorem push_integer {c : Char} {d : Nat} (value : Text.digitOf? 10 c = some d) (n : Numeral) :
    n.push .integer c = .more .integer { n with integer := d :: n.integer } := by
  simp only [push, value]

theorem push_fraction {c : Char} {d : Nat} (value : Text.digitOf? 10 c = some d) (n : Numeral) :
    n.push .fraction c = .more .fraction { n with fraction := d :: n.fraction } := by
  simp only [push, value]

theorem push_point {c : Char} {d : Nat} (value : Text.digitOf? 10 c = some d) (n : Numeral) :
    n.push .point c = .more .fraction { n with fraction := [d] } := by
  simp only [push, value]

theorem pushes_integer (h : Text.Digits 10 cs ds) (n : Numeral) :
    Pushes .integer n cs .integer { n with integer := ds.reverse ++ n.integer } := by
  induction h generalizing n with
  | nil => exact .nil
  | cons value _ ih =>
    refine .cons (push_integer value n) ?_
    simpa using ih { n with integer := _ :: n.integer }

theorem pushes_fraction (h : Text.Digits 10 cs ds) (n : Numeral) :
    Pushes .fraction n cs .fraction { n with fraction := ds.reverse ++ n.fraction } := by
  induction h generalizing n with
  | nil => exact .nil
  | cons value _ ih =>
    refine .cons (push_fraction value n) ?_
    simpa using ih { n with fraction := _ :: n.fraction }

/-- One digit more of an exponent of value `high`. Only those up to the greatest are told apart. -/
theorem pushExponent_eq {high d : Nat} (before : n.exponent.getD 0 = min high (maxExponent + 1))
    (held : high * 10 + d ≤ maxExponent ∨ n.exponentNegative = true ∨ n.isZero = true) :
    n.pushExponent d =
      .more .exponent { n with exponent := some (min (high * 10 + d) (maxExponent + 1)) } := by
  rw [pushExponent, before]
  by_cases hnext : high * 10 + d ≤ maxExponent
  · have hhigh : min high (maxExponent + 1) = high := Nat.min_eq_left (by omega)
    rw [hhigh, if_pos hnext, Nat.min_eq_left (Nat.le_succ_of_le hnext)]
  · -- beyond the greatest exponent it stays one more than that, whatever digits follow
    have hbeyond : ¬min high (maxExponent + 1) * 10 + d ≤ maxExponent := by omega
    have hkept : (n.exponentNegative || maxExponent < min high (maxExponent + 1) || n.isZero) =
        true := by
      rcases held with held | held | held
      · exact absurd held hnext
      · rw [held]
        rfl
      · rw [held, Bool.or_true]
    rw [if_neg hbeyond, if_pos hkept, Nat.min_eq_right (by omega)]

theorem push_of_exponent {c : Char} {d : Nat} (value : Text.digitOf? 10 c = some d)
    (h : stage = .mark ∨ stage = .exponentSign ∨ stage = .exponent) :
    n.push stage c = n.pushExponent d := by
  rcases h with rfl | rfl | rfl <;> simp only [push, value]

theorem pushes_exponent (h : Text.Digits 10 cs ds) {high : Nat} (n : Numeral)
    (place : stage = .mark ∨ stage = .exponentSign ∨ stage = .exponent)
    (before : n.exponent.getD 0 = min high (maxExponent + 1)) (nonempty : ds ≠ [])
    (held : Text.behind 10 high ds ≤ maxExponent ∨ n.exponentNegative = true ∨ n.isZero = true) :
    Pushes stage n cs .exponent
      { n with exponent := some (min (Text.behind 10 high ds) (maxExponent + 1)) } := by
  induction h generalizing n high stage with
  | nil => exact absurd rfl nonempty
  | @cons c d cs ds value rest ih =>
    have hle : high * 10 + d ≤ Text.behind 10 (high * 10 + d) ds := Text.le_behind (by decide) _ _
    have hfirst := (push_of_exponent (n := n) value place).trans
      (pushExponent_eq (d := d) before (held.imp_left (Nat.le_trans hle)))
    refine .cons hfirst ?_
    cases rest with
    | nil => exact .nil
    | cons value' rest' =>
      exact ih { n with exponent := some (min (high * 10 + d) (maxExponent + 1)) }
        (.inr (.inr rfl)) rfl (List.cons_ne_nil _ _) held

/-! ## Parts -/

theorem pushes_integerText {cs : List Char} {ds : List Nat} (h : IntegerText ds cs) (n : Numeral) :
    ∃ stage, (stage = .zero ∨ stage = .integer) ∧
      Pushes .sign n cs stage { n with integer := ds.reverse } := by
  cases h with
  | zero => exact ⟨.zero, .inl rfl, .cons rfl .nil⟩
  | @digits c cs d ds first lead rest =>
    have hfirst : n.push .sign c = .more .integer { n with integer := [d] } := by
      cases d with
      | zero => exact absurd rfl lead
      | succ d => simp only [push, first]
    refine ⟨.integer, .inr rfl, .cons hfirst ?_⟩
    simpa using pushes_integer rest { n with integer := [d] }

theorem pushes_fractionText {cs : List Char} {ds : List Nat} (h : FractionText ds cs) (n : Numeral)
    (start : n.fraction = []) (place : stage = .zero ∨ stage = .integer) :
    ∃ stage', (stage' = .zero ∨ stage' = .integer ∨ stage' = .fraction) ∧
      Pushes stage n cs stage' { n with fraction := ds.reverse } := by
  cases h with
  | none =>
    refine ⟨stage, place.imp_right .inl, ?_⟩
    rw [List.reverse_nil, ← start]
    exact .nil
  | digits digits nonempty =>
    have hpoint : n.push stage '.' = .more .point n := by
      rcases place with rfl | rfl <;> rfl
    refine ⟨.fraction, .inr (.inr rfl), .cons hpoint ?_⟩
    cases digits with
    | nil => exact absurd rfl nonempty
    | @cons c d cs ds value rest =>
      refine .cons (push_point value n) ?_
      simpa using pushes_fraction rest { n with fraction := [d] }

theorem pushes_exponentText {cs : List Char} {m : Numeral} (h : ExponentText m cs)
    (n : Numeral) (start : n.exponentNegative = false ∧ n.exponent = none)
    (zero : n.isZero = m.isZero)
    (place : stage = .zero ∨ stage = .integer ∨ stage = .fraction) :
    ∃ stage', stage'.complete = true ∧ Pushes stage n cs stage'
      { n with exponentNegative := m.exponentNegative, exponent := m.exponent } := by
  cases h with
  | none sign absent =>
    refine ⟨stage, by rcases place with rfl | rfl | rfl <;> rfl, ?_⟩
    rw [sign, absent, ← start.1, ← start.2]
    exact .nil
  | digits marked signed digits nonempty held value =>
    have hmark : ∀ mark, (mark = 'e' ∨ mark = 'E') → n.push stage mark = .more .mark n := by
      rintro mark (rfl | rfl) <;> rcases place with rfl | rfl | rfl <;> rfl
    have hbefore : n.exponent.getD 0 = min 0 (maxExponent + 1) := by
      rw [start.2]
      rfl
    refine ⟨.exponent, rfl, .cons (hmark _ marked) ?_⟩
    rw [value]
    generalize m.exponentNegative = negative at signed held
    rw [← zero] at held
    cases signed with
    | none =>
      have h := pushes_exponent digits n (.inl rfl) hbefore nonempty
        (by rw [start.1]; exact held)
      rw [← start.1]
      exact h
    | plus =>
      have h := pushes_exponent digits n (.inr (.inl rfl)) hbefore nonempty
        (by rw [start.1]; exact held)
      rw [← start.1]
      exact .cons rfl h
    | minus =>
      exact .cons rfl (pushes_exponent digits { n with exponentNegative := true } (.inr (.inl rfl))
        hbefore nonempty held)

theorem inOrder_inOrder (n : Numeral) : n.inOrder.inOrder = n := by
  simp only [inOrder, List.reverse_reverse]

/-- A numeral is read into its parts, behind its sign. -/
theorem pushes_numeralText {cs : List Char} (h : NumeralText n cs) :
    ∃ sign body stage, cs = sign ++ body ∧ SignText n.negative sign ∧ stage.complete = true ∧
      Pushes .sign (.start n.negative) body stage n.inOrder := by
  obtain ⟨sign, integer, fraction, exponent⟩ := h
  obtain ⟨stage₁, place₁, first⟩ := pushes_integerText integer (.start n.negative)
  obtain ⟨stage₂, place₂, second⟩ := pushes_fractionText fraction
    { Numeral.start n.negative with integer := n.integer.reverse } rfl place₁
  have hzero : Numeral.isZero { Numeral.start n.negative with
      integer := n.integer.reverse, fraction := n.fraction.reverse } = n.isZero := by
    simp only [isZero, List.all_reverse]
  obtain ⟨stage₃, complete, third⟩ := pushes_exponentText exponent
    { Numeral.start n.negative with integer := n.integer.reverse, fraction := n.fraction.reverse }
    ⟨rfl, rfl⟩ hzero place₂
  exact ⟨_, _, stage₃, rfl, sign, complete, first.append (second.append third)⟩

end Numeral

/-! ## Whole numbers -/

namespace Number

theorem collect_eq_nil_iff {high m : Nat} {ds : List Nat} (fits : high < Nat.pow 2 64) :
    collect high ds = (m, []) ↔ Text.behind 10 high ds = m ∧ m < Nat.pow 2 64 := by
  induction ds generalizing high with
  | nil =>
    constructor
    · intro h
      cases h
      exact ⟨rfl, fits⟩
    · rintro ⟨rfl, -⟩
      rfl
  | cons d ds ih =>
    rw [collect, Text.behind_cons]
    by_cases hnext : high * 10 + d < Nat.pow 2 64
    · rw [if_pos hnext, ih hnext]
    · rw [if_neg hnext]
      refine ⟨nofun, ?_⟩
      rintro ⟨rfl, hm⟩
      -- what is collected so far is no more than the whole
      exact absurd (Nat.lt_of_le_of_lt (Text.le_behind (by decide) _ ds) hm) hnext

theorem toNat?_of_doubleOf {n : Numeral} {x : Number} (h : doubleOf n = some x) :
    x.toNat? = none := by
  unfold doubleOf at h
  obtain ⟨_, -, h⟩ := Option.bind_eq_some_iff.mp h
  obtain ⟨_, -, rfl⟩ := Option.map_eq_some_iff.mp h
  rfl

theorem toNat?_wholeOf_false {m : Nat} (fits : m < Nat.pow 2 64) :
    ∃ x, wholeOf false m = some x ∧ x.toNat? = some m := by
  have hm : m < 18446744073709551616 := fits
  have hrange : -0x8000000000000000 ≤ (m : Int) ∧ (m : Int) < 0x10000000000000000 := by omega
  refine ⟨.whole m hrange, ?_, by simp [toNat?]⟩
  simp only [wholeOf, Bool.false_eq_true, if_false]
  rw [dif_pos hrange]

theorem toNat?_wholeOf_true {m : Nat} {x : Number} (pos : m ≠ 0) (h : wholeOf true m = some x) :
    x.toNat? = none := by
  obtain ⟨hrange, hx⟩ := Option.dite_none_right_eq_some.mp h
  cases hx
  have hneg : ¬(0 : Int) ≤ -m := by omega
  exact if_neg hneg

variable {n : Numeral} {x : Number}

/-- A numeral with a point or an exponent is a double. -/
theorem ofNumeral?_of_parts (parts : ¬(n.fraction = [] ∧ n.exponent = none)) :
    ofNumeral? n = doubleOf n := by
  refine if_neg fun h => parts ?_
  obtain ⟨hfraction, hexponent⟩ := (Bool.and_eq_true _ _).mp h
  exact ⟨List.isEmpty_iff.mp hfraction, Option.isNone_iff_eq_none.mp hexponent⟩

/-- A numeral with a sign is no natural number, not even if it is a zero. -/
theorem toNat?_of_negative (h : ofNumeral? n = some x) (negative : n.negative = true) :
    x.toNat? = none := by
  simp only [ofNumeral?, negative, Bool.true_and, decide_eq_true_eq] at h
  split at h
  · split at h
    · split at h
      · cases h
        rfl
      · rename_i pos
        split at h
        · rename_i hwhole
          cases h
          exact toNat?_wholeOf_true pos hwhole
        · exact toNat?_of_doubleOf h
    · exact toNat?_of_doubleOf h
  · exact toNat?_of_doubleOf h

/-- A numeral of digits only is their number, if 64 bits hold it. -/
theorem toNat?_of_digits (h : ofNumeral? n = some x)
    (plain : n.negative = false ∧ n.fraction = [] ∧ n.exponent = none) {k : Nat} :
    x.toNat? = some k ↔ Text.ofDigits 10 n.integer = k ∧ k < Nat.pow 2 64 := by
  obtain ⟨hsign, hfraction, hexponent⟩ := plain
  obtain ⟨⟨m, surplus⟩, hcollect⟩ : ∃ c, collect 0 n.integer = c := ⟨_, rfl⟩
  have hparts : (n.fraction.isEmpty && n.exponent.isNone) = true := by
    rw [hfraction, hexponent]
    rfl
  rw [ofNumeral?, if_pos hparts, hcollect] at h
  cases surplus with
  | nil =>
    obtain ⟨hvalue, hm⟩ := (collect_eq_nil_iff (Nat.pow_pos Nat.two_pos)).mp hcollect
    obtain ⟨y, hy, hnat⟩ := toNat?_wholeOf_false hm
    simp only [hsign, Bool.false_and, Bool.false_eq_true, if_false, hy, Option.some.injEq] at h
    subst h
    rw [hnat, Option.some.injEq]
    constructor
    · rintro rfl
      exact ⟨hvalue, hm⟩
    · rintro ⟨hk, -⟩
      exact hvalue.symm.trans hk
  | cons d surplus =>
    -- digits are left over, so their number is too large
    rw [toNat?_of_doubleOf h]
    refine ⟨nofun, fun hk => ?_⟩
    cases hcollect.symm.trans ((collect_eq_nil_iff (Nat.pow_pos Nat.two_pos)).mpr hk)

/-- A numeral is a natural number if it has digits only, and 64 bits hold their number. -/
theorem toNat?_ofNumeral? (h : ofNumeral? n = some x) {k : Nat} :
    x.toNat? = some k ↔ (n.negative = false ∧ n.fraction = [] ∧ n.exponent = none) ∧
      Text.ofDigits 10 n.integer = k ∧ k < Nat.pow 2 64 := by
  by_cases plain : n.negative = false ∧ n.fraction = [] ∧ n.exponent = none
  · rw [toNat?_of_digits h plain, and_iff_right plain]
  · have hnone : x.toNat? = none := by
      cases hsign : n.negative with
      | true => exact toNat?_of_negative h hsign
      | false =>
        rw [ofNumeral?_of_parts fun parts => plain ⟨hsign, parts⟩] at h
        exact toNat?_of_doubleOf h
    rw [hnone]
    exact ⟨nofun, fun hk => absurd hk.1 plain⟩

end Number

/-! ## Texts of natural numbers -/

theorem IntegerText.digits_of {ds : List Nat} {cs : List Char} (h : IntegerText ds cs) :
    Text.Digits 10 cs ds := by
  cases h with
  | zero => exact .cons rfl .nil
  | digits first _ rest => exact .cons first rest

/-- A numeral whose text is digits has no sign, no point and no exponent, and the converse. -/
theorem NumeralText.digits_iff {n : Numeral} {cs : List Char} {ds : List Nat}
    (h : NumeralText n cs) :
    Text.Digits 10 cs ds ↔
      (n.negative = false ∧ n.fraction = [] ∧ n.exponent = none) ∧ n.integer = ds := by
  obtain @⟨cs₁, cs₂, cs₃, cs₄, sign, integer, fraction, exponent⟩ := h
  constructor
  · intro digits
    have noDigit : ∀ {c : Char}, Text.isDigitOf 10 c = false → c ∉ cs₁ ++ (cs₂ ++ (cs₃ ++ cs₄)) :=
      fun hc hmem => Bool.eq_false_iff.mp hc (digits.isDigitOf _ hmem)
    have hsign : n.negative = false ∧ cs₁ = [] := by
      cases hneg : n.negative with
      | false =>
        rw [hneg] at sign
        cases sign
        exact ⟨rfl, rfl⟩
      | true =>
        rw [hneg] at sign
        cases sign
        exact absurd List.mem_cons_self (noDigit (c := '-') (by decide))
    have hfraction : n.fraction = [] ∧ cs₃ = [] := by
      generalize n.fraction = fs at fraction
      cases fraction with
      | none => exact ⟨rfl, rfl⟩
      | digits _ _ => exact absurd (by simp) (noDigit (c := '.') (by decide))
    have hexponent : n.exponent = none ∧ cs₄ = [] := by
      cases exponent with
      | none _ absent => exact ⟨absent, rfl⟩
      | digits marked _ _ _ _ _ =>
        rcases marked with rfl | rfl
        · exact absurd (by simp) (noDigit (c := 'e') (by decide))
        · exact absurd (by simp) (noDigit (c := 'E') (by decide))
    obtain ⟨⟨hneg, rfl⟩, ⟨hfrac, rfl⟩, ⟨hexp, rfl⟩⟩ := hsign, hfraction, hexponent
    rw [List.nil_append, List.append_nil, List.append_nil] at digits
    exact ⟨⟨hneg, hfrac, hexp⟩, integer.digits_of.filterMap.symm.trans digits.filterMap⟩
  · rintro ⟨⟨hneg, hfrac, hexp⟩, rfl⟩
    rw [hneg] at sign
    rw [hfrac] at fraction
    cases sign
    cases fraction with
    | digits _ nonempty => exact absurd rfl nonempty
    | none =>
      cases exponent with
      | digits _ _ _ _ _ value => cases hexp.symm.trans value
      | none => simpa using integer.digits_of

/-- What a numeral is as a natural number shows in its text: it is digits, of a number that 64 bits
hold. -/
theorem toNat?_of_numeralText {n : Numeral} {cs : List Char} {x : Number} (h : NumeralText n cs)
    (value : Number.ofNumeral? n = some x) {k : Nat} :
    x.toNat? = some k ↔
      ∃ ds, Text.Digits 10 cs ds ∧ Text.ofDigits 10 ds = k ∧ k < Nat.pow 2 64 := by
  simp only [Number.toNat?_ofNumeral? value, h.digits_iff]
  constructor
  · rintro ⟨plain, hk⟩
    exact ⟨n.integer, ⟨plain, rfl⟩, hk⟩
  · rintro ⟨_, ⟨plain, rfl⟩, hk⟩
    exact ⟨plain, hk⟩

end TransferRelay.Json
