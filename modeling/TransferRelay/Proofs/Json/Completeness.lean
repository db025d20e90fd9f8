import TransferRelay.Proofs.Json.Numerals
import TransferRelay.Proofs.Results

/-!
# Reading what the grammar spells

Each text is read as the value that it spells: `parse_of_spells`. A reader is at each moment
somewhere inside arrays and objects. What it does with the text of a value there depends on nothing
around it: `Takes` says that it ends up behind the value.
-/

namespace TransferRelay.Json

namespace Reader

variable {read : String → Except Fault Json}

/-! ## Runs -/

/-- In front of `rest`, a text leads from one reader to another. -/
def Leads (read : String → Except Fault Json) (r : Reader) (cs : List Char) (r' : Reader)
    (rest : List Char) : Prop :=
  ∀ p, ∃ p', run read r p (cs ++ rest) = run read r' p' rest

variable {r r' r'' : Reader} {c : Char} {cs cs' rest : List Char}

theorem Leads.refl : Leads read r [] r rest :=
  fun p => ⟨p, rfl⟩

theorem Leads.trans (h : Leads read r cs r' (cs' ++ rest)) (h' : Leads read r' cs' r'' rest) :
    Leads read r (cs ++ cs') r'' rest := by
  intro p
  obtain ⟨p', hp⟩ := h p
  obtain ⟨p'', hp'⟩ := h' p'
  refine ⟨p'', ?_⟩
  rw [List.append_assoc, hp, hp']

theorem Leads.cons (h : ∀ p, step read r p c = .ok r') (h' : Leads read r' cs r'' rest) :
    Leads read r (c :: cs) r'' rest := by
  intro p
  obtain ⟨p', hp⟩ := h' (p.after c)
  refine ⟨p', ?_⟩
  rw [List.cons_append, run, h p]
  exact hp

theorem Leads.step (h : ∀ p, step read r p c = .ok r') : Leads read r [c] r' rest :=
  .cons h .refl

/-! ## Behind values -/

/-- No text that holds a value is expected. -/
def Open (frames : List Frame) : Prop :=
  frames.head? ≠ some .announced

/-- The reader behind a value. -/
def behind (value : Json) : List Frame → Reader
  | [] => .between [] (.nothing value)
  | .item before :: frames => .between frames (.itemEnd (value :: before))
  | .member before name :: frames => .between frames (.memberEnd (Members.insert name value before))
  | .announced :: frames => .between frames (.embeddedEnd value)

variable {value : Json} {frames base : List Frame} {expected : Expected}

theorem afterValue_eq (isOpen : Open frames) (p : Place) :
    afterValue read value p frames = .ok (behind value frames) := by
  match frames, isOpen with
  | [], _ => rfl
  | .item _ :: _, _ => rfl
  | .member _ _ :: _, _ => rfl
  | .announced :: _, isOpen => exact absurd rfl isOpen

theorem exists_behind (value : Json) (frames : List Frame) :
    ∃ base expected, behind value frames = .between base expected := by
  match frames with
  | [] => exact ⟨_, _, rfl⟩
  | .item _ :: _ => exact ⟨_, _, rfl⟩
  | .member _ _ :: _ => exact ⟨_, _, rfl⟩
  | .announced :: _ => exact ⟨_, _, rfl⟩

theorem step_gap (gap : isGap c = true) (p : Place) :
    step read (.between base expected) p c = .ok (.between base expected) := by
  exact if_pos gap

theorem leads_gap (gap : IsGap cs) :
    Leads read (.between base expected) cs (.between base expected) rest := by
  induction cs with
  | nil => exact .refl
  | cons c cs ih =>
    obtain ⟨first, gap⟩ := List.forall_mem_cons.mp gap
    exact .cons (step_gap first) (ih gap)

/-! ## Where values begin -/

/-- A value may begin here, inside of these frames. -/
inductive Awaits : Expected → List Frame → List Frame → Prop
  | value {base : List Frame} : Awaits .value base base
  | firstItem {base : List Frame} : Awaits .firstItem base (.item [] :: base)
  | item {base : List Frame} {before : List Json} :
      Awaits (.item before) base (.item before :: base)

theorem step_begin (awaits : Awaits expected base frames) (noGap : isGap c = false)
    (noEnd : c ≠ ']') (p : Place) :
    step read (.between base expected) p c = beginValue frames p c := by
  have hgap := Bool.eq_false_iff.mp noGap
  -- inside an array its end may come in place of a value
  cases awaits with
  | value => exact if_neg hgap
  | firstItem => exact (if_neg hgap).trans (if_neg noEnd)
  | item => exact (if_neg hgap).trans (if_neg noEnd)

/-- What may stand behind a value. -/
def Follows (rest : List Char) : Prop :=
  ∀ c ∈ rest.head?, isGap c = true ∨ c = ',' ∨ c = ']' ∨ c = '\x7d'

/-- A text is taken as a value wherever one is awaited with room for `depth` arrays and objects. -/
def Takes (read : String → Except Fault Json) (depth : Nat) (cs : List Char) (value : Json) :
    Prop :=
  ∀ ⦃frames base : List Frame⦄ ⦃expected : Expected⦄, frames.length + depth ≤ maxDepth →
    Open frames → Awaits expected base frames → ∀ ⦃rest : List Char⦄, Follows rest →
      Leads read (.between base expected) cs (behind value frames) rest

variable {depth : Nat}

theorem Follows.gap (gap : IsGap cs) (h : Follows rest) : Follows (cs ++ rest) := by
  cases cs with
  | nil => exact h
  | cons c cs =>
    rintro _ ⟨⟩
    exact .inl (gap c List.mem_cons_self)

theorem Takes.gaps {token : List Char} (gaps : InGaps token cs) (h : Takes read depth token value) :
    Takes read depth cs value := by
  obtain ⟨front, back, hfront, hback, rfl⟩ := gaps.exists_append
  intro frames base expected room isOpen awaits rest follows
  obtain ⟨base', expected', hbehind⟩ := exists_behind value frames
  refine .trans (leads_gap hfront) (.trans (h room isOpen awaits (follows.gap hback)) ?_)
  rw [hbehind]
  exact leads_gap hback

/-! ## Literal names -/

theorem leads_literal (isOpen : Open frames) (nonempty : cs ≠ []) :
    Leads read (.literal frames cs value) cs (behind value frames) rest := by
  induction cs with
  | nil => exact absurd rfl nonempty
  | cons c cs ih =>
    cases cs with
    | nil =>
      refine .step fun p => ?_
      rw [step]
      exact (if_pos rfl).trans (afterValue_eq isOpen _)
    | cons d cs =>
      refine .cons (fun p => ?_) (ih (List.cons_ne_nil _ _))
      exact if_pos rfl

theorem takes_literal (h : LiteralText cs value) : Takes read depth cs value := by
  intro frames base expected _ isOpen awaits rest _
  cases h <;>
    exact .cons (step_begin awaits (by decide) (by decide))
      (leads_literal isOpen (List.cons_ne_nil _ _))

/-! ## Strings -/

variable {role : StringRole} {done : List Char}

/-- A character within a string leads on within it. -/
theorem leads_within {s s' : QuotedString} (h : ∀ p, s.step p c = .ok (.more s')) :
    Leads read (.string frames role s) [c] (.string frames role s') rest := by
  refine .step fun p => ?_
  rw [step, h p]

theorem utf8Size_of_digitOf? {d : Nat} (h : Text.digitOf? 16 c = some d) : c.utf8Size = 1 :=
  Char.utf8Size_eq_one_iff.mpr
    (UInt32.le_iff_toNat_le.mpr (Nat.le_of_lt_succ (Hex.lt_of_digitOf? h)))

theorem step_digit {high : Option Nat} {left value d : Nat} (h : Text.digitOf? 16 c = some d)
    (p : Place) :
    QuotedString.step ⟨done, .hex high (left + 2) (some value)⟩ p c =
      .ok (.more ⟨done, .hex high (left + 1) (some (value * 16 + d))⟩) := by
  have hleft : 1 < left + 2 := by omega
  simp only [QuotedString.step, utf8Size_of_digitOf? h, if_pos hleft, h, Option.map_some,
    Option.bind_some]
  rfl

theorem step_lastDigit {high : Option Nat} {value d : Nat} (h : Text.digitOf? 16 c = some d)
    (p : Place) :
    QuotedString.step ⟨done, .hex high 1 (some value)⟩ p c =
      QuotedString.afterHex done high (value * 16 + d) (p.forward 1 c) := by
  simp only [QuotedString.step, utf8Size_of_digitOf? h, Nat.lt_irrefl, if_false, h,
    Option.map_some, Option.bind_some]

/-- Four digits are taken as their number. -/
theorem leads_fourDigits {high : Option Nat} {n : Nat} {s : QuotedString} (digits : FourDigits cs n)
    (after : ∀ p, QuotedString.afterHex done high n p = .ok (.more s)) :
    Leads read (.string frames role ⟨done, .hex high 4 (some 0)⟩) cs (.string frames role s)
      rest := by
  obtain ⟨digits, four, value⟩ := digits
  match cs, four, digits with
  | [_, _, _, _], _, .cons h₁ (.cons h₂ (.cons h₃ (.cons h₄ .nil))) =>
    subst value
    refine .trans (leads_within (step_digit h₁)) (.trans (leads_within (step_digit h₂))
      (.trans (leads_within (step_digit h₃)) (leads_within fun p => ?_)))
    exact (step_lastDigit h₄ p).trans (after _)

theorem noLow_of_isHighHalf {n : Nat} (h : QuotedString.isHighHalf n = true) :
    QuotedString.isLowHalf n = false := by
  simp only [QuotedString.isHighHalf, QuotedString.isLowHalf, Bool.and_eq_true, decide_eq_true_eq,
    Bool.and_eq_false_iff, decide_eq_false_iff_not] at h ⊢
  omega

theorem leads_char (h : CharText cs c) :
    Leads read (.string frames role ⟨done, .plain⟩) cs (.string frames role ⟨c :: done, .plain⟩)
      rest := by
  have start : ∀ {cs rest : List Char} {s : QuotedString},
      Leads read (.string frames role ⟨done, .hex none 4 (some 0)⟩) cs (.string frames role s)
        rest →
      Leads read (.string frames role ⟨done, .plain⟩) ('\\' :: 'u' :: cs) (.string frames role s)
        rest := fun h => .cons (fun _ => rfl) (.cons (fun _ => rfl) h)
  cases h with
  | plain plain =>
    obtain ⟨quote, backslash, control⟩ := plain
    refine leads_within fun p => ?_
    simp only [QuotedString.step, if_neg quote, if_neg backslash, if_neg control]
  | @letter letter _ escaped =>
    have hescape : ∀ p, QuotedString.step ⟨done, .plain⟩ p '\\' = .ok (.more ⟨done, .escape⟩) :=
      fun _ => rfl
    have hletter : letter ≠ 'u' := by
      rintro rfl
      cases escaped
    refine .trans (leads_within hescape) (leads_within fun p => ?_)
    simp only [QuotedString.step, if_neg hletter, escaped]
  | number digits noHigh noLow =>
    refine start (leads_fourDigits digits fun p => ?_)
    simp only [QuotedString.afterHex, noHigh, noLow, Bool.false_eq_true, if_false]
  | @pair _ _ high _ first isHigh second isLow =>
    refine .trans (start (leads_fourDigits first (s := ⟨done, .pair high⟩) fun p => ?_))
      (.cons (fun _ => rfl) (.cons (fun _ => rfl) (leads_fourDigits second fun p => ?_)))
    · simp only [QuotedString.afterHex, noLow_of_isHighHalf isHigh, isHigh, Bool.false_eq_true,
        if_false, if_true]
    · simp only [QuotedString.afterHex, isLow, if_true]

theorem leads_chars {s : List Char} (h : CharsText cs s) :
    Leads read (.string frames role ⟨done, .plain⟩) cs
      (.string frames role ⟨s.reverse ++ done, .plain⟩) rest := by
  induction h generalizing done with
  | nil => exact .refl
  | cons first _ ih =>
    rw [List.reverse_cons, List.append_assoc]
    exact .trans (leads_char first) ih

/-- The reader behind a string. -/
theorem leads_string (role : StringRole) {s : String} (h : StringText cs s)
    (begins : ∀ p, step read r p '"' = .ok (.string frames role .start))
    (after : ∀ p, afterString read s p frames role = .ok r') : Leads read r cs r' rest := by
  cases h with
  | mk chars =>
    refine .cons begins (.trans (leads_chars chars) (.step fun p => ?_))
    have hs : String.ofList (s.toList.reverse ++ []).reverse = s := by simp
    exact (congrArg (afterString read · (p.after '"') frames role) hs).trans (after _)

theorem takes_string {s : String} (h : StringText cs s) : Takes read depth cs (.str s) := by
  intro frames base expected _ isOpen awaits rest _
  exact leads_string .value h (step_begin awaits (by decide) (by decide)) (afterValue_eq isOpen)

/-! ## Numbers -/

theorem leads_pushes {stage stage' : Stage} {n n' : Numeral}
    (h : Numeral.Pushes stage n cs stage' n') :
    Leads read (.number frames stage n) cs (.number frames stage' n') rest := by
  induction h with
  | nil => exact .refl
  | cons first _ ih =>
    refine .cons (fun p => ?_) ih
    rw [step, first]

theorem push_of_follows {stage : Stage} {n : Numeral} (complete : stage.complete = true)
    (h : isGap c = true ∨ c = ',' ∨ c = ']' ∨ c = '\x7d') : n.push stage c = .ended := by
  have hend : c = ' ' ∨ c = '\t' ∨ c = '\n' ∨ c = '\r' ∨ c = ',' ∨ c = ']' ∨ c = '\x7d' := by
    simpa only [isGap, Bool.or_eq_true, decide_eq_true_eq, or_assoc] using h
  cases stage with
  | zero | integer | fraction | exponent =>
    rcases hend with rfl | rfl | rfl | rfl | rfl | rfl | rfl <;> rfl
  | _ => cases complete

/-- Behind its last character, a numeral that may end there is taken as its number. -/
theorem run_numeral {stage : Stage} {numeral : Numeral} {n : Number}
    (complete : stage.complete = true) (value : Number.ofNumeral? numeral.inOrder = some n)
    (isOpen : Open frames) (follows : Follows rest) (p : Place) :
    run read (.number frames stage numeral) p rest = run read (behind (.num n) frames) p rest := by
  obtain ⟨base, expected, hbehind⟩ := exists_behind (.num n) frames
  have hafter : afterNumeral read numeral p frames = .ok (base, expected) := by
    have hgive : afterValue read (.num n) p frames = .ok (behind (.num n) frames) :=
      afterValue_eq isOpen p
    rw [hbehind] at hgive
    obtain ⟨⟨base', expected'⟩, hgive, h⟩ := exists_of_map_eq_ok hgive
    cases h
    simp only [afterNumeral, numberValue, value]
    exact hgive
  rw [hbehind]
  -- a numeral ends only when what follows it is seen, be it the end of the text
  cases rest with
  | nil =>
    simp only [run, finish, complete, if_true, hafter]
    rfl
  | cons c rest =>
    have hended := push_of_follows (n := numeral) complete (follows c rfl)
    simp only [run, step, hended, hafter]

/-- A first digit begins a number. -/
theorem begin_digit {stage : Stage} {n : Numeral}
    (h : (Numeral.start false).push .sign c = .more stage n) :
    isGap c = false ∧ c ≠ ']' ∧
      ∀ frames p, beginValue frames p c = .ok (.number frames stage n) := by
  have other : ∀ {d : Char}, (Numeral.start false).push .sign d = .broken → c ≠ d := by
    rintro d hd rfl
    cases hd.symm.trans h
  refine ⟨?_, other rfl, fun frames p => ?_⟩
  · simp only [isGap, Bool.or_eq_false_iff, decide_eq_false_iff_not]
    exact ⟨⟨⟨other rfl, other rfl⟩, other rfl⟩, other rfl⟩
  · unfold beginValue
    split <;> first
      | cases h
      | rw [h]

/-- The text of a numeral leads to its parts. -/
theorem leads_numeral (read : String → Except Fault Json) {numeral : Numeral}
    (h : NumeralText numeral cs) (awaits : Awaits expected base frames) :
    ∃ stage, stage.complete = true ∧ ∀ rest, Leads read (.between base expected) cs
      (.number frames stage numeral.inOrder) rest := by
  obtain ⟨sign, body, stage, rfl, signed, complete, pushes⟩ := Numeral.pushes_numeralText h
  refine ⟨stage, complete, fun rest => ?_⟩
  generalize numeral.inOrder = last at pushes ⊢
  generalize numeral.negative = negative at signed pushes
  cases signed with
  | minus =>
    exact .cons (step_begin awaits (by decide) (by decide)) (leads_pushes pushes)
  | none =>
    cases pushes with
    | nil => cases complete
    | cons first pushes =>
      obtain ⟨noGap, noEnd, begins⟩ := begin_digit first
      exact .cons (fun p => (step_begin awaits noGap noEnd p).trans (begins frames p))
        (leads_pushes pushes)

theorem takes_number {numeral : Numeral} {n : Number} (h : NumeralText numeral cs)
    (value : Number.ofNumeral? numeral = some n) : Takes read depth cs (.num n) := by
  intro frames base expected _ isOpen awaits rest follows p
  obtain ⟨stage, complete, leads⟩ := leads_numeral read h awaits
  obtain ⟨p', hp⟩ := leads rest p
  rw [← Numeral.inOrder_inOrder numeral] at value
  exact ⟨p', hp.trans (run_numeral complete value isOpen follows p')⟩

/-- A numeral that no double holds is not read. -/
theorem run_numeral_of_none {stage : Stage} {numeral : Numeral} (complete : stage.complete = true)
    (value : Number.ofNumeral? numeral.inOrder = none) (follows : Follows rest) (p : Place) :
    ∃ e, run read (.number frames stage numeral) p rest = .error e := by
  have hafter : afterNumeral read numeral p frames = .error ⟨.numberTooLarge, p⟩ := by
    simp only [afterNumeral, numberValue, value]
    rfl
  refine ⟨⟨.numberTooLarge, p⟩, ?_⟩
  cases rest with
  | nil =>
    simp only [run, finish, complete, if_true, hafter]
    rfl
  | cons c rest =>
    have hended := push_of_follows (n := numeral) complete (follows c rfl)
    simp only [run, step, hended, hafter]

/-- Nor is it read in gaps. -/
theorem run_of_none (read : String → Except Fault Json) {numeral : Numeral} {token : List Char}
    (gaps : InGaps token cs) (h : NumeralText numeral token)
    (value : Number.ofNumeral? numeral = none) (p : Place) :
    ∃ e, run read (.between [] .value) p cs = .error e := by
  obtain ⟨front, back, hfront, hback, rfl⟩ := gaps.exists_append
  have awaits : Awaits .value [] [] := .value
  have follows : Follows back := by
    rw [← List.append_nil back]
    exact .gap hback nofun
  obtain ⟨stage, complete, leads⟩ := leads_numeral read h awaits
  obtain ⟨p', hp⟩ := (leads_gap hfront).trans (leads back) p
  rw [← Numeral.inOrder_inOrder numeral] at value
  rw [← List.append_assoc, hp]
  exact run_numeral_of_none complete value follows p'

/-! ## Arrays -/

theorem open_item (before : List Json) : Open (.item before :: frames) := nofun

/-- Items with commas between them lead to the end of their array. -/
theorem leads_items {items : List Written} {before : List Json} (nonempty : items ≠ [])
    (each : ∀ item ∈ items, Takes read depth item.text item.value)
    (room : base.length + 1 + depth ≤ maxDepth) (isOpen : Open base)
    (awaits : Awaits expected base (.item before :: base)) :
    Leads read (.between base expected) ([','].intercalate (items.map Written.text) ++ [']'])
      (behind (.arr (before.reverse ++ items.map Written.value)) base) rest := by
  have within : ∀ before, (Frame.item before :: base).length + depth ≤ maxDepth := fun _ => room
  -- `before` are the items behind which the reader is, the last of them first
  induction items generalizing before expected with
  | nil => exact absurd rfl nonempty
  | cons item items ih =>
    obtain ⟨first, each⟩ := List.forall_mem_cons.mp each
    cases items with
    | nil =>
      rw [List.map_singleton, List.map_singleton, List.intercalate_singleton, ← List.reverse_cons]
      refine .trans (first (within before) (open_item before) awaits ?_)
        (.step fun p => afterValue_eq isOpen _)
      rintro c ⟨⟩
      exact .inr (.inr (.inl rfl))
    | cons next items =>
      have hrest := @ih _ (item.value :: before) (List.cons_ne_nil _ _) each .item
      rw [List.reverse_cons, List.append_assoc] at hrest
      rw [List.map_cons, List.map_cons, List.map_cons, List.intercalate_cons_cons,
        List.append_assoc, List.append_assoc]
      refine .trans (first (within before) (open_item before) awaits ?_)
        (.cons (fun p => rfl) hrest)
      rintro c ⟨⟩
      exact .inr (.inl rfl)

/-- The character that opens an array or an object, and what may come next inside. -/
inductive Opens : Char → Expected → Prop
  | array : Opens '[' .firstItem
  | object : Opens '\x7b' .firstName

theorem leads_opening {inside : Expected} (opens : Opens c inside)
    (room : frames.length + (depth + 1) ≤ maxDepth) (isOpen : Open frames)
    (awaits : Awaits expected base frames)
    (within : Leads read (.between frames inside) cs r' rest) :
    Leads read (.between base expected) (c :: cs) r' rest := by
  have hroom : frames.length < maxDepth := by omega
  have henter : ∀ {found : Found} {p : Place},
      enter found inside p c frames = .ok (.between frames inside) := by
    match frames, isOpen with
    | .announced :: _, isOpen =>
      intro found p
      exact absurd rfl isOpen
    | [], _ | .item _ :: _, _ | .member _ _ :: _, _ =>
      intro found p
      rw [enter, if_pos hroom]
      nofun
  cases opens with
  | array => exact .cons (fun p => (step_begin awaits rfl (by decide) p).trans henter) within
  | object => exact .cons (fun p => (step_begin awaits rfl (by decide) p).trans henter) within

theorem takes_noItems (gap : IsGap cs) :
    Takes read (depth + 1) ('[' :: cs ++ [']']) (.arr []) := by
  intro frames base expected room isOpen awaits rest _
  exact leads_opening .array room isOpen awaits
    (.trans (leads_gap gap) (.step fun p => afterValue_eq isOpen _))

theorem takes_items {items : List Written} (nonempty : items ≠ [])
    (each : ∀ item ∈ items, Takes read depth item.text item.value) :
    Takes read (depth + 1) (arrayText items) (.arr (items.map Written.value)) := by
  intro frames base expected room isOpen awaits rest _
  exact leads_opening .array room isOpen awaits
    (leads_items nonempty each (by omega) isOpen .firstItem)

/-! ## Objects -/

theorem Leads.inGaps {base' : List Frame} {expected' : Expected} {token : List Char}
    (gaps : InGaps token cs)
    (h : ∀ {rest}, Leads read (.between base expected) token (.between base' expected') rest) :
    Leads read (.between base expected) cs (.between base' expected') rest := by
  obtain ⟨front, back, hfront, hback, rfl⟩ := gaps.exists_append
  exact .trans (leads_gap hfront) (.trans h (leads_gap hback))

/-- A label and its colon lead to the value of the member. -/
theorem leads_label (role : StringRole) {m : WrittenMember} {frame : Frame} (labelled : m.Labelled)
    (begins : ∀ p, step read (.between base expected) p '"' = .ok (.string base role .start))
    (after : ∀ p, afterString read m.name p base role = .ok (.between base (.colon frame))) :
    Leads read (.between base expected) (m.label ++ [':']) (.between (frame :: base) .value)
      rest := by
  obtain ⟨token, gaps, string⟩ := labelled
  exact .trans (.inGaps gaps (leads_string role string begins after)) (.step fun _ => rfl)

/-- A member of this name may begin here, behind these members. -/
inductive AwaitsName : Expected → String → List (String × Json) → Prop
  | first {name : String} (plain : name ≠ embeddedName) : AwaitsName .firstName name []
  | next {name : String} {before : List (String × Json)} : AwaitsName (.name before) name before

theorem leads_member {m : WrittenMember} {before : List (String × Json)}
    (awaits : AwaitsName expected m.name before) (labelled : m.Labelled)
    (takes : Takes read depth m.text m.value) (room : base.length + 1 + depth ≤ maxDepth)
    (follows : Follows rest) :
    Leads read (.between base expected) m.chars
      (.between base (.memberEnd (Members.insert m.name m.value before))) rest := by
  have label : ∀ {rest}, Leads read (.between base expected) (m.label ++ [':'])
      (.between (.member before m.name :: base) .value) rest := by
    cases awaits with
    | first plain =>
      refine leads_label .firstName labelled (fun _ => rfl) fun p => ?_
      rw [afterString, if_neg plain]
    | next => exact leads_label (.name before) labelled (fun _ => rfl) fun p => rfl
  have within : (Frame.member before m.name :: base).length + depth ≤ maxDepth := room
  have hchars : m.chars = (m.label ++ [':']) ++ m.text := by simp [WrittenMember.chars]
  rw [hchars]
  exact .trans label (takes within nofun .value follows)

/-- Members with commas between them lead to the end of their object. -/
theorem leads_members {first : WrittenMember} {members : List WrittenMember}
    {before : List (String × Json)} (awaits : AwaitsName expected first.name before)
    (labelled : ∀ m ∈ first :: members, m.Labelled)
    (each : ∀ m ∈ first :: members, Takes read depth m.text m.value)
    (room : base.length + 1 + depth ≤ maxDepth) (isOpen : Open base) :
    Leads read (.between base expected)
      ([','].intercalate ((first :: members).map WrittenMember.chars) ++ ['\x7d'])
      (behind (.obj (((first :: members).map WrittenMember.pair).foldl
        (fun ms m => Members.insert m.1 m.2 ms) before)) base) rest := by
  induction members generalizing first before expected with
  | nil =>
    rw [List.map_singleton, List.intercalate_singleton]
    refine .trans (leads_member awaits (labelled _ List.mem_cons_self) (each _ List.mem_cons_self)
      room ?_) (.step fun p => afterValue_eq isOpen _)
    rintro c ⟨⟩
    exact .inr (.inr (.inr rfl))
  | cons next members ih =>
    obtain ⟨firstLabelled, labelled⟩ := List.forall_mem_cons.mp labelled
    obtain ⟨firstTakes, each⟩ := List.forall_mem_cons.mp each
    rw [List.map_cons, List.map_cons, List.intercalate_cons_cons, List.append_assoc,
      List.append_assoc]
    refine .trans (leads_member awaits firstLabelled firstTakes room ?_)
      (.cons (fun p => rfl) (ih .next labelled each))
    rintro c ⟨⟩
    exact .inr (.inl rfl)

theorem takes_noMembers (gap : IsGap cs) :
    Takes read (depth + 1) ('\x7b' :: cs ++ ['\x7d']) (.obj []) := by
  intro frames base expected room isOpen awaits rest _
  exact leads_opening .object room isOpen awaits
    (.trans (leads_gap gap) (.step fun p => afterValue_eq isOpen _))

theorem takes_members {first : WrittenMember} {members : List WrittenMember}
    (plain : first.name ≠ embeddedName) (labelled : ∀ m ∈ first :: members, m.Labelled)
    (each : ∀ m ∈ first :: members, Takes read depth m.text m.value) :
    Takes read (depth + 1) (objectText (first :: members))
      (.object ((first :: members).map WrittenMember.pair)) := by
  intro frames base expected room isOpen awaits rest _
  exact leads_opening .object room isOpen awaits
    (leads_members (.first plain) labelled each (by omega) isOpen)

theorem takes_embedded {m : WrittenMember} {token : List Char} {s : String}
    (announced : m.name = embeddedName) (labelled : m.Labelled) (gaps : InGaps token m.text)
    (string : StringText token s) (held : read s = .ok value) :
    Takes read (depth + 1) (objectText [m]) value := by
  intro frames base expected room isOpen awaits rest _
  have label : ∀ {rest}, Leads read (.between frames .firstName) (m.label ++ [':'])
      (.between (.announced :: frames) .value) rest := by
    refine leads_label .firstName labelled (fun _ => rfl) fun p => ?_
    rw [afterString, if_pos announced]
  have text : ∀ {rest}, Leads read (.between (.announced :: frames) .value) m.text
      (.between frames (.embeddedEnd value)) rest := by
    refine .inGaps gaps (leads_string .value string (fun _ => rfl) fun p => ?_)
    rw [afterString, afterValue, give, held]
    rfl
  have hchars : objectText [m] = '\x7b' :: ((m.label ++ [':']) ++ (m.text ++ ['\x7d'])) := by
    simp [objectText, WrittenMember.chars]
  rw [hchars]
  exact leads_opening .object room isOpen awaits
    (.trans label (.trans text (.step fun p => afterValue_eq isOpen _)))

/-! ## Texts -/

/-- What is taken as a value is read as it. -/
theorem run_of_takes (h : Takes read maxDepth cs value) (p : Place) :
    run read (.between [] .value) p cs = .ok value := by
  have hframes : ([] : List Frame).length + maxDepth ≤ maxDepth := Nat.le_of_eq (Nat.zero_add _)
  have leads : Leads read (.between [] .value) cs (behind value []) [] :=
    h hframes nofun .value nofun
  obtain ⟨p', hp⟩ := leads p
  rw [List.append_nil] at hp
  exact hp

end Reader

/-! ## Lengths -/

theorem CharText.pos {cs : List Char} {c : Char} (h : CharText cs c) : 0 < cs.length := by
  cases h <;> simp

/-- What is held in a string is no longer than the string without its marks. -/
theorem CharsText.length_le {cs s : List Char} (h : CharsText cs s) : s.length ≤ cs.length := by
  induction h with
  | nil => exact Nat.le_refl 0
  | cons first _ ih =>
    have hfirst := first.pos
    rw [List.length_cons, List.length_append]
    omega

theorem StringText.length_lt {cs : List Char} {s : String} (h : StringText cs s) :
    s.toList.length < cs.length := by
  cases h with
  | mk chars =>
    have hchars := chars.length_le
    simp only [List.length_cons, List.length_append, List.length_nil]
    omega

theorem InGaps.length_le {token cs : List Char} (h : InGaps token cs) :
    token.length ≤ cs.length := by
  obtain ⟨front, back, -, -, rfl⟩ := h.exists_append
  rw [List.length_append, List.length_append]
  omega

theorem length_le_intercalate (separator : List Char) {part : List Char} {parts : List (List Char)}
    (h : part ∈ parts) : part.length ≤ (separator.intercalate parts).length := by
  induction parts with
  | nil => cases h
  | cons first parts ih =>
    cases parts with
    | nil =>
      obtain rfl := List.mem_singleton.mp h
      exact Nat.le_of_eq (congrArg List.length List.intercalate_singleton.symm)
    | cons next parts =>
      rw [List.intercalate_cons_cons, List.length_append, List.length_append]
      rcases List.mem_cons.mp h with rfl | h
      · omega
      · exact Nat.le_add_left_of_le (ih h)

theorem length_le_arrayText {item : Written} {items : List Written} (h : item ∈ items) :
    item.text.length ≤ (arrayText items).length := by
  have hpart := length_le_intercalate [','] (List.mem_map_of_mem (f := Written.text) h)
  simp only [arrayText, List.length_cons, List.length_append, List.length_nil]
  omega

theorem length_lt_objectText {m : WrittenMember} {members : List WrittenMember} (h : m ∈ members) :
    m.text.length < (objectText members).length := by
  have hpart := length_le_intercalate [','] (List.mem_map_of_mem (f := WrittenMember.chars) h)
  have hchars : m.text.length < m.chars.length := by
    simp only [WrittenMember.chars, List.length_cons, List.length_append]
    omega
  simp only [objectText, List.length_cons, List.length_append, List.length_nil]
  omega

/-! ## Reading -/

/-- A text is taken as the value that it spells, if the texts inside it that hold values may be as
many as its characters. -/
theorem takes_of_spells {depth : Nat} {cs : List Char} {value : Json} (h : Spells depth cs value)
    {n : Nat} (hn : cs.length ≤ n) : Reader.Takes (readWithin n) depth cs value := by
  induction h generalizing n with
  | literal literal => exact Reader.takes_literal literal
  | number parts value => exact Reader.takes_number parts value
  | string string => exact Reader.takes_string string
  | noItems gap => exact Reader.takes_noItems gap
  | items nonempty _ ih =>
    exact Reader.takes_items nonempty fun item hitem =>
      ih item hitem (Nat.le_trans (length_le_arrayText hitem) hn)
  | noMembers gap => exact Reader.takes_noMembers gap
  | members plain labelled _ ih =>
    exact Reader.takes_members plain labelled fun m hm =>
      ih m hm (Nat.le_trans (Nat.le_of_lt (length_lt_objectText hm)) hn)
  | @embedded _ m token s _ announced labelled gaps string _ ih =>
    -- the text that holds the value is shorter by its quotation marks at least
    have hlt : s.toList.length < n := by
      calc s.toList.length < token.length := string.length_lt
        _ ≤ m.text.length := gaps.length_le
        _ ≤ (objectText [m]).length := Nat.le_of_lt (length_lt_objectText List.mem_cons_self)
        _ ≤ n := hn
    cases n with
    | zero => exact absurd hlt (Nat.not_lt_zero _)
    | succ n =>
      have held : readWithin (n + 1) s = .ok _ :=
        Reader.run_of_takes (ih (Nat.le_of_lt_succ hlt)) .start
      exact Reader.takes_embedded announced labelled gaps string held
  | gaps gaps _ ih => exact .gaps gaps (ih (Nat.le_trans gaps.length_le hn))

/-- **Completeness.** Each text is read as the value that it spells. -/
theorem parse_of_spells {s : String} {value : Json} (h : Spells maxDepth s.toList value) :
    parse s = some value :=
  parse_eq_some_iff.mpr (Reader.run_of_takes (takes_of_spells h (Nat.le_of_eq rfl)) .start)

/-- A text spells one value at most. -/
theorem Spells.unique {cs : List Char} {value value' : Json} (h : Spells maxDepth cs value)
    (h' : Spells maxDepth cs value') : value = value' := by
  rw [← String.toList_ofList (l := cs)] at h h'
  exact Option.some.inj ((parse_of_spells h).symm.trans (parse_of_spells h'))

/-- A double holds each numeral that is the text of a value. -/
theorem Spells.held {token cs : List Char} {value : Json} {numeral : Numeral}
    (h : Spells maxDepth cs value) (gaps : InGaps token cs) (parts : NumeralText numeral token) :
    ∃ n, Number.ofNumeral? numeral = some n := by
  cases hvalue : Number.ofNumeral? numeral with
  | some n => exact ⟨n, rfl⟩
  | none =>
    have hread := Reader.run_of_takes (takes_of_spells h (Nat.le_refl _)) .start
    obtain ⟨e, he⟩ := Reader.run_of_none (readWithin cs.length) gaps parts hvalue .start
    cases hread.symm.trans he

end TransferRelay.Json
