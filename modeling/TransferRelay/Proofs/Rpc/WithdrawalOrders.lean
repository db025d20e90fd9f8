import TransferRelay.Chain.Ledger
import TransferRelay.Proofs.Amount.Numeral
import TransferRelay.Proofs.Rpc.Calling
import TransferRelay.Proofs.Rpc.Handling

/-!
# Orders for withdrawals

A client that asks for the data of a withdrawal gives an amount and a fee, each as text or as a
number. `Denotes` says what number such a value is. The request is answered exactly if the
parameters are an order (`parse_eq_ok_order_iff`): amounts that do not denote a number below
`2 ^ 256` are refused, so no number but the one denoted is ever encoded.

The order goes no further than the texts do: `answer_textAmount` says of each text whether it is
taken, and which of those that are taken the documentation does not know.
-/

namespace TransferRelay

/-! ## Values that denote numbers -/

/-- A value denotes a number: a whole number that is not negative, or a text that is a numeral
inside its blanks. -/
inductive Json.DenotesPlainly : Json → Nat → Prop
  | whole {value : Int} {range : -0x8000000000000000 ≤ value ∧ value < 0x10000000000000000}
      (nonneg : 0 ≤ value) : DenotesPlainly (.num (.whole value range)) value.toNat
  | text {s : String} {n : Nat} (numeral : Amount.Denotes (Text.trimChars s.toList) n) :
      DenotesPlainly (.str s) n

/-- A value denotes a number, or it is an object that holds such a value as text. -/
inductive Json.Denotes : Json → Nat → Prop
  | plain {value : Json} {n : Nat} (denotes : value.DenotesPlainly n) : Denotes value n
  | embedded {text : String} {value : Json} {n : Nat} (read : Json.read text = .ok value)
      (denotes : value.DenotesPlainly n) : Denotes (.obj [(Json.embeddedName, .str text)]) n

namespace Json

theorem DenotesPlainly.reread {value : Json} {n : Nat} (h : value.DenotesPlainly n) :
    value.reread = .ok value := by
  cases h with
  | whole _ => exact reread_num _
  | text _ => exact reread_str _

/-- A whole number and a numeral are read as the amount that they denote, and nothing else is. -/
theorem amount?_eq_some_iff {value : Json} {a : Amount} :
    Rpc.Params.amount? value = some a ↔ value.DenotesPlainly a.val := by
  cases value with
  | str s =>
    rw [Rpc.Params.amount?, Amount.ofText?_eq_some_iff]
    constructor
    · exact .text
    · intro h
      cases h
      assumption
  | num n =>
    rw [Rpc.Params.amount?]
    cases n with
    | whole value range =>
      by_cases hvalue : 0 ≤ value
      · rw [Number.toNat?, if_pos hvalue, Option.bind_some, Amount.ofNat?_eq_some_iff]
        constructor
        · intro h
          rw [h]
          exact .whole hvalue
        · intro h
          generalize hn : a.val = n at h
          cases h
          rfl
      · rw [Number.toNat?, if_neg hvalue]
        refine ⟨nofun, fun h => ?_⟩
        generalize a.val = n at h
        cases h
        exact absurd ‹_› hvalue
    | double x => exact ⟨nofun, fun h => nomatch h⟩
  | _ => exact ⟨nofun, fun h => nomatch h⟩

/-- A value that is read once more as one that denotes a number denotes it itself, or holds it. -/
theorem denotes_of_reread {value read : Json} {n : Nat} (h : value.reread = .ok read)
    (denotes : read.DenotesPlainly n) : value.Denotes n := by
  unfold Json.reread at h
  split at h
  · obtain ⟨_, -, rfl⟩ := exists_of_map_eq_ok h
    cases denotes
  · cases h
    cases denotes
  · rename_i name held rest
    by_cases hname : name = embeddedName
    · rw [if_pos hname] at h
      unfold resolveEmbedded at h
      split at h
      · split at h
        · rename_i s inner hread
          by_cases hcount : rest.length + 1 = 1
          · rw [if_pos hcount] at h
            cases h
            obtain rfl : rest = [] := List.eq_nil_of_length_eq_zero (Nat.succ.inj hcount)
            subst hname
            exact .embedded hread denotes
          · rw [if_neg hcount] at h
            cases h
        · cases h
      · cases h
    · rw [if_neg hname] at h
      obtain ⟨_, -, rfl⟩ := exists_of_map_eq_ok h
      cases denotes
  · cases h
    exact .plain denotes

/-- What is read of a value for an amount is the number that it denotes. -/
theorem exists_reread_iff {value : Json} {a : Amount} :
    (∃ read, value.reread = .ok read ∧ Rpc.Params.amount? read = some a) ↔ value.Denotes a.val := by
  simp only [amount?_eq_some_iff]
  constructor
  · rintro ⟨read, hread, hdenotes⟩
    exact denotes_of_reread hread hdenotes
  · intro h
    cases h with
    | plain denotes => exact ⟨value, denotes.reread, denotes⟩
    | embedded read denotes => exact ⟨_, reread_embedded read, denotes⟩

/-- A value denotes one number at most. -/
theorem DenotesPlainly.unique {value : Json} {n m : Nat} (h : value.DenotesPlainly n)
    (h' : value.DenotesPlainly m) : n = m := by
  cases h with
  | whole _ =>
    cases h'
    rfl
  | text numeral =>
    cases h' with
    | text numeral' => exact numeral.unique numeral'

theorem Denotes.unique {value : Json} {n m : Nat} (h : value.Denotes n) (h' : value.Denotes m) :
    n = m := by
  cases h with
  | plain denotes =>
    cases h' with
    | plain denotes' => exact denotes.unique denotes'
    | embedded read denotes' => cases denotes
  | embedded read denotes =>
    cases h' with
    | plain denotes' => cases denotes'
    | embedded read' denotes' =>
      cases read.symm.trans read'
      exact denotes.unique denotes'

end Json

/-! ## The data of a call -/

namespace WithdrawalOrder

/-- The word of the amount. -/
def amountWord (data : Bytes) : Bytes :=
  (data.drop 36).take 32

/-- The word of the fee. -/
def feeWord (data : Bytes) : Bytes :=
  (data.drop 68).take 32

variable (order : WithdrawalOrder)

/-- The amount is in its word. -/
theorem toNat_amountWord : BigEndian.toNat (amountWord order.callData) = order.amount.val := by
  have hdata : order.callData = (selector ++ Abi.word 96) ++ (order.amount.word ++
      (order.fee.word ++ Abi.dynamicBytes (Text.utf8 order.destination))) := by
    simp only [callData, arguments, List.append_assoc]
  have hfront : (selector ++ Abi.word 96).length = 36 := by simp [selector]
  rw [amountWord, hdata, List.drop_left' hfront, List.take_left' order.amount.length_word,
    order.amount.toNat_word]

/-- The fee is in its word. -/
theorem toNat_feeWord : BigEndian.toNat (feeWord order.callData) = order.fee.val := by
  have hdata : order.callData = (selector ++ Abi.word 96 ++ order.amount.word) ++
      (order.fee.word ++ Abi.dynamicBytes (Text.utf8 order.destination)) := by
    simp only [callData, arguments, List.append_assoc]
  have hfront : (selector ++ Abi.word 96 ++ order.amount.word).length = 68 := by
    simp [selector, Amount.length_word]
  rw [feeWord, hdata, List.drop_left' hfront, List.take_left' order.fee.length_word,
    order.fee.toNat_word]

end WithdrawalOrder

/-! ## Orders -/

namespace Rpc

/-- The entries that parameters give for an order. -/
def orderEntries (destination amount fee : Json) : List (String × Option Json) :=
  [("sideChainAddress", some destination), ("amount", some amount), ("fee", some fee)]

/-- Values order a withdrawal. -/
structure Orders (destination amount fee : Json) (order : WithdrawalOrder) : Prop where
  destination : destination = .str order.destination
  shown : Text.isAllBlank order.destination = false
  amount : amount.Denotes order.amount.val
  fee : fee.Denotes order.fee.val

theorem Orders.unique {destination amount fee : Json} {order order' : WithdrawalOrder}
    (h : Orders destination amount fee order) (h' : Orders destination amount fee order') :
    order = order' := by
  obtain ⟨d, a, f⟩ := order
  obtain ⟨d', a', f'⟩ := order'
  obtain rfl : a = a' := Amount.ext (h.amount.unique h'.amount)
  obtain rfl : f = f' := Amount.ext (h.fee.unique h'.fee)
  cases h.destination.symm.trans h'.destination
  rfl

theorem reads_anything_iff {o : Option Json} {read : Json} :
    FieldType.anything.Reads o read ↔ ∃ value, o = some value ∧ value.reread = .ok read := by
  have hread : ∀ value : Json,
      FieldType.anything.read value = .ok read ↔ value.reread = .ok read := by
    intro value
    rw [FieldType.read]
    cases value.reread with
    | error fault => exact ⟨nofun, nofun⟩
    | ok again => exact ⟨fun h => by cases h; rfl, fun h => by cases h; rfl⟩
  constructor
  · intro h
    rcases h.given_or_absent with ⟨value, rfl, hvalue⟩ | ⟨-, habsent⟩
    · exact ⟨value, rfl, (hread value).mp hvalue⟩
    · cases habsent
  · rintro ⟨value, rfl, h⟩
    exact .given ((hread value).mpr h)

theorem amount_eq_ok_iff {field : String} {value : Json} {a : Amount} :
    Params.amount field value = .ok a ↔ Params.amount? value = some a := by
  unfold Params.amount
  cases Params.amount? value with
  | none => exact ⟨nofun, nofun⟩
  | some read => rw [Except.ok.injEq, Option.some.injEq]

/-- Of values that can be read, the amounts are judged in their order. -/
theorem parse_of_shown {destination : String} {amount fee amount' fee' params : Json}
    (gives : Gives (orderEntries (.str destination) amount fee) params)
    (shown : Text.isAllBlank destination = false) (ha : amount.reread = .ok amount')
    (hf : fee.reread = .ok fee') :
    Params.parse .encodeWithdraw params = Params.amount "amount" amount' >>= fun a =>
      Params.amount "fee" fee' >>= fun f => .ok (.encodeWithdraw ⟨destination, a, f⟩) := by
  have hamount : FieldType.anything.Reads (some amount) amount' :=
    reads_anything_iff.mpr ⟨_, rfl, ha⟩
  have hfee : FieldType.anything.Reads (some fee) fee' := reads_anything_iff.mpr ⟨_, rfl, hf⟩
  rw [Params.parse_of_gives .encodeWithdraw gives
    (.cons (reads_text_iff.mpr rfl) (.cons hamount (.cons hfee .nil)))]
  simp only [Params.invocation, notBlank_eq_ok_iff.mpr shown]
  rfl

/-- Parameters are read as an order exactly if they are one. -/
theorem parse_eq_ok_order_iff {destination amount fee params : Json} {order : WithdrawalOrder}
    (gives : Gives (orderEntries destination amount fee) params) :
    Params.parse .encodeWithdraw params = .ok (.encodeWithdraw order) ↔
      Orders destination amount fee order := by
  constructor
  · intro h
    obtain ⟨es, vs, hreads, hgives, hinvocation⟩ := Params.exists_gives_of_parse gives.namesOnce h
    obtain ⟨d, a, f, _⟩ := vs
    have hentries := gives.eq_of_names hgives hreads.names
    subst hentries
    obtain ⟨_, hfirst, hrest⟩ := hreads.uncons_text
    obtain ⟨_, _, hsecond, hamount, hlast⟩ := hrest.uncons
    obtain ⟨_, _, hthird, hfee, -⟩ := hlast.uncons
    subst hsecond hthird
    cases hfirst
    obtain ⟨_, ⟨⟩, hamount⟩ := reads_anything_iff.mp hamount
    obtain ⟨_, ⟨⟩, hfee⟩ := reads_anything_iff.mp hfee
    obtain ⟨_, hshown, hinvocation⟩ := exists_of_bind_eq_ok hinvocation
    obtain ⟨a', ha, hinvocation⟩ := exists_of_bind_eq_ok hinvocation
    obtain ⟨f', hf, hinvocation⟩ := exists_of_bind_eq_ok hinvocation
    cases hinvocation
    exact ⟨rfl, notBlank_eq_ok_iff.mp hshown,
      Json.exists_reread_iff.mp ⟨_, hamount, amount_eq_ok_iff.mp ha⟩,
      Json.exists_reread_iff.mp ⟨_, hfee, amount_eq_ok_iff.mp hf⟩⟩
  · rintro ⟨rfl, shown, hamount, hfee⟩
    obtain ⟨a, haread, ha⟩ := Json.exists_reread_iff.mpr hamount
    obtain ⟨f, hfread, hf⟩ := Json.exists_reread_iff.mpr hfee
    rw [parse_of_shown gives shown haread hfread, amount_eq_ok_iff.mpr ha, ok_bind,
      amount_eq_ok_iff.mpr hf]
    rfl

/-! ## Requests -/

/-- A request asks for the data of a withdrawal with these values. -/
def AsksToEncode (request destination amount fee : Json) : Prop :=
  ∃ params, request.get? "method" = some (.str "encodeWithdraw") ∧
    request.get? "params" = some params ∧ Gives (orderEntries destination amount fee) params

/-- How a request for the data of a withdrawal is answered. -/
inductive AnswersOrder (destination amount fee : Json) : Except Refusal Json → Prop
  /-- An order is answered with the data of its call. -/
  | encoded {order : WithdrawalOrder} (orders : Orders destination amount fee order) :
      AnswersOrder destination amount fee (.ok (.str (Hex.encodeMarked order.callData)))
  /-- What is no order is wrong input. -/
  | refused {cause : InputFault} (noOrder : ∀ order, ¬Orders destination amount fee order) :
      AnswersOrder destination amount fee (.error (.failed (.input cause)))

variable {σ : Type}

/-- A request for the data of a withdrawal is answered by what is read of its parameters. -/
theorem answer_of_encodeWithdraw (d : Deployment σ) {request params : Json}
    (method : request.get? "method" = some (.str "encodeWithdraw"))
    (given : request.get? "params" = some params) (w : World σ) :
    ((handle request).complete d w).1.answer =
      replied id ((Method.encodeWithdraw.call params).run.complete d w).1 := by
  have hgiven : requestParams request = params := by
    rw [requestParams, given]
    rfl
  rw [handle_of_served (requestMethod?_eq_some_iff.mpr method)
    (Method.ofName?_name .encodeWithdraw), hgiven,
    (complete_bind_answer d _ request _ (replied id) w).1]

/-- It is answered by what its values are. -/
theorem answersOrder_handle (d : Deployment σ) {request destination amount fee : Json}
    (asks : AsksToEncode request destination amount fee) (w : World σ) :
    AnswersOrder destination amount fee ((handle request).complete d w).1.answer := by
  obtain ⟨params, hmethod, hparams, gives⟩ := asks
  rw [answer_of_encodeWithdraw d hmethod hparams, Method.call]
  cases hparse : Params.parse .encodeWithdraw params with
  | ok invocation =>
    have hinvocation := method_of_parse hparse
    cases invocation with
    | encodeWithdraw order => exact .encoded ((parse_eq_ok_order_iff gives).mp hparse)
    | transfer t =>
      have hkind : ∀ kind : TransferKind, kind.method ≠ .encodeWithdraw := by
        intro kind
        cases kind <;> decide
      exact absurd hinvocation (hkind t.kind)
    | _ => cases hinvocation
  | error fault =>
    obtain ⟨cause, rfl⟩ := Params.blamesInput_parse _ _ fault hparse
    refine @AnswersOrder.refused _ _ _ cause fun order orders => ?_
    cases hparse.symm.trans ((parse_eq_ok_order_iff gives).mpr orders)

/-! ## Texts -/

/-- One of the two amounts of an order. -/
inductive AmountField
  | amount
  | fee

namespace AmountField

/-- The name of the field. -/
def name : AmountField → String
  | .amount => "amount"
  | .fee => "fee"

/-- A request gives a value to the field, and another one to the other. -/
def Asks (request destination value other : Json) : AmountField → Prop
  | .amount => AsksToEncode request destination value other
  | .fee => AsksToEncode request destination other value

/-- The order with an amount in the field, and another in the other. -/
def order (destination : String) (a other : Amount) : AmountField → WithdrawalOrder
  | .amount => ⟨destination, a, other⟩
  | .fee => ⟨destination, other, a⟩

/-- The amount that call data has in the field. -/
def encoded (data : Bytes) : AmountField → Nat
  | .amount => BigEndian.toNat (WithdrawalOrder.amountWord data)
  | .fee => BigEndian.toNat (WithdrawalOrder.feeWord data)

@[simp]
theorem encoded_order (field : AmountField) (destination : String) (a other : Amount) :
    field.encoded (field.order destination a other).callData = a.val := by
  cases field with
  | amount => exact WithdrawalOrder.toNat_amountWord _
  | fee => exact WithdrawalOrder.toNat_feeWord _

/-- Beside an amount and an address, the value of the field decides. -/
theorem exists_parse (field : AmountField) {request value read other : Json} {destination : String}
    {b : Amount} (asks : field.Asks request (.str destination) value other)
    (shown : Text.isAllBlank destination = false) (hread : value.reread = .ok read)
    (valid : other.Denotes b.val) :
    ∃ params, request.get? "method" = some (.str "encodeWithdraw") ∧
      request.get? "params" = some params ∧
      Params.parse .encodeWithdraw params = Params.amount field.name read >>= fun a =>
        .ok (.encodeWithdraw (field.order destination a b)) := by
  obtain ⟨otherRead, hother, hb⟩ := Json.exists_reread_iff.mpr valid
  have hb' : ∀ name, Params.amount name otherRead = .ok b := fun _ => amount_eq_ok_iff.mpr hb
  cases field with
  | amount =>
    obtain ⟨params, method, given, gives⟩ := asks
    refine ⟨params, method, given, ?_⟩
    rw [parse_of_shown gives shown hread hother, hb']
    rfl
  | fee =>
    obtain ⟨params, method, given, gives⟩ := asks
    refine ⟨params, method, given, ?_⟩
    rw [parse_of_shown gives shown hother hread, hb', ok_bind]
    rfl

/-- A text in the field is taken as the amount that it is read as. -/
theorem answer_of_text (d : Deployment σ) (field : AmountField) {request other : Json}
    {destination s : String} {b : Amount}
    (asks : field.Asks request (.str destination) (.str s) other)
    (shown : Text.isAllBlank destination = false) (valid : other.Denotes b.val) (w : World σ) :
    ((handle request).complete d w).1.answer =
      match Amount.ofText? s with
      | some a => .ok (.str (Hex.encodeMarked (field.order destination a b).callData))
      | none => .error (.failed (.input (.badAmount field.name))) := by
  obtain ⟨params, method, given, hparse⟩ :=
    field.exists_parse asks shown (Json.reread_str s) valid
  rw [answer_of_encodeWithdraw d method given, Method.call, hparse, Params.amount, Params.amount?]
  cases Amount.ofText? s <;> rfl

end AmountField

/-- **Which texts are amounts.** Beside a valid address and a valid other amount, a text is taken
exactly if it is a numeral of a number below `2 ^ 256` inside its blanks, and then this number is
encoded; otherwise the field is refused. Every text in a documented form is such a numeral. The ones
that are in none have no digit, an underscore or another mark. -/
theorem answer_textAmount (d : Deployment σ) (field : AmountField) {request other : Json}
    {destination s : String} {b : Amount}
    (asks : field.Asks request (.str destination) (.str s) other)
    (shown : Text.isAllBlank destination = false) (valid : other.Denotes b.val) (w : World σ) :
    let cs := Text.trimChars s.toList
    let answer := ((handle request).complete d w).1.answer
    (∀ n, Amount.Denotes cs n → n < Nat.pow 2 256 →
      ∃ order : WithdrawalOrder, answer = .ok (.str (Hex.encodeMarked order.callData)) ∧
        order.destination = destination ∧ field.encoded order.callData = n) ∧
    ((∀ n, Amount.Denotes cs n → Nat.pow 2 256 ≤ n) →
      ∃ refusal, answer = .error refusal ∧ refusal.code = -32602 ∧
        refusal.message = "invalid params: " ++ field.name ++ " must be an unsigned integer") ∧
    (∀ n, Amount.Documented cs n → Amount.Denotes cs n) ∧
    ∀ n, Amount.Denotes cs n → (Amount.Documented cs n ↔ ¬Amount.Undocumented cs) := by
  intro cs answer
  have hanswer := field.answer_of_text d asks shown valid w
  refine ⟨fun n hn hfits => ?_, fun hlarge => ?_, fun n => Amount.Documented.denotes,
    fun n => Amount.Denotes.documented_iff⟩
  · have htext : Amount.ofText? s = some ⟨n, hfits⟩ := Amount.ofText?_eq_some_iff.mpr hn
    rw [htext] at hanswer
    refine ⟨field.order destination ⟨n, hfits⟩ b, hanswer, ?_, field.encoded_order ..⟩
    cases field <;> rfl
  · have htext : Amount.ofText? s = none := by
      rw [Option.eq_none_iff_forall_ne_some]
      intro a ha
      exact absurd a.val_lt (Nat.not_lt.mpr (hlarge _ (Amount.ofText?_eq_some_iff.mp ha)))
    rw [htext] at hanswer
    refine ⟨.failed (.input (.badAmount field.name)), hanswer, rfl, ?_⟩
    cases field <;> decide

/-- Hexadecimal digits in both cases with blanks around them, beside a fee of one. -/
theorem answer_textAmount_of_hex :
    let s := " 0xfF\n"
    let fee : Json := .num (.whole 1 (by decide))
    let request : Json := .obj [("method", .str "encodeWithdraw"),
      ("params", .arr [.str "EHash", .str s, fee])]
    let d : Deployment Ledger := ⟨Ledger.answer, fun _ => true, 8⟩
    let w : World Ledger := .initial .empty
    AmountField.amount.Asks request (.str "EHash") (.str s) fee ∧
      Text.isAllBlank "EHash" = false ∧ fee.Denotes 1 ∧
      Amount.Denotes (Text.trimChars s.toList) 255 ∧
      ∃ order : WithdrawalOrder,
        ((handle request).complete d w).1.answer =
          .ok (.str (Hex.encodeMarked order.callData)) ∧
        order.destination = "EHash" ∧ AmountField.amount.encoded order.callData = 255 := by
  intro s fee request d w
  have asks : AmountField.amount.Asks request (.str "EHash") (.str s) fee :=
    ⟨_, rfl, rfl, @Gives.listed _ [.str "EHash", .str s, fee] 0 rfl⟩
  have shown : Text.isAllBlank "EHash" = false := by decide
  have valid : fee.Denotes 1 := .plain (.whole (by decide))
  have denotes : Amount.Denotes (Text.trimChars s.toList) 255 :=
    (Amount.numeral?_eq_some_iff.mp (by decide +kernel)).1
  have answered :=
    (answer_textAmount d .amount (b := ⟨1, by decide⟩) asks shown valid w).1 255 denotes (by decide)
  exact ⟨asks, shown, valid, denotes, answered⟩

/-- A text without a character is in no documented form, and it is taken as zero. -/
theorem answer_emptyAmount :
    let request : Json := .obj [("method", .str "encodeWithdraw"),
      ("params", .arr [.str "EHash", .str "", .num (.whole 1 (by decide))])]
    let d : Deployment Ledger := ⟨Ledger.answer, fun _ => true, 8⟩
    let order : WithdrawalOrder := ⟨"EHash", ⟨0, by decide⟩, ⟨1, by decide⟩⟩
    (∀ n, ¬Amount.Documented (Text.trimChars "".toList) n) ∧
      ((handle request).complete d (.initial .empty)).1.answer =
        .ok (.str (Hex.encodeMarked order.callData)) := by
  intro request d order
  have bare : (Text.trimChars "".toList, 10) ∈ Amount.marks := by decide
  have empty : Amount.Undocumented (Text.trimChars "".toList) := .empty bare
  have asks : AmountField.amount.Asks request (.str "EHash") (.str "")
      (.num (.whole 1 (by decide))) := ⟨_, rfl, rfl, @Gives.listed _ [_, _, _] 0 rfl⟩
  have zero : Amount.ofText? "" = some ⟨0, by decide⟩ := by decide
  have answered := AmountField.amount.answer_of_text d (b := ⟨1, by decide⟩) asks (by decide)
    (.plain (.whole (by decide))) (.initial .empty)
  rw [zero] at answered
  exact ⟨fun n documented => documented.not_undocumented empty, answered⟩

end Rpc

end TransferRelay
