import TransferRelay.Proofs.Json.Parts
import TransferRelay.Proofs.Rpc.Envelopes
import TransferRelay.Proofs.Rpc.WithdrawalOrders

/-!
# Amounts are exact or refused

No amount is ever cut off, wrapped or rounded on its way into the data of a withdrawal: what is
encoded is the number that the value denotes (`ExactOrRefused`), also where the value comes as a
text of JSON. Numerals in such a text denote a number only as plain digits that 64 bits hold, since
all others are no whole numbers when they are read (`denotes_number_iff`).
-/

namespace TransferRelay

/-! ## Values that denote no number -/

namespace Json

/-- A value of a kind that denotes no number, whatever it is. -/
inductive NoNumber : Json → Prop
  | null : NoNumber .null
  | bool (b : Bool) : NoNumber (.bool b)
  | negative {value : Int} {range : -0x8000000000000000 ≤ value ∧ value < 0x10000000000000000}
      (negative : value < 0) : NoNumber (.num (.whole value range))
  | double (x : Binary64) : NoNumber (.num (.double x))
  | array (items : List Json) : NoNumber (.arr items)
  | object {members : List (String × Json)}
      (plain : ∀ text, members ≠ [(embeddedName, .str text)]) : NoNumber (.obj members)

theorem NoNumber.not_denotes {value : Json} (h : value.NoNumber) (n : Nat) : ¬value.Denotes n := by
  intro denotes
  cases denotes with
  | plain denotes =>
    cases denotes with
    | whole nonneg =>
      cases h with
      | negative negative => exact absurd nonneg (Int.not_le.mpr negative)
    | text _ => cases h
  | embedded _ _ =>
    cases h with
    | object plain => exact plain _ rfl

theorem denotes_num_iff {x : Number} {k : Nat} : Denotes (.num x) k ↔ x.toNat? = some k := by
  constructor
  · intro h
    cases h with
    | plain denotes =>
      cases denotes with
      | whole nonneg => exact if_pos nonneg
  · intro h
    cases x with
    | double _ => cases h
    | whole value range =>
      rw [Number.toNat?] at h
      split at h
      · cases h
        exact .plain (.whole ‹_›)
      · cases h

theorem denotes_str_iff {s : String} {k : Nat} :
    Denotes (.str s) k ↔ Amount.Denotes (Text.trimChars s.toList) k := by
  constructor
  · intro h
    cases h with
    | plain denotes =>
      cases denotes with
      | text numeral => exact numeral
  · exact fun h => .plain (.text h)

/-- A numeral denotes a number exactly if its text is plain digits that 64 bits hold, and then it is
their number. -/
theorem denotes_number_iff {numeral : Numeral} {cs : List Char} {x : Number}
    (parts : NumeralText numeral cs) (value : Number.ofNumeral? numeral = some x) {k : Nat} :
    Denotes (.num x) k ↔
      ∃ ds, Text.Digits 10 cs ds ∧ Text.ofDigits 10 ds = k ∧ k < Nat.pow 2 64 :=
  denotes_num_iff.trans (toNat?_of_numeralText parts value)

end Json

/-! ## Answers -/

namespace Rpc

/-- An answer gives an amount and a fee as they are, or none. -/
structure ExactOrRefused (destination amount fee : Json) (answer : Except Refusal Json) : Prop where
  /-- What is encoded are the numbers that are denoted. -/
  exact : ∀ result, answer = .ok result → ∃ data, result = .str (Hex.encodeMarked data) ∧
    amount.Denotes (BigEndian.toNat (WithdrawalOrder.amountWord data)) ∧
    fee.Denotes (BigEndian.toNat (WithdrawalOrder.feeWord data)) ∧
    BigEndian.toNat (WithdrawalOrder.amountWord data) < Nat.pow 2 256 ∧
    BigEndian.toNat (WithdrawalOrder.feeWord data) < Nat.pow 2 256
  /-- What is no number, or one that is too large, is wrong input. -/
  refused : (∀ n, amount.Denotes n → Nat.pow 2 256 ≤ n) ∨
      (∀ n, fee.Denotes n → Nat.pow 2 256 ≤ n) →
    ∃ refusal, answer = .error refusal ∧ refusal.code = -32602
  /-- Every order is taken. -/
  taken : ∀ order, Orders destination amount fee order →
    answer = .ok (.str (Hex.encodeMarked order.callData))

theorem exactOrRefused {destination amount fee : Json} {answer : Except Refusal Json}
    (h : AnswersOrder destination amount fee answer) :
    ExactOrRefused destination amount fee answer := by
  cases h with
  | @encoded order orders =>
    refine ⟨fun result hresult => ?_, ?_, fun order' orders' => ?_⟩
    · cases hresult
      refine ⟨order.callData, rfl, ?_, ?_, ?_, ?_⟩
      · rw [order.toNat_amountWord]
        exact orders.amount
      · rw [order.toNat_feeWord]
        exact orders.fee
      · rw [order.toNat_amountWord]
        exact order.amount.val_lt
      · rw [order.toNat_feeWord]
        exact order.fee.val_lt
    · rintro (large | large)
      · exact absurd order.amount.val_lt (Nat.not_lt.mpr (large _ orders.amount))
      · exact absurd order.fee.val_lt (Nat.not_lt.mpr (large _ orders.fee))
    · rw [orders.unique orders']
  | refused noOrder =>
    exact ⟨nofun, fun _ => ⟨_, rfl, rfl⟩, fun order orders => absurd orders (noOrder order)⟩

/-! ## Requests as texts -/

/-- The parameters of an order as they are written, with their values in members or as items. -/
inductive OrderText (destination amount fee params : Json.Written) : Prop
  | named (destination : Json.HasMember (Json.maxDepth - 2) "sideChainAddress" destination params)
      (amount : Json.HasMember (Json.maxDepth - 2) "amount" amount params)
      (fee : Json.HasMember (Json.maxDepth - 2) "fee" fee params)
  | listed (items : Json.HasItems (Json.maxDepth - 2) [destination, amount, fee] params)

/-- A request for the data of a withdrawal as it is written. -/
inductive RequestText (destination amount fee request : Json.Written) : Prop
  | mk {method params : Json.Written}
      (named : Json.HasMember (Json.maxDepth - 1) "method" method request)
      (name : method.value = .str "encodeWithdraw")
      (given : Json.HasMember (Json.maxDepth - 1) "params" params request)
      (order : OrderText destination amount fee params)

variable {destination amount fee params request : Json.Written}

theorem OrderText.gives (h : OrderText destination amount fee params) :
    Gives (orderEntries destination.value amount.value fee.value) params.value := by
  cases h with
  | named destination amount fee =>
    obtain ⟨ms, hms, once, hdestination⟩ := destination.exists_obj
    obtain ⟨_, hms', -, hamount⟩ := amount.exists_obj
    obtain ⟨_, hms'', -, hfee⟩ := fee.exists_obj
    cases hms.symm.trans hms'
    cases hms.symm.trans hms''
    rw [hms]
    refine .named once fun e he => ?_
    simp only [orderEntries, List.mem_cons, List.not_mem_nil, or_false] at he
    rcases he with rfl | rfl | rfl
    · exact hdestination
    · exact hamount
    · exact hfee
  | listed items =>
    obtain ⟨-, -, -⟩ := items
    exact @Gives.listed _ _ 0 rfl

/-- The text of an amount spells its value, and so does that of a fee. -/
theorem OrderText.spells (h : OrderText destination amount fee params) :
    Json.Spells Json.maxDepth amount.text amount.value ∧
      Json.Spells Json.maxDepth fee.text fee.value := by
  have hle : Json.maxDepth - 2 ≤ Json.maxDepth := Nat.sub_le _ _
  cases h with
  | named _ amount fee => exact ⟨amount.spells_member.mono hle, fee.spells_member.mono hle⟩
  | listed items =>
    obtain ⟨-, each, -⟩ := items
    exact ⟨(each amount (by simp)).mono hle, (each fee (by simp)).mono hle⟩

theorem RequestText.spells (h : RequestText destination amount fee request) :
    Json.Spells Json.maxDepth amount.text amount.value ∧
      Json.Spells Json.maxDepth fee.text fee.value := by
  obtain ⟨-, -, -, order⟩ := h
  exact order.spells

theorem RequestText.asks (h : RequestText destination amount fee request) :
    AsksToEncode request.value destination.value amount.value fee.value := by
  obtain ⟨named, name, given, order⟩ := h
  exact ⟨_, named.get?.trans (congrArg some name), given.get?, order.gives⟩

/-- The text of a request is read as the request. -/
theorem RequestText.parseUtf8 (h : RequestText destination amount fee request) :
    Json.parseUtf8 (String.ofList request.text).toUTF8 = some request.value := by
  obtain ⟨named, -, -, -⟩ := h
  rw [Json.parseUtf8, Hex.fromUTF8?_toUTF8, Option.bind_some]
  refine Json.parse_of_spells ?_
  rw [String.toList_ofList]
  exact named.spells

/-- What the text of a value denotes shows in it: a numeral the number of its plain digits, if 64
bits hold it, and a string the number of its numeral. -/
structure DenotesAsWritten (written : Json.Written) : Prop where
  numeral : ∀ {token : List Char} {numeral : Json.Numeral}, Json.InGaps token written.text →
    Json.NumeralText numeral token → ∀ k, written.value.Denotes k ↔
      ∃ ds, Text.Digits 10 token ds ∧ Text.ofDigits 10 ds = k ∧ k < Nat.pow 2 64
  string : ∀ {token : List Char} {s : String}, Json.InGaps token written.text →
    Json.StringText token s →
      ∀ k, written.value.Denotes k ↔ Amount.Denotes (Text.trimChars s.toList) k

theorem denotesAsWritten {written : Json.Written}
    (h : Json.Spells Json.maxDepth written.text written.value) : DenotesAsWritten written where
  numeral gaps parts k := by
    obtain ⟨x, value⟩ := h.held gaps parts
    rw [h.unique (.gaps gaps (.number parts value))]
    exact Json.denotes_number_iff parts value
  string gaps string k := by
    rw [h.unique (.gaps gaps (.string string))]
    exact Json.denotes_str_iff

variable {σ : Type}

/-- **Amounts are exact or refused.** The data of a withdrawal has the numbers that its amount and
its fee denote, and whatever denotes none below `2 ^ 256` is wrong input. A request in the body of a
`POST` is answered in the same way, and a body that is no JSON is no request. In such a body the
number that a text denotes is the one that is written. -/
theorem exactOrRefused_amounts (d : Deployment σ) (w : World σ) :
    (∀ {request destination amount fee : Json}, AsksToEncode request destination amount fee →
      ExactOrRefused destination amount fee ((handle request).complete d w).1.answer) ∧
    (∀ {value : Json}, value.NoNumber → ∀ n, ¬value.Denotes n) ∧
    (∀ (uptime : Nat) (r : Http.Request), r.method = "POST" → r.resource? = some .rpc →
      r.body.size ≤ Http.maxBody →
        ∃ e : Envelope, (Http.handle d uptime r w).1 = Http.ok Http.jsonType (.json e.json) ∧
          (∀ {request destination amount fee : Json}, Json.parseUtf8 r.body = some request →
            AsksToEncode request destination amount fee →
              ExactOrRefused destination amount fee e.answer) ∧
          (Json.parseUtf8 r.body = none →
            ∃ refusal, e.answer = .error refusal ∧ refusal.code = -32700)) ∧
    ∀ {request destination amount fee : Json.Written},
      RequestText destination amount fee request →
        Json.parseUtf8 (String.ofList request.text).toUTF8 = some request.value ∧
        AsksToEncode request.value destination.value amount.value fee.value ∧
        DenotesAsWritten amount ∧ DenotesAsWritten fee := by
  refine ⟨fun asks => exactOrRefused (answersOrder_handle d asks w), fun h => h.not_denotes,
    fun uptime r post root size => ?_, fun text => ?_⟩
  · rw [Http.handle_post post root size]
    refine ⟨_, rfl, fun read asks => ?_, fun noJson => ?_⟩
    · rw [Http.answerRpc, read]
      exact exactOrRefused (answersOrder_handle d asks w)
    · rw [Http.answerRpc, noJson]
      exact ⟨_, rfl, rfl⟩
  · obtain ⟨hamount, hfee⟩ := text.spells
    exact ⟨text.parseUtf8, text.asks, denotesAsWritten hamount, denotesAsWritten hfee⟩

/-- A request as it may be written, with the amount as a number behind a blank and the fee as a
hexadecimal numeral. -/
theorem exactOrRefused_amounts_of_written :
    let destination : Json.Written := ⟨Json.quoted "EHash", .str "EHash"⟩
    let amount : Json.Written := ⟨[' ', '5'], .num (.whole 5 (by decide))⟩
    let fee : Json.Written := ⟨Json.quoted "0x7", .str "0x7"⟩
    let params : Json.Written := ⟨Json.arrayText [destination, amount, fee],
      .arr [destination.value, amount.value, fee.value]⟩
    let members : List Json.WrittenMember :=
      [⟨⟨Json.quoted "encodeWithdraw", .str "encodeWithdraw"⟩, "method", Json.quoted "method"⟩,
        ⟨params, "params", Json.quoted "params"⟩]
    let request : Json.Written :=
      ⟨Json.objectText members, .object (members.map Json.WrittenMember.pair)⟩
    let r : Http.Request := ⟨"POST", "/", (String.ofList request.text).toUTF8⟩
    let d : Deployment Ledger := ⟨Ledger.answer, fun _ => true, 8⟩
    let w : World Ledger := .initial .empty
    let order : WithdrawalOrder := ⟨"EHash", ⟨5, by decide⟩, ⟨7, by decide⟩⟩
    RequestText destination amount fee request ∧ r.method = "POST" ∧ r.resource? = some .rpc ∧
      r.body.size ≤ Http.maxBody ∧ amount.value.Denotes 5 ∧ fee.value.Denotes 7 ∧
      ∃ e : Envelope, (Http.handle d 0 r w).1 = Http.ok Http.jsonType (.json e.json) ∧
        e.answer = .ok (.str (Hex.encodeMarked order.callData)) := by
  intro destination amount fee params members request r d w order
  have five : Json.NumeralText ⟨false, [5], [], false, none⟩ ['5'] :=
    @Json.NumeralText.mk _ [] ['5'] [] [] .none (.digits rfl (Nat.succ_ne_zero 4) .nil) .none
      (.none rfl rfl)
  have items : ∀ item ∈ [destination, amount, fee],
      Json.Spells (Json.maxDepth - 2) item.text item.value :=
    List.forall_mem_cons.mpr ⟨.string (Json.stringText_quoted _), List.forall_mem_cons.mpr
      ⟨.gaps (.before rfl .token) (.number five rfl), List.forall_mem_singleton.mpr
        (.string (Json.stringText_quoted _))⟩⟩
  have labelled : ∀ m ∈ members, m.Labelled :=
    List.forall_mem_cons.mpr ⟨⟨_, .token, Json.stringText_quoted _⟩, List.forall_mem_singleton.mpr
      ⟨_, .token, Json.stringText_quoted _⟩⟩
  have each : ∀ m ∈ members, Json.Spells (Json.maxDepth - 1) m.text m.value :=
    List.forall_mem_cons.mpr ⟨.string (Json.stringText_quoted _), List.forall_mem_singleton.mpr
      (.items (List.cons_ne_nil _ _) items)⟩
  have hasMember : ∀ {name : String} {m : Json.WrittenMember},
      Json.lastNamed name members = some m →
        Json.HasMember (Json.maxDepth - 1) name m.toWritten request :=
    fun last => .mk (by decide) labelled each last rfl .token
  have text : RequestText destination amount fee request :=
    .mk (hasMember rfl) rfl (hasMember rfl)
      (.listed (.mk (List.cons_ne_nil _ _) items .token))
  have root : r.resource? = some .rpc := by decide
  have size : r.body.size ≤ Http.maxBody := by decide +kernel
  obtain ⟨-, -, http, written⟩ := exactOrRefused_amounts d w
  obtain ⟨read, asks, writtenAmount, writtenFee⟩ := written text
  have amountDenotes : amount.value.Denotes 5 :=
    (writtenAmount.numeral (.before rfl .token) five 5).mpr ⟨[5], .cons rfl .nil, rfl, by decide⟩
  have feeDenotes : fee.value.Denotes 7 :=
    (writtenFee.string .token (Json.stringText_quoted _) 7).mpr
      (Amount.numeral?_eq_some_iff.mp (by decide +kernel)).1
  obtain ⟨e, response, answers, -⟩ := http 0 r rfl root size
  have orders : Orders destination.value amount.value fee.value order :=
    ⟨rfl, by decide, amountDenotes, feeDenotes⟩
  exact ⟨text, rfl, root, size, amountDenotes, feeDenotes, e, response,
    (answers read asks).taken order orders⟩

/-- Not every object is refused: one that holds a number as text stands for it. Nor are all numbers
wrong input: one that no double holds leaves no JSON. -/
theorem answer_embeddedAmount :
    let amount : Json := .obj [("$serde_json::private::RawValue", .str "5")]
    let request : Json := .obj [("method", .str "encodeWithdraw"),
      ("params", .arr [.str "EHash", amount, .num (.whole 1 (by decide))])]
    let order : WithdrawalOrder := ⟨"EHash", ⟨5, by decide⟩, ⟨1, by decide⟩⟩
    let body := "\x7b\"method\":\"encodeWithdraw\",\"params\":[\"EHash\",1e400,1]\x7d".toUTF8
    let d : Deployment Ledger := ⟨Ledger.answer, fun _ => true, 8⟩
    let w : World Ledger := .initial .empty
    ((handle request).complete d w).1.answer = .ok (.str (Hex.encodeMarked order.callData)) ∧
      ((Http.answerRpc body).complete d w).1.answer = .error .notJson := by
  intro amount request order body d w
  have read : Json.read "5" = .ok (.num (.whole 5 (by decide))) := rfl
  have asks : AsksToEncode request (.str "EHash") amount (.num (.whole 1 (by decide))) :=
    ⟨_, rfl, rfl, @Gives.listed _ [_, _, _] 0 rfl⟩
  have orders : Orders (.str "EHash") amount (.num (.whole 1 (by decide))) order :=
    ⟨rfl, by decide, .embedded read (.whole (by decide)), .plain (.whole (by decide))⟩
  have noJson : Json.parseUtf8 body = none := by
    have unread : (Json.parse
        "\x7b\"method\":\"encodeWithdraw\",\"params\":[\"EHash\",1e400,1]\x7d").isNone = true := by
      decide +kernel
    rw [Json.parseUtf8, Hex.fromUTF8?_toUTF8, Option.bind_some]
    exact Option.isNone_iff_eq_none.mp unread
  refine ⟨(exactOrRefused (answersOrder_handle d asks w)).taken order orders, ?_⟩
  rw [Http.answerRpc, noJson]
  rfl

end Rpc

end TransferRelay
