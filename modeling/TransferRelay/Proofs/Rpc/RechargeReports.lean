import TransferRelay.Chain.Ledger
import TransferRelay.Proofs.Recharge.Rendering
import TransferRelay.Proofs.Rpc.Demand
import TransferRelay.Proofs.Rpc.Handling

/-!
# How recharges are reported

A client sees the entries of a recharge in two ways: it asks for those that the chain stores, or it
holds their contract data and has it decoded. The two meet no code of each other before the entries
are shown. They report the same list alike, and what they report is the list itself
(`reported_alike`), so a client may check one against the other.
-/

namespace TransferRelay

/-- A chain in memory whose reads do not fail answers with the entries it stores. -/
theorem Ledger.answer_rechargeData {l : Ledger} {tx : TransferId} (up : l.outageOf tx = none) :
    (l.answer (.rechargeData tx)).1 = .ok (l.recharges tx) := by
  simp only [Ledger.answer, Ledger.read, up]
  rfl

namespace Rpc

variable {σ : Type}

/-- A request asks for the entries in a text. -/
def AsksToDecode (request : Json) (data : String) : Prop :=
  ∃ params, request.get? "method" = some (.str "decodeRechargeData") ∧
    request.get? "params" = some params ∧ Gives [("data", some (.str data))] params

/-- A request asks for the entries that the chain stores for a recharge. -/
def AsksForEntries (request : Json) (tx : TransferId) : Prop :=
  ∃ params hash, request.get? "method" = some (.str "getRechargeData") ∧
    request.get? "params" = some params ∧ Gives [("txHash", some (.str hash))] params ∧
    TransferId.parse hash = .ok tx

theorem handle_of_asksToDecode {request : Json} {data : String} (asks : AsksToDecode request data) :
    handle request = (decodeEntries data).run.bind fun r =>
      answer request (.served .decodeRechargeData) (replied entriesJson r) := by
  obtain ⟨params, hmethod, hparams, gives⟩ := asks
  have hparse : Params.parse .decodeRechargeData params = .ok (.decodeRechargeData data) :=
    Params.parse_of_gives .decodeRechargeData gives (.cons (.given rfl) .nil)
  exact handle_of_parse hmethod (Method.ofName?_name .decodeRechargeData) hparams hparse rfl

theorem handle_of_asksForEntries {request : Json} {tx : TransferId}
    (asks : AsksForEntries request tx) :
    handle request = (Task.rechargeData tx).run.bind fun r =>
      answer request (.served .rechargeData) (replied entriesJson r) := by
  obtain ⟨params, hash, hmethod, hparams, gives, parsed⟩ := asks
  have hparse : Params.parse .rechargeData params = .ok (.rechargeData tx) := by
    rw [Params.parse_of_gives .rechargeData gives (.cons (.given rfl) .nil)]
    simp only [Params.invocation, parsed]
    rfl
  exact handle_of_parse hmethod (Method.ofName?_name .rechargeData) hparams hparse rfl

/-- Who has a text decoded is shown the entries in it. -/
theorem answer_asksToDecode (d : Deployment σ) {request : Json} {data : String}
    {xs : List RechargeEntry} (asks : AsksToDecode request data)
    (decodes : Recharge.decodeText data = .ok xs) (w : World σ) :
    ((handle request).complete d w).1.answer = .ok (entriesJson xs) := by
  have hrun : (decodeEntries data).run = .done (.ok xs) := by
    rw [decodeEntries, decodes]
    rfl
  rw [handle_of_asksToDecode asks, (complete_bind_answer d _ request _ _ w).1, hrun]
  rfl

/-- Who asks for the entries of a recharge is shown those that the chain answers with. -/
theorem answer_asksForEntries (d : Deployment σ) {request : Json} {tx : TransferId}
    {xs : List RechargeEntry} (asks : AsksForEntries request tx) (w : World σ)
    (stored : (d.answer (.rechargeData tx) w.chain).1 = .ok xs) :
    ((handle request).complete d w).1.answer = .ok (entriesJson xs) := by
  have hread : (d.perform (.rechargeData tx) w).1 = .ok xs := stored
  have hrun : ((Task.rechargeData tx).run.complete d w).1 = .ok xs := by
    show ((Plan.call (.rechargeData tx) fun r => (Task.ofRead r).run).complete d w).1 = _
    rw [Plan.complete_call, hread]
    rfl
  rw [handle_of_asksForEntries asks, (complete_bind_answer d _ request _ _ w).1, hrun]
  rfl

/-- Entries that the chain stores and entries whose data a client has decoded are reported alike,
and from what is reported the entries can be read back. No other list is reported so. -/
theorem reported_alike (d : Deployment σ) {xs : List RechargeEntry} {data : String}
    {tx : TransferId} {decoding asking : Json}
    (small : (Recharge.encode xs).length < 0x100000000)
    (spelled : Recharge.Spelling data (Recharge.encode xs))
    (asksToDecode : AsksToDecode decoding data) (asksForEntries : AsksForEntries asking tx)
    (w w' : World σ) (stored : (d.answer (.rechargeData tx) w'.chain).1 = .ok xs) :
    ∃ result, ((handle decoding).complete d w).1.answer = .ok result ∧
      ((handle asking).complete d w').1.answer = .ok result ∧
      entriesOf? result = some xs ∧ ∀ ys, entriesJson ys = result → ys = xs := by
  have hdecoded := Recharge.decodeText_of_spelling small spelled
  exact ⟨entriesJson xs, answer_asksToDecode d asksToDecode hdecoded w,
    answer_asksForEntries d asksForEntries w' stored, entriesOf?_json xs,
    fun _ h => entriesJson_injective h⟩

/-- The greatest amount and no fee, decoded from capital digits with blanks around them. -/
theorem reported_alike_of_greatest_amount :
    let tx : TransferId := ⟨List.replicate 32 0xaa, rfl⟩
    let greatest : Amount := ⟨Nat.pow 2 256 - 1, by decide⟩
    let xs : List RechargeEntry :=
      [⟨⟨List.replicate 20 0xab, rfl⟩, greatest, ⟨0, by decide⟩, [0xbe, 0xef]⟩]
    let digits := (Hex.encodeChars (Recharge.encode xs)).map Char.toUpper
    let data := String.ofList (' ' :: '0' :: 'x' :: digits ++ ['\n'])
    let decoding : Json := .obj [("method", .str "decodeRechargeData"),
      ("params", .arr [.str data])]
    let asking : Json := .obj [("method", .str "getRechargeData"), ("params", .obj [
      ("txHash", .str "aaaaaaaaaaaaaaaaaaaaaaaaaaaaaaaaaaaaaaaaaaaaaaaaaaaaaaaaaaaaaaaa")])]
    let d : Deployment Ledger := ⟨Ledger.answer, fun _ => true, 8⟩
    let w : World Ledger := ⟨Ledger.empty.apply (.setRecharge tx xs), .empty, [], []⟩
    (Recharge.encode xs).length < 0x100000000 ∧ Recharge.Spelling data (Recharge.encode xs) ∧
      AsksToDecode decoding data ∧ AsksForEntries asking tx ∧
      (d.answer (.rechargeData tx) w.chain).1 = .ok xs ∧
      ∃ result, ((handle decoding).complete d w).1.answer = .ok result ∧
        ((handle asking).complete d w).1.answer = .ok result ∧
        entriesOf? result = some xs ∧ ∀ ys, entriesJson ys = result → ys = xs := by
  intro tx greatest xs digits data decoding asking d w
  have small : (Recharge.encode xs).length < 0x100000000 := by decide +kernel
  have capitals : Hex.Spells digits (Recharge.encode xs) :=
    Hex.spells_toUpper (Hex.spells_encodeChars _)
  have spelled : Recharge.Spelling data (Recharge.encode xs) :=
    ⟨[' '], String.ofList ('0' :: 'x' :: digits), ['\n'], by simp [data, String.toList_ofList],
      List.forall_mem_cons.mpr ⟨by decide, nofun⟩, .marked (String.toList_ofList ..) capitals,
      List.forall_mem_cons.mpr ⟨by decide, nofun⟩⟩
  have asksToDecode : AsksToDecode decoding data :=
    ⟨_, rfl, rfl, @Gives.listed _ [.str data] 0 rfl⟩
  have asksForEntries : AsksForEntries asking tx :=
    ⟨_, _, rfl, rfl, .named (by decide) (List.forall_mem_cons.mpr ⟨rfl, nofun⟩), rfl⟩
  have stored : (d.answer (.rechargeData tx) w.chain).1 = .ok xs := by
    refine (Ledger.answer_rechargeData rfl).trans ?_
    exact congrArg Except.ok (Ledger.update_self Ledger.empty.recharges tx xs)
  exact ⟨small, spelled, asksToDecode, asksForEntries, stored,
    reported_alike d small spelled asksToDecode asksForEntries w w stored⟩

end Rpc

end TransferRelay
