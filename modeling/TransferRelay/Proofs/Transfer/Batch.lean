import Mathlib.Data.List.Forall2
import TransferRelay.Chain.Ledger
import TransferRelay.Proofs.Chain.FanOut
import TransferRelay.Proofs.Chain.Spending
import TransferRelay.Proofs.Results
import TransferRelay.Transfer.Inquiry

/-!
# Batches of items

A batch is filtered by the flags that the ledger has for the identifiers of its items. If each item
has an identifier and each read a flag, what is left are the items whose flag is set, in their order
and each as often as it was there (`complete_filterBy_of_answers`).

The answers are those to the reads of the batch one after the other, on whatever chain. A ledger is
a `ReadableLedger` if its reads leave the chain as it is; the flags are then what it says of the
identifiers, in whatever company they are read.
-/

namespace TransferRelay

variable {σ ι : Type}

/-! ## Reads of a batch -/

namespace Deployment

variable (d : Deployment σ) {txs : List TransferId} {w : World σ} {flags : List Bool}

/-- What is read depends on nothing but the chain. -/
theorem readEach_congr (txs : List TransferId) {w w' : World σ} (same : w.chain = w'.chain) :
    (d.readEach txs w).1 = (d.readEach txs w').1 := by
  induction txs generalizing w w' with
  | nil => rfl
  | cons tx txs ih =>
    have hafter : (d.perform (.isCompleted tx) w).2.chain =
        (d.perform (.isCompleted tx) w').2.chain := by
      rw [d.chain_perform, d.chain_perform, same]
    have hanswer : (d.perform (.isCompleted tx) w).1 = (d.perform (.isCompleted tx) w').1 := by
      show (d.answer _ w.chain).1 = (d.answer _ w'.chain).1
      rw [same]
    exact congrArg₂ List.cons hanswer (ih hafter)

/-- Of two batches in a row, the second is read where the first leaves the chain. -/
theorem readEach_append (txs txs' : List TransferId) (w : World σ) :
    (d.readEach (txs ++ txs') w).1 =
      (d.readEach txs w).1 ++ (d.readEach txs' (d.readEach txs w).2).1 := by
  induction txs generalizing w with
  | nil => rfl
  | cons tx txs ih => exact congrArg ((d.perform (.isCompleted tx) w).1 :: ·) (ih _)

/-- Without a failure, all of a batch is read. -/
theorem readFlags_of_answers (answers : (d.readEach txs w).1 = flags.map .ok) :
    d.readFlags txs w = (.ok flags, (d.readEach txs w).2) := by
  induction txs generalizing w flags with
  | nil =>
    obtain rfl := List.map_eq_nil_iff.mp answers.symm
    rfl
  | cons tx txs ih =>
    cases flags with
    | nil => cases answers
    | cons flag flags =>
      obtain ⟨hfirst, hrest⟩ := List.cons.inj answers
      exact d.readFlags_cons hfirst (ih hrest)

/-- If one of the reads fails, the batch does. -/
theorem exists_readFlags_eq_error {cause : ReadFault} (mem : .error cause ∈ (d.readEach txs w).1) :
    ∃ first, (d.readFlags txs w).1 = .error first := by
  cases hflags : (d.readFlags txs w).1 with
  | error first => exact ⟨first, rfl⟩
  | ok flags =>
    -- the failure would be among the answers, which are all flags
    rw [d.readFlags_eq_sequential, FanOut.sequential_eq_ok_iff] at hflags
    rw [hflags] at mem
    obtain ⟨flag, -, hne⟩ := List.mem_map.mp mem
    cases hne

end Deployment

/-! ## Ledgers that can be read -/

/-- A ledger whose reads depend on the chain alone and leave it as it is. -/
structure ReadableLedger (d : Deployment σ) where
  read : σ → TransferId → Except ReadFault Bool
  answer : ∀ (tx : TransferId) (chain : σ),
    d.answer (.isCompleted tx) chain = (read chain tx, chain)

/-- The ledger of a chain in memory. -/
def Ledger.readable (counts : Component → Bool) (window : Nat) :
    ReadableLedger ⟨Ledger.answer, counts, window⟩ where
  read l tx := l.read tx (.ok (l.completed tx))
  answer _ _ := rfl

namespace ReadableLedger

variable {d : Deployment σ} (ledger : ReadableLedger d)

/-- Whether the ledger says that a transfer is complete. -/
def has (chain : σ) (tx : TransferId) : Bool :=
  match ledger.read chain tx with
  | .ok flag => flag
  | .error _ => false

/-- All of some identifiers can be read. -/
def ReadsAll (chain : σ) (txs : List TransferId) : Prop :=
  ∀ tx ∈ txs, ∃ flag, ledger.read chain tx = .ok flag

include ledger in
theorem chain_perform (tx : TransferId) (w : World σ) :
    (d.perform (.isCompleted tx) w).2.chain = w.chain := by
  rw [d.chain_perform, ledger.answer]

theorem readEach_eq (txs : List TransferId) (w : World σ) :
    (d.readEach txs w).1 = txs.map (ledger.read w.chain) := by
  induction txs generalizing w with
  | nil => rfl
  | cons tx txs ih =>
    have hanswer : (d.perform (.isCompleted tx) w).1 = ledger.read w.chain tx :=
      congrArg Prod.fst (ledger.answer tx w.chain)
    have hrest := ih (d.perform (.isCompleted tx) w).2
    rw [ledger.chain_perform] at hrest
    exact congrArg₂ List.cons hanswer hrest

include ledger in
theorem chain_readEach (txs : List TransferId) (w : World σ) :
    (d.readEach txs w).2.chain = w.chain := by
  induction txs generalizing w with
  | nil => rfl
  | cons tx txs ih => exact (ih _).trans (ledger.chain_perform tx w)

include ledger in
/-- Reading a batch leaves all but the log of calls as it was. -/
theorem world_readFlags (txs : List TransferId) (w : World σ) :
    ∃ events, (d.readFlags txs w).2 = { w with log := events ++ w.log } := by
  induction txs generalizing w with
  | nil => exact ⟨[], rfl⟩
  | cons tx txs ih =>
    have hread : d.perform (.isCompleted tx) w = (ledger.read w.chain tx,
        { w with log :=
            ⟨.isCompleted tx, (Call.isCompleted tx).failed (ledger.read w.chain tx)⟩ ::
              w.log }) := by
      rw [Deployment.perform, ledger.answer]
      rfl
    cases hanswer : ledger.read w.chain tx with
    | error cause =>
      -- the failure is the last event: what comes after it in the batch is not read
      refine ⟨[⟨.isCompleted tx, true⟩], ?_⟩
      rw [Deployment.readFlags, hread, hanswer]
      rfl
    | ok flag =>
      rw [hanswer] at hread
      obtain ⟨events, hworld⟩ := ih { w with log := ⟨.isCompleted tx, false⟩ :: w.log }
      refine ⟨events ++ [⟨.isCompleted tx, false⟩], ?_⟩
      rw [d.world_readFlags_cons hread, List.append_assoc]
      exact hworld

/-- If all of a batch can be read, the answers are what the ledger has. -/
theorem readEach_of_readsAll {txs : List TransferId} {w : World σ}
    (h : ledger.ReadsAll w.chain txs) :
    (d.readEach txs w).1 = (txs.map (ledger.has w.chain)).map .ok := by
  rw [ledger.readEach_eq, List.map_map]
  refine List.map_congr_left fun tx htx => ?_
  obtain ⟨flag, hread⟩ := h tx htx
  rw [Function.comp_apply, has, hread]

theorem mem_readEach {txs : List TransferId} {w : World σ} {tx : TransferId} {cause : ReadFault}
    (mem : tx ∈ txs) (h : ledger.read w.chain tx = .error cause) :
    .error cause ∈ (d.readEach txs w).1 := by
  rw [ledger.readEach_eq, ← h]
  exact List.mem_map_of_mem mem

end ReadableLedger

namespace Inquiry

/-! ## Identifiers and flags -/

/-- Each item has its identifier. -/
abbrev Keyed (key : ι → Except Fault TransferId) : List ι → List TransferId → Prop :=
  List.Forall₂ fun i tx => key i = .ok tx

theorem keys_eq_ok_iff {key : ι → Except Fault TransferId} {items : List ι}
    {txs : List TransferId} : keys key items = .ok txs ↔ Keyed key items txs := by
  constructor
  · intro h
    induction items generalizing txs with
    | nil =>
      cases h
      exact .nil
    | cons i rest ih =>
      rw [keys] at h
      cases hi : key i with
      | error cause =>
        rw [hi] at h
        cases h
      | ok tx =>
        rw [hi] at h
        obtain ⟨later, hlater, rfl⟩ := exists_of_map_eq_ok h
        exact .cons hi (ih hlater)
  · intro h
    induction h with
    | nil => rfl
    | cons hi rest ih => simp only [keys, hi, ih, Except.map]

theorem exists_key_of_mem {key : ι → Except Fault TransferId} {items : List ι}
    {txs : List TransferId} (h : Keyed key items txs) {i : ι} (mem : i ∈ items) :
    ∃ tx, key i = .ok tx := by
  induction h with
  | nil => cases mem
  | cons hi rest ih =>
    rcases List.mem_cons.mp mem with rfl | mem
    · exact ⟨_, hi⟩
    · exact ih mem

theorem exists_item_of_mem {key : ι → Except Fault TransferId} {items : List ι}
    {txs : List TransferId} (h : Keyed key items txs) {tx : TransferId} (mem : tx ∈ txs) :
    ∃ i ∈ items, key i = .ok tx := by
  induction h with
  | nil => cases mem
  | cons hi rest ih =>
    rcases List.mem_cons.mp mem with rfl | mem
    · exact ⟨_, List.mem_cons_self, hi⟩
    · obtain ⟨i, hmem, hkey⟩ := ih mem
      exact ⟨i, List.mem_cons_of_mem _ hmem, hkey⟩

theorem exists_of_keys_eq_error {key : ι → Except Fault TransferId} {items : List ι}
    {fault : Fault} (h : keys key items = .error fault) : ∃ i ∈ items, key i = .error fault := by
  induction items with
  | nil => cases h
  | cons i rest ih =>
    rw [keys] at h
    cases hi : key i with
    | error cause =>
      rw [hi] at h
      cases h
      exact ⟨i, List.mem_cons_self, hi⟩
    | ok tx =>
      rw [hi] at h
      cases hrest : keys key rest with
      | error cause =>
        rw [hrest] at h
        cases h
        obtain ⟨i', mem, hi'⟩ := ih hrest
        exact ⟨i', List.mem_cons_of_mem _ mem, hi'⟩
      | ok txs =>
        rw [hrest] at h
        cases h

/-- If an item has no identifier, the batch has none. -/
theorem exists_keys_eq_error {key : ι → Except Fault TransferId} {items : List ι} {i : ι}
    (mem : i ∈ items) (h : ∀ tx, key i ≠ .ok tx) :
    ∃ first ∈ items, ∃ fault, key first = .error fault ∧ keys key items = .error fault := by
  cases hkeys : keys key items with
  | error fault =>
    obtain ⟨first, hfirst, hfault⟩ := exists_of_keys_eq_error hkeys
    exact ⟨first, hfirst, fault, hfault, rfl⟩
  | ok txs =>
    obtain ⟨tx, htx⟩ := exists_key_of_mem (keys_eq_ok_iff.mp hkeys) mem
    exact absurd htx (h tx)

/-- Items with a flag for each are kept if they have it. -/
theorem keep_map (p : ι → Bool) (items : List ι) : keep items (items.map p) = items.filter p := by
  induction items with
  | nil => rfl
  | cons i rest ih =>
    rw [List.filter_cons, ← ih]
    cases hp : p i <;> simp [keep, hp]

/-- Of two batches in a row, each is kept by its own flags. -/
theorem keep_append {items items' : List ι} {flags flags' : List Bool}
    (each : items.length = flags.length) :
    keep (items ++ items') (flags ++ flags') = keep items flags ++ keep items' flags' := by
  rw [keep, List.zip_append each, List.filter_append, List.map_append]
  rfl

/-! ## Filtering -/

/-- The items kept have the identifiers kept. -/
theorem keyed_keep {key : ι → Except Fault TransferId} {items : List ι} {txs : List TransferId}
    (h : Keyed key items txs) (flags : List Bool) :
    Keyed key (keep items flags) (keep txs flags) := by
  induction h generalizing flags with
  | nil => exact .nil
  | @cons i tx items txs hi rest ih =>
    cases flags with
    | nil => exact .nil
    | cons flag flags =>
      cases flag with
      | false => exact ih flags
      | true => exact .cons hi (ih flags)

/-- The first item without an identifier ends the batch before anything is read. -/
theorem exists_run_filterBy_eq {key : ι → Except Fault TransferId} {items : List ι} {i : ι}
    (mem : i ∈ items) (h : ∀ tx, key i ≠ .ok tx) :
    ∃ first ∈ items, ∃ fault, key first = .error fault ∧
      (filterBy key items).run = .done (.error fault) := by
  obtain ⟨first, hfirst, fault, hfault, hkeys⟩ := exists_keys_eq_error mem h
  refine ⟨first, hfirst, fault, hfault, ?_⟩
  rw [filterBy, hkeys]
  rfl

/-- What is left of a batch whose flags have been read. -/
def afterFlags (items : List ι) : Except ReadFault (List Bool) → Plan (Except Fault (List ι))
  | .error cause => .count .ledger .queryFailure (.done (.error (.read cause)))
  | .ok flags => .done (.ok (keep items flags))

theorem filterBy_run {key : ι → Except Fault TransferId} {items : List ι}
    {txs : List TransferId} (h : Keyed key items txs) :
    (filterBy key items).run = .flags txs (afterFlags items) := by
  rw [filterBy, keys_eq_ok_iff.mpr h]
  refine congrArg (Plan.flags txs) (funext fun r => ?_)
  cases r <;> rfl

section Completing

variable (d : Deployment σ) {key : ι → Except Fault TransferId} {items : List ι}
  {txs : List TransferId} (keyed : Keyed key items txs) {w : World σ}

include keyed

theorem complete_filterBy (w : World σ) :
    (filterBy key items).run.complete d w =
      (afterFlags items (d.readFlags txs w).1).complete d (d.readFlags txs w).2 := by
  rw [filterBy_run keyed]
  rfl

/-- A batch leaves behind what its reads do. -/
theorem world_filterBy (quiet : w.notices = []) :
    ((filterBy key items).run.complete d w).2.chain = (d.readFlags txs w).2.chain ∧
      ((filterBy key items).run.complete d w).2.log = (d.readFlags txs w).2.log := by
  obtain ⟨-, -, -, hnotices⟩ := d.exists_log_readFlags txs w
  have hdeliver := d.deliver_of_quiet (hnotices.trans quiet)
  rw [complete_filterBy d keyed]
  cases (d.readFlags txs w).1 with
  | error cause =>
    rw [afterFlags, Plan.complete_count, Deployment.chain_tally, Deployment.log_tally]
    exact ⟨congrArg World.chain hdeliver, congrArg World.log hdeliver⟩
  | ok flags => exact ⟨congrArg World.chain hdeliver, congrArg World.log hdeliver⟩

/-- If all its reads have a flag, a batch keeps the items whose flag is set. -/
theorem complete_filterBy_of_answers {flags : List Bool}
    (answers : (d.readEach txs w).1 = flags.map .ok) :
    ((filterBy key items).run.complete d w).1 = .ok (keep items flags) := by
  rw [complete_filterBy d keyed, d.readFlags_of_answers answers]
  rfl

/-- If one of its reads fails, a batch fails. -/
theorem complete_filterBy_of_unread {cause : ReadFault}
    (mem : .error cause ∈ (d.readEach txs w).1) :
    ∃ first, ((filterBy key items).run.complete d w).1 = .error (.read first) := by
  obtain ⟨first, hflags⟩ := d.exists_readFlags_eq_error mem
  refine ⟨first, ?_⟩
  rw [complete_filterBy d keyed, hflags, afterFlags, Plan.complete_count]
  rfl

end Completing

end Inquiry

end TransferRelay
