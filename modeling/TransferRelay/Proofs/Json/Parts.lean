import TransferRelay.Proofs.Json.Completeness
import Mathlib.Data.List.Induction
import Mathlib.Data.String.Basic

/-!
# Parts of texts

An object is read member by member, and the last of one name counts: `get?_object`. `HasMember` and
`HasItems` say which text a member or the items of a text have, so that what is said about a value
can be said about the text that stands for it.
-/

namespace TransferRelay.Json

/-! ## Members -/

namespace Members

variable {name other : String} {value : Json} {members : List (String × Json)}

theorem get?_cons (name other : String) (value : Json) (members : List (String × Json)) :
    get? name ((other, value) :: members) =
      if name = other then some value else get? name members := by
  rw [get?, List.lookup_cons]
  by_cases h : name = other
  · rw [if_pos h, beq_iff_eq.mpr h]
  · rw [if_neg h, beq_eq_false_iff_ne.mpr h]
    rfl

/-- A member that is set has its value, and the others keep theirs. -/
theorem get?_insert (name other : String) (value : Json) (members : List (String × Json)) :
    get? name (insert other value members) =
      if name = other then some value else get? name members := by
  induction members with
  | nil => exact get?_cons ..
  | cons m members ih =>
    obtain ⟨first, old⟩ := m
    rw [insert]
    split
    · exact get?_cons ..
    · split
      · rename_i hsame
        subst hsame
        simp only [get?_cons]
        split <;> rfl
      · rename_i hother
        simp only [get?_cons, ih]
        by_cases hfirst : name = first
        · have hne : name ≠ other := fun h => hother (h.symm.trans hfirst)
          rw [if_pos hfirst, if_neg hne, if_pos hfirst]
        · rw [if_neg hfirst, if_neg hfirst]

/-- The members stand in the order of their names, each name once. -/
def Ordered (members : List (String × Json)) : Prop :=
  (members.map Prod.fst).Pairwise (· < ·)

theorem Ordered.nodup (h : Ordered members) : (members.map Prod.fst).Nodup :=
  h.imp fun hlt => ne_of_lt hlt

theorem mem_names_insert (h : other ∈ (insert name value members).map Prod.fst) :
    other = name ∨ other ∈ members.map Prod.fst := by
  induction members with
  | nil => exact .inl (by simpa [insert] using h)
  | cons m members ih =>
    obtain ⟨first, old⟩ := m
    rw [insert] at h
    split at h
    · exact List.mem_cons.mp h
    · split at h
      · rcases List.mem_cons.mp h with h | h
        · exact .inl h
        · exact .inr (List.mem_cons_of_mem _ h)
      · rcases List.mem_cons.mp h with h | h
        · exact .inr (h ▸ List.mem_cons_self)
        · exact (ih h).imp_right (List.mem_cons_of_mem _)

theorem Ordered.insert (h : Ordered members) (name : String) (value : Json) :
    Ordered (Members.insert name value members) := by
  induction members with
  | nil => exact List.pairwise_singleton _ _
  | cons m members ih =>
    obtain ⟨first, old⟩ := m
    obtain ⟨hfirst, hrest⟩ := List.pairwise_cons.mp h
    rw [Members.insert]
    split
    · rename_i hlt
      refine List.pairwise_cons.mpr ⟨fun other hother => ?_, h⟩
      rcases List.mem_cons.mp hother with rfl | hother
      · exact hlt
      · exact lt_trans hlt (hfirst other hother)
    · split
      · rename_i hsame
        subst hsame
        exact h
      · rename_i hnot hne
        refine List.pairwise_cons.mpr ⟨fun other hother => ?_, ih hrest⟩
        rcases mem_names_insert hother with rfl | hother
        · exact lt_of_le_of_ne (not_lt.mp hnot) (Ne.symm hne)
        · exact hfirst other hother

end Members

/-- The last of members with a name. -/
def lastNamed (name : String) (members : List WrittenMember) : Option WrittenMember :=
  members.reverse.find? (·.name = name)

/-- The members of an object as it is read. -/
theorem exists_object (members : List WrittenMember) :
    ∃ ms, object (members.map WrittenMember.pair) = .obj ms ∧ Members.Ordered ms ∧
      ∀ name, Members.get? name ms = (lastNamed name members).map (·.value) := by
  refine ⟨_, rfl, ?_⟩
  -- from the last member on, which overwrites what those before it have set
  induction members using List.reverseRecOn with
  | nil => exact ⟨.nil, fun _ => rfl⟩
  | append_singleton members m ih =>
    rw [List.map_append, List.foldl_append]
    refine ⟨ih.1.insert _ _, fun name => ?_⟩
    have hlast : lastNamed name (members ++ [m]) =
        if m.name = name then some m else lastNamed name members := by
      rw [lastNamed, List.reverse_append, List.reverse_singleton, List.singleton_append,
        List.find?_cons]
      by_cases h : m.name = name
      · rw [if_pos h, decide_eq_true h]
      · rw [if_neg h, decide_eq_false h]
        rfl
    show Members.get? name (Members.insert m.name m.value _) = _
    rw [Members.get?_insert, hlast, ih.2]
    by_cases h : m.name = name
    · rw [if_pos h, if_pos h.symm]
      rfl
    · rw [if_neg h, if_neg (Ne.symm h)]

/-! ## Parts -/

/-- An object is written with this as its last member of a name. -/
inductive HasMember (depth : Nat) (name : String) (member : Written) : Written → Prop
  | mk {first m : WrittenMember} {rest : List WrittenMember} {cs : List Char}
      (plain : first.name ≠ embeddedName) (labelled : ∀ m ∈ first :: rest, m.Labelled)
      (each : ∀ m ∈ first :: rest, Spells depth m.text m.value)
      (last : lastNamed name (first :: rest) = some m) (written : m.toWritten = member)
      (gaps : InGaps (objectText (first :: rest)) cs) :
      HasMember depth name member ⟨cs, .object ((first :: rest).map WrittenMember.pair)⟩

/-- An array is written with these items. -/
inductive HasItems (depth : Nat) (items : List Written) : Written → Prop
  | mk {cs : List Char} (nonempty : items ≠ [])
      (each : ∀ item ∈ items, Spells depth item.text item.value)
      (gaps : InGaps (arrayText items) cs) :
      HasItems depth items ⟨cs, .arr (items.map Written.value)⟩

variable {depth : Nat} {name : String} {member w : Written}

theorem HasMember.spells (h : HasMember depth name member w) :
    Spells (depth + 1) w.text w.value := by
  obtain ⟨plain, labelled, each, -, -, gaps⟩ := h
  exact .gaps gaps (.members plain labelled each)

/-- The object gives the value of the member to its name. -/
theorem HasMember.exists_obj (h : HasMember depth name member w) :
    ∃ ms, w.value = .obj ms ∧ (ms.map Prod.fst).Nodup ∧
      Members.get? name ms = some member.value := by
  obtain ⟨-, -, -, last, rfl, -⟩ := h
  obtain ⟨ms, hms, ordered, each⟩ := exists_object _
  refine ⟨ms, hms, ordered.nodup, ?_⟩
  rw [each, last]
  rfl

theorem HasMember.get? (h : HasMember depth name member w) :
    w.value.get? name = some member.value := by
  obtain ⟨ms, hms, -, hget⟩ := h.exists_obj
  rw [hms]
  exact hget

/-- The text of the member spells its value. -/
theorem HasMember.spells_member (h : HasMember depth name member w) :
    Spells depth member.text member.value := by
  obtain ⟨-, -, each, last, rfl, -⟩ := h
  exact each _ (List.mem_reverse.mp (List.mem_of_find?_eq_some last))

end TransferRelay.Json
