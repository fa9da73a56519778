import SqlComposer.Json.Reading
import SqlComposer.Proofs.Outcome

/-!
How deep documents are nested: a document that was read is less deep than the limit of the reader,
and settling the names in a document makes it no deeper.
-/

namespace SqlComposer.Json

mutual

def depth : Json → Nat
  | .array items => depthItems items + 1
  | .object members => depthMembers members + 1
  | _ => 0

def depthItems : List Json → Nat
  | [] => 0
  | item :: items => max (depth item) (depthItems items)

def depthMembers : List (String × Json) → Nat
  | [] => 0
  | (_, value) :: members => max (depth value) (depthMembers members)

end

theorem readItems_eq_ok {fuel levels : Nat} {first : Bool} {text rest : List Char}
    {items : List Json} (read : readItems (fuel + 1) levels first text = .ok (items, rest)) :
    items = [] ∨ ∃ start item between others, readValue fuel levels start = .ok (item, between) ∧
      readItems fuel levels false between = .ok (others, rest) ∧ items = item :: others := by
  rw [readItems] at read
  split at read
  · cases read
  · cases read
    exact .inl rfl
  · right
    extract_lets go at read
    have inside : ∀ start, go start = .ok (items, rest) →
        ∃ item between others, readValue fuel levels start = .ok (item, between) ∧
          readItems fuel levels false between = .ok (others, rest) ∧ items = item :: others := by
      intro start read
      obtain ⟨⟨item, between⟩, value, read⟩ := bind_eq_ok.mp read
      obtain ⟨⟨others, after⟩, inside, same⟩ := bind_eq_ok.mp read
      cases same
      exact ⟨item, between, others, value, inside, rfl⟩
    split at read
    · exact ⟨_, inside _ read⟩
    · split at read
      · split at read
        · cases read
        · cases read
        · exact ⟨_, inside _ read⟩
      · cases read

theorem readMembers_eq_ok {fuel levels : Nat} {first : Bool} {text rest : List Char}
    {members : List (String × Json)}
    (read : readMembers (fuel + 1) levels first text = .ok (members, rest)) :
    members = [] ∨ ∃ name start value between others,
      readValue fuel levels start = .ok (value, between) ∧
      readMembers fuel levels false between = .ok (others, rest) ∧
        members = (name, value) :: others := by
  rw [readMembers] at read
  split at read
  · cases read
  · cases read
    exact .inl rfl
  · right
    extract_lets go at read
    have inside : ∀ start, go start = .ok (members, rest) →
        ∃ name valued value between others,
          readValue fuel levels valued = .ok (value, between) ∧
          readMembers fuel levels false between = .ok (others, rest) ∧
            members = (name, value) :: others := by
      intro start read
      simp only [go] at read
      split at read
      · obtain ⟨⟨name, after⟩, _, read⟩ := bind_eq_ok.mp read
        dsimp only at read
        split at read
        · cases read
        · obtain ⟨⟨value, between⟩, found, read⟩ := bind_eq_ok.mp read
          obtain ⟨⟨others, rest⟩, inside, same⟩ := bind_eq_ok.mp read
          cases same
          exact ⟨name, _, value, between, others, found, inside, rfl⟩
        · cases read
      · cases read
    split at read
    · exact inside _ read
    · split at read
      · split at read
        · cases read
        · cases read
        · exact inside _ read
      · cases read

mutual

theorem depth_of_readValue {fuel levels : Nat} {text rest : List Char} {document : Json}
    (read : readValue fuel levels text = .ok (document, rest)) : document.depth ≤ levels - 1 := by
  match fuel with
  | 0 => cases read
  | fuel + 1 =>
      rw [readValue] at read
      split at read
      · cases read
      · obtain ⟨_, _, same⟩ := map_eq_ok.mp read
        cases same
        exact Nat.zero_le _
      · obtain ⟨_, _, same⟩ := map_eq_ok.mp read
        cases same
        exact Nat.zero_le _
      · obtain ⟨_, _, same⟩ := map_eq_ok.mp read
        cases same
        exact Nat.zero_le _
      · obtain ⟨_, _, same⟩ := bind_eq_ok.mp read
        cases same
        exact Nat.zero_le _
      · obtain ⟨_, _, same⟩ := bind_eq_ok.mp read
        cases same
        exact Nat.zero_le _
      · split at read
        · cases read
        · obtain ⟨⟨items, after⟩, inside, same⟩ := bind_eq_ok.mp read
          cases same
          have shallow := depthItems_of_readItems inside
          simp only [depth]
          omega
      · split at read
        · cases read
        · obtain ⟨⟨members, after⟩, inside, same⟩ := bind_eq_ok.mp read
          cases same
          have shallow := depthMembers_of_readMembers inside
          simp only [depth]
          omega
      · split at read
        · obtain ⟨_, _, same⟩ := bind_eq_ok.mp read
          cases same
          exact Nat.zero_le _
        · cases read

theorem depthItems_of_readItems {fuel levels : Nat} {first : Bool} {text rest : List Char}
    {items : List Json} (read : readItems fuel levels first text = .ok (items, rest)) :
    depthItems items ≤ levels - 1 := by
  match fuel with
  | 0 => cases read
  | fuel + 1 =>
      rcases readItems_eq_ok read with rfl | ⟨start, item, between, others, value, inside, rfl⟩
      · exact Nat.zero_le _
      · have front := depth_of_readValue value
        have back := depthItems_of_readItems inside
        simp only [depthItems]
        omega

theorem depthMembers_of_readMembers {fuel levels : Nat} {first : Bool} {text rest : List Char}
    {members : List (String × Json)}
    (read : readMembers fuel levels first text = .ok (members, rest)) :
    depthMembers members ≤ levels - 1 := by
  match fuel with
  | 0 => cases read
  | fuel + 1 =>
      rcases readMembers_eq_ok read with rfl | ⟨name, start, value, between, others, found, inside,
        rfl⟩
      · exact Nat.zero_le _
      · have front := depth_of_readValue found
        have back := depthMembers_of_readMembers inside
        simp only [depthMembers]
        omega

end

theorem depth_le_depthMembers {members : List (String × Json)} {member : String × Json}
    (found : member ∈ members) : member.2.depth ≤ depthMembers members := by
  induction members with
  | nil => cases found
  | cons first others ih =>
      simp only [depthMembers]
      rcases List.mem_cons.mp found with rfl | later
      · exact Nat.le_max_left _ _
      · exact Nat.le_trans (ih later) (Nat.le_max_right _ _)

theorem depthMembers_le {members : List (String × Json)} {bound : Nat}
    (each : ∀ member ∈ members, member.2.depth ≤ bound) : depthMembers members ≤ bound := by
  induction members with
  | nil => exact Nat.zero_le bound
  | cons first others ih =>
      have rest := ih fun member found => each member (by simp [found])
      have front := each first (by simp)
      simp only [depthMembers]
      omega

theorem depthMembers_assignAll (members : List (String × Json)) :
    depthMembers (assignAll members) ≤ depthMembers members :=
  depthMembers_le fun _ found => depth_le_depthMembers (mem_assignAll found)

mutual

theorem depth_settle (document : Json) : document.settle.depth ≤ document.depth := by
  match document with
  | .null | .bool _ | .number _ | .string _ => exact Nat.le_refl _
  | .array items =>
      have inside := depthItems_settleItems items
      simp only [settle, depth]
      omega
  | .object members =>
      have kept := depthMembers_assignAll (settleMembers members)
      have inside := depthMembers_settleMembers members
      simp only [settle, depth]
      omega

theorem depthItems_settleItems (items : List Json) :
    depthItems (settleItems items) ≤ depthItems items := by
  match items with
  | [] => exact Nat.le_refl _
  | item :: items =>
      have front := depth_settle item
      have back := depthItems_settleItems items
      simp only [settleItems, depthItems]
      omega

theorem depthMembers_settleMembers (members : List (String × Json)) :
    depthMembers (settleMembers members) ≤ depthMembers members := by
  match members with
  | [] => exact Nat.le_refl _
  | (name, value) :: members =>
      have front := depth_settle value
      have back := depthMembers_settleMembers members
      simp only [settleMembers, depthMembers]
      omega

end

theorem depth_of_read {text : String} {document : Json} (found : read text = .ok document) :
    document.depth < depthLimit := by
  obtain ⟨unsettled, parsed, rfl⟩ := map_eq_ok.mp found
  obtain ⟨⟨value, rest⟩, valued, ended⟩ := bind_eq_ok.mp (mapError_eq_ok.mp parsed)
  have same : unsettled = value := by
    dsimp only at ended
    split at ended
    · exact (Except.ok.inj ended).symm
    · cases ended
  have shallow := depth_of_readValue valued
  have settled := depth_settle unsettled
  rw [← same] at shallow
  have limit : depthLimit = 128 := rfl
  omega

end SqlComposer.Json
