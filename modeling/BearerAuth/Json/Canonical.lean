import BearerAuth.Json.Basic

/-! Canonical values: the keys of every object are in strictly increasing order, so none
is repeated. Any value has a canonical form, in which the last value under a repeated key
counts. -/

namespace BearerAuth.Json

/-! ## Ordered members -/

/-- Keys in strictly increasing order. -/
def Ordered (members : List Member) : Prop := members.Pairwise (·.1 < ·.1)

/-- Sets the value under a key among ordered members. -/
def insert (key : String) (value : Json) : List Member → List Member
  | [] => [(key, value)]
  | member :: members =>
      if key < member.1 then (key, value) :: member :: members
      else if key = member.1 then (key, value) :: members
      else member :: insert key value members

/-- Sets the value under a key that is not there yet. -/
def insertNew (key : String) (value : Json) (members : List Member) : List Member :=
  if members.any (·.1 == key) then members else insert key value members

theorem keys_insert {key : String} {value : Json} {members : List Member} {member : Member}
    (h : member ∈ insert key value members) : member = (key, value) ∨ member ∈ members := by
  induction members with
  | nil => simpa [insert] using h
  | cons first members ih =>
      simp only [insert] at h
      split at h
      · simpa using h
      · split at h
        · rcases List.mem_cons.mp h with h | h
          · exact .inl h
          · exact .inr (List.mem_cons_of_mem _ h)
        · rcases List.mem_cons.mp h with h | h
          · exact .inr (h ▸ List.mem_cons_self)
          · rcases ih h with h | h
            · exact .inl h
            · exact .inr (List.mem_cons_of_mem _ h)

theorem lt_of_not_lt_of_ne {a b : String} (h : ¬ a < b) (hne : a ≠ b) : b < a :=
  Decidable.byContradiction fun hb => hne (String.le_antisymm (String.not_lt.mp hb) (String.not_lt.mp h))

theorem ordered_insert (key : String) (value : Json) {members : List Member}
    (h : Ordered members) : Ordered (insert key value members) := by
  induction members with
  | nil => simp [insert, Ordered]
  | cons first members ih =>
      obtain ⟨hf, hm⟩ := List.pairwise_cons.mp h
      simp only [insert]
      split
      · rename_i hk
        refine List.pairwise_cons.mpr ⟨fun other ho => ?_, h⟩
        rcases List.mem_cons.mp ho with rfl | ho
        · exact hk
        · exact String.lt_trans hk (hf other ho)
      · rename_i hk
        split
        · rename_i he
          exact List.pairwise_cons.mpr ⟨fun other ho => he ▸ hf other ho, hm⟩
        · rename_i he
          refine List.pairwise_cons.mpr ⟨fun other ho => ?_, ih hm⟩
          rcases keys_insert ho with rfl | ho
          · exact lt_of_not_lt_of_ne hk he
          · exact hf other ho

/-! ## Canonical values -/

mutual

/-- Whether every object in a value has ordered members. -/
def IsCanonical : Json → Prop
  | .atom _ | .str _ => True
  | .arr items => AllCanonical items
  | .obj members => Ordered members ∧ MembersCanonical members

def AllCanonical : List Json → Prop
  | [] => True
  | item :: items => IsCanonical item ∧ AllCanonical items

def MembersCanonical : List Member → Prop
  | [] => True
  | (_, value) :: members => IsCanonical value ∧ MembersCanonical members

end

mutual

def canonical : Json → Json
  | .atom value => .atom value
  | .str text => .str text
  | .arr items => .arr (canonicalItems items)
  | .obj members => .obj (canonicalMembers members)

def canonicalItems : List Json → List Json
  | [] => []
  | item :: items => canonical item :: canonicalItems items

/-- The ordered members with canonical values; an earlier value under a key gives way. -/
def canonicalMembers : List Member → List Member
  | [] => []
  | (key, value) :: members => insertNew key (canonical value) (canonicalMembers members)

end

theorem membersCanonical_iff {members : List Member} :
    MembersCanonical members ↔ ∀ member ∈ members, IsCanonical member.2 := by
  induction members with
  | nil => simp [MembersCanonical]
  | cons member members ih => simp [MembersCanonical, ih]

theorem membersCanonical_insert {key : String} {value : Json} {members : List Member}
    (hv : IsCanonical value) (hm : MembersCanonical members) :
    MembersCanonical (insert key value members) := by
  rw [membersCanonical_iff] at hm ⊢
  intro member h
  rcases keys_insert h with rfl | h
  · exact hv
  · exact hm member h

mutual

theorem isCanonical_canonical : (value : Json) → IsCanonical (canonical value)
  | .atom _ => by simp [canonical, IsCanonical]
  | .str _ => by simp [canonical, IsCanonical]
  | .arr items => by
      simpa only [canonical, IsCanonical] using allCanonical_canonicalItems items
  | .obj members => by
      simpa only [canonical, IsCanonical] using canonicalMembers_spec members

theorem allCanonical_canonicalItems : (items : List Json) → AllCanonical (canonicalItems items)
  | [] => by simp [canonicalItems, AllCanonical]
  | item :: items => by
      simpa only [canonicalItems, AllCanonical] using
        ⟨isCanonical_canonical item, allCanonical_canonicalItems items⟩

theorem canonicalMembers_spec : (members : List Member) →
    Ordered (canonicalMembers members) ∧ MembersCanonical (canonicalMembers members)
  | [] => by simp [canonicalMembers, Ordered, MembersCanonical]
  | (key, value) :: members => by
      have ih := canonicalMembers_spec members
      simp only [canonicalMembers, insertNew]
      split
      · exact ih
      · exact ⟨ordered_insert _ _ ih.1, membersCanonical_insert (isCanonical_canonical value) ih.2⟩

end

end BearerAuth.Json
