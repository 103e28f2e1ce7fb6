import BearerAuth.Claims
import BearerAuth.Proofs.Json.RoundTrip
import BearerAuth.Token.Header
import Mathlib.Data.List.Sort

/-! Claim maps as finite functions from names to values. An object that is canonical already
is its own claim map, and in the claim map of any object the last value under a name is
found. -/

namespace BearerAuth

open Json

namespace Json

/-! ## Values under a key -/

/-- The first value under a key. -/
def firstValue? (members : List Member) (key : String) : Option Json :=
  (members.find? (·.1 == key)).map (·.2)

theorem firstValue?_cons (member : Member) (members : List Member) (key : String) :
    firstValue? (member :: members) key =
      if member.1 = key then some member.2 else firstValue? members key := by
  unfold firstValue?
  by_cases h : member.1 = key
  · rw [List.find?_cons_of_pos (by simpa using h), if_pos h]
    rfl
  · rw [List.find?_cons_of_neg (by simpa using h), if_neg h]

theorem any_key_eq_isSome (members : List Member) (key : String) :
    members.any (·.1 == key) = (firstValue? members key).isSome := by
  induction members with
  | nil => rfl
  | cons member members ih =>
      rw [firstValue?_cons, List.any_cons, ih]
      by_cases h : member.1 = key <;> simp [h]

theorem firstValue?_insert (key : String) (value : Json) (members : List Member)
    (name : String) :
    firstValue? (insert key value members) name =
      if key = name then some value else firstValue? members name := by
  induction members with
  | nil => simp [insert, firstValue?_cons]
  | cons member members ih =>
      simp only [insert]
      split
      · rw [firstValue?_cons]
      · split
        · rename_i hkey
          rw [firstValue?_cons, firstValue?_cons]
          by_cases h : key = name
          · simp [h]
          · rw [if_neg h, if_neg h, if_neg (hkey ▸ h)]
        · rename_i hkey
          rw [firstValue?_cons, firstValue?_cons, ih]
          by_cases h : key = name
          · rw [if_pos h, if_pos h, if_neg (fun hm => hkey (h.trans hm.symm))]
          · rw [if_neg h, if_neg h]

theorem firstValue?_insertNew (key : String) (value : Json) (members : List Member)
    (name : String) :
    firstValue? (insertNew key value members) name =
      if key = name then (firstValue? members name).or (some value)
      else firstValue? members name := by
  unfold insertNew
  rw [any_key_eq_isSome]
  by_cases h : key = name
  · subst h
    cases hfound : firstValue? members key with
    | none => simp [firstValue?_insert]
    | some found => simp [hfound]
  · rw [if_neg h]
    split
    · rfl
    · rw [firstValue?_insert, if_neg h]

theorem lookup?_cons (member : Member) (members : List Member) (name : String) :
    lookup? (member :: members) name =
      if member.1 = name then (lookup? members name).or (some member.2)
      else lookup? members name := by
  unfold lookup? valuesOf
  by_cases h : member.1 = name
  · simp [h, List.getLast?_cons]
  · simp [h]

/-- What is written once at most is all there is to find. -/
theorem valuesOf_eq_lookup? {members : List Member} {key : String}
    (h : (valuesOf members key).length ≤ 1) :
    valuesOf members key = (lookup? members key).toList := by
  rw [lookup?]
  cases hvalues : valuesOf members key with
  | nil => rfl
  | cons first rest =>
      cases rest with
      | nil => rfl
      | cons other rest => simp [hvalues] at h

/-- The canonical form of an object holds the last value under each key. -/
theorem firstValue?_canonicalMembers (members : List Member) (name : String) :
    firstValue? (canonicalMembers members) name = (lookup? members name).map Json.canonical := by
  induction members with
  | nil => rfl
  | cons member members ih =>
      obtain ⟨key, value⟩ := member
      rw [canonicalMembers, firstValue?_insertNew, lookup?_cons, ih]
      by_cases h : key = name
      · simp only [h, if_true]
        cases lookup? members name <;> rfl
      · simp only [h, if_false]

/-! ## Ordered members -/

theorem valuesOf_eq_firstValue? {members : List Member} (h : Ordered members) (key : String) :
    valuesOf members key = (firstValue? members key).toList := by
  induction members with
  | nil => rfl
  | cons member members ih =>
      obtain ⟨hfirst, hrest⟩ := List.pairwise_cons.mp h
      rw [firstValue?_cons]
      by_cases hkey : member.1 = key
      · have hnone : members.filter (·.1 == key) = [] := by
          rw [List.filter_eq_nil_iff]
          intro other hother heq
          have hlt := hfirst other hother
          rw [hkey, beq_iff_eq.mp heq] at hlt
          exact String.lt_irrefl _ hlt
        simp [valuesOf, hkey, hnone]
      · rw [if_neg hkey, ← ih hrest]
        simp [valuesOf, hkey]

theorem lookup?_eq_firstValue? {members : List Member} (h : Ordered members) (key : String) :
    lookup? members key = firstValue? members key := by
  rw [lookup?, valuesOf_eq_firstValue? h]
  cases firstValue? members key <;> rfl

/-- A member that belongs before all others is set before them. -/
theorem insertNew_eq_cons {key : String} {value : Json} {members : List Member}
    (h : ∀ member ∈ members, key < member.1) :
    insertNew key value members = (key, value) :: members := by
  have hany : members.any (·.1 == key) = false := by
    rw [List.any_eq_false]
    intro member hmember heq
    have hlt := h member hmember
    rw [beq_iff_eq.mp heq] at hlt
    exact String.lt_irrefl _ hlt
  cases members with
  | nil => rfl
  | cons member members => simp [insertNew, hany, insert, h member (by simp)]

mutual

theorem canonical_eq : (value : Json) → value.IsCanonical → canonical value = value
  | .atom _, _ => rfl
  | .str _, _ => rfl
  | .arr items, h => by rw [canonical, canonicalItems_eq items h]
  | .obj members, h => by rw [canonical, canonicalMembers_eq members h.1 h.2]

theorem canonicalItems_eq : (items : List Json) → AllCanonical items → canonicalItems items = items
  | [], _ => rfl
  | item :: items, h => by rw [canonicalItems, canonical_eq item h.1, canonicalItems_eq items h.2]

theorem canonicalMembers_eq : (members : List Member) → Ordered members →
    MembersCanonical members → canonicalMembers members = members
  | [], _, _ => rfl
  | (key, value) :: members, ho, hc => by
      obtain ⟨hfirst, hrest⟩ := List.pairwise_cons.mp ho
      rw [canonicalMembers, canonical_eq value hc.1, canonicalMembers_eq members hrest hc.2,
        insertNew_eq_cons hfirst]

end

end Json

/-! ## Claim maps -/

namespace ClaimMap

@[simp] theorem get?_empty (name : String) : empty.get? name = none := rfl

@[simp] theorem get?_set (claims : ClaimMap) (key : String) (value : Json) (h : value.IsCanonical)
    (name : String) :
    (claims.set key value h).get? name = if key = name then some value else claims.get? name :=
  firstValue?_insert key value claims.members name

@[simp] theorem get?_setText (claims : ClaimMap) (key text name : String) :
    (claims.setText key text).get? name =
      if key = name then some (.str text) else claims.get? name :=
  get?_set claims key (.str text) _ name

@[simp] theorem get?_setNew (claims : ClaimMap) (key : String) (value : Json)
    (h : value.IsCanonical) (name : String) :
    (claims.setNew key value h).get? name =
      if key = name then (claims.get? name).or (some value) else claims.get? name := by
  unfold setNew
  by_cases hkey : key = name
  · subst hkey
    cases hfound : claims.get? key with
    | none => simp
    | some found => simp [hfound]
  · split <;> simp [hkey]

theorem get?_ofMembers (members : List Member) (name : String) :
    (ofMembers members).get? name = (lookup? members name).map Json.canonical :=
  firstValue?_canonicalMembers members name

/-- The claim map of an object that is canonical already holds the same members. -/
theorem ofMembers_members (claims : ClaimMap) : ofMembers claims.members = claims := by
  have h := canonicalMembers_eq claims.members claims.canonical.1 claims.canonical.2
  obtain ⟨members, hcanonical⟩ := claims
  simpa [ofMembers] using h

theorem lookup?_members (claims : ClaimMap) (name : String) :
    lookup? claims.members name = claims.get? name :=
  lookup?_eq_firstValue? claims.canonical.1 name

theorem isUnrepeated_members (claims : ClaimMap) (name : String) :
    Token.isUnrepeated claims.members name = true := by
  rw [Token.isUnrepeated, valuesOf_eq_firstValue? claims.canonical.1]
  cases firstValue? claims.members name <;> rfl

theorem mem_of_get? {claims : ClaimMap} {name : String} {value : Json}
    (h : claims.get? name = some value) : (name, value) ∈ claims.members := by
  obtain ⟨member, hfound, rfl⟩ := Option.map_eq_some_iff.mp h
  have hname : member.1 = name := by simpa using List.find?_some hfound
  exact hname ▸ List.mem_of_find?_eq_some hfound

theorem get?_of_mem {claims : ClaimMap} {name : String} {value : Json}
    (h : (name, value) ∈ claims.members) : claims.get? name = some value := by
  have hvalues : value ∈ valuesOf claims.members name :=
    List.mem_map.mpr ⟨(name, value), List.mem_filter.mpr ⟨h, beq_self_eq_true name⟩, rfl⟩
  rw [valuesOf_eq_firstValue? claims.canonical.1] at hvalues
  exact Option.mem_toList.mp hvalues

/-- Claim maps with the same value under every name are the same. -/
theorem eq_of_get? {claims others : ClaimMap} (h : ∀ name, claims.get? name = others.get? name) :
    claims = others := by
  have hsub {a b : ClaimMap} (hab : ∀ name, a.get? name = b.get? name) :
      ∀ member ∈ a.members, member ∈ b.members := by
    rintro ⟨name, value⟩ hmember
    apply mem_of_get?
    rw [← hab name]
    exact get?_of_mem hmember
  have hirrefl : Std.Irrefl fun a b : Member => a.1 < b.1 := ⟨fun a => String.lt_irrefl a.1⟩
  have hantisymm : Std.Antisymm fun a b : Member => a.1 < b.1 :=
    ⟨fun a b hab hba => absurd (String.lt_trans hab hba) (String.lt_irrefl a.1)⟩
  have hmembers : claims.members = others.members :=
    claims.canonical.1.eq_of_mem_iff others.canonical.1 fun member =>
      ⟨hsub h member, hsub (fun name => (h name).symm) member⟩
  obtain ⟨members, hcanonical⟩ := claims
  obtain ⟨others, hothers⟩ := others
  cases hmembers
  rfl

theorem forall_mem_set {claims : ClaimMap} {key : String} {value : Json} {h : value.IsCanonical}
    {p : Member → Prop} (hnew : p (key, value)) (hold : ∀ member ∈ claims.members, p member) :
    ∀ member ∈ (claims.set key value h).members, p member := by
  intro member hmember
  rcases keys_insert hmember with rfl | hmember
  · exact hnew
  · exact hold member hmember

theorem forall_mem_setNew {claims : ClaimMap} {key : String} {value : Json} {h : value.IsCanonical}
    {p : Member → Prop} (hnew : p (key, value)) (hold : ∀ member ∈ claims.members, p member) :
    ∀ member ∈ (claims.setNew key value h).members, p member := by
  unfold setNew
  split
  · exact hold
  · exact forall_mem_set hnew hold

end ClaimMap

end BearerAuth
