import BearerAuth.Proofs.Json.Lexing

/-! Written JSON values are read back. Lexing leaves the lexemes of a value in front of those of the
rest, with its numbers read anew, and reading them completes this value inside whatever is still
open, as long as the nesting stays below its bound. Only a 64-bit float may be read as another
number than it was, so an exact value is read back as it is. -/

namespace BearerAuth.Json

/-! ## Exact values -/

mutual

/-- Whether every number in a value is an integer that is kept exactly. -/
def isExact : Json → Bool
  | .atom value => value.isExact
  | .str _ => true
  | .arr items => itemsExact items
  | .obj members => membersExact members

/-- Whether every item is exact. -/
def itemsExact : List Json → Bool
  | [] => true
  | item :: items => isExact item && itemsExact items

/-- Whether every member's value is exact. -/
def membersExact : List Member → Bool
  | [] => true
  | (_, value) :: members => isExact value && membersExact members

end

theorem membersExact_iff {members : List Member} :
    membersExact members = true ↔ ∀ member ∈ members, isExact member.2 = true := by
  induction members with
  | nil => simp [membersExact]
  | cons member members ih => simp [membersExact, ih]

theorem nestingOfMembers_le_iff {members : List Member} {n : Nat} :
    nestingOfMembers members ≤ n ↔ ∀ member ∈ members, nesting member.2 ≤ n := by
  induction members with
  | nil => simp [nestingOfMembers]
  | cons member members ih => simp only [nestingOfMembers, Nat.max_le, ih, List.forall_mem_cons]

/-! ## Numbers read anew -/

mutual

/-- What a written value is read as, if it is read at all: its numbers are read anew, and the rest
is as it was. -/
def reread? : Json → Option Json
  | .atom value => (atom? (atomText value)).map .atom
  | .str text => some (.str text)
  | .arr items => (rereadItems? items).map .arr
  | .obj members => (rereadMembers? members).map .obj

def rereadItems? : List Json → Option (List Json)
  | [] => some []
  | item :: items => (reread? item).bind fun item => (rereadItems? items).map (item :: ·)

def rereadMembers? : List Member → Option (List Member)
  | [] => some []
  | (key, value) :: members =>
      (reread? value).bind fun value => (rereadMembers? members).map ((key, value) :: ·)

end

mutual

theorem reread?_of_isExact : (value : Json) → value.isExact = true → reread? value = some value
  | .atom value, h => by rw [reread?, atom?_atomText h, Option.map_some]
  | .str _, _ => rfl
  | .arr items, h => by rw [reread?, rereadItems?_of_itemsExact items h, Option.map_some]
  | .obj members, h => by rw [reread?, rereadMembers?_of_membersExact members h, Option.map_some]

theorem rereadItems?_of_itemsExact : (items : List Json) → itemsExact items = true →
    rereadItems? items = some items
  | [], _ => rfl
  | item :: items, h => by
      rw [itemsExact, Bool.and_eq_true] at h
      rw [rereadItems?, reread?_of_isExact item h.1, rereadItems?_of_itemsExact items h.2]
      rfl

theorem rereadMembers?_of_membersExact : (members : List Member) → membersExact members = true →
    rereadMembers? members = some members
  | [], _ => rfl
  | (key, value) :: members, h => by
      rw [membersExact, Bool.and_eq_true] at h
      rw [rereadMembers?, reread?_of_isExact value h.1, rereadMembers?_of_membersExact members h.2]
      rfl

end

theorem rereadItems?_cons_eq_some {item : Json} {items found : List Json}
    (h : rereadItems? (item :: items) = some found) :
    ∃ first others, found = first :: others ∧ reread? item = some first ∧
      rereadItems? items = some others := by
  obtain ⟨first, hfirst, h⟩ := Option.bind_eq_some_iff.mp h
  obtain ⟨others, hothers, rfl⟩ := Option.map_eq_some_iff.mp h
  exact ⟨first, others, rfl, hfirst, hothers⟩

theorem rereadMembers?_cons_eq_some {key : String} {value : Json} {members found : List Member}
    (h : rereadMembers? ((key, value) :: members) = some found) :
    ∃ first others, found = (key, first) :: others ∧ reread? value = some first ∧
      rereadMembers? members = some others := by
  obtain ⟨first, hfirst, h⟩ := Option.bind_eq_some_iff.mp h
  obtain ⟨others, hothers, rfl⟩ := Option.map_eq_some_iff.mp h
  exact ⟨first, others, rfl, hfirst, hothers⟩

/-! ## Lexing -/

theorem lexemes?_comma (rest : List Char) :
    lexemes? (',' :: rest) = (lexemes? rest).map (.comma :: ·) :=
  lexemes?_mark rfl rest

mutual

/-- The lexemes of a written value, its numbers read anew, are followed by those of the rest. -/
theorem lexemes?_chars : (value : Json) → ∀ rest, EndsWord rest →
    lexemes? ((lexemes value).flatMap Lexeme.text ++ rest) =
      (reread? value).bind fun found => (lexemes? rest).map (lexemes found ++ ·)
  | .atom value, rest, hrest => by
      simpa [lexemes, reread?, Option.bind_map, Function.comp_def] using lexemes?_atom value hrest
  | .str text, rest, _ => by
      simpa [lexemes, reread?] using lexemes?_str text rest
  | .arr items, rest, _ => by
      have hitems := lexemes?_itemChars items (']' :: rest) (endsWord_cons rfl rest)
      have hclose := lexemes?_mark (c := ']') rfl rest
      have hopen := lexemes?_mark (c := '[') rfl
        ((itemLexemes items).flatMap Lexeme.text ++ ']' :: rest)
      rw [hitems, hclose] at hopen
      cases hfound : rereadItems? items with
      | none => simpa [lexemes, Lexeme.text, reread?, hfound] using hopen
      | some found =>
          simpa [lexemes, Lexeme.text, reread?, hfound, Function.comp_def] using hopen
  | .obj members, rest, _ => by
      have hmembers := lexemes?_memberChars members ('\x7d' :: rest) (endsWord_cons rfl rest)
      have hclose := lexemes?_mark (c := '\x7d') rfl rest
      have hopen := lexemes?_mark (c := '\x7b') rfl
        ((memberLexemes members).flatMap Lexeme.text ++ '\x7d' :: rest)
      rw [hmembers, hclose] at hopen
      cases hfound : rereadMembers? members with
      | none => simpa [lexemes, Lexeme.text, reread?, hfound] using hopen
      | some found =>
          simpa [lexemes, Lexeme.text, reread?, hfound, Function.comp_def] using hopen

theorem lexemes?_itemChars : (items : List Json) → ∀ rest, EndsWord rest →
    lexemes? ((itemLexemes items).flatMap Lexeme.text ++ rest) =
      (rereadItems? items).bind fun found => (lexemes? rest).map (itemLexemes found ++ ·)
  | [], rest, _ => by simp [itemLexemes, rereadItems?]
  | [item], rest, hrest => by
      have hitem := lexemes?_chars item rest hrest
      cases hfound : reread? item with
      | none => simpa [itemLexemes, rereadItems?, hfound] using hitem
      | some found => simpa [itemLexemes, rereadItems?, hfound] using hitem
  | item :: other :: items, rest, hrest => by
      have hothers := lexemes?_itemChars (other :: items) rest hrest
      have hitem := lexemes?_chars item
        (',' :: ((itemLexemes (other :: items)).flatMap Lexeme.text ++ rest)) (endsWord_cons rfl _)
      rw [lexemes?_comma, hothers] at hitem
      rw [rereadItems?]
      cases hfirst : reread? item with
      | none => simpa [itemLexemes, Lexeme.text, hfirst] using hitem
      | some first =>
          rw [hfirst] at hitem
          cases hfound : rereadItems? (other :: items) with
          | none =>
              rw [hfound] at hitem
              simpa [itemLexemes, Lexeme.text] using hitem
          | some found =>
              rw [hfound] at hitem
              obtain ⟨second, others, rfl, -⟩ := rereadItems?_cons_eq_some hfound
              simpa [itemLexemes, Lexeme.text, Function.comp_def] using hitem

theorem lexemes?_memberChars : (members : List Member) → ∀ rest, EndsWord rest →
    lexemes? ((memberLexemes members).flatMap Lexeme.text ++ rest) =
      (rereadMembers? members).bind fun found => (lexemes? rest).map (memberLexemes found ++ ·)
  | [], rest, _ => by simp [memberLexemes, rereadMembers?]
  | [(key, value)], rest, hrest => by
      have hvalue := lexemes?_chars value rest hrest
      have hkey := lexemes?_str key (':' :: ((lexemes value).flatMap Lexeme.text ++ rest))
      rw [lexemes?_mark (c := ':') rfl, hvalue] at hkey
      cases hfound : reread? value with
      | none => simpa [memberLexemes, Lexeme.text, rereadMembers?, hfound] using hkey
      | some found =>
          simpa [memberLexemes, Lexeme.text, rereadMembers?, hfound, Function.comp_def] using hkey
  | (key, value) :: other :: members, rest, hrest => by
      have hothers := lexemes?_memberChars (other :: members) rest hrest
      have hvalue := lexemes?_chars value
        (',' :: ((memberLexemes (other :: members)).flatMap Lexeme.text ++ rest))
        (endsWord_cons rfl _)
      rw [lexemes?_comma, hothers] at hvalue
      have hkey := lexemes?_str key (':' :: ((lexemes value).flatMap Lexeme.text ++
        (',' :: ((memberLexemes (other :: members)).flatMap Lexeme.text ++ rest))))
      rw [lexemes?_mark (c := ':') rfl, hvalue] at hkey
      rw [rereadMembers?]
      cases hfirst : reread? value with
      | none => simpa [memberLexemes, Lexeme.text, hfirst] using hkey
      | some first =>
          rw [hfirst] at hkey
          cases hfound : rereadMembers? (other :: members) with
          | none =>
              rw [hfound] at hkey
              simpa [memberLexemes, Lexeme.text] using hkey
          | some found =>
              rw [hfound] at hkey
              obtain ⟨second, others, rfl, -⟩ := rereadMembers?_cons_eq_some hfound
              simpa [memberLexemes, Lexeme.text, Function.comp_def] using hkey

end

/-! ## Reading -/

/-- An array whose first item follows is read like one that awaits an item. -/
theorem step_firstItem (item : Json) (rest : List Lexeme) (stack : List Frame) :
    (lexemes item ++ rest).foldlM Reading.step (.firstItem stack) =
      (lexemes item ++ rest).foldlM Reading.step (.awaitValue (.array [] :: stack)) := by
  cases item <;> rfl

theorem step_firstItems (item : Json) (items : List Json) (stack : List Frame) :
    (itemLexemes (item :: items)).foldlM Reading.step (.firstItem stack) =
      (itemLexemes (item :: items)).foldlM Reading.step (.awaitValue (.array [] :: stack)) := by
  cases items with
  | nil => simpa [itemLexemes] using step_firstItem item [] stack
  | cons other items => exact step_firstItem item _ stack

/-- An object whose first key follows is read like one that awaits a key. -/
theorem step_firstKeys (member : Member) (members : List Member) (stack : List Frame) :
    (memberLexemes (member :: members)).foldlM Reading.step (.firstKey stack) =
      (memberLexemes (member :: members)).foldlM Reading.step (.awaitKey [] stack) := by
  cases members <;> rfl

/-- A frame is opened while the nesting stays below its bound. -/
theorem step_openArray (stack : List Frame) :
    Reading.step (.awaitValue stack) .openArray =
      if stack.length < maxNesting then some (.firstItem stack) else none := rfl

theorem step_openObject (stack : List Frame) :
    Reading.step (.awaitValue stack) .openObject =
      if stack.length < maxNesting then some (.firstKey stack) else none := rfl

/-- What stands between brackets is read to its end unless the brackets open too deep or it is
nested too deep itself. -/
theorem read_between {opening closing : Lexeme} {content : List Lexeme} {stack : List Frame}
    {first last : Reading} {depth : Nat} {value : Json}
    (hopen : Reading.step (.awaitValue stack) opening =
      if stack.length < maxNesting then some first else none)
    (hcontent : stack.length < maxNesting → content.foldlM Reading.step first =
      if stack.length + depth < maxNesting then some last else none)
    (hclose : Reading.step last closing = some (Reading.complete value stack)) :
    (opening :: content ++ [closing]).foldlM Reading.step (.awaitValue stack) =
      if stack.length + (depth + 1) ≤ maxNesting then some (Reading.complete value stack)
      else none := by
  rw [List.cons_append, List.foldlM_cons, hopen]
  by_cases hstack : stack.length < maxNesting
  · rw [if_pos hstack, Option.bind_eq_bind, Option.bind_some, List.foldlM_append, hcontent hstack]
    by_cases hdeep : stack.length + depth < maxNesting
    · rw [if_pos hdeep, if_pos (by omega), Option.bind_eq_bind, Option.bind_some, List.foldlM_cons,
        hclose]
      rfl
    · rw [if_neg hdeep, if_neg (by omega)]
      rfl
  · rw [if_neg hstack, if_neg (by omega)]
    rfl

/-- Of two parts that are read one behind the other, the deeper one decides. -/
theorem read_append {front behind : List Lexeme} {start middle last : Reading}
    {outer depth other : Nat}
    (hfront : front.foldlM Reading.step start =
      if outer + 1 + depth ≤ maxNesting then some middle else none)
    (hbehind : behind.foldlM Reading.step middle =
      if outer + other < maxNesting then some last else none) :
    (front ++ behind).foldlM Reading.step start =
      if outer + max depth other < maxNesting then some last else none := by
  rw [List.foldlM_append, hfront]
  by_cases hdeep : outer + 1 + depth ≤ maxNesting
  · rw [if_pos hdeep, Option.bind_eq_bind, Option.bind_some, hbehind]
    by_cases hother : outer + other < maxNesting
    · rw [if_pos hother, if_pos (by omega)]
    · rw [if_neg hother, if_neg (by omega)]
  · rw [if_neg hdeep, if_neg (by omega)]
    rfl

theorem read_nil {reading : Reading} {outer : Nat} (h : outer < maxNesting) :
    ([] : List Lexeme).foldlM Reading.step reading =
      if outer + 0 < maxNesting then some reading else none := by
  rw [Nat.add_zero, if_pos h]
  rfl

mutual

/-- Reading the lexemes of a value completes the value inside the frames that are open, unless it is
nested too deep in them. -/
theorem read_lexemes : (value : Json) → (stack : List Frame) → stack.length ≤ maxNesting →
    (lexemes value).foldlM Reading.step (.awaitValue stack) =
      if stack.length + nesting value ≤ maxNesting then some (Reading.complete value stack) else none
  | .atom _, _, h => by rw [nesting, Nat.add_zero, if_pos h]; rfl
  | .str _, _, h => by rw [nesting, Nat.add_zero, if_pos h]; rfl
  | .arr [], stack, _ => read_between (step_openArray stack) read_nil rfl
  | .arr (item :: items), stack, _ => by
      have hitems (hstack : stack.length < maxNesting) :=
        (step_firstItems item items stack).trans
          (read_items (item :: items) (by simp) [] stack hstack)
      exact read_between (step_openArray stack) hitems (by simp [Reading.step])
  | .obj [], stack, _ => read_between (step_openObject stack) read_nil rfl
  | .obj (member :: members), stack, _ => by
      have hmembers (hstack : stack.length < maxNesting) :=
        (step_firstKeys member members stack).trans
          (read_members (member :: members) (by simp) [] stack hstack)
      exact read_between (step_openObject stack) hmembers (by simp [Reading.step])

theorem read_items : (items : List Json) → items ≠ [] → (read : List Json) →
    (stack : List Frame) → stack.length < maxNesting →
    (itemLexemes items).foldlM Reading.step (.awaitValue (.array read :: stack)) =
      if stack.length + nestingOfItems items < maxNesting then
        some (.afterItem (items.reverse ++ read) stack)
      else none
  | [], hne, _, _, _ => absurd rfl hne
  | [item], _, read, stack, h => by
      have hitem := read_append (read_lexemes item (.array read :: stack) h) (read_nil h)
      rwa [List.append_nil] at hitem
  | item :: other :: items, _, read, stack, h => by
      have hothers := read_items (other :: items) (by simp) (item :: read) stack h
      rw [List.reverse_cons, List.append_assoc]
      exact read_append (read_lexemes item (.array read :: stack) h) hothers

theorem read_members : (members : List Member) → members ≠ [] → (read : List Member) →
    (stack : List Frame) → stack.length < maxNesting →
    (memberLexemes members).foldlM Reading.step (.awaitKey read stack) =
      if stack.length + nestingOfMembers members < maxNesting then
        some (.afterMember (members.reverse ++ read) stack)
      else none
  | [], hne, _, _, _ => absurd rfl hne
  | [(key, value)], _, read, stack, h => by
      have hvalue := read_append (read_lexemes value (.member read key :: stack) h) (read_nil h)
      rwa [List.append_nil] at hvalue
  | (key, value) :: other :: members, _, read, stack, h => by
      have hothers := read_members (other :: members) (by simp) ((key, value) :: read) stack h
      rw [List.reverse_cons, List.append_assoc]
      exact read_append (read_lexemes value (.member read key :: stack) h) hothers

end

/-! ## Texts -/

/-- A written value is read with its numbers read anew, unless it is nested too deep. -/
theorem ofText?_text_eq_some_iff {value found : Json} :
    ofText? value.text = some found ↔
      reread? value = some found ∧ found.nesting ≤ maxNesting := by
  have hlex := lexemes?_chars value [] endsWord_nil
  have hnone : lexemes? [] = some [] := by rw [lexemes?]
  rw [List.append_nil, hnone] at hlex
  rw [ofText?, text, String.toList_ofList, ofChars?, chars, hlex]
  cases reread? value with
  | none => simp
  | some read =>
      have hread := read_lexemes read [] (Nat.zero_le _)
      simp only [Option.bind_some, Option.map_some, List.append_nil, ofLexemes?, hread,
        List.length_nil, Nat.zero_add, Option.some.injEq]
      constructor
      · intro h
        split at h
        · rename_i hnesting
          cases h
          exact ⟨rfl, hnesting⟩
        · contradiction
      · rintro ⟨rfl, hnesting⟩
        rw [if_pos hnesting]
        rfl

/-- A written value is read back if it is exact and not nested too deep. -/
theorem ofText?_text {value : Json} (hexact : value.isExact = true)
    (hnesting : value.nesting ≤ maxNesting) : ofText? value.text = some value :=
  ofText?_text_eq_some_iff.mpr ⟨reread?_of_isExact value hexact, hnesting⟩

theorem ofOctets?_text_eq (value : Json) :
    ofOctets? (Text.octets value.text) = ofText? value.text := by
  rw [ofOctets?, Text.ofOctets?_octets, Option.bind_some]

theorem ofOctets?_text {value : Json} (hexact : value.isExact = true)
    (hnesting : value.nesting ≤ maxNesting) :
    ofOctets? (Text.octets value.text) = some value := by
  rw [ofOctets?_text_eq, ofText?_text hexact hnesting]

end BearerAuth.Json
