/-
# Objects list their members in the order of keys

`Fields.insert` keeps the order, so an object that is written member by member, or read from text,
has it; and then the members say all that an object says.

| | |
| --- | --- |
| `Fields.find?_ofList` | members under different names are found in the object they make up |
| `Fields.IsSorted.ext` | in the order of keys, objects with the same members are equal |
| `isOrdered_parse` | what is read from text is in that order, all the way down |
-/

import DebugConsole.Json.Reader
import Mathlib.Data.String.Basic

namespace DebugConsole
namespace Json

namespace Fields

variable {key : String} {value : Json} {fields : Fields}

/-- The keys increase. -/
def IsSorted (fields : Fields) : Prop := fields.Pairwise (·.1 < ·.1)

/-- A member that is set is found, and the others as before. -/
theorem find?_insert (other : String) : find? other (insert key value fields) =
    if other = key then some value else find? other fields := by
  split
  · subst other
    exact find?_insert_self key value fields
  · exact find?_insert_of_ne ‹_› value fields

/-- Nothing comes into an object but what is set. -/
theorem mem_of_mem_insert {member : String × Json} (h : member ∈ insert key value fields) :
    member = (key, value) ∨ member ∈ fields := by
  induction fields with
  | nil => exact .inl (List.mem_singleton.1 h)
  | cons first rest ih =>
    obtain ⟨k, v⟩ := first
    simp only [insert] at h
    split at h
    · exact List.mem_cons.1 h
    · split at h
      · exact (List.mem_cons.1 h).imp_right (List.mem_cons_of_mem _)
      · rcases List.mem_cons.1 h with rfl | h
        · exact .inr List.mem_cons_self
        · exact (ih h).imp_right (List.mem_cons_of_mem _)

/-- Members stay in the order of their keys. -/
theorem IsSorted.insert (h : IsSorted fields) (key : String) (value : Json) :
    IsSorted (Fields.insert key value fields) := by
  induction fields with
  | nil => exact List.pairwise_singleton ..
  | cons first rest ih =>
    obtain ⟨k, v⟩ := first
    obtain ⟨hfirst, hrest⟩ := List.pairwise_cons.1 h
    simp only [Fields.insert]
    split
    · refine List.pairwise_cons.2 ⟨fun member hmember => ?_, h⟩
      rcases List.mem_cons.1 hmember with rfl | hmember
      · assumption
      · exact lt_trans ‹_› (hfirst member hmember)
    · split
      · subst k
        exact List.pairwise_cons.2 ⟨hfirst, hrest⟩
      · have hlt : k < key := lt_of_le_of_ne (le_of_not_gt ‹_›) (Ne.symm ‹_›)
        refine List.pairwise_cons.2 ⟨fun member hmember => ?_, ih hrest⟩
        rcases mem_of_mem_insert hmember with rfl | hmember
        · exact hlt
        · exact hfirst member hmember

/-- An object made of a list is in order. -/
theorem isSorted_ofList (members : List (String × Json)) : IsSorted (ofList members) := by
  have hfold (members : List (String × Json)) (fields : Fields) (h : IsSorted fields) :
      IsSorted (members.foldl (fun fields member => insert member.1 member.2 fields) fields) := by
    induction members generalizing fields with
    | nil => exact h
    | cons member rest ih => exact ih _ (h.insert ..)
  exact hfold members [] List.Pairwise.nil

/-- What is found is there. -/
theorem mem_of_find? (h : find? key fields = some value) : (key, value) ∈ fields := by
  induction fields with
  | nil => cases h
  | cons first rest ih =>
    rw [find?] at h
    split at h
    · subst key
      obtain rfl := Option.some.inj h
      exact List.mem_cons_self
    · exact List.mem_cons_of_mem _ (ih h)

/-- What is not found has no key. -/
theorem find?_eq_none_iff : find? key fields = none ↔ key ∉ fields.map (·.1) := by
  induction fields with
  | nil => exact iff_of_true rfl List.not_mem_nil
  | cons first rest ih =>
    rw [List.map_cons, List.mem_cons, not_or, ← ih, find?]
    split
    · exact iff_of_false (Option.some_ne_none _) fun h => h.1 (Eq.symm ‹_›)
    · exact (and_iff_right (Ne.symm ‹_›)).symm

/-- Of members under different names each is found. -/
theorem find?_ofList {members : List (String × Json)} (h : (members.map (·.1)).Nodup) :
    find? key (ofList members) = find? key members := by
  have hfold (members : List (String × Json)) (fields : Fields)
      (h : (members.map (·.1)).Nodup) :
      find? key (members.foldl (fun fields member => insert member.1 member.2 fields) fields) =
        (find? key members).or (find? key fields) := by
    induction members generalizing fields with
    | nil => rfl
    | cons member rest ih =>
      obtain ⟨k, v⟩ := member
      obtain ⟨hnot, hrest⟩ := List.nodup_cons.1 h
      rw [List.foldl_cons, ih _ hrest, find?_insert, find?]
      by_cases hkey : k = key
      · subst k
        rw [find?_eq_none_iff.2 hnot, if_pos rfl, if_pos rfl]
        rfl
      · rw [if_neg (Ne.symm hkey), if_neg hkey]
  rw [ofList, hfold members [] h]
  exact Option.or_none

/-- The first members go before the others. -/
theorem find?_append {other : Fields} :
    find? key (fields ++ other) = (find? key fields).or (find? key other) := by
  induction fields with
  | nil => rfl
  | cons first rest ih =>
    rw [List.cons_append, find?, find?, ih]
    split <;> rfl

/-- Keys in order are all different. -/
theorem IsSorted.nodup (h : IsSorted fields) : (fields.map (·.1)).Nodup :=
  List.Pairwise.map _ (fun _ _ hlt => ne_of_lt hlt) h

/-- Members are found under the keys that were kept. -/
theorem find?_filter (p : String → Bool) : find? key (fields.filter fun member => p member.1) =
    if p key then find? key fields else none := by
  induction fields with
  | nil => exact (ite_self _).symm
  | cons first rest ih =>
    obtain ⟨k, v⟩ := first
    by_cases hkey : k = key
    · subst k
      by_cases hp : p key <;> simp [find?, hp, ih]
    · by_cases hp : p k <;> simp [find?, hp, hkey, ih]

/-- Keys before the first one are not there. -/
theorem IsSorted.find?_eq_none {first : String × Json} (h : IsSorted (first :: fields))
    (hlt : key < first.1) : find? key (first :: fields) = none := by
  refine Fields.find?_eq_none_iff.2 fun hmem => ?_
  obtain ⟨member, hmember, rfl⟩ := List.mem_map.1 hmem
  rcases List.mem_cons.1 hmember with rfl | hmember
  · exact lt_irrefl _ hlt
  · exact lt_asymm hlt ((List.pairwise_cons.1 h).1 member hmember)

/-- In the order of keys, objects with the same members are equal. -/
theorem IsSorted.ext {fields other : Fields} (h : IsSorted fields) (hother : IsSorted other)
    (heq : ∀ key, find? key fields = find? key other) : fields = other := by
  induction fields generalizing other with
  | nil =>
    cases other with
    | nil => rfl
    | cons first rest => simpa [find?] using heq first.1
  | cons first rest ih =>
    obtain ⟨k, v⟩ := first
    cases other with
    | nil => simpa [find?] using heq k
    | cons first' rest' =>
      obtain ⟨k', v'⟩ := first'
      have hhead : find? k ((k, v) :: rest) = some v := if_pos rfl
      have hhead' : find? k' ((k', v') :: rest') = some v' := if_pos rfl
      -- the smaller of two first keys would be missing in the other object
      obtain rfl : k = k' := by
        rcases lt_trichotomy k k' with hlt | hkey | hgt
        · cases (hhead.symm.trans (heq k)).trans (hother.find?_eq_none hlt)
        · exact hkey
        · cases (hhead'.symm.trans (heq k').symm).trans (h.find?_eq_none hgt)
      obtain rfl : v = v' := Option.some.inj ((hhead.symm.trans (heq k)).trans hhead')
      have hrest : ∀ key, find? key rest = find? key rest' := by
        intro key
        by_cases hkey : k = key
        · subst k
          rw [find?_eq_none_iff.2 (List.nodup_cons.1 h.nodup).1,
            find?_eq_none_iff.2 (List.nodup_cons.1 hother.nodup).1]
        · have hmember := heq key
          rwa [find?, find?, if_neg hkey, if_neg hkey] at hmember
      rw [ih (List.pairwise_cons.1 h).2 (List.pairwise_cons.1 hother).2 hrest]

/-- Members in the order of keys make up an object as they stand. -/
theorem IsSorted.ofList_eq (h : IsSorted fields) : ofList fields = fields :=
  (isSorted_ofList fields).ext h fun _ => find?_ofList h.nodup

end Fields

/-- An object that is written out gives each member back under its key. -/
theorem get?_object {members : List (String × Json)} (h : (members.map (·.1)).Nodup)
    (key : String) : (object members).get? key = Fields.find? key members :=
  Fields.find?_ofList h

/-- In every object of the value the keys increase. -/
inductive IsOrdered : Json → Prop
  | null : IsOrdered .null
  | bool (value : Bool) : IsOrdered (.bool value)
  | int (value : Int) : IsOrdered (.int value)
  | real (value : Binary64) : IsOrdered (.real value)
  | str (value : String) : IsOrdered (.str value)
  | arr {items : List Json} (hitems : ∀ item ∈ items, IsOrdered item) : IsOrdered (.arr items)
  | obj {fields : Fields} (hkeys : fields.IsSorted)
      (hvalues : ∀ member ∈ fields, IsOrdered member.2) : IsOrdered (.obj fields)

/-- The members of an ordered value are ordered. -/
theorem IsOrdered.of_find? {fields : Fields} (h : IsOrdered (.obj fields)) {key : String}
    {value : Json} (hfind : Fields.find? key fields = some value) : IsOrdered value := by
  cases h with
  | obj hkeys hvalues => exact hvalues _ (Fields.mem_of_find? hfind)

/-- An ordered member may be set in an ordered object. -/
theorem IsOrdered.insert {fields : Fields} (h : IsOrdered (.obj fields)) (key : String)
    {value : Json} (hvalue : IsOrdered value) :
    IsOrdered (.obj (Fields.insert key value fields)) := by
  cases h with
  | obj hkeys hvalues =>
    refine .obj (hkeys.insert key value) fun member hmember => ?_
    rcases Fields.mem_of_mem_insert hmember with rfl | hmember
    · exact hvalue
    · exact hvalues member hmember

/-! ### What is read from text -/

/-- A token that stands for a whole value stands for an ordered one. -/
def Token.IsOrdered : Token → Prop
  | .leaf value => value.IsOrdered
  | _ => True

/-- Numbers have no members. -/
theorem isOrdered_ofWhole? {negative : Bool} {s : Scaled} {value : Json}
    (h : ofWhole? negative s = some value) : value.IsOrdered := by
  unfold ofWhole? at h
  split at h
  · obtain ⟨x, -, rfl⟩ := Option.map_eq_some_iff.1 h
    exact .real x
  · split at h
    · split at h
      · obtain ⟨x, -, rfl⟩ := Option.map_eq_some_iff.1 h
        exact .real x
      · exact Option.some.inj h ▸ .int _
    · exact Option.some.inj h ▸ .int _

/-- A number that is read is ordered. -/
theorem isOrdered_readNumber? {cs rest : List Char} {value : Json}
    (h : readNumber? cs = some (value, rest)) : value.IsOrdered := by
  unfold readNumber? at h
  simp only [Option.bind_eq_bind, Option.bind_eq_some_iff] at h
  obtain ⟨whole, -, fraction, -, exponent, -, h⟩ := h
  split at h
  · obtain ⟨x, -, h⟩ := Option.bind_eq_some_iff.1 h
    cases h
    exact .real x
  · split at h
    · obtain ⟨x, hx, h⟩ := Option.bind_eq_some_iff.1 h
      cases h
      exact isOrdered_ofWhole? hx
    · obtain ⟨x, -, h⟩ := Option.bind_eq_some_iff.1 h
      cases h
      exact .real x

/-- So is the value of every token. -/
theorem isOrdered_readToken? {c : Char} {cs rest : List Char} {token : Token}
    (h : readToken? c cs = some (token, rest)) : token.IsOrdered := by
  unfold readToken? at h
  split at h
  case h_8 | h_9 | h_10 =>
    obtain ⟨rest, -, h⟩ := Option.map_eq_some_iff.1 h
    cases h
    constructor
  case h_11 =>
    obtain ⟨⟨value, rest⟩, hread, h⟩ := Option.map_eq_some_iff.1 h
    cases h
    exact isOrdered_readNumber? hread
  case h_7 =>
    obtain ⟨⟨text, rest⟩, -, h⟩ := Option.map_eq_some_iff.1 h
    cases h
    exact trivial
  all_goals
    cases h
    exact trivial

/-- Tokens that are scanned are those read one by one. -/
theorem isOrdered_scanFrom {fuel : Nat} {acc tokens : List Token} {cs : List Char}
    (h : Token.scanFrom fuel acc cs = some tokens) (hacc : ∀ token ∈ acc, token.IsOrdered) :
    ∀ token ∈ tokens, token.IsOrdered := by
  induction fuel generalizing acc cs with
  | zero => cases h
  | succ fuel ih =>
    cases cs with
    | nil =>
      cases h
      exact fun token htoken => hacc token (List.mem_reverse.1 htoken)
    | cons c cs =>
      rw [Token.scanFrom] at h
      split at h
      · exact ih h hacc
      · split at h
        · rename_i token rest hread
          refine ih h fun other hother => ?_
          rcases List.mem_cons.1 hother with rfl | hother
          · exact isOrdered_readToken? hread
          · exact hacc other hother
        · cases h

/-- A value that is read is ordered, and so are the tokens that are left over. -/
def ReadsOrdered (read : Option (Json × List Token)) : Prop :=
  ∀ value rest, read = some (value, rest) →
    value.IsOrdered ∧ ∀ token ∈ rest, token.IsOrdered

section Readers

variable {fuel depth : Nat} {tokens : List Token} (htokens : ∀ token ∈ tokens, token.IsOrdered)

include htokens

/-- A value is read in order where its items and members are. -/
theorem readsOrdered_readValue
    (hitems : ∀ depth tokens, (∀ token ∈ tokens, Token.IsOrdered token) →
      ReadsOrdered (readItems fuel depth [] tokens))
    (hmembers : ∀ depth tokens, (∀ token ∈ tokens, Token.IsOrdered token) →
      ReadsOrdered (readMembers fuel depth [] tokens)) :
    ReadsOrdered (readValue (fuel + 1) depth tokens) := by
  intro value rest h
  cases tokens with
  | nil => cases h
  | cons token tokens =>
    obtain ⟨htoken, hrest⟩ := List.forall_mem_cons.1 htokens
    cases token with
    | leaf leaf =>
      cases h
      exact ⟨htoken, hrest⟩
    | text s =>
      cases h
      exact ⟨.str s, hrest⟩
    | openArr =>
      unfold readValue at h
      dsimp only at h
      split at h
      · cases h
      · cases h
        exact ⟨.arr fun _ hitem => absurd hitem List.not_mem_nil, (List.forall_mem_cons.1 hrest).2⟩
      · exact hitems _ _ hrest _ _ h
    | openObj =>
      unfold readValue at h
      dsimp only at h
      split at h
      · cases h
      · cases h
        exact ⟨.obj .nil fun _ hmember => absurd hmember List.not_mem_nil,
          (List.forall_mem_cons.1 hrest).2⟩
      · exact hmembers _ _ hrest _ _ h
    | closeArr | closeObj | comma | colon => cases h

/-- Items are read in order where values are. -/
theorem readsOrdered_readItems
    (hvalue : ∀ depth tokens, (∀ token ∈ tokens, Token.IsOrdered token) →
      ReadsOrdered (readValue fuel depth tokens))
    (hitems : ∀ acc tokens, (∀ item ∈ acc, IsOrdered item) →
      (∀ token ∈ tokens, Token.IsOrdered token) → ReadsOrdered (readItems fuel depth acc tokens))
    {acc : List Json} (hacc : ∀ item ∈ acc, IsOrdered item) :
    ReadsOrdered (readItems (fuel + 1) depth acc tokens) := by
  intro value rest h
  rw [readItems] at h
  split at h
  · rename_i item left hread
    obtain ⟨hitem, hleft⟩ := hvalue depth tokens htokens _ _ hread
    exact hitems _ _ (List.forall_mem_cons.2 ⟨hitem, hacc⟩) (List.forall_mem_cons.1 hleft).2 _ _ h
  · rename_i item left hread
    obtain ⟨hitem, hleft⟩ := hvalue depth tokens htokens _ _ hread
    cases h
    refine ⟨.arr fun other hother => ?_, (List.forall_mem_cons.1 hleft).2⟩
    exact List.forall_mem_cons.2 ⟨hitem, hacc⟩ other (List.mem_reverse.1 hother)
  · cases h

/-- So are members, which are set under their keys. -/
theorem readsOrdered_readMembers
    (hvalue : ∀ depth tokens, (∀ token ∈ tokens, Token.IsOrdered token) →
      ReadsOrdered (readValue fuel depth tokens))
    (hmembers : ∀ acc tokens, IsOrdered (.obj acc) →
      (∀ token ∈ tokens, Token.IsOrdered token) → ReadsOrdered (readMembers fuel depth acc tokens))
    {acc : Fields} (hacc : IsOrdered (.obj acc)) :
    ReadsOrdered (readMembers (fuel + 1) depth acc tokens) := by
  intro value rest h
  unfold readMembers at h
  split at h
  · cases h
  · rename_i depth acc _ _ _ _ fuel' key tokens heq
    cases heq
    have hbehind := (List.forall_mem_cons.1 (List.forall_mem_cons.1 htokens).2).2
    split at h
    · rename_i item left hread
      obtain ⟨hitem, hleft⟩ := hvalue depth tokens hbehind _ _ hread
      exact hmembers _ _ (hacc.insert key hitem) (List.forall_mem_cons.1 hleft).2 _ _ h
    · rename_i item left hread
      obtain ⟨hitem, hleft⟩ := hvalue depth tokens hbehind _ _ hread
      cases h
      exact ⟨hacc.insert key hitem, (List.forall_mem_cons.1 hleft).2⟩
    · cases h
  · cases h

end Readers

/-- The three readers call each other with less fuel. -/
theorem readsOrdered (fuel : Nat) :
    (∀ depth tokens, (∀ token ∈ tokens, Token.IsOrdered token) →
      ReadsOrdered (readValue fuel depth tokens)) ∧
    (∀ depth acc tokens, (∀ item ∈ acc, IsOrdered item) →
      (∀ token ∈ tokens, Token.IsOrdered token) → ReadsOrdered (readItems fuel depth acc tokens)) ∧
    ∀ depth acc tokens, IsOrdered (.obj acc) →
      (∀ token ∈ tokens, Token.IsOrdered token) →
        ReadsOrdered (readMembers fuel depth acc tokens) := by
  induction fuel with
  | zero =>
    refine ⟨fun _ _ _ _ _ h => ?_, fun _ _ _ _ _ _ _ h => ?_, fun _ _ _ _ _ _ _ h => ?_⟩
    · cases h
    · cases h
    · cases h
  | succ fuel ih =>
    obtain ⟨hvalue, hitems, hmembers⟩ := ih
    have hnone : ∀ item ∈ ([] : List Json), IsOrdered item :=
      fun _ hitem => absurd hitem List.not_mem_nil
    have hempty : IsOrdered (.obj []) := .obj .nil fun _ hmember => absurd hmember List.not_mem_nil
    exact ⟨fun _ _ htokens => readsOrdered_readValue htokens (hitems · [] · hnone)
        (hmembers · [] · hempty),
      fun depth _ _ hacc htokens => readsOrdered_readItems htokens hvalue (hitems depth) hacc,
      fun depth _ _ hacc htokens => readsOrdered_readMembers htokens hvalue (hmembers depth) hacc⟩

/-- **What is read from text lists the members of its objects in the order of keys.** -/
theorem isOrdered_parse {text : String} {value : Json} (h : parse text = some value) :
    value.IsOrdered := by
  unfold parse at h
  obtain ⟨tokens, hscan, h⟩ := Option.bind_eq_some_iff.1 h
  have htokens := isOrdered_scanFrom hscan fun _ htoken => absurd htoken List.not_mem_nil
  split at h
  · rename_i hread
    cases h
    exact ((readsOrdered _).1 _ _ htokens _ _ hread).1
  · cases h

end Json
end DebugConsole
