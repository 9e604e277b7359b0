import InterfaceAddress.Value.Basic
import Mathlib

/-! # Merging members

A name that repeats keeps its first position and takes its last value. This
determines the members that are left (`Members.IsMergeOf.unique`), and it does not
matter whether the members that are merged were merged before
(`Members.IsMergeOf.merge`).
-/

namespace InterfaceAddress

/-- Of a list with one item more, the item is new or was there. -/
theorem eraseDups_concat (items : List String) (item : String) :
    (items ++ [item]).eraseDups =
      if item ∈ items then items.eraseDups else items.eraseDups ++ [item] := by
  rw [List.eraseDups_append, List.cons_removeAll]
  by_cases known : item ∈ items
  · simp [known]
  · simp [known, List.eraseDups_cons]

/-- Dropping what repeats behind a list drops nothing that would stay. -/
theorem eraseDups_append_eraseDups (front items : List String) :
    (front ++ items.eraseDups).eraseDups = (front ++ items).eraseDups := by
  induction items using List.reverseRecOn with
  | nil => rfl
  | append_singleton items item ih =>
    rw [eraseDups_concat, ← List.append_assoc, eraseDups_concat]
    by_cases known : item ∈ items
    · rw [if_pos known, if_pos (List.mem_append_right _ known), ih]
    · rw [if_neg known, ← List.append_assoc, eraseDups_concat, ih]
      simp only [List.mem_append, List.mem_eraseDups]

namespace Members

/-! ### Lookups -/

theorem lookup_cons_of_ne {name first : String} (apart : name ≠ first) (value : Value)
    (rest : Members) : List.lookup name ((first, value) :: rest) = rest.lookup name := by
  rw [List.lookup_cons, beq_false_of_ne apart]

theorem lookup_insert (members : Members) (name other : String) (value : Value) :
    (members.insert name value).lookup other =
      if other = name then some value else members.lookup other := by
  induction members with
  | nil =>
    by_cases same : other = name
    · rw [insert, if_pos same, same, List.lookup_cons_self]
    · rw [insert, if_neg same, lookup_cons_of_ne same]
  | cons member rest ih =>
    obtain ⟨first, old⟩ := member
    by_cases here : first = name
    · rw [insert, if_pos here, here]
      by_cases same : other = name
      · rw [if_pos same, same, List.lookup_cons_self]
      · rw [if_neg same, lookup_cons_of_ne same, lookup_cons_of_ne same]
    · rw [insert, if_neg here]
      by_cases same : other = first
      · rw [same, if_neg here, List.lookup_cons_self, List.lookup_cons_self]
      · rw [lookup_cons_of_ne same, lookup_cons_of_ne same, ih]

theorem lookup_eq_none_of_not_mem {members : Members} {name : String}
    (unknown : name ∉ members.map Prod.fst) : members.lookup name = none := by
  refine List.lookup_eq_none_iff.mpr fun member held => bne_iff_ne.mpr fun taken => ?_
  exact unknown (List.mem_map.mpr ⟨member, held, taken.symm⟩)

/-- Of members with distinct names, those that are merged later are found first. -/
theorem lookup_merge {overlay : Members} (distinct : (overlay.map Prod.fst).Nodup)
    (base : Members) (name : String) :
    (base.merge overlay).lookup name = (overlay.lookup name).or (base.lookup name) := by
  induction overlay generalizing base with
  | nil => rfl
  | cons member rest ih =>
    obtain ⟨first, value⟩ := member
    rw [List.map_cons, List.nodup_cons] at distinct
    change ((base.insert first value).merge rest).lookup name = _
    rw [ih distinct.2, lookup_insert]
    by_cases same : name = first
    · rw [same, if_pos rfl, lookup_eq_none_of_not_mem distinct.1, List.lookup_cons_self]
      rfl
    · rw [if_neg same, lookup_cons_of_ne same]

theorem member_merge {base overlay : Members} (distinct : (overlay.map Prod.fst).Nodup)
    {name : String} {value : Value} (held : base.lookup name = some value) :
    (Value.object (base.merge overlay)).member name = (overlay.lookup name).getD value := by
  rw [Value.member, Value.members, lookup_merge distinct, held]
  cases overlay.lookup name <;> rfl

/-- Members with distinct names are determined by the names and what is found under them. -/
theorem ext_of_lookup {members others : Members} (distinct : (members.map Prod.fst).Nodup)
    (sameNames : members.map Prod.fst = others.map Prod.fst)
    (found : ∀ name, members.lookup name = others.lookup name) : members = others := by
  induction members generalizing others with
  | nil => exact (List.map_eq_nil_iff.mp sameNames.symm).symm
  | cons member rest ih =>
    obtain ⟨name, value⟩ := member
    obtain ⟨⟨otherName, otherValue⟩, otherRest, rfl, first, later⟩ :=
      List.map_eq_cons_iff.mp sameNames.symm
    cases first
    have sameValue := found name
    rw [List.lookup_cons_self, List.lookup_cons_self] at sameValue
    cases sameValue
    rw [List.map_cons, List.nodup_cons] at distinct
    rw [ih distinct.2 later.symm fun other => ?_]
    by_cases same : other = name
    · rw [same, lookup_eq_none_of_not_mem distinct.1,
        lookup_eq_none_of_not_mem (later ▸ distinct.1)]
    · have sameRest := found other
      rwa [lookup_cons_of_ne same, lookup_cons_of_ne same] at sameRest

/-! ### One insertion -/

theorem map_fst_insert (members : Members) (name : String) (value : Value) :
    (members.insert name value).map Prod.fst =
      if name ∈ members.map Prod.fst then members.map Prod.fst
      else members.map Prod.fst ++ [name] := by
  induction members with
  | nil => rfl
  | cons member rest ih =>
    obtain ⟨first, old⟩ := member
    by_cases here : first = name
    · rw [insert, if_pos here, here, List.map_cons, List.map_cons, if_pos List.mem_cons_self]
    · rw [insert, if_neg here, List.map_cons, List.map_cons, ih]
      simp only [List.mem_cons, Ne.symm here, false_or]
      split <;> rfl

theorem insert_of_not_mem {members : Members} {name : String}
    (fresh : name ∉ members.map Prod.fst) (value : Value) :
    members.insert name value = members ++ [(name, value)] := by
  induction members with
  | nil => rfl
  | cons member rest ih =>
    rw [List.map_cons, List.mem_cons, not_or] at fresh
    rw [insert, if_neg (Ne.symm fresh.1), ih fresh.2, List.cons_append]

/-! ### Merges -/

/-- These are the given members, where a name that repeats keeps its first position and takes its
last value. -/
structure IsMergeOf (merged given : Members) : Prop where
  names : merged.map Prod.fst = (given.map Prod.fst).eraseDups
  lookup : ∀ name, merged.lookup name = given.reverse.lookup name

theorem ofList_concat (members : Members) (name : String) (value : Value) :
    ofList (members ++ [(name, value)]) = (ofList members).insert name value := by
  rw [ofList, merge, List.foldl_append]
  rfl

theorem isMergeOf_ofList (given : Members) : (ofList given).IsMergeOf given := by
  induction given using List.reverseRecOn with
  | nil => exact ⟨rfl, fun _ => rfl⟩
  | append_singleton given member ih =>
    obtain ⟨name, value⟩ := member
    constructor
    · rw [ofList_concat, map_fst_insert, ih.names, List.map_append, List.map_singleton,
        eraseDups_concat]
      simp only [List.mem_eraseDups]
    · intro other
      rw [ofList_concat, lookup_insert, List.reverse_append, List.reverse_singleton,
        List.singleton_append, ih.lookup]
      by_cases same : other = name
      · rw [if_pos same, same, List.lookup_cons_self]
      · rw [if_neg same, lookup_cons_of_ne same]

theorem nodup_ofList (given : Members) : ((ofList given).map Prod.fst).Nodup := by
  induction given using List.reverseRecOn with
  | nil => exact .nil
  | append_singleton given member ih =>
    rw [ofList_concat, map_fst_insert]
    by_cases known : member.1 ∈ (ofList given).map Prod.fst
    · rwa [if_pos known]
    · rw [if_neg known, ← List.concat_eq_append]
      exact ih.concat known

/-- Members with distinct names are a merge already. -/
theorem ofList_eq_self {members : Members} (distinct : (members.map Prod.fst).Nodup) :
    ofList members = members := by
  induction members using List.reverseRecOn with
  | nil => rfl
  | append_singleton members member ih =>
    rw [List.map_append, List.map_singleton, ← List.concat_eq_append,
      List.nodup_concat] at distinct
    rw [ofList_concat, ih distinct.2, insert_of_not_mem distinct.1]

/-- What is merged may have been merged before. -/
theorem isMergeOf_ofList_append (front given : Members) :
    (ofList (front ++ ofList given)).IsMergeOf (front ++ given) := by
  have listed := isMergeOf_ofList given
  have whole := isMergeOf_ofList (front ++ ofList given)
  have twice := (isMergeOf_ofList (ofList given)).lookup
  rw [ofList_eq_self (nodup_ofList given)] at twice
  constructor
  · rw [whole.names, List.map_append, List.map_append, listed.names, eraseDups_append_eraseDups]
  · intro name
    rw [whole.lookup, List.reverse_append, List.reverse_append, List.lookup_append,
      List.lookup_append, ← twice, listed.lookup]

namespace IsMergeOf

variable {merged other given rest : Members}

theorem of_nodup (distinct : (given.map Prod.fst).Nodup) : given.IsMergeOf given := by
  have listed := isMergeOf_ofList given
  rwa [ofList_eq_self distinct] at listed

theorem eq_ofList (isMerge : merged.IsMergeOf given) : merged = ofList given := by
  have listed := isMergeOf_ofList given
  symm
  exact ext_of_lookup (nodup_ofList given) (listed.names.trans isMerge.names.symm)
    fun name => (listed.lookup name).trans (isMerge.lookup name).symm

/-- Members have one merge. -/
theorem unique (isMerge : merged.IsMergeOf given) (otherIsMerge : other.IsMergeOf given) :
    merged = other := isMerge.eq_ofList.trans otherIsMerge.eq_ofList.symm

/-- Merges are merged as the members they come from. -/
theorem merge (isMerge : merged.IsMergeOf given) (restIsMerge : other.IsMergeOf rest) :
    (merged.merge other).IsMergeOf (given ++ rest) := by
  have joined : merged.merge other = ofList (given ++ ofList rest) := by
    rw [isMerge.eq_ofList, restIsMerge.eq_ofList]
    exact List.foldl_append.symm
  rw [joined]
  exact isMergeOf_ofList_append given rest

end IsMergeOf

end Members

end InterfaceAddress
