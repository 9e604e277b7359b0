import InterfaceAddress.Scope
import InterfaceAddress.Proofs.Address.Block
import Mathlib

/-! # Scopes follow blocks

The rules of a family test blocks that have no address in common
(`Address.forFamily_exclusive`), so that the order of the rules does not
matter (`ScopeRule.classify_perm`). The scope of an address is that of the kind
whose block it is in, and universal outside of all blocks
(`Address.classification`).
-/

namespace InterfaceAddress

/-! ### Rules in any order -/

namespace ScopeRule

variable {address : Address}

/-- At most one of two rules applies to an address. -/
def Exclusive (address : Address) (rule other : ScopeRule) : Prop :=
  ¬ (rule.applies address = true ∧ other.applies address = true)

theorem Exclusive.symm {rule other : ScopeRule} (exclusive : rule.Exclusive address other) :
    other.Exclusive address rule :=
  fun both => exclusive both.symm

theorem classify_cons (rule : ScopeRule) (rules : List ScopeRule) :
    classify (rule :: rules) address =
      if rule.applies address then rule.scope else classify rules address := by
  rw [classify, List.find?_cons]
  cases rule.applies address with
  | false => rfl
  | true => rfl

/-- Rules of which at most one applies give the same scope in any order. -/
theorem classify_perm {rules reordered : List ScopeRule} (perm : rules.Perm reordered)
    (exclusive : rules.Pairwise (Exclusive address)) :
    classify rules address = classify reordered address := by
  induction perm with
  | nil => rfl
  | cons rule perm ih =>
    rw [classify_cons, classify_cons, ih (List.pairwise_cons.mp exclusive).2]
  | swap first second rest =>
    have apart := (List.pairwise_cons.mp exclusive).1 first (List.mem_cons_self ..)
    simp only [classify_cons]
    split_ifs with second first
    · exact absurd ⟨second, first⟩ apart
    all_goals rfl
  | trans perm _ ih later =>
    rw [ih exclusive, later ((perm.pairwise_iff Exclusive.symm).mp exclusive)]

end ScopeRule

/-! ### The scope of a kind -/

namespace AddressKind

variable {address : Address}

/-- The scope of the addresses of a kind. -/
def scope : AddressKind → Scope
  | unspecified => .host
  | loopback => .link
  | linkLocal => .link
  | siteLocal => .site
  | multicast => .universal
  | uniqueLocal => .universal
  | embedding => .universal

/-- The kinds that the rules of a family tell apart. -/
def ruled : Family → List AddressKind
  | .v4 => [unspecified, loopback, linkLocal]
  | .v6 => [unspecified, loopback, linkLocal, siteLocal]

def rule (kind : AddressKind) : ScopeRule := ⟨kind.test, kind.scope⟩

theorem forFamily_eq (family : Family) :
    ScopeRule.forFamily family = (ruled family).map rule := by
  cases family with
  | v4 => rfl
  | v6 => rfl

theorem nodup_ruled (family : Family) : (ruled family).Nodup := by
  cases family with
  | v4 => decide
  | v6 => decide

/-- No rule is needed for a block whose addresses are universal. -/
theorem Contains.ruled_or_universal {kind : AddressKind} (contains : kind.Contains address) :
    kind ∈ ruled address.family ∨ kind.scope = .universal := by
  obtain ⟨block, has, -⟩ := contains
  have table : (kind.block? address.family).isSome →
      kind ∈ ruled address.family ∨ kind.scope = .universal := by
    cases kind <;> cases address.family <;> decide
  exact table (Option.isSome_of_mem has)

theorem rule_exclusive {kind other : AddressKind} (ne : kind ≠ other) :
    kind.rule.Exclusive address other.rule := by
  rintro ⟨first, second⟩
  exact ne (((test_iff address kind).mp first).unique ((test_iff address other).mp second))

theorem classify_map_rule (kinds : List AddressKind) :
    ScopeRule.classify (kinds.map rule) address =
      ((kinds.find? fun kind => kind.test address).map scope).getD .universal := by
  rw [ScopeRule.classify, List.find?_map, Option.map_map]
  rfl

end AddressKind

namespace Address

variable {address : Address}

theorem forFamily_exclusive (address : Address) :
    (ScopeRule.forFamily address.family).Pairwise (ScopeRule.Exclusive address) := by
  rw [AddressKind.forFamily_eq]
  exact List.Pairwise.map _ (fun _ _ => AddressKind.rule_exclusive) (AddressKind.nodup_ruled _)

theorem scope_eq (address : Address) :
    address.scope = (((AddressKind.ruled address.family).find?
      fun kind => kind.test address).map AddressKind.scope).getD .universal := by
  rw [scope, AddressKind.forFamily_eq, AddressKind.classify_map_rule]

theorem scope_of_contains {kind : AddressKind} (contains : kind.Contains address) :
    address.scope = kind.scope := by
  have applies := (AddressKind.test_iff address kind).mpr contains
  rw [scope_eq]
  cases found : (AddressKind.ruled address.family).find? fun kind => kind.test address with
  | some other =>
    have otherApplies := List.find?_some found
    rw [contains.unique ((AddressKind.test_iff address other).mp otherApplies)]
    rfl
  | none =>
    have unruled : kind ∉ AddressKind.ruled address.family :=
      fun listed => List.find?_eq_none.mp found kind listed applies
    exact (contains.ruled_or_universal.resolve_left unruled).symm

theorem scope_of_not_contains (outside : ∀ kind : AddressKind, ¬ kind.Contains address) :
    address.scope = .universal := by
  rw [scope_eq, List.find?_eq_none.mpr]
  · rfl
  · intro kind _ applies
    exact outside kind ((AddressKind.test_iff address kind).mp applies)

/-- The tests of the octets are membership in blocks without common addresses.
At most one of the rules of a family applies to an address, so that their order
does not matter, and the scope of an address is that of its block. -/
theorem classification (address : Address) :
    (∀ kind : AddressKind, kind.test address = true ↔ kind.Contains address) ∧
      (∀ kind other : AddressKind, kind.Contains address → other.Contains address →
        kind = other) ∧
      (ScopeRule.forFamily address.family).Pairwise (ScopeRule.Exclusive address) ∧
      (∀ rules : List ScopeRule, rules.Perm (ScopeRule.forFamily address.family) →
        ScopeRule.classify rules address = address.scope) ∧
      (∀ kind : AddressKind, kind.Contains address → address.scope = kind.scope) ∧
      ((∀ kind : AddressKind, ¬ kind.Contains address) → address.scope = .universal) := by
  refine ⟨AddressKind.test_iff address, fun _ _ => AddressKind.Contains.unique,
    forFamily_exclusive address, ?_, fun _ => scope_of_contains, scope_of_not_contains⟩
  intro rules perm
  exact (ScopeRule.classify_perm perm.symm (forFamily_exclusive address)).symm

/-- A site-local address has the scope of its block also where the rules are reversed. -/
theorem classification_siteLocal :
    ∃ address : Address, AddressKind.siteLocal.Contains address ∧ address.scope = .site ∧
      ScopeRule.classify (ScopeRule.forFamily .v6).reverse address = .site := by
  let address : Address := ⟨0xfe :: 0xc0 :: List.replicate 13 0 ++ [1], .inr rfl⟩
  obtain ⟨test_iff, -, -, reordered, ofKind, -⟩ := classification address
  have contains : AddressKind.siteLocal.Contains address := (test_iff .siteLocal).mp (by decide)
  refine ⟨address, contains, ofKind .siteLocal contains, ?_⟩
  exact (reordered _ (List.reverse_perm _)).trans (ofKind .siteLocal contains)

end Address

end InterfaceAddress
