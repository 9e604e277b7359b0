import InterfaceAddress.Address.Kind
import InterfaceAddress.Number.Numeral

/-! # Routing scopes

A scope says how far an address is valid; narrower scopes have larger codes. An
address without a given scope is classified by the first rule of its family that
applies to it. Private address ranges stay universal.
-/

namespace InterfaceAddress

/-- The scopes with a name. Other codes may be stored but have no meaning here. -/
inductive Scope where
  | universal
  | site
  | link
  | host
  | nowhere
deriving DecidableEq

namespace Scope

def all : List Scope := [universal, site, link, host, nowhere]

/-- The routing code. -/
def code : Scope → Nat
  | universal => 0
  | site => 200
  | link => 253
  | host => 254
  | nowhere => 255

def name : Scope → String
  | universal => "universe"
  | site => "site"
  | link => "link"
  | host => "host"
  | nowhere => "nowhere"

/-- The code as a number. -/
def number (scope : Scope) : Binary64 := Binary64.ofNat scope.code

/-- The name of the scope with this code, or the number itself. -/
def describe (code : Binary64) : String :=
  match all.find? fun scope => code.same scope.number with
  | some scope => scope.name
  | none => code.text

end Scope

/-- A kind of address and the scope it has. -/
structure ScopeRule where
  applies : Address → Bool
  scope : Scope

/-- The rules of a family, the first that applies being decisive. -/
def ScopeRule.forFamily : Family → List ScopeRule
  | .v4 => [⟨Address.isUnspecified, .host⟩, ⟨Address.isLoopback, .link⟩,
      ⟨Address.isLinkLocal, .link⟩]
  | .v6 => [⟨Address.isUnspecified, .host⟩, ⟨Address.isLoopback, .link⟩,
      ⟨Address.isLinkLocal, .link⟩, ⟨Address.isSiteLocal, .site⟩]

/-- The scope that a list of rules gives an address; universal if none applies. -/
def ScopeRule.classify (rules : List ScopeRule) (address : Address) : Scope :=
  ((rules.find? fun rule => rule.applies address).map ScopeRule.scope).getD .universal

/-- The scope of an address whose scope was not given. -/
def Address.scope (address : Address) : Scope :=
  ScopeRule.classify (ScopeRule.forFamily address.family) address

end InterfaceAddress
