import SqlStyle.Check.Suite

/-! # Registries of checks

A registry is a suite of checks in the order in which they run, at most one per rule. A check that
fills the parse cache has to be registered before the checks that look at syntax trees. -/

namespace SqlStyle

/-- Why a check is not registered, or not removed. -/
inductive RegistryError where
  | alreadyRegistered (rule : Rule)
  /-- The check would fill the cache after checks that need it. -/
  | tooLate (rule : Rule) (after : List Rule)
  | notRegistered (rule : Rule)
deriving Repr, DecidableEq

def RegistryError.message : RegistryError → String
  | alreadyRegistered rule =>
    s!"Check for rule {rule.name} is already registered. Unregister the existing check first."
  | tooLate rule after =>
    let names := ", ".intercalate (after.map Rule.name)
    s!"Check {rule.name} fills the parse cache and must be registered before {names}."
  | notRegistered rule => s!"Rule {rule.name} is not registered."

structure Registry where
  /-- The checks in the order in which they were registered. -/
  checks : List Check := []

namespace Registry

/-- The rules that have a check, in order. -/
def rules (r : Registry) : List Rule := r.checks.map Check.rule

def get? (r : Registry) (rule : Rule) : Option Check := r.checks.find? (·.rule == rule)

def contains (r : Registry) (rule : Rule) : Bool := r.rules.contains rule

/-- The rules whose checks look at syntax trees, in order. -/
def treeRules (r : Registry) : List Rule := (r.checks.filter (·.requiresTree)).map Check.rule

/-- Adds a check at the end. -/
def register (r : Registry) (c : Check) : Except RegistryError Registry :=
  if r.contains c.rule then .error (.alreadyRegistered c.rule)
  else if c.fillsCache && !r.treeRules.isEmpty then .error (.tooLate c.rule r.treeRules)
  else .ok ⟨r.checks ++ [c]⟩

/-- Removes the check of a rule. -/
def unregister (r : Registry) (rule : Rule) : Except RegistryError Registry :=
  if r.contains rule then .ok ⟨r.checks.filter (·.rule != rule)⟩ else .error (.notRegistered rule)

/-- Registers checks one after the other. -/
def ofChecks (checks : List Check) : Except RegistryError Registry := checks.foldlM register {}

/-- The complete suite of built-in checks. -/
def builtin : Registry := ⟨Check.builtin⟩

/-- The built-in checks that look at syntax trees. -/
def treeDependent : Registry := ⟨Check.treeDependent⟩

end Registry

end SqlStyle
